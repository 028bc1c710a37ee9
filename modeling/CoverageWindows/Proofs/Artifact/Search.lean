import CoverageWindows.Artifact
import CoverageWindows.Proofs.Files.Folders
import CoverageWindows.Proofs.Files.Parent
import CoverageWindows.Proofs.Text.Lossy

/-!
# The artifact that is found for a path

A path asks for files in its folder whose names begin like its own name, up to the first percent
sign.  The artifact is the least path of such a file, byte by byte.  There is none only if the path
has no name or its name begins with a token, if the folder is not there, or if no file of the folder
comes into question.

Names are compared as text and paths as bytes.  The two meet in the names of candidates: such a name
begins with a character of a file name, hence not with a slash, and its path is that of the folder
and the name behind it.

Main results:

- Theorem `isArtifactName_iff`: the names that come into question.
- Theorem `find_cases`: an artifact is chosen, or there is a reason for none.
- Theorem `artifact_of_path`: which artifact is found for a path, and when there is none.
-/

namespace CoverageWindows
namespace Artifact

/-! ## The order of bytes -/

/-- The order in which names are compared is the lexicographic one of their bytes. -/
theorem atMost_iff {a b : Bytes} : atMost a b = true ↔ a ≤ b := by
  induction a generalizing b with
  | nil => simp [atMost]
  | cons x a ih =>
      cases b with
      | nil => simp [atMost]
      | cons y b => simp [atMost, List.cons_le_cons_iff, ih]

theorem least?_eq_none_iff {l : List Bytes} : least? l = none ↔ l = [] := by
  cases l with
  | nil => simp [least?]
  | cons n l =>
      rw [least?]
      cases least? l with
      | none => simp
      | some m => by_cases hle : atMost n m <;> simp [hle]

/-- The least name of a list is one of the list, and no name of the list is less. -/
theorem least?_spec {l : List Bytes} {m : Bytes} (h : least? l = some m) :
    m ∈ l ∧ ∀ n ∈ l, m ≤ n := by
  induction l generalizing m with
  | nil => cases h
  | cons n l ih =>
      rw [least?] at h
      cases hleast : least? l with
      | none =>
          rw [hleast] at h
          obtain rfl := Option.some.inj h
          rw [least?_eq_none_iff] at hleast
          simp [hleast]
      | some k =>
          obtain ⟨hk, hle⟩ := ih hleast
          simp only [hleast] at h
          split at h
          · rename_i hnk
            obtain rfl := Option.some.inj h
            rw [atMost_iff] at hnk
            exact ⟨List.mem_cons_self,
              List.forall_mem_cons.2 ⟨List.le_refl n, fun x hx => List.le_trans hnk (hle x hx)⟩⟩
          · rename_i hnk
            obtain rfl := Option.some.inj h
            rw [atMost_iff] at hnk
            have hkn : k ≤ n := (List.le_total k n).resolve_right hnk
            exact ⟨List.mem_cons_of_mem n hk, List.forall_mem_cons.2 ⟨hkn, hle⟩⟩

/-! ## Names -/

/-- What stands in front of the first `d` of a list. -/
theorem takeWhile_ne_eq_iff {α : Type} [DecidableEq α] {d : α} {l front : List α} :
    l.takeWhile (· != d) = front ↔ d ∉ front ∧ (l = front ∨ ∃ rest, l = front ++ d :: rest) := by
  induction l generalizing front with
  | nil => cases front <;> simp
  | cons x l ih =>
      by_cases hx : x = d
      · subst hx
        cases front with
        | nil => simp
        | cons y front => simp +contextual [eq_comm]
      · cases front with
        | nil => simp [hx]
        | cons y front =>
            simp only [List.takeWhile_cons, bne_iff_ne.2 hx, if_true, List.cons.injEq, ih,
              List.mem_cons, List.cons_append]
            grind

/-- The characters of a name before its first percent sign. -/
structure IsLiteralStart (start name : List Char) : Prop where
  noPercent : '%' ∉ start
  start_or_percent : name = start ∨ ∃ rest, name = start ++ '%' :: rest

/-- A name has one literal start, the one that is computed. -/
theorem isLiteralStart_iff {start name : List Char} :
    IsLiteralStart start name ↔ literalStart name = start := by
  rw [literalStart, takeWhile_ne_eq_iff]
  exact ⟨fun h => ⟨h.1, h.2⟩, fun h => ⟨h.1, h.2⟩⟩

theorem IsLiteralStart.isPrefix {start name : List Char} (h : IsLiteralStart start name) :
    start <+: name := by
  rcases h.start_or_percent with rfl | ⟨rest, rfl⟩
  · exact List.prefix_rfl
  · exact List.prefix_append _ _

theorem isLiteralStart_literalStart (name : List Char) : IsLiteralStart (literalStart name) name :=
  isLiteralStart_iff.2 rfl

/-- What follows the last `d` of a list. -/
theorem afterLastDot?_eq_some_iff {d : Char} {name e : List Char} :
    Path.afterLastDot? d name = some e ↔ d ∉ e ∧ ∃ stem, name = stem ++ d :: e := by
  -- Seen from behind, it is what stands in front of the first `d`.
  have hreverse : name.reverse.takeWhile (· != d) = e.reverse ↔
      d ∉ e ∧ (name = e ∨ ∃ stem, name = stem ++ d :: e) := by
    have hconcat : ∀ rest,
        name.reverse = e.reverse ++ d :: rest ↔ name = rest.reverse ++ d :: e := by
      intro rest
      rw [← List.reverse_inj]
      simp
    rw [takeWhile_ne_eq_iff, List.mem_reverse, List.reverse_inj]
    simp only [hconcat]
    refine and_congr_right fun _ => or_congr_right ⟨?_, ?_⟩
    · exact fun ⟨rest, h⟩ => ⟨rest.reverse, h⟩
    · exact fun ⟨stem, h⟩ => ⟨stem.reverse, by rwa [List.reverse_reverse]⟩
  rw [Path.afterLastDot?]
  constructor
  · intro h
    obtain ⟨hlen, heq⟩ := Option.ite_none_right_eq_some.1 h
    have htail := List.reverse_eq_iff.1 (Option.some.inj heq)
    obtain ⟨hd, hname | hstem⟩ := hreverse.1 htail
    · rw [htail, hname] at hlen
      simp at hlen
    · exact ⟨hd, hstem⟩
  · rintro ⟨hd, stem, rfl⟩
    rw [hreverse.2 ⟨hd, .inr ⟨stem, rfl⟩⟩]
    simp
    omega

/-- An extension stands behind a dot, with something in front of it. -/
theorem hasExtension_iff {name extension : List Char} (hdot : '.' ∉ extension) :
    hasExtension name extension = true ↔ ∃ stem, stem ≠ [] ∧ name = stem ++ '.' :: extension := by
  rw [hasExtension]
  constructor
  · intro h
    split at h
    · rename_i e he
      obtain ⟨-, stem, rfl⟩ := afterLastDot?_eq_some_iff.1 he
      simp only [Bool.and_eq_true, beq_iff_eq, decide_eq_true_eq] at h
      obtain ⟨rfl, hlen⟩ := h
      refine ⟨stem, ?_, rfl⟩
      rintro rfl
      simp at hlen
    · cases h
  · rintro ⟨stem, hstem, rfl⟩
    rw [afterLastDot?_eq_some_iff.2 ⟨hdot, stem, rfl⟩]
    have hpos : 0 < stem.length := List.length_pos_iff.2 hstem
    simp
    omega

/-- A name, read as text, is that of a profile that begins with `start`. -/
structure IsProfileName (start name : List Char) : Prop where
  visible : name.head? ≠ some '.'
  extension : ∃ stem, stem ≠ [] ∧ name = stem ++ '.' :: profileExtension
  begins : start <+: name

theorem isArtifactName_iff {start name : List Char} :
    isArtifactName start name = true ↔ IsProfileName start name := by
  simp only [isArtifactName, Bool.and_eq_true, bne_iff_ne, List.isPrefixOf_iff_prefix,
    hasExtension_iff (show '.' ∉ profileExtension by decide)]
  exact ⟨fun h => ⟨h.1.1, h.1.2, h.2⟩, fun h => ⟨⟨h.1, h.2⟩, h.3⟩⟩

/-! ## Candidates -/

/-- A path asks for names that begin with `start`: the characters of its own name before the first
percent sign, of which there is one. -/
structure Asks (path : Bytes) (start : List Char) : Prop where
  name : ∃ own, Path.fileName? path = some own ∧ IsLiteralStart start (Text.lossy own).toList
  ne_nil : start ≠ []

/-- A name in a folder comes into question: it stands for a file, and is that of a profile. -/
structure Candidate (t : FileTree) (folder : Bytes) (start : List Char) (name : Bytes) : Prop where
  file : ∃ place content, t.locate .look folder = .ok (.there place .folder) ∧
    (place ++ [name], Node.file content) ∈ t.entries
  profile : IsProfileName start (Text.lossy name).toList

/-- The names of the candidates in a listing. -/
def names (start : List Char) (es : List (Bytes × Node)) : List Bytes :=
  (es.filter (isArtifact start)).map Prod.fst

variable {t : FileTree} {path folder name : Bytes} {place : Place} {start : List Char}

/-- The candidates are the names that are found in the folder. -/
theorem candidate_iff (hfolder : t.locate .look folder = .ok (.there place .folder)) :
    Candidate t folder start name ↔ name ∈ names start (t.children place) := by
  simp only [names, List.mem_map, List.mem_filter, isArtifact_iff, isArtifactName_iff]
  constructor
  · rintro ⟨⟨place', content, hfolder', hmem⟩, hprofile⟩
    obtain rfl : place = place' := by
      rw [hfolder] at hfolder'
      cases hfolder'
      rfl
    exact ⟨_, ⟨FileTree.mem_children_iff.2 hmem, ⟨content, rfl⟩, hprofile⟩, rfl⟩
  · rintro ⟨⟨_, _⟩, ⟨hmem, ⟨content, rfl⟩, hprofile⟩, rfl⟩
    exact ⟨⟨place, content, hfolder, FileTree.mem_children_iff.1 hmem⟩, hprofile⟩

/-- A path asks for one start only. -/
theorem Asks.eq {start' : List Char} (h : Asks path start) (h' : Asks path start') :
    start = start' := by
  obtain ⟨own, hown, hstart⟩ := h.name
  obtain ⟨own', hown', hstart'⟩ := h'.name
  obtain rfl : own = own' := Option.some.inj (hown.symm.trans hown')
  rw [← isLiteralStart_iff.1 hstart, isLiteralStart_iff.1 hstart']

/-- The name of a candidate does not begin at the root: it begins like a file name. -/
theorem Candidate.isAbsolute_eq (h : Candidate t folder start name) (hasks : Asks path start) :
    Path.isAbsolute name = false := by
  obtain ⟨own, hown, hstart⟩ := hasks.name
  rw [Bool.eq_false_iff]
  intro habsolute
  obtain ⟨rest, rfl⟩ : ∃ rest, name = Path.slash :: rest := by
    cases name with
    | nil => cases habsolute
    | cons b rest =>
        have hb : b = Path.slash := by simpa [Path.isAbsolute] using habsolute
        exact ⟨rest, by rw [hb]⟩
  have hbegins := h.profile.begins
  rw [Text.lossy_cons (by decide)] at hbegins
  obtain ⟨c, tail, rfl⟩ := List.exists_cons_of_ne_nil hasks.ne_nil
  obtain ⟨rfl, -⟩ := List.cons_prefix_cons.1 hbegins
  have hmem : '/' ∈ (Text.lossy own).toList := hstart.isPrefix.subset List.mem_cons_self
  have hslash : Path.slash ∈ own := Text.Ordinary.mem_of_mem_lossy ⟨by decide, by decide⟩ hmem
  exact Path.slash_notMem_fileName hown hslash

/-! ## Paths of candidates -/

/-- Relative names are put behind a folder with one front. -/
theorem inside_le_inside {a b : Bytes} (ha : Path.isAbsolute a = false)
    (hb : Path.isAbsolute b = false) (hle : a ≤ b) :
    Path.inside folder a ≤ Path.inside folder b := by
  rw [Path.inside_eq ha, Path.inside_eq hb]
  split
  · exact hle
  · split
    · exact List.append_left_le hle
    · exact List.append_left_le (List.cons_le_cons_iff.2 (.inr ⟨rfl, hle⟩))

/-! ## The search -/

/-- A path without a file name has no artifact. -/
theorem find_of_nameless (h : Path.fileName? path = none) : find t path = .ok none := by
  rw [find, h]

/-- A path whose name begins with a token has no artifact. -/
theorem find_of_token {own : Bytes} (hown : Path.fileName? path = some own)
    (h : IsLiteralStart [] (Text.lossy own).toList) : find t path = .ok none := by
  rw [find, hown]
  simp [isLiteralStart_iff.1 h]

/-- A path whose folder is not there has no artifact. -/
theorem find_of_noFolder (h : t.isFolder (folderOf path) = false) : find t path = .ok none := by
  rw [find]
  cases Path.fileName? path with
  | none => rfl
  | some own => simp [h]

/-- In a folder, the least candidate is found. -/
theorem find_of_folder (hasks : Asks path start)
    (hfolder : t.locate .look (folderOf path) = .ok (.there place .folder)) :
    find t path =
      .ok ((least? (names start (t.children place))).map (Path.inside (folderOf path))) := by
  obtain ⟨own, hown, hstart⟩ := hasks.name
  have hthere : t.isFolder (folderOf path) = true := FileTree.isFolder_iff.2 ⟨place, hfolder⟩
  have hlist : t.list (folderOf path) = .ok (t.children place) :=
    FileTree.list_eq_ok_iff.2 ⟨place, hfolder, rfl⟩
  rw [find, hown]
  simp [isLiteralStart_iff.1 hstart, hasks.ne_nil, hthere, hlist, names, bind, Except.bind, pure,
    Except.pure]

/-- A path is chosen: it is that of a candidate, and no candidate has a lesser one. -/
structure Chosen (t : FileTree) (path q : Bytes) : Prop where
  candidate : ∃ start name, Asks path start ∧ Candidate t (folderOf path) start name ∧
    q = Path.inside (folderOf path) name
  le : ∀ start name, Asks path start → Candidate t (folderOf path) start name →
    q ≤ Path.inside (folderOf path) name

/-- Why there is no artifact for a path. -/
inductive Missing (t : FileTree) (path : Bytes) : Prop
  | nameless (h : Path.fileName? path = none)
  | token (own : Bytes) (hown : Path.fileName? path = some own)
      (h : IsLiteralStart [] (Text.lossy own).toList)
  | noFolder (h : t.isFolder (folderOf path) = false)
  | noCandidate (start : List Char) (hasks : Asks path start)
      (h : ∀ name, ¬Candidate t (folderOf path) start name)

/-- At most one artifact is chosen. -/
theorem Chosen.eq {q q' : Bytes} (h : Chosen t path q) (h' : Chosen t path q') : q = q' := by
  obtain ⟨start, name, hasks, hcandidate, rfl⟩ := h.candidate
  obtain ⟨start', name', hasks', hcandidate', rfl⟩ := h'.candidate
  exact List.le_antisymm (h.le _ _ hasks' hcandidate') (h'.le _ _ hasks hcandidate)

/-- Where there is a reason for none, none is chosen. -/
theorem Missing.not_chosen (h : Missing t path) (q : Bytes) : ¬Chosen t path q := by
  intro hchosen
  obtain ⟨start, name, hasks, hcandidate, -⟩ := hchosen.candidate
  obtain ⟨own, hown, hstart⟩ := hasks.name
  cases h with
  | nameless h => simp [hown] at h
  | token own' hown' h =>
      obtain rfl : own = own' := Option.some.inj (hown.symm.trans hown')
      have hnil : start = [] := by rw [← isLiteralStart_iff.1 hstart, isLiteralStart_iff.1 h]
      exact hasks.ne_nil hnil
  | noFolder h =>
      obtain ⟨place, -, hfolder, -⟩ := hcandidate.file
      rw [FileTree.isFolder_iff.2 ⟨place, hfolder⟩] at h
      cases h
  | noCandidate start' hasks' h =>
      obtain rfl := hasks.eq hasks'
      exact h name hcandidate

/-- The least candidate of a folder is chosen. -/
theorem chosen_of_least (hasks : Asks path start)
    (hfolder : t.locate .look (folderOf path) = .ok (.there place .folder))
    (hleast : least? (names start (t.children place)) = some name) :
    Chosen t path (Path.inside (folderOf path) name) := by
  obtain ⟨hmem, hle⟩ := least?_spec hleast
  have hcandidate := (candidate_iff hfolder).2 hmem
  refine ⟨⟨start, name, hasks, hcandidate, rfl⟩, fun start' other hasks' hother => ?_⟩
  obtain rfl := hasks.eq hasks'
  exact inside_le_inside (hcandidate.isAbsolute_eq hasks) (hother.isAbsolute_eq hasks)
    (hle other ((candidate_iff hfolder).1 hother))

/-- An artifact is chosen, or one of the reasons applies for which there is none. -/
theorem find_cases (t : FileTree) (path : Bytes) :
    (∃ q, find t path = .ok (some q) ∧ Chosen t path q) ∨
      find t path = .ok none ∧ Missing t path := by
  cases hown : Path.fileName? path with
  | none => exact .inr ⟨find_of_nameless hown, .nameless hown⟩
  | some own =>
      have hstart := isLiteralStart_literalStart (Text.lossy own).toList
      by_cases htoken : literalStart (Text.lossy own).toList = []
      · rw [htoken] at hstart
        exact .inr ⟨find_of_token hown hstart, .token own hown hstart⟩
      · have hasks : Asks path (literalStart (Text.lossy own).toList) :=
          ⟨⟨own, hown, hstart⟩, htoken⟩
        cases hthere : t.isFolder (folderOf path) with
        | false => exact .inr ⟨find_of_noFolder hthere, .noFolder hthere⟩
        | true =>
            obtain ⟨place, hfolder⟩ := FileTree.isFolder_iff.1 hthere
            have hfind := find_of_folder hasks hfolder
            cases hleast : least? (names _ (t.children place)) with
            | some name =>
                rw [hleast] at hfind
                exact .inl ⟨_, hfind, chosen_of_least hasks hfolder hleast⟩
            | none =>
                rw [hleast] at hfind
                refine .inr ⟨hfind, .noCandidate _ hasks fun name hcandidate => ?_⟩
                have hmem := (candidate_iff hfolder).1 hcandidate
                rw [least?_eq_none_iff.1 hleast] at hmem
                cases hmem

/-- An artifact is found just if it is the chosen one. -/
theorem find_eq_some_iff {q : Bytes} : find t path = .ok (some q) ↔ Chosen t path q := by
  rcases find_cases t path with ⟨q', hfind, hchosen⟩ | ⟨hfind, hmissing⟩
  · rw [hfind]
    constructor
    · rintro ⟨⟩
      exact hchosen
    · intro h
      rw [hchosen.eq h]
  · rw [hfind]
    exact ⟨nofun, fun h => absurd h (hmissing.not_chosen q)⟩

theorem find_eq_none_iff : find t path = .ok none ↔ Missing t path := by
  rcases find_cases t path with ⟨q, hfind, hchosen⟩ | ⟨hfind, hmissing⟩
  · rw [hfind]
    exact ⟨nofun, fun h => absurd hchosen (h.not_chosen q)⟩
  · rw [hfind]
    exact ⟨fun _ => hmissing, fun _ => rfl⟩

/-! ## Folders and their order -/

/-- The folder of a path that ends in a name is the rest of the path, or the working folder where
nothing is left. -/
theorem folderOf_of_fileName? {own : Bytes} (h : Path.fileName? path = some own) :
    ∃ parent, Path.parent? path = some parent ∧
      Path.components path = Path.components parent ++ [.name own] ∧
      folderOf path = if parent = [] then [Path.dot] else parent := by
  obtain ⟨parent, hparent, hcomponents⟩ := Path.exists_parent? h
  refine ⟨parent, hparent, hcomponents, ?_⟩
  rw [folderOf, hparent]
  simp

/-- The candidates of a folder are the same in whatever order a tree holds its places. -/
theorem candidate_of_perm {es : List (Place × Node)} (hperm : t.entries.Perm es)
    (hnodup : (t.entries.map Prod.fst).Nodup) :
    Candidate { t with entries := es } folder start name ↔ Candidate t folder start name := by
  have hfile : ∀ place content,
      (FileTree.locate { t with entries := es } .look folder = .ok (.there place .folder) ∧
          (place ++ [name], Node.file content) ∈ es) ↔
        t.locate .look folder = .ok (.there place .folder) ∧
          (place ++ [name], Node.file content) ∈ t.entries :=
    fun place content => and_congr (FileTree.locate_of_perm hperm hnodup) hperm.mem_iff.symm
  constructor
  · rintro ⟨⟨place, content, h⟩, hprofile⟩
    exact ⟨⟨place, content, (hfile place content).1 h⟩, hprofile⟩
  · rintro ⟨⟨place, content, h⟩, hprofile⟩
    exact ⟨⟨place, content, (hfile place content).2 h⟩, hprofile⟩

/-- The order in which a tree holds its places has no part in what is found. -/
theorem find_of_perm {es : List (Place × Node)} (hperm : t.entries.Perm es)
    (hnodup : (t.entries.map Prod.fst).Nodup) :
    find { t with entries := es } path = find t path := by
  have hcandidate : ∀ {start name}, Candidate { t with entries := es } (folderOf path) start name ↔
      Candidate t (folderOf path) start name := candidate_of_perm hperm hnodup
  rcases find_cases t path with ⟨q, hfind, hchosen⟩ | ⟨hfind, hmissing⟩
  · obtain ⟨start, name, hasks, hname, hq⟩ := hchosen.candidate
    rw [hfind]
    exact find_eq_some_iff.2 ⟨⟨start, name, hasks, hcandidate.2 hname, hq⟩,
      fun start name hasks h => hchosen.le start name hasks (hcandidate.1 h)⟩
  · rw [hfind]
    refine find_eq_none_iff.2 ?_
    cases hmissing with
    | nameless h => exact .nameless h
    | token own hown h => exact .token own hown h
    | noFolder h =>
        refine .noFolder ?_
        rw [Bool.eq_false_iff, ne_eq, FileTree.isFolder_iff] at h ⊢
        simpa only [FileTree.locate_of_perm hperm hnodup] using h
    | noCandidate start hasks h =>
        exact .noCandidate start hasks fun name => by rw [hcandidate]; exact h name

/-- Which artifact is found for a path: the least path of a candidate in its folder, and none only
for one of the four reasons.  The search never fails, and the order in which the folder is listed
has no part in it. -/
theorem artifact_of_path (t : FileTree) (path : Bytes) :
    (∀ q, find t path = .ok (some q) ↔ Chosen t path q) ∧
      (find t path = .ok none ↔ Missing t path) ∧
      (∀ e, find t path ≠ .error e) ∧
      (∀ own, Path.fileName? path = some own →
        ∃ parent, Path.parent? path = some parent ∧
          Path.components path = Path.components parent ++ [.name own] ∧
          folderOf path = if parent = [] then [Path.dot] else parent) ∧
      ∀ es, t.entries.Perm es → (t.entries.map Prod.fst).Nodup →
        find { t with entries := es } path = find t path := by
  refine ⟨fun q => find_eq_some_iff, find_eq_none_iff, fun e he => ?_,
    fun own => folderOf_of_fileName?, fun es => find_of_perm⟩
  rcases find_cases t path with ⟨q, hfind, -⟩ | ⟨hfind, -⟩ <;> rw [hfind] at he <;> cases he

/-- A link is no candidate, whatever its name; of two files the lesser one is found, although it is
listed last. -/
example :
    find
        ⟨[([Text.toBytes "d"], .folder),
          ([Text.toBytes "d", Text.toBytes "cov-c.profraw"], .file []),
          ([Text.toBytes "d", Text.toBytes "cov-a.profraw"], .link (Text.toBytes "cov-c.profraw")),
          ([Text.toBytes "d", Text.toBytes "cov-b.profraw"], .file [])], []⟩
        (Text.toBytes "/d/cov-%m.profraw") =
      .ok (some (Text.toBytes "/d/cov-b.profraw")) := by
  cbv

end Artifact
end CoverageWindows
