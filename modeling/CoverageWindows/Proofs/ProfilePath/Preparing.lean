import CoverageWindows.Proofs.Collector.Making
import CoverageWindows.Proofs.ProfilePath.Tokens

/-!
# Paths that were prepared

A requested path loses its tokens `%c` and gets a module token, if it has none then: in its file
name, before the last dot or at the end.  It comes out changed exactly if it had a token `%c` or no
module token.  Where taking `%c` out brings a new one up, the prepared path has it still, and comes
out changed again when it is prepared once more.

Main results:

- Theorem `exists_withToken`: where a module token is put into a path.
- Theorem `changed_prepare`: which paths come out changed.
- Theorem `path_for_windows`: a prepared path, told by the requested one.
- Theorem `token_left_over`: which prepared paths have a token `%c`.
-/

namespace CoverageWindows
namespace ProfilePath

/-! ## Where a module token is put -/

/-- A path cut behind its last separator, of either kind. -/
structure IsCut (path folder name : List Char) : Prop where
  whole : path = folder ++ name
  plain : ∀ c ∈ name, c ≠ '/' ∧ c ≠ '\\'
  separator : ∀ c ∈ folder.getLast?, c = '/' ∨ c = '\\'

/-- A file name with `%m` put into it once: right before its last dot, or at the end if that dot is
its first character or there is none. -/
def IsMarked (name marked : List Char) : Prop :=
  (∃ stem extension, stem ≠ [] ∧ '.' ∉ extension ∧ name = stem ++ '.' :: extension ∧
      marked = stem ++ ['%', 'm'] ++ '.' :: extension) ∨
    ('.' ∉ name.tail ∧ marked = name ++ ['%', 'm'])

/-- A path is cut before its last name. -/
theorem isCut_cutName (path : List Char) : IsCut path (cutName path).1 (cutName path).2 where
  whole := by
    rw [cutName, ← List.reverse_append, List.takeWhile_append_dropWhile, List.reverse_reverse]
  plain c hc := by
    rw [cutName, List.mem_reverse] at hc
    simpa [isSeparator, not_or] using List.mem_takeWhile_imp hc
  separator c hc := by
    rw [cutName, List.getLast?_reverse, Option.mem_def] at hc
    have hfirst := List.head?_dropWhile_not (fun c => !isSeparator c) path.reverse
    rw [hc] at hfirst
    simpa [isSeparator, or_iff_not_imp_left] using hfirst

theorem nameWithToken_of_notMem {name : List Char} (h : '.' ∉ name) :
    nameWithToken name = name ++ moduleToken := by
  have htail : name.reverse.takeWhile (fun c => c != '.') = name.reverse := by
    refine List.takeWhile_eq_self_iff.2 fun c hc => ?_
    rw [bne_iff_ne]
    rintro rfl
    exact h (List.mem_reverse.1 hc)
  have hshort : ¬name.length + 1 < name.length := by omega
  simp [nameWithToken, htail, hshort]

/-- The token stands before the last extension, unless the name would begin with it. -/
theorem nameWithToken_append (stem : List Char) {extension : List Char} (h : '.' ∉ extension) :
    nameWithToken (stem ++ '.' :: extension) =
      if stem = [] then stem ++ '.' :: extension ++ moduleToken
      else stem ++ moduleToken ++ '.' :: extension := by
  have htail : (stem ++ '.' :: extension).reverse.takeWhile (fun c => c != '.') =
      extension.reverse := by
    have hplain : ∀ c ∈ extension.reverse, (c != '.') = true := by
      intro c hc
      rw [bne_iff_ne]
      rintro rfl
      exact h (List.mem_reverse.1 hc)
    rw [List.reverse_append, List.reverse_cons, List.append_assoc,
      List.takeWhile_append_of_pos hplain]
    simp
  have hlength : (stem ++ '.' :: extension).length = stem.length + (extension.length + 1) := by
    rw [List.length_append, List.length_cons]
  have htake : (stem ++ '.' :: extension).take
      ((stem ++ '.' :: extension).length - (extension.length + 1)) = stem := by
    rw [hlength, Nat.add_sub_cancel, List.take_left]
  have hlong : extension.length + 1 < (stem ++ '.' :: extension).length ↔ stem ≠ [] := by
    rw [hlength, ← List.length_pos_iff]
    omega
  rw [nameWithToken, htail, List.reverse_reverse]
  simp only [htake, hlong]
  by_cases hstem : stem = [] <;> simp [hstem]

/-- A name gets its token in the one right place. -/
theorem isMarked_nameWithToken (name : List Char) : IsMarked name (nameWithToken name) := by
  by_cases hdot : '.' ∈ name
  · -- the last dot is the first one from behind
    rcases List.eq_append_cons_of_mem (List.mem_reverse.2 hdot) with ⟨a, b, hsplit, ha⟩
    have hname : name = b.reverse ++ '.' :: a.reverse := by
      rw [← name.reverse_reverse, hsplit]
      simp
    have hplain : '.' ∉ a.reverse := fun h => ha (List.mem_reverse.1 h)
    rw [hname, nameWithToken_append _ hplain]
    by_cases hstem : b.reverse = []
    · rw [if_pos hstem, hstem]
      exact .inr ⟨hplain, rfl⟩
    · rw [if_neg hstem]
      exact .inl ⟨_, _, hstem, hplain, rfl, rfl⟩
  · refine .inr ⟨fun htail => hdot (List.mem_of_mem_tail htail), ?_⟩
    exact nameWithToken_of_notMem hdot

/-- A module token is put into the file name. -/
theorem exists_withToken (path : List Char) :
    ∃ folder name marked, IsCut path folder name ∧ IsMarked name marked ∧
      withToken path = folder ++ marked :=
  ⟨_, _, _, isCut_cutName path, isMarked_nameWithToken _, rfl⟩

/-! ## What is changed -/

/-- A prepared path has no continuous mode, and has a token, its own or one that is added. -/
theorem prepare_path (s : List Char) :
    (prepare s).path = if hasModuleToken (withoutContinuous s) = true then withoutContinuous s
      else withToken (withoutContinuous s) := rfl

/-- The continuous mode is told just if the path asks for it. -/
theorem continuous_prepare (s : List Char) :
    (prepare s).continuous = true ↔ continuousToken <:+: s := by
  rw [prepare, bne_iff_ne]
  constructor
  · intro hlength
    by_contra h
    exact hlength (congrArg List.length (withoutContinuous_eq_self h))
  · intro h
    exact Nat.ne_of_lt (length_withoutContinuous_lt h)

/-- A path comes out changed exactly if it had a token `%c` or no module token. -/
theorem changed_prepare (s : List Char) :
    (prepare s).changed = true ↔ continuousToken <:+: s ∨ hasModuleToken s = false := by
  have hchanged : (prepare s).changed = true ↔ (prepare s).path ≠ s := bne_iff_ne
  rw [hchanged]
  by_cases htoken : hasModuleToken s = true
  · -- the module token is there when `%c` is out, so nothing is put in
    have hkept : hasModuleToken (withoutContinuous s) = true := by
      rw [hasModuleToken_iff] at htoken ⊢
      rcases htoken with ⟨t, ht, hin⟩
      exact ⟨t, ht, ht.infix_withoutContinuous hin⟩
    rw [prepare_path, if_pos hkept, htoken]
    constructor
    · intro hne
      by_contra h
      exact hne (withoutContinuous_eq_self fun hin => h (.inl hin))
    · rintro (hin | hfalse)
      · intro heq
        have hlt := length_withoutContinuous_lt hin
        rw [heq] at hlt
        exact Nat.lt_irrefl _ hlt
      · cases hfalse
  · rw [Bool.not_eq_true] at htoken
    refine iff_of_true (fun heq => ?_) (.inr htoken)
    have hpath := hasModuleToken_prepare s
    rw [heq, htoken] at hpath
    cases hpath

/-! ## Tokens that are left over -/

/-- A token `%c` in two texts together is in one of them, unless it stands where they meet. -/
theorem infix_append_iff (a : List Char) {b : List Char} (hb : b.head? ≠ some 'c') :
    continuousToken <:+: a ++ b ↔ continuousToken <:+: a ∨ continuousToken <:+: b := by
  induction a with
  | nil => simp [continuousToken]
  | cons c a ih =>
      have hhead : continuousToken <+: c :: (a ++ b) ↔ continuousToken <+: c :: a := by
        cases a with
        | nil =>
            cases b with
            | nil => rfl
            | cons d b =>
                rw [List.nil_append, prefix_continuousToken_iff]
                refine iff_of_false ?_ (by simp [continuousToken, List.cons_prefix_cons])
                rintro ⟨-, rfl⟩
                exact hb rfl
        | cons d a =>
            rw [List.cons_append, prefix_continuousToken_iff, prefix_continuousToken_iff]
      rw [List.cons_append, List.infix_cons_iff, List.infix_cons_iff, hhead, ih, or_assoc]

/-- Putting a module token in does not bring a token `%c` up. -/
theorem infix_withToken_iff (path : List Char) :
    continuousToken <:+: withToken path ↔ continuousToken <:+: path := by
  have hplain : ∀ a b : List Char, b.head? ≠ some 'c' →
      (continuousToken <:+: a ++ (['%', 'm'] ++ b) ↔ continuousToken <:+: a ++ b) := by
    intro a b hb
    have htoken : continuousToken <:+: ['%', 'm'] ++ b ↔ continuousToken <:+: b := by
      rw [infix_append_iff _ hb]
      simp [continuousToken, List.infix_cons_iff, List.cons_prefix_cons]
    rw [infix_append_iff a (by simp), infix_append_iff a hb, htoken]
  rcases exists_withToken path with ⟨folder, name, marked, hcut, hmarked, hpath⟩
  rw [hpath, hcut.whole]
  rcases hmarked with ⟨stem, extension, -, -, rfl, rfl⟩ | ⟨-, rfl⟩
  · have hdot := hplain (folder ++ stem) ('.' :: extension) (by simp)
    simpa using hdot
  · have hend := hplain (folder ++ name) [] (by simp)
    simpa using hend

/-- A prepared path has a token `%c` exactly if one came up when such tokens were taken out. -/
theorem infix_prepare_iff (s : List Char) :
    continuousToken <:+: (prepare s).path ↔ continuousToken <:+: withoutContinuous s := by
  rw [prepare_path]
  split
  · rfl
  · exact infix_withToken_iff _

/-! ## Requests for mapped files -/

/-- Where a path had to be changed, no image of the collector goes on writing through a mapped
file. -/
theorem pageSize_of_changed {σ : Type} {b : Backend σ} {r : CollectorRequest} {p p' : Program}
    {x x' : σ} {c : Collector σ} (h : Collector.create b r p x = (.ok c, p', x'))
    {requested : String} (hrequested : Collector.requestedPath r p = .ok requested)
    (hchanged : (prepare requested.toList).changed = true) {n : Nat} (hn : n ∈ r.images)
    {i : Image} (hi : p'.images[n]? = some i) : i.pageSize = 0 := by
  obtain ⟨requested', d, t, files, baseline, hrequested', -, -, -, rfl, -⟩ :=
    Collector.create_ok_cases h
  obtain rfl : requested = requested' := Except.ok.inj (hrequested.symm.trans hrequested')
  rw [Collector.settled, Collector.getElem?_settle] at hi
  rcases Option.map_eq_some_iff.1 hi with ⟨old, -, rfl⟩
  exact if_pos ⟨hn, hchanged⟩

/-- What is left of a requested path without the tokens `%c`, taken out from left to right, is the
pieces between them, one behind the other.  The prepared path has a module token.  It is what is
left, if that has one; else `%m` is put into the file name of what is left, and the folder stays as
it is.  The path counts as continuous exactly if a token `%c` was requested, and as changed exactly
if it is continuous or no module token was requested; and no image of a collector that is made for a
continuous path goes on writing through a mapped file. -/
theorem path_for_windows (s : List Char) :
    (∃ pieces, pieces ≠ [] ∧ s = continuousToken.intercalate pieces ∧
        (∀ x ∈ pieces, ¬continuousToken <:+: x) ∧ withoutContinuous s = pieces.flatten) ∧
      (∃ t, IsModuleToken t ∧ t <:+: (prepare s).path) ∧
      ((∃ t, IsModuleToken t ∧ t <:+: withoutContinuous s) →
        (prepare s).path = withoutContinuous s) ∧
      ((¬∃ t, IsModuleToken t ∧ t <:+: withoutContinuous s) →
        ∃ folder name marked, IsCut (withoutContinuous s) folder name ∧ IsMarked name marked ∧
          (prepare s).path = folder ++ marked) ∧
      ((prepare s).continuous = true ↔ continuousToken <:+: s) ∧
      ((prepare s).changed = true ↔
        continuousToken <:+: s ∨ ¬∃ t, IsModuleToken t ∧ t <:+: s) ∧
      ((prepare s).continuous = true → (prepare s).changed = true ∧
        ∀ {σ : Type} (b : Backend σ) (r : CollectorRequest) (p p' : Program) (x x' : σ)
          (c : Collector σ), Collector.create b r p x = (.ok c, p', x') →
          Collector.requestedPath r p = .ok (String.ofList s) →
          ∀ n ∈ r.images, ∀ i : Image, p'.images[n]? = some i → i.pageSize = 0) := by
  have hchanged : (prepare s).changed = true ↔
      continuousToken <:+: s ∨ ¬∃ t, IsModuleToken t ∧ t <:+: s := by
    rw [changed_prepare, ← hasModuleToken_iff, Bool.not_eq_true]
  refine ⟨exists_pieces s, ?_, ?_, ?_, continuous_prepare s, hchanged, ?_⟩
  · exact (hasModuleToken_iff _).1 (hasModuleToken_prepare s)
  · intro htoken
    rw [prepare_path, if_pos ((hasModuleToken_iff _).2 htoken)]
  · intro hnone
    rw [prepare_path, if_neg fun h => hnone ((hasModuleToken_iff _).1 h)]
    exact exists_withToken _
  · intro hcontinuous
    have hdiffers := hchanged.2 (.inl ((continuous_prepare s).1 hcontinuous))
    refine ⟨hdiffers, ?_⟩
    intro σ b r p p' x x' c hcreate hrequested n hn i hi
    refine pageSize_of_changed hcreate hrequested ?_ hn hi
    rw [String.toList_ofList]
    exact hdiffers

/-- The image of a small program, for which a path with `%c` was requested, does not go on writing
through a mapped file. -/
theorem path_for_windows_mapped :
    (prepare "cov%c.profraw".toList).continuous = true ∧
      (prepare "cov%c.profraw".toList).changed = true ∧
      ∃ c p' x', Collector.create (Sample.backend none) Sample.mappedRequest Sample.program 0 =
          (.ok c, p', x') ∧
        ∃ i, p'.images[0]? = some i ∧ i.pageSize = 0 := by
  obtain ⟨-, -, -, -, hcontinuous, -, hstops⟩ := path_for_windows "cov%c.profraw".toList
  have hasked : (prepare "cov%c.profraw".toList).continuous = true :=
    hcontinuous.2 ⟨"cov".toList, ".profraw".toList, by decide⟩
  rcases Sample.exists_create_mapped with ⟨c, p', x', hcreate, -⟩
  have himage : ∃ i, p'.images[0]? = some i := by
    obtain ⟨requested, d, t, files, baseline, -, -, -, -, rfl, -⟩ :=
      Collector.create_ok_cases hcreate
    rw [Collector.settled, Collector.getElem?_settle]
    exact ⟨_, rfl⟩
  rcases himage with ⟨i, hi⟩
  have hrequested : Collector.requestedPath Sample.mappedRequest Sample.program =
      .ok (String.ofList "cov%c.profraw".toList) := by
    rw [String.ofList_toList]
    rfl
  obtain ⟨hchanged, hpageSize⟩ := hstops hasked
  exact ⟨hasked, hchanged, c, p', x', hcreate, i, hi,
    hpageSize _ _ _ _ _ _ _ hcreate hrequested 0 (by decide) i hi⟩

/-- A prepared path has a token `%c` exactly where the requested one had a percent sign and a `c`
with such tokens between them and nothing else.  Preparing a prepared path again leaves it as it is,
and says so, exactly if it has no token `%c`; else it comes out changed once more, and counts as
continuous. -/
theorem token_left_over (s : List Char) :
    (continuousToken <:+: (prepare s).path ↔ ∃ n, nested (n + 1) <:+: s) ∧
      (prepare (prepare s).path = ⟨(prepare s).path, false, false⟩ ↔
        ¬continuousToken <:+: (prepare s).path) ∧
      (continuousToken <:+: (prepare s).path →
        (prepare (prepare s).path).path ≠ (prepare s).path ∧
          (prepare (prepare s).path).changed = true ∧
          (prepare (prepare s).path).continuous = true) := by
  have hagain : continuousToken <:+: (prepare s).path →
      (prepare (prepare s).path).changed = true ∧
        (prepare (prepare s).path).continuous = true := fun h =>
    ⟨(changed_prepare _).2 (.inl h), (continuous_prepare _).2 h⟩
  refine ⟨(infix_prepare_iff s).trans (infix_withoutContinuous_iff s), ⟨?_, ?_⟩, ?_⟩
  · intro hsame h
    have hchanged := (hagain h).1
    rw [hsame] at hchanged
    cases hchanged
  · intro h
    exact prepare_of_hasModuleToken (hasModuleToken_prepare _) (withoutContinuous_eq_self h)
  · intro h
    exact ⟨bne_iff_ne.1 (hagain h).1, hagain h⟩

/-- A token `%c` that comes up when another one is taken out from inside it stays in the prepared
path, which comes out changed when it is prepared again. -/
theorem token_comes_up :
    (prepare "cov%%cc.profraw".toList).path = "cov%c%m.profraw".toList ∧
      continuousToken <:+: (prepare "cov%%cc.profraw".toList).path ∧
      prepare (prepare "cov%%cc.profraw".toList).path = ⟨"cov%m.profraw".toList, true, true⟩ :=
  ⟨by decide, ⟨"cov".toList, "%m.profraw".toList, by decide⟩, by decide⟩

end ProfilePath
end CoverageWindows
