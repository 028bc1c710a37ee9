import CoverageWindows.CommandLine.Run
import CoverageWindows.Proofs.Files.Writes
import CoverageWindows.Proofs.Snapshot.RoundTrip
import Mathlib.Data.List.Perm.Basic

/-!
# Merging files

Merging the files of a list reads them one after the other and adds them up.  Sums do not depend on
the order of their terms or on brackets, and the file that a merge writes is read back as the sum,
so a list of files may as well be merged in stages: some of the files into a new one, which takes
their place in the list.  Whatever the stages were, the last of them writes the same bytes.

Main results:

- Theorem `Snapshot.count?_total`: the sum of snapshots gives each span the sum of their counts.
- Theorems `Snapshot.total_perm` and `Snapshot.total_append`: the sum of snapshots in any order.
- Theorem `CommandLine.readAll_tree`: the inputs are read in their order, and nothing is written.
- Theorem `CommandLine.merge_in_stages`: merging in stages writes what merging at once writes; an
  input that cannot be used fails the command, which then leaves all files as they were.
-/

namespace CoverageWindows

/-! ## Sums of snapshots -/

namespace Snapshot

/-- The sum of snapshots. -/
def total (ss : List Snapshot) : Snapshot := ss.foldl merge empty

variable {a : Snapshot} {ss ts : List Snapshot}

/-- Merging one snapshot after the other keeps good order. -/
theorem wellKeyed_foldl_merge (ha : a.WellKeyed) (hss : ∀ s ∈ ss, s.WellKeyed) :
    (ss.foldl merge a).WellKeyed := by
  induction ss generalizing a with
  | nil => exact ha
  | cons s ss ih =>
      exact ih (ha.merge (hss s (by simp))) fun u hu => hss u (List.mem_cons_of_mem _ hu)

theorem wellKeyed_total (hss : ∀ s ∈ ss, s.WellKeyed) : (total ss).WellKeyed :=
  wellKeyed_foldl_merge wellKeyed_empty hss

/-- What is merged first may be merged last. -/
theorem foldl_merge_eq (ha : a.WellKeyed) (hss : ∀ s ∈ ss, s.WellKeyed) :
    ss.foldl merge a = a.merge (total ss) := by
  induction ss generalizing a with
  | nil => rfl
  | cons s ss ih =>
      have hs : s.WellKeyed := hss s (by simp)
      have hrest : ∀ u ∈ ss, u.WellKeyed := fun u hu => hss u (List.mem_cons_of_mem _ hu)
      have htotal : total (s :: ss) = s.merge (total ss) := by
        rw [total, List.foldl_cons, empty_merge hs, ih hs hrest]
      calc (s :: ss).foldl merge a
        _ = (a.merge s).merge (total ss) := ih (ha.merge hs) hrest
        _ = a.merge (s.merge (total ss)) := merge_assoc ha hs (wellKeyed_total hrest)
        _ = a.merge (total (s :: ss)) := by rw [htotal]

theorem total_cons {s : Snapshot} (hs : s.WellKeyed) (hss : ∀ u ∈ ss, u.WellKeyed) :
    total (s :: ss) = s.merge (total ss) := by
  rw [total, List.foldl_cons, empty_merge hs, foldl_merge_eq hs hss]

/-- The total of two lists is their totals merged. -/
theorem total_append (hss : ∀ s ∈ ss, s.WellKeyed) (hts : ∀ s ∈ ts, s.WellKeyed) :
    total (ss ++ ts) = (total ss).merge (total ts) := by
  rw [total, List.foldl_append]
  exact foldl_merge_eq (wellKeyed_total hss) hts

/-- The sum of snapshots knows the names that one of them knows. -/
theorem file?_total (hss : ∀ s ∈ ss, s.WellKeyed) (name : String) :
    ((total ss).file? name).isSome ↔ ∃ s ∈ ss, (s.file? name).isSome := by
  induction ss with
  | nil => simp [total, file?, Table.get?, Table.find?, empty, Table.empty]
  | cons s ss ih =>
      have hrest : ∀ u ∈ ss, u.WellKeyed := fun u hu => hss u (List.mem_cons_of_mem _ hu)
      have hs : s.WellKeyed := hss s (by simp)
      rw [total_cons hs hrest, file?_merge hs (wellKeyed_total hrest), Option.isSome_merge,
        Bool.or_eq_true, ih hrest]
      simp

/-- The sum of snapshots gives a span of a file the sum of the counts that they give it, cut off at
the greatest count, and no count where none of them gives one. -/
theorem count?_total (hss : ∀ s ∈ ss, s.WellKeyed) (name : String) (k : Span) :
    (total ss).count? name k = Count.total? (ss.filterMap fun s => s.count? name k) := by
  induction ss with
  | nil => rfl
  | cons s ss ih =>
      have hrest : ∀ u ∈ ss, u.WellKeyed := fun u hu => hss u (List.mem_cons_of_mem _ hu)
      have hs : s.WellKeyed := hss s (by simp)
      rw [total_cons hs hrest, count?_merge hs (wellKeyed_total hrest), ih hrest]
      cases hcount : s.count? name k with
      | none => simp [hcount]
      | some c =>
          simp only [List.filterMap_cons, hcount]
          rw [← List.singleton_append, Count.total?_append, Count.total?_singleton]

/-- The sum of snapshots does not depend on their order. -/
theorem total_perm (h : ss.Perm ts) (hss : ∀ s ∈ ss, s.WellKeyed) : total ss = total ts := by
  have hts : ∀ s ∈ ts, s.WellKeyed := fun s hs => hss s (h.mem_iff.2 hs)
  refine ext_count? (wellKeyed_total hss) (wellKeyed_total hts) ?_ ?_
  · intro name
    rw [Bool.eq_iff_iff, file?_total hss, file?_total hts]
    simp only [h.mem_iff]
  · intro name k
    rw [count?_total hss, count?_total hts, Count.total?_perm (h.filterMap _)]

end Snapshot

/-! ## Snapshots in files -/

/-- The snapshot that a file holds, or a message that says why it holds none. -/
def FileTree.snapshot (t : FileTree) (path : Bytes) : Except String Snapshot :=
  match t.readText path with
  | .error e => .error (CommandLine.aboutFile path e.message)
  | .ok text =>
      (Snapshot.ofDocument text).mapError fun e => CommandLine.aboutFile path (e.message text)

namespace FileTree

variable {t : FileTree} {path content : Bytes} {s : Snapshot}

/-- A snapshot in a file is in good order. -/
theorem wellKeyed_of_snapshot (h : t.snapshot path = .ok s) : s.WellKeyed := by
  rw [snapshot] at h
  cases htext : t.readText path with
  | error e => simp [htext] at h
  | ok text =>
      cases hdoc : Snapshot.ofDocument text with
      | error e =>
          simp only [htext, hdoc] at h
          cases h
      | ok u =>
          simp only [htext, hdoc] at h
          obtain rfl : u = s := Except.ok.inj h
          exact Snapshot.wellKeyed_of_ofDocument hdoc

/-- A file that holds the document of a snapshot holds that snapshot. -/
theorem snapshot_of_read (hs : s.WellKeyed) {l : Json.Layout}
    (h : t.read path = .ok (Text.toBytes (s.document l))) : t.snapshot path = .ok s := by
  have htext : t.readText path = .ok (s.document l) := by
    simp [readText, h, bind, Except.bind]
  simp only [snapshot, htext, Snapshot.ofDocument_document hs]
  rfl

/-- What a file holds depends on its content alone. -/
theorem snapshot_congr {t' : FileTree} (h : t'.read path = t.read path) :
    t'.snapshot path = t.snapshot path := by
  rw [snapshot, snapshot, readText, readText, h]

/-- A file with a snapshot can be read. -/
theorem read_of_snapshot (h : t.snapshot path = .ok s) : ∃ content, t.read path = .ok content := by
  cases hread : t.read path with
  | ok content => exact ⟨content, rfl⟩
  | error e => simp [snapshot, readText, hread, bind, Except.bind] at h

/-- The files of a list hold the snapshots of another one. -/
abbrev Hold (t : FileTree) : List Bytes → List Snapshot → Prop :=
  List.Forall₂ fun path s => t.snapshot path = .ok s

theorem Hold.mapM {inputs : List Bytes} {ss : List Snapshot} (h : t.Hold inputs ss) :
    inputs.mapM t.snapshot = .ok ss := by
  induction h with
  | nil => rfl
  | cons hpath _ ih =>
      rw [List.mapM_cons, hpath, ih]
      rfl

theorem Hold.wellKeyed {inputs : List Bytes} {ss : List Snapshot} (h : t.Hold inputs ss) :
    ∀ s ∈ ss, s.WellKeyed := by
  induction h with
  | nil => simp
  | cons hpath _ ih => exact List.forall_mem_cons.2 ⟨wellKeyed_of_snapshot hpath, ih⟩

/-- Files in another order hold the snapshots in that order. -/
theorem Hold.perm {files files' : List Bytes} {ss : List Snapshot} (h : t.Hold files ss)
    (hperm : files.Perm files') :
    ∃ ss', t.Hold files' ss' ∧ Snapshot.total ss' = Snapshot.total ss := by
  obtain ⟨ss', hold, hss⟩ := List.perm_comp_forall₂ hperm.symm h
  exact ⟨ss', hold, Snapshot.total_perm hss (Hold.wellKeyed hold)⟩

/-- Files in two groups hold their snapshots in two groups. -/
theorem Hold.split {files others : List Bytes} {ss : List Snapshot}
    (h : t.Hold (files ++ others) ss) :
    ∃ ss₁ ss₂, ss = ss₁ ++ ss₂ ∧ t.Hold files ss₁ ∧ t.Hold others ss₂ :=
  ⟨ss.take files.length, ss.drop files.length, (List.take_append_drop _ _).symm,
    (List.forall₂_take_append _ _ _ h.flip).flip, (List.forall₂_drop_append _ _ _ h.flip).flip⟩

/-- A file is made at a free place, and all other files keep their snapshots. -/
theorem Hold.put {files : List Bytes} {ss : List Snapshot} (h : t.Hold files ss) {p : Place}
    (hp : t.node? p = none) (x : Bytes) : (t.put p (.file x)).Hold files ss := by
  refine h.imp fun path s hpath => ?_
  obtain ⟨content, hread⟩ := read_of_snapshot hpath
  rw [snapshot_congr ((read_put_vacant hp hread x).trans hread.symm), hpath]

end FileTree

namespace CommandLine

open FileTree

variable {t : FileTree} {v : Surroundings}

@[simp]
theorem readSnapshot_tree (path : Bytes) (t : FileTree) :
    (readSnapshot FileAccess.tree path).run t = (t.snapshot path, t) := by
  simp only [readSnapshot, StateT.run_bind, FileAccess.tree_readText, snapshot]
  cases t.readText path <;> rfl

/-- The inputs are read in their order, and nothing is written. -/
theorem readAll_tree (merged : Snapshot) (paths : List Bytes) (t : FileTree) :
    (readAll FileAccess.tree merged paths).run t =
      ((paths.mapM t.snapshot).map (·.foldl Snapshot.merge merged), t) := by
  induction paths generalizing merged with
  | nil => rfl
  | cons path rest ih =>
      rw [readAll_cons, StateT.run_bind, readSnapshot_tree, List.mapM_cons]
      cases hpath : t.snapshot path with
      | error e => rfl
      | ok s =>
          refine (ih (merged.absorb s)).trans ?_
          cases rest.mapM t.snapshot <;> rfl

/-- Where not all elements have a value, the first of these ends a run over them. -/
theorem exists_first_error {α β ε : Type} {f : α → Except ε β} {xs : List α}
    (h : ∃ x ∈ xs, ∀ y, f x ≠ .ok y) :
    ∃ before x after e, xs = before ++ x :: after ∧ (∀ b ∈ before, ∃ y, f b = .ok y) ∧
      f x = .error e ∧ xs.mapM f = .error e := by
  induction xs with
  | nil => simp at h
  | cons x xs ih =>
      cases hx : f x with
      | error e =>
          refine ⟨[], x, xs, e, rfl, by simp, hx, ?_⟩
          rw [List.mapM_cons, hx]
          rfl
      | ok y =>
          have hrest : ∃ z ∈ xs, ∀ y, f z ≠ .ok y := by simpa [hx] using h
          obtain ⟨before, z, after, e, rfl, hbefore, hz, hall⟩ := ih hrest
          refine ⟨x :: before, z, after, e, rfl, ?_, hz, ?_⟩
          · exact List.forall_mem_cons.2 ⟨⟨y, hx⟩, hbefore⟩
          · rw [List.mapM_cons, hx, hall]
            rfl

@[simp]
theorem tree_write (path content : Bytes) (t : FileTree) :
    (FileAccess.tree.write path content).run t = FileAccess.changed t (t.write path content) := rfl

/-- The command that merges inputs into an output is over at the first input that cannot be used,
before anything is written. -/
theorem runCommand_merge (v : Surroundings) (inputs : List Bytes) (output : Option Bytes)
    (t : FileTree) :
    (runCommand FileAccess.tree v (.merge inputs output)).run t =
      match inputs.mapM t.snapshot, output with
      | .error why, _ => (.failed ("Error: " ++ why), t)
      | .ok ss, none => (.printed ((Snapshot.total ss).document .indented ++ "\n"), t)
      | .ok ss, some path =>
          match t.write path (Text.toBytes ((Snapshot.total ss).document .indented)) with
          | .error e => (.failed ("Error: " ++ e.message), t)
          | .ok t' => (.printed "", t') := by
  simp only [runCommand, StateT.run_bind, readAll_tree]
  cases hall : inputs.mapM t.snapshot with
  | error why => rfl
  | ok ss =>
      cases output with
      | none => rfl
      | some path =>
          change (FileAccess.tree.write path
            (Text.toBytes ((Snapshot.total ss).document .indented)) >>= _).run t = _
          rw [StateT.run_bind, tree_write]
          cases hwrite : t.write path (Text.toBytes ((Snapshot.total ss).document .indented)) with
          | error e => simp only [hwrite]; rfl
          | ok t' => simp only [hwrite]; rfl

/-! ## Stages -/

/-- One of several merges: what is merged, and the file that it is written to. -/
structure Stage where
  inputs : List Bytes
  output : Bytes
  deriving DecidableEq, Repr

/-- The command of a stage. -/
def Stage.run (v : Surroundings) (s : Stage) : StateM FileTree Outcome :=
  runCommand FileAccess.tree v (.merge s.inputs (some s.output))

/-- Stages that take each file once, in any order, what a stage makes being one of the files for the
stages behind it.  The last files are those that no stage takes. -/
inductive Leaves : List Bytes → List Stage → List Bytes → Prop
  | done {files left} : files.Perm left → Leaves files [] left
  | stage {files others left s stages} :
      files.Perm (s.inputs ++ others) → Leaves (s.output :: others) stages left →
      Leaves files (s :: stages) left

/-- What the stages make are new files, each another one. -/
structure Fresh (t : FileTree) (stages : List Stage) : Prop where
  vacant : ∀ s ∈ stages, ∃ p, t.locate .write s.output = .ok (.vacant p)
  distinct : stages.Pairwise fun s s' => t.locate .write s.output ≠ t.locate .write s'.output

/-- A stage whose inputs can be used and whose output can be written writes the sum. -/
theorem Stage.run_of_hold {s : Stage} {ss : List Snapshot} {t' : FileTree}
    (h : t.Hold s.inputs ss)
    (hwrite : t.write s.output (Text.toBytes ((Snapshot.total ss).document .indented)) = .ok t') :
    (s.run v).run t = (.printed "", t') := by
  rw [Stage.run, runCommand_merge, Hold.mapM h]
  simp only [hwrite]

/-- Writing the output of the first stage leaves the later ones fresh. -/
theorem Fresh.put {s : Stage} {stages : List Stage} (h : Fresh t (s :: stages)) {p}
    (hp : t.locate .write s.output = .ok (.vacant p)) (x : Bytes) :
    Fresh (t.put p (.file x)) stages := by
  have hsame : ∀ s' ∈ stages, (t.put p (.file x)).locate .write s'.output =
      t.locate .write s'.output := by
    intro s' hs'
    obtain ⟨q, hq⟩ := h.vacant s' (List.mem_cons_of_mem _ hs')
    have hne : q ≠ p := by
      rintro rfl
      exact (List.pairwise_cons.1 h.distinct).1 s' hs' (hp.trans hq.symm)
    rw [hq]
    exact locate_put_ne hq (takesFile_of_locate hp rfl) (by simpa [Target.filePlace?] using hne) x
  refine ⟨fun s' hs' => ?_, ?_⟩
  · obtain ⟨q, hq⟩ := h.vacant s' (List.mem_cons_of_mem _ hs')
    exact ⟨q, (hsame s' hs').trans hq⟩
  · refine (List.pairwise_cons.1 h.distinct).2.imp_of_mem ?_
    intro a b ha hb hab
    rwa [hsame a ha, hsame b hb]

/-- After stages, the files that are left hold snapshots of the same sum, and a file that could be
written still can be. -/
theorem hold_of_leaves {files left : List Bytes} {stages : List Stage}
    (hleaves : Leaves files stages left) {ss : List Snapshot} (hfiles : t.Hold files ss)
    (hfresh : Fresh t stages) :
    ∃ t' ss', (stages.mapM (Stage.run v)).run t =
        (List.replicate stages.length (.printed ""), t') ∧
      t'.Hold left ss' ∧ Snapshot.total ss' = Snapshot.total ss ∧
      ∀ path, t.Writable path → t'.Writable path := by
  induction hleaves generalizing t ss with
  | done hperm =>
      obtain ⟨ss', hold, hss⟩ := Hold.perm hfiles hperm
      exact ⟨t, ss', rfl, hold, hss, fun _ h => h⟩
  | @stage files others left s stages hperm _ ih =>
      obtain ⟨ss₀, hold, hss₀⟩ := Hold.perm hfiles hperm
      obtain ⟨p, hp⟩ := hfresh.vacant s (by simp)
      have hfree : t.node? p = none := node?_of_locate hp rfl
      obtain ⟨ss₁, ss₂, rfl, hinputs, hothers⟩ := Hold.split hold
      have hsum := Snapshot.wellKeyed_total (Hold.wellKeyed hinputs)
      let doc := Text.toBytes ((Snapshot.total ss₁).document .indented)
      have hwrite : t.write s.output doc = .ok (t.put p (.file doc)) :=
        write_eq_ok_iff.2 ⟨_, p, hp, rfl, rfl⟩
      -- The file that is made holds the sum of what it stands for.
      have hrest : (t.put p (.file doc)).Hold (s.output :: others) (Snapshot.total ss₁ :: ss₂) :=
        .cons (snapshot_of_read hsum (read_of_write hwrite)) (Hold.put hothers hfree doc)
      obtain ⟨t', ss', hrun, hleft, htotal, hwritable⟩ := ih hrest (hfresh.put hp doc)
      refine ⟨t', ss', ?_, hleft, ?_, fun path h => hwritable path (h.put (.inl hfree) doc)⟩
      · rw [List.mapM_cons, StateT.run_bind, Stage.run_of_hold hinputs hwrite]
        change (stages.mapM (Stage.run v) >>= fun os => pure (_ :: os)).run _ = _
        rw [StateT.run_bind, hrun]
        rfl
      · rw [htotal, Snapshot.total_cons hsum (Hold.wellKeyed hothers), ← hss₀,
          Snapshot.total_append (Hold.wellKeyed hinputs) (Hold.wellKeyed hothers)]

/-- Files that all hold snapshots are merged, at once or in stages, by commands that all succeed.
The bytes that the last command writes do not depend on the stages, and the file is read back as
the sum of all the snapshots.  If some file of a list holds no snapshot, then the command says which
is the first of them, and why; it ends with the code one and leaves all files as they were. -/
theorem merge_in_stages (v : Surroundings) (t : FileTree) :
    (∀ inputs ss, t.Hold inputs ss → ∀ stages last, Leaves inputs stages last → Fresh t stages →
      ∀ output, t.Writable output →
        ∃ t₁ t₂, ((Stage.mk inputs output).run v).run t = (.printed "", t₁) ∧
          ((stages ++ [Stage.mk last output]).mapM (Stage.run v)).run t =
            (List.replicate (stages.length + 1) (.printed ""), t₂) ∧
          t₁.read output = .ok (Text.toBytes ((Snapshot.total ss).document .indented)) ∧
          t₂.read output = t₁.read output ∧ t₁.snapshot output = .ok (Snapshot.total ss)) ∧
    ∀ inputs output, (∃ path ∈ inputs, ∀ s, t.snapshot path ≠ .ok s) →
      ∃ before path after why, inputs = before ++ path :: after ∧
        (∀ p ∈ before, ∃ s, t.snapshot p = .ok s) ∧ t.snapshot path = .error why ∧
        (runCommand FileAccess.tree v (.merge inputs output)).run t =
          (⟨1, "", some ("Error: " ++ why)⟩, t) := by
  constructor
  · intro inputs ss hinputs stages last hleaves hfresh output hout
    obtain ⟨t₁, hwrite₁⟩ :=
      hout.exists_write (Text.toBytes ((Snapshot.total ss).document .indented))
    obtain ⟨t', ss', hrun, hlast, htotal, hwritable⟩ :=
      hold_of_leaves hleaves hinputs hfresh (v := v)
    obtain ⟨t₂, hwrite₂⟩ :=
      (hwritable output hout).exists_write (Text.toBytes ((Snapshot.total ss).document .indented))
    have hread₁ := read_of_write hwrite₁
    refine ⟨t₁, t₂, Stage.run_of_hold hinputs hwrite₁, ?_, hread₁,
      (read_of_write hwrite₂).trans hread₁.symm,
      snapshot_of_read (Snapshot.wellKeyed_total (Hold.wellKeyed hinputs)) hread₁⟩
    have hfinal : ((Stage.mk last output).run v).run t' = (.printed "", t₂) :=
      Stage.run_of_hold hlast (htotal.symm ▸ hwrite₂)
    rw [List.mapM_append, StateT.run_bind, hrun, List.replicate_succ']
    change ([_].mapM (Stage.run v) >>= fun os => pure (List.replicate _ _ ++ os)).run t' = _
    rw [StateT.run_bind, List.mapM_cons, StateT.run_bind, hfinal]
    rfl
  · intro inputs output hbad
    obtain ⟨before, path, after, why, hsplit, hbefore, hpath, hall⟩ := exists_first_error hbad
    refine ⟨before, path, after, why, hsplit, hbefore, hpath, ?_⟩
    rw [runCommand_merge, hall]
    rfl

namespace Sample

/-- In the working folder at the root, a byte that is no dot, slash or zero is a whole name. -/
theorem locate_byte (ht : t.workingFolder = []) {purpose : Purpose} {b : UInt8} {target : Target}
    (hb : b ≠ 0 ∧ b ≠ Path.dot ∧ b ≠ Path.slash)
    (h : Names purpose false [] [b] [] → Leads t purpose 40 false false [] [[b]] target) :
    t.locate purpose [b] = .ok target := by
  obtain ⟨hzero, hdot, hslash⟩ := hb
  have hname : Names purpose false [] [b] [] :=
    ⟨by simpa using hdot, by simp, by simp, by simp, by simp⟩
  have habsolute : Path.isAbsolute [b] = false := by simpa [Path.isAbsolute] using hslash
  have hends : endsInSlash [b] = false := by simpa [endsInSlash] using hslash
  have hpieces : pieces [b] = [[b]] := by simp [pieces, Path.split, hslash]
  refine locate_eq_ok_iff.2 ⟨by simpa using hzero.symm, by simp, by simp, ?_⟩
  rw [habsolute, hends, hpieces, ht]
  exact h hname

/-- A file of such a name that holds a document holds its snapshot. -/
theorem snapshot_byte (ht : t.workingFolder = []) {b : UInt8}
    (hb : b ≠ 0 ∧ b ≠ Path.dot ∧ b ≠ Path.slash) {s : Snapshot} (hs : s.WellKeyed)
    {l : Json.Layout} (h : t.node? [[b]] = some (.file (Text.toBytes (s.document l)))) :
    t.snapshot [b] = .ok s :=
  have hlocate := locate_byte ht hb fun hname => .file hname h (.inr ⟨rfl, rfl⟩)
  snapshot_of_read hs (read_eq_ok_iff.2 ⟨_, hlocate⟩)

end Sample

/-- Three files in a folder, one count being at its greatest value: the third and the first are
merged into a new file, and that one with the second.  A fourth file is missing. -/
theorem merge_in_stages_of_three :
    let one := Snapshot.ofFiles [.ofSpans "a.rs" [⟨⟨1, 1, 2, 1⟩, Count.top⟩]]
    let two := Snapshot.ofFiles [.ofSpans "b.rs" [], .ofSpans "a.rs" [⟨⟨1, 1, 2, 1⟩, 5⟩]]
    let three := Snapshot.ofFiles [.ofSpans "a.rs" [⟨⟨3, 1, 4, 1⟩, 0⟩]]
    let file (s : Snapshot) : Node := .file (Text.toBytes (s.document .compact))
    let t : FileTree := ⟨[([[97]], file one), ([[98]], file two), ([[99]], file three)], []⟩
    let v : Surroundings := ⟨none, fun _ => none, ⟨2026, 1, 1⟩, false⟩
    (∃ t₁ t₂, ((Stage.mk [[97], [98], [99]] [111]).run v).run t = (.printed "", t₁) ∧
      ([Stage.mk [[99], [97]] [120], Stage.mk [[120], [98]] [111]].mapM (Stage.run v)).run t =
        ([.printed "", .printed ""], t₂) ∧
      t₁.read [111] =
        .ok (Text.toBytes ((Snapshot.total [one, two, three]).document .indented)) ∧
      t₂.read [111] = t₁.read [111] ∧
      t₁.snapshot [111] = .ok (Snapshot.total [one, two, three])) ∧
    (runCommand FileAccess.tree v (.merge [[97], [100], [98]] (some [111]))).run t =
      (⟨1, "", some "Error: d: No such file or directory (os error 2)"⟩, t) := by
  intro one two three file t v
  have hone : one.WellKeyed := Snapshot.wellKeyed_ofFiles (by simp [FileReport.wellKeyed_ofSpans])
  have htwo : two.WellKeyed := Snapshot.wellKeyed_ofFiles (by simp [FileReport.wellKeyed_ofSpans])
  have hthree : three.WellKeyed :=
    Snapshot.wellKeyed_ofFiles (by simp [FileReport.wellKeyed_ofSpans])
  have h97 : t.snapshot [97] = .ok one := Sample.snapshot_byte rfl (by decide) hone rfl
  have h98 : t.snapshot [98] = .ok two := Sample.snapshot_byte rfl (by decide) htwo rfl
  have h99 : t.snapshot [99] = .ok three := Sample.snapshot_byte rfl (by decide) hthree rfl
  have hfree : ∀ purpose b, b ≠ 0 ∧ b ≠ Path.dot ∧ b ≠ Path.slash → t.node? [[b]] = none →
      t.locate purpose [b] = .ok (.vacant [[b]]) := fun _ _ hb hnone =>
    Sample.locate_byte rfl hb fun hname => .vacant hname hnone
  have h100 : t.snapshot [100] = .error "d: No such file or directory (os error 2)" := by
    have htext : t.readText [100] = .error .notFound := by
      simp only [readText, FileTree.read, hfree .look 100 (by decide) rfl, bind, Except.bind]
    rw [snapshot, htext]
    decide
  have h111 := hfree .write 111 (by decide) rfl
  have h120 := hfree .write 120 (by decide) rfl
  obtain ⟨hmerge, hfail⟩ := merge_in_stages v t
  constructor
  · have hperm : List.Perm [[97], [98], [99]] ((Stage.mk [[99], [97]] [120]).inputs ++ [[98]]) := by
      decide
    have hleaves : Leaves [[97], [98], [99]] [⟨[[99], [97]], [120]⟩] [[120], [98]] :=
      .stage hperm (.done (.refl _))
    exact hmerge _ _ (.cons h97 (.cons h98 (.cons h99 .nil))) _ _ hleaves
      ⟨by simpa using ⟨_, h120⟩, by simp⟩ [111] ⟨_, _, h111, rfl⟩
  · obtain ⟨before, path, after, why, hsplit, -, hpath, hrun⟩ :=
      hfail [[97], [100], [98]] (some [111]) ⟨[100], by simp, by simp [h100]⟩
    have hmem : path ∈ [[97], [100], [98]] := by simp [hsplit]
    simp only [List.mem_cons, List.not_mem_nil, or_false] at hmem
    rcases hmem with rfl | rfl | rfl
    · simp [h97] at hpath
    · obtain rfl := Except.error.inj (h100.symm.trans hpath)
      exact hrun
    · simp [h98] at hpath

end CommandLine
end CoverageWindows
