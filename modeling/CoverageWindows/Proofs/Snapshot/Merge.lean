import CoverageWindows.Proofs.Snapshot.Collect
import CoverageWindows.Snapshot.Basic

/-!
# The algebra of merging snapshots

A snapshot says which files it knows and how often each span of a file has run.  That is all it
says: snapshots in good order that agree on both are equal.  Merging joins the two answers file by
file and span by span, counts being added up to their greatest value, and so inherits its laws from
the addition of counts.

Main results:

- Theorem `FileReport.ext_count?` and `Snapshot.ext_count?`: reports and snapshots are what they
  answer.
- Theorem `Snapshot.count?_merge`: merging adds the counts of each span.
- Theorem `Snapshot.merge_algebra`: merging is commutative and associative, the empty snapshot is
  its unit, and it works file by file.
-/

namespace CoverageWindows

instance : Std.Commutative Count.plus := ⟨Count.plus_comm⟩

instance : Std.Associative Count.plus := ⟨Count.plus_assoc⟩

/-! ## File reports -/

/-- A counted span with the count of another one added. -/
def CountedSpan.join (s t : CountedSpan) : CountedSpan :=
  { s with count := s.count.plus t.count }

@[simp]
theorem CountedSpan.span_join (s t : CountedSpan) : (s.join t).span = s.span := rfl

/-- Joining counted spans, of which either may be missing, sums their counts. -/
theorem CountedSpan.map_count_merge (a b : Option CountedSpan) :
    (Option.merge join a b).map count = Option.merge Count.plus (a.map count) (b.map count) := by
  cases a <;> cases b <;> rfl

namespace FileReport

/-- How often a span has run, if the file lists it. -/
def count? (f : FileReport) (k : Span) : Option Count :=
  (f.get? k).map CountedSpan.count

/-- A counted span is added to the one that is there, or put in its place. -/
theorem addTo_eq (s : CountedSpan) : addTo s = fun old => old.elim s fun o => o.join s := by
  funext old
  cases old <;> rfl

/-- Adding a counted span collects it under its span. -/
theorem add_eq (f : FileReport) (s : CountedSpan) :
    f.add s = { f with spans := f.spans.collect CountedSpan.span CountedSpan.join s } := by
  rw [add, addTo_eq]
  rfl

theorem addAll_eq (f : FileReport) (ss : List CountedSpan) :
    f.addAll ss = { f with spans := f.spans.collectAll CountedSpan.span CountedSpan.join ss } := by
  induction ss generalizing f with
  | nil => rfl
  | cons s ss ih =>
      have hcons : f.addAll (s :: ss) = (f.add s).addAll ss := rfl
      rw [hcons, ih, add_eq]
      rfl

@[simp]
theorem name_addAll (f : FileReport) (ss : List CountedSpan) : (f.addAll ss).name = f.name := by
  rw [addAll_eq]

@[simp]
theorem name_merge (f g : FileReport) : (f.merge g).name = f.name :=
  name_addAll f g.spans.values

theorem wellKeyed_iff (f : FileReport) : f.WellKeyed ↔ f.spans.KeyedBy CountedSpan.span :=
  ⟨fun h => ⟨h.ordered, h.keyed⟩, fun h => ⟨h.ordered, h.keyed⟩⟩

/-- A file without spans is in good order. -/
theorem wellKeyed_empty (name : String) : (empty name).WellKeyed :=
  (wellKeyed_iff _).2 Table.keyedBy_empty

theorem WellKeyed.addAll {f : FileReport} (h : f.WellKeyed) (ss : List CountedSpan) :
    (f.addAll ss).WellKeyed := by
  rw [wellKeyed_iff] at h ⊢
  rw [addAll_eq]
  exact h.collectAll CountedSpan.span_join ss

/-- Merging keeps a file in good order. -/
theorem WellKeyed.merge {f : FileReport} (h : f.WellKeyed) (g : FileReport) :
    (f.merge g).WellKeyed :=
  h.addAll g.spans.values

/-- A file that is made of counted spans is in good order. -/
theorem wellKeyed_ofSpans (name : String) (ss : List CountedSpan) : (ofSpans name ss).WellKeyed :=
  (wellKeyed_empty name).addAll ss

/-- What the merged file holds for a span is joined from what the two files hold for it. -/
theorem get?_merge {f g : FileReport} (hf : f.WellKeyed) (hg : g.WellKeyed) (k : Span) :
    (f.merge g).get? k = Option.merge CountedSpan.join (f.get? k) (g.get? k) := by
  rw [merge, addAll_eq]
  exact Table.get?_collectAll_values hf.ordered ((wellKeyed_iff g).1 hg) k

/-- Merging files adds the counts of each span. -/
theorem count?_merge {f g : FileReport} (hf : f.WellKeyed) (hg : g.WellKeyed) (k : Span) :
    (f.merge g).count? k = Option.merge Count.plus (f.count? k) (g.count? k) := by
  rw [count?, get?_merge hf hg, CountedSpan.map_count_merge]
  rfl

/-- Files of one name that give every span the same count are equal. -/
theorem ext_count? {f g : FileReport} (hf : f.WellKeyed) (hg : g.WellKeyed)
    (hname : f.name = g.name) (h : ∀ k, f.count? k = g.count? k) : f = g := by
  have hspan : ∀ {x : FileReport}, x.WellKeyed → ∀ {k s}, x.get? k = some s → s.span = k :=
    fun hx _ _ hs => ((wellKeyed_iff _).1 hx).key_of_get? hs
  have hget : ∀ k, f.spans.get? k = g.spans.get? k := by
    intro k
    have hk := h k
    simp only [count?, get?] at hk
    cases hs : f.spans.get? k with
    | none =>
        rw [hs, Option.map_none, eq_comm, Option.map_eq_none_iff] at hk
        exact hk.symm
    | some s =>
        rw [hs, Option.map_some, eq_comm, Option.map_eq_some_iff] at hk
        rcases hk with ⟨t, ht, hcount⟩
        have hst : t = s := by
          rcases s with ⟨sp, n⟩
          rcases t with ⟨sp', n'⟩
          have h₁ : sp = k := hspan hf hs
          have h₂ : sp' = k := hspan hg ht
          rw [h₁, h₂, show n' = n from hcount]
        rw [ht, hst]
  rcases f with ⟨name, spans⟩
  rcases g with ⟨name', spans'⟩
  have hspans : spans = spans' := Table.ext_get? hf.ordered hg.ordered hget
  rw [hspans, show name = name' from hname]

end FileReport

/-! ## Snapshots -/

namespace Snapshot

/-- A file is merged into the one that is there, or put in its place. -/
theorem addFileTo_eq (f : FileReport) :
    addFileTo f = fun old => old.elim f fun o => o.merge f := by
  funext old
  cases old <;> rfl

/-- Adding a file collects it under its name. -/
theorem addFile_eq (s : Snapshot) (f : FileReport) :
    s.addFile f = ⟨s.files.collect FileReport.name FileReport.merge f⟩ := by
  rw [addFile, addFileTo_eq]
  rfl

theorem addFiles_eq (s : Snapshot) (fs : List FileReport) :
    s.addFiles fs = ⟨s.files.collectAll FileReport.name FileReport.merge fs⟩ := by
  induction fs generalizing s with
  | nil => rfl
  | cons f fs ih =>
      have hcons : s.addFiles (f :: fs) = (s.addFile f).addFiles fs := rfl
      rw [hcons, ih, addFile_eq]
      rfl

/-- In a snapshot in good order, files stand under their names. -/
theorem WellKeyed.keyedBy {s : Snapshot} (h : s.WellKeyed) : s.files.KeyedBy FileReport.name :=
  ⟨h.ordered, h.keyed⟩

/-- In a snapshot in good order, a file is found under its own name. -/
theorem WellKeyed.name_of_file? {s : Snapshot} (h : s.WellKeyed) {name : String} {f : FileReport}
    (hf : s.file? name = some f) : f.name = name :=
  h.keyedBy.key_of_get? hf

/-- In a snapshot in good order, every file is in good order. -/
theorem WellKeyed.file {s : Snapshot} (h : s.WellKeyed) {name : String} {f : FileReport}
    (hf : s.file? name = some f) : f.WellKeyed :=
  h.files (name, f) ((Table.mem_entries_iff h.ordered name f).2 hf)

/-- A snapshot is in good order if its table is and lookup finds only files that are. -/
theorem wellKeyed_of_file? {s : Snapshot} (h : s.files.KeyedBy FileReport.name)
    (hfile : ∀ name f, s.file? name = some f → f.WellKeyed) : s.WellKeyed := by
  refine ⟨h.ordered, h.keyed, ?_⟩
  rintro ⟨name, f⟩ hmem
  exact hfile name f ((Table.mem_entries_iff h.ordered name f).1 hmem)

/-- A snapshot without files is in good order. -/
theorem wellKeyed_empty : empty.WellKeyed :=
  ⟨Table.ordered_empty, by simp [empty, Table.empty], by simp [empty, Table.empty]⟩

/-- What a snapshot holds for a name after a file was added. -/
theorem file?_addFile {s : Snapshot} (hs : s.WellKeyed) (f : FileReport) (name : String) :
    (s.addFile f).file? name =
      Option.merge FileReport.merge (s.file? name) (Table.share FileReport.name name f) := by
  rw [addFile_eq]
  exact Table.get?_collect hs.ordered f name

/-- Adding a file in good order keeps a snapshot in good order. -/
theorem WellKeyed.addFile {s : Snapshot} (hs : s.WellKeyed) {f : FileReport} (hf : f.WellKeyed) :
    (s.addFile f).WellKeyed := by
  refine wellKeyed_of_file? ?_ ?_
  · rw [addFile_eq]
    exact hs.keyedBy.collect FileReport.name_merge f
  · intro name g hg
    rw [file?_addFile hs, Table.share] at hg
    cases hold : s.file? name with
    | none =>
        rw [hold, Option.merge_none_left] at hg
        rcases Option.ite_none_right_eq_some.1 hg |>.imp_right Option.some.inj with ⟨-, rfl⟩
        exact hf
    | some old =>
        rw [hold] at hg
        by_cases hname : f.name = name
        · rw [if_pos hname, Option.merge_some_some, Option.some.injEq] at hg
          exact hg ▸ (hs.file hold).merge f
        · rw [if_neg hname, Option.merge_none_right, Option.some.injEq] at hg
          exact hg ▸ hs.file hold

theorem WellKeyed.addFiles {s : Snapshot} (hs : s.WellKeyed) {fs : List FileReport}
    (hfs : ∀ f ∈ fs, f.WellKeyed) : (s.addFiles fs).WellKeyed := by
  induction fs generalizing s with
  | nil => exact hs
  | cons f fs ih =>
      exact ih (hs.addFile (hfs f (by simp))) fun g hg => hfs g (List.mem_cons_of_mem _ hg)

/-- A snapshot that is made of files in good order is in good order. -/
theorem wellKeyed_ofFiles {fs : List FileReport} (hfs : ∀ f ∈ fs, f.WellKeyed) :
    (ofFiles fs).WellKeyed :=
  wellKeyed_empty.addFiles hfs

/-- Merging keeps a snapshot in good order. -/
theorem WellKeyed.merge {s t : Snapshot} (hs : s.WellKeyed) (ht : t.WellKeyed) :
    (s.merge t).WellKeyed := by
  refine hs.addFiles fun f hf => ?_
  rcases List.mem_map.1 hf with ⟨e, he, rfl⟩
  exact ht.files e he

/-! ## What a snapshot answers -/

/-- Merging works file by file; a file that one snapshot alone knows stays as it is. -/
theorem file?_merge {s t : Snapshot} (hs : s.WellKeyed) (ht : t.WellKeyed) (name : String) :
    (s.merge t).file? name = Option.merge FileReport.merge (s.file? name) (t.file? name) := by
  rw [merge, addFiles_eq]
  exact Table.get?_collectAll_values hs.ordered ht.keyedBy name

theorem count?_eq (s : Snapshot) (name : String) (k : Span) :
    s.count? name k = (s.file? name).bind fun f => f.count? k := rfl

/-- Merging adds the counts of each span. -/
theorem count?_merge {s t : Snapshot} (hs : s.WellKeyed) (ht : t.WellKeyed) (name : String)
    (k : Span) :
    (s.merge t).count? name k = Option.merge Count.plus (s.count? name k) (t.count? name k) := by
  rw [count?_eq, count?_eq, count?_eq, file?_merge hs ht]
  cases hf : s.file? name with
  | none => simp
  | some f =>
      cases hg : t.file? name with
      | none => simp
      | some g => exact FileReport.count?_merge (hs.file hf) (ht.file hg) k

/-- Snapshots that know the same files and give every span the same count are equal. -/
theorem ext_count? {s t : Snapshot} (hs : s.WellKeyed) (ht : t.WellKeyed)
    (hfile : ∀ name, (s.file? name).isSome = (t.file? name).isSome)
    (hcount : ∀ name k, s.count? name k = t.count? name k) : s = t := by
  have hget : ∀ name, s.files.get? name = t.files.get? name := by
    intro name
    have hsome := hfile name
    have hc := hcount name
    simp only [count?_eq] at hc
    change s.file? name = t.file? name
    cases hf : s.file? name with
    | none =>
        rw [hf, Option.isSome_none, eq_comm, Option.isSome_eq_false_iff, Option.isNone_iff_eq_none]
          at hsome
        exact hsome.symm
    | some f =>
        rw [hf, Option.isSome_some, eq_comm, Option.isSome_iff_exists] at hsome
        rcases hsome with ⟨g, hg⟩
        have hname : f.name = g.name := (hs.name_of_file? hf).trans (ht.name_of_file? hg).symm
        have hfg : f = g := FileReport.ext_count? (hs.file hf) (ht.file hg) hname fun k => by
          simpa [hf, hg] using hc k
        rw [hg, hfg]
  rcases s with ⟨files⟩
  rcases t with ⟨files'⟩
  rw [show files = files' from Table.ext_get? hs.ordered ht.ordered hget]

/-! ## The laws of merging -/

/-- Merging snapshots in good order does not depend on the order. -/
theorem merge_comm {s t : Snapshot} (hs : s.WellKeyed) (ht : t.WellKeyed) :
    s.merge t = t.merge s := by
  refine ext_count? (hs.merge ht) (ht.merge hs) ?_ ?_
  · intro name
    rw [file?_merge hs ht, file?_merge ht hs, Option.isSome_merge, Option.isSome_merge,
      Bool.or_comm]
  · intro name k
    rw [count?_merge hs ht, count?_merge ht hs]
    exact Std.Commutative.comm _ _

/-- Merging snapshots in good order does not depend on the grouping. -/
theorem merge_assoc {s t u : Snapshot} (hs : s.WellKeyed) (ht : t.WellKeyed) (hu : u.WellKeyed) :
    (s.merge t).merge u = s.merge (t.merge u) := by
  have hst := hs.merge ht
  have htu := ht.merge hu
  refine ext_count? (hst.merge hu) (hs.merge htu) ?_ ?_
  · intro name
    rw [file?_merge hst hu, file?_merge hs ht, file?_merge hs htu, file?_merge ht hu]
    simp only [Option.isSome_merge, Bool.or_assoc]
  · intro name k
    rw [count?_merge hst hu, count?_merge hs ht, count?_merge hs htu, count?_merge ht hu]
    exact Std.Associative.assoc _ _ _

theorem merge_empty (s : Snapshot) : s.merge empty = s := rfl

/-- Merging into a snapshot without files gives the other snapshot. -/
theorem empty_merge {s : Snapshot} (hs : s.WellKeyed) : empty.merge s = s := by
  rw [merge_comm wellKeyed_empty hs, merge_empty]

/-- Merging is commutative and associative, the empty snapshot is its unit on both sides, taking in
another snapshot is merging with it, and of each name the merged snapshot holds the merged files, or
the file of the one snapshot that has it. -/
theorem merge_algebra {a b c : Snapshot} (ha : a.WellKeyed) (hb : b.WellKeyed)
    (hc : c.WellKeyed) :
    a.merge b = b.merge a ∧ (a.merge b).merge c = a.merge (b.merge c) ∧
      a.merge empty = a ∧ empty.merge a = a ∧ a.absorb b = a.merge b ∧
      ∀ name,
        (∀ f g, a.file? name = some f → b.file? name = some g →
          (a.merge b).file? name = some (f.merge g)) ∧
        (b.file? name = none → (a.merge b).file? name = a.file? name) ∧
        (a.file? name = none → (a.merge b).file? name = b.file? name) := by
  refine ⟨merge_comm ha hb, merge_assoc ha hb hc, merge_empty a, empty_merge ha, rfl, ?_⟩
  intro name
  rw [file?_merge ha hb]
  refine ⟨?_, ?_, ?_⟩
  · intro f g hf hg
    rw [hf, hg, Option.merge_some_some]
  · intro hg
    rw [hg, Option.merge_none_right]
  · intro hf
    rw [hf, Option.merge_none_left]

/-- Three snapshots of overlapping files, one without spans, with counts that are cut off. -/
theorem merge_algebra_cut_off :
    let a := ofFiles [.ofSpans "a.rs" [⟨⟨1, 1, 2, 1⟩, Count.top⟩], .ofSpans "b.rs" []]
    let b := ofFiles [.ofSpans "a.rs" [⟨⟨3, 1, 4, 1⟩, 0⟩, ⟨⟨1, 1, 2, 1⟩, 7⟩]]
    let c := ofFiles [.ofSpans "b.rs" [⟨⟨5, 1, 6, 1⟩, 1⟩], .ofSpans "a.rs" [⟨⟨1, 1, 2, 1⟩, 1⟩]]
    (a.WellKeyed ∧ b.WellKeyed ∧ c.WellKeyed) ∧ (a.merge b).merge c = a.merge (b.merge c) ∧
      ((a.merge b).merge c).count? "a.rs" ⟨1, 1, 2, 1⟩ = some Count.top ∧
      ((a.merge b).merge c).count? "b.rs" ⟨5, 1, 6, 1⟩ = some 1 := by
  intro a b c
  have ha : a.WellKeyed := wellKeyed_ofFiles (by simp [FileReport.wellKeyed_ofSpans])
  have hb : b.WellKeyed := wellKeyed_ofFiles (by simp [FileReport.wellKeyed_ofSpans])
  have hc : c.WellKeyed := wellKeyed_ofFiles (by simp [FileReport.wellKeyed_ofSpans])
  exact ⟨⟨ha, hb, hc⟩, (merge_algebra ha hb hc).2.1, by decide +kernel, by decide +kernel⟩

end Snapshot
end CoverageWindows
