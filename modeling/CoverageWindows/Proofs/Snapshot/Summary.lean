import CoverageWindows.Proofs.Snapshot.Merge
import Mathlib.Data.Set.Card

/-!
# Summaries of merged snapshots

A summary counts the members of three sets: the names of the files that a snapshot knows, the places
that it knows, and the places that have run.  A place is a span of a file; the same span in two
files is two places.  Merging joins each of the three sets, so what two snapshots share is counted
once, and no count of a place that has run becomes zero, as a sum that is cut off is still positive.

Main results:

- Theorem `summary_eq`: the numbers of a summary are the sizes of the three sets.
- Theorems `names_merge`, `places_merge` and `covered_merge`: merging joins the three sets.
- Theorem `summary_of_merge`: the summary of a merged snapshot counts the three unions.
-/

namespace CoverageWindows

/-- A sum is positive if one of its terms is, also where it is cut off. -/
theorem Count.plus_pos_iff (a b : Count) : 0 < a.plus b ↔ 0 < a ∨ 0 < b := by
  have htop : top.toNat = 18446744073709551615 := rfl
  rw [UInt64.lt_iff_toNat_lt, UInt64.lt_iff_toNat_lt, UInt64.lt_iff_toNat_lt, toNat_plus,
    UInt64.toNat_zero]
  omega

/-- One summary has no greater number than another one. -/
structure Summary.AtMost (s t : Summary) : Prop where
  files : s.files ≤ t.files
  spans : s.spans ≤ t.spans
  covered : s.covered ≤ t.covered

namespace Snapshot

/-! ## The three sets -/

/-- The names of the files that a snapshot knows. -/
def names (s : Snapshot) : Set String := {name | ∃ f, s.file? name = some f}

/-- The places that a snapshot knows: the spans of its files, each with the name of the file. -/
def places (s : Snapshot) : Set (String × Span) := {p | ∃ c, s.count? p.1 p.2 = some c}

/-- The places that have run. -/
def covered (s : Snapshot) : Set (String × Span) := {p | ∃ c, s.count? p.1 p.2 = some c ∧ 0 < c}

/-- The places of the counted spans that pass a test, file by file. -/
def placesWhere (s : Snapshot) (test : CountedSpan → Bool) : List (String × Span) :=
  s.files.entries.flatMap fun e =>
    (e.2.spans.entries.filter fun x => test x.2).map fun x => (e.1, x.1)

section Listed

variable {s : Snapshot} {test : CountedSpan → Bool}

/-- A place is listed if its counted span is in the snapshot and passes the test. -/
theorem mem_placesWhere_iff (h : s.WellKeyed) (p : String × Span) :
    p ∈ s.placesWhere test ↔
      ∃ f c, s.file? p.1 = some f ∧ f.get? p.2 = some c ∧ test c = true := by
  rw [placesWhere, List.mem_flatMap]
  constructor
  · rintro ⟨⟨name, f⟩, hf, hp⟩
    rcases List.mem_map.1 hp with ⟨⟨k, c⟩, hc, rfl⟩
    rcases List.mem_filter.1 hc with ⟨hc, htest⟩
    exact ⟨f, c, (Table.mem_entries_iff h.ordered name f).1 hf,
      (Table.mem_entries_iff (h.files _ hf).ordered k c).1 hc, htest⟩
  · rintro ⟨f, c, hf, hc, htest⟩
    have hmem : (p.1, f) ∈ s.files.entries := (Table.mem_entries_iff h.ordered p.1 f).2 hf
    refine ⟨(p.1, f), hmem, List.mem_map.2 ⟨(p.2, c), List.mem_filter.2 ⟨?_, htest⟩, rfl⟩⟩
    exact (Table.mem_entries_iff (h.file hf).ordered p.2 c).2 hc

/-- What holds of the count of a place holds of the counted span that the snapshot has there. -/
theorem exists_count?_iff (s : Snapshot) (p : String × Span) (q : Count → Prop) :
    (∃ n, s.count? p.1 p.2 = some n ∧ q n) ↔
      ∃ f c, s.file? p.1 = some f ∧ f.get? p.2 = some c ∧ q c.count := by
  rw [count?_eq]
  constructor
  · rintro ⟨n, hn, hq⟩
    rcases Option.bind_eq_some_iff.1 hn with ⟨f, hf, hcount⟩
    rcases Option.map_eq_some_iff.1 hcount with ⟨c, hc, rfl⟩
    exact ⟨f, c, hf, hc, hq⟩
  · rintro ⟨f, c, hf, hc, hq⟩
    exact ⟨c.count, by simp [hf, FileReport.count?, hc], hq⟩

/-- No place is listed twice: places of one file differ in their spans, others in their names. -/
theorem nodup_placesWhere (h : s.WellKeyed) : (s.placesWhere test).Nodup := by
  rw [placesWhere, List.nodup_flatMap]
  constructor
  · intro e he
    have hkeys : e.2.spans.keys.Nodup := Table.nodup_keys (h.files e he).ordered
    have hsub : ((e.2.spans.entries.filter fun x => test x.2).map Prod.fst).Nodup :=
      hkeys.sublist (List.filter_sublist.map Prod.fst)
    refine List.Nodup.of_map Prod.snd ?_
    rwa [List.map_map]
  · have hnames : s.files.entries.Pairwise fun e e' => e.1 ≠ e'.1 :=
      List.pairwise_map.1 (Table.nodup_keys h.ordered)
    refine hnames.imp fun {e e'} hne p hp hp' => hne ?_
    rcases List.mem_map.1 hp with ⟨x, -, rfl⟩
    rcases List.mem_map.1 hp' with ⟨x', -, heq⟩
    exact (congrArg Prod.fst heq).symm

/-- The places that pass a test are counted file by file. -/
theorem length_placesWhere (s : Snapshot) (test : CountedSpan → Bool) :
    (s.placesWhere test).length =
      s.files.values.foldl (fun n f => n + f.spans.values.countP test) 0 := by
  have hfile : ∀ f : FileReport,
      f.spans.values.countP test = (f.spans.entries.filter fun x => test x.2).length := by
    intro f
    rw [Table.values, List.countP_map, List.countP_eq_length_filter]
    rfl
  rw [placesWhere, List.length_flatMap, List.sum_eq_foldl_nat, List.foldl_map, Table.values,
    List.foldl_map]
  simp only [List.length_map, hfile]

end Listed

/-- A set has as many members as a list of them that has none twice. -/
theorem ncard_of_nodup {α : Type} {l : List α} (hl : l.Nodup) {S : Set α}
    (h : ∀ x, x ∈ l ↔ x ∈ S) : S.Finite ∧ S.ncard = l.length := by
  classical
  have hS : S = l.toFinset := by
    ext x
    rw [List.coe_toFinset, Set.mem_ofPred_eq, h]
  rw [hS, Set.ncard_coe_finset, List.toFinset_card_of_nodup hl]
  exact ⟨l.toFinset.finite_toSet, rfl⟩

section Counted

variable {s : Snapshot}

/-- The summary counts the different names. -/
theorem names_spec (h : s.WellKeyed) : s.names.Finite ∧ s.names.ncard = s.summary.files := by
  have hkeys : s.files.keys.length = s.summary.files := List.length_map Prod.fst
  rw [← hkeys]
  exact ncard_of_nodup (Table.nodup_keys h.ordered) (Table.mem_keys_iff h.ordered)

/-- The summary counts the different places. -/
theorem places_spec (h : s.WellKeyed) : s.places.Finite ∧ s.places.ncard = s.summary.spans := by
  have hlen : (s.placesWhere fun _ => true).length = s.summary.spans := by
    simp [length_placesWhere, summary, Table.size, Table.values]
  rw [← hlen]
  refine ncard_of_nodup (nodup_placesWhere h) fun p => ?_
  have hknown := exists_count?_iff s p fun _ => True
  simp only [and_true] at hknown
  rw [mem_placesWhere_iff h, places, Set.mem_ofPred_eq, hknown]
  simp only [and_true]

/-- The summary counts the different places that were covered. -/
theorem covered_spec (h : s.WellKeyed) :
    s.covered.Finite ∧ s.covered.ncard = s.summary.covered := by
  have hlen : (s.placesWhere fun c => c.count != 0).length = s.summary.covered :=
    length_placesWhere s _
  rw [← hlen]
  refine ncard_of_nodup (nodup_placesWhere h) fun p => ?_
  rw [mem_placesWhere_iff h, covered, Set.mem_ofPred_eq, exists_count?_iff]
  simp only [bne_iff_ne, UInt64.pos_iff_ne_zero]

/-- The numbers of a summary are the sizes of the three sets. -/
theorem summary_eq (h : s.WellKeyed) :
    s.summary = ⟨s.names.ncard, s.places.ncard, s.covered.ncard⟩ := by
  rw [(names_spec h).2, (places_spec h).2, (covered_spec h).2]

end Counted

/-! ## Merging -/

section Merged

variable {s t : Snapshot}

/-- A merged snapshot knows the files of both. -/
theorem names_merge (hs : s.WellKeyed) (ht : t.WellKeyed) :
    (s.merge t).names = s.names ∪ t.names := by
  ext name
  simp only [names, Set.mem_union, Set.mem_ofPred_eq, file?_merge hs ht]
  cases s.file? name <;> cases t.file? name <;> simp

/-- A merged snapshot knows the places of both. -/
theorem places_merge (hs : s.WellKeyed) (ht : t.WellKeyed) :
    (s.merge t).places = s.places ∪ t.places := by
  ext p
  simp only [places, Set.mem_union, Set.mem_ofPred_eq, count?_merge hs ht]
  cases s.count? p.1 p.2 <;> cases t.count? p.1 p.2 <;> simp

/-- In a merged snapshot those places have run that have run in one of the two. -/
theorem covered_merge (hs : s.WellKeyed) (ht : t.WellKeyed) :
    (s.merge t).covered = s.covered ∪ t.covered := by
  ext p
  simp only [covered, Set.mem_union, Set.mem_ofPred_eq, count?_merge hs ht]
  cases s.count? p.1 p.2 <;> cases t.count? p.1 p.2 <;> simp [Count.plus_pos_iff]

/-- Merging lowers no number of the summary. -/
theorem summary_atMost_merge (hs : s.WellKeyed) (ht : t.WellKeyed) :
    s.summary.AtMost (s.merge t).summary := by
  have hm := hs.merge ht
  refine ⟨?_, ?_, ?_⟩
  · rw [← (names_spec hs).2, ← (names_spec hm).2]
    refine Set.ncard_le_ncard ?_ (names_spec hm).1
    exact names_merge hs ht ▸ Set.subset_union_left
  · rw [← (places_spec hs).2, ← (places_spec hm).2]
    refine Set.ncard_le_ncard ?_ (places_spec hm).1
    exact places_merge hs ht ▸ Set.subset_union_left
  · rw [← (covered_spec hs).2, ← (covered_spec hm).2]
    refine Set.ncard_le_ncard ?_ (covered_spec hm).1
    exact covered_merge hs ht ▸ Set.subset_union_left

/-- The summary of a merged snapshot counts the names of files, the places and the places that have
run, each once, that one of the two snapshots knows.  So merging lowers no number of either summary,
and a place that has run in one of the two has run in the merged snapshot. -/
theorem summary_of_merge (hs : s.WellKeyed) (ht : t.WellKeyed) :
    (s.merge t).summary =
        ⟨(s.names ∪ t.names).ncard, (s.places ∪ t.places).ncard, (s.covered ∪ t.covered).ncard⟩ ∧
      ((s.names ∪ t.names).Finite ∧ (s.places ∪ t.places).Finite ∧
        (s.covered ∪ t.covered).Finite) ∧
      (s.summary.AtMost (s.merge t).summary ∧ t.summary.AtMost (s.merge t).summary) ∧
      s.covered ∪ t.covered ⊆ (s.merge t).covered := by
  have hm := hs.merge ht
  rw [← names_merge hs ht, ← places_merge hs ht, ← covered_merge hs ht]
  refine ⟨summary_eq hm, ⟨(names_spec hm).1, (places_spec hm).1, (covered_spec hm).1⟩,
    ⟨summary_atMost_merge hs ht, ?_⟩, subset_rfl⟩
  rw [merge_comm hs ht]
  exact summary_atMost_merge ht hs

/-- Two snapshots share a file, and in it a place that has run in one of them, one that has run in
neither, and one with a count that is cut off. -/
theorem summary_of_merge_overlapping :
    let s := ofFiles [.ofSpans "a.rs" [⟨⟨1, 1, 2, 1⟩, Count.top⟩, ⟨⟨3, 1, 4, 1⟩, 0⟩],
      .ofSpans "b.rs" []]
    let t := ofFiles [.ofSpans "a.rs" [⟨⟨3, 1, 4, 1⟩, 0⟩, ⟨⟨1, 1, 2, 1⟩, 7⟩, ⟨⟨5, 1, 6, 1⟩, 2⟩]]
    (s.WellKeyed ∧ t.WellKeyed) ∧ (s.names ∪ t.names).ncard = 2 ∧
      (s.places ∪ t.places).ncard = 3 ∧ (s.covered ∪ t.covered).ncard = 2 ∧
      ("a.rs", ⟨1, 1, 2, 1⟩) ∈ (s.merge t).covered := by
  intro s t
  have hs : s.WellKeyed := wellKeyed_ofFiles (by simp [FileReport.wellKeyed_ofSpans])
  have ht : t.WellKeyed := wellKeyed_ofFiles (by simp [FileReport.wellKeyed_ofSpans])
  obtain ⟨hsummary, -, -, hcovered⟩ := summary_of_merge hs ht
  have hnumbers : (s.merge t).summary = ⟨2, 3, 2⟩ := by decide +kernel
  rw [hnumbers, Summary.mk.injEq] at hsummary
  refine ⟨⟨hs, ht⟩, hsummary.1.symm, hsummary.2.1.symm, hsummary.2.2.symm, hcovered (.inl ?_)⟩
  exact ⟨Count.top, by decide +kernel, by decide⟩

end Merged

end Snapshot
end CoverageWindows
