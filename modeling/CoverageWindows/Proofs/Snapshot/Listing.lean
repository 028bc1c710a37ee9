import CoverageWindows.Proofs.Snapshot.Merge
import Mathlib.Algebra.GroupWithZero.Nat
import Mathlib.Data.List.Forall2

/-!
# Snapshots of listed files

Files come in lists: each with a name and counted spans, names and spans repeated as they may be.
What a snapshot of a list says depends on the totals of the list alone, that is, on the sum of all
counts that are listed for a name and a span.  So it does not matter in which order the files and
their spans are listed, nor in how many calls they are added.

Main results:

- Theorem `count?_ofSpans`: a report gives each span the total of its listed counts.
- Theorem `Totals.addFile`: adding a file to a snapshot adds it to the list that the snapshot sums
  up.
- Theorem `Totals.unique`: a list has one snapshot, up to rearrangement.
- Theorem `ofFeeds_eq_ofListing`: every way of feeding a list into a snapshot gives the same one.
-/

namespace CoverageWindows

/-! ## Totals of counts -/

namespace Count

/-- The sum of counts, `top` where it is greater. -/
def total (cs : List Count) : Count :=
  UInt64.ofNat (min (cs.map UInt64.toNat).sum top.toNat)

/-- A total is the sum of the numbers, cut off at the top. -/
theorem toNat_total (cs : List Count) :
    (total cs).toNat = min (cs.map UInt64.toNat).sum top.toNat := by
  have htop : top.toNat = 18446744073709551615 := rfl
  rw [total, UInt64.toNat_ofNat', Nat.mod_eq_of_lt]
  omega

/-- The total of counts, if there are any. -/
def total? (cs : List Count) : Option Count :=
  if cs.isEmpty then none else some (total cs)

/-- The total of two lists is the sum of their totals. -/
theorem total_append (cs ds : List Count) : total (cs ++ ds) = plus (total cs) (total ds) := by
  apply UInt64.toNat_inj.1
  rw [toNat_plus, toNat_total, toNat_total, toNat_total, List.map_append, List.sum_append]
  omega

theorem total_singleton (c : Count) : total [c] = c := by
  apply UInt64.toNat_inj.1
  have hc := toNat_le_top c
  rw [toNat_total, List.map_singleton, List.sum_singleton, Nat.min_eq_left hc]

theorem total?_singleton (c : Count) : total? [c] = some c :=
  congrArg some (total_singleton c)

/-- The total of two lists, of which either may be empty, merges their totals. -/
theorem total?_append (cs ds : List Count) :
    total? (cs ++ ds) = Option.merge plus (total? cs) (total? ds) := by
  cases cs with
  | nil => simp [total?]
  | cons c cs =>
      cases ds with
      | nil => simp [total?]
      | cons d ds => simp [total?, ← total_append]

/-- A total does not depend on the order. -/
theorem total?_perm {cs ds : List Count} (h : cs.Perm ds) : total? cs = total? ds := by
  have hsum : (cs.map UInt64.toNat).sum = (ds.map UInt64.toNat).sum := (h.map _).sum_nat
  rw [total?, total?, total, total, hsum, h.isEmpty_eq]

/-- Only an empty list has no total. -/
theorem total?_eq_some_iff (cs : List Count) (c : Count) :
    total? cs = some c ↔ cs ≠ [] ∧ c = total cs := by
  cases cs <;> simp [total?, eq_comm]

end Count

/-! ## Listed files -/

/-- A source file as it is listed: its name, and counted spans in any order. -/
structure ListedFile where
  name : String
  spans : List CountedSpan
  deriving DecidableEq, Repr

namespace ListedFile

/-- The report of a listed file. -/
def report (f : ListedFile) : FileReport := .ofSpans f.name f.spans

/-- The counts that a listed file gives a span. -/
def counts (f : ListedFile) (k : Span) : List Count :=
  (f.spans.filter fun s => s.span = k).map CountedSpan.count

/-- A listed file with its spans in another order. -/
def Reordered (f g : ListedFile) : Prop := f.name = g.name ∧ f.spans.Perm g.spans

end ListedFile

/-- The counts that listed files give a span of a name. -/
def listedCounts (l : List ListedFile) (name : String) (k : Span) : List Count :=
  (l.filter fun f => f.name = name).flatMap fun f => f.counts k

/-- One list has the files of another one in some order, each with its spans in some order. -/
def Rearranged (l m : List ListedFile) : Prop :=
  ∃ l', l.Perm l' ∧ List.Forall₂ ListedFile.Reordered l' m

/-- The counts of a span under a name are those of its counted spans in the files of that name. -/
theorem mem_listedCounts_iff (l : List ListedFile) (name : String) (k : Span) (c : Count) :
    c ∈ listedCounts l name k ↔
      ∃ f ∈ l, f.name = name ∧ ∃ s ∈ f.spans, s.span = k ∧ s.count = c := by
  simp [listedCounts, ListedFile.counts, and_assoc]

/-- A span has counts in a list if a file of the name lists it. -/
theorem listedCounts_ne_nil_iff (l : List ListedFile) (name : String) (k : Span) :
    listedCounts l name k ≠ [] ↔ ∃ f ∈ l, f.name = name ∧ ∃ s ∈ f.spans, s.span = k := by
  constructor
  · intro h
    rcases List.exists_mem_of_ne_nil _ h with ⟨c, hc⟩
    rcases (mem_listedCounts_iff l name k c).1 hc with ⟨f, hf, hname, s, hs, hk, -⟩
    exact ⟨f, hf, hname, s, hs, hk⟩
  · rintro ⟨f, hf, hname, s, hs, hk⟩
    exact List.ne_nil_of_mem
      ((mem_listedCounts_iff l name k s.count).2 ⟨f, hf, hname, s, hs, hk, rfl⟩)

/-- The counts of two lists of files are listed one after the other. -/
theorem listedCounts_append (l m : List ListedFile) (name : String) (k : Span) :
    listedCounts (l ++ m) name k = listedCounts l name k ++ listedCounts m name k := by
  simp [listedCounts]

/-- A file lists counts for its own name only. -/
theorem listedCounts_cons (f : ListedFile) (l : List ListedFile) (name : String) (k : Span) :
    listedCounts (f :: l) name k =
      (if f.name = name then f.counts k else []) ++ listedCounts l name k := by
  by_cases h : f.name = name <;> simp [listedCounts, h]

/-! ## Rearranged lists -/

/-- Rearranging a list keeps the names in it. -/
theorem Rearranged.names {l m : List ListedFile} (h : Rearranged l m) (name : String) :
    (∃ f ∈ l, f.name = name) ↔ ∃ f ∈ m, f.name = name := by
  rcases h with ⟨l', hperm, hreorder⟩
  have hnames : l'.map ListedFile.name = m.map ListedFile.name := by
    clear hperm
    induction hreorder with
    | nil => rfl
    | cons hfg _ ih => rw [List.map_cons, List.map_cons, hfg.1, ih]
  have hmem := (hperm.map ListedFile.name).mem_iff (a := name)
  rw [hnames] at hmem
  simpa using hmem

/-- Rearranging a list keeps the counts of each span, in some order. -/
theorem Rearranged.counts {l m : List ListedFile} (h : Rearranged l m) (name : String) (k : Span) :
    (listedCounts l name k).Perm (listedCounts m name k) := by
  rcases h with ⟨l', hperm, hreorder⟩
  have hl : (listedCounts l name k).Perm (listedCounts l' name k) :=
    (hperm.filter _).flatMap_right _
  refine hl.trans ?_
  clear hl hperm
  induction hreorder with
  | nil => exact List.Perm.refl _
  | @cons f g l' m hfg _ ih =>
      have hfile : (f.counts k).Perm (g.counts k) := (hfg.2.filter _).map _
      rw [listedCounts_cons, listedCounts_cons, hfg.1]
      split
      · exact hfile.append ih
      · exact ih

/-! ## Reports of listed files -/

namespace FileReport

/-- A counted span that is added counts for its own span only. -/
theorem count?_add {f : FileReport} (h : f.WellKeyed) (s : CountedSpan) (k : Span) :
    (f.add s).count? k =
      Option.merge Count.plus (f.count? k) (if s.span = k then some s.count else none) := by
  have hget : (f.add s).get? k =
      Option.merge CountedSpan.join (f.get? k) (Table.share CountedSpan.span k s) := by
    rw [add_eq]
    exact Table.get?_collect h.ordered s k
  rw [count?, hget, CountedSpan.map_count_merge, Table.share]
  split <;> rfl

/-- Added spans are summed up to the total of their counts. -/
theorem count?_addAll {f : FileReport} (h : f.WellKeyed) (ss : List CountedSpan) (k : Span) :
    (f.addAll ss).count? k =
      Option.merge Count.plus (f.count? k)
        (Count.total? ((ss.filter fun s => s.span = k).map CountedSpan.count)) := by
  induction ss generalizing f with
  | nil => simp [addAll, Count.total?]
  | cons s ss ih =>
      have hcons : f.addAll (s :: ss) = (f.add s).addAll ss := rfl
      have hadd : (f.add s).WellKeyed := h.addAll [s]
      rw [hcons, ih hadd, count?_add h]
      by_cases hs : s.span = k
      · have hfirst : ((s :: ss).filter fun s => s.span = k).map CountedSpan.count =
            [s.count] ++ (ss.filter fun s => s.span = k).map CountedSpan.count := by
          simp [hs]
        rw [hfirst, Count.total?_append, Count.total?_singleton, if_pos hs]
        exact Std.Associative.assoc _ _ _
      · rw [if_neg hs, Option.merge_none_right, List.filter_cons_of_neg (by simpa using hs)]

/-- A report gives each span the total of its listed counts. -/
theorem count?_ofSpans (name : String) (ss : List CountedSpan) (k : Span) :
    (ofSpans name ss).count? k =
      Count.total? ((ss.filter fun s => s.span = k).map CountedSpan.count) := by
  rw [ofSpans, count?_addAll (wellKeyed_empty name)]
  exact Option.merge_none_left

end FileReport

/-- The report of a listed file gives each span the total of its counts. -/
theorem ListedFile.count?_report (f : ListedFile) (k : Span) :
    f.report.count? k = Count.total? (f.counts k) :=
  FileReport.count?_ofSpans f.name f.spans k

theorem ListedFile.wellKeyed_report (f : ListedFile) : f.report.WellKeyed :=
  FileReport.wellKeyed_ofSpans f.name f.spans

@[simp]
theorem ListedFile.name_report (f : ListedFile) : f.report.name = f.name :=
  FileReport.name_addAll _ _

/-! ## Snapshots of listed files -/

namespace Snapshot

/-- A snapshot sums up listed files: it knows the listed names, and gives each span of a name the
total of the counts that are listed for it. -/
structure Totals (s : Snapshot) (l : List ListedFile) : Prop where
  wellKeyed : s.WellKeyed
  file : ∀ name, (s.file? name).isSome ↔ ∃ f ∈ l, f.name = name
  count : ∀ name k, s.count? name k = Count.total? (listedCounts l name k)

theorem totals_empty : empty.Totals [] :=
  ⟨wellKeyed_empty, fun _ => by simp [file?, Table.get?, Table.find?, empty, Table.empty],
    fun _ _ => rfl⟩

/-- A file that is added counts for its own name only. -/
theorem count?_addFile {s : Snapshot} (hs : s.WellKeyed) {f : FileReport} (hf : f.WellKeyed)
    (name : String) (k : Span) :
    (s.addFile f).count? name k =
      Option.merge Count.plus (s.count? name k) (if f.name = name then f.count? k else none) := by
  rw [count?_eq, count?_eq, file?_addFile hs, Table.share]
  cases hold : s.file? name with
  | none => split <;> simp
  | some old =>
      split
      · exact FileReport.count?_merge (hs.file hold) hf k
      · simp

/-- Adding a file to a snapshot adds it to the list that the snapshot sums up. -/
theorem Totals.addFile {s : Snapshot} {l : List ListedFile} (h : s.Totals l) (f : ListedFile) :
    (s.addFile f.report).Totals (l ++ [f]) := by
  refine ⟨h.wellKeyed.addFile f.wellKeyed_report, ?_, ?_⟩
  · intro name
    rw [file?_addFile h.wellKeyed, Option.isSome_merge, Bool.or_eq_true, h.file]
    simp only [Table.share, ListedFile.name_report, List.mem_append, List.mem_singleton]
    constructor
    · rintro (⟨g, hg, hname⟩ | hnew)
      · exact ⟨g, Or.inl hg, hname⟩
      · by_cases hname : f.name = name
        · exact ⟨f, Or.inr rfl, hname⟩
        · simp [hname] at hnew
    · rintro ⟨g, hg | rfl, hname⟩
      · exact Or.inl ⟨g, hg, hname⟩
      · simp [hname]
  · intro name k
    have hone : listedCounts [f] name k = if f.name = name then f.counts k else [] := by
      rw [listedCounts_cons]
      exact List.append_nil _
    rw [count?_addFile h.wellKeyed f.wellKeyed_report, h.count, listedCounts_append,
      Count.total?_append, hone, ListedFile.name_report, f.count?_report]
    by_cases hname : f.name = name
    · rw [if_pos hname, if_pos hname]
    · rw [if_neg hname, if_neg hname]
      rfl

/-- Adding the reports of files to the totals of a list gives the totals of both. -/
theorem Totals.addFiles {s : Snapshot} {l : List ListedFile} (h : s.Totals l)
    (fs : List ListedFile) : (s.addFiles (fs.map ListedFile.report)).Totals (l ++ fs) := by
  induction fs generalizing s l with
  | nil => simpa [Snapshot.addFiles] using h
  | cons f fs ih =>
      have hnext := ih (h.addFile f)
      rwa [List.append_assoc, List.singleton_append] at hnext

/-- Snapshots that sum up rearranged lists are equal. -/
theorem Totals.unique {s t : Snapshot} {l m : List ListedFile} (hs : s.Totals l) (ht : t.Totals m)
    (h : Rearranged l m) : s = t := by
  refine ext_count? hs.wellKeyed ht.wellKeyed ?_ ?_
  · intro name
    rw [Bool.eq_iff_iff, hs.file, ht.file, h.names]
  · intro name k
    rw [hs.count, ht.count, Count.total?_perm (h.counts name k)]

/-- The snapshot that collects the reports of listed files. -/
def ofListing (l : List ListedFile) : Snapshot :=
  ofFiles (l.map ListedFile.report)

/-- The snapshot of a list has the totals of the list. -/
theorem totals_ofListing (l : List ListedFile) : (ofListing l).Totals l :=
  totals_empty.addFiles l

/-! ## Feeding files into a snapshot -/

/-- A call that feeds listed files into a snapshot: one file, or a chunk of files. -/
inductive Feed where
  | one (f : ListedFile)
  | chunk (fs : List ListedFile)

/-- The files that a call feeds. -/
def Feed.files : Feed → List ListedFile
  | one f => [f]
  | chunk fs => fs

/-- The snapshot after a call. -/
def feed (s : Snapshot) : Feed → Snapshot
  | .one f => s.addFile f.report
  | .chunk fs => s.addFiles (fs.map ListedFile.report)

/-- The snapshot after calls in a row, without files at first. -/
def ofFeeds (feeds : List Feed) : Snapshot :=
  feeds.foldl feed empty

/-- A call adds its files to the totals. -/
theorem Totals.feed {s : Snapshot} {l : List ListedFile} (h : s.Totals l) (d : Feed) :
    (s.feed d).Totals (l ++ d.files) := by
  cases d with
  | one f => exact h.addFile f
  | chunk fs => exact h.addFiles fs

theorem Totals.foldl_feed {s : Snapshot} {l : List ListedFile} (h : s.Totals l)
    (feeds : List Feed) : (feeds.foldl Snapshot.feed s).Totals (l ++ feeds.flatMap Feed.files) := by
  induction feeds generalizing s l with
  | nil => simpa using h
  | cons d feeds ih =>
      have hnext := ih (h.feed d)
      rwa [List.append_assoc, ← List.flatMap_cons] at hnext

/-- A snapshot that is fed has the totals of everything that it was fed. -/
theorem totals_ofFeeds (feeds : List Feed) : (ofFeeds feeds).Totals (feeds.flatMap Feed.files) :=
  totals_empty.foldl_feed feeds

/-- Every way of feeding listed files into a snapshot, in any order and in calls of any size, gives
the snapshot of the list. -/
theorem ofFeeds_eq_ofListing {l : List ListedFile} {feeds : List Feed}
    (h : Rearranged l (feeds.flatMap Feed.files)) : ofFeeds feeds = ofListing l :=
  ((totals_ofListing l).unique (totals_ofFeeds feeds) h).symm

end Snapshot
end CoverageWindows
