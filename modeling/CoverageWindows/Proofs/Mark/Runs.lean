import CoverageWindows.Mark.Reconstruct
import CoverageWindows.Proofs.Snapshot.Collect
import Mathlib.Data.List.Forall2
import Mathlib.Data.List.Induction

/-!
# Runs of marks and their spans

A run of a list of marks is a block of marks with one count that is not zero, and as long as it can
be.  A run has ended if a mark follows it.  Reading the marks in order gives one span for each run
that has ended, in the order of the runs; a span goes from the first mark of its run to the mark
behind it, or to just before that mark if the count there is not zero.

Main results:

- Theorem `emitted_concat`: one more mark adds the span of the run that it ends, if it ends one.
- Theorem `exists_run_of_openRun`: between two marks, the reader holds the run that has not ended.
- Theorem `exists_endedRuns`: the spans are those of the runs that have ended, in order.
- Theorem `spans_of_runs`: the table of a list of marks holds the last span of each place, and if
  the marks go forward it holds as many spans as runs have ended.
-/

namespace CoverageWindows
namespace Mark

/-! ## Runs of a list -/

/-- The marks from index `i` on and before index `j` are a run of count `c`: they have this count,
which is not zero, and neither the mark before them nor the mark behind them has it. -/
structure IsRun (ms : List Mark) (c : Count) (i j : Nat) : Prop where
  nonempty : i < j
  nonzero : c ≠ 0
  same : ∀ k, i ≤ k → k < j → ms[k]?.map Mark.count = some c
  left : i = 0 ∨ ms[i - 1]?.map Mark.count ≠ some c
  right : ms[j]?.map Mark.count ≠ some c

/-- Where a run ends that a mark follows: at the mark if that has count zero, else one column
earlier, or at column zero of the line before. -/
structure IsEnd (next : Mark) (p : Position) : Prop where
  zero : next.count = 0 → p = next.position
  column : next.count ≠ 0 → next.column ≠ 0 →
    p.line = next.line ∧ p.column.toNat = next.column.toNat - 1
  line : next.count ≠ 0 → next.column = 0 → p.line.toNat = next.line.toNat - 1 ∧ p.column = 0

/-- A counted span is that of the run between two indices. -/
structure IsSpanOf (ms : List Mark) (r : Nat × Nat) (s : CountedSpan) : Prop where
  start : ∃ first, ms[r.1]? = some first ∧ s.count = first.count ∧ s.span.start = first.position
  stop : ∃ next, ms[r.2]? = some next ∧ IsEnd next s.span.stop

namespace IsRun

variable {ms : List Mark} {m : Mark} {c c' : Count} {i i' j j' : Nat}

/-- Of two runs the one that ends first is behind when the other one starts. -/
theorem le_start (h : IsRun ms c i j) (h' : IsRun ms c' i' j') (hlt : j < j') : j ≤ i' := by
  by_contra hover
  have hpos := h.nonempty
  have hc : some c = some c' :=
    (h.same (max i i') (Nat.le_max_left _ _) (by omega)).symm.trans
      (h'.same (max i i') (Nat.le_max_right _ _) (by omega))
  have hnext : ms[j]?.map Mark.count = some c := hc ▸ h'.same j (by omega) hlt
  exact h.right hnext

/-- A run that ends at a mark has one beginning only. -/
theorem start_unique (h : IsRun ms c i j) (h' : IsRun ms c' i' j) : i = i' := by
  have hc : ∀ {d d' : Count} {a a' : Nat}, IsRun ms d a j → IsRun ms d' a' j → d' = d := by
    intro d d' a a' hd hd'
    have h₁ := hd.nonempty
    have h₂ := hd'.nonempty
    exact Option.some.inj
      ((hd'.same (j - 1) (by omega) (by omega)).symm.trans (hd.same (j - 1) (by omega) (by omega)))
  have hle : ∀ {d d' : Count} {a a' : Nat}, IsRun ms d a j → IsRun ms d' a' j → a ≤ a' := by
    intro d d' a a' hd hd'
    by_contra hlt
    have hend := hd.nonempty
    have hbefore := hd'.same (a - 1) (by omega) (by omega)
    rw [hc hd hd'] at hbefore
    rcases hd.left with hzero | hleft
    · omega
    · exact hleft hbefore
  exact Nat.le_antisymm (hle h h') (hle h' h)

/-! ### One more mark -/

/-- A mark at the end changes no run before it, but goes on with the last one if it has its
count. -/
theorem concat_iff (hj : j ≤ ms.length) :
    IsRun (ms ++ [m]) c i j ↔ IsRun ms c i j ∧ (j = ms.length → m.count ≠ c) := by
  have hget : ∀ k, k < ms.length → (ms ++ [m])[k]? = ms[k]? :=
    fun k hk => List.getElem?_append_left hk
  have hright : (ms ++ [m])[j]?.map Mark.count ≠ some c ↔
      ms[j]?.map Mark.count ≠ some c ∧ (j = ms.length → m.count ≠ c) := by
    rcases Nat.lt_or_eq_of_le hj with hlt | heq
    · simp [hget j hlt, Nat.ne_of_lt hlt]
    · simp [heq]
  have hsame : (∀ k, i ≤ k → k < j → (ms ++ [m])[k]?.map Mark.count = some c) ↔
      ∀ k, i ≤ k → k < j → ms[k]?.map Mark.count = some c := by
    refine forall_congr' fun k => forall_congr' fun _ => forall_congr' fun hk => ?_
    rw [hget k (by omega)]
  constructor
  · intro h
    have hlt := h.nonempty
    refine ⟨⟨hlt, h.nonzero, hsame.1 h.same, ?_, (hright.1 h.right).1⟩, (hright.1 h.right).2⟩
    rw [← hget (i - 1) (by omega)]
    exact h.left
  · rintro ⟨h, hnew⟩
    have hlt := h.nonempty
    refine ⟨hlt, h.nonzero, hsame.2 h.same, ?_, hright.2 ⟨h.right, hnew⟩⟩
    rw [hget (i - 1) (by omega)]
    exact h.left

/-- A mark goes on with the run that reaches it, if it has its count. -/
theorem concat_same (h : IsRun ms c i ms.length) (hm : m.count = c) :
    IsRun (ms ++ [m]) c i (ms ++ [m]).length := by
  have hlt := h.nonempty
  refine ⟨by simp; omega, h.nonzero, ?_, ?_, by simp⟩
  · intro k hik hk
    rcases Nat.lt_or_ge k ms.length with hold | hnew
    · rw [List.getElem?_append_left hold]
      exact h.same k hik hold
    · obtain rfl : k = ms.length := by simp at hk; omega
      simp [hm]
  · rw [List.getElem?_append_left (by omega)]
    exact h.left

/-- A mark begins a run if it has another count than the mark before it. -/
theorem concat_new (hm : m.count ≠ 0) (hlast : ms.getLast?.map Mark.count ≠ some m.count) :
    IsRun (ms ++ [m]) m.count ms.length (ms ++ [m]).length := by
  refine ⟨by simp, hm, ?_, ?_, by simp⟩
  · intro k hik hk
    obtain rfl : k = ms.length := by simp at hk; omega
    simp
  · rcases Nat.eq_zero_or_pos ms.length with hzero | hpos
    · exact Or.inl hzero
    · rw [List.getElem?_append_left (by omega), ← List.getLast?_eq_getElem?]
      exact Or.inr hlast

end IsRun

/-! ## Reading one more mark -/

/-- The run that a reader holds after one more mark. -/
def advance (r : Option Run) (m : Mark) : Option Run :=
  match r with
  | none => m.run?
  | some x => if m.count = x.count then some x else m.run?

/-- The span that one more mark brings out. -/
def ended (r : Option Run) (m : Mark) : List CountedSpan :=
  match r with
  | none => []
  | some x => if m.count = x.count then [] else [x.until m.runEnd]

/-- The run that a reader holds after a list of marks. -/
def openRun (ms : List Mark) : Option Run := ms.foldl advance none

theorem emittedFrom_cons (r : Option Run) (m : Mark) (ms : List Mark) :
    emittedFrom r (m :: ms) = ended r m ++ emittedFrom (advance r m) ms := by
  cases r with
  | none => rfl
  | some x =>
      rw [emittedFrom, ended, advance]
      split <;> rfl

/-- A mark behind the others adds the span that ends there, if one does. -/
theorem emittedFrom_concat (r : Option Run) (ms : List Mark) (m : Mark) :
    emittedFrom r (ms ++ [m]) = emittedFrom r ms ++ ended (ms.foldl advance r) m := by
  induction ms generalizing r with
  | nil => simp [emittedFrom_cons, emittedFrom]
  | cons x ms ih =>
      rw [List.cons_append, emittedFrom_cons, ih, emittedFrom_cons, List.foldl_cons,
        List.append_assoc]

/-- One more mark adds the span of the run that it ends, if it ends one. -/
theorem emitted_concat (ms : List Mark) (m : Mark) :
    emitted (ms ++ [m]) = emitted ms ++ ended (openRun ms) m :=
  emittedFrom_concat none ms m

@[simp]
theorem openRun_concat (ms : List Mark) (m : Mark) :
    openRun (ms ++ [m]) = advance (openRun ms) m := by
  simp [openRun]

/-- A mark begins a run only with a count. -/
theorem count_of_run? {m : Mark} {x : Run} (h : m.run? = some x) :
    m.count ≠ 0 ∧ x = ⟨m.position, m.count⟩ := by
  rw [run?] at h
  split at h
  · cases h
  · exact ⟨‹_›, (Option.some.inj h).symm⟩

/-- The reader holds a run exactly if the last mark has a count that is not zero, and it is of this
count. -/
theorem count_openRun (ms : List Mark) :
    (openRun ms).map Run.count = (ms.getLast?.map Mark.count).filter (· ≠ 0) := by
  have hrun : ∀ m : Mark, m.run?.map Run.count = (some m.count).filter (· ≠ 0) := by
    intro m
    rw [run?]
    split <;> simp_all [Option.filter]
  induction ms using List.reverseRecOn with
  | nil => rfl
  | append_singleton ms m ih =>
      rw [openRun_concat, List.getLast?_concat, Option.map_some]
      cases hopen : openRun ms with
      | none => exact hrun m
      | some x =>
          rw [hopen, Option.map_some] at ih
          have hx : x.count ≠ 0 := by
            simpa using (Option.filter_eq_some_iff.1 ih.symm).2
          rw [advance]
          split
          · rename_i hm
            simp [Option.filter, hm, hx]
          · exact hrun m

/-- Between two marks, the reader holds the run that has not ended. -/
theorem exists_run_of_openRun {ms : List Mark} {x : Run} (h : openRun ms = some x) :
    ∃ i first, IsRun ms x.count i ms.length ∧ ms[i]? = some first ∧ first.position = x.start := by
  induction ms using List.reverseRecOn generalizing x with
  | nil => cases h
  | append_singleton ms m ih =>
      -- a mark that begins a run begins it behind all marks before
      have hnew : m.run? = some x → ms.getLast?.map Mark.count ≠ some m.count →
          ∃ i first, IsRun (ms ++ [m]) x.count i (ms ++ [m]).length ∧
            (ms ++ [m])[i]? = some first ∧ first.position = x.start := by
        intro hrun hlast
        obtain ⟨hm, rfl⟩ := count_of_run? hrun
        exact ⟨ms.length, m, IsRun.concat_new hm hlast, by simp, rfl⟩
      have hcount := count_openRun ms
      rw [openRun_concat] at h
      cases hopen : openRun ms with
      | none =>
          rw [hopen] at h hcount
          refine hnew h fun hlast => ?_
          rw [hlast] at hcount
          simp [Option.filter, (count_of_run? h).1] at hcount
      | some y =>
          rw [hopen] at h hcount
          rw [advance] at h
          split at h
          · rename_i hm
            obtain rfl := Option.some.inj h
            rcases ih hopen with ⟨i, first, hrun, hfirst, hstart⟩
            have hi : i < ms.length := hrun.nonempty
            exact ⟨i, first, hrun.concat_same hm,
              (List.getElem?_append_left hi).trans hfirst, hstart⟩
          · rename_i hm
            refine hnew h fun hlast => ?_
            rw [hlast] at hcount
            have hy := (Option.filter_eq_some_iff.1 hcount.symm).1
            exact hm (Option.some.inj hy)

/-- A run that has not ended is the one that the reader holds. -/
theorem IsRun.exists_openRun {ms : List Mark} {c : Count} {i : Nat} (h : IsRun ms c i ms.length) :
    ∃ x, openRun ms = some x ∧ x.count = c := by
  have hlast : ms.getLast?.map Mark.count = some c := by
    have hlt := h.nonempty
    rw [List.getLast?_eq_getElem?]
    exact h.same _ (by omega) (by omega)
  have hcount := count_openRun ms
  rw [hlast] at hcount
  simpa [Option.filter, h.nonzero] using hcount

/-! ## The spans of all runs that have ended -/

/-- A run ends where it is said to end. -/
theorem isEnd_runEnd (m : Mark) : IsEnd m m.runEnd := by
  have hpred : ∀ n : UInt32, n ≠ 0 → (n - 1).toNat = n.toNat - 1 := by
    intro n hn
    have hpos : 1 ≤ n.toNat := Nat.one_le_iff_ne_zero.2 fun h => hn (UInt32.toNat_inj.1 h)
    exact UInt32.toNat_sub_of_le n 1 (UInt32.le_iff_toNat_le.2 hpos)
  refine ⟨?_, ?_, ?_⟩
  · intro hzero
    rw [runEnd, if_pos hzero]
  · intro hcount hcolumn
    rw [runEnd, if_neg hcount, stepBack, position, if_neg hcolumn]
    exact ⟨rfl, hpred m.column hcolumn⟩
  · intro hcount hcolumn
    rw [runEnd, if_neg hcount, stepBack, position, if_pos hcolumn]
    by_cases hline : m.line = 0
    · simp [hline]
    · simp [hline, hpred m.line hline]

/-- The span of a run stays so when marks are added. -/
theorem IsSpanOf.concat {ms : List Mark} {r : Nat × Nat} {s : CountedSpan} (h : IsSpanOf ms r s)
    (m : Mark) : IsSpanOf (ms ++ [m]) r s := by
  have hget : ∀ {k : Nat} {x : Mark}, ms[k]? = some x → (ms ++ [m])[k]? = some x := by
    intro k x hx
    exact (List.getElem?_append_left (List.getElem?_eq_some_iff.1 hx).1).trans hx
  rcases h.start with ⟨first, hfirst, hspan⟩
  rcases h.stop with ⟨next, hnext, hend⟩
  exact ⟨⟨first, hget hfirst, hspan⟩, ⟨next, hget hnext, hend⟩⟩

/-- The span of a run that a mark ends. -/
theorem isSpanOf_until {ms : List Mark} {m first : Mark} {x : Run} {i : Nat}
    (h : IsRun ms x.count i ms.length) (hfirst : ms[i]? = some first)
    (hstart : first.position = x.start) :
    IsSpanOf (ms ++ [m]) (i, ms.length) (x.until m.runEnd) := by
  have hcount : first.count = x.count := by
    have hsame := h.same i (Nat.le_refl i) h.nonempty
    rw [hfirst] at hsame
    exact Option.some.inj hsame
  refine ⟨⟨first, ?_, hcount.symm, hstart.symm⟩, ⟨m, by simp, isEnd_runEnd m⟩⟩
  exact (List.getElem?_append_left h.nonempty).trans hfirst

/-- The runs of a list that have ended, each a pair of indices, in order. -/
structure EndedRuns (ms : List Mark) (runs : List (Nat × Nat)) : Prop where
  mem_iff : ∀ i j, (i, j) ∈ runs ↔ j < ms.length ∧ ∃ c, IsRun ms c i j
  ordered : runs.Pairwise fun r r' => r.2 ≤ r'.1

namespace EndedRuns

variable {ms : List Mark} {runs : List (Nat × Nat)} {m : Mark}

theorem nil : EndedRuns [] [] where
  mem_iff := by simp
  ordered := .nil

/-- After one more mark, a run has ended if it had before, or if the mark ends it. -/
theorem concat_iff (h : EndedRuns ms runs) (i j : Nat) :
    (j < (ms ++ [m]).length ∧ ∃ c, IsRun (ms ++ [m]) c i j) ↔
      (i, j) ∈ runs ∨ (j = ms.length ∧ ∃ c, IsRun ms c i j ∧ m.count ≠ c) := by
  rw [h.mem_iff, List.length_append, List.length_singleton, Nat.lt_succ_iff_lt_or_eq]
  constructor
  · rintro ⟨hlt | heq, c, hrun⟩
    · exact Or.inl ⟨hlt, c, ((IsRun.concat_iff (Nat.le_of_lt hlt)).1 hrun).1⟩
    · have hboth := (IsRun.concat_iff (Nat.le_of_eq heq)).1 hrun
      exact Or.inr ⟨heq, c, hboth.1, hboth.2 heq⟩
  · rintro (⟨hlt, c, hrun⟩ | ⟨heq, c, hrun, hm⟩)
    · exact ⟨Or.inl hlt, c, (IsRun.concat_iff (Nat.le_of_lt hlt)).2
        ⟨hrun, fun h => absurd h (Nat.ne_of_lt hlt)⟩⟩
    · exact ⟨Or.inr heq, c, (IsRun.concat_iff (Nat.le_of_eq heq)).2 ⟨hrun, fun _ => hm⟩⟩

/-- A mark that ends a run. -/
theorem concat_ended (h : EndedRuns ms runs) {c : Count} {i : Nat} (hrun : IsRun ms c i ms.length)
    (hm : m.count ≠ c) : EndedRuns (ms ++ [m]) (runs ++ [(i, ms.length)]) where
  mem_iff i' j' := by
    rw [h.concat_iff, List.mem_append, List.mem_singleton, Prod.mk.injEq]
    refine or_congr_right ⟨?_, ?_⟩
    · rintro ⟨rfl, rfl⟩
      exact ⟨rfl, c, hrun, hm⟩
    · rintro ⟨rfl, c', hrun', -⟩
      exact ⟨hrun'.start_unique hrun, rfl⟩
  ordered := by
    refine List.pairwise_append.2 ⟨h.ordered, List.pairwise_singleton _ _, ?_⟩
    rintro ⟨i', j'⟩ hr r hr'
    rcases (h.mem_iff i' j').1 hr with ⟨hlt, c', hrun'⟩
    rw [List.mem_singleton.1 hr']
    exact hrun'.le_start hrun hlt

/-- A mark that ends no run. -/
theorem concat_open (h : EndedRuns ms runs)
    (hm : ∀ c i, IsRun ms c i ms.length → m.count = c) : EndedRuns (ms ++ [m]) runs where
  mem_iff i j := by
    rw [h.concat_iff, or_iff_left]
    rintro ⟨rfl, c, hrun, hne⟩
    exact hne (hm c i hrun)
  ordered := h.ordered

end EndedRuns

/-- The spans are those of the runs that have ended, in order. -/
theorem exists_endedRuns (ms : List Mark) :
    ∃ runs, EndedRuns ms runs ∧ List.Forall₂ (IsSpanOf ms) runs (emitted ms) := by
  induction ms using List.reverseRecOn with
  | nil => exact ⟨[], .nil, .nil⟩
  | append_singleton ms m ih =>
      rcases ih with ⟨runs, hruns, hspans⟩
      have hold : List.Forall₂ (IsSpanOf (ms ++ [m])) runs (emitted ms) :=
        hspans.imp fun r s h => h.concat m
      rw [emitted_concat]
      by_cases hnew : ∃ x, openRun ms = some x ∧ m.count ≠ x.count
      · rcases hnew with ⟨x, hopen, hm⟩
        rcases exists_run_of_openRun hopen with ⟨i, first, hrun, hfirst, hstart⟩
        refine ⟨runs ++ [(i, ms.length)], hruns.concat_ended hrun hm, ?_⟩
        rw [hopen, ended, if_neg hm]
        exact List.rel_append hold (.cons (isSpanOf_until hrun hfirst hstart) .nil)
      · have hnone : ended (openRun ms) m = [] := by
          cases hopen : openRun ms with
          | none => rfl
          | some x => simpa [ended, hopen] using hnew
        rw [hnone, List.append_nil]
        refine ⟨runs, hruns.concat_open fun c i hrun => ?_, hold⟩
        rcases hrun.exists_openRun with ⟨x, hopen, rfl⟩
        exact not_not.1 fun hm => hnew ⟨x, hopen, hm⟩

/-! ## Marks that go forward -/

/-- Where the marks go forward, spans of different runs start at different places. -/
theorem nodup_spans {ms : List Mark} {runs : List (Nat × Nat)} {ss : List CountedSpan}
    (hspans : List.Forall₂ (IsSpanOf ms) runs ss) (hruns : ∀ r ∈ runs, r.1 < r.2)
    (horder : runs.Pairwise fun r r' => r.2 ≤ r'.1)
    (hforward : ms.Pairwise fun m m' => m.position.before m'.position = true) :
    (ss.map CountedSpan.span).Nodup := by
  rw [List.nodup_iff_pairwise_ne, List.pairwise_map, List.pairwise_iff_getElem]
  intro a b ha hb hab heq
  have hlength := hspans.length_eq
  have hra : a < runs.length := by omega
  have hrb : b < runs.length := by omega
  have hspana : IsSpanOf ms runs[a] ss[a] := hspans.get hra ha
  have hspanb : IsSpanOf ms runs[b] ss[b] := hspans.get hrb hb
  rcases hspana.start with ⟨x, hx, -, hstartx⟩
  rcases hspanb.start with ⟨y, hy, -, hstarty⟩
  have hlt : runs[a].1 < runs[b].1 :=
    Nat.lt_of_lt_of_le (hruns _ (List.getElem_mem hra))
      (List.pairwise_iff_getElem.1 horder a b hra hrb hab)
  rcases List.getElem?_eq_some_iff.1 hx with ⟨hxlt, rfl⟩
  rcases List.getElem?_eq_some_iff.1 hy with ⟨hylt, rfl⟩
  have hbefore := List.pairwise_iff_getElem.1 hforward _ _ hxlt hylt hlt
  have hsame : ms[runs[a].1].position = ms[runs[b].1].position := by
    rw [← hstartx, ← hstarty, heq]
  rw [hsame] at hbefore
  simp [Position.before] at hbefore

/-! ## The table of spans -/

/-- The spans that are reconstructed stand under themselves. -/
theorem keyedBy_reconstruct (ms : List Mark) : (reconstruct ms).KeyedBy CountedSpan.span :=
  Table.keyedBy_empty.putAll (emitted ms)

/-- Of the spans at one place the last one stands. -/
theorem get?_reconstruct (ms : List Mark) (k : Span) :
    (reconstruct ms).get? k = ((emitted ms).filter fun s => s.span = k).getLast? :=
  (Table.get?_putAll Table.keyedBy_empty (emitted ms) k).trans Option.or_none

/-- What the table holds came out of the marks. -/
theorem mem_emitted_of_get? {ms : List Mark} {k : Span} {s : CountedSpan}
    (h : (reconstruct ms).get? k = some s) : s ∈ emitted ms ∧ s.span = k := by
  rw [get?_reconstruct] at h
  have hmem := List.mem_filter.1 (List.mem_of_getLast? h)
  exact ⟨hmem.1, of_decide_eq_true hmem.2⟩

/-- If all places differ, the table holds every span. -/
theorem size_reconstruct {ms : List Mark} (h : ((emitted ms).map CountedSpan.span).Nodup) :
    (reconstruct ms).size = (emitted ms).length := by
  have hord := (keyedBy_reconstruct ms).ordered
  have hmem : ∀ k, k ∈ (reconstruct ms).keys ↔ k ∈ (emitted ms).map CountedSpan.span := by
    intro k
    rw [Table.mem_keys_iff hord, List.mem_map]
    constructor
    · rintro ⟨s, hs⟩
      exact ⟨s, mem_emitted_of_get? hs⟩
    · rintro ⟨s, hs, rfl⟩
      have hne : (emitted ms).filter (fun s' => s'.span = s.span) ≠ [] :=
        List.ne_nil_of_mem (List.mem_filter.2 ⟨hs, decide_eq_true rfl⟩)
      exact ⟨_, (get?_reconstruct ms s.span).trans (List.getLast?_eq_some_getLast hne)⟩
  have hperm : (reconstruct ms).keys.Perm ((emitted ms).map CountedSpan.span) :=
    (List.perm_ext_iff_of_nodup (Table.nodup_keys hord) h).2 hmem
  simpa [Table.keys, Table.size] using hperm.length_eq

/-! ## Flags -/

/-- A mark without its flags. -/
def bare (m : Mark) : Mark :=
  { m with hasCount := false, isRegionEntry := false, isGapRegion := false }

/-- The flags of marks do not matter. -/
theorem emittedFrom_map_bare (r : Option Run) (ms : List Mark) :
    emittedFrom r (ms.map bare) = emittedFrom r ms := by
  induction ms generalizing r with
  | nil => rfl
  | cons m ms ih =>
      have hended : ended r m.bare = ended r m := rfl
      have hadvance : advance r m.bare = advance r m := rfl
      rw [List.map_cons, emittedFrom_cons, emittedFrom_cons, ih, hended, hadvance]

/-- The runs of a list that have ended, each a pair of indices, come one after the other, and the
spans of the list are theirs, one for each and in this order.  The table of the list has its spans
put in one after the other, so that of those at one place the last one stands.  Where the marks go
forward no two spans are at one place, and the table has as many spans as runs have ended.  No span
has count zero, and the flags of the marks do not matter. -/
theorem spans_of_runs (ms : List Mark) :
    ∃ runs : List (Nat × Nat),
      (∀ i j, (i, j) ∈ runs ↔ j < ms.length ∧ ∃ c, IsRun ms c i j) ∧
      runs.Pairwise (fun r r' => r.2 ≤ r'.1) ∧
      List.Forall₂ (IsSpanOf ms) runs (emitted ms) ∧
      reconstruct ms = (emitted ms).foldl (fun t s => t.insert s.span s) Table.empty ∧
      (∀ k, (reconstruct ms).get? k = ((emitted ms).filter fun s => s.span = k).getLast?) ∧
      (ms.Pairwise (fun m m' => m.position.before m'.position = true) →
        ((emitted ms).map CountedSpan.span).Nodup ∧ (reconstruct ms).size = runs.length) ∧
      (∀ s ∈ emitted ms, s.count ≠ 0) ∧
      (∀ s ∈ (reconstruct ms).values, s.count ≠ 0) ∧
      ∀ ms' : List Mark, ms'.map bare = ms.map bare → reconstruct ms' = reconstruct ms := by
  rcases exists_endedRuns ms with ⟨runs, ⟨hmem, horder⟩, hspans⟩
  refine ⟨runs, hmem, horder, hspans, rfl, get?_reconstruct ms, ?_, ?_, ?_, ?_⟩
  · intro hforward
    have hruns : ∀ r ∈ runs, r.1 < r.2 := by
      rintro ⟨i, j⟩ hr
      rcases ((hmem i j).1 hr).2 with ⟨c, hrun⟩
      exact hrun.nonempty
    have hnodup := nodup_spans hspans hruns horder hforward
    exact ⟨hnodup, (size_reconstruct hnodup).trans hspans.length_eq.symm⟩
  · intro s hs
    exact count_ne_zero_of_mem_emitted hs
  · intro s hs
    rcases List.mem_map.1 hs with ⟨⟨k, s'⟩, he, rfl⟩
    have hget := (Table.mem_entries_iff (keyedBy_reconstruct ms).ordered k s').1 he
    exact count_ne_zero_of_mem_emitted (mem_emitted_of_get? hget).1
  · intro ms' hbare
    have hemitted : emitted ms' = emitted ms := by
      rw [emitted, emitted, ← emittedFrom_map_bare none ms', hbare, emittedFrom_map_bare]
    rw [reconstruct, reconstruct, hemitted]

/-- Marks that go forward: a run over two marks, a run that ends at column zero, a mark of count
zero, and a run that has not ended. -/
theorem spans_of_runs_forward :
    let ms : List Mark :=
      [.entry 1 5 3, .entry 2 1 3, .entry 6 0 7, .ending 8 2, .entry 9 1 1]
    ms.Pairwise (fun m m' => m.position.before m'.position = true) ∧
      (reconstruct ms).size = 2 ∧
      (reconstruct ms).get? ⟨1, 5, 5, 0⟩ = some ⟨⟨1, 5, 5, 0⟩, 3⟩ ∧
      (reconstruct ms).get? ⟨6, 0, 8, 2⟩ = some ⟨⟨6, 0, 8, 2⟩, 7⟩ := by
  intro ms
  have hforward : ms.Pairwise fun m m' => m.position.before m'.position = true := by decide
  rcases spans_of_runs ms with ⟨runs, -, -, hspans, -, hget, hsize, -⟩
  have hlength : runs.length = 2 := hspans.length_eq
  refine ⟨hforward, (hsize hforward).2.trans hlength, ?_, ?_⟩
  · rw [hget]
    decide
  · rw [hget]
    decide

end Mark
end CoverageWindows
