import CoverageWindows.Proofs.Mark.Runs
import Mathlib.Data.List.Nodup

/-!
# Positions in spans

Marks that go forward say for each position how often it has run: as often as the last mark at or
before it counts.  The spans of the marks say the same, but for the positions right before a mark
that begins another run: a run ends one column before such a mark, or at column zero of the line
before it.  On that line a run may have begun at a later column, and then its span ends before it
starts.

Main results:

- Theorem `IsRun.exists_of_getElem?`: each mark with a count that is not zero is in a run.
- Theorem `IsEnd.before_iff`: which positions before a mark are behind the end that it sets.
- Theorem `spans_at_position`: the spans that contain a position, told by the marks around it.
- Theorem `ends_of_spans`: which spans end before they start.
-/

namespace CoverageWindows
namespace Mark

/-! ## Marks around a position -/

/-- The last mark at or before a position. -/
def lastAt? (ms : List Mark) (p : Position) : Option Mark :=
  (ms.filter fun m => !p.before m.position).getLast?

/-- The first mark behind a position that has another count. -/
def nextChange? (ms : List Mark) (p : Position) (c : Count) : Option Mark :=
  ms.find? fun m => p.before m.position && m.count != c

/-- The positions before a mark that the run before it loses if the mark begins another run: the one
a column earlier, or all from column zero of the line before on if the mark is at column zero. -/
def GivesUp (next : Mark) (p : Position) : Prop :=
  (next.column ≠ 0 ∧ p.line = next.line ∧ p.column.toNat = next.column.toNat - 1) ∨
    (next.column = 0 ∧ next.line.toNat - 1 ≤ p.line.toNat ∧ p.before next.position = true)

instance (next : Mark) (p : Position) : Decidable (GivesUp next p) :=
  inferInstanceAs (Decidable (_ ∨ _))

/-- The marks up to index `k` are those at or before a position. -/
def LiesAt (ms : List Mark) (p : Position) (k : Nat) : Prop :=
  ∀ n m, ms[n]? = some m → (p.before m.position = false ↔ n ≤ k)

/-- What the last mark at or before a position is: the marks after it are behind the position. -/
theorem exists_append_of_lastAt? {ms : List Mark} {p : Position} {m : Mark}
    (h : lastAt? ms p = some m) :
    ∃ a b, ms = a ++ m :: b ∧ p.before m.position = false ∧
      ∀ x ∈ b, p.before x.position = true := by
  rcases List.getLast?_eq_some_iff.1 h with ⟨earlier, hearlier⟩
  rcases List.filter_eq_append_iff.1 hearlier with ⟨a, rest, rfl, -, hrest⟩
  rcases List.filter_eq_cons_iff.1 hrest with ⟨a', b, rfl, -, hm, hb⟩
  refine ⟨a ++ a', b, (List.append_assoc _ _ _).symm, by simpa using hm, fun x hx => ?_⟩
  simpa using List.filter_eq_nil_iff.1 hb x hx

/-- A mark at or before a position is the last one, or there is a later one that is. -/
theorem exists_lastAt? {ms : List Mark} {p : Position} {m : Mark} (hm : m ∈ ms)
    (hat : p.before m.position = false) : ∃ x, lastAt? ms p = some x := by
  have hkept : m ∈ ms.filter fun x => !p.before x.position :=
    List.mem_filter.2 ⟨hm, by simpa using hat⟩
  exact ⟨_, List.getLast?_eq_some_getLast (List.ne_nil_of_mem hkept)⟩

section Forward

variable {ms : List Mark} (hforward : ms.Pairwise fun m m' => m.position.before m'.position = true)
include hforward

/-- Marks in order have their positions in order. -/
theorem before_of_getElem? {i j : Nat} {m m' : Mark} (hi : ms[i]? = some m) (hj : ms[j]? = some m')
    (hij : i < j) : m.position.before m'.position = true := by
  rcases List.getElem?_eq_some_iff.1 hi with ⟨hilt, rfl⟩
  rcases List.getElem?_eq_some_iff.1 hj with ⟨hjlt, rfl⟩
  exact List.pairwise_iff_getElem.1 hforward i j hilt hjlt hij

/-- The index of the last mark at or before a position tells the marks behind the position from the
others. -/
theorem exists_liesAt {p : Position} {m : Mark} (h : lastAt? ms p = some m) :
    ∃ k, ms[k]? = some m ∧ LiesAt ms p k := by
  rcases exists_append_of_lastAt? h with ⟨a, b, rfl, hat, hbehind⟩
  have hmark : (a ++ m :: b)[a.length]? = some m := by simp
  refine ⟨a.length, hmark, fun n x hx => ?_⟩
  rcases Nat.lt_trichotomy n a.length with hlt | rfl | hgt
  · -- a position before an earlier mark would be before the last one
    refine iff_of_true ?_ (Nat.le_of_lt hlt)
    by_contra hbefore
    rw [Bool.not_eq_false] at hbefore
    have hchain := Position.before_trans hbefore (before_of_getElem? hforward hx hmark hlt)
    rw [hat] at hchain
    cases hchain
  · obtain rfl := Option.some.inj (hx.symm.trans hmark)
    exact iff_of_true hat (Nat.le_refl _)
  · have hmem : x ∈ b := by
      rw [List.getElem?_append_right (Nat.le_of_lt hgt),
        ← Nat.succ_pred_eq_of_pos (Nat.sub_pos_of_lt hgt), List.getElem?_cons_succ] at hx
      exact List.mem_of_getElem? hx
    rw [hbehind x hmem]
    exact iff_of_false Bool.noConfusion (Nat.not_le_of_gt hgt)

end Forward

/-! ## Runs at an index -/

namespace IsRun

variable {ms : List Mark} {c c' : Count} {i i' j j' k : Nat}

/-- Each mark with a count that is not zero is in a run. -/
theorem exists_of_getElem? (hk : ms[k]?.map Mark.count = some c) (hc : c ≠ 0) :
    ∃ i j, i ≤ k ∧ k < j ∧ j ≤ ms.length ∧ IsRun ms c i j := by
  induction ms using List.reverseRecOn generalizing k with
  | nil => simp at hk
  | append_singleton ms m ih =>
      rcases Nat.lt_or_ge k ms.length with hold | hnew
      · rw [List.getElem?_append_left hold] at hk
        rcases ih hk with ⟨i, j, hik, hkj, hj, hrun⟩
        by_cases hgoes : j = ms.length ∧ m.count = c
        · rcases hgoes with ⟨rfl, hm⟩
          exact ⟨i, _, hik, by simp; omega, Nat.le_refl _, hrun.concat_same hm⟩
        · rw [not_and] at hgoes
          exact ⟨i, j, hik, hkj, by simp; omega, (concat_iff hj).2 ⟨hrun, hgoes⟩⟩
      · have hlt : k < (ms ++ [m]).length := by
          rcases Option.map_eq_some_iff.1 hk with ⟨x, hx, -⟩
          exact (List.getElem?_eq_some_iff.1 hx).1
        obtain rfl : k = ms.length := by simp at hlt; omega
        have hm : m.count = c := by simpa using hk
        by_cases hlast : ms.getLast?.map Mark.count = some c
        · -- the mark goes on with the run of the one before
          rw [List.getLast?_eq_getElem?] at hlast
          rcases ih hlast with ⟨i, j, hi, hj, hle, hrun⟩
          have hpos : i < j := hrun.nonempty
          obtain rfl : j = ms.length := by omega
          exact ⟨i, _, by omega, hlt, Nat.le_refl _, hrun.concat_same hm⟩
        · subst hm
          exact ⟨ms.length, _, Nat.le_refl _, hlt, Nat.le_refl _, concat_new hc hlast⟩

/-- A run has ended if the last mark of all has count zero. -/
theorem lt_length (h : IsRun ms c i j) (hj : j ≤ ms.length)
    (hlast : ∀ m ∈ ms.getLast?, m.count = 0) : j < ms.length := by
  refine Nat.lt_of_le_of_ne hj fun heq => ?_
  have hpos := h.nonempty
  have hsame := h.same (ms.length - 1) (by omega) (by omega)
  rw [← List.getLast?_eq_getElem?] at hsame
  rcases Option.map_eq_some_iff.1 hsame with ⟨m, hm, hcount⟩
  exact h.nonzero (hcount.symm.trans (hlast m hm))

/-- No index is in two runs. -/
theorem unique (h : IsRun ms c i j) (h' : IsRun ms c' i' j') (hik : i ≤ k) (hkj : k < j)
    (hik' : i' ≤ k) (hkj' : k < j') : i = i' ∧ j = j' := by
  have hend : j = j' := by
    rcases Nat.lt_trichotomy j j' with hlt | heq | hgt
    · have hle := h.le_start h' hlt
      omega
    · exact heq
    · have hle := h'.le_start h hgt
      omega
  subst hend
  exact ⟨h.start_unique h', rfl⟩

end IsRun

/-! ## Ends of runs -/

theorem column_eq_zero_iff (m : Mark) : m.column = 0 ↔ m.column.toNat = 0 :=
  UInt32.toNat_inj.symm

theorem before_position_iff (m : Mark) (p : Position) :
    p.before m.position = true ↔ p.line.toNat < m.line.toNat ∨
      (p.line.toNat = m.line.toNat ∧ p.column.toNat < m.column.toNat) :=
  Position.before_iff p m.position

namespace IsEnd

variable {next : Mark} {e e' p : Position}

/-- Where a run ends, in numbers. -/
theorem toNat_cases (h : IsEnd next e) :
    (next.count = 0 ∧ e = next.position) ∨
      (next.count ≠ 0 ∧ next.column.toNat ≠ 0 ∧ e.line.toNat = next.line.toNat ∧
        e.column.toNat = next.column.toNat - 1) ∨
      (next.count ≠ 0 ∧ next.column.toNat = 0 ∧ e.line.toNat = next.line.toNat - 1 ∧
        e.column.toNat = 0) := by
  by_cases hcount : next.count = 0
  · exact .inl ⟨hcount, h.zero hcount⟩
  · by_cases hcolumn : next.column = 0
    · have hend := h.line hcount hcolumn
      exact .inr (.inr ⟨hcount, next.column_eq_zero_iff.1 hcolumn, hend.1,
        congrArg UInt32.toNat hend.2⟩)
    · have hend := h.column hcount hcolumn
      exact .inr (.inl ⟨hcount, mt next.column_eq_zero_iff.2 hcolumn,
        congrArg UInt32.toNat hend.1, hend.2⟩)

theorem unique (h : IsEnd next e) (h' : IsEnd next e') : e = e' := by
  rcases h.toNat_cases with ⟨hcount, rfl⟩ | ⟨hcount, hend⟩ | ⟨hcount, hend⟩
  · exact (h'.zero hcount).symm
  all_goals
    rcases h'.toNat_cases with ⟨hzero, -⟩ | hend' | hend'
    · exact absurd hzero hcount
    all_goals exact Position.eq_of_toNat (by omega) (by omega)

/-- A position before a mark is before the end that the mark sets, unless the mark gives it up. -/
theorem before_iff (h : IsEnd next e) (hp : p.before next.position = true) :
    p.before e = true ↔ ¬(next.count ≠ 0 ∧ GivesUp next p) := by
  have hgives : GivesUp next p ↔
      (next.column.toNat ≠ 0 ∧ p.line.toNat = next.line.toNat ∧
        p.column.toNat = next.column.toNat - 1) ∨
      (next.column.toNat = 0 ∧ next.line.toNat - 1 ≤ p.line.toNat) := by
    simp only [GivesUp, ne_eq, ← UInt32.toNat_inj, UInt32.toNat_zero, hp, and_true]
  rw [hgives]
  rcases h.toNat_cases with ⟨hcount, rfl⟩ | ⟨hcount, hend⟩ | ⟨hcount, hend⟩
  · simp [hcount, hp]
  all_goals
    rw [before_position_iff] at hp
    rw [Position.before_iff]
    simp only [ne_eq, hcount, not_false_eq_true, true_and]
    omega

/-- The end that a mark sets is before a position that is before the mark in one case only: on the
line before the mark, where the mark is at column zero and the position is not. -/
theorem before_of_iff (h : IsEnd next e) (hp : p.before next.position = true) :
    e.before p = true ↔ next.count ≠ 0 ∧ next.column = 0 ∧
      next.line.toNat = p.line.toNat + 1 ∧ p.column ≠ 0 := by
  have hcolumn : p.column ≠ 0 ↔ p.column.toNat ≠ 0 := not_congr UInt32.toNat_inj.symm
  rw [before_position_iff] at hp
  rw [hcolumn, column_eq_zero_iff, Position.before_iff]
  rcases h.toNat_cases with ⟨hcount, rfl⟩ | ⟨hcount, hend⟩ | ⟨hcount, hend⟩
  · simp only [position, hcount, ne_eq, not_true_eq_false, false_and, iff_false]
    omega
  all_goals
    simp only [ne_eq, hcount, not_false_eq_true, true_and]
    omega

/-- Such a position shares its line with the end. -/
theorem eq_of_before (h : IsEnd next e) (hp : p.before next.position = true)
    (he : e.before p = true) : e = ⟨p.line, 0⟩ := by
  obtain ⟨hcount, hcolumn, hline, -⟩ := (h.before_of_iff hp).1 he
  have hend := h.line hcount hcolumn
  refine Position.eq_of_toNat ?_ (congrArg UInt32.toNat hend.2)
  rw [hend.1, hline, Nat.add_sub_cancel]

/-- A run ends on the line where it begins or on a later one. -/
theorem line_le (h : IsEnd next e) (hp : p.before next.position = true) : p.line ≤ e.line := by
  rw [before_position_iff] at hp
  rw [UInt32.le_iff_toNat_le]
  rcases h.toNat_cases with ⟨-, rfl⟩ | hend | hend
  · simp only [position]
    omega
  all_goals omega

/-- What is before the end is before the mark. -/
theorem before_mark (h : IsEnd next e) (hp : p.before e = true) :
    p.before next.position = true := by
  rw [Position.before_iff] at hp
  rw [before_position_iff]
  rcases h.toNat_cases with ⟨-, rfl⟩ | hend | hend
  · exact hp
  all_goals omega

end IsEnd

/-! ## Spans of runs -/

namespace IsSpanOf

variable {ms : List Mark} {r : Nat × Nat} {s s' : CountedSpan} {p : Position} {k : Nat}

/-- A run has one span. -/
theorem unique (h : IsSpanOf ms r s) (h' : IsSpanOf ms r s') : s = s' := by
  rcases h.start with ⟨first, hfirst, hcount, hstart⟩
  rcases h'.start with ⟨first', hfirst', hcount', hstart'⟩
  rcases h.stop with ⟨next, hnext, hend⟩
  rcases h'.stop with ⟨next', hnext', hend'⟩
  obtain rfl := Option.some.inj (hfirst.symm.trans hfirst')
  obtain rfl := Option.some.inj (hnext.symm.trans hnext')
  have hfrom : s.span.start = s'.span.start := hstart.trans hstart'.symm
  have hto : s.span.stop = s'.span.stop := hend.unique hend'
  rcases s with ⟨⟨sl, sc, el, ec⟩, c⟩
  rcases s' with ⟨⟨sl', sc', el', ec'⟩, c'⟩
  simp only [Span.start, Span.stop, Position.mk.injEq] at hfrom hto
  simp only [CountedSpan.mk.injEq, Span.mk.injEq]
  exact ⟨⟨hfrom.1, hfrom.2, hto.1, hto.2⟩, hcount.trans hcount'.symm⟩

/-- A position in the span of a run has its last mark in the run. -/
theorem index_of_contains (h : IsSpanOf ms r s) (hk : LiesAt ms p k)
    (hp : s.span.contains p = true) : r.1 ≤ k ∧ k < r.2 := by
  rcases h.start with ⟨first, hfirst, -, hstart⟩
  rcases h.stop with ⟨next, hnext, hend⟩
  rw [Span.contains_iff, hstart] at hp
  refine ⟨(hk r.1 first hfirst).1 hp.1, Nat.lt_of_not_le fun hle => ?_⟩
  have hat := (hk r.2 next hnext).2 hle
  rw [hend.before_mark hp.2] at hat
  cases hat

/-- A position with its last mark in a run is in the span of the run, unless the mark behind the run
gives it up. -/
theorem contains_iff_of_index (h : IsSpanOf ms r s) (hk : LiesAt ms p k) (hr : r.1 ≤ k ∧ k < r.2) :
    s.span.contains p = true ↔
      ∀ next, ms[r.2]? = some next → ¬(next.count ≠ 0 ∧ GivesUp next p) := by
  rcases h.start with ⟨first, hfirst, -, hstart⟩
  rcases h.stop with ⟨next, hnext, hend⟩
  have hfrom : p.before s.span.start = false := hstart ▸ (hk r.1 first hfirst).2 hr.1
  have hbefore : p.before next.position = true := by
    by_contra hat
    rw [Bool.not_eq_true] at hat
    exact absurd ((hk r.2 next hnext).1 hat) (Nat.not_le_of_gt hr.2)
  rw [Span.contains_iff, hend.before_iff hbefore, hnext]
  simp [hfrom]

end IsSpanOf

variable {ms : List Mark} {s : CountedSpan} {p : Position}

/-- A span that comes out is that of a run that has ended. -/
theorem exists_run_of_mem_emitted (hs : s ∈ emitted ms) :
    ∃ i j, IsRun ms s.count i j ∧ IsSpanOf ms (i, j) s := by
  rcases exists_endedRuns ms with ⟨runs, hruns, hspans⟩
  rcases List.mem_iff_getElem.1 hs with ⟨n, hn, rfl⟩
  have hn' : n < runs.length := hspans.length_eq ▸ hn
  have hspan : IsSpanOf ms runs[n] (emitted ms)[n] := hspans.get hn' hn
  rcases (hruns.mem_iff runs[n].1 runs[n].2).1 (List.getElem_mem hn') with ⟨-, c, hrun⟩
  rcases hspan.start with ⟨first, hfirst, hcount, -⟩
  have hsame := hrun.same _ (Nat.le_refl _) hrun.nonempty
  rw [hfirst, Option.map_some, Option.some.injEq, ← hcount] at hsame
  exact ⟨runs[n].1, runs[n].2, hsame ▸ hrun, hspan⟩

/-- The span of a run that has ended comes out. -/
theorem IsRun.exists_mem_emitted {c : Count} {i j : Nat} (h : IsRun ms c i j) (hj : j < ms.length) :
    ∃ s ∈ emitted ms, IsSpanOf ms (i, j) s := by
  rcases exists_endedRuns ms with ⟨runs, hruns, hspans⟩
  rcases List.mem_iff_getElem.1 ((hruns.mem_iff i j).2 ⟨hj, c, h⟩) with ⟨n, hn, hr⟩
  have hn' : n < (emitted ms).length := hspans.length_eq ▸ hn
  have hspan : IsSpanOf ms runs[n] (emitted ms)[n] := hspans.get hn hn'
  exact ⟨_, List.getElem_mem hn', hr ▸ hspan⟩

/-- A span that contains a position has a mark at or before it. -/
theorem exists_lastAt?_of_contains (hs : s ∈ emitted ms) (hp : s.span.contains p = true) :
    ∃ m, lastAt? ms p = some m := by
  rcases exists_run_of_mem_emitted hs with ⟨i, j, -, hspan⟩
  rcases hspan.start with ⟨first, hfirst, -, hstart⟩
  rw [Span.contains_iff, hstart] at hp
  exact exists_lastAt? (List.mem_of_getElem? hfirst) hp.1

/-- Behind a run, the first mark of another count is the one that ends it. -/
theorem nextChange?_of_run {c : Count} {i j k : Nat} {next : Mark} (h : IsRun ms c i j)
    (hk : LiesAt ms p k) (hik : i ≤ k) (hkj : k < j) (hnext : ms[j]? = some next) :
    nextChange? ms p c = some next := by
  rcases List.getElem?_eq_some_iff.1 hnext with ⟨hj, hget⟩
  refine List.find?_eq_some_iff_getElem.2 ⟨?_, j, hj, hget, fun n hn => ?_⟩
  · have hbehind : p.before next.position = true := by
      simpa using (hk j next hnext).not.2 (Nat.not_le_of_gt hkj)
    have hother : next.count ≠ c := by
      intro heq
      exact h.right (by rw [hnext, Option.map_some, heq])
    simp [hbehind, hother]
  · have hn' : n < ms.length := Nat.lt_trans hn hj
    have hat := hk n ms[n] (List.getElem?_eq_getElem hn')
    rcases Nat.lt_or_ge k n with hlt | hle
    · have hsame := h.same n (by omega) hn
      rw [List.getElem?_eq_getElem hn', Option.map_some, Option.some.injEq] at hsame
      simp [hsame]
    · simp [hat.2 hle]

/-- Of the spans that come out, only that of the run of its last mark can contain a position. -/
theorem eq_of_contains {s' : CountedSpan} {c : Count} {i j k : Nat} (hk : LiesAt ms p k)
    (hrun : IsRun ms c i j) (hspan : IsSpanOf ms (i, j) s) (hik : i ≤ k) (hkj : k < j)
    (hs' : s' ∈ emitted ms) (hp' : s'.span.contains p = true) : s' = s := by
  rcases exists_run_of_mem_emitted hs' with ⟨i', j', hrun', hspan'⟩
  have hinside := hspan'.index_of_contains hk hp'
  obtain ⟨rfl, rfl⟩ := hrun.unique hrun' hik hkj hinside.1 hinside.2
  exact hspan'.unique hspan

section Forward

variable (hforward : ms.Pairwise fun m m' => m.position.before m'.position = true)
include hforward

/-- Where the marks go forward, the table holds the spans that come out. -/
theorem mem_values_reconstruct_iff : s ∈ (reconstruct ms).values ↔ s ∈ emitted ms := by
  rw [(keyedBy_reconstruct ms).mem_values_iff]
  refine ⟨fun hget => (mem_emitted_of_get? hget).1, fun hs => ?_⟩
  have hnodup : ((emitted ms).map CountedSpan.span).Nodup := by
    rcases exists_endedRuns ms with ⟨runs, hruns, hspans⟩
    refine nodup_spans hspans ?_ hruns.ordered hforward
    rintro ⟨i, j⟩ hr
    rcases (hruns.mem_iff i j).1 hr with ⟨-, c, hrun⟩
    exact hrun.nonempty
  have hkept : s ∈ (emitted ms).filter fun s' => s'.span = s.span :=
    List.mem_filter.2 ⟨hs, decide_eq_true rfl⟩
  have hlast := (get?_reconstruct ms s.span).trans
    (List.getLast?_eq_some_getLast (List.ne_nil_of_mem hkept))
  have hlater := mem_emitted_of_get? hlast
  rw [hlast, List.inj_on_of_nodup_map hnodup hlater.1 hs hlater.2]

/-- A span that contains a position is that of the run of the last mark at or before it. -/
theorem exists_run_of_contains (hs : s ∈ emitted ms) (hp : s.span.contains p = true) :
    ∃ m k i j, lastAt? ms p = some m ∧ ms[k]? = some m ∧ LiesAt ms p k ∧ IsRun ms s.count i j ∧
      IsSpanOf ms (i, j) s ∧ i ≤ k ∧ k < j := by
  rcases exists_lastAt?_of_contains hs hp with ⟨m, hm⟩
  rcases exists_liesAt hforward hm with ⟨k, hmark, hk⟩
  rcases exists_run_of_mem_emitted hs with ⟨i, j, hrun, hspan⟩
  exact ⟨m, k, i, j, hm, hmark, hk, hrun, hspan, hspan.index_of_contains hk hp⟩

/-- A position is in one span of the table at most. -/
theorem length_filter_contains_le (p : Position) :
    ((reconstruct ms).values.filter fun s => s.span.contains p).length ≤ 1 := by
  have hnodup : ((reconstruct ms).values.filter fun s => s.span.contains p).Nodup :=
    (keyedBy_reconstruct ms).nodup_values.filter _
  have hmem : ∀ s ∈ (reconstruct ms).values.filter fun s => s.span.contains p,
      s ∈ emitted ms ∧ s.span.contains p = true := by
    intro s hs
    rw [List.mem_filter, mem_values_reconstruct_iff hforward] at hs
    exact hs
  cases hfound : (reconstruct ms).values.filter fun s => s.span.contains p with
  | nil => exact Nat.zero_le 1
  | cons s rest =>
      cases rest with
      | nil => exact Nat.le_refl 1
      | cons s' rest =>
          rw [hfound] at hnodup hmem
          obtain ⟨hs, hp⟩ := hmem s (by simp)
          obtain ⟨hs', hp'⟩ := hmem s' (by simp)
          rcases exists_run_of_contains hforward hs hp with
            ⟨-, k, i, j, -, -, hk, hrun, hspan, hik, hkj⟩
          have heq := eq_of_contains hk hrun hspan hik hkj hs' hp'
          simp [heq] at hnodup

end Forward

/-- Marks that go forward and end with count zero: a position is in one span at most, which has the
count of the last mark at or before the position.  If that count is not zero the position is in a
span, unless the first mark behind it of another count, which is not zero either, gives the position
up.  If that count is zero, or no mark is at or before the position, the position is in no span. -/
theorem spans_at_position
    (hforward : ms.Pairwise fun m m' => m.position.before m'.position = true)
    (hlast : ∀ m ∈ ms.getLast?, m.count = 0) (p : Position) :
    ((reconstruct ms).values.filter fun s => s.span.contains p).length ≤ 1 ∧
      (∀ s ∈ (reconstruct ms).values, s.span.contains p = true →
        ∃ m, lastAt? ms p = some m ∧ s.count = m.count) ∧
      (∀ m, lastAt? ms p = some m → m.count ≠ 0 →
        ∃ next, nextChange? ms p m.count = some next ∧
          ((∃ s ∈ (reconstruct ms).values, s.span.contains p = true) ↔
            ¬(next.count ≠ 0 ∧ GivesUp next p))) ∧
      ((∀ m, lastAt? ms p = some m → m.count = 0) →
        ∀ s ∈ (reconstruct ms).values, s.span.contains p = false) := by
  have hcount : ∀ s ∈ (reconstruct ms).values, s.span.contains p = true →
      ∃ m, lastAt? ms p = some m ∧ s.count = m.count := by
    intro s hs hp
    rcases exists_run_of_contains hforward ((mem_values_reconstruct_iff hforward).1 hs) hp with
      ⟨m, k, i, j, hm, hmark, -, hrun, -, hik, hkj⟩
    have hsame := hrun.same k hik hkj
    rw [hmark] at hsame
    exact ⟨m, hm, (Option.some.inj hsame).symm⟩
  refine ⟨length_filter_contains_le hforward p, hcount, ?_, ?_⟩
  · intro m hm hne
    rcases exists_liesAt hforward hm with ⟨k, hmark, hk⟩
    rcases IsRun.exists_of_getElem? (congrArg (Option.map Mark.count) hmark) hne with
      ⟨i, j, hik, hkj, hle, hrun⟩
    have hj : j < ms.length := hrun.lt_length hle hlast
    have hnext := List.getElem?_eq_getElem hj
    rcases hrun.exists_mem_emitted hj with ⟨s, hs, hspan⟩
    refine ⟨ms[j], nextChange?_of_run hrun hk hik hkj hnext, ?_⟩
    have hcontains : s.span.contains p = true ↔ ¬(ms[j].count ≠ 0 ∧ GivesUp ms[j] p) := by
      rw [hspan.contains_iff_of_index hk ⟨hik, hkj⟩, hnext]
      simp
    rw [← hcontains]
    constructor
    · rintro ⟨s', hs', hp'⟩
      have hsame := eq_of_contains hk hrun hspan hik hkj
        ((mem_values_reconstruct_iff hforward).1 hs') hp'
      exact hsame ▸ hp'
    · intro hp
      exact ⟨s, (mem_values_reconstruct_iff hforward).2 hs, hp⟩
  · intro hzero s hs
    by_contra hp
    rw [Bool.not_eq_false] at hp
    rcases hcount s hs hp with ⟨m, hm, hsame⟩
    refine count_ne_zero_of_mem_emitted ((mem_values_reconstruct_iff hforward).1 hs) ?_
    rw [hsame, hzero m hm]

/-- On the line before a mark at column zero a run loses its positions, and before another mark the
one a column earlier; the position behind that is in the span of the next run. -/
theorem spans_at_position_given_up :
    let ms : List Mark := [.entry 1 5 3, .entry 2 9 7, .entry 4 0 2, .ending 6 1]
    (∀ p ∈ [⟨2, 8⟩, ⟨3, 7⟩], ∀ s ∈ (reconstruct ms).values, s.span.contains p = false) ∧
      ∃ s ∈ (reconstruct ms).values, s.span.contains ⟨2, 9⟩ = true ∧ s.count = 7 := by
  intro ms
  have hforward : ms.Pairwise fun m m' => m.position.before m'.position = true := by decide
  have hlast : ∀ m ∈ ms.getLast?, m.count = 0 := by decide
  have hgiven : ∀ (p : Position) (m next : Mark), lastAt? ms p = some m → m.count ≠ 0 →
      nextChange? ms p m.count = some next → next.count ≠ 0 ∧ GivesUp next p →
      ∀ s ∈ (reconstruct ms).values, s.span.contains p = false := by
    intro p m next hm hcount hnext hgives s hs
    obtain ⟨-, -, hcovered, -⟩ := spans_at_position hforward hlast p
    rcases hcovered m hm hcount with ⟨next', hnext', hiff⟩
    obtain rfl := Option.some.inj (hnext.symm.trans hnext')
    by_contra hp
    exact hiff.1 ⟨s, hs, by simpa using hp⟩ hgives
  refine ⟨?_, ?_⟩
  · intro p hp
    rcases List.mem_cons.1 hp with rfl | hp
    · exact hgiven ⟨2, 8⟩ (.entry 1 5 3) (.entry 2 9 7) (by decide) (by decide) (by decide)
        (by decide)
    · obtain rfl := List.mem_singleton.1 hp
      exact hgiven ⟨3, 7⟩ (.entry 2 9 7) (.entry 4 0 2) (by decide) (by decide) (by decide)
        (by decide)
  · obtain ⟨-, hcount, hcovered, -⟩ := spans_at_position hforward hlast ⟨2, 9⟩
    rcases hcovered (.entry 2 9 7) (by decide) (by decide) with ⟨next, hnext, hiff⟩
    obtain rfl : .entry 4 0 2 = next := Option.some.inj hnext
    rcases hiff.2 (by decide) with ⟨s, hs, hp⟩
    rcases hcount s hs hp with ⟨m, hm, hsame⟩
    obtain rfl : .entry 2 9 7 = m := Option.some.inj hm
    exact ⟨s, hs, hp, hsame⟩

/-! ## Spans that end before they start -/

/-- The span of marks that go forward is that of a run, from the first mark of the run on.  It ends
on the line where it starts or on a later one.  It ends before it starts in one case only: the mark
behind the run has another count that is not zero and is at column zero of the next line, and the
run begins at a later column; then it ends at column zero of its own line. -/
theorem ends_of_spans
    (hforward : ms.Pairwise fun m m' => m.position.before m'.position = true)
    (hs : s ∈ (reconstruct ms).values) :
    ∃ i j first next, IsRun ms s.count i j ∧ ms[i]? = some first ∧ ms[j]? = some next ∧
      s.span.start = first.position ∧
      s.span.startLine ≤ s.span.endLine ∧
      (s.span.stop.before s.span.start = true ↔ next.count ≠ 0 ∧ next.column = 0 ∧
        next.line.toNat = first.line.toNat + 1 ∧ first.column ≠ 0) ∧
      (s.span.stop.before s.span.start = true → s.span.stop = ⟨s.span.startLine, 0⟩) := by
  rw [mem_values_reconstruct_iff hforward] at hs
  rcases exists_run_of_mem_emitted hs with ⟨i, j, hrun, hspan⟩
  rcases hspan.start with ⟨first, hfirst, -, hstart⟩
  rcases hspan.stop with ⟨next, hnext, hend⟩
  have hbefore : s.span.start.before next.position = true :=
    hstart ▸ before_of_getElem? hforward hfirst hnext hrun.nonempty
  have hiff := hend.before_of_iff hbefore
  refine ⟨i, j, first, next, hrun, hfirst, hnext, hstart, hend.line_le hbefore, ?_,
    hend.eq_of_before hbefore⟩
  rw [hiff, hstart]
  rfl

/-- A run that begins at column zero ends behind its start, also right before a mark at column
zero. -/
theorem ends_of_spans_column_zero :
    let ms : List Mark := [.entry 3 0 5, .entry 4 0 2, .ending 6 0]
    let s : CountedSpan := ⟨⟨3, 0, 3, 0⟩, 5⟩
    s ∈ (reconstruct ms).values ∧ s.span.stop.before s.span.start = false := by
  intro ms s
  have hs : s ∈ (reconstruct ms).values := by decide
  refine ⟨hs, ?_⟩
  rcases ends_of_spans (by decide) hs with ⟨i, j, first, next, -, -, -, hstart, -, hiff, -⟩
  have hcolumn : first.column = 0 := (congrArg Position.column hstart).symm
  by_contra hbefore
  rw [Bool.not_eq_false] at hbefore
  exact (hiff.1 hbefore).2.2.2 hcolumn

/-- Marks can go forward and have a span that ends before it starts. -/
theorem span_ends_before_start :
    ¬∀ ms : List Mark, ms.Pairwise (fun m m' => m.position.before m'.position = true) →
      ∀ s ∈ (reconstruct ms).values, s.span.stop.before s.span.start = false := by
  intro h
  have hspan := h [.entry 2 4 1, .entry 3 0 5, .ending 4 0] (by decide) ⟨⟨2, 4, 2, 0⟩, 1⟩
    (by decide)
  revert hspan
  decide

end Mark
end CoverageWindows
