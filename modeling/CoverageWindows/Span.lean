import CoverageWindows.Decimal.Natural

/-!
# Source spans

A span of source code runs from a first position up to, but not including, an end position.  Spans
are ordered by their four numbers, the start before the end and lines before columns.

Main results:

- Theorem `Span.contains_iff`: a span contains the positions from its start on and before its end.
- The order of spans is total and tells different spans apart.
-/

namespace CoverageWindows

/-! ## Positions -/

/-- A line and a column of a source file. -/
structure Position where
  line : UInt32
  column : UInt32
  deriving DecidableEq, Repr

namespace Position

/-- Whether a position comes before another one: on an earlier line, or earlier on the same line. -/
def before (p q : Position) : Bool :=
  p.line < q.line || (p.line == q.line && p.column < q.column)

/-- A position is before another one in an earlier line, or in the same line at an earlier column.
-/
theorem before_iff (p q : Position) :
    p.before q = true ↔
      p.line.toNat < q.line.toNat ∨
        (p.line.toNat = q.line.toNat ∧ p.column.toNat < q.column.toNat) := by
  simp [before, UInt32.lt_iff_toNat_lt, ← UInt32.toNat_inj]

theorem eq_of_toNat {p q : Position} (hline : p.line.toNat = q.line.toNat)
    (hcolumn : p.column.toNat = q.column.toNat) : p = q := by
  cases p
  cases q
  rw [mk.injEq]
  exact ⟨UInt32.toNat_inj.1 hline, UInt32.toNat_inj.1 hcolumn⟩

/-- Being before is transitive. -/
theorem before_trans {p q r : Position} (hpq : p.before q = true) (hqr : q.before r = true) :
    p.before r = true := by
  rw [before_iff] at hpq hqr ⊢
  omega

end Position

/-! ## Spans -/

/-- A span of source code; lines and columns count from one in a compiled program. -/
structure Span where
  startLine : UInt32
  startColumn : UInt32
  endLine : UInt32
  endColumn : UInt32
  deriving DecidableEq, Repr

namespace Span

/-- The span of which all numbers are zero. -/
def zero : Span := ⟨0, 0, 0, 0⟩

/-- The first position of a span. -/
def start (s : Span) : Position := ⟨s.startLine, s.startColumn⟩

/-- The first position after a span. -/
def stop (s : Span) : Position := ⟨s.endLine, s.endColumn⟩

/-- Whether a position lies in a span. -/
def contains (s : Span) (p : Position) : Bool :=
  !p.before s.start && p.before s.stop

/-- A span contains the positions from its start on and before its end. -/
theorem contains_iff (s : Span) (p : Position) :
    s.contains p = true ↔ p.before s.start = false ∧ p.before s.stop = true := by
  simp [contains]

/-- The order of spans: start line, start column, end line, end column. -/
def order : Span → Span → Ordering :=
  compareLex (compareOn startLine)
    (compareLex (compareOn startColumn) (compareLex (compareOn endLine) (compareOn endColumn)))

instance : Ord Span := ⟨order⟩

instance : Std.TransOrd Span :=
  inferInstanceAs (Std.TransCmp (compareLex (compareOn startLine)
    (compareLex (compareOn startColumn) (compareLex (compareOn endLine) (compareOn endColumn)))))

instance : Std.LawfulEqOrd Span where
  eq_of_compare {s t} h := by
    change order s t = .eq at h
    simp only [order, compareLex, compareOn, Ordering.then_eq_eq, Std.compare_eq_iff_eq] at h
    obtain ⟨a, b, c, d⟩ := s
    obtain ⟨a', b', c', d'⟩ := t
    simp_all

/-- A span in words: `line:column => line:column`. -/
def text (s : Span) : String :=
  let number (n : UInt32) := String.ofList (Decimal.digits n.toNat)
  number s.startLine ++ ":" ++ number s.startColumn ++ " => " ++ number s.endLine ++ ":" ++
    number s.endColumn

end Span
end CoverageWindows
