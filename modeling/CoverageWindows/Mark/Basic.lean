import CoverageWindows.Count
import CoverageWindows.Span

/-!
# Boundary marks

A decoded profile lists the places of a source file where the execution count changes.  Each mark
gives a position and the count from there on; the flags are carried along for readers of raw marks.
-/

namespace CoverageWindows

/-- A place where the execution count of a file may change. -/
structure Mark where
  line : UInt32
  column : UInt32
  count : Count
  hasCount : Bool
  isRegionEntry : Bool
  isGapRegion : Bool
  deriving DecidableEq, Repr

namespace Mark

/-- The position of a mark. -/
def position (m : Mark) : Position := ⟨m.line, m.column⟩

/-- A mark with a count that begins a region. -/
def entry (line column : UInt32) (count : Count) : Mark :=
  ⟨line, column, count, true, true, false⟩

/-- A mark without a count, as it ends the last region of a file. -/
def ending (line column : UInt32) : Mark :=
  ⟨line, column, 0, false, false, false⟩

end Mark
end CoverageWindows
