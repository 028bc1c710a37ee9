import CoverageWindows.Mark.Basic
import CoverageWindows.Snapshot.Basic

/-!
# Spans from marks

The marks of a file, read in order, are cut into runs of one and the same count that is not zero.
Each run that a later mark ends becomes a counted span.  A mark with count zero ends the run where
it stands; a mark with another count ends it one column earlier, or at column zero of the line
before when the mark itself stands at column zero.  A run that no mark ends is dropped.

Main results:

- Theorem `count_ne_zero_of_mem_emitted`: every span that comes out has run.
-/

namespace CoverageWindows
namespace Mark

/-! ## Runs -/

/-- A run that has begun: where, and with which count. -/
structure Run where
  start : Position
  count : Count
  deriving DecidableEq, Repr

/-- The span of a run that ends before a position. -/
def Run.until (r : Run) (stop : Position) : CountedSpan :=
  ⟨⟨r.start.line, r.start.column, stop.line, stop.column⟩, r.count⟩

/-- The position one column earlier; at column zero, column zero of the line before, but never
before line zero. -/
def stepBack (p : Position) : Position :=
  if p.column = 0 then ⟨if p.line = 0 then 0 else p.line - 1, 0⟩ else ⟨p.line, p.column - 1⟩

/-- Where a mark ends the run before it. -/
def runEnd (m : Mark) : Position :=
  if m.count = 0 then m.position else stepBack m.position

/-- The run that a mark begins. -/
def run? (m : Mark) : Option Run :=
  if m.count = 0 then none else some ⟨m.position, m.count⟩

/-- The spans of what is left of a list of marks, inside a run or between runs. -/
def emittedFrom : Option Run → List Mark → List CountedSpan
  | _, [] => []
  | none, m :: rest => emittedFrom m.run? rest
  | some r, m :: rest =>
      if m.count = r.count then emittedFrom (some r) rest
      else r.until m.runEnd :: emittedFrom m.run? rest

/-- The spans of a list of marks, in the order in which they end. -/
def emitted (ms : List Mark) : List CountedSpan :=
  emittedFrom none ms

/-- The spans of a list of marks by their places; of two at one place the later one stands. -/
def reconstruct (ms : List Mark) : Table Span CountedSpan :=
  (emitted ms).foldl (fun t s => t.insert s.span s) Table.empty

/-! ## First facts -/

/-- No span without a count comes out, unless the run at the start has none. -/
theorem count_ne_zero_of_mem_emittedFrom {ms : List Mark} {r : Option Run} {s : CountedSpan}
    (hr : ∀ x ∈ r, x.count ≠ 0) (h : s ∈ emittedFrom r ms) : s.count ≠ 0 := by
  have hrun : ∀ m : Mark, ∀ x ∈ m.run?, x.count ≠ 0 := by
    intro m x hx
    simp only [run?] at hx
    split at hx
    · simp at hx
    · rename_i hm
      simp only [Option.mem_some_iff] at hx
      exact hx ▸ hm
  induction ms generalizing r with
  | nil => simp [emittedFrom] at h
  | cons m rest ih =>
      cases r with
      | none => exact ih (hrun m) (by simpa [emittedFrom] using h)
      | some r =>
          rw [emittedFrom] at h
          split at h
          · exact ih hr h
          · rcases List.mem_cons.1 h with h | h
            · exact h ▸ hr r rfl
            · exact ih (hrun m) h

/-- Every span that comes out has run. -/
theorem count_ne_zero_of_mem_emitted {ms : List Mark} {s : CountedSpan} (h : s ∈ emitted ms) :
    s.count ≠ 0 :=
  count_ne_zero_of_mem_emittedFrom (by simp) h

end Mark

/-! ## Decoded files -/

/-- A source file as a decoder lists it: its name and its marks. -/
structure DecodedFile where
  name : String
  marks : List Mark
  deriving DecidableEq, Repr

/-- The report of a decoded file. -/
def DecodedFile.report (f : DecodedFile) : FileReport :=
  ⟨f.name, Mark.reconstruct f.marks⟩

/-- The snapshot that a list of decoded files describes. -/
def Snapshot.ofDecoded (fs : List DecodedFile) : Snapshot :=
  Snapshot.ofFiles (fs.map DecodedFile.report)

end CoverageWindows
