import CoverageWindows.Bytes

/-!
# Regions of memory

A region is a part of a buffer between two bounds.  Where the bounds are equal or in the wrong order
the region is empty.

Main results:

- Theorem `getElem?_fill`: filling a region changes the cells between its bounds and no other.
- Theorem `filledWith_fill`: what is filled, and what stays.
-/

namespace CoverageWindows

/-- A buffer and the bounds of a part of it. -/
structure Region where
  cells : Bytes
  start : Nat
  stop : Nat
  deriving DecidableEq, Repr

namespace Region

/-- The region that is a whole buffer. -/
def whole (cells : Bytes) : Region := ⟨cells, 0, cells.length⟩

/-- The number of cells between the bounds. -/
def length (r : Region) : Nat := r.stop - r.start

/-- The cells between the bounds. -/
def content (r : Region) : Bytes := (r.cells.drop r.start).take r.length

/-- The region with one byte in all cells between the bounds. -/
def fill (r : Region) (b : UInt8) : Region :=
  { r with cells := r.cells.mapIdx fun i x => if r.start ≤ i ∧ i < r.stop then b else x }

/-- Filling a region changes the cells between its bounds and no other. -/
theorem getElem?_fill (r : Region) (b : UInt8) (i : Nat) :
    (r.fill b).cells[i]? = r.cells[i]?.map fun x => if r.start ≤ i ∧ i < r.stop then b else x := by
  simp [fill, List.getElem?_mapIdx]

/-- A region is filled with a byte: its bounds stay, and the cells outside of them; without cells
between its bounds it stays as it is. -/
structure FilledWith (r : Region) (b : UInt8) (r' : Region) : Prop where
  bounds : r'.start = r.start ∧ r'.stop = r.stop
  length : r'.cells.length = r.cells.length
  inside : ∀ i, r.start ≤ i → i < r.stop → i < r.cells.length → r'.cells[i]? = some b
  outside : ∀ i, i < r.start ∨ r.stop ≤ i → r'.cells[i]? = r.cells[i]?
  empty : r.stop ≤ r.start → r' = r

/-- Filling a region brings it to one that is filled. -/
theorem filledWith_fill (r : Region) (b : UInt8) : r.FilledWith b (r.fill b) where
  bounds := ⟨rfl, rfl⟩
  length := by simp [fill]
  inside i hstart hstop hi := by
    rw [getElem?_fill, List.getElem?_eq_getElem hi, Option.map_some, if_pos ⟨hstart, hstop⟩]
  outside i hi := by
    have hout : ¬ (r.start ≤ i ∧ i < r.stop) := by omega
    simp [getElem?_fill, hout]
  empty h := by
    have hout : ∀ i, ¬ (r.start ≤ i ∧ i < r.stop) := by omega
    have hcells : (r.fill b).cells = r.cells :=
      List.ext_getElem? fun i => by simp [getElem?_fill, hout i]
    exact congrArg (fun cells => Region.mk cells r.start r.stop) hcells

end Region
end CoverageWindows
