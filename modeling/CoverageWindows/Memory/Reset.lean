import CoverageWindows.Memory.ValueProfile

/-!
# Resetting counters

A reset brings the memory of an image to the state in which nothing has run: all counters at their
value for that, the bitmap empty, the counts of all listed value nodes zero.  The records of the
data region say which nodes are listed and are not changed themselves.

Main results:

- Theorem `data_reset`: a reset does not change the data region.
-/

namespace CoverageWindows

/-! ## The regions of an interface -/

/-- The regions that a reset deals with; there is a bitmap from the second interface on. -/
inductive ProfileRegions where
  | counters (counters data : Region)
  | countersAndBitmap (counters data bitmap : Region)
  deriving DecidableEq, Repr

namespace ProfileRegions

/-- The counters. -/
def countersRegion : ProfileRegions → Region
  | .counters c _ => c
  | .countersAndBitmap c _ _ => c

/-- The data records. -/
def dataRegion : ProfileRegions → Region
  | .counters _ d => d
  | .countersAndBitmap _ d _ => d

/-- The bitmap, where there is one. -/
def bitmapRegion? : ProfileRegions → Option Region
  | .counters _ _ => none
  | .countersAndBitmap _ _ b => some b

/-- The layout of the data records. -/
def layout : ProfileRegions → RecordLayout
  | .counters _ _ => Abi.llvm17.recordLayout
  | .countersAndBitmap _ _ _ => Abi.llvm19.recordLayout

end ProfileRegions

/-! ## Resetting -/

/-- Whether a version of the runtime counts in single bytes: its bit 60. -/
def countsBytes (version : UInt64) : Bool :=
  version.toNat.testBit 60

/-- The byte of a counter that has not run; in single bytes, all bits say so. -/
def counterFill (version : UInt64) : UInt8 :=
  if countsBytes version then 0xFF else 0

/-- The memory of an image's profile runtime. -/
structure ProfileMemory where
  regions : ProfileRegions
  heap : Heap
  deriving DecidableEq, Repr

namespace ProfileMemory

/-- The addresses of all value nodes that the records of a layout list, in order. -/
def listedNodes (m : ProfileMemory) (l : RecordLayout) : List UInt64 :=
  (DataRecord.ofRegion l m.regions.dataRegion).flatMap m.heap.recordNodes

/-- The memory with the counts of all listed value nodes zero, and how many nodes were listed. -/
def clearValues (m : ProfileMemory) : ProfileMemory × Nat :=
  let nodes := m.listedNodes m.regions.layout
  ({ m with heap := m.heap.clear nodes }, nodes.length)

/-- The memory in which nothing has run. -/
def reset (m : ProfileMemory) (version : UInt64) : ProfileMemory :=
  let regions :=
    match m.regions with
    | .counters c d => .counters (c.fill (counterFill version)) d
    | .countersAndBitmap c d b =>
        .countersAndBitmap (c.fill (counterFill version)) d (b.fill 0)
  ⟨regions, m.clearValues.1.heap⟩

/-- A reset does not change the data region. -/
@[simp]
theorem data_reset (m : ProfileMemory) (version : UInt64) :
    (m.reset version).regions.dataRegion = m.regions.dataRegion := by
  obtain ⟨regions, heap⟩ := m
  cases regions <;> rfl

end ProfileMemory
end CoverageWindows
