import CoverageWindows.Failure
import CoverageWindows.Files.Path
import CoverageWindows.Memory.Reset

/-!
# Instrumented images

An image carries its own copy of the profile runtime: counters, data records, a bitmap unless the
runtime is an old one, a page size, and the path that its runtime has open.  The path is the one
that was published when the runtime last opened it, with the module token replaced by the signature
of the image.

Main results:

- Theorem `memory_ok_iff`: the memory for an interface is there unless the interface needs a bitmap
  that the image lacks.
- Theorem `memory_withMemory`: memory that is put into an image is found in it.
-/

namespace CoverageWindows

/-- The profile runtime of an image, and what the image was built from. -/
structure Image where
  path : Bytes
  source : String
  version : Option UInt64
  counters : Region
  data : Region
  bitmap : Option Region
  heap : Heap
  pageSize : UInt32
  output : Option String
  writeStatus : Int
  writes : Nat
  deriving DecidableEq, Repr

namespace Image

/-! ## What an image is -/

/-- The page size of a runtime that nobody has set one for. -/
def defaultPageSize : UInt32 := 4096

/-- The name of an image: the file name of its path, or the path if it ends in none. -/
def name (i : Image) : String :=
  Text.lossy ((Path.fileName? i.path).getD i.path)

/-- The counts of an image. -/
def counts (i : Image) : List UInt64 := Bytes.words i.counters.cells

/-- The image after code of it has run, which has updated the bytes of its counters. -/
def hit (i : Image) (update : Bytes → Bytes) : Image :=
  { i with counters := { i.counters with cells := update i.counters.cells } }

/-! ## The path of an image -/

/-- The text with every module token `%m` replaced. -/
def expandToken (signature : List Char) : List Char → List Char
  | [] => []
  | [c] => [c]
  | c :: d :: rest =>
      if c = '%' ∧ d = 'm' then signature ++ expandToken signature rest
      else c :: expandToken signature (d :: rest)

/-- The image after its runtime has opened the published path; a path that is not published or is no
text leaves it without an output. -/
def opening (i : Image) (signature : Nat) (published : Option Bytes) : Image :=
  { i with
    output := (published.bind Text.ofBytes?).map fun path =>
      String.ofList (expandToken (Decimal.digits signature) path.toList) }

/-! ## The memory of an image -/

/-- The regions that an interface resets, and the value nodes. -/
def memory (i : Image) (a : Abi) : Except Failure ProfileMemory :=
  match a.hasBitmap, i.bitmap with
  | false, _ => .ok ⟨.counters i.counters i.data, i.heap⟩
  | true, some b => .ok ⟨.countersAndBitmap i.counters i.data b, i.heap⟩
  | true, none => .error (.noBitmap i.name)

/-- The image with other memory; a bitmap that the memory does not speak of stays. -/
def withMemory (i : Image) (m : ProfileMemory) : Image :=
  { i with
    counters := m.regions.countersRegion
    data := m.regions.dataRegion
    bitmap := m.regions.bitmapRegion? <|> i.bitmap
    heap := m.heap }

/-- The memory for an interface is there unless the interface needs a bitmap that the image
lacks. -/
theorem memory_ok_iff (i : Image) (a : Abi) :
    (∃ m, i.memory a = .ok m) ↔ (a.hasBitmap = true → i.bitmap.isSome = true) := by
  unfold memory
  split <;> simp_all

/-- Memory that is put into an image is found in it. -/
theorem memory_withMemory (i : Image) (m : ProfileMemory) :
    (i.withMemory m).memory (if m.regions.bitmapRegion?.isSome then .llvm19 else .llvm17) =
      .ok m := by
  obtain ⟨regions, heap⟩ := m
  cases regions <;> rfl

end Image
end CoverageWindows
