import CoverageWindows.Abi
import CoverageWindows.Object.Addresses

/-!
# The profile runtime of a loaded image

An image is instrumented if its file names all entry points of the profile runtime.  The version and
the bounds of the bitmap are optional; the two bounds only count together.
-/

namespace CoverageWindows

/-- The addresses of the two functions that tell the bounds of a region. -/
structure RegionBounds where
  start : UInt64
  stop : UInt64
  deriving DecidableEq, Repr

/-- The addresses of the profile runtime of an image. -/
structure ProfileRuntime where
  path : Bytes
  opening : UInt64
  writing : UInt64
  sizing : UInt64
  version : Option UInt64
  counters : RegionBounds
  data : RegionBounds
  bitmap : Option RegionBounds
  deriving DecidableEq, Repr

/-- The regions of an image that an interface resets. -/
structure ResetBounds where
  counters : RegionBounds
  data : RegionBounds
  bitmap : Option RegionBounds
  deriving DecidableEq, Repr

namespace ProfileRuntime

/-! ## Names -/

/-- The name of a part of the profile runtime. -/
def nameOf (part : String) : String := "__llvm_profile_" ++ part

/-- The names that every instrumented image has. -/
def requiredNames : List String :=
  ["initialize", "write_file", "set_page_size", "begin_counters", "end_counters", "begin_data",
    "end_data"].map nameOf

/-- The names that an instrumented image may have besides. -/
def optionalNames : List String := ["get_version", "begin_bitmap", "end_bitmap"].map nameOf

/-! ## Resolving -/

/-- The address of a part; the address zero counts as none. -/
def part? (t : AddressTable) (part : String) : Option UInt64 :=
  (t.address? (nameOf part)).filter fun a => a != 0

/-- The bounds of a region, if both are there. -/
def bounds? (t : AddressTable) (region : String) : Option RegionBounds := do
  let start ← part? t ("begin_" ++ region)
  let stop ← part? t ("end_" ++ region)
  return ⟨start, stop⟩

/-- Whether a table names all required parts, at whatever addresses. -/
def namesAll (t : AddressTable) : Bool :=
  requiredNames.all fun name => (t.address? name).isSome

/-- The profile runtime that a table of addresses describes, if no required part is missing. -/
def ofTable? (path : Bytes) (t : AddressTable) : Option ProfileRuntime := do
  let opening ← part? t "initialize"
  let writing ← part? t "write_file"
  let sizing ← part? t "set_page_size"
  let counters ← bounds? t "counters"
  let data ← bounds? t "data"
  return ⟨path, opening, writing, sizing, part? t "get_version", counters, data,
    bounds? t "bitmap"⟩

/-- The profile runtime of a loaded image.  An image that is not moved belongs to the system, and
one without a file of its own cannot be read; such images count as not instrumented, like those
whose file cannot be read. -/
def resolve (t : FileTree) (i : LoadedImage) : Option ProfileRuntime :=
  if i.slide = 0 || !(Path.isAbsolute i.path && t.isFile i.path) then none
  else
    match AddressTable.load t i (requiredNames ++ optionalNames) with
    | .error _ => none
    | .ok table => if namesAll table then ofTable? i.path table else none

/-! ## What a runtime offers -/

/-- The name of an image: the file name of its path, or the path if it ends in none. -/
def name (r : ProfileRuntime) : String :=
  Text.lossy ((Path.fileName? r.path).getD r.path)

/-- The regions that an interface resets. -/
def regions (r : ProfileRuntime) (a : Abi) : Except Failure ResetBounds :=
  match a.hasBitmap, r.bitmap with
  | false, _ => .ok ⟨r.counters, r.data, none⟩
  | true, some b => .ok ⟨r.counters, r.data, some b⟩
  | true, none => .error (.noBitmap r.name)

end ProfileRuntime
end CoverageWindows
