import CoverageWindows.Text.Utf8

/-!
# Object files

An object file names addresses of its code and data.  Whatever its format, it gives a row of static
symbols and a row of dynamic ones; a symbol whose name cannot be read keeps its place in the row.
The parts that the formats share are here: numbers of either byte order, rows of entries, and tables
of strings.
-/

namespace CoverageWindows

/-! ## Symbols -/

/-- A symbol: its name if it can be read, its address as the file declares it, and whether the file
defines it. -/
structure Symbol where
  name : Option String
  address : UInt64
  isDefined : Bool
  deriving DecidableEq, Repr

/-- The symbols of an object file, and whether its format puts an underscore in front of each
name. -/
structure ObjectFile where
  underscored : Bool
  symbols : List Symbol
  dynamicSymbols : List Symbol
  deriving DecidableEq, Repr

namespace ObjectFile

/-! ## Numbers and parts -/

/-- Which byte of a number comes first. -/
inductive ByteOrder where
  | little
  | big
  deriving DecidableEq, Repr

/-- The number that bytes spell in an order. -/
def ByteOrder.number : ByteOrder → Bytes → Nat
  | little, b => Bytes.readLE b
  | big, b => Bytes.readBE b

/-- The bytes of a file from a place on, if there are as many; no bytes are everywhere. -/
def slice? (file : Bytes) (start length : Nat) : Option Bytes :=
  if length = 0 ∨ start + length ≤ file.length then some ((file.drop start).take length) else none

/-- Whether a place and a length fit into 64 bits together. -/
def fits (start length : Nat) : Bool := start + length < UInt64.size

/-- Entries of one size, as many as the bytes hold. -/
def entriesOf (size : Nat) (b : Bytes) : List Bytes :=
  (List.range (b.length / size)).map fun k => (b.drop (k * size)).take size

/-- Entries of one size, if they take up all the bytes. -/
def entries? (size : Nat) (b : Bytes) : Option (List Bytes) :=
  if b.length % size = 0 then some (entriesOf size b) else none

/-- A number of bytes inside an entry. -/
def numberAt (o : ByteOrder) (entry : Bytes) (place width : Nat) : Nat :=
  o.number ((entry.drop place).take width)

/-! ## Tables of strings -/

/-- A part of a file that holds strings, each with a byte zero behind it. -/
structure Strings where
  start : Nat
  stop : Nat
  deriving DecidableEq, Repr

/-- The bytes up to the first byte zero, if there is one. -/
def untilZero (b : Bytes) : Option Bytes :=
  if b.contains 0 then some (b.takeWhile fun x => x != 0) else none

/-- The string at a place of a table, if it ends inside the table, which lies in the file, and is
text. -/
def Strings.get? (t : Strings) (file : Bytes) (place : Nat) : Option String :=
  if t.start + place ≤ t.stop then do
    let part ← slice? file (t.start + place) (t.stop - (t.start + place))
    let name ← untilZero part
    Text.ofBytes? name
  else none

end ObjectFile
end CoverageWindows
