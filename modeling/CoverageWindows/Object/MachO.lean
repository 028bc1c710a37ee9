import CoverageWindows.Object.Basic

/-!
# Mach-O files

A Mach-O file with words of eight bytes, lowest byte first.  Its header is followed by a row of
commands for the loader; one of them says where the symbols and their strings are.  Each name has an
underscore in front.
-/

namespace CoverageWindows
namespace ObjectFile
namespace MachO

/-- A number of an entry, lowest byte first. -/
abbrev field (entry : Bytes) (place width : Nat) : Nat := numberAt .little entry place width

/-! ## Commands -/

/-- A command: its kind and all its bytes. -/
structure Command where
  kind : Nat
  bytes : Bytes
  deriving DecidableEq, Repr

/-- The size of the header. -/
def headerSize : Nat := 32

/-- The least size of a command. -/
def commandSize : Nat := 8

/-- The kind of the command that says where the symbols are, and its size. -/
def symbolsKind : Nat := 2

/-- The size of the command that says where the symbols are. -/
def symbolsCommandSize : Nat := 24

/-- The kind of the command that maps a segment. -/
def segmentKind : Nat := 25

/-- The size of the command that maps a segment, without its sections. -/
def segmentSize : Nat := 72

/-- The size of a section of a segment. -/
def sectionSize : Nat := 80

/-- The commands of a row, up to the first one that is incomplete. -/
def commands : Nat → Bytes → List Command
  | 0, _ => []
  | count + 1, row =>
      let size := field row 4 4
      if row.length < commandSize || size < commandSize || row.length < size then []
      else ⟨field row 0 4, row.take size⟩ :: commands count (row.drop size)

/-- Whether a command that maps a segment holds all sections of the segment. -/
def segmentFits (c : Command) : Bool :=
  segmentSize ≤ c.bytes.length &&
    segmentSize + field c.bytes 64 4 * sectionSize ≤ c.bytes.length

/-! ## Symbols -/

/-- The size of a symbol. -/
def symbolSize : Nat := 16

/-- The bits of a symbol's type that mark it as one for debuggers. -/
def debugBits : Nat := 0xE0

/-- The bits of a symbol's type that say where it is defined; none of them is set if it is not. -/
def placeBits : Nat := 0x0E

/-- The symbols of a table; those for debuggers do not count. -/
def symbolsIn (file : Bytes) (strings : Strings) (table : Bytes) : List Symbol :=
  ((entriesOf symbolSize table).filter fun e => field e 4 1 &&& debugBits == 0).map fun e =>
    ⟨strings.get? file (field e 0 4), UInt64.ofNat (field e 8 8), field e 4 1 &&& placeBits != 0⟩

/-- The symbols that a command tells of. -/
def symbolsOf (file : Bytes) (c : Command) : Option (List Symbol) :=
  if c.bytes.length < symbolsCommandSize then none
  else do
    let table ← slice? file (field c.bytes 8 4) (field c.bytes 12 4 * symbolSize)
    let start := field c.bytes 16 4
    return symbolsIn file ⟨start, start + field c.bytes 20 4⟩ table

/-- The symbols that a row of commands leads to, those before it given: the last table counts. -/
def symbolsFrom (file : Bytes) : List Symbol → List Command → Option (List Symbol)
  | symbols, [] => some symbols
  | symbols, c :: rest =>
      if c.kind = segmentKind then
        if segmentFits c then symbolsFrom file symbols rest else none
      else if c.kind = symbolsKind then do
        let symbols ← symbolsOf file c
        symbolsFrom file symbols rest
      else symbolsFrom file symbols rest

/-- The object file that the bytes of a file hold.  Where the commands do not lie in the file there
are no symbols. -/
def parse? (file : Bytes) : Option ObjectFile := do
  let head ← slice? file 0 headerSize
  let row :=
    match slice? file headerSize (field head 20 4) with
    | some row => commands (field head 16 4) row
    | none => []
  let symbols ← symbolsFrom file [] row
  return ⟨true, symbols, []⟩

end MachO
end ObjectFile
end CoverageWindows
