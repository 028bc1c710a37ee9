import CoverageWindows.Object.Basic

/-!
# ELF files

An ELF file comes with words of four or of eight bytes and in either byte order.  Its header leads
to a row of section headers; the first section of symbols is the static table, the first section of
dynamic symbols the dynamic one.  Each of them is linked to the section with its strings.
-/

namespace CoverageWindows
namespace ObjectFile
namespace Elf

/-! ## Layout -/

/-- The width of a class of files in bytes, and where its headers and symbols have their fields. -/
structure Layout where
  word : Nat
  headerSize : Nat
  programsAt : Nat
  sectionsAt : Nat
  countsAt : Nat
  programSize : Nat
  sectionSize : Nat
  offsetAt : Nat
  symbolSize : Nat
  indexAt : Nat
  valueAt : Nat
  deriving DecidableEq, Repr

/-- Files with words of four bytes. -/
def layout32 : Layout := ⟨4, 52, 28, 32, 42, 32, 40, 16, 16, 14, 4⟩

/-- Files with words of eight bytes. -/
def layout64 : Layout := ⟨8, 64, 32, 40, 54, 56, 64, 24, 24, 6, 8⟩

/-- What the header of a file says. -/
structure Header where
  layout : Layout
  order : ByteOrder
  programs : Nat
  sections : Nat
  programSize : Nat
  programCount : Nat
  sectionSize : Nat
  sectionCount : Nat
  namesIndex : Nat
  deriving DecidableEq, Repr

/-- The byte order that a byte of the header stands for. -/
def order? (b : UInt8) : Option ByteOrder :=
  if b = 1 then some .little else if b = 2 then some .big else none

/-- The header of a file of a layout, if it is complete, of a known byte order and of version
one. -/
def header? (l : Layout) (file : Bytes) : Option Header := do
  let head ← slice? file 0 l.headerSize
  let order ← order? (head.getD 5 0)
  let number := numberAt order head
  if head.getD 6 0 = 1 then
    some ⟨l, order, number l.programsAt l.word, number l.sectionsAt l.word, number l.countsAt 2,
      number (l.countsAt + 2) 2, number (l.countsAt + 4) 2, number (l.countsAt + 6) 2,
      number (l.countsAt + 8) 2⟩
  else none

/-! ## Sections -/

/-- A section: its kind, where its content is, the section that it is linked to, and what it tells
besides. -/
structure Section where
  kind : Nat
  offset : Nat
  size : Nat
  link : Nat
  info : Nat
  deriving DecidableEq, Repr

/-- The kind of the section with the static symbols. -/
def staticKind : Nat := 2

/-- The kind of a section with strings. -/
def stringsKind : Nat := 3

/-- The kind of a section without content in the file. -/
def emptyKind : Nat := 8

/-- The kind of the section with the dynamic symbols. -/
def dynamicKind : Nat := 11

/-- The kind of a section with further section numbers of symbols. -/
def indexKind : Nat := 18

/-- The size of a further section number. -/
def indexSize : Nat := 4

/-- The kinds of sections that relocate other sections. -/
def relocationKinds : List Nat := [4, 9, 1073741844]

/-- The section that an entry of the row of section headers tells of. -/
def Section.ofBytes (h : Header) (b : Bytes) : Section where
  kind := numberAt h.order b 4 4
  offset := numberAt h.order b h.layout.offsetAt h.layout.word
  size := numberAt h.order b (h.layout.offsetAt + h.layout.word) h.layout.word
  link := numberAt h.order b (h.layout.offsetAt + 2 * h.layout.word) 4
  info := numberAt h.order b (h.layout.offsetAt + 2 * h.layout.word + 4) 4

/-- The content of a section. -/
def Section.content? (s : Section) (file : Bytes) : Option Bytes :=
  if s.kind = emptyKind then some [] else slice? file s.offset s.size

/-- The entries of one size that a section consists of. -/
def Section.entries? (s : Section) (file : Bytes) (size : Nat) : Option (List Bytes) :=
  (s.content? file).bind (ObjectFile.entries? size)

/-- The first section header, which holds counts that are too great for the header; `none` inside
means that there are no section headers. -/
def firstSection? (h : Header) (file : Bytes) : Option (Option Section) :=
  if h.sections = 0 then some none
  else if h.sectionSize ≠ h.layout.sectionSize then none
  else (slice? file h.sections h.sectionSize).map fun b => some (.ofBytes h b)

/-- The greatest count of program headers that the header itself can hold, and one more. -/
def manyPrograms : Nat := 65535

/-- The number of a section that says that the real number is elsewhere. -/
def numberElsewhere : Nat := 65535

/-- Whether the row of program headers lies in the file. -/
def programsFit (h : Header) (file : Bytes) : Bool :=
  if h.programs = 0 then true
  else
    let count? : Option Nat :=
      if h.programCount < manyPrograms then some h.programCount
      else
        match firstSection? h file with
        | some (some s) => some s.info
        | _ => none
    match count? with
    | none => false
    | some count =>
        count == 0 || (h.programSize == h.layout.programSize &&
          decide (h.programs + count * h.programSize ≤ file.length))

/-- The sections of a file. -/
def sections? (h : Header) (file : Bytes) : Option (List Section) := do
  let first ← firstSection? h file
  let count :=
    match first with
    | none => 0
    | some s => if h.sectionCount = 0 then s.size else h.sectionCount
  let row ← slice? file h.sections (if count = 0 then 0 else count * h.sectionSize)
  return (entriesOf h.layout.sectionSize row).map (.ofBytes h)

/-- Whether the section with the names of sections is there; its number is not zero. -/
def namesFit (h : Header) (sections : List Section) : Bool :=
  if sections.isEmpty then true
  else
    let index :=
      if h.namesIndex = numberElsewhere then ((sections[0]?).map Section.link).getD 0
      else h.namesIndex
    match sections[index]? with
    | none => false
    | some s => index != 0 && (s.kind == emptyKind || fits s.offset s.size)

/-! ## Symbols -/

/-- The symbol that an entry of a table of symbols tells of. -/
def symbolOf (h : Header) (file : Bytes) (strings : Option Strings) (entry : Bytes) : Symbol where
  name := strings.bind fun t => t.get? file (numberAt h.order entry 0 4)
  address := UInt64.ofNat (numberAt h.order entry h.layout.valueAt h.layout.word)
  isDefined := numberAt h.order entry h.layout.indexAt 2 != 0

/-- The strings that a section is linked to; the section number zero stands for none. -/
def stringsOf (sections : List Section) (link : Nat) : Option (Option Strings) :=
  if link = 0 then some none
  else
    match sections[link]? with
    | none => none
    | some s =>
        if s.kind = stringsKind && fits s.offset s.size then
          some (some ⟨s.offset, s.offset + s.size⟩)
        else none

/-- The number of the first section of a kind; zero if there is none. -/
def indexOf (sections : List Section) (kind : Nat) : Nat :=
  (sections.findIdx? fun s => s.kind == kind).getD 0

/-- The symbols of the first section of a kind.  The first entry of a table of symbols stands for no
symbol. -/
def symbolsOf (h : Header) (file : Bytes) (sections : List Section) (kind : Nat) :
    Option (List Symbol) :=
  match sections.find? fun s => s.kind == kind with
  | none => some []
  | some s => do
      let entries ← s.entries? file h.layout.symbolSize
      let strings ← stringsOf sections s.link
      let further := sections.filter fun t =>
        t.kind == indexKind && t.link == indexOf sections kind
      if further.all fun t => (t.entries? file indexSize).isSome then
        some (entries.tail.map (symbolOf h file strings))
      else none

/-- Whether the sections that relocate others by the static symbols name sections that can be
relocated. -/
def relocationsFit (sections : List Section) : Bool :=
  sections.all fun s =>
    if relocationKinds.contains s.kind && s.link == indexOf sections staticKind && s.info != 0 then
      match sections[s.info]? with
      | none => false
      | some t => !relocationKinds.contains t.kind
    else true

/-- The object file that the bytes of a file of a layout hold. -/
def parse? (l : Layout) (file : Bytes) : Option ObjectFile := do
  let h ← header? l file
  guard (programsFit h file)
  let sections ← sections? h file
  guard (namesFit h sections)
  let symbols ← symbolsOf h file sections staticKind
  let dynamicSymbols ← symbolsOf h file sections dynamicKind
  guard (relocationsFit sections)
  return ⟨false, symbols, dynamicSymbols⟩

end Elf
end ObjectFile
end CoverageWindows
