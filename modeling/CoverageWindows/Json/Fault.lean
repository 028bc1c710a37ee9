import CoverageWindows.Decimal.Natural
import CoverageWindows.Decimal.Shortest
import CoverageWindows.Text.Quoted
import CoverageWindows.Text.Utf8

/-!
# Faults of a document

What can be wrong with a JSON document that is read as a value of an expected form.  Some faults
mean that it is no JSON document; others mean that it is well formed up to there but says something
else than expected.

A fault is told with its place.  A reader that stops at a fault says how many bytes of the document
it has not come to; the lines and columns are counted in the bytes before them.

Main results:

- Theorem `Place.behind_append_byte`: a byte that is no line break moves a place by one column.
- Theorem `Place.behind_append_lineBreak`: a line break moves a place to the front of the next line.
- Theorem `Stop.place_before`: a fault in front of what is left has the place behind what was read.
-/

namespace CoverageWindows
namespace Json

/-- What a document ends in the middle of. -/
inductive Inside where
  | value
  | text
  | list
  | object
  deriving DecidableEq, Repr

/-- What a document has where something else is expected. -/
inductive Found where
  | integer (n : Int)
  | float (bits : UInt64)
  | flag (b : Bool)
  | null
  | text (s : String)
  | list
  | object
  deriving DecidableEq, Repr

/-- The first thing that is wrong with a document. -/
inductive Fault where
  | ends (inside : Inside)
  | expectedValue
  | expectedWord
  | expectedColon
  | expectedCommaOrBrace
  | expectedCommaOrBracket
  | commaAtEnd
  | keyNotText
  | moreText
  | badNumber
  | hugeNumber
  | badEscape
  | rawControl
  | loneSurrogate
  | halfSurrogate
  | missingField (name : String)
  | duplicateField (name : String)
  | wrongLength (length : Nat) (expected : String)
  | unknownVariant (name : String) (known : String)
  | wrongKind (found : Found) (expected : String)
  | wrongValue (found : Found) (expected : String)
  deriving DecidableEq, Repr

/-- A name between grave accents. -/
def ticked (s : String) : String := "\x60" ++ s ++ "\x60"

/-- Found things in words. -/
def Found.words : Found → String
  | .integer n =>
      let ds := String.ofList (Decimal.digits n.natAbs)
      "integer " ++ ticked (if n < 0 then "-" ++ ds else ds)
  | .float bits => "floating point " ++ ticked (Decimal.shortest Decimal.diagnostic bits)
  | .flag b => "boolean " ++ ticked (if b then "true" else "false")
  | .null => "null"
  | .text s => "string " ++ Text.quoted s
  | .list => "sequence"
  | .object => "map"

namespace Fault

/-- A fault in words. -/
def message : Fault → String
  | ends .value => "EOF while parsing a value"
  | ends .text => "EOF while parsing a string"
  | ends .list => "EOF while parsing a list"
  | ends .object => "EOF while parsing an object"
  | expectedValue => "expected value"
  | expectedWord => "expected ident"
  | expectedColon => "expected " ++ ticked ":"
  | expectedCommaOrBrace => "expected " ++ ticked "," ++ " or " ++ ticked "\x7d"
  | expectedCommaOrBracket => "expected " ++ ticked "," ++ " or " ++ ticked "]"
  | commaAtEnd => "trailing comma"
  | keyNotText => "key must be a string"
  | moreText => "trailing characters"
  | badNumber => "invalid number"
  | hugeNumber => "number out of range"
  | badEscape => "invalid escape"
  | rawControl => "control character (\\u0000-\\u001F) found while parsing a string"
  | loneSurrogate => "lone leading surrogate in hex escape"
  | halfSurrogate => "unexpected end of hex escape"
  | missingField name => "missing field " ++ ticked name
  | duplicateField name => "duplicate field " ++ ticked name
  | wrongLength n expected =>
      "invalid length " ++ String.ofList (Decimal.digits n) ++ ", expected " ++ expected
  | unknownVariant name known => "unknown variant " ++ ticked name ++ ", expected " ++ known
  | wrongKind found expected => "invalid type: " ++ found.words ++ ", expected " ++ expected
  | wrongValue found expected => "invalid value: " ++ found.words ++ ", expected " ++ expected

end Fault

/-! ## Places -/

/-- A place in a document: its line, counted from one, and the number of bytes before it in that
line. -/
structure Place where
  line : Nat
  column : Nat
  deriving DecidableEq, Repr

namespace Place

/-- The byte that ends a line. -/
def lineBreak : UInt8 := 10

/-- The place behind some bytes. -/
def behind (b : Bytes) : Place where
  line := b.count lineBreak + 1
  column := (b.reverse.takeWhile (· != lineBreak)).length

/-- A byte that is no line break moves a place by one column. -/
theorem behind_append_byte (b : Bytes) {x : UInt8} (hx : x ≠ lineBreak) :
    behind (b ++ [x]) = ⟨(behind b).line, (behind b).column + 1⟩ := by
  have hcount : (b ++ [x]).count lineBreak = b.count lineBreak := by
    rw [List.count_append, List.count_singleton, if_neg (by simpa using hx), Nat.add_zero]
  have hcolumn : ((b ++ [x]).reverse.takeWhile (· != lineBreak)) =
      x :: b.reverse.takeWhile (· != lineBreak) := by
    rw [List.reverse_append, List.reverse_singleton, List.singleton_append,
      List.takeWhile_cons_of_pos (by simpa using hx)]
  rw [behind, hcount, hcolumn]
  rfl

/-- A line break moves a place to the front of the next line. -/
theorem behind_append_lineBreak (b : Bytes) :
    behind (b ++ [lineBreak]) = ⟨(behind b).line + 1, 0⟩ := by
  simp [behind]

/-- A place in words. -/
def words (p : Place) : String :=
  "line " ++ String.ofList (Decimal.digits p.line) ++ " column " ++
    String.ofList (Decimal.digits p.column)

end Place

/-- A fault at which the reading of a document stops, with the number of bytes behind its place. -/
structure Stop where
  fault : Fault
  left : Nat
  deriving DecidableEq, Repr

namespace Stop

/-- A fault in front of what is left of the document. -/
def before (f : Fault) (rest : List Char) : Stop := ⟨f, Text.byteCount rest⟩

/-- A fault that the first byte of what is left shows; its place is behind that byte, if there is
one. -/
def on (f : Fault) (rest : List Char) : Stop := ⟨f, Text.byteCount rest - 1⟩

/-- A fault at the end of the document, which ends too early. -/
def atEnd (inside : Inside) : Stop := ⟨.ends inside, 0⟩

/-- The place of a fault in its document. -/
def place (text : String) (s : Stop) : Place :=
  let b := Text.toBytes text
  .behind (b.take (b.length - s.left))

/-- A character of one byte that shows a fault counts as read. -/
theorem on_cons (f : Fault) {c : Char} (hc : c.utf8Size = 1) (rest : List Char) :
    on f (c :: rest) = before f rest := by
  rw [on, before, Text.byteCount_cons, hc, Nat.add_sub_cancel_left]

/-- A fault in front of what is left of a document has the place behind what was read of it. -/
theorem place_before (f : Fault) {text : String} {cs rest : List Char}
    (h : text.toList = cs ++ rest) :
    (before f rest).place text = .behind (Text.toBytes (String.ofList cs)) := by
  have hbytes : Text.toBytes text =
      Text.toBytes (String.ofList cs) ++ Text.toBytes (String.ofList rest) := by
    simp only [Text.toBytes_eq, h, String.toList_ofList, List.flatMap_append]
  have hread : (Text.toBytes text).length - Text.byteCount rest =
      (Text.toBytes (String.ofList cs)).length := by
    rw [hbytes, List.length_append, Text.length_toBytes rest, Nat.add_sub_cancel]
  unfold place
  simp only [before, hread]
  rw [hbytes, List.take_left']
  rfl

/-- A fault and its place in words. -/
def message (text : String) (s : Stop) : String :=
  s.fault.message ++ " at " ++ (s.place text).words

/-- The second line begins behind its line break; a character of two bytes takes two columns. -/
example : (Stop.on .badNumber ['x', ']']).message "[\n\"é\", -x]" =
    "invalid number at line 2 column 8" := by
  decide +kernel

end Stop
end Json
end CoverageWindows
