import CoverageWindows.Decimal.Natural
import CoverageWindows.Json.Quote

/-!
# Writing a document

A document is written in one of two layouts: without any blanks, or with one item or field to a
line, two blanks of indentation for each level and one blank after each colon.
-/

namespace CoverageWindows
namespace Json

/-- Where a document has line breaks and blanks. -/
inductive Layout where
  | compact
  | indented
  deriving DecidableEq, Repr

/-- Writes a value at a level of nesting. -/
abbrev Writer := Layout → Nat → List Char

/-- The break before an item or a closing bracket at a level. -/
def lineBreak (l : Layout) (level : Nat) : List Char :=
  match l with
  | .compact => []
  | .indented => '\n' :: List.replicate (2 * level) ' '

/-- What stands between a key and its value. -/
def colon (l : Layout) : List Char :=
  match l with
  | .compact => [':']
  | .indented => [':', ' ']

/-- Parts with commas between them. -/
def joined : List (List Char) → List Char
  | [] => []
  | [p] => p
  | p :: q :: rest => p ++ ',' :: joined (q :: rest)

/-- Parts between brackets, each after its line break. -/
def bracketed (opening closing : Char) (l : Layout) (level : Nat) (parts : List (List Char)) :
    List Char :=
  if parts.isEmpty then [opening, closing]
  else
    opening :: joined (parts.map fun p => lineBreak l (level + 1) ++ p) ++
      (lineBreak l level ++ [closing])

/-- A number. -/
def writeNatural (n : Nat) : Writer := fun _ _ => Decimal.digits n

/-- One of the words `true` and `false`. -/
def writeFlag (b : Bool) : Writer := fun _ _ =>
  if b then ['t', 'r', 'u', 'e'] else ['f', 'a', 'l', 's', 'e']

/-- A text. -/
def writeString (s : String) : Writer := fun _ _ => writeText s

/-- A list of items. -/
def writeList (items : List Writer) : Writer := fun l level =>
  bracketed '[' ']' l level (items.map fun w => w l (level + 1))

/-- An object of fields. -/
def writeObject (fields : List (String × Writer)) : Writer := fun l level =>
  bracketed '\x7b' '\x7d' l level
    (fields.map fun f => writeText f.1 ++ colon l ++ f.2 l (level + 1))

/-- A whole document. -/
def document (w : Writer) (l : Layout) : String :=
  String.ofList (w l 0)

end Json
end CoverageWindows
