import CoverageWindows.Json.Number
import CoverageWindows.Json.Quote

/-!
# Reading a document as a value of an expected form

A reader takes a value from the front of a text and leaves the rest, or stops at the first fault in
the order of the text.  Readers for numbers, flags and texts are put together to readers for lists
and records.  A record may be written as an object, of which unknown fields are passed over, or as
the list of its fields in order.

Each step of a repetition takes at least one character.  The repetitions therefore go along a text
`bound` of which every character allows one step; the text that is read serves as its own bound.
-/

namespace CoverageWindows
namespace Json

/-- Takes a value from the front of a text. -/
abbrev Reader (α : Type) := List Char → Except Stop (α × List Char)

/-! ## Blanks and words -/

/-- The four blank characters of a document. -/
def isBlank (c : Char) : Bool :=
  c == ' ' || c == '\n' || c == '\t' || c == '\r'

/-- A text without the blanks in front. -/
def skipBlank (cs : List Char) : List Char :=
  cs.dropWhile isBlank

/-- What follows the rest of a word of which the first letter is read. -/
def readWord : List Char → List Char → Except Stop (List Char)
  | [], cs => .ok cs
  | _ :: _, [] => .error (.atEnd .value)
  | w :: ws, c :: cs => if c = w then readWord ws cs else .error (.on .expectedWord (c :: cs))

/-- The value that stands at the front of a text without blanks in front, and what follows it; lists
and objects are told by their brackets, which are not taken. -/
def found (cs : List Char) : Except Stop (Found × List Char) :=
  match cs with
  | [] => .error (.on .expectedValue cs)
  | c :: rest =>
      if c = 'n' then (readWord ['u', 'l', 'l'] rest).map fun r => (.null, r)
      else if c = 't' then (readWord ['r', 'u', 'e'] rest).map fun r => (.flag true, r)
      else if c = 'f' then (readWord ['a', 'l', 's', 'e'] rest).map fun r => (.flag false, r)
      else if c = '-' ∨ Decimal.isDigit c then (readNumber cs).map fun p => (p.1.found, p.2)
      else if c = '"' then (readText rest).map fun p => (.text p.1, p.2)
      else if c = '[' then .ok (.list, cs)
      else if c = '\x7b' then .ok (.object, cs)
      else .error (.on .expectedValue cs)

/-- How the reading of a text stops that has something else than expected at its front. -/
def clash (expected : String) (cs : List Char) : Stop :=
  match found cs with
  | .ok (f, rest) => .before (.wrongKind f expected) rest
  | .error e => e

/-! ## Simple values -/

/-- A natural number up to a limit; `kind` names the numbers that are expected. -/
def readNatural (kind : String) (limit : Nat) : Reader Nat := fun cs =>
  match skipBlank cs with
  | [] => .error (.atEnd .value)
  | c :: rest =>
      if c = '-' ∨ Decimal.isDigit c then do
        let (n, rest) ← readNumber (c :: rest)
        match n with
        | .natural n =>
            if n.toNat ≤ limit then .ok (n.toNat, rest)
            else .error (.before (.wrongValue (.integer n.toNat) kind) rest)
        | .negative n => .error (.before (.wrongValue (.integer (-n)) kind) rest)
        | .float bits => .error (.before (.wrongKind (.float bits) kind) rest)
      else .error (clash kind (c :: rest))

/-- A 32-bit number. -/
def readU32 : Reader UInt32 := fun cs =>
  (readNatural "u32" 4294967295 cs).map fun p => (UInt32.ofNat p.1, p.2)

/-- A 64-bit number. -/
def readU64 : Reader UInt64 := fun cs =>
  (readNatural "u64" greatestWord cs).map fun p => (UInt64.ofNat p.1, p.2)

/-- One of the words `true` and `false`. -/
def readFlag : Reader Bool := fun cs =>
  match skipBlank cs with
  | [] => .error (.atEnd .value)
  | c :: rest =>
      if c = 't' then (readWord ['r', 'u', 'e'] rest).map fun r => (true, r)
      else if c = 'f' then (readWord ['a', 'l', 's', 'e'] rest).map fun r => (false, r)
      else .error (clash "a boolean" (c :: rest))

/-- The word `null`. -/
def readNull : Reader Unit := fun cs =>
  match skipBlank cs with
  | [] => .error (.atEnd .value)
  | c :: rest =>
      if c = 'n' then (readWord ['u', 'l', 'l'] rest).map fun r => ((), r)
      else .error (clash "unit" (c :: rest))

/-- A text; `kind` names what is expected. -/
def readString (kind : String) : Reader String := fun cs =>
  match skipBlank cs with
  | [] => .error (.atEnd .value)
  | c :: rest => if c = '"' then readText rest else .error (clash kind (c :: rest))

/-! ## Passing over a value -/

/-- The colon after a key. -/
def readColon (cs : List Char) : Except Stop (List Char) :=
  match skipBlank cs with
  | [] => .error (.atEnd .object)
  | ':' :: rest => .ok rest
  | rest => .error (.on .expectedColon rest)

/-- A bracket that is open around a value. -/
inductive Bracket where
  | list
  | object
  deriving DecidableEq, Repr

/-- A key and its colon, passed over. -/
def skipKey (cs : List Char) : Except Stop (List Char) :=
  match skipBlank cs with
  | [] => .error (.atEnd .object)
  | '"' :: rest => do
      let rest ← skipText rest
      readColon rest
  | rest => .error (.on .keyNotText rest)

/-- From behind a value: the brackets that close there are closed, and if one stays open its next
value is due. -/
def skipClosing : List Bracket → List Char → Except Stop (List Bracket × List Char)
  | [], cs => .ok ([], cs)
  | .list :: outer, cs =>
      match skipBlank cs with
      | [] => .error (.atEnd .list)
      | ',' :: rest => .ok (.list :: outer, rest)
      | ']' :: rest => skipClosing outer rest
      | rest => .error (.on .expectedCommaOrBracket rest)
  | .object :: outer, cs =>
      match skipBlank cs with
      | [] => .error (.atEnd .object)
      | ',' :: rest => (skipKey rest).map fun r => (.object :: outer, r)
      | '\x7d' :: rest => skipClosing outer rest
      | rest => .error (.on .expectedCommaOrBrace rest)

/-- A word, a number or a text, passed over from its first character on. -/
def skipSimple (c : Char) (rest : List Char) : Except Stop (List Char) :=
  if c = 'n' then readWord ['u', 'l', 'l'] rest
  else if c = 't' then readWord ['r', 'u', 'e'] rest
  else if c = 'f' then readWord ['a', 'l', 's', 'e'] rest
  else if c = '-' then skipNumber rest
  else if Decimal.isDigit c then skipNumber (c :: rest)
  else if c = '"' then skipText rest
  else .error (.on .expectedValue (c :: rest))

/-- What follows the outermost value, of which some brackets are open, in at most as many steps as
`bound` has characters. -/
def skipInside : List Char → List Bracket → List Char → Except Stop (List Char)
  | [], _, _ => .error (.atEnd .value)
  | _ :: bound, brackets, cs => do
      let (brackets, rest) ←
        match skipBlank cs with
        | [] => .error (.atEnd .value)
        | '[' :: rest =>
            match skipBlank rest with
            | [] => .error (.atEnd .list)
            | ']' :: rest => skipClosing brackets rest
            | _ => .ok (.list :: brackets, rest)
        | '\x7b' :: rest =>
            match skipBlank rest with
            | [] => .error (.atEnd .object)
            | '\x7d' :: rest => skipClosing brackets rest
            | _ => (skipKey rest).map fun r => (.object :: brackets, r)
        | c :: rest => do
            let rest ← skipSimple c rest
            skipClosing brackets rest
      if brackets.isEmpty then .ok rest else skipInside bound brackets rest

/-- A value of any form, passed over; nothing limits its depth. -/
def skipValue (cs : List Char) : Except Stop (List Char) :=
  skipInside cs [] cs

/-! ## Lists -/

/-- The rest of a list from behind an item, in at most as many steps as `bound` has characters. -/
def readItems {α : Type} (item : Reader α) : List Char → Reader (List α)
  | [], _ => .error (.atEnd .list)
  | _ :: bound, cs =>
      match skipBlank cs with
      | [] => .error (.atEnd .list)
      | ']' :: rest => .ok ([], rest)
      | ',' :: rest =>
          match skipBlank rest with
          | [] => .error (.atEnd .value)
          | ']' :: rest => .error (.on .commaAtEnd (']' :: rest))
          | c :: rest => do
              let (a, rest) ← item (c :: rest)
              let (as, rest) ← readItems item bound rest
              return (a :: as, rest)
      | rest => .error (.on .expectedCommaOrBracket rest)

/-- A list of items. -/
def readList {α : Type} (item : Reader α) : Reader (List α) := fun cs =>
  match skipBlank cs with
  | [] => .error (.atEnd .value)
  | '[' :: rest =>
      match skipBlank rest with
      | [] => .error (.atEnd .list)
      | ']' :: rest => .ok ([], rest)
      | c :: rest => do
          let (a, rest) ← item (c :: rest)
          let (as, rest) ← readItems item rest rest
          return (a :: as, rest)
  | c :: rest => .error (clash "a sequence" (c :: rest))

/-! ## Records -/

/-- A field of a record that is being read: its key, whether it is there already, and how its value
is read and put in its place. -/
structure Field (σ : Type) where
  key : String
  isSet : σ → Bool
  read : σ → Reader σ

/-- The field that is read by a reader and kept in a place that is empty at first. -/
def Field.ofReader {σ α : Type} (key : String) (get : σ → Option α) (set : σ → α → σ)
    (value : Reader α) : Field σ where
  key := key
  isSet d := (get d).isSome
  read d cs := (value cs).map fun p => (set d p.1, p.2)

/-- The value of a field that has to be there. -/
def need {α : Type} (key : String) : Option α → Except Fault α
  | some a => .ok a
  | none => .error (.missingField key)

/-- The form of a record: its name, its fields in order, and how a value is made of them. -/
structure RecordForm (σ α : Type) where
  title : String
  fields : List (Field σ)
  start : σ
  finish : σ → Except Fault α

namespace RecordForm

variable {σ α : Type}

/-- The name of the form in messages. -/
def expected (f : RecordForm σ α) : String := "struct " ++ f.title

/-- The name of the form with the number of its fields. -/
def expectedLength (f : RecordForm σ α) : String :=
  f.expected ++ " with " ++ String.ofList (Decimal.digits f.fields.length) ++
    (if f.fields.length = 1 then " element" else " elements")

/-- How the reading of an object stops that has a field twice: in front of what follows the key, of
which a closing brace counts as read. -/
def repeatedField (key : String) (rest : List Char) : Stop :=
  match skipBlank rest with
  | '\x7d' :: rest => .before (.duplicateField key) rest
  | rest => .before (.duplicateField key) rest

/-- The value that is made of the fields in front of what is left. -/
def finishAt (f : RecordForm σ α) (d : σ) (rest : List Char) : Except Stop α :=
  (f.finish d).mapError fun e => .before e rest

/-- One field of an object from its key on. -/
def readField (f : RecordForm σ α) (d : σ) (cs : List Char) : Except Stop (σ × List Char) := do
  let (key, rest) ← readText cs
  match f.fields.find? fun x => x.key == key with
  | some x =>
      if x.isSet d then .error (repeatedField key rest)
      else do
        let rest ← readColon rest
        x.read d rest
  | none => do
      let rest ← readColon rest
      let rest ← skipValue rest
      return (d, rest)

/-- The rest of an object from behind a field, in at most as many steps as `bound` has
characters. -/
def readFields (f : RecordForm σ α) : List Char → σ → Reader σ
  | [], _, _ => .error (.atEnd .object)
  | _ :: bound, d, cs =>
      match skipBlank cs with
      | [] => .error (.atEnd .object)
      | '\x7d' :: rest => .ok (d, rest)
      | ',' :: rest =>
          match skipBlank rest with
          | [] => .error (.atEnd .value)
          | '"' :: rest => do
              let (d, rest) ← f.readField d rest
              f.readFields bound d rest
          | '\x7d' :: rest => .error (.on .commaAtEnd ('\x7d' :: rest))
          | rest => .error (.on .keyNotText rest)
      | rest => .error (.on .expectedCommaOrBrace rest)

/-- An object from behind its opening brace.  A field that is missing is told behind the closing
brace. -/
def readObject (f : RecordForm σ α) : Reader α := fun cs =>
  match skipBlank cs with
  | [] => .error (.atEnd .object)
  | '\x7d' :: rest => do
      let a ← f.finishAt f.start rest
      return (a, rest)
  | '"' :: rest => do
      let (d, rest) ← f.readField f.start rest
      let (d, rest) ← f.readFields rest d rest
      let a ← f.finishAt d rest
      return (a, rest)
  | rest => .error (.on .keyNotText rest)

/-- The fields of a list in order, `count` of them being read. -/
def readInOrder (f : RecordForm σ α) : List (Field σ) → Nat → σ → Reader σ
  | [], _, d, cs => .ok (d, cs)
  | x :: xs, count, d, cs =>
      match skipBlank cs with
      | [] => .error (.atEnd .list)
      | ']' :: rest => .error (.before (.wrongLength count f.expectedLength) rest)
      | c :: rest =>
          if count = 0 then do
            let (d, rest) ← x.read d (c :: rest)
            f.readInOrder xs (count + 1) d rest
          else if c = ',' then
            match skipBlank rest with
            | [] => .error (.atEnd .value)
            | ']' :: rest => .error (.on .commaAtEnd (']' :: rest))
            | c :: rest => do
                let (d, rest) ← x.read d (c :: rest)
                f.readInOrder xs (count + 1) d rest
          else .error (.on .expectedCommaOrBracket (c :: rest))

/-- The end of a list that has all fields. -/
def readListEnd (cs : List Char) : Except Stop (List Char) :=
  match skipBlank cs with
  | [] => .error (.atEnd .list)
  | ']' :: rest => .ok rest
  | ',' :: rest =>
      match skipBlank rest with
      | ']' :: rest => .error (.on .commaAtEnd (']' :: rest))
      | rest => .error (.on .moreText rest)
  | rest => .error (.on .moreText rest)

/-- A record in one of its two written forms. -/
def read (f : RecordForm σ α) : Reader α := fun cs =>
  match skipBlank cs with
  | [] => .error (.atEnd .value)
  | '[' :: rest => do
      let (d, rest) ← f.readInOrder f.fields 0 f.start rest
      let a ← f.finishAt d rest
      let rest ← readListEnd rest
      return (a, rest)
  | '\x7b' :: rest => f.readObject rest
  | c :: rest => .error (clash f.expected (c :: rest))

end RecordForm

/-! ## Documents -/

/-- The value of a whole document. -/
def readDocument {α : Type} (reader : Reader α) (cs : List Char) : Except Stop α := do
  let (a, rest) ← reader cs
  match skipBlank rest with
  | [] => .ok a
  | rest => .error (.on .moreText rest)

end Json
end CoverageWindows
