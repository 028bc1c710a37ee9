import CoverageWindows.Json.Fault
import CoverageWindows.Text.Utf8

/-!
# Texts of a document

A text stands between double quotes.  A quote, a backslash and the controls are escaped when a text
is written; when it is read, any character may also be written by its UTF-16 units.
-/

namespace CoverageWindows
namespace Json

/-! ## Writing -/

/-- A hexadecimal digit in lower case. -/
def hexChar (n : Nat) : Char :=
  if n < 10 then Char.ofNat (48 + n) else Char.ofNat (87 + n)

/-- A character inside quotes. -/
def escaped (c : Char) : List Char :=
  if c = '"' then ['\\', '"']
  else if c = '\\' then ['\\', '\\']
  else if c.toNat = 8 then ['\\', 'b']
  else if c.toNat = 9 then ['\\', 't']
  else if c.toNat = 10 then ['\\', 'n']
  else if c.toNat = 12 then ['\\', 'f']
  else if c.toNat = 13 then ['\\', 'r']
  else if c.toNat < 32 then
    ['\\', 'u', '0', '0', hexChar (c.toNat / 16), hexChar (c.toNat % 16)]
  else [c]

/-- A text between quotes. -/
def writeText (s : String) : List Char :=
  '"' :: s.toList.flatMap escaped ++ ['"']

/-! ## Reading -/

/-- The value of a hexadecimal digit. -/
def hexValue? (c : Char) : Option Nat :=
  let n := c.toNat
  if 48 ≤ n ∧ n ≤ 57 then some (n - 48)
  else if 97 ≤ n ∧ n ≤ 102 then some (n - 87)
  else if 65 ≤ n ∧ n ≤ 70 then some (n - 55)
  else none

/-- The UTF-16 unit that four hexadecimal digits spell.  Where fewer than four bytes are left, the
text ends; where they are no digits, the escape is bad, and that is told behind the four bytes. -/
def readUnit (cs : List Char) : Except Stop (Nat × List Char) :=
  if Text.byteCount (cs.take 4) < 4 then .error (.atEnd .text)
  else
    match cs with
    | a :: b :: c :: d :: rest =>
        match hexValue? a, hexValue? b, hexValue? c, hexValue? d with
        | some a, some b, some c, some d => .ok (4096 * a + 256 * b + 16 * c + d, rest)
        | _, _, _, _ => .error ⟨.badEscape, Text.byteCount cs - 4⟩
    | _ => .error ⟨.badEscape, Text.byteCount cs - 4⟩

/-- The character that is written by its units, from behind the letter `u`: one unit, or a leading
surrogate and an escaped trailing one. -/
def readUnits (cs : List Char) : Except Stop (Char × List Char) := do
  let (n, rest) ← readUnit cs
  if 0xDC00 ≤ n ∧ n ≤ 0xDFFF then .error (.before .loneSurrogate rest)
  else if n < 0xD800 ∨ 0xDBFF < n then .ok (Char.ofNat n, rest)
  else
    match rest with
    | [] => .error (.atEnd .text)
    | '\\' :: [] => .error (.atEnd .text)
    | '\\' :: 'u' :: rest => do
        let (m, rest) ← readUnit rest
        if 0xDC00 ≤ m ∧ m ≤ 0xDFFF then
          .ok (Char.ofNat ((n - 0xD800) * 1024 + (m - 0xDC00) + 0x10000), rest)
        else .error (.before .loneSurrogate rest)
    | '\\' :: rest => .error (.on .halfSurrogate rest)
    | _ => .error (.on .halfSurrogate rest)

/-- The character of an escape, from behind the backslash. -/
def readEscape (cs : List Char) : Except Stop (Char × List Char) :=
  match cs with
  | [] => .error (.atEnd .text)
  | c :: rest =>
      if c = '"' ∨ c = '\\' ∨ c = '/' then .ok (c, rest)
      else if c = 'b' then .ok ('\x08', rest)
      else if c = 'f' then .ok ('\x0c', rest)
      else if c = 'n' then .ok ('\n', rest)
      else if c = 'r' then .ok ('\r', rest)
      else if c = 't' then .ok ('\t', rest)
      else if c = 'u' then readUnits rest
      else .error (.on .badEscape cs)

/-- The characters up to the closing quote.  Every character of `bound` allows one step, so a text
that is as long as the one that is read allows them all. -/
def readQuoted : List Char → List Char → Except Stop (List Char × List Char)
  | [], _ => .error (.atEnd .text)
  | _ :: bound, cs =>
      match cs with
      | [] => .error (.atEnd .text)
      | c :: rest =>
          if c = '"' then .ok ([], rest)
          else if c = '\\' then do
            let (e, rest) ← readEscape rest
            let (es, rest) ← readQuoted bound rest
            return (e :: es, rest)
          else if c.toNat < 32 then .error (.on .rawControl cs)
          else do
            let (es, rest) ← readQuoted bound rest
            return (c :: es, rest)

/-- A text from behind its opening quote. -/
def readText (cs : List Char) : Except Stop (String × List Char) := do
  let (es, rest) ← readQuoted cs cs
  return (String.ofList es, rest)

/-! ## Passing over -/

/-- What follows a text that is passed over, from behind its opening quote; its escapes have to be
well formed, but need not name a character.  Every character of `bound` allows one step. -/
def skipQuoted : List Char → List Char → Except Stop (List Char)
  | [], _ => .error (.atEnd .text)
  | _ :: bound, cs =>
      match cs with
      | [] => .error (.atEnd .text)
      | c :: rest =>
          if c = '"' then .ok rest
          else if c = '\\' then
            match rest with
            | [] => .error (.atEnd .text)
            | e :: rest =>
                if e = 'u' then do
                  let (_, rest) ← readUnit rest
                  skipQuoted bound rest
                else if e ∈ ['"', '\\', '/', 'b', 'f', 'n', 'r', 't'] then skipQuoted bound rest
                else .error (.on .badEscape (e :: rest))
          else if c.toNat < 32 then .error (.before .rawControl cs)
          else skipQuoted bound rest

/-- What follows a text that is passed over. -/
def skipText (cs : List Char) : Except Stop (List Char) :=
  skipQuoted cs cs

end Json
end CoverageWindows
