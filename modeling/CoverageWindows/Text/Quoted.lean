import CoverageWindows.Text.Unprintable
import CoverageWindows.Text.Utf8

/-!
# Quoted text

A text between double quotes as diagnostics show it.  Quotes and backslashes are escaped, four
controls have a letter, and every other character that does not show is written by its number.
Where a byte string is quoted, bytes that are no text are written by their numbers as well.
-/

namespace CoverageWindows
namespace Text

/-- The number of a character in lower-case hexadecimal digits without leading zeros. -/
def hexNumber (n : Nat) : List Char :=
  Nat.toDigits 16 n

/-- One character inside quotes. -/
def quotedChar (c : Char) : List Char :=
  if c = '"' then ['\\', '"']
  else if c = '\\' then ['\\', '\\']
  else if c = '\n' then ['\\', 'n']
  else if c = '\r' then ['\\', 'r']
  else if c = '\t' then ['\\', 't']
  else if c.toNat = 0 then ['\\', '0']
  else if isUnprintable c then ['\\', 'u', '\x7b'] ++ hexNumber c.toNat ++ ['\x7d']
  else [c]

/-- A text between double quotes. -/
def quoted (s : String) : String :=
  String.ofList ('"' :: s.toList.flatMap quotedChar ++ ['"'])

/-- One piece of a byte string inside quotes. -/
def quotedPiece : Piece → List Char
  | .char c => quotedChar c
  | .junk bytes => bytes.flatMap fun b =>
      ['\\', 'x'] ++ (Bytes.toHex [b]).toList.map Char.toUpper

/-- A byte string between double quotes. -/
def quotedBytes (b : Bytes) : String :=
  String.ofList ('"' :: (pieces b).flatMap quotedPiece ++ ['"'])

end Text
end CoverageWindows
