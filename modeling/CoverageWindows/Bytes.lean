/-!
# Bytes

Everything that crosses the edge of the program (paths, environment values, file contents, profile
memory) is a list of bytes.  This module holds the little-endian integer codec and the hexadecimal
text of byte lists.

Main results:

- Theorem `readLE_writeLE`: reading the little-endian cells that were written gives the number back.
-/

namespace CoverageWindows

/-- A byte string. -/
abbrev Bytes := List UInt8

namespace Bytes

/-! ## Little-endian numbers -/

/-- The number that the bytes spell, least significant byte first. -/
def readLE : Bytes → Nat
  | [] => 0
  | b :: rest => b.toNat + 256 * readLE rest

/-- The `width` low bytes of a number, least significant byte first. -/
def writeLE : Nat → Nat → Bytes
  | 0, _ => []
  | width + 1, n => UInt8.ofNat (n % 256) :: writeLE width (n / 256)

/-- The number that the bytes spell, most significant byte first. -/
def readBE (b : Bytes) : Nat :=
  readLE b.reverse

@[simp]
theorem length_writeLE (width n : Nat) : (writeLE width n).length = width := by
  induction width generalizing n with
  | zero => rfl
  | succ width ih => simp [writeLE, ih]

/-- The low bytes of a number spell the number, as far as it fits in them. -/
theorem readLE_writeLE (width n : Nat) : readLE (writeLE width n) = n % Nat.pow 256 width := by
  induction width generalizing n with
  | zero => simp [writeLE, readLE, Nat.mod_one]
  | succ width ih =>
      have hbyte : (UInt8.ofNat (n % 256)).toNat = n % 256 := by
        simp [UInt8.toNat_ofNat']
      have hpow : Nat.pow 256 (width + 1) = 256 * Nat.pow 256 width := Nat.mul_comm _ _
      rw [writeLE, readLE, hbyte, ih, hpow, Nat.mod_mul]

/-- The 64-bit cells of a byte string; an incomplete last cell is dropped. -/
def words : Bytes → List UInt64
  | b0 :: b1 :: b2 :: b3 :: b4 :: b5 :: b6 :: b7 :: rest =>
      UInt64.ofNat (readLE [b0, b1, b2, b3, b4, b5, b6, b7]) :: words rest
  | _ => []

/-- The bytes of one 64-bit cell. -/
def ofWord (w : UInt64) : Bytes :=
  writeLE 8 w.toNat

/-- The bytes of a list of 64-bit cells. -/
def ofWords (ws : List UInt64) : Bytes :=
  ws.flatMap ofWord

/-! ## Hexadecimal text -/

/-- The value of a hexadecimal digit of either case. -/
def hexDigit? (c : Char) : Option Nat :=
  if '0' ≤ c ∧ c ≤ '9' then some (c.toNat - '0'.toNat)
  else if 'a' ≤ c ∧ c ≤ 'f' then some (c.toNat - 'a'.toNat + 10)
  else if 'A' ≤ c ∧ c ≤ 'F' then some (c.toNat - 'A'.toNat + 10)
  else none

/-- The bytes that an even number of hexadecimal digits spells. -/
def ofHex? : List Char → Option Bytes
  | [] => some []
  | [_] => none
  | hi :: lo :: rest =>
      match hexDigit? hi, hexDigit? lo, ofHex? rest with
      | some h, some l, some bs => some (UInt8.ofNat (16 * h + l) :: bs)
      | _, _, _ => none

/-- A hexadecimal digit in lower case. -/
def hexChar (n : Nat) : Char :=
  if n < 10 then Char.ofNat ('0'.toNat + n) else Char.ofNat ('a'.toNat + (n - 10))

/-- Two lower-case hexadecimal digits per byte. -/
def toHex (b : Bytes) : String :=
  String.ofList (b.flatMap fun x => [hexChar (x.toNat / 16), hexChar (x.toNat % 16)])

end Bytes

end CoverageWindows
