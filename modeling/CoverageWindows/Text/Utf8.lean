import CoverageWindows.Bytes

/-!
# Text in bytes

UTF-8 in both directions.  Reading comes in two kinds: strict reading refuses bytes that are no
text, lossy reading writes one replacement character for each longest piece that begins a character
and cannot be finished.

Main results:

- Theorem `ofBytes?_toBytes`: strict reading undoes writing.
- Theorem `length_toBytes`: the bytes of a text, counted by its characters.
-/

namespace CoverageWindows
namespace Text

/-! ## Strict reading -/

/-- The UTF-8 bytes of a text. -/
def toBytes (s : String) : Bytes :=
  s.toUTF8.data.toList

/-- The text that the bytes spell, if they spell one. -/
def ofBytes? (b : Bytes) : Option String :=
  String.fromUTF8? ⟨b.toArray⟩

/-- The number of bytes of a character. -/
def byteCount (cs : List Char) : Nat :=
  cs.foldl (fun n c => n + c.utf8Size) 0

@[simp]
theorem ofBytes?_toBytes (s : String) : ofBytes? (toBytes s) = some s := by
  have hwrap : (⟨(toBytes s).toArray⟩ : ByteArray) = s.toByteArray := by simp [toBytes]
  have hvalid : s.toByteArray.IsValidUTF8 := s.isValidUTF8
  rw [ofBytes?, hwrap, String.fromUTF8?, dif_pos hvalid]
  rfl

/-- The bytes of a text are those of its characters, one after the other. -/
theorem toBytes_eq (s : String) : toBytes s = s.toList.flatMap String.utf8EncodeChar := by
  have hbytes : (String.ofList s.toList).toByteArray =
      (s.toList.flatMap String.utf8EncodeChar).toByteArray := rfl
  rw [String.ofList_toList] at hbytes
  rw [toBytes, String.toUTF8_eq_toByteArray, hbytes]
  simp

theorem foldl_utf8Size (n : Nat) (cs : List Char) :
    cs.foldl (fun n c => n + c.utf8Size) n = n + byteCount cs := by
  induction cs generalizing n with
  | nil => rfl
  | cons c cs ih =>
      rw [byteCount, List.foldl_cons, List.foldl_cons, ih, ih (0 + c.utf8Size)]
      omega

theorem byteCount_cons (c : Char) (cs : List Char) :
    byteCount (c :: cs) = c.utf8Size + byteCount cs := by
  rw [byteCount, List.foldl_cons, foldl_utf8Size, Nat.zero_add]

/-- A text has as many bytes as its characters take. -/
theorem length_toBytes (cs : List Char) : (toBytes (String.ofList cs)).length = byteCount cs := by
  rw [toBytes_eq, String.toList_ofList]
  induction cs with
  | nil => rfl
  | cons c cs ih =>
      rw [List.flatMap_cons, List.length_append, ih, byteCount_cons, String.length_utf8EncodeChar]

/-! ## Pieces of a byte string -/

/-- A character, or bytes that begin one and cannot be finished. -/
inductive Piece where
  | char (c : Char)
  | junk (bytes : Bytes)
  deriving DecidableEq, Repr

/-- A character of which the first bytes are read: its bits so far, the number of bytes to come, the
range of the next one, and the bytes that are read. -/
structure Unfinished where
  bits : Nat
  missing : Nat
  low : UInt8
  high : UInt8
  bytes : Bytes

/-- What a byte that begins a character says: `none` for a byte that begins none. -/
def begin? (b : UInt8) : Option (Char ⊕ Unfinished) :=
  let n := b.toNat
  if n < 0x80 then some (.inl (Char.ofNat n))
  else if n < 0xC2 then none
  else if n < 0xE0 then some (.inr ⟨n - 0xC0, 1, 0x80, 0xBF, [b]⟩)
  else if n = 0xE0 then some (.inr ⟨0, 2, 0xA0, 0xBF, [b]⟩)
  else if n = 0xED then some (.inr ⟨0xD, 2, 0x80, 0x9F, [b]⟩)
  else if n < 0xF0 then some (.inr ⟨n - 0xE0, 2, 0x80, 0xBF, [b]⟩)
  else if n = 0xF0 then some (.inr ⟨0, 3, 0x90, 0xBF, [b]⟩)
  else if n < 0xF4 then some (.inr ⟨n - 0xF0, 3, 0x80, 0xBF, [b]⟩)
  else if n = 0xF4 then some (.inr ⟨4, 3, 0x80, 0x8F, [b]⟩)
  else none

/-- The pieces of a byte string from a state inside or between characters. -/
def piecesFrom : Option Unfinished → Bytes → List Piece
  | none, [] => []
  | some u, [] => [.junk u.bytes]
  | some u, b :: rest =>
      if u.low ≤ b ∧ b ≤ u.high then
        let bits := u.bits * 64 + (b.toNat - 0x80)
        if u.missing ≤ 1 then .char (Char.ofNat bits) :: piecesFrom none rest
        else piecesFrom (some ⟨bits, u.missing - 1, 0x80, 0xBF, u.bytes ++ [b]⟩) rest
      else
        match begin? b with
        | none => .junk u.bytes :: .junk [b] :: piecesFrom none rest
        | some (.inl c) => .junk u.bytes :: .char c :: piecesFrom none rest
        | some (.inr v) => .junk u.bytes :: piecesFrom (some v) rest
  | none, b :: rest =>
      match begin? b with
      | none => .junk [b] :: piecesFrom none rest
      | some (.inl c) => .char c :: piecesFrom none rest
      | some (.inr v) => piecesFrom (some v) rest

/-- The pieces of a byte string. -/
def pieces (b : Bytes) : List Piece := piecesFrom none b

/-! ## Lossy reading -/

/-- The character that stands for bytes that are no text. -/
def replacement : Char := '\uFFFD'

/-- The character of a piece. -/
def Piece.toChar : Piece → Char
  | char c => c
  | junk _ => replacement

/-- The text of a byte string, with a replacement character for each piece that is no text. -/
def lossy (b : Bytes) : String :=
  String.ofList ((pieces b).map Piece.toChar)

end Text
end CoverageWindows
