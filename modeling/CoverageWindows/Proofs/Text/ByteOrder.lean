import CoverageWindows.Text.Utf8

/-!
# The order of texts and of their bytes

Texts are ordered by their characters, and the bytes of texts by their values.  The two orders are
one: of two characters the lower one has bytes that fall below those of the other one before either
of them ends.

Main results:

- Theorem `encode_eq_spelled`: the bytes of a character are its leading bits and its digits to the
  base 64.
- Theorem `lower_encode`: a lower character has lower bytes.
- Theorem `toBytes_lt_toBytes`: a lower text has lower bytes.
-/

namespace CoverageWindows
namespace Text

/-! ## Byte strings that differ before they end -/

/-- Of two byte strings the first one has the lower byte where they differ first, and they differ
before either of them ends. -/
def Lower (p q : Bytes) : Prop := ∀ xs ys, p ++ xs < q ++ ys

/-- What follows the first difference does not matter. -/
theorem Lower.append {p q : Bytes} (h : Lower p q) (r s : Bytes) : Lower (p ++ r) (q ++ s) := by
  intro xs ys
  rw [List.append_assoc, List.append_assoc]
  exact h (r ++ xs) (s ++ ys)

theorem Lower.append_left {r s : Bytes} (h : Lower r s) (p : Bytes) : Lower (p ++ r) (p ++ s) := by
  intro xs ys
  rw [List.append_assoc, List.append_assoc]
  exact List.append_left_lt (h xs ys)

/-- Single bytes are in the order of their values. -/
theorem lower_singleton {a b : Nat} (h : a < b) (hb : b < 256) :
    Lower [UInt8.ofNat a] [UInt8.ofNat b] := by
  intro xs ys
  refine List.Lex.rel (UInt8.lt_iff_toNat_lt.2 ?_)
  rwa [UInt8.toNat_ofNat_of_lt' (Nat.lt_trans h hb), UInt8.toNat_ofNat_of_lt' hb]

/-! ## Leading bytes and digits -/

/-- What is left of a number without its last `k` digits to the base 64. -/
def withoutDigits : Nat → Nat → Nat
  | 0, n => n
  | k + 1, n => withoutDigits k (n / 64)

/-- A number spelled with `k` digits to the base 64, behind a byte for what is left of it. -/
def spelled (mark : Nat) : Nat → Nat → Bytes
  | 0, n => [UInt8.ofNat (mark + n)]
  | k + 1, n => spelled mark k (n / 64) ++ [UInt8.ofNat (0x80 + n % 64)]

/-- The mark of the leading byte of a character, and the number of its digits. -/
def shape (n : Nat) : Nat × Nat :=
  if n ≤ 0x7f then (0, 0)
  else if n ≤ 0x7ff then (0xc0, 1)
  else if n ≤ 0xffff then (0xe0, 2)
  else (0xf0, 3)

/-- The leading byte of a character. -/
def lead (n : Nat) : Nat := (shape n).1 + withoutDigits (shape n).2 n

/-- The four shapes, and the leading byte of each. -/
theorem shape_cases (n : Nat) :
    (n ≤ 0x7f ∧ shape n = (0, 0) ∧ lead n = n) ∨
      (0x7f < n ∧ n ≤ 0x7ff ∧ shape n = (0xc0, 1) ∧ lead n = 0xc0 + n / 64) ∨
      (0x7ff < n ∧ n ≤ 0xffff ∧ shape n = (0xe0, 2) ∧ lead n = 0xe0 + n / 64 / 64) ∨
      (0xffff < n ∧ shape n = (0xf0, 3) ∧ lead n = 0xf0 + n / 64 / 64 / 64) := by
  rw [lead, shape]
  split
  · exact Or.inl ⟨‹_›, rfl, Nat.zero_add n⟩
  · split
    · exact Or.inr (Or.inl ⟨by omega, ‹_›, rfl, rfl⟩)
    · split
      · exact Or.inr (Or.inr (Or.inl ⟨by omega, ‹_›, rfl, rfl⟩))
      · exact Or.inr (Or.inr (Or.inr ⟨by omega, rfl, rfl⟩))

/-- Of two characters the lower one has the lower leading byte, or both have one shape. -/
theorem lead_lt_or_shape_eq {m n : Nat} (h : m < n) : lead m < lead n ∨ shape m = shape n := by
  rcases shape_cases m with ⟨hm, sm, lm⟩ | ⟨hm, hm', sm, lm⟩ | ⟨hm, hm', sm, lm⟩ | ⟨hm, sm, lm⟩ <;>
    rcases shape_cases n with
      ⟨hn, sn, ln⟩ | ⟨hn, hn', sn, ln⟩ | ⟨hn, hn', sn, ln⟩ | ⟨hn, sn, ln⟩ <;>
      rw [sm, sn, lm, ln, Prod.mk.injEq] <;> omega

theorem lead_lt {n : Nat} (h : n < 0x110000) : lead n < 256 := by
  rcases shape_cases n with ⟨hn, -, ln⟩ | ⟨-, hn, -, ln⟩ | ⟨-, hn, -, ln⟩ | ⟨-, -, ln⟩ <;> omega

/-- No character has a code above the greatest one. -/
theorem code_lt (c : Char) : c.val.toNat < 0x110000 := by
  have hvalid : c.val.toNat < 55296 ∨ 57343 < c.val.toNat ∧ c.val.toNat < 0x110000 := c.valid
  omega

/-- The bytes of a character are its leading byte and its digits to the base 64. -/
theorem encode_eq_spelled (c : Char) :
    String.utf8EncodeChar c = spelled (shape c.val.toNat).1 (shape c.val.toNat).2 c.val.toNat := by
  have hc := code_lt c
  rw [String.utf8EncodeChar, shape]
  generalize c.val.toNat = n at hc ⊢
  split
  · simp [spelled]
  · split
    · have hlead : n / 64 % 32 = n / 64 := Nat.mod_eq_of_lt (by omega)
      simp [spelled, hlead, Nat.add_comm]
    · split
      · have hlead : n / 4096 % 16 = n / 4096 := Nat.mod_eq_of_lt (by omega)
        simp [spelled, hlead, Nat.add_comm, Nat.div_div_eq_div_mul]
      · have hlead : n / 262144 % 8 = n / 262144 := Nat.mod_eq_of_lt (by omega)
        simp [spelled, hlead, Nat.add_comm, Nat.div_div_eq_div_mul]

/-- With one mark and as many digits, a lower number is spelled lower. -/
theorem lower_spelled {mark k m n : Nat} (h : m < n) (hn : mark + withoutDigits k n < 256) :
    Lower (spelled mark k m) (spelled mark k n) := by
  induction k generalizing m n with
  | zero => exact lower_singleton (Nat.add_lt_add_left h mark) hn
  | succ k ih =>
      rw [spelled, spelled]
      rcases Nat.lt_or_ge (m / 64) (n / 64) with hlt | hge
      · exact (ih hlt hn).append _ _
      · have heq : m / 64 = n / 64 := by omega
        rw [heq]
        exact (lower_singleton (by omega) (by omega)).append_left _

/-- A lower leading byte makes all lower. -/
theorem lower_of_lead {mark mark' k k' m n : Nat}
    (h : mark + withoutDigits k m < mark' + withoutDigits k' n)
    (hn : mark' + withoutDigits k' n < 256) : Lower (spelled mark k m) (spelled mark' k' n) := by
  have hhead : ∀ mark k n,
      ∃ t, spelled mark k n = [UInt8.ofNat (mark + withoutDigits k n)] ++ t := by
    intro mark k n
    induction k generalizing n with
    | zero => exact ⟨[], (List.append_nil _).symm⟩
    | succ k ih =>
        rcases ih (n / 64) with ⟨t, ht⟩
        refine ⟨t ++ [UInt8.ofNat (0x80 + n % 64)], ?_⟩
        rw [spelled, ht, List.append_assoc, withoutDigits]
  rcases hhead mark k m with ⟨t, ht⟩
  rcases hhead mark' k' n with ⟨t', ht'⟩
  rw [ht, ht']
  exact (lower_singleton h hn).append t t'

/-! ## Texts -/

/-- A lower character has lower bytes. -/
theorem lower_encode {c d : Char} (h : c < d) :
    Lower (String.utf8EncodeChar c) (String.utf8EncodeChar d) := by
  have hlt : c.val.toNat < d.val.toNat := UInt32.lt_iff_toNat_lt.1 h
  have hlead := lead_lt (code_lt d)
  rw [encode_eq_spelled, encode_eq_spelled]
  rcases lead_lt_or_shape_eq hlt with hlower | hshape
  · exact lower_of_lead hlower hlead
  · rw [hshape]
    exact lower_spelled hlt hlead

/-- A lower text has lower bytes. -/
theorem toBytes_lt_toBytes {s t : String} (h : s < t) : toBytes s < toBytes t := by
  have hchars : ∀ cs ds : List Char, cs < ds →
      cs.flatMap String.utf8EncodeChar < ds.flatMap String.utf8EncodeChar := by
    intro cs ds hlt
    induction hlt with
    | @nil d ds =>
        rcases List.exists_cons_of_ne_nil (String.utf8EncodeChar_ne_nil (c := d)) with ⟨b, bs, hb⟩
        rw [List.flatMap_nil, List.flatMap_cons, hb]
        exact List.Lex.nil
    | @rel c cs d ds hcd =>
        rw [List.flatMap_cons, List.flatMap_cons]
        exact lower_encode hcd _ _
    | @cons c cs ds _ ih =>
        rw [List.flatMap_cons, List.flatMap_cons]
        exact List.append_left_lt ih
  rw [toBytes_eq, toBytes_eq]
  exact hchars s.toList t.toList h

end Text
end CoverageWindows
