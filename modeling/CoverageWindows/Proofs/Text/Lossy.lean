import CoverageWindows.Text.Utf8
import Mathlib.Algebra.Group.Nat.Defs

/-!
# Ordinary characters in texts that are read lossily

A byte below 128 is a character by itself.  No other byte makes such a character: what several bytes
spell is 128 or more, since their first byte and the range of the second leave no room for less, and
bytes that spell nothing are read as a character that is far above.  So an ordinary character of a
text stands for its own byte.

Main results:

- Theorem `Ordinary.mem_of_mem_lossy`: an ordinary character of a text is one of the bytes.
- Theorem `lossy_cons`: a byte below 128 is read as its own character.
-/

namespace CoverageWindows
namespace Text

/-! ## Characters of several bytes -/

/-- Whatever bytes follow, the character will be 128 or more. -/
def Unfinished.Wide (u : Unfinished) : Prop :=
  0x80 ≤ (u.bits * 64 + (u.low.toNat - 0x80)) * 64 ^ (u.missing - 1)

/-- A byte that begins a character leaves no room for one below 128. -/
theorem Unfinished.Wide.of_begin? {b : UInt8} {u : Unfinished} (h : begin? b = some (.inr u)) :
    u.Wide := by
  have hwide : ∀ v : Unfinished, v.Wide → some (Sum.inr v) = some (Sum.inr u : Char ⊕ _) →
      u.Wide := by
    rintro v hv ⟨⟩
    exact hv
  have hlow : (0x80 : UInt8).toNat = 0x80 := rfl
  revert h
  fun_cases begin? b with
  | case1 | case2 | case10 => exact nofun
  | case3 n | case6 n | case8 n =>
      -- The least first bytes with two, three and four bytes and no bounds of their own.
      refine hwide _ ?_
      simp only [Wide, hlow]
      omega
  | case4 | case5 | case7 | case9 => exact hwide _ (by simp [Wide])

/-- A character that takes more than one byte is none of the first 128. -/
theorem Unfinished.Wide.le_bits {u : Unfinished} (h : u.Wide) (hlast : u.missing ≤ 1) {b : UInt8}
    (hb : u.low ≤ b) : 0x80 ≤ u.bits * 64 + (b.toNat - 0x80) := by
  have hzero : u.missing - 1 = 0 := by omega
  have hle : u.low.toNat ≤ b.toNat := UInt8.le_iff_toNat_le.1 hb
  rw [Unfinished.Wide, hzero, Nat.pow_zero, Nat.mul_one] at h
  omega

/-- One more byte leaves a beginning wide. -/
theorem Unfinished.Wide.next {u : Unfinished} (h : u.Wide) (hmore : ¬u.missing ≤ 1) {b : UInt8}
    (hb : u.low ≤ b) (bytes : Bytes) :
    Unfinished.Wide ⟨u.bits * 64 + (b.toNat - 0x80), u.missing - 1, 0x80, 0xBF, bytes⟩ := by
  have hle : u.low.toNat ≤ b.toNat := UInt8.le_iff_toNat_le.1 hb
  have hlow : (0x80 : UInt8).toNat - 0x80 = 0 := by decide
  have hpow : 64 ^ (u.missing - 1) = 64 * 64 ^ (u.missing - 1 - 1) := by
    rw [← Nat.pow_succ', Nat.succ_eq_add_one, Nat.sub_add_cancel (by omega)]
  rw [Unfinished.Wide] at h ⊢
  simp only [hlow, Nat.add_zero, Nat.mul_assoc]
  rw [← hpow]
  exact Nat.le_trans h (Nat.mul_le_mul_right _ (by omega))

/-! ## Ordinary characters -/

/-- A character below 128 that is not the one of number zero, which also stands for numbers that are
no character's. -/
structure Ordinary (c : Char) : Prop where
  lt : c.toNat < 0x80
  ne_zero : c ≠ '\x00'

variable {c : Char}

/-- An ordinary character comes of its own code only. -/
theorem Ordinary.eq_of_ofNat (h : Ordinary c) {n : Nat} (hn : Char.ofNat n = c) : c.toNat = n := by
  by_cases hvalid : n.isValidChar
  · rw [← hn, Char.ofNat, dif_pos hvalid]
    rfl
  · rw [Char.ofNat, dif_neg hvalid] at hn
    exact absurd hn.symm h.ne_zero

/-- An ordinary character that takes one byte is that byte. -/
theorem Ordinary.eq_of_begin? (h : Ordinary c) {b : UInt8} (hb : begin? b = some (.inl c)) :
    UInt8.ofNat c.toNat = b := by
  have hnat : c.toNat = b.toNat := by
    refine h.eq_of_ofNat ?_
    revert hb
    fun_cases begin? b with
    | case1 => exact fun hb => Sum.inl.inj (Option.some.inj hb)
    | _ => exact nofun
  rw [hnat, UInt8.ofNat_toNat]

/-- A byte that cannot go on is read as if a character could begin there. -/
theorem piecesFrom_of_misfit {u : Unfinished} {b : UInt8} (h : ¬(u.low ≤ b ∧ b ≤ u.high))
    (rest : Bytes) :
    piecesFrom (some u) (b :: rest) = .junk u.bytes :: piecesFrom none (b :: rest) := by
  rw [piecesFrom, if_neg h, piecesFrom]
  cases begin? b with
  | none => rfl
  | some d => cases d <;> rfl

/-- Between characters, a byte is the ordinary character, or it stands behind the byte. -/
theorem Ordinary.mem_piecesFrom_none (h : Ordinary c) {b : UInt8} {rest : Bytes}
    (hmem : .char c ∈ piecesFrom none (b :: rest)) :
    UInt8.ofNat c.toNat = b ∨ ∃ u, (∀ v ∈ u, v.Wide) ∧ .char c ∈ piecesFrom u rest := by
  rw [piecesFrom] at hmem
  split at hmem
  · simp only [List.mem_cons, reduceCtorEq, false_or] at hmem
    exact .inr ⟨none, by simp, hmem⟩
  · rename_i d hbegin
    rcases List.mem_cons.1 hmem with heq | hmem
    · cases heq
      exact .inl (h.eq_of_begin? hbegin)
    · exact .inr ⟨none, by simp, hmem⟩
  · rename_i v hbegin
    exact .inr ⟨some v, by simpa using Unfinished.Wide.of_begin? hbegin, hmem⟩

/-- Whatever is read so far, a byte is the ordinary character, or it stands behind the byte. -/
theorem Ordinary.mem_piecesFrom_cons (h : Ordinary c) {u : Option Unfinished}
    (hu : ∀ v ∈ u, v.Wide) {b : UInt8} {rest : Bytes}
    (hmem : .char c ∈ piecesFrom u (b :: rest)) :
    UInt8.ofNat c.toNat = b ∨ ∃ u, (∀ v ∈ u, v.Wide) ∧ .char c ∈ piecesFrom u rest := by
  cases u with
  | none => exact h.mem_piecesFrom_none hmem
  | some u =>
      have hwide : u.Wide := hu u rfl
      by_cases hrange : u.low ≤ b ∧ b ≤ u.high
      · rw [piecesFrom, if_pos hrange] at hmem
        dsimp only at hmem
        split at hmem
        · rename_i hlast
          rcases List.mem_cons.1 hmem with heq | hmem
          · have hle := hwide.le_bits hlast hrange.1
            have hbits := h.eq_of_ofNat (Piece.char.inj heq).symm
            exact absurd h.lt (by omega)
          · exact .inr ⟨none, by simp, hmem⟩
        · rename_i hmore
          exact .inr ⟨_, by simpa using hwide.next hmore hrange.1 (u.bytes ++ [b]), hmem⟩
      · rw [piecesFrom_of_misfit hrange] at hmem
        simp only [List.mem_cons, reduceCtorEq, false_or] at hmem
        exact h.mem_piecesFrom_none hmem

/-- An ordinary character among the pieces of a byte string is one of its bytes. -/
theorem Ordinary.mem_of_mem_piecesFrom (h : Ordinary c) {u : Option Unfinished}
    (hu : ∀ v ∈ u, v.Wide) {b : Bytes} (hmem : .char c ∈ piecesFrom u b) :
    UInt8.ofNat c.toNat ∈ b := by
  induction b generalizing u with
  | nil => cases u <;> simp [piecesFrom] at hmem
  | cons b rest ih =>
      rcases h.mem_piecesFrom_cons hu hmem with rfl | ⟨v, hv, hmem⟩
      · exact List.mem_cons_self
      · exact List.mem_cons_of_mem b (ih hv hmem)

/-- An ordinary character of a text is one of the bytes that it is read from. -/
theorem Ordinary.mem_of_mem_lossy (h : Ordinary c) {b : Bytes} (hmem : c ∈ (lossy b).toList) :
    UInt8.ofNat c.toNat ∈ b := by
  rw [lossy, String.toList_ofList] at hmem
  obtain ⟨p, hp, rfl⟩ := List.mem_map.1 hmem
  cases p with
  | char d => exact h.mem_of_mem_piecesFrom (by simp) hp
  | junk bytes => exact absurd h.lt (by simp [Piece.toChar, replacement])

/-- A byte below 128 is read as its own character. -/
theorem lossy_cons {b : UInt8} (hb : b.toNat < 0x80) (rest : Bytes) :
    (lossy (b :: rest)).toList = Char.ofNat b.toNat :: (lossy rest).toList := by
  have hbegin : begin? b = some (.inl (Char.ofNat b.toNat)) := if_pos hb
  rw [lossy, lossy, String.toList_ofList, String.toList_ofList, pieces, piecesFrom, hbegin]
  rfl

end Text
end CoverageWindows
