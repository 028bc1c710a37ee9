/-!
# Decimal digits

The decimal digits of a natural number and the number that decimal digits spell.

Main results:

- Theorem `value_digits`: the digits of a number spell it.
- Theorem `isDigit_of_mem_digits`: they are digits.
-/

namespace CoverageWindows
namespace Decimal

/-! ## Digits -/

/-- Whether a character is one of the ten decimal digits of ASCII. -/
def isDigit (c : Char) : Bool :=
  48 ≤ c.toNat && c.toNat ≤ 57

/-- The value of a digit. -/
def digitValue (c : Char) : Nat :=
  c.toNat - 48

/-- The digit of a value below ten. -/
def digitChar (n : Nat) : Char :=
  Char.ofNat (48 + n)

/-- The decimal digits of a number, most significant digit first. -/
def digits (n : Nat) : List Char :=
  if n < 10 then [digitChar n] else digits (n / 10) ++ [digitChar (n % 10)]

/-- The number that digits spell when they follow a number already read. -/
def valueFrom (n : Nat) (ds : List Char) : Nat :=
  ds.foldl (fun acc d => 10 * acc + digitValue d) n

/-- The number that digits spell. -/
def value (ds : List Char) : Nat :=
  valueFrom 0 ds

/-- A number up to a limit, in decimal digits after an optional plus sign. -/
def number? (limit : Nat) (w : List Char) : Option Nat :=
  let ds := if w.head? = some '+' then w.tail else w
  if ds.isEmpty || !ds.all isDigit then none
  else if value ds ≤ limit then some (value ds)
  else none

/-! ## Laws -/

/-- The digits follow each other from the digit zero on. -/
theorem toNat_digitChar {n : Nat} (h : n < 10) : (digitChar n).toNat = 48 + n := by
  have hall : ∀ k < 10, (digitChar k).toNat = 48 + k := by decide
  exact hall n h

/-- A digit has the value it is written for. -/
theorem digitValue_digitChar {n : Nat} (h : n < 10) : digitValue (digitChar n) = n := by
  rw [digitValue, toNat_digitChar h]
  omega

/-- What is written for a value below ten is a digit. -/
theorem isDigit_digitChar {n : Nat} (h : n < 10) : isDigit (digitChar n) = true := by
  simp only [isDigit, toNat_digitChar h]
  simp
  omega

/-- A number is written in digits only. -/
theorem isDigit_of_mem_digits {n : Nat} {c : Char} (h : c ∈ digits n) : isDigit c = true := by
  fun_induction digits n with
  | case1 n hn =>
      rw [List.mem_singleton] at h
      exact h ▸ isDigit_digitChar hn
  | case2 n hn ih =>
      rcases List.mem_append.1 h with h | h
      · exact ih h
      · rw [List.mem_singleton] at h
        exact h ▸ isDigit_digitChar (Nat.mod_lt n (by omega))

/-- Every number is written with at least one digit. -/
theorem digits_ne_nil (n : Nat) : digits n ≠ [] := by
  unfold digits
  split <;> simp

@[simp]
theorem value_digits (n : Nat) : value (digits n) = n := by
  fun_induction digits n with
  | case1 n hn => simp [value, valueFrom, digitValue_digitChar hn]
  | case2 n hn ih =>
      have hlast : digitValue (digitChar (n % 10)) = n % 10 :=
        digitValue_digitChar (Nat.mod_lt n (by omega))
      rw [value, valueFrom] at ih
      rw [value, valueFrom, List.foldl_append, ih]
      simp only [List.foldl_cons, List.foldl_nil, hlast]
      omega

/-- Digits on the left filled up with zeros to a width. -/
def padded (width n : Nat) : List Char :=
  let ds := digits n
  List.replicate (width - ds.length) '0' ++ ds

end Decimal
end CoverageWindows
