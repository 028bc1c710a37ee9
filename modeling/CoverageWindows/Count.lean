/-!
# Execution counts

An execution count is a 64-bit number that stops at its greatest value when it is added to.

Main results:

- Theorem `toNat_plus`: the sum of two counts is the sum of the numbers, cut off at the top.
- Theorems `plus_comm`, `plus_assoc`: the order of adding does not matter, cut-offs included.
-/

namespace CoverageWindows

/-- How often a span of source code has run. -/
abbrev Count := UInt64

namespace Count

/-- The greatest count. -/
def top : Count := 18446744073709551615

/-- The sum of two counts, `top` where the sum is greater. -/
def plus (a b : Count) : Count :=
  UInt64.ofNat (min (a.toNat + b.toNat) top.toNat)

/-- A sum is the sum of the numbers, cut off at the top. -/
theorem toNat_plus (a b : Count) : (plus a b).toNat = min (a.toNat + b.toNat) top.toNat := by
  have htop : top.toNat = 18446744073709551615 := rfl
  rw [plus, UInt64.toNat_ofNat', Nat.mod_eq_of_lt]
  omega

theorem toNat_le_top (a : Count) : a.toNat ≤ top.toNat := by
  have htop : top.toNat = 18446744073709551615 := rfl
  have ha := a.toNat_lt
  omega

/-- Sums of counts do not depend on the order. -/
theorem plus_comm (a b : Count) : plus a b = plus b a := by
  rw [plus, plus, Nat.add_comm]

/-- Sums of counts do not depend on the grouping, although any of them may be cut off. -/
theorem plus_assoc (a b c : Count) : plus (plus a b) c = plus a (plus b c) := by
  apply UInt64.toNat_inj.1
  simp only [toNat_plus]
  omega

end Count
end CoverageWindows
