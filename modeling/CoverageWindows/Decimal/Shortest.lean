import CoverageWindows.Decimal.Natural

/-!
# Shortest decimal text

The decimal text of a 64-bit floating-point number with the fewest digits that read back as the same
number.  The number is taken apart into its bits, and the real numbers that round to it form an
interval; for one digit, two digits and so on, the two neighbours of the number on the grid of that
many digits are tested against the interval in exact arithmetic.
-/

namespace CoverageWindows
namespace Decimal

/-! ## The bits of a number -/

/-- The magnitude `mantissa * 2 ^ exponent` of a finite number, and whether the next smaller one is
only half as far away as the next larger one. -/
structure Magnitude where
  mantissa : Nat
  exponent : Int
  closeBelow : Bool

/-- The sign bit of a number. -/
def isNegative (bits : UInt64) : Bool :=
  bits.toNat.testBit 63

/-- The number of fractions that 52 bits encode. -/
def fractions : Nat := 1 <<< 52

/-- The magnitude that the low 63 bits of a finite number encode. -/
def magnitude (bits : UInt64) : Magnitude :=
  let fraction := bits.toNat % fractions
  let field := bits.toNat / fractions % 2048
  if field = 0 then ⟨fraction, -1074, false⟩
  else ⟨fractions + fraction, Int.ofNat field - 1075, fraction == 0 && 1 < field⟩

/-! ## The fewest digits -/

/-- A positive decimal `digits * 10 ^ exponent`. -/
structure Digits where
  digits : Nat
  exponent : Int

/-- A fraction of natural numbers. -/
structure Ratio where
  num : Nat
  den : Nat

/-- The fraction times an integral power of the base. -/
def Ratio.scale (r : Ratio) (base : Nat) : Int → Ratio
  | .ofNat k => ⟨r.num * base.pow k, r.den⟩
  | .negSucc k => ⟨r.num, r.den * base.pow (k + 1)⟩

/-- Whether one fraction is at most another one; the denominators are positive. -/
def Ratio.le (r s : Ratio) : Bool :=
  r.num * s.den ≤ s.num * r.den

/-- Whether one fraction is below another one; the denominators are positive. -/
def Ratio.lt (r s : Ratio) : Bool :=
  r.num * s.den < s.num * r.den

/-- The number of decimal digits before the point, less one; below one, the place of the first
digit that is not zero.  The bound `steps` covers all 64-bit numbers at 400. -/
def leadingPlace (r : Ratio) : Nat → Int
  | 0 => 0
  | steps + 1 =>
      if r.num < r.den then leadingPlace ⟨r.num * 10, r.den⟩ steps - 1
      else Int.ofNat (Decimal.digits (r.num / r.den)).length - 1

/-- The real numbers that round to a magnitude, and whether its ends belong to it. -/
structure Rounding where
  value : Ratio
  low : Ratio
  high : Ratio
  closed : Bool

/-- The rounding interval of a magnitude reaches half way to both neighbours. -/
def Magnitude.rounding (m : Magnitude) : Rounding :=
  let quarter (k : Nat) : Ratio := Ratio.scale ⟨k, 1⟩ 2 (m.exponent - 2)
  ⟨quarter (4 * m.mantissa), quarter (4 * m.mantissa - if m.closeBelow then 1 else 2),
    quarter (4 * m.mantissa + 2), m.mantissa % 2 == 0⟩

/-- Whether a fraction rounds to the magnitude of the interval. -/
def Rounding.holds (i : Rounding) (r : Ratio) : Bool :=
  if i.closed then i.low.le r && r.le i.high else i.low.lt r && r.lt i.high

/-- The grid point next to the value that rounds to it, on the grid of `10 ^ place`: of two the
nearer, of two equally near the even one. -/
def Rounding.onGrid (i : Rounding) (place : Int) : Option Nat :=
  let cell := i.value.scale 10 (-place)
  let below := cell.num / cell.den
  let point (k : Nat) : Ratio := Ratio.scale ⟨k, 1⟩ 10 place
  let lowHolds := below != 0 && i.holds (point below)
  let highHolds := i.holds (point (below + 1))
  let twice := 2 * (cell.num % cell.den)
  match lowHolds, highHolds with
  | true, true =>
      if twice < cell.den || (twice == cell.den && below % 2 == 0) then some below
      else some (below + 1)
  | true, false => some below
  | false, true => some (below + 1)
  | false, false => none

/-- The first grid with a point that rounds to the value, from `used` digits on. -/
def Rounding.search (i : Rounding) (lead : Int) : Nat → Nat → Digits
  | 0, _ => ⟨0, 0⟩
  | left + 1, used =>
      let place := lead - Int.ofNat used
      match i.onGrid place with
      | some k => ⟨k, place⟩
      | none => i.search lead left (used + 1)

/-- The decimal with the fewest digits that rounds to a positive magnitude; 17 digits always do. -/
def Magnitude.shortest (m : Magnitude) : Digits :=
  let i := m.rounding
  i.search (leadingPlace i.value 400) 18 0

/-- A decimal without zeros at its end. -/
def Digits.stripped (d : Digits) : Nat → Digits
  | 0 => d
  | steps + 1 =>
      if d.digits != 0 && d.digits % 10 == 0 then
        Digits.stripped ⟨d.digits / 10, d.exponent + 1⟩ steps
      else d

/-! ## The text -/

/-- How a decimal is laid out: the least and greatest exponents of the first digit that are written
with a plain point. -/
structure Layout where
  leastPlain : Int
  greatestPlain : Int

/-- The text of a positive decimal.  A plain number always has a point; a written exponent always
has its sign. -/
def Digits.text (d : Digits) (layout : Layout) : List Char :=
  let ds := Decimal.digits d.digits
  let first : Int := d.exponent + Int.ofNat ds.length - 1
  if layout.leastPlain ≤ first ∧ first ≤ layout.greatestPlain then
    if first < 0 then
      '0' :: '.' :: List.replicate (-first - 1).toNat '0' ++ ds
    else
      let whole := first.toNat + 1
      let full := ds ++ List.replicate (whole - ds.length) '0'
      full.take whole ++ '.' :: (if ds.length ≤ whole then ['0'] else full.drop whole)
  else
    let mantissa :=
      match ds with
      | [] => []
      | [c] => [c]
      | c :: rest => c :: '.' :: rest
    mantissa ++ 'e' :: (if first < 0 then '-' else '+') :: Decimal.digits first.natAbs

/-- Diagnostics write numbers from `1e-5` up to `1e16` plainly. -/
def diagnostic : Layout := ⟨-5, 15⟩

/-- The shortest text of a finite number that reads back as it. -/
def shortest (layout : Layout) (bits : UInt64) : String :=
  let m := magnitude bits
  let body := if m.mantissa = 0 then ['0', '.', '0'] else (m.shortest.stripped 20).text layout
  String.ofList (if isNegative bits then '-' :: body else body)

end Decimal
end CoverageWindows
