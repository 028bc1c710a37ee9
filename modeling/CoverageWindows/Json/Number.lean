import CoverageWindows.Json.Fault

/-!
# Numbers of a document

A number is a sign, digits, an optional fraction and an optional power of ten.  A number of digits
alone is an integer as long as it fits in 64 bits; every other number is a floating-point number,
computed from as many leading digits as fit in 64 bits.
-/

namespace CoverageWindows
namespace Json

open Decimal

/-- A number as it was written. -/
inductive Number where
  | natural (n : UInt64)
  | negative (n : Nat)
  | float (bits : UInt64)
  deriving DecidableEq, Repr

/-- The greatest number of 64 bits. -/
def greatestWord : Nat := 18446744073709551615

/-- The greatest power of ten that is told apart from greater ones. -/
def greatestPower : Nat := 2147483647

/-- Digits appended to a number as long as it is not greater than a limit, and the digits that are
left. -/
def gather (limit : Nat) : Nat → List Char → Nat × List Char
  | n, [] => (n, [])
  | n, d :: ds =>
      if 10 * n + digitValue d ≤ limit then gather limit (10 * n + digitValue d) ds
      else (n, d :: ds)

/-! ## Floating-point values -/

/-- The power of ten as a floating-point number. -/
def powerOfTen (k : Nat) : Float :=
  Float.ofScientific 1 false k

/-- A number divided by a power of ten, in steps that floating-point numbers can hold. -/
def scaleDown (f : Float) (k : Nat) : Float :=
  if k ≤ 308 then f / powerOfTen k
  else if f == 0 then f
  else scaleDown (f / powerOfTen 308) (k - 308)
termination_by k

/-- The floating-point number of leading digits and a power of ten; too great a number is
refused. -/
def floatOf (negative : Bool) (leading : Nat) (exponent : Int) : Except Fault Number :=
  let f := (UInt64.ofNat leading).toFloat
  let signed (x : Float) : Except Fault Number := .ok (.float (if negative then -x else x).toBits)
  match exponent with
  | .ofNat k =>
      if k ≤ 308 then
        let x := f * powerOfTen k
        if x.isInf then .error .hugeNumber else signed x
      else if leading = 0 then signed f
      else .error .hugeNumber
  | .negSucc k => signed (scaleDown f (k + 1))

/-- The floating-point number of digits that are read, and what follows them. -/
def finishFloat (negative : Bool) (leading : Nat) (exponent : Int) (rest : List Char) :
    Except Stop (Number × List Char) :=
  match floatOf negative leading exponent with
  | .ok n => .ok (n, rest)
  | .error f => .error (.before f rest)

/-! ## Reading -/

/-- The power of ten after the letter `e`, applied to the number before it.  A power that is too
great is told at the digit that makes it so. -/
def readExponent (negative : Bool) (leading : Nat) (exponent : Int) (cs : List Char) :
    Except Stop (Number × List Char) :=
  let (minus, cs) :=
    match cs with
    | '+' :: rest => (false, rest)
    | '-' :: rest => (true, rest)
    | _ => (false, cs)
  match cs with
  | [] => .error (.atEnd .value)
  | c :: _ =>
      if !isDigit c then .error (.on .badNumber cs)
      else
        let (written, unread) := gather greatestPower 0 (cs.takeWhile isDigit)
        let rest := cs.dropWhile isDigit
        if !unread.isEmpty then
          if leading != 0 && !minus then .error (.on .hugeNumber (unread ++ rest))
          else .ok (.float (if negative then (-0.0 : Float) else 0.0).toBits, rest)
        else
          let shift : Int := if minus then -Int.ofNat written else Int.ofNat written
          finishFloat negative leading (exponent + shift) rest

/-- The fraction after the point, and what follows it. -/
def readFraction (negative : Bool) (leading : Nat) (exponent : Int) (cs : List Char) :
    Except Stop (Number × List Char) :=
  let ds := cs.takeWhile isDigit
  let rest := cs.dropWhile isDigit
  if ds.isEmpty then .error (if rest.isEmpty then .atEnd .value else .on .badNumber rest)
  else
    let (leading, unread) := gather greatestWord leading ds
    let exponent := exponent - Int.ofNat (ds.length - unread.length)
    match rest with
    | 'e' :: rest => readExponent negative leading exponent rest
    | 'E' :: rest => readExponent negative leading exponent rest
    | _ => finishFloat negative leading exponent rest

/-- What follows the digits before the point. -/
def readAfterDigits (negative : Bool) (leading : Nat) (unread : List Char) (cs : List Char) :
    Except Stop (Number × List Char) :=
  let exponent := Int.ofNat unread.length
  match cs with
  | '.' :: rest => readFraction negative leading exponent rest
  | 'e' :: rest => readExponent negative leading exponent rest
  | 'E' :: rest => readExponent negative leading exponent rest
  | _ =>
      if !unread.isEmpty then finishFloat negative leading exponent cs
      else if !negative then .ok (.natural (UInt64.ofNat leading), cs)
      else if leading ≠ 0 ∧ leading ≤ 9223372036854775808 then .ok (.negative leading, cs)
      else finishFloat true leading 0 cs

/-- A number after its sign. -/
def readUnsigned (negative : Bool) (cs : List Char) : Except Stop (Number × List Char) :=
  match cs with
  | [] => .error (.atEnd .value)
  | c :: rest =>
      if c = '0' then
        if (rest.head?.map isDigit).getD false then .error (.on .badNumber rest)
        else readAfterDigits negative 0 [] rest
      else if isDigit c then
        let (leading, unread) := gather greatestWord 0 (cs.takeWhile isDigit)
        readAfterDigits negative leading unread (cs.dropWhile isDigit)
      else .error (.on .badNumber cs)

/-- A number with its sign. -/
def readNumber (cs : List Char) : Except Stop (Number × List Char) :=
  match cs with
  | '-' :: rest => readUnsigned true rest
  | _ => readUnsigned false cs

/-- A number that is found where something else is expected. -/
def Number.found : Number → Found
  | .natural n => .integer n.toNat
  | .negative n => .integer (-n)
  | .float bits => .float bits

/-! ## Passing over -/

/-- The text after a number of which the form matters but not the value, from behind its sign. -/
def skipNumber (cs : List Char) : Except Stop (List Char) :=
  let power (cs : List Char) : Except Stop (List Char) :=
    let digits :=
      match cs with
      | '+' :: rest => rest
      | '-' :: rest => rest
      | _ => cs
    match digits with
    | [] => .error (.on .badNumber [])
    | c :: _ => if isDigit c then .ok (digits.dropWhile isDigit) else .error (.on .badNumber digits)
  let afterDigits (cs : List Char) : Except Stop (List Char) :=
    match cs with
    | '.' :: rest =>
        if (rest.takeWhile isDigit).isEmpty then .error (.on .badNumber rest)
        else
          match rest.dropWhile isDigit with
          | 'e' :: rest => power rest
          | 'E' :: rest => power rest
          | rest => .ok rest
    | 'e' :: rest => power rest
    | 'E' :: rest => power rest
    | _ => .ok cs
  match cs with
  | [] => .error (.on .badNumber [])
  | c :: rest =>
      if c = '0' then
        if (rest.head?.map isDigit).getD false then .error (.on .badNumber rest)
        else afterDigits rest
      else if isDigit c then afterDigits (rest.dropWhile isDigit)
      else .error (.on .badNumber cs)

end Json
end CoverageWindows
