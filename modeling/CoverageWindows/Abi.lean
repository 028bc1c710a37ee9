import CoverageWindows.Decimal.Natural
import CoverageWindows.Json.Reader
import CoverageWindows.Text.Blank
import CoverageWindows.Text.LowerCase

/-!
# Interfaces of the profile runtime

The memory of the profile runtime has one form up to LLVM 18 and another one from LLVM 19 on, which
also keeps a bitmap of decisions.  The two are named for the first version that has them.

Main results:

- Theorem `ofText?_name`: the name of an interface names it.
-/

namespace CoverageWindows

/-- A form of the profile runtime's memory. -/
inductive Abi where
  | llvm17
  | llvm19
  deriving DecidableEq, Repr

namespace Abi

/-- The version that an interface is named for. -/
def major : Abi → Nat
  | llvm17 => 17
  | llvm19 => 19

/-- The name of an interface. -/
def name : Abi → String
  | llvm17 => "llvm17"
  | llvm19 => "llvm19"

/-- The name of an interface as a constructor. -/
def title : Abi → String
  | llvm17 => "Llvm17"
  | llvm19 => "Llvm19"

/-- Whether the interface has a bitmap that is reset with the counters. -/
def hasBitmap : Abi → Bool
  | llvm17 => false
  | llvm19 => true

/-- The symbol of a decoder library's table for the interface. -/
def tableSymbol (a : Abi) : String :=
  a.name ++ "_coverage_library_exports"

/-- The interface of an LLVM version, if it is known. -/
def ofMajor? (n : Nat) : Option Abi :=
  if n < 17 then none else if n < 19 then some llvm17 else some llvm19

/-- The interface of the compiler of a build, which tells the LLVM version of the compiler where it
is known. -/
def ofBuild? (compiler : Option String) : Option Abi :=
  (compiler.bind fun version => Decimal.number? 4294967295 version.toList).bind ofMajor?

/-- The interface that a build takes where none is asked for: that of its compiler, or else the
newest one. -/
def ofBuild (compiler : Option String) : Abi :=
  (ofBuild? compiler).getD llvm19

/-- A text as settings are compared: without blanks at its ends, in lower case. -/
def settingText (s : String) : String :=
  String.ofList (Text.lowerCase (Text.trim s.toList))

/-- The interface that a text names, by its name or by its version alone. -/
def ofText? (s : String) : Option Abi :=
  let t := settingText s
  if t = "llvm17" ∨ t = "17" then some llvm17
  else if t = "llvm19" ∨ t = "19" then some llvm19
  else none

/-- The name of an interface names it. -/
theorem ofText?_name (a : Abi) : ofText? a.name = some a := by
  cases a <;> decide +kernel

/-! ## Documents -/

/-- The interface of a name in a document; an unknown name is told in front of what follows it. -/
def ofVariant (s : String) (rest : List Char) : Except Json.Stop Abi :=
  if s = "llvm17" then .ok llvm17
  else if s = "llvm19" then .ok llvm19
  else
    let known := Json.ticked "llvm17" ++ " or " ++ Json.ticked "llvm19"
    .error (.before (.unknownVariant s known) rest)

/-- An interface in a document: its name, or an object with its name and no content. -/
def read : Json.Reader Abi := fun cs =>
  match Json.skipBlank cs with
  | [] => .error (.atEnd .value)
  | '"' :: rest => do
      let (s, rest) ← Json.readText rest
      let a ← ofVariant s rest
      return (a, rest)
  | '\x7b' :: rest =>
      match Json.skipBlank rest with
      | [] => .error (.atEnd .object)
      | '"' :: rest => do
          let (s, rest) ← Json.readText rest
          let a ← ofVariant s rest
          let rest ← Json.readColon rest
          let (_, rest) ← Json.readNull rest
          match Json.skipBlank rest with
          | [] => .error (.atEnd .object)
          | '\x7d' :: rest => .ok (a, rest)
          | rest => .error (.before .expectedValue rest)
      | '\x7d' :: rest => .error (.on .expectedValue ('\x7d' :: rest))
      | rest => .error (.on .keyNotText rest)
  | rest => .error (.on .expectedValue rest)

end Abi
end CoverageWindows
