import CoverageWindows.Abi
import CoverageWindows.Failure

/-!
# Settings of a collector

Where windows are written, for which interface, which variable the profile runtime reads its path
from, and whether a profile from before the first window is decoded.  Three variables of the
environment override the defaults, one of which is told by the build.

Main results:

- Theorem `temporaryFolder_eq`: the system's folder is `/tmp` unless a variable names another one.
-/

namespace CoverageWindows

/-- The variables that settings are read from; a variable that is not set is `none`. -/
structure Environment where
  windowFolder : Option Bytes
  abi : Option Bytes
  loadBaseline : Option Bytes
  temporaryFolder : Option Bytes
  deriving DecidableEq, Repr

/-- The settings of a collector. -/
structure Settings where
  windowFolder : Bytes
  abi : Abi
  variableName : String
  loadBaseline : Bool
  deriving DecidableEq, Repr

namespace Settings

/-- The variable that the profile runtime reads its path from. -/
def profileVariable : String := "LLVM_PROFILE_FILE"

/-- The system's folder for temporary files: the variable for it even when it is empty, else
`/tmp`. -/
def temporaryFolder (e : Environment) : Bytes :=
  e.temporaryFolder.getD (Text.toBytes "/tmp")

/-- Where the environment names no folder for temporary files, there is a fixed one. -/
theorem temporaryFolder_eq (e : Environment) (h : e.temporaryFolder = none) :
    temporaryFolder e = Text.toBytes "/tmp" := by
  simp [temporaryFolder, h]

/-- A variable that is set and is text; one that is not text counts as not set. -/
def textOf (value : Option Bytes) : Option String :=
  value.bind Text.ofBytes?

/-- The boolean that a text spells. -/
def flag? (s : String) : Except SettingFault Bool :=
  let t := Abi.settingText s
  if t ∈ ["1", "true", "yes", "on"] then .ok true
  else if t ∈ ["0", "false", "no", "off"] then .ok false
  else .error (.notBoolean t)

/-- The interface that a text names. -/
def abi? (s : String) : Except SettingFault Abi :=
  match Abi.ofText? s with
  | some a => .ok a
  | none => .error (.unknownAbi (Abi.settingText s))

/-- The settings that an environment asks for; `compiler` is the LLVM version that the build
tells. -/
def ofEnvironment (compiler : Option String) (e : Environment) : Except Failure Settings := do
  let windowFolder :=
    match e.windowFolder with
    | some f => if f.isEmpty then temporaryFolder e else f
    | none => temporaryFolder e
  let abi ←
    match textOf e.abi with
    | some s => (abi? s).mapError Failure.badSetting
    | none => .ok (Abi.ofBuild compiler)
  let loadBaseline ←
    match textOf e.loadBaseline with
    | some s => (flag? s).mapError Failure.badSetting
    | none => .ok true
  return ⟨windowFolder, abi, profileVariable, loadBaseline⟩

end Settings
end CoverageWindows
