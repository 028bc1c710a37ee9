import CoverageWindows.CommandLine.Run
import Std.Time.Format

/-!
# The command line program

Carries out the operations of the command line on the files of the system.
-/

namespace CoverageWindows

/-- A fault of the system as a fault of a file operation. -/
def FileFault.ofError : IO.Error → FileFault
  | .noFileOrDirectory _ _ _ => .notFound
  | .alreadyExists _ _ _ => .alreadyThere
  | .inappropriateType _ 21 _ => .isFolder
  | .inappropriateType _ _ _ => .notFolder
  | e => .other e.toString

/-- A path as the system takes it. -/
def systemPath (path : Bytes) : String := Text.lossy path

/-- An action, or the fault that it ends in. -/
def attempt {α : Type} (action : IO α) : IO (Except FileFault α) := do
  match ← action.toBaseIO with
  | .ok a => return .ok a
  | .error e => return .error (.ofError e)

/-- Operations on the files of the system. -/
def FileAccess.system : FileAccess IO where
  readText path := do
    match ← attempt (IO.FS.readBinFile (systemPath path)) with
    | .error e => return .error e
    | .ok content =>
        match Text.ofBytes? content.toList with
        | some s => return .ok s
        | none => return .error .notText
  write path content := attempt (IO.FS.writeBinFile (systemPath path) ⟨content.toArray⟩)
  append path content := attempt do
    let file ← IO.FS.Handle.mk (systemPath path) .append
    file.write ⟨content.toArray⟩
  makeFolders path := attempt (IO.FS.createDirAll (systemPath path))

/-- The day of the calendar that a clock shows. -/
def Day.today : IO Day := do
  let now ← Std.Time.Timestamp.now
  let date := (Std.Time.DateTime.ofTimestamp now .UTC).toPlainDate
  return ⟨date.year.toInt, date.month.toNat, date.day.toNat⟩

/-- The LLVM version of the compiler of the programs that are measured. -/
def compilerVersion : Option String := some "19"

/-- The names of the variables that the program reads. -/
def variableNames : List String :=
  ["LIVECOV_TEMP_DIR", "LIVECOV_RUNTIME_ABI", "LIVECOV_LOAD_BASELINE", "TMPDIR", "HOME",
    "LIVECOV_LOG_FILE", "NO_COLOR", "CLICOLOR_FORCE", "CLICOLOR", "TERM", "CI"]

end CoverageWindows

open CoverageWindows in
/-- Runs the program. -/
def main (args : List String) : IO UInt32 := do
  let values ← variableNames.mapM fun name => do
    return (name, (← IO.getEnv name).map Text.toBytes)
  let arguments := args.map Text.toBytes
  let surroundings : CommandLine.Surroundings :=
    ⟨compilerVersion, fun name => (values.lookup name).join, ← Day.today,
      ← (← IO.getStdout).isTty⟩
  let outcome ← CommandLine.run .system surroundings arguments
  IO.print outcome.stdout
  match outcome.failure, CommandLine.parse arguments with
  | some message, _ => IO.eprintln message
  | none, .error e => IO.eprintln ("error: " ++ e.message)
  | none, .ok _ => pure ()
  return outcome.code
