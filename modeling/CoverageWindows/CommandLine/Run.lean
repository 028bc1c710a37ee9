import CoverageWindows.CommandLine.Help
import CoverageWindows.Files.Access
import CoverageWindows.LogSettings
import CoverageWindows.ProfilePath
import CoverageWindows.Settings
import CoverageWindows.Snapshot.Document

/-!
# Running a command

A run of the program gives an exit code, a text for the standard output, and at most one failure.  A
command prints all of its text at once and only if it succeeds.

Main results:

- Theorem `readAll_cons`: inputs are merged in the order of the arguments.
-/

namespace CoverageWindows
namespace CommandLine

/-! ## Outcomes -/

/-- What a run comes to. -/
structure Outcome where
  code : UInt32
  stdout : String
  failure : Option String
  deriving DecidableEq, Repr

/-- A run that prints a text and succeeds. -/
def Outcome.printed (text : String) : Outcome := ⟨0, text, none⟩

/-- A run that fails. -/
def Outcome.failed (message : String) : Outcome := ⟨1, "", some message⟩

/-- A run whose arguments are refused. -/
def Outcome.refused : Outcome := ⟨2, "", none⟩

/-- A run that breaks off. -/
def Outcome.broken : Outcome := ⟨101, "", none⟩

/-! ## Surroundings -/

/-- The variables of the environment. -/
abbrev Variables := String → Option Bytes

/-- What a run depends on besides its arguments and the files; the compiler is told by its LLVM
version, if the build knows that. -/
structure Surroundings where
  compiler : Option String
  values : Variables
  today : Day
  hasTerminal : Bool

/-- The settings of a collector, as the environment gives them. -/
def environment (v : Variables) : Environment :=
  ⟨v "LIVECOV_TEMP_DIR", v "LIVECOV_RUNTIME_ABI", v "LIVECOV_LOAD_BASELINE", v "TMPDIR"⟩

/-- Whether a variable is set to something. -/
def isFilled (v : Variables) (name : String) : Bool := !((v name).getD []).isEmpty

/-- Whether help shows styles.  The environment may forbid or demand that; otherwise they are shown
on a terminal that is able to show them. -/
def Surroundings.showsStyles (s : Surroundings) : Bool :=
  let v := s.values
  let wish := (v "CLICOLOR").map fun b => b != Text.toBytes "0"
  let isAble := (v "TERM").isSome && v "TERM" != some (Text.toBytes "dumb")
  if isFilled v "NO_COLOR" then false
  else if isFilled v "CLICOLOR_FORCE" then true
  else if wish = some false then false
  else s.hasTerminal && (isAble || wish.isSome || (v "CI").isSome)

/-! ## Commands without files -/

/-- A boolean as a word. -/
def flagText (b : Bool) : String := if b then "true" else "false"

/-- The interface of the build and the one that is configured, line by line. -/
def abiText (compiler : Option String) (s : Settings) : String :=
  "Compiled for:      " ++ ((Abi.ofBuild? compiler).map Abi.name).getD "unknown" ++
    "\nConfigured ABI:    " ++ s.abi.name ++
    "\nRequires bitmap:   " ++ flagText s.abi.hasBitmap ++
    "\nExport table:      " ++ s.abi.tableSymbol ++
    "\nProfile variable:  " ++ s.variableName ++
    "\nWindow directory:  " ++ Text.lossy s.windowFolder ++ "\n"

/-- A prepared path and what was done to it, line by line. -/
def preparedText (p : ProfilePath.Prepared) : String :=
  String.ofList p.path ++ "\nchanged:    " ++ flagText p.changed ++ "\ncontinuous: " ++
    flagText p.continuous ++ "\n"

/-- A summary in one line. -/
def summaryText (s : Summary) : String :=
  let number (n : Nat) := String.ofList (Decimal.digits n)
  number s.files ++ " files, " ++ number s.spans ++ " segments, " ++ number s.covered ++
    " covered\n"

/-! ## Snapshots in files -/

variable {m : Type → Type} [Monad m]

/-- A message about a file. -/
def aboutFile (path : Bytes) (message : String) : String := Text.lossy path ++ ": " ++ message

/-- The snapshot of a document in a file. -/
def readSnapshot (files : FileAccess m) (path : Bytes) : m (Except String Snapshot) := do
  match ← files.readText path with
  | .error e => return .error (aboutFile path e.message)
  | .ok text =>
      return (Snapshot.ofDocument text).mapError fun e => aboutFile path (e.message text)

/-- A snapshot with the snapshots of files merged into it, one after the other. -/
def readAll (files : FileAccess m) : Snapshot → List Bytes → m (Except String Snapshot)
  | merged, [] => return .ok merged
  | merged, path :: rest => do
      match ← readSnapshot files path with
      | .error e => return .error e
      | .ok s => readAll files (merged.absorb s) rest

/-- Runs a command. -/
def runCommand (files : FileAccess m) (s : Surroundings) : Command → m Outcome
  | .abi =>
      match Settings.ofEnvironment s.compiler (environment s.values) with
      | .error f => return .failed ("Error: " ++ f.message)
      | .ok settings => return .printed (abiText s.compiler settings)
  | .binaries => return .printed "No instrumented binaries loaded\n"
  | .normalize path => return .printed (preparedText (ProfilePath.prepare path.toList))
  | .display path summary => do
      match ← readSnapshot files path with
      | .error e => return .failed ("Error: " ++ e)
      | .ok s => return .printed (if summary then summaryText s.summary else s.text ++ "\n")
  | .merge inputs output => do
      match ← readAll files .empty inputs with
      | .error e => return .failed ("Error: " ++ e)
      | .ok s =>
          let document := s.document .indented
          match output with
          | none => return .printed (document ++ "\n")
          | some path =>
              match ← files.write path (Text.toBytes document) with
              | .error e => return .failed ("Error: " ++ e.message)
              | .ok _ => return .printed ""

/-! ## The whole program -/

/-- Where a log is written: the folder that is made for it, and its file if that can be named. -/
structure LogPlace where
  folder : Bytes
  file : Option Bytes
  deriving DecidableEq, Repr

/-- Where the log of a run is written, if it is written to a file. -/
def logPlace? (s : Surroundings) (i : Invocation) : Option LogPlace :=
  let v := s.values
  if i.logToFile then
    let path := logFile (v "HOME") (Settings.temporaryFolder (environment v)) s.today
    some ⟨logFolder path, some path⟩
  else
    (v "LIVECOV_LOG_FILE").map fun path => ⟨logFolder path, dailyLogFile? path s.today⟩

/-- Opens the log file, the folder being made before; the outcome of the run if this fails.  A
folder that cannot be made is a failure, a file that cannot be opened breaks the run off. -/
def openLog (files : FileAccess m) (p : LogPlace) : m (Option Outcome) := do
  match ← files.makeFolders p.folder with
  | .error e =>
      return some (.failed ("Failed to initialize logging: File logging error: " ++ e.message))
  | .ok _ =>
      match p.file with
      | none => return some .broken
      | some path =>
          match ← files.append path [] with
          | .error _ => return some .broken
          | .ok _ => return none

/-- Runs what the arguments ask for, the log being opened before. -/
def invoke (files : FileAccess m) (s : Surroundings) (i : Invocation) : m Outcome :=
  match logPlace? s i with
  | none => runCommand files s i.command
  | some p => do
      match ← openLog files p with
      | some outcome => return outcome
      | none => runCommand files s i.command

/-- Runs the program with arguments. -/
def run (files : FileAccess m) (s : Surroundings) (args : List Bytes) : m Outcome :=
  match parse args with
  | .error _ => return .refused
  | .ok (.help t) => return .printed (t.text.render s.showsStyles)
  | .ok .version => return .printed versionText
  | .ok (.run i) => invoke files s i

/-- Inputs are merged in the order of the arguments. -/
theorem readAll_cons (files : FileAccess m) (merged : Snapshot) (path : Bytes)
    (rest : List Bytes) :
    readAll files merged (path :: rest) = (do
      match ← readSnapshot files path with
      | .error e => pure (.error e)
      | .ok s => readAll files (merged.absorb s) rest) := by
  rw [readAll]

end CommandLine
end CoverageWindows
