import CoverageWindows.Plugin.Adapter

/-!
# Scripted decoder libraries

A decoder library that answers from a fixed script: one answer to every request for a parser, one to
every reset, and one for each profile that it knows.
-/

namespace CoverageWindows
namespace Plugin

/-- How a script answers a request for a parser. -/
inductive ScriptedParser where
  | complete
  | null
  | noCoveredFiles
  | noDestroy
  | refused (text : Option Bytes)
  deriving DecidableEq, Repr

/-- How a script answers a request for the files of a profile. -/
inductive ScriptedFiles where
  | files (files : Option (List ForeignFile)) (count : Nat)
  | refused (text : Option Bytes)
  deriving DecidableEq, Repr

/-- How a script answers a reset. -/
inductive ScriptedReset where
  | done
  | refused (text : Option Bytes)
  deriving DecidableEq, Repr

/-- A script: which entries of the table are null, and the answers. -/
structure Script where
  version : Option Bytes
  hasTable : Bool
  hasCreateParser : Bool
  hasReleaseFiles : Bool
  hasReleaseText : Bool
  parser : ScriptedParser
  reset : Option ScriptedReset
  profiles : List (Bytes × ScriptedFiles)
  deriving DecidableEq, Repr

namespace Script

/-- The address of what is handed over in a call: the number of calls before, so that no two things
share it. -/
def freshAddress (log : Log) : Nat := log.length + 1

/-- A text that is handed over in a call. -/
def text (log : Log) (bytes : Option Bytes) : Option ForeignText :=
  bytes.map fun b => ⟨freshAddress log, b⟩

/-- The answer for the files of a profile; a profile that the script does not know has a null
list. -/
def filesAnswer (s : Script) (log : Log) (profile : Bytes) : FilesAnswer :=
  match s.profiles.lookup profile with
  | none => .files ⟨freshAddress log, none, 0⟩
  | some (.files fs n) => .files ⟨freshAddress log, fs, n⟩
  | some (.refused t) => .failed (text log t)

/-- The answer to a request for a parser. -/
def parserAnswer (s : Script) (log : Log) (_images : List Bytes) : ParserAnswer :=
  match s.parser with
  | .complete => .parser (some ⟨freshAddress log, some s.filesAnswer, true⟩)
  | .null => .parser none
  | .noCoveredFiles => .parser (some ⟨freshAddress log, none, true⟩)
  | .noDestroy => .parser (some ⟨freshAddress log, some s.filesAnswer, false⟩)
  | .refused t => .failed (text log t)

/-- The answer to a reset, which leaves the memory as it is. -/
def resetAnswer (r : ScriptedReset) (log : Log) (_version : UInt64) (m : ProfileMemory) :
    StatusAnswer × ProfileMemory :=
  match r with
  | .done => (.succeeded, m)
  | .refused t => (.failed (text log t), m)

/-- The table of a script. -/
def table (s : Script) : Option ExportTable :=
  if s.hasTable then
    some ⟨s.version, if s.hasCreateParser then some s.parserAnswer else none,
      s.reset.map resetAnswer, s.hasReleaseFiles, s.hasReleaseText⟩
  else none

end Script
end Plugin
end CoverageWindows
