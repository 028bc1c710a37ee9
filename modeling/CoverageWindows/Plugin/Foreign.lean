import CoverageWindows.Mark.Basic
import CoverageWindows.Memory.Reset
import CoverageWindows.Text.Utf8

/-!
# What a decoder library hands over

A decoder library answers with addresses of things that it owns: texts, lists of files, parsers.
Each thing is handed back to the library when it is no longer needed.  The calls to a library are
logged, and a library may answer by everything that it was asked before.
-/

namespace CoverageWindows
namespace Plugin

/-! ## Foreign things -/

/-- A text that the library owns: its address and its bytes up to the byte zero. -/
structure ForeignText where
  address : Nat
  bytes : Bytes
  deriving DecidableEq, Repr

/-- A file of a foreign list.  A missing name or a missing array of marks is a null pointer; the
count says how many marks of the array count. -/
structure ForeignFile where
  name : Option Bytes
  marks : Option (List Mark)
  markCount : Nat
  deriving DecidableEq, Repr

/-- A list of files that the library owns.  A missing array is a null pointer; the count says how
many files of the array count. -/
structure ForeignFiles where
  address : Nat
  files : Option (List ForeignFile)
  count : Nat
  deriving DecidableEq, Repr

/-! ## Calls -/

/-- A call to a library; a reset is asked for with the memory as it is. -/
inductive Call where
  | reset (version : UInt64) (memory : ProfileMemory)
  | createParser (images : List Bytes)
  | coveredFiles (parser : Nat) (profile : Bytes)
  | releaseFiles (list : ForeignFiles)
  | releaseText (text : ForeignText)
  | destroy (parser : Nat)
  | unload
  deriving DecidableEq, Repr

/-- The calls so far, first call first. -/
abbrev Log := List Call

/-- The answer to a call that gives nothing: success, or an error flag with a text that may be
null. -/
inductive StatusAnswer where
  | succeeded
  | failed (text : Option ForeignText)
  deriving DecidableEq, Repr

/-- The answer to a request for covered files. -/
inductive FilesAnswer where
  | files (list : ForeignFiles)
  | failed (text : Option ForeignText)
  deriving DecidableEq, Repr

/-- A parser of a library; an entry may be null. -/
structure ForeignParser where
  address : Nat
  coveredFiles : Option (Log → Bytes → FilesAnswer)
  hasDestroy : Bool

/-- The answer to a request for a parser. -/
inductive ParserAnswer where
  | parser (p : Option ForeignParser)
  | failed (text : Option ForeignText)

/-- How a library answers a request for a reset of memory, and what it makes of the memory. -/
abbrev ResetEntry := Log → UInt64 → ProfileMemory → StatusAnswer × ProfileMemory

/-- The table that a decoder library defines; entries may be null. -/
structure ExportTable where
  version : Option Bytes
  createParser : Option (Log → List Bytes → ParserAnswer)
  resetCounters : Option ResetEntry
  hasReleaseFiles : Bool
  hasReleaseText : Bool

end Plugin
end CoverageWindows
