import CoverageWindows.Files.Tree

/-!
# Failures

Everything that can go wrong when coverage is collected or decoded, by cause, and the words for it.
-/

namespace CoverageWindows

/-- What is wrong with a setting. -/
inductive SettingFault where
  | unknownAbi (text : String)
  | notBoolean (text : String)
  | variableNotText (name shown : String)
  | folderNotText (shown : String)
  deriving DecidableEq, Repr

/-- A wrong setting in words. -/
def SettingFault.message : SettingFault → String
  | unknownAbi text => "unknown runtime ABI: " ++ text ++ ". Use 'llvm17' or 'llvm19'"
  | notBoolean text => "LIVECOV_LOAD_BASELINE: expected a boolean, found '" ++ text ++ "'"
  | variableNotText name shown => name ++ " is not valid UTF-8: " ++ shown
  | folderNotText shown => "temp directory is not valid UTF-8: " ++ shown

/-- What is wrong with the table of a decoder library. -/
inductive TableFault where
  | noSymbol
  | noTable
  | noEntry (name : String)
  | notObject
  deriving DecidableEq, Repr

/-- A wrong table in words. -/
def TableFault.message : TableFault → String
  | noSymbol => "no coverage table"
  | noTable => "export table is null"
  | noEntry name => "export table has no " ++ name
  | notObject => "not an object file"

/-- Why coverage cannot be collected or decoded. -/
inductive Failure where
  | disabled (variableName : String)
  | windowOpen
  | windowNotOpen
  | noBitmap (image : String)
  | resetFailed (image why : String)
  | unresolved (why : TableFault)
  | unavailable (why : String)
  | processorRefused (why : String)
  | undecodable (why : String)
  | badSetting (why : SettingFault)
  | files (why : FileFault)
  | backendBroken
  deriving DecidableEq, Repr

/-- A failure in words. -/
def Failure.message : Failure → String
  | disabled variableName => "Coverage is disabled: " ++ variableName ++ " is not set"
  | windowOpen => "Coverage window is already open"
  | windowNotOpen => "Coverage window is not open"
  | noBitmap image => "Binary " ++ image ++ " is missing required capability: bitmap range"
  | resetFailed image why => "Failed to reset counters for " ++ image ++ ": " ++ why
  | unresolved why => "Symbol resolution failed: " ++ why.message
  | unavailable why => "Coverage backend unavailable: " ++ why
  | processorRefused why => "Failed to initialize coverage processor: " ++ why
  | undecodable why => "Failed to decode coverage: " ++ why
  | badSetting why => "Invalid configuration: " ++ why.message
  | files why => "IO error: " ++ why.message
  | backendBroken => "coverage backend set the error flag without an error message"

end CoverageWindows
