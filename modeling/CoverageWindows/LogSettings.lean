import CoverageWindows.Files.Path
import CoverageWindows.Text.LowerCase
import CoverageWindows.Decimal.Natural

/-!
# Settings of the log

The form of log lines, the least level that is logged, and the dated file that a log goes to.
-/

namespace CoverageWindows

/-- The form of log lines. -/
inductive LogFormat where
  | pretty
  | json
  deriving DecidableEq, Repr

/-- How important a log line is. -/
inductive LogLevel where
  | error
  | warn
  | info
  | debug
  | trace
  deriving DecidableEq, Repr

/-- A word that names no log setting. -/
inductive LogFault where
  | unknownFormat (text : String)
  | unknownLevel (text : String)
  deriving DecidableEq, Repr

/-- A wrong log setting in words. -/
def LogFault.message : LogFault → String
  | unknownFormat text => "Invalid log format: " ++ text ++ ". Use 'pretty' or 'json'"
  | unknownLevel text =>
      "Invalid log level: " ++ text ++ ". Use 'error', 'warn', 'info', 'debug', or 'trace'"

/-- The name of a form. -/
def LogFormat.name : LogFormat → String
  | pretty => "pretty"
  | json => "json"

/-- The name of a level. -/
def LogLevel.name : LogLevel → String
  | error => "error"
  | warn => "warn"
  | info => "info"
  | debug => "debug"
  | trace => "trace"

/-- The form that a text names in upper or lower case. -/
def LogFormat.ofText (s : String) : Except LogFault LogFormat :=
  let t := String.ofList (Text.lowerCase s.toList)
  if t = "pretty" ∨ t = "text" then .ok .pretty
  else if t = "json" then .ok .json
  else .error (.unknownFormat s)

/-- The level that a text names in upper or lower case. -/
def LogLevel.ofText (s : String) : Except LogFault LogLevel :=
  let t := String.ofList (Text.lowerCase s.toList)
  if t = "error" ∨ t = "err" then .ok .error
  else if t = "warn" ∨ t = "warning" then .ok .warn
  else if t = "info" then .ok .info
  else if t = "debug" ∨ t = "dbg" then .ok .debug
  else if t = "trace" then .ok .trace
  else .error (.unknownLevel s)

/-- A day of the calendar. -/
structure Day where
  year : Int
  month : Nat
  day : Nat
  deriving DecidableEq, Repr

/-- A day as year, month and day with hyphens; a year has four digits at least, and a sign if it is
negative or has more than four. -/
def Day.text (d : Day) : String :=
  let sign : List Char := if d.year < 0 then ['-'] else if 9999 < d.year then ['+'] else []
  String.ofList
    (sign ++ Decimal.padded 4 d.year.natAbs ++ '-' :: Decimal.padded 2 d.month ++
      '-' :: Decimal.padded 2 d.day)

/-! ## Log files -/

/-- The log file of a day: in `.livecov` in the home folder, or in the folder for temporary files
where there is no home. -/
def logFile (home : Option Bytes) (temporaryFolder : Bytes) (d : Day) : Bytes :=
  let folder :=
    match home with
    | some h => Path.inside h (Text.toBytes ".livecov")
    | none => temporaryFolder
  Path.inside folder (Text.toBytes (d.text ++ "-livecov.log"))

/-- The folder that a log file is in; empty for the working folder. -/
def logFolder (path : Bytes) : Bytes :=
  (Path.parent? path).getD []

/-- The log file of a day that a path asks for: the day follows the name of the path, or a name of
its own where the path has none.  A name that is no text cannot be followed by a day. -/
def dailyLogFile? (path : Bytes) (d : Day) : Option Bytes :=
  let name := (Path.fileName? path).getD (Text.toBytes "livecov.log")
  (Text.ofBytes? name).map fun text =>
    Path.inside (logFolder path) (Text.toBytes (text ++ "." ++ d.text))

end CoverageWindows
