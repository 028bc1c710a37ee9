import CoverageWindows.CommandLine.Arguments
import CoverageWindows.Text.Styled

/-!
# Help

What the program says about itself and its commands: a description, the form of the arguments, and a
table for each kind of argument.  Titles stand out, and so does what is to be typed as it is shown.
-/

namespace CoverageWindows
namespace CommandLine

open Text (Styled)
open Text.Styled (plain strong title)

/-- The name of the program. -/
def programName : String := "livecov"

/-- The version of the program. -/
def programVersion : String := "0.0.0"

/-- The program and its version. -/
def versionText : String := programName ++ " " ++ programVersion ++ "\n"

/-! ## Descriptions -/

/-- What a command does. -/
def CommandName.description : CommandName → String
  | abi => "Show the runtime ABI this build targets and the configured one"
  | binaries => "List the instrumented images loaded into this process"
  | normalize => "Show how a requested profile path is rewritten for windowed collection"
  | display => "Print a serialized coverage snapshot"
  | merge => "Merge serialized coverage snapshots"

/-- What an option does. -/
def Flag.description : Flag → String
  | logLevel => "Log level, overrides RUST_LOG"
  | logToFile => "Log to ~/.livecov/<date>-livecov.log instead of stderr"
  | summary => "Print only file and segment counts"
  | output => "Write the merged snapshot here instead of stdout"
  | help => "Print help"
  | version => "Print version"

/-- The words of a command, as they are written in its form, and what they are. -/
def CommandName.wordHelp? : CommandName → Option (String × String)
  | normalize => some ("<PATH>", "Profile path as it would appear in LLVM_PROFILE_FILE")
  | display => some ("<SNAPSHOT>", "JSON snapshot to read")
  | merge => some ("<INPUTS>...", "JSON snapshots to merge")
  | _ => none

/-- An option as it is written. -/
def Flag.form (f : Flag) : Styled :=
  let letter :=
    match f.short? with
    | some c => strong (String.ofList ['-', c]) ++ plain ", "
    | none => plain "    "
  let value :=
    match f with
    | .logLevel => " <LOG_LEVEL>"
    | .output => " <OUTPUT>"
    | _ => ""
  letter ++ strong ("--" ++ f.long) ++ plain value

/-! ## Tables -/

/-- A text filled up with blanks. -/
def filled (width : Nat) (t : Styled) : Styled :=
  t ++ plain (String.ofList (List.replicate (width - t.width) ' '))

/-- Rows of two columns, under a heading. -/
def table (heading : String) (rows : List (Styled × String)) : Styled :=
  let width := rows.foldl (fun w r => max w r.1.width) 0
  title (heading ++ ":") ++ plain "\n" ++ rows.flatMap fun r =>
    plain "  " ++ filled width r.1 ++ plain ("  " ++ r.2 ++ "\n")

/-- The table of options. -/
def optionTable (fs : List Flag) : Styled :=
  table "Options" (fs.map fun f => (f.form, f.description))

/-- What the command for help does. -/
def helpDescription : String := "Print this message or the help of the given subcommand(s)"

/-- A description, the form of the arguments behind what is typed to begin with, and tables. -/
def page (description typed form : String) (tables : List Styled) : Styled :=
  plain (description ++ "\n\n") ++ title "Usage:" ++ plain " " ++ strong typed ++
    plain (" " ++ form ++ "\n") ++ tables.flatMap fun t => plain "\n" ++ t

/-- The help about a topic. -/
def Topic.text : Topic → Styled
  | overview =>
      let rows := CommandName.all.map (fun c => (c.text, c.description)) ++
        [("help", helpDescription)]
      page "In-process source coverage collection for LLVM-instrumented binaries"
        programName "[OPTIONS] <COMMAND>"
        [table "Commands" (rows.map fun r => (strong r.1, r.2)), optionTable programFlags]
  | command c =>
      let typed := programName ++ " " ++ c.text
      match c.wordHelp? with
      | none => page c.description typed "[OPTIONS]" [optionTable c.flags]
      | some (form, description) =>
          page c.description typed ("[OPTIONS] " ++ form)
            [table "Arguments" [(plain form, description)], optionTable c.flags]
  | help =>
      page helpDescription (programName ++ " help") "[COMMAND]..."
        [table "Arguments" [(plain "[COMMAND]...", "Print help for the subcommand(s)")]]

end CommandLine
end CoverageWindows
