import CoverageWindows.LogSettings

/-!
# Arguments of the command line

The arguments name a command, its options and the words that it works on.  Two options belong to the
program as a whole and may stand in front of the command as well as behind it.  Two hyphens alone
say that only words follow.  A value that stands in an argument of its own is looked at when the
next option or word is read, or at the end.
-/

namespace CoverageWindows
namespace CommandLine

/-! ## Commands and options -/

/-- The names of commands. -/
inductive CommandName where
  | abi
  | binaries
  | normalize
  | display
  | merge
  deriving DecidableEq, Repr

/-- The options of the program and of its commands. -/
inductive Flag where
  | logLevel
  | logToFile
  | summary
  | output
  | help
  | version
  deriving DecidableEq, Repr

/-- The name of an option behind two hyphens. -/
def Flag.long : Flag → String
  | logLevel => "log-level"
  | logToFile => "log-to-file"
  | summary => "summary"
  | output => "output"
  | help => "help"
  | version => "version"

/-- The letter of an option behind one hyphen, if it has one. -/
def Flag.short? : Flag → Option Char
  | output => some 'o'
  | help => some 'h'
  | version => some 'V'
  | _ => none

/-- Whether an option is followed by a value. -/
def Flag.takesValue : Flag → Bool
  | logLevel => true
  | output => true
  | _ => false

/-- The options of the program as a whole, in front of a command. -/
def programFlags : List Flag := [.logLevel, .logToFile, .help, .version]

namespace CommandName

/-- All commands, in the order of the overview. -/
def all : List CommandName := [abi, binaries, normalize, display, merge]

/-- A command as it is written. -/
def text : CommandName → String
  | abi => "abi"
  | binaries => "binaries"
  | normalize => "normalize"
  | display => "show"
  | merge => "merge"

/-- The command that is written so. -/
def ofText? (s : String) : Option CommandName := all.find? fun c => c.text == s

/-- The options behind a command, in the order in which they are listed. -/
def flags : CommandName → List Flag
  | display => [.logLevel, .summary, .logToFile, .help]
  | merge => [.logLevel, .output, .logToFile, .help]
  | _ => [.logLevel, .logToFile, .help]

/-- The greatest number of words of a command; `none` where there is no limit. -/
def wordLimit : CommandName → Option Nat
  | abi => some 0
  | binaries => some 0
  | normalize => some 1
  | display => some 1
  | merge => none

end CommandName

/-! ## What arguments ask for -/

/-- A command with the words and options that it works on. -/
inductive Command where
  | abi
  | binaries
  | normalize (path : String)
  | display (snapshot : Bytes) (summary : Bool)
  | merge (inputs : List Bytes) (output : Option Bytes)
  deriving DecidableEq, Repr

/-- A command and how the program logs while it runs. -/
structure Invocation where
  logLevel : Option LogLevel
  logToFile : Bool
  command : Command
  deriving DecidableEq, Repr

/-- What help is asked about. -/
inductive Topic where
  | overview
  | command (c : CommandName)
  | help
  deriving DecidableEq, Repr

/-- What the arguments ask for. -/
inductive Request where
  | run (i : Invocation)
  | help (t : Topic)
  | version
  deriving DecidableEq, Repr

/-- What is wrong with arguments. -/
inductive UsageFault where
  | noCommand
  | unexpected (argument : Bytes)
  | needsValue (f : Flag)
  | takesNoValue (f : Flag)
  | repeated (f : Flag)
  | badValue (f : Flag) (value : Bytes)
  | badWord (word : Bytes)
  | missingWord (c : CommandName)
  deriving DecidableEq, Repr

/-- A usage fault in words. -/
def UsageFault.message : UsageFault → String
  | noCommand => "a command is required"
  | unexpected argument => "unexpected argument '" ++ Text.lossy argument ++ "' found"
  | needsValue f => "a value is required for '--" ++ f.long ++ "'"
  | takesNoValue f => "no value is allowed for '--" ++ f.long ++ "'"
  | repeated f => "the argument '--" ++ f.long ++ "' cannot be used more than once"
  | badValue f value => "invalid value '" ++ Text.lossy value ++ "' for '--" ++ f.long ++ "'"
  | badWord word => "invalid value '" ++ Text.lossy word ++ "'"
  | missingWord c => "the command '" ++ c.text ++ "' requires an argument"

/-! ## Reading arguments -/

/-- The options and words that are read so far. -/
structure Draft where
  logLevel : Option LogLevel
  logToFile : Bool
  summary : Bool
  output : Option Bytes
  words : List Bytes
  deriving DecidableEq, Repr

/-- No options and no words. -/
def Draft.empty : Draft := ⟨none, false, false, none, []⟩

/-- What is read in one place: options in front of a command, or options and words behind one. -/
inductive Place where
  | front
  | behind (c : CommandName)
  deriving DecidableEq, Repr

/-- The options that may stand in a place. -/
def Place.flags : Place → List Flag
  | front => programFlags
  | behind c => c.flags

/-- An option with the value that stands behind it in an argument of its own. -/
abbrev Pending := Option (Flag × Bytes)

/-- Where reading a place ends; at a word, a value in front of it has not been looked at yet. -/
inductive Ending where
  | finished (d : Draft)
  | atWord (d : Draft) (pending : Pending) (word : Bytes) (rest : List Bytes)
  | help
  | version
  deriving DecidableEq, Repr

/-- The byte of a hyphen. -/
def hyphen : UInt8 := 45

/-- The byte of an equals sign. -/
def equals : UInt8 := 61

/-- Whether an argument cannot be a value, as it begins with a hyphen that is not alone. -/
def isFlagLike (a : Bytes) : Bool := a.head? == some hyphen && 1 < a.length

/-- An argument cut at its first equals sign. -/
def cutValue (a : Bytes) : Bytes × Option Bytes :=
  match a.dropWhile fun b => b != equals with
  | [] => (a, none)
  | _ :: value => (a.takeWhile fun b => b != equals, some value)

/-- The draft with an option; an option may not be repeated. -/
def Draft.set (d : Draft) (f : Flag) (value : Bytes) : Except UsageFault Draft :=
  match f with
  | .logLevel =>
      if d.logLevel.isSome then .error (.repeated f)
      else
        match (Text.ofBytes? value).map LogLevel.ofText with
        | some (.ok l) => .ok { d with logLevel := some l }
        | _ => .error (.badValue f value)
  | .logToFile =>
      if d.logToFile then .error (.repeated f) else .ok { d with logToFile := true }
  | .summary => if d.summary then .error (.repeated f) else .ok { d with summary := true }
  | .output =>
      if d.output.isSome then .error (.repeated f)
      else if value.isEmpty then .error (.badValue f value)
      else .ok { d with output := some value }
  | .help => .ok d
  | .version => .ok d

/-- The draft with the option whose value has not been looked at yet, if there is one. -/
def Draft.settle (d : Draft) : Pending → Except UsageFault Draft
  | none => .ok d
  | some (f, value) => d.set f value

/-- The draft with one more word of a command; a path may not be empty, and a text has to be one. -/
def Draft.addWord (d : Draft) (c : CommandName) (word : Bytes) : Except UsageFault Draft :=
  let isFull :=
    match c.wordLimit with
    | some n => decide (n ≤ d.words.length)
    | none => false
  let isGood := if c = .normalize then (Text.ofBytes? word).isSome else !word.isEmpty
  if isFull then .error (.unexpected word)
  else if isGood then .ok { d with words := d.words ++ [word] }
  else .error (.badWord word)

/-- The option of a place that is written with two hyphens. -/
def Place.long? (p : Place) (name : Bytes) : Option Flag :=
  p.flags.find? fun f => Text.toBytes f.long == name

/-- The option of a place that is written with one hyphen. -/
def Place.short? (p : Place) (letter : UInt8) : Option Flag :=
  p.flags.find? fun f => f.short? == some (Char.ofNat letter.toNat)

/-- A row of letters behind one hyphen: options without values, then perhaps one with a value, which
is what is left of the row. -/
def readLetters (p : Place) (d : Draft) (argument : Bytes) :
    Bytes → Except UsageFault (Ending ⊕ (Draft × Option (Flag × Option Bytes)))
  | [] => .ok (.inr (d, none))
  | b :: rest =>
      match p.short? b with
      | none => .error (.unexpected argument)
      | some .help => .ok (.inl .help)
      | some .version => .ok (.inl .version)
      | some f =>
          if f.takesValue then
            match rest with
            | [] => .ok (.inr (d, some (f, none)))
            | c :: rest' =>
                .ok (.inr (d, some (f, some (if c = equals then rest' else rest))))
          else do
            let d ← d.set f []
            readLetters p d argument rest

/-- One argument behind two hyphens: an option, with its value if it is attached. -/
def readLong (p : Place) (d : Draft) (argument name : Bytes) :
    Except UsageFault (Ending ⊕ (Draft × Option (Flag × Option Bytes))) :=
  let (name, value) := cutValue name
  match p.long? name with
  | none => .error (.unexpected argument)
  | some f =>
      if f.takesValue then .ok (.inr (d, some (f, value)))
      else if value.isSome then .error (.takesNoValue f)
      else
        match f with
        | .help => .ok (.inl .help)
        | .version => .ok (.inl .version)
        | f => do
            let d ← d.set f []
            return .inr (d, none)

/-- Reads one argument that begins with a hyphen. -/
def readFlags (p : Place) (d : Draft) (argument : Bytes) :
    Except UsageFault (Ending ⊕ (Draft × Option (Flag × Option Bytes))) :=
  match argument with
  | _ :: b :: more =>
      if b = hyphen then readLong p d argument more else readLetters p d argument (b :: more)
  | _ => .error (.unexpected argument)

/-- Reads arguments in a place; `onlyWords` says that two hyphens alone were met.  A pending value
is looked at before the next option or word is read, but not before the name of a command. -/
def readPlace (p : Place) (onlyWords : Bool) (d : Draft) (pending : Pending)
    (args : List Bytes) : Except UsageFault Ending :=
  match args with
  | [] => (d.settle pending).map .finished
  | a :: rest =>
      if onlyWords || !isFlagLike a then
        match p with
        | .front =>
            if onlyWords then .error (.unexpected a) else .ok (.atWord d pending a rest)
        | .behind c => do
            let d ← d.settle pending
            let d ← d.addWord c a
            readPlace p onlyWords d none rest
      else
        match d.settle pending with
        | .error e => .error e
        | .ok d =>
            if a = [hyphen, hyphen] then readPlace p true d none rest
            else
              match readFlags p d a with
              | .error e => .error e
              | .ok (.inl ending) => .ok ending
              | .ok (.inr (d, none)) => readPlace p false d none rest
              | .ok (.inr (d, some (f, some value))) => do
                  let d ← d.set f value
                  readPlace p false d none rest
              | .ok (.inr (d, some (f, none))) =>
                  match rest with
                  | value :: rest' =>
                      if isFlagLike value then .error (.needsValue f)
                      else readPlace p false d (some (f, value)) rest'
                  | [] => .error (.needsValue f)
termination_by args.length

/-- The command that words and options behind its name describe. -/
def Draft.command (d : Draft) (c : CommandName) : Except UsageFault Command :=
  match c, d.words with
  | .abi, _ => .ok .abi
  | .binaries, _ => .ok .binaries
  | .normalize, w :: _ =>
      match Text.ofBytes? w with
      | some s => .ok (.normalize s)
      | none => .error (.badWord w)
  | .display, w :: _ => .ok (.display w d.summary)
  | .merge, w :: ws => .ok (.merge (w :: ws) d.output)
  | c, [] => .error (.missingWord c)

/-- Help about the commands that are named; no command has commands of its own. -/
def helpRequest : List Bytes → Except UsageFault Request
  | [] => .ok (.help .overview)
  | [name] =>
      if Text.ofBytes? name = some "help" then .ok (.help .help)
      else
        match (Text.ofBytes? name).bind CommandName.ofText? with
        | some c => .ok (.help (.command c))
        | none => .error (.unexpected name)
  | _ :: name :: _ => .error (.unexpected name)

/-- What arguments ask for.  An option of the program that stands behind the command wins over the
same option in front of it.  A value right in front of the command is looked at last, so help that
is asked for behind the command is given in spite of it. -/
def parse (args : List Bytes) : Except UsageFault Request := do
  match ← readPlace .front false .empty none args with
  | .finished _ => .error .noCommand
  | .help => .ok (.help .overview)
  | .version => .ok .version
  | .atWord front pending word rest =>
      if Text.ofBytes? word = some "help" then helpRequest rest
      else
        match (Text.ofBytes? word).bind CommandName.ofText? with
        | none => .error (.unexpected word)
        | some c =>
            match ← readPlace (.behind c) false .empty none rest with
            | .finished d => do
                let command ← d.command c
                let front ← front.settle pending
                return .run
                  ⟨d.logLevel <|> front.logLevel, d.logToFile || front.logToFile, command⟩
            | .help => .ok (.help (.command c))
            | .version => .ok .version
            | .atWord _ _ word _ => .error (.unexpected word)

end CommandLine
end CoverageWindows
