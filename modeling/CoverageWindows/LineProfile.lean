import CoverageWindows.Backend

/-!
# Profiles in lines of text

A profile may be written as lines of text: a line `F name` begins a file, a line
`R line column count` adds a mark to it, and a line `E text` says that the profile is unusable.  The
backend here reads such profiles; it resets memory itself, and may be told to refuse.
-/

namespace CoverageWindows
namespace LineProfile

/-! ## Lines -/

/-- A line without the carriage return at its end. -/
def dropReturn (line : List Char) : List Char :=
  if line.getLast? = some '\r' then line.dropLast else line

/-- The lines of a text, split with the line being read, last character first.  A line feed ends a
line, with a carriage return before it if there is one; nothing follows the last line feed unless
there is text. -/
def linesFrom : List Char → List Char → List (List Char)
  | [], [] => []
  | line, [] => [line.reverse]
  | line, c :: rest =>
      if c = '\n' then dropReturn line.reverse :: linesFrom [] rest else linesFrom (c :: line) rest

/-- The lines of a text. -/
def lines (text : List Char) : List (List Char) := linesFrom [] text

/-- The words of a line, cut at every blank. -/
def words : List Char → List (List Char)
  | [] => [[]]
  | c :: rest =>
      if c = ' ' then [] :: words rest
      else
        match words rest with
        | [] => [[c]]
        | w :: ws => (c :: w) :: ws

/-- The mark that a line gives in its three words. -/
def mark? (line : List Char) : Option Mark :=
  match words line with
  | [a, b, c] =>
      match Decimal.number? 4294967295 a, Decimal.number? 4294967295 b,
        Decimal.number? 18446744073709551615 c with
      | some l, some k, some n => some (.entry (UInt32.ofNat l) (UInt32.ofNat k) (UInt64.ofNat n))
      | _, _, _ => none
  | _ => none

/-! ## Files -/

/-- The files of what is left of a profile, the last file that was begun first. -/
def filesFrom : List DecodedFile → List (List Char) → Except String (List DecodedFile)
  | done, [] => .ok done.reverse
  | done, line :: rest =>
      let malformed : Except String (List DecodedFile) :=
        .error ("malformed record: " ++ String.ofList line)
      match line with
      | 'F' :: ' ' :: name => filesFrom (⟨String.ofList name, []⟩ :: done) rest
      | 'E' :: ' ' :: text => .error (String.ofList text)
      | 'R' :: ' ' :: fields =>
          match done, mark? fields with
          | f :: before, some m => filesFrom ({ f with marks := f.marks ++ [m] } :: before) rest
          | _, _ => malformed
      | _ => malformed

/-- The files of a profile. -/
def decode (text : String) : Except String (List DecodedFile) :=
  filesFrom [] (lines text.toList)

/-! ## Writing -/

/-- The lines of a mark that begins a region. -/
def markLine (line column : Nat) (count : UInt64) : List Char :=
  ['R', ' '] ++ Decimal.digits line ++ ' ' :: Decimal.digits column ++ ' ' ::
    Decimal.digits count.toNat ++ ['\n']

/-- The lines of the counters of a file from an index on: each counter has its own line number and
ends two lines below. -/
def counterLines : Nat → List UInt64 → List Char
  | _, [] => []
  | i, c :: rest =>
      markLine (10 * (i + 1)) 1 c ++ markLine (10 * (i + 1) + 2) 1 0 ++ counterLines (i + 1) rest

/-- The profile of the counters of one file. -/
def encode (source : String) (counters : List UInt64) : String :=
  String.ofList (['F', ' '] ++ source.toList ++ '\n' :: counterLines 0 counters)

/-! ## The backend -/

/-- What the backend is told to do: its interface and version, the messages with which it refuses to
be bound and to reset, and the number of resets that it allows before. -/
structure Plan where
  abi : Abi
  version : String
  refusal : Option String
  resetRefusal : Option String
  resetsAllowed : Nat
  deriving DecidableEq, Repr

/-- The files of a profile in a tree of files. -/
def coveredFiles (t : FileTree) (profile : Bytes) : Except Complaint (List DecodedFile) :=
  match t.readText profile with
  | .error _ => .error (.refused ("cannot read " ++ Text.lossy profile))
  | .ok text => (decode text).mapError .refused

/-- The backend of a plan; its state is the number of resets that it has done. -/
def backend (p : Plan) : Backend Nat where
  abi := p.abi
  version := p.version
  create _ done :=
    match p.refusal with
    | some message => (.error (.refused message), done)
    | none => (.ok ⟨fun t profile done => (coveredFiles t profile, done), id⟩, done)
  reset version memory done :=
    match p.resetRefusal with
    | some message =>
        if p.resetsAllowed ≤ done then (.error (.refused message), memory, done)
        else (.ok (), memory.reset version, done + 1)
    | none => (.ok (), memory.reset version, done + 1)

end LineProfile
end CoverageWindows
