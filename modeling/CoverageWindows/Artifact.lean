import CoverageWindows.Files.Tree

/-!
# The artifact of a profile path

Before the first window the images may have written a profile to the path that was published for
them.  The tokens of that path are expanded by then, so the file is searched for by the part of the
name before the first percent sign.

Main results:

- Theorem `isArtifact_iff`: which names of a folder come into question.
-/

namespace CoverageWindows
namespace Artifact

/-- The extension of profiles. -/
def profileExtension : List Char := ['p', 'r', 'o', 'f', 'r', 'a', 'w']

/-- The part of a file name that no token of a profile path touches. -/
def literalStart (name : List Char) : List Char :=
  name.takeWhile fun c => c != '%'

/-- Whether a file name ends in a dot and an extension, with something before the dot. -/
def hasExtension (name extension : List Char) : Bool :=
  match Path.afterLastDot? '.' name with
  | some e => e == extension && e.length + 1 < name.length
  | none => false

/-- Whether a file name, read as text, is that of a profile that begins with `start`. -/
def isArtifactName (start name : List Char) : Bool :=
  name.head? != some '.' && hasExtension name profileExtension && start.isPrefixOf name

/-- Whether an entry of a folder is a profile that begins with `start`. -/
def isArtifact (start : List Char) (e : Bytes × Node) : Bool :=
  match e.2 with
  | .file _ => isArtifactName start (Text.lossy e.1).toList
  | _ => false

/-- Files come into question, links and folders do not. -/
theorem isArtifact_iff (start : List Char) (e : Bytes × Node) :
    isArtifact start e = true ↔
      (∃ c, e.2 = .file c) ∧ isArtifactName start (Text.lossy e.1).toList = true := by
  unfold isArtifact
  split
  · rename_i c hc
    simp [hc]
  · rename_i hne
    constructor
    · intro h
      exact absurd h (by simp)
    · rintro ⟨⟨c, hc⟩, _⟩
      exact absurd hc (hne c)

/-- Whether one byte string comes before another one in the order of bytes, or is equal to it. -/
def atMost : Bytes → Bytes → Bool
  | [], _ => true
  | _ :: _, [] => false
  | a :: as, b :: bs => a < b || (a == b && atMost as bs)

/-- The least of a list of names. -/
def least? : List Bytes → Option Bytes
  | [] => none
  | n :: rest =>
      match least? rest with
      | none => some n
      | some m => if atMost n m then some n else some m

/-- The folder of a path, the working folder for a path without one. -/
def folderOf (path : Bytes) : Bytes :=
  match Path.parent? path with
  | some p => if p.isEmpty then [Path.dot] else p
  | none => [Path.dot]

/-- The artifact that a profile path has expanded to: the first in the order of bytes of the
profiles in its folder that begin like its name.  A path whose name begins with a token has none. -/
def find (t : FileTree) (path : Bytes) : Except FileFault (Option Bytes) :=
  match Path.fileName? path with
  | none => .ok none
  | some name =>
      let start := literalStart (Text.lossy name).toList
      if start.isEmpty then .ok none
      else
        let folder := folderOf path
        if !t.isFolder folder then .ok none
        else do
          let entries ← t.list folder
          let names := (entries.filter (isArtifact start)).map Prod.fst
          return (least? names).map (Path.inside folder)

end Artifact
end CoverageWindows
