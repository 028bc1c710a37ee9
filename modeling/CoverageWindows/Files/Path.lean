import CoverageWindows.Text.Utf8

/-!
# Paths

A path is a byte string that slashes cut into pieces.  Empty pieces and pieces of a single dot do
not count, except that a relative path may begin with a dot.  The components of a path are what is
left; two paths are compared, and a path is searched for in front of another one, by components.

Main results:

- Theorem `join_split`: joining the pieces of a path gives the path back.
-/

namespace CoverageWindows
namespace Path

/-! ## Pieces -/

/-- The byte that separates pieces. -/
def slash : UInt8 := 47

/-- The byte of a dot. -/
def dot : UInt8 := 46

/-- The pieces of a path; there is always one. -/
def split : Bytes → List Bytes
  | [] => [[]]
  | b :: rest =>
      if b = slash then [] :: split rest
      else
        match split rest with
        | [] => [[b]]
        | p :: ps => (b :: p) :: ps

/-- Pieces with slashes between them. -/
def join : List Bytes → Bytes
  | [] => []
  | [p] => p
  | p :: q :: rest => p ++ slash :: join (q :: rest)

/-- Every path has a first piece, which may be empty. -/
theorem split_ne_nil (b : Bytes) : split b ≠ [] := by
  cases b with
  | nil => simp [split]
  | cons x rest =>
      rw [split]
      split
      · simp
      · split <;> simp

/-- Joining the pieces of a path gives the path back. -/
@[simp]
theorem join_split (b : Bytes) : join (split b) = b := by
  induction b with
  | nil => rfl
  | cons x rest ih =>
      rw [split]
      split
      · rename_i hx
        cases hs : split rest with
        | nil => exact absurd hs (split_ne_nil rest)
        | cons p ps => rw [join, ← hs, ih, hx]; rfl
      · cases hs : split rest with
        | nil => exact absurd hs (split_ne_nil rest)
        | cons p ps =>
            rw [hs] at ih
            cases ps with
            | nil => simpa [join] using ih
            | cons q qs => simpa [join] using ih

/-- A piece that does not count. -/
def isVoid (p : Bytes) : Bool := p == [] || p == [dot]

/-- Pieces without those at the end that do not count. -/
def dropVoidEnd (ps : List Bytes) : List Bytes :=
  (ps.reverse.dropWhile isVoid).reverse

/-! ## Components -/

/-- What a path is made of. -/
inductive Component where
  | root
  | here
  | up
  | name (n : Bytes)
  deriving DecidableEq, Repr

/-- The component of a piece that counts. -/
def Component.ofPiece (p : Bytes) : Component :=
  if p = [dot] then .here else if p = [dot, dot] then .up else .name p

/-- Whether a path begins at the root. -/
def isAbsolute (path : Bytes) : Bool :=
  path.head? == some slash

/-- The components of a path. -/
def components (path : Bytes) : List Component :=
  match split path with
  | [] => []
  | first :: rest =>
      let tail := (rest.filter fun p => !isVoid p).map Component.ofPiece
      if isAbsolute path then .root :: tail
      else if first = [] then tail
      else .ofPiece first :: tail

/-- The name of the file or folder that a path ends in. -/
def fileName? (path : Bytes) : Option Bytes :=
  match (components path).getLast? with
  | some (.name n) => some n
  | _ => none

/-- The path without its last component; the root and the empty path have no parent. -/
def parent? (path : Bytes) : Option Bytes :=
  match split path with
  | [] => none
  | first :: rest =>
      match dropVoidEnd rest with
      | [] => if first = [] then none else some []
      | body =>
          let left := dropVoidEnd body.dropLast
          if first = [] ∧ left = [] then some [slash] else some (join (first :: left))

/-- A path inside a folder; an absolute path stays as it is. -/
def inside (folder path : Bytes) : Bytes :=
  if isAbsolute path then path
  else
    match folder.getLast? with
    | none => path
    | some b => if b = slash then folder ++ path else folder ++ slash :: path

/-- Whether the components of a path begin with those of another one. -/
def startsWith (path front : Bytes) : Bool :=
  (components front).isPrefixOf (components path)

/-! ## File names -/

/-- What follows the last dot of a list of units, if there is one. -/
def afterLastDot? {α : Type} [BEq α] (d : α) (name : List α) : Option (List α) :=
  let tail := name.reverse.takeWhile (· != d)
  if tail.length < name.length then some tail.reverse else none

end Path
end CoverageWindows
