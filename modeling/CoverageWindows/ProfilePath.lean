import CoverageWindows.Decimal.Natural

/-!
# Profile paths

The profile runtime of an image expands tokens in the path it writes to: `%c` asks for a file that
is mapped while the program runs, `%m` (or a percent sign, digits and an `m`) stands for a signature
of the image.  Windows move from file to file, which a mapped file cannot follow, and two images
must not write to one file; so a path is prepared by taking `%c` out and putting `%m` in.

Main results:

- Theorem `prepare_of_hasModuleToken`: a path with a module token and without `%c` stays as it is.
-/

namespace CoverageWindows
namespace ProfilePath

/-- A path as it was prepared for windows. -/
structure Prepared where
  path : List Char
  changed : Bool
  continuous : Bool
  deriving DecidableEq, Repr

/-- Whether a text begins with a module token. -/
def startsToken : List Char → Bool
  | '%' :: rest => (rest.dropWhile Decimal.isDigit).head? == some 'm'
  | _ => false

/-- Whether a path contains a percent sign, digits or none, and an `m`. -/
def hasModuleToken : List Char → Bool
  | [] => false
  | c :: rest => startsToken (c :: rest) || hasModuleToken rest

/-- The path without the tokens `%c`, taken out from left to right. -/
def withoutContinuous : List Char → List Char
  | [] => []
  | [c] => [c]
  | c :: d :: rest =>
      if c = '%' ∧ d = 'c' then withoutContinuous rest else c :: withoutContinuous (d :: rest)

/-- Whether a character separates folders on some system. -/
def isSeparator (c : Char) : Bool := c == '/' || c == '\\'

/-- A path cut behind its last separator. -/
def cutName (path : List Char) : List Char × List Char :=
  ((path.reverse.dropWhile fun c => !isSeparator c).reverse,
    (path.reverse.takeWhile fun c => !isSeparator c).reverse)

/-- The token that stands for the signature of an image. -/
def moduleToken : List Char := ['%', 'm']

/-- A file name with a module token: before its last dot, unless it has none or begins with it. -/
def nameWithToken (name : List Char) : List Char :=
  let tail := (name.reverse.takeWhile fun c => c != '.').reverse
  if tail.length + 1 < name.length then
    name.take (name.length - (tail.length + 1)) ++ moduleToken ++ '.' :: tail
  else name ++ moduleToken

/-- A path with a module token in its file name. -/
def withToken (path : List Char) : List Char :=
  let (folder, name) := cutName path
  folder ++ nameWithToken name

/-- The path for windows, whether it differs from the requested one, and whether the requested one
asked for a mapped file. -/
def prepare (requested : List Char) : Prepared :=
  let kept := withoutContinuous requested
  let path := if hasModuleToken kept then kept else withToken kept
  ⟨path, path != requested, kept.length != requested.length⟩

/-- A path with a module token and without the continuous mode is left as it is. -/
theorem prepare_of_hasModuleToken {path : List Char} (h : hasModuleToken path = true)
    (hc : withoutContinuous path = path) : prepare path = ⟨path, false, false⟩ := by
  simp [prepare, hc, h]

end ProfilePath
end CoverageWindows
