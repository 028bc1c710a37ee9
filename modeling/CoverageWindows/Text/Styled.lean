/-!
# Styled text

A text for people in which some stretches stand out.  Where styles are shown, a stretch stands
between the control sequences of a terminal that switch its style on and off; where they are not, it
is written as it is.
-/

namespace CoverageWindows
namespace Text

/-- How a stretch of a text stands out. -/
inductive Style where
  | plain
  | strong
  | title
  deriving DecidableEq, Repr

/-- The control sequences that switch a style on. -/
def Style.opening : Style → String
  | plain => ""
  | strong => "\x1b[1m"
  | title => "\x1b[1m\x1b[4m"

/-- The control sequence that switches a style off. -/
def Style.closing : Style → String
  | plain => ""
  | _ => "\x1b[0m"

/-- A stretch of a text in one style. -/
structure Stretch where
  style : Style
  words : String
  deriving DecidableEq, Repr

/-- A stretch as it is written, with its style if styles are shown. -/
def Stretch.render (styles : Bool) (s : Stretch) : String :=
  if styles then s.style.opening ++ s.words ++ s.style.closing else s.words

/-- A text in stretches. -/
abbrev Styled := List Stretch

namespace Styled

/-- A text that does not stand out. -/
def plain (s : String) : Styled := [⟨.plain, s⟩]

/-- A text that stands out. -/
def strong (s : String) : Styled := [⟨.strong, s⟩]

/-- A text that stands out as a title. -/
def title (s : String) : Styled := [⟨.title, s⟩]

/-- The number of characters that are seen. -/
def width (t : Styled) : Nat := t.foldl (fun n s => n + s.words.length) 0

/-- The text as it is written, with its styles if they are shown. -/
def render (styles : Bool) (t : Styled) : String :=
  t.foldr (fun s rest => s.render styles ++ rest) ""

end Styled
end Text
end CoverageWindows
