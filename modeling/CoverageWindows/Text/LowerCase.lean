import CoverageWindows.Text.LowerCase.Table

/-!
# Lower case

The full Unicode lower-case form of a text.  All letters but two go by a table; the capital I with a
dot becomes two characters, and the capital sigma has a form of its own at the end of a word.

Main results:

- Theorem `lowerCase_ascii`: on ASCII the form is taken character by character.
-/

namespace CoverageWindows
namespace Text

/-! ## Classes -/

/-- Whether a character has a case. -/
def isCased (c : Char) : Bool :=
  casedRanges.any fun r => r.1 ≤ c.toNat && c.toNat ≤ r.2

/-- Whether a search for a neighbouring letter passes over the character. -/
def isCaseIgnorable (c : Char) : Bool :=
  caseIgnorableRanges.any fun r => r.1 ≤ c.toNat && c.toNat ≤ r.2

/-- The lower-case letter of a character by the simple mapping, the character itself if it has
none. -/
def simpleLower (c : Char) : Char :=
  let n := c.toNat
  match lowerCaseRuns.find? fun r => r.1 ≤ n && n ≤ r.2.1 && (n - r.1) % r.2.2.1 == 0 with
  | some r => Char.ofNat (Int.ofNat n + r.2.2.2).toNat
  | none => c

/-! ## Words and the final sigma -/

/-- Whether the next character that is not passed over has a case. -/
def meetsCased (cs : List Char) : Bool :=
  match cs.dropWhile isCaseIgnorable with
  | [] => false
  | c :: _ => isCased c

/-- The lower-case form of what is left of a text, `before` being the part in front, last character
first.  A sigma that ends a word takes its final form. -/
def lowerAfter : List Char → List Char → List Char
  | _, [] => []
  | before, c :: rest =>
      let here :=
        if c = 'Σ' then
          if meetsCased before && !meetsCased rest then ['ς'] else ['σ']
        else if c = 'İ' then ['i', '\u0307']
        else if c.toNat < 0x80 then [c.toLower]
        else [simpleLower c]
      here ++ lowerAfter (c :: before) rest

/-- The lower-case form of a text. -/
def lowerCase (cs : List Char) : List Char :=
  lowerAfter [] cs

/-- In ASCII every character has its own lower-case form. -/
theorem lowerCase_ascii (cs : List Char) (h : ∀ c ∈ cs, c.toNat < 0x80) :
    lowerCase cs = cs.map Char.toLower := by
  suffices hgen : ∀ (before : List Char), lowerAfter before cs = cs.map Char.toLower from hgen []
  induction cs with
  | nil => intro _; rfl
  | cons c rest ih =>
      intro before
      have hc : c.toNat < 0x80 := h c (by simp)
      have hsigma : c ≠ 'Σ' := by rintro rfl; simp at hc
      have hdot : c ≠ 'İ' := by rintro rfl; simp at hc
      simp [lowerAfter, hsigma, hdot, hc, ih fun d hd => h d (by simp [hd])]

end Text
end CoverageWindows
