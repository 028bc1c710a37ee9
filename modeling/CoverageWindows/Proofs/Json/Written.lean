import CoverageWindows.Json.Reader
import CoverageWindows.Json.Writer
import Mathlib.Data.List.Forall2

/-!
# Reading what was written

A reader undoes a writer if it takes the written value back from any text that goes on behind it
without extending a number, in both layouts and at every level of nesting.  Numbers and texts are
undone; lists and objects are undone when their items and fields are.

Main results:

- Theorem `readText_escaped`: a text with its escapes is read back, character by character.
- Theorems `undoes_writeNatural`, `undoes_writeString`: numbers and texts are undone.
- Theorem `undoes_writeList`: a list is undone if its items are.
- Theorem `RecordForm.undoes_writeObject`: a record is undone if its fields are.
- Theorem `readDocument_document`: a whole document is read back in either layout.
-/

namespace CoverageWindows
namespace Json

/-! ## Taking a value from the front of a text -/

/-- A text does not go on with a number that stands in front of it. -/
def EndsNumber (rest : List Char) : Prop :=
  ∀ c ∈ rest.head?, Decimal.isDigit c = false ∧ c ≠ '.' ∧ c ≠ 'e' ∧ c ≠ 'E'

/-- A reader takes a value from a text: the text begins with a character that neither is blank nor
closes a list, and whatever blanks stand in front of it, the value is read and the rest is left. -/
structure Takes {α : Type} (r : Reader α) (text : List Char) (a : α) : Prop where
  begins : ∃ c cs, text = c :: cs ∧ isBlank c = false ∧ c ≠ ']'
  reads : ∀ blanks rest, (∀ c ∈ blanks, isBlank c = true) → EndsNumber rest →
    r (blanks ++ (text ++ rest)) = .ok (a, rest)

/-- A reader takes back the value that a writer writes. -/
def Undoes {α : Type} (r : Reader α) (w : Writer) (a : α) : Prop :=
  ∀ l level, Takes r (w l level) a

theorem endsNumber_nil : EndsNumber [] := by
  simp [EndsNumber]

/-- A text ends a number if its first character does. -/
theorem endsNumber_cons {c : Char} {rest : List Char}
    (h : Decimal.isDigit c = false ∧ c ≠ '.' ∧ c ≠ 'e' ∧ c ≠ 'E') : EndsNumber (c :: rest) := by
  intro d hd
  rw [List.head?_cons, Option.mem_some_iff] at hd
  exact hd ▸ h

/-- Blanks in front of a text are skipped. -/
theorem skipBlank_append {blanks : List Char} (h : ∀ c ∈ blanks, isBlank c = true)
    (cs : List Char) : skipBlank (blanks ++ cs) = skipBlank cs := by
  induction blanks with
  | nil => rfl
  | cons b blanks ih =>
      have hb : isBlank b = true := h b (by simp)
      rw [List.cons_append, skipBlank, List.dropWhile_cons_of_pos hb]
      exact ih fun c hc => h c (List.mem_cons_of_mem _ hc)

/-- Nothing is skipped in front of a character that is no blank. -/
theorem skipBlank_cons {c : Char} (h : isBlank c = false) (cs : List Char) :
    skipBlank (c :: cs) = c :: cs := by
  rw [skipBlank, List.dropWhile_cons_of_neg (by simp [h])]

/-- A line break of either layout has only blanks. -/
theorem isBlank_of_mem_lineBreak {l : Layout} {level : Nat} {c : Char}
    (h : c ∈ lineBreak l level) : isBlank c = true := by
  cases l with
  | compact => simp [lineBreak] at h
  | indented =>
      rcases List.mem_cons.1 h with rfl | h
      · rfl
      · rw [(List.mem_replicate.1 h).2]
        rfl

/-- A line break, or whatever closes a bracket behind it, does not extend a number. -/
theorem endsNumber_lineBreak {rest : List Char} (h : EndsNumber rest) (l : Layout) (level : Nat) :
    EndsNumber (lineBreak l level ++ rest) := by
  cases l with
  | compact => exact h
  | indented => exact endsNumber_cons (by decide)

/-! ## Numbers -/

/-- Digits are no blanks, signs or brackets. -/
theorem ne_of_isDigit {c d : Char} (hc : Decimal.isDigit c = true)
    (hd : Decimal.isDigit d = false) : c ≠ d := by
  rintro rfl
  rw [hc] at hd
  exact Bool.noConfusion hd

theorem isBlank_of_isDigit {c : Char} (h : Decimal.isDigit c = true) : isBlank c = false := by
  have h₁ := ne_of_isDigit (d := ' ') h rfl
  have h₂ := ne_of_isDigit (d := '\n') h rfl
  have h₃ := ne_of_isDigit (d := '\t') h rfl
  have h₄ := ne_of_isDigit (d := '\r') h rfl
  simp [isBlank, h₁, h₂, h₃, h₄]

/-- The digits of a number begin with a digit. -/
theorem exists_digits_eq_cons (n : Nat) :
    ∃ d ds, Decimal.digits n = d :: ds ∧ Decimal.isDigit d = true := by
  cases hds : Decimal.digits n with
  | nil => exact absurd hds (Decimal.digits_ne_nil n)
  | cons d ds =>
      have hmem : d ∈ Decimal.digits n := by
        rw [hds]
        exact List.mem_cons_self
      exact ⟨d, ds, rfl, Decimal.isDigit_of_mem_digits hmem⟩

/-- Only the number zero is written with a zero in front. -/
theorem eq_zero_of_digits_head {n : Nat} {ds : List Char} (h : Decimal.digits n = '0' :: ds) :
    n = 0 ∧ ds = [] := by
  fun_induction Decimal.digits n generalizing ds with
  | case1 n hn =>
      rw [List.cons.injEq] at h
      have hval := Decimal.digitValue_digitChar hn
      rw [h.1] at hval
      exact ⟨hval.symm.trans rfl, h.2.symm⟩
  | case2 n hn ih =>
      cases hds : Decimal.digits (n / 10) with
      | nil => exact absurd hds (Decimal.digits_ne_nil _)
      | cons d rest =>
          rw [hds, List.cons_append, List.cons.injEq] at h
          have hhead : Decimal.digits (n / 10) = '0' :: rest := by rw [hds, h.1]
          have hzero := (ih hhead).1
          omega

/-- Digits do not make a number smaller. -/
theorem le_valueFrom (n : Nat) (ds : List Char) : n ≤ Decimal.valueFrom n ds := by
  induction ds generalizing n with
  | nil => exact Nat.le_refl n
  | cons d ds ih =>
      have hrest := ih (10 * n + Decimal.digitValue d)
      have hcons : Decimal.valueFrom n (d :: ds) =
          Decimal.valueFrom (10 * n + Decimal.digitValue d) ds := rfl
      omega

/-- The digits of a number that is not greater than the limit are gathered completely. -/
theorem gather_eq {limit n : Nat} {ds : List Char} (h : Decimal.valueFrom n ds ≤ limit) :
    gather limit n ds = (Decimal.valueFrom n ds, []) := by
  induction ds generalizing n with
  | nil => rfl
  | cons d ds ih =>
      have hcons : Decimal.valueFrom n (d :: ds) =
          Decimal.valueFrom (10 * n + Decimal.digitValue d) ds := rfl
      have hle := le_valueFrom (10 * n + Decimal.digitValue d) ds
      rw [gather, if_pos (by omega), hcons]
      exact ih (hcons ▸ h)

/-- What ends a number leaves it as its digits say. -/
theorem readAfterDigits_of_endsNumber {rest : List Char} (h : EndsNumber rest) (n : Nat) :
    readAfterDigits false n [] rest = .ok (.natural (UInt64.ofNat n), rest) := by
  cases rest with
  | nil => rfl
  | cons c rest =>
      rcases h c rfl with ⟨-, hdot, he, hE⟩
      unfold readAfterDigits
      split <;> simp_all

/-- The digits of a number are taken from a text that goes on with something else, no more and no
less. -/
theorem takeWhile_digits (n : Nat) {rest : List Char} (h : EndsNumber rest) :
    (Decimal.digits n ++ rest).takeWhile Decimal.isDigit = Decimal.digits n ∧
      (Decimal.digits n ++ rest).dropWhile Decimal.isDigit = rest := by
  have hall : ∀ c ∈ Decimal.digits n, Decimal.isDigit c = true :=
    fun c hc => Decimal.isDigit_of_mem_digits hc
  rw [List.takeWhile_append_of_pos hall, List.dropWhile_append_of_pos hall]
  cases rest with
  | nil => simp
  | cons c rest => simp [(h c rfl).1]

/-- The digits of a number that fits in 64 bits are read as that number. -/
theorem readNumber_digits {n : Nat} (hn : n ≤ greatestWord) {rest : List Char}
    (h : EndsNumber rest) :
    readNumber (Decimal.digits n ++ rest) = .ok (.natural (UInt64.ofNat n), rest) := by
  rcases takeWhile_digits n h with ⟨htake, hdrop⟩
  rcases exists_digits_eq_cons n with ⟨d, ds, hds, hd⟩
  have hsign : d ≠ '-' := ne_of_isDigit hd rfl
  rw [hds, List.cons_append] at htake hdrop
  rw [hds, List.cons_append]
  have hunsigned : readNumber (d :: (ds ++ rest)) = readUnsigned false (d :: (ds ++ rest)) := by
    unfold readNumber
    split
    · rename_i heq
      exact absurd (List.cons.inj heq).1 hsign
    · rfl
  rw [hunsigned, readUnsigned]
  by_cases hzero : d = '0'
  · -- a zero in front is the whole number
    subst hzero
    rcases eq_zero_of_digits_head hds with ⟨rfl, rfl⟩
    have hnext : (rest.head?.map Decimal.isDigit).getD false = false := by
      cases rest with
      | nil => rfl
      | cons c rest => exact (h c rfl).1
    simp only [List.nil_append, hnext, if_true]
    exact readAfterDigits_of_endsNumber h 0
  · have hvalue : Decimal.valueFrom 0 (d :: ds) = n := by
      have hdigits := Decimal.value_digits n
      rwa [Decimal.value, hds] at hdigits
    have hgather : gather greatestWord 0 (d :: ds) = (n, []) := by
      rw [gather_eq (by rwa [hvalue]), hvalue]
    rw [if_neg hzero, if_pos hd, htake, hdrop, hgather]
    exact readAfterDigits_of_endsNumber h n

/-- A number is read back, if it fits in 64 bits and the limit allows it. -/
theorem undoes_writeNatural (kind : String) {n limit : Nat} (hlimit : n ≤ limit)
    (hn : n ≤ greatestWord) : Undoes (readNatural kind limit) (writeNatural n) n := by
  intro l level
  rcases exists_digits_eq_cons n with ⟨d, ds, hds, hd⟩
  refine ⟨⟨d, ds, hds, isBlank_of_isDigit hd, ne_of_isDigit hd rfl⟩, ?_⟩
  intro blanks rest hblanks hrest
  have hnum := readNumber_digits hn hrest
  have hword : (UInt64.ofNat n).toNat = n := by
    rw [UInt64.toNat_ofNat', Nat.mod_eq_of_lt]
    rw [greatestWord] at hn
    omega
  rw [hds, List.cons_append] at hnum
  rw [writeNatural, readNatural, skipBlank_append hblanks, hds, List.cons_append,
    skipBlank_cons (isBlank_of_isDigit hd)]
  simp only [hd, or_true, if_true, hnum]
  simp [bind, Except.bind, hword, hlimit]

/-- A reader of mapped values undoes what the reader of the values undoes. -/
theorem Undoes.map {α β : Type} {r : Reader α} {w : Writer} {a : α} (h : Undoes r w a) (g : α → β) :
    Undoes (fun cs => (r cs).map fun p => (g p.1, p.2)) w (g a) := by
  intro l level
  refine ⟨(h l level).begins, ?_⟩
  intro blanks rest hblanks hrest
  rw [(h l level).reads blanks rest hblanks hrest]
  rfl

theorem undoes_writeNatural_u32 (n : UInt32) : Undoes readU32 (writeNatural n.toNat) n := by
  have hlt := n.toNat_lt
  have hlimit : n.toNat ≤ 4294967295 := by omega
  have hn : n.toNat ≤ greatestWord := by
    rw [greatestWord]
    omega
  have hmap := (undoes_writeNatural "u32" hlimit hn).map UInt32.ofNat
  rwa [UInt32.ofNat_toNat] at hmap

theorem undoes_writeNatural_u64 (n : UInt64) : Undoes readU64 (writeNatural n.toNat) n := by
  have hn : n.toNat ≤ greatestWord := by
    have hlt := n.toNat_lt
    rw [greatestWord]
    omega
  have hmap := (undoes_writeNatural "u64" hn hn).map UInt64.ofNat
  rwa [UInt64.ofNat_toNat] at hmap

/-! ## Texts -/

/-- A hexadecimal digit has the value it is written for. -/
theorem hexValue?_hexChar : ∀ n < 16, hexValue? (hexChar n) = some n := by
  decide

/-- A hexadecimal digit takes one byte. -/
theorem utf8Size_hexChar : ∀ n < 16, (hexChar n).utf8Size = 1 := by
  decide

/-- A control character is read back from its unit. -/
theorem readUnits_control {c : Char} (hc : c.toNat < 32) (rest : List Char) :
    readUnits ('0' :: '0' :: hexChar (c.toNat / 16) :: hexChar (c.toNat % 16) :: rest) =
      .ok (c, rest) := by
  have hhigh : c.toNat / 16 < 16 := by omega
  have hlow : c.toNat % 16 < 16 := by omega
  have hzero : hexValue? '0' = some 0 := by decide
  have hsum : 4096 * 0 + 256 * 0 + 16 * (c.toNat / 16) + c.toNat % 16 = c.toNat := by omega
  have hunit : readUnit ('0' :: '0' :: hexChar (c.toNat / 16) :: hexChar (c.toNat % 16) :: rest) =
      .ok (c.toNat, rest) := by
    have hcount :
        ¬ Text.byteCount ['0', '0', hexChar (c.toNat / 16), hexChar (c.toNat % 16)] < 4 := by
      have hone : '0'.utf8Size = 1 := rfl
      simp [Text.byteCount, utf8Size_hexChar _ hhigh, utf8Size_hexChar _ hlow, hone]
    rw [readUnit, List.take_succ_cons, List.take_succ_cons, List.take_succ_cons,
      List.take_succ_cons, List.take_zero, if_neg hcount]
    simp only [hzero, hexValue?_hexChar _ hhigh, hexValue?_hexChar _ hlow, hsum]
  have htrail : ¬ (0xDC00 ≤ c.toNat ∧ c.toNat ≤ 0xDFFF) := by omega
  have hplain : c.toNat < 0xD800 ∨ 0xDBFF < c.toNat := by omega
  rw [readUnits, hunit]
  simp only [bind, Except.bind, if_neg htrail, if_pos hplain, Char.ofNat_toNat]

/-- A character is written as an escape that is read back, or as itself. -/
theorem escaped_cases (c : Char) :
    (∃ e, escaped c = '\\' :: e ∧ ∀ cs, readEscape (e ++ cs) = .ok (c, cs)) ∨
      (escaped c = [c] ∧ c ≠ '"' ∧ c ≠ '\\' ∧ ¬ c.toNat < 32) := by
  have heq : ∀ {d : Char}, c.toNat = d.toNat → c = d := fun h => Char.toNat_inj.1 h
  rw [escaped]
  by_cases hquote : c = '"'
  · subst hquote
    exact Or.inl ⟨_, rfl, fun _ => rfl⟩
  by_cases hslash : c = '\\'
  · subst hslash
    exact Or.inl ⟨_, rfl, fun _ => rfl⟩
  rw [if_neg hquote, if_neg hslash]
  by_cases hb : c.toNat = 8
  · rw [if_pos hb, heq (d := '\x08') hb]
    exact Or.inl ⟨_, rfl, fun _ => rfl⟩
  by_cases ht : c.toNat = 9
  · rw [if_neg hb, if_pos ht, heq (d := '\t') ht]
    exact Or.inl ⟨_, rfl, fun _ => rfl⟩
  by_cases hn : c.toNat = 10
  · rw [if_neg hb, if_neg ht, if_pos hn, heq (d := '\n') hn]
    exact Or.inl ⟨_, rfl, fun _ => rfl⟩
  by_cases hf : c.toNat = 12
  · rw [if_neg hb, if_neg ht, if_neg hn, if_pos hf, heq (d := '\x0c') hf]
    exact Or.inl ⟨_, rfl, fun _ => rfl⟩
  by_cases hr : c.toNat = 13
  · rw [if_neg hb, if_neg ht, if_neg hn, if_neg hf, if_pos hr, heq (d := '\r') hr]
    exact Or.inl ⟨_, rfl, fun _ => rfl⟩
  rw [if_neg hb, if_neg ht, if_neg hn, if_neg hf, if_neg hr]
  by_cases hcontrol : c.toNat < 32
  · rw [if_pos hcontrol]
    exact Or.inl ⟨_, rfl, fun cs => readUnits_control hcontrol cs⟩
  · rw [if_neg hcontrol]
    exact Or.inr ⟨rfl, hquote, hslash, hcontrol⟩

/-- A character is read back from how it is written. -/
theorem readQuoted_escaped (b : Char) (bound : List Char) (c : Char) (cs : List Char) :
    readQuoted (b :: bound) (escaped c ++ cs) =
      (readQuoted bound cs).map fun p => (c :: p.1, p.2) := by
  rcases escaped_cases c with ⟨e, he, hread⟩ | ⟨hself, hquote, hslash, hcontrol⟩
  · rw [he, List.cons_append, readQuoted]
    simp only [hread, bind, Except.bind]
    cases readQuoted bound cs <;> rfl
  · rw [hself, List.cons_append, List.nil_append, readQuoted]
    simp only [if_neg hquote, if_neg hslash, if_neg hcontrol, bind, Except.bind]
    cases readQuoted bound cs <;> rfl

/-- Escaped characters are read back up to the closing quote. -/
theorem readQuoted_flatMap_escaped (cs bound rest : List Char) (h : cs.length < bound.length) :
    readQuoted bound (cs.flatMap escaped ++ '"' :: rest) = .ok (cs, rest) := by
  induction cs generalizing bound with
  | nil =>
      cases bound with
      | nil => simp at h
      | cons b bound => simp [readQuoted]
  | cons c cs ih =>
      cases bound with
      | nil => simp at h
      | cons b bound =>
          have hrest := ih bound (by simpa using h)
          rw [List.flatMap_cons, List.append_assoc, readQuoted_escaped, hrest]
          rfl

/-- No character is lost by the escapes. -/
theorem length_le_flatMap_escaped (cs : List Char) : cs.length ≤ (cs.flatMap escaped).length := by
  induction cs with
  | nil => simp
  | cons c cs ih =>
      have hpos : 0 < (escaped c).length := by
        rcases escaped_cases c with ⟨e, he, -⟩ | ⟨hself, -⟩
        · simp [he]
        · simp [hself]
      rw [List.flatMap_cons, List.length_append, List.length_cons]
      omega

/-- A text is read back from behind its opening quote. -/
theorem readText_escaped (s : String) (rest : List Char) :
    readText (s.toList.flatMap escaped ++ '"' :: rest) = .ok (s, rest) := by
  have hlen := length_le_flatMap_escaped s.toList
  rw [readText, readQuoted_flatMap_escaped]
  · simp [bind, Except.bind, pure, Except.pure]
  · rw [List.length_append, List.length_cons]
    omega

/-- A text is read back. -/
theorem undoes_writeString (kind : String) (s : String) :
    Undoes (readString kind) (writeString s) s := by
  intro l level
  refine ⟨⟨'"', _, rfl, rfl, by decide⟩, ?_⟩
  intro blanks rest hblanks _
  have htext : writeString s l level ++ rest =
      '"' :: (s.toList.flatMap escaped ++ '"' :: rest) := by
    simp [writeString, writeText]
  rw [readString, skipBlank_append hblanks, htext, skipBlank_cons rfl]
  exact readText_escaped s rest

/-! ## Lists -/

/-- Joined parts: the first one, and each other one behind a comma. -/
theorem joined_cons (p : List Char) (ps : List (List Char)) :
    joined (p :: ps) = p ++ ps.flatMap fun q => ',' :: q := by
  induction ps generalizing p with
  | nil => simp [joined]
  | cons q qs ih => rw [joined, ih, List.flatMap_cons, List.cons_append]

/-- What follows the first part of a bracket: the other parts, the closing bracket, and the rest. -/
def afterFirst (closing : Char) (l : Layout) (level : Nat) (parts : List (List Char))
    (rest : List Char) : List Char :=
  (parts.flatMap fun p => ',' :: (lineBreak l (level + 1) ++ p)) ++
    (lineBreak l level ++ closing :: rest)

/-- A bracket with parts is its first part and what follows it. -/
theorem bracketed_cons (opening closing : Char) (l : Layout) (level : Nat) (p : List Char)
    (ps : List (List Char)) (rest : List Char) :
    bracketed opening closing l level (p :: ps) ++ rest =
      opening :: (lineBreak l (level + 1) ++ (p ++ afterFirst closing l level ps rest)) := by
  simp [bracketed, joined_cons, afterFirst, List.flatMap_map]

/-- What follows the first part does not extend a number. -/
theorem endsNumber_afterFirst {closing : Char} (h : closing = ']' ∨ closing = '\x7d') (l : Layout)
    (level : Nat) (parts : List (List Char)) (rest : List Char) :
    EndsNumber (afterFirst closing l level parts rest) := by
  cases parts with
  | nil =>
      refine endsNumber_lineBreak (endsNumber_cons ?_) l level
      rcases h with rfl | rfl <;> decide
  | cons p ps => exact endsNumber_cons (by decide)

/-- The text behind the first part is longer than the number of parts in it, so it allows for all of
them as a bound. -/
theorem length_le_afterFirst (closing : Char) (l : Layout) (level : Nat) (parts : List (List Char))
    (rest : List Char) : parts.length < (afterFirst closing l level parts rest).length := by
  induction parts with
  | nil =>
      simp only [afterFirst, List.flatMap_nil, List.nil_append, List.length_append,
        List.length_cons, List.length_nil]
      omega
  | cons p ps ih =>
      have hcons : afterFirst closing l level (p :: ps) rest =
          ',' :: (lineBreak l (level + 1) ++ (p ++ afterFirst closing l level ps rest)) := by
        simp [afterFirst]
      rw [hcons, List.length_cons, List.length_cons, List.length_append, List.length_append]
      omega

/-- The rest of a list is read item by item. -/
theorem readItems_afterFirst {α : Type} {item : Reader α} {l : Layout} {level : Nat}
    {parts : List (List Char)} {as : List α} (h : List.Forall₂ (Takes item) parts as)
    (rest bound : List Char) (hbound : parts.length < bound.length) :
    readItems item bound (afterFirst ']' l level parts rest) = .ok (as, rest) := by
  have hblank : ∀ level, ∀ c ∈ lineBreak l level, isBlank c = true :=
    fun _ _ hc => isBlank_of_mem_lineBreak hc
  induction h generalizing bound with
  | nil =>
      cases bound with
      | nil => simp at hbound
      | cons b bound =>
          rw [readItems, afterFirst, List.flatMap_nil, List.nil_append,
            skipBlank_append (hblank level), skipBlank_cons rfl]
          rfl
  | @cons p a ps as hp _ ih =>
      cases bound with
      | nil => simp at hbound
      | cons b bound =>
          have hrest := ih bound (by simpa using hbound)
          rcases hp.begins with ⟨c, cs, rfl, hc, hclose⟩
          have hitem := hp.reads [] (afterFirst ']' l level ps rest) (by simp)
            (endsNumber_afterFirst (Or.inl rfl) l level ps rest)
          have hcons : afterFirst ']' l level ((c :: cs) :: ps) rest =
              ',' :: (lineBreak l (level + 1) ++
                (c :: (cs ++ afterFirst ']' l level ps rest))) := by
            simp [afterFirst]
          rw [List.nil_append, List.cons_append] at hitem
          rw [readItems, hcons, skipBlank_cons rfl]
          simp only [skipBlank_append (hblank (level + 1)), skipBlank_cons hc, hitem, hrest, bind,
            Except.bind]
          rfl

/-- A list is read back if its items are. -/
theorem undoes_writeList {α : Type} {item : Reader α} {ws : List Writer} {as : List α}
    (h : List.Forall₂ (Undoes item) ws as) : Undoes (readList item) (writeList ws) as := by
  intro l level
  have hparts : List.Forall₂ (Takes item) (ws.map fun w => w l (level + 1)) as := by
    induction h with
    | nil => exact .nil
    | cons hw _ ih => exact .cons (hw l (level + 1)) ih
  rw [writeList]
  generalize ws.map (fun w => w l (level + 1)) = parts at hparts
  cases hparts with
  | nil =>
      refine ⟨⟨'[', _, rfl, rfl, by decide⟩, ?_⟩
      intro blanks rest hblanks _
      rw [readList, skipBlank_append hblanks]
      rfl
  | @cons p a ps as hp hps =>
      have htext := bracketed_cons '[' ']' l level p ps
      refine ⟨⟨'[', _, by simpa using htext [], rfl, by decide⟩, ?_⟩
      intro blanks rest hblanks _
      rcases hp.begins with ⟨c, cs, rfl, hc, hclose⟩
      have hitem := hp.reads [] (afterFirst ']' l level ps rest) (by simp)
        (endsNumber_afterFirst (Or.inl rfl) l level ps rest)
      have hitems : readItems item (afterFirst ']' l level ps rest)
          (afterFirst ']' l level ps rest) = .ok (as, rest) :=
        readItems_afterFirst hps rest _ (length_le_afterFirst ']' l level ps rest)
      rw [List.nil_append, List.cons_append] at hitem
      rw [readList, skipBlank_append hblanks, htext, skipBlank_cons rfl]
      simp only [skipBlank_append fun _ hc => isBlank_of_mem_lineBreak hc, List.cons_append,
        skipBlank_cons hc, hitem, hitems, bind, Except.bind]
      rfl

/-! ## Records -/

/-- The colon of either layout is read, and only blanks may be left before the value. -/
theorem readColon_colon (l : Layout) (rest : List Char) :
    ∃ blanks, (∀ c ∈ blanks, isBlank c = true) ∧
      readColon (colon l ++ rest) = .ok (blanks ++ rest) := by
  cases l with
  | compact => exact ⟨[], by simp, rfl⟩
  | indented => exact ⟨[' '], by simp [isBlank], rfl⟩

/-- A field undoes what its reader undoes. -/
theorem undoes_ofReader {σ α : Type} {get : σ → Option α} {set : σ → α → σ} {value : Reader α}
    {w : Writer} {a : α} (h : Undoes value w a) (key : String) (d : σ) :
    Undoes ((Field.ofReader key get set value).read d) w (set d a) := by
  intro l level
  refine ⟨(h l level).begins, ?_⟩
  intro blanks rest hblanks hrest
  simp only [Field.ofReader, (h l level).reads blanks rest hblanks hrest]
  rfl

namespace RecordForm

variable {σ α : Type}

/-- Written fields fill a record that is being read, each its own field, one after the other. -/
inductive Fills (f : RecordForm σ α) : σ → List (String × Writer) → σ → Prop where
  | done (d : σ) : Fills f d [] d
  | field {x : Field σ} {w : Writer} {d d' d'' : σ} {fields : List (String × Writer)}
      (key : String) (hfind : (f.fields.find? fun x => x.key == key) = some x)
      (hset : x.isSet d = false) (hread : Undoes (x.read d) w d') (hrest : Fills f d' fields d'') :
      Fills f d ((key, w) :: fields) d''

/-- The text of a written field, from behind the opening quote of its key. -/
def fieldText (l : Layout) (level : Nat) (field : String × Writer) : List Char :=
  field.1.toList.flatMap escaped ++ '"' :: (colon l ++ field.2 l (level + 1))

/-- A written field is read into its place. -/
theorem readField_fieldText {f : RecordForm σ α} {x : Field σ} {key : String} {w : Writer}
    {d d' : σ} (hfind : (f.fields.find? fun x => x.key == key) = some x)
    (hset : x.isSet d = false) (hread : Undoes (x.read d) w d') (l : Layout) (level : Nat)
    {rest : List Char} (hrest : EndsNumber rest) :
    f.readField d (fieldText l level (key, w) ++ rest) = .ok (d', rest) := by
  have htext : fieldText l level (key, w) ++ rest =
      key.toList.flatMap escaped ++ '"' :: (colon l ++ (w l (level + 1) ++ rest)) := by
    simp [fieldText]
  rcases readColon_colon l (w l (level + 1) ++ rest) with ⟨blanks, hblanks, hcolon⟩
  have hvalue := (hread l (level + 1)).reads blanks rest hblanks hrest
  rw [readField, htext, readText_escaped]
  simp only [bind, Except.bind, hfind, hset, hcolon]
  exact hvalue

/-- The text of written fields as the parts of an object. -/
def fieldParts (l : Layout) (level : Nat) (fields : List (String × Writer)) : List (List Char) :=
  fields.map fun field => '"' :: fieldText l level field

/-- An object is the bracket of its field texts. -/
theorem writeObject_eq (fields : List (String × Writer)) (l : Layout) (level : Nat) :
    writeObject fields l level = bracketed '\x7b' '\x7d' l level (fieldParts l level fields) := by
  rw [writeObject, fieldParts]
  congr 1
  refine List.map_congr_left fun field _ => ?_
  simp [fieldText, writeText]

/-- The fields behind the first one fill the record up to the closing brace. -/
theorem readFields_afterFirst {f : RecordForm σ α} {fields : List (String × Writer)} {d d' : σ}
    (h : f.Fills d fields d') (l : Layout) (level : Nat) (rest bound : List Char)
    (hbound : fields.length < bound.length) :
    f.readFields bound d (afterFirst '\x7d' l level (fieldParts l level fields) rest) =
      .ok (d', rest) := by
  have hblank : ∀ level, ∀ c ∈ lineBreak l level, isBlank c = true :=
    fun _ _ hc => isBlank_of_mem_lineBreak hc
  induction h generalizing bound with
  | done d =>
      cases bound with
      | nil => simp at hbound
      | cons b bound =>
          rw [readFields, fieldParts, List.map_nil, afterFirst, List.flatMap_nil, List.nil_append,
            skipBlank_append (hblank level), skipBlank_cons rfl]
          rfl
  | @field x w d d' d'' fields key hfind hset hread _ ih =>
      cases bound with
      | nil => simp at hbound
      | cons b bound =>
          have hrest := ih bound (by simpa using hbound)
          have hfield := readField_fieldText hfind hset hread l level
            (endsNumber_afterFirst (Or.inr rfl) l level (fieldParts l level fields) rest)
          have hcons : afterFirst '\x7d' l level (fieldParts l level ((key, w) :: fields)) rest =
              ',' :: (lineBreak l (level + 1) ++ ('"' :: (fieldText l level (key, w) ++
                afterFirst '\x7d' l level (fieldParts l level fields) rest))) := by
            simp [afterFirst, fieldParts]
          rw [readFields, hcons, skipBlank_cons rfl]
          simp only [skipBlank_append (hblank (level + 1)), skipBlank_cons (c := '"') rfl, hfield,
            bind, Except.bind]
          exact hrest

/-- A value that is made of the fields is made in front of any text. -/
theorem finishAt_of_ok {f : RecordForm σ α} {d : σ} {a : α} (h : f.finish d = .ok a)
    (rest : List Char) : f.finishAt d rest = .ok a := by
  rw [finishAt, h]
  rfl

/-- A record is read back from its fields in order, if it can be made of what they fill in. -/
theorem undoes_writeObject {f : RecordForm σ α} {fields : List (String × Writer)} {d : σ} {a : α}
    (h : f.Fills f.start fields d) (hfinish : f.finish d = .ok a) :
    Undoes f.read (writeObject fields) a := by
  intro l level
  rw [writeObject_eq]
  cases h with
  | done =>
      refine ⟨⟨'\x7b', _, rfl, rfl, by decide⟩, ?_⟩
      intro blanks rest hblanks _
      have htext : bracketed '\x7b' '\x7d' l level (fieldParts l level []) ++ rest =
          '\x7b' :: '\x7d' :: rest := rfl
      rw [read, skipBlank_append hblanks, htext, skipBlank_cons rfl]
      simp only [readObject, skipBlank_cons (c := '\x7d') rfl, finishAt_of_ok hfinish, bind,
        Except.bind]
      rfl
  | @field x w _ d' _ fields key hfind hset hread hrest =>
      have htext := bracketed_cons '\x7b' '\x7d' l level ('"' :: fieldText l level (key, w))
        (fieldParts l level fields)
      refine ⟨⟨'\x7b', _, (List.append_nil _).symm.trans (htext []), rfl, by decide⟩, ?_⟩
      intro blanks rest hblanks _
      have hfield := readField_fieldText hfind hset hread l level
        (endsNumber_afterFirst (Or.inr rfl) l level (fieldParts l level fields) rest)
      have hlen := length_le_afterFirst '\x7d' l level (fieldParts l level fields) rest
      have hfields := readFields_afterFirst hrest l level rest
        (afterFirst '\x7d' l level (fieldParts l level fields) rest)
        (by simpa [fieldParts] using hlen)
      have hparts : fieldParts l level ((key, w) :: fields) =
          ('"' :: fieldText l level (key, w)) :: fieldParts l level fields := rfl
      rw [read, skipBlank_append hblanks, hparts, htext, skipBlank_cons rfl]
      simp only [readObject, skipBlank_append fun _ hc => isBlank_of_mem_lineBreak hc,
        List.cons_append, skipBlank_cons (c := '"') rfl, hfield, hfields, finishAt_of_ok hfinish,
        bind, Except.bind]
      rfl

end RecordForm

/-! ## Documents -/

/-- A written document is read back in either layout. -/
theorem readDocument_document {α : Type} {r : Reader α} {w : Writer} {a : α} (h : Undoes r w a)
    (l : Layout) : readDocument r (document w l).toList = .ok a := by
  have hread := (h l 0).reads [] [] (by simp) endsNumber_nil
  rw [List.nil_append, List.append_nil] at hread
  rw [readDocument, document, String.toList_ofList, hread]
  rfl

end Json
end CoverageWindows
