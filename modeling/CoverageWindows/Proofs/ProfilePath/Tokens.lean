import CoverageWindows.ProfilePath
import Mathlib.Data.List.Infix
import Mathlib.Data.List.TakeWhile

/-!
# Tokens in profile paths

What it is for a path to have a module token or a token `%c`, said without the functions that look
for them, and what taking `%c` out leaves of a path: the pieces between the tokens, one behind the
other.  Two pieces can meet so that a new token `%c` comes up between them, but a module token stays
whole.

Main results:

- Theorem `hasModuleToken_iff`: a path has a module token if one stands somewhere in it.
- Theorem `hasModuleToken_prepare`: a path that was prepared has a module token.
- Theorem `exists_pieces`: what is left when `%c` is taken out of a path.
- Theorem `IsModuleToken.infix_withoutContinuous`: taking `%c` out keeps the module tokens.
- Theorem `infix_withoutContinuous_iff`: when taking `%c` out leaves one.
-/

namespace CoverageWindows
namespace ProfilePath

/-! ## Module tokens -/

/-- A percent sign, digits or none, and an `m`. -/
def IsModuleToken (t : List Char) : Prop :=
  ∃ digits, (∀ d ∈ digits, Decimal.isDigit d = true) ∧ t = '%' :: (digits ++ ['m'])

/-- A text starts with a token if one of the tokens is in front of it. -/
theorem startsToken_iff (s : List Char) :
    startsToken s = true ↔ ∃ t, IsModuleToken t ∧ t <+: s := by
  constructor
  · intro h
    rw [startsToken.eq_def] at h
    split at h
    · rename_i rest
      have hsplit := rest.takeWhile_append_dropWhile (p := Decimal.isDigit)
      rcases List.head?_eq_some_iff.1 (beq_iff_eq.1 h) with ⟨behind, hbehind⟩
      refine ⟨_, ⟨rest.takeWhile Decimal.isDigit, fun d => List.mem_takeWhile_imp, rfl⟩, behind, ?_⟩
      rw [List.cons_append, List.append_assoc, List.singleton_append, ← hbehind, hsplit]
    · cases h
  · rintro ⟨-, ⟨digits, hdigits, rfl⟩, behind, rfl⟩
    rw [List.cons_append, List.append_assoc, startsToken,
      List.dropWhile_append_of_pos hdigits]
    rfl

theorem hasModuleToken_cons (c : Char) (rest : List Char) :
    hasModuleToken (c :: rest) = (startsToken (c :: rest) || hasModuleToken rest) := rfl

/-- A path has a module token if one stands somewhere in it. -/
theorem hasModuleToken_iff (s : List Char) :
    hasModuleToken s = true ↔ ∃ t, IsModuleToken t ∧ t <:+: s := by
  induction s with
  | nil =>
      refine iff_of_false Bool.noConfusion ?_
      rintro ⟨-, ⟨digits, -, rfl⟩, h⟩
      simp at h
  | cons c rest ih =>
      rw [hasModuleToken_cons, Bool.or_eq_true, startsToken_iff, ih, ← exists_or]
      simp only [List.infix_cons_iff, and_or_left]

theorem startsToken_of_ne {c : Char} (hc : c ≠ '%') (rest : List Char) :
    startsToken (c :: rest) = false := by
  simp [startsToken, hc]

/-- A token stays one behind another text. -/
theorem hasModuleToken_append_left (a : List Char) {b : List Char} (h : hasModuleToken b = true) :
    hasModuleToken (a ++ b) = true := by
  induction a with
  | nil => exact h
  | cons c a ih => rw [List.cons_append, hasModuleToken_cons, ih, Bool.or_true]

/-- A text that has no percent sign, and does not end a token that began before it, adds no
token. -/
theorem hasModuleToken_append_right (a : List Char) {b : List Char} (hpercent : '%' ∉ b)
    (hhead : ∀ c, b.head? = some c → Decimal.isDigit c = false ∧ c ≠ 'm') :
    hasModuleToken (a ++ b) = hasModuleToken a := by
  have hafter : ∀ rest : List Char,
      (((rest ++ b).dropWhile Decimal.isDigit).head? == some 'm') =
        ((rest.dropWhile Decimal.isDigit).head? == some 'm') := by
    intro rest
    induction rest with
    | nil =>
        cases b with
        | nil => rfl
        | cons c b =>
            have hc := hhead c rfl
            simp [hc.1, hc.2]
    | cons c rest ih => by_cases hc : Decimal.isDigit c = true <;> simp [hc, ih]
  induction a with
  | nil =>
      clear hhead hafter
      induction b with
      | nil => rfl
      | cons c b ih =>
          rw [List.mem_cons, not_or] at hpercent
          rw [List.nil_append, hasModuleToken_cons, startsToken_of_ne (Ne.symm hpercent.1) b]
          exact ih hpercent.2
  | cons c a ih =>
      have hstarts : startsToken (c :: (a ++ b)) = startsToken (c :: a) := by
        by_cases hc : c = '%'
        · rw [hc]
          exact hafter a
        · rw [startsToken_of_ne hc, startsToken_of_ne hc]
      rw [List.cons_append, hasModuleToken_cons, hstarts, ih, hasModuleToken_cons]

/-- A path that was prepared has a module token. -/
theorem hasModuleToken_prepare (requested : List Char) :
    hasModuleToken (prepare requested).path = true := by
  have htoken : ∀ b, hasModuleToken (moduleToken ++ b) = true := fun _ => rfl
  have hname : ∀ name, hasModuleToken (nameWithToken name) = true := by
    intro name
    simp only [nameWithToken]
    split
    · rw [List.append_assoc]
      exact hasModuleToken_append_left _ (htoken _)
    · exact hasModuleToken_append_left _ (htoken [])
  rw [prepare]
  by_cases hkept : hasModuleToken (withoutContinuous requested) = true
  · simp [hkept]
  · simp only [hkept]
    exact hasModuleToken_append_left _ (hname _)

/-! ## Taking out `%c` -/

/-- The token that asks for a mapped file. -/
def continuousToken : List Char := ['%', 'c']

/-- The continuous mode is asked for by two characters. -/
theorem prefix_continuousToken_iff (c d : Char) (rest : List Char) :
    continuousToken <+: c :: d :: rest ↔ c = '%' ∧ d = 'c' := by
  simp [continuousToken, List.cons_prefix_cons, eq_comm]

theorem withoutContinuous_token (rest : List Char) :
    withoutContinuous (continuousToken ++ rest) = withoutContinuous rest := by
  simp [continuousToken, withoutContinuous]

theorem withoutContinuous_cons {c : Char} {rest : List Char}
    (h : ¬continuousToken <+: c :: rest) :
    withoutContinuous (c :: rest) = c :: withoutContinuous rest := by
  cases rest with
  | nil => rfl
  | cons d rest =>
      rw [prefix_continuousToken_iff] at h
      rw [withoutContinuous, if_neg h]

/-- Two texts without a token between them lose their tokens one by one. -/
theorem withoutContinuous_append (a : List Char) {b : List Char} (h : b.head? ≠ some 'c') :
    withoutContinuous (a ++ b) = withoutContinuous a ++ withoutContinuous b := by
  fun_induction withoutContinuous a with
  | case1 => rfl
  | case2 c =>
      rw [List.singleton_append, withoutContinuous_cons, List.singleton_append]
      cases b with
      | nil => simp [continuousToken, List.cons_prefix_cons]
      | cons d b =>
          rw [prefix_continuousToken_iff]
          rintro ⟨-, rfl⟩
          exact h rfl
  | case3 c d rest htoken ih =>
      rcases htoken with ⟨rfl, rfl⟩
      exact (withoutContinuous_token (rest ++ b)).trans ih
  | case4 c d rest htoken ih =>
      rw [← prefix_continuousToken_iff c d (rest ++ b)] at htoken
      rw [List.cons_append, List.cons_append, withoutContinuous_cons htoken, ← List.cons_append, ih,
        List.cons_append]

/-- A path without the token stays as it is. -/
theorem withoutContinuous_eq_self {s : List Char} (h : ¬continuousToken <:+: s) :
    withoutContinuous s = s := by
  fun_induction withoutContinuous s with
  | case1 => rfl
  | case2 => rfl
  | case3 c d rest htoken ih =>
      exact absurd ((prefix_continuousToken_iff c d rest).2 htoken).isInfix h
  | case4 c d rest htoken ih => rw [ih fun hrest => h (List.infix_cons hrest)]

/-- Leaving out tokens makes no text longer. -/
theorem length_withoutContinuous_le (s : List Char) :
    (withoutContinuous s).length ≤ s.length := by
  fun_induction withoutContinuous s with
  | case1 => exact Nat.le_refl _
  | case2 => exact Nat.le_refl _
  | case3 c d rest htoken ih =>
      rw [List.length_cons, List.length_cons]
      omega
  | case4 c d rest htoken ih =>
      rw [List.length_cons, List.length_cons (a := c)]
      omega

/-- A path with the token gets shorter. -/
theorem length_withoutContinuous_lt {s : List Char} (h : continuousToken <:+: s) :
    (withoutContinuous s).length < s.length := by
  rcases h with ⟨a, b, rfl⟩
  have hafter : (continuousToken ++ b).head? ≠ some 'c' := by simp [continuousToken]
  have hleft := length_withoutContinuous_le a
  have hright := length_withoutContinuous_le b
  rw [List.append_assoc, withoutContinuous_append a hafter, withoutContinuous_token]
  simp only [List.length_append, continuousToken, List.length_cons, List.length_nil]
  omega

/-- What is left when the token is taken out of a path: the pieces between the tokens, none of which
has one, one behind the other. -/
theorem exists_pieces (s : List Char) :
    ∃ pieces, pieces ≠ [] ∧ s = continuousToken.intercalate pieces ∧
      (∀ x ∈ pieces, ¬continuousToken <:+: x) ∧ withoutContinuous s = pieces.flatten := by
  fun_induction withoutContinuous s with
  | case1 => exact ⟨[[]], by simp, rfl, by simp [continuousToken], rfl⟩
  | case2 c =>
      refine ⟨[[c]], by simp, by simp, ?_, rfl⟩
      simp [continuousToken, List.infix_cons_iff, List.cons_prefix_cons]
  | case3 c d rest htoken ih =>
      rcases htoken with ⟨rfl, rfl⟩
      rcases ih with ⟨pieces, hne, hjoin, hplain, hflat⟩
      refine ⟨[] :: pieces, by simp, ?_, ?_, hflat⟩
      · rw [hjoin]
        cases pieces with
        | nil => exact absurd rfl hne
        | cons x pieces => simp [List.intercalate_cons_cons, continuousToken]
      · simpa [continuousToken] using hplain
  | case4 c d rest htoken ih =>
      rcases ih with ⟨pieces, hne, hjoin, hplain, hflat⟩
      cases pieces with
      | nil => exact absurd rfl hne
      | cons x pieces =>
          refine ⟨(c :: x) :: pieces, by simp, ?_, ?_, by simp [hflat]⟩
          · rw [hjoin]
            cases pieces <;> simp [List.intercalate_cons_cons]
          · rintro y hy hin
            rcases List.mem_cons.1 hy with rfl | hy
            · rcases List.infix_cons_iff.1 hin with hprefix | hin
              · -- a token at the head of the longer piece would be one at the head of the path
                rcases hprefix with ⟨after, hafter⟩
                obtain ⟨rfl, rfl⟩ := List.cons.inj hafter
                cases pieces <;> simp_all [List.intercalate_cons_cons]
              · exact hplain x (by simp) hin
            · exact hplain y (List.mem_cons_of_mem _ hy) hin

/-! ## Module tokens stay whole -/

/-- A text without a percent sign stays as it is in front of another text. -/
theorem withoutContinuous_append_of_plain {a : List Char} (ha : '%' ∉ a) (b : List Char) :
    withoutContinuous (a ++ b) = a ++ withoutContinuous b := by
  induction a with
  | nil => rfl
  | cons c a ih =>
      rw [List.mem_cons, not_or] at ha
      have hhead : ¬continuousToken <+: c :: (a ++ b) := by
        rintro ⟨after, hafter⟩
        exact ha.1 (List.cons.inj hafter).1
      rw [List.cons_append, withoutContinuous_cons hhead, ih ha.2, List.cons_append]

/-- A module token stays as it is in front of another text. -/
theorem IsModuleToken.withoutContinuous_left {t : List Char} (ht : IsModuleToken t)
    (b : List Char) : withoutContinuous (t ++ b) = t ++ withoutContinuous b := by
  rcases ht with ⟨digits, hdigits, rfl⟩
  have hplain : '%' ∉ digits ++ ['m'] := by
    intro hmem
    rcases List.mem_append.1 hmem with hdigit | hm
    · exact absurd (hdigits '%' hdigit) (by decide)
    · simp at hm
  have hhead : ¬continuousToken <+: '%' :: (digits ++ ['m'] ++ b) := by
    cases digits with
    | nil => simp [continuousToken, List.cons_prefix_cons]
    | cons d digits =>
        rw [List.cons_append, List.cons_append, prefix_continuousToken_iff]
        rintro ⟨-, rfl⟩
        exact absurd (hdigits 'c' (by simp)) (by decide)
  rw [List.cons_append, withoutContinuous_cons hhead, withoutContinuous_append_of_plain hplain,
    List.cons_append]

/-- Taking `%c` out keeps the module tokens. -/
theorem IsModuleToken.infix_withoutContinuous {t s : List Char} (ht : IsModuleToken t)
    (h : t <:+: s) : t <:+: withoutContinuous s := by
  rcases h with ⟨a, b, rfl⟩
  have hhead : (t ++ b).head? ≠ some 'c' := by
    rcases ht with ⟨digits, -, rfl⟩
    simp
  refine ⟨withoutContinuous a, withoutContinuous b, ?_⟩
  rw [List.append_assoc a, withoutContinuous_append a hhead,
    ht.withoutContinuous_left b, List.append_assoc]

/-! ## Tokens that come up -/

/-- A percent sign and a `c` that have a number of tokens `%c` between them. -/
def nested (n : Nat) : List Char :=
  '%' :: ((List.replicate n continuousToken).flatten ++ ['c'])

/-- A row of such tokens is left out as a whole. -/
theorem withoutContinuous_replicate (n : Nat) (rest : List Char) :
    withoutContinuous ((List.replicate n continuousToken).flatten ++ rest) =
      withoutContinuous rest := by
  induction n with
  | zero => rfl
  | succ n ih =>
      rw [List.replicate_succ, List.flatten_cons, List.append_assoc, withoutContinuous_token, ih]

/-- What is left begins with a `c` only behind tokens. -/
theorem exists_replicate_of_withoutContinuous {s rest : List Char}
    (h : withoutContinuous s = 'c' :: rest) :
    ∃ n behind, s = (List.replicate n continuousToken).flatten ++ 'c' :: behind := by
  fun_induction withoutContinuous s with
  | case1 => cases h
  | case2 c =>
      obtain ⟨rfl, -⟩ := List.cons.inj h
      exact ⟨0, [], rfl⟩
  | case3 c d behind htoken ih =>
      rcases htoken with ⟨rfl, rfl⟩
      rcases ih h with ⟨n, behind, rfl⟩
      exact ⟨n + 1, behind, rfl⟩
  | case4 c d behind htoken ih =>
      obtain ⟨rfl, -⟩ := List.cons.inj h
      exact ⟨0, d :: behind, rfl⟩

/-- Taking `%c` out leaves one exactly where a percent sign and a `c` had nothing but such tokens
between them. -/
theorem infix_withoutContinuous_iff (s : List Char) :
    continuousToken <:+: withoutContinuous s ↔ ∃ n, nested (n + 1) <:+: s := by
  constructor
  · intro h
    fun_induction withoutContinuous s with
    | case1 => simp [continuousToken] at h
    | case2 c => simp [continuousToken, List.infix_cons_iff, List.cons_prefix_cons] at h
    | case3 c d rest htoken ih =>
        rcases ih h with ⟨n, hn⟩
        exact ⟨n, List.infix_cons (List.infix_cons hn)⟩
    | case4 c d rest htoken ih =>
        rcases List.infix_cons_iff.1 h with hprefix | hinfix
        · -- the `c` of the token comes up behind tokens that were taken out
          rcases hprefix with ⟨after, hafter⟩
          obtain ⟨rfl, hbehind⟩ := List.cons.inj hafter
          rcases exists_replicate_of_withoutContinuous hbehind.symm with ⟨n, behind, hsplit⟩
          cases n with
          | zero => exact absurd ⟨rfl, (List.cons.inj hsplit).1⟩ htoken
          | succ n =>
              refine ⟨n, [], behind, ?_⟩
              rw [hsplit]
              simp [nested]
        · rcases ih hinfix with ⟨n, hn⟩
          exact ⟨n, List.infix_cons hn⟩
  · rintro ⟨n, a, b, rfl⟩
    have hsplit : a ++ nested (n + 1) ++ b =
        a ++ (['%'] ++ ((List.replicate (n + 1) continuousToken).flatten ++ 'c' :: b)) := by
      simp [nested]
    have hpercent : (['%'] ++ ((List.replicate (n + 1) continuousToken).flatten ++
        'c' :: b)).head? ≠ some 'c' := by simp
    have htokens : ((List.replicate (n + 1) continuousToken).flatten ++ 'c' :: b).head? ≠
        some 'c' := by simp [List.replicate_succ, continuousToken]
    have hlast : withoutContinuous ('c' :: b) = 'c' :: withoutContinuous b :=
      withoutContinuous_append_of_plain (a := ['c']) (by simp) b
    rw [hsplit, withoutContinuous_append a hpercent, withoutContinuous_append ['%'] htokens,
      withoutContinuous_replicate, hlast]
    exact ⟨withoutContinuous a, withoutContinuous b, by simp [continuousToken, withoutContinuous]⟩

end ProfilePath
end CoverageWindows
