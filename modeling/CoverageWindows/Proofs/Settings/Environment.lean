import CoverageWindows.Proofs.Files.Inside
import CoverageWindows.Settings

/-!
# Settings of an environment

Two variables name a value, one an interface and the other one a truth value.  Each value has
spellings, which are compared with what is set after blanks at its ends are taken away and letters
are made small.  A variable that is not set leaves the default.  So does one that is set to bytes
that are no text; every text that is no spelling is refused.

Main results:

- Theorems `parses_abi` and `parses_flag`: which texts are read, as what, and which are refused.
- Theorem `ofEnvironment_eq_ok_iff`: what an environment asks for.
- Theorem `settings_of_environment`: which settings, or which fault, each environment gives.
- Theorem `bytes_count_as_unset`: bytes that are no text are not refused.
-/

namespace CoverageWindows

/-- The texts that name an interface. -/
def Abi.spellings : Abi → List String
  | llvm17 => ["llvm17", "17"]
  | llvm19 => ["llvm19", "19"]

namespace Settings

/-- The texts that name a truth value. -/
def flagSpellings : Bool → List String
  | true => ["1", "true", "yes", "on"]
  | false => ["0", "false", "no", "off"]

section Variables

variable {α : Type}

/-! ## Reading a variable -/

/-- What a variable asks for: the default where it is not set or no text, else the value that its
text spells. -/
inductive Asks (spellings : α → List String) (default : α) : Option Bytes → α → Prop where
  | unset : Asks spellings default none default
  | noText {b : Bytes} (h : ∀ text, Text.toBytes text ≠ b) :
      Asks spellings default (some b) default
  | spelled {text : String} {a : α} (h : Abi.settingText text ∈ spellings a) :
      Asks spellings default (some (Text.toBytes text)) a

/-- A variable is set to a text that spells no value, which is the failure that comes of it. -/
def Refuses (spellings : α → List String) (fault : String → SettingFault) (value : Option Bytes)
    (f : Failure) : Prop :=
  ∃ text, value = some (Text.toBytes text) ∧ (∀ a, Abi.settingText text ∉ spellings a) ∧
    f = .badSetting (fault (Abi.settingText text))

/-- A variable is not set, or set to a text that spells a value. -/
def Accepts (spellings : α → List String) (value : Option Bytes) : Prop :=
  value = none ∨ ∃ text a, value = some (Text.toBytes text) ∧ Abi.settingText text ∈ spellings a

/-- A reader of texts gives the values that they spell, and one fault for every other text. -/
structure Parses (parse : String → Except SettingFault α) (spellings : α → List String)
    (fault : String → SettingFault) : Prop where
  ok : ∀ text a, parse text = .ok a ↔ Abi.settingText text ∈ spellings a
  error : ∀ text f, parse text = .error f ↔
    (∀ a, Abi.settingText text ∉ spellings a) ∧ f = fault (Abi.settingText text)

/-- Interfaces are read from their spellings and from nothing else. -/
theorem parses_abi : Parses abi? Abi.spellings .unknownAbi := by
  have hread : ∀ text a, Abi.ofText? text = some a ↔ Abi.settingText text ∈ a.spellings := by
    intro text a
    rw [Abi.ofText?]
    generalize Abi.settingText text = t
    cases a <;> simp only [Abi.spellings, List.mem_cons, List.not_mem_nil, or_false] <;> grind
  refine ⟨fun text a => ?_, fun text f => ?_⟩
  · rw [← hread, abi?]
    cases Abi.ofText? text <;> simp
  · simp only [← hread, abi?]
    cases Abi.ofText? text <;> simp [eq_comm]

theorem parses_flag : Parses flag? flagSpellings .notBoolean := by
  refine ⟨fun text b => ?_, fun text f => ?_⟩
  · rw [flag?]
    generalize Abi.settingText text = t
    cases b <;> simp only [flagSpellings] <;> grind
  · rw [flag?]
    generalize Abi.settingText text = t
    simp only [Bool.forall_bool, flagSpellings]
    grind

/-- The value of a variable by a reader of texts. -/
def valueOf (parse : String → Except SettingFault α) (default : α) (value : Option Bytes) :
    Except Failure α :=
  match textOf value with
  | some text => (parse text).mapError Failure.badSetting
  | none => .ok default

theorem mapError_eq_ok_iff {ε ε' : Type} {f : ε → ε'} {x : Except ε α} {a : α} :
    x.mapError f = .ok a ↔ x = .ok a := by
  cases x with
  | error e =>
      change Except.error (f e) = .ok a ↔ _
      simp
  | ok b =>
      change Except.ok b = .ok a ↔ _
      simp

theorem mapError_eq_error_iff {ε ε' : Type} {f : ε → ε'} {x : Except ε α} {e' : ε'} :
    x.mapError f = .error e' ↔ ∃ e, x = .error e ∧ e' = f e := by
  cases x with
  | error e =>
      change Except.error (f e) = .error e' ↔ _
      simp [eq_comm]
  | ok b =>
      change Except.ok b = .error e' ↔ _
      simp

/-- A value counts as a text if it is the bytes of that text. -/
theorem textOf_eq_some_iff (value : Option Bytes) (text : String) :
    textOf value = some text ↔ value = some (Text.toBytes text) := by
  cases value with
  | none => simp [textOf]
  | some b => rw [textOf, Option.bind_some, Text.ofBytes?_eq_some_iff, Option.some_inj, eq_comm]

/-- A value that is the bytes of no text counts as unset. -/
theorem textOf_eq_none_iff (value : Option Bytes) :
    textOf value = none ↔ ∀ text, value ≠ some (Text.toBytes text) := by
  rw [Option.eq_none_iff_forall_ne_some]
  exact forall_congr' fun text => not_congr (textOf_eq_some_iff value text)

namespace Parses

variable {parse : String → Except SettingFault α} {spellings : α → List String}
  {fault : String → SettingFault} {default : α} {value : Option Bytes}

/-- A setting has the value that is asked for. -/
theorem valueOf_eq_ok_iff (h : Parses parse spellings fault) (a : α) :
    valueOf parse default value = .ok a ↔ Asks spellings default value a := by
  rw [valueOf]
  cases htext : textOf value with
  | none =>
      have hnone := (textOf_eq_none_iff value).1 htext
      constructor
      · intro heq
        obtain rfl := Except.ok.inj heq
        cases value with
        | none => exact .unset
        | some b => exact .noText fun text hb => hnone text (hb ▸ rfl)
      · rintro (_ | _ | _)
        · rfl
        · rfl
        · exact absurd rfl (hnone _)
  | some text =>
      obtain rfl := (textOf_eq_some_iff value text).1 htext
      rw [mapError_eq_ok_iff, h.ok]
      constructor
      · exact .spelled
      · intro hasks
        generalize hb : some (Text.toBytes text) = value at hasks
        cases hasks with
        | unset => cases hb
        | noText hno => exact absurd (Option.some.inj hb) (hno text)
        | spelled hs => rwa [Text.toBytes_injective (Option.some.inj hb)]

/-- A setting is refused for a text that is no spelling. -/
theorem valueOf_eq_error_iff (h : Parses parse spellings fault) (default : α) (f : Failure) :
    valueOf parse default value = .error f ↔ Refuses spellings fault value f := by
  rw [valueOf]
  cases htext : textOf value with
  | none =>
      have hnone := (textOf_eq_none_iff value).1 htext
      constructor
      · exact nofun
      · rintro ⟨text, hvalue, -⟩
        exact absurd hvalue (hnone text)
  | some text =>
      obtain rfl := (textOf_eq_some_iff value text).1 htext
      rw [mapError_eq_error_iff]
      constructor
      · rintro ⟨g, hg, rfl⟩
        obtain ⟨hno, rfl⟩ := (h.error text g).1 hg
        exact ⟨text, rfl, hno, rfl⟩
      · rintro ⟨text', hvalue, hno, rfl⟩
        obtain rfl := Text.toBytes_injective (Option.some.inj hvalue)
        exact ⟨_, (h.error text _).2 ⟨hno, rfl⟩, rfl⟩

end Parses

/-- A text that is set asks for a value exactly where it is accepted. -/
theorem accepts_iff_of_text {spellings : α → List String} {default : α} {value : Option Bytes}
    (h : ∀ b, value = some b → ∃ text, Text.toBytes text = b) :
    (∃ a, Asks spellings default value a) ↔ Accepts spellings value := by
  constructor
  · rintro ⟨a, hasks⟩
    cases hasks with
    | unset => exact .inl rfl
    | noText hno =>
        rcases h _ rfl with ⟨text, htext⟩
        exact absurd htext (hno text)
    | spelled hs => exact .inr ⟨_, _, rfl, hs⟩
  · rintro (rfl | ⟨text, a, rfl, hs⟩)
    · exact ⟨default, .unset⟩
    · exact ⟨a, .spelled hs⟩

end Variables

/-! ## Environments -/

/-- The folder that an environment asks for: any bytes but none, else the folder that the system's
variable names, else `/tmp`. -/
inductive AsksFolder (e : Environment) : Bytes → Prop where
  | named {f : Bytes} (h : e.windowFolder = some f) (hne : f ≠ []) : AsksFolder e f
  | system {f : Bytes} (h : e.windowFolder = none ∨ e.windowFolder = some [])
      (hf : e.temporaryFolder = some f) : AsksFolder e f
  | last (h : e.windowFolder = none ∨ e.windowFolder = some []) (hf : e.temporaryFolder = none) :
      AsksFolder e (Text.toBytes "/tmp")

/-- The folder of the settings that an environment gives. -/
def folderOf (e : Environment) : Bytes :=
  match e.windowFolder with
  | some f => if f.isEmpty then temporaryFolder e else f
  | none => temporaryFolder e

theorem folderOf_eq_iff (e : Environment) (f : Bytes) : folderOf e = f ↔ AsksFolder e f := by
  have hsystem : ∀ f, (e.windowFolder = none ∨ e.windowFolder = some []) →
      (temporaryFolder e = f ↔ AsksFolder e f) := by
    intro f h
    constructor
    · rintro rfl
      rw [temporaryFolder]
      cases hf : e.temporaryFolder with
      | none => exact .last h hf
      | some g => exact .system h hf
    · rintro (⟨h', hne⟩ | ⟨-, hf⟩ | ⟨-, hf⟩)
      · rcases h with h | h <;> simp [h, eq_comm, hne] at h'
      · simp [temporaryFolder, hf]
      · exact temporaryFolder_eq e hf
  rw [folderOf]
  cases hw : e.windowFolder with
  | none => exact hsystem f (.inl hw)
  | some g =>
      dsimp only
      split
      · rename_i hg
        exact hsystem f (.inr (by rw [hw, List.isEmpty_iff.1 hg]))
      · rename_i hg
        have hne : g ≠ [] := fun h => hg (List.isEmpty_iff.2 h)
        constructor
        · rintro rfl
          exact .named hw hne
        · rintro (⟨h, -⟩ | ⟨h, -⟩ | ⟨h, -⟩)
          · exact Option.some.inj (hw.symm.trans h)
          · simp [hw, hne] at h
          · simp [hw, hne] at h

/-- The variables are read one after the other, and the first fault ends the reading. -/
theorem ofEnvironment_eq (compiler : Option String) (e : Environment) :
    ofEnvironment compiler e =
      (valueOf abi? (Abi.ofBuild compiler) e.abi).bind fun a =>
        (valueOf flag? true e.loadBaseline).bind fun b =>
          .ok ⟨folderOf e, a, profileVariable, b⟩ := by
  rw [ofEnvironment, valueOf, valueOf]
  cases textOf e.abi <;> cases textOf e.loadBaseline <;> rfl

/-- What an environment asks for. -/
theorem ofEnvironment_eq_ok_iff (compiler : Option String) (e : Environment) (s : Settings) :
    ofEnvironment compiler e = .ok s ↔
      AsksFolder e s.windowFolder ∧ Asks Abi.spellings (Abi.ofBuild compiler) e.abi s.abi ∧
        s.variableName = "LLVM_PROFILE_FILE" ∧
        Asks flagSpellings true e.loadBaseline s.loadBaseline := by
  rw [ofEnvironment_eq, ← parses_abi.valueOf_eq_ok_iff, ← parses_flag.valueOf_eq_ok_iff,
    ← folderOf_eq_iff]
  rcases s with ⟨folder, abi, variableName, loadBaseline⟩
  cases valueOf abi? (Abi.ofBuild compiler) e.abi with
  | error f => simp [Except.bind]
  | ok a =>
      cases valueOf flag? true e.loadBaseline with
      | error f => simp [Except.bind]
      | ok b => simp [Except.bind, profileVariable, eq_comm]

/-- The first of the two variables that is refused tells the failure. -/
theorem ofEnvironment_eq_error_iff (compiler : Option String) (e : Environment) (f : Failure) :
    ofEnvironment compiler e = .error f ↔
      Refuses Abi.spellings .unknownAbi e.abi f ∨
        (∀ g, ¬ Refuses Abi.spellings .unknownAbi e.abi g) ∧
          Refuses flagSpellings .notBoolean e.loadBaseline f := by
  simp only [← parses_abi.valueOf_eq_error_iff (Abi.ofBuild compiler),
    ← parses_flag.valueOf_eq_error_iff true, ofEnvironment_eq]
  cases valueOf abi? (Abi.ofBuild compiler) e.abi with
  | error g => simp [Except.bind]
  | ok a => cases valueOf flag? true e.loadBaseline <;> simp [Except.bind]

/-- There are settings if both the interface and the flag can be read. -/
theorem exists_ofEnvironment_iff (compiler : Option String) (e : Environment) :
    (∃ s, ofEnvironment compiler e = .ok s) ↔
      (∃ a, Asks Abi.spellings (Abi.ofBuild compiler) e.abi a) ∧
        ∃ b, Asks flagSpellings true e.loadBaseline b := by
  simp only [ofEnvironment_eq_ok_iff]
  constructor
  · rintro ⟨s, -, ha, -, hb⟩
    exact ⟨⟨s.abi, ha⟩, ⟨s.loadBaseline, hb⟩⟩
  · rintro ⟨⟨a, ha⟩, ⟨b, hb⟩⟩
    exact ⟨⟨folderOf e, a, "LLVM_PROFILE_FILE", b⟩, (folderOf_eq_iff e _).1 rfl, ha, rfl, hb⟩

/-- Which settings an environment gives, and which failure where it gives none.  Each value is the
one that its variable spells, and the default where the variable is not set or is set to bytes that
are no text; the default interface is that of the build, whatever compiler it tells.  The folder may
be any bytes but none.  Among the environments whose variables are text, those give settings in
which each of the two variables is not set or spells a value. -/
theorem settings_of_environment (compiler : Option String) (e : Environment) :
    (∀ s, ofEnvironment compiler e = .ok s ↔
        AsksFolder e s.windowFolder ∧ Asks Abi.spellings (Abi.ofBuild compiler) e.abi s.abi ∧
          s.variableName = "LLVM_PROFILE_FILE" ∧
          Asks flagSpellings true e.loadBaseline s.loadBaseline) ∧
      (∀ f, ofEnvironment compiler e = .error f ↔
        Refuses Abi.spellings .unknownAbi e.abi f ∨
          (∀ g, ¬ Refuses Abi.spellings .unknownAbi e.abi g) ∧
            Refuses flagSpellings .notBoolean e.loadBaseline f) ∧
      ((∀ b, e.abi = some b ∨ e.loadBaseline = some b → ∃ text, Text.toBytes text = b) →
        ((∃ s, ofEnvironment compiler e = .ok s) ↔
          Accepts Abi.spellings e.abi ∧ Accepts flagSpellings e.loadBaseline)) := by
  refine ⟨ofEnvironment_eq_ok_iff compiler e, ofEnvironment_eq_error_iff compiler e,
    fun htext => ?_⟩
  rw [exists_ofEnvironment_iff, accepts_iff_of_text fun b hb => htext b (.inl hb),
    accepts_iff_of_text fun b hb => htext b (.inr hb)]

/-- Bytes that are no text spell nothing, and yet they are not refused: the default stands, although
they begin like another value. -/
theorem bytes_count_as_unset :
    let value : Option Bytes := some (Text.toBytes "llvm17" ++ [0xFF])
    ¬ Accepts Abi.spellings value ∧
      ofEnvironment (some "19") ⟨none, value, none, none⟩ =
        .ok ⟨Text.toBytes "/tmp", .llvm19, "LLVM_PROFILE_FILE", true⟩ := by
  intro value
  have hno : Text.ofBytes? (Text.toBytes "llvm17" ++ [0xFF]) = none := by decide +kernel
  refine ⟨?_, ?_⟩
  · rintro (hunset | ⟨text, a, hvalue, -⟩)
    · exact Option.some_ne_none _ hunset
    · rw [Text.ofBytes?_eq_some_iff.2 (Option.some.inj hvalue).symm] at hno
      cases hno
  · rw [ofEnvironment_eq_ok_iff]
    refine ⟨.last (.inl rfl) rfl, .noText fun text htext => ?_, rfl, .unset⟩
    rw [Text.ofBytes?_eq_some_iff.2 htext] at hno
    cases hno

end Settings
end CoverageWindows
