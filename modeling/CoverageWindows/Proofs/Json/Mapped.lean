import CoverageWindows.Json.Reader
import Mathlib.Data.List.Forall2

/-!
# Readers that map what they read

Two readers may go along a text in the same way and differ only in what they make of it.  This
module carries such a difference from the items of a list to the list, and from the fields of a
record to the record: faults with their places, and what is left of the text, stay the same.

Main results:

- Theorem `Maps.readList`: lists are mapped item by item.
- Theorem `RecordForm.Maps.read`: a record is mapped if its fields and its making are.
-/

namespace CoverageWindows
namespace Json

/-- A reader reads what another one reads, mapped by a function. -/
def Maps {α β : Type} (r : Reader α) (s : Reader β) (g : α → β) : Prop :=
  ∀ cs, s cs = (r cs).map fun p => (g p.1, p.2)

theorem maps_self {α : Type} (r : Reader α) : Maps r r id := by
  intro cs
  cases r cs <;> rfl

/-! ## Lists -/

section Lists

variable {α β : Type} {r : Reader α} {s : Reader β} {g : α → β}

/-- The rest of a list is mapped item by item, whatever its bound. -/
theorem Maps.readItems (h : Maps r s g) (bound cs : List Char) :
    readItems s bound cs = (readItems r bound cs).map fun p => (p.1.map g, p.2) := by
  induction bound generalizing cs with
  | nil => rfl
  | cons b bound ih =>
      rw [Json.readItems, Json.readItems]
      split
      · rfl
      · rfl
      · split
        · rfl
        · rfl
        · rename_i c rest _ _
          rw [h (c :: rest)]
          cases r (c :: rest) with
          | error f => rfl
          | ok p =>
              simp only [Except.map, bind, Except.bind, ih p.2]
              cases Json.readItems r bound p.2 <;> rfl
      · rfl

/-- Lists are mapped item by item. -/
theorem Maps.readList (h : Maps r s g) : Maps (readList r) (readList s) (List.map g) := by
  intro cs
  rw [Json.readList, Json.readList]
  split
  · rfl
  · split
    · rfl
    · rfl
    · rename_i c rest _ _
      rw [h (c :: rest)]
      cases r (c :: rest) with
      | error f => rfl
      | ok p =>
          simp only [Except.map, bind, Except.bind, h.readItems p.2 p.2]
          cases Json.readItems r p.2 p.2 <;> rfl
  · rfl

end Lists

/-! ## Records -/

/-- A field of one record does to mapped drafts what a field of another record does to drafts. -/
structure Field.Maps {σ τ : Type} (m : σ → τ) (x : Field σ) (y : Field τ) : Prop where
  key : y.key = x.key
  isSet : ∀ d, y.isSet (m d) = x.isSet d
  read : ∀ d, Json.Maps (x.read d) (y.read (m d)) m

/-- Fields that keep what their readers read are mapped if the readers are, and if the two places
go along with that. -/
theorem Field.maps_ofReader {σ τ α β : Type} {m : σ → τ} {g : α → β} {r : Reader α} {s : Reader β}
    (key : String) {get : σ → Option α} {set : σ → α → σ} {get' : τ → Option β}
    {set' : τ → β → τ} (hget : ∀ d, get' (m d) = (get d).map g)
    (hset : ∀ d a, set' (m d) (g a) = m (set d a)) (h : Json.Maps r s g) :
    Field.Maps m (.ofReader key get set r) (.ofReader key get' set' s) := by
  refine ⟨rfl, ?_, ?_⟩
  · intro d
    simp [ofReader, hget]
  · intro d cs
    simp only [ofReader, h cs]
    cases r cs with
    | error f => rfl
    | ok p => simp [Except.map, hset]

namespace RecordForm

/-- One form of a record reads drafts as another one does, mapped, and makes of them what the other
one makes of them, mapped. -/
structure Maps {σ τ α β : Type} (f : RecordForm σ α) (f' : RecordForm τ β) (m : σ → τ)
    (g : α → β) : Prop where
  title : f'.title = f.title
  start : f'.start = m f.start
  fields : List.Forall₂ (Field.Maps m) f.fields f'.fields
  finish : ∀ d, f'.finish (m d) = (f.finish d).map g

variable {σ τ α β : Type} {f : RecordForm σ α} {f' : RecordForm τ β} {m : σ → τ} {g : α → β}

/-- A key is found in both lists of fields or in neither, and what it finds is mapped. -/
theorem find?_of_maps {xs : List (Field σ)} {ys : List (Field τ)}
    (h : List.Forall₂ (Field.Maps m) xs ys) (key : String) :
    (xs.find? (fun x => x.key == key) = none ∧ ys.find? (fun y => y.key == key) = none) ∨
      ∃ x y, Field.Maps m x y ∧ xs.find? (fun x => x.key == key) = some x ∧
        ys.find? (fun y => y.key == key) = some y := by
  induction h with
  | nil => exact Or.inl ⟨rfl, rfl⟩
  | @cons x y xs ys hxy _ ih =>
      by_cases hkey : (x.key == key) = true
      · have hkey' : (y.key == key) = true := by rwa [hxy.key]
        exact Or.inr ⟨x, y, hxy, List.find?_cons_of_pos hkey, List.find?_cons_of_pos hkey'⟩
      · have hkey' : ¬ (y.key == key) = true := by rwa [hxy.key]
        have hx : (x :: xs).find? (fun x => x.key == key) = xs.find? fun x => x.key == key :=
          List.find?_cons_of_neg hkey
        have hy : (y :: ys).find? (fun y => y.key == key) = ys.find? fun y => y.key == key :=
          List.find?_cons_of_neg hkey'
        rw [hx, hy]
        exact ih

/-- A field is read into the mapped draft, whether it is known, repeated or passed over. -/
theorem Maps.readField (h : f.Maps f' m g) (d : σ) (cs : List Char) :
    f'.readField (m d) cs = (f.readField d cs).map fun p => (m p.1, p.2) := by
  rw [RecordForm.readField, RecordForm.readField]
  cases readText cs with
  | error e => rfl
  | ok p =>
      rcases p with ⟨key, rest⟩
      simp only [bind, Except.bind]
      rcases find?_of_maps h.fields key with ⟨hx, hy⟩ | ⟨x, y, hxy, hx, hy⟩
      · simp only [hx, hy]
        cases readColon rest with
        | error e => rfl
        | ok rest =>
            simp only
            cases skipValue rest <;> rfl
      · simp only [hx, hy, hxy.isSet d]
        split
        · rfl
        · cases readColon rest with
          | error e => rfl
          | ok rest => exact hxy.read d rest

/-- The fields behind the first one are read into the mapped draft. -/
theorem Maps.readFields (h : f.Maps f' m g) (bound : List Char) (d : σ) (cs : List Char) :
    f'.readFields bound (m d) cs = (f.readFields bound d cs).map fun p => (m p.1, p.2) := by
  induction bound generalizing d cs with
  | nil => rfl
  | cons b bound ih =>
      rw [RecordForm.readFields, RecordForm.readFields]
      split
      · rfl
      · rfl
      · split
        · rfl
        · rename_i rest _
          rw [h.readField d rest]
          cases f.readField d rest with
          | error e => rfl
          | ok p => exact ih p.1 p.2
        · rfl
        · rfl
      · rfl

/-- What is made of a mapped draft is mapped, and a field that is missing is told at the same
place. -/
theorem Maps.finishAt (h : f.Maps f' m g) (d : σ) (rest : List Char) :
    f'.finishAt (m d) rest = (f.finishAt d rest).map g := by
  rw [RecordForm.finishAt, RecordForm.finishAt, h.finish]
  cases f.finish d <;> rfl

/-- A record that is written as an object is mapped. -/
theorem Maps.readObject (h : f.Maps f' m g) : Json.Maps f.readObject f'.readObject g := by
  intro cs
  rw [RecordForm.readObject, RecordForm.readObject]
  split
  · rfl
  · rename_i rest _
    rw [h.start, h.finishAt]
    cases f.finishAt f.start rest <;> rfl
  · rename_i rest _
    rw [h.start, h.readField f.start rest]
    cases f.readField f.start rest with
    | error e => rfl
    | ok p =>
        simp only [Except.map, bind, Except.bind, h.readFields p.2 p.1 p.2]
        cases f.readFields p.2 p.1 p.2 with
        | error e => rfl
        | ok q =>
            simp only [h.finishAt]
            cases f.finishAt q.1 q.2 <;> rfl
  · rfl

/-- A mapped form is expected by the same words. -/
theorem Maps.expectedLength (h : f.Maps f' m g) : f'.expectedLength = f.expectedLength := by
  rw [RecordForm.expectedLength, RecordForm.expectedLength, expected, expected, h.title,
    h.fields.length_eq]

/-- The fields of a list are read into the mapped draft, in their order. -/
theorem Maps.readInOrder (h : f.Maps f' m g) {xs : List (Field σ)} {ys : List (Field τ)}
    (hxs : List.Forall₂ (Field.Maps m) xs ys) (count : Nat) (d : σ) (cs : List Char) :
    f'.readInOrder ys count (m d) cs =
      (f.readInOrder xs count d cs).map fun p => (m p.1, p.2) := by
  induction hxs generalizing count d cs with
  | nil => rfl
  | @cons x y xs ys hxy _ ih =>
      have hnext : ∀ cs : List Char,
          ((y.read (m d) cs).bind fun p => f'.readInOrder ys (count + 1) p.1 p.2) =
            ((x.read d cs).bind fun p => f.readInOrder xs (count + 1) p.1 p.2).map
              fun p => (m p.1, p.2) := by
        intro cs
        rw [hxy.read d cs]
        cases x.read d cs with
        | error e => rfl
        | ok p => exact ih (count + 1) p.1 p.2
      rw [RecordForm.readInOrder, RecordForm.readInOrder, h.expectedLength]
      split
      · rfl
      · rfl
      · split
        · exact hnext _
        · split
          · split
            · rfl
            · rfl
            · exact hnext _
          · rfl

/-- A record is mapped if its fields and its making are. -/
theorem Maps.read (h : f.Maps f' m g) : Json.Maps f.read f'.read g := by
  intro cs
  rw [RecordForm.read, RecordForm.read]
  split
  · rfl
  · rename_i rest _
    rw [h.start, h.readInOrder h.fields 0 f.start rest]
    cases f.readInOrder f.fields 0 f.start rest with
    | error e => rfl
    | ok p =>
        simp only [Except.map, bind, Except.bind, h.finishAt]
        cases f.finishAt p.1 p.2 with
        | error e => rfl
        | ok a =>
            simp only
            cases readListEnd p.2 <;> rfl
  · exact h.readObject _
  · rw [expected, expected, h.title]
    rfl

end RecordForm

/-! ## Documents -/

/-- Documents are mapped if their values are. -/
theorem readDocument_maps {α β : Type} {r : Reader α} {s : Reader β} {g : α → β} (h : Maps r s g)
    (cs : List Char) : readDocument s cs = (readDocument r cs).map g := by
  rw [readDocument, readDocument, h cs]
  cases r cs with
  | error e => rfl
  | ok p =>
      simp only [Except.map, bind, Except.bind]
      split <;> rfl

end Json
end CoverageWindows
