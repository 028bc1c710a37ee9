/-!
# Ordered tables

A table holds its entries in the order of their keys, each key once.  `Ordered` says so; every
operation keeps it.  Reading a table through `get?` forgets how it was built, and ordered tables
that read alike are equal.

Main results:

- Theorem `get?_update`: an update changes the entry of its key and no other.
- Theorem `ordered_update`: an update keeps the order.
- Theorem `ext_get?`: ordered tables with the same entries are the same table.
-/

namespace CoverageWindows

universe u v

/-- Entries in the order of their keys. -/
structure Table (κ : Type u) (ν : Type v) where
  entries : List (κ × ν)
  deriving DecidableEq, Repr

namespace Table

variable {κ : Type u} {ν : Type v} [Ord κ]

/-! ## Reading and updating -/

/-- The table without entries. -/
def empty : Table κ ν := ⟨[]⟩

/-- The keys, in order. -/
def keys (t : Table κ ν) : List κ := t.entries.map Prod.fst

/-- The values, in the order of their keys. -/
def values (t : Table κ ν) : List ν := t.entries.map Prod.snd

/-- The number of entries. -/
def size (t : Table κ ν) : Nat := t.entries.length

/-- Lookup in a list of entries. -/
def find? (k : κ) : List (κ × ν) → Option ν
  | [] => none
  | (k', v) :: rest => if compare k k' = .eq then some v else find? k rest

/-- The value of a key. -/
def get? (t : Table κ ν) (k : κ) : Option ν := find? k t.entries

/-- Update in a list of entries: the entry of the key, or a new one in its place in the order,
becomes what `f` makes of the old value. -/
def updateEntries (k : κ) (f : Option ν → ν) : List (κ × ν) → List (κ × ν)
  | [] => [(k, f none)]
  | (k', v) :: rest =>
      match compare k k' with
      | .lt => (k, f none) :: (k', v) :: rest
      | .eq => (k', f (some v)) :: rest
      | .gt => (k', v) :: updateEntries k f rest

/-- The table in which the key has the value that `f` makes of its old one. -/
def update (t : Table κ ν) (k : κ) (f : Option ν → ν) : Table κ ν :=
  ⟨updateEntries k f t.entries⟩

/-- The table in which the key has the given value. -/
def insert (t : Table κ ν) (k : κ) (v : ν) : Table κ ν :=
  t.update k fun _ => v

/-! ## The order of keys -/

/-- The keys increase strictly. -/
def Ordered (t : Table κ ν) : Prop :=
  t.entries.Pairwise fun a b => compare a.1 b.1 = .lt

theorem ordered_empty : (empty : Table κ ν).Ordered := List.Pairwise.nil

/-- An entry after an update is the one that was updated, or an entry from before. -/
theorem mem_updateEntries {k : κ} {f : Option ν → ν} {e : κ × ν} {l : List (κ × ν)}
    (h : e ∈ updateEntries k f l) :
    (e.1 = k ∨ ∃ v, (e.1, v) ∈ l ∧ compare k e.1 = .eq) ∨ e ∈ l := by
  induction l with
  | nil => simp_all [updateEntries]
  | cons hd tl ih =>
      obtain ⟨k', v'⟩ := hd
      rw [updateEntries] at h
      split at h
      · rcases List.mem_cons.1 h with h | h
        · exact Or.inl (Or.inl (h ▸ rfl))
        · exact Or.inr h
      · rename_i heq
        rcases List.mem_cons.1 h with h | h
        · subst h
          exact Or.inl (Or.inr ⟨v', by simp, heq⟩)
        · exact Or.inr (List.mem_cons_of_mem _ h)
      · rcases List.mem_cons.1 h with h | h
        · exact Or.inr (h ▸ List.mem_cons_self)
        · rcases ih h with (h | ⟨v, hv, hk⟩) | h
          · exact Or.inl (Or.inl h)
          · exact Or.inl (Or.inr ⟨v, List.mem_cons_of_mem _ hv, hk⟩)
          · exact Or.inr (List.mem_cons_of_mem _ h)

variable [Std.TransOrd κ] [Std.LawfulEqOrd κ]

omit [Std.LawfulEqOrd κ] in
/-- An update keeps the keys in order. -/
theorem ordered_update {t : Table κ ν} (h : t.Ordered) (k : κ) (f : Option ν → ν) :
    (t.update k f).Ordered := by
  obtain ⟨l⟩ := t
  simp only [Ordered, update] at h ⊢
  induction l with
  | nil => simp [updateEntries]
  | cons hd tl ih =>
      obtain ⟨k', v'⟩ := hd
      rw [List.pairwise_cons] at h
      rw [updateEntries]
      split
      · rename_i hlt
        refine List.pairwise_cons.2 ⟨?_, List.pairwise_cons.2 h⟩
        intro e he
        rcases List.mem_cons.1 he with he | he
        · exact he ▸ hlt
        · exact Std.TransCmp.lt_trans hlt (h.1 e he)
      · exact List.pairwise_cons.2 h
      · rename_i hgt
        refine List.pairwise_cons.2 ⟨?_, ih h.2⟩
        intro e he
        rcases mem_updateEntries he with (he | ⟨v, hv, _⟩) | he
        · exact he ▸ Std.OrientedCmp.lt_of_gt hgt
        · exact h.1 (e.1, v) hv
        · exact h.1 e he

/-! ## Reading what was written -/

omit [Std.TransOrd κ] [Std.LawfulEqOrd κ] in
/-- A key that no entry has is not found. -/
theorem find?_eq_none {k : κ} {l : List (κ × ν)} (h : ∀ e ∈ l, compare k e.1 ≠ .eq) :
    find? k l = none := by
  induction l with
  | nil => rfl
  | cons hd tl ih =>
      rw [find?, if_neg (h hd (by simp)), ih fun e he => h e (List.mem_cons_of_mem _ he)]

/-- An update changes the entry of its key and no other. -/
theorem get?_update [DecidableEq κ] {t : Table κ ν} (h : t.Ordered) (k k' : κ) (f : Option ν → ν) :
    (t.update k f).get? k' = if k' = k then some (f (t.get? k)) else t.get? k' := by
  obtain ⟨l⟩ := t
  simp only [Ordered, update, get?] at h ⊢
  have hself : compare k k = .eq := Std.ReflCmp.compare_self
  induction l with
  | nil =>
      by_cases hk : k' = k
      · simp [updateEntries, find?, hk]
      · simp [updateEntries, find?, hk]
  | cons hd tl ih =>
      obtain ⟨k₀, v₀⟩ := hd
      rw [List.pairwise_cons] at h
      rw [updateEntries]
      split
      · rename_i hlt
        have hnone : find? k tl = none := find?_eq_none fun e he =>
          by rw [Std.TransCmp.lt_trans hlt (h.1 e he)]; simp
        by_cases hk : k' = k
        · subst hk
          simp [find?, hlt, hnone]
        · have hne : compare k' k ≠ .eq := fun hc => hk (Std.LawfulEqCmp.eq_of_compare hc)
          simp [find?, hk, hne]
      · rename_i heq
        have hkk : k = k₀ := Std.LawfulEqCmp.eq_of_compare heq
        subst hkk
        by_cases hk : k' = k
        · subst hk
          simp [find?]
        · have hne : compare k' k ≠ .eq := fun hc => hk (Std.LawfulEqCmp.eq_of_compare hc)
          simp [find?, hk, hne]
      · rename_i hgt
        by_cases hk : k' = k
        · subst hk
          simp [find?, hgt, ih h.2]
        · by_cases hc : compare k' k₀ = .eq <;> simp [find?, hc, hk, ih h.2]

omit [Std.TransOrd κ] in
/-- What is found for a key is an entry. -/
theorem mem_of_find? {k : κ} {v : ν} {l : List (κ × ν)} (h : find? k l = some v) : (k, v) ∈ l := by
  induction l with
  | nil => simp [find?] at h
  | cons hd tl ih =>
      obtain ⟨k', v'⟩ := hd
      rw [find?] at h
      split at h
      · rename_i heq
        have hkk : k = k' := Std.LawfulEqCmp.eq_of_compare heq
        simp_all
      · exact List.mem_cons_of_mem _ (ih h)

/-- In a table in order, every entry is found by its key. -/
theorem find?_of_mem {k : κ} {v : ν} {l : List (κ × ν)}
    (h : l.Pairwise fun a b => compare a.1 b.1 = .lt) (hmem : (k, v) ∈ l) : find? k l = some v := by
  induction l with
  | nil => simp at hmem
  | cons hd tl ih =>
      obtain ⟨k', v'⟩ := hd
      rw [List.pairwise_cons] at h
      rcases List.mem_cons.1 hmem with he | he
      · obtain ⟨rfl, rfl⟩ := Prod.mk.inj he
        simp [find?, Std.ReflCmp.compare_self]
      · have hgt : compare k k' = .gt := Std.OrientedCmp.gt_of_lt (h.1 _ he)
        simp [find?, hgt, ih h.2 he]

/-- In an ordered table the entries are what lookup finds. -/
theorem mem_entries_iff {t : Table κ ν} (h : t.Ordered) (k : κ) (v : ν) :
    (k, v) ∈ t.entries ↔ t.get? k = some v :=
  ⟨find?_of_mem h, mem_of_find?⟩

/-- Ordered tables with the same entries are the same table. -/
theorem ext_get? {s t : Table κ ν} (hs : s.Ordered) (ht : t.Ordered)
    (h : ∀ k, s.get? k = t.get? k) : s = t := by
  have hmem : ∀ e, e ∈ s.entries ↔ e ∈ t.entries := by
    rintro ⟨k, v⟩
    rw [mem_entries_iff hs, mem_entries_iff ht, h]
  obtain ⟨l⟩ := s
  obtain ⟨m⟩ := t
  simp only [Ordered] at hs ht hmem
  congr 1
  clear h
  induction l generalizing m with
  | nil =>
      cases m with
      | nil => rfl
      | cons e m => exact absurd ((hmem e).2 (by simp)) (by simp)
  | cons a l ih =>
      cases m with
      | nil => exact absurd ((hmem a).1 (by simp)) (by simp)
      | cons b m =>
          rw [List.pairwise_cons] at hs ht
          have hirr : ∀ e : κ × ν, compare e.1 e.1 ≠ .lt := fun e => by
            have hself : compare e.1 e.1 = .eq := Std.ReflCmp.compare_self
            rw [hself]; simp
          have hab : a = b := by
            rcases List.mem_cons.1 ((hmem a).1 (by simp)) with h₁ | h₁
            · exact h₁
            · rcases List.mem_cons.1 ((hmem b).2 (by simp)) with h₂ | h₂
              · exact h₂.symm
              · exact absurd (Std.TransCmp.lt_trans (hs.1 b h₂) (ht.1 a h₁)) (hirr a)
          subst hab
          congr 1
          refine ih hs.2 m ht.2 fun e => ⟨fun he => ?_, fun he => ?_⟩
          · rcases List.mem_cons.1 ((hmem e).1 (List.mem_cons_of_mem _ he)) with h₁ | h₁
            · exact absurd (h₁ ▸ hs.1 e he) (hirr _)
            · exact h₁
          · rcases List.mem_cons.1 ((hmem e).2 (List.mem_cons_of_mem _ he)) with h₁ | h₁
            · exact absurd (h₁ ▸ ht.1 e he) (hirr _)
            · exact h₁

/-! ## Keys and inserted values -/

/-- An inserted value is found under its key, and other keys keep their values. -/
theorem get?_insert [DecidableEq κ] {t : Table κ ν} (h : t.Ordered) (k k' : κ) (v : ν) :
    (t.insert k v).get? k' = if k' = k then some v else t.get? k' :=
  get?_update h k k' fun _ => v

omit [Std.LawfulEqOrd κ] in
/-- No key is there twice. -/
theorem nodup_keys {t : Table κ ν} (h : t.Ordered) : t.keys.Nodup := by
  rw [keys, List.nodup_iff_pairwise_ne, List.pairwise_map]
  refine List.Pairwise.imp ?_ h
  intro e e' hlt heq
  have hself : compare e'.1 e'.1 = .eq := Std.ReflCmp.compare_self
  rw [heq, hself] at hlt
  cases hlt

/-- The keys are those that have a value. -/
theorem mem_keys_iff {t : Table κ ν} (h : t.Ordered) (k : κ) :
    k ∈ t.keys ↔ ∃ v, t.get? k = some v := by
  rw [keys, List.mem_map]
  constructor
  · rintro ⟨e, he, rfl⟩
    exact ⟨e.2, (mem_entries_iff h e.1 e.2).1 he⟩
  · rintro ⟨v, hv⟩
    exact ⟨(k, v), (mem_entries_iff h k v).2 hv, rfl⟩

end Table
end CoverageWindows
