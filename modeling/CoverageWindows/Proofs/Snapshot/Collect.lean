import CoverageWindows.Table

/-!
# Collecting values under their own keys

A file report keeps counted spans by span and a snapshot keeps file reports by name.  In both, a
value carries the key that it is kept under, and a value whose key is taken is joined with the one
that is there.  This module treats the two at once.

Main results:

- Theorem `get?_collect`: a collected value is joined with what its key had, and other keys keep
  what they have.
- Theorem `get?_collectAll_values`: collecting the values of a table joins two tables key by key.
- Theorem `KeyedBy.collectAll`: values stay under the keys that they carry.
-/

namespace CoverageWindows
namespace Table

universe u v

variable {κ : Type u} {ν : Type v} [Ord κ]

/-! ## Tables of values that carry their keys -/

/-- The entries are in order, and each value is kept under the key that it carries. -/
structure KeyedBy (key : ν → κ) (t : Table κ ν) : Prop where
  ordered : t.Ordered
  keyed : ∀ e ∈ t.entries, e.1 = key e.2

/-- The table with one more value, joined with the value that its key has. -/
def collect (key : ν → κ) (join : ν → ν → ν) (t : Table κ ν) (v : ν) : Table κ ν :=
  t.update (key v) fun old => old.elim v fun o => join o v

/-- The table with more values, collected one after the other. -/
def collectAll (key : ν → κ) (join : ν → ν → ν) (t : Table κ ν) (vs : List ν) : Table κ ν :=
  vs.foldl (collect key join) t

/-- What a value contributes to a key. -/
def share [DecidableEq κ] (key : ν → κ) (k : κ) (v : ν) : Option ν :=
  if key v = k then some v else none

variable {key : ν → κ} {join : ν → ν → ν}

theorem keyedBy_empty : (empty : Table κ ν).KeyedBy key :=
  ⟨ordered_empty, by simp [empty]⟩

variable [Std.TransOrd κ] [Std.LawfulEqOrd κ]

/-- A value that is found carries the key that it is found under. -/
theorem KeyedBy.key_of_get? {t : Table κ ν} (h : t.KeyedBy key) {k : κ} {v : ν}
    (hv : t.get? k = some v) : key v = k :=
  (h.keyed (k, v) ((mem_entries_iff h.ordered k v).2 hv)).symm

/-- To be keyed, it is enough that lookup finds values under the keys that they carry. -/
theorem keyedBy_of_get? {t : Table κ ν} (h : t.Ordered)
    (hkey : ∀ k v, t.get? k = some v → key v = k) : t.KeyedBy key := by
  refine ⟨h, ?_⟩
  rintro ⟨k, v⟩ hmem
  exact (hkey k v ((mem_entries_iff h k v).1 hmem)).symm

/-- The values of a keyed table are those that are found under the keys that they carry. -/
theorem KeyedBy.mem_values_iff {t : Table κ ν} (h : t.KeyedBy key) (v : ν) :
    v ∈ t.values ↔ t.get? (key v) = some v := by
  rw [values, List.mem_map]
  constructor
  · rintro ⟨⟨k, w⟩, hmem, rfl⟩
    obtain rfl : k = key w := h.keyed _ hmem
    exact (mem_entries_iff h.ordered _ _).1 hmem
  · intro hget
    exact ⟨(key v, v), (mem_entries_iff h.ordered _ _).2 hget, rfl⟩

omit [Std.LawfulEqOrd κ] in
/-- No value of a keyed table is there twice. -/
theorem KeyedBy.nodup_values {t : Table κ ν} (h : t.KeyedBy key) : t.values.Nodup := by
  have hkeys : t.values.map key = t.keys := by
    rw [values, keys, List.map_map]
    exact List.map_congr_left fun e he => (h.keyed e he).symm
  have hnodup := nodup_keys h.ordered
  rw [← hkeys] at hnodup
  exact List.Pairwise.of_map key (fun v w hne heq => hne (congrArg key heq)) hnodup

/-- Of the values of a keyed table, the one that carries a key is what is found under it. -/
theorem KeyedBy.filter_values [DecidableEq κ] {t : Table κ ν} (h : t.KeyedBy key) (k : κ) :
    (t.values.filter fun v => key v = k) = (t.get? k).toList := by
  have hmem : ∀ v, v ∈ (t.values.filter fun v => key v = k) ↔ v ∈ (t.get? k).toList := by
    intro v
    rw [List.mem_filter, h.mem_values_iff, decide_eq_true_iff, Option.mem_toList]
    constructor
    · rintro ⟨hget, rfl⟩
      exact hget
    · intro hget
      obtain rfl : key v = k := h.key_of_get? hget
      exact ⟨hget, rfl⟩
  have hnodup : ((t.get? k).toList).Nodup := by
    cases t.get? k <;> simp
  have hperm := (List.perm_ext_iff_of_nodup (h.nodup_values.filter _) hnodup).2 hmem
  cases hget : t.get? k with
  | none =>
      rw [hget] at hperm
      exact hperm.eq_nil
  | some v =>
      rw [hget] at hperm
      exact List.perm_singleton.1 hperm

/-! ## Collecting -/

omit [Std.LawfulEqOrd κ] in
/-- Collecting a value keeps the keys in order. -/
theorem ordered_collect {t : Table κ ν} (h : t.Ordered) (v : ν) :
    (t.collect key join v).Ordered :=
  ordered_update h _ _

variable [DecidableEq κ]

/-- A collected value is joined with what its key had, and other keys keep what they have. -/
theorem get?_collect {t : Table κ ν} (h : t.Ordered) (v : ν) (k : κ) :
    (t.collect key join v).get? k = Option.merge join (t.get? k) (share key k v) := by
  rw [collect, get?_update h, share]
  by_cases hk : key v = k
  · rw [if_pos hk, if_pos hk.symm, hk]
    cases t.get? k <;> rfl
  · rw [if_neg hk, if_neg (Ne.symm hk), Option.merge_none_right]

/-- Values stay under the keys that they carry, if joining keeps the key of the older value. -/
theorem KeyedBy.collect {t : Table κ ν} (h : t.KeyedBy key)
    (hjoin : ∀ a b, key (join a b) = key a) (v : ν) : (t.collect key join v).KeyedBy key := by
  refine keyedBy_of_get? (ordered_collect h.ordered v) ?_
  intro k w hw
  rw [get?_collect h.ordered, share] at hw
  cases hold : t.get? k with
  | none =>
      rw [hold, Option.merge_none_left] at hw
      rcases Option.ite_none_right_eq_some.1 hw |>.imp_right Option.some.inj with ⟨hk, rfl⟩
      exact hk
  | some old =>
      have hkey : key old = k := h.key_of_get? hold
      rw [hold] at hw
      by_cases hk : key v = k
      · rw [if_pos hk, Option.merge_some_some, Option.some.injEq] at hw
        rw [← hw, hjoin, hkey]
      · rw [if_neg hk, Option.merge_none_right, Option.some.injEq] at hw
        rw [← hw, hkey]

/-- Values that are collected stand under their own keys, if joining keeps the key. -/
theorem KeyedBy.collectAll {t : Table κ ν} (h : t.KeyedBy key)
    (hjoin : ∀ a b, key (join a b) = key a) (vs : List ν) :
    (t.collectAll key join vs).KeyedBy key := by
  induction vs generalizing t with
  | nil => exact h
  | cons v vs ih => exact ih (h.collect hjoin v)

/-- Under each key, the collected values of that key are joined in their order. -/
theorem get?_collectAll {t : Table κ ν} (h : t.Ordered) (vs : List ν) (k : κ) :
    (t.collectAll key join vs).get? k =
      vs.foldl (fun o v => Option.merge join o (share key k v)) (t.get? k) := by
  induction vs generalizing t with
  | nil => rfl
  | cons v vs ih =>
      have hcons : t.collectAll key join (v :: vs) =
          (t.collect key join v).collectAll key join vs := rfl
      rw [hcons, ih (ordered_collect h v), get?_collect h, List.foldl_cons]

/-! ## Collecting a whole table -/

omit [Std.TransOrd κ] in
/-- Of the values of a keyed table, only the one that is found under a key adds to that key. -/
theorem foldl_share_values {u : Table κ ν} (h : u.KeyedBy key) (k : κ) (o : Option ν) :
    u.values.foldl (fun o v => Option.merge join o (share key k v)) o =
      Option.merge join o (u.get? k) := by
  rcases u with ⟨l⟩
  rcases h with ⟨hord, hkey⟩
  simp only [Ordered, values, get?] at hord hkey ⊢
  induction l generalizing o with
  | nil => simp [find?]
  | cons e l ih =>
      rcases e with ⟨k', v⟩
      rw [List.pairwise_cons] at hord
      have hv : k' = key v := hkey (k', v) (by simp)
      rw [List.map_cons, List.foldl_cons,
        ih _ hord.2 fun e he => hkey e (List.mem_cons_of_mem _ he)]
      by_cases hk : key v = k
      · -- the keys behind are greater, so nothing else is found there
        subst hk hv
        have hrest : find? (key v) l = none := find?_eq_none fun e he => by
          rw [hord.1 e he]
          simp
        simp [share, find?, hrest]
      · have hne : compare k k' ≠ .eq := fun hc =>
          hk (hv.symm.trans (Std.LawfulEqCmp.eq_of_compare hc).symm)
        simp [share, find?, hk, hne]

/-- Collecting the values of a table joins two tables key by key. -/
theorem get?_collectAll_values {t u : Table κ ν} (ht : t.Ordered) (hu : u.KeyedBy key) (k : κ) :
    (t.collectAll key join u.values).get? k = Option.merge join (t.get? k) (u.get? k) := by
  rw [get?_collectAll ht, foldl_share_values hu]

/-! ## Values that replace others -/

/-- The table with more values under the keys that they carry, each in place of the one before. -/
def putAll (key : ν → κ) (t : Table κ ν) (vs : List ν) : Table κ ν :=
  vs.foldl (fun t v => t.insert (key v) v) t

/-- A value can be put under the key that it carries. -/
theorem KeyedBy.insert {t : Table κ ν} (h : t.KeyedBy key) (v : ν) :
    (t.insert (key v) v).KeyedBy key := by
  refine keyedBy_of_get? (ordered_update h.ordered _ _) ?_
  intro k w hw
  rw [get?_insert h.ordered] at hw
  split at hw
  · rename_i hk
    rw [hk, Option.some.inj hw]
  · exact h.key_of_get? hw

/-- Values that are put in a table stand under their own keys. -/
theorem KeyedBy.putAll {t : Table κ ν} (h : t.KeyedBy key) (vs : List ν) :
    (t.putAll key vs).KeyedBy key := by
  induction vs generalizing t with
  | nil => exact h
  | cons v vs ih => exact ih (h.insert v)

/-- Under each key, the last value that carries it stands. -/
theorem get?_putAll {t : Table κ ν} (h : t.KeyedBy key) (vs : List ν) (k : κ) :
    (t.putAll key vs).get? k = ((vs.filter fun v => key v = k).getLast?).or (t.get? k) := by
  induction vs generalizing t with
  | nil => rfl
  | cons v vs ih =>
      have hcons : t.putAll key (v :: vs) = (t.insert (key v) v).putAll key vs := rfl
      rw [hcons, ih (h.insert v), get?_insert h.ordered]
      by_cases hk : key v = k
      · rw [if_pos hk.symm, List.filter_cons_of_pos (by simpa using hk), List.getLast?_cons]
        cases (vs.filter fun v => key v = k).getLast? <;> rfl
      · rw [if_neg (Ne.symm hk), List.filter_cons_of_neg (by simpa using hk)]

end Table
end CoverageWindows
