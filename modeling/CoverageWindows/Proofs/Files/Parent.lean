import CoverageWindows.Proofs.Files.Inside
import Mathlib.Data.List.DropRight

/-!
# Parents and file names

A path that ends in a name is cut into a parent and that name: the components of the path are those
of the parent and the name behind them.  Slashes at the end of the path, slashes side by side and
dots that do not count are left out on the way.

Main results:

- Theorem `split_join`: pieces without slashes are got back from the path that they are joined to.
- Theorem `components_of_split`: the components of a path, by its first piece and the others.
- Theorem `components_parent?`: a path has one component more than its parent.
- Theorem `exists_parent?`: a path that ends in a name has a parent, and this name behind it.
-/

namespace CoverageWindows
namespace Path

/-! ## Pieces -/

/-- The pieces of a path have no slashes. -/
theorem slash_notMem_of_mem_split {p b : Bytes} (h : p ∈ split b) : slash ∉ p := by
  induction b generalizing p with
  | nil => simp_all [split]
  | cons x b ih =>
      rw [split] at h
      split at h
      · rcases List.mem_cons.1 h with rfl | h
        · exact List.not_mem_nil
        · exact ih h
      · rename_i hx
        cases hsplit : split b with
        | nil => exact absurd hsplit (split_ne_nil b)
        | cons q qs =>
            rw [hsplit] at h
            rcases List.mem_cons.1 h with rfl | h
            · rw [List.mem_cons, not_or]
              exact ⟨Ne.symm hx, ih (hsplit ▸ List.mem_cons_self)⟩
            · exact ih (hsplit ▸ List.mem_cons_of_mem q h)

/-- A path without a slash is its only piece. -/
theorem split_of_notMem {p : Bytes} (h : slash ∉ p) : split p = [p] := by
  induction p with
  | nil => rfl
  | cons x p ih =>
      rw [List.mem_cons, not_or] at h
      rw [split, if_neg (Ne.symm h.1), ih h.2]

/-- Pieces without slashes are got back from the path that they are joined to. -/
theorem split_join {ps : List Bytes} (hne : ps ≠ []) (h : ∀ p ∈ ps, slash ∉ p) :
    split (join ps) = ps := by
  induction ps with
  | nil => exact absurd rfl hne
  | cons p ps ih =>
      have hp : split p = [p] := split_of_notMem (h p List.mem_cons_self)
      cases ps with
      | nil => exact hp
      | cons q qs =>
          rw [join, split_append_slash, hp,
            ih (List.cons_ne_nil q qs) fun r hr => h r (List.mem_cons_of_mem p hr)]
          rfl

theorem dropVoidEnd_eq (ps : List Bytes) : dropVoidEnd ps = ps.rdropWhile isVoid := rfl

/-! ## Components -/

/-- The components of pieces behind a slash. -/
def counted (ps : List Bytes) : List Component :=
  (ps.filter fun p => !isVoid p).map Component.ofPiece

/-- The component that the first piece of a path makes with what is behind it. -/
def front (first : Bytes) (rest : List Bytes) : List Component :=
  if first = [] then (if rest = [] then [] else [.root]) else [.ofPiece first]

/-- The pieces that count are those of both parts. -/
theorem counted_append (ps qs : List Bytes) : counted (ps ++ qs) = counted ps ++ counted qs := by
  rw [counted, List.filter_append, List.map_append]
  rfl

theorem counted_eq_nil_of_void {ps : List Bytes} (h : ∀ p ∈ ps, isVoid p = true) :
    counted ps = [] := by
  rw [counted, List.map_eq_nil_iff, List.filter_eq_nil_iff]
  intro p hp
  simp [h p hp]

@[simp]
theorem counted_dropVoidEnd (ps : List Bytes) : counted (dropVoidEnd ps) = counted ps := by
  have hvoid : counted (ps.rtakeWhile isVoid) = [] :=
    counted_eq_nil_of_void fun p hp => List.mem_rtakeWhile_imp hp
  have happend := counted_append (ps.rdropWhile isVoid) (ps.rtakeWhile isVoid)
  rw [List.rdropWhile_append_rtakeWhile, hvoid, List.append_nil] at happend
  rw [dropVoidEnd_eq, happend]

theorem mem_of_mem_dropVoidEnd {p : Bytes} {ps : List Bytes} (h : p ∈ dropVoidEnd ps) : p ∈ ps :=
  (List.rdropWhile_prefix isVoid ps).subset h

/-- The last piece that counts makes the last component. -/
theorem counted_eq_concat {ps : List Bytes} (hne : dropVoidEnd ps ≠ []) :
    counted ps = counted (dropVoidEnd (dropVoidEnd ps).dropLast) ++
      [.ofPiece ((dropVoidEnd ps).getLast hne)] := by
  have hlast : isVoid ((dropVoidEnd ps).getLast hne) = false :=
    Bool.eq_false_iff.2 (List.rdropWhile_last_not isVoid ps hne)
  calc counted ps
      = counted ((dropVoidEnd ps).dropLast ++ [(dropVoidEnd ps).getLast hne]) := by
        rw [List.dropLast_append_getLast hne, counted_dropVoidEnd]
    _ = counted (dropVoidEnd ps).dropLast ++ [.ofPiece ((dropVoidEnd ps).getLast hne)] := by
        rw [counted_append]
        simp [counted, hlast]
    _ = _ := by rw [counted_dropVoidEnd]

/-- The components of a path, by its first piece and the others. -/
theorem components_of_split {path first : Bytes} {rest : List Bytes}
    (h : split path = first :: rest) : components path = front first rest ++ counted rest := by
  have habsolute : isAbsolute path = true ↔ first = [] ∧ rest ≠ [] := by
    cases path with
    | nil =>
        obtain ⟨rfl, rfl⟩ := List.cons.inj h
        simp [isAbsolute]
    | cons x path =>
        rw [split] at h
        split at h
        · rename_i hx
          obtain ⟨rfl, rfl⟩ := List.cons.inj h
          simp [isAbsolute, hx, split_ne_nil]
        · rename_i hx
          split at h
          · exact absurd ‹_› (split_ne_nil path)
          · obtain ⟨rfl, rfl⟩ := List.cons.inj h
            simp [isAbsolute, hx]
  rw [components, h]
  dsimp only
  rw [front, counted]
  by_cases hfirst : first = []
  · by_cases hrest : rest = []
    · rw [if_neg (by simp [habsolute, hrest]), if_pos hfirst, if_pos hfirst, if_pos hrest]
      rfl
    · rw [if_pos (habsolute.2 ⟨hfirst, hrest⟩), if_pos hfirst, if_neg hrest]
      rfl
  · rw [if_neg (by simp [habsolute, hfirst]), if_neg hfirst, if_neg hfirst]
    rfl

/-- A name among the components of a path is one of its pieces. -/
theorem mem_split_of_name {path n : Bytes} (h : .name n ∈ components path) : n ∈ split path := by
  have hpiece : ∀ p, Component.ofPiece p = .name n → p = n := by
    intro p hp
    unfold Component.ofPiece at hp
    split at hp
    · cases hp
    · split at hp
      · cases hp
      · exact Component.name.inj hp
  cases hsplit : split path with
  | nil => exact absurd hsplit (split_ne_nil path)
  | cons first rest =>
      rw [components_of_split hsplit] at h
      rcases List.mem_append.1 h with h | h
      · unfold front at h
        split at h
        · split at h <;> simp at h
        · rw [← hpiece first (List.mem_singleton.1 h).symm]
          exact List.mem_cons_self
      · rcases List.mem_map.1 h with ⟨p, hp, heq⟩
        rw [← hpiece p heq]
        exact List.mem_cons_of_mem first (List.mem_filter.1 hp).1

theorem components_root : components [slash] = [.root] := by decide

/-- The pieces of a path without some at its end. -/
theorem components_join {first : Bytes} {left : List Bytes} (hfirst : slash ∉ first)
    (hleft : ∀ p ∈ left, slash ∉ p) :
    components (join (first :: left)) = front first left ++ counted left :=
  components_of_split
    (split_join (List.cons_ne_nil first left) (List.forall_mem_cons.2 ⟨hfirst, hleft⟩))

/-- A path has one component more than its parent. -/
theorem components_parent? {path parent : Bytes} (h : parent? path = some parent) :
    ∃ c, components path = components parent ++ [c] := by
  rw [parent?] at h
  cases hsplit : split path with
  | nil => exact absurd hsplit (split_ne_nil path)
  | cons first rest =>
      have hslash : ∀ p ∈ first :: rest, slash ∉ p :=
        fun p hp => slash_notMem_of_mem_split (hsplit ▸ hp)
      rw [components_of_split hsplit, ← counted_dropVoidEnd rest]
      rw [hsplit] at h
      dsimp only at h
      split at h
      · -- Only the first piece counts.
        rename_i hbody
        rw [hbody]
        obtain ⟨hfirst, heq⟩ := Option.ite_none_left_eq_some.1 h
        obtain rfl := Option.some.inj heq
        exact ⟨.ofPiece first, by rw [front, if_neg hfirst]; rfl⟩
      · -- A piece behind the first one counts: it is what the parent lacks.
        rename_i hbody
        have hne : dropVoidEnd rest ≠ [] := hbody
        have hsub : ∀ p ∈ dropVoidEnd (dropVoidEnd rest).dropLast, slash ∉ p := fun p hp =>
          hslash p (List.mem_cons_of_mem first
            (mem_of_mem_dropVoidEnd (List.dropLast_subset _ (mem_of_mem_dropVoidEnd hp))))
        have hrest : rest ≠ [] := by
          rintro rfl
          exact hne rfl
        refine ⟨.ofPiece ((dropVoidEnd rest).getLast hne), ?_⟩
        rw [counted_dropVoidEnd, counted_eq_concat hne, ← List.append_assoc]
        congr 1
        split at h
        · rename_i hroot
          obtain rfl := Option.some.inj h
          rw [components_root, hroot.2, front, if_pos hroot.1, if_neg hrest]
          rfl
        · rename_i hroot
          obtain rfl := Option.some.inj h
          rw [components_join (hslash first List.mem_cons_self) hsub]
          congr 1
          by_cases hfirst : first = []
          · rw [front, front, if_pos hfirst, if_pos hfirst, if_neg hrest,
              if_neg fun hleft => hroot ⟨hfirst, hleft⟩]
          · rw [front, front, if_neg hfirst, if_neg hfirst]

/-- Only the root and the empty path have no parent. -/
theorem components_of_parent?_eq_none {path : Bytes} (h : parent? path = none) :
    components path = [] ∨ components path = [.root] := by
  rw [parent?] at h
  cases hsplit : split path with
  | nil => exact absurd hsplit (split_ne_nil path)
  | cons first rest =>
      rw [hsplit] at h
      dsimp only at h
      split at h
      · rename_i hbody
        have hfirst : first = [] := by
          by_contra hne
          rw [if_neg hne] at h
          cases h
        rw [components_of_split hsplit, ← counted_dropVoidEnd rest, hbody, front, if_pos hfirst]
        by_cases hrest : rest = []
        · exact .inl (by rw [if_pos hrest]; rfl)
        · exact .inr (by rw [if_neg hrest]; rfl)
      · split at h <;> cases h

/-- A path that ends in a name has a parent, and this name behind it. -/
theorem exists_parent? {path n : Bytes} (h : fileName? path = some n) :
    ∃ parent, parent? path = some parent ∧ components path = components parent ++ [.name n] := by
  have hlast : (components path).getLast? = some (.name n) := by
    unfold fileName? at h
    split at h
    · rename_i hlast
      rw [hlast, Option.some.inj h]
    · cases h
  cases hparent : parent? path with
  | none =>
      rcases components_of_parent?_eq_none hparent with hnone | hroot
      · rw [hnone] at hlast
        cases hlast
      · rw [hroot] at hlast
        cases hlast
  | some parent =>
      obtain ⟨c, hc⟩ := components_parent? hparent
      rw [hc, List.getLast?_concat] at hlast
      rw [← Option.some.inj hlast]
      exact ⟨parent, rfl, hc⟩

/-- No slash is in the name that a path ends in. -/
theorem slash_notMem_fileName {path n : Bytes} (h : fileName? path = some n) : slash ∉ n := by
  obtain ⟨parent, -, hc⟩ := exists_parent? h
  exact slash_notMem_of_mem_split (mem_split_of_name (by rw [hc]; simp))

end Path
end CoverageWindows
