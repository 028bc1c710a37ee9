import CoverageWindows.Proofs.Files.Writes
import Mathlib.Data.List.Basic

/-!
# Folders that are listed

A listing of a folder has what the tree holds one name below the place that the path leads to.  The
order in which a tree holds its places is nobody's business: as long as no place is there twice,
paths lead to the same targets in every order, and listings differ in their order only.

Main results:

- Theorem `list_eq_ok_iff`: what a listing holds.
- Theorem `locate_of_perm`: where paths lead, in whatever order a tree holds its places.
-/

namespace CoverageWindows
namespace FileTree

variable {t : FileTree} {path : Bytes} {p : Place}

/-! ## Listings -/

/-- The children of a place are what is there one name below it. -/
theorem mem_children_iff {name : Bytes} {n : Node} :
    (name, n) ∈ t.children p ↔ (p ++ [name], n) ∈ t.entries := by
  rw [children, List.mem_filterMap]
  constructor
  · rintro ⟨⟨q, m⟩, hmem, hq⟩
    cases hlast : q.getLast? with
    | none => simp [hlast] at hq
    | some last =>
        simp only [hlast, Option.ite_none_right_eq_some, Option.some.injEq, Prod.mk.injEq] at hq
        obtain ⟨hfront, rfl, rfl⟩ := hq
        obtain ⟨front, rfl⟩ := List.getLast?_eq_some_iff.1 hlast
        rw [List.dropLast_concat] at hfront
        exact hfront ▸ hmem
  · intro hmem
    exact ⟨_, hmem, by simp⟩

/-- A path is one of a folder if it leads to a folder. -/
theorem isFolder_iff :
    t.isFolder path = true ↔ ∃ p, t.locate .look path = .ok (.there p .folder) := by
  rw [isFolder, find?, beq_iff_eq]
  split
  · rename_i q n hloc
    simp [hloc]
  · rename_i hother
    simpa using fun p => hother p .folder

/-- A folder is listed where the path leads to one. -/
theorem list_eq_ok_iff {es : List (Bytes × Node)} :
    t.list path = .ok es ↔
      ∃ p, t.locate .look path = .ok (.there p .folder) ∧ t.children p = es := by
  rw [list]
  cases h : t.locate .look path with
  | error e => simp [bind, Except.bind]
  | ok target =>
      rcases target with ⟨p, n⟩ | p
      · cases n <;> simp [bind, Except.bind]
      · simp [bind, Except.bind]

/-! ## The order of places -/

/-- Where no place is held twice, a place is looked up by what is held there. -/
theorem node?_eq_some_iff (hnodup : (t.entries.map Prod.fst).Nodup) (hp : p ≠ []) {n : Node} :
    t.node? p = some n ↔ (p, n) ∈ t.entries := by
  rw [node?, if_neg hp]
  generalize t.entries = es at hnodup
  induction es with
  | nil => simp
  | cons e es ih =>
      obtain ⟨q, m⟩ := e
      rw [List.map_cons, List.nodup_cons] at hnodup
      by_cases hpq : p = q
      · subst hpq
        have hnotMem : (p, n) ∉ es := fun hmem =>
          hnodup.1 (List.mem_map.2 ⟨(p, n), hmem, rfl⟩)
        simp [hnotMem, eq_comm]
      · rw [List.lookup_cons, beq_false_of_ne hpq, ih hnodup.2, List.mem_cons, Prod.mk.injEq]
        simp [hpq]

/-- Where no place is held twice, a tree shows the same at each place in every order. -/
theorem node?_of_perm {es : List (Place × Node)} (hperm : t.entries.Perm es)
    (hnodup : (t.entries.map Prod.fst).Nodup) (p : Place) :
    ({ t with entries := es } : FileTree).node? p = t.node? p := by
  by_cases hp : p = []
  · rw [node?, node?, if_pos hp, if_pos hp]
  · have hnodup' : (es.map Prod.fst).Nodup := (hperm.map Prod.fst).nodup_iff.1 hnodup
    ext n
    have hother := node?_eq_some_iff (t := ⟨es, t.workingFolder⟩) hnodup' hp (n := n)
    rw [hother, node?_eq_some_iff hnodup hp, hperm.mem_iff]

/-- Ways depend on a tree by what it shows at its places. -/
theorem Leads.of_node?_eq {t' : FileTree} (hnode : ∀ p, t'.node? p = t.node? p)
    {purpose : Purpose} {links : Nat} {folder slashed : Bool} {at' : Place} {ps : List Bytes}
    {target : Target} (h : Leads t purpose links folder slashed at' ps target) :
    Leads t' purpose links folder slashed at' ps target := by
  induction h with
  | here => exact .here
  | stay _ ih => exact .stay ih
  | up _ ih => exact .up ih
  | vacant hname hp => exact .vacant hname ((hnode _).trans hp)
  | into hname hp _ ih => exact .into hname ((hnode _).trans hp) ih
  | file hname hp hend => exact .file hname ((hnode _).trans hp) hend
  | link hname hp hmake => exact .link hname ((hnode _).trans hp) hmake
  | behindLast hname hp hmake hl _ ih =>
      exact .behindLast hname ((hnode _).trans hp) hmake hl ih
  | behind hname hp hrest hl _ ih => exact .behind hname ((hnode _).trans hp) hrest hl ih

/-- Where no place is held twice, paths lead to the same targets in every order. -/
theorem locate_of_perm {es : List (Place × Node)} (hperm : t.entries.Perm es)
    (hnodup : (t.entries.map Prod.fst).Nodup) {purpose : Purpose} {target : Target} :
    ({ t with entries := es } : FileTree).locate purpose path = .ok target ↔
      t.locate purpose path = .ok target := by
  have hnode := node?_of_perm hperm hnodup
  rw [locate_eq_ok_iff, locate_eq_ok_iff]
  refine and_congr_right fun _ => and_congr_right fun _ => and_congr_right fun _ => ?_
  exact ⟨.of_node?_eq fun p => (hnode p).symm, .of_node?_eq hnode⟩

end FileTree
end CoverageWindows
