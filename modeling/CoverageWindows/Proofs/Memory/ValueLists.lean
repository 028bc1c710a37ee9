import CoverageWindows.Memory.ValueProfile
import Mathlib.Data.List.Perm.Subperm

/-!
# Lists of value nodes

The nodes of a value site are linked by address, up to the address zero.  No node of such a list is
there twice: the rest of a list depends on the node alone, and would be longer than itself.  So a
list is no longer than there are nodes, and is followed to its end.

Main results:

- Theorem `IsList.unique`: the first address tells the list.
- Theorem `IsList.nodup`: no node is there twice.
- Theorem `IsList.chain_eq`: a list that is followed is the whole list.
- Theorem `lookup_clear`: clearing nodes changes their counts and nothing else.
- Theorem `clearRecord_eq`: walking the lists of a record, and clearing each node on the way, clears
  all nodes of the record.
-/

namespace CoverageWindows
namespace Heap

/-! ## Lists that end -/

/-- The addresses of the nodes of a list from an address on: the list ends at the address zero, and
each node tells the address of the next one. -/
inductive IsList (h : Heap) : UInt64 → List UInt64 → Prop where
  | nil : IsList h 0 []
  | cons {a : UInt64} {n : ValueNode} {rest : List UInt64} (ha : a ≠ 0)
      (hn : h.nodes.lookup a = some n) (hrest : IsList h n.next rest) : IsList h a (a :: rest)

namespace IsList

variable {h : Heap} {a : UInt64} {as : List UInt64}

/-- The first address tells the list. -/
theorem unique (hs : h.IsList a as) {bs : List UInt64} (ht : h.IsList a bs) : as = bs := by
  induction hs generalizing bs with
  | nil =>
      cases ht with
      | nil => rfl
      | cons ha _ _ => exact absurd rfl ha
  | cons ha hn _ ih =>
      cases ht with
      | nil => exact absurd rfl ha
      | cons _ hm hrest =>
          obtain rfl := Option.some.inj (hn.symm.trans hm)
          rw [ih hrest]

/-- From each of its nodes on, a list is a list. -/
theorem suffix (hs : h.IsList a as) {before after : List UInt64} {b : UInt64}
    (hsplit : as = before ++ b :: after) : h.IsList b (b :: after) := by
  induction hs generalizing before with
  | nil => simp at hsplit
  | cons ha hn hrest ih =>
      cases before with
      | nil =>
          obtain ⟨rfl, rfl⟩ := List.cons.inj hsplit
          exact .cons ha hn hrest
      | cons c before => exact ih (List.cons.inj hsplit).2

/-- No node of a list is there twice. -/
theorem nodup (hs : h.IsList a as) : as.Nodup := by
  induction hs with
  | nil => exact List.nodup_nil
  | @cons a n rest ha hn hrest ih =>
      refine List.nodup_cons.2 ⟨fun hmem => ?_, ih⟩
      -- from the second place on, the list would be the whole list again
      obtain ⟨before, after, hsplit⟩ := List.append_of_mem hmem
      have heq : a :: rest = a :: after := unique (.cons ha hn hrest) (hrest.suffix hsplit)
      have hlength := congrArg List.length ((List.cons.inj heq).2.symm.trans hsplit)
      simp only [List.length_append, List.length_cons] at hlength
      omega

/-- The nodes of a list are there. -/
theorem subset_nodes (hs : h.IsList a as) : as ⊆ h.nodes.map Prod.fst := by
  induction hs with
  | nil => exact List.nil_subset _
  | @cons a n rest ha hn hrest ih =>
      obtain ⟨before, after, hsplit, -⟩ := List.lookup_eq_some_iff.1 hn
      exact List.cons_subset.2 ⟨List.mem_map.2 ⟨(a, n), by simp [hsplit], rfl⟩, ih⟩

/-- A list has no more nodes than there are. -/
theorem length_le (hs : h.IsList a as) : as.length ≤ h.nodes.length := by
  have hle := (List.subperm_of_subset hs.nodup hs.subset_nodes).length_le
  rwa [List.length_map] at hle

/-- A list is followed to its end, if there are steps enough. -/
theorem chainUpTo_eq (hs : h.IsList a as) {steps : Nat} (hsteps : as.length ≤ steps) :
    h.chainUpTo steps a = as := by
  induction hs generalizing steps with
  | nil => cases steps <;> simp [chainUpTo]
  | @cons a n rest ha hn hrest ih =>
      cases steps with
      | zero => simp at hsteps
      | succ steps =>
          rw [chainUpTo, if_neg ha, hn]
          exact congrArg (a :: ·) (ih (Nat.le_of_succ_le_succ hsteps))

/-- A list that is followed is the whole list. -/
theorem chain_eq (hs : h.IsList a as) : h.chain a = as :=
  hs.chainUpTo_eq hs.length_le

end IsList

/-! ## Clearing nodes -/

/-- What is found after all values were changed is the changed value. -/
theorem lookup_map_snd {f : UInt64 → ValueNode → ValueNode} (l : List (UInt64 × ValueNode))
    (a : UInt64) : (l.map fun e => (e.1, f e.1 e.2)).lookup a = (l.lookup a).map (f a) := by
  induction l with
  | nil => rfl
  | cons e l ih =>
      obtain ⟨b, n⟩ := e
      rw [List.map_cons, List.lookup_cons, List.lookup_cons, ih]
      by_cases hab : a = b
      · simp [hab]
      · simp [beq_eq_false_iff_ne.2 hab]

/-- Clearing nodes changes their counts and nothing else. -/
theorem lookup_clear (h : Heap) (as : List UInt64) (a : UInt64) :
    (h.clear as).nodes.lookup a =
      (h.nodes.lookup a).map fun n => if a ∈ as then { n with count := 0 } else n := by
  rw [← lookup_map_snd (f := fun a n => if a ∈ as then { n with count := 0 } else n)]
  congr 1
  refine List.map_congr_left fun e _ => ?_
  split <;> rfl

@[simp]
theorem heads_clear (h : Heap) (as : List UInt64) : (h.clear as).heads = h.heads := rfl

@[simp]
theorem length_nodes_clear (h : Heap) (as : List UInt64) :
    (h.clear as).nodes.length = h.nodes.length := List.length_map ..

theorem clear_nil (h : Heap) : h.clear [] = h := by
  simp [clear]

/-- Nodes may be cleared in two steps. -/
theorem clear_append (h : Heap) (as bs : List UInt64) :
    h.clear (as ++ bs) = (h.clear as).clear bs := by
  simp only [clear, List.map_map]
  congr 1
  refine List.map_congr_left fun e _ => ?_
  by_cases has : e.1 ∈ as <;> by_cases hbs : e.1 ∈ bs <;> simp [has, hbs]

/-- Clearing leaves all links as they are. -/
theorem chainUpTo_clear (h : Heap) (as : List UInt64) (steps : Nat) (a : UInt64) :
    (h.clear as).chainUpTo steps a = h.chainUpTo steps a := by
  induction steps generalizing a with
  | zero => rfl
  | succ steps ih =>
      rw [chainUpTo, chainUpTo, lookup_clear]
      cases hn : h.nodes.lookup a with
      | none => rfl
      | some n =>
          have hnext : (if a ∈ as then { n with count := 0 } else n).next = n.next := by
            split <;> rfl
          simp [ih, hnext]

/-- Clearing nodes does not change what a site lists. -/
theorem siteChain_clear (h : Heap) (as : List UInt64) (heads : UInt64) (site : Nat) :
    (h.clear as).siteChain heads site = h.siteChain heads site := by
  simp only [siteChain, chain, heads_clear, length_nodes_clear, chainUpTo_clear]

/-- Clearing nodes does not change what a record lists. -/
theorem recordNodes_clear (h : Heap) (as : List UInt64) (r : DataRecord) :
    (h.clear as).recordNodes r = h.recordNodes r := by
  have hsites : (h.clear as).siteChain r.heads = h.siteChain r.heads :=
    funext (siteChain_clear h as r.heads)
  rw [recordNodes, recordNodes, hsites]

/-! ## Clearing on the way -/

/-- The memory after a list was walked from an address on, and how many nodes it has.  The count of
a node is cleared before the next node is looked up. -/
def clearFrom (h : Heap) : Nat → UInt64 → Heap × Nat
  | 0, _ => (h, 0)
  | steps + 1, a =>
      if a = 0 then (h, 0)
      else
        match h.nodes.lookup a with
        | none => (h, 0)
        | some n =>
            let (h', cleared) := (h.clear [a]).clearFrom steps n.next
            (h', cleared + 1)

/-- Walks the list of one site, after others were walked. -/
def clearSite (heads : UInt64) (walked : Heap × Nat) (site : Nat) : Heap × Nat :=
  match walked.1.heads.lookup (headAddress heads site) with
  | none => walked
  | some first =>
      let (h, cleared) := walked.1.clearFrom walked.1.nodes.length first
      (h, walked.2 + cleared)

/-- Walks the lists of one record, site by site, after others were walked. -/
def clearRecord (walked : Heap × Nat) (r : DataRecord) : Heap × Nat :=
  if r.heads = 0 then walked else (List.range r.siteCount).foldl (clearSite r.heads) walked

/-- Clearing a list on the way clears all its nodes. -/
theorem clearFrom_eq (h : Heap) (steps : Nat) (a : UInt64) :
    h.clearFrom steps a = (h.clear (h.chainUpTo steps a), (h.chainUpTo steps a).length) := by
  induction steps generalizing h a with
  | zero => simp [clearFrom, chainUpTo, clear_nil]
  | succ steps ih =>
      rw [clearFrom, chainUpTo]
      split
      · simp [clear_nil]
      · cases hn : h.nodes.lookup a with
        | none => simp [clear_nil]
        | some n => simp [ih, chainUpTo_clear, ← clear_append]

/-- Steps that each clear some nodes, which clearing does not change, clear them all. -/
theorem foldl_clear {β : Type} {step : Heap × Nat → β → Heap × Nat} {nodes : Heap → β → List UInt64}
    (hstep : ∀ h k b, step (h, k) b = (h.clear (nodes h b), k + (nodes h b).length))
    (hnodes : ∀ (h : Heap) as b, nodes (h.clear as) b = nodes h b) (bs : List β) (h : Heap)
    (k : Nat) :
    bs.foldl step (h, k) = (h.clear (bs.flatMap (nodes h)), k + (bs.flatMap (nodes h)).length) := by
  induction bs generalizing h k with
  | nil => simp [clear_nil]
  | cons b bs ih =>
      have hsame : nodes (h.clear (nodes h b)) = nodes h := funext (hnodes h (nodes h b))
      rw [List.foldl_cons, hstep, ih, hsame, ← clear_append, List.flatMap_cons, List.length_append,
        Nat.add_assoc]

/-- Walking a site clears and counts what the site lists. -/
theorem clearSite_eq (heads : UInt64) (h : Heap) (k site : Nat) :
    clearSite heads (h, k) site =
      (h.clear (h.siteChain heads site), k + (h.siteChain heads site).length) := by
  rw [clearSite, siteChain]
  cases h.heads.lookup (headAddress heads site) with
  | none => simp [clear_nil]
  | some first => simp [clearFrom_eq, chain]

/-- Walking a record clears and counts what the record lists. -/
theorem clearRecord_eq (h : Heap) (k : Nat) (r : DataRecord) :
    clearRecord (h, k) r = (h.clear (h.recordNodes r), k + (h.recordNodes r).length) := by
  rw [clearRecord, recordNodes]
  split
  · simp [clear_nil]
  · exact foldl_clear (clearSite_eq r.heads) (fun h as => siteChain_clear h as r.heads) _ h k

end Heap
end CoverageWindows
