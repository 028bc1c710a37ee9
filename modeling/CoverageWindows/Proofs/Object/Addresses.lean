import CoverageWindows.Object.Addresses
import Mathlib.Algebra.GroupWithZero.Nat
import Mathlib.Data.List.Perm.Subperm

/-!
# Which symbol a name stands for

The symbols of a file are searched from the first static one to the last dynamic one.  A wanted name
gets the address of the first symbol that declares it: one that is defined, has an address other
than zero, and has a name that can be read and spells the wanted one.  All other symbols are as good
as absent.  The search may stop before the last symbol, but not before all wanted names are found.

Main results:

- Theorem `entry?_eq_some_iff`: what a symbol gives is what it declares.
- Theorem `search_eq_searchAll`: a search that stops early finds what one to the end finds.
- Theorem `address?_searchAll`: a search to the end gives a name the first address declared for it.
- Theorem `addresses_of_symbols`: the addresses of wanted names, for every object file.
-/

namespace CoverageWindows

/-! ## What symbols declare -/

/-- The names that texts of a file spell.  Where the format puts an underscore in front of each
name, a text without one spells itself. -/
inductive Spells : Bool → String → String → Prop where
  | plain (name : String) : Spells false name name
  | underscored {text name : String} (h : text.toList = '_' :: name.toList) : Spells true text name
  | bare {name : String} (h : name.toList.head? ≠ some '_') : Spells true name name

/-- A symbol declares a name: the file defines it, its address is not zero, and its own name can be
read and spells the name. -/
structure Symbol.Declares (underscored : Bool) (name : String) (s : Symbol) : Prop where
  isDefined : s.isDefined = true
  address_ne : s.address ≠ 0
  spelled : ∃ text, s.name = some text ∧ Spells underscored text name

/-- A symbol is the first one of a row that declares a name. -/
def Symbol.IsFirst (underscored : Bool) (name : String) (row : List Symbol) (s : Symbol) : Prop :=
  s.Declares underscored name ∧ ∃ before after, row = before ++ s :: after ∧
    ∀ t ∈ before, ¬ t.Declares underscored name

/-- Whether a symbol declares a name at all. -/
def Symbol.isUsable (s : Symbol) : Bool :=
  s.isDefined && s.address != 0 && s.name.isSome

namespace AddressTable

theorem lookup_cons_ne {name other : String} (h : name ≠ other) (a : UInt64)
    (l : List (String × UInt64)) : ((other, a) :: l).lookup name = l.lookup name := by
  rw [List.lookup_cons, beq_eq_false_iff_ne.2 h]

/-- A name is plain if the text of a symbol spells it. -/
theorem plainName_eq_iff (underscored : Bool) (text name : String) :
    plainName underscored text = name ↔ Spells underscored text name := by
  constructor
  · rintro rfl
    cases underscored with
    | false => exact .plain text
    | true =>
        rw [plainName, if_pos rfl]
        split
        · rename_i rest hrest
          exact .underscored (by rw [hrest, String.toList_ofList])
        · rename_i hbare
          refine .bare fun hhead => ?_
          rcases List.head?_eq_some_iff.1 hhead with ⟨rest, hrest⟩
          exact hbare rest hrest
  · intro h
    cases h with
    | plain => rfl
    | underscored h => simp [plainName, h]
    | bare h =>
        rw [plainName, if_pos rfl]
        split
        · rename_i rest hrest
          simp [hrest] at h
        · rfl

/-- What a symbol gives is what it declares. -/
theorem entry?_eq_some_iff (underscored : Bool) (s : Symbol) (name : String) (address : UInt64) :
    entry? underscored s = some (name, address) ↔
      s.Declares underscored name ∧ s.address = address := by
  unfold entry?
  constructor
  · intro h
    split at h
    · rename_i hgood
      rw [Bool.and_eq_true, bne_iff_ne] at hgood
      rcases Option.map_eq_some_iff.1 h with ⟨text, htext, heq⟩
      rcases Prod.mk.inj heq with ⟨hname, haddress⟩
      exact ⟨⟨hgood.1, hgood.2, text, htext, (plainName_eq_iff ..).1 hname⟩, haddress⟩
    · nomatch h
  · rintro ⟨⟨hdefined, haddress, text, htext, hspells⟩, rfl⟩
    rw [if_pos (by simp [hdefined, haddress]), htext, Option.map_some,
      (plainName_eq_iff ..).2 hspells]

/-- A symbol has no entry just if it is not usable. -/
theorem entry?_eq_none_iff (underscored : Bool) (s : Symbol) :
    entry? underscored s = none ↔ s.isUsable = false := by
  rw [Symbol.isUsable]
  unfold entry?
  cases s.isDefined && s.address != 0 <;> simp

/-- The names that the symbols of a row declare, with the addresses. -/
def declared (underscored : Bool) (row : List Symbol) : List (String × UInt64) :=
  row.filterMap fun s => entry? underscored s

/-- A row declares what its first symbol declares and what the others do. -/
theorem declared_cons (underscored : Bool) (s : Symbol) (row : List Symbol) :
    declared underscored (s :: row) = declared underscored [s] ++ declared underscored row :=
  List.filterMap_append (l := [s])

theorem declared_of_none {underscored : Bool} {s : Symbol} (h : entry? underscored s = none) :
    declared underscored [s] = [] := List.filterMap_cons_none h

theorem declared_of_some {underscored : Bool} {s : Symbol} {e : String × UInt64}
    (h : entry? underscored s = some e) : declared underscored [s] = [e] :=
  List.filterMap_cons_some h

/-- Symbols that are not usable declare nothing. -/
theorem declared_filter_isUsable (underscored : Bool) (row : List Symbol) :
    declared underscored (row.filter Symbol.isUsable) = declared underscored row := by
  rw [declared, List.filterMap_filter]
  refine List.filterMap_congr fun s _ => ?_
  cases h : s.isUsable with
  | false => exact ((entry?_eq_none_iff underscored s).2 h).symm
  | true => rfl

/-- The first address that a row declares for a name is that of the first symbol that declares
it. -/
theorem lookup_declared_eq_some_iff (underscored : Bool) (row : List Symbol) (name : String)
    (address : UInt64) :
    (declared underscored row).lookup name = some address ↔
      ∃ s : Symbol, s.IsFirst underscored name row ∧ s.address = address := by
  induction row with
  | nil => simp [declared, Symbol.IsFirst]
  | cons s row ih =>
      by_cases hs : s.Declares underscored name
      · have hentry := (entry?_eq_some_iff underscored s name s.address).2 ⟨hs, rfl⟩
        have hlookup : (declared underscored (s :: row)).lookup name = some s.address := by
          rw [declared_cons, declared_of_some hentry]
          exact List.lookup_cons_self
        rw [hlookup]
        constructor
        · intro h
          exact ⟨s, ⟨hs, [], row, rfl, nofun⟩, Option.some.inj h⟩
        · rintro ⟨t, ⟨ht, before, after, hsplit, hbefore⟩, rfl⟩
          cases before with
          | nil => rw [(List.cons.inj hsplit).1]
          | cons u before =>
              rw [← (List.cons.inj hsplit).1] at hbefore
              exact absurd hs (hbefore s List.mem_cons_self)
      · have hlookup : (declared underscored (s :: row)).lookup name =
            (declared underscored row).lookup name := by
          rw [declared_cons]
          cases hentry : entry? underscored s with
          | none => rw [declared_of_none hentry, List.nil_append]
          | some e =>
              have hne : name ≠ e.1 := by
                rintro rfl
                exact hs ((entry?_eq_some_iff underscored s e.1 e.2).1 hentry).1
              rw [declared_of_some hentry]
              exact lookup_cons_ne hne e.2 _
        rw [hlookup, ih]
        apply exists_congr
        intro t
        refine and_congr_left fun _ => and_congr_right fun ht => ⟨?_, ?_⟩
        · rintro ⟨before, after, rfl, hbefore⟩
          exact ⟨s :: before, after, rfl, List.forall_mem_cons.2 ⟨hs, hbefore⟩⟩
        · rintro ⟨before, after, hsplit, hbefore⟩
          cases before with
          | nil => exact absurd ((List.cons.inj hsplit).1 ▸ ht) hs
          | cons u before =>
              rcases List.cons.inj hsplit with ⟨-, rfl⟩
              exact ⟨before, after, rfl, fun v hv => hbefore v (List.mem_cons_of_mem u hv)⟩

/-! ## Searching to the end -/

/-- The table after one symbol was looked at. -/
def lookAt (i : LoadedImage) (underscored : Bool) (wanted : List String) (t : AddressTable)
    (s : Symbol) : AddressTable :=
  match entry? underscored s with
  | none => t
  | some (name, declared) =>
      if !wanted.contains name || (t.address? name).isSome then t
      else t.add name (i.runtimeAddress declared)

/-- Looks for wanted names in a row of symbols up to the last one, even where all are found. -/
def searchAll (i : LoadedImage) (underscored : Bool) (wanted : List String) (t : AddressTable)
    (row : List Symbol) : AddressTable :=
  row.foldl (lookAt i underscored wanted) t

/-- The names of a table are wanted ones, and none is there twice. -/
structure Within (wanted : List String) (t : AddressTable) : Prop where
  nodup : (t.found.map Prod.fst).Nodup
  wanted : ∀ e ∈ t.found, e.1 ∈ wanted

section Search

variable {i : LoadedImage} {underscored : Bool} {wanted : List String} {t : AddressTable}

/-- A name that is added keeps the address that it had before, if it had one. -/
theorem address?_add (t : AddressTable) (name other : String) (a : UInt64) :
    (t.add name a).address? other =
      (t.address? other).or (if other = name then some a else none) := by
  rw [address?, address?, add, List.lookup_append]
  by_cases h : other = name
  · rw [h, List.lookup_cons_self, if_pos rfl]
  · rw [lookup_cons_ne h, List.lookup_nil, if_neg h]

/-- A name without an address is not in the table. -/
theorem address?_eq_none_iff (t : AddressTable) (name : String) :
    t.address? name = none ↔ ∀ e ∈ t.found, e.1 ≠ name := by
  rw [address?, List.lookup_eq_none_iff]
  refine forall₂_congr fun e _ => ?_
  rw [bne_iff_ne, ne_comm]

/-- A symbol gives its address to a name that is wanted and has none yet. -/
theorem address?_lookAt (t : AddressTable) (s : Symbol) {name : String} (hname : name ∈ wanted) :
    (lookAt i underscored wanted t s).address? name =
      (t.address? name).or
        (((declared underscored [s]).lookup name).map i.runtimeAddress) := by
  rw [lookAt]
  cases hentry : entry? underscored s with
  | none => simp [declared_of_none hentry]
  | some e =>
      rw [declared_of_some hentry]
      obtain ⟨other, address⟩ := e
      by_cases heq : name = other
      · subst heq
        cases hold : t.address? name with
        | none => simp [hname, hold, address?_add]
        | some a => simp [hold]
      · have hlookup : [(other, address)].lookup name = none := lookup_cons_ne heq address []
        dsimp only
        split <;> simp [hlookup, address?_add, heq]

theorem Within.lookAt (h : t.Within wanted) (s : Symbol) :
    (lookAt i underscored wanted t s).Within wanted := by
  rw [AddressTable.lookAt]
  split
  · exact h
  · rename_i name declared hentry
    split
    · exact h
    · rename_i hnew
      simp only [Bool.or_eq_true, Bool.not_eq_true', List.contains_eq_mem, decide_eq_false_iff_not,
        not_or, not_not, Bool.not_eq_true, Option.isSome_eq_false_iff, Option.isNone_iff_eq_none]
        at hnew
      have hfresh := (address?_eq_none_iff t name).1 hnew.2
      refine ⟨?_, ?_⟩
      · rw [add, List.map_append, List.nodup_append]
        refine ⟨h.nodup, by simp, ?_⟩
        simpa using fun e he heq => hfresh e he heq
      · intro e he
        rcases List.mem_append.1 he with he | he
        · exact h.wanted e he
        · rw [List.mem_singleton.1 he]
          exact hnew.1

/-- As many names as are wanted, each of them wanted and none there twice, are all that are
wanted. -/
theorem Within.isSome_of_size (h : t.Within wanted) (hsize : t.size = wanted.length) :
    ∀ name ∈ wanted, (t.address? name).isSome = true := by
  have hsub : t.found.map Prod.fst ⊆ wanted := by
    intro name hname
    rcases List.mem_map.1 hname with ⟨e, he, rfl⟩
    exact h.wanted e he
  have hperm : (t.found.map Prod.fst).Perm wanted := by
    refine (List.subperm_of_subset h.nodup hsub).perm_of_length_le ?_
    rw [List.length_map]
    exact Nat.le_of_eq hsize.symm
  intro name hname
  rcases List.mem_map.1 (hperm.mem_iff.2 hname) with ⟨e, he, rfl⟩
  rw [Option.isSome_iff_ne_none, ne_eq, address?_eq_none_iff]
  exact fun hnone => hnone e he rfl

/-- Once all wanted names are found, a search to the end finds no more. -/
theorem searchAll_of_done (h : ∀ name ∈ wanted, (t.address? name).isSome = true)
    (row : List Symbol) : searchAll i underscored wanted t row = t := by
  have hstep : ∀ s, AddressTable.lookAt i underscored wanted t s = t := by
    intro s
    rw [lookAt]
    split
    · rfl
    · rename_i name declared _
      by_cases hname : name ∈ wanted
      · simp [h name hname]
      · simp [hname]
  induction row with
  | nil => rfl
  | cons s row ih => rwa [searchAll, List.foldl_cons, hstep]

/-- A search that stops when all wanted names are found finds what a search to the end finds. -/
theorem search_eq_searchAll (h : t.Within wanted) (row : List Symbol) :
    search i underscored wanted t row = searchAll i underscored wanted t row := by
  induction row generalizing t with
  | nil => rfl
  | cons s row ih =>
      have hnext : (AddressTable.lookAt i underscored wanted t s).Within wanted := h.lookAt s
      have hcons : searchAll i underscored wanted t (s :: row) =
          searchAll i underscored wanted (AddressTable.lookAt i underscored wanted t s) row := rfl
      rw [hcons, search]
      rw [AddressTable.lookAt] at hnext ⊢
      cases hentry : entry? underscored s with
      | none => exact ih h
      | some e =>
          obtain ⟨name, declared⟩ := e
          rw [hentry] at hnext
          dsimp only at hnext ⊢
          split at hnext
          · rename_i hskip
            rw [if_pos hskip, if_pos hskip]
            exact ih h
          · rename_i hnew
            rw [if_neg hnew, if_neg hnew]
            split
            · rename_i hsize
              exact (searchAll_of_done (hnext.isSome_of_size hsize) row).symm
            · exact ih hnext

/-- Searching a row adds wanted names only. -/
theorem Within.searchAll (h : t.Within wanted) (row : List Symbol) :
    (searchAll i underscored wanted t row).Within wanted := by
  induction row generalizing t with
  | nil => exact h
  | cons s row ih => exact ih (h.lookAt s)

/-- A search to the end gives a name the address that it had, or the first one declared for it. -/
theorem address?_searchAll (t : AddressTable) (row : List Symbol) {name : String}
    (hname : name ∈ wanted) :
    (searchAll i underscored wanted t row).address? name =
      (t.address? name).or
        (((declared underscored row).lookup name).map i.runtimeAddress) := by
  induction row generalizing t with
  | nil => simp [searchAll, declared]
  | cons s row ih =>
      have hcons : searchAll i underscored wanted t (s :: row) =
          searchAll i underscored wanted (AddressTable.lookAt i underscored wanted t s) row := rfl
      rw [hcons, ih, address?_lookAt t s hname, declared_cons _ s row, List.lookup_append,
        Option.map_or, Option.or_assoc]

theorem within_empty : empty.Within wanted := ⟨List.nodup_nil, nofun⟩

end Search

/-! ## Object files -/

/-- All symbols of an object file in the order in which they are searched. -/
def searched (o : ObjectFile) : List Symbol := o.symbols ++ o.dynamicSymbols

/-- The object file without the symbols that declare nothing. -/
def usablePart (o : ObjectFile) : ObjectFile where
  underscored := o.underscored
  symbols := o.symbols.filter Symbol.isUsable
  dynamicSymbols := o.dynamicSymbols.filter Symbol.isUsable

/-- A table has the addresses of the wanted names that an object file declares, moved as the image
is moved. -/
structure Resolves (o : ObjectFile) (i : LoadedImage) (wanted : List String) (t : AddressTable) :
    Prop where
  address : ∀ name address, t.address? name = some address ↔ name ∈ wanted ∧
    ∃ s : Symbol, s.IsFirst o.underscored name (searched o) ∧
      address.toNat = (s.address.toNat + i.slide.toNat) % 2 ^ 64
  static : ∀ name ∈ wanted, ∀ s : Symbol, s.IsFirst o.underscored name o.symbols →
    t.address? name = some (s.address + i.slide)
  wanted : ∀ e ∈ t.found, e.1 ∈ wanted
  nodup : (t.found.map Prod.fst).Nodup

/-- Stopping early does not change what is found. -/
theorem ofObject_eq_searchAll (o : ObjectFile) (i : LoadedImage) (wanted : List String) :
    ofObject o i wanted = searchAll i o.underscored wanted empty (searched o) :=
  search_eq_searchAll within_empty (searched o)

theorem within_ofObject (o : ObjectFile) (i : LoadedImage) (wanted : List String) :
    (ofObject o i wanted).Within wanted := by
  rw [ofObject_eq_searchAll]
  exact within_empty.searchAll (searched o)

/-- A name is wanted, and then has the first address declared for it, moved. -/
theorem address?_ofObject (o : ObjectFile) (i : LoadedImage) (wanted : List String)
    (name : String) :
    (ofObject o i wanted).address? name =
      if name ∈ wanted then
        ((declared o.underscored (searched o)).lookup name).map i.runtimeAddress
      else none := by
  split
  · rename_i hname
    rw [ofObject_eq_searchAll, address?_searchAll empty (searched o) hname]
    rfl
  · rename_i hname
    rw [address?_eq_none_iff]
    rintro e he rfl
    exact hname ((within_ofObject o i wanted).wanted e he)

/-- The first symbol of a name stays the first one when symbols are added behind. -/
theorem isFirst_append {underscored : Bool} {name : String} {row : List Symbol} {s : Symbol}
    (h : s.IsFirst underscored name row) (rest : List Symbol) :
    s.IsFirst underscored name (row ++ rest) := by
  obtain ⟨hs, before, after, rfl, hbefore⟩ := h
  exact ⟨hs, before, after ++ rest, by rw [List.append_assoc, List.cons_append], hbefore⟩

/-- The table of an object resolves the wanted names. -/
theorem resolves_ofObject (o : ObjectFile) (i : LoadedImage) (wanted : List String) :
    Resolves o i wanted (ofObject o i wanted) where
  address name address := by
    rw [address?_ofObject, Option.ite_none_right_eq_some, Option.map_eq_some_iff]
    refine and_congr_right fun _ => ?_
    constructor
    · rintro ⟨declared, hdeclared, rfl⟩
      obtain ⟨s, hs, rfl⟩ := (lookup_declared_eq_some_iff ..).1 hdeclared
      exact ⟨s, hs, UInt64.toNat_add ..⟩
    · rintro ⟨s, hs, haddress⟩
      refine ⟨s.address, (lookup_declared_eq_some_iff ..).2 ⟨s, hs, rfl⟩, ?_⟩
      rw [← UInt64.toNat_inj, LoadedImage.runtimeAddress, UInt64.toNat_add, haddress]
  static name hname s hs := by
    have hfirst : s.IsFirst o.underscored name (searched o) := isFirst_append hs o.dynamicSymbols
    rw [address?_ofObject, if_pos hname, (lookup_declared_eq_some_iff ..).2 ⟨s, hfirst, rfl⟩]
    rfl
  wanted := (within_ofObject o i wanted).wanted
  nodup := (within_ofObject o i wanted).nodup

/-- Symbols that declare nothing are as good as absent. -/
theorem address?_usablePart (o : ObjectFile) (i : LoadedImage) (wanted : List String)
    (name : String) :
    (ofObject (usablePart o) i wanted).address? name = (ofObject o i wanted).address? name := by
  have hrow : searched (usablePart o) = (searched o).filter Symbol.isUsable :=
    (List.filter_append ..).symm
  rw [address?_ofObject, address?_ofObject, hrow, usablePart, declared_filter_isUsable]

theorem exists_of_bind {α β : Type} {x : Option α} {f : α → Option β} {b : β}
    (h : (x >>= f) = some b) : ∃ a, f a = some b := by
  obtain ⟨a, -, ha⟩ := Option.bind_eq_some_iff.1 h
  exact ⟨a, ha⟩

/-- Names have an underscore in front in files of one format, which the first bytes tell. -/
theorem underscored_of_parse {content : Bytes} {o : ObjectFile}
    (h : ObjectFile.parse? content = some o) :
    o.underscored = true ↔ content.take 4 = [0xCF, 0xFA, 0xED, 0xFE] := by
  have helf : ∀ l, ObjectFile.Elf.parse? l content = some o → o.underscored = false := by
    intro l hl
    unfold ObjectFile.Elf.parse? at hl
    repeat obtain ⟨_, hl⟩ := exists_of_bind hl
    rw [← Option.some.inj hl]
  have hmach : ObjectFile.MachO.parse? content = some o → o.underscored = true := by
    intro hm
    unfold ObjectFile.MachO.parse? at hm
    repeat obtain ⟨_, hm⟩ := exists_of_bind hm
    rw [← Option.some.inj hm]
  unfold ObjectFile.parse? at h
  split at h
  · cases h
  · split at h
    · simp [helf _ h]
    · simp [helf _ h]
    · simp [hmach h]
    · cases h

/-- The addresses of wanted names, the same name wanted once or several times.  A file that can be
read and parsed has a table.  In it a wanted name has an address if one of the symbols declares it,
the static ones before the dynamic ones: that of the first such symbol, moved as the image is moved.
No other name is in the table.  Symbols that declare nothing hide no others, and to stop when all
names are found changes nothing. -/
theorem addresses_of_symbols (tree : FileTree) (i : LoadedImage) (wanted : List String) :
    (∀ t, load tree i wanted = .ok t ↔
      ∃ content o, tree.read i.path = .ok content ∧ ObjectFile.parse? content = some o ∧
        (o.underscored = true ↔ content.take 4 = [0xCF, 0xFA, 0xED, 0xFE]) ∧
        t = ofObject o i wanted) ∧
      ∀ o : ObjectFile,
        Resolves o i wanted (ofObject o i wanted) ∧
        (∀ name, (ofObject (usablePart o) i wanted).address? name =
          (ofObject o i wanted).address? name) ∧
        ofObject o i wanted = searchAll i o.underscored wanted empty (searched o) := by
  refine ⟨fun t => ?_, fun o => ⟨resolves_ofObject o i wanted, address?_usablePart o i wanted,
    ofObject_eq_searchAll o i wanted⟩⟩
  rw [load]
  cases hread : tree.read i.path with
  | error f => simp
  | ok content =>
      dsimp only
      cases hparse : ObjectFile.parse? content with
      | none => simp [hparse]
      | some o =>
          constructor
          · intro h
            exact ⟨content, o, rfl, hparse, underscored_of_parse hparse, (Except.ok.inj h).symm⟩
          · rintro ⟨content', o', hcontent, ho, -, rfl⟩
            obtain rfl := Except.ok.inj hcontent
            obtain rfl := Option.some.inj (hparse.symm.trans ho)
            rfl

/-- Two static symbols that declare nothing stand before a good one, and one name wraps around. -/
example :
    ofObject ⟨true, [⟨some "_f", 0, true⟩, ⟨none, 8, true⟩, ⟨some "_f", 16, true⟩],
      [⟨some "_f", 32, true⟩, ⟨some "__g", 0xFFFFFFFFFFFFFFFF, true⟩]⟩ ⟨[], 2⟩ ["f", "_g", "f"] =
      ⟨[("f", 18), ("_g", 1)]⟩ := by decide

end AddressTable
end CoverageWindows
