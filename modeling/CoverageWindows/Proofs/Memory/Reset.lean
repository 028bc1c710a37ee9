import CoverageWindows.Memory.Reset
import CoverageWindows.Proofs.Memory.ValueLists
import Mathlib.Algebra.GroupWithZero.Nat
import Mathlib.Data.Finset.Card

/-!
# What a reset changes

The data region is a row of records, each with an address of list heads and with its numbers of
value sites.  A reset fills the counters and the bitmap, and clears the nodes on the lists of all
sites of complete records; nothing else is changed.

Main results:

- Theorem `ofBytes_record`: where a record has its fields.
- Theorem `mem_listedNodes_iff`: the nodes that are cleared are those on the lists of sites.
- Theorem `length_listedNodes`: their number, where no two sites share a node.
- Theorem `clearValues_eq_walk`: the nodes may as well be cleared while the lists are walked.
- Theorem `reset_effects`: what a reset changes, in the regions and in the nodes.
-/

namespace CoverageWindows

/-! ## Data records -/

namespace ProfileRegions

/-- The size of a data record. -/
def recordSize : ProfileRegions → Nat
  | counters _ _ => 48
  | countersAndBitmap _ _ _ => 64

/-- The place in a record of the address of its list heads, a number of eight bytes. -/
def headsPlace : ProfileRegions → Nat
  | counters _ _ => 32
  | countersAndBitmap _ _ _ => 40

/-- The places in a record of its numbers of sites, each of two bytes: one for each kind of
values. -/
def sitePlaces : ProfileRegions → List Nat
  | counters _ _ => [44, 46]
  | countersAndBitmap _ _ _ => [52, 54, 56]

/-- All bytes of record number `k` are in the data region. -/
def HasRecord (r : ProfileRegions) (k : Nat) : Prop :=
  r.dataRegion.start + (k + 1) * r.recordSize ≤ r.dataRegion.stop

/-- A number in record number `k`, lowest byte first. -/
def recordNumber (r : ProfileRegions) (k place width : Nat) : Nat :=
  Bytes.readLE
    ((r.dataRegion.cells.drop (r.dataRegion.start + k * r.recordSize + place)).take width)

/-- The address of the list heads of record number `k`. -/
def headsOf (r : ProfileRegions) (k : Nat) : UInt64 :=
  UInt64.ofNat (r.recordNumber k r.headsPlace 8)

/-- The number of sites of record number `k`, those of all kinds. -/
def sitesOf (r : ProfileRegions) (k : Nat) : Nat :=
  (r.sitePlaces.map fun place => r.recordNumber k place 2).sum

/-- The records are read in the size that they have. -/
theorem layout_size (r : ProfileRegions) : r.layout.size = r.recordSize := by
  cases r <;> rfl

/-- The records are there that fit into the data region from its start on. -/
theorem lt_div_iff (r : ProfileRegions) (k : Nat) :
    k < r.dataRegion.length / r.layout.size ↔ r.HasRecord k := by
  have hpos : 0 < r.recordSize := by cases r <;> simp [recordSize]
  have hle : r.recordSize ≤ (k + 1) * r.recordSize := Nat.le_mul_of_pos_left _ k.succ_pos
  rw [layout_size, Nat.lt_iff_add_one_le, Nat.le_div_iff_mul_le hpos, Region.length, HasRecord]
  omega

/-- Bytes inside a record are bytes of the buffer. -/
theorem take_drop_record {r : ProfileRegions} {k place width : Nat} (hk : r.HasRecord k)
    (hplace : place + width ≤ r.recordSize) :
    ((((r.dataRegion.content.drop (k * r.recordSize)).take r.recordSize).drop place).take width) =
      (r.dataRegion.cells.drop (r.dataRegion.start + k * r.recordSize + place)).take width := by
  rw [HasRecord, Nat.succ_mul] at hk
  simp only [Region.content, Region.length, List.drop_take, List.take_take, List.drop_drop]
  congr 1
  omega

/-- The fields of a complete record. -/
theorem ofBytes_record {r : ProfileRegions} {k : Nat} (hk : r.HasRecord k) :
    let record := DataRecord.ofBytes r.layout
      ((r.dataRegion.content.drop (k * r.layout.size)).take r.layout.size)
    record.heads = r.headsOf k ∧ record.siteCount = r.sitesOf k := by
  have hfield : ∀ place width, place + width ≤ r.recordSize →
      Bytes.readLE ((((r.dataRegion.content.drop (k * r.recordSize)).take r.recordSize).drop
        place).take width) = r.recordNumber k place width :=
    fun place width hplace => congrArg Bytes.readLE (take_drop_record hk hplace)
  rw [layout_size]
  cases r with
  | counters c d =>
      refine ⟨congrArg UInt64.ofNat (hfield 32 8 (by simp [recordSize])), ?_⟩
      have h₁ := hfield 44 2 (by simp [recordSize])
      have h₂ := hfield 46 2 (by simp [recordSize])
      simp [DataRecord.siteCount, DataRecord.ofBytes, layout, Abi.recordLayout, List.range_succ,
        sitesOf, sitePlaces, h₁, h₂]
  | countersAndBitmap c d b =>
      refine ⟨congrArg UInt64.ofNat (hfield 40 8 (by simp [recordSize])), ?_⟩
      have h₁ := hfield 52 2 (by simp [recordSize])
      have h₂ := hfield 54 2 (by simp [recordSize])
      have h₃ := hfield 56 2 (by simp [recordSize])
      simp [DataRecord.siteCount, DataRecord.ofBytes, layout, Abi.recordLayout, List.range_succ,
        sitesOf, sitePlaces, h₁, h₂, h₃, Nat.add_assoc]

end ProfileRegions

/-! ## Lists of sites -/

namespace ProfileMemory

/-- Record number `k` is complete, has list heads, and has a site of that number. -/
structure HasSite (m : ProfileMemory) (k site : Nat) : Prop where
  record : m.regions.HasRecord k
  heads : m.regions.headsOf k ≠ 0
  site : site < m.regions.sitesOf k

/-- The list of a site: its head is one of the record's list heads, of eight bytes each, and it ends
at the address zero. -/
def SiteList (m : ProfileMemory) (k site : Nat) (as : List UInt64) : Prop :=
  ∃ first, m.heap.heads.lookup (m.regions.headsOf k + UInt64.ofNat (8 * site)) = some first ∧
    m.heap.IsList first as

/-- There is a list head for each site, and the list ends. -/
def WellLinked (m : ProfileMemory) : Prop :=
  ∀ k site, m.HasSite k site → ∃ as, m.SiteList k site as

/-- A node is on the list of a site. -/
def OnSite (m : ProfileMemory) (k site : Nat) (a : UInt64) : Prop :=
  m.HasSite k site ∧ ∃ as, m.SiteList k site as ∧ a ∈ as

/-- A node is on the list of some site. -/
def Listed (m : ProfileMemory) (a : UInt64) : Prop :=
  ∃ k site, m.OnSite k site a

/-- No two sites share a node. -/
def Unshared (m : ProfileMemory) : Prop :=
  ∀ a k site k' site', m.OnSite k site a → m.OnSite k' site' a → k = k' ∧ site = site'

/-- The nodes of record number `k`, site by site. -/
def nodesOf (m : ProfileMemory) (k : Nat) : List UInt64 :=
  if m.regions.headsOf k = 0 then []
  else (List.range (m.regions.sitesOf k)).flatMap (m.heap.siteChain (m.regions.headsOf k))

/-- The list of a site is what is followed from its head. -/
theorem siteChain_eq {m : ProfileMemory} {k site : Nat} {as : List UInt64}
    (h : m.SiteList k site as) : m.heap.siteChain (m.regions.headsOf k) site = as := by
  obtain ⟨first, hfirst, hlist⟩ := h
  rw [Heap.siteChain, Heap.headAddress, hfirst]
  exact hlist.chain_eq

/-- The nodes that are listed are those of the complete records, one record after the other. -/
theorem listedNodes_eq (m : ProfileMemory) :
    m.listedNodes m.regions.layout =
      (List.range (m.regions.dataRegion.length / m.regions.layout.size)).flatMap m.nodesOf := by
  rw [listedNodes, DataRecord.ofRegion, List.flatMap_map]
  refine List.flatMap_congr fun k hk => ?_
  obtain ⟨hheads, hsites⟩ :=
    ProfileRegions.ofBytes_record ((m.regions.lt_div_iff k).1 (List.mem_range.1 hk))
  rw [Heap.recordNodes, hheads, hsites, nodesOf]

section WellLinked

variable {m : ProfileMemory} (h : m.WellLinked)

include h

/-- Following a site comes to the nodes on it. -/
theorem mem_siteChain_iff {k site : Nat} (hsite : m.HasSite k site) (a : UInt64) :
    a ∈ m.heap.siteChain (m.regions.headsOf k) site ↔ m.OnSite k site a := by
  obtain ⟨as, has⟩ := h k site hsite
  constructor
  · intro ha
    exact ⟨hsite, as, has, siteChain_eq has ▸ ha⟩
  · rintro ⟨-, bs, hbs, ha⟩
    rwa [siteChain_eq hbs]

/-- The nodes of a record are those on its sites. -/
theorem mem_nodesOf_iff {k : Nat} (hk : m.regions.HasRecord k) (a : UInt64) :
    a ∈ m.nodesOf k ↔ ∃ site, m.OnSite k site a := by
  rw [nodesOf]
  split
  · rename_i hnull
    exact ⟨fun ha => absurd ha List.not_mem_nil, fun ⟨_, hsite, _⟩ => absurd hnull hsite.heads⟩
  · rename_i hheads
    rw [List.mem_flatMap]
    constructor
    · rintro ⟨site, hsite, ha⟩
      exact ⟨site, (mem_siteChain_iff h ⟨hk, hheads, List.mem_range.1 hsite⟩ a).1 ha⟩
    · rintro ⟨site, hsite⟩
      exact ⟨site, List.mem_range.2 hsite.1.site, (mem_siteChain_iff h hsite.1 a).2 hsite⟩

/-- The nodes that are cleared are those on the lists of sites. -/
theorem mem_listedNodes_iff (a : UInt64) :
    a ∈ m.listedNodes m.regions.layout ↔ m.Listed a := by
  rw [listedNodes_eq, List.mem_flatMap]
  refine exists_congr fun k => ?_
  rw [List.mem_range, m.regions.lt_div_iff]
  constructor
  · rintro ⟨hk, ha⟩
    exact (mem_nodesOf_iff h hk a).1 ha
  · rintro ⟨site, hsite⟩
    exact ⟨hsite.1.record, (mem_nodesOf_iff h hsite.1.record a).2 ⟨site, hsite⟩⟩

/-- Where no two sites share a node, no record lists a node twice. -/
theorem nodup_nodesOf (hun : m.Unshared) {k : Nat} (hk : m.regions.HasRecord k) :
    (m.nodesOf k).Nodup := by
  rw [nodesOf]
  split
  · exact List.nodup_nil
  · rename_i hheads
    have hsite : ∀ site ∈ List.range (m.regions.sitesOf k), m.HasSite k site :=
      fun site hs => ⟨hk, hheads, List.mem_range.1 hs⟩
    refine List.nodup_flatMap.2 ⟨fun site hs => ?_, ?_⟩
    · obtain ⟨as, has⟩ := h k site (hsite site hs)
      rw [siteChain_eq has]
      obtain ⟨_, -, hlist⟩ := has
      exact hlist.nodup
    · refine List.nodup_range.pairwise_of_forall_ne fun s hs t ht hne a has hat => hne ?_
      exact (hun a k s k t ((mem_siteChain_iff h (hsite s hs) a).1 has)
        ((mem_siteChain_iff h (hsite t ht) a).1 hat)).2

/-- Where no two sites share a node, no node is listed twice. -/
theorem nodup_listedNodes (hun : m.Unshared) : (m.listedNodes m.regions.layout).Nodup := by
  have hrecord : ∀ k ∈ List.range (m.regions.dataRegion.length / m.regions.layout.size),
      m.regions.HasRecord k :=
    fun k hk => (m.regions.lt_div_iff k).1 (List.mem_range.1 hk)
  rw [listedNodes_eq]
  refine List.nodup_flatMap.2 ⟨fun k hk => nodup_nodesOf h hun (hrecord k hk), ?_⟩
  refine List.nodup_range.pairwise_of_forall_ne fun k hk l hl hne a hak hal => hne ?_
  obtain ⟨s, hs⟩ := (mem_nodesOf_iff h (hrecord k hk) a).1 hak
  obtain ⟨t, ht⟩ := (mem_nodesOf_iff h (hrecord l hl) a).1 hal
  exact (hun a k s l t hs ht).1

/-- Where no two sites share a node, as many nodes are cleared as are on the lists. -/
theorem length_listedNodes (hun : m.Unshared) :
    ∃ s : Finset UInt64, (∀ a, a ∈ s ↔ m.Listed a) ∧ m.clearValues.2 = s.card :=
  ⟨(m.listedNodes m.regions.layout).toFinset,
    fun a => List.mem_toFinset.trans (mem_listedNodes_iff h a),
    (List.toFinset_card_of_nodup (nodup_listedNodes h hun)).symm⟩

end WellLinked

/-- Clearing the nodes of all records is walking the lists, record by record and site by site. -/
theorem clearValues_eq_walk (m : ProfileMemory) :
    (m.clearValues.1.heap, m.clearValues.2) =
      (DataRecord.ofRegion m.regions.layout m.regions.dataRegion).foldl Heap.clearRecord
        (m.heap, 0) := by
  rw [Heap.foldl_clear Heap.clearRecord_eq Heap.recordNodes_clear, Nat.zero_add]
  rfl

/-! ## Resetting -/

/-- What a reset changes, and what it leaves as it is. -/
structure ResetTo (m : ProfileMemory) (version : UInt64) (m' : ProfileMemory) : Prop where
  /-- The counters say that nothing has run. -/
  counters : m.regions.countersRegion.FilledWith (if version.toNat.testBit 60 then 0xFF else 0)
    m'.regions.countersRegion
  /-- The bitmap is empty, if there is one. -/
  bitmap : Option.Rel (fun b b' => b.FilledWith 0 b') m.regions.bitmapRegion?
    m'.regions.bitmapRegion?
  data : m'.regions.dataRegion = m.regions.dataRegion
  heads : m'.heap.heads = m.heap.heads
  /-- The counts of the nodes on the lists of sites are zero. -/
  listed : ∀ a n, m.Listed a → m.heap.nodes.lookup a = some n →
    m'.heap.nodes.lookup a = some { n with count := 0 }
  /-- All other nodes are as before, and there are no new ones. -/
  others : ∀ a, ¬ m.Listed a → m'.heap.nodes.lookup a = m.heap.nodes.lookup a

/-- The counters are filled as the version says. -/
theorem countersRegion_reset (m : ProfileMemory) (version : UInt64) :
    (m.reset version).regions.countersRegion =
      m.regions.countersRegion.fill (counterFill version) := by
  obtain ⟨regions, heap⟩ := m
  cases regions <;> rfl

/-- The bitmap, if there is one, is filled with zeros. -/
theorem bitmapRegion?_reset (m : ProfileMemory) (version : UInt64) :
    (m.reset version).regions.bitmapRegion? = m.regions.bitmapRegion?.map (Region.fill · 0) := by
  obtain ⟨regions, heap⟩ := m
  cases regions <;> rfl

/-- The nodes that are listed are cleared. -/
theorem heap_reset (m : ProfileMemory) (version : UInt64) :
    (m.reset version).heap = m.heap.clear (m.listedNodes m.regions.layout) := rfl

/-- A reset changes well linked memory as it should. -/
theorem resetTo_reset {m : ProfileMemory} (h : m.WellLinked) (version : UInt64) :
    m.ResetTo version (m.reset version) where
  counters := by
    rw [countersRegion_reset]
    exact Region.filledWith_fill _ _
  bitmap := by
    rw [bitmapRegion?_reset]
    cases m.regions.bitmapRegion? with
    | none => exact .none
    | some b => exact .some (Region.filledWith_fill b 0)
  data := data_reset m version
  heads := rfl
  listed a n ha hn := by
    rw [heap_reset, Heap.lookup_clear, hn, Option.map_some, if_pos ((mem_listedNodes_iff h a).2 ha)]
  others a ha := by
    have hmem : a ∉ m.listedNodes m.regions.layout := mt (mem_listedNodes_iff h a).1 ha
    simp [heap_reset, Heap.lookup_clear, hmem]

/-- A reset fills the counters, empties the bitmap, and clears the nodes on the lists of all sites
of complete records, which is what walking the lists does; their number is told where no two sites
share a node. -/
theorem reset_effects (m : ProfileMemory) (version : UInt64) (h : m.WellLinked) :
    m.ResetTo version (m.reset version) ∧
      m.clearValues.1 = ⟨m.regions, (m.reset version).heap⟩ ∧
      (m.clearValues.1.heap, m.clearValues.2) =
        (DataRecord.ofRegion m.regions.layout m.regions.dataRegion).foldl Heap.clearRecord
          (m.heap, 0) ∧
      (m.Unshared → ∃ s : Finset UInt64, (∀ a, a ∈ s ↔ m.Listed a) ∧ m.clearValues.2 = s.card) :=
  ⟨resetTo_reset h version, rfl, clearValues_eq_walk m, length_listedNodes h⟩

/-- Two records behind three other bytes, and the beginning of a third one: the first record has no
list heads; the second one has two sites, with a list of two nodes and an empty one, and a further
list head. -/
def twoRecords : ProfileMemory where
  regions :=
    let layout := Abi.llvm19.recordLayout
    .countersAndBitmap ⟨[1, 2, 3, 4], 1, 3⟩
      ⟨[7, 7, 7] ++ DataRecord.toBytes layout ⟨0, [1, 0, 0]⟩ ++
        DataRecord.toBytes layout ⟨0x2000, [1, 0, 1]⟩ ++ [1, 2], 3, 133⟩
      ⟨[5, 6], 1, 0⟩
  heap :=
    ⟨[(0x2000, 0x3000), (0x2008, 0), (0x2010, 0x3030)],
      [(0x3000, ⟨11, 1, 0x3018⟩), (0x3018, ⟨12, 2, 0⟩), (0x3030, ⟨13, 3, 0⟩)]⟩

theorem record_twoRecords {k : Nat} (hk : twoRecords.regions.HasRecord k) : k < 2 := by
  have hstop : 3 + (k + 1) * 64 ≤ 133 := hk
  omega

/-- Only the second record has sites, two of them. -/
theorem site_twoRecords {k site : Nat} (h : twoRecords.HasSite k site) : k = 1 ∧ site < 2 := by
  obtain ⟨hrecord, hheads, hsite⟩ := h
  obtain rfl | rfl : k = 0 ∨ k = 1 := by
    have hlt := record_twoRecords hrecord
    omega
  · exact absurd (by decide) hheads
  · exact ⟨rfl, Nat.lt_of_lt_of_eq hsite (by decide)⟩

/-- The first of them lists two nodes. -/
theorem first_twoRecords : twoRecords.SiteList 1 0 [0x3000, 0x3018] := by
  refine ⟨0x3000, by decide, ?_⟩
  have hlast : twoRecords.heap.IsList 0x3018 [0x3018] :=
    .cons (n := ⟨12, 2, 0⟩) (by decide) rfl .nil
  exact .cons (n := ⟨11, 1, 0x3018⟩) (by decide) rfl hlast

theorem second_twoRecords : twoRecords.SiteList 1 1 [] :=
  ⟨0, by decide, .nil⟩

/-- Every site leads to a list. -/
theorem wellLinked_twoRecords : twoRecords.WellLinked := by
  intro k site h
  obtain ⟨rfl, hsite⟩ := site_twoRecords h
  obtain rfl | rfl : site = 0 ∨ site = 1 := by omega
  · exact ⟨_, first_twoRecords⟩
  · exact ⟨_, second_twoRecords⟩

theorem unshared_twoRecords : twoRecords.Unshared := by
  have hzero : ∀ k site a, twoRecords.OnSite k site a → k = 1 ∧ site = 0 := by
    rintro k site a ⟨h, as, has, ha⟩
    obtain ⟨rfl, hsite⟩ := site_twoRecords h
    obtain rfl | rfl : site = 0 ∨ site = 1 := by omega
    · exact ⟨rfl, rfl⟩
    · have hnil : as = [] := (siteChain_eq has).symm.trans (siteChain_eq second_twoRecords)
      exact absurd (hnil ▸ ha) List.not_mem_nil
  intro a k site k' site' h h'
  obtain ⟨rfl, rfl⟩ := hzero k site a h
  obtain ⟨rfl, rfl⟩ := hzero k' site' a h'
  exact ⟨rfl, rfl⟩

/-- In the memory of two records, two nodes are cleared; the third one is not on the list of a
site. -/
theorem reset_effects_twoRecords :
    twoRecords.WellLinked ∧
      twoRecords.ResetTo 0x1000000000000000 (twoRecords.reset 0x1000000000000000) ∧
      (∃ s : Finset UInt64, (∀ a, a ∈ s ↔ twoRecords.Listed a) ∧
        twoRecords.clearValues.2 = s.card) ∧
      twoRecords.clearValues.2 = 2 ∧
      (twoRecords.reset 0x1000000000000000).regions.countersRegion.cells = [1, 0xFF, 0xFF, 4] ∧
      (twoRecords.reset 0x1000000000000000).regions.bitmapRegion? = some ⟨[5, 6], 1, 0⟩ ∧
      (twoRecords.reset 0x1000000000000000).heap.nodes =
        [(0x3000, ⟨11, 0, 0x3018⟩), (0x3018, ⟨12, 0, 0⟩), (0x3030, ⟨13, 3, 0⟩)] := by
  obtain ⟨hreset, -, -, hnumber⟩ :=
    reset_effects twoRecords 0x1000000000000000 wellLinked_twoRecords
  exact ⟨wellLinked_twoRecords, hreset, hnumber unshared_twoRecords, by decide, by decide,
    by decide, by decide⟩

end ProfileMemory
end CoverageWindows
