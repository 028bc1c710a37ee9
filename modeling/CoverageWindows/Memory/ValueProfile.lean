import CoverageWindows.Abi
import CoverageWindows.Memory.Region

/-!
# Value profiles

The data region of an image is a row of records.  A record says how many value sites of each kind it
has and where their list heads stand; each site is a list of nodes, linked by address and ended by
the address zero.  Clearing a value profile sets the counts of all listed nodes to zero.

Main results:

- Theorem `ofBytes_toBytes`: what a record says is read back from its bytes.
-/

namespace CoverageWindows

/-! ## Records -/

/-- Where a record has its fields: its size, the place of the address of the list heads, the place
of the site counts, and the number of value kinds. -/
structure RecordLayout where
  size : Nat
  headsAt : Nat
  sitesAt : Nat
  kinds : Nat
  deriving DecidableEq, Repr

/-- The records of an interface. -/
def Abi.recordLayout : Abi → RecordLayout
  | .llvm17 => ⟨48, 32, 44, 2⟩
  | .llvm19 => ⟨64, 40, 52, 3⟩

/-- What a record says about its value sites. -/
structure DataRecord where
  heads : UInt64
  sites : List Nat
  deriving DecidableEq, Repr

namespace DataRecord

/-- The number of sites of all kinds. -/
def siteCount (r : DataRecord) : Nat := r.sites.foldl (· + ·) 0

/-- The record that bytes of full size hold. -/
def ofBytes (l : RecordLayout) (b : Bytes) : DataRecord where
  heads := UInt64.ofNat (Bytes.readLE ((b.drop l.headsAt).take 8))
  sites := (List.range l.kinds).map fun k => Bytes.readLE ((b.drop (l.sitesAt + 2 * k)).take 2)

/-- The bytes of a record; fields that say nothing about value sites are zero. -/
def toBytes (l : RecordLayout) (r : DataRecord) : Bytes :=
  let body :=
    List.replicate l.headsAt 0 ++ Bytes.ofWord r.heads ++
      List.replicate (l.sitesAt - (l.headsAt + 8)) 0 ++ r.sites.flatMap (Bytes.writeLE 2)
  body ++ List.replicate (l.size - body.length) 0

/-- The complete records of a data region; what is left at its end does not count. -/
def ofRegion (l : RecordLayout) (r : Region) : List DataRecord :=
  (List.range (r.length / l.size)).map fun k =>
    ofBytes l ((r.content.drop (k * l.size)).take l.size)

/-- What a record of an interface says, with one number of sites below 2^16 for each kind of values,
is read back from its bytes. -/
theorem ofBytes_toBytes (a : Abi) {r : DataRecord}
    (hkinds : r.sites.length = a.recordLayout.kinds) (hsites : ∀ n ∈ r.sites, n < 65536) :
    ofBytes a.recordLayout (toBytes a.recordLayout r) = r := by
  obtain ⟨heads, sites⟩ := r
  have hword : Bytes.readLE (Bytes.writeLE 8 heads.toNat) = heads.toNat := by
    rw [Bytes.readLE_writeLE]
    exact Nat.mod_eq_of_lt heads.toNat_lt
  have hsite : ∀ n ∈ sites, Bytes.readLE (Bytes.writeLE 2 n) = n := by
    intro n hn
    rw [Bytes.readLE_writeLE]
    exact Nat.mod_eq_of_lt (hsites n hn)
  -- The sites are one for each kind, so both layouts come down to places in a row of known length.
  cases a with
  | llvm17 =>
      match sites, hkinds with
      | [m, n], _ =>
          simp [ofBytes, toBytes, Abi.recordLayout, Bytes.ofWord, List.drop_append, List.range_succ,
            List.drop_eq_nil_of_le, List.take_of_length_le, hword, hsite]
  | llvm19 =>
      match sites, hkinds with
      | [m, n, k], _ =>
          simp [ofBytes, toBytes, Abi.recordLayout, Bytes.ofWord, List.drop_append, List.range_succ,
            List.drop_eq_nil_of_le, hword, hsite]

end DataRecord

/-! ## Nodes -/

/-- A recorded value, how often it was seen, and the address of the next node. -/
structure ValueNode where
  value : UInt64
  count : UInt64
  next : UInt64
  deriving DecidableEq, Repr

/-- The memory that value profiles stand in: list heads and nodes by their addresses. -/
structure Heap where
  heads : List (UInt64 × UInt64)
  nodes : List (UInt64 × ValueNode)
  deriving DecidableEq, Repr

namespace Heap

/-- The memory without value profiles. -/
def empty : Heap := ⟨[], []⟩

/-- The addresses of a list of nodes from an address on.  No list has more nodes than there are, so
the number of nodes bounds the steps. -/
def chainUpTo (h : Heap) : Nat → UInt64 → List UInt64
  | 0, _ => []
  | steps + 1, address =>
      if address = 0 then []
      else
        match h.nodes.lookup address with
        | none => []
        | some n => address :: h.chainUpTo steps n.next

/-- The addresses of the nodes of a list. -/
def chain (h : Heap) (address : UInt64) : List UInt64 :=
  h.chainUpTo h.nodes.length address

/-- The address of a site's list head. -/
def headAddress (heads : UInt64) (site : Nat) : UInt64 :=
  heads + UInt64.ofNat (8 * site)

/-- The addresses of the nodes of one site. -/
def siteChain (h : Heap) (heads : UInt64) (site : Nat) : List UInt64 :=
  match h.heads.lookup (headAddress heads site) with
  | none => []
  | some first => h.chain first

/-- The addresses of all nodes that a record lists, site by site; a record without list heads lists
none. -/
def recordNodes (h : Heap) (r : DataRecord) : List UInt64 :=
  if r.heads = 0 then []
  else (List.range r.siteCount).flatMap (h.siteChain r.heads)

/-- The memory in which the nodes at the given addresses have the count zero. -/
def clear (h : Heap) (addresses : List UInt64) : Heap :=
  { h with
    nodes := h.nodes.map fun e => if e.1 ∈ addresses then (e.1, { e.2 with count := 0 }) else e }

end Heap

end CoverageWindows
