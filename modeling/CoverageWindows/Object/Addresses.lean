import CoverageWindows.Failure
import CoverageWindows.Object.Format

/-!
# Addresses of symbols

An image that is loaded elsewhere than its file declares has all its addresses moved by the same
distance.  Wanted names are looked up in the static symbols first and in the dynamic ones after
them; only symbols that the file defines at an address other than zero count, and of several symbols
of one name the first one.
-/

namespace CoverageWindows

/-- An image that is loaded: its file, and how far its addresses are moved, modulo 2^64. -/
structure LoadedImage where
  path : Bytes
  slide : UInt64
  deriving DecidableEq, Repr

namespace LoadedImage

/-- Where something is that the file declares at an address. -/
def runtimeAddress (i : LoadedImage) (declared : UInt64) : UInt64 := declared + i.slide

end LoadedImage

/-- Names with their addresses, in the order in which they were found. -/
structure AddressTable where
  found : List (String × UInt64)
  deriving DecidableEq, Repr

namespace AddressTable

/-- The table without names. -/
def empty : AddressTable := ⟨[]⟩

/-- The address of a name. -/
def address? (t : AddressTable) (name : String) : Option UInt64 := t.found.lookup name

/-- The number of names. -/
def size (t : AddressTable) : Nat := t.found.length

/-- The table with one more name. -/
def add (t : AddressTable) (name : String) (address : UInt64) : AddressTable :=
  ⟨t.found ++ [(name, address)]⟩

/-- A name without the underscore that a format puts in front of it. -/
def plainName (underscored : Bool) (name : String) : String :=
  if underscored then
    match name.toList with
    | '_' :: rest => String.ofList rest
    | _ => name
  else name

/-- The name and the address that a symbol gives; a symbol that is not defined, has the address zero
or has no readable name gives none. -/
def entry? (underscored : Bool) (s : Symbol) : Option (String × UInt64) :=
  if s.isDefined && s.address != 0 then s.name.map fun n => (plainName underscored n, s.address)
  else none

/-- Looks for wanted names in a row of symbols, until all are found. -/
def search (i : LoadedImage) (underscored : Bool) (wanted : List String) :
    AddressTable → List Symbol → AddressTable
  | t, [] => t
  | t, s :: rest =>
      match entry? underscored s with
      | none => search i underscored wanted t rest
      | some (name, declared) =>
          if !wanted.contains name || (t.address? name).isSome then
            search i underscored wanted t rest
          else
            let t := t.add name (i.runtimeAddress declared)
            if t.size = wanted.length then t else search i underscored wanted t rest

/-- The addresses of wanted names in an object file. -/
def ofObject (o : ObjectFile) (i : LoadedImage) (wanted : List String) : AddressTable :=
  search i o.underscored wanted empty (o.symbols ++ o.dynamicSymbols)

/-- The addresses of wanted names in the file of an image. -/
def load (t : FileTree) (i : LoadedImage) (wanted : List String) : Except Failure AddressTable :=
  match t.read i.path with
  | .error f => .error (.files f)
  | .ok content =>
      match ObjectFile.parse? content with
      | none => .error (.unresolved .notObject)
      | some o => .ok (ofObject o i wanted)

end AddressTable
end CoverageWindows
