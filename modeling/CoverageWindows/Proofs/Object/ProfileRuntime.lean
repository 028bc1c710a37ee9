import CoverageWindows.Object.ProfileRuntime
import CoverageWindows.Proofs.Object.Addresses

/-!
# Which images are instrumented

An image that is moved and whose file can be read and parsed is instrumented if each required name
is declared in the file at an address that is not zero once it is moved.  A name whose address wraps
around to zero is in the table of addresses and is no part of the runtime all the same.  The two
bounds of the bitmap count together: with one of them missing the image has no bitmap, but all else.

Main results:

- Theorem `part?_eq_some_iff`: the part of a runtime is where its name resolves to.
- Theorem `ofTable?_eq_some_iff`: a runtime is found exactly where its parts are.
- Theorem `resolve_eq_some_iff`: the runtime that an image has.
- Theorem `runtime_of_image`: which images have a runtime, which of them a bitmap, and which regions
  they offer to each interface.
-/

namespace CoverageWindows

/-- A table is loaded from a file that can be read and parsed, and from no other one. -/
theorem AddressTable.load_eq_ok_iff {t : FileTree} {i : LoadedImage} {wanted : List String}
    {table : AddressTable} :
    load t i wanted = .ok table ↔ ∃ content o, t.read i.path = .ok content ∧
      ObjectFile.parse? content = some o ∧ ofObject o i wanted = table := by
  rw [load]
  cases t.read i.path with
  | error f => simp
  | ok content => cases h : ObjectFile.parse? content <;> simp [h]

namespace ProfileRuntime

/-! ## Names that resolve -/

/-- A name resolves in an image to an address: that of the first symbol that declares the name,
moved as the image is moved, unless that is zero. -/
structure ResolvesTo (o : ObjectFile) (i : LoadedImage) (name : String) (a : UInt64) : Prop where
  declared : ∃ s : Symbol, s.IsFirst o.underscored name (AddressTable.searched o) ∧
    a.toNat = (s.address.toNat + i.slide.toNat) % 2 ^ 64
  ne_zero : a ≠ 0

/-- A name resolves in an image. -/
def Resolves (o : ObjectFile) (i : LoadedImage) (name : String) : Prop :=
  ∃ a, ResolvesTo o i name a

/-- Both bounds of a region resolve. -/
structure HasBounds (o : ObjectFile) (i : LoadedImage) (region : String) (b : RegionBounds) :
    Prop where
  start : ResolvesTo o i (nameOf ("begin_" ++ region)) b.start
  stop : ResolvesTo o i (nameOf ("end_" ++ region)) b.stop

/-- The parts of a runtime are where their names resolve to, and it has no optional part whose name
does not resolve. -/
structure Describes (o : ObjectFile) (i : LoadedImage) (r : ProfileRuntime) : Prop where
  path : r.path = i.path
  opening : ResolvesTo o i (nameOf "initialize") r.opening
  writing : ResolvesTo o i (nameOf "write_file") r.writing
  sizing : ResolvesTo o i (nameOf "set_page_size") r.sizing
  counters : HasBounds o i "counters" r.counters
  data : HasBounds o i "data" r.data
  version : ∀ a, r.version = some a ↔ ResolvesTo o i (nameOf "get_version") a
  bitmap : ∀ b, r.bitmap = some b ↔ HasBounds o i "bitmap" b

section Tables

variable {o : ObjectFile} {i : LoadedImage}

/-- The table of addresses that an image is resolved with. -/
def tableOf (o : ObjectFile) (i : LoadedImage) : AddressTable :=
  .ofObject o i (requiredNames ++ optionalNames)

/-- The part of a runtime is where its name resolves to. -/
theorem part?_eq_some_iff (o : ObjectFile) (i : LoadedImage) (part : String)
    (h : nameOf part ∈ requiredNames ++ optionalNames) (a : UInt64) :
    part? (tableOf o i) part = some a ↔ ResolvesTo o i (nameOf part) a := by
  rw [part?, tableOf, Option.filter_eq_some_iff, bne_iff_ne,
    (AddressTable.resolves_ofObject o i (requiredNames ++ optionalNames)).address]
  exact ⟨fun ⟨⟨_, hs⟩, hne⟩ => ⟨hs, hne⟩, fun ⟨hs, hne⟩ => ⟨⟨h, hs⟩, hne⟩⟩

/-- A region has the bounds that its two names resolve to. -/
theorem bounds?_eq_some_iff (o : ObjectFile) (i : LoadedImage) (region : String)
    (hstart : nameOf ("begin_" ++ region) ∈ requiredNames ++ optionalNames)
    (hstop : nameOf ("end_" ++ region) ∈ requiredNames ++ optionalNames) (b : RegionBounds) :
    bounds? (tableOf o i) region = some b ↔ HasBounds o i region b := by
  rw [bounds?]
  simp only [Option.bind_eq_bind, Option.bind_eq_some_iff, part?_eq_some_iff o i _ hstart,
    part?_eq_some_iff o i _ hstop]
  constructor
  · rintro ⟨start, hs, stop, hp, heq⟩
    obtain rfl := Option.some.inj heq
    exact ⟨hs, hp⟩
  · intro h
    exact ⟨b.start, h.start, b.stop, h.stop, rfl⟩

/-- A runtime is found exactly where its parts are. -/
theorem ofTable?_eq_some_iff (r : ProfileRuntime) :
    ofTable? i.path (tableOf o i) = some r ↔ Describes o i r := by
  have hopening := part?_eq_some_iff o i "initialize" (by decide)
  have hwriting := part?_eq_some_iff o i "write_file" (by decide)
  have hsizing := part?_eq_some_iff o i "set_page_size" (by decide)
  have hversion := part?_eq_some_iff o i "get_version" (by decide)
  have hcounters := bounds?_eq_some_iff o i "counters" (by decide) (by decide)
  have hdata := bounds?_eq_some_iff o i "data" (by decide) (by decide)
  have hbitmap := bounds?_eq_some_iff o i "bitmap" (by decide) (by decide)
  rw [ofTable?]
  simp only [Option.bind_eq_bind, Option.bind_eq_some_iff, hopening, hwriting, hsizing, hcounters,
    hdata]
  constructor
  · rintro ⟨a, ha, b, hb, c, hc, d, hd, e, he, heq⟩
    obtain rfl := Option.some.inj heq
    exact ⟨rfl, ha, hb, hc, hd, he, hversion, hbitmap⟩
  · intro h
    refine ⟨_, h.opening, _, h.writing, _, h.sizing, _, h.counters, _, h.data, ?_⟩
    have hver : part? (tableOf o i) "get_version" = r.version :=
      Option.ext fun a => (hversion a).trans (h.version a).symm
    have hmap : bounds? (tableOf o i) "bitmap" = r.bitmap :=
      Option.ext fun b => (hbitmap b).trans (h.bitmap b).symm
    rw [hver, hmap, ← h.path]
    rfl

/-- All required names resolve where a runtime is found, and only there. -/
theorem exists_describes_iff :
    (∃ r, Describes o i r) ↔ ∀ name ∈ requiredNames, Resolves o i name := by
  constructor
  · rintro ⟨r, h⟩ name hname
    simp only [requiredNames, List.map_cons, List.map_nil, List.mem_cons, List.not_mem_nil,
      or_false] at hname
    rcases hname with rfl | rfl | rfl | rfl | rfl | rfl | rfl
    · exact ⟨_, h.opening⟩
    · exact ⟨_, h.writing⟩
    · exact ⟨_, h.sizing⟩
    · exact ⟨_, h.counters.start⟩
    · exact ⟨_, h.counters.stop⟩
    · exact ⟨_, h.data.start⟩
    · exact ⟨_, h.data.stop⟩
  · intro h
    obtain ⟨opening, hopening⟩ := h (nameOf "initialize") (by decide)
    obtain ⟨writing, hwriting⟩ := h (nameOf "write_file") (by decide)
    obtain ⟨sizing, hsizing⟩ := h (nameOf "set_page_size") (by decide)
    obtain ⟨c, hc⟩ := h (nameOf ("begin_" ++ "counters")) (by decide)
    obtain ⟨c', hc'⟩ := h (nameOf ("end_" ++ "counters")) (by decide)
    obtain ⟨d, hd⟩ := h (nameOf ("begin_" ++ "data")) (by decide)
    obtain ⟨d', hd'⟩ := h (nameOf ("end_" ++ "data")) (by decide)
    refine ⟨⟨i.path, opening, writing, sizing, part? (tableOf o i) "get_version", ⟨c, c'⟩, ⟨d, d'⟩,
      bounds? (tableOf o i) "bitmap"⟩, ⟨rfl, hopening, hwriting, hsizing, ⟨hc, hc'⟩, ⟨hd, hd'⟩,
      part?_eq_some_iff o i "get_version" (by decide),
      bounds?_eq_some_iff o i "bitmap" (by decide) (by decide)⟩⟩

/-- A table in which a runtime is found names all required parts, so a look at the names beforehand
refuses no image that has a runtime. -/
theorem namesAll_of_describes {r : ProfileRuntime} (h : Describes o i r) :
    namesAll (tableOf o i) = true := by
  rw [namesAll, List.all_eq_true]
  intro name hname
  obtain ⟨a, ha⟩ := exists_describes_iff.1 ⟨r, h⟩ name hname
  have haddress : (tableOf o i).address? name = some a :=
    ((AddressTable.resolves_ofObject o i _).address name a).2
      ⟨List.mem_append_left _ hname, ha.declared⟩
  rw [haddress, Option.isSome_some]

end Tables

/-! ## Images -/

/-- An image is moved, its path is absolute and leads to a file, and the content of the file is an
object file. -/
structure IsReadable (t : FileTree) (i : LoadedImage) (o : ObjectFile) : Prop where
  moved : i.slide ≠ 0
  absolute : Path.isAbsolute i.path = true
  file : t.isFile i.path = true
  parsed : ∃ content, t.read i.path = .ok content ∧ ObjectFile.parse? content = some o

section Images

variable {t : FileTree} {i : LoadedImage} {o : ObjectFile} {r : ProfileRuntime}

/-- The runtime that an image has. -/
theorem resolve_eq_some_iff : resolve t i = some r ↔ ∃ o, IsReadable t i o ∧ Describes o i r := by
  rw [resolve]
  constructor
  · intro h
    split at h
    · cases h
    · rename_i hgood
      simp only [Bool.or_eq_true, decide_eq_true_eq, Bool.not_eq_true', Bool.and_eq_false_iff,
        not_or, Bool.not_eq_false] at hgood
      split at h
      · cases h
      · rename_i table hload
        obtain ⟨content, o, hread, hparse, rfl⟩ := AddressTable.load_eq_ok_iff.1 hload
        obtain ⟨-, h⟩ := Option.ite_none_right_eq_some.1 h
        exact ⟨o, ⟨hgood.1, hgood.2.1, hgood.2.2, content, hread, hparse⟩,
          (ofTable?_eq_some_iff r).1 h⟩
  · rintro ⟨o, ⟨hmoved, habsolute, hfile, content, hread, hparse⟩, hdescribes⟩
    have hload : AddressTable.load t i (requiredNames ++ optionalNames) = .ok (tableOf o i) :=
      AddressTable.load_eq_ok_iff.2 ⟨content, o, hread, hparse, rfl⟩
    rw [if_neg (by simp [hmoved, habsolute, hfile]), hload]
    dsimp only
    rw [if_pos (namesAll_of_describes hdescribes)]
    exact (ofTable?_eq_some_iff r).2 hdescribes

/-- A runtime has a bitmap if both bounds of it resolve. -/
theorem Describes.exists_bitmap_iff (h : Describes o i r) :
    (∃ b, r.bitmap = some b) ↔
      Resolves o i "__llvm_profile_begin_bitmap" ∧ Resolves o i "__llvm_profile_end_bitmap" := by
  simp only [h.bitmap]
  constructor
  · rintro ⟨b, hb⟩
    exact ⟨⟨_, hb.start⟩, ⟨_, hb.stop⟩⟩
  · rintro ⟨⟨start, hstart⟩, ⟨stop, hstop⟩⟩
    exact ⟨⟨start, stop⟩, ⟨hstart, hstop⟩⟩

/-- An image has a runtime if it is moved, its path is absolute and leads to a file that can be
parsed, and each required name resolves in it; any other image has none, and nothing fails.  Each
part of the runtime is where its name resolves to.  It has a bitmap if both bounds of it resolve.
Its regions can always be reset by the interface without a bitmap, and by the one with a bitmap if
it has one. -/
theorem runtime_of_image (t : FileTree) (i : LoadedImage) :
    ((∃ r, resolve t i = some r) ↔
        ∃ o, IsReadable t i o ∧ ∀ name ∈ requiredNames, Resolves o i name) ∧
      ∀ r, resolve t i = some r ↔
        ∃ o, IsReadable t i o ∧ Describes o i r ∧
          ((∃ b, r.bitmap = some b) ↔
            Resolves o i "__llvm_profile_begin_bitmap" ∧
              Resolves o i "__llvm_profile_end_bitmap") ∧
          r.regions .llvm17 = .ok ⟨r.counters, r.data, none⟩ ∧
          ∀ regions, r.regions .llvm19 = .ok regions ↔
            ∃ b, r.bitmap = some b ∧ regions = ⟨r.counters, r.data, some b⟩ := by
  refine ⟨?_, fun r => ?_⟩
  · simp only [resolve_eq_some_iff, ← exists_describes_iff]
    constructor
    · rintro ⟨r, o, hreadable, hdescribes⟩
      exact ⟨o, hreadable, r, hdescribes⟩
    · rintro ⟨o, hreadable, r, hdescribes⟩
      exact ⟨r, o, hreadable, hdescribes⟩
  · rw [resolve_eq_some_iff]
    constructor
    · rintro ⟨o, hreadable, hdescribes⟩
      refine ⟨o, hreadable, hdescribes, hdescribes.exists_bitmap_iff, rfl, fun regions => ?_⟩
      rw [ProfileRuntime.regions]
      cases r.bitmap <;> simp [Abi.hasBitmap, eq_comm]
    · rintro ⟨o, hreadable, hdescribes, -⟩
      exact ⟨o, hreadable, hdescribes⟩

/-- One bound of the bitmap is moved to zero: the image has a runtime without a bitmap. -/
example :
    (ofTable? [] (tableOf
      ⟨false, requiredNames.map (fun name => ⟨some name, 16, true⟩) ++
        [⟨some "__llvm_profile_begin_bitmap", 0xFFFFFFFFFFFFFFFE, true⟩],
        [⟨some "__llvm_profile_end_bitmap", 32, true⟩]⟩ ⟨[], 2⟩)).map bitmap = some none := by
  decide +kernel

end Images

end ProfileRuntime
end CoverageWindows
