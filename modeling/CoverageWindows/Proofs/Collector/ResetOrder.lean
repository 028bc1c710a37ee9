import CoverageWindows.Proofs.Collector.Resets

/-!
# The order of resets

Before any image is reset, all of them are looked at for the bitmap that the interface may need.  If
one lacks it, nothing is asked of any image or of the backend.  Otherwise the backend is asked for
one image after another, up to the first that it refuses.

Main results:

- Theorem `firstMissing?_eq_some_iff`: what is told is the first image that lacks a bitmap.
- Theorems `Chain.getElem?_of_notMem` and `Chain.getElem?_of_nodup`: what resets one after another
  change.
- Theorem `resetEach_chain`: the resets of a row of images, by induction on the row.
- Theorem `resets_of_images`: what a reset of all images asks for, in which order, and what it
  tells.
-/

namespace CoverageWindows

/-- An image lacks the bitmap that an interface needs. -/
def Image.Lacks (i : Image) (a : Abi) : Prop := a.hasBitmap = true ∧ i.bitmap = none

/-- An image that lacks the bitmap is refused by its name. -/
theorem Image.memory_of_lacks {i : Image} {a : Abi} (h : i.Lacks a) :
    i.memory a = .error (.noBitmap i.name) := by
  rw [memory, h.1, h.2]

/-- What an image has for an interface: its counters, its data, its value nodes, and its bitmap if
the interface needs one. -/
structure Image.Offers (i : Image) (a : Abi) (m : ProfileMemory) : Prop where
  counters : m.regions.countersRegion = i.counters
  data : m.regions.dataRegion = i.data
  bitmap : m.regions.bitmapRegion? = if a.hasBitmap then i.bitmap else none
  heap : m.heap = i.heap
  needed : m.regions.bitmapRegion?.isSome = a.hasBitmap

/-- The memory of an image is what the image has for the interface. -/
theorem Image.offers_of_memory {i : Image} {a : Abi} {m : ProfileMemory}
    (h : i.memory a = .ok m) : i.Offers a m := by
  cases ha : a.hasBitmap with
  | false =>
      rw [memory, ha] at h
      obtain rfl := Except.ok.inj h
      exact ⟨rfl, rfl, by rw [ha]; rfl, rfl, ha.symm⟩
  | true =>
      cases hb : i.bitmap with
      | none => simp [memory, ha, hb] at h
      | some b =>
          rw [memory, ha, hb] at h
          obtain rfl := Except.ok.inj h
          exact ⟨rfl, rfl, by rw [ha, hb]; rfl, rfl, ha.symm⟩

namespace Program

/-! ## Images that lack a bitmap -/

/-- An image is the first one of a list that lacks the bitmap that an interface needs. -/
def FirstLacking (p : Program) (a : Abi) (images : List Nat) (i : Image) : Prop :=
  ∃ before n after, images = before ++ n :: after ∧ p.images[n]? = some i ∧ i.Lacks a ∧
    ∀ k ∈ before, ∀ j, p.images[k]? = some j → ¬ j.Lacks a

/-- What is missing is the bitmap of an image that lacks it. -/
theorem missing?_eq_some_iff (p : Program) (a : Abi) (n : Nat) (f : Failure) :
    p.missing? a n = some f ↔
      ∃ i, p.images[n]? = some i ∧ i.Lacks a ∧ f = .noBitmap i.name := by
  rw [missing?]
  cases hi : p.images[n]? with
  | none => simp
  | some i =>
      by_cases hlacks : i.Lacks a
      · simp [Image.memory_of_lacks hlacks, hlacks, eq_comm]
      · have hmemory : ∃ m, i.memory a = .ok m := by
          rw [Image.memory_ok_iff, Option.isSome_iff_ne_none]
          exact fun ha hb => hlacks ⟨ha, hb⟩
        obtain ⟨m, hm⟩ := hmemory
        simp [hm, hlacks]

/-- What is told when images lack memory is the first of them. -/
theorem firstMissing?_eq_some_iff (p : Program) (a : Abi) (images : List Nat) (f : Failure) :
    p.firstMissing? a images = some f ↔
      ∃ i, p.FirstLacking a images i ∧ f = .noBitmap i.name := by
  have hnone : ∀ k, p.missing? a k = none ↔ ∀ j, p.images[k]? = some j → ¬ j.Lacks a := by
    intro k
    rw [Option.eq_none_iff_forall_ne_some]
    constructor
    · intro h j hj hlacks
      exact h _ ((missing?_eq_some_iff ..).2 ⟨j, hj, hlacks, rfl⟩)
    · intro h f hf
      obtain ⟨j, hj, hlacks, -⟩ := (missing?_eq_some_iff ..).1 hf
      exact h j hj hlacks
  rw [firstMissing?, List.findSome?_eq_some_iff]
  constructor
  · rintro ⟨before, n, after, hsplit, hn, hbefore⟩
    obtain ⟨i, hi, hlacks, rfl⟩ := (missing?_eq_some_iff ..).1 hn
    exact ⟨i, ⟨before, n, after, hsplit, hi, hlacks, fun k hk => (hnone k).1 (hbefore k hk)⟩, rfl⟩
  · rintro ⟨i, ⟨before, n, after, hsplit, hi, hlacks, hbefore⟩, rfl⟩
    refine ⟨before, n, after, hsplit, ?_, fun k hk => (hnone k).2 (hbefore k hk)⟩
    exact (missing?_eq_some_iff ..).2 ⟨i, hi, hlacks, rfl⟩

/-! ## Resets that are asked for -/

variable {σ : Type}

/-- A reset that a backend is asked for: the number of the image, the image and its memory as they
are then, and the state of the backend. -/
structure AskedReset (σ : Type) where
  number : Nat
  image : Image
  memory : ProfileMemory
  state : σ

namespace AskedReset

/-- The version that the backend is told; zero where the image tells none. -/
def version (r : AskedReset σ) : UInt64 := r.image.version.getD 0

/-- What the backend answers. -/
def answer (b : Backend σ) (r : AskedReset σ) : Except Complaint Unit × ProfileMemory × σ :=
  b.reset r.version r.memory r.state

/-- What is done for a reset. -/
def events (r : AskedReset σ) : List Event := resetEvents r.image r.number r.memory

end AskedReset

section Resets

variable (b : Backend σ) (a : Abi)

/-- The program after a reset that was asked for. -/
def afterReset (p : Program) (r : AskedReset σ) : Program :=
  p.resetTo r.number r.image r.memory (r.answer b).2.1

/-- Resets one after another: each is asked for an image as the resets before have left it. -/
inductive Chain : Program → σ → List (AskedReset σ) → Program → σ → Prop where
  | nil (p : Program) (s : σ) : Chain p s [] p s
  | cons {p q : Program} {s' : σ} {r : AskedReset σ} {rest : List (AskedReset σ)}
      (himage : p.images[r.number]? = some r.image) (hmemory : r.image.Offers a r.memory)
      (hrest : Chain (p.afterReset b r) (r.answer b).2.2 rest q s') :
      Chain p r.state (r :: rest) q s'

/-- How the resets of numbered images end: each is asked for and none refused; or the last one that
is asked for is refused, with a message or in breach of contract. -/
inductive Ending (numbers : List Nat) : List (AskedReset σ) → Except Failure Unit → Prop where
  | finished {rs : List (AskedReset σ)} (hall : rs.map AskedReset.number = numbers)
      (hok : ∀ r ∈ rs, (r.answer b).1 = .ok ()) : Ending numbers rs (.ok ())
  | refused (done : List (AskedReset σ)) {r : AskedReset σ} {rest : List Nat} {message : String}
      (hsplit : numbers = done.map AskedReset.number ++ r.number :: rest)
      (hok : ∀ d ∈ done, (d.answer b).1 = .ok ())
      (hfail : (r.answer b).1 = .error (.refused message)) :
      Ending numbers (done ++ [r]) (.error (.resetFailed r.image.name message))
  | broken (done : List (AskedReset σ)) {r : AskedReset σ} {rest : List Nat}
      (hsplit : numbers = done.map AskedReset.number ++ r.number :: rest)
      (hok : ∀ d ∈ done, (d.answer b).1 = .ok ())
      (hfail : (r.answer b).1 = .error .broken) :
      Ending numbers (done ++ [r]) (.error .backendBroken)

variable {b a}

/-! ### What a chain of resets changes -/

namespace Chain

variable {p q : Program} {s s' : σ} {rs : List (AskedReset σ)}

theorem events (h : Chain b a p s rs q s') :
    q.events = p.events ++ rs.flatMap AskedReset.events := by
  induction h with
  | nil p s => exact (List.append_nil _).symm
  | cons himage hmemory hrest ih =>
      rw [ih, List.flatMap_cons, ← List.append_assoc]
      rfl

/-- Images that no reset is asked for stay as they are. -/
theorem getElem?_of_notMem (h : Chain b a p s rs q s') {k : Nat}
    (hk : k ∉ rs.map AskedReset.number) : q.images[k]? = p.images[k]? := by
  induction h with
  | nil p s => rfl
  | @cons p q s' r rest himage hmemory hrest ih =>
      rw [List.map_cons, List.mem_cons, not_or] at hk
      rw [ih hk.2, afterReset, getElem?_resetTo]
      simp [hk.1]

/-- A reset leaves the version and the path of an image as they are. -/
theorem image_unchanged (h : Chain b a p s rs q s') :
    ∀ r ∈ rs, ∃ i, p.images[r.number]? = some i ∧ r.image.version = i.version ∧
      r.image.path = i.path := by
  induction h with
  | nil p s => nofun
  | @cons p q s' r rest himage hmemory hrest ih =>
      refine List.forall_mem_cons.2 ⟨⟨r.image, himage, rfl, rfl⟩, fun r' hr' => ?_⟩
      obtain ⟨j, hj, hversion, hpath⟩ := ih r' hr'
      rw [afterReset, getElem?_resetTo, Option.map_eq_some_iff] at hj
      obtain ⟨i, hi, rfl⟩ := hj
      refine ⟨i, hi, ?_⟩
      by_cases hn : r'.number = r.number
      · rw [if_pos hn] at hversion hpath
        exact ⟨hversion, hpath⟩
      · rw [if_neg hn] at hversion hpath
        exact ⟨hversion, hpath⟩

theorem offers (h : Chain b a p s rs q s') : ∀ r ∈ rs, r.image.Offers a r.memory := by
  induction h with
  | nil p s => nofun
  | cons himage hmemory hrest ih => exact List.forall_mem_cons.2 ⟨hmemory, ih⟩

/-- Different images are reset as they were at first, and keep what their reset brought. -/
theorem getElem?_of_nodup (h : Chain b a p s rs q s')
    (hnodup : (rs.map AskedReset.number).Nodup) :
    ∀ r ∈ rs, p.images[r.number]? = some r.image ∧
      q.images[r.number]? = some (r.image.withMemory (r.answer b).2.1) := by
  induction h with
  | nil p s => nofun
  | @cons p q s' r rest himage hmemory hrest ih =>
      rw [List.map_cons, List.nodup_cons] at hnodup
      refine List.forall_mem_cons.2 ⟨⟨himage, ?_⟩, fun r' hr' => ?_⟩
      · rw [hrest.getElem?_of_notMem hnodup.1, afterReset, getElem?_resetTo, himage]
        simp
      · obtain ⟨hfirst, hlast⟩ := ih hnodup.2 r' hr'
        have hne : r'.number ≠ r.number := by
          intro heq
          exact hnodup.1 (heq ▸ List.mem_map_of_mem hr')
        rw [afterReset, getElem?_resetTo] at hfirst
        simp only [if_neg hne, Option.map_id'] at hfirst
        exact ⟨hfirst, hlast⟩

end Chain

/-! ### How resets end -/

namespace Ending

variable {numbers : List Nat} {rs : List (AskedReset σ)} {result : Except Failure Unit}

/-- One more image before the others, which was not refused. -/
theorem cons (h : Ending b numbers rs result) {r : AskedReset σ} (hr : (r.answer b).1 = .ok ()) :
    Ending b (r.number :: numbers) (r :: rs) result := by
  cases h with
  | finished hall hok =>
      exact .finished (by rw [List.map_cons, hall]) (List.forall_mem_cons.2 ⟨hr, hok⟩)
  | @refused done r' rest message hsplit hok hfail =>
      exact .refused (r :: done) (by rw [hsplit]; rfl)
        (List.forall_mem_cons.2 ⟨hr, hok⟩) hfail
  | @broken done r' rest hsplit hok hfail =>
      exact .broken (r :: done) (by rw [hsplit]; rfl)
        (List.forall_mem_cons.2 ⟨hr, hok⟩) hfail

/-- The images that are reset are the first ones of the list, in its order. -/
theorem map_prefix (h : Ending b numbers rs result) :
    rs.map AskedReset.number <+: numbers := by
  cases h with
  | finished hall hok => exact hall ▸ List.prefix_rfl
  | @refused done r rest message hsplit hok hfail => exact ⟨rest, by simp [hsplit]⟩
  | @broken done r rest hsplit hok hfail => exact ⟨rest, by simp [hsplit]⟩

/-- Resets succeed together if each of them does. -/
theorem ok_iff (h : Ending b numbers rs result) :
    result = .ok () ↔ ∀ r ∈ rs, (r.answer b).1 = .ok () := by
  cases h with
  | finished hall hok => exact ⟨fun _ => hok, fun _ => rfl⟩
  | refused done hsplit hok hfail => simp [hfail]
  | broken done hsplit hok hfail => simp [hfail]

/-- Resets that are asked for do not fail for a bitmap. -/
theorem ne_noBitmap (h : Ending b numbers rs result) (name : String) :
    result ≠ .error (.noBitmap name) := by
  cases h <;> simp

end Ending

/-- The images of a list of numbers that are there. -/
def present (p : Program) (images : List Nat) : List Nat :=
  images.filter (· < p.images.length)

/-- The resets of a row of images, by induction on the row. -/
theorem resetEach_chain {p : Program} {images : List Nat} (h : p.HasMemory a images) (s : σ) :
    ∃ rs, Chain b a p s rs (p.resetEach b a s images).2.1 (p.resetEach b a s images).2.2 ∧
      Ending b (p.present images) rs (p.resetEach b a s images).1 := by
  induction images generalizing p s with
  | nil => exact ⟨[], .nil p s, .finished rfl nofun⟩
  | cons n rest ih =>
      have hrest : p.HasMemory a rest := fun k hk => h k (List.mem_cons_of_mem n hk)
      rw [resetEach]
      cases hi : p.images[n]? with
      | none =>
          have hone : p.resetOne b a s n = (.ok (), p, s) := by simp [resetOne, hi]
          have hpresent : p.present (n :: rest) = p.present rest := by
            apply List.filter_cons_of_neg
            simpa using hi
          rw [hone, hpresent]
          exact ih hrest s
      | some i =>
          obtain ⟨m, hm⟩ := h n List.mem_cons_self i hi
          let r : AskedReset σ := ⟨n, i, m, s⟩
          have hone : p.resetOne b a s n =
              ((r.answer b).1.mapError (Complaint.toFailure (.resetFailed i.name)),
                p.afterReset b r, (r.answer b).2.2) := resetOne_of_memory b a p s hi hm
          have hpresent : p.present (n :: rest) = n :: p.present rest := by
            apply List.filter_cons_of_pos
            simpa using (List.getElem?_eq_some_iff.1 hi).1
          rw [hone, hpresent]
          cases hanswer : (r.answer b).1 with
          | ok u =>
              have hmemory : (p.afterReset b r).HasMemory a rest := hrest.resetTo a n i m _
              have hnext : (p.afterReset b r).present rest = p.present rest := by
                simp [present, afterReset, resetTo, change]
              obtain ⟨rs, hchain, hending⟩ := ih hmemory (r.answer b).2.2
              rw [hnext] at hending
              exact ⟨r :: rs, .cons hi (Image.offers_of_memory hm) hchain, hending.cons hanswer⟩
          | error c =>
              dsimp only [Except.mapError]
              refine ⟨[r], .cons (r := r) hi (Image.offers_of_memory hm) (.nil _ _), ?_⟩
              cases c with
              | refused message => exact .refused [] rfl nofun hanswer
              | broken => exact .broken [] rfl nofun hanswer

/-- What the resets of numbered images come to.  They are asked for in the order of the list, each
with the version of its image and with a bitmap just where the interface needs one, up to the first
that is refused; nothing else is done, and images that are not asked for stay as they are. -/
structure Carried (b : Backend σ) (a : Abi) (p : Program) (s : σ) (numbers : List Nat)
    (rs : List (AskedReset σ)) (result : Except Failure Unit) (q : Program) (s' : σ) : Prop where
  chain : Chain b a p s rs q s'
  ending : Ending b numbers rs result
  order : rs.map AskedReset.number <+: numbers
  ok_iff : result = .ok () ↔ ∀ r ∈ rs, (r.answer b).1 = .ok ()
  events : q.events = p.events ++ rs.flatMap AskedReset.events
  bitmap : ∀ r ∈ rs, r.memory.regions.bitmapRegion?.isSome = a.hasBitmap
  version : ∀ r ∈ rs, ∃ i, p.images[r.number]? = some i ∧ r.version = i.version.getD 0 ∧
    r.image.name = i.name
  others : ∀ k ∉ rs.map AskedReset.number, q.images[k]? = p.images[k]?
  distinct : numbers.Nodup → ∀ r ∈ rs, p.images[r.number]? = some r.image ∧
    q.images[r.number]? = some (r.image.withMemory (r.answer b).2.1)

/-- A chain of resets and how it ends say what the resets come to. -/
theorem Chain.carried {p q : Program} {s s' : σ} {rs : List (AskedReset σ)} {numbers : List Nat}
    {result : Except Failure Unit} (h : Chain b a p s rs q s') (hend : Ending b numbers rs result) :
    Carried b a p s numbers rs result q s' where
  chain := h
  ending := hend
  order := hend.map_prefix
  ok_iff := hend.ok_iff
  events := h.events
  bitmap r hr := (h.offers r hr).needed
  version r hr := by
    obtain ⟨i, hi, hversion, hpath⟩ := h.image_unchanged r hr
    exact ⟨i, hi, by rw [AskedReset.version, hversion], by rw [Image.name, Image.name, hpath]⟩
  others _ hk := h.getElem?_of_notMem hk
  distinct hnodup := h.getElem?_of_nodup (hnodup.sublist hend.map_prefix.sublist)

theorem hasMemory_iff (p : Program) (images : List Nat) :
    p.HasMemory a images ↔ ∀ n ∈ images, ∀ i, p.images[n]? = some i → ¬ i.Lacks a := by
  refine forall₂_congr fun n _ => forall₂_congr fun i _ => ?_
  rw [Image.memory_ok_iff, Image.Lacks, Option.isSome_iff_ne_none, not_and]

end Resets

/-- A backend is asked to reset images.  If the interface needs a bitmap and one of the images lacks
it, the first such image is told, and nothing is asked nor changed; a bitmap without any bytes is
one.  Otherwise the images are reset in order, up to the first that the backend refuses. -/
theorem resets_of_images (p : Program) (b : Backend σ) (a : Abi) (s : σ) (images : List Nat) :
    let (result, q, s') := p.resetAll b a s images
    ((∃ name, result = .error (.noBitmap name)) ↔
        ∃ n ∈ images, ∃ i, p.images[n]? = some i ∧ i.Lacks a) ∧
      (∀ i, p.FirstLacking a images i → result = .error (.noBitmap i.name) ∧ q = p ∧ s' = s) ∧
      ((∀ n ∈ images, ∀ i, p.images[n]? = some i → ¬ i.Lacks a) →
        ∃ rs, Carried b a p s (p.present images) rs result q s') ∧
      ((∀ n ∈ images, ∀ i, p.images[n]? = some i → ∃ r, i.bitmap = some r ∧ r.length = 0) →
        ∀ name, result ≠ .error (.noBitmap name)) := by
  have hlacking : ∀ i, p.FirstLacking a images i →
      p.resetAll b a s images = (.error (.noBitmap i.name), p, s) := fun i hi =>
    p.resetAll_of_missing b a s images ((firstMissing?_eq_some_iff ..).2 ⟨i, hi, rfl⟩)
  have hcarried : (∀ n ∈ images, ∀ i, p.images[n]? = some i → ¬ i.Lacks a) →
      ∃ rs, Carried b a p s (p.present images) rs (p.resetAll b a s images).1
        (p.resetAll b a s images).2.1 (p.resetAll b a s images).2.2 := by
    intro h
    have hmemory : p.HasMemory a images := (hasMemory_iff p images).2 h
    obtain ⟨rs, hchain, hending⟩ := resetEach_chain (b := b) hmemory s
    rw [resetAll, (firstMissing?_eq_none_iff p a images).2 hmemory]
    exact ⟨rs, hchain.carried hending⟩
  have hnoBitmap : (∃ name, (p.resetAll b a s images).1 = .error (.noBitmap name)) ↔
      ∃ n ∈ images, ∃ i, p.images[n]? = some i ∧ i.Lacks a := by
    constructor
    · rintro ⟨name, hname⟩
      cases hmissing : p.firstMissing? a images with
      | none =>
          have hmemory := (firstMissing?_eq_none_iff p a images).1 hmissing
          obtain ⟨rs, hrs⟩ := hcarried ((hasMemory_iff p images).1 hmemory)
          exact absurd hname (hrs.ending.ne_noBitmap name)
      | some f =>
          obtain ⟨i, ⟨before, n, after, hsplit, hi, hlacks, -⟩, -⟩ :=
            (firstMissing?_eq_some_iff ..).1 hmissing
          exact ⟨n, by simp [hsplit], i, hi, hlacks⟩
    · rintro ⟨n, hn, i, hi, hlacks⟩
      have hsome : p.firstMissing? a images ≠ none := by
        rw [ne_eq, firstMissing?_eq_none_iff, hasMemory_iff]
        exact fun h => h n hn i hi hlacks
      obtain ⟨f, hf⟩ := Option.ne_none_iff_exists'.1 hsome
      obtain ⟨first, hfirst, -⟩ := (firstMissing?_eq_some_iff ..).1 hf
      exact ⟨first.name, by rw [hlacking first hfirst]⟩
  refine ⟨hnoBitmap, fun i hi => ?_, hcarried, fun h name hname => ?_⟩
  · have heq := hlacking i hi
    exact ⟨congrArg (·.1) heq, congrArg (·.2.1) heq, congrArg (·.2.2) heq⟩
  · obtain ⟨n, hn, i, hi, hlacks⟩ := hnoBitmap.1 ⟨name, hname⟩
    obtain ⟨r, hr, -⟩ := h n hn i hi
    rw [hlacks.2] at hr
    cases hr

end Program
end CoverageWindows
