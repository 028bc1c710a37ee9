import CoverageWindows.Proofs.Collector.Program

/-!
# Resets

A reset needs the memory of the images, and stops at the first image that the backend refuses.  What
it leaves alone is shown for every way to stop; what it brings about is shown for a backend that
resets memory itself.

Main results:

- Theorem `firstMissing?_eq_none_iff`: nothing is missing when each image has the memory.
- Theorem `resetAll_induct`: resets keep what every reset of an image keeps.
- Theorem `resetAll_result`: a reset for which the memory is there ends well, or by the backend.
- Theorem `resetAll_inPlace`: a backend that resets memory itself resets every image.
-/

namespace CoverageWindows

/-! ## Counters at their start -/

namespace Image

/-- The image with its counters at their value for code that has not run. -/
def pristine (i : Image) : Image :=
  { i with counters := i.counters.fill (counterFill (i.version.getD 0)) }

/-- The counters of code that has not run have all bits set where an image counts in single bytes,
which bit 60 of its version tells, and no bit set where it does not. -/
theorem filledWith_pristine (i : Image) :
    i.counters.FilledWith (if (i.version.getD 0).toNat.testBit 60 then 0xFF else 0)
      i.pristine.counters :=
  i.counters.filledWith_fill _

/-- The image after its memory for an interface was reset. -/
def cleared (i : Image) (a : Abi) : Image :=
  match i.memory a with
  | .ok m => i.withMemory (m.reset (i.version.getD 0))
  | .error _ => i

/-- The memory for an interface has the counters of the image. -/
theorem countersRegion_of_memory {i : Image} {a : Abi} {m : ProfileMemory}
    (h : i.memory a = .ok m) : m.regions.countersRegion = i.counters := by
  unfold memory at h
  split at h
  · obtain rfl := Except.ok.inj h
    rfl
  · obtain rfl := Except.ok.inj h
    rfl
  · simp at h

@[simp]
theorem output_cleared (i : Image) (a : Abi) : (i.cleared a).output = i.output := by
  unfold cleared
  split <;> rfl

/-- A reset brings the counters to their value for code that has not run. -/
theorem counters_cleared {i : Image} {a : Abi} (h : ∃ m, i.memory a = .ok m) :
    (i.cleared a).counters = i.pristine.counters := by
  rcases h with ⟨m, hm⟩
  have hcounters : ∀ v, (m.reset v).regions.countersRegion =
      m.regions.countersRegion.fill (counterFill v) := by
    intro v
    rw [ProfileMemory.reset]
    cases m.regions <;> rfl
  rw [cleared, hm]
  change (m.reset (i.version.getD 0)).regions.countersRegion = _
  rw [hcounters, countersRegion_of_memory hm]
  rfl

end Image

/-- A backend that brings memory itself to the state in which nothing has run, and never refuses. -/
def Backend.ResetsInPlace {σ : Type} (b : Backend σ) : Prop :=
  ∀ v m s, ∃ s', b.reset v m s = (.ok (), m.reset v, s')

namespace Program

/-! ## Memory for resets -/

/-- Each of the images has the memory that an interface resets. -/
def HasMemory (p : Program) (a : Abi) (images : List Nat) : Prop :=
  ∀ n ∈ images, ∀ i, p.images[n]? = some i → ∃ m, i.memory a = .ok m

/-- Memory is there in any program whose images have bitmaps where they had them. -/
theorem HasMemory.of_map {p q : Program} {a : Abi} {images : List Nat} {f : Nat → Image → Image}
    (h : p.HasMemory a images) (hq : ∀ n, q.images[n]? = p.images[n]?.map (f n))
    (hf : ∀ n i, i.bitmap.isSome = true → (f n i).bitmap.isSome = true) :
    q.HasMemory a images := by
  intro n hn j hj
  rw [hq, Option.map_eq_some_iff] at hj
  rcases hj with ⟨i, hi, rfl⟩
  rw [Image.memory_ok_iff]
  intro hbitmap
  exact hf n i ((Image.memory_ok_iff i a).1 (h n hn i hi) hbitmap)

theorem HasMemory.writeAll {p : Program} {a : Abi} {images ns : List Nat}
    (h : p.HasMemory a images) : (p.writeAll ns).2.HasMemory a images :=
  h.of_map (fun m => p.getElem?_writeAll ns m) fun _ _ hi => hi

theorem HasMemory.activate {p : Program} {a : Abi} {images ns : List Nat}
    (h : p.HasMemory a images) (path : Bytes) : (p.activate ns path).HasMemory a images := by
  refine h.of_map (fun m => p.getElem?_activate ns path m) ?_
  intro m i hi
  split <;> exact hi

theorem HasMemory.endContinuous {p : Program} {a : Abi} {images ns : List Nat}
    (h : p.HasMemory a images) : (p.endContinuous ns).HasMemory a images := by
  refine h.of_map (fun m => p.getElem?_endContinuous ns m) ?_
  intro m i hi
  split <;> exact hi

/-- Nothing is missing if the images have their memory. -/
theorem firstMissing?_eq_none_iff (p : Program) (a : Abi) (images : List Nat) :
    p.firstMissing? a images = none ↔ p.HasMemory a images := by
  rw [firstMissing?, List.findSome?_eq_none_iff]
  constructor
  · intro h n hn i hi
    have hnone := h n hn
    rw [missing?, hi] at hnone
    cases hm : i.memory a with
    | ok m => exact ⟨m, rfl⟩
    | error f => simp [hm] at hnone
  · intro h n hn
    rw [missing?]
    cases hi : p.images[n]? with
    | none => rfl
    | some i =>
        rcases h n hn i hi with ⟨m, hm⟩
        simp [hm]

/-- What an image lacks is the bitmap. -/
theorem firstMissing?_eq_some {p : Program} {a : Abi} {images : List Nat} {f : Failure}
    (h : p.firstMissing? a images = some f) : ∃ name, f = .noBitmap name := by
  rw [firstMissing?] at h
  rcases List.exists_of_findSome?_eq_some h with ⟨n, -, hn⟩
  unfold missing? at hn
  split at hn
  · simp at hn
  · rename_i i hi
    unfold Image.memory at hn
    split at hn
    · rename_i g hg
      simp only [Option.some.injEq] at hn
      split at hg
      · simp at hg
      · simp at hg
      · simp only [Except.error.injEq] at hg
        exact ⟨i.name, by rw [hg, hn]⟩
    · simp at hn

/-! ## Resetting -/

/-- What is done when an image is reset: its version is asked for, where it tells one, and the
backend is asked. -/
def resetEvents (i : Image) (n : Nat) (m : ProfileMemory) : List Event :=
  (i.version.map fun _ => Event.version n).toList ++ [.reset n (i.version.getD 0) m]

@[simp]
theorem resets_resetEvents (i : Image) (n : Nat) (m : ProfileMemory) :
    (resetEvents i n m).filterMap Event.reset? = [(n, m)] := by
  rw [resetEvents]
  cases i.version <;> rfl

/-- The program after an image was reset to other memory. -/
def resetTo (p : Program) (n : Nat) (i : Image) (m m' : ProfileMemory) : Program :=
  { p with events := p.events ++ resetEvents i n m }.change n fun i => i.withMemory m'

section Resets

variable {σ : Type} (b : Backend σ) (a : Abi)

/-- The reset of an image that has the memory for it. -/
theorem resetOne_of_memory (p : Program) (s : σ) {n : Nat} {i : Image} {m : ProfileMemory}
    (hi : p.images[n]? = some i) (hm : i.memory a = .ok m) :
    p.resetOne b a s n =
      ((b.reset (i.version.getD 0) m s).1.mapError (Complaint.toFailure (.resetFailed i.name)),
        p.resetTo n i m (b.reset (i.version.getD 0) m s).2.1,
        (b.reset (i.version.getD 0) m s).2.2) := by
  cases hv : i.version with
  | none => simp [resetOne, hi, hm, version, hv, resetTo, resetEvents, record]
  | some v => simp [resetOne, hi, hm, version, hv, resetTo, resetEvents, record]

/-- A reset brings an image to other memory, or leaves the program alone. -/
theorem resetOne_program (p : Program) (s : σ) (n : Nat) :
    (p.resetOne b a s n).2.1 = p ∨
      ∃ i m m', p.images[n]? = some i ∧ i.memory a = .ok m ∧
        (p.resetOne b a s n).2.1 = p.resetTo n i m m' := by
  cases hi : p.images[n]? with
  | none => exact .inl (by simp [resetOne, hi])
  | some i =>
      cases hm : i.memory a with
      | error f => exact .inl (by simp [resetOne, hi, hm])
      | ok m => exact .inr ⟨i, m, _, rfl, hm, by rw [resetOne_of_memory b a p s hi hm]⟩

/-- A reset changes the memory of its image and no other image. -/
theorem getElem?_resetTo (p : Program) (n k : Nat) (i : Image) (m m' : ProfileMemory) :
    (p.resetTo n i m m').images[k]? =
      p.images[k]?.map fun i => if k = n then i.withMemory m' else i :=
  getElem?_change _ n k _

@[simp]
theorem outputs_resetTo (p : Program) (n : Nat) (i : Image) (m m' : ProfileMemory) :
    (p.resetTo n i m m').outputs = p.outputs :=
  outputs_change { p with events := p.events ++ resetEvents i n m } n
    (f := fun i => i.withMemory m') fun _ => rfl

theorem HasMemory.resetTo {p : Program} {images : List Nat} (h : p.HasMemory a images)
    (n : Nat) (i : Image) (m m' : ProfileMemory) :
    (p.resetTo n i m m').HasMemory a images := by
  refine h.of_map (fun k => getElem?_resetTo p n k i m m') ?_
  intro k j hj
  split
  · cases hbitmap : m'.regions.bitmapRegion? <;> simp [Image.withMemory, hbitmap, hj]
  · exact hj

/-- What every reset of one of the images keeps is kept, wherever the resets stop. -/
theorem resetEach_induct {P : Program → Prop} (images : List Nat)
    (hstep : ∀ p n i m m', P p → P (p.resetTo n i m m')) (p : Program) (s : σ) (hp : P p) :
    P (p.resetEach b a s images).2.1 := by
  induction images generalizing p s with
  | nil => exact hp
  | cons n rest ih =>
      have hone : P (p.resetOne b a s n).2.1 := by
        rcases resetOne_program b a p s n with h | ⟨i, m, m', -, -, h⟩
        · rw [h]
          exact hp
        · rw [h]
          exact hstep p n i m m' hp
      unfold resetEach
      split
      · rename_i q s' h
        exact ih q s' (by simpa [h] using hone)
      · rename_i f q s' h
        simpa [h] using hone

/-- Resets leave alone what every reset of an image leaves alone. -/
theorem resetAll_induct {P : Program → Prop} (images : List Nat)
    (hstep : ∀ p n i m m', P p → P (p.resetTo n i m m')) (p : Program) (s : σ) (hp : P p) :
    P (p.resetAll b a s images).2.1 := by
  unfold resetAll
  split
  · exact hp
  · exact resetEach_induct b a images hstep p s hp

@[simp]
theorem published_resetAll (p : Program) (s : σ) (images : List Nat) :
    (p.resetAll b a s images).2.1.published = p.published :=
  resetAll_induct b a images (P := fun q => q.published = p.published)
    (fun _ _ _ _ _ h => h) p s rfl

@[simp]
theorem outputs_resetAll (p : Program) (s : σ) (images : List Nat) :
    (p.resetAll b a s images).2.1.outputs = p.outputs :=
  resetAll_induct b a images (P := fun q => q.outputs = p.outputs)
    (fun q n i m m' h => (outputs_resetTo q n i m m').trans h) p s rfl

@[simp]
theorem files_resetAll (p : Program) (s : σ) (images : List Nat) :
    (p.resetAll b a s images).2.1.files = p.files :=
  resetAll_induct b a images (P := fun q => q.files = p.files)
    (fun _ _ _ _ _ h => h) p s rfl

/-- Resets write nothing and publish nothing. -/
theorem events_resetAll (p : Program) (s : σ) (images : List Nat) :
    ∃ l, (p.resetAll b a s images).2.1.events = p.events ++ l ∧
      ∀ e ∈ l, e.publication? = none ∧ e.flush? = none := by
  refine resetAll_induct b a images
    (P := fun q => ∃ l, q.events = p.events ++ l ∧
      ∀ e ∈ l, e.publication? = none ∧ e.flush? = none) ?_ p s ⟨[], by simp⟩
  rintro q n i m m' ⟨l, hl, hquiet⟩
  refine ⟨l ++ resetEvents i n m, ?_, ?_⟩
  · rw [resetTo, change, hl, List.append_assoc]
  · intro e he
    rcases List.mem_append.1 he with he | he
    · exact hquiet e he
    · cases hv : i.version with
      | none =>
          simp only [resetEvents, hv, Option.map_none, Option.toList_none, List.nil_append,
            List.mem_singleton] at he
          rw [he]
          exact ⟨rfl, rfl⟩
      | some v =>
          simp only [resetEvents, hv, Option.map_some, Option.toList_some, List.cons_append,
            List.nil_append, List.mem_cons, List.not_mem_nil, or_false] at he
          rcases he with rfl | rfl <;> exact ⟨rfl, rfl⟩

@[simp]
theorem publications_resetAll (p : Program) (s : σ) (images : List Nat) :
    (p.resetAll b a s images).2.1.publications = p.publications := by
  rcases events_resetAll b a p s images with ⟨l, hl, hquiet⟩
  rw [publications, hl, List.filterMap_append,
    List.filterMap_eq_nil_iff.2 fun e he => (hquiet e he).1, List.append_nil]
  rfl

/-- A reset for which the memory is there ends well, or by the backend: with its refusal, or with
its breach of contract. -/
theorem resetAll_result {p : Program} {images : List Nat} (h : p.HasMemory a images) (s : σ)
    {f : Failure} (hf : (p.resetAll b a s images).1 = .error f) :
    f = .backendBroken ∨ ∃ name why, f = .resetFailed name why := by
  rw [resetAll, (firstMissing?_eq_none_iff p a images).2 h] at hf
  simp only at hf
  induction images generalizing p s with
  | nil => simp [resetEach] at hf
  | cons n rest ih =>
      rw [resetEach] at hf
      cases hi : p.images[n]? with
      | none =>
          have hone : p.resetOne b a s n = (.ok (), p, s) := by simp [resetOne, hi]
          rw [hone] at hf
          exact ih (fun k hk => h k (List.mem_cons_of_mem n hk)) s hf
      | some i =>
          rcases h n List.mem_cons_self i hi with ⟨m, hm⟩
          rw [resetOne_of_memory b a p s hi hm] at hf
          cases hreset : (b.reset (i.version.getD 0) m s).1 with
          | ok u =>
              rw [hreset] at hf
              have hrest : p.HasMemory a rest := fun k hk => h k (List.mem_cons_of_mem n hk)
              exact ih (hrest.resetTo a n i m _) _ hf
          | error complaint =>
              rw [hreset] at hf
              replace hf := Except.error.inj hf
              cases complaint with
              | refused message => exact .inr ⟨i.name, message, hf.symm⟩
              | broken => exact .inl hf.symm

/-- Resets of different images are asked for with the memory that each image had before. -/
theorem resets_resetEach (p : Program) (s : σ) {images : List Nat} (hnodup : images.Nodup) :
    ∃ l, (p.resetEach b a s images).2.1.events = p.events ++ l ∧
      ∀ n m, (n, m) ∈ l.filterMap Event.reset? →
        n ∈ images ∧ ∃ i, p.images[n]? = some i ∧ i.memory a = .ok m := by
  induction images generalizing p s with
  | nil => exact ⟨[], by simp [resetEach]⟩
  | cons n rest ih =>
      rcases List.nodup_cons.1 hnodup with ⟨hn, hrest⟩
      have hone : ∃ l, (p.resetOne b a s n).2.1.events = p.events ++ l ∧
          ∀ k m, (k, m) ∈ l.filterMap Event.reset? →
            k = n ∧ ∃ i, p.images[k]? = some i ∧ i.memory a = .ok m := by
        rcases resetOne_program b a p s n with h | ⟨i, m, m', hi, hm, h⟩
        · exact ⟨[], by simp [h]⟩
        · refine ⟨resetEvents i n m, by rw [h]; rfl, ?_⟩
          intro k m₁ hmem
          rw [resets_resetEvents, List.mem_singleton] at hmem
          rcases Prod.mk.inj hmem with ⟨rfl, rfl⟩
          exact ⟨rfl, i, hi, hm⟩
      -- The other images are as they were before the reset of `n`.
      have hothers : ∀ k ∈ rest, (p.resetOne b a s n).2.1.images[k]? = p.images[k]? := by
        intro k hk
        have hne : k ≠ n := fun heq => hn (heq ▸ hk)
        rcases resetOne_program b a p s n with h | ⟨i, m, m', -, -, h⟩
        · rw [h]
        · rw [h, getElem?_resetTo]
          simp [hne]
      rcases hone with ⟨l, hl, hreset⟩
      unfold resetEach
      split
      · rename_i q s' hq
        have hprogram : (p.resetOne b a s n).2.1 = q := by rw [hq]
        rw [hprogram] at hl hothers
        rcases ih q s' hrest with ⟨l', hl', hreset'⟩
        refine ⟨l ++ l', by rw [hl', hl, List.append_assoc], ?_⟩
        intro k m hmem
        rw [List.filterMap_append, List.mem_append] at hmem
        rcases hmem with hmem | hmem
        · rcases hreset k m hmem with ⟨rfl, hi⟩
          exact ⟨List.mem_cons_self, hi⟩
        · rcases hreset' k m hmem with ⟨hk, hi⟩
          rw [hothers k hk] at hi
          exact ⟨List.mem_cons_of_mem n hk, hi⟩
      · rename_i f q s' hq
        have hprogram : (p.resetOne b a s n).2.1 = q := by rw [hq]
        rw [hprogram] at hl
        refine ⟨l, hl, ?_⟩
        intro k m hmem
        rcases hreset k m hmem with ⟨rfl, hi⟩
        exact ⟨List.mem_cons_self, hi⟩

/-- A backend that resets memory itself resets every image. -/
theorem resetEach_inPlace (hb : b.ResetsInPlace) {p : Program} {images : List Nat}
    (hnodup : images.Nodup) (hmem : p.HasMemory a images) (s : σ) :
    ∃ q s', p.resetEach b a s images = (.ok (), q, s') ∧
      ∀ k, q.images[k]? = p.images[k]?.map fun i => if k ∈ images then i.cleared a else i := by
  induction images generalizing p s with
  | nil => exact ⟨p, s, rfl, by simp⟩
  | cons n rest ih =>
      rcases List.nodup_cons.1 hnodup with ⟨hn, hrest⟩
      have hmemRest : p.HasMemory a rest := fun k hk => hmem k (List.mem_cons_of_mem n hk)
      cases hi : p.images[n]? with
      | none =>
          have hone : p.resetOne b a s n = (.ok (), p, s) := by simp [resetOne, hi]
          rcases ih hrest hmemRest s with ⟨q, s', hq, himages⟩
          refine ⟨q, s', by rw [resetEach, hone]; exact hq, ?_⟩
          intro k
          rw [himages k]
          by_cases hk : k = n
          · rw [hk, hi, Option.map_none, Option.map_none]
          · simp [hk]
      | some i =>
          rcases hmem n List.mem_cons_self i hi with ⟨m, hm⟩
          rcases hb (i.version.getD 0) m s with ⟨s₁, hreset⟩
          have hone : p.resetOne b a s n =
              (.ok (), p.resetTo n i m (m.reset (i.version.getD 0)), s₁) := by
            rw [resetOne_of_memory b a p s hi hm, hreset]
            rfl
          rcases ih hrest (hmemRest.resetTo a n i m _) s₁ with ⟨q, s', hq, himages⟩
          refine ⟨q, s', by rw [resetEach, hone]; exact hq, ?_⟩
          intro k
          rw [himages k, getElem?_resetTo, Option.map_map]
          by_cases hk : k = n
          · have hcleared : i.cleared a = i.withMemory (m.reset (i.version.getD 0)) := by
              rw [Image.cleared, hm]
            rw [hk, hi]
            simp [hn, hcleared]
          · congr 1
            funext j
            simp [hk]

/-- A backend that resets memory itself resets every image, if each has the memory. -/
theorem resetAll_inPlace (hb : b.ResetsInPlace) {p : Program} {images : List Nat}
    (hnodup : images.Nodup) (hmem : p.HasMemory a images) (s : σ) :
    ∃ q s', p.resetAll b a s images = (.ok (), q, s') ∧
      ∀ k, q.images[k]? = p.images[k]?.map fun i => if k ∈ images then i.cleared a else i := by
  rw [resetAll, (firstMissing?_eq_none_iff p a images).2 hmem]
  exact resetEach_inPlace b a hb hnodup hmem s

end Resets

end Program
end CoverageWindows
