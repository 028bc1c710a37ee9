import CoverageWindows.Collector.Program
import CoverageWindows.Proofs.Files.Inside
import CoverageWindows.Proofs.Files.Writes

/-!
# What is asked of a program

Each operation on a program is described by what it does to the published path, to every image, and
to the list of what was done.  Flushing and opening go through images one after another; what they
do to an image does not depend on the others.

Main results:

- Theorem `current_eq_ok_iff`: the published path as text is the text whose bytes are published.
- Theorem `getElem?_writeAll`: a flush changes the images by their numbers of writes alone.
- Theorem `events_writeAll`: a flush writes each image once, with the output and the counters that
  the image has.
- Theorem `isOpen_activate`: images that were made to open a published path have it open.
- Theorem `hasFolder_writeAll`: a flush takes no folder away.
-/

namespace CoverageWindows

/-! ## Outputs -/

namespace Image

/-- A path as the runtime of an image expands it. -/
def expanded (signature : Nat) (path : String) : String :=
  String.ofList (expandToken (Decimal.digits signature) path.toList)

/-- The output of an image whose runtime has opened the published path. -/
def outputFor (signature : Nat) (published : Option Bytes) : Option String :=
  (published.bind Text.ofBytes?).map (expanded signature)

/-- An image that opens its output has the file of the published path. -/
@[simp]
theorem output_opening (i : Image) (n : Nat) (published : Option Bytes) :
    (i.opening n published).output = outputFor n published :=
  rfl

/-- A published text is expanded for the image that opens it. -/
@[simp]
theorem outputFor_toBytes (n : Nat) (path : String) :
    outputFor n (some (Text.toBytes path)) = some (expanded n path) := by
  simp [outputFor]

@[simp]
theorem output_hit (i : Image) (update : Bytes → Bytes) : (i.hit update).output = i.output :=
  rfl

end Image

/-! ## What was done -/

/-- A write as the image saw it: the path that it had open, and its counters. -/
structure Flush where
  image : Nat
  output : Option String
  counters : Bytes
  deriving DecidableEq, Repr

namespace Event

/-- The path that was published, if this is what was done. -/
def publication? : Event → Option Bytes
  | .published path => some path
  | _ => none

/-- The write that an image was asked for, if this is what was done. -/
def flush? : Event → Option Flush
  | .wrote n output counters _ => some ⟨n, output, counters⟩
  | _ => none

/-- The image and the memory of a reset, if this is what was done. -/
def reset? : Event → Option (Nat × ProfileMemory)
  | .reset n _ m => some (n, m)
  | _ => none

end Event

namespace Program

/-- The paths that were published, in order. -/
def publications (p : Program) : List Bytes := p.events.filterMap Event.publication?

/-- The paths that the images have open. -/
def outputs (p : Program) : List (Option String) := p.images.map Image.output

/-- Each of the images has the published path open. -/
def IsOpen (p : Program) (images : List Nat) : Prop :=
  ∀ n ∈ images, ∀ i, p.images[n]? = some i → i.output = Image.outputFor n p.published

/-- The writes that a flush of images asks for. -/
def flushes (p : Program) (images : List Nat) : List Flush :=
  images.filterMap fun n => p.images[n]?.map fun i => ⟨n, i.output, i.counters.cells⟩

/-- Images that have the published path open have it open in any program that does not differ in
these. -/
theorem IsOpen.of_outputs {p q : Program} {images : List Nat} (h : p.IsOpen images)
    (hpublished : q.published = p.published) (houtputs : q.outputs = p.outputs) :
    q.IsOpen images := by
  intro n hn j hj
  have houtput : q.outputs[n]? = some j.output := by simp [outputs, hj]
  rw [houtputs, outputs, List.getElem?_map, Option.map_eq_some_iff] at houtput
  rcases houtput with ⟨i, hi, hij⟩
  rw [hpublished, ← hij]
  exact h n hn i hi

/-! ## Asking one image -/

/-- Where there is no image of a number, a change of it changes nothing. -/
theorem getElem?_of_absent {p : Program} {n : Nat} (h : p.images[n]? = none) (m : Nat)
    (f : Image → Image) :
    p.images[m]? = p.images[m]?.map fun i => if m = n then f i else i := by
  by_cases hm : m = n
  · rw [hm, h, Option.map_none]
  · simp [hm]

/-- A change of one image leaves the others as they are. -/
theorem getElem?_change (p : Program) (n m : Nat) (f : Image → Image) :
    (p.change n f).images[m]? = p.images[m]?.map fun i => if m = n then f i else i := by
  rw [change, List.getElem?_modify]
  by_cases h : m = n
  · simp [h]
  · simp [h, Ne.symm h]

/-- A change that leaves outputs alone leaves all of them alone. -/
theorem outputs_change (p : Program) (n : Nat) {f : Image → Image}
    (hf : ∀ i, (f i).output = i.output) : (p.change n f).outputs = p.outputs := by
  apply List.ext_getElem?
  intro m
  rw [outputs, outputs, List.getElem?_map, List.getElem?_map, getElem?_change, Option.map_map]
  congr 1
  funext i
  by_cases h : m = n <;> simp [h, hf]

@[simp]
theorem published_openOutput (p : Program) (n : Nat) :
    (p.openOutput n).published = p.published := by
  unfold openOutput
  split <;> rfl

/-- Opening an output changes the one image, by the path that is published. -/
theorem getElem?_openOutput (p : Program) (n m : Nat) :
    (p.openOutput n).images[m]? =
      p.images[m]?.map fun i => if m = n then i.opening n p.published else i := by
  unfold openOutput
  split
  · rename_i hnone
    exact getElem?_of_absent hnone m _
  · exact getElem?_change p n m _

/-- Opening an output is an event, if there is such an image. -/
theorem events_openOutput (p : Program) (n : Nat) :
    (p.openOutput n).events =
      p.events ++ if n < p.images.length then [.opened n] else [] := by
  unfold openOutput
  split
  · rename_i hnone
    rw [if_neg (Nat.not_lt.2 (List.getElem?_eq_none_iff.1 hnone)), List.append_nil]
  · rename_i hsome
    rw [if_pos (List.getElem?_eq_some_iff.1 hsome).1]
    rfl

theorem getElem?_setPageSize (p : Program) (n m : Nat) (size : UInt32) :
    (p.setPageSize n size).images[m]? =
      p.images[m]?.map fun i => if m = n then { i with pageSize := size } else i := by
  unfold setPageSize
  split
  · rename_i hnone
    exact getElem?_of_absent hnone m _
  · exact getElem?_change p n m _

@[simp]
theorem published_write (p : Program) (n : Nat) : (p.write n).2.published = p.published := by
  unfold write
  split <;> rfl

/-- A write is counted by its image and changes nothing else there. -/
theorem getElem?_write (p : Program) (n m : Nat) :
    (p.write n).2.images[m]? =
      p.images[m]?.map fun i => if m = n then { i with writes := i.writes + 1 } else i := by
  unfold write
  split
  · rename_i hnone
    exact getElem?_of_absent hnone m _
  · exact getElem?_change _ n m _

/-- A write is done with the output and the counters that the image has. -/
theorem events_write (p : Program) (n : Nat) :
    ∃ l, (p.write n).2.events = p.events ++ l ∧
      l.map Event.flush? = (p.flushes [n]).map some := by
  unfold write
  split
  · rename_i hnone
    exact ⟨[], by simp [flushes, hnone]⟩
  · rename_i i hsome
    exact ⟨_, rfl, by simp [flushes, hsome, Event.flush?]⟩

/-- The published path as text is the text whose bytes are published. -/
theorem current_eq_ok_iff (p : Program) (name path : String) :
    p.current name = .ok path ↔ p.published = some (Text.toBytes path) := by
  rw [current]
  cases hpublished : p.published with
  | none => simp
  | some b =>
      cases hb : Text.ofBytes? b with
      | none =>
          have hne : b ≠ Text.toBytes path := by
            rintro rfl
            simp at hb
          simp [hb, hne]
      | some s =>
          obtain rfl : Text.toBytes s = b := Text.ofBytes?_eq_some_iff.1 hb
          simp only [Text.ofBytes?_toBytes, Except.ok.injEq, Option.some.injEq]
          exact ⟨fun h => by rw [h], Text.toBytes_injective⟩

/-! ## Flushing -/

/-- Writing all images publishes nothing. -/
@[simp]
theorem published_writeAll (p : Program) (images : List Nat) :
    (p.writeAll images).2.published = p.published := by
  induction images generalizing p with
  | nil => rfl
  | cons n rest ih =>
      rw [writeAll]
      exact (ih _).trans (published_write p n)

/-- A flush changes the images by their numbers of writes alone. -/
theorem getElem?_writeAll (p : Program) (images : List Nat) (m : Nat) :
    (p.writeAll images).2.images[m]? =
      p.images[m]?.map fun i => { i with writes := i.writes + images.count m } := by
  induction images generalizing p with
  | nil => simp [writeAll]
  | cons n rest ih =>
      rw [writeAll]
      refine (ih _).trans ?_
      rw [getElem?_write, Option.map_map]
      congr 1
      funext i
      by_cases h : m = n
      · simp [h]
        omega
      · simp [h, List.count_cons_of_ne (Ne.symm h)]

/-- A write does not change what a flush of images would write. -/
@[simp]
theorem flushes_write (p : Program) (n : Nat) (images : List Nat) :
    (p.write n).2.flushes images = p.flushes images := by
  rw [flushes, flushes]
  congr 1
  funext m
  rw [getElem?_write, Option.map_map]
  congr 1
  funext i
  by_cases h : m = n <;> simp [h]

/-- A flush writes each image once, with the output and the counters that the image has. -/
theorem events_writeAll (p : Program) (images : List Nat) :
    ∃ l, (p.writeAll images).2.events = p.events ++ l ∧
      l.map Event.flush? = (p.flushes images).map some := by
  induction images generalizing p with
  | nil => exact ⟨[], by simp [writeAll, flushes]⟩
  | cons n rest ih =>
      rcases events_write p n with ⟨l, hl, hflush⟩
      rcases ih (p.write n).2 with ⟨l', hl', hflush'⟩
      refine ⟨l ++ l', ?_, ?_⟩
      · rw [writeAll]
        exact hl'.trans (by rw [hl, List.append_assoc])
      · rw [List.map_append, hflush, hflush', flushes_write, ← List.map_append, flushes, flushes,
          flushes, ← List.filterMap_append]
        rfl

/-- Writing all images leaves open what is open. -/
@[simp]
theorem outputs_writeAll (p : Program) (images : List Nat) :
    (p.writeAll images).2.outputs = p.outputs := by
  apply List.ext_getElem?
  intro m
  rw [outputs, outputs, List.getElem?_map, List.getElem?_map, getElem?_writeAll, Option.map_map]
  rfl

/-- An event that is a write publishes nothing. -/
theorem filterMap_publication?_of_flush {l : List Event} {fs : List Flush}
    (h : l.map Event.flush? = fs.map some) : l.filterMap Event.publication? = [] := by
  rw [List.filterMap_eq_nil_iff]
  intro e he
  have hmem : e.flush? ∈ fs.map some := by
    rw [← h]
    exact List.mem_map_of_mem he
  cases e with
  | wrote n output counters status => rfl
  | _ => simp [Event.flush?] at hmem

/-- The events of a flush are the writes that it asks for. -/
theorem filterMap_flush?_of_flush {l : List Event} {fs : List Flush}
    (h : l.map Event.flush? = fs.map some) : l.filterMap Event.flush? = fs := by
  have hid : l.filterMap Event.flush? = (l.map Event.flush?).filterMap id := by
    rw [List.filterMap_map]
    rfl
  rw [hid, h, List.filterMap_map]
  exact List.filterMap_some

/-- Writing all images publishes nothing, so the list of publications stays. -/
@[simp]
theorem publications_writeAll (p : Program) (images : List Nat) :
    (p.writeAll images).2.publications = p.publications := by
  rcases events_writeAll p images with ⟨l, hl, hflush⟩
  rw [publications, hl, List.filterMap_append, filterMap_publication?_of_flush hflush,
    List.append_nil]
  rfl

/-! ## Publishing and opening -/

@[simp]
theorem published_openAll (p : Program) (images : List Nat) :
    (p.openAll images).published = p.published := by
  induction images generalizing p with
  | nil => rfl
  | cons n rest ih => exact (ih (p.openOutput n)).trans (published_openOutput p n)

/-- Images that are asked to open the published path have nothing else changed. -/
theorem getElem?_openAll (p : Program) (images : List Nat) (m : Nat) :
    (p.openAll images).images[m]? =
      p.images[m]?.map fun i => if m ∈ images then i.opening m p.published else i := by
  induction images generalizing p with
  | nil => simp [openAll]
  | cons n rest ih =>
      refine (ih (p.openOutput n)).trans ?_
      rw [getElem?_openOutput, published_openOutput, Option.map_map]
      congr 1
      funext i
      by_cases hn : m = n <;> by_cases hrest : m ∈ rest <;> simp [hn, hrest, Image.opening]

@[simp]
theorem length_openOutput (p : Program) (n : Nat) :
    (p.openOutput n).images.length = p.images.length := by
  unfold openOutput
  split
  · rfl
  · simp [record, change]

/-- Opening the outputs of images is an event for each image that is there, in the order of the
list. -/
theorem events_openAll (p : Program) (images : List Nat) :
    (p.openAll images).events =
      p.events ++ (images.filter (· < p.images.length)).map .opened := by
  induction images generalizing p with
  | nil => simp [openAll]
  | cons n rest ih =>
      refine (ih (p.openOutput n)).trans ?_
      rw [events_openOutput, length_openOutput, List.append_assoc]
      by_cases h : n < p.images.length <;> simp [h]

/-- After a path was made the active one, it is published. -/
@[simp]
theorem published_activate (p : Program) (images : List Nat) (path : Bytes) :
    (p.activate images path).published = some path := by
  rw [activate, published_openAll]
  rfl

/-- Making a path the active one opens it in the images of the list, and changes no other image. -/
theorem getElem?_activate (p : Program) (images : List Nat) (path : Bytes) (m : Nat) :
    (p.activate images path).images[m]? =
      p.images[m]?.map fun i => if m ∈ images then i.opening m (some path) else i :=
  getElem?_openAll _ images m

/-- A path is published first, and then opened by each image that is there. -/
theorem events_activate (p : Program) (images : List Nat) (path : Bytes) :
    (p.activate images path).events =
      p.events ++ .published path :: (images.filter (· < p.images.length)).map .opened := by
  rw [activate, events_openAll, record, List.append_assoc]
  rfl

/-- Making a path the active one publishes it once. -/
@[simp]
theorem publications_activate (p : Program) (images : List Nat) (path : Bytes) :
    (p.activate images path).publications = p.publications ++ [path] := by
  have hopened : ∀ l : List Nat, (l.map Event.opened).filterMap Event.publication? = [] := by
    intro l
    rw [List.filterMap_map]
    exact List.filterMap_eq_nil_iff.2 fun _ _ => rfl
  rw [publications, events_activate, List.filterMap_append, List.filterMap_cons, hopened]
  rfl

/-- To publish a path and open it is neither to write nor to reset. -/
theorem events_activate_quiet (p : Program) (images : List Nat) (path : Bytes) :
    ∃ l, (p.activate images path).events = p.events ++ l ∧
      l.filterMap Event.flush? = [] ∧ l.filterMap Event.reset? = [] := by
  refine ⟨_, p.events_activate images path, ?_, ?_⟩
  · rw [List.filterMap_cons_none rfl, List.filterMap_map]
    exact List.filterMap_eq_nil_iff.2 fun _ _ => rfl
  · rw [List.filterMap_cons_none rfl, List.filterMap_map]
    exact List.filterMap_eq_nil_iff.2 fun _ _ => rfl

/-- Images that are asked to end writing through a mapped file have another page size and nothing
else changed. -/
theorem getElem?_endContinuous (p : Program) (images : List Nat) (m : Nat) :
    (p.endContinuous images).images[m]? =
      p.images[m]?.map fun i => if m ∈ images then { i with pageSize := 0 } else i := by
  induction images generalizing p with
  | nil => simp [endContinuous]
  | cons n rest ih =>
      refine (ih (p.setPageSize n 0)).trans ?_
      rw [getElem?_setPageSize, Option.map_map]
      congr 1
      funext i
      by_cases hn : m = n <;> by_cases hrest : m ∈ rest <;> simp [hn, hrest]

/-- Images that were made to open a published path have it open. -/
theorem isOpen_activate (p : Program) (images : List Nat) (path : Bytes) :
    (p.activate images path).IsOpen images := by
  intro n hn j hj
  rw [getElem?_activate, Option.map_eq_some_iff] at hj
  rcases hj with ⟨i, -, rfl⟩
  rw [if_pos hn, published_activate, Image.output_opening]

/-! ## Files -/

/-- An image that writes its profile takes no folder away. -/
theorem hasFolder_writeProfile {files : FileTree} {folder : Bytes} (h : files.HasFolder folder)
    (i : Image) : (writeProfile files i).2.HasFolder folder := by
  unfold writeProfile
  split
  · exact h
  · split
    · exact h
    · dsimp only
      split
      · rename_i hwrite
        exact h.write hwrite
      · exact h

/-- A flush takes no folder away. -/
theorem hasFolder_writeAll {p : Program} {folder : Bytes} (h : p.files.HasFolder folder)
    (images : List Nat) : (p.writeAll images).2.files.HasFolder folder := by
  induction images generalizing p with
  | nil => exact h
  | cons n rest ih =>
      rw [writeAll]
      refine ih ?_
      unfold write
      split
      · exact h
      · exact hasFolder_writeProfile h _

@[simp]
theorem files_activate (p : Program) (images : List Nat) (path : Bytes) :
    (p.activate images path).files = p.files := by
  have hopen : ∀ q : Program, (q.openAll images).files = q.files := by
    intro q
    induction images generalizing q with
    | nil => rfl
    | cons n rest ih =>
        refine (ih (q.openOutput n)).trans ?_
        unfold openOutput
        split <;> rfl
  exact hopen _

@[simp]
theorem files_endContinuous (p : Program) (images : List Nat) :
    (p.endContinuous images).files = p.files := by
  induction images generalizing p with
  | nil => rfl
  | cons n rest ih =>
      refine (ih (p.setPageSize n 0)).trans ?_
      unfold setPageSize
      split <;> rfl

end Program
end CoverageWindows
