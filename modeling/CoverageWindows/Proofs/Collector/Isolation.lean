import CoverageWindows.Proofs.Collector.Session
import Mathlib.Data.List.Basic
import Mathlib.Data.List.Induction

/-!
# Isolation of windows

Calls that fail change nothing, a window is opened with all counters at the start, and nothing but
hits changes counters until it is closed.  What is written when a window is closed is therefore what
was hit while it was open.  Nothing is lost when counters are reset, since they were written before
to the path that was open then.

Main results:

- Theorem `isOpen_start`: a window that was opened has all counters at their start.
- Theorem `baseline_or_open`: after every run of calls the baseline path is published, or one of the
  calls has opened the window that is open since.
- Theorem `windows_isolated`: a window that is closed is written with its own hits, and an image is
  reset after its counters were written.
-/

namespace CoverageWindows

/-! ## Hits -/

/-- What a call makes of the counters of an image, if it is a hit of the image. -/
def Call.hitOf? (n : Nat) : Call → Option (Bytes → Bytes)
  | .hit image update => if image = n then some update else none
  | _ => none

/-- The hits of an image that calls make, in order. -/
def hitsOf (n : Nat) (calls : List Call) : List (Bytes → Bytes) :=
  calls.filterMap (Call.hitOf? n)

/-- One more call adds its hit, if it is one of the image. -/
theorem hitsOf_concat (n : Nat) (calls : List Call) (k : Call) :
    hitsOf n (calls ++ [k]) = hitsOf n calls ++ (k.hitOf? n).toList := by
  unfold hitsOf
  rw [List.filterMap_append]
  cases hk : k.hitOf? n <;> simp [hk]

/-- The image after hits one after another. -/
def Image.hits (i : Image) (updates : List (Bytes → Bytes)) : Image :=
  updates.foldl hit i

/-- The counters after hits have the bytes to which the updates lead, one after another. -/
theorem Image.cells_hits (i : Image) (updates : List (Bytes → Bytes)) :
    (i.hits updates).counters.cells =
      updates.foldl (fun cells update => update cells) i.counters.cells := by
  induction updates generalizing i with
  | nil => rfl
  | cons update rest ih => exact ih (i.hit update)

/-- What a hit makes of the counters depends on them alone. -/
theorem Image.counters_hit_congr {i j : Image} (h : i.counters = j.counters)
    (update : Bytes → Bytes) : (i.hit update).counters = (j.hit update).counters := by
  rw [hit, hit, h]

/-- The last hit comes behind the others. -/
theorem Image.hits_concat (i : Image) (updates : List (Bytes → Bytes)) (update : Bytes → Bytes) :
    i.hits (updates ++ [update]) = (i.hits updates).hit update := by
  rw [hits, List.foldl_append]
  rfl

/-! ## Open windows -/

/-- Whether an answer tells that a window was opened or closed. -/
def Answer.switched : Answer → Bool
  | .started (.ok _) => true
  | .stopped (.ok _) => true
  | _ => false

namespace Session

variable {σ : Type}

/-- The window that was opened in the session `s` is open after further calls: none of them has
opened or closed a window, its path is published, and each image has it open and has been hit by
these calls alone since it was opened. -/
structure Open (s : Session σ) (calls : List Call) : Prop where
  started : s.start.1 = .ok ()
  steady : ∀ a ∈ (s.start.2.run calls).1, a.switched = false
  published : (s.start.2.run calls).2.program.published =
    some (s.collector.windowPath s.collector.nextWindow)
  images : ∀ n ∈ s.collector.images,
    (s.start.2.run calls).2.program.images[n]?.map (fun j => (j.output, j.counters)) =
      s.program.images[n]?.map fun i =>
        (Image.outputFor n (some (s.collector.windowPath s.collector.nextWindow)),
          (i.pristine.hits (hitsOf n calls)).counters)

/-- A window that was opened has all counters at their start; else nothing was changed. -/
theorem isOpen_start (s : Session σ) (hb : s.collector.decoder.backend.ResetsInPlace)
    (hnodup : s.collector.images.Nodup) :
    (∃ f, s.start = (.error f, s)) ∨ s.Open [] := by
  rcases s.collector.start_or_same s.program with ⟨f, h⟩ | ⟨hmem, h⟩
  · exact .inl ⟨f, by rw [start, h]⟩
  · rcases s.collector.openNext_inPlace hb hnodup hmem with ⟨hok, hpublished, himages⟩
    have hstart : s.start = ((s.collector.openNext s.program).1,
        ⟨(s.collector.openNext s.program).2.1, (s.collector.openNext s.program).2.2⟩) := by
      rw [start, h]
    right
    exact
      { started := by rw [hstart]; exact hok
        steady := by simp [run]
        published := by rw [hstart]; exact hpublished
        images := by rw [hstart]; exact himages }

/-- The first window of a collector that was made can be opened where the memory is there. -/
theorem open_first {b : Backend σ} {r : CollectorRequest} {p p' : Program} {c : Collector σ}
    (h : c.MadeFrom b r p p') (hb : b.ResetsInPlace) (hnodup : r.images.Nodup)
    (hmem : p.HasMemory r.settings.abi r.images) : (Session.mk c p').Open [] := by
  have hmade : p'.HasMemory c.settings.abi c.images := by
    rw [h.settings, h.images]
    exact h.hasMemory _ hmem
  have hinPlace : c.decoder.backend.ResetsInPlace := by
    rw [h.backend]
    exact hb
  have hdifferent : c.images.Nodup := by
    rw [h.images]
    exact hnodup
  have hstart : (Session.mk c p').start.1 = .ok () := by
    rw [(agrees_create h).start_of_idle rfl hmade]
    exact (c.openNext_inPlace hinPlace hdifferent hmade).1
  rcases (Session.mk c p').isOpen_start hinPlace hdifferent with ⟨f, herror⟩ | hopen
  · rw [herror] at hstart
    simp at hstart
  · exact hopen

namespace Open

variable {s : Session σ} {calls : List Call}

/-- A call that does not switch the window is one more of those. -/
theorem steady_concat (h : s.Open calls) {k : Call}
    (hk : ((s.start.2.run calls).2.call k).1.switched = false) :
    ∀ a ∈ (s.start.2.run (calls ++ [k])).1, a.switched = false := by
  intro a ha
  rw [run_concat, List.mem_append, List.mem_singleton] at ha
  rcases ha with ha | ha
  · exact h.steady a ha
  · rw [ha]
    exact hk

/-- A call that fails leaves a window open. -/
theorem concat_same (h : s.Open calls) {k : Call} {a : Answer} (hhits : ∀ n, k.hitOf? n = none)
    (hswitched : a.switched = false)
    (hcall : (s.start.2.run calls).2.call k = (a, (s.start.2.run calls).2)) :
    s.Open (calls ++ [k]) := by
  have hrun : s.start.2.run (calls ++ [k]) =
      ((s.start.2.run calls).1 ++ [a], (s.start.2.run calls).2) := by
    rw [run_concat, hcall]
  have hsame : ∀ n, hitsOf n (calls ++ [k]) = hitsOf n calls := by
    intro n
    rw [hitsOf_concat, hhits, Option.toList_none, List.append_nil]
  constructor
  · exact h.started
  · apply h.steady_concat
    rw [hcall]
    exact hswitched
  · rw [hrun]
    exact h.published
  · intro n hn
    rw [hrun, hsame]
    exact h.images n hn

/-- A hit leaves a window open, and is added to the hits of its image. -/
theorem concat_hit (h : s.Open calls) (image : Nat) (update : Bytes → Bytes) :
    s.Open (calls ++ [.hit image update]) := by
  have hrun : s.start.2.run (calls ++ [.hit image update]) =
      ((s.start.2.run calls).1 ++ [.ran], (s.start.2.run calls).2.hit image update) :=
    run_concat _ _ _
  constructor
  · exact h.started
  · exact h.steady_concat rfl
  · rw [hrun]
    exact h.published
  · intro n hn
    rw [hrun, hit, Program.getElem?_change, Option.map_map]
    have hbefore := h.images n hn
    by_cases hn' : n = image
    · have hhits : hitsOf n (calls ++ [.hit image update]) = hitsOf n calls ++ [update] := by
        rw [hitsOf_concat]
        simp [Call.hitOf?, hn']
      rw [hhits]
      cases hi : s.program.images[n]? with
      | none =>
          rw [hi, Option.map_none, Option.map_eq_none_iff] at hbefore
          rw [hbefore]
          rfl
      | some i =>
          rw [hi, Option.map_some, Option.map_eq_some_iff] at hbefore
          rcases hbefore with ⟨j, hj, hij⟩
          rcases Prod.mk.inj hij with ⟨houtput, hcounters⟩
          have hhit := Image.counters_hit_congr hcounters update
          rw [hj, Option.map_some, Option.map_some, Image.hits_concat, ← hhit, ← houtput]
          simp [hn']
    · have hhits : hitsOf n (calls ++ [.hit image update]) = hitsOf n calls := by
        rw [hitsOf_concat]
        simp [Call.hitOf?, Ne.symm hn']
      rw [hhits, ← hbefore]
      simp [hn', Function.comp_def]

end Open

/-- After every run of calls the baseline path is published, or one of the calls has opened the
window that is open since. -/
theorem baseline_or_open (s : Session σ)
    (hpublished : s.program.published = some (Text.toBytes s.collector.baselinePath))
    (hb : s.collector.decoder.backend.ResetsInPlace) (hnodup : s.collector.images.Nodup)
    (calls : List Call) :
    (s.run calls).2.program.published = some (Text.toBytes s.collector.baselinePath) ∨
      ∃ before since, calls = before ++ .start :: since ∧ (s.run before).2.Open since := by
  induction calls using List.reverseRecOn with
  | nil => exact .inl hpublished
  | append_singleton calls k ih =>
      have hcontinues := s.continues_run calls
      -- A call that changes nothing keeps whichever of the two holds.
      have hsame : ∀ a, (∀ n, k.hitOf? n = none) → a.switched = false →
          (s.run calls).2.call k = (a, (s.run calls).2) →
          (s.run (calls ++ [k])).2.program.published =
              some (Text.toBytes s.collector.baselinePath) ∨
            ∃ before since, calls ++ [k] = before ++ .start :: since ∧
              (s.run before).2.Open since := by
        intro a hhits hswitched hcall
        rcases ih with hbaseline | ⟨before, since, rfl, hopen⟩
        · left
          rw [run_concat, hcall]
          exact hbaseline
        · right
          refine ⟨before, since ++ [k], by simp, hopen.concat_same hhits hswitched ?_⟩
          rw [run_append] at hcall
          exact hcall
      cases k with
      | start =>
          have hb' : (s.run calls).2.collector.decoder.backend.ResetsInPlace := by
            rw [hcontinues.decoder]
            exact hb
          have hnodup' : (s.run calls).2.collector.images.Nodup := by
            rw [hcontinues.images]
            exact hnodup
          rcases (s.run calls).2.isOpen_start hb' hnodup' with ⟨f, h⟩ | hopen
          · exact hsame (.started (.error f)) (fun _ => rfl) rfl (by rw [call, h])
          · exact .inr ⟨calls, [], rfl, hopen⟩
      | stop =>
          rcases (s.run calls).2.collector.stop_or_same (s.run calls).2.program with
            ⟨f, h⟩ | ⟨path, -, -, h⟩
          · exact hsame (.stopped (.error f)) (fun _ => rfl) rfl (by rw [call, stop, h])
          · left
            rw [run_concat, call, stop, h, ← hcontinues.baselinePath]
            exact Program.published_activate _ _ _
      | hit image update =>
          rcases ih with hbaseline | ⟨before, since, rfl, hopen⟩
          · left
            rw [run_concat]
            exact hbaseline
          · exact .inr ⟨before, since ++ [.hit image update], by simp,
              hopen.concat_hit image update⟩

end Session

/-! ## Flushing before resetting -/

/-- Each reset among events that follow a program comes behind a write of the image, which was done
before anything was published: with the output that the image had, and with the counters that it had
and still has when it is reset. -/
def Program.FlushedFirst (p : Program) (events : List Event) : Prop :=
  ∀ front behind n v m, events = front ++ .reset n v m :: behind →
    ∃ i first rest status, p.images[n]? = some i ∧
      front = first ++ .wrote n i.output i.counters.cells status :: rest ∧
      (∀ e ∈ first, e.publication? = none) ∧ m.regions.countersRegion = i.counters

/-- Of events that begin with a flush, resets are in what follows it. -/
theorem Program.flushedFirst_append {p : Program} {images : List Nat} {flush rest : List Event}
    (hflush : flush.map Event.flush? = (p.flushes images).map some)
    (hrest : ∀ n m, (n, m) ∈ rest.filterMap Event.reset? →
      n ∈ images ∧ ∃ i, p.images[n]? = some i ∧ m.regions.countersRegion = i.counters) :
    p.FlushedFirst (flush ++ rest) := by
  intro front behind n v m heq
  have hreset : .reset n v m ∉ flush := by
    intro hmem
    have hnone : Event.flush? (.reset n v m) ∈ (p.flushes images).map some := by
      rw [← hflush]
      exact List.mem_map_of_mem hmem
    simp [Event.flush?] at hnone
  obtain ⟨between, hfront, hsplit⟩ : ∃ between, front = flush ++ between ∧
      rest = between ++ .reset n v m :: behind := by
    rcases List.append_eq_append_iff.1 heq with ⟨between, hfront, hsplit⟩ | ⟨tail, hsplit, hrest⟩
    · exact ⟨between, hfront, hsplit⟩
    · cases tail with
      | nil => exact ⟨[], by simpa using hsplit.symm, by simpa using hrest.symm⟩
      | cons e tail =>
          have he : .reset n v m = e := by simpa using congrArg List.head? hrest
          rw [hsplit, he] at hreset
          exact absurd (by simp) hreset
  have hmem : (n, m) ∈ rest.filterMap Event.reset? := by
    rw [hsplit, List.filterMap_append]
    simp [Event.reset?]
  rcases hrest n m hmem with ⟨hn, i, hi, hcounters⟩
  have hwritten : some ⟨n, i.output, i.counters.cells⟩ ∈ flush.map Event.flush? := by
    rw [hflush]
    apply List.mem_map_of_mem
    exact List.mem_filterMap.2 ⟨n, hn, by rw [hi]; rfl⟩
  rcases List.mem_map.1 hwritten with ⟨e, he, hwrote⟩
  rcases List.append_of_mem he with ⟨first, later, hflushSplit⟩
  cases e with
  | wrote k output counters status =>
      simp only [Event.flush?, Option.some.injEq, Flush.mk.injEq] at hwrote
      rcases hwrote with ⟨rfl, rfl, rfl⟩
      refine ⟨i, first, later ++ between, status, hi, ?_, ?_, hcounters⟩
      · rw [hfront, hflushSplit, List.append_assoc, List.cons_append]
      · intro e' he'
        have hnil := Program.filterMap_publication?_of_flush hflush
        rw [List.filterMap_eq_nil_iff] at hnil
        apply hnil
        rw [hflushSplit]
        exact List.mem_append_left _ he'
  | _ => simp [Event.flush?] at hwrote

namespace Collector

variable {σ : Type}

/-- A window is begun with a flush; the resets come behind it. -/
theorem flushedFirst_openNext (c : Collector σ) (hnodup : c.images.Nodup) {p : Program}
    (hmem : p.HasMemory c.settings.abi c.images) :
    ∃ new, (c.openNext p).2.2.events = p.events ++ new ∧ p.FlushedFirst new := by
  rcases p.events_writeAll c.images with ⟨flush, hflush, hwritten⟩
  have hbegun : ∃ opening, (c.begun p).events = p.events ++ (flush ++ opening) ∧
      opening.filterMap Event.reset? = [] := by
    rcases (p.writeAll c.images).2.events_activate_quiet c.images (c.windowPath c.nextWindow) with
      ⟨opening, hopening, -, hquiet⟩
    refine ⟨opening, ?_, hquiet⟩
    rw [begun, activate, hopening, hflush, List.append_assoc]
  have hresets : ∃ reset, (c.resets p).2.1.events = (c.begun p).events ++ reset ∧
      ∀ n m, (n, m) ∈ reset.filterMap Event.reset? →
        n ∈ c.images ∧ ∃ i, p.images[n]? = some i ∧ m.regions.countersRegion = i.counters := by
    obtain ⟨reset, hreset, hmemory⟩ := Program.resets_resetEach c.decoder.backend c.settings.abi
      (c.begun p) c.backendState hnodup
    refine ⟨reset, ?_, fun n m hnm => ?_⟩
    · rw [resets, Program.resetAll,
        (Program.firstMissing?_eq_none_iff _ _ _).2 (c.hasMemory_begun hmem)]
      exact hreset
    · rcases hmemory n m hnm with ⟨hn, j, hj, hm⟩
      refine ⟨hn, ?_⟩
      rw [getElem?_begun, Option.map_eq_some_iff] at hj
      rcases hj with ⟨i, hi, rfl⟩
      refine ⟨i, hi, ?_⟩
      rw [Image.countersRegion_of_memory hm]
      simp [hn, Image.opening]
  have hending : ∃ ending, (c.openNext p).2.2.events = (c.resets p).2.1.events ++ ending ∧
      ending.filterMap Event.reset? = [] := by
    rw [openNext_eq]
    by_cases hopened : Beginning.of (c.resets p).1 = .opened
    · exact ⟨[], by simp [hopened], rfl⟩
    · rcases (c.resets p).2.1.events_activate_quiet c.images (Text.toBytes c.baselinePath) with
        ⟨ending, hending, -, hquiet⟩
      refine ⟨ending, ?_, hquiet⟩
      rw [if_neg hopened, activate, hending]
  rcases hbegun with ⟨opening, hopening, hopeningQuiet⟩
  rcases hresets with ⟨reset, hreset, hmemory⟩
  rcases hending with ⟨ending, hending, hendingQuiet⟩
  refine ⟨flush ++ (opening ++ reset ++ ending), ?_, ?_⟩
  · rw [hending, hreset, hopening]
    simp only [List.append_assoc]
  · apply Program.flushedFirst_append hwritten
    intro n m hnm
    rw [List.filterMap_append, List.filterMap_append, hopeningQuiet, hendingQuiet, List.nil_append,
      List.append_nil] at hnm
    exact hmemory n m hnm

/-- An attempt to open a window flushes before it resets. -/
theorem flushedFirst_start (c : Collector σ) (hnodup : c.images.Nodup) (p : Program) :
    ∃ new, (c.start p).2.2.events = p.events ++ new ∧ p.FlushedFirst new := by
  rcases c.start_or_same p with ⟨f, h⟩ | ⟨hmem, h⟩
  · refine ⟨[], by rw [h, List.append_nil], ?_⟩
    intro front behind n v m heq
    simp at heq
  · rw [h]
    exact c.flushedFirst_openNext hnodup hmem

/-- A window that is closed is written by each image once, with what the image has open and with its
counters. -/
theorem flushes_stop (c : Collector σ) {p : Program} {path : String}
    (h : (c.stop p).1 = .ok path) :
    p.published = some (Text.toBytes path) ∧ path ≠ c.baselinePath ∧
      ∃ new, (c.stop p).2.events = p.events ++ new ∧
        new.filterMap Event.flush? = p.flushes c.images := by
  rcases c.stop_or_same p with ⟨f, hstop⟩ | ⟨path', hpublished, hne, hstop⟩
  · rw [hstop] at h
    simp at h
  · rw [hstop] at h ⊢
    obtain rfl := Except.ok.inj h
    rcases p.events_writeAll c.images with ⟨flush, hflush, hwritten⟩
    rcases (p.writeAll c.images).2.events_activate_quiet c.images (Text.toBytes c.baselinePath) with
      ⟨opening, hopening, hquiet, -⟩
    refine ⟨hpublished, hne, flush ++ opening, ?_, ?_⟩
    · rw [activate, hopening, hflush, List.append_assoc]
    · rw [List.filterMap_append, hquiet, List.append_nil]
      exact Program.filterMap_flush?_of_flush hwritten

end Collector

/-- A window that was opened and is still open is written with the hits since it was opened. -/
theorem Session.Open.flushes {σ : Type} {s : Session σ} {calls : List Call} (h : s.Open calls)
    {path : String}
    (hpath : Text.toBytes path = s.collector.windowPath s.collector.nextWindow) :
    (s.start.2.run calls).2.program.flushes s.collector.images =
      s.collector.images.filterMap fun n => s.program.images[n]?.map fun i =>
        ⟨n, some (Image.expanded n path),
          (hitsOf n calls).foldl (fun cells update => update cells) i.pristine.counters.cells⟩ := by
  apply List.filterMap_congr
  intro n hn
  have hview := h.images n hn
  rw [← hpath, Image.outputFor_toBytes] at hview
  have hflush : ∀ o : Option Image, (o.map fun j => (⟨n, j.output, j.counters.cells⟩ : Flush)) =
      (o.map fun j => (j.output, j.counters)).map fun v => ⟨n, v.1, v.2.cells⟩ := by
    intro o
    rw [Option.map_map]
    rfl
  rw [hflush, hview, Option.map_map]
  congr 1
  funext i
  exact congrArg (Flush.mk n _) (i.pristine.cells_hits (hitsOf n calls))

/-- Windows of a collector that was made with a backend that resets memory itself, for images that
are different, are isolated over every run of calls, whatever a hit makes of the bytes of counters.
Where a window is closed, one of the calls was the successful attempt to open it: no later one has
opened or closed a window, the path is the one that this attempt gave to the window, and each image
is written exactly once, to that path, with the counters that its hits since then produce from the
state in which nothing has run.  The counters of that state are filled with the byte that the
version of the image tells.  An attempt to open a window resets an image only after it has written
the image, to the output that was open before, with the very counters that are reset. -/
theorem windows_isolated {σ : Type} {b : Backend σ} {r : CollectorRequest} {p p' : Program}
    {x x' : σ} {c : Collector σ} (hcreate : Collector.create b r p x = (.ok c, p', x'))
    (hb : b.ResetsInPlace) (hnodup : r.images.Nodup) (calls : List Call) :
    let session : Session σ := ⟨c, p'⟩
    let s := (session.run calls).2
    (∀ path, s.stop.1 = .ok path →
      ∃ before since new, calls = before ++ .start :: since ∧
        (session.run before).2.start.1 = .ok () ∧
        (∀ a ∈ ((session.run before).2.start.2.run since).1, a.switched = false) ∧
        Text.toBytes path = c.windowPath (session.run before).2.collector.nextWindow ∧
        s.stop.2.program.events = s.program.events ++ new ∧
        new.filterMap Event.flush? = r.images.filterMap fun n =>
          (session.run before).2.program.images[n]?.map fun i =>
            ⟨n, some (Image.expanded n path), (hitsOf n since).foldl
              (fun cells update => update cells) i.pristine.counters.cells⟩) ∧
      (∀ i : Image, i.counters.FilledWith
        (if (i.version.getD 0).toNat.testBit 60 then 0xFF else 0) i.pristine.counters) ∧
      ∃ new, s.start.2.program.events = s.program.events ++ new ∧
        s.program.FlushedFirst new := by
  intro session s
  have hmade := Collector.create_spec hcreate
  have hcontinues : s.collector.Continues c := session.continues_run calls
  refine ⟨?_, Image.filledWith_pristine, ?_⟩
  · intro path hstop
    rcases s.collector.flushes_stop hstop with ⟨hpublished, hne, new, hnew, hflushes⟩
    have hinPlace : session.collector.decoder.backend.ResetsInPlace := by
      change c.decoder.backend.ResetsInPlace
      rw [hmade.backend]
      exact hb
    have hdifferent : session.collector.images.Nodup := by
      change c.images.Nodup
      rw [hmade.images]
      exact hnodup
    rcases session.baseline_or_open hmade.published hinPlace hdifferent calls with
      hbaseline | ⟨before, since, rfl, hopen⟩
    · change s.program.published = _ at hbaseline
      rw [hpublished, Option.some.injEq] at hbaseline
      rw [hcontinues.baselinePath] at hne
      exact absurd (Text.toBytes_injective hbaseline) hne
    · have hbefore : (session.run before).2.collector.Continues c := session.continues_run before
      have hs : s = ((session.run before).2.start.2.run since).2 := by
        change (session.run (before ++ .start :: since)).2 = _
        rw [Session.run_append]
        rfl
      have hpath : Text.toBytes path = (session.run before).2.collector.windowPath
          (session.run before).2.collector.nextWindow := by
        rw [hs, hopen.published, Option.some.injEq] at hpublished
        exact hpublished.symm
      refine ⟨before, since, new, rfl, hopen.started, hopen.steady, ?_, hnew, ?_⟩
      · rw [hpath, hbefore.windowPath]
      · have hwritten := hopen.flushes hpath
        rw [hbefore.images, ← hs, hmade.images] at hwritten
        rw [hflushes, hcontinues.images, hmade.images]
        exact hwritten
  · apply s.collector.flushedFirst_start
    rw [hcontinues.images, hmade.images]
    exact hnodup

/-! ## Hits of a small session -/

namespace Sample

/-- The backend of the small session resets in place. -/
theorem resetsInPlace_backend : (backend none).ResetsInPlace :=
  fun _ _ done => ⟨done + 1, rfl⟩

/-- Code that counts in words of eight bytes has run twice. -/
def twice (cells : Bytes) : Bytes := Bytes.ofWords ((Bytes.words cells).map (· + 2))

theorem hasMemory_program : program.HasMemory request.settings.abi request.images := by
  rw [← Program.firstMissing?_eq_none_iff]
  decide

/-- A counter is hit twice in the first window, which is closed then. -/
theorem exists_stop :
    ∃ c p' x' path, Collector.create (backend none) request program 0 = (.ok c, p', x') ∧
      ((Session.mk c p').run [.start, .hit 0 twice]).2.stop.1 = .ok path := by
  rcases exists_create none with ⟨c, p', x', hcreate, hbase⟩
  have hmade := Collector.create_spec hcreate
  have hopen : (Session.mk c p').Open [.hit 0 twice] :=
    (Session.open_first hmade resetsInPlace_backend (by decide) hasMemory_program).concat_hit 0
      twice
  have hcontinues := (Session.mk c p').continues_run [.start, .hit 0 twice]
  rcases c.exists_toBytes_windowPath hmade.folder c.nextWindow with ⟨path, hpath⟩
  refine ⟨c, p', x', path, hcreate, ?_⟩
  rw [Session.stop, Collector.stop_of_window _ _ (k := c.nextWindow) ?_ ?_ ?_]
  · rw [hcontinues.baselinePath, hcontinues.windowPath]
    exact hbase c.nextWindow
  · rw [hpath]
    exact hopen.published
  · rw [hcontinues.windowPath]
    exact hpath

end Sample

/-- The window of a small session in which a counter is hit twice is written with two hits alone. -/
theorem windows_isolated_hit_twice :
    ∃ c p' x' path, Collector.create (Sample.backend none) Sample.request Sample.program 0 =
        (.ok c, p', x') ∧
      let s := ((Session.mk c p').run [.start, .hit 0 Sample.twice]).2
      s.stop.1 = .ok path ∧
        ∃ new, s.stop.2.program.events = s.program.events ++ new ∧
          new.filterMap Event.flush? = Sample.request.images.filterMap fun n =>
            p'.images[n]?.map fun i => ⟨n, some (Image.expanded n path),
              (hitsOf n [.hit 0 Sample.twice]).foldl (fun cells update => update cells)
                i.pristine.counters.cells⟩ := by
  rcases Sample.exists_stop with ⟨c, p', x', path, hcreate, hstop⟩
  rcases windows_isolated hcreate Sample.resetsInPlace_backend (by decide)
    [.start, .hit 0 Sample.twice] with ⟨hclosed, -, -⟩
  rcases hclosed path hstop with ⟨before, since, new, hcalls, -, -, -, hnew, hflushes⟩
  refine ⟨c, p', x', path, hcreate, hstop, new, hnew, ?_⟩
  cases before with
  | nil =>
      obtain rfl : [.hit 0 Sample.twice] = since := (List.cons.inj hcalls).2
      exact hflushes
  | cons k rest =>
      have hrest : [.hit 0 Sample.twice] = rest ++ .start :: since := (List.cons.inj hcalls).2
      cases rest <;> simp at hrest

end CoverageWindows
