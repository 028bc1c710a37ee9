import CoverageWindows.Collector.Basic
import CoverageWindows.Proofs.Collector.Resets

/-!
# Calls to a collector

A collector is made, and then asked to open and to close windows while the program runs on.  Each
call is described by its outcomes: what it answers, which path is published after it, and which ones
it published on the way.

Main results:

- Theorem `windowPath_eq`: the path of a window spelled out.
- Theorem `create_ok_cases`: a collector that was made, from the parts that it was made of.
- Theorem `create_spec`: a collector that was made has published its baseline path.
- Theorem `start_cases`: a window is refused, or begun with all that this entails.
- Theorem `openNext_spec`: a window that is begun is published, and the baseline path once more if
  the backend refuses to reset.
- Theorem `openNext_inPlace`: with a backend that resets memory itself it is open, with all counters
  at their start.
- Theorem `stop_or_same`: a window is closed, or nothing is changed.
-/

namespace CoverageWindows

/-! ## Names of windows -/

namespace Collector

variable {σ : Type}

/-- The name of a window is no path from the root. -/
theorem isAbsolute_windowName (processId : Nat) (index : UInt64) :
    Path.isAbsolute (Text.toBytes (windowName processId index)) = false := by
  have hfront : Text.toBytes "code-coverage-" ≠ [] := by decide
  -- The defining equation is not used: to derive it for a text this long takes seconds.
  delta windowName
  simp only [Text.toBytes_append, List.append_assoc]
  rw [Path.isAbsolute_append hfront]
  decide

/-- The path of a window spelled out: the folder of windows, a slash unless the folder is empty or
ends in one, and a name with the number of the process and the index in decimal digits. -/
theorem windowPath_eq (c : Collector σ) (k : UInt64) :
    c.windowPath k =
      c.settings.windowFolder ++
        (if c.settings.windowFolder = [] ∨ c.settings.windowFolder.getLast? = some Path.slash
          then [] else [Path.slash]) ++
        Text.toBytes ("code-coverage-" ++ String.ofList (Decimal.digits c.processId) ++ "-" ++
          String.ofList (Decimal.digits k.toNat) ++ ".profraw") := by
  change _ = _ ++ _ ++ Text.toBytes (windowName c.processId k)
  rw [windowPath, Path.inside_eq (isAbsolute_windowName c.processId k)]
  by_cases hempty : c.settings.windowFolder = []
  · simp [hempty]
  · by_cases hslash : c.settings.windowFolder.getLast? = some Path.slash
    · simp [hempty, hslash]
    · simp [hempty, hslash]

/-- The path of a window begins with the folder of windows. -/
theorem startsWith_windowPath (c : Collector σ) (k : UInt64) :
    Path.startsWith (c.windowPath k) c.settings.windowFolder = true :=
  Path.startsWith_inside (isAbsolute_windowName c.processId k) c.settings.windowFolder

/-- The path of a window is text where the folder of windows is. -/
theorem exists_toBytes_windowPath (c : Collector σ)
    (hfolder : ∃ folder, Text.toBytes folder = c.settings.windowFolder) (k : UInt64) :
    ∃ path, Text.toBytes path = c.windowPath k := by
  rcases hfolder with ⟨folder, hfolder⟩
  rw [windowPath, ← hfolder]
  exact Path.exists_toBytes_inside (isAbsolute_windowName c.processId k) folder

/-! ## Making a collector -/

/-- Settling publishes and opens the path that was prepared, unless it is the published one; it ends
with a flush. -/
theorem settle_cases (name : String) (images : List Nat) (prepared : ProfilePath.Prepared)
    (p : Program) :
    (∃ q, (q = p ∨ q = p.endContinuous images) ∧
      settle name images prepared p =
        ((q.activate images (Text.toBytes (String.ofList prepared.path))).writeAll images).2) ∨
      (p.published = some (Text.toBytes (String.ofList prepared.path)) ∧
        settle name images prepared p = (p.writeAll images).2) := by
  by_cases hchanged : prepared.changed = true
  · exact .inl ⟨_, .inr rfl, by simp [settle, hchanged]⟩
  · cases hcurrent : p.current name with
    | error f => exact .inl ⟨p, .inl rfl, by simp [settle, hchanged, hcurrent]⟩
    | ok current =>
        by_cases hpath : current = String.ofList prepared.path
        · refine .inr ⟨?_, by simp [settle, hchanged, hcurrent, hpath]⟩
          rw [← hpath]
          exact (Program.current_eq_ok_iff p name current).1 hcurrent
        · exact .inl ⟨p, .inl rfl, by simp [settle, hchanged, hcurrent, hpath]⟩

/-- Settling publishes the path that was prepared. -/
theorem published_settle (name : String) (images : List Nat) (prepared : ProfilePath.Prepared)
    (p : Program) :
    (settle name images prepared p).published =
      some (Text.toBytes (String.ofList prepared.path)) := by
  rcases settle_cases name images prepared p with ⟨q, -, h⟩ | ⟨hpublished, h⟩
  · rw [h, Program.published_writeAll, Program.published_activate]
  · rw [h, Program.published_writeAll, hpublished]

/-- Settling leaves images with the published path open if they had it open. -/
theorem isOpen_settle (name : String) (images : List Nat) (prepared : ProfilePath.Prepared)
    {p : Program} (hopen : p.IsOpen images) : (settle name images prepared p).IsOpen images := by
  rcases settle_cases name images prepared p with ⟨q, -, h⟩ | ⟨-, h⟩
  · rw [h]
    exact (Program.isOpen_activate q images _).of_outputs (Program.published_writeAll _ _)
      (Program.outputs_writeAll _ _)
  · rw [h]
    exact hopen.of_outputs (Program.published_writeAll p _) (Program.outputs_writeAll p _)

/-- Settling leaves the memory for resets there. -/
theorem hasMemory_settle (name : String) (images : List Nat) (prepared : ProfilePath.Prepared)
    {p : Program} {a : Abi} (hmem : p.HasMemory a images) :
    (settle name images prepared p).HasMemory a images := by
  rcases settle_cases name images prepared p with ⟨q, hq, h⟩ | ⟨-, h⟩
  · have hended : q.HasMemory a images := by
      rcases hq with rfl | rfl
      · exact hmem
      · exact hmem.endContinuous
    rw [h]
    exact (hended.activate _).writeAll
  · rw [h]
    exact hmem.writeAll

/-- What holds of a collector when it is made for a request in a program. -/
structure MadeFrom (c : Collector σ) (b : Backend σ) (r : CollectorRequest) (p p' : Program) :
    Prop where
  settings : c.settings = r.settings
  images : c.images = r.images
  processId : c.processId = r.processId
  backend : c.decoder.backend = b
  nextWindow : c.nextWindow = 0
  folder : ∃ folder, Text.toBytes folder = c.settings.windowFolder
  published : p'.published = some (Text.toBytes c.baselinePath)
  isOpen : p.IsOpen r.images → p'.IsOpen r.images
  hasMemory : ∀ a, p.HasMemory a r.images → p'.HasMemory a r.images

/-- A decoder that was bound keeps the backend. -/
theorem bind_backend {b : Backend σ} {r : CollectorRequest} {p : Program} {s s' : σ}
    {d : Decoder σ} (h : bind b r p s = (.ok d, s')) :
    d.backend = b ∧ ∃ folder, Text.toBytes folder = r.settings.windowFolder := by
  unfold bind at h
  split at h
  · simp at h
  · rename_i hfolder
    constructor
    · unfold Decoder.create at h
      split at h
      · simp only [Prod.mk.injEq, Except.ok.injEq] at h
        rw [← h.1]
      · simp at h
    · rw [Option.isNone_iff_eq_none, ← ne_eq, Option.ne_none_iff_exists'] at hfolder
      rcases hfolder with ⟨folder, hfolder⟩
      exact ⟨folder, Text.ofBytes?_eq_some_iff.1 hfolder⟩

/-- The program that has settled on the path that was prepared for a request, in the files in which
the folder of windows is there. -/
def settled (r : CollectorRequest) (requested : String) (files : FileTree) (p : Program) :
    Program :=
  settle r.settings.variableName r.images (ProfilePath.prepare requested.toList)
    { p with files := files }

/-- A collector that was made, from the parts that it was made of. -/
theorem create_ok_cases {b : Backend σ} {r : CollectorRequest} {p p' : Program} {s s' : σ}
    {c : Collector σ} (h : create b r p s = (.ok c, p', s')) :
    ∃ requested d t files baseline, requestedPath r p = .ok requested ∧
      bind b r p s = (.ok d, t) ∧
      p.files.makeFolders r.settings.windowFolder = (.ok (), files) ∧
      requestedBaseline r d (settled r requested files p).files
        (String.ofList (ProfilePath.prepare requested.toList).path) t = (.ok baseline, s') ∧
      p' = settled r requested files p ∧
      c = ⟨r.settings, String.ofList (ProfilePath.prepare requested.toList).path, r.images, d, s',
        baseline, 0, r.processId⟩ := by
  unfold create at h
  split at h
  · simp at h
  · rename_i requested hrequested
    split at h
    · simp at h
    · rename_i d t hbind
      split at h
      · simp at h
      · rename_i files hfolders
        dsimp only at h
        split at h
        · rename_i baseline y hbaseline
          cases h
          exact ⟨requested, d, t, files, baseline, hrequested, hbind, hfolders, hbaseline, rfl, rfl⟩
        · simp at h

/-- A collector that was made has published its baseline path. -/
theorem create_spec {b : Backend σ} {r : CollectorRequest} {p p' : Program} {s s' : σ}
    {c : Collector σ} (h : create b r p s = (.ok c, p', s')) : c.MadeFrom b r p p' := by
  obtain ⟨requested, d, t, files, baseline, -, hbind, -, -, rfl, rfl⟩ := create_ok_cases h
  rcases bind_backend hbind with ⟨hbackend, hfolder⟩
  exact
    { settings := rfl
      images := rfl
      processId := rfl
      backend := hbackend
      nextWindow := rfl
      folder := hfolder
      published := published_settle _ _ _ _
      isOpen := fun hopen => isOpen_settle _ _ _ hopen
      hasMemory := fun a hmem => hasMemory_settle _ _ _ hmem }

/-- A collector is made where the request is in order, the decoder can be bound, the folder can be
made, and the coverage from before is told or missing; its baseline path is the prepared one. -/
theorem exists_create {b : Backend σ} {r : CollectorRequest} {p : Program} {s t t' : σ}
    {requested : String} {d : Decoder σ} {files : FileTree} {baseline : Option Snapshot}
    (hrequested : requestedPath r p = .ok requested) (hbind : bind b r p s = (.ok d, t))
    (hfolders : p.files.makeFolders r.settings.windowFolder = (.ok (), files))
    (hbaseline : requestedBaseline r d (settled r requested files p).files
      (String.ofList (ProfilePath.prepare requested.toList).path) t = (.ok baseline, t')) :
    ∃ c p' s', create b r p s = (.ok c, p', s') ∧
      c.baselinePath = String.ofList (ProfilePath.prepare requested.toList).path := by
  rw [settled] at hbaseline
  simp only [create, hrequested, hbind, hfolders, hbaseline]
  exact ⟨_, _, _, rfl, rfl⟩

/-- A path outside the folder of windows is none of their paths. -/
theorem ne_windowPath_of_outside (c : Collector σ) {path : Bytes}
    (h : Path.startsWith path c.settings.windowFolder = false) (k : UInt64) :
    path ≠ c.windowPath k := by
  intro heq
  rw [heq, startsWith_windowPath] at h
  simp at h

/-! ## Opening windows -/

/-- How an attempt to open a window ends: it is refused by the checks; or a window is begun, and is
given up because the backend refuses to reset, or stays open.  It also stays open when the backend
breaks its contract, since the call then ends before the baseline path could be published again. -/
inductive Beginning where
  | refused
  | givenUp
  | opened
  deriving DecidableEq, Repr

/-- How an attempt to open a window ends, told by its answer. -/
def Beginning.of : Except Failure Unit → Beginning
  | .ok _ => .opened
  | .error .backendBroken => .opened
  | .error (.resetFailed _ _) => .givenUp
  | .error _ => .refused

/-- The paths that an attempt to open the window of an index publishes. -/
def publishes (c : Collector σ) (index : UInt64) : Beginning → List Bytes
  | .refused => []
  | .givenUp => [c.windowPath index, Text.toBytes c.baselinePath]
  | .opened => [c.windowPath index]

/-- The program in which the next window is published, the counters flushed before. -/
def begun (c : Collector σ) (p : Program) : Program :=
  c.activate (p.writeAll c.images).2 (c.windowPath c.nextWindow)

/-- The outcome of the resets for the next window. -/
def resets (c : Collector σ) (p : Program) : Except Failure Unit × Program × σ :=
  (c.begun p).resetAll c.decoder.backend c.settings.abi c.backendState c.images

/-- Opening the next window: its path is published, and given up where the resets do not leave it
open. -/
theorem openNext_eq (c : Collector σ) (p : Program) :
    c.openNext p =
      ((c.resets p).1,
        { c with nextWindow := c.nextWindow + 1, backendState := (c.resets p).2.2 },
        if Beginning.of (c.resets p).1 = .opened then (c.resets p).2.1
        else c.activate (c.resets p).2.1 (Text.toBytes c.baselinePath)) := by
  rcases hresets : c.resets p with ⟨result, q, x⟩
  rw [resets, begun, activate] at hresets
  simp only [openNext, activate, hresets]
  cases result with
  | ok u => rfl
  | error f => cases f <;> rfl

/-- Beginning a window changes the images by their numbers of writes and by what they have open. -/
theorem getElem?_begun (c : Collector σ) (p : Program) (n : Nat) :
    (c.begun p).images[n]? = p.images[n]?.map fun i =>
      if n ∈ c.images then
        { i with writes := i.writes + c.images.count n }.opening n
          (some (c.windowPath c.nextWindow))
      else { i with writes := i.writes + c.images.count n } := by
  rw [begun, activate, Program.getElem?_activate, Program.getElem?_writeAll, Option.map_map]
  rfl

/-- Beginning a window leaves the images their memory. -/
theorem hasMemory_begun (c : Collector σ) {p : Program} {a : Abi} (h : p.HasMemory a c.images) :
    (c.begun p).HasMemory a c.images :=
  h.writeAll.activate _

/-- An attempt for which the memory is there is not refused. -/
theorem beginning_resets (c : Collector σ) {p : Program}
    (h : p.HasMemory c.settings.abi c.images) : Beginning.of (c.resets p).1 ≠ .refused := by
  cases hresult : (c.resets p).1 with
  | ok u => simp [Beginning.of]
  | error f =>
      rcases Program.resetAll_result _ _ (c.hasMemory_begun h) _ hresult with
        rfl | ⟨name, why, rfl⟩ <;> simp [Beginning.of]

/-- A window that is begun is published, and the baseline path once more if the backend refuses to
reset.  The images have opened what is published then. -/
theorem openNext_spec (c : Collector σ) {p : Program} (h : p.HasMemory c.settings.abi c.images) :
    (c.openNext p).2.2.published =
        (c.publishes c.nextWindow (Beginning.of (c.resets p).1)).getLast? ∧
      (c.openNext p).2.2.publications =
        p.publications ++ c.publishes c.nextWindow (Beginning.of (c.resets p).1) ∧
      (c.openNext p).2.2.IsOpen c.images := by
  have hpublished : (c.resets p).2.1.published = some (c.windowPath c.nextWindow) := by
    simp [resets, begun, activate]
  have hpublications :
      (c.resets p).2.1.publications = p.publications ++ [c.windowPath c.nextWindow] := by
    simp [resets, begun, activate]
  have hopen : (c.resets p).2.1.IsOpen c.images :=
    (Program.isOpen_activate _ c.images _).of_outputs (Program.published_resetAll _ _ _ _ _)
      (Program.outputs_resetAll _ _ _ _ _)
  rw [openNext_eq]
  cases hbeginning : Beginning.of (c.resets p).1 with
  | refused => exact absurd hbeginning (c.beginning_resets h)
  | opened => exact ⟨hpublished, hpublications, hopen⟩
  | givenUp =>
      refine ⟨Program.published_activate _ c.images _, ?_, Program.isOpen_activate _ c.images _⟩
      rw [if_neg (by decide), activate, Program.publications_activate, hpublications,
        List.append_assoc]
      rfl

/-- A window that is begun with a backend that resets memory itself is open: its path is published,
and each image has it open and its counters at the start. -/
theorem openNext_inPlace (c : Collector σ) (hb : c.decoder.backend.ResetsInPlace)
    (hnodup : c.images.Nodup) {p : Program} (hmem : p.HasMemory c.settings.abi c.images) :
    (c.openNext p).1 = .ok () ∧
      (c.openNext p).2.2.published = some (c.windowPath c.nextWindow) ∧
      ∀ n ∈ c.images, (c.openNext p).2.2.images[n]?.map (fun j => (j.output, j.counters)) =
        p.images[n]?.map fun i =>
          (Image.outputFor n (some (c.windowPath c.nextWindow)), i.pristine.counters) := by
  have hbegun := c.hasMemory_begun hmem
  obtain ⟨q, x, hresets, himages⟩ := Program.resetAll_inPlace c.decoder.backend c.settings.abi hb
    hnodup hbegun c.backendState
  change c.resets p = (.ok (), q, x) at hresets
  have hpublished : q.published = some (c.windowPath c.nextWindow) := by
    have hkept : (c.resets p).2.1.published = some (c.windowPath c.nextWindow) := by
      simp [resets, begun, activate]
    rw [hresets] at hkept
    exact hkept
  rw [openNext_eq, hresets]
  refine ⟨rfl, hpublished, ?_⟩
  intro n hn
  change q.images[n]?.map _ = _
  rw [himages n]
  cases hi : p.images[n]? with
  | none =>
      rw [getElem?_begun, hi]
      rfl
  | some i =>
      have hsome : (c.begun p).images[n]? = some
          ({ i with writes := i.writes + c.images.count n }.opening n
            (some (c.windowPath c.nextWindow))) := by
        rw [getElem?_begun, hi, Option.map_some, if_pos hn]
      have hcounters := Image.counters_cleared (hbegun n hn _ hsome)
      rw [hsome]
      simp only [Option.map_some, if_pos hn, Image.output_cleared, Image.output_opening, hcounters]
      rfl

/-- A window is refused where another path than the baseline path is published or memory is missing,
which changes nothing; else it is begun. -/
theorem start_cases (c : Collector σ) (p : Program) {path : String}
    (hpublished : p.published = some (Text.toBytes path)) :
    (path ≠ c.baselinePath ∧ c.start p = (.error .windowOpen, c, p)) ∨
      (path = c.baselinePath ∧ ¬p.HasMemory c.settings.abi c.images ∧
        ∃ name, c.start p = (.error (.noBitmap name), c, p)) ∨
      (path = c.baselinePath ∧ p.HasMemory c.settings.abi c.images ∧
        c.start p = c.openNext p) := by
  have hcurrent : c.current p = .ok path := (Program.current_eq_ok_iff p _ path).2 hpublished
  by_cases hpath : path = c.baselinePath
  · cases hmissing : p.firstMissing? c.settings.abi c.images with
    | none =>
        refine .inr (.inr ⟨hpath, (Program.firstMissing?_eq_none_iff p _ _).1 hmissing, ?_⟩)
        simp [start, hcurrent, hpath, hmissing]
    | some f =>
        rcases Program.firstMissing?_eq_some hmissing with ⟨name, rfl⟩
        refine .inr (.inl ⟨hpath, ?_, name, ?_⟩)
        · rw [← Program.firstMissing?_eq_none_iff, hmissing]
          exact Option.some_ne_none _
        · simp [start, hcurrent, hpath, hmissing]
  · exact .inl ⟨hpath, start_of_other_path c p hcurrent hpath⟩

/-- An attempt to open a window fails and changes nothing, or gets past the checks. -/
theorem start_or_same (c : Collector σ) (p : Program) :
    (∃ f, c.start p = (.error f, c, p)) ∨
      (p.HasMemory c.settings.abi c.images ∧ c.start p = c.openNext p) := by
  cases hcurrent : c.current p with
  | error f => exact .inl ⟨f, by simp [start, hcurrent]⟩
  | ok path =>
      have hpublished := (Program.current_eq_ok_iff p _ path).1 hcurrent
      rcases c.start_cases p hpublished with ⟨-, h⟩ | ⟨-, -, name, h⟩ | ⟨-, hmem, h⟩
      · exact .inl ⟨_, h⟩
      · exact .inl ⟨_, h⟩
      · exact .inr ⟨hmem, h⟩

/-- A collector goes on as another one: it differs in the next index and in the state of the backend
alone. -/
def Continues (c' c : Collector σ) : Prop :=
  ∃ k x, c' = { c with nextWindow := k, backendState := x }

/-- A collector goes on as itself. -/
theorem continues_self (c : Collector σ) : c.Continues c := ⟨c.nextWindow, c.backendState, rfl⟩

namespace Continues

variable {c' c₁ c : Collector σ}

/-- What goes on as a collector that goes on as another one goes on as that. -/
theorem trans (h' : c'.Continues c₁) (h : c₁.Continues c) : c'.Continues c := by
  rcases h with ⟨k, x, rfl⟩
  rcases h' with ⟨k', x', rfl⟩
  exact ⟨k', x', rfl⟩

theorem settings (h : c'.Continues c) : c'.settings = c.settings := by
  rcases h with ⟨k, x, rfl⟩
  rfl

theorem baselinePath (h : c'.Continues c) : c'.baselinePath = c.baselinePath := by
  rcases h with ⟨k, x, rfl⟩
  rfl

theorem images (h : c'.Continues c) : c'.images = c.images := by
  rcases h with ⟨k, x, rfl⟩
  rfl

theorem decoder (h : c'.Continues c) : c'.decoder = c.decoder := by
  rcases h with ⟨k, x, rfl⟩
  rfl

theorem windowPath (h : c'.Continues c) (k : UInt64) : c'.windowPath k = c.windowPath k := by
  rcases h with ⟨k', x, rfl⟩
  rfl

theorem publishes (h : c'.Continues c) (k : UInt64) (beginning : Beginning) :
    c'.publishes k beginning = c.publishes k beginning := by
  cases beginning <;> simp [Collector.publishes, h.windowPath, h.baselinePath]

end Continues

/-- After an attempt to open a window the collector goes on as before. -/
theorem continues_start (c : Collector σ) (p : Program) : (c.start p).2.1.Continues c := by
  have hnext : (c.openNext p).2.1.Continues c := by
    rw [openNext_eq]
    exact ⟨_, _, rfl⟩
  unfold start
  split
  · exact c.continues_self
  · split
    · exact c.continues_self
    · split
      · exact c.continues_self
      · exact hnext

/-! ## Closing windows -/

/-- The path of a window is taken for one, unless it is the baseline path. -/
theorem isWindow_of_windowPath (c : Collector σ) {path : String} {k : UInt64}
    (hbase : Text.toBytes c.baselinePath ≠ c.windowPath k)
    (hpath : Text.toBytes path = c.windowPath k) : c.isWindow path = true := by
  have hne : path ≠ c.baselinePath := by
    rintro rfl
    exact hbase hpath
  rw [isWindow, hpath, startsWith_windowPath, Bool.and_true, bne_iff_ne]
  exact hne

/-- A window that is published is closed: the answer is its path, and the baseline path is published
and opened. -/
theorem stop_of_window (c : Collector σ) (p : Program) {path : String} {k : UInt64}
    (hbase : Text.toBytes c.baselinePath ≠ c.windowPath k)
    (hpublished : p.published = some (Text.toBytes path))
    (hpath : Text.toBytes path = c.windowPath k) :
    c.stop p =
      (.ok path, c.activate (p.writeAll c.images).2 (Text.toBytes c.baselinePath)) := by
  have hcurrent : c.current p = .ok path := (Program.current_eq_ok_iff p _ path).2 hpublished
  simp [stop, hcurrent, isWindow_of_windowPath c hbase hpath]

/-- An attempt to close a window fails and changes nothing, or the path of the window is published,
which is not the baseline path. -/
theorem stop_or_same (c : Collector σ) (p : Program) :
    (∃ f, c.stop p = (.error f, p)) ∨
      ∃ path, p.published = some (Text.toBytes path) ∧ path ≠ c.baselinePath ∧
        c.stop p =
          (.ok path, c.activate (p.writeAll c.images).2 (Text.toBytes c.baselinePath)) := by
  cases hcurrent : c.current p with
  | error f => exact .inl ⟨f, by simp [stop, hcurrent]⟩
  | ok path =>
      have hpublished := (Program.current_eq_ok_iff p _ path).1 hcurrent
      by_cases hwindow : c.isWindow path = true
      · have hne : path ≠ c.baselinePath := by
          rw [isWindow, Bool.and_eq_true, bne_iff_ne] at hwindow
          exact hwindow.1
        exact .inr ⟨path, hpublished, hne, by simp [stop, hcurrent, hwindow]⟩
      · exact .inl ⟨.windowNotOpen, by simp [stop, hcurrent, hwindow]⟩

end Collector
end CoverageWindows
