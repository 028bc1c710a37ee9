import CoverageWindows.Proofs.Collector.Calls

/-!
# Sessions

A session is a collector with the program that it measures.  It goes from call to call: windows are
opened and closed, and the counters of images are hit while the program runs on.  A ledger that is
kept from the answers alone knows how many windows were begun and which one is open; what is
published, what the next call answers and which path it publishes can all be read from the ledger.

Main results:

- Theorem `Agrees.call`: an entry for each call keeps the ledger in agreement with the session.
- Theorem `Agrees.run`: the ledger of a run of calls agrees with the session after the run.
- Theorem `windows_of_run`: after every run of calls of a collector that was made, the ledger tells
  the published path, the answers of the next call, and the path of the next window.
-/

namespace CoverageWindows

/-! ## Calls and answers -/

/-- A collector and the program that it measures. -/
structure Session (σ : Type) where
  collector : Collector σ
  program : Program

/-- What happens next in a session: a window is to be opened or to be closed, or code of an image
runs and updates the bytes of its counters, in whatever way it counts. -/
inductive Call where
  | start
  | stop
  | hit (image : Nat) (update : Bytes → Bytes)

/-- What a call answers; a hit answers nothing. -/
inductive Answer where
  | started (result : Except Failure Unit)
  | stopped (result : Except Failure String)
  | ran

namespace Session

variable {σ : Type}

/-- The session after an attempt to open a window. -/
def start (s : Session σ) : Except Failure Unit × Session σ :=
  let (result, c, p) := s.collector.start s.program
  (result, ⟨c, p⟩)

/-- The session after an attempt to close a window. -/
def stop (s : Session σ) : Except Failure String × Session σ :=
  let (result, p) := s.collector.stop s.program
  (result, { s with program := p })

/-- The session after the counters of an image were hit. -/
def hit (s : Session σ) (image : Nat) (update : Bytes → Bytes) : Session σ :=
  { s with program := s.program.change image fun i => i.hit update }

/-- The answer of a call and the session after it. -/
def call (s : Session σ) : Call → Answer × Session σ
  | .start => (.started s.start.1, s.start.2)
  | .stop => (.stopped s.stop.1, s.stop.2)
  | .hit image update => (.ran, s.hit image update)

/-- The answers of calls one after another, and the session after the last one. -/
def run (s : Session σ) : List Call → List Answer × Session σ
  | [] => ([], s)
  | c :: rest =>
      let (answer, s) := s.call c
      let (answers, s) := s.run rest
      (answer :: answers, s)

theorem run_cons (s : Session σ) (k : Call) (rest : List Call) :
    s.run (k :: rest) = ((s.call k).1 :: ((s.call k).2.run rest).1, ((s.call k).2.run rest).2) :=
  rfl

/-- Calls may be run in two parts. -/
theorem run_append (s : Session σ) (first second : List Call) :
    s.run (first ++ second) =
      ((s.run first).1 ++ ((s.run first).2.run second).1, ((s.run first).2.run second).2) := by
  induction first generalizing s with
  | nil => rfl
  | cons k rest ih =>
      rw [List.cons_append, run_cons, run_cons, ih]
      rfl

theorem run_concat (s : Session σ) (calls : List Call) (k : Call) :
    s.run (calls ++ [k]) =
      ((s.run calls).1 ++ [((s.run calls).2.call k).1], ((s.run calls).2.call k).2) := by
  rw [run_append]
  rfl

/-- After a call the collector of a session goes on as before. -/
theorem continues_call (s : Session σ) (k : Call) :
    (s.call k).2.collector.Continues s.collector := by
  cases k with
  | start => exact s.collector.continues_start s.program
  | stop => exact s.collector.continues_self
  | hit image update => exact s.collector.continues_self

/-- The collector of a session goes on as before from call to call. -/
theorem continues_run (s : Session σ) (calls : List Call) :
    (s.run calls).2.collector.Continues s.collector := by
  induction calls generalizing s with
  | nil => exact s.collector.continues_self
  | cons k rest ih => exact (ih (s.call k).2).trans (s.continues_call k)

end Session

/-! ## The ledger -/

/-- The number of windows that were begun, and the number of earlier ones when the open window was
begun, if one is open. -/
structure Ledger where
  begun : Nat
  opened : Option Nat
  deriving DecidableEq, Repr

namespace Ledger

/-- The ledger before the first call. -/
def empty : Ledger := ⟨0, none⟩

/-- The ledger after one more answer. -/
def enter (l : Ledger) : Answer → Ledger
  | .started result =>
      match Collector.Beginning.of result with
      | .refused => l
      | .givenUp => ⟨l.begun + 1, none⟩
      | .opened => ⟨l.begun + 1, some l.begun⟩
  | .stopped (.ok _) => { l with opened := none }
  | .stopped (.error _) => l
  | .ran => l

/-- The ledger of answers. -/
def of (answers : List Answer) : Ledger := answers.foldl enter empty

/-- The path that is published: that of the open window, or the baseline path. -/
def path {σ : Type} (l : Ledger) (c : Collector σ) : Bytes :=
  match l.opened with
  | none => Text.toBytes c.baselinePath
  | some k => c.windowPath (UInt64.ofNat k)

end Ledger

/-! ## Agreement of sessions and ledgers -/

/-- A session agrees with a ledger: it goes on with the collector `c` as it was made, the path that
the ledger tells is published, and the number of windows that were begun gives the next index. -/
structure Session.Agrees {σ : Type} (c : Collector σ) (l : Ledger) (s : Session σ) : Prop where
  continues : s.collector.Continues c
  published : s.program.published = some (l.path c)
  nextWindow : s.collector.nextWindow = UInt64.ofNat l.begun

namespace Session

variable {σ : Type} {c : Collector σ} {l : Ledger} {s : Session σ}

namespace Agrees

/-! ## Opening windows -/

/-- While a window is open no other one can be opened. -/
theorem start_of_open (h : s.Agrees c l) (hfolder : ∃ f, Text.toBytes f = c.settings.windowFolder)
    (hbase : ∀ k, Text.toBytes c.baselinePath ≠ c.windowPath k) {k : Nat}
    (hopened : l.opened = some k) : s.start = (.error .windowOpen, s) := by
  rcases c.exists_toBytes_windowPath hfolder (UInt64.ofNat k) with ⟨path, hpath⟩
  have hpublished : s.program.published = some (Text.toBytes path) := by
    rw [h.published, Ledger.path, hopened, hpath]
  have hne : path ≠ s.collector.baselinePath := by
    intro heq
    apply hbase (UInt64.ofNat k)
    rw [← hpath, heq, h.continues.baselinePath]
  rcases s.collector.start_cases s.program hpublished with ⟨-, hstart⟩ | ⟨heq, -⟩ | ⟨heq, -⟩
  · rw [start, hstart]
  · exact absurd heq hne
  · exact absurd heq hne

/-- While no window is open, memory that is missing refuses one. -/
theorem start_of_missing (h : s.Agrees c l) (hopened : l.opened = none)
    (hmem : ¬s.program.HasMemory c.settings.abi c.images) :
    ∃ name, s.start = (.error (.noBitmap name), s) := by
  have hpublished : s.program.published = some (Text.toBytes s.collector.baselinePath) := by
    rw [h.published, Ledger.path, hopened, h.continues.baselinePath]
  rw [← h.continues.settings, ← h.continues.images] at hmem
  rcases s.collector.start_cases s.program hpublished with
    ⟨hne, -⟩ | ⟨-, -, name, hstart⟩ | ⟨-, hmem', -⟩
  · exact absurd rfl hne
  · exact ⟨name, by rw [start, hstart]⟩
  · exact absurd hmem' hmem

/-- While no window is open, one is begun if the memory is there. -/
theorem start_of_idle (h : s.Agrees c l) (hopened : l.opened = none)
    (hmem : s.program.HasMemory c.settings.abi c.images) :
    s.start = ((s.collector.openNext s.program).1,
      ⟨(s.collector.openNext s.program).2.1, (s.collector.openNext s.program).2.2⟩) := by
  have hpublished : s.program.published = some (Text.toBytes s.collector.baselinePath) := by
    rw [h.published, Ledger.path, hopened, h.continues.baselinePath]
  rw [← h.continues.settings, ← h.continues.images] at hmem
  rcases s.collector.start_cases s.program hpublished with
    ⟨hne, -⟩ | ⟨-, hmem', -⟩ | ⟨-, -, hstart⟩
  · exact absurd rfl hne
  · exact absurd hmem hmem'
  · unfold Session.start
    rw [hstart]

/-- Where the next window was begun, the session agrees with a ledger that counts it and tells the
path that is published then. -/
theorem openNext (h : s.Agrees c l) {l' : Ledger} (hbegun : l'.begun = l.begun + 1)
    (hpath : (s.collector.openNext s.program).2.2.published = some (l'.path c)) :
    Session.Agrees c l'
      ⟨(s.collector.openNext s.program).2.1, (s.collector.openNext s.program).2.2⟩ := by
  rw [s.collector.openNext_eq] at hpath ⊢
  constructor
  · exact Collector.Continues.trans ⟨_, _, rfl⟩ h.continues
  · exact hpath
  · have hindex : s.collector.nextWindow + 1 = UInt64.ofNat (l.begun + 1) := by
      rw [h.nextWindow]
      simp
    rw [hbegun]
    exact hindex

/-- A window that is begun has the number of earlier ones for its index; the session agrees with the
ledger in which it is entered. -/
theorem start_begun (h : s.Agrees c l) (hopened : l.opened = none)
    (hmem : s.program.HasMemory c.settings.abi c.images) :
    Collector.Beginning.of s.start.1 ≠ .refused ∧
      s.start.2.Agrees c (l.enter (.started s.start.1)) ∧
      s.start.2.program.publications = s.program.publications ++
        c.publishes (UInt64.ofNat l.begun) (Collector.Beginning.of s.start.1) ∧
      s.start.2.program.IsOpen c.images := by
  rw [h.start_of_idle hopened hmem]
  rw [← h.continues.settings, ← h.continues.images] at hmem
  have hresult : (s.collector.openNext s.program).1 = (s.collector.resets s.program).1 := by
    rw [Collector.openNext_eq]
  have hrefused := s.collector.beginning_resets hmem
  rcases s.collector.openNext_spec hmem with ⟨hpublished, hpublications, hopen⟩
  rw [← hresult] at hrefused hpublished hpublications
  rw [h.nextWindow, h.continues.publishes] at hpublished hpublications
  rw [h.continues.images] at hopen
  refine ⟨hrefused, ?_, hpublications, hopen⟩
  cases hbeginning : Collector.Beginning.of (s.collector.openNext s.program).1 with
  | refused => exact absurd hbeginning hrefused
  | givenUp =>
      have henter : l.enter (.started (s.collector.openNext s.program).1) =
          ⟨l.begun + 1, none⟩ := by
        simp only [Ledger.enter, hbeginning]
      rw [hbeginning] at hpublished
      rw [henter]
      exact h.openNext rfl hpublished
  | opened =>
      have henter : l.enter (.started (s.collector.openNext s.program).1) =
          ⟨l.begun + 1, some l.begun⟩ := by
        simp only [Ledger.enter, hbeginning]
      rw [hbeginning] at hpublished
      rw [henter]
      exact h.openNext rfl hpublished

/-- An attempt to open a window is refused, and changes nothing, exactly where a window is open or
memory is missing; a window that is open is the reason exactly where there is one. -/
theorem start_refused (h : s.Agrees c l) (hfolder : ∃ f, Text.toBytes f = c.settings.windowFolder)
    (hbase : ∀ k, Text.toBytes c.baselinePath ≠ c.windowPath k)
    (hchecks : ¬(l.opened = none ∧ s.program.HasMemory c.settings.abi c.images)) :
    s.start.2 = s ∧ Collector.Beginning.of s.start.1 = .refused ∧
      (s.start.1 = .error .windowOpen ↔ l.opened ≠ none) := by
  cases hopened : l.opened with
  | some k =>
      rw [h.start_of_open hfolder hbase hopened]
      exact ⟨rfl, rfl, by simp⟩
  | none =>
      have hmem : ¬s.program.HasMemory c.settings.abi c.images :=
        fun hmem => hchecks ⟨hopened, hmem⟩
      rcases h.start_of_missing hopened hmem with ⟨name, hstart⟩
      rw [hstart]
      exact ⟨rfl, rfl, by simp⟩

/-- What an attempt to open a window answers and publishes, told by the ledger. -/
theorem start_spec (h : s.Agrees c l) (hfolder : ∃ f, Text.toBytes f = c.settings.windowFolder)
    (hbase : ∀ k, Text.toBytes c.baselinePath ≠ c.windowPath k) :
    (s.start.1 = .error .windowOpen ↔ l.opened ≠ none) ∧
      (Collector.Beginning.of s.start.1 ≠ .refused ↔
        l.opened = none ∧ s.program.HasMemory c.settings.abi c.images) ∧
      s.start.2.program.publications = s.program.publications ++
        c.publishes (UInt64.ofNat l.begun) (Collector.Beginning.of s.start.1) := by
  by_cases hchecks : l.opened = none ∧ s.program.HasMemory c.settings.abi c.images
  · rcases hchecks with ⟨hopened, hmem⟩
    rcases h.start_begun hopened hmem with ⟨hbegun, -, hpublications, -⟩
    have hanswer : s.start.1 ≠ .error .windowOpen := by
      intro heq
      rw [heq] at hbegun
      exact hbegun rfl
    exact ⟨by simp [hanswer, hopened], by simp [hbegun, hopened, hmem], hpublications⟩
  · rcases h.start_refused hfolder hbase hchecks with ⟨hsame, hrefused, hanswer⟩
    refine ⟨hanswer, by simp [hrefused, hchecks], ?_⟩
    rw [hsame, hrefused, Collector.publishes, List.append_nil]

/-! ## Closing windows -/

/-- While no window is open, there is none to close. -/
theorem stop_of_idle (h : s.Agrees c l) (hopened : l.opened = none) :
    s.stop = (.error .windowNotOpen, s) := by
  have hcurrent : s.collector.current s.program = .ok s.collector.baselinePath := by
    apply (Program.current_eq_ok_iff s.program _ _).2
    rw [h.published, Ledger.path, hopened, h.continues.baselinePath]
  rw [stop, Collector.stop_of_baseline s.collector s.program hcurrent]

/-- An open window is closed: the answer is its path, and the baseline path is published. -/
theorem stop_of_open (h : s.Agrees c l) (hfolder : ∃ f, Text.toBytes f = c.settings.windowFolder)
    (hbase : ∀ k, Text.toBytes c.baselinePath ≠ c.windowPath k) {k : Nat}
    (hopened : l.opened = some k) :
    ∃ path, Text.toBytes path = c.windowPath (UInt64.ofNat k) ∧
      s.stop = (.ok path,
        { s with
          program := (s.program.writeAll c.images).2.activate c.images
            (Text.toBytes c.baselinePath) }) := by
  rcases c.exists_toBytes_windowPath hfolder (UInt64.ofNat k) with ⟨path, hpath⟩
  have hpublished : s.program.published = some (Text.toBytes path) := by
    rw [h.published, Ledger.path, hopened, hpath]
  refine ⟨path, hpath, ?_⟩
  rw [stop, s.collector.stop_of_window s.program (k := UInt64.ofNat k) ?_ hpublished ?_,
    Collector.activate, h.continues.images, h.continues.baselinePath]
  · rw [h.continues.windowPath, h.continues.baselinePath]
    exact hbase _
  · rw [h.continues.windowPath, hpath]

/-- The session after a window was closed agrees with the ledger in which this is entered. -/
theorem stop (h : s.Agrees c l) (hfolder : ∃ f, Text.toBytes f = c.settings.windowFolder)
    (hbase : ∀ k, Text.toBytes c.baselinePath ≠ c.windowPath k) :
    s.stop.2.Agrees c (l.enter (.stopped s.stop.1)) ∧
      (s.program.IsOpen c.images → s.stop.2.program.IsOpen c.images) := by
  cases hopened : l.opened with
  | none =>
      rw [h.stop_of_idle hopened]
      exact ⟨h, fun hopen => hopen⟩
  | some k =>
      rcases h.stop_of_open hfolder hbase hopened with ⟨path, -, hstop⟩
      rw [hstop]
      constructor
      · exact { h with published := Program.published_activate _ c.images _ }
      · intro _
        exact Program.isOpen_activate _ c.images _

/-- There is no window to close exactly while none is open. -/
theorem stop_windowNotOpen_iff (h : s.Agrees c l)
    (hfolder : ∃ f, Text.toBytes f = c.settings.windowFolder)
    (hbase : ∀ k, Text.toBytes c.baselinePath ≠ c.windowPath k) :
    s.stop.1 = .error .windowNotOpen ↔ l.opened = none := by
  cases hopened : l.opened with
  | none => simp [h.stop_of_idle hopened]
  | some k =>
      rcases h.stop_of_open hfolder hbase hopened with ⟨path, -, hstop⟩
      simp [hstop]

/-! ## Runs of calls -/

/-- The session after an attempt to open a window agrees with the ledger in which its answer is
entered. -/
theorem start (h : s.Agrees c l) (hfolder : ∃ f, Text.toBytes f = c.settings.windowFolder)
    (hbase : ∀ k, Text.toBytes c.baselinePath ≠ c.windowPath k) :
    s.start.2.Agrees c (l.enter (.started s.start.1)) ∧
      (s.program.IsOpen c.images → s.start.2.program.IsOpen c.images) := by
  by_cases hchecks : l.opened = none ∧ s.program.HasMemory c.settings.abi c.images
  · rcases h.start_begun hchecks.1 hchecks.2 with ⟨-, hagrees, -, hopen⟩
    exact ⟨hagrees, fun _ => hopen⟩
  · rcases h.start_refused hfolder hbase hchecks with ⟨hsame, hrefused, -⟩
    rw [Ledger.enter, hrefused, hsame]
    exact ⟨h, fun hopen => hopen⟩

/-- A hit changes neither what is published nor what the images have open. -/
theorem hit (h : s.Agrees c l) (image : Nat) (update : Bytes → Bytes) :
    (s.hit image update).Agrees c l ∧
      (s.program.IsOpen c.images → (s.hit image update).program.IsOpen c.images) := by
  constructor
  · exact { h with published := h.published }
  · intro hopen
    exact hopen.of_outputs rfl (Program.outputs_change _ image fun i => i.output_hit update)

/-- An entry of the ledger for each call keeps it in agreement with the session, and the images keep
the published path open. -/
theorem call (h : s.Agrees c l) (hfolder : ∃ f, Text.toBytes f = c.settings.windowFolder)
    (hbase : ∀ k, Text.toBytes c.baselinePath ≠ c.windowPath k) (k : Call) :
    (s.call k).2.Agrees c (l.enter (s.call k).1) ∧
      (s.program.IsOpen c.images → (s.call k).2.program.IsOpen c.images) := by
  cases k with
  | start => exact h.start hfolder hbase
  | stop => exact h.stop hfolder hbase
  | hit image update => exact h.hit image update

/-- The ledger of a run of calls agrees with the session after the run. -/
theorem run (h : s.Agrees c l) (hfolder : ∃ f, Text.toBytes f = c.settings.windowFolder)
    (hbase : ∀ k, Text.toBytes c.baselinePath ≠ c.windowPath k) (calls : List Call) :
    (s.run calls).2.Agrees c ((s.run calls).1.foldl Ledger.enter l) ∧
      (s.program.IsOpen c.images → (s.run calls).2.program.IsOpen c.images) := by
  induction calls generalizing s l with
  | nil => exact ⟨h, fun hopen => hopen⟩
  | cons k rest ih =>
      rcases h.call hfolder hbase k with ⟨hcall, hopenCall⟩
      rcases ih hcall with ⟨hrest, hopenRest⟩
      exact ⟨hrest, fun hopen => hopenRest (hopenCall hopen)⟩

end Agrees

/-- A collector that was made agrees with the empty ledger. -/
theorem agrees_create {b : Backend σ} {r : CollectorRequest} {p p' : Program}
    (h : c.MadeFrom b r p p') : (Session.mk c p').Agrees c Ledger.empty where
  continues := c.continues_self
  published := h.published
  nextWindow := h.nextWindow

end Session

/-! ## A small session -/

namespace Sample

/-- An image with one counter that has run three times. -/
def image : Image where
  path := Text.toBytes "/bin/sample"
  source := "sample.c"
  version := some 9
  counters := .whole (Bytes.ofWords [3])
  data := .whole []
  bitmap := some (.whole [])
  heap := .empty
  pageSize := Image.defaultPageSize
  output := some "base-0.profraw"
  writeStatus := 0
  writes := 0

/-- A program of one image, with an empty working folder. -/
def program : Program where
  published := some (Text.toBytes "base-%m.profraw")
  files := ⟨[], []⟩
  images := [image]
  events := []

/-- A request for windows in a folder that is named from the working folder. -/
def request : CollectorRequest where
  settings := ⟨Text.toBytes "w/", .llvm19, Settings.profileVariable, false⟩
  requested := none
  images := [0]
  processId := 7

/-- A backend that resets memory itself; with a refusal it does so once. -/
def backend (refusal : Option String) : Backend Nat :=
  LineProfile.backend ⟨.llvm19, "19", none, refusal, 1⟩

theorem exists_makeFolders :
    ∃ files, program.files.makeFolders request.settings.windowFolder = (.ok (), files) := by
  have hfolder : request.settings.windowFolder = [119, 47] := by decide
  have hplace : program.files.locate .make [119, 47] = .ok (.vacant [[119]]) := by
    simp [FileTree.locate, FileTree.follow, FileTree.pieces, FileTree.node?, Path.split,
      Path.slash, Path.dot, Path.isAbsolute, program]
  have hmade : program.files.makeFolder request.settings.windowFolder =
      .ok (program.files.put [[119]] .folder) := by
    rw [hfolder, FileTree.makeFolder, hplace]
    rfl
  exact ⟨_, FileTree.makeFolders_of_makeFolder (by decide) hmade⟩

theorem exists_bind (refusal requested : Option String) (p : Program) :
    ∃ d, Collector.bind (backend refusal) { request with requested := requested } p 0 =
      (.ok d, 0) := by
  simp [Collector.bind, request, Decoder.create, backend, LineProfile.backend]

/-- The collector is made for the path that is asked for; its baseline path is the prepared one. -/
theorem exists_create_of_requested (refusal requested : Option String) {path : String}
    (hpath : Collector.requestedPath { request with requested := requested } program = .ok path) :
    ∃ c p' x', Collector.create (backend refusal) { request with requested := requested } program
        0 = (.ok c, p', x') ∧
      c.baselinePath = String.ofList (ProfilePath.prepare path.toList).path := by
  rcases exists_bind refusal requested program with ⟨d, hbind⟩
  rcases exists_makeFolders with ⟨files, hfolders⟩
  exact Collector.exists_create hpath hbind hfolders rfl

/-- The collector is made, and keeps the path that was published before as its baseline path. -/
theorem exists_create_base (refusal : Option String) :
    ∃ c p' x', Collector.create (backend refusal) request program 0 = (.ok c, p', x') ∧
      c.baselinePath = "base-%m.profraw" := by
  have hpath : Collector.requestedPath request program = .ok "base-%m.profraw" := by
    simp [Collector.requestedPath, request, Program.current, program]
  rcases exists_create_of_requested refusal none hpath with ⟨c, p', x', hcreate, hbaseline⟩
  exact ⟨c, p', x', hcreate, hbaseline.trans (by decide +kernel)⟩

/-- The baseline path of the collector is none of its windows. -/
theorem exists_create (refusal : Option String) :
    ∃ c p' x', Collector.create (backend refusal) request program 0 = (.ok c, p', x') ∧
      ∀ k, Text.toBytes c.baselinePath ≠ c.windowPath k := by
  rcases exists_create_base refusal with ⟨c, p', x', hcreate, hbaseline⟩
  refine ⟨c, p', x', hcreate, fun k => c.ne_windowPath_of_outside ?_ k⟩
  rw [hbaseline, (Collector.create_spec hcreate).settings]
  decide

theorem isOpen_program : program.IsOpen request.images := by
  intro n hn i hi
  obtain rfl : n = 0 := by simpa [request] using hn
  obtain rfl : image = i := by simpa [program] using hi
  change some "base-0.profraw" = Image.outputFor 0 (some (Text.toBytes "base-%m.profraw"))
  rw [Image.outputFor_toBytes]
  decide +kernel

end Sample

/-! ## Windows over runs -/

/-- After every run of calls of a collector that was made, with a baseline path that is not one of
its windows, the ledger of the answers tells what is published and what comes next.  A window is
refused as open exactly while one is open; an attempt gets past the checks exactly while none is
open and the memory is there, and publishes the window whose index is the number of earlier ones.
There is no window to close exactly while none is open; else the answer is the path that was
published for it, and the baseline path is published again.  If the images had the published path
open before the collector was made, they have it open after the run. -/
theorem windows_of_run {σ : Type} {b : Backend σ} {r : CollectorRequest} {p p' : Program}
    {x x' : σ} {c : Collector σ} (hcreate : Collector.create b r p x = (.ok c, p', x'))
    (hbase : ∀ k, Text.toBytes c.baselinePath ≠ c.windowPath k) (calls : List Call) :
    let s := ((Session.mk c p').run calls).2
    let l := Ledger.of ((Session.mk c p').run calls).1
    s.program.published = some (l.path c) ∧
      s.collector.nextWindow = UInt64.ofNat l.begun ∧
      (s.start.1 = .error .windowOpen ↔ l.opened ≠ none) ∧
      (Collector.Beginning.of s.start.1 ≠ .refused ↔
        l.opened = none ∧ s.program.HasMemory r.settings.abi r.images) ∧
      s.start.2.program.publications = s.program.publications ++
        c.publishes (UInt64.ofNat l.begun) (Collector.Beginning.of s.start.1) ∧
      (s.stop.1 = .error .windowNotOpen ↔ l.opened = none) ∧
      (∀ k, l.opened = some k → ∃ path, Text.toBytes path = c.windowPath (UInt64.ofNat k) ∧
        s.stop.1 = .ok path ∧
        s.stop.2.program.published = some (Text.toBytes c.baselinePath)) ∧
      (p.IsOpen r.images → s.program.IsOpen r.images) := by
  intro s l
  have hmade := Collector.create_spec hcreate
  rcases (Session.agrees_create hmade).run hmade.folder hbase calls with ⟨hagrees, hopen⟩
  change s.Agrees c l at hagrees
  have hmem : s.program.HasMemory r.settings.abi r.images ↔
      s.program.HasMemory c.settings.abi c.images := by
    rw [hmade.settings, hmade.images]
  rcases hagrees.start_spec hmade.folder hbase with ⟨hwindowOpen, hbegun, hpublications⟩
  refine ⟨hagrees.published, hagrees.nextWindow, hwindowOpen, ?_, hpublications,
    hagrees.stop_windowNotOpen_iff hmade.folder hbase, ?_, ?_⟩
  · rw [hmem]
    exact hbegun
  · intro k hopened
    rcases hagrees.stop_of_open hmade.folder hbase hopened with ⟨path, hpath, hstop⟩
    refine ⟨path, hpath, by rw [hstop], ?_⟩
    rw [hstop]
    exact Program.published_activate _ c.images _
  · intro hbefore
    have hfirst := hmade.isOpen hbefore
    rw [← hmade.images] at hfirst ⊢
    exact hopen hfirst

/-- The windows of a small session: the second attempt finds one open, and the third one is given up
by the backend. -/
theorem windows_of_run_given_up :
    ∃ c p' x', Collector.create (Sample.backend (some "full")) Sample.request Sample.program 0 =
        (.ok c, p', x') ∧
      (∀ k, Text.toBytes c.baselinePath ≠ c.windowPath k) ∧
      let s := ((Session.mk c p').run [.start, .start, .stop, .start]).2
      let l := Ledger.of ((Session.mk c p').run [.start, .start, .stop, .start]).1
      s.program.published = some (l.path c) ∧ s.program.IsOpen Sample.request.images := by
  rcases Sample.exists_create (some "full") with ⟨c, p', x', hcreate, hbase⟩
  rcases windows_of_run hcreate hbase [.start, .start, .stop, .start] with
    ⟨hpublished, -, -, -, -, -, -, hopen⟩
  exact ⟨c, p', x', hcreate, hbase, hpublished, hopen Sample.isOpen_program⟩

end CoverageWindows
