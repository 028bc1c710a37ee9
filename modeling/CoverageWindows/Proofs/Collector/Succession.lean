import CoverageWindows.Proofs.Collector.Isolation
import CoverageWindows.Proofs.Collector.Making
import CoverageWindows.Proofs.Collector.Strangers
import Mathlib.Data.List.Nodup

/-!
# Sessions one after another

A program may have many sessions, one after another.  Each of them numbers its windows from zero on,
and the name of a window is made of the number of the process and of that of the window alone.  So
the windows that one session closes have different paths, but another session that closes a window
of the same number closes it at the same path.

What a session closes is told by its ledger: with every window that is closed, the ledger had it
open.

Main results:

- Theorem `Session.Agrees.play`: where nobody else sets the variable, the ledger of the answers
  tells what is published after any turns.
- Theorem `Session.Agrees.artifacts`: the paths that were handed out are those of the windows that
  the ledger tells to be closed.
- Theorem `Ledger.closed_spec`: the numbers of closed windows increase, and are numbers of begun
  ones.
- Theorem `Session.play_window`: a session that opens and closes a window leaves behind what the
  next one needs.
- Theorem `artifacts_of_sessions`: which paths sessions one after another hand out, and when they
  are all different.
-/

namespace CoverageWindows

/-! ## Windows that are closed -/

/-- The path that an answer hands out. -/
def Answer.artifact? : Answer → Option String
  | .stopped (.ok path) => some path
  | _ => none

/-- The paths that answers hand out. -/
def artifacts (answers : List Answer) : List String := answers.filterMap Answer.artifact?

namespace Ledger

/-- The number of the window that an answer tells to be closed. -/
def closing (l : Ledger) : Answer → Option Nat
  | .stopped (.ok _) => l.opened
  | _ => none

/-- The numbers of the windows that answers tell to be closed. -/
def closed (l : Ledger) : List Answer → List Nat
  | [] => []
  | a :: rest => (l.closing a).toList ++ (l.enter a).closed rest

/-- The window that is open was begun. -/
def Sound (l : Ledger) : Prop := ∀ k, l.opened = some k → k < l.begun

theorem sound_empty : empty.Sound := nofun

/-- What an answer enters in a ledger: nothing, an end of the open window, or one more window, which
may be open. -/
theorem enter_cases (l : Ledger) (a : Answer) :
    (l.closing a = none ∧ l.enter a = l) ∨
      (l.closing a = l.opened ∧ l.enter a = { l with opened := none }) ∨
      (l.closing a = none ∧ (l.enter a).begun = l.begun + 1 ∧
        ∀ k, (l.enter a).opened = some k → k = l.begun) := by
  cases a with
  | started result =>
      cases hbeginning : Collector.Beginning.of result <;>
        simp [enter, closing, hbeginning, eq_comm]
  | stopped result => cases result <;> simp [enter, closing]
  | ran => exact .inl ⟨rfl, rfl⟩

/-- An answer that is entered keeps a ledger sound. -/
theorem Sound.enter {l : Ledger} (h : l.Sound) (a : Answer) : (l.enter a).Sound := by
  rcases l.enter_cases a with ⟨-, henter⟩ | ⟨-, henter⟩ | ⟨-, hbegun, hopened⟩
  · rw [henter]
    exact h
  · rw [henter]
    exact nofun
  · intro k hk
    rw [hopened k hk, hbegun]
    exact Nat.lt_succ_self _

theorem begun_le_enter (l : Ledger) (a : Answer) : l.begun ≤ (l.enter a).begun := by
  rcases l.enter_cases a with ⟨-, henter⟩ | ⟨-, henter⟩ | ⟨-, hbegun, -⟩
  · simp [henter]
  · simp [henter]
  · simp [hbegun]

/-- Windows that were begun stay begun, whatever is entered. -/
theorem begun_le_foldl (l : Ledger) (answers : List Answer) :
    l.begun ≤ (answers.foldl enter l).begun := by
  induction answers generalizing l with
  | nil => exact Nat.le_refl _
  | cons a rest ih => exact Nat.le_trans (l.begun_le_enter a) (ih (l.enter a))

/-- A window that is closed was open before, or begun later; the numbers of closed windows increase,
and are numbers of begun ones. -/
theorem closed_spec {l : Ledger} (h : l.Sound) (answers : List Answer) :
    (l.closed answers).Pairwise (· < ·) ∧
      ∀ k ∈ l.closed answers,
        (l.opened = some k ∨ l.begun ≤ k) ∧ k < (answers.foldl enter l).begun := by
  induction answers generalizing l with
  | nil => simp [closed]
  | cons a rest ih =>
      rcases ih (h.enter a) with ⟨hincreasing, hnumbers⟩
      have hlater := l.begun_le_foldl (a :: rest)
      rw [closed, List.foldl_cons]
      rcases l.enter_cases a with ⟨hclosing, henter⟩ | ⟨hclosing, henter⟩ |
        ⟨hclosing, hbegun, hopened⟩
      · rw [hclosing, Option.toList_none, List.nil_append]
        rw [henter] at hincreasing hnumbers ⊢
        exact ⟨hincreasing, hnumbers⟩
      · rw [hclosing]
        have hafter : ∀ k ∈ (l.enter a).closed rest, l.begun ≤ k := by
          intro k hk
          simpa [henter] using (hnumbers k hk).1
        cases hopen : l.opened with
        | none => exact ⟨hincreasing, fun k hk => ⟨.inr (hafter k hk), (hnumbers k hk).2⟩⟩
        | some k₀ =>
            have hk₀ := h k₀ hopen
            constructor
            · refine List.pairwise_cons.2 ⟨?_, hincreasing⟩
              exact fun k hk => Nat.lt_of_lt_of_le hk₀ (hafter k hk)
            · intro k hk
              rcases List.mem_cons.1 hk with rfl | hk
              · exact ⟨.inl rfl, Nat.lt_of_lt_of_le hk₀ hlater⟩
              · exact ⟨.inr (hafter k hk), (hnumbers k hk).2⟩
      · rw [hclosing, Option.toList_none, List.nil_append]
        refine ⟨hincreasing, fun k hk => ⟨.inr ?_, (hnumbers k hk).2⟩⟩
        rcases (hnumbers k hk).1 with hopen | hle
        · exact Nat.le_of_eq (hopened k hopen).symm
        · rw [hbegun] at hle
          exact Nat.le_of_succ_le hle

end Ledger

/-! ## Turns that publish nothing from outside -/

namespace Session

variable {σ : Type} {c : Collector σ} {l : Ledger} {s : Session σ}

/-- While nobody else sets the variable, an entry for each turn keeps the ledger in agreement with
the session.  Unlike for runs of calls, this holds also where the baseline path is that of a
window. -/
theorem Agrees.turn (h : s.Agrees c l) {t : Turn σ} (hown : t.foreign? = none) :
    (s.turn t).2.Agrees c (l.enter (s.turn t).1) := by
  have hcontinues := (s.continues_turn t).trans h.continues
  cases t with
  | call k =>
      refine ⟨hcontinues, ?_, s.nextWindow_happen h.nextWindow (.call k)⟩
      cases k with
      | start =>
          have hpublished := s.published_start
          rw [h.published, h.continues.baselinePath, h.continues.windowPath, h.nextWindow]
            at hpublished
          refine hpublished.trans ?_
          simp only [Session.turn, Session.call, Ledger.enter]
          cases Collector.Beginning.of s.start.1 <;> rfl
      | stop =>
          have hpublished := s.published_stop
          rw [h.published, h.continues.baselinePath] at hpublished
          refine hpublished.trans ?_
          simp only [Session.turn, Session.call]
          cases s.stop.1 <;> rfl
      | hit image update => exact h.published
  | activate path => simp [Turn.foreign?] at hown
  | write value => simp [Turn.foreign?] at hown
  | elsewhere p x => exact ⟨hcontinues, h.published, h.nextWindow⟩

/-- While nobody else sets the variable, the ledger of the answers agrees with the session after any
turns. -/
theorem Agrees.play (h : s.Agrees c l) {turns : List (Turn σ)}
    (hown : ∀ t ∈ turns, t.foreign? = none) :
    (s.play turns).2.Agrees c ((s.play turns).1.foldl Ledger.enter l) := by
  induction turns generalizing s l with
  | nil => exact h
  | cons t rest ih =>
      rw [List.forall_mem_cons] at hown
      exact ih (h.turn hown.1) hown.2

/-- A path that a turn hands out is that of the window which the ledger tells to be closed. -/
theorem Agrees.artifact? (h : s.Agrees c l) (t : Turn σ) :
    (s.turn t).1.artifact?.map Text.toBytes =
      (l.closing (s.turn t).1).map fun k => c.windowPath (UInt64.ofNat k) := by
  cases t with
  | call k =>
      cases k with
      | start => rfl
      | stop =>
          cases hstop : s.stop.1 with
          | error f => simp [Session.turn, Session.call, hstop, Answer.artifact?, Ledger.closing]
          | ok path =>
              rcases (s.collector.stop_eq_ok_iff s.program path).1 hstop with ⟨hpublished, hne, -⟩
              rw [h.published, Option.some.injEq, Ledger.path] at hpublished
              simp only [Session.turn, Session.call, hstop, Answer.artifact?, Ledger.closing]
              cases hopened : l.opened with
              | none =>
                  rw [hopened] at hpublished
                  rw [h.continues.baselinePath] at hne
                  exact absurd (Text.toBytes_injective hpublished).symm hne
              | some k =>
                  rw [hopened] at hpublished
                  rw [Option.map_some, Option.map_some, ← hpublished]
      | hit image update => rfl
  | activate path => rfl
  | write value => rfl
  | elsewhere p x => rfl

/-- The paths that turns hand out are those of the windows that the ledger tells to be closed. -/
theorem Agrees.artifacts (h : s.Agrees c l) {turns : List (Turn σ)}
    (hown : ∀ t ∈ turns, t.foreign? = none) :
    (artifacts (s.play turns).1).map Text.toBytes =
      (l.closed (s.play turns).1).map fun k => c.windowPath (UInt64.ofNat k) := by
  induction turns generalizing s l with
  | nil => rfl
  | cons t rest ih =>
      rw [List.forall_mem_cons] at hown
      have hfirst := h.artifact? t
      have hrest := ih (h.turn hown.1) hown.2
      rw [CoverageWindows.artifacts] at hrest ⊢
      rw [play_cons, Ledger.closed, List.map_append, ← hrest, List.filterMap_cons]
      cases hartifact : (s.turn t).1.artifact? with
      | none =>
          rw [hartifact, Option.map_none, eq_comm, Option.map_eq_none_iff] at hfirst
          rw [hfirst]
          rfl
      | some path =>
          rw [hartifact, Option.map_some, eq_comm, Option.map_eq_some_iff] at hfirst
          rcases hfirst with ⟨k, hclosing, hpath⟩
          rw [hclosing, List.map_cons, ← hpath]
          rfl

end Session

/-! ## Sessions of a program -/

/-- One session of several in a program: what is done to the program before it, what its collector
is made from, and the turns that it takes. -/
structure Tenure where
  {σ : Type}
  before : Program → Program
  backend : Backend σ
  request : CollectorRequest
  state : σ
  turns : List (Turn σ)

/-- The answers of a session, and the program after its collector has ended.  Where no collector is
made, there are no answers. -/
def Tenure.serve (e : Tenure) (p : Program) : List Answer × Program :=
  match Collector.create e.backend e.request (e.before p) e.state with
  | (.error _, p, _) => ([], p)
  | (.ok c, p, _) =>
      let (answers, s) := (Session.mk c p).play e.turns
      (answers, (s.collector.close s.program).1)

/-- A tenure whose collector is made plays its turns and closes the collector. -/
theorem Tenure.serve_of_create (e : Tenure) {p p' : Program} {c : Collector e.σ} {x' : e.σ}
    (h : Collector.create e.backend e.request (e.before p) e.state = (.ok c, p', x')) :
    e.serve p = (((Session.mk c p').play e.turns).1,
      (((Session.mk c p').play e.turns).2.collector.close
        ((Session.mk c p').play e.turns).2.program).1) := by
  simp [serve, h]

/-- The answers of sessions one after another, those of each session by themselves. -/
def Program.host (p : Program) : List Tenure → List (List Answer)
  | [] => []
  | e :: rest =>
      let (answers, p) := e.serve p
      answers :: p.host rest

/-- What holds of the answers of each session in every program, holds of the answers of sessions one
after another. -/
theorem Program.forall_mem_host {P : List Answer → Prop} {tenures : List Tenure}
    (h : ∀ e ∈ tenures, ∀ p, P (e.serve p).1) (p : Program) :
    ∀ answers ∈ p.host tenures, P answers := by
  induction tenures generalizing p with
  | nil => exact nofun
  | cons e rest ih =>
      rw [List.forall_mem_cons] at h
      exact List.forall_mem_cons.2 ⟨h.1 p, ih h.2 (e.serve p).2⟩

/-- The path of the window of a number in a folder. -/
def windowIn (folder : Bytes) (processId k : Nat) : Bytes :=
  Path.inside folder (Text.toBytes (windowName processId (UInt64.ofNat k)))

/-- Windows of different indices in one folder have different paths. -/
theorem windowIn_injOn {folder : Bytes} {processId k k' : Nat} (hk : k < 2 ^ 64) (hk' : k' < 2 ^ 64)
    (h : windowIn folder processId k = windowIn folder processId k') : k = k' := by
  have hnumber := congrArg UInt64.toNat (Collector.inside_windowName_injective h)
  rwa [UInt64.toNat_ofNat_of_lt' hk, UInt64.toNat_ofNat_of_lt' hk'] at hnumber

/-- The paths that a session hands out are those of the windows that the ledger of its answers tells
to be closed. -/
theorem Tenure.artifacts_serve (e : Tenure) (hown : ∀ t ∈ e.turns, t.foreign? = none)
    (p : Program) :
    (artifacts (e.serve p).1).map Text.toBytes = (Ledger.empty.closed (e.serve p).1).map
      (windowIn e.request.settings.windowFolder e.request.processId) := by
  unfold Tenure.serve
  split
  · rfl
  · rename_i c p' x' hcreate
    have hmade := Collector.create_spec hcreate
    rw [← hmade.settings, ← hmade.processId]
    exact (Session.agrees_create hmade).artifacts hown

/-! ## What is there for the next session -/

namespace Program

variable {p : Program} {a : Abi} {images : List Nat} {folder : Bytes}

/-- What a session needs of a program apart from a published path: the memory that is reset, and the
folder of windows. -/
structure Equipped (p : Program) (a : Abi) (images : List Nat) (folder : Bytes) : Prop where
  hasMemory : p.HasMemory a images
  hasFolder : p.files.HasFolder folder

theorem Equipped.writeAll (h : p.Equipped a images folder) (ns : List Nat) :
    (p.writeAll ns).2.Equipped a images folder :=
  ⟨h.hasMemory.writeAll, hasFolder_writeAll h.hasFolder ns⟩

theorem Equipped.activate (h : p.Equipped a images folder) (ns : List Nat) (path : Bytes) :
    (p.activate ns path).Equipped a images folder := by
  refine ⟨h.hasMemory.activate path, ?_⟩
  rw [files_activate]
  exact h.hasFolder

end Program

namespace Collector

variable {σ : Type} {c : Collector σ} {p : Program} {folder : Bytes}

/-- Beginning a window leaves a program equipped. -/
theorem equipped_openNext (h : p.Equipped c.settings.abi c.images folder) :
    (c.openNext p).2.2.Equipped c.settings.abi c.images folder := by
  have hresets : (c.resets p).2.1.Equipped c.settings.abi c.images folder := by
    refine ⟨c.hasMemory_resets h.hasMemory, ?_⟩
    rw [resets, Program.files_resetAll]
    exact ((h.writeAll _).activate _ _).hasFolder
  rw [openNext_eq]
  dsimp only
  split
  · exact hresets
  · exact hresets.activate _ _

/-- Making a collector leaves a program equipped where the folder of windows is there. -/
theorem equipped_create {b : Backend σ} {r : CollectorRequest} {p' : Program} {x x' : σ} {a : Abi}
    (hcreate : create b r p x = (.ok c, p', x'))
    (h : p.Equipped a r.images r.settings.windowFolder) :
    p'.Equipped a r.images r.settings.windowFolder := by
  obtain ⟨requested, d, t, files, baseline, -, -, hfolders, -, rfl, -⟩ := create_ok_cases hcreate
  rw [h.hasFolder.makeFolders] at hfolders
  obtain rfl : p.files = files := (Prod.mk.inj hfolders).2
  rcases settle_cases r.settings.variableName r.images (ProfilePath.prepare requested.toList) p with
    ⟨q, hq, hsettle⟩ | ⟨-, hsettle⟩
  · have hended : q.Equipped a r.images r.settings.windowFolder := by
      rcases hq with rfl | rfl
      · exact h
      · exact ⟨h.hasMemory.endContinuous, by rw [Program.files_endContinuous]; exact h.hasFolder⟩
    rw [settled, hsettle]
    exact (hended.activate _ _).writeAll _
  · rw [settled, hsettle]
    exact h.writeAll _

end Collector

namespace Session

variable {σ : Type} {folder : Bytes}

/-- In an equipped program whose baseline path is published, a window is opened and closed, and what
a session needs is there again. -/
theorem play_window (s : Session σ) {path : String}
    (hb : s.collector.decoder.backend.ResetsInPlace) (hnodup : s.collector.images.Nodup)
    (hequipped : s.program.Equipped s.collector.settings.abi s.collector.images folder)
    (hpublished : s.program.published = some (Text.toBytes s.collector.baselinePath))
    (hpath : Text.toBytes path = s.collector.windowPath s.collector.nextWindow)
    (hne : path ≠ s.collector.baselinePath) :
    ∃ s', s.play [.call .start, .call .stop] = ([.started (.ok ()), .stopped (.ok path)], s') ∧
      s'.program.published = some (Text.toBytes s.collector.baselinePath) ∧
      s'.program.Equipped s.collector.settings.abi s.collector.images folder := by
  have hcontinues : s.start.2.collector.Continues s.collector := s.continues_call .start
  rcases s.collector.openNext_inPlace hb hnodup hequipped.hasMemory with ⟨hok, hwindow, -⟩
  have hopened := Collector.equipped_openNext hequipped
  have hstart := s.start_of_baseline hpublished hequipped.hasMemory
  rw [hok] at hstart
  generalize (s.collector.openNext s.program).2.1 = c' at hstart
  generalize (s.collector.openNext s.program).2.2 = p' at hstart hwindow hopened
  rw [hstart] at hcontinues
  have hdifferent : Text.toBytes c'.baselinePath ≠ c'.windowPath s.collector.nextWindow := by
    rw [hcontinues.baselinePath, hcontinues.windowPath, ← hpath]
    exact fun heq => hne (Text.toBytes_injective heq).symm
  have hstop : Session.stop ⟨c', p'⟩ =
      (.ok path, ⟨c', (p'.writeAll c'.images).2.activate c'.images
        (Text.toBytes c'.baselinePath)⟩) := by
    rw [stop, c'.stop_of_window p' hdifferent (by rw [hwindow, hpath])
      (by rw [hcontinues.windowPath, hpath]), Collector.activate]
  refine ⟨(Session.stop ⟨c', p'⟩).2, ?_, ?_, ?_⟩
  · rw [play_cons, turn, call, hstart, play_cons, turn, call, hstop]
    rfl
  · rw [hstop, ← hcontinues.baselinePath]
    exact Program.published_activate _ _ _
  · rw [hstop]
    exact (hopened.writeAll _).activate _ _

end Session

/-! ## A small succession -/

namespace Sample

/-- A program of one image whose folder of windows is there. -/
def equipped : Program := { program with files := ⟨[([[119]], .folder)], []⟩ }

/-- A session that opens a window and closes it. -/
def tenure : Tenure := ⟨id, backend none, request, 0, [.call .start, .call .stop]⟩

/-- What the small session answers. -/
def answers : List Answer := [.started (.ok ()), .stopped (.ok "w/code-coverage-7-0.profraw")]

theorem equipped_equipped :
    equipped.Equipped request.settings.abi request.images request.settings.windowFolder := by
  have hfolder : request.settings.windowFolder = [119, 47] := by decide
  refine ⟨hasMemory_program, [[119]], ?_, ?_⟩ <;>
    simp [hfolder, FileTree.locate, FileTree.follow, FileTree.pieces, FileTree.node?, Path.split,
      Path.slash, Path.dot, Path.isAbsolute, equipped]

/-- In an equipped program whose baseline path is published, the small session closes the window of
number zero; the same holds of the program that it leaves behind. -/
theorem serve_tenure {p : Program}
    (hpublished : p.published = some (Text.toBytes "base-%m.profraw"))
    (hequipped : p.Equipped request.settings.abi request.images request.settings.windowFolder) :
    ∃ q, tenure.serve p = (answers, q) ∧ q.published = some (Text.toBytes "base-%m.profraw") ∧
      q.Equipped request.settings.abi request.images request.settings.windowFolder := by
  have hrequested : Collector.requestedPath request p = .ok "base-%m.profraw" :=
    (p.current_eq_ok_iff _ _).2 hpublished
  obtain ⟨d, hbind⟩ := exists_bind none none p
  obtain ⟨c, p', x', hcreate, hbaseline⟩ :=
    Collector.exists_create hrequested hbind hequipped.hasFolder.makeFolders rfl
  have hbase : c.baselinePath = "base-%m.profraw" := hbaseline.trans (by decide +kernel)
  have hmade := Collector.create_spec hcreate
  have hequipped' := Collector.equipped_create hcreate hequipped
  have hinPlace : c.decoder.backend.ResetsInPlace := by
    rw [hmade.backend]
    exact resetsInPlace_backend
  have hpath : Text.toBytes "w/code-coverage-7-0.profraw" = c.windowPath c.nextWindow := by
    rw [Collector.windowPath, hmade.settings, hmade.processId, hmade.nextWindow]
    decide +kernel
  rw [← hmade.settings, ← hmade.images] at hequipped' ⊢
  obtain ⟨s, hplay, hpublished', hequipped''⟩ := (Session.mk c p').play_window hinPlace
    (by rw [hmade.images]; decide) hequipped' hmade.published hpath (by rw [hbase]; decide)
  refine ⟨(s.collector.close s.program).1, ?_, ?_, hequipped''.writeAll _⟩
  · exact (tenure.serve_of_create hcreate).trans (by simp only [tenure, hplay, answers])
  · rw [Collector.close, Program.published_writeAll, hpublished', hbase]

/-- Two small sessions in one program, one after the other. -/
theorem host_tenures : equipped.host [tenure, tenure] = [answers, answers] := by
  obtain ⟨p, hfirst, hpublished, hequipped⟩ := serve_tenure rfl equipped_equipped
  obtain ⟨q, hsecond, -⟩ := serve_tenure hpublished hequipped
  simp [Program.host, hfirst, hsecond]

end Sample

/-! ## Paths that sessions hand out -/

/-- Let sessions of one process and one folder of windows follow one another, whatever is done to
the program before each of them and elsewhere during its turns, but let nobody else set the variable
during its turns.  Let each of them begin fewer than 2^64 windows.  Then each session hands out the
paths of the windows that its ledger tells to be closed; their numbers increase, so that these paths
are different, and the window that it begins next has none of them.  All paths that were handed out
are different exactly where no two sessions have closed windows of the same number. -/
theorem artifacts_of_sessions (p : Program) (tenures : List Tenure) {folder : Bytes}
    {processId : Nat}
    (hsame : ∀ e ∈ tenures,
      e.request.settings.windowFolder = folder ∧ e.request.processId = processId)
    (hown : ∀ e ∈ tenures, ∀ t ∈ e.turns, t.foreign? = none)
    (hfew : ∀ answers ∈ p.host tenures, (Ledger.of answers).begun < 2 ^ 64) :
    (∀ answers ∈ p.host tenures,
      (artifacts answers).map Text.toBytes =
          (Ledger.empty.closed answers).map (windowIn folder processId) ∧
        (Ledger.empty.closed answers).Pairwise (· < ·) ∧ (artifacts answers).Nodup ∧
        windowIn folder processId (Ledger.of answers).begun ∉
          (artifacts answers).map Text.toBytes) ∧
      (((p.host tenures).flatMap artifacts).Nodup ↔
        ((p.host tenures).flatMap Ledger.empty.closed).Nodup) := by
  have hpaths : ∀ answers ∈ p.host tenures, (artifacts answers).map Text.toBytes =
      (Ledger.empty.closed answers).map (windowIn folder processId) := by
    refine Program.forall_mem_host (fun e he q => ?_) p
    rw [← (hsame e he).1, ← (hsame e he).2]
    exact e.artifacts_serve (hown e he) q
  have hincreasing := fun answers => (Ledger.closed_spec Ledger.sound_empty answers).1
  have hbegun : ∀ answers, ∀ k ∈ Ledger.empty.closed answers, k < (Ledger.of answers).begun :=
    fun answers k hk => ((Ledger.closed_spec Ledger.sound_empty answers).2 k hk).2
  have hinjective : ∀ answers ∈ p.host tenures, ∀ answers' ∈ p.host tenures,
      ∀ k ∈ Ledger.empty.closed answers, ∀ k' ∈ Ledger.empty.closed answers',
        windowIn folder processId k = windowIn folder processId k' → k = k' := by
    intro answers ha answers' ha' k hk k' hk'
    exact windowIn_injOn (Nat.lt_trans (hbegun answers k hk) (hfew answers ha))
      (Nat.lt_trans (hbegun answers' k' hk') (hfew answers' ha'))
  constructor
  · intro answers ha
    refine ⟨hpaths answers ha, hincreasing answers, ?_, ?_⟩
    · have hdifferent : (Ledger.empty.closed answers).Nodup :=
        (hincreasing answers).imp Nat.ne_of_lt
      apply List.Nodup.of_map Text.toBytes
      rw [hpaths answers ha]
      exact List.Nodup.map_on (hinjective answers ha answers ha) hdifferent
    · rw [hpaths answers ha, List.mem_map]
      rintro ⟨k, hk, hpath⟩
      have hless := hbegun answers k hk
      have hnext := windowIn_injOn (Nat.lt_trans hless (hfew answers ha)) (hfew answers ha) hpath
      exact absurd hnext (Nat.ne_of_lt hless)
  · have hall : ((p.host tenures).flatMap artifacts).map Text.toBytes =
        ((p.host tenures).flatMap Ledger.empty.closed).map (windowIn folder processId) := by
      rw [List.map_flatMap, List.map_flatMap]
      exact List.flatMap_congr hpaths
    have hbytes : Function.Injective Text.toBytes := fun _ _ => Text.toBytes_injective
    rw [← List.nodup_map_iff hbytes, hall]
    refine ⟨List.Nodup.of_map _, List.Nodup.map_on ?_⟩
    intro k hk k' hk'
    rcases List.mem_flatMap.1 hk with ⟨answers, ha, hk⟩
    rcases List.mem_flatMap.1 hk' with ⟨answers', ha', hk'⟩
    exact hinjective answers ha answers' ha' k hk k' hk'

/-- Each of two small sessions that follow one another hands out one path, and the two paths are not
different, since both sessions have closed the window of number zero. -/
theorem artifacts_of_sessions_twice :
    (∀ a ∈ Sample.equipped.host [Sample.tenure, Sample.tenure],
      (artifacts a).Nodup ∧ Ledger.empty.closed a = [0]) ∧
      ¬((Sample.equipped.host [Sample.tenure, Sample.tenure]).flatMap artifacts).Nodup := by
  have hhost := Sample.host_tenures
  have hsame : ∀ e ∈ [Sample.tenure, Sample.tenure],
      e.request.settings.windowFolder = Sample.request.settings.windowFolder ∧
        e.request.processId = 7 := by
    simp [Sample.tenure, Sample.request]
  obtain ⟨heach, hall⟩ := artifacts_of_sessions Sample.equipped [Sample.tenure, Sample.tenure] hsame
    (by simp [Sample.tenure, Turn.foreign?]) (by rw [hhost]; decide)
  have hclosed : Ledger.empty.closed Sample.answers = [0] := by decide
  constructor
  · intro a ha
    refine ⟨(heach a ha).2.2.1, ?_⟩
    simp only [hhost, List.mem_cons, List.not_mem_nil, or_false, or_self] at ha
    rw [ha, hclosed]
  · rw [hall, hhost]
    decide

/-- Two small sessions that follow one another, without anything done to the program but by them,
begin two windows and hand out the same path twice. -/
theorem path_handed_out_twice :
    ((Sample.equipped.host [Sample.tenure, Sample.tenure]).map fun a => (Ledger.of a).begun) =
        [1, 1] ∧
      (Sample.equipped.host [Sample.tenure, Sample.tenure]).flatMap artifacts =
        ["w/code-coverage-7-0.profraw", "w/code-coverage-7-0.profraw"] := by
  rw [Sample.host_tenures]
  exact ⟨rfl, rfl⟩

end CoverageWindows
