import CoverageWindows.Proofs.Collector.Refusals
import Mathlib.Data.List.Induction

/-!
# Strangers that publish paths

Everybody in a program can write the variable that tells a session whether its window is open.  What
is published after any turns of the session and of strangers is the baseline path, the path of a
window that was opened last, or what a stranger has written last.  To close a window the session
looks at the folder of the path alone.  So it takes a stranger's path in that folder for its own
window, and answers as it ought to where strangers keep out of the folder.

Main results:

- Theorem `Collector.stop_eq_ok_iff`: the paths that are taken for windows.
- Theorem `Session.published_start`: what is published after an attempt to open a window.
- Theorem `Session.published_cases`: where the path comes from that is published after any turns.
- Theorem `stops_among_strangers`: which paths are closed as windows among strangers, and where
  those come from.
-/

namespace CoverageWindows

namespace Collector

variable {σ : Type}

/-! ## Paths that are taken for windows -/

/-- What counts as a window is any other path than the baseline under the window folder. -/
theorem isWindow_iff (c : Collector σ) (path : String) :
    c.isWindow path = true ↔ path ≠ c.baselinePath ∧
      Path.startsWith (Text.toBytes path) c.settings.windowFolder = true := by
  rw [isWindow, Bool.and_eq_true, bne_iff_ne]

/-- A window is closed exactly where a path in the folder of windows is published that is not the
baseline path. -/
theorem stop_eq_ok_iff (c : Collector σ) (p : Program) (path : String) :
    (c.stop p).1 = .ok path ↔ p.published = some (Text.toBytes path) ∧ path ≠ c.baselinePath ∧
      Path.startsWith (Text.toBytes path) c.settings.windowFolder = true := by
  rw [← c.isWindow_iff, ← p.current_eq_ok_iff c.settings.variableName]
  cases hcurrent : c.current p with
  | error f =>
      rw [current] at hcurrent
      simp [stop, current, hcurrent]
  | ok path' =>
      rw [current] at hcurrent
      by_cases hwindow : c.isWindow path' = true
      · simp only [stop, current, hcurrent, hwindow, if_true, Except.ok.injEq]
        exact ⟨fun h => ⟨h, h ▸ hwindow⟩, And.left⟩
      · simp only [stop, current, hcurrent, hwindow]
        simp only [Bool.false_eq_true, if_false, reduceCtorEq, Except.ok.injEq, false_iff, not_and]
        rintro rfl
        exact hwindow

/-- There is no window to close exactly where the baseline path is published, or a path that is not
in the folder of windows. -/
theorem stop_eq_windowNotOpen_iff (c : Collector σ) (p : Program) :
    (c.stop p).1 = .error .windowNotOpen ↔ ∃ path, p.published = some (Text.toBytes path) ∧
      (path = c.baselinePath ∨
        Path.startsWith (Text.toBytes path) c.settings.windowFolder = false) := by
  have hnot : ∀ path, (path = c.baselinePath ∨
      Path.startsWith (Text.toBytes path) c.settings.windowFolder = false) ↔
        c.isWindow path = false := by
    intro path
    rw [isWindow, Bool.and_eq_false_iff, bne_eq_false_iff_eq]
  simp only [hnot, ← p.current_eq_ok_iff c.settings.variableName]
  cases hcurrent : c.current p with
  | error f =>
      have hne : f ≠ .windowNotOpen := by
        rintro rfl
        exact absurd (Program.isRefusal_of_current hcurrent) (by decide)
      rw [current] at hcurrent
      simp [stop, current, hcurrent, hne]
  | ok path =>
      rw [current] at hcurrent
      cases hwindow : c.isWindow path <;> simp [stop, current, hcurrent, hwindow]

end Collector

/-! ## Turns -/

/-- What happens to a session whose variable others write, too: a call; a path that is published
through the session, but by none of its calls; a value that somebody else writes to the variable, or
that it is unset; or anything that leaves the variable alone, whatever program and whatever state of
the backend it leaves behind. -/
inductive Turn (σ : Type) where
  | call (k : Call)
  | activate (path : Bytes)
  | write (value : Option Bytes)
  | elsewhere (p : Program) (x : σ)

/-- What the variable was set to, if that was not done by a call. -/
def Turn.foreign? {σ : Type} : Turn σ → Option (Option Bytes)
  | .activate path => some (some path)
  | .write value => some value
  | _ => none

/-- Whether a call that answers so has published a path. -/
def Answer.publishes : Answer → Bool
  | .started result => decide (Collector.Beginning.of result ≠ .refused)
  | .stopped (.ok _) => true
  | _ => false

namespace Session

variable {σ : Type}

/-- The answer to a turn and the session after it; only calls are answered. -/
def turn (s : Session σ) : Turn σ → Answer × Session σ
  | .call k => s.call k
  | .activate path => (.ran, { s with program := s.collector.activate s.program path })
  | .write value => (.ran, { s with program := { s.program with published := value } })
  | .elsewhere p x =>
      (.ran, ⟨{ s.collector with backendState := x }, { p with published := s.program.published }⟩)

/-- The answers to turns one after another, and the session after the last one. -/
def play (s : Session σ) : List (Turn σ) → List Answer × Session σ
  | [] => ([], s)
  | t :: rest =>
      let (answer, s) := s.turn t
      let (answers, s) := s.play rest
      (answer :: answers, s)

theorem play_cons (s : Session σ) (t : Turn σ) (rest : List (Turn σ)) :
    s.play (t :: rest) = ((s.turn t).1 :: ((s.turn t).2.play rest).1, ((s.turn t).2.play rest).2) :=
  rfl

/-- Turns may be played in two parts. -/
theorem play_append (s : Session σ) (first second : List (Turn σ)) :
    s.play (first ++ second) =
      ((s.play first).1 ++ ((s.play first).2.play second).1, ((s.play first).2.play second).2) := by
  induction first generalizing s with
  | nil => rfl
  | cons t rest ih =>
      rw [List.cons_append, play_cons, play_cons, ih]
      rfl

theorem play_concat (s : Session σ) (turns : List (Turn σ)) (t : Turn σ) :
    s.play (turns ++ [t]) =
      ((s.play turns).1 ++ [((s.play turns).2.turn t).1], ((s.play turns).2.turn t).2) := by
  rw [play_append]
  rfl

/-- After a turn the collector of a session goes on as before. -/
theorem continues_turn (s : Session σ) (t : Turn σ) :
    (s.turn t).2.collector.Continues s.collector := by
  cases t with
  | call k => exact s.continues_call k
  | activate path => exact s.collector.continues_self
  | write value => exact s.collector.continues_self
  | elsewhere p x => exact ⟨_, _, rfl⟩

/-- Whatever turns are played, the collector goes on as before. -/
theorem continues_play (s : Session σ) (turns : List (Turn σ)) :
    (s.play turns).2.collector.Continues s.collector := by
  induction turns generalizing s with
  | nil => exact s.collector.continues_self
  | cons t rest ih => exact (ih (s.turn t).2).trans (s.continues_turn t)

/-! ## What turns publish -/

/-- What is published after an attempt to open a window, told by its answer. -/
theorem published_start (s : Session σ) :
    s.start.2.program.published =
      match Collector.Beginning.of s.start.1 with
      | .refused => s.program.published
      | .givenUp => some (Text.toBytes s.collector.baselinePath)
      | .opened => some (s.collector.windowPath s.collector.nextWindow) := by
  rcases s.start_refused_or_begun with ⟨f, hf, hstart⟩ | ⟨hmem, hstart⟩
  · rw [hstart, Collector.Beginning.of_isRefusal hf]
  · have hresult : (s.collector.openNext s.program).1 = (s.collector.resets s.program).1 := by
      rw [Collector.openNext_eq]
    have hbegun := s.collector.beginning_resets hmem
    rw [hstart, (s.collector.openNext_spec hmem).1, hresult]
    cases hbeginning : Collector.Beginning.of (s.collector.resets s.program).1 with
    | refused => exact absurd hbeginning hbegun
    | givenUp => rfl
    | opened => rfl

/-- What is published after an attempt to close a window, told by its answer. -/
theorem published_stop (s : Session σ) :
    s.stop.2.program.published =
      match s.stop.1 with
      | .ok _ => some (Text.toBytes s.collector.baselinePath)
      | .error _ => s.program.published := by
  rcases s.collector.stop_or_same s.program with ⟨f, hstop⟩ | ⟨path, -, -, hstop⟩
  · rw [stop, hstop]
  · rw [stop, hstop]
    exact Program.published_activate _ _ _

/-- After a stranger's turn the variable is what the stranger has set it to. -/
theorem published_of_foreign (s : Session σ) {t : Turn σ} {value : Option Bytes}
    (h : t.foreign? = some value) : (s.turn t).2.program.published = value := by
  cases t with
  | call k => simp [Turn.foreign?] at h
  | activate path =>
      obtain rfl : some path = value := Option.some.inj h
      exact Program.published_activate _ _ _
  | write value' =>
      obtain rfl : value' = value := Option.some.inj h
      rfl
  | elsewhere p x => simp [Turn.foreign?] at h

/-- A turn that is no stranger's, and whose answer tells of no path that was published, leaves the
variable alone. -/
theorem published_of_quiet (s : Session σ) {t : Turn σ} (hforeign : t.foreign? = none)
    (hanswer : (s.turn t).1.publishes = false) :
    (s.turn t).2.program.published = s.program.published := by
  cases t with
  | call k =>
      cases k with
      | start =>
          have hrefused : Collector.Beginning.of s.start.1 = .refused := by
            simpa [turn, call, Answer.publishes] using hanswer
          refine s.published_start.trans ?_
          rw [hrefused]
      | stop =>
          refine s.published_stop.trans ?_
          cases hstop : s.stop.1 with
          | ok path => simp [turn, call, Answer.publishes, hstop] at hanswer
          | error f => rfl
      | hit image update => rfl
  | activate path => simp [Turn.foreign?] at hforeign
  | write value => simp [Turn.foreign?] at hforeign
  | elsewhere p x => rfl

/-- In turns of a session nothing is published: none of them is a stranger's, and none of the
answers tells of a path that was published.  In particular no window is closed. -/
def Quiet (s : Session σ) (turns : List (Turn σ)) : Prop :=
  (∀ t ∈ turns, t.foreign? = none) ∧ ∀ a ∈ (s.play turns).1, a.publishes = false

/-- One of the turns has opened a window of a path, and nothing was published after it. -/
def OpenedIn (s : Session σ) (turns : List (Turn σ)) (path : Bytes) : Prop :=
  ∃ before since, turns = before ++ .call .start :: since ∧
    Collector.Beginning.of (s.play before).2.start.1 = .opened ∧
    path = s.collector.windowPath (s.play before).2.collector.nextWindow ∧
    (s.play before).2.start.2.Quiet since

/-- In one of the turns a stranger has set the variable to a value, and nothing was published after
it. -/
def WrittenIn (s : Session σ) (turns : List (Turn σ)) (value : Option Bytes) : Prop :=
  ∃ before t since, turns = before ++ t :: since ∧ t.foreign? = some value ∧
    ((s.play before).2.turn t).2.Quiet since

theorem quiet_nil (s : Session σ) : s.Quiet [] := by simp [Quiet, play]

/-- A turn of the session that publishes nothing keeps the turns quiet. -/
theorem Quiet.concat {s : Session σ} {turns : List (Turn σ)} {t : Turn σ} (h : s.Quiet turns)
    (hforeign : t.foreign? = none) (hanswer : ((s.play turns).2.turn t).1.publishes = false) :
    s.Quiet (turns ++ [t]) := by
  constructor
  · intro u hu
    rcases List.mem_append.1 hu with hu | hu
    · exact h.1 u hu
    · rw [List.mem_singleton.1 hu]
      exact hforeign
  · intro a ha
    rw [play_concat, List.mem_append, List.mem_singleton] at ha
    rcases ha with ha | rfl
    · exact h.2 a ha
    · exact hanswer

/-- Nothing being published leaves the variable alone. -/
theorem Quiet.published {s : Session σ} {turns : List (Turn σ)} (h : s.Quiet turns) :
    (s.play turns).2.program.published = s.program.published := by
  induction turns generalizing s with
  | nil => rfl
  | cons t rest ih =>
      rcases h with ⟨hforeign, hanswers⟩
      rw [play_cons, List.forall_mem_cons] at hanswers
      rw [List.forall_mem_cons] at hforeign
      exact (ih ⟨hforeign.2, hanswers.2⟩).trans (s.published_of_quiet hforeign.1 hanswers.1)

/-- What was written last is what is published. -/
theorem WrittenIn.published {s : Session σ} {turns : List (Turn σ)} {value : Option Bytes}
    (h : s.WrittenIn turns value) : (s.play turns).2.program.published = value := by
  rcases h with ⟨before, t, since, rfl, hforeign, hquiet⟩
  rw [play_append, play_cons]
  exact hquiet.published.trans ((s.play before).2.published_of_foreign hforeign)

/-- After any turns the variable is set to the baseline path, to the path of the window that was
opened last, or to what a stranger has set it to last. -/
theorem published_cases (s : Session σ)
    (hbaseline : s.program.published = some (Text.toBytes s.collector.baselinePath))
    (turns : List (Turn σ)) :
    (s.play turns).2.program.published = some (Text.toBytes s.collector.baselinePath) ∨
      (∃ path, (s.play turns).2.program.published = some path ∧ s.OpenedIn turns path) ∨
      s.WrittenIn turns (s.play turns).2.program.published := by
  induction turns using List.reverseRecOn with
  | nil => exact .inl hbaseline
  | append_singleton turns t ih =>
      have hcontinues := s.continues_play turns
      rw [play_concat]
      cases hforeign : t.foreign? with
      | some value =>
          refine .inr (.inr ⟨turns, t, [], rfl, ?_, quiet_nil _⟩)
          rw [hforeign, (s.play turns).2.published_of_foreign hforeign]
      | none =>
          by_cases hanswer : ((s.play turns).2.turn t).1.publishes = false
          · rw [(s.play turns).2.published_of_quiet hforeign hanswer]
            rcases ih with hbase | ⟨path, hpath, before, since, rfl, hopened, hwindow, hquiet⟩ |
              ⟨before, u, since, rfl, hwritten, hquiet⟩
            · exact .inl hbase
            · rw [play_append, play_cons] at hanswer
              refine .inr (.inl ⟨path, hpath, before, since ++ [t], by simp, hopened, hwindow, ?_⟩)
              exact hquiet.concat hforeign hanswer
            · rw [play_append, play_cons] at hanswer
              refine .inr (.inr ⟨before, u, since ++ [t], by simp, hwritten, ?_⟩)
              exact hquiet.concat hforeign hanswer
          · -- Only calls that open a window, give one up or close one publish a path.
            cases t with
            | call k =>
                cases k with
                | start =>
                    have hpublished := (s.play turns).2.published_start
                    cases hbeginning : Collector.Beginning.of (s.play turns).2.start.1 with
                    | refused => simp [turn, call, Answer.publishes, hbeginning] at hanswer
                    | givenUp =>
                        rw [hbeginning, hcontinues.baselinePath] at hpublished
                        exact .inl hpublished
                    | opened =>
                        rw [hbeginning, hcontinues.windowPath] at hpublished
                        exact .inr (.inl ⟨_, hpublished, turns, [], rfl, hbeginning, rfl,
                          quiet_nil _⟩)
                | stop =>
                    have hpublished := (s.play turns).2.published_stop
                    cases hstop : (s.play turns).2.stop.1 with
                    | error f => simp [turn, call, Answer.publishes, hstop] at hanswer
                    | ok path =>
                        rw [hstop, hcontinues.baselinePath] at hpublished
                        exact .inl hpublished
                | hit image update => simp [turn, call, Answer.publishes] at hanswer
            | activate path => simp [Turn.foreign?] at hforeign
            | write value => simp [Turn.foreign?] at hforeign
            | elsewhere p x => simp [turn, Answer.publishes] at hanswer

end Session

/-! ## Windows among strangers -/

/-- Let a collector that was made take any turns with strangers, who set the variable to what they
like.  Then a window is closed exactly where a path in the folder of windows is published that is
not the baseline path; there is none to close exactly where another path is published.  A path that
is closed is that of a window which one of the earlier attempts has opened, and nothing was
published since, so that no other call has closed it; or it is what a stranger has written last.
What a stranger has written last is refused exactly where it is the baseline path or lies outside
the folder of windows.  If strangers write no other paths than these, then only windows of the
session are closed, each of them open. -/
theorem stops_among_strangers {σ : Type} {b : Backend σ} {r : CollectorRequest} {p p' : Program}
    {x x' : σ} {c : Collector σ} (hcreate : Collector.create b r p x = (.ok c, p', x'))
    (turns : List (Turn σ)) :
    let session : Session σ := ⟨c, p'⟩
    let s := (session.play turns).2
    (∀ path, s.stop.1 = .ok path ↔ s.program.published = some (Text.toBytes path) ∧
        path ≠ c.baselinePath ∧
        Path.startsWith (Text.toBytes path) r.settings.windowFolder = true) ∧
      (s.stop.1 = .error .windowNotOpen ↔
        ∃ path, s.program.published = some (Text.toBytes path) ∧ (path = c.baselinePath ∨
          Path.startsWith (Text.toBytes path) r.settings.windowFolder = false)) ∧
      (∀ path, s.stop.1 = .ok path → session.OpenedIn turns (Text.toBytes path) ∨
        session.WrittenIn turns (some (Text.toBytes path))) ∧
      (∀ path, session.WrittenIn turns (some (Text.toBytes path)) →
        (s.stop.1 = .error .windowNotOpen ↔ path = c.baselinePath ∨
          Path.startsWith (Text.toBytes path) r.settings.windowFolder = false)) ∧
      ((∀ t ∈ turns, ∀ path, t.foreign? = some (some (Text.toBytes path)) →
          path = c.baselinePath ∨
            Path.startsWith (Text.toBytes path) r.settings.windowFolder = false) →
        ∀ path, s.stop.1 = .ok path → session.OpenedIn turns (Text.toBytes path)) := by
  intro session s
  have hmade := Collector.create_spec hcreate
  have hcontinues : s.collector.Continues c := session.continues_play turns
  have hok : ∀ path, s.stop.1 = .ok path ↔ s.program.published = some (Text.toBytes path) ∧
      path ≠ c.baselinePath ∧
      Path.startsWith (Text.toBytes path) r.settings.windowFolder = true := by
    intro path
    rw [← hmade.settings, ← hcontinues.settings, ← hcontinues.baselinePath]
    exact s.collector.stop_eq_ok_iff s.program path
  have hnone : s.stop.1 = .error .windowNotOpen ↔
      ∃ path, s.program.published = some (Text.toBytes path) ∧ (path = c.baselinePath ∨
        Path.startsWith (Text.toBytes path) r.settings.windowFolder = false) := by
    rw [← hmade.settings, ← hcontinues.settings, ← hcontinues.baselinePath]
    exact s.collector.stop_eq_windowNotOpen_iff s.program
  have horigin : ∀ path, s.stop.1 = .ok path → session.OpenedIn turns (Text.toBytes path) ∨
      session.WrittenIn turns (some (Text.toBytes path)) := by
    intro path hstop
    rcases (hok path).1 hstop with ⟨hpublished, hne, -⟩
    rcases session.published_cases hmade.published turns with
      hbaseline | ⟨path', hpath', hopened⟩ | hwritten
    · change s.program.published = _ at hbaseline
      rw [hpublished, Option.some.injEq] at hbaseline
      exact absurd (Text.toBytes_injective hbaseline) hne
    · change s.program.published = _ at hpath'
      rw [hpublished, Option.some.injEq] at hpath'
      exact .inl (hpath' ▸ hopened)
    · change session.WrittenIn turns s.program.published at hwritten
      exact .inr (hpublished ▸ hwritten)
  refine ⟨hok, hnone, horigin, ?_, ?_⟩
  · intro path hwritten
    have hpublished : s.program.published = some (Text.toBytes path) := hwritten.published
    rw [hnone]
    constructor
    · rintro ⟨path', hpath', hrefused⟩
      rw [hpublished, Option.some.injEq] at hpath'
      rw [Text.toBytes_injective hpath']
      exact hrefused
    · exact fun hrefused => ⟨path, hpublished, hrefused⟩
  · intro hkept path hstop
    rcases horigin path hstop with hopened | hwritten
    · exact hopened
    · rcases (hok path).1 hstop with ⟨-, hne, hinside⟩
      rcases hwritten with ⟨before, t, since, hturns, hforeign, -⟩
      have hmem : t ∈ turns := by
        rw [hturns]
        simp
      rcases hkept t hmem path hforeign with hbaseline | houtside
      · exact absurd hbaseline hne
      · rw [houtside] at hinside
        simp at hinside

namespace Sample

/-- A window is opened, and then a stranger writes a path. -/
def turns (path : String) : List (Turn Nat) := [.call .start, .write (some (Text.toBytes path))]

end Sample

/-- In a small session a stranger's path outside the folder of windows is refused. -/
theorem stops_among_strangers_outside :
    ∃ c p' x', Collector.create (Sample.backend none) Sample.request Sample.program 0 =
        (.ok c, p', x') ∧
      ((Session.mk c p').play (Sample.turns "other.profraw")).2.stop.1 = .error .windowNotOpen := by
  rcases Sample.exists_create none with ⟨c, p', x', hcreate, -⟩
  rcases stops_among_strangers hcreate (Sample.turns "other.profraw") with ⟨-, -, -, hrefused, -⟩
  have hwritten : (Session.mk c p').WrittenIn (Sample.turns "other.profraw")
      (some (Text.toBytes "other.profraw")) :=
    ⟨[.call .start], _, [], rfl, rfl, Session.quiet_nil _⟩
  exact ⟨c, p', x', hcreate, (hrefused "other.profraw" hwritten).2 (.inr (by decide))⟩

/-- In a small session a stranger's path inside the folder of windows is closed as a window, though
no attempt to open a window has published it. -/
theorem stranger_closed_as_window :
    ∃ c p' x', Collector.create (Sample.backend none) Sample.request Sample.program 0 =
        (.ok c, p', x') ∧
      let turns : List (Turn Nat) := [.write (some (Text.toBytes "w/other.profraw"))]
      ((Session.mk c p').play turns).2.stop.1 = .ok "w/other.profraw" ∧
        ∀ path, ¬(Session.mk c p').OpenedIn turns path := by
  rcases Sample.exists_create_base none with ⟨c, p', x', hcreate, hbaseline⟩
  refine ⟨c, p', x', hcreate, ?_, ?_⟩
  · refine (c.stop_eq_ok_iff { p' with published := some (Text.toBytes "w/other.profraw") } _).2
      ⟨rfl, ?_, ?_⟩
    · rw [hbaseline]
      decide
    · rw [(Collector.create_spec hcreate).settings]
      decide
  · rintro path ⟨before, since, hturns, -⟩
    have hmem : Turn.call .start ∈ before ++ Turn.call .start :: since := by simp
    rw [← hturns, List.mem_singleton] at hmem
    simp at hmem

end CoverageWindows
