import CoverageWindows.Proofs.Collector.Session
import Mathlib.Algebra.GroupWithZero.Nat

/-!
# Calls that fail

A call that is refused by the checks leaves the session exactly as it was: what is published, the
number of the next window, the images, and the list of what was done.  So does every attempt to
close a window that fails.  Only a backend that refuses to reset fails later; the window is then
given up, the baseline path is published and opened again, and the next attempt goes on with a
number that no window had before.

None of this depends on what happens between the calls: the variable may have been unset or have got
any other content, the images may have changed, and the backend may have been used otherwise.

Main results:

- Theorem `Collector.windowPath_injective`: windows of different numbers have different paths.
- Theorem `Collector.start_refused_or_begun`: an attempt to open a window is refused before anything
  is done, or gets past the checks.
- Theorem `Session.givenUp_of_resetFailed`: what a session is like after a window was given up.
- Theorem `Session.nextWindow_pass`: whatever happens, the number of windows that were begun gives
  the next index.
- Theorem `failed_calls`: all of this after everything that may have happened to a session.
-/

namespace CoverageWindows

/-! ## Failures of the checks -/

/-- A failure for which an attempt to open a window is over before anything is done. -/
def Failure.isRefusal : Failure → Bool
  | .disabled _ => true
  | .badSetting _ => true
  | .windowOpen => true
  | .noBitmap _ => true
  | _ => false

/-- A refusal begins no window. -/
theorem Collector.Beginning.of_isRefusal {f : Failure} (h : f.isRefusal = true) :
    Beginning.of (.error f) = .refused := by
  cases f <;> simp_all [Failure.isRefusal, Beginning.of]

/-- What is published is no text: nothing, or bytes that spell none. -/
theorem Program.isRefusal_of_current {p : Program} {name : String} {f : Failure}
    (h : p.current name = .error f) : f.isRefusal = true := by
  unfold Program.current at h
  split at h
  · cases h
    rfl
  · split at h
    · simp at h
    · cases h
      rfl

@[simp]
theorem Program.length_activate (p : Program) (images : List Nat) (path : Bytes) :
    (p.activate images path).images.length = p.images.length := by
  have hopen : ∀ q : Program, (q.openAll images).images.length = q.images.length := by
    intro q
    induction images generalizing q with
    | nil => rfl
    | cons n rest ih => exact (ih (q.openOutput n)).trans (q.length_openOutput n)
  exact hopen _

namespace Collector

variable {σ : Type}

/-! ## Different windows -/

/-- Windows of different numbers have different names. -/
theorem windowName_injective {processId : Nat} {k k' : UInt64}
    (h : windowName processId k = windowName processId k') : k = k' := by
  delta windowName at h
  have hdigits : Decimal.digits k.toNat = Decimal.digits k'.toNat := by
    simpa using congrArg String.toList h
  have hvalue := congrArg Decimal.value hdigits
  rw [Decimal.value_digits, Decimal.value_digits] at hvalue
  exact UInt64.toNat_inj.1 hvalue

/-- In one folder and one process, windows of different numbers have different paths. -/
theorem inside_windowName_injective {folder : Bytes} {processId : Nat} {k k' : UInt64}
    (h : Path.inside folder (Text.toBytes (windowName processId k)) =
      Path.inside folder (Text.toBytes (windowName processId k'))) : k = k' := by
  refine windowName_injective (Text.toBytes_injective (?_ : Text.toBytes
    (windowName processId k) = Text.toBytes (windowName processId k')))
  rw [Path.inside_eq (isAbsolute_windowName _ _), Path.inside_eq (isAbsolute_windowName _ _)] at h
  split at h
  · exact h
  · split at h
    · exact List.append_cancel_left h
    · exact (List.cons.inj (List.append_cancel_left h)).2

/-- Windows of different numbers have different paths. -/
theorem windowPath_injective (c : Collector σ) {k k' : UInt64}
    (h : c.windowPath k = c.windowPath k') : k = k' :=
  inside_windowName_injective h

/-! ## Attempts to open a window that fail -/

/-- An attempt to open a window is refused before anything is done, or begins the next window. -/
theorem start_refused_or_begun (c : Collector σ) (p : Program) :
    (∃ f, f.isRefusal = true ∧ c.start p = (.error f, c, p)) ∨
      (p.HasMemory c.settings.abi c.images ∧ c.start p = c.openNext p) := by
  cases hcurrent : c.current p with
  | error f =>
      exact .inl ⟨f, Program.isRefusal_of_current hcurrent, by simp [start, hcurrent]⟩
  | ok path =>
      have hpublished := (Program.current_eq_ok_iff p _ path).1 hcurrent
      rcases c.start_cases p hpublished with ⟨-, hstart⟩ | ⟨-, -, name, hstart⟩ | ⟨-, hmem, hstart⟩
      · exact .inl ⟨_, rfl, hstart⟩
      · exact .inl ⟨_, rfl, hstart⟩
      · exact .inr ⟨hmem, hstart⟩

/-- A window that is begun fails by the backend alone. -/
theorem openNext_error (c : Collector σ) {p : Program} (hmem : p.HasMemory c.settings.abi c.images)
    {f : Failure} (h : (c.openNext p).1 = .error f) :
    f = .backendBroken ∨ ∃ name why, f = .resetFailed name why := by
  rw [openNext_eq] at h
  exact Program.resetAll_result _ _ (c.hasMemory_begun hmem) _ h

/-- A window that is begun fails with the refusal of the backend to reset the first image. -/
theorem openNext_of_refusal (c : Collector σ) {p : Program}
    (hmem : p.HasMemory c.settings.abi c.images) {n : Nat} {rest : List Nat} {i : Image}
    (himages : c.images = n :: rest) (hi : p.images[n]? = some i) {why : String}
    (hrefused : ∀ v m, (c.decoder.backend.reset v m c.backendState).1 = .error (.refused why)) :
    (c.openNext p).1 = .error (.resetFailed i.name why) := by
  have hbegun := c.hasMemory_begun hmem
  obtain ⟨j, hj, hname⟩ : ∃ j, (c.begun p).images[n]? = some j ∧ j.name = i.name := by
    rw [getElem?_begun, hi, Option.map_some]
    refine ⟨_, rfl, ?_⟩
    split <;> rfl
  obtain ⟨m, hm⟩ := hbegun n (by simp [himages]) j hj
  rw [openNext_eq, resets, Program.resetAll,
    (Program.firstMissing?_eq_none_iff _ _ _).2 hbegun]
  simp only [himages, Program.resetEach]
  rw [Program.resetOne_of_memory _ _ _ _ hj hm, hrefused, ← hname]
  rfl

/-- After a window was given up the baseline path is published, and each image was made to open
it. -/
theorem openNext_of_resetFailed (c : Collector σ) (p : Program) {name why : String}
    (h : (c.openNext p).1 = .error (.resetFailed name why)) :
    (c.openNext p).2.2 = c.activate (c.resets p).2.1 (Text.toBytes c.baselinePath) := by
  rw [openNext_eq] at h ⊢
  have hbeginning : Beginning.of (c.resets p).1 = .givenUp := by
    rw [show (c.resets p).1 = .error (.resetFailed name why) from h]
    rfl
  rw [hbeginning, if_neg (by decide)]

/-- The memory for resets is still there after a window was begun. -/
theorem hasMemory_resets (c : Collector σ) {p : Program} (h : p.HasMemory c.settings.abi c.images) :
    (c.resets p).2.1.HasMemory c.settings.abi c.images :=
  Program.resetAll_induct _ _ c.images
    (P := fun q => q.HasMemory c.settings.abi c.images)
    (fun _ n i m m' hq => hq.resetTo _ n i m m') _ _ (c.hasMemory_begun h)

end Collector

/-! ## What happens to a session -/

/-- What happens to a session: a call; or something that the session has no part in, which may leave
any program behind, and the backend in any state. -/
inductive Happening (σ : Type) where
  | call (k : Call)
  | elsewhere (p : Program) (x : σ)

namespace Session

variable {σ : Type}

/-- The answer to what happens and the session after it; nothing answers to what happens
elsewhere. -/
def happen (s : Session σ) : Happening σ → Answer × Session σ
  | .call k => s.call k
  | .elsewhere p x => (.ran, ⟨{ s.collector with backendState := x }, p⟩)

/-- The answers to what happens one after another, and the session after all of it. -/
def pass (s : Session σ) : List (Happening σ) → List Answer × Session σ
  | [] => ([], s)
  | h :: rest =>
      let (answer, s) := s.happen h
      let (answers, s) := s.pass rest
      (answer :: answers, s)

/-- Whatever happens next, the collector of a session goes on as before. -/
theorem continues_happen (s : Session σ) (h : Happening σ) :
    (s.happen h).2.collector.Continues s.collector := by
  cases h with
  | call k => exact s.continues_call k
  | elsewhere p x => exact ⟨_, _, rfl⟩

/-- Whatever happens, the collector of a session goes on as before. -/
theorem continues_pass (s : Session σ) (hs : List (Happening σ)) :
    (s.pass hs).2.collector.Continues s.collector := by
  induction hs generalizing s with
  | nil => exact s.collector.continues_self
  | cons h rest ih => exact (ih (s.happen h).2).trans (s.continues_happen h)

/-- An attempt to open a window is refused and changes nothing, or takes the next index. -/
theorem start_refused_or_begun (s : Session σ) :
    (∃ f, f.isRefusal = true ∧ s.start = (.error f, s)) ∨
      (s.program.HasMemory s.collector.settings.abi s.collector.images ∧
        s.start = ((s.collector.openNext s.program).1,
          ⟨(s.collector.openNext s.program).2.1, (s.collector.openNext s.program).2.2⟩)) := by
  rcases s.collector.start_refused_or_begun s.program with ⟨f, hf, hstart⟩ | ⟨hmem, hstart⟩
  · exact .inl ⟨f, hf, by rw [start, hstart]⟩
  · refine .inr ⟨hmem, ?_⟩
    unfold start
    rw [hstart]

/-- While the baseline path is published and the memory is there, the next window is begun. -/
theorem start_of_baseline (s : Session σ)
    (hpublished : s.program.published = some (Text.toBytes s.collector.baselinePath))
    (hmem : s.program.HasMemory s.collector.settings.abi s.collector.images) :
    s.start = ((s.collector.openNext s.program).1,
      ⟨(s.collector.openNext s.program).2.1, (s.collector.openNext s.program).2.2⟩) := by
  unfold start
  rcases s.collector.start_cases s.program hpublished with
    ⟨hne, -⟩ | ⟨-, hmissing, -⟩ | ⟨-, -, hstart⟩
  · exact absurd rfl hne
  · exact absurd hmem hmissing
  · rw [hstart]

/-- An attempt to open a window publishes what its answer tells, for the next index. -/
theorem publications_start (s : Session σ) :
    s.start.2.program.publications = s.program.publications ++
      s.collector.publishes s.collector.nextWindow (Collector.Beginning.of s.start.1) := by
  rcases s.start_refused_or_begun with ⟨f, hf, hstart⟩ | ⟨hmem, hstart⟩
  · rw [hstart, Collector.Beginning.of_isRefusal hf, Collector.publishes, List.append_nil]
  · have hresult : (s.collector.openNext s.program).1 = (s.collector.resets s.program).1 := by
      rw [Collector.openNext_eq]
    rw [hstart, hresult]
    exact (s.collector.openNext_spec hmem).2.1

/-- A window that was begun, and only such a one, took the next index. -/
theorem nextWindow_start (s : Session σ) {l : Ledger}
    (h : s.collector.nextWindow = UInt64.ofNat l.begun) :
    s.start.2.collector.nextWindow = UInt64.ofNat (l.enter (.started s.start.1)).begun := by
  rcases s.start_refused_or_begun with ⟨f, hf, hstart⟩ | ⟨hmem, hstart⟩
  · rw [hstart, Ledger.enter, Collector.Beginning.of_isRefusal hf]
    exact h
  · have hbegun : Collector.Beginning.of (s.collector.openNext s.program).1 ≠ .refused := by
      rw [Collector.openNext_eq]
      exact s.collector.beginning_resets hmem
    have hnext : s.collector.nextWindow + 1 = UInt64.ofNat (l.begun + 1) := by
      rw [h]
      simp
    rw [hstart, Ledger.enter]
    cases hbeginning : Collector.Beginning.of (s.collector.openNext s.program).1 with
    | refused => exact absurd hbeginning hbegun
    | givenUp => rw [Collector.openNext_eq]; exact hnext
    | opened => rw [Collector.openNext_eq]; exact hnext

/-- Whatever happens next, the number of windows that were begun gives the next index. -/
theorem nextWindow_happen (s : Session σ) {l : Ledger}
    (h : s.collector.nextWindow = UInt64.ofNat l.begun) (e : Happening σ) :
    (s.happen e).2.collector.nextWindow = UInt64.ofNat (l.enter (s.happen e).1).begun := by
  cases e with
  | call k =>
      cases k with
      | start => exact s.nextWindow_start h
      | stop =>
          have hbegun : ∀ result, (l.enter (.stopped result)).begun = l.begun := by
            intro result
            cases result <;> rfl
          exact h.trans (by rw [← hbegun s.stop.1]; rfl)
      | hit image update => exact h
  | elsewhere p x => exact h

/-- Whatever happens, the number of windows that were begun gives the next index. -/
theorem nextWindow_pass (s : Session σ) {l : Ledger}
    (h : s.collector.nextWindow = UInt64.ofNat l.begun) (hs : List (Happening σ)) :
    (s.pass hs).2.collector.nextWindow =
      UInt64.ofNat ((s.pass hs).1.foldl Ledger.enter l).begun := by
  induction hs generalizing s l with
  | nil => exact h
  | cons e rest ih => exact ih (s.happen e).2 (s.nextWindow_happen h e)

/-! ## Windows that are given up -/

/-- What a session `s'` is like when a window was given up in `s`: the baseline path was published
again, and each image was made to open it after that; one number was taken; no window is open, and
the next attempt gets past the checks and publishes the window of the next number. -/
structure GivenUp (s s' : Session σ) : Prop where
  published : s'.program.published = some (Text.toBytes s.collector.baselinePath)
  reopened : ∃ earlier, s'.program.events = earlier ++
    .published (Text.toBytes s.collector.baselinePath) ::
      (s.collector.images.filter (· < s'.program.images.length)).map .opened
  isOpen : s'.program.IsOpen s.collector.images
  nextWindow : s'.collector.nextWindow = s.collector.nextWindow + 1
  stop : s'.stop = (.error .windowNotOpen, s')
  admits : Collector.Beginning.of s'.start.1 ≠ .refused
  publishes : s'.start.2.program.publications = s'.program.publications ++
    s.collector.publishes (s.collector.nextWindow + 1) (Collector.Beginning.of s'.start.1)

/-- A window is given up where the reset before it fails. -/
theorem givenUp_of_resetFailed (s : Session σ) {name why : String}
    (h : s.start.1 = .error (.resetFailed name why)) : s.GivenUp s.start.2 := by
  rcases s.start_refused_or_begun with ⟨f, hf, hstart⟩ | ⟨hmem, hstart⟩
  · rw [hstart] at h
    cases h
    simp [Failure.isRefusal] at hf
  have hcontinues : s.start.2.collector.Continues s.collector := s.continues_call .start
  rw [hstart] at h hcontinues ⊢
  have hprogram := s.collector.openNext_of_resetFailed s.program h
  have hnext : (s.collector.openNext s.program).2.1.nextWindow = s.collector.nextWindow + 1 := by
    rw [Collector.openNext_eq]
  generalize (s.collector.openNext s.program).2.1 = c' at hcontinues hnext
  generalize (s.collector.openNext s.program).2.2 = p' at hprogram
  have hpublished : p'.published = some (Text.toBytes c'.baselinePath) := by
    rw [hprogram, hcontinues.baselinePath, Collector.activate, Program.published_activate]
  have hmem' : p'.HasMemory c'.settings.abi c'.images := by
    rw [hprogram, hcontinues.settings, hcontinues.images]
    exact (s.collector.hasMemory_resets hmem).activate _
  have hagain : (Session.mk c' p').start.1 = (c'.resets p').1 := by
    rw [(Session.mk c' p').start_of_baseline hpublished hmem', Collector.openNext_eq]
  refine
    { published := hpublished.trans (by rw [hcontinues.baselinePath])
      reopened := ?_
      isOpen := ?_
      nextWindow := hnext
      stop := ?_
      admits := ?_
      publishes := ?_ }
  · refine ⟨(s.collector.resets s.program).2.1.events, ?_⟩
    rw [hprogram, Collector.activate, Program.length_activate]
    exact Program.events_activate _ _ _
  · rw [hprogram]
    exact Program.isOpen_activate _ _ _
  · have hcurrent : c'.current p' = .ok c'.baselinePath :=
      (Program.current_eq_ok_iff p' _ _).2 hpublished
    rw [Session.stop, Collector.stop_of_baseline c' p' hcurrent]
  · rw [hagain]
    exact c'.beginning_resets hmem'
  · rw [← hnext, ← hcontinues.publishes]
    exact (Session.mk c' p').publications_start

end Session

/-! ## Failing calls of a session -/

/-- Let anything have happened to a collector that was made: calls, and whatever else was done to
the variable, the images, the files and the backend.  An attempt to open a window that is refused,
and an attempt to close one that fails, leave the session exactly as it was.  An attempt to open a
window fails otherwise only by the backend.  Each attempt that gets past the checks takes the number
of the windows that were begun before it.  If the backend refuses to reset, then the window is given
up, and the next attempt takes a number whose path none of the last 2^64 - 1 windows had. -/
theorem failed_calls {σ : Type} {b : Backend σ} {r : CollectorRequest} {p p' : Program}
    {x x' : σ} {c : Collector σ} (hcreate : Collector.create b r p x = (.ok c, p', x'))
    (happenings : List (Happening σ)) :
    let s := ((Session.mk c p').pass happenings).2
    let begun := (Ledger.of ((Session.mk c p').pass happenings).1).begun
    (∀ f, s.start.1 = .error f → f.isRefusal = true → s.start.2 = s) ∧
      (∀ f, s.stop.1 = .error f → s.stop.2 = s) ∧
      (∀ f, s.start.1 = .error f → f.isRefusal = true ∨ f = .backendBroken ∨
        ∃ name why, f = .resetFailed name why) ∧
      s.collector.nextWindow = UInt64.ofNat begun ∧
      s.start.2.program.publications = s.program.publications ++
        c.publishes (UInt64.ofNat begun) (Collector.Beginning.of s.start.1) ∧
      ∀ name why, s.start.1 = .error (.resetFailed name why) →
        s.GivenUp s.start.2 ∧ ∀ k ≤ begun, begun + 1 - k < 2 ^ 64 →
          c.windowPath s.start.2.collector.nextWindow ≠ c.windowPath (UInt64.ofNat k) := by
  intro s begun
  have hmade := Collector.create_spec hcreate
  have hcontinues : s.collector.Continues c := (Session.mk c p').continues_pass happenings
  have hindex : s.collector.nextWindow = UInt64.ofNat begun :=
    (Session.mk c p').nextWindow_pass (l := Ledger.empty) hmade.nextWindow happenings
  refine ⟨?_, ?_, ?_, hindex, ?_, ?_⟩
  · intro f hf hrefusal
    rcases s.start_refused_or_begun with ⟨g, -, hstart⟩ | ⟨hmem, hstart⟩
    · rw [hstart]
    · rw [hstart] at hf
      rcases s.collector.openNext_error hmem hf with rfl | ⟨name, why, rfl⟩ <;>
        simp [Failure.isRefusal] at hrefusal
  · intro f hf
    rcases s.collector.stop_or_same s.program with ⟨g, hstop⟩ | ⟨path, -, -, hstop⟩
    · rw [Session.stop, hstop]
    · rw [Session.stop, hstop] at hf
      simp at hf
  · intro f hf
    rcases s.start_refused_or_begun with ⟨g, hg, hstart⟩ | ⟨hmem, hstart⟩
    · rw [hstart] at hf
      cases hf
      exact .inl hg
    · rw [hstart] at hf
      exact .inr (s.collector.openNext_error hmem hf)
  · rw [← hindex, ← hcontinues.publishes]
    exact s.publications_start
  · intro name why h
    have hgiven := s.givenUp_of_resetFailed h
    refine ⟨hgiven, ?_⟩
    intro k hk hless heq
    have hnumber := congrArg UInt64.toNat (c.windowPath_injective heq)
    rw [hgiven.nextWindow, hindex, UInt64.toNat_add, UInt64.toNat_ofNat', UInt64.toNat_ofNat',
      UInt64.toNat_one] at hnumber
    omega

namespace Sample

/-- What happens to a small session: a window is opened, the variable is unset, no window can be
opened then, and the baseline path is published by somebody else, with a backend that refuses to
reset once more. -/
def happenings (baseline : String) : List (Happening Nat) :=
  [.call .start, .elsewhere { program with published := none } 0, .call .start,
    .elsewhere { program with published := some (Text.toBytes baseline) } 1]

theorem exists_resetFailed :
    ∃ c p' x', Collector.create (backend (some "full")) request program 0 = (.ok c, p', x') ∧
      ((Session.mk c p').pass (happenings c.baselinePath)).2.start.1 =
        .error (.resetFailed "sample" "full") := by
  rcases exists_create (some "full") with ⟨c, p', x', hcreate, -⟩
  have hmade := Collector.create_spec hcreate
  refine ⟨c, p', x', hcreate, ?_⟩
  have hcontinues := (Session.mk c p').continues_pass (happenings c.baselinePath)
  have hstate : ((Session.mk c p').pass (happenings c.baselinePath)).2.collector.backendState = 1 :=
    rfl
  have hprogram : ((Session.mk c p').pass (happenings c.baselinePath)).2.program =
      { program with published := some (Text.toBytes c.baselinePath) } := rfl
  generalize ((Session.mk c p').pass (happenings c.baselinePath)).2 = s
    at hcontinues hstate hprogram
  have himages : s.collector.images = [0] := by rw [hcontinues.images, hmade.images]; rfl
  have hmem : s.program.HasMemory s.collector.settings.abi s.collector.images := by
    rw [himages, hcontinues.settings, hmade.settings, hprogram]
    exact (Program.firstMissing?_eq_none_iff program request.settings.abi [0]).1 (by decide)
  have hpublished : s.program.published = some (Text.toBytes s.collector.baselinePath) := by
    rw [hprogram, hcontinues.baselinePath]
  have hrefused : ∀ v m, (s.collector.decoder.backend.reset v m s.collector.backendState).1 =
      .error (.refused "full") := by
    intro v m
    rw [hcontinues.decoder, hmade.backend, hstate]
    rfl
  have hname : Image.name image = "sample" := by decide
  rw [s.start_of_baseline hpublished hmem, ← hname]
  exact s.collector.openNext_of_refusal hmem himages (by rw [hprogram]; rfl) hrefused

end Sample

/-- A small session whose backend is full: the window is given up, and there is none to close. -/
theorem failed_calls_given_up :
    ∃ c p' x', Collector.create (Sample.backend (some "full")) Sample.request Sample.program 0 =
        (.ok c, p', x') ∧
      let s := ((Session.mk c p').pass (Sample.happenings c.baselinePath)).2
      s.start.1 = .error (.resetFailed "sample" "full") ∧ s.GivenUp s.start.2 := by
  rcases Sample.exists_resetFailed with ⟨c, p', x', hcreate, hfailed⟩
  rcases failed_calls hcreate (Sample.happenings c.baselinePath) with ⟨-, -, -, -, -, hgiven⟩
  exact ⟨c, p', x', hcreate, hfailed, (hgiven _ _ hfailed).1⟩

end CoverageWindows
