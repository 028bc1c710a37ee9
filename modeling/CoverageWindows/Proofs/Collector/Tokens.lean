import CoverageWindows.Proofs.Collector.Refusals
import CoverageWindows.Proofs.ProfilePath.Tokens

/-!
# Module tokens in published paths

The baseline path is prepared, and so tells images apart by a module token.  The paths of windows
are not prepared: they have a token only where the folder of windows has one.  Without it all images
write to one file, each over what the others wrote.

Main results:

- Theorem `Collector.hasModuleToken_windowPath`: the path of a window has the tokens of its folder.
- Theorem `Session.publications_run`: what a run of calls publishes, told by the answers.
- Theorem `tokens_of_run`: all paths that a collector publishes have a module token exactly if the
  folder of windows has one or no window was begun.
-/

namespace CoverageWindows

/-! ## Outputs without a token -/

namespace Image

/-- A path without a module token is expanded to itself. -/
theorem expandToken_of_plain (signature : List Char) {path : List Char}
    (h : ProfilePath.hasModuleToken path = false) : expandToken signature path = path := by
  fun_induction expandToken signature path with
  | case1 => rfl
  | case2 => rfl
  | case3 c d rest htoken ih =>
      rcases htoken with ⟨rfl, rfl⟩
      cases (h : true = false)
  | case4 c d rest htoken ih =>
      rw [ProfilePath.hasModuleToken_cons, Bool.or_eq_false_iff] at h
      rw [ih h.2]

/-- A path without a token is the same for all images. -/
theorem expanded_of_plain (n : Nat) {path : String}
    (h : ProfilePath.hasModuleToken path.toList = false) : expanded n path = path := by
  rw [expanded, expandToken_of_plain _ h, String.ofList_toList]

end Image

/-! ## Tokens in the paths of windows -/

namespace Collector

variable {σ : Type}

/-- The name of a window has no token. -/
theorem percent_notMem_windowName (processId : Nat) (k : UInt64) :
    '%' ∉ (windowName processId k).toList := by
  have hdigits : ∀ n, '%' ∉ Decimal.digits n := by
    intro n hn
    exact absurd (Decimal.isDigit_of_mem_digits hn) (by decide)
  delta windowName
  simp [hdigits]

/-- The path of a window has the tokens of its folder. -/
theorem hasModuleToken_windowPath (c : Collector σ) {folder path : String} {k : UInt64}
    (hfolder : Text.toBytes folder = c.settings.windowFolder)
    (hpath : Text.toBytes path = c.windowPath k) :
    ProfilePath.hasModuleToken path.toList = ProfilePath.hasModuleToken folder.toList := by
  have hpercent := percent_notMem_windowName c.processId k
  have hhead : (windowName c.processId k).toList.head? = some 'c' := by
    delta windowName
    simp
  rw [windowPath, Path.inside_eq (isAbsolute_windowName _ _), ← hfolder] at hpath
  generalize windowName c.processId k = name at hpath hpercent hhead
  have hplain : ∀ a, ProfilePath.hasModuleToken (a ++ name.toList) =
      ProfilePath.hasModuleToken a := by
    intro a
    refine ProfilePath.hasModuleToken_append_right a hpercent fun x hx => ?_
    obtain rfl : 'c' = x := Option.some.inj (hhead.symm.trans hx)
    decide
  split at hpath
  · rename_i hempty
    obtain rfl : path = name := Text.toBytes_injective hpath
    obtain rfl : folder = "" := Text.toBytes_injective hempty
    exact hplain []
  · split at hpath
    · obtain rfl : path = folder ++ name :=
        Text.toBytes_injective (hpath.trans (Text.toBytes_append folder name).symm)
      rw [String.toList_append, hplain]
    · have hslash : Text.toBytes (folder ++ "/" ++ name) =
          Text.toBytes folder ++ Path.slash :: Text.toBytes name := by
        have hbyte : Text.toBytes "/" = [Path.slash] := by decide
        rw [Text.toBytes_append, Text.toBytes_append, hbyte, List.append_assoc,
          List.singleton_append]
      obtain rfl : path = folder ++ "/" ++ name :=
        Text.toBytes_injective (hpath.trans hslash.symm)
      rw [String.toList_append, hplain, String.toList_append]
      refine ProfilePath.hasModuleToken_append_right _ (by decide) fun x hx => ?_
      obtain rfl : '/' = x := Option.some.inj hx
      decide

end Collector

/-! ## What is published -/

namespace Program

/-- Programs that differ image by image have as many images. -/
theorem length_of_getElem? {p q : Program} {f : Nat → Image → Image}
    (h : ∀ n, q.images[n]? = p.images[n]?.map (f n)) : q.images.length = p.images.length := by
  have hle : ∀ n, q.images.length ≤ n ↔ p.images.length ≤ n := by
    intro n
    rw [← List.getElem?_eq_none_iff, ← List.getElem?_eq_none_iff, h n, Option.map_eq_none_iff]
  exact Nat.le_antisymm ((hle _).2 (Nat.le_refl _)) ((hle _).1 (Nat.le_refl _))

@[simp]
theorem publications_endContinuous (p : Program) (images : List Nat) :
    (p.endContinuous images).publications = p.publications := by
  have hone : ∀ (q : Program) n, (q.setPageSize n 0).publications = q.publications := by
    intro q n
    unfold setPageSize
    split
    · rfl
    · simp [publications, record, change, Event.publication?]
  induction images generalizing p with
  | nil => rfl
  | cons n rest ih => exact (ih (p.setPageSize n 0)).trans (hone p n)

end Program

namespace Collector

variable {σ : Type}

/-- Settling publishes no other path than the one that was prepared. -/
theorem publications_settle (name : String) (images : List Nat) (prepared : ProfilePath.Prepared)
    (p : Program) :
    ∃ new, (settle name images prepared p).publications = p.publications ++ new ∧
      ∀ path ∈ new, path = Text.toBytes (String.ofList prepared.path) := by
  rcases settle_cases name images prepared p with ⟨q, hq, h⟩ | ⟨-, h⟩
  · have hsame : q.publications = p.publications := by
      rcases hq with rfl | rfl
      · rfl
      · exact Program.publications_endContinuous p images
    exact ⟨[Text.toBytes (String.ofList prepared.path)], by simp [h, hsame], by simp⟩
  · exact ⟨[], by simp [h], by simp⟩

/-- Settling keeps the number of images. -/
theorem length_settle (name : String) (images : List Nat) (prepared : ProfilePath.Prepared)
    (p : Program) : (settle name images prepared p).images.length = p.images.length := by
  have hwrite : ∀ q : Program, (q.writeAll images).2.images.length = q.images.length :=
    fun q => Program.length_of_getElem? fun n => q.getElem?_writeAll images n
  rcases settle_cases name images prepared p with ⟨q, hq, h⟩ | ⟨-, h⟩
  · rw [h, hwrite, Program.length_activate]
    rcases hq with rfl | rfl
    · rfl
    · exact Program.length_of_getElem? fun n => p.getElem?_endContinuous images n
  · rw [h, hwrite]

/-- A collector that was made has a baseline path with a module token, and no other path was
published for it. -/
theorem create_publications {b : Backend σ} {r : CollectorRequest} {p p' : Program} {s s' : σ}
    {c : Collector σ} (h : create b r p s = (.ok c, p', s')) :
    ProfilePath.hasModuleToken c.baselinePath.toList = true ∧
      p'.images.length = p.images.length ∧
      ∃ new, p'.publications = p.publications ++ new ∧
        ∀ path ∈ new, path = Text.toBytes c.baselinePath := by
  obtain ⟨requested, d, t, files, baseline, -, -, -, -, rfl, rfl⟩ := create_ok_cases h
  refine ⟨?_, length_settle _ _ _ _, publications_settle _ _ _ _⟩
  rw [String.toList_ofList]
  exact ProfilePath.hasModuleToken_prepare _

end Collector

namespace Ledger

variable {σ : Type}

/-- The paths that a call publishes, told by its answer and by the ledger before it. -/
def publishes (l : Ledger) (c : Collector σ) : Answer → List Bytes
  | .started result => c.publishes (UInt64.ofNat l.begun) (Collector.Beginning.of result)
  | .stopped (.ok _) => [Text.toBytes c.baselinePath]
  | .stopped (.error _) => []
  | .ran => []

/-- The paths that calls publish, told by their answers and by the ledger before them. -/
def publications (c : Collector σ) (l : Ledger) : List Answer → List Bytes
  | [] => []
  | a :: rest => l.publishes c a ++ publications c (l.enter a) rest

/-- What a call publishes is the baseline path or the path of a window; a window is among it exactly
if the call begins one. -/
theorem publishes_cases (l : Ledger) (c : Collector σ) (a : Answer) :
    ((l.enter a).begun = l.begun ∧ ∀ path ∈ l.publishes c a, path = Text.toBytes c.baselinePath) ∨
      ((l.enter a).begun = l.begun + 1 ∧
        c.windowPath (UInt64.ofNat l.begun) ∈ l.publishes c a ∧
        ∀ path ∈ l.publishes c a, path = Text.toBytes c.baselinePath ∨
          path = c.windowPath (UInt64.ofNat l.begun)) := by
  cases a with
  | ran => exact .inl ⟨rfl, by simp [publishes]⟩
  | stopped result =>
      cases result with
      | ok path => exact .inl ⟨rfl, by simp [publishes]⟩
      | error f => exact .inl ⟨rfl, by simp [publishes]⟩
  | started result =>
      rw [publishes, enter]
      cases Collector.Beginning.of result with
      | refused => exact .inl ⟨rfl, by simp [Collector.publishes]⟩
      | givenUp =>
          refine .inr ⟨rfl, by simp [Collector.publishes], ?_⟩
          simp [Collector.publishes]
      | opened =>
          refine .inr ⟨rfl, by simp [Collector.publishes], ?_⟩
          simp [Collector.publishes]

/-- The same of all that calls publish. -/
theorem publications_cases (c : Collector σ) (l : Ledger) (answers : List Answer) :
    ((answers.foldl enter l).begun = l.begun ∧
        ∀ path ∈ publications c l answers, path = Text.toBytes c.baselinePath) ∨
      (l.begun < (answers.foldl enter l).begun ∧
        (∃ k, c.windowPath k ∈ publications c l answers) ∧
        ∀ path ∈ publications c l answers, path = Text.toBytes c.baselinePath ∨
          ∃ k, path = c.windowPath k) := by
  induction answers generalizing l with
  | nil => exact .inl ⟨rfl, by simp [publications]⟩
  | cons a rest ih =>
      simp only [publications, List.foldl_cons, List.mem_append]
      rcases l.publishes_cases c a with ⟨hsame, hfirst⟩ | ⟨hnext, hwindow, hfirst⟩ <;>
        rcases ih (l.enter a) with ⟨hrest, hall⟩ | ⟨hless, ⟨k, hk⟩, hall⟩
      · exact .inl ⟨hrest.trans hsame, fun path h => h.elim (hfirst path) (hall path)⟩
      · exact .inr ⟨hsame ▸ hless, ⟨k, .inr hk⟩,
          fun path h => h.elim (fun h => .inl (hfirst path h)) (hall path)⟩
      · exact .inr ⟨by omega, ⟨_, .inl hwindow⟩, fun path h => h.elim
          (fun h => (hfirst path h).imp_right fun h => ⟨_, h⟩) fun h => .inl (hall path h)⟩
      · exact .inr ⟨by omega, ⟨k, .inr hk⟩, fun path h => h.elim
          (fun h => (hfirst path h).imp_right fun h => ⟨_, h⟩) (hall path)⟩

end Ledger

namespace Session

variable {σ : Type} {c : Collector σ}

/-- What a call publishes is told by its answer. -/
theorem publications_call (s : Session σ) {l : Ledger} (hc : s.collector.Continues c)
    (h : s.collector.nextWindow = UInt64.ofNat l.begun) (k : Call) :
    (s.call k).2.program.publications =
      s.program.publications ++ l.publishes c (s.call k).1 := by
  cases k with
  | start =>
      change s.start.2.program.publications = s.program.publications ++
        c.publishes (UInt64.ofNat l.begun) (Collector.Beginning.of s.start.1)
      rw [← h, ← hc.publishes]
      exact s.publications_start
  | stop =>
      change s.stop.2.program.publications = s.program.publications ++
        l.publishes c (.stopped s.stop.1)
      rcases s.collector.stop_or_same s.program with ⟨f, hstop⟩ | ⟨path, -, -, hstop⟩
      · rw [Session.stop, hstop]
        exact (List.append_nil _).symm
      · rw [Session.stop, hstop]
        change (s.collector.activate (s.program.writeAll s.collector.images).2
          (Text.toBytes s.collector.baselinePath)).publications =
            s.program.publications ++ [Text.toBytes c.baselinePath]
        rw [Collector.activate, Program.publications_activate, Program.publications_writeAll,
          hc.baselinePath]
  | hit image update => exact (List.append_nil _).symm

/-- What a run of calls publishes is told by the answers. -/
theorem publications_run (s : Session σ) {l : Ledger} (hc : s.collector.Continues c)
    (h : s.collector.nextWindow = UInt64.ofNat l.begun) (calls : List Call) :
    (s.run calls).2.program.publications =
      s.program.publications ++ l.publications c (s.run calls).1 := by
  induction calls generalizing s l with
  | nil => exact (List.append_nil _).symm
  | cons k rest ih =>
      have hrest := ih (s.call k).2 ((s.continues_call k).trans hc)
        (s.nextWindow_happen h (.call k))
      rw [run_cons]
      refine hrest.trans ?_
      rw [s.publications_call hc h k, List.append_assoc]
      rfl

end Session

/-! ## Tokens in all that is published -/

/-- A published path that is text and has a module token. -/
def HasToken (path : Bytes) : Prop :=
  ∃ text, Text.toBytes text = path ∧ ProfilePath.hasModuleToken text.toList = true

/-- A window has a token just if the window folder has one. -/
theorem hasToken_windowPath_iff {σ : Type} (c : Collector σ) {folder : String}
    (hfolder : Text.toBytes folder = c.settings.windowFolder) (k : UInt64) :
    HasToken (c.windowPath k) ↔ ProfilePath.hasModuleToken folder.toList = true := by
  constructor
  · rintro ⟨text, htext, htoken⟩
    rw [← c.hasModuleToken_windowPath hfolder htext]
    exact htoken
  · intro htoken
    rcases c.exists_toBytes_windowPath ⟨folder, hfolder⟩ k with ⟨text, htext⟩
    exact ⟨text, htext, by rw [c.hasModuleToken_windowPath hfolder htext, htoken]⟩

/-- What is published for a collector, from its making on through any run of calls, is its baseline
path or the path of a window.  The baseline path has a module token, whatever path was requested.
The path of a window has one exactly if the folder of windows has; so all that is published has one
exactly if the folder does or no window was begun.  Where the folder has none, every image writes a
window to the very same file. -/
theorem tokens_of_run {σ : Type} {b : Backend σ} {r : CollectorRequest} {p p' : Program}
    {x x' : σ} {c : Collector σ} (hcreate : Collector.create b r p x = (.ok c, p', x'))
    {folder : String} (hfolder : Text.toBytes folder = r.settings.windowFolder)
    (calls : List Call) :
    let s := ((Session.mk c p').run calls).2
    let l := Ledger.of ((Session.mk c p').run calls).1
    ∃ new, s.program.publications = p.publications ++ new ∧
      (∀ path ∈ new, path = Text.toBytes c.baselinePath ∨ ∃ k, path = c.windowPath k) ∧
      HasToken (Text.toBytes c.baselinePath) ∧
      ((∀ path ∈ new, HasToken path) ↔
        ProfilePath.hasModuleToken folder.toList = true ∨ l.begun = 0) ∧
      (ProfilePath.hasModuleToken folder.toList = false →
        ∀ k text, Text.toBytes text = c.windowPath k → ∀ n, Image.expanded n text = text) := by
  intro s l
  have hmade := Collector.create_spec hcreate
  rw [← hmade.settings] at hfolder
  obtain ⟨hbaseline, -, first, hfirst, hsettled⟩ := Collector.create_publications hcreate
  have hrun : s.program.publications = p'.publications ++ Ledger.empty.publications c
      ((Session.mk c p').run calls).1 :=
    (Session.mk c p').publications_run c.continues_self hmade.nextWindow calls
  have hbase : HasToken (Text.toBytes c.baselinePath) := ⟨_, rfl, hbaseline⟩
  have hwindow := hasToken_windowPath_iff c hfolder
  refine ⟨first ++ Ledger.empty.publications c ((Session.mk c p').run calls).1,
    by rw [hrun, hfirst, List.append_assoc], ?_, hbase, ?_, ?_⟩
  · intro path hpath
    rcases List.mem_append.1 hpath with hpath | hpath
    · exact .inl (hsettled path hpath)
    · rcases Ledger.publications_cases c .empty _ with ⟨-, hall⟩ | ⟨-, -, hall⟩
      · exact .inl (hall path hpath)
      · exact hall path hpath
  · rcases Ledger.publications_cases c .empty ((Session.mk c p').run calls).1 with
      ⟨hnone, hall⟩ | ⟨hsome, ⟨k, hk⟩, hall⟩
    · refine iff_of_true (fun path hpath => ?_) (.inr hnone)
      rcases List.mem_append.1 hpath with hpath | hpath
      · exact hsettled path hpath ▸ hbase
      · exact hall path hpath ▸ hbase
    · have hbegun : l.begun ≠ 0 := Nat.ne_of_gt hsome
      constructor
      · intro htokens
        exact .inl ((hwindow k).1 (htokens _ (List.mem_append_right _ hk)))
      · intro hor path hpath
        have hfolderToken := hor.resolve_right hbegun
        rcases List.mem_append.1 hpath with hpath | hpath
        · exact hsettled path hpath ▸ hbase
        · rcases hall path hpath with rfl | ⟨k', rfl⟩
          · exact hbase
          · exact (hwindow k').2 hfolderToken
  · intro hplain k text htext n
    exact Image.expanded_of_plain n (by rw [c.hasModuleToken_windowPath hfolder htext, hplain])

namespace Sample

/-- A program of two images that have different outputs. -/
def pair : Program :=
  { program with
    images :=
      [image, { image with path := Text.toBytes "/lib/other", output := some "base-1.profraw" }] }

/-- A request for windows of both images. -/
def pairRequest : CollectorRequest := { request with images := [0, 1] }

theorem exists_create_pair :
    ∃ c p' x', Collector.create (backend none) pairRequest pair 0 = (.ok c, p', x') := by
  have hrequested : Collector.requestedPath pairRequest pair = .ok "base-%m.profraw" := by
    simp [Collector.requestedPath, pairRequest, request, Program.current, pair, program]
  have hbind : ∃ d, Collector.bind (backend none) pairRequest pair 0 = (.ok d, 0) := by
    simp [Collector.bind, pairRequest, request, Decoder.create, backend, LineProfile.backend]
  rcases hbind with ⟨d, hbind⟩
  rcases exists_makeFolders with ⟨files, hfolders⟩
  rcases Collector.exists_create hrequested hbind hfolders rfl with ⟨c, p', x', hcreate, -⟩
  exact ⟨c, p', x', hcreate⟩

/-- A window is opened, and both images have its path open. -/
theorem exists_start_pair :
    ∃ c p' x', Collector.create (backend none) pairRequest pair 0 = (.ok c, p', x') ∧
      (Session.mk c p').start.1 = .ok () ∧
      (Session.mk c p').start.2.program.published =
        some (Text.toBytes "w/code-coverage-7-0.profraw") ∧
      ∀ n ∈ [0, 1], (Session.mk c p').start.2.program.images[n]?.map Image.output =
        some (some "w/code-coverage-7-0.profraw") := by
  rcases exists_create_pair with ⟨c, p', x', hcreate⟩
  have hmade := Collector.create_spec hcreate
  obtain ⟨-, hlength, -⟩ := Collector.create_publications hcreate
  have himages : c.images = [0, 1] := hmade.images
  have hmem : p'.HasMemory c.settings.abi c.images := by
    rw [hmade.settings, hmade.images]
    exact hmade.hasMemory _ ((Program.firstMissing?_eq_none_iff pair .llvm19 [0, 1]).1
      (by decide))
  have hpath : c.windowPath c.nextWindow = Text.toBytes "w/code-coverage-7-0.profraw" := by
    rw [Collector.windowPath, hmade.settings, hmade.processId, hmade.nextWindow]
    decide +kernel
  have hinPlace : c.decoder.backend.ResetsInPlace := by
    rw [hmade.backend]
    exact fun _ _ done => ⟨done + 1, rfl⟩
  obtain ⟨hanswer, hpublished, houtputs⟩ :=
    c.openNext_inPlace hinPlace (by rw [himages]; decide) hmem
  rw [hpath] at hpublished houtputs
  refine ⟨c, p', x', hcreate, ?_⟩
  rw [(Session.mk c p').start_of_baseline hmade.published hmem]
  refine ⟨hanswer, hpublished, ?_⟩
  intro n hn
  have hless : n < p'.images.length := by
    rw [hlength]
    revert n
    decide
  have hboth := houtputs n (himages ▸ hn)
  rw [List.getElem?_eq_getElem hless, Option.map_some, Image.outputFor_toBytes,
    Image.expanded_of_plain n (by decide)] at hboth
  have hout := congrArg (Option.map Prod.fst) hboth
  rw [Option.map_map] at hout
  exact hout

end Sample

/-- The first window of two images is published without a module token. -/
theorem tokens_of_run_pair :
    ∃ c p' x', Collector.create (Sample.backend none) Sample.pairRequest Sample.pair 0 =
        (.ok c, p', x') ∧
      ∃ new, ((Session.mk c p').run [.start]).2.program.publications =
          Sample.pair.publications ++ new ∧
        HasToken (Text.toBytes c.baselinePath) ∧ ¬∀ path ∈ new, HasToken path := by
  rcases Sample.exists_start_pair with ⟨c, p', x', hcreate, hanswer, -⟩
  have hfolder : Text.toBytes "w/" = Sample.pairRequest.settings.windowFolder := rfl
  rcases tokens_of_run hcreate hfolder [.start] with ⟨new, hnew, -, hbase, htokens, -⟩
  refine ⟨c, p', x', hcreate, new, hnew, hbase, ?_⟩
  have hbegun : (Ledger.of ((Session.mk c p').run [.start]).1).begun = 1 := by
    change (Ledger.empty.enter (.started (Session.mk c p').start.1)).begun = 1
    rw [hanswer]
    rfl
  rw [htokens, hbegun]
  decide

/-- Two images with outputs of their own: a window is opened under a path without a module token,
and both images write to that one file. -/
theorem window_without_token :
    ∃ c p' x', Collector.create (Sample.backend none) Sample.pairRequest Sample.pair 0 =
        (.ok c, p', x') ∧
      let s := (Session.mk c p').start.2
      (Session.mk c p').start.1 = .ok () ∧
        s.program.published = some (Text.toBytes "w/code-coverage-7-0.profraw") ∧
        ¬HasToken (Text.toBytes "w/code-coverage-7-0.profraw") ∧
        ∀ n ∈ [0, 1], s.program.images[n]?.map Image.output =
          some (some "w/code-coverage-7-0.profraw") := by
  rcases Sample.exists_start_pair with ⟨c, p', x', hcreate, hanswer, hpublished, houtputs⟩
  refine ⟨c, p', x', hcreate, hanswer, hpublished, ?_, houtputs⟩
  rintro ⟨text, htext, htoken⟩
  obtain rfl := Text.toBytes_injective htext
  exact absurd htoken (by decide)

end CoverageWindows
