import CoverageWindows.Plugin.Adapter

/-!
# What is lent is returned

A decoder library lends error texts and lists of files.  A client of the library makes processors,
resets counters, asks processors for the files of profiles, and drops processors.  In each of these
exchanges the library answers at most one call.  What it lends with the answer is read first, then
returned by the next call, and nothing else is ever returned.  An error flag that is set without a
text is a breach: the client is told so, and nothing is returned.

Main results:

- Theorems `Course.settled` and `Course.told`: what each course of an exchange returns and tells.
- Theorems `Creation.proceeds`, `proceeds_reset` and `proceeds_coveredFiles`: the exchange of each
  request takes a course.
- Theorem `Client.Sound.ask`: what one query preserves, and what its exchange is like.
- Theorem `loans_of_queries`: over any queries each loan is returned once, after it was lent, and
  the client is told what it held.
-/

namespace CoverageWindows
namespace Plugin

/-! ## What is given, lent and returned -/

/-- What a library lends: an error text, or a list of files. -/
inductive Loan where
  | text (t : ForeignText)
  | list (l : ForeignFiles)
  deriving DecidableEq, Repr

/-- What a library gave in answer to a call. -/
inductive Given where
  | parser (a : ParserAnswer)
  | files (a : FilesAnswer)
  | status (a : StatusAnswer)

namespace Given

/-- The text of an answer whose error flag is set; it may be null. -/
def failure? : Given → Option (Option ForeignText)
  | parser (.failed t) => some t
  | files (.failed t) => some t
  | status (.failed t) => some t
  | _ => none

/-- The parser of an answer whose error flag is clear, unless it is null. -/
def parser? : Given → Option ForeignParser
  | parser (.parser q) => q
  | _ => none

/-- What is lent with an answer: the list of files where the error flag is clear, the text where it
is set, unless that is null. -/
def loan? : Given → Option Loan
  | files (.files l) => some (.list l)
  | g => g.failure?.join.map .text

/-- What a failure lends is its text. -/
theorem loan?_of_failure? {g : Given} {text : Option ForeignText} (h : g.failure? = some text) :
    g.loan? = text.map .text := by
  rcases g with (_ | _) | (_ | _) | (_ | _) <;> simp_all [failure?, loan?]

end Given

/-- What a call returns to the library. -/
def Call.loan? : Call → Option Loan
  | releaseText t => some (.text t)
  | releaseFiles l => some (.list l)
  | _ => none

/-- What a library gives in answer to a call after a log.  A request for the files of a profile is
answered if it is made of the parser that is asked, by its entry. -/
def given (p : Plugin) (asked : Option ForeignParser) (log : Log) : Call → Option Given
  | .createParser images => some (.parser (p.createParser log images))
  | .coveredFiles address profile => asked.bind fun q =>
      if q.address = address then q.coveredFiles.map fun e => .files (e log profile) else none
  | .reset version m => p.resetCounters.map fun e => .status (e log version m).1
  | _ => none

/-- Calls, first call first, each with what was given in answer. -/
abbrev Transcript := List (Call × Option Given)

/-- The transcript of calls after a log. -/
def transcript (p : Plugin) (asked : Option ForeignParser) (log : Log) : List Call → Transcript
  | [] => []
  | c :: cs => (c, p.given asked log c) :: p.transcript asked (log ++ [c]) cs

/-- A transcript has the calls that were made, in their order. -/
theorem map_fst_transcript (p : Plugin) (asked : Option ForeignParser) (log : Log)
    (calls : List Call) : (p.transcript asked log calls).map Prod.fst = calls := by
  induction calls generalizing log with
  | nil => rfl
  | cons c cs ih => simp [transcript, ih]

namespace Transcript

/-- What is lent in a transcript, in order. -/
def lent (es : Transcript) : List Loan := es.filterMap fun e => e.2.bind Given.loan?

/-- What is returned in a transcript, in order. -/
def returned (es : Transcript) : List Loan := es.filterMap fun e => e.1.loan?

/-- The parsers that are handed over in a transcript, in order. -/
def parsers (es : Transcript) : List ForeignParser := es.filterMap fun e => e.2.bind Given.parser?

theorem lent_append (es es' : Transcript) : lent (es ++ es') = lent es ++ lent es' :=
  List.filterMap_append ..

theorem returned_append (es es' : Transcript) :
    returned (es ++ es') = returned es ++ returned es' :=
  List.filterMap_append ..

/-- Loans are settled: what is returned is what is lent, each loan once, and never before it was
lent. -/
structure Settled (es : Transcript) : Prop where
  all : es.returned = es.lent
  after : ∀ prior : Transcript, prior <+: es → prior.returned <+: prior.lent

theorem Settled.nil : Settled [] where
  all := rfl
  after prior h := by simp [List.prefix_nil.1 h, returned]

theorem Settled.append {es es' : Transcript} (h : es.Settled) (h' : es'.Settled) :
    (es ++ es').Settled where
  all := by rw [returned_append, lent_append, h.all, h'.all]
  after := by
    -- what comes first ends in the first transcript, or has all of it
    rintro prior ⟨rest, hsplit⟩
    rcases List.append_eq_append_iff.1 hsplit with ⟨more, hes, -⟩ | ⟨prior', hprior, hes'⟩
    · exact h.after prior ⟨more, hes.symm⟩
    · rw [hprior, returned_append, lent_append, h.all]
      exact (List.prefix_append_right_inj _).2 (h'.after prior' ⟨rest, hes'.symm⟩)

/-- Where nothing is lent nor returned, loans are settled. -/
theorem Settled.of_quiet {es : Transcript} (hlent : es.lent = []) (hreturned : es.returned = []) :
    es.Settled where
  all := hreturned.trans hlent.symm
  after prior h := by
    have hnone : prior.returned <+: es.returned := h.filterMap _
    rw [hreturned, List.prefix_nil] at hnone
    rw [hnone]
    exact List.nil_prefix

/-- A loan that the next call returns is settled. -/
theorem Settled.pair {c r : Call} {g : Given} {x : Loan} (hc : c.loan? = none)
    (hg : g.loan? = some x) (hr : r.loan? = some x) : Settled [(c, some g), (r, none)] where
  all := by simp [returned, lent, hc, hg, hr]
  after prior h := by
    rcases List.prefix_cons_iff.1 h with rfl | ⟨rest, rfl, hrest⟩
    · exact List.nil_prefix
    rcases List.prefix_cons_iff.1 hrest with rfl | ⟨none', rfl, hnone⟩
    · simp [returned, hc]
    · simp [List.prefix_nil.1 hnone, returned, lent, hc, hg, hr]

end Transcript

/-! ## What copies hold -/

/-- The element of a foreign array at an index: there is one below the count, unless the array is
null. -/
def elementAt {α : Type} (array : Option (List α)) (count i : Nat) : Option α :=
  if i < count then array.bind (·[i]?) else none

/-- The elements that are read are those of the array, as far as they are counted. -/
theorem getElem?_elements {α : Type} (array : Option (List α)) (count i : Nat) :
    (elements array count)[i]? = elementAt array count i := by
  cases array with
  | none => simp [elements, elementAt]
  | some as => simp [elements, elementAt, List.getElem?_take]

/-- A copy has the name of a foreign file, which is empty where it is null, and its marks. -/
structure ForeignFile.Holds (f : ForeignFile) (d : DecodedFile) : Prop where
  name : ∀ bytes, f.name = some bytes → d.name = Text.lossy bytes
  noName : f.name = none → d.name = ""
  marks : ∀ i, d.marks[i]? = elementAt f.marks f.markCount i

/-- Copies have what the files of a foreign list hold, in order. -/
def ForeignFiles.Holds (l : ForeignFiles) (ds : List DecodedFile) : Prop :=
  ∀ i, Option.Rel ForeignFile.Holds (elementAt l.files l.count i) ds[i]?

theorem holds_copyFile (f : ForeignFile) : f.Holds (copyFile f) where
  name bytes h := by simp [copyFile, h]
  noName h := by simp [copyFile, h]
  marks := getElem?_elements f.marks f.markCount

/-- A copied list holds what the list held. -/
theorem holds_copyFiles (l : ForeignFiles) : l.Holds (copyFiles l) := by
  intro i
  rw [copyFiles, List.getElem?_map, getElem?_elements]
  cases elementAt l.files l.count i with
  | none => exact .none
  | some f => exact .some (holds_copyFile f)

/-! ## Courses of an exchange -/

/-- What a client is told at the end of an exchange. -/
inductive Reply where
  | made
  | reset
  | files (ds : List DecodedFile)
  | dropped
  | noProcessor
  | complained (c : Complaint)

/-- A reply that tells neither of a breach nor of files. -/
def Reply.isPlain : Reply → Bool
  | .files _ => false
  | .complained .broken => false
  | _ => true

/-- The reply that a result comes to. -/
def Reply.of {α : Type} (f : α → Reply) : Except Complaint α → Reply
  | .ok a => f a
  | .error c => .complained c

/-- The courses that an exchange takes, with what the client is told at its end. -/
inductive Course : Transcript → Reply → Prop where
  /-- Nothing is lent, and there is neither a breach nor files to tell of. -/
  | quiet {es : Transcript} {r : Reply} (hreturned : es.returned = [])
      (hgiven : ∀ e ∈ es, ∀ g, e.2 = some g → g.failure? = none ∧ g.loan? = none)
      (hr : r.isPlain = true) : Course es r
  /-- The error flag is set without a text. -/
  | breach {c : Call} {g : Given} (hc : c.loan? = none) (hg : g.failure? = some none) :
      Course [(c, some g)] (.complained .broken)
  /-- The error flag is set with a text, which is read and returned. -/
  | refusal {c : Call} {g : Given} {t : ForeignText} (hc : c.loan? = none)
      (hg : g.failure? = some (some t)) :
      Course [(c, some g), (.releaseText t, none)] (.complained (.refused (Text.lossy t.bytes)))
  /-- A list is copied and returned. -/
  | listing {c : Call} {l : ForeignFiles} (hc : c.loan? = none) :
      Course [(c, some (.files (.files l))), (.releaseFiles l, none)] (.files (copyFiles l))

/-- What is lent in an exchange is told to the client, files are told only of a list that was lent,
and only a breach is told as one. -/
structure Told (es : Transcript) (r : Reply) : Prop where
  broken : r = .complained .broken ↔ ∃ e ∈ es, ∃ g, e.2 = some g ∧ g.failure? = some none
  quiet : r = .complained .broken → es.returned = []
  text : ∀ t, .text t ∈ es.lent → r = .complained (.refused (Text.lossy t.bytes))
  list : ∀ l, .list l ∈ es.lent → ∃ ds, r = .files ds ∧ l.Holds ds
  files : ∀ ds, r = .files ds → ∃ l, .list l ∈ es.lent ∧ l.Holds ds

namespace Course

variable {es : Transcript} {r : Reply}

/-- Whatever an exchange comes to, it is settled. -/
theorem settled (h : Course es r) : es.Settled := by
  cases h with
  | quiet hreturned hgiven _ =>
      refine .of_quiet (List.filterMap_eq_nil_iff.2 fun e he => ?_) hreturned
      exact Option.bind_eq_none_iff.2 fun g hg => (hgiven e he g hg).2
  | breach hc hg =>
      refine .of_quiet ?_ (by simp [Transcript.returned, hc])
      simp [Transcript.lent, Given.loan?_of_failure? hg]
  | refusal hc hg => exact .pair hc (Given.loan?_of_failure? hg) rfl
  | listing hc => exact .pair hc rfl rfl

/-- Whatever an exchange comes to, its reply tells what was lent. -/
theorem told (h : Course es r) : Told es r := by
  have hsettled := h.settled.all
  cases h with
  | quiet hreturned hgiven hr =>
      have hlent : es.lent = [] := hsettled.symm.trans hreturned
      refine
        { broken := ⟨?_, ?_⟩, quiet := fun _ => hreturned, text := by simp [hlent],
          list := by simp [hlent], files := ?_ }
      · rintro rfl
        nomatch hr
      · rintro ⟨e, he, g, hg, hfailure⟩
        simp [(hgiven e he g hg).1] at hfailure
      · rintro ds rfl
        nomatch hr
  | @breach c g hc hg =>
      have hreturned : Transcript.returned [(c, some g)] = [] := by simp [Transcript.returned, hc]
      have hlent : Transcript.lent [(c, some g)] = [] := hsettled.symm.trans hreturned
      exact
        { broken := by simp [hg], quiet := fun _ => hreturned, text := by simp [hlent],
          list := by simp [hlent], files := nofun }
  | @refusal c g t hc hg =>
      have hlent : Transcript.lent [(c, some g), (.releaseText t, none)] = [.text t] := by
        simp [Transcript.lent, Given.loan?_of_failure? hg]
      exact
        { broken := by simp [hg], quiet := nofun, text := by simp [hlent], list := by simp [hlent],
          files := nofun }
  | @listing c l hc =>
      have hlent : Transcript.lent [(c, some (.files (.files l))), (.releaseFiles l, none)] =
          [.list l] := rfl
      refine
        { broken := by simp [Given.failure?], quiet := nofun, text := by simp [hlent], list := ?_,
          files := ?_ }
      · intro l' hl'
        rw [hlent, List.mem_singleton] at hl'
        obtain rfl : l' = l := Loan.list.inj hl'
        exact ⟨_, rfl, holds_copyFiles l'⟩
      · intro ds hds
        obtain rfl := Reply.files.inj hds
        exact ⟨l, by simp [hlent], holds_copyFiles l⟩

end Course

/-! ## What a request comes to -/

/-- From one log to another one, an exchange takes a course to a reply. -/
def Proceeds (p : Plugin) (asked : Option ForeignParser) (log log' : Log) (r : Reply) : Prop :=
  ∃ calls, log' = log ++ calls ∧ Course (p.transcript asked log calls) r

section Proceeds

variable (p : Plugin) {asked : Option ForeignParser} {log : Log} {c : Call} {g : Given} {r : Reply}

/-- No call is made. -/
theorem proceeds_refl (hr : r.isPlain = true) : p.Proceeds asked log log r :=
  ⟨[], (List.append_nil _).symm, .quiet rfl nofun hr⟩

/-- One call is made, and nothing is lent. -/
theorem proceeds_call (hc : c.loan? = none) (hgiven : p.given asked log c = some g)
    (hg : g.failure? = none) (hloan : g.loan? = none) (hr : r.isPlain = true) :
    p.Proceeds asked log (log ++ [c]) r := by
  refine ⟨[c], rfl, .quiet ?_ ?_ hr⟩
  · simp [transcript, Transcript.returned, hc]
  · simp [transcript, hgiven, hg, hloan]

/-- One call is made, and its error is taken. -/
theorem proceeds_takeError {text : Option ForeignText} (hc : c.loan? = none)
    (hgiven : p.given asked log c = some g) (hg : g.failure? = some text) :
    p.Proceeds asked log (takeError text (log ++ [c])).2
      (.complained (takeError text (log ++ [c])).1) := by
  cases text with
  | none =>
      refine ⟨[c], rfl, ?_⟩
      rw [transcript, hgiven]
      exact .breach hc hg
  | some t =>
      refine ⟨[c, .releaseText t], List.append_assoc .., ?_⟩
      rw [transcript, hgiven]
      exact .refusal hc hg

end Proceeds

/-! ### Processors that are made -/

/-- A path is refused with a message. -/
theorem refused_of_foreignPath {path : Bytes} {c : Complaint} (h : foreignPath path = .error c) :
    ∃ m, c = .refused m := by
  unfold foreignPath at h
  split at h
  · exact ⟨_, (Except.error.inj h).symm⟩
  · split at h
    · exact ⟨_, (Except.error.inj h).symm⟩
    · nomatch h

theorem refused_of_mapM_foreignPath {paths : List Bytes} {c : Complaint}
    (h : paths.mapM foreignPath = .error c) : ∃ m, c = .refused m := by
  induction paths with
  | nil => nomatch h
  | cons path rest ih =>
      rw [List.mapM_cons] at h
      cases hpath : foreignPath path with
      | error c' =>
          rw [hpath] at h
          obtain rfl : c' = c := Except.error.inj h
          exact refused_of_foreignPath hpath
      | ok _ =>
          rw [hpath] at h
          cases hrest : rest.mapM foreignPath with
          | error c' =>
              rw [hrest] at h
              obtain rfl : c' = c := Except.error.inj h
              exact ih hrest
          | ok _ =>
              rw [hrest] at h
              nomatch h

/-- What the making of a processor comes to, and the log after it. -/
inductive Creation (p : Plugin) (log : Log) : Except Complaint (Processor Log) × Log → Prop where
  /-- The library is not asked. -/
  | unasked (m : String) : Creation p log (.error (.refused m), log)
  /-- The library gives an error. -/
  | failed {paths : List Bytes} {text : Option ForeignText}
      (h : p.createParser log paths = .failed text) :
      Creation p log (.error (takeError text (log ++ [.createParser paths])).1,
        (takeError text (log ++ [.createParser paths])).2)
  /-- The library gives a null parser. -/
  | null {paths : List Bytes} (m : String) (h : p.createParser log paths = .parser none) :
      Creation p log (.error (.refused m), log ++ [.createParser paths])
  /-- An entry of the parser is null. -/
  | incomplete {paths : List Bytes} {q : ForeignParser} (m : String)
      (h : p.createParser log paths = .parser (some q))
      (hq : q.coveredFiles = none ∨ q.hasDestroy = false) :
      Creation p log (.error (.refused m), log ++ [.createParser paths])
  /-- The parser has both entries. -/
  | complete {paths : List Bytes} {q : ForeignParser} {entry : Log → Bytes → FilesAnswer}
      (h : p.createParser log paths = .parser (some q)) (hentry : q.coveredFiles = some entry)
      (hdestroy : q.hasDestroy = true) :
      Creation p log (.ok (processor q.address entry), log ++ [.createParser paths])

/-- Making a processor goes one of the ways of a creation. -/
theorem creation (p : Plugin) (images : List Bytes) (log : Log) :
    Creation p log (p.create images log) := by
  unfold create
  split
  · rename_i c hpaths
    obtain ⟨m, rfl⟩ := refused_of_mapM_foreignPath hpaths
    exact .unasked m
  · split
    · exact .unasked _
    · dsimp only
      split
      · exact .failed ‹_›
      · exact .null _ ‹_›
      · split
        · split
          · exact .complete ‹_› ‹_› ‹_›
          · exact .incomplete _ ‹_› (.inr (Bool.eq_false_iff.2 ‹_›))
        · exact .incomplete _ ‹_› (.inl ‹_›)

/-! ### The exchanges of each request -/

/-- A parser that is handed over lends nothing. -/
theorem proceeds_createParser (p : Plugin) {asked : Option ForeignParser} {log : Log}
    {paths : List Bytes} {q : Option ForeignParser} {r : Reply}
    (h : p.createParser log paths = .parser q) (hr : r.isPlain = true) :
    p.Proceeds asked log (log ++ [.createParser paths]) r :=
  p.proceeds_call rfl (congrArg (some ∘ Given.parser) h) rfl rfl hr

/-- Making a processor proceeds as the rules say. -/
theorem Creation.proceeds {p : Plugin} {log : Log}
    {result : Except Complaint (Processor Log) × Log} (h : Creation p log result) :
    p.Proceeds none log result.2 (.of (fun _ => .made) result.1) := by
  cases h with
  | unasked m => exact p.proceeds_refl rfl
  | failed h => exact p.proceeds_takeError rfl (congrArg (some ∘ Given.parser) h) rfl
  | null m h => exact p.proceeds_createParser h rfl
  | incomplete m h hq => exact p.proceeds_createParser h rfl
  | complete h hentry hdestroy => exact p.proceeds_createParser h rfl

theorem proceeds_reset (p : Plugin) (version : UInt64) (m : ProfileMemory) (log : Log) :
    p.Proceeds none log (p.reset version m log).2.2
      (.of (fun _ => .reset) (p.reset version m log).1) := by
  unfold reset
  split
  · exact p.proceeds_refl rfl
  · rename_i entry hentry
    have hgiven : p.given none log (.reset version m) =
        some (.status (entry log version m).1) := by
      rw [given, hentry]
      rfl
    dsimp only
    split
    · rename_i m' hanswer
      rw [hanswer] at hgiven
      exact p.proceeds_call rfl hgiven rfl rfl rfl
    · rename_i text m' hanswer
      rw [hanswer] at hgiven
      exact p.proceeds_takeError rfl hgiven rfl

theorem proceeds_coveredFiles (p : Plugin) {q : ForeignParser} {entry : Log → Bytes → FilesAnswer}
    (hentry : q.coveredFiles = some entry) (profile : Bytes) (log : Log) :
    p.Proceeds (some q) log (coveredFiles q.address entry profile log).2
      (.of .files (coveredFiles q.address entry profile log).1) := by
  unfold coveredFiles
  split
  · rename_i c hpath
    obtain ⟨m, rfl⟩ := refused_of_foreignPath hpath
    exact p.proceeds_refl rfl
  · rename_i path hpath
    have hgiven : p.given (some q) log (.coveredFiles q.address path) =
        some (.files (entry log path)) := by
      simp [given, hentry]
    dsimp only
    split
    · rename_i l hanswer
      rw [hanswer] at hgiven
      refine ⟨[_, _], List.append_assoc .., ?_⟩
      rw [transcript, hgiven]
      exact .listing rfl
    · rename_i text hanswer
      rw [hanswer] at hgiven
      exact p.proceeds_takeError rfl hgiven rfl

/-! ## Queries -/

/-- A processor that a client holds, with the parser that was handed over when it was made. -/
structure Held where
  processor : Processor Log
  parser : Option ForeignParser

/-- A client of a library: the calls so far, and the processors that it holds. -/
structure Client where
  log : Log
  held : List Held

/-- What a client can ask for; the processors that it holds are told by their places. -/
inductive Query where
  | create (images : List Bytes)
  | reset (version : UInt64) (memory : ProfileMemory)
  | coveredFiles (place : Nat) (tree : FileTree) (profile : Bytes)
  | drop (place : Nat)

/-- The calls of one query with what was given in answer, and what the client was told. -/
structure Exchange where
  transcript : Transcript
  reply : Reply

/-- The exchange from one log to another. -/
def exchange (p : Plugin) (asked : Option ForeignParser) (log log' : Log) (r : Reply) : Exchange :=
  ⟨p.transcript asked log (log'.drop log.length), r⟩

/-- The exchange of a query, and the client after it. -/
def ask (p : Plugin) (c : Client) : Query → Exchange × Client
  | .create images =>
      let (result, log) := p.create images c.log
      let e := p.exchange none c.log log (.of (fun _ => .made) result)
      match result with
      | .ok x => (e, ⟨log, c.held ++ [⟨x, e.transcript.parsers.head?⟩]⟩)
      | .error _ => (e, ⟨log, c.held⟩)
  | .reset version m =>
      let (result, _, log) := p.reset version m c.log
      (p.exchange none c.log log (.of (fun _ => .reset) result), ⟨log, c.held⟩)
  | .coveredFiles place tree profile =>
      match c.held[place]? with
      | none => (p.exchange none c.log c.log .noProcessor, c)
      | some h =>
          let (result, log) := h.processor.coveredFiles tree profile c.log
          (p.exchange h.parser c.log log (.of .files result), ⟨log, c.held⟩)
  | .drop place =>
      match c.held[place]? with
      | none => (p.exchange none c.log c.log .noProcessor, c)
      | some h =>
          let log := h.processor.release c.log
          (p.exchange h.parser c.log log .dropped, ⟨log, c.held.eraseIdx place⟩)

/-- The exchanges of queries one after another, and the client after the last one. -/
def askAll (p : Plugin) (c : Client) : List Query → List Exchange × Client
  | [] => ([], c)
  | q :: qs =>
      let (e, c) := p.ask c q
      let (es, c) := p.askAll c qs
      (e :: es, c)

/-- The transcript of exchanges one after another. -/
def transcriptOf (es : List Exchange) : Transcript := es.flatMap Exchange.transcript

/-- The processors that a client holds are those of the parsers that were handed over. -/
def Client.Sound (c : Client) : Prop :=
  ∀ h ∈ c.held, ∃ q entry, h.parser = some q ∧ q.coveredFiles = some entry ∧
    h.processor = processor q.address entry

/-- An exchange takes a course, and its calls lead from one log to another. -/
structure Exchange.Spans (e : Exchange) (log log' : Log) : Prop where
  log_eq : log' = log ++ e.transcript.map Prod.fst
  course : Course e.transcript e.reply

/-- What proceeds as the rules say is an exchange that spans its calls. -/
theorem Proceeds.exchange {p : Plugin} {asked : Option ForeignParser} {log log' : Log} {r : Reply}
    (h : p.Proceeds asked log log' r) : (p.exchange asked log log' r).Spans log log' := by
  obtain ⟨calls, rfl, hcourse⟩ := h
  have hcalls : (log ++ calls).drop log.length = calls := List.drop_left
  constructor
  · simp only [Plugin.exchange, hcalls, map_fst_transcript]
  · simpa only [Plugin.exchange, hcalls] using hcourse

/-- A processor that is made is that of the parser that is handed over, which has both entries. -/
theorem Creation.parser {p : Plugin} {log log' : Log} {x : Processor Log} {r : Reply}
    (h : Creation p log (.ok x, log')) :
    ∃ q entry, (p.exchange none log log' r).transcript.parsers.head? = some q ∧
      q.coveredFiles = some entry ∧ q.hasDestroy = true ∧ x = processor q.address entry := by
  cases h with
  | complete h hentry hdestroy =>
      refine ⟨_, _, ?_, hentry, hdestroy, rfl⟩
      simp [Plugin.exchange, transcript, Transcript.parsers, given, h, Given.parser?]

/-- A query leaves the client sound, and its exchange takes a course. -/
theorem Client.Sound.ask {p : Plugin} {c : Client} (h : c.Sound) (query : Query) :
    (p.ask c query).2.Sound ∧ (p.ask c query).1.Spans c.log (p.ask c query).2.log := by
  cases query with
  | create images =>
      have hmade := p.creation images c.log
      simp only [Plugin.ask]
      generalize p.create images c.log = made at hmade ⊢
      rcases made with ⟨x | x, log⟩
      · exact ⟨h, hmade.proceeds.exchange⟩
      · refine ⟨fun held hheld => ?_, hmade.proceeds.exchange⟩
        rcases List.mem_append.1 hheld with hold | hnew
        · exact h held hold
        · obtain rfl := List.mem_singleton.1 hnew
          obtain ⟨q, entry, hq, hentry, -, hx⟩ := hmade.parser
          exact ⟨q, entry, hq, hentry, hx⟩
  | reset version m => exact ⟨h, (p.proceeds_reset version m c.log).exchange⟩
  | coveredFiles place tree profile =>
      simp only [Plugin.ask]
      split
      · exact ⟨h, (p.proceeds_refl (r := .noProcessor) rfl).exchange⟩
      · rename_i held hheld
        obtain ⟨q, entry, hq, hentry, hx⟩ := h held (List.mem_of_getElem? hheld)
        rw [hq, hx]
        exact ⟨h, (p.proceeds_coveredFiles hentry profile c.log).exchange⟩
  | drop place =>
      simp only [Plugin.ask]
      split
      · exact ⟨h, (p.proceeds_refl (r := .noProcessor) rfl).exchange⟩
      · rename_i held hheld
        obtain ⟨q, entry, hq, hentry, hx⟩ := h held (List.mem_of_getElem? hheld)
        refine ⟨fun other hother => h other (List.mem_of_mem_eraseIdx hother), ?_⟩
        rw [hx]
        refine Proceeds.exchange ⟨[.destroy q.address], rfl, .quiet rfl ?_ rfl⟩
        simp [transcript, given]

/-- Over any queries the exchanges lead from one log to the next, and each takes a course. -/
theorem Client.Sound.askAll {p : Plugin} {c : Client} (h : c.Sound) (queries : List Query) :
    (p.askAll c queries).2.Sound ∧
      (p.askAll c queries).2.log =
        c.log ++ (transcriptOf (p.askAll c queries).1).map Prod.fst ∧
      ∀ e ∈ (p.askAll c queries).1, Course e.transcript e.reply := by
  induction queries generalizing c with
  | nil => exact ⟨h, (List.append_nil _).symm, nofun⟩
  | cons query rest ih =>
      obtain ⟨hsound, hspans⟩ := h.ask query
      obtain ⟨hrest, hlog, hcourses⟩ := ih hsound
      refine ⟨hrest, ?_, List.forall_mem_cons.2 ⟨hspans.course, hcourses⟩⟩
      rw [hspans.log_eq, List.append_assoc, ← List.map_append] at hlog
      exact hlog

/-- Settled exchanges make a settled transcript. -/
theorem Transcript.Settled.transcriptOf {es : List Exchange} (h : ∀ e ∈ es, e.transcript.Settled) :
    (transcriptOf es).Settled := by
  induction es with
  | nil => exact .nil
  | cons e rest ih =>
      obtain ⟨he, hrest⟩ := List.forall_mem_cons.1 h
      exact he.append (ih hrest)

/-- A client that holds no processor yet may ask a library whatever it wants.  In all the calls that
are added to the log, each loan is returned once, after it was lent, and nothing else is returned;
so it is in each exchange.  What was lent in an exchange is what the client is told at its end, and
files that it is told are those of a list that was lent; it is told of a breach just where the error
flag was set without a text, and then nothing is returned. -/
theorem loans_of_queries (p : Plugin) (log : Log) (queries : List Query) :
    let (exchanges, c) := p.askAll ⟨log, []⟩ queries
    c.log = log ++ (transcriptOf exchanges).map Prod.fst ∧ (transcriptOf exchanges).Settled ∧
      ∀ e ∈ exchanges, e.transcript.Settled ∧ Told e.transcript e.reply := by
  have hsound : Client.Sound ⟨log, []⟩ := nofun
  obtain ⟨-, hlog, hcourses⟩ := hsound.askAll (p := p) queries
  refine ⟨hlog, .transcriptOf fun e he => (hcourses e he).settled, fun e he => ?_⟩
  exact ⟨(hcourses e he).settled, (hcourses e he).told⟩

end Plugin
end CoverageWindows
