import CoverageWindows.Plugin.Script
import CoverageWindows.Proofs.Plugin.Exchanges

/-!
# What becomes of parsers

A processor of a library, or a decoder, is made, lists profiles, and is dropped.  The library hands
over at most one parser meanwhile.  A parser with both entries is destroyed once, by the last call
of all.  A parser without one of them is refused, and none of its entries is called: where it is the
one for listing that is missing, the parser could be destroyed but is left behind.

Main results:

- Theorems `coveredFiles_log` and `afterListing_log`: which calls a processor makes when it lists.
- Theorem `decoderUse_eq`: a decoder makes the calls of its processor.
- Theorem `parser_of_use`: whether a parser is destroyed, how often, and after what.
- Theorem `parser_left_behind`: a parser that could be destroyed is not.
-/

namespace CoverageWindows
namespace Plugin

/-! ## Calls of a parser -/

/-- The address of the parser whose entry a call is made of. -/
def Call.parser? : Call → Option Nat
  | coveredFiles address _ => some address
  | destroy address => some address
  | _ => none

/-- A call that the processor of a parser makes when it lists: the parser is asked, or a loan is
returned. -/
inductive Call.Listing (address : Nat) : Call → Prop where
  | asks (profile : Bytes) : Listing address (coveredFiles address profile)
  | returns {c : Call} (h : c.loan? ≠ none) : Listing address c

namespace Call.Listing

variable {address : Nat} {c : Call}

theorem ne_destroy (h : c.Listing address) (other : Nat) : c ≠ .destroy other := by
  rintro rfl
  cases h with
  | returns h => exact h rfl

theorem ne_createParser (h : c.Listing address) (images : List Bytes) :
    c ≠ .createParser images := by
  rintro rfl
  cases h with
  | returns h => exact h rfl

/-- A listing asks its own parser only. -/
theorem eq_of_parser? (h : c.Listing address) {other : Nat} (hc : c.parser? = some other) :
    other = address := by
  cases h with
  | asks profile => exact (Option.some.inj hc).symm
  | returns h => cases c <;> simp_all [loan?, parser?]

end Call.Listing

/-- Taking the text of an error only returns what was lent. -/
theorem takeError_log (text : Option ForeignText) (log : Log) :
    ∃ calls, (takeError text log).2 = log ++ calls ∧ ∀ c ∈ calls, c.loan? ≠ none := by
  cases text with
  | none => exact ⟨[], (List.append_nil _).symm, nofun⟩
  | some t => exact ⟨[.releaseText t], rfl, by simp [Call.loan?]⟩

/-- The calls of one listing. -/
theorem coveredFiles_log (address : Nat) (entry : Log → Bytes → FilesAnswer) (profile : Bytes)
    (log : Log) :
    ∃ calls, (coveredFiles address entry profile log).2 = log ++ calls ∧
      ∀ c ∈ calls, c.Listing address := by
  unfold coveredFiles
  split
  · exact ⟨[], (List.append_nil _).symm, nofun⟩
  · rename_i path hpath
    dsimp only
    split
    · rename_i l hanswer
      refine ⟨[.coveredFiles address path, .releaseFiles l], List.append_assoc .., ?_⟩
      simpa using ⟨.asks path, .returns (by simp [Call.loan?])⟩
    · rename_i text hanswer
      obtain ⟨calls, hlog, hcalls⟩ := takeError_log text (log ++ [.coveredFiles address path])
      refine ⟨.coveredFiles address path :: calls, hlog.trans (List.append_assoc ..), ?_⟩
      exact List.forall_mem_cons.2 ⟨.asks path, fun c hc => .returns (hcalls c hc)⟩

/-! ## Uses -/

/-- The log after a processor listed profiles, one after another. -/
def afterListing (x : Processor Log) (profiles : List (FileTree × Bytes)) (log : Log) : Log :=
  profiles.foldl (fun log profile => (x.coveredFiles profile.1 profile.2 log).2) log

/-- The log after a processor that was made has listed profiles and was dropped; where none is made,
the log after the attempt. -/
def afterUse (profiles : List (FileTree × Bytes)) : Except Complaint (Processor Log) × Log → Log
  | (.error _, log) => log
  | (.ok x, log) => x.release (afterListing x profiles log)

/-- The log after a processor was made, listed profiles, and was dropped. -/
def processorUse (p : Plugin) (images : List Bytes) (profiles : List (FileTree × Bytes))
    (log : Log) : Log :=
  afterUse profiles (p.create images log)

/-- The log after a decoder was made, decoded profiles, and was dropped; where none is made, the log
after the attempt. -/
def decoderUse (p : Plugin) (images : List Bytes) (profiles : List (FileTree × Bytes))
    (log : Log) : Log :=
  match Decoder.create p.backend images log with
  | (.error _, log) => log
  | (.ok d, log) =>
      d.processor.release
        (profiles.foldl (fun log profile => (d.decode profile.1 profile.2 log).2) log)

/-- Decoding leaves the library as the query for covered files does. -/
theorem decode_state {σ : Type} (d : Decoder σ) (t : FileTree) (profile : Bytes) (s : σ) :
    (d.decode t profile s).2 = (d.processor.coveredFiles t profile s).2 := by
  unfold Decoder.decode
  split <;> simp [*]

/-- A decoder makes the calls of its processor. -/
theorem decoderUse_eq (p : Plugin) (images : List Bytes) (profiles : List (FileTree × Bytes))
    (log : Log) : p.decoderUse images profiles log = p.processorUse images profiles log := by
  unfold decoderUse processorUse Decoder.create afterUse
  simp only [backend, decode_state]
  rcases p.create images log with ⟨_ | _, _⟩ <;> rfl

/-- The calls of listings one after another. -/
theorem afterListing_log (address : Nat) (entry : Log → Bytes → FilesAnswer)
    (profiles : List (FileTree × Bytes)) (log : Log) :
    ∃ calls, afterListing (processor address entry) profiles log = log ++ calls ∧
      ∀ c ∈ calls, c.Listing address := by
  induction profiles generalizing log with
  | nil => exact ⟨[], (List.append_nil _).symm, nofun⟩
  | cons profile rest ih =>
      obtain ⟨calls, hlog, hcalls⟩ := coveredFiles_log address entry profile.2 log
      obtain ⟨calls', hlog', hcalls'⟩ := ih (log ++ calls)
      refine ⟨calls ++ calls', ?_, ?_⟩
      · rw [← List.append_assoc, ← hlog', ← hlog]
        rfl
      · simpa [or_imp, forall_and] using ⟨hcalls, hcalls'⟩

/-! ## Parsers that are handed over -/

/-- A parser has both entries. -/
def ForeignParser.complete (q : ForeignParser) : Bool := q.coveredFiles.isSome && q.hasDestroy

/-- What calls do with a parser that was handed over meanwhile.  One with both entries is destroyed
once, by the last call; of one that lacks an entry no entry is called. -/
structure Disposed (q : ForeignParser) (calls : List Call) : Prop where
  count : calls.count (.destroy q.address) = if q.complete then 1 else 0
  last : .destroy q.address ∈ calls → calls.getLast? = some (.destroy q.address)
  own : ∀ c ∈ calls, ∀ address, c.parser? = some address → address = q.address
  incomplete : q.complete = false → ∀ c ∈ calls, c.parser? = none

namespace Disposed

variable {q : ForeignParser} {paths : List Bytes}

/-- A parser that lacks an entry is left behind. -/
theorem of_incomplete (h : q.complete = false) : Disposed q [.createParser paths] where
  count := by rw [h]; rfl
  last := by simp
  own := by simp [Call.parser?]
  incomplete _ := by simp [Call.parser?]

/-- A parser with both entries is asked while its processor lists, then destroyed. -/
theorem of_complete (h : q.complete = true) {listed : List Call}
    (hlisted : ∀ c ∈ listed, c.Listing q.address) :
    Disposed q (.createParser paths :: listed ++ [.destroy q.address]) where
  count := by
    have hnone : listed.count (.destroy q.address) = 0 :=
      List.count_eq_zero.2 fun hmem => (hlisted _ hmem).ne_destroy _ rfl
    simp [h, hnone]
  last _ := List.getLast?_concat
  own c hc address haddress := by
    rcases List.mem_append.1 hc with hc | hc
    · rcases List.mem_cons.1 hc with rfl | hc
      · nomatch haddress
      · exact (hlisted c hc).eq_of_parser? haddress
    · obtain rfl := List.mem_singleton.1 hc
      exact (Option.some.inj haddress).symm
  incomplete hincomplete := by simp [h] at hincomplete

end Disposed

/-- Where no parser is asked for, none is handed over. -/
theorem parsers_transcript_of_notMem (p : Plugin) (log : Log) {calls : List Call}
    (h : ∀ images, .createParser images ∉ calls) : (p.transcript none log calls).parsers = [] := by
  induction calls generalizing log with
  | nil => rfl
  | cons c rest ih =>
      have hgiven : (p.given none log c).bind Given.parser? = none := by
        cases c with
        | createParser images => exact absurd List.mem_cons_self (h images)
        | reset => simp [given, Given.parser?]
        | _ => rfl
      have hlater := ih (log ++ [c]) fun images hmem => h images (List.mem_cons_of_mem c hmem)
      simpa [transcript, Transcript.parsers, hgiven] using hlater

/-- Where a parser is asked for once, at first, at most the one of the answer is handed over. -/
theorem parsers_transcript (p : Plugin) (log : Log) (paths : List Bytes) {rest : List Call}
    (h : ∀ images, .createParser images ∉ rest) :
    (p.transcript none log (.createParser paths :: rest)).parsers =
      (Given.parser (p.createParser log paths)).parser?.toList := by
  have hlater := p.parsers_transcript_of_notMem (log ++ [.createParser paths]) h
  cases hparser : (Given.parser (p.createParser log paths)).parser? <;>
    simpa [transcript, Transcript.parsers, given, hparser] using hlater

/-- The calls of a use, told by what the making of its processor comes to. -/
theorem Creation.disposed {p : Plugin} {log : Log}
    {made : Except Complaint (Processor Log) × Log} (h : Creation p log made)
    (profiles : List (FileTree × Bytes)) :
    ∃ calls, afterUse profiles made = log ++ calls ∧
      ∀ q ∈ (p.transcript none log calls).parsers, Disposed q calls := by
  cases h with
  | unasked m => exact ⟨[], (List.append_nil _).symm, fun _ hq => absurd hq List.not_mem_nil⟩
  | @failed paths text h =>
      obtain ⟨calls, hlog, hcalls⟩ := takeError_log text (log ++ [.createParser paths])
      refine ⟨.createParser paths :: calls, hlog.trans (List.append_assoc ..), ?_⟩
      rw [parsers_transcript _ _ _ fun images hmem => hcalls _ hmem rfl, h]
      exact fun _ hq => absurd hq List.not_mem_nil
  | @null paths m h =>
      refine ⟨[.createParser paths], rfl, ?_⟩
      rw [parsers_transcript _ _ _ fun _ => List.not_mem_nil, h]
      exact fun _ hq => absurd hq List.not_mem_nil
  | @incomplete paths q m h hq =>
      refine ⟨[.createParser paths], rfl, ?_⟩
      rw [parsers_transcript _ _ _ fun _ => List.not_mem_nil, h]
      have hincomplete : q.complete = false := by
        rcases hq with hq | hq <;> simp [ForeignParser.complete, hq]
      simpa [Given.parser?] using Disposed.of_incomplete hincomplete
  | @complete paths q entry h hentry hdestroy =>
      obtain ⟨listed, hlog, hlisted⟩ :=
        afterListing_log q.address entry profiles (log ++ [.createParser paths])
      have hcomplete : q.complete = true := by simp [ForeignParser.complete, hentry, hdestroy]
      have hasked : ∀ images, .createParser images ∉ listed ++ [.destroy q.address] := by
        intro images
        have hnone : .createParser images ∉ listed :=
          fun hmem => (hlisted _ hmem).ne_createParser images rfl
        simp [hnone]
      refine ⟨.createParser paths :: listed ++ [.destroy q.address], ?_, ?_⟩
      · calc afterUse profiles (.ok (processor q.address entry), log ++ [.createParser paths])
            = afterListing (processor q.address entry) profiles (log ++ [.createParser paths]) ++
                [.destroy q.address] := rfl
          _ = log ++ (.createParser paths :: listed ++ [.destroy q.address]) := by simp [hlog]
      · rw [List.cons_append, parsers_transcript _ _ _ hasked, h]
        simpa [Given.parser?] using Disposed.of_complete hcomplete hlisted

/-- A processor, or a decoder, is made of a library, lists profiles, and is dropped; or none can be
made.  Both make the same calls.  A parser that is handed over meanwhile is destroyed once, by the
last call, if it has both entries; if it lacks one, no entry of it is called. -/
theorem parser_of_use (p : Plugin) (images : List Bytes) (profiles : List (FileTree × Bytes))
    (log : Log) :
    ∃ calls, p.processorUse images profiles log = log ++ calls ∧
      p.decoderUse images profiles log = log ++ calls ∧
      ∀ q ∈ (p.transcript none log calls).parsers, Disposed q calls := by
  obtain ⟨calls, hlog, hdisposed⟩ := (p.creation images log).disposed profiles
  exact ⟨calls, hlog, (p.decoderUse_eq images profiles log).trans hlog, hdisposed⟩

/-- A library whose parsers can be destroyed, but not asked for files. -/
def Script.withoutListing : Script where
  version := some (Text.toBytes "19.1.5")
  hasTable := true
  hasCreateParser := true
  hasReleaseFiles := true
  hasReleaseText := true
  parser := .noCoveredFiles
  reset := none
  profiles := []

/-- A parser that can be destroyed, but not asked for files, is refused and never destroyed. -/
theorem parser_left_behind :
    ∃ p q, ofTable .llvm19 Script.withoutListing.table = .ok p ∧
      p.createParser [] [Text.toBytes "/bin/app"] = .parser (some q) ∧ q.hasDestroy = true ∧
      p.processorUse [Text.toBytes "/bin/app"] [] [] = [.createParser [Text.toBytes "/bin/app"]] ∧
      p.decoderUse [Text.toBytes "/bin/app"] [] [] = [.createParser [Text.toBytes "/bin/app"]] := by
  refine ⟨⟨.llvm19, Text.lossy (Text.toBytes "19.1.5"), Script.withoutListing.parserAnswer, none⟩,
    ⟨1, none, true⟩, rfl, rfl, rfl, ?_, ?_⟩ <;> decide

end Plugin
end CoverageWindows
