import CoverageWindows.Proofs.Files.Inside
import CoverageWindows.Proofs.Plugin.Parsers
import CoverageWindows.Proofs.Snapshot.Keys

/-!
# What a decoder answers for a profile

A decoder of a library asks it for the files of a profile.  The path has to be text without a byte
zero, or the library is not asked.  An error is told in the words of the library.  A list of files
becomes a snapshot: the marks of each file are made into spans, of which the last one at a place
stands, and the spans of files of one name are summed.

Main results:

- Theorem `DecodedFile.totals_ofDecoded`: a snapshot of decoded files sums up what their marks
  yield.
- Theorem `summed_ofDecoded`: the snapshot of a foreign list, in terms of the list.
- Theorem `decoding_of_answers`: what a decoder answers for every path and every answer of a
  library.
-/

namespace CoverageWindows

/-! ## Snapshots of decoded files -/

namespace DecodedFile

/-- How often a span of a decoded file has run, if the marks of the file yield it. -/
def count? (f : DecodedFile) (k : Span) : Option Count :=
  ((Mark.reconstruct f.marks).get? k).map CountedSpan.count

/-- The counts that decoded files of a name give a span. -/
def counts (fs : List DecodedFile) (name : String) (k : Span) : List Count :=
  fs.filterMap fun f => if f.name = name then f.count? k else none

/-- A decoded file as it is listed: its name, and the spans that its marks yield. -/
def listed (f : DecodedFile) : ListedFile := f.report.listed

/-- A decoded file lists a span at most once. -/
theorem counts_listed (f : DecodedFile) (k : Span) : f.listed.counts k = (f.count? k).toList := by
  have hvalues := (Mark.keyedBy_reconstruct f.marks).filter_values k
  calc f.listed.counts k
      = ((Mark.reconstruct f.marks).get? k).toList.map CountedSpan.count :=
        congrArg (List.map CountedSpan.count) hvalues
    _ = (f.count? k).toList := by rw [count?, Option.toList_map]

theorem listedCounts_map_listed (fs : List DecodedFile) (name : String) (k : Span) :
    listedCounts (fs.map listed) name k = counts fs name k := by
  induction fs with
  | nil => rfl
  | cons f fs ih =>
      rw [List.map_cons, listedCounts_cons, ih, counts_listed]
      change (if f.name = name then (f.count? k).toList else []) ++ counts fs name k = _
      by_cases hname : f.name = name
      · cases hcount : f.count? k <;> simp [counts, hname, hcount]
      · simp [counts, hname]

/-- Decoded files are collected as a list of files is. -/
theorem ofDecoded_eq_ofListing (fs : List DecodedFile) :
    Snapshot.ofDecoded fs = Snapshot.ofListing (fs.map listed) := by
  have hreports : (fs.map listed).map ListedFile.report = fs.map report := by
    rw [List.map_map]
    exact List.map_congr_left fun f _ => FileReport.ofSpans_values f.wellKeyed_report
  rw [Snapshot.ofDecoded, Snapshot.ofListing, hreports]

/-- A snapshot of decoded files sums up what their marks yield. -/
theorem totals_ofDecoded (fs : List DecodedFile) :
    (Snapshot.ofDecoded fs).Totals (fs.map listed) := by
  rw [ofDecoded_eq_ofListing]
  exact Snapshot.totals_ofListing _

/-- A snapshot of decoded files gives each span the total of its counts. -/
theorem count?_ofDecoded (fs : List DecodedFile) (name : String) (k : Span) :
    (Snapshot.ofDecoded fs).count? name k = Count.total? (counts fs name k) := by
  rw [(totals_ofDecoded fs).count, listedCounts_map_listed]

/-- A decoded file has a report, whether or not its marks yield anything. -/
theorem isSome_file?_ofDecoded (fs : List DecodedFile) (name : String) :
    ((Snapshot.ofDecoded fs).file? name).isSome ↔ ∃ f ∈ fs, f.name = name := by
  rw [(totals_ofDecoded fs).file]
  simp only [List.mem_map, exists_exists_and_eq_and]
  rfl

end DecodedFile

namespace Plugin

/-! ## Lists that a library hands over -/

/-- The elements of a foreign array that count: none where the array is null. -/
def counted {α : Type} (array : Option (List α)) (count : Nat) : List α :=
  (array.getD []).take count

theorem elements_eq_counted {α : Type} (array : Option (List α)) (count : Nat) :
    elements array count = counted array count := by
  cases array <;> simp [elements, counted]

namespace ForeignFile

/-- The name of a foreign file as text; a null name is the empty one. -/
def title (f : ForeignFile) : String := (f.name.map Text.lossy).getD ""

/-- How often a span of a foreign file has run, if its marks yield it. -/
def count? (f : ForeignFile) (k : Span) : Option Count :=
  ((Mark.reconstruct (counted f.marks f.markCount)).get? k).map CountedSpan.count

end ForeignFile

namespace ForeignFiles

/-- The files of a foreign list that count. -/
def listed (l : ForeignFiles) : List ForeignFile := counted l.files l.count

/-- The counts that the files of a name give a span. -/
def counts (l : ForeignFiles) (name : String) (k : Span) : List Count :=
  l.listed.filterMap fun f => if f.title = name then f.count? k else none

/-- A snapshot has one file for each name in a foreign list, and each span of it that the marks of a
file of that name yield, with the sum of their counts, or the greatest count if that is less. -/
structure Summed (l : ForeignFiles) (x : Snapshot) : Prop where
  nodup : (x.files.values.map FileReport.name).Nodup
  mem_names : ∀ name, name ∈ x.files.values.map FileReport.name ↔ ∃ f ∈ l.listed, f.title = name
  keyed : ∀ name report, x.file? name = some report →
    report.name = name ∧ ∀ k s, report.get? k = some s → s.span = k
  isSome_count : ∀ name k, (x.count? name k).isSome ↔
    ∃ f ∈ l.listed, f.title = name ∧ (f.count? k).isSome
  count : ∀ name k c, x.count? name k = some c →
    c.toNat = min ((l.counts name k).map UInt64.toNat).sum (2 ^ 64 - 1)

/-- The files of a list are copied one by one. -/
theorem copyFiles_eq (l : ForeignFiles) :
    copyFiles l = l.listed.map fun f => ⟨f.title, counted f.marks f.markCount⟩ := by
  rw [copyFiles, elements_eq_counted]
  refine List.map_congr_left fun f _ => ?_
  rw [copyFile, elements_eq_counted]
  rfl

/-- Copying keeps the counts of each span. -/
theorem counts_copyFiles (l : ForeignFiles) (name : String) (k : Span) :
    DecodedFile.counts (copyFiles l) name k = l.counts name k := by
  rw [copyFiles_eq, DecodedFile.counts, List.filterMap_map]
  rfl

/-- A span has counts if a listed file of that name counts it. -/
theorem counts_ne_nil_iff (l : ForeignFiles) (name : String) (k : Span) :
    l.counts name k ≠ [] ↔ ∃ f ∈ l.listed, f.title = name ∧ (f.count? k).isSome := by
  have hmem : ∀ c, c ∈ l.counts name k ↔ ∃ f ∈ l.listed, f.title = name ∧ f.count? k = some c := by
    simp [counts, List.mem_filterMap, Option.ite_none_right_eq_some]
  constructor
  · intro h
    obtain ⟨c, hc⟩ := List.exists_mem_of_ne_nil _ h
    obtain ⟨f, hf, hname, hcount⟩ := (hmem c).1 hc
    exact ⟨f, hf, hname, Option.isSome_of_eq_some hcount⟩
  · rintro ⟨f, hf, hname, hsome⟩
    obtain ⟨c, hcount⟩ := Option.isSome_iff_exists.1 hsome
    exact List.ne_nil_of_mem ((hmem c).2 ⟨f, hf, hname, hcount⟩)

/-- The snapshot of the copies of a foreign list. -/
theorem summed_ofDecoded (l : ForeignFiles) : l.Summed (Snapshot.ofDecoded (copyFiles l)) := by
  have hkeyed : (Snapshot.ofDecoded (copyFiles l)).WellKeyed := Snapshot.wellKeyed_ofDecoded _
  have hnames : (Snapshot.ofDecoded (copyFiles l)).files.values.map FileReport.name =
      (Snapshot.ofDecoded (copyFiles l)).files.keys := by
    rw [Table.values, Table.keys, List.map_map]
    exact List.map_congr_left fun e he => (hkeyed.keyed e he).symm
  have hcount : ∀ name k, (Snapshot.ofDecoded (copyFiles l)).count? name k =
      Count.total? (l.counts name k) := by
    intro name k
    rw [DecodedFile.count?_ofDecoded, counts_copyFiles]
  constructor
  · rw [hnames]
    exact Table.nodup_keys hkeyed.ordered
  · intro name
    rw [hnames, Table.mem_keys_iff hkeyed.ordered, ← Option.isSome_iff_exists]
    refine (DecodedFile.isSome_file?_ofDecoded _ name).trans ?_
    simp only [copyFiles_eq, List.mem_map, exists_exists_and_eq_and]
  · intro name report hreport
    refine ⟨hkeyed.name_of_file? hreport, fun k s hs => ?_⟩
    exact ((FileReport.wellKeyed_iff report).1 (hkeyed.file hreport)).key_of_get? hs
  · intro name k
    rw [hcount, Count.total?, ← counts_ne_nil_iff]
    cases l.counts name k <;> simp
  · intro name k c hc
    rw [hcount, Count.total?_eq_some_iff] at hc
    rw [hc.2, Count.toNat_total]
    rfl

end ForeignFiles

/-! ## Paths that a library takes -/

/-- A path that is no text, or has a byte zero, is refused. -/
theorem foreignPath_of_unfit {path : Bytes}
    (h : (∀ text, Text.toBytes text ≠ path) ∨ (0 : UInt8) ∈ path) :
    ∃ m, foreignPath path = .error (.refused m) := by
  rw [foreignPath]
  split
  · exact ⟨_, rfl⟩
  · rename_i htext
    rw [Option.isNone_iff_eq_none, ← ne_eq, Option.ne_none_iff_exists'] at htext
    obtain ⟨text, htext⟩ := htext
    rcases h with h | h
    · exact absurd (Text.ofBytes?_eq_some_iff.1 htext) (h text)
    · cases hzero : path.findIdx? (· == 0) with
      | none =>
          rw [List.findIdx?_eq_none_iff] at hzero
          simpa using hzero 0 h
      | some i => exact ⟨_, rfl⟩

/-- Any other path is handed over as it is. -/
theorem foreignPath_toBytes {text : String} (h : (0 : UInt8) ∉ Text.toBytes text) :
    foreignPath (Text.toBytes text) = .ok (Text.toBytes text) := by
  have hzero : (Text.toBytes text).findIdx? (· == 0) = none := by
    rw [List.findIdx?_eq_none_iff]
    intro b hb
    rw [beq_eq_false_iff_ne]
    rintro rfl
    exact h hb
  rw [foreignPath, Text.ofBytes?_toBytes, hzero]
  rfl

/-! ## Decoders -/

section Decoders

variable {p : Plugin} {images : List Bytes} {address : Nat} {entry : Log → Bytes → FilesAnswer}

/-- The decoder of a parser with both entries. -/
def decoder (p : Plugin) (images : List Bytes) (address : Nat)
    (entry : Log → Bytes → FilesAnswer) : Decoder Log :=
  ⟨p.backend, processor address entry, images⟩

/-- A decoder that a library was asked for is that of the parser that it handed over. -/
theorem eq_decoder_of_create {log log' : Log} {d : Decoder Log}
    (h : Decoder.create p.backend images log = (.ok d, log')) :
    ∃ paths q entry, p.createParser log paths = .parser (some q) ∧ q.coveredFiles = some entry ∧
      d = decoder p images q.address entry := by
  have hmade := p.creation images log
  have hcreate : p.backend.create images log = p.create images log := rfl
  rw [Decoder.create, hcreate] at h
  generalize p.create images log = made at hmade h
  cases hmade with
  | @complete paths q entry hparser hentry hdestroy =>
      exact ⟨paths, q, entry, hparser, hentry, (Except.ok.inj (Prod.mk.inj h).1).symm⟩
  | _ => nomatch (Prod.mk.inj h).1

/-- A path that is no text or has a zero byte is not decoded, and the library is not asked. -/
theorem decode_of_unfit {path : Bytes}
    (h : (∀ text, Text.toBytes text ≠ path) ∨ (0 : UInt8) ∈ path) (tree : FileTree) (log : Log) :
    ∃ m, (decoder p images address entry).decode tree path log =
      (.error (.undecodable m), log) := by
  obtain ⟨m, hm⟩ := foreignPath_of_unfit h
  refine ⟨m, ?_⟩
  simp [decoder, Decoder.decode, processor, coveredFiles, hm, Complaint.toFailure]

/-- A failure of the library is told by its text; without a text it is a breach of contract. -/
theorem decode_of_failed {text : String} (h : (0 : UInt8) ∉ Text.toBytes text) {log : Log}
    {error : Option ForeignText} (hentry : entry log (Text.toBytes text) = .failed error)
    (tree : FileTree) :
    ((decoder p images address entry).decode tree (Text.toBytes text) log).1 =
      .error (match error with
        | none => .backendBroken
        | some t => .undecodable (Text.lossy t.bytes)) := by
  cases error <;>
    simp [decoder, Decoder.decode, processor, coveredFiles, foreignPath_toBytes h, hentry,
      takeError, Complaint.toFailure]

/-- The files of the library are copied and collected. -/
theorem decode_of_files {text : String} (h : (0 : UInt8) ∉ Text.toBytes text) {log : Log}
    {l : ForeignFiles} (hentry : entry log (Text.toBytes text) = .files l) (tree : FileTree) :
    ((decoder p images address entry).decode tree (Text.toBytes text) log).1 =
      .ok (Snapshot.ofDecoded (copyFiles l)) := by
  simp [decoder, Decoder.decode, processor, coveredFiles, foreignPath_toBytes h, hentry]

end Decoders

/-- What the decoder of a library answers for a profile.  The library has handed over a parser,
whose entry for listing is asked.  A path that is no text, or has a byte zero, is refused, and the
library is not asked.  An error is told with its text, bytes that are no text replaced; an error
flag without a text is a breach.  A list of files gives a snapshot that sums it up. -/
theorem decoding_of_answers (p : Plugin) (images : List Bytes) (log : Log) {log' : Log}
    {d : Decoder Log} (h : Decoder.create p.backend images log = (.ok d, log')) :
    ∃ paths q entry, p.createParser log paths = .parser (some q) ∧ q.coveredFiles = some entry ∧
      ∀ (tree : FileTree) (path : Bytes) (log : Log),
        ((∀ text, Text.toBytes text ≠ path) ∨ (0 : UInt8) ∈ path →
          ∃ m, d.decode tree path log = (.error (.undecodable m), log)) ∧
        ((∃ text, Text.toBytes text = path) → (0 : UInt8) ∉ path →
          (entry log path = .failed none → (d.decode tree path log).1 = .error .backendBroken) ∧
          (∀ t, entry log path = .failed (some t) →
            (d.decode tree path log).1 = .error (.undecodable (Text.lossy t.bytes))) ∧
          ∀ l, entry log path = .files l →
            ∃ x, (d.decode tree path log).1 = .ok x ∧ l.Summed x) := by
  obtain ⟨paths, q, entry, hparser, hentry, rfl⟩ := eq_decoder_of_create h
  refine ⟨paths, q, entry, hparser, hentry, fun tree path log => ⟨?_, ?_⟩⟩
  · intro hunfit
    exact decode_of_unfit hunfit tree log
  · rintro ⟨text, rfl⟩ hzero
    refine ⟨?_, ?_, ?_⟩
    · intro hanswer
      exact decode_of_failed hzero hanswer tree
    · intro t hanswer
      exact decode_of_failed hzero hanswer tree
    · intro l hanswer
      exact ⟨_, decode_of_files hzero hanswer tree, l.summed_ofDecoded⟩

/-- A library that lists one name twice, with counts whose sum is too great, and a null name. -/
def Script.repeating : Script where
  version := none
  hasTable := true
  hasCreateParser := true
  hasReleaseFiles := true
  hasReleaseText := true
  parser := .complete
  reset := none
  profiles := [(Text.toBytes "w", .files (some
    [⟨some (Text.toBytes "a"), some [.entry 1 1 Count.top, .ending 2 1], 2⟩, ⟨none, none, 3⟩,
      ⟨some (Text.toBytes "a"), some [.entry 1 1 7, .ending 2 1], 2⟩]) 3)]

/-- The two files of one name are summed, up to the greatest count; the file without a name has no
spans. -/
theorem decoding_of_answers_repeating :
    ∃ p d log, ofTable .llvm19 Script.repeating.table = .ok p ∧
      Decoder.create p.backend [] [] = (.ok d, log) ∧
      ∀ tree, ∃ x, (d.decode tree (Text.toBytes "w") log).1 = .ok x ∧
        (∀ name, name ∈ x.files.values.map FileReport.name ↔ name = "a" ∨ name = "") ∧
        x.count? "a" ⟨1, 1, 2, 1⟩ = some Count.top ∧ ∀ k, x.count? "" k = none := by
  let p : Plugin := ⟨.llvm19, "", Script.repeating.parserAnswer, none⟩
  let l : ForeignFiles := ⟨2, some
    [⟨some (Text.toBytes "a"), some [.entry 1 1 Count.top, .ending 2 1], 2⟩, ⟨none, none, 3⟩,
      ⟨some (Text.toBytes "a"), some [.entry 1 1 7, .ending 2 1], 2⟩], 3⟩
  have hcreate : Decoder.create p.backend [] [] =
      (.ok (decoder p [] 1 Script.repeating.filesAnswer), [.createParser []]) := rfl
  refine ⟨p, _, _, rfl, hcreate, fun tree => ?_⟩
  obtain ⟨paths, q, entry, hparser, hentry, hdecode⟩ := decoding_of_answers p [] [] hcreate
  have hanswer : entry [.createParser []] (Text.toBytes "w") = .files l := by
    obtain rfl := Option.some.inj (ParserAnswer.parser.inj hparser)
    obtain rfl := Option.some.inj hentry
    decide
  obtain ⟨x, hx, hsummed⟩ :=
    ((hdecode tree (Text.toBytes "w") [.createParser []]).2 ⟨"w", rfl⟩ (by decide)).2.2 l hanswer
  refine ⟨x, hx, fun name => ?_, ?_, fun k => ?_⟩
  · rw [hsummed.mem_names]
    have htitles : l.listed.map ForeignFile.title = ["a", "", "a"] := by decide
    have hmem : (∃ f ∈ l.listed, f.title = name) ↔ name ∈ ["a", "", "a"] := by
      rw [← htitles, List.mem_map]
    rw [hmem]
    simp only [List.mem_cons, List.not_mem_nil, or_false]
    tauto
  · have hsome : (x.count? "a" ⟨1, 1, 2, 1⟩).isSome := by
      rw [hsummed.isSome_count, ← ForeignFiles.counts_ne_nil_iff]
      decide
    obtain ⟨c, hc⟩ := Option.isSome_iff_exists.1 hsome
    have hsum := hsummed.count _ _ c hc
    have htotal : ((l.counts "a" ⟨1, 1, 2, 1⟩).map UInt64.toNat).sum = 2 ^ 64 + 6 := by decide
    rw [htotal] at hsum
    rw [hc]
    exact congrArg some (UInt64.toNat_inj.1 hsum)
  · rw [← Option.not_isSome_iff_eq_none, hsummed.isSome_count]
    rintro ⟨f, hf, hname, hk⟩
    have hnull : ∀ f ∈ l.listed, f.title = "" → f = ⟨none, none, 3⟩ := by decide
    rw [hnull f hf hname] at hk
    nomatch hk

end Plugin
end CoverageWindows
