import CoverageWindows.Proofs.Snapshot.ListingDocument

/-!
# Snapshots through documents

A snapshot is written as the list of its files, and each file as the list of its spans.  Reading
sums such lists up again; the keys of a snapshot in good order are all different, so that nothing is
summed and the same snapshot comes back, from either layout.  Whatever a document lists, the
snapshot that is read from it is in good order, and so survives being written and read again.

Main results:

- Theorem `Snapshot.ofListing_listing`: a snapshot in good order is the snapshot of its own list.
- Theorem `Snapshot.ofDocument_document`: a snapshot in good order is read back from its document.
- Theorem `Snapshot.wellKeyed_of_ofDocument`: what is read from a document is in good order.
- Theorem `document_round_trip`: snapshots and all their parts are read back in either layout, and
  what was read from any document is read back from what is written for it.
-/

namespace CoverageWindows

open Json

/-! ## Files as lists of spans -/

namespace FileReport

/-- A file in good order is the file of its own spans. -/
theorem ofSpans_values {f : FileReport} (hf : f.WellKeyed) : ofSpans f.name f.spans.values = f := by
  have hempty := wellKeyed_empty f.name
  have hmerge : ofSpans f.name f.spans.values = (empty f.name).merge f := rfl
  rw [hmerge]
  refine ext_count? (hempty.merge f) hf (name_merge (empty f.name) f) fun k => ?_
  have hnone : (empty f.name).count? k = none := rfl
  rw [count?_merge hempty hf, hnone, Option.merge_none_left]

/-- A file in good order is read back from what is written for it. -/
theorem undoes_writer {f : FileReport} (hf : f.WellKeyed) :
    Undoes FileReport.form.read f.writer f := by
  have hmade : FileReport.form.finish ⟨some f.name, some f.spans.values⟩ = .ok f := by
    change Except.ok (ofSpans f.name f.spans.values) = .ok f
    rw [ofSpans_values hf]
  refine RecordForm.undoes_writeObject (d := ⟨some f.name, some f.spans.values⟩) ?_ hmade
  exact .field "name" rfl rfl (undoes_ofReader (undoes_writeString _ _) _ _)
    (.field "segments" rfl rfl
      (undoes_ofReader (undoes_writeList_map CountedSpan.undoes_writer _) _ _) (.done _))

/-- A file as it lists itself: its name, and its spans in their order. -/
def listed (f : FileReport) : ListedFile := ⟨f.name, f.spans.values⟩

end FileReport

/-! ## Snapshots as lists of files -/

namespace Snapshot

/-- The files of a snapshot, in their order. -/
def listing (s : Snapshot) : List ListedFile := s.files.values.map FileReport.listed

/-- A snapshot is written as the list of its files. -/
theorem document_eq (s : Snapshot) (l : Layout) : s.document l = listingDocument s.listing l := by
  have hfiles : s.files.values.map FileReport.writer = s.listing.map ListedFile.writer := by
    rw [listing, List.map_map]
    rfl
  rw [document, writer, hfiles]
  rfl

/-- A snapshot in good order is the snapshot of its own list. -/
theorem ofListing_listing {s : Snapshot} (hs : s.WellKeyed) : ofListing s.listing = s := by
  have hreports : s.listing.map ListedFile.report = s.files.values := by
    rw [listing, List.map_map]
    refine (List.map_congr_left fun f hf => ?_).trans (List.map_id _)
    rcases List.mem_map.1 hf with ⟨e, he, rfl⟩
    exact FileReport.ofSpans_values (hs.files e he)
  rw [ofListing, hreports]
  exact empty_merge hs

/-- A snapshot in good order is read back from its document. -/
theorem ofDocument_document {s : Snapshot} (hs : s.WellKeyed) (l : Layout) :
    ofDocument (s.document l) = .ok s := by
  rw [document_eq, ofDocument_eq, readListing_listingDocument]
  change Except.ok (ofListing s.listing) = .ok s
  rw [ofListing_listing hs]

/-- What is read from a document is in good order. -/
theorem wellKeyed_of_ofDocument {text : String} {s : Snapshot} (h : ofDocument text = .ok s) :
    s.WellKeyed := by
  rw [ofDocument_eq] at h
  cases hlist : readListing text with
  | error f => simp [hlist, Except.map] at h
  | ok l =>
      rw [hlist] at h
      obtain rfl : ofListing l = s := Except.ok.inj h
      exact (totals_ofListing l).wellKeyed

end Snapshot

/-! ## Both ways -/

/-- In either layout, a snapshot in good order is read back from its document, and so are files in
good order, counted spans and spans from what is written for them alone.  What was read from any
document is read back from the document that is written for it, so that reading and writing once
more changes nothing. -/
theorem document_round_trip :
    (∀ s : Snapshot, s.WellKeyed → ∀ l, Snapshot.ofDocument (s.document l) = .ok s) ∧
    (∀ f : FileReport, f.WellKeyed → ∀ l,
      readDocument FileReport.form.read (Json.document f.writer l).toList = .ok f) ∧
    (∀ (s : CountedSpan) l,
      readDocument CountedSpan.form.read (Json.document s.writer l).toList = .ok s) ∧
    (∀ (s : Span) l, readDocument Span.form.read (Json.document s.writer l).toList = .ok s) ∧
    (∀ text s, Snapshot.ofDocument text = .ok s → ∀ l,
      Snapshot.ofDocument (s.document l) = .ok s) ∧
    ∀ text rewritten l, (Snapshot.ofDocument text).map (·.document l) = .ok rewritten →
      (Snapshot.ofDocument rewritten).map (·.document l) = .ok rewritten := by
  have hread : ∀ text s, Snapshot.ofDocument text = .ok s → ∀ l,
      Snapshot.ofDocument (s.document l) = .ok s :=
    fun _ _ h => Snapshot.ofDocument_document (Snapshot.wellKeyed_of_ofDocument h)
  refine ⟨fun s hs => Snapshot.ofDocument_document hs,
    fun f hf => readDocument_document (FileReport.undoes_writer hf),
    fun s => readDocument_document s.undoes_writer,
    fun s => readDocument_document s.undoes_writer, hread, ?_⟩
  intro text rewritten l h
  cases hs : Snapshot.ofDocument text with
  | error f => simp [hs, Except.map] at h
  | ok s =>
      rw [hs] at h
      obtain rfl : s.document l = rewritten := Except.ok.inj h
      rw [hread text s hs l]
      rfl

/-- A name with a quote, a backslash, a control, a line break and a character of two UTF-16 units,
and the greatest numbers. -/
theorem document_round_trip_escapes :
    let s := Snapshot.ofFiles [.ofSpans "a\"b\\c\x01\nd😀" [⟨⟨0, 1, 4294967295, 7⟩, Count.top⟩]]
    s.WellKeyed ∧
      s.document .compact =
        "\x7b\"files\":[\x7b\"name\":\"a\\\"b\\\\c\\u0001\\nd😀\",\"segments\":[\x7b\"location\":" ++
        "\x7b\"startLine\":0,\"startColumn\":1,\"endLine\":4294967295,\"endColumn\":7\x7d," ++
        "\"count\":18446744073709551615\x7d]\x7d]\x7d" ∧
      Snapshot.ofDocument (s.document .compact) = .ok s ∧
      Snapshot.ofDocument (s.document .indented) = .ok s := by
  intro s
  have hs : s.WellKeyed := Snapshot.wellKeyed_ofFiles (by simp [FileReport.wellKeyed_ofSpans])
  have hback := document_round_trip.1 s hs
  exact ⟨hs, by decide +kernel, hback .compact, hback .indented⟩

end CoverageWindows
