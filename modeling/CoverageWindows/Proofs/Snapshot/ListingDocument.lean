import CoverageWindows.Proofs.Json.Mapped
import CoverageWindows.Proofs.Json.Written
import CoverageWindows.Proofs.Snapshot.Listing
import CoverageWindows.Snapshot.Document

/-!
# Listed files as documents

A document may list files and spans in any order and with repetitions.  Reading it as a list keeps
all of that; reading it as a snapshot sums it up.  The two readings go along the text in the same
way, so a document is read as the snapshot of the files that it lists, and every list of files has
documents.

Main results:

- Theorem `ofDocument_eq`: the snapshot of a document is the snapshot of the list in it.
- Theorem `readListing_listingDocument`: a list is read back from its document.
- Theorem `snapshot_of_listing`: building, feeding and reading give the one snapshot of a list, in
  which each span has the total of its listed counts.
-/

namespace CoverageWindows

open Json

/-! ## Writing a list of files -/

/-- A listed file as an object of its name and its spans. -/
def ListedFile.writer (f : ListedFile) : Writer :=
  writeObject
    [("name", writeString f.name), ("segments", writeList (f.spans.map CountedSpan.writer))]

/-- The document that lists files. -/
def listingDocument (l : List ListedFile) (layout : Layout) : String :=
  Json.document (writeObject [("files", writeList (l.map ListedFile.writer))]) layout

/-! ## Reading a list of files -/

/-- The written form of a listed file, of which nothing is summed. -/
def ListedFile.form : RecordForm FileReport.Draft ListedFile where
  title := FileReport.form.title
  fields := FileReport.form.fields
  start := FileReport.form.start
  finish d := do
    let name ← need "name" d.name
    let spans ← need "segments" d.spans
    return ⟨name, spans⟩

/-- The list of files that is read so far. -/
structure ListingDraft where
  files : Option (List ListedFile)

/-- The written form of a list of files. -/
def listingForm : RecordForm ListingDraft (List ListedFile) where
  title := "CoverageInfo"
  fields :=
    [.ofReader "files" ListingDraft.files (fun d fs => { d with files := some fs })
        (readList ListedFile.form.read)]
  start := ⟨none⟩
  finish d := need "files" d.files

/-- The files that a document lists. -/
def readListing (text : String) : Except Stop (List ListedFile) :=
  readDocument listingForm.read text.toList

/-! ## A list is read as its snapshot -/

/-- A listed file is read as a file report is, which sums up what it lists. -/
theorem ListedFile.maps_form : ListedFile.form.Maps FileReport.form id ListedFile.report := by
  refine ⟨rfl, rfl, ?_, ?_⟩
  · refine List.forall₂_same.2 fun x _ => ⟨rfl, fun _ => rfl, fun d => ?_⟩
    exact maps_self (x.read d)
  · rintro ⟨name, spans⟩
    cases name <;> cases spans <;> rfl

/-- A list of files is read as a snapshot is, which sums up what it lists. -/
theorem maps_listingForm :
    listingForm.Maps Snapshot.form (fun d => ⟨d.files.map (List.map ListedFile.report)⟩)
      Snapshot.ofListing := by
  refine ⟨rfl, rfl, .cons ?_ .nil, ?_⟩
  · exact Field.maps_ofReader "files" (fun _ => rfl) (fun _ _ => rfl)
      ListedFile.maps_form.read.readList
  · rintro ⟨files⟩
    cases files <;> rfl

/-- The snapshot of a document is the snapshot of the files that it lists; a document that lists no
files for some fault is no snapshot for the same fault. -/
theorem ofDocument_eq (text : String) :
    Snapshot.ofDocument text = (readListing text).map Snapshot.ofListing :=
  readDocument_maps maps_listingForm.read text.toList

/-! ## A list is read back -/

theorem Span.undoes_writer (s : Span) : Undoes Span.form.read s.writer s := by
  refine RecordForm.undoes_writeObject
    (d := ⟨some s.startLine, some s.startColumn, some s.endLine, some s.endColumn⟩) ?_ rfl
  exact .field "startLine" rfl rfl (undoes_ofReader (undoes_writeNatural_u32 _) _ _)
    (.field "startColumn" rfl rfl (undoes_ofReader (undoes_writeNatural_u32 _) _ _)
      (.field "endLine" rfl rfl (undoes_ofReader (undoes_writeNatural_u32 _) _ _)
        (.field "endColumn" rfl rfl (undoes_ofReader (undoes_writeNatural_u32 _) _ _) (.done _))))

theorem CountedSpan.undoes_writer (s : CountedSpan) : Undoes CountedSpan.form.read s.writer s := by
  refine RecordForm.undoes_writeObject (d := ⟨some s.span, some s.count⟩) ?_ rfl
  exact .field "location" rfl rfl (undoes_ofReader s.span.undoes_writer _ _)
    (.field "count" rfl rfl (undoes_ofReader (undoes_writeNatural_u64 _) _ _) (.done _))

/-- Items that are undone by one reader make a list that is undone. -/
theorem undoes_writeList_map {α : Type} {item : Reader α} {w : α → Writer}
    (h : ∀ a, Undoes item (w a) a) (as : List α) :
    Undoes (readList item) (writeList (as.map w)) as := by
  refine undoes_writeList ?_
  rw [List.forall₂_map_left_iff]
  exact List.forall₂_same.2 fun a _ => h a

theorem ListedFile.undoes_writer (f : ListedFile) : Undoes ListedFile.form.read f.writer f := by
  refine RecordForm.undoes_writeObject (d := ⟨some f.name, some f.spans⟩) ?_ rfl
  exact .field "name" rfl rfl (undoes_ofReader (undoes_writeString _ _) _ _)
    (.field "segments" rfl rfl
      (undoes_ofReader (undoes_writeList_map CountedSpan.undoes_writer _) _ _) (.done _))

/-- A list of files is read back from its document, in either layout. -/
theorem readListing_listingDocument (l : List ListedFile) (layout : Layout) :
    readListing (listingDocument l layout) = .ok l := by
  refine readDocument_document ?_ layout
  refine RecordForm.undoes_writeObject (d := ⟨some l⟩) ?_ rfl
  exact .field "files" rfl rfl
    (undoes_ofReader (undoes_writeList_map ListedFile.undoes_writer l) _ _) (.done _)

/-! ## The one snapshot of a list -/

/-- Whatever the order of files and spans, and whatever is repeated: collecting the reports of a
list, feeding them in calls of any size, and reading any document that lists them (as the documents
of the list do) give one snapshot.  It knows the names that are listed and the spans that are listed
under them, and gives each span the sum of its listed counts, cut off at the top. -/
theorem snapshot_of_listing (l : List ListedFile) :
    (∀ feeds, Rearranged l (feeds.flatMap Snapshot.Feed.files) →
      Snapshot.ofFeeds feeds = Snapshot.ofListing l) ∧
    (∀ m, Rearranged l m → Snapshot.ofListing m = Snapshot.ofListing l) ∧
    (∀ text, readListing text = .ok l → Snapshot.ofDocument text = .ok (Snapshot.ofListing l)) ∧
    (∀ layout, readListing (listingDocument l layout) = .ok l ∧
      Snapshot.ofDocument (listingDocument l layout) = .ok (Snapshot.ofListing l)) ∧
    (∀ name, ((Snapshot.ofListing l).file? name).isSome ↔ ∃ f ∈ l, f.name = name) ∧
    (∀ name k, ((Snapshot.ofListing l).count? name k).isSome ↔
      ∃ f ∈ l, f.name = name ∧ ∃ s ∈ f.spans, s.span = k) ∧
    ∀ name k c, (Snapshot.ofListing l).count? name k = some c →
      c.toNat = min ((listedCounts l name k).map UInt64.toNat).sum 18446744073709551615 := by
  have htotals := Snapshot.totals_ofListing l
  have hread : ∀ text, readListing text = .ok l →
      Snapshot.ofDocument text = .ok (Snapshot.ofListing l) := by
    intro text htext
    rw [ofDocument_eq, htext]
    rfl
  refine ⟨?_, ?_, hread, ?_, htotals.file, ?_, ?_⟩
  · intro feeds h
    exact Snapshot.ofFeeds_eq_ofListing h
  · intro m h
    exact (htotals.unique (Snapshot.totals_ofListing m) h).symm
  · intro layout
    have hback := readListing_listingDocument l layout
    exact ⟨hback, hread _ hback⟩
  · intro name k
    rw [htotals.count, ← listedCounts_ne_nil_iff]
    cases listedCounts l name k <;> simp [Count.total?]
  · intro name k c hc
    rw [htotals.count, Count.total?_eq_some_iff] at hc
    rw [hc.2, Count.toNat_total]
    rfl

end CoverageWindows
