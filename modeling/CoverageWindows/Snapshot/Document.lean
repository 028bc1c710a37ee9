import CoverageWindows.Json.Reader
import CoverageWindows.Json.Writer
import CoverageWindows.Snapshot.Basic

/-!
# Snapshots as documents

The JSON form of spans, counted spans, file reports and snapshots.  A file lists its counted spans
and a snapshot lists its files; what a list holds twice is summed when it is read.
-/

namespace CoverageWindows

open Json

/-! ## Writing -/

/-- A span as an object of its four numbers. -/
def Span.writer (s : Span) : Writer :=
  writeObject
    [("startLine", writeNatural s.startLine.toNat),
      ("startColumn", writeNatural s.startColumn.toNat),
      ("endLine", writeNatural s.endLine.toNat), ("endColumn", writeNatural s.endColumn.toNat)]

/-- A counted span as an object. -/
def CountedSpan.writer (s : CountedSpan) : Writer :=
  writeObject [("location", s.span.writer), ("count", writeNatural s.count.toNat)]

/-- A file report as an object with the list of its spans. -/
def FileReport.writer (f : FileReport) : Writer :=
  writeObject
    [("name", writeString f.name), ("segments", writeList (f.spans.values.map CountedSpan.writer))]

/-- A snapshot as an object with the list of its files. -/
def Snapshot.writer (s : Snapshot) : Writer :=
  writeObject [("files", writeList (s.files.values.map FileReport.writer))]

/-! ## Reading -/

/-- The numbers of a span that are read so far. -/
structure Span.Draft where
  startLine : Option UInt32
  startColumn : Option UInt32
  endLine : Option UInt32
  endColumn : Option UInt32

/-- The written form of a span. -/
def Span.form : RecordForm Span.Draft Span where
  title := "Location"
  fields :=
    [.ofReader "startLine" Span.Draft.startLine (fun d n => { d with startLine := some n }) readU32,
      .ofReader "startColumn" Span.Draft.startColumn
        (fun d n => { d with startColumn := some n }) readU32,
      .ofReader "endLine" Span.Draft.endLine (fun d n => { d with endLine := some n }) readU32,
      .ofReader "endColumn" Span.Draft.endColumn
        (fun d n => { d with endColumn := some n }) readU32]
  start := ⟨none, none, none, none⟩
  finish d := do
    let startLine ← need "startLine" d.startLine
    let startColumn ← need "startColumn" d.startColumn
    let endLine ← need "endLine" d.endLine
    let endColumn ← need "endColumn" d.endColumn
    return ⟨startLine, startColumn, endLine, endColumn⟩

/-- The parts of a counted span that are read so far. -/
structure CountedSpan.Draft where
  span : Option Span
  count : Option Count

/-- The written form of a counted span. -/
def CountedSpan.form : RecordForm CountedSpan.Draft CountedSpan where
  title := "Segment"
  fields :=
    [.ofReader "location" CountedSpan.Draft.span (fun d s => { d with span := some s })
        Span.form.read,
      .ofReader "count" CountedSpan.Draft.count (fun d n => { d with count := some n }) readU64]
  start := ⟨none, none⟩
  finish d := do
    let span ← need "location" d.span
    let count ← need "count" d.count
    return ⟨span, count⟩

/-- The parts of a file report that are read so far. -/
structure FileReport.Draft where
  name : Option String
  spans : Option (List CountedSpan)

/-- The written form of a file report; spans that are listed twice are summed. -/
def FileReport.form : RecordForm FileReport.Draft FileReport where
  title := "FileCoverage"
  fields :=
    [.ofReader "name" FileReport.Draft.name (fun d s => { d with name := some s })
        (readString "a string"),
      .ofReader "segments" FileReport.Draft.spans (fun d ss => { d with spans := some ss })
        (readList CountedSpan.form.read)]
  start := ⟨none, none⟩
  finish d := do
    let name ← need "name" d.name
    let spans ← need "segments" d.spans
    return FileReport.ofSpans name spans

/-- The parts of a snapshot that are read so far. -/
structure Snapshot.Draft where
  files : Option (List FileReport)

/-- The written form of a snapshot; files that are listed twice are summed. -/
def Snapshot.form : RecordForm Snapshot.Draft Snapshot where
  title := "CoverageInfo"
  fields :=
    [.ofReader "files" Snapshot.Draft.files (fun d fs => { d with files := some fs })
        (readList FileReport.form.read)]
  start := ⟨none⟩
  finish d := do
    let files ← need "files" d.files
    return Snapshot.ofFiles files

/-! ## Whole documents -/

/-- The document of a snapshot. -/
def Snapshot.document (s : Snapshot) (l : Layout) : String :=
  Json.document s.writer l

/-- The snapshot that a document describes. -/
def Snapshot.ofDocument (text : String) : Except Stop Snapshot :=
  readDocument Snapshot.form.read text.toList

end CoverageWindows
