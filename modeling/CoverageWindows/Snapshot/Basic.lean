import CoverageWindows.Count
import CoverageWindows.Span
import CoverageWindows.Table

/-!
# Coverage snapshots

A snapshot says how often each span of each source file has run.  Files are kept by name and spans
by position; whatever is added to a snapshot is summed into what it holds, so nothing is ever lost.
-/

namespace CoverageWindows

/-! ## Counted spans -/

/-- A span and how often it has run. -/
structure CountedSpan where
  span : Span
  count : Count
  deriving DecidableEq, Repr

/-- A counted span in words: the span, a bar, the count. -/
def CountedSpan.text (s : CountedSpan) : String :=
  s.span.text ++ " | " ++ String.ofList (Decimal.digits s.count.toNat)

/-! ## Files -/

/-- The counted spans of one source file. -/
structure FileReport where
  name : String
  spans : Table Span CountedSpan
  deriving DecidableEq, Repr

namespace FileReport

/-- A file without spans. -/
def empty (name : String) : FileReport := ⟨name, Table.empty⟩

/-- What a table holds for a span after a counted span was added to it. -/
def addTo (s : CountedSpan) : Option CountedSpan → CountedSpan
  | none => s
  | some old => { old with count := old.count.plus s.count }

/-- The file with one more counted span; the counts of one span are summed. -/
def add (f : FileReport) (s : CountedSpan) : FileReport :=
  { f with spans := f.spans.update s.span (addTo s) }

/-- The file with more counted spans. -/
def addAll (f : FileReport) (ss : List CountedSpan) : FileReport :=
  ss.foldl add f

/-- The file of a name that a list of counted spans describes. -/
def ofSpans (name : String) (ss : List CountedSpan) : FileReport :=
  (empty name).addAll ss

/-- What the file holds for a span. -/
def get? (f : FileReport) (s : Span) : Option CountedSpan :=
  f.spans.get? s

/-- The spans of both files, counts summed. -/
def merge (f g : FileReport) : FileReport :=
  f.addAll g.spans.values

/-- The number of spans that have run. -/
def coveredCount (f : FileReport) : Nat :=
  f.spans.values.countP fun s => s.count != 0

/-- A file in words: its name, and a line with a tab for each span. -/
def text (f : FileReport) : String :=
  f.name ++ String.join (f.spans.values.map fun s => "\n\t" ++ s.text)

/-- Each span is kept under its own key, in order. -/
structure WellKeyed (f : FileReport) : Prop where
  ordered : f.spans.Ordered
  keyed : ∀ e ∈ f.spans.entries, e.1 = e.2.span

end FileReport

/-! ## Snapshots -/

/-- The reports of a set of source files. -/
structure Snapshot where
  files : Table String FileReport
  deriving DecidableEq, Repr

/-- How much a snapshot covers. -/
structure Summary where
  files : Nat
  spans : Nat
  covered : Nat
  deriving DecidableEq, Repr

namespace Snapshot

/-- The snapshot without files. -/
def empty : Snapshot := ⟨Table.empty⟩

/-- Whether a snapshot has no files. -/
def isEmpty (s : Snapshot) : Bool := s.files.entries.isEmpty

/-- What a snapshot holds for a file name. -/
def file? (s : Snapshot) (name : String) : Option FileReport :=
  s.files.get? name

/-- The file that stands for a name after a file of that name was added. -/
def addFileTo (f : FileReport) : Option FileReport → FileReport
  | none => f
  | some old => old.merge f

/-- The snapshot with one more file, summed into the file of its name if there is one. -/
def addFile (s : Snapshot) (f : FileReport) : Snapshot :=
  ⟨s.files.update f.name (addFileTo f)⟩

/-- The snapshot with more files. -/
def addFiles (s : Snapshot) (fs : List FileReport) : Snapshot :=
  fs.foldl addFile s

/-- The snapshot that a list of files describes. -/
def ofFiles (fs : List FileReport) : Snapshot :=
  empty.addFiles fs

/-- The files of both snapshots, the spans of files of one name summed. -/
def merge (s t : Snapshot) : Snapshot :=
  s.addFiles t.files.values

/-- The snapshot that takes in the files of another one, which is not needed any more. -/
def absorb (s t : Snapshot) : Snapshot :=
  t.files.values.foldl addFile s

/-- The snapshot with one more counted span in a file that it holds. -/
def addSpan? (s : Snapshot) (name : String) (c : CountedSpan) : Option Snapshot :=
  (s.file? name).map fun f => ⟨s.files.insert name (f.add c)⟩

/-- The numbers of files, of spans and of spans that have run. -/
def summary (s : Snapshot) : Summary where
  files := s.files.size
  spans := s.files.values.foldl (fun n f => n + f.spans.size) 0
  covered := s.files.values.foldl (fun n f => n + f.coveredCount) 0

/-- A snapshot in words: a heading and its files. -/
def text (s : Snapshot) : String :=
  "CoverageInfo:\n===========" ++ String.join (s.files.values.map fun f => "\n" ++ f.text)

/-- Each file is kept under its own name, in order, and is itself in order. -/
structure WellKeyed (s : Snapshot) : Prop where
  ordered : s.files.Ordered
  keyed : ∀ e ∈ s.files.entries, e.1 = e.2.name
  files : ∀ e ∈ s.files.entries, e.2.WellKeyed

/-- How often a span of a file has run, if the snapshot knows it. -/
def count? (s : Snapshot) (name : String) (k : Span) : Option Count :=
  (s.file? name).bind fun f => (f.get? k).map CountedSpan.count

end Snapshot
end CoverageWindows
