import CoverageWindows.Proofs.Mark.Runs
import CoverageWindows.Proofs.Snapshot.RoundTrip
import CoverageWindows.Proofs.Text.ByteOrder

/-!
# Keys of snapshots

Snapshots are built from lists of files, read from documents and decoded from marks; files and spans
are added to them, and they are merged with each other.  Whatever is done to them and in whatever
order, a file is kept under its own name and a span under its own place, no key is there twice, and
the keys increase: names by their bytes, places by their four numbers.

Main results:

- Theorem `Snapshot.wellKeyed_ofDecoded`: what is decoded from marks is in good order.
- Theorem `Snapshot.WellKeyed.addSpan?`: so is a snapshot to which a span was added.
- Theorem `Registers.Sound.perform`: an operation keeps all snapshots in good order.
- Theorem `keys_of_operations`: so does every list of operations, and this is what it says of keys.
-/

namespace CoverageWindows

/-! ## Files and snapshots in good order -/

/-- The report of a decoded file is in good order. -/
theorem DecodedFile.wellKeyed_report (f : DecodedFile) : f.report.WellKeyed :=
  (FileReport.wellKeyed_iff f.report).2 (Mark.keyedBy_reconstruct f.marks)

/-- What is read from a document of a file is in good order. -/
theorem FileReport.wellKeyed_of_read {text : List Char} {f : FileReport}
    (h : Json.readDocument FileReport.form.read text = .ok f) : f.WellKeyed := by
  rw [Json.readDocument_maps ListedFile.maps_form.read] at h
  cases hread : Json.readDocument ListedFile.form.read text with
  | error fault => simp [hread, Except.map] at h
  | ok l =>
      rw [hread] at h
      obtain rfl : l.report = f := Except.ok.inj h
      exact l.wellKeyed_report

namespace Snapshot

/-- What is decoded from marks is in good order. -/
theorem wellKeyed_ofDecoded (fs : List DecodedFile) : (ofDecoded fs).WellKeyed := by
  refine wellKeyed_ofFiles fun f hf => ?_
  rcases List.mem_map.1 hf with ⟨d, -, rfl⟩
  exact d.wellKeyed_report

/-- A snapshot stays in good order when a span is added to a file that it holds. -/
theorem WellKeyed.addSpan? {s t : Snapshot} (hs : s.WellKeyed) {name : String} {c : CountedSpan}
    (h : s.addSpan? name c = some t) : t.WellKeyed := by
  rcases Option.map_eq_some_iff.1 h with ⟨f, hf, rfl⟩
  have hname : f.name = name := hs.name_of_file? hf
  have hadd : (f.add c).WellKeyed := (hs.file hf).addAll [c]
  refine wellKeyed_of_file? ?_ ?_
  · rw [← hname]
    exact hs.keyedBy.insert (f.add c)
  · intro name' g hg
    rw [file?, Table.get?_insert hs.ordered] at hg
    split at hg
    · exact Option.some.inj hg ▸ hadd
    · exact hs.file hg

end Snapshot

/-! ## Operations on registers -/

/-- Snapshots by the names of the registers that hold them. -/
abbrev Registers := String → Snapshot

/-- Where a file comes from that is added: it is listed, decoded or read from a document, it is held
by the snapshot of a register, two files were merged into it, or a span was added to a file. -/
inductive FileSource where
  | listed (f : ListedFile)
  | decoded (f : DecodedFile)
  | document (text : String)
  | held (register name : String)
  | merged (f g : FileSource)
  | added (f : FileSource) (s : CountedSpan)

/-- The file that comes from a source, if there is one. -/
def FileSource.file? (r : Registers) : FileSource → Option FileReport
  | listed f => some f.report
  | decoded f => some f.report
  | document text => (Json.readDocument FileReport.form.read text.toList).toOption
  | held register name => (r register).file? name
  | merged f g => (f.file? r).bind fun x => (g.file? r).map x.merge
  | added f s => (f.file? r).map fun x => x.add s

/-- What is done to a register: it gets a snapshot that is built from listed files, read from a
document, decoded, or merged from those of two registers, in either way; or its own snapshot gets a
file, more files, or a span in a file that it holds. -/
inductive Operation where
  | build (files : List ListedFile)
  | load (text : String)
  | decode (files : List DecodedFile)
  | addFile (file : FileSource)
  | extend (files : List FileSource)
  | addSpan (name : String) (s : CountedSpan)
  | merge (left right : String)
  | absorb (left right : String)

/-- The snapshot that an operation makes for a register, unless it fails. -/
def Operation.snapshot? (r : Registers) (register : String) : Operation → Option Snapshot
  | build files => some (.ofFiles (files.map ListedFile.report))
  | load text => (Snapshot.ofDocument text).toOption
  | decode files => some (.ofDecoded files)
  | addFile file => (file.file? r).map (r register).addFile
  | extend files => some ((r register).addFiles (files.filterMap fun f => f.file? r))
  | addSpan name s => (r register).addSpan? name s
  | merge left right => some ((r left).merge (r right))
  | absorb left right => some ((r left).absorb (r right))

namespace Registers

/-- The registers before the first operation. -/
def empty : Registers := fun _ => .empty

/-- The registers after an operation on one of them; one that fails changes nothing. -/
def perform (r : Registers) (step : String × Operation) : Registers := fun n =>
  if n = step.1 then (step.2.snapshot? r step.1).getD (r n) else r n

/-- The registers after operations in a row. -/
def performAll (r : Registers) (steps : List (String × Operation)) : Registers :=
  steps.foldl perform r

/-- Every register holds a snapshot in good order. -/
def Sound (r : Registers) : Prop := ∀ n, (r n).WellKeyed

theorem sound_empty : empty.Sound := fun _ => Snapshot.wellKeyed_empty

namespace Sound

variable {r : Registers}

/-- A file that is added is in good order, wherever it comes from. -/
theorem file (h : r.Sound) {source : FileSource} {f : FileReport} (hf : source.file? r = some f) :
    f.WellKeyed := by
  induction source generalizing f with
  | listed l => exact Option.some.inj hf ▸ l.wellKeyed_report
  | decoded d => exact Option.some.inj hf ▸ d.wellKeyed_report
  | document text =>
      rw [FileSource.file?] at hf
      cases hread : Json.readDocument FileReport.form.read text.toList with
      | error fault => simp [hread, Except.toOption] at hf
      | ok g =>
          rw [hread] at hf
          exact Option.some.inj hf ▸ FileReport.wellKeyed_of_read hread
  | held register name => exact (h register).file hf
  | merged s t ihs iht =>
      rcases Option.bind_eq_some_iff.1 hf with ⟨x, hx, hmap⟩
      rcases Option.map_eq_some_iff.1 hmap with ⟨y, -, rfl⟩
      exact (ihs hx).merge y
  | added s c ih =>
      rcases Option.map_eq_some_iff.1 hf with ⟨x, hx, rfl⟩
      exact (ih hx).addAll [c]

/-- The snapshot that an operation makes is in good order. -/
theorem snapshot (h : r.Sound) {register : String} {o : Operation} {s : Snapshot}
    (hs : o.snapshot? r register = some s) : s.WellKeyed := by
  cases o with
  | build files =>
      obtain rfl := Option.some.inj hs
      refine Snapshot.wellKeyed_ofFiles fun f hf => ?_
      rcases List.mem_map.1 hf with ⟨l, -, rfl⟩
      exact l.wellKeyed_report
  | load text =>
      rw [Operation.snapshot?] at hs
      cases hread : Snapshot.ofDocument text with
      | error fault => simp [hread, Except.toOption] at hs
      | ok t =>
          rw [hread] at hs
          exact Option.some.inj hs ▸ Snapshot.wellKeyed_of_ofDocument hread
  | decode files => exact Option.some.inj hs ▸ Snapshot.wellKeyed_ofDecoded files
  | addFile file =>
      rcases Option.map_eq_some_iff.1 hs with ⟨f, hf, rfl⟩
      exact (h register).addFile (h.file hf)
  | extend files =>
      obtain rfl := Option.some.inj hs
      refine (h register).addFiles fun f hf => ?_
      rcases List.mem_filterMap.1 hf with ⟨source, -, hsource⟩
      exact h.file hsource
  | addSpan name c => exact (h register).addSpan? hs
  | merge left right => exact Option.some.inj hs ▸ (h left).merge (h right)
  | absorb left right => exact Option.some.inj hs ▸ (h left).merge (h right)

/-- An operation keeps all snapshots in good order. -/
theorem perform (h : r.Sound) (step : String × Operation) : (r.perform step).Sound := by
  intro n
  rw [Registers.perform]
  split
  · cases hs : step.2.snapshot? r step.1 with
    | none => exact h n
    | some s => exact h.snapshot hs
  · exact h n

/-- All operations of a list keep the registers in good order. -/
theorem performAll (h : r.Sound) (steps : List (String × Operation)) :
    (r.performAll steps).Sound := by
  induction steps generalizing r with
  | nil => exact h
  | cons step steps ih => exact ih (h.perform step)

end Sound

end Registers

/-! ## The order of keys -/

/-- The four numbers of a span. -/
def Span.fields (s : Span) : List UInt32 := [s.startLine, s.startColumn, s.endLine, s.endColumn]

/-- A lower span has lower numbers, the first one first. -/
theorem Span.fields_lt_fields {s t : Span} (h : compare s t = .lt) : s.fields < t.fields := by
  change order s t = .lt at h
  simp only [order, compareLex, compareOn, Ordering.then_eq_lt, Std.compare_eq_lt,
    Std.compare_eq_iff_eq] at h
  simpa [fields, List.cons_lt_cons_iff] using h

/-- A lower name has lower bytes. -/
theorem toBytes_lt_of_compare {s t : String} (h : compare s t = .lt) :
    Text.toBytes s < Text.toBytes t :=
  Text.toBytes_lt_toBytes (compareOfLessAndEq_eq_lt.1 h)

/-- After operations of any kind on registers that held nothing at first: each register keeps each
file under its own name, and each file keeps each span under its own place; no name and no place is
there twice; and in the order in which they are listed, the bytes of the names increase, and the
four numbers of the places do. -/
theorem keys_of_operations (steps : List (String × Operation)) (register : String) :
    let s := Registers.empty.performAll steps register
    (∀ e ∈ s.files.entries, e.1 = e.2.name) ∧
      s.files.keys.Nodup ∧
      s.files.keys.Pairwise (fun n n' => Text.toBytes n < Text.toBytes n') ∧
      ∀ f ∈ s.files.values,
        (∀ e ∈ f.spans.entries, e.1 = e.2.span) ∧
        f.spans.keys.Nodup ∧
        f.spans.keys.Pairwise (fun k k' => k.fields < k'.fields) := by
  intro s
  have hs : s.WellKeyed := Registers.sound_empty.performAll steps register
  refine ⟨hs.keyed, Table.nodup_keys hs.ordered, ?_, ?_⟩
  · exact List.pairwise_map.2 (hs.ordered.imp toBytes_lt_of_compare)
  · intro f hf
    rcases List.mem_map.1 hf with ⟨e, he, rfl⟩
    have hfile := hs.files e he
    refine ⟨hfile.keyed, Table.nodup_keys hfile.ordered, ?_⟩
    exact List.pairwise_map.2 (hfile.ordered.imp Span.fields_lt_fields)

end CoverageWindows
