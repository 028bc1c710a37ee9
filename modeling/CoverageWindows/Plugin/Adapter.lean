import CoverageWindows.Backend
import CoverageWindows.Plugin.Foreign

/-!
# A decoder library as a backend

The complete table of a decoder library is adapted to a backend whose state is the log of calls.
What the library hands over is copied and handed back at once: an error text when it was read, a
list of files when it was copied, a parser when its processor is dropped.
-/

namespace CoverageWindows

/-- A decoder library whose table is complete. -/
structure Plugin where
  abi : Abi
  version : String
  createParser : Plugin.Log → List Bytes → Plugin.ParserAnswer
  resetCounters : Option Plugin.ResetEntry

namespace Plugin

/-! ## Adapting a table -/

/-- The library of a table; the first required entry that is null is named. -/
def ofTable (abi : Abi) (table : Option ExportTable) : Except Failure Plugin :=
  match table with
  | none => .error (.unresolved .noTable)
  | some t =>
      match t.createParser with
      | none => .error (.unresolved (.noEntry "create_parser"))
      | some create =>
          if !t.hasReleaseFiles then .error (.unresolved (.noEntry "release_files"))
          else if !t.hasReleaseText then .error (.unresolved (.noEntry "release_string"))
          else .ok ⟨abi, (t.version.map Text.lossy).getD "", create, t.resetCounters⟩

/-- The library of a table that has just been opened; one that is refused is closed at once. -/
def adopt (abi : Abi) (table : Option ExportTable) (log : Log) : Except Failure Plugin × Log :=
  match ofTable abi table with
  | .ok p => (.ok p, log)
  | .error f => (.error f, log ++ [.unload])

/-- The log after the library was closed. -/
def unload (log : Log) : Log := log ++ [.unload]

/-- A library in words for diagnostics. -/
def describe (p : Plugin) : String :=
  "NativeExports \x7b abi: " ++ p.abi.title ++ ", runtime_version: " ++ Text.quoted p.version ++
    ", native_reset: " ++ (if p.resetCounters.isSome then "true" else "false") ++ ", .. \x7d"

/-! ## Reading what is handed over -/

/-- The complaint of an error text, which is handed back; an error without a text is a breach. -/
def takeError (text : Option ForeignText) (log : Log) : Complaint × Log :=
  match text with
  | none => (.broken, log)
  | some t => (.refused (Text.lossy t.bytes), log ++ [.releaseText t])

/-- The elements of a foreign array; a null array or a count of zero has none. -/
def elements {α : Type} (array : Option (List α)) (count : Nat) : List α :=
  match array with
  | none => []
  | some as => as.take count

/-- The copy of a foreign file. -/
def copyFile (f : ForeignFile) : DecodedFile :=
  ⟨(f.name.map Text.lossy).getD "", elements f.marks f.markCount⟩

/-- The copy of a foreign list of files. -/
def copyFiles (l : ForeignFiles) : List DecodedFile :=
  (elements l.files l.count).map copyFile

/-- A path as a library takes it: text without a byte zero. -/
def foreignPath (path : Bytes) : Except Complaint Bytes :=
  if (Text.ofBytes? path).isNone then
    .error (.refused (Text.lossy path ++ " is not valid UTF-8"))
  else
    match path.findIdx? (· == 0) with
    | some i =>
        .error (.refused
          ("nul byte found in provided data at position: " ++ String.ofList (Decimal.digits i)))
    | none => .ok path

/-! ## Processors -/

/-- The files that a parser lists for a profile. -/
def coveredFiles (parser : Nat) (entry : Log → Bytes → FilesAnswer) (profile : Bytes) (log : Log) :
    Except Complaint (List DecodedFile) × Log :=
  match foreignPath profile with
  | .error c => (.error c, log)
  | .ok path =>
      let log' := log ++ [.coveredFiles parser path]
      match entry log path with
      | .files l => (.ok (copyFiles l), log' ++ [.releaseFiles l])
      | .failed text =>
          let (c, log') := takeError text log'
          (.error c, log')

/-- The processor of a parser with both entries. -/
def processor (parser : Nat) (entry : Log → Bytes → FilesAnswer) : Processor Log where
  coveredFiles _ profile log := coveredFiles parser entry profile log
  release log := log ++ [.destroy parser]

/-- The greatest number of images that a library can be asked for. -/
def greatestImageCount : Nat := 4294967295

/-- The processor of a library for images. -/
def create (p : Plugin) (images : List Bytes) (log : Log) :
    Except Complaint (Processor Log) × Log :=
  match images.mapM foreignPath with
  | .error c => (.error c, log)
  | .ok paths =>
      if greatestImageCount < paths.length then (.error (.refused "too many binaries"), log)
      else
        let log' := log ++ [.createParser paths]
        match p.createParser log paths with
        | .failed text =>
            let (c, log') := takeError text log'
            (.error c, log')
        | .parser none => (.error (.refused "coverage backend returned a null parser"), log')
        | .parser (some q) =>
            match q.coveredFiles with
            | some entry =>
                if q.hasDestroy then (.ok (processor q.address entry), log')
                else (.error (.refused "coverage backend returned an incomplete parser"), log')
            | none => (.error (.refused "coverage backend returned an incomplete parser"), log')

/-! ## Resetting -/

/-- A reset by the library, or where it has none, of the memory directly.  What the library makes of
the memory stays, also where it answers with an error. -/
def reset (p : Plugin) (version : UInt64) (m : ProfileMemory) (log : Log) :
    Except Complaint Unit × ProfileMemory × Log :=
  match p.resetCounters with
  | none => (.ok (), m.reset version, log)
  | some entry =>
      let log' := log ++ [.reset version m]
      match entry log version m with
      | (.succeeded, m) => (.ok (), m, log')
      | (.failed text, m) =>
          let (c, log') := takeError text log'
          (.error c, m, log')

/-- The library as a backend. -/
def backend (p : Plugin) : Backend Log where
  abi := p.abi
  version := p.version
  create := p.create
  reset := p.reset

end Plugin
end CoverageWindows
