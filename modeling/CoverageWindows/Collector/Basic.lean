import CoverageWindows.Artifact
import CoverageWindows.Collector.Program
import CoverageWindows.ProfilePath
import CoverageWindows.Settings

/-!
# Collectors

A collector measures coverage in windows of a program's run.  While it is idle the images write to
the baseline path; while a window is open they write to the window's own file.  Which of the two
holds is told by the published path alone, so a collector notices when somebody else publishes
another one.

Main results:

- Theorem `start_of_other_path`: a window can only be opened while the baseline path is published.
- Theorem `stop_of_baseline`: without an open window there is none to close.
-/

namespace CoverageWindows

/-- The file name of a window of a process. -/
def windowName (processId : Nat) (index : UInt64) : String :=
  "code-coverage-" ++ String.ofList (Decimal.digits processId) ++ "-" ++
    String.ofList (Decimal.digits index.toNat) ++ ".profraw"

/-- A collector of a program's coverage.  `σ` is the state of its backend. -/
structure Collector (σ : Type) where
  settings : Settings
  baselinePath : String
  images : List Nat
  decoder : Decoder σ
  backendState : σ
  baseline : Option Snapshot
  nextWindow : UInt64
  processId : Nat

/-- What a collector is made from: settings, the requested path (the published one if there is
none), the images to measure, and the number of the process. -/
structure CollectorRequest where
  settings : Settings
  requested : Option String
  images : List Nat
  processId : Nat
  deriving DecidableEq, Repr

namespace Collector

variable {σ : Type}

/-! ## Making a collector -/

/-- The path that a request asks for. -/
def requestedPath (r : CollectorRequest) (p : Program) : Except Failure String :=
  match r.requested with
  | some path => .ok path
  | none => p.current r.settings.variableName

/-- The decoder for the images of a request, once the request itself is in order. -/
def bind (b : Backend σ) (r : CollectorRequest) (p : Program) (s : σ) :
    Except Failure (Decoder σ) × σ :=
  if (Text.ofBytes? r.settings.windowFolder).isNone then
    (.error (.badSetting (.folderNotText (Text.lossy r.settings.windowFolder))), s)
  else
    Decoder.create b (r.images.filterMap fun n => p.images[n]?.map Image.path) s

/-- The program in which images write to the baseline path: it is published and opened anew unless
it was published before and did not have to be changed, and all counters so far are written. -/
def settle (name : String) (images : List Nat) (prepared : ProfilePath.Prepared) (p : Program) :
    Program :=
  let path := String.ofList prepared.path
  let isPublished :=
    match p.current name with
    | .ok current => current == path
    | .error _ => false
  let p := if prepared.changed then p.endContinuous images else p
  let p := if prepared.changed || !isPublished then p.activate images (Text.toBytes path) else p
  (p.writeAll images).2

/-- The coverage from before the first window: that of the artifact that the baseline path has
expanded to, if there is one and it can be decoded.  Only a backend that breaks its contract is more
than a missing baseline. -/
def loadBaseline (d : Decoder σ) (files : FileTree) (path : String) (s : σ) :
    Except Failure (Option Snapshot) × σ :=
  match Artifact.find files (Text.toBytes path) with
  | .ok (some artifact) =>
      match d.decode files artifact s with
      | (.ok covered, s) => (.ok (some covered), s)
      | (.error .backendBroken, s) => (.error .backendBroken, s)
      | (.error _, s) => (.ok none, s)
  | _ => (.ok none, s)

/-- The coverage from before, as far as a request asks for it. -/
def requestedBaseline (r : CollectorRequest) (d : Decoder σ) (files : FileTree) (path : String)
    (s : σ) : Except Failure (Option Snapshot) × σ :=
  if r.settings.loadBaseline then loadBaseline d files path s else (.ok none, s)

/-- A collector for a request.  A request that fails leaves the published path and the images
alone, unless a backend breaks its contract while the coverage from before is decoded: the images
have settled by then, and the collector ends as every collector does, with a last flush. -/
def create (b : Backend σ) (r : CollectorRequest) (p : Program) (s : σ) :
    Except Failure (Collector σ) × Program × σ :=
  match requestedPath r p with
  | .error f => (.error f, p, s)
  | .ok requested =>
      match bind b r p s with
      | (.error f, s) => (.error f, p, s)
      | (.ok decoder, s) =>
          match p.files.makeFolders r.settings.windowFolder with
          | (.error f, files) =>
              (.error (.files f), { p with files := files }, decoder.processor.release s)
          | (.ok _, files) =>
              let prepared := ProfilePath.prepare requested.toList
              let path := String.ofList prepared.path
              let p := settle r.settings.variableName r.images prepared { p with files := files }
              match requestedBaseline r decoder p.files path s with
              | (.ok baseline, s) =>
                  (.ok ⟨r.settings, path, r.images, decoder, s, baseline, 0, r.processId⟩, p, s)
              | (.error f, s) => (.error f, (p.writeAll r.images).2, decoder.processor.release s)

/-! ## Windows -/

/-- The path of a window of the collector. -/
def windowPath (c : Collector σ) (index : UInt64) : Bytes :=
  Path.inside c.settings.windowFolder (Text.toBytes (windowName c.processId index))

/-- The program in which a path is published and the collector's images have opened it. -/
def activate (c : Collector σ) (p : Program) (path : Bytes) : Program :=
  p.activate c.images path

/-- The path that is published. -/
def current (c : Collector σ) (p : Program) : Except Failure String :=
  p.current c.settings.variableName

/-- Opens the next window: all counters are written, the window's path takes the place of the
baseline path, and all counters are reset.  Where a reset fails the baseline path is published
again; a backend that breaks its contract ends the call at once. -/
def openNext (c : Collector σ) (p : Program) : Except Failure Unit × Collector σ × Program :=
  let p := (p.writeAll c.images).2
  let p := c.activate p (c.windowPath c.nextWindow)
  let c := { c with nextWindow := c.nextWindow + 1 }
  match p.resetAll c.decoder.backend c.settings.abi c.backendState c.images with
  | (.ok _, p, s) => (.ok (), { c with backendState := s }, p)
  | (.error .backendBroken, p, s) => (.error .backendBroken, { c with backendState := s }, p)
  | (.error f, p, s) =>
      (.error f, { c with backendState := s }, c.activate p (Text.toBytes c.baselinePath))

/-- Opens a window, if none is open and each image has the memory that is reset. -/
def start (c : Collector σ) (p : Program) : Except Failure Unit × Collector σ × Program :=
  match c.current p with
  | .error f => (.error f, c, p)
  | .ok path =>
      if path ≠ c.baselinePath then (.error .windowOpen, c, p)
      else
        match p.firstMissing? c.settings.abi c.images with
        | some f => (.error f, c, p)
        | none => c.openNext p

/-- Whether a published path is taken for a window of the collector. -/
def isWindow (c : Collector σ) (path : String) : Bool :=
  path != c.baselinePath && Path.startsWith (Text.toBytes path) c.settings.windowFolder

/-- Closes the open window: all counters are written to it, and the baseline path is published
again.  The answer is the path of the window. -/
def stop (c : Collector σ) (p : Program) : Except Failure String × Program :=
  match c.current p with
  | .error f => (.error f, p)
  | .ok path =>
      if c.isWindow path then
        (.ok path, c.activate (p.writeAll c.images).2 (Text.toBytes c.baselinePath))
      else (.error .windowNotOpen, p)

/-- A window can only be opened while the baseline path is published. -/
theorem start_of_other_path (c : Collector σ) (p : Program) {path : String}
    (h : c.current p = .ok path) (hne : path ≠ c.baselinePath) :
    c.start p = (.error .windowOpen, c, p) := by
  simp [start, h, hne]

/-- Without an open window there is none to close. -/
theorem stop_of_baseline (c : Collector σ) (p : Program) (h : c.current p = .ok c.baselinePath) :
    c.stop p = (.error .windowNotOpen, p) := by
  simp [stop, h, isWindow]

/-! ## Decoding and ending -/

/-- The coverage of a closed window, added to that from before the first window. -/
def covered (c : Collector σ) (p : Program) (profile : Bytes) :
    Except Failure Snapshot × Collector σ :=
  match c.decoder.decode p.files profile c.backendState with
  | (.error f, s) => (.error f, { c with backendState := s })
  | (.ok covered, s) =>
      (.ok (match c.baseline with
        | some baseline => baseline.merge covered
        | none => covered), { c with backendState := s })

/-- The program and the backend after the collector has ended: the counters are written once more,
and the backend object is given back. -/
def close (c : Collector σ) (p : Program) : Program × σ :=
  ((p.writeAll c.images).2, c.decoder.processor.release c.backendState)

end Collector
end CoverageWindows
