import CoverageWindows.Backend
import CoverageWindows.Collector.Image
import CoverageWindows.LineProfile

/-!
# The running program

A program has one variable in which the profile path is published, a tree of files, and its images
by number.  What a collector does to it is listed, so that the order of flushing, publishing and
resetting can be told afterwards.

Main results:

- Theorem `resetAll_of_missing`: nothing is reset unless every image has what the interface resets.
-/

namespace CoverageWindows

/-- What was done: a path was published; an image was asked to open the published path, to write its
counters (with the path that it had open, its counters, and the status of the write), to take a page
size, or to tell its version; a backend was asked to reset an image (with the version that it was
told, and the memory as it was). -/
inductive Event where
  | published (path : Bytes)
  | opened (image : Nat)
  | wrote (image : Nat) (output : Option String) (counters : Bytes) (status : Int)
  | pageSize (image : Nat) (size : UInt32)
  | version (image : Nat)
  | reset (image : Nat) (version : UInt64) (memory : ProfileMemory)
  deriving DecidableEq, Repr

/-- The state of a program that coverage is collected in. -/
structure Program where
  published : Option Bytes
  files : FileTree
  images : List Image
  events : List Event
  deriving DecidableEq, Repr

namespace Program

/-! ## The published path -/

/-- The published path as text; `name` is the name of the variable. -/
def current (p : Program) (name : String) : Except Failure String :=
  match p.published with
  | none => .error (.disabled name)
  | some b =>
      match Text.ofBytes? b with
      | some s => .ok s
      | none => .error (.badSetting (.variableNotText name (Text.lossy b)))

/-- The program with a path published. -/
def publish (p : Program) (path : Bytes) : Program := { p with published := some path }

/-! ## Asking one image -/

/-- The program with one more event. -/
def record (p : Program) (e : Event) : Program := { p with events := p.events ++ [e] }

/-- The program with one image changed. -/
def change (p : Program) (n : Nat) (f : Image → Image) : Program :=
  { p with images := p.images.modify n f }

/-- The program after an image has opened the published path. -/
def openOutput (p : Program) (n : Nat) : Program :=
  match p.images[n]? with
  | none => p
  | some _ => (p.change n fun i => i.opening n p.published).record (.opened n)

/-- The program after an image was given a page size; the size zero ends writing through a mapped
file. -/
def setPageSize (p : Program) (n : Nat) (size : UInt32) : Program :=
  match p.images[n]? with
  | none => p
  | some _ => (p.change n fun i => { i with pageSize := size }).record (.pageSize n size)

/-- The version that an image tells, if it tells one. -/
def version (p : Program) (n : Nat) : Option UInt64 × Program :=
  match p.images[n]?.bind Image.version with
  | none => (none, p)
  | some v => (some v, p.record (.version n))

/-- The files after an image has written its profile, and the status of that. -/
def writeProfile (files : FileTree) (i : Image) : Int × FileTree :=
  if i.writeStatus ≠ 0 then (i.writeStatus, files)
  else
    match i.output with
    | none => (-1, files)
    | some path =>
        let content := Text.toBytes (LineProfile.encode i.source i.counts)
        match files.write (Text.toBytes path) content with
        | .ok files => (0, files)
        | .error _ => (-1, files)

/-- Whether an image could write its counters to the path that it has open, and the program after
that. -/
def write (p : Program) (n : Nat) : Bool × Program :=
  match p.images[n]? with
  | none => (false, p)
  | some i =>
      let (status, files) := writeProfile p.files i
      let p := { p with files := files }.change n fun i => { i with writes := i.writes + 1 }
      (status == 0, p.record (.wrote n i.output i.counters.cells status))

/-! ## Asking many images -/

/-- The number of images that could not write their counters, and the program after all have
tried. -/
def writeAll : Program → List Nat → Nat × Program
  | p, [] => (0, p)
  | p, n :: rest =>
      let (written, p) := p.write n
      let (failures, p) := p.writeAll rest
      (if written then failures else failures + 1, p)

/-- The program after images have opened the published path. -/
def openAll (p : Program) (images : List Nat) : Program :=
  images.foldl openOutput p

/-- The program after images have ended writing through a mapped file. -/
def endContinuous (p : Program) (images : List Nat) : Program :=
  images.foldl (fun p n => p.setPageSize n 0) p

/-- The program with a path published and opened by images. -/
def activate (p : Program) (images : List Nat) (path : Bytes) : Program :=
  ((p.publish path).record (.published path)).openAll images

/-! ## Resetting counters -/

/-- Why the memory of an image is not there for an interface. -/
def missing? (p : Program) (a : Abi) (n : Nat) : Option Failure :=
  match p.images[n]? with
  | none => none
  | some i =>
      match i.memory a with
      | .error f => some f
      | .ok _ => none

/-- The failure of the first image that lacks memory for an interface. -/
def firstMissing? (p : Program) (a : Abi) (images : List Nat) : Option Failure :=
  images.findSome? (p.missing? a)

variable {σ : Type}

/-- Resets an image by a backend. -/
def resetOne (p : Program) (b : Backend σ) (a : Abi) (s : σ) (n : Nat) :
    Except Failure Unit × Program × σ :=
  match p.images[n]? with
  | none => (.ok (), p, s)
  | some i =>
      match i.memory a with
      | .error f => (.error f, p, s)
      | .ok m =>
          let (version, p) := p.version n
          let p := p.record (.reset n (version.getD 0) m)
          let (result, m, s) := b.reset (version.getD 0) m s
          (result.mapError (Complaint.toFailure (.resetFailed i.name)),
            p.change n fun i => i.withMemory m, s)

/-- Resets images by a backend up to the first one that fails. -/
def resetEach (p : Program) (b : Backend σ) (a : Abi) (s : σ) :
    List Nat → Except Failure Unit × Program × σ
  | [] => (.ok (), p, s)
  | n :: rest =>
      match p.resetOne b a s n with
      | (.ok _, p, s) => p.resetEach b a s rest
      | (.error f, p, s) => (.error f, p, s)

/-- Resets images by a backend, if each of them has the memory for an interface. -/
def resetAll (p : Program) (b : Backend σ) (a : Abi) (s : σ) (images : List Nat) :
    Except Failure Unit × Program × σ :=
  match p.firstMissing? a images with
  | some f => (.error f, p, s)
  | none => p.resetEach b a s images

/-- Nothing is reset unless every image has what the interface resets. -/
theorem resetAll_of_missing (p : Program) (b : Backend σ) (a : Abi) (s : σ) (images : List Nat)
    {f : Failure} (h : p.firstMissing? a images = some f) :
    p.resetAll b a s images = (.error f, p, s) := by
  simp [resetAll, h]

end Program
end CoverageWindows
