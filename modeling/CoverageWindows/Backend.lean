import CoverageWindows.Abi
import CoverageWindows.Failure
import CoverageWindows.Mark.Reconstruct
import CoverageWindows.Memory.Reset

/-!
# Decoder backends

A backend decodes the profiles of one interface and resets counters.  It may keep a state of its own
between calls, and it reads profiles from a tree of files.  A decoder is a backend that was bound to
the images of a collector.
-/

namespace CoverageWindows

/-- How a backend refuses: with a message, or in breach of its contract, without one. -/
inductive Complaint where
  | refused (message : String)
  | broken
  deriving DecidableEq, Repr

/-- A complaint as a failure, its message in the words of `wrap`. -/
def Complaint.toFailure (wrap : String → Failure) : Complaint → Failure
  | refused message => wrap message
  | broken => .backendBroken

/-- A backend object that is bound to images.  `σ` is the state of its backend. -/
structure Processor (σ : Type) where
  coveredFiles : FileTree → Bytes → σ → Except Complaint (List DecodedFile) × σ
  release : σ → σ

/-- A decoder backend.  `σ` is its state. -/
structure Backend (σ : Type) where
  abi : Abi
  version : String
  create : List Bytes → σ → Except Complaint (Processor σ) × σ
  reset : UInt64 → ProfileMemory → σ → Except Complaint Unit × ProfileMemory × σ

/-- A backend that is bound to the images of a collector. -/
structure Decoder (σ : Type) where
  backend : Backend σ
  processor : Processor σ
  images : List Bytes

namespace Decoder

variable {σ : Type}

/-- The decoder of a backend for images. -/
def create (b : Backend σ) (images : List Bytes) (s : σ) : Except Failure (Decoder σ) × σ :=
  match b.create images s with
  | (.ok p, s) => (.ok ⟨b, p, images⟩, s)
  | (.error c, s) => (.error (c.toFailure .processorRefused), s)

/-- The snapshot of a profile. -/
def decode (d : Decoder σ) (t : FileTree) (profile : Bytes) (s : σ) : Except Failure Snapshot × σ :=
  match d.processor.coveredFiles t profile s with
  | (.ok files, s) => (.ok (Snapshot.ofDecoded files), s)
  | (.error c, s) => (.error (c.toFailure .undecodable), s)

/-- A decoder in words for diagnostics. -/
def describe (d : Decoder σ) : String :=
  "CoverageDecoder \x7b abi: " ++ d.backend.abi.title ++ ", binaries: [" ++
    String.intercalate ", " (d.images.map Text.quotedBytes) ++ "], .. \x7d"

end Decoder
end CoverageWindows
