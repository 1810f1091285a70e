import RobotHarness.Base.Word

/-!
# The frames of the compute worker

`src/compute/compute_protocol.hpp`: what the worker of one computation and its host say to
each other.
-/

namespace RobotHarness.Compute

/-- `kFrameMagic`. -/
def frameMagic : UInt32 := 0x52484350

/-- `kFrameVersion`. -/
def frameVersion : UInt16 := 1

/-- `kMaximumIterations`. -/
def maximumIterations : UInt64 := 100000000

/-- `kBatchIterations`. -/
def batchIterations : UInt64 := 4096

/-- `kCancelledExitCode`. -/
def cancelledExitCode : UInt8 := 20

/-- `kFailureExitCode`. -/
def failureExitCode : UInt8 := 21

/-- `kStopCommand`. -/
def stopCommand : UInt8 := 0x53

/-- `FrameKind`, with the values that no kind has. -/
inductive FrameKind where
  | ready | progress | stopAcknowledged | stopIgnored | completed | cancelled
  | unknown (value : UInt16)
  deriving DecidableEq, Repr

/-- `is_known_kind`. -/
def FrameKind.isKnown : FrameKind → Bool
  | .unknown _ => false
  | _ => true

/-- A frame of the event channel. -/
structure Frame where
  magic : UInt32 := frameMagic
  version : UInt16 := frameVersion
  kind : FrameKind := .ready
  iterations : UInt64 := 0
  value : UInt64 := 0
  droppedProgress : UInt64 := 0
  deriving DecidableEq, Repr

/-- `sizeof(Frame)`. -/
def frameBytes : ℕ := 32

/-- The number of iterations that host and worker accept. -/
def validIterations (iterations : UInt64) : Prop :=
  0 < iterations ∧ iterations ≤ maximumIterations
  deriving Decidable

end RobotHarness.Compute
