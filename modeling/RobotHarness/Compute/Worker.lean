import RobotHarness.Compute.Squares

/-!
# The worker

`run` of `src/compute/compute_worker.cpp`. The outcomes of its control reads and of its frame
writes are arguments, and it yields what it did that its host can tell: the frames that were
written and the receipt of a stop.
-/

namespace RobotHarness.Compute

/-- `SendResult`. -/
inductive SendResult where
  | sent | dropped | failed
  deriving DecidableEq, Repr

/-- What a read of the control channel returns: a byte, the end of the channel, an error to
retry later, or another error. -/
inductive ControlRead where
  | byte (command : UInt8)
  | eof
  | retry
  | failed
  deriving DecidableEq, Repr

/-- What a worker meets: the outcome of each kind of frame, and for each batch the read
before it and the outcome of its progress frame. -/
structure WorkerAnswers where
  ready : SendResult
  control : ℕ → ControlRead
  progress : ℕ → SendResult
  acknowledged : SendResult
  cancelled : SendResult
  completed : SendResult

/-- What a worker does: it has written a frame, or has received the stop command. -/
inductive WorkerEvent where
  | wrote (frame : Frame)
  | receivedStop
  deriving DecidableEq, Repr

/-- The limit that `parse_iterations` accepts. -/
structure IterationLimit where
  value : UInt64
  valid : validIterations value

namespace Worker

/-- The end of `run`: the completed frame. -/
def complete (answers : WorkerAnswers) (completed sum dropped : UInt64) :
    List WorkerEvent × UInt8 :=
  if answers.completed = .sent then
    ([.wrote
      { kind := .completed, iterations := completed, value := sum, droppedProgress := dropped }], 0)
  else ([], failureExitCode)

/-- The answer of `run` to a stop command. -/
def stop (answers : WorkerAnswers) (completed sum dropped : UInt64) :
    List WorkerEvent × UInt8 :=
  let acknowledged : Frame :=
    { kind := .stopAcknowledged
      iterations := completed
      value := sum
      droppedProgress := dropped }
  if answers.acknowledged ≠ .sent then ([.receivedStop], failureExitCode)
  else if answers.cancelled ≠ .sent then
    ([.receivedStop, .wrote acknowledged], failureExitCode)
  else
    ([.receivedStop, .wrote acknowledged, .wrote { acknowledged with kind := .cancelled }],
      cancelledExitCode)

/-- The end of the next batch. -/
def batchEnd (limit : IterationLimit) (completed : UInt64) : UInt64 :=
  min (completed + batchIterations) limit.value

/-- The end of a batch does not wrap. -/
theorem lt_add_batch {completed : UInt64} (h : completed < maximumIterations) :
    completed < completed + batchIterations := by
  rw [UInt64.lt_iff_toNat_lt] at h
  rw [UInt64.lt_iff_toNat_lt, UInt64.toNat_add]
  simp [maximumIterations, batchIterations] at h ⊢
  omega

/-- A batch makes at least one iteration. -/
theorem lt_batchEnd {limit : IterationLimit} {completed : UInt64}
    (h : completed < limit.value) : completed < batchEnd limit completed :=
  lt_min (lt_add_batch (h.trans_le limit.valid.2)) h

/-- The loop of `run` from a batch on. -/
def loop (limit : IterationLimit) (answers : WorkerAnswers) (batch : ℕ)
    (completed sum dropped : UInt64) : List WorkerEvent × UInt8 :=
  if completed < limit.value then
    match answers.control batch with
    | .byte command =>
      if command ≠ stopCommand then ([], failureExitCode)
      else stop answers completed sum dropped
    | .eof => ([], failureExitCode)
    | .failed => ([], failureExitCode)
    | .retry =>
      let after := addSquares (batchEnd limit completed) completed sum
      let progress : Frame :=
        { kind := .progress
          iterations := after.1
          value := after.2
          droppedProgress := dropped }
      match answers.progress batch with
      | .sent =>
        let (events, code) := loop limit answers (batch + 1) after.1 after.2 dropped
        (.wrote progress :: events, code)
      | .dropped => loop limit answers (batch + 1) after.1 after.2 (dropped + 1)
      | .failed => ([], failureExitCode)
  else complete answers completed sum dropped
termination_by limit.value.toNat - completed.toNat
decreasing_by
  all_goals
    have hlt : completed < limit.value := by assumption
    have hend := lt_batchEnd hlt
    have hle : batchEnd limit completed ≤ limit.value := min_le_right _ _
    have hafter : after.1 = batchEnd limit completed := addSquares_fst hend.le
    rw [hafter]
    rw [UInt64.lt_iff_toNat_lt] at hend
    rw [UInt64.le_iff_toNat_le] at hle
    rw [UInt64.lt_iff_toNat_lt] at hlt
    omega

/-- `run`, with the exit code of the worker. -/
def run (limit : IterationLimit) (answers : WorkerAnswers) : List WorkerEvent × UInt8 :=
  if answers.ready ≠ .sent then ([], failureExitCode)
  else
    let (events, code) := loop limit answers 0 0 0 0
    (.wrote {} :: events, code)

end Worker

end RobotHarness.Compute
