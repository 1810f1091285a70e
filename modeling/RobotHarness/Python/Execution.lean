import RobotHarness.Base.Table
import RobotHarness.Python.Gate
import RobotHarness.Transport.Channel

/-!
# The coordinator of requests

`ExecutionCoordinator` of `bindings/python/robot_harness/_execution.py`. A record is named by
its request, which is the identity that the source compares with `is`; the arguments and the
fields that the driver adds are those of the driver. Readings of the clock are arguments.
Beside the members of the source the coordinator keeps the calls of `gate.admit`.
-/

namespace RobotHarness.Python

open Transport (Json)

/-- `MAX_RECORDS`. -/
def maxRecords : ℕ := 64

/-- How far a record has come. -/
inductive RecordState where
  | rejected | running | finished
  deriving DecidableEq, Repr

/-- A retained request: its arguments, and what became of it. -/
structure Record (α δ : Type) where
  requestId : String
  arguments : α
  /-- The fields of the driver. -/
  driver : δ
  state : RecordState := .rejected
  operationId : Option OperationId := none
  result : Option Json := none
  receipt : Option OperationReceipt := none
  reason : Option String := none
  diagnostic : Option Json := none

/-- What `snapshot` returns: a record without its arguments. -/
structure Snapshot (δ : Type) where
  requestId : String
  driver : δ
  state : RecordState
  operationId : Option OperationId
  result : Option Json
  receipt : Option OperationReceipt
  reason : Option String
  diagnostic : Option Json

/-- The arguments of a call of `gate.admit`. -/
structure Admission where
  requestId : String
  units : ℕ
  deadline : Option ℕ
  stamp : ℕ
  deriving DecidableEq, Repr

/-- `name` of an admission status. -/
def admissionName : AdmissionStatus → String
  | .admitted => "admitted"
  | .invalidRequest => "invalid_request"
  | .expired => "expired"
  | .recoveryRequired => "recovery_required"
  | .domainOccupied => "domain_occupied"
  | .closed => "closed"
  | .capabilitiesUnavailable => "capabilities_unavailable"

/-- `name` of a disposition of evidence. -/
def dispositionName : EvidenceDisposition → String
  | .accepted => "accepted"
  | .duplicate => "duplicate"
  | .rejected => "rejected"

/-- The records of a session over its gate. -/
structure ExecutionCoordinator (α δ : Type) where
  gate : GateState
  records : Table String (Record α δ) := .empty
  active : Option String := none
  /-- The calls of `gate.admit`, oldest first. -/
  admissions : List Admission := []

/-- A method of the coordinator. -/
abbrev Coordination (α δ : Type) := Fallible Failure (ExecutionCoordinator α δ)

/-- What `accepted` raises. -/
def coreRejected (disposition : EvidenceDisposition) : Failure :=
  .runtimeError ("Core rejected evidence: " ++ dispositionName disposition)

/-- `accepted`. -/
def accepted {σ : Type} (disposition : EvidenceDisposition) : Fallible Failure σ Unit :=
  if disposition ≠ .accepted then .raise (coreRejected disposition) else pure ()

namespace ExecutionCoordinator

variable {α δ : Type}

/-- A call of `self.gate`. -/
def onGate {β : Type} (call : GateProgram β) : Coordination α δ β :=
  .within ExecutionCoordinator.gate (fun gate execution ↦ { execution with gate }) call

/-- `self.records[reference]`. -/
def lookup (reference : String) : Coordination α δ (Record α δ) := do
  match ← Fallible.read (·.records.get? reference) with
  | some record => pure record
  | none => .raise (.keyError reference)

/-- The record of a request, with some of its items changed. -/
def withRecord (execution : ExecutionCoordinator α δ) (reference : String)
    (f : Record α δ → Record α δ) : ExecutionCoordinator α δ :=
  match execution.records.get? reference with
  | some record => { execution with records := execution.records.set reference (f record) }
  | none => execution

/-- `record.update`. -/
def update (reference : String) (f : Record α δ → Record α δ) : Coordination α δ Unit :=
  .assign (·.withRecord reference f)

/-- `_retained`. -/
def retained (reference : String) : Coordination α δ (Record α δ) := do
  match ← Fallible.read (·.records.get? reference) with
  | some record => pure record
  | none => .raise (.valueError "request is not retained by this coordinator")

/-- `reserve`: whether the record is new. -/
def reserve [DecidableEq α] (reference : String) (arguments : α)
    (driverFields : Except Failure δ) : Coordination α δ Bool := do
  let records ← .read ExecutionCoordinator.records
  match records.get? reference with
  | some record =>
    if record.arguments ≠ arguments then
      .raise (.valueError "request ID reused with different arguments")
    else pure false
  | none =>
    if maxRecords ≤ records.size then
      .raise (.valueError "session record capacity reached; open a new session")
    else
      let driver ← .answer driverFields
      .assign fun execution ↦
        { execution with
          records := execution.records.set reference ⟨reference, arguments, driver,
            .rejected, none, none, none, none, none⟩ }
      pure true

/-- `_operation`. -/
def operation (reference : String) : Coordination α δ OperationId := do
  let record ← retained reference
  let active ← .read ExecutionCoordinator.active
  if active ≠ some reference then .raise (.valueError "request is not active")
  else
    match record.operationId with
    | some operation => pure operation
    | none => .raise .typeError

/-- `snapshot`. -/
def snapshot (reference : String) : Coordination α δ (Snapshot δ) := do
  let record ← lookup reference
  let active ← .read ExecutionCoordinator.active
  let receipt ←
    (if active = some reference then
      match record.operationId with
      | some operation => onGate (GateState.receipt operation)
      | none => .raise .typeError
    else pure record.receipt)
  pure ⟨record.requestId, record.driver, record.state, record.operationId, record.result, receipt,
    record.reason, record.diagnostic⟩

/-- `admit`. -/
def admitRecord (reference : String) (units : ℕ) (deadline : Option ℕ) (stamp : ℕ) :
    Coordination α δ AdmissionDecision := do
  let record ← retained reference
  let active ← .read ExecutionCoordinator.active
  if active.isSome ∨ record.operationId.isSome then
    .raise (.valueError "active operation must be released before admission")
  else
    .assign fun execution ↦
      { execution with
        admissions := execution.admissions ++ [⟨reference, units, deadline, stamp⟩] }
    let decision ← onGate (GateState.admitRequest reference units deadline stamp)
    update reference fun record ↦ { record with reason := some (admissionName decision.status) }
    if decision.status = .admitted then
      update reference fun record ↦
        { record with
          operationId := decision.authority.map (·.operationId)
          state := .running }
      .assign fun execution ↦ { execution with active := some reference }
      pure decision
    else pure decision

/-- `dispatch`. -/
def dispatch (reference : String) (now : ℕ) : Coordination α δ Bool := do
  let operation ← operation reference
  onGate (GateState.dispatch operation now)

/-- `non_submission`. -/
def nonSubmission (reference : String) (now : ℕ) : Coordination α δ EvidenceDisposition := do
  let operation ← operation reference
  onGate (GateState.nonSubmission operation now)

/-- `tick`, without a receipt where no operation is active. -/
def tick (now : ℕ) : Coordination α δ (Option OperationReceipt) := do
  match ← Fallible.read ExecutionCoordinator.active with
  | none => pure none
  | some reference =>
    let operation ← operation reference
    let _ ← onGate (GateState.tick operation now)
    onGate (GateState.receipt operation)

/-- `cancel`. -/
def cancel (reference : String) (now : ℕ) : Coordination α δ Bool := do
  let _ ← retained reference
  let active ← .read ExecutionCoordinator.active
  if active ≠ some reference then pure false
  else
    let operation ← operation reference
    let _ ← onGate (GateState.cancel operation now)
    pure true

/-- `native`. -/
def native (reference : String) (kind : NativeEventKind) (nativeIdentity : Option String)
    (now : ℕ) : Coordination α δ EvidenceDisposition := do
  let operation ← operation reference
  onGate (GateState.native operation kind now nativeIdentity)

/-- `record['diagnostic'] = diagnostic()`. -/
def diagnose (reference : String) (diagnostic : Except Failure Json) : Coordination α δ Unit := do
  let observed ← .answer diagnostic
  update reference fun record ↦ { record with diagnostic := some observed }

/-- `dispose_result`, with the readings of the clock in the order in which it takes them. -/
def disposeResult (reference : String) (candidate : Option Json)
    (diagnostic : Except Failure Json) (now now' now'' : ℕ) : Coordination α δ Unit := do
  let operation ← operation reference
  let deliverable ←
    (if candidate.isSome then onGate (GateState.canDeliver operation) else pure false)
  if deliverable = true then
    update reference fun record ↦ { record with result := candidate }
    let disposition ← onGate (GateState.output operation .accepted reference now)
    if disposition ≠ .accepted then
      update reference fun record ↦ { record with result := none }
      diagnose reference diagnostic
      let _ ← onGate (GateState.tick operation now')
      let deliverable ← onGate (GateState.canDeliver operation)
      (if deliverable = true then accepted disposition else pure ())
      let disposition ← onGate (GateState.output operation .authorityRevoked reference now'')
      accepted disposition
    else pure ()
  else
    diagnose reference diagnostic
    let disposition ← onGate (GateState.output operation
      (if candidate.isSome then .authorityRevoked else .noOutput)
      (if candidate.isSome then reference else "") now)
    accepted disposition

/-- `settle`. -/
def settle (reference : String) (now : ℕ) : Coordination α δ Unit := do
  let operation ← operation reference
  let disposition ← onGate (GateState.settle operation now)
  accepted disposition
  let receipt ← onGate (GateState.receipt operation)
  update reference fun record ↦ { record with state := .finished, receipt }

/-- `release`. -/
def release (reference : String) : Coordination α δ Unit := do
  let operation ← operation reference
  match ← onGate (GateState.receipt operation) with
  | none => .raise .typeError
  | some receipt =>
    if receipt.settlement ≠ .settled then
      .raise (.valueError "cannot release an unsettled operation")
    else .assign fun execution ↦ { execution with active := none }

end ExecutionCoordinator

end RobotHarness.Python
