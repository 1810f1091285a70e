import Mathlib.Algebra.Group.Nat.Defs
import RobotHarness.Base.Fallible
import RobotHarness.Core.Run

/-!
# The gate that Python uses

`Gate` of `bindings/python/core_module.cpp`: one authority gate with the identities of its
sources, a sequence that all its evidence shares, and the authority of the last admission. A
kind that the caller passes as a string is here the enumeration that the string selects.
-/

namespace RobotHarness.Python

/-- What a call raises. -/
inductive Failure where
  | valueError (text : String)
  | keyError (key : String)
  | typeError
  | overflowError
  | runtimeError (text : String)
  /-- What a callback of the owner raises. -/
  | callback
  deriving DecidableEq, Repr

/-- `kMaximumTextBytes`. -/
def maximumTextBytes : ℕ := 1024

/-- `kBindingSource`. -/
def bindingSource : String := "python-binding"

/-- `kWorkerSource`. -/
def workerSource : String := "python-worker"

/-- `kAdapterSource`. -/
def adapterSource : String := "python-adapter"

/-- `kSinkSource`. -/
def sinkSource : String := "python-result-sink"

/-- `kNativeSource`. -/
def nativeSource : String := "python-episode"

/-- `kSettlementSource`. -/
def settlementSource : String := "python-closure"

/-- `kCapabilitySource`. -/
def capabilitySource : String := "python-capabilities"

/-- `kSettlementScope`. -/
def settlementScope : String := "python-episode-lane"

/-- `unsigned_value` of an integer that is not negative. -/
def unsignedValue (n : ℕ) : Except Failure UInt64 :=
  if n < 2 ^ 64 then .ok (.ofNat n) else .error .overflowError

/-- `text_value`. -/
def textValue (text : String) (allowEmpty : Bool) : Except Failure String :=
  if (allowEmpty = false ∧ text.utf8ByteSize = 0) ∨ maximumTextBytes < text.utf8ByteSize then
    .error (.valueError "string must contain 1 to 1024 UTF-8 bytes")
  else if text.toList.contains '\x00' then
    .error (.valueError "strings must not contain NUL")
  else .ok text

/-- `GateState`. -/
structure GateState where
  binding : BindingIdentity
  capability : String
  profile : String
  settlementScope : String
  maximumUnits : UInt64
  gate : AuthorityGate
  sequence : UInt64 := 0
  authority : Option OperationAuthority := none

/-- A call of the gate. -/
abbrev GateProgram := Fallible Failure GateState

/-- What `output` publishes. -/
inductive Publication where
  | accepted | noOutput | authorityRevoked | sinkRejected
  deriving DecidableEq, Repr

/-- The configuration of `gate_init`. -/
def gateConfig (provider domain capability scope : String) (now : MonotonicTime) :
    AuthorityGateConfig :=
  { binding := ⟨provider, domain, 1, 1⟩
    capabilityId := capability
    bindingObserver := bindingSource
    workerObserver := workerSource
    resultSinkObserver := sinkSource
    nativeEvidenceSource := nativeSource
    settlementEvidenceSource := settlementSource
    settlementScope := scope
    startedAt := now
    executionCapabilityObserver := capabilitySource }

namespace GateState

/-- The state that `gate_init` builds from converted arguments. -/
def initial (config : AuthorityGateConfig) (profile : String) (maximumUnits : UInt64) :
    GateState :=
  { binding := config.binding
    capability := config.capabilityId
    profile
    settlementScope := config.settlementScope
    maximumUnits
    gate := .initial config }

/-- `gate_init`: the conversions of its arguments, then the constructor of the gate. -/
def create (provider domain capability profile : String) (maximum now : ℕ)
    (scope : Option String) : Except Failure GateState := do
  let provider ← textValue provider false
  let domain ← textValue domain false
  let capability ← textValue capability false
  let profile ← textValue profile false
  let maximumUnits ← unsignedValue maximum
  let now ← unsignedValue now
  let scope ← match scope with
    | some scope => textValue scope false
    | none => pure Python.settlementScope
  let config := gateConfig provider domain capability scope now
  match AuthorityGate.create config with
  | .ok _ => .ok (initial config profile maximumUnits)
  | .error text => .error (.valueError text)

/-- `record`. -/
def record (source : String) (now : MonotonicTime) : GateProgram EvidenceRecord := fun state ↦
  if state.sequence = 0xFFFFFFFFFFFFFFFF then (.error .overflowError, state)
  else
    (.ok ⟨source, now, state.sequence + 1⟩, { state with sequence := state.sequence + 1 })

/-- A call of `state.gate`. -/
def onGate {α : Type} (call : AuthorityGate → α × AuthorityGate) : GateProgram α := fun state ↦
  (.ok (call state.gate).1, { state with gate := (call state.gate).2 })

/-- `operation_value`: the authority of the current operation. -/
def operationValue (operation : OperationId) : GateProgram OperationAuthority := do
  match ← Fallible.read GateState.authority with
  | some authority =>
    if authority.operationId = operation then pure authority
    else .raise (.valueError "operation_id is not the current operation")
  | none => .raise (.valueError "operation_id is not the current operation")

/-- The source of a kind of readiness. -/
def startupSource : StartupEvidenceKind → String
  | .bindingIdleAndSettled => bindingSource
  | .workerReady => workerSource
  | .resultSinkReady => sinkSource
  | .adapterReady => adapterSource

/-- `gate_startup`. -/
def startup (kind : StartupEvidenceKind) (observed : Bool) (now : ℕ) :
    GateProgram EvidenceDisposition := do
  let now ← .answer (unsignedValue now)
  let binding ← .read GateState.binding
  let evidence ← record (startupSource kind) now
  onGate (·.observeStartup ⟨kind, binding, evidence, observed⟩)

/-- `gate_capabilities`. -/
def capabilities (available : Bool) (now validUntil : ℕ) : GateProgram EvidenceDisposition := do
  let now ← .answer (unsignedValue now)
  let validUntil ← .answer (unsignedValue validUntil)
  let state ← .read id
  let evidence ← record capabilitySource now
  onGate (·.observeExecutionCapabilities
    ⟨state.binding, state.capability, state.profile, state.maximumUnits, available, evidence,
      validUntil⟩)

/-- `gate_admit`. -/
def admitRequest (reference : String) (units : ℕ) (deadline : Option ℕ) (now : ℕ) :
    GateProgram AdmissionDecision := do
  let reference ← .answer (textValue reference false)
  let units ← .answer (unsignedValue units)
  let now ← .answer (unsignedValue now)
  let deadline ←
    (match deadline with
      | some deadline => some <$> .answer (unsignedValue deadline)
      | none => pure none : GateProgram (Option UInt64))
  let state ← .read id
  let decision ← onGate (·.admitRequest
    { capabilityId := state.capability
      effectDomain := state.binding.effectDomain
      opaqueRequestReference := reference
      targetReference := reference
      requestedAt := now
      deadline
      executionRequirements := some ⟨state.profile, units⟩ })
  .assign fun state ↦
    { state with authority := if decision.authority.isSome then decision.authority
        else state.authority }
  pure decision

/-- `operation_time`: a call for the current operation at a time. -/
def operationTime {α : Type} (operation : OperationId) (now : ℕ)
    (call : OperationAuthority → MonotonicTime → GateProgram α) : GateProgram α := do
  let authority ← operationValue operation
  let now ← .answer (unsignedValue now)
  call authority now

/-- `gate_dispatch`. -/
def dispatch (operation : OperationId) (now : ℕ) : GateProgram Bool :=
  operationTime operation now fun authority now ↦ onGate (·.claimDispatch authority now)

/-- `gate_tick`. -/
def tick (operation : OperationId) (now : ℕ) : GateProgram ControlStatus :=
  operationTime operation now fun authority now ↦ do
    let decision ← onGate (·.observeTime authority now)
    pure decision.status

/-- `gate_cancel`. -/
def cancel (operation : OperationId) (now : ℕ) : GateProgram ControlStatus :=
  operationTime operation now fun authority now ↦ do
    let decision ← onGate (·.requestCancel authority now)
    pure decision.status

/-- `gate_non_submission`. -/
def nonSubmission (operation : OperationId) (now : ℕ) : GateProgram EvidenceDisposition :=
  operationTime operation now fun authority now ↦ do
    let evidence ← record Python.settlementSource now
    onGate (·.observeNonSubmission ⟨authority, evidence⟩)

/-- `gate_settle`. -/
def settle (operation : OperationId) (now : ℕ) : GateProgram EvidenceDisposition :=
  operationTime operation now fun authority now ↦ do
    let scope ← .read GateState.settlementScope
    let evidence ← record Python.settlementSource now
    onGate (·.observeSettlement ⟨authority, scope, true, evidence⟩)

/-- `gate_receipt`. -/
def receipt (operation : OperationId) : GateProgram (Option OperationReceipt) := do
  let authority ← operationValue operation
  .read (·.gate.receipt authority)

/-- `gate_can_deliver`. -/
def canDeliver (operation : OperationId) : GateProgram Bool := do
  let authority ← operationValue operation
  .read fun state ↦ decide (state.gate.canDeliverResult authority)

/-- `gate_supports`. -/
def supports (units now : ℕ) : GateProgram Bool := do
  let units ← .answer (unsignedValue units)
  let now ← .answer (unsignedValue now)
  .read fun state ↦ decide (state.gate.supportsExecution ⟨state.profile, units⟩ now)

/-- The identity that `gate_native` makes for an operation. -/
def episodeIdentity (operation : OperationId) : String := "episode-" ++ toString operation

/-- `gate_native`. -/
def native (operation : OperationId) (kind : NativeEventKind) (now : ℕ)
    (nativeIdentity : Option String) : GateProgram EvidenceDisposition := do
  let authority ← operationValue operation
  let now ← .answer (unsignedValue now)
  let identity ←
    (match nativeIdentity with
      | some identity => .answer (textValue identity false)
      | none => pure (episodeIdentity authority.operationId) : GateProgram String)
  let evidence ← record nativeSource now
  onGate (·.observeNative ⟨authority, identity, kind, evidence⟩)

/-- `gate_output`. -/
def output (operation : OperationId) (publication : Publication) (reference : String)
    (now : ℕ) : GateProgram EvidenceDisposition := do
  let authority ← operationValue operation
  let reference ← .answer (textValue reference true)
  let now ← .answer (unsignedValue now)
  match publication with
  | .accepted =>
    let evidence ← record sinkSource now
    onGate (·.observeOutputAccepted ⟨authority, reference, evidence⟩)
  | .noOutput =>
    let evidence ← record Python.settlementSource now
    onGate (·.observeOutputNotDelivered ⟨authority, .noOutputProduced, reference, evidence⟩)
  | .authorityRevoked =>
    let evidence ← record sinkSource now
    onGate (·.observeOutputNotDelivered ⟨authority, .authorityRevoked, reference, evidence⟩)
  | .sinkRejected =>
    let evidence ← record sinkSource now
    onGate (·.observeOutputNotDelivered ⟨authority, .sinkRejected, reference, evidence⟩)

/-- `gate_close`. -/
def close : GateProgram Unit := .assign fun state ↦
  { state with gate := state.gate.closeAdmission }

end GateState

end RobotHarness.Python
