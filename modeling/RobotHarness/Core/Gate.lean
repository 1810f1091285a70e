import Mathlib.Logic.Function.Basic
import RobotHarness.Core.Receipt

/-!
# The authority gate and its provider binding

The state and the const members of `AuthorityGate::Implementation`, the constructor, and
the operations that start, withdraw and replace a provider binding
(`src/core/authority_gate.cpp`). An operation returns its answer and the next state; an
early `return` of the source is a branch that keeps the state.
-/

namespace RobotHarness

/-- A startup observation that the gate retains for one of its three readiness slots. -/
structure StartupFact where
  observed : Bool := false
  value : Bool := false
  record : Option EvidenceRecord := none
  deriving DecidableEq, Repr

/-- An observation about a candidate, and whether its sequence number was contradicted:
`ReadinessFact`, and the pair `capabilities` and `capabilities_conflicted`. -/
structure CandidateFact (α : Type) where
  evidence : Option α := none
  conflicted : Bool := false
  deriving DecidableEq, Repr

/-- A binding that is prepared to replace the active one. -/
structure Candidate where
  binding : BindingIdentity
  preparedAt : MonotonicTime := 0
  oldScope : BindingReadinessEvidence
  readiness : Fin 3 → CandidateFact BindingReadinessEvidence := fun _ ↦ {}
  capabilities : CandidateFact ExecutionCapabilities := {}

/-- `AuthorityGate::Implementation`. -/
structure AuthorityGate where
  config : AuthorityGateConfig
  initializationState : InitializationState := .recoveryRequired
  bindingIdle : StartupFact := {}
  workerReady : StartupFact := {}
  resultSinkReady : StartupFact := {}
  bindingPhase : BindingPhase := .active
  generationHighWater : UInt64
  lastBindingControlAt : MonotonicTime
  withdrawnAt : Option MonotonicTime := none
  lastOldScopeRecord : Option EvidenceRecord := none
  candidate : Option Candidate := none
  nextOperationId : OperationId := 1
  currentReceipt : Option OperationReceipt := none
  lastNativeRecord : Option EvidenceRecord := none
  lastNativeKind : Option NativeEventKind := none
  executionCapabilities : Option ExecutionCapabilities := none

/-! ### Configuration -/

namespace AuthorityGateConfig

/-- The constructor's test: static identities and sources, with a stop stream of its own. -/
def Accepted (config : AuthorityGateConfig) : Prop :=
  config.binding.providerId ≠ "" ∧ config.binding.effectDomain ≠ "" ∧
    config.binding.compositionRevision ≠ 0 ∧ config.binding.providerGeneration ≠ 0 ∧
    config.capabilityId ≠ "" ∧ config.bindingObserver ≠ "" ∧ config.workerObserver ≠ "" ∧
    config.resultSinkObserver ≠ "" ∧ config.nativeEvidenceSource ≠ "" ∧
    config.settlementEvidenceSource ≠ "" ∧ config.settlementScope ≠ "" ∧
    config.stopEvidenceSource ≠ "" ∧
    config.stopEvidenceSource ≠ config.nativeEvidenceSource ∧
    config.stopEvidenceSource ≠ config.settlementEvidenceSource ∧
    config.stopEvidenceSource ≠ config.resultSinkObserver ∧
    (config.readinessKind = .workerReady ∨ config.readinessKind = .adapterReady)
  deriving Decidable

/-- The slot that the switch of `observe_startup` selects, when it selects one. -/
def startupIndex (config : AuthorityGateConfig) : StartupEvidenceKind → Option (Fin 3)
  | .bindingIdleAndSettled => some 0
  | .workerReady => if .workerReady ≠ config.readinessKind then none else some 1
  | .adapterReady => if .adapterReady ≠ config.readinessKind then none else some 1
  | .resultSinkReady => some 2

/-- `readiness_index`, with `none` for the source's -1. -/
def readinessIndex (config : AuthorityGateConfig) (kind : StartupEvidenceKind) :
    Option (Fin 3) :=
  if kind = .bindingIdleAndSettled then some 0
  else if kind = config.readinessKind then some 1
  else if kind = .resultSinkReady then some 2
  else none

/-- `readiness_source`: the observer expected for a slot. -/
def readinessSource (config : AuthorityGateConfig) : Fin 3 → String
  | 0 => config.bindingObserver
  | 1 => config.workerObserver
  | 2 => config.resultSinkObserver

end AuthorityGateConfig

/-! ### Retained observations -/

namespace StartupFact

/-- The comparison of `observe_startup` with the retained fact; `none` lets it pass. -/
def compare (fact : StartupFact) (evidence : StartupEvidence) :
    Option EvidenceDisposition :=
  match fact.record with
  | none => none
  | some record =>
    if evidence.record.sequence < record.sequence ∨
        evidence.record.observedAt < record.observedAt then
      some .rejected
    else if evidence.record.sequence = record.sequence then
      some (if recordsMatch evidence.record record ∧ evidence.observed = fact.value then
        .duplicate else .rejected)
    else none

end StartupFact


/-- What the contradiction rule reads and writes of an observation. -/
class Observation (α : Type) where
  record : α → EvidenceRecord
  withObservedAt : α → MonotonicTime → α

/-- What the gate compares of a readiness observation. -/
instance : Observation BindingReadinessEvidence where
  record := BindingReadinessEvidence.record
  withObservedAt evidence time :=
    { evidence with record := { evidence.record with observedAt := time } }

/-- What the gate compares of the capabilities. -/
instance : Observation ExecutionCapabilities where
  record := ExecutionCapabilities.record
  withObservedAt capabilities time :=
    { capabilities with record := { capabilities.record with observedAt := time } }

namespace CandidateFact

/-- The comparison with a retained observation that `observe_rebind_readiness` and the
candidate branch of `observe_execution_capabilities` make; `none` when it lets the new
one pass. A different observation under the retained sequence number marks the fact as
conflicted and keeps the later of the two times. -/
def compare {α : Type} [Observation α] (identical : α → α → Prop)
    [DecidableRel identical] (fact : CandidateFact α) (evidence : α) :
    Option (EvidenceDisposition × CandidateFact α) :=
  match fact.evidence with
  | none => none
  | some previous =>
    let record := Observation.record evidence
    let retained := Observation.record previous
    if record.sequence < retained.sequence then some (.rejected, fact)
    else if record.sequence = retained.sequence then
      if identical evidence previous then
        some (if fact.conflicted then .rejected else .duplicate, fact)
      else
        some (.rejected,
          { evidence := some (Observation.withObservedAt previous
              (max retained.observedAt record.observedAt))
            conflicted := true })
    else if record.observedAt < retained.observedAt then some (.rejected, fact)
    else none

end CandidateFact

/-- The fields that decide whether two readiness observations of a slot are identical. -/
def readinessIdentical (evidence previous : BindingReadinessEvidence) : Prop :=
  recordsMatch evidence.record previous.record ∧ evidence.observed = previous.observed ∧
    evidence.validUntil = previous.validUntil
  deriving Decidable

/-- The fields that decide whether two capability observations are identical. -/
def capabilitiesIdentical (capabilities previous : ExecutionCapabilities) : Prop :=
  recordsMatch capabilities.record previous.record ∧
    capabilities.capabilityId = previous.capabilityId ∧
    capabilities.profileId = previous.profileId ∧
    capabilities.maximumWorkUnits = previous.maximumWorkUnits ∧
    capabilities.available = previous.available ∧
    capabilities.validUntil = previous.validUntil
  deriving Decidable

namespace OperationReceipt

/-- `current_is_releasable`, on the receipt that is present. -/
def isReleasable (receipt : OperationReceipt) : Prop :=
  receipt.hasResolvedClosure ∧ receipt.authorityDisposition = .released
  deriving Decidable

end OperationReceipt

namespace AuthorityGate

/-! ### Construction and const members -/

/-- The state that `Implementation` is constructed with. -/
def initial (config : AuthorityGateConfig) : AuthorityGate :=
  { config := config
    generationHighWater := config.binding.providerGeneration
    lastBindingControlAt := config.startedAt }

/-- `AuthorityGate::AuthorityGate`: the gate, or the text of `std::invalid_argument`. -/
def create (config : AuthorityGateConfig) : Except String AuthorityGate :=
  if config.Accepted then .ok (initial config)
  else .error "authority gate configuration requires static identities and sources"

/-- `current_authority_matches`: the receipt that is present is of this authority, under the
binding that is still configured. -/
def currentAuthorityMatches (state : AuthorityGate) (authority : OperationAuthority) : Prop :=
  ∃ receipt ∈ state.currentReceipt,
    authority.binding = state.config.binding ∧ authorityMatches receipt.authority authority
  deriving Decidable

/-- The receipt an operation works on once `current_authority_matches` holds. -/
def matchingReceipt (state : AuthorityGate) (authority : OperationAuthority) :
    Option OperationReceipt :=
  if state.currentAuthorityMatches authority then state.currentReceipt else none

/-- The startup fact of a slot. -/
def startupFact (state : AuthorityGate) : Fin 3 → StartupFact
  | 0 => state.bindingIdle
  | 1 => state.workerReady
  | 2 => state.resultSinkReady

/-- Replace the startup fact of a slot. -/
def setStartupFact (state : AuthorityGate) (index : Fin 3) (fact : StartupFact) :
    AuthorityGate :=
  match index with
  | 0 => { state with bindingIdle := fact }
  | 1 => { state with workerReady := fact }
  | 2 => { state with resultSinkReady := fact }

/-- The times of the observations retained about a candidate. -/
def candidateTimes (candidate : Candidate) : List (Option MonotonicTime) :=
  [(candidate.readiness 0).evidence.map (·.record.observedAt),
    (candidate.readiness 1).evidence.map (·.record.observedAt),
    (candidate.readiness 2).evidence.map (·.record.observedAt),
    candidate.capabilities.evidence.map (·.record.observedAt)]

/-- `latest_binding_time`: no later control may be stamped before it. -/
def latestBindingTime (state : AuthorityGate) : MonotonicTime :=
  watermark state.lastBindingControlAt
    ([state.currentReceipt.map OperationReceipt.latestTime,
        state.bindingIdle.record.map EvidenceRecord.observedAt,
        state.workerReady.record.map EvidenceRecord.observedAt,
        state.resultSinkReady.record.map EvidenceRecord.observedAt,
        state.executionCapabilities.map (·.record.observedAt)] ++
      match state.candidate with
      | none => []
      | some candidate => candidateTimes candidate)

/-- `old_work_closed`: no receipt, or one that is releasable. -/
def oldWorkClosed (state : AuthorityGate) : Prop :=
  ∀ receipt ∈ state.currentReceipt, receipt.isReleasable
  deriving Decidable

/-- A readiness fact of a candidate that commits at `now`. -/
def readinessHolds (fact : CandidateFact BindingReadinessEvidence) (now : MonotonicTime) :
    Prop :=
  fact.conflicted = false ∧ ∃ evidence ∈ fact.evidence,
    evidence.observed = true ∧ evidence.record.observedAt ≤ now ∧ now < evidence.validUntil
  deriving Decidable

/-- The capabilities of a candidate that commit at `now`. -/
def capabilitiesHold (fact : CandidateFact ExecutionCapabilities) (now : MonotonicTime) :
    Prop :=
  fact.conflicted = false ∧ ∃ capabilities ∈ fact.evidence,
    capabilities.available = true ∧ capabilities.record.observedAt ≤ now ∧
      now < capabilities.validUntil
  deriving Decidable

/-- `can_commit`. -/
def canCommit (state : AuthorityGate) (now : MonotonicTime) : Prop :=
  state.bindingPhase = .preparing ∧ ∃ candidate ∈ state.candidate,
    state.latestBindingTime ≤ now ∧ state.oldWorkClosed ∧
      now < candidate.oldScope.validUntil ∧
      (∀ receipt ∈ state.currentReceipt,
        receipt.latestEffectTime ≤ candidate.oldScope.record.observedAt) ∧
      (∀ index, readinessHolds (candidate.readiness index) now) ∧
      (state.config.executionCapabilityObserver ≠ "" →
        capabilitiesHold candidate.capabilities now)
  deriving Decidable

/-! ### Startup -/

/-- Whether all three startup facts are observed and positive. -/
def startupComplete (state : AuthorityGate) : Prop :=
  (state.bindingIdle.observed ∧ state.bindingIdle.value) ∧
    (state.workerReady.observed ∧ state.workerReady.value) ∧
    (state.resultSinkReady.observed ∧ state.resultSinkReady.value)
  deriving Decidable

/-- The assignments of an accepted startup observation. -/
def recordStartup (state : AuthorityGate) (index : Fin 3) (evidence : StartupEvidence) :
    AuthorityGate :=
  let recorded := state.setStartupFact index ⟨true, evidence.observed, some evidence.record⟩
  { recorded with
    initializationState := if recorded.startupComplete then .ready else .recoveryRequired }

/-- A recorded startup observation assigns the facts and the initialization state alone,
and does not close the gate. -/
theorem recordStartup_eq (state : AuthorityGate) (index : Fin 3) (evidence : StartupEvidence) :
    ∃ idle ready sink initialization, initialization ≠ .closed ∧
      state.recordStartup index evidence =
        { state with
          bindingIdle := idle
          workerReady := ready
          resultSinkReady := sink
          initializationState := initialization } := by
  have hinit : ∀ s : AuthorityGate,
      (if s.startupComplete then InitializationState.ready else .recoveryRequired) ≠
        .closed := by
    intro s
    split <;> nofun
  match index with
  | 0 => exact ⟨_, _, _, _, hinit _, rfl⟩
  | 1 => exact ⟨_, _, _, _, hinit _, rfl⟩
  | 2 => exact ⟨_, _, _, _, hinit _, rfl⟩

/-- A recorded startup observation becomes the fact of its slot, and of no other. -/
theorem recordStartup_startupFact (state : AuthorityGate) (index slot : Fin 3)
    (evidence : StartupEvidence) :
    (state.recordStartup index evidence).startupFact slot =
      if slot = index then ⟨true, evidence.observed, some evidence.record⟩
      else state.startupFact slot := by
  match index, slot with
  | 0, 0 | 0, 1 | 0, 2 | 1, 0 | 1, 1 | 1, 2 | 2, 0 | 2, 1 | 2, 2 => rfl

/-- `AuthorityGate::observe_startup`. -/
def observeStartup (state : AuthorityGate) (evidence : StartupEvidence) :
    EvidenceDisposition × AuthorityGate :=
  if state.bindingPhase ≠ .active ∨ state.initializationState = .closed ∨
      state.currentReceipt.isSome ∨ evidence.binding ≠ state.config.binding then
    (.rejected, state)
  else
    match state.config.startupIndex evidence.kind with
    | none => (.rejected, state)
    | some index =>
      if ¬ isRecordWellFormed evidence.record (state.config.readinessSource index)
          state.config.startedAt then
        (.rejected, state)
      else
        match (state.startupFact index).compare evidence with
        | some disposition => (disposition, state)
        | none => (.accepted, state.recordStartup index evidence)

/-- `AuthorityGate::startup_status`. -/
def startupStatus (state : AuthorityGate) : StartupStatus :=
  let isReady := state.workerReady.observed && state.workerReady.value
  let readyRecord := if state.workerReady.observed then state.workerReady.record else none
  { state := state.initializationState
    binding := state.config.binding
    isBindingIdleAndSettled := state.bindingIdle.observed && state.bindingIdle.value
    isWorkerReady := decide (state.config.readinessKind = .workerReady) && isReady
    isAdapterReady := decide (state.config.readinessKind = .adapterReady) && isReady
    isResultSinkReady := state.resultSinkReady.observed && state.resultSinkReady.value
    bindingIdleAndSettled :=
      if state.bindingIdle.observed then state.bindingIdle.record else none
    workerReady := if state.config.readinessKind = .workerReady then readyRecord else none
    adapterReady := if state.config.readinessKind = .workerReady then none else readyRecord
    resultSinkReady :=
      if state.resultSinkReady.observed then state.resultSinkReady.record else none }

/-! ### Execution capabilities -/

/-- The candidate branch of `observe_execution_capabilities`. -/
def observeCandidateCapabilities (state : AuthorityGate) (candidate : Candidate)
    (capabilities : ExecutionCapabilities) : EvidenceDisposition × AuthorityGate :=
  if state.config.executionCapabilityObserver = "" ∨
      ¬ isRecordWellFormed capabilities.record state.config.executionCapabilityObserver
        candidate.preparedAt then
    (.rejected, state)
  else
    match candidate.capabilities.compare capabilitiesIdentical capabilities with
    | some (disposition, fact) =>
      (disposition, { state with candidate := some { candidate with capabilities := fact } })
    | none =>
      if capabilities.capabilityId ≠ state.config.capabilityId ∨
          capabilities.profileId = "" ∨ capabilities.maximumWorkUnits = 0 ∨
          capabilities.validUntil ≤ capabilities.record.observedAt then
        (.rejected, state)
      else
        (.accepted,
          { state with
            candidate := some { candidate with capabilities := ⟨some capabilities, false⟩ } })

/-- The comparison of the active branch of `observe_execution_capabilities` with the
retained capabilities; `none` lets the new ones pass. -/
def compareActiveCapabilities (state : AuthorityGate) (capabilities : ExecutionCapabilities) :
    Option EvidenceDisposition :=
  match state.executionCapabilities with
  | none => none
  | some previous =>
    if capabilities.record.observedAt < previous.record.observedAt ∨
        capabilities.record.sequence < previous.record.sequence then
      some .rejected
    else if capabilities.record.sequence = previous.record.sequence then
      some (if recordsMatch capabilities.record previous.record ∧
          capabilities.profileId = previous.profileId ∧
          capabilities.maximumWorkUnits = previous.maximumWorkUnits ∧
          capabilities.available = previous.available ∧
          capabilities.validUntil = previous.validUntil then
        .duplicate else .rejected)
    else none

/-- The active branch of `observe_execution_capabilities`. -/
def observeActiveCapabilities (state : AuthorityGate) (capabilities : ExecutionCapabilities) :
    EvidenceDisposition × AuthorityGate :=
  if state.initializationState = .closed ∨ state.config.executionCapabilityObserver = "" ∨
      capabilities.binding ≠ state.config.binding ∨
      capabilities.capabilityId ≠ state.config.capabilityId ∨
      capabilities.profileId = "" ∨ capabilities.maximumWorkUnits = 0 ∨
      capabilities.validUntil ≤ capabilities.record.observedAt ∨
      ¬ isRecordWellFormed capabilities.record state.config.executionCapabilityObserver
        state.config.startedAt then
    (.rejected, state)
  else
    match state.compareActiveCapabilities capabilities with
    | some disposition => (disposition, state)
    | none => (.accepted, { state with executionCapabilities := some capabilities })

/-- `AuthorityGate::observe_execution_capabilities`. -/
def observeExecutionCapabilities (state : AuthorityGate)
    (capabilities : ExecutionCapabilities) : EvidenceDisposition × AuthorityGate :=
  match state.candidate with
  | none => state.observeActiveCapabilities capabilities
  | some candidate =>
    if capabilities.binding = candidate.binding ∧ state.bindingPhase = .preparing then
      state.observeCandidateCapabilities candidate capabilities
    else state.observeActiveCapabilities capabilities

/-- `AuthorityGate::supports_execution`. -/
def supportsExecution (state : AuthorityGate) (requirements : ExecutionRequirements)
    (time : MonotonicTime) : Prop :=
  state.bindingPhase = .active ∧ state.initializationState ≠ .closed ∧
    requirements.profileId ≠ "" ∧ requirements.workUnits ≠ 0 ∧
    ∃ capabilities ∈ state.executionCapabilities,
      capabilities.available = true ∧ capabilities.profileId = requirements.profileId ∧
        requirements.workUnits ≤ capabilities.maximumWorkUnits ∧
        capabilities.record.observedAt ≤ time ∧ time < capabilities.validUntil
  deriving Decidable

/-! ### Withdrawal and rebinding -/

/-- `AuthorityGate::binding_status`. -/
def bindingStatus (state : AuthorityGate) (time : MonotonicTime) : BindingStatus :=
  { phase := state.bindingPhase
    active := state.config.binding
    candidate := state.candidate.map Candidate.binding
    canCommit := decide (state.canCommit time) }

/-- The binding that a withdrawal must name: the candidate's, or else the active one. -/
def withdrawableBinding (state : AuthorityGate) : BindingIdentity :=
  match state.candidate with
  | none => state.config.binding
  | some candidate => candidate.binding

/-- The receipt for which `withdraw_current` holds. -/
def withdrawnReceipt (state : AuthorityGate) : Option OperationReceipt :=
  match state.candidate, state.currentReceipt with
  | none, some receipt =>
    if state.currentAuthorityMatches receipt.authority ∧ ¬ receipt.isReleasable then
      some receipt
    else none
  | _, _ => none

/-- `AuthorityGate::withdraw_binding`. -/
def withdrawBinding (state : AuthorityGate) (expectedBinding : BindingIdentity)
    (now : MonotonicTime) : BindingDecision × AuthorityGate :=
  if state.bindingPhase = .closed then ({ status := .closed }, state)
  else if expectedBinding ≠ state.withdrawableBinding then
    ({ status := .staleIdentity }, state)
  else if now < state.latestBindingTime then ({ status := .invalidTime }, state)
  else if state.bindingPhase = .withdrawn then ({ status := .alreadyInPhase }, state)
  else
    let withdrawn :=
      { state with
        lastBindingControlAt := now
        initializationState := .recoveryRequired
        bindingPhase := .withdrawn }
    if state.candidate.isSome then
      ({ status := .applied }, { withdrawn with candidate := none })
    else
      match state.withdrawnReceipt with
      | none => ({ status := .applied }, { withdrawn with withdrawnAt := some now })
      | some receipt =>
        let (control, revoked) := (receipt.withdrawAt now).revoke now
        ({ status := .applied
           nativeStopAuthority :=
             if control.shouldRequestNativeStop then some receipt.authority else none },
          { withdrawn with withdrawnAt := some now, currentReceipt := some revoked })

/-- The earliest time of acceptable old-scope evidence; `*withdrawn_at` is present
whenever the phase is withdrawn. -/
def oldScopeEarliest (state : AuthorityGate) : MonotonicTime :=
  match state.currentReceipt with
  | none => state.withdrawnAt.getD 0
  | some receipt => max (state.withdrawnAt.getD 0) receipt.latestEffectTime

/-- The record test of `begin_rebind` against one retained idle or old-scope record. -/
def followsOldScope (evidence : BindingReadinessEvidence) (previous : Option EvidenceRecord) :
    Prop :=
  ∀ record ∈ previous,
    ¬ (evidence.record.sequence ≤ record.sequence ∨
      evidence.record.observedAt < record.observedAt)
  deriving Decidable

/-- The candidate that `begin_rebind` prepares. -/
def newCandidate (state : AuthorityGate) (newProviderId : String)
    (oldScopeEvidence : BindingReadinessEvidence) (now : MonotonicTime) : Candidate :=
  { binding :=
      { state.config.binding with
        providerId := newProviderId
        providerGeneration := state.generationHighWater + 1 }
    preparedAt := now
    oldScope := oldScopeEvidence }

/-- `AuthorityGate::begin_rebind`. -/
def beginRebind (state : AuthorityGate) (expectedOldBinding : BindingIdentity)
    (newProviderId : String) (oldScopeEvidence : BindingReadinessEvidence)
    (now : MonotonicTime) : BindingDecision × AuthorityGate :=
  if state.bindingPhase = .closed then ({ status := .closed }, state)
  else if expectedOldBinding ≠ state.config.binding then
    ({ status := .staleIdentity }, state)
  else if now < state.latestBindingTime then ({ status := .invalidTime }, state)
  else if state.candidate.isSome then
    ({ status := .alreadyInPhase, candidate := state.candidate.map Candidate.binding }, state)
  else if state.bindingPhase ≠ .withdrawn then ({ status := .wrongPhase }, state)
  else if ¬ state.oldWorkClosed then ({ status := .unresolvedWork }, state)
  else if newProviderId = "" then ({ status := .invalidProvider }, state)
  else if oldScopeEvidence.binding ≠ state.config.binding ∨
      oldScopeEvidence.kind ≠ .bindingIdleAndSettled ∨ oldScopeEvidence.observed = false ∨
      ¬ isRecordWellFormed oldScopeEvidence.record state.config.bindingObserver
        state.oldScopeEarliest ∨
      now < oldScopeEvidence.record.observedAt ∨ oldScopeEvidence.validUntil ≤ now then
    ({ status := .invalidEvidence }, state)
  else if ¬ followsOldScope oldScopeEvidence state.bindingIdle.record ∨
      ¬ followsOldScope oldScopeEvidence state.lastOldScopeRecord then
    ({ status := .invalidEvidence }, state)
  else if state.generationHighWater = 0xFFFFFFFFFFFFFFFF then
    ({ status := .identityExhausted }, state)
  else
    let candidate := state.newCandidate newProviderId oldScopeEvidence now
    ({ status := .applied, candidate := some candidate.binding },
      { state with
        candidate := some candidate
        lastOldScopeRecord := some oldScopeEvidence.record
        generationHighWater := state.generationHighWater + 1
        lastBindingControlAt := now
        bindingPhase := .preparing })

/-- Replace one readiness fact of the candidate. -/
def setReadiness (state : AuthorityGate) (candidate : Candidate) (index : Fin 3)
    (fact : CandidateFact BindingReadinessEvidence) : AuthorityGate :=
  { state with
    candidate := some
      { candidate with readiness := Function.update candidate.readiness index fact } }

/-- Replacing a readiness fact by itself changes nothing. -/
theorem setReadiness_self {state : AuthorityGate} {candidate : Candidate}
    (present : state.candidate = some candidate) (index : Fin 3) :
    state.setReadiness candidate index (candidate.readiness index) = state := by
  simp only [setReadiness, Function.update_eq_self]
  rw [← present]

/-- `AuthorityGate::observe_rebind_readiness`. -/
def observeRebindReadiness (state : AuthorityGate) (evidence : BindingReadinessEvidence) :
    EvidenceDisposition × AuthorityGate :=
  match state.candidate with
  | none => (.rejected, state)
  | some candidate =>
    if state.bindingPhase ≠ .preparing ∨ evidence.binding ≠ candidate.binding then
      (.rejected, state)
    else
      match state.config.readinessIndex evidence.kind with
      | none => (.rejected, state)
      | some index =>
        if ¬ isRecordWellFormed evidence.record (state.config.readinessSource index)
            candidate.preparedAt then
          (.rejected, state)
        else
          match (candidate.readiness index).compare readinessIdentical evidence with
          | some (disposition, fact) => (disposition, state.setReadiness candidate index fact)
          | none =>
            if evidence.validUntil ≤ evidence.record.observedAt then (.rejected, state)
            else (.accepted, state.setReadiness candidate index ⟨some evidence, false⟩)

/-- The startup fact that a committed readiness fact becomes. -/
def committedFact (candidate : Candidate) (index : Fin 3) : StartupFact :=
  ⟨true, true, (candidate.readiness index).evidence.map (·.record)⟩

/-- The state after a commit of the candidate. -/
def committed (state : AuthorityGate) (candidate : Candidate) (now : MonotonicTime) :
    AuthorityGate :=
  { state with
    config := { state.config with binding := candidate.binding }
    bindingIdle := committedFact candidate 0
    workerReady := committedFact candidate 1
    resultSinkReady := committedFact candidate 2
    executionCapabilities := candidate.capabilities.evidence
    lastOldScopeRecord := none
    candidate := none
    lastBindingControlAt := now
    initializationState := .ready
    bindingPhase := .active }

/-- `AuthorityGate::commit_rebind`. -/
def commitRebind (state : AuthorityGate) (expectedCandidate : BindingIdentity)
    (now : MonotonicTime) : BindingDecision × AuthorityGate :=
  if state.bindingPhase = .closed then ({ status := .closed }, state)
  else if now < state.latestBindingTime then ({ status := .invalidTime }, state)
  else
    match state.candidate with
    | none =>
      if state.bindingPhase = .active ∧ state.withdrawnAt.isSome ∧
          expectedCandidate = state.config.binding then
        ({ status := .alreadyInPhase }, state)
      else ({ status := .staleIdentity }, state)
    | some candidate =>
      if expectedCandidate ≠ candidate.binding then ({ status := .staleIdentity }, state)
      else if ¬ state.oldWorkClosed then ({ status := .unresolvedWork }, state)
      else if ¬ state.canCommit now then ({ status := .invalidEvidence }, state)
      else ({ status := .applied }, state.committed candidate now)

end AuthorityGate

end RobotHarness
