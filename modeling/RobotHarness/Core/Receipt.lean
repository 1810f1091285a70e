import RobotHarness.Base.Watermark
import RobotHarness.Core.Types

/-!
# Operation receipts

The file-local functions of `src/core/authority_gate.cpp` on one receipt, the closure
tests of `Implementation`, and the field assignments that its operations make. Every
assignment ends as in the source: `revoke` and most evidence recompute the cached
disposition, a claimed dispatch and a stop response do not.
-/

namespace RobotHarness

/-- `records_match`: equality of source, time and sequence. -/
def recordsMatch (left right : EvidenceRecord) : Prop :=
  left.source = right.source ∧ left.observedAt = right.observedAt ∧
    left.sequence = right.sequence
  deriving Decidable

/-- `authority_matches`: equality of id, binding and admission time. -/
def authorityMatches (left right : OperationAuthority) : Prop :=
  left.operationId = right.operationId ∧ left.binding = right.binding ∧
    left.admittedAt = right.admittedAt
  deriving Decidable

/-- `is_record_well_formed`: the expected nonempty source, a sequence and no early time. -/
def isRecordWellFormed (record : EvidenceRecord) (expectedSource : String)
    (earliestTime : MonotonicTime) : Prop :=
  record.source ≠ "" ∧ record.source = expectedSource ∧ record.sequence ≠ 0 ∧
    earliestTime ≤ record.observedAt
  deriving Decidable

/-- Matching records are equal. -/
@[simp] theorem recordsMatch_iff {left right : EvidenceRecord} :
    recordsMatch left right ↔ left = right := by
  cases left
  cases right
  simp [recordsMatch]

/-- Matching authorities are equal. -/
@[simp] theorem authorityMatches_iff {left right : OperationAuthority} :
    authorityMatches left right ↔ left = right := by
  cases left
  cases right
  simp [authorityMatches]

namespace OperationReceipt

/-- The records of effects: all of `receipt_records` but the stop response. -/
def effectRecords (receipt : OperationReceipt) : List (Option EvidenceRecord) :=
  [receipt.nativeAcceptanceEvidence, receipt.nativeRejectionEvidence,
    receipt.nativeStartedEvidence, receipt.nativeSuccessEvidence,
    receipt.nativeFailureEvidence, receipt.outputEvidence,
    receipt.nonSubmissionEvidence, receipt.outputNonDeliveryEvidence,
    receipt.settlementEvidence, receipt.nativeCancellationEvidence]

/-- `receipt_records`: every evidence record of the receipt, the stop response last. -/
def receiptRecords (receipt : OperationReceipt) : List (Option EvidenceRecord) :=
  receipt.effectRecords ++ [receipt.stopAcknowledgementEvidence]

/-- `follows_same_source_records`: no retained record of the same source is at or past
the sequence of the evidence. -/
def followsSameSourceRecords (evidence : EvidenceRecord) (receipt : OperationReceipt) : Prop :=
  ∀ slot ∈ receipt.receiptRecords, ∀ record ∈ slot,
    ¬ (record.source = evidence.source ∧ evidence.sequence ≤ record.sequence)
  deriving Decidable

/-- `is_revoked`: a cancellation, an expiry or a withdrawal is recorded. -/
def isRevoked (receipt : OperationReceipt) : Prop :=
  receipt.cancellationRequestedAt.isSome ∨ receipt.expiryObservedAt.isSome ∨
    receipt.bindingWithdrawnAt.isSome
  deriving Decidable

/-- `latest_effect_time`: the latest of admission, dispatch and every effect record. -/
def latestEffectTime (receipt : OperationReceipt) : MonotonicTime :=
  watermark receipt.authority.admittedAt
    (receipt.dispatchedAt :: receipt.effectRecords.map (Option.map EvidenceRecord.observedAt))

/-- `latest_time`: the latest of the effects, the stop response and the revocations. -/
def latestTime (receipt : OperationReceipt) : MonotonicTime :=
  watermark receipt.latestEffectTime
    [receipt.stopAcknowledgementEvidence.map EvidenceRecord.observedAt,
      receipt.cancellationRequestedAt, receipt.expiryObservedAt, receipt.bindingWithdrawnAt]

/-- The times that a receipt records: admission, dispatch, revocations and evidence. -/
def recordedTimes (receipt : OperationReceipt) : List (Option MonotonicTime) :=
  [some receipt.authority.admittedAt, receipt.dispatchedAt, receipt.cancellationRequestedAt,
    receipt.expiryObservedAt, receipt.bindingWithdrawnAt] ++
    receipt.receiptRecords.map (Option.map EvidenceRecord.observedAt)

/-- `has_reached_deadline`: there is a deadline and the time is not before it. -/
def hasReachedDeadline (receipt : OperationReceipt) (time : MonotonicTime) : Prop :=
  ∃ deadline ∈ receipt.deadline, deadline ≤ time
  deriving Decidable

/-- `revocation_precedes`: some revocation is recorded at or before the time. -/
def revocationPrecedes (receipt : OperationReceipt) (time : MonotonicTime) : Prop :=
  (∃ cancelled ∈ receipt.cancellationRequestedAt, cancelled ≤ time) ∨
    (∃ expired ∈ receipt.expiryObservedAt, expired ≤ time) ∨
    ∃ withdrawn ∈ receipt.bindingWithdrawnAt, withdrawn ≤ time
  deriving Decidable

/-- `has_resolved_effects`: what happened to the work and to its output is decided. -/
def hasResolvedEffects (receipt : OperationReceipt) : Prop :=
  if receipt.dispatch = .notSubmitted then
    receipt.nativeOutcome = .notExecuted ∧ receipt.output = .notDelivered ∧
      receipt.outputNonDeliveryReason = some .noOutputProduced
  else if receipt.dispatch ≠ .submitted then False
  else if receipt.nativeAcceptance = .rejected then
    receipt.nativeOutcome = .notExecuted ∧ receipt.output = .notDelivered ∧
      receipt.outputNonDeliveryReason = some .noOutputProduced
  else if receipt.nativeAcceptance ≠ .accepted then False
  else if receipt.nativeOutcome = .failed ∨ receipt.nativeOutcome = .cancelled then
    receipt.output = .notDelivered ∧ receipt.outputNonDeliveryReason = some .noOutputProduced
  else if receipt.nativeOutcome ≠ .succeeded then False
  else
    receipt.output = .accepted ∨
      (receipt.output = .notDelivered ∧
        (receipt.outputNonDeliveryReason = some .sinkRejected ∨
          receipt.outputNonDeliveryReason = some .authorityRevoked))
  deriving Decidable

/-- `has_resolved_closure`: settled, with resolved effects. -/
def hasResolvedClosure (receipt : OperationReceipt) : Prop :=
  receipt.settlement = .settled ∧ receipt.hasResolvedEffects
  deriving Decidable

/-- The disposition that `refresh_authority_disposition` computes. -/
def computedDisposition (receipt : OperationReceipt) : AuthorityDisposition :=
  if receipt.nativeOutcome = .unknown then .blockedUnknown
  else if receipt.hasResolvedClosure then .released
  else if receipt.isRevoked then .revoked
  else .current

/-- `refresh_authority_disposition`, on the receipt that is present. -/
def refreshAuthorityDisposition (receipt : OperationReceipt) : OperationReceipt :=
  { receipt with authorityDisposition := receipt.computedDisposition }

/-! ### Assignments -/

/-- A dispatch is claimed; the cached disposition is left alone. -/
def claim (receipt : OperationReceipt) (observedAt : MonotonicTime) : OperationReceipt :=
  { receipt with dispatch := .submitted, dispatchedAt := some observedAt }

/-- Whether `revoke` asks the host to stop native work. -/
def shouldStop (receipt : OperationReceipt) : Prop :=
  receipt.dispatch = .submitted ∧ receipt.nativeOutcome = .pending ∧
    receipt.nativeStopRequestedAt = none
  deriving Decidable

/-- `Implementation::revoke`: record the first stop request, then refresh. -/
def revoke (receipt : OperationReceipt) (observedAt : MonotonicTime) :
    ControlDecision × OperationReceipt :=
  let stopped :=
    if receipt.shouldStop then
      { receipt with
        nativeStopRequestedAt := some observedAt
        stopAcknowledgement := .pending }
    else receipt
  (⟨.applied, decide receipt.shouldStop⟩, stopped.refreshAuthorityDisposition)

/-- A cancellation is recorded, before `revoke`. -/
def cancelAt (receipt : OperationReceipt) (observedAt : MonotonicTime) : OperationReceipt :=
  { receipt with cancellationRequestedAt := some observedAt }

/-- An expiry is recorded, before `revoke`. -/
def expireAt (receipt : OperationReceipt) (observedAt : MonotonicTime) : OperationReceipt :=
  { receipt with expiryObservedAt := some observedAt }

/-- The withdrawal of the binding is recorded, before `revoke`. -/
def withdrawAt (receipt : OperationReceipt) (now : MonotonicTime) : OperationReceipt :=
  { receipt with bindingWithdrawnAt := some now }

/-- A stop response is recorded; the cached disposition is left alone. -/
def acknowledgeStop (receipt : OperationReceipt) (evidence : StopAcknowledgementEvidence) :
    OperationReceipt :=
  { receipt with
    stopAcknowledgement := evidence.acknowledgement
    stopAcknowledgementEvidence := some evidence.record }

/-- The operation was never submitted. -/
def markNotSubmitted (receipt : OperationReceipt) (record : EvidenceRecord) :
    OperationReceipt :=
  refreshAuthorityDisposition
    { receipt with
      dispatch := .notSubmitted
      nativeOutcome := .notExecuted
      nonSubmissionEvidence := some record }

/-- The event switch of `observe_native`; `none` is its early rejection. -/
def applyNativeEvent (receipt : OperationReceipt) (evidence : NativeEvidence) :
    Option (EvidenceDisposition × OperationReceipt) :=
  match evidence.kind with
  | .accepted =>
    if receipt.nativeAcceptance = .accepted then some (.duplicate, receipt)
    else some (.accepted,
      { receipt with
        nativeIdentity := evidence.nativeIdentity
        nativeAcceptance := .accepted
        nativeAcceptanceEvidence := some evidence.record })
  | .rejected =>
    if receipt.nativeAcceptance = .rejected then some (.duplicate, receipt)
    else some (.accepted,
      { receipt with
        nativeIdentity := evidence.nativeIdentity
        nativeAcceptance := .rejected
        nativeOutcome := .notExecuted
        nativeRejectionEvidence := some evidence.record })
  | .started =>
    if receipt.nativeAcceptance ≠ .accepted then none
    else if receipt.nativeStarted then some (.duplicate, receipt)
    else some (.accepted,
      { receipt with
        nativeStarted := true
        nativeStartedEvidence := some evidence.record })
  | .terminalSucceeded =>
    if receipt.nativeAcceptance ≠ .accepted then none
    else if receipt.observedNativeSuccess then some (.duplicate, receipt)
    else some (.accepted,
      { receipt with
        observedNativeSuccess := true
        nativeSuccessEvidence := some evidence.record })
  | .terminalFailed =>
    if receipt.nativeAcceptance ≠ .accepted then none
    else if receipt.observedNativeFailure then some (.duplicate, receipt)
    else some (.accepted,
      { receipt with
        observedNativeFailure := true
        nativeFailureEvidence := some evidence.record })
  | .terminalCancelled =>
    if receipt.nativeAcceptance ≠ .accepted then none
    else if receipt.observedNativeCancellation then some (.duplicate, receipt)
    else some (.accepted,
      { receipt with
        observedNativeCancellation := true
        nativeCancellationEvidence := some evidence.record })

/-- The number of different terminal kinds observed. -/
def terminalCount (receipt : OperationReceipt) : Nat :=
  receipt.observedNativeSuccess.toNat + receipt.observedNativeFailure.toNat +
    receipt.observedNativeCancellation.toNat

/-- The outcome `observe_native` derives from the terminal flags; without a terminal
the outcome stays. -/
def deriveNativeOutcome (receipt : OperationReceipt) : OperationReceipt :=
  if receipt.terminalCount > 1 then { receipt with nativeOutcome := .unknown }
  else if receipt.observedNativeSuccess then { receipt with nativeOutcome := .succeeded }
  else if receipt.observedNativeFailure then { receipt with nativeOutcome := .failed }
  else if receipt.observedNativeCancellation then { receipt with nativeOutcome := .cancelled }
  else receipt

/-- The output was accepted by the result sink. -/
def acceptOutput (receipt : OperationReceipt) (evidence : OutputEvidence) : OperationReceipt :=
  refreshAuthorityDisposition
    { receipt with
      output := .accepted
      resultReference := evidence.resultReference
      outputEvidence := some evidence.record }

/-- The output was not delivered, for the stated reason. -/
def withholdOutput (receipt : OperationReceipt) (evidence : OutputNonDeliveryEvidence) :
    OperationReceipt :=
  refreshAuthorityDisposition
    { receipt with
      output := .notDelivered
      outputNonDeliveryReason := some evidence.reason
      resultReference := evidence.resultReference
      outputNonDeliveryEvidence := some evidence.record }

/-- The effect domain was settled. -/
def settle (receipt : OperationReceipt) (evidence : SettlementEvidence) : OperationReceipt :=
  refreshAuthorityDisposition
    { receipt with
      settlement := .settled
      settlementScope := evidence.scope
      settlementEvidence := some evidence.record }

/-! ### Bounds -/

/-- A bound on the latest effect bounds admission, dispatch and each effect record. -/
theorem latestEffectTime_le_iff {receipt : OperationReceipt} {bound : MonotonicTime} :
    receipt.latestEffectTime ≤ bound ↔
      receipt.authority.admittedAt ≤ bound ∧ (∀ t ∈ receipt.dispatchedAt, t ≤ bound) ∧
        ∀ slot ∈ receipt.effectRecords, ∀ record ∈ slot, record.observedAt ≤ bound := by
  rw [latestEffectTime, watermark_le_iff, List.forall_mem_cons, List.forall_mem_map]
  simp

/-- A bound on the latest time also bounds the stop response and the revocations. -/
theorem latestTime_le_iff {receipt : OperationReceipt} {bound : MonotonicTime} :
    receipt.latestTime ≤ bound ↔
      receipt.latestEffectTime ≤ bound ∧
        (∀ record ∈ receipt.stopAcknowledgementEvidence, record.observedAt ≤ bound) ∧
        (∀ t ∈ receipt.cancellationRequestedAt, t ≤ bound) ∧
        (∀ t ∈ receipt.expiryObservedAt, t ≤ bound) ∧
        ∀ t ∈ receipt.bindingWithdrawnAt, t ≤ bound := by
  rw [latestTime, watermark_le_iff]
  simp

/-- A bound on the latest time is a bound on every recorded time. -/
theorem latestTime_le_iff_recordedTimes {receipt : OperationReceipt} {bound : MonotonicTime} :
    receipt.latestTime ≤ bound ↔
      ∀ slot ∈ receipt.recordedTimes, ∀ t ∈ slot, t ≤ bound := by
  rw [latestTime_le_iff, latestEffectTime_le_iff, recordedTimes, receiptRecords]
  simp only [List.forall_mem_append, List.forall_mem_cons, List.forall_mem_map, List.map_append,
    List.map_cons, List.map_nil, List.not_mem_nil, false_imp_iff, implies_true, and_true,
    Option.mem_def, Option.map_eq_some_iff, forall_exists_index, and_imp, Option.some.injEq,
    forall_eq', forall_apply_eq_imp_iff₂]
  constructor
  · rintro ⟨⟨hadmitted, hdispatched, heffects⟩, hstop, hcancelled, hexpired, hwithdrawn⟩
    exact ⟨⟨hadmitted, hdispatched, hcancelled, hexpired, hwithdrawn⟩, heffects, hstop⟩
  · rintro ⟨⟨hadmitted, hdispatched, hcancelled, hexpired, hwithdrawn⟩, heffects, hstop⟩
    exact ⟨⟨hadmitted, hdispatched, heffects⟩, hstop, hcancelled, hexpired, hwithdrawn⟩

end OperationReceipt

end RobotHarness
