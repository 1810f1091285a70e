import RobotHarness.Core.Integrity

/-!
# What stays of a receipt

No change of the current receipt alters its authority, its deadline or its requirements,
takes back a revocation, a disposed output, a stop request or a non-submission, or resolves
an unknown outcome.
-/

namespace RobotHarness

namespace OperationReceipt

/-- `revoke` assigns the stop request, the stop response and the disposition alone. -/
theorem revoke_eq (r : OperationReceipt) (t : MonotonicTime) :
    (r.revoke t).2 =
      { r with
        nativeStopRequestedAt := if r.shouldStop then some t else r.nativeStopRequestedAt
        stopAcknowledgement := if r.shouldStop then .pending else r.stopAcknowledgement
        authorityDisposition := (r.requestStop t).computedDisposition } := by
  rw [revoke_snd, refreshAuthorityDisposition]
  by_cases hstop : r.shouldStop
  · simp only [requestStop, if_pos hstop]
  · simp only [requestStop, if_neg hstop]

/-- A recorded revocation outlasts `revoke`. -/
theorem isRevoked_revoke {r : OperationReceipt} (h : r.isRevoked) (t : MonotonicTime) :
    (r.revoke t).2.isRevoked := by
  rw [revoke_eq]
  exact h

/-- The fields that no native event assigns. -/
structure NativeFrame (r r' : OperationReceipt) : Prop where
  authority : r'.authority = r.authority
  dispatch : r'.dispatch = r.dispatch
  output : r'.output = r.output
  settlement : r'.settlement = r.settlement
  dispatchedAt : r'.dispatchedAt = r.dispatchedAt
  cancellationRequestedAt : r'.cancellationRequestedAt = r.cancellationRequestedAt
  deadline : r'.deadline = r.deadline
  expiryObservedAt : r'.expiryObservedAt = r.expiryObservedAt
  bindingWithdrawnAt : r'.bindingWithdrawnAt = r.bindingWithdrawnAt
  nativeStopRequestedAt : r'.nativeStopRequestedAt = r.nativeStopRequestedAt
  stopAcknowledgement : r'.stopAcknowledgement = r.stopAcknowledgement
  resultReference : r'.resultReference = r.resultReference
  settlementScope : r'.settlementScope = r.settlementScope
  outputNonDeliveryReason : r'.outputNonDeliveryReason = r.outputNonDeliveryReason
  nonSubmissionEvidence : r'.nonSubmissionEvidence = r.nonSubmissionEvidence
  stopAcknowledgementEvidence :
    r'.stopAcknowledgementEvidence = r.stopAcknowledgementEvidence
  outputEvidence : r'.outputEvidence = r.outputEvidence
  outputNonDeliveryEvidence : r'.outputNonDeliveryEvidence = r.outputNonDeliveryEvidence
  settlementEvidence : r'.settlementEvidence = r.settlementEvidence
  executionRequirements : r'.executionRequirements = r.executionRequirements

/-- A native event leaves the frame alone. -/
theorem native_frame {r applied : OperationReceipt} {e : NativeEvidence}
    {d : EvidenceDisposition} (change : NativeChange r e d applied) :
    NativeFrame r applied.deriveNativeOutcome.refreshAuthorityDisposition := by
  rw [deriveNativeOutcome_eq]
  cases change <;> constructor <;> rfl

end OperationReceipt

namespace NativeStep

variable {s : AuthorityGate} {e : NativeEvidence} {d : EvidenceDisposition}
  {r applied : OperationReceipt}

/-- What a native step does to the receipt. -/
theorem change (step : NativeStep s e d r applied) :
    OperationReceipt.NativeChange r e d applied :=
  OperationReceipt.nativeChange_of_apply step.consistent step.switch

/-- What a native step leaves alone. -/
theorem frame (step : NativeStep s e d r applied) :
    OperationReceipt.NativeFrame r
      applied.deriveNativeOutcome.refreshAuthorityDisposition :=
  OperationReceipt.native_frame step.change

end NativeStep

namespace ReceiptStep

variable {s : AuthorityGate} {c : Call} {a : Answer} {r r' : OperationReceipt}

/-- A change keeps the authority. -/
theorem authority_eq (step : ReceiptStep s c a r r') : r'.authority = r.authority := by
  cases step with
  | native step => exact step.frame.authority
  | withdraw => rw [OperationReceipt.revoke_eq]; rfl
  | operation step =>
    cases step with
    | cancel | expire => rw [OperationReceipt.revoke_eq]; rfl
    | claim | acknowledge | notSubmitted | acceptOutput | withholdOutput | settle => rfl

/-- A change keeps the deadline and the requirements of the request. -/
theorem request_eq (step : ReceiptStep s c a r r') :
    r'.deadline = r.deadline ∧ r'.executionRequirements = r.executionRequirements := by
  cases step with
  | native step => exact ⟨step.frame.deadline, step.frame.executionRequirements⟩
  | withdraw => rw [OperationReceipt.revoke_eq]; exact ⟨rfl, rfl⟩
  | operation step =>
    cases step with
    | cancel | expire => rw [OperationReceipt.revoke_eq]; exact ⟨rfl, rfl⟩
    | claim | acknowledge | notSubmitted | acceptOutput | withholdOutput | settle =>
      exact ⟨rfl, rfl⟩

/-- A revoked operation stays revoked. -/
theorem isRevoked (step : ReceiptStep s c a r r') (h : r.isRevoked) : r'.isRevoked := by
  cases step with
  | native step =>
    have hframe := step.frame
    unfold OperationReceipt.isRevoked at *
    rwa [hframe.cancellationRequestedAt, hframe.expiryObservedAt, hframe.bindingWithdrawnAt]
  | withdraw => exact OperationReceipt.isRevoked_revoke (.inr (.inr rfl)) _
  | operation step =>
    cases step with
    | cancel => exact OperationReceipt.isRevoked_revoke (.inl rfl) _
    | expire => exact OperationReceipt.isRevoked_revoke (.inr (.inl rfl)) _
    | claim | acknowledge | notSubmitted | acceptOutput | withholdOutput | settle => exact h

/-- Disposed output stays as it is. -/
theorem output_eq (step : ReceiptStep s c a r r') (h : r.output ≠ .pending) :
    r'.output = r.output := by
  cases step with
  | native step => exact step.frame.output
  | withdraw => rw [OperationReceipt.revoke_eq]; rfl
  | operation step =>
    cases step with
    | cancel | expire => rw [OperationReceipt.revoke_eq]; rfl
    | acceptOutput _ _ _ _ _ _ pending | withholdOutput _ _ _ pending => exact absurd pending h
    | claim | acknowledge | notSubmitted | settle => rfl

/-- A dispatch that was decided is not pending again. -/
theorem dispatched (step : ReceiptStep s c a r r') (h : r.dispatch ≠ .pending) :
    r'.dispatch ≠ .pending := by
  cases step with
  | native step => rwa [step.frame.dispatch]
  | withdraw => rwa [OperationReceipt.revoke_eq]
  | operation step =>
    cases step with
    | cancel | expire => rwa [OperationReceipt.revoke_eq]
    | claim | notSubmitted => nofun
    | acknowledge | acceptOutput | withholdOutput | settle => exact h

/-- Work that was not submitted is not submitted later. -/
theorem notSubmitted (step : ReceiptStep s c a r r') (h : r.dispatch = .notSubmitted) :
    r'.dispatch = .notSubmitted := by
  cases step with
  | native step => exact step.frame.dispatch.trans h
  | withdraw => rwa [OperationReceipt.revoke_eq]
  | operation step =>
    cases step with
    | cancel | expire => rwa [OperationReceipt.revoke_eq]
    | claim _ _ _ pending => rw [h] at pending; cases pending
    | notSubmitted => rfl
    | acknowledge | acceptOutput | withholdOutput | settle => exact h

/-- A settlement stays. -/
theorem settled (step : ReceiptStep s c a r r') (h : r.settlement = .settled) :
    r'.settlement = .settled := by
  cases step with
  | native step => exact step.frame.settlement.trans h
  | withdraw => rwa [OperationReceipt.revoke_eq]
  | operation step =>
    cases step with
    | cancel | expire => rwa [OperationReceipt.revoke_eq]
    | settle => rfl
    | claim | acknowledge | notSubmitted | acceptOutput | withholdOutput => exact h

/-- A stop response stays. -/
theorem acknowledged (step : ReceiptStep s c a r r')
    (h : r.stopAcknowledgementEvidence.isSome) : r'.stopAcknowledgementEvidence.isSome := by
  cases step with
  | native step => rwa [step.frame.stopAcknowledgementEvidence]
  | withdraw => rwa [OperationReceipt.revoke_eq]
  | operation step =>
    cases step with
    | cancel | expire => rwa [OperationReceipt.revoke_eq]
    | acknowledge => rfl
    | claim | notSubmitted | acceptOutput | withholdOutput | settle => exact h

/-- A stop request stays. -/
theorem stopRequested (step : ReceiptStep s c a r r') (h : r.nativeStopRequestedAt.isSome) :
    r'.nativeStopRequestedAt = r.nativeStopRequestedAt := by
  have hkept : ∀ q : OperationReceipt, q.nativeStopRequestedAt = r.nativeStopRequestedAt →
      ∀ t, (q.revoke t).2.nativeStopRequestedAt = r.nativeStopRequestedAt := by
    intro q hq t
    have hstop : ¬ q.shouldStop := by
      rintro ⟨-, -, hnone⟩
      rw [← hq, hnone] at h
      cases h
    rw [OperationReceipt.revoke_eq]
    simp only [if_neg hstop, hq]
  cases step with
  | native step => exact step.frame.nativeStopRequestedAt
  | withdraw => exact hkept (r.withdrawAt _) rfl _
  | operation step =>
    cases step with
    | cancel => exact hkept (r.cancelAt _) rfl _
    | expire => exact hkept (r.expireAt _) rfl _
    | claim | acknowledge | notSubmitted | acceptOutput | withholdOutput | settle => rfl

/-- The outcome of a dispatched operation evolves: once known it is kept or becomes
unknown, and unknown it stays. -/
theorem evolves (step : ReceiptStep s c a r r') (h : r.Integrity) :
    OperationReceipt.Evolves r.nativeOutcome r'.nativeOutcome := by
  cases step with
  | native step =>
    rw [OperationReceipt.deriveNativeOutcome_eq]
    exact OperationReceipt.native_evolves h.recorded h.sequenced step.submitted step.change
  | withdraw => rw [OperationReceipt.revoke_eq]; exact .inr (.inl rfl)
  | operation step =>
    cases step with
    | cancel | expire => rw [OperationReceipt.revoke_eq]; exact .inr (.inl rfl)
    | notSubmitted _ _ _ unmarked unobserved =>
      have hnone := OperationReceipt.noNativeEvidence_of_unobserved h.recorded unobserved.1
        unobserved.2.1
      exact .inl (OperationReceipt.unobserved h.recorded h.sequenced hnone unmarked).2.1
    | claim | acknowledge | acceptOutput | withholdOutput | settle => exact .inr (.inl rfl)

end ReceiptStep

end RobotHarness
