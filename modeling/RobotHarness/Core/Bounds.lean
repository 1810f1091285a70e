import RobotHarness.Core.Persistence

/-!
# Bounds on what a gate remembers

A gate remembers no time and no sequence number beyond those of the calls that were made: when
every call is bounded by a time and a sequence number, so is all evidence the gate retains.
-/

namespace RobotHarness

/-- The record is no later than the time and not past the sequence number. -/
def EvidenceRecord.Bounded (record : EvidenceRecord) (t : MonotonicTime) (n : UInt64) : Prop :=
  record.observedAt ≤ t ∧ record.sequence ≤ n

/-- The times that the controls of an operation leave in its receipt. -/
def OperationReceipt.controlTimes (r : OperationReceipt) : List (Option MonotonicTime) :=
  [some r.authority.admittedAt, r.dispatchedAt, r.cancellationRequestedAt, r.expiryObservedAt,
    r.bindingWithdrawnAt, r.nativeStopRequestedAt]

/-- Every time and every record of the receipt is bounded. -/
structure OperationReceipt.Bounded (r : OperationReceipt) (t : MonotonicTime) (n : UInt64) :
    Prop where
  times : ∀ slot ∈ r.controlTimes, ∀ time ∈ slot, time ≤ t
  records : ∀ slot ∈ r.receiptRecords, ∀ record ∈ slot, record.Bounded t n

/-- The observations retained about a candidate are bounded. -/
structure Candidate.Bounded (c : Candidate) (t : MonotonicTime) (n : UInt64) : Prop where
  readiness : ∀ index, ∀ e ∈ (c.readiness index).evidence, e.record.Bounded t n
  capabilities : ∀ e ∈ c.capabilities.evidence, e.record.Bounded t n

/-- What new evidence of the gate is compared with is bounded. -/
structure AuthorityGate.Bounded (s : AuthorityGate) (t : MonotonicTime) (n : UInt64) :
    Prop where
  startedAt : s.config.startedAt ≤ t
  startup : ∀ index, ∀ record ∈ (s.startupFact index).record, record.Bounded t n
  capabilities : ∀ e ∈ s.executionCapabilities, e.record.Bounded t n
  candidate : ∀ c ∈ s.candidate, c.Bounded t n
  native : ∀ record ∈ s.lastNativeRecord, record.Bounded t n
  receipt : ∀ r ∈ s.currentReceipt, r.Bounded t n

/-- The times and the records of a call are bounded. -/
def Call.Bounded (t : MonotonicTime) (n : UInt64) : Call → Prop
  | .observeStartup e => e.record.Bounded t n
  | .observeExecutionCapabilities e => e.record.Bounded t n
  | .withdrawBinding _ now => now ≤ t
  | .observeRebindReadiness e => e.record.Bounded t n
  | .admitRequest request => request.requestedAt ≤ t
  | .claimDispatch _ time => time ≤ t
  | .requestCancel _ time => time ≤ t
  | .observeTime _ time => time ≤ t
  | .observeStopAcknowledgement e => e.record.Bounded t n
  | .observeNonSubmission e => e.record.Bounded t n
  | .observeNative e => e.record.Bounded t n
  | .observeOutputAccepted e => e.record.Bounded t n
  | .observeOutputNotDelivered e => e.record.Bounded t n
  | .observeSettlement e => e.record.Bounded t n
  | _ => True

variable {t t' : MonotonicTime} {n n' : UInt64}

/-! ### Later bounds -/

private theorem EvidenceRecord.Bounded.mono {record : EvidenceRecord} (h : record.Bounded t n)
    (ht : t ≤ t') (hn : n ≤ n') : record.Bounded t' n' :=
  ⟨h.1.trans ht, h.2.trans hn⟩

private theorem OperationReceipt.Bounded.mono {r : OperationReceipt} (h : r.Bounded t n)
    (ht : t ≤ t') (hn : n ≤ n') : r.Bounded t' n' where
  times := fun slot hslot time htime ↦ (h.times slot hslot time htime).trans ht
  records := fun slot hslot record hrecord ↦ (h.records slot hslot record hrecord).mono ht hn

/-- A bounded gate is bounded by anything later. -/
theorem AuthorityGate.Bounded.mono {s : AuthorityGate} (h : s.Bounded t n) (ht : t ≤ t')
    (hn : n ≤ n') : s.Bounded t' n' where
  startedAt := h.startedAt.trans ht
  startup := fun index record hrecord ↦ (h.startup index record hrecord).mono ht hn
  capabilities := fun e he ↦ (h.capabilities e he).mono ht hn
  candidate := fun c hc ↦
    { readiness := fun index e he ↦ ((h.candidate c hc).readiness index e he).mono ht hn
      capabilities := fun e he ↦ ((h.candidate c hc).capabilities e he).mono ht hn }
  native := fun record hrecord ↦ (h.native record hrecord).mono ht hn
  receipt := fun r hr ↦ (h.receipt r hr).mono ht hn

/-! ### Receipts -/

namespace OperationReceipt

variable {r : OperationReceipt}

/-- The bounds of a receipt, one after another. -/
theorem bounded_iff :
    r.Bounded t n ↔
      (r.authority.admittedAt ≤ t ∧ (∀ time ∈ r.dispatchedAt, time ≤ t) ∧
        (∀ time ∈ r.cancellationRequestedAt, time ≤ t) ∧
        (∀ time ∈ r.expiryObservedAt, time ≤ t) ∧ (∀ time ∈ r.bindingWithdrawnAt, time ≤ t) ∧
        ∀ time ∈ r.nativeStopRequestedAt, time ≤ t) ∧
      (∀ record ∈ r.nativeAcceptanceEvidence, record.Bounded t n) ∧
      (∀ record ∈ r.nativeRejectionEvidence, record.Bounded t n) ∧
      (∀ record ∈ r.nativeStartedEvidence, record.Bounded t n) ∧
      (∀ record ∈ r.nativeSuccessEvidence, record.Bounded t n) ∧
      (∀ record ∈ r.nativeFailureEvidence, record.Bounded t n) ∧
      (∀ record ∈ r.outputEvidence, record.Bounded t n) ∧
      (∀ record ∈ r.nonSubmissionEvidence, record.Bounded t n) ∧
      (∀ record ∈ r.outputNonDeliveryEvidence, record.Bounded t n) ∧
      (∀ record ∈ r.settlementEvidence, record.Bounded t n) ∧
      (∀ record ∈ r.nativeCancellationEvidence, record.Bounded t n) ∧
      ∀ record ∈ r.stopAcknowledgementEvidence, record.Bounded t n := by
  constructor
  · rintro ⟨htimes, hrecords⟩
    simpa [controlTimes, receiptRecords, effectRecords] using And.intro htimes hrecords
  · intro h
    constructor
    · simpa [controlTimes] using h.1
    · simpa [receiptRecords, effectRecords] using h.2

/-- The latest effect of a bounded receipt is bounded. -/
theorem Bounded.latestEffectTime_le (h : r.Bounded t n) : r.latestEffectTime ≤ t := by
  rw [latestEffectTime_le_iff]
  have htimes := h.times
  simp only [controlTimes, List.forall_mem_cons] at htimes
  refine ⟨htimes.1 _ rfl, htimes.2.1, fun slot hslot record hrecord ↦ ?_⟩
  exact (h.records slot (List.mem_append_left _ hslot) record hrecord).1

/-- The latest time of a bounded receipt is bounded. -/
theorem Bounded.latestTime_le (h : r.Bounded t n) : r.latestTime ≤ t := by
  obtain ⟨⟨-, -, hcancelled, hexpired, hwithdrawn, -⟩, -, -, -, -, -, -, -, -, -, -, hstop⟩ :=
    bounded_iff.mp h
  rw [latestTime_le_iff]
  exact ⟨h.latestEffectTime_le, fun record hr ↦ (hstop record hr).1, hcancelled, hexpired,
    hwithdrawn⟩

/-- A record past the bound follows all records of a bounded receipt. -/
theorem Bounded.follows (h : r.Bounded t n) {record : EvidenceRecord}
    (hsequence : n < record.sequence) : followsSameSourceRecords record r := by
  rintro slot hslot previous hprevious ⟨-, hle⟩
  exact not_lt.mpr (hle.trans (h.records slot hslot previous hprevious).2) hsequence

/-- A fresh receipt is bounded by the time of its admission. -/
theorem bounded_new {authority : OperationAuthority} {request : OperationRequest}
    (h : authority.admittedAt ≤ t) :
    (AuthorityGate.newReceipt authority request).Bounded t n := by
  simpa [bounded_iff, AuthorityGate.newReceipt] using h

/-- A revocation is bounded by the time it names. -/
theorem Bounded.revoke (h : r.Bounded t n) {time : MonotonicTime} (ht : time ≤ t) :
    (r.revoke time).2.Bounded t n := by
  rw [bounded_iff] at h
  rw [revoke_snd, requestStop, bounded_iff]
  split <;> simp_all [refreshAuthorityDisposition]

/-- A native event is bounded by its record. -/
theorem Bounded.native {applied : OperationReceipt} {e : NativeEvidence}
    {d : EvidenceDisposition} (h : r.Bounded t n) (change : NativeChange r e d applied)
    (he : e.record.Bounded t n) :
    applied.deriveNativeOutcome.refreshAuthorityDisposition.Bounded t n := by
  rw [bounded_iff] at h
  rw [deriveNativeOutcome_eq, bounded_iff]
  cases change <;> simp_all [refreshAuthorityDisposition]

end OperationReceipt

/-- A change of the receipt is bounded by the call that makes it. -/
theorem ReceiptStep.bounded {s : AuthorityGate} {c : Call} {a : Answer}
    {r r' : OperationReceipt} (step : ReceiptStep s c a r r') (h : r.Bounded t n)
    (hc : c.Bounded t n) : r'.Bounded t n := by
  have hparts := OperationReceipt.bounded_iff.mp h
  cases step with
  | native step => exact h.native step.change hc
  | withdraw =>
    refine OperationReceipt.Bounded.revoke ?_ hc
    have hnow : _ ≤ t := hc
    simp_all [OperationReceipt.bounded_iff, OperationReceipt.withdrawAt]
  | operation step =>
    cases step with
    | cancel =>
      refine OperationReceipt.Bounded.revoke ?_ hc
      have hnow : _ ≤ t := hc
      simp_all [OperationReceipt.bounded_iff, OperationReceipt.cancelAt]
    | expire =>
      refine OperationReceipt.Bounded.revoke ?_ hc
      have hnow : _ ≤ t := hc
      simp_all [OperationReceipt.bounded_iff, OperationReceipt.expireAt]
    | claim =>
      have hnow : _ ≤ t := hc
      simp_all [OperationReceipt.bounded_iff, OperationReceipt.claim]
    | acknowledge | notSubmitted | acceptOutput | withholdOutput | settle =>
      have hrecord : EvidenceRecord.Bounded _ t n := hc
      simp_all [OperationReceipt.bounded_iff, OperationReceipt.refreshAuthorityDisposition,
        OperationReceipt.acknowledgeStop, OperationReceipt.markNotSubmitted,
        OperationReceipt.acceptOutput, OperationReceipt.withholdOutput, OperationReceipt.settle]

/-! ### The gate -/

/-- A candidate with one more bounded readiness observation is bounded. -/
theorem Candidate.Bounded.update {c : Candidate} (h : c.Bounded t n) (index : Fin 3)
    {e : BindingReadinessEvidence} (he : e.record.Bounded t n) (conflicted : Bool) :
    Candidate.Bounded
      { c with readiness := Function.update c.readiness index ⟨some e, conflicted⟩ } t n where
  readiness := by
    intro slot e' he'
    dsimp only at he'
    by_cases hslot : slot = index
    · subst hslot
      rw [Function.update_self] at he'
      cases he'
      exact he
    · rw [Function.update_of_ne hslot] at he'
      exact h.readiness slot e' he'
  capabilities := h.capabilities

/-- The later of two bounded times under a bounded sequence number is bounded. -/
theorem EvidenceRecord.Bounded.later {record : EvidenceRecord} (h : record.Bounded t n)
    {time : MonotonicTime} (ht : time ≤ t) :
    EvidenceRecord.Bounded { record with observedAt := max record.observedAt time } t n :=
  ⟨max_le h.1 ht, h.2⟩

/-- A transition keeps the bounds of the gate. -/
theorem Transition.bounded {s s' : AuthorityGate} {c : Call} {a : Answer}
    (step : Transition s c a s') (h : s.Bounded t n) (hc : c.Bounded t n) :
    s'.Bounded t n := by
  cases step with
  | noEffect => exact h
  | @startup e index =>
    have hslots := fun slot ↦ s.recordStartup_startupFact index slot e
    obtain ⟨idle, ready, sink, initialization, -, heq⟩ := s.recordStartup_eq index e
    have hstartup : ∀ slot, ∀ record ∈ ((s.recordStartup index e).startupFact slot).record,
        record.Bounded t n := by
      intro slot record hrecord
      rw [hslots] at hrecord
      split at hrecord
      · cases hrecord
        exact hc
      · exact h.startup slot record hrecord
    rw [heq] at hstartup ⊢
    exact { h with startup := hstartup }
  | capabilities =>
    exact { h with capabilities := by intro e he; cases he; exact hc }
  | candidateCapabilities target =>
    have hcandidate := h.candidate _ target.candidate
    exact { h with
      candidate := by
        intro c' hc'
        cases hc'
        exact { hcandidate with capabilities := by intro e he; cases he; exact hc } }
  | capabilitiesConflict target retained =>
    have hcandidate := h.candidate _ target.candidate
    exact { h with
      candidate := by
        intro c' hc'
        cases hc'
        exact { hcandidate with
          capabilities := by
            intro e he
            cases he
            exact (hcandidate.capabilities _ retained).later hc.1 } }
  | discard => exact { h with candidate := by intro c hc; cases hc }
  | withdrawIdle => exact { h with }
  | withdrawCurrent noCandidate opened unwithdrawn time present bound unreleased =>
    have hreceipt := (ReceiptStep.withdraw noCandidate opened unwithdrawn time unreleased).bounded
      (h.receipt _ present) hc
    exact { h with receipt := by intro r hr; cases hr; exact hreceipt }
  | begin =>
    exact { h with
      candidate := by
        intro c hc
        cases hc
        constructor
        · intro _ e he
          cases he
        · intro e he
          cases he }
  | readiness target =>
    have hcandidate := h.candidate _ target.candidate
    exact { h with candidate := by intro c' hc'; cases hc'; exact hcandidate.update _ hc false }
  | @readinessConflict _ _ _ index target retained =>
    have hcandidate := h.candidate _ target.candidate
    have hlater := (hcandidate.readiness index _ retained).later hc.1
    exact { h with
      candidate := by intro c' hc'; cases hc'; exact hcandidate.update _ hlater true }
  | @commit c now candidate =>
    have hcandidate := h.candidate _ candidate
    have hfact : ∀ index, ∀ record ∈ (AuthorityGate.committedFact c index).record,
        record.Bounded t n := by
      intro index record hrecord
      obtain ⟨e, he, rfl⟩ := Option.map_eq_some_iff.mp hrecord
      exact hcandidate.readiness index e he
    exact { h with
      startup := by
        intro index
        match index with
        | 0 => exact hfact 0
        | 1 => exact hfact 1
        | 2 => exact hfact 2
      capabilities := hcandidate.capabilities
      candidate := by intro c hc; cases hc }
  | admission =>
    exact { h with
      native := by intro record hrecord; cases hrecord
      receipt := by
        intro r hr
        cases hr
        exact OperationReceipt.bounded_new hc }
  | operation present _ step =>
    have hreceipt := (ReceiptStep.operation step).bounded (h.receipt _ present) hc
    exact { h with receipt := by intro r hr; cases hr; exact hreceipt }
  | native present _ step =>
    have hreceipt := (ReceiptStep.native step).bounded (h.receipt _ present) hc
    exact { h with
      native := by intro record hrecord; cases hrecord; exact hc
      receipt := by intro r hr; cases hr; exact hreceipt }
  | close => exact { h with candidate := by intro c hc; cases hc }

/-- A fresh gate is bounded by the time of its start. -/
theorem AuthorityGate.bounded_initial {config : AuthorityGateConfig}
    (h : config.startedAt ≤ t) : (AuthorityGate.initial config).Bounded t n where
  startedAt := h
  startup := by
    intro index record hrecord
    match index with
    | 0 | 1 | 2 => cases hrecord
  capabilities := by intro e he; cases he
  candidate := by intro c hc; cases hc
  native := by intro record hrecord; cases hrecord
  receipt := by intro r hr; cases hr

end RobotHarness
