import RobotHarness.Core.Persistence

/-!
# Coherent gates

The invariant of every reachable gate: how its phase, initialization state, candidate and
receipt fit together, and how generations and operation ids are used up.
-/

namespace RobotHarness

namespace AuthorityGate

/-- The id has been handed out: it is below the counter, or the counter has wrapped. -/
def Issued (s : AuthorityGate) (id : OperationId) : Prop :=
  s.nextOperationId = 0 ∨ id < s.nextOperationId

/-- How the parts of a reachable gate fit together. -/
structure Coherent (s : AuthorityGate) : Prop where
  closed : s.bindingPhase = .closed ↔ s.initializationState = .closed
  candidate : s.candidate.isSome ↔ s.bindingPhase = .preparing
  recovering : s.bindingPhase = .withdrawn ∨ s.bindingPhase = .preparing →
    s.withdrawnAt.isSome ∧ s.initializationState = .recoveryRequired
  generation : s.config.binding.providerGeneration ≤ s.generationHighWater
  candidateGeneration : ∀ c ∈ s.candidate,
    s.config.binding.providerGeneration < c.binding.providerGeneration ∧
      c.binding.providerGeneration ≤ s.generationHighWater
  receiptBinding : ∀ r ∈ s.currentReceipt, r.authority.binding = s.config.binding ∨
    r.authority.binding.providerGeneration < s.config.binding.providerGeneration
  receiptIssued : ∀ r ∈ s.currentReceipt,
    r.authority.operationId ≠ 0 ∧ s.Issued r.authority.operationId
  superseded : ∀ r ∈ s.currentReceipt,
    r.authority.binding ≠ s.config.binding → r.isReleasable
  disposed : s.bindingPhase = .preparing → ∀ r ∈ s.currentReceipt, r.output ≠ .pending
  receipts : s.ReceiptIntegrity

/-- The gate is coherent when it is constructed. -/
theorem coherent_initial (config : AuthorityGateConfig) : (initial config).Coherent where
  closed := by simp [initial]
  candidate := by simp [initial]
  recovering := by simp [initial]
  generation := le_refl config.binding.providerGeneration
  candidateGeneration := by intro c hc; cases hc
  receiptBinding := by intro r hr; cases hr
  receiptIssued := by intro r hr; cases hr
  superseded := by intro r hr; cases hr
  disposed := by intro _ r hr; cases hr
  receipts := receiptIntegrity_initial config

namespace Coherent

variable {s : AuthorityGate}

/-- Released effects are resolved, so their output is disposed. -/
theorem output_of_releasable {r : OperationReceipt} (h : r.isReleasable) :
    r.output ≠ .pending := by
  intro hpending
  have hresolved := h.1.2
  simp [OperationReceipt.hasResolvedEffects, hpending] at hresolved

/-- A change of the current receipt keeps the gate coherent. -/
theorem changeReceipt (h : s.Coherent) {c : Call} {a : Answer} {r r' : OperationReceipt}
    (present : s.currentReceipt = some r) (bound : r.authority.binding = s.config.binding)
    (step : ReceiptStep s c a r r') : Coherent { s with currentReceipt := some r' } :=
  have hauthority : r'.authority = r.authority := step.authority_eq
  { h with
    receiptBinding := by
      intro q hq
      cases hq
      exact .inl (hauthority ▸ bound)
    receiptIssued := by
      intro q hq
      cases hq
      rw [hauthority]
      exact h.receiptIssued r present
    superseded := by
      intro q hq hne
      cases hq
      exact absurd (hauthority ▸ bound) hne
    disposed := by
      intro hphase q hq
      cases hq
      have hoff := h.disposed hphase r present
      rwa [step.output_eq hoff]
    receipts := by
      intro q hq
      cases hq
      exact step.integrity (h.receipts r present) }

/-- An open gate whose candidate is replaced by one with the same binding stays coherent. -/
theorem changeCandidate (h : s.Coherent) {c c' : Candidate} (present : s.candidate = some c)
    (same : c'.binding = c.binding) : Coherent { s with candidate := some c' } :=
  { h with
    candidate := by
      have := h.candidate
      rw [present] at this
      exact this
    candidateGeneration := by
      intro d hd
      cases hd
      rw [same]
      exact h.candidateGeneration c present }

/-- A withdrawal keeps the gate coherent. -/
theorem withdraw (h : s.Coherent) {now : MonotonicTime} {time : Option MonotonicTime}
    {candidate : Option Candidate} (stamped : time.isSome) (gone : candidate = none) :
    Coherent { s.withdrawn now with withdrawnAt := time, candidate := candidate } :=
  { h with
    closed := by constructor <;> nofun
    candidate := by simp [gone, withdrawn]
    recovering := fun _ ↦ ⟨stamped, rfl⟩
    candidateGeneration := by
      intro c hc
      rw [gone] at hc
      cases hc
    disposed := nofun }

/-- A new candidate has a generation that no binding had. -/
theorem begin (h : s.Coherent) {providerId : String} {e : BindingReadinessEvidence}
    {now : MonotonicTime} (guard : BeginGuard s providerId e now) :
    (s.prepared providerId e now).Coherent :=
  have hfresh := guard.generation_lt
  { h with
    closed := by
      have := (h.recovering (.inl guard.phase)).2
      simp [prepared, this]
    candidate := by simp [prepared]
    recovering := fun _ ↦ h.recovering (.inl guard.phase)
    generation := h.generation.trans hfresh.le
    candidateGeneration := by
      intro c hc
      cases hc
      exact ⟨h.generation.trans_lt hfresh, le_refl _⟩
    disposed := fun _ r hr ↦ output_of_releasable (guard.closed r hr) }

/-- A commit supersedes a receipt that is releasable. -/
theorem commit (h : s.Coherent) {c : Candidate} {now : MonotonicTime}
    (present : s.candidate = some c) (committable : s.canCommit now) :
    (s.committed c now).Coherent := by
  obtain ⟨-, -, -, -, hclosed, -⟩ := committable
  obtain ⟨hlater, hused⟩ := h.candidateGeneration c present
  exact
    { h with
      closed := by simp [committed]
      candidate := by simp [committed]
      recovering := by simp [committed]
      generation := hused
      candidateGeneration := by intro d hd; cases hd
      receiptBinding := by
        intro r hr
        rcases h.receiptBinding r hr with heq | hlt
        · exact .inr (heq ▸ hlater)
        · exact .inr (hlt.trans hlater)
      superseded := fun r hr _ ↦ hclosed r hr
      disposed := nofun }

/-- An admission uses up the next id. -/
theorem admission (h : s.Coherent) {request : OperationRequest} (guard : AdmitGuard s request) :
    (s.admitted request).Coherent :=
  { h with
    receiptBinding := by
      intro r hr
      cases hr
      exact .inl rfl
    receiptIssued := by
      intro r hr
      cases hr
      have := guard.unexhausted
      exact ⟨this, by unfold Issued admitted newReceipt nextAuthority; grind⟩
    superseded := by
      intro r hr hne
      cases hr
      exact absurd rfl hne
    disposed := by
      intro hphase
      exact absurd (guard.phase.symm.trans hphase) nofun
    receipts := by
      intro r hr
      cases hr
      exact OperationReceipt.integrity_new _ _ }

/-- A closed gate is coherent. -/
theorem close (h : s.Coherent) : s.closeAdmission.Coherent :=
  { h with
    closed := by simp [closeAdmission]
    candidate := by simp [closeAdmission]
    recovering := by simp [closeAdmission]
    candidateGeneration := by intro c hc; cases hc
    disposed := nofun }

end Coherent

/-- The next id has not been handed out. -/
theorem not_issued_next {s : AuthorityGate} (hnext : s.nextOperationId ≠ 0) :
    ¬ s.Issued s.nextOperationId := by
  rintro (hzero | hlt)
  · exact hnext hzero
  · exact lt_irrefl _ hlt

/-- An admission keeps the ids that were handed out. -/
theorem issued_succ {s : AuthorityGate} {id : OperationId} (h : s.Issued id)
    (hnext : s.nextOperationId ≠ 0) :
    s.nextOperationId + 1 = 0 ∨ id < s.nextOperationId + 1 := by
  unfold Issued at h
  grind

end AuthorityGate

/-- Ids that were handed out stay handed out. -/
theorem Transition.issued {s s' : AuthorityGate} {c : Call} {a : Answer} {id : OperationId}
    (step : Transition s c a s') (h : s.Issued id) : s'.Issued id := by
  cases step with
  | @startup e index =>
    obtain ⟨idle, ready, sink, initialization, -, heq⟩ := s.recordStartup_eq index e
    rw [heq]
    exact h
  | admission guard => exact AuthorityGate.issued_succ h guard.unexhausted
  | _ => exact h

/-- Every transition keeps the gate coherent. -/
theorem Transition.coherent {s s' : AuthorityGate} {c : Call} {a : Answer}
    (step : Transition s c a s') (h : s.Coherent) : s'.Coherent := by
  cases step with
  | noEffect => exact h
  | @startup e index phase opened =>
    obtain ⟨idle, ready, sink, initialization, hopen, heq⟩ := s.recordStartup_eq index e
    rw [heq]
    exact
      { h with
        closed := by simp [phase, hopen]
        recovering := by simp [phase] }
  | capabilities => exact { h with }
  | candidateCapabilities target => exact h.changeCandidate target.candidate rfl
  | capabilitiesConflict target => exact h.changeCandidate target.candidate rfl
  | discard candidate =>
    have hphase : s.bindingPhase = .preparing := h.candidate.mp (by rw [candidate]; rfl)
    exact h.withdraw (h.recovering (.inr hphase)).1 rfl
  | withdrawIdle noCandidate => exact h.withdraw rfl noCandidate
  | withdrawCurrent noCandidate opened unwithdrawn time present bound unreleased =>
    have hchanged := h.changeReceipt present bound
      (.withdraw noCandidate opened unwithdrawn time unreleased)
    exact hchanged.withdraw rfl noCandidate
  | begin guard => exact h.begin guard
  | readiness target => exact h.changeCandidate target.candidate rfl
  | readinessConflict target => exact h.changeCandidate target.candidate rfl
  | commit candidate committable => exact h.commit candidate committable
  | admission guard => exact h.admission guard
  | operation present bound step => exact h.changeReceipt present bound (.operation step)
  | native present bound step =>
    exact { h.changeReceipt present bound (.native step) with }
  | close => exact h.close

/-- Every reachable gate is coherent. -/
theorem Run.coherent (run : Run) : run.final.Coherent :=
  gate.invariant_run (fun s c ↦ (gate_transition s c).coherent)
    (AuthorityGate.coherent_initial run.config) run.calls

/-- In every reachable gate the status fields of the receipt are those that its evidence
justifies, and a refresh of its disposition changes nothing. -/
theorem Run.recorded_receipt (run : Run) (r : OperationReceipt)
    (hr : r ∈ run.final.currentReceipt) :
    r.Recorded ∧ ¬ (r.nativeAcceptanceEvidence.isSome ∧ r.nativeRejectionEvidence.isSome) ∧
      ¬ (r.outputEvidence.isSome ∧ r.outputNonDeliveryEvidence.isSome) ∧
      r.refreshAuthorityDisposition = r := by
  have hintegrity := run.coherent.receipts r hr
  have hrecorded := hintegrity.recorded
  refine ⟨hrecorded, ?_, ?_, ?_⟩
  · rintro ⟨haccepted, hrejected⟩
    have := (hrecorded.accepted.mpr haccepted).symm.trans (hrecorded.rejected.mpr hrejected)
    cases this
  · rintro ⟨hdelivered, hwithheld⟩
    have := (hrecorded.delivered.mpr hdelivered).symm.trans (hrecorded.withheld.mpr hwithheld)
    cases this
  · have hrefreshed : r.authorityDisposition = r.computedDisposition := hintegrity.refreshed
    rw [OperationReceipt.refreshAuthorityDisposition, ← hrefreshed]

/-- The receipt of the settled test operation. -/
theorem recorded_receipt_settled :
    ∃ r ∈ (testRun testOperation).final.currentReceipt, r.settlement = .settled ∧ r.Recorded := by
  have hpresent : (testRun testOperation).final.currentReceipt.isSome := by decide
  obtain ⟨r, hr⟩ := Option.isSome_iff_exists.mp hpresent
  have hsettled : ∀ q ∈ (testRun testOperation).final.currentReceipt,
      q.settlement = .settled := by decide
  exact ⟨r, hr, hsettled r hr, (Run.recorded_receipt (testRun testOperation) r hr).1⟩

end RobotHarness
