import RobotHarness.Core.Revocation

/-!
# What the owner of a gate relies on

The controls of a gate change the current receipt by a revocation alone, and an instructed stop
is recorded in it. A withdrawn binding leaves no output pending but of a revoked operation, and
the configuration keeps all but its binding.
-/

namespace RobotHarness

/-- The receipt that is read is the current one, of the authority that is named. -/
theorem AuthorityGate.receipt_eq_some {s : AuthorityGate} {authority : OperationAuthority}
    {r : OperationReceipt} :
    s.receipt authority = some r ↔ s.currentReceipt = some r ∧ r.authority = authority := by
  unfold AuthorityGate.receipt
  split
  · next hnone => simp [hnone]
  · next q hq =>
    simp only [hq, authorityMatches_iff, Option.some.injEq]
    constructor
    · intro h
      split at h
      · next hauthority =>
        cases h
        exact ⟨rfl, hauthority⟩
      · cases h
    · rintro ⟨rfl, hauthority⟩
      rw [if_pos hauthority]

/-- The call withdraws or prepares a binding, or revokes an operation. -/
def Call.IsControl : Call → Prop
  | .withdrawBinding .. | .beginRebind .. | .observeRebindReadiness .. => True
  | .observeExecutionCapabilities .. | .requestCancel .. | .observeTime .. => True
  | _ => False

/-- The call neither admits an operation nor accepts its output. -/
def Call.IsPlain : Call → Prop
  | .admitRequest _ | .observeOutputAccepted _ => False
  | _ => True

/-- A control is plain. -/
theorem Call.IsControl.isPlain {c : Call} (h : c.IsControl) : c.IsPlain := by
  cases c with
  | admitRequest | observeOutputAccepted => exact h
  | _ => trivial

/-- A control assigns the revocations, the stop request and the disposition alone. -/
theorem ReceiptStep.control_eq {s : AuthorityGate} {c : Call} {a : Answer}
    {r r' : OperationReceipt} (step : ReceiptStep s c a r r') (kind : c.IsControl) :
    ∃ cancelled expired withdrawn stop acknowledgement disposition,
      r' =
        { r with
          cancellationRequestedAt := cancelled
          expiryObservedAt := expired
          bindingWithdrawnAt := withdrawn
          nativeStopRequestedAt := stop
          stopAcknowledgement := acknowledgement
          authorityDisposition := disposition } := by
  cases step with
  | native => cases kind
  | withdraw =>
    rw [OperationReceipt.revoke_eq]
    exact ⟨_, _, _, _, _, _, rfl⟩
  | operation step =>
    cases step with
    | cancel | expire =>
      rw [OperationReceipt.revoke_eq]
      exact ⟨_, _, _, _, _, _, rfl⟩
    | claim | acknowledge | notSubmitted | acceptOutput | withholdOutput | settle => cases kind

/-- Output is accepted by its sink alone. -/
theorem ReceiptStep.accepted {s : AuthorityGate} {c : Call} {a : Answer}
    {r r' : OperationReceipt} (step : ReceiptStep s c a r r') (plain : c.IsPlain)
    (h : r'.output = .accepted) : r.output = .accepted := by
  cases step with
  | native step => rwa [← step.frame.output]
  | withdraw => rwa [OperationReceipt.revoke_eq] at h
  | operation step =>
    cases step with
    | acceptOutput => cases plain
    | cancel | expire => rwa [OperationReceipt.revoke_eq] at h
    | withholdOutput => cases h
    | claim | acknowledge | notSubmitted | settle => exact h

/-- Only settlement evidence settles. -/
theorem ReceiptStep.settlement_eq {s : AuthorityGate} {c : Call} {a : Answer}
    {r r' : OperationReceipt} (step : ReceiptStep s c a r r')
    (hcall : ∀ e, c ≠ .observeSettlement e) : r'.settlement = r.settlement := by
  cases step with
  | native step => exact step.frame.settlement
  | withdraw => rw [OperationReceipt.revoke_eq]; rfl
  | operation step =>
    cases step with
    | settle => exact absurd rfl (hcall _)
    | cancel | expire => rw [OperationReceipt.revoke_eq]; rfl
    | claim | acknowledge | notSubmitted | acceptOutput | withholdOutput => rfl

namespace Transition

variable {s s' : AuthorityGate} {c : Call} {a : Answer}

/-- A call that admits nothing keeps the current operation. -/
theorem authority_eq (step : Transition s c a s') (hcall : ∀ request, c ≠ .admitRequest request) :
    s'.currentReceipt.map OperationReceipt.authority =
      s.currentReceipt.map OperationReceipt.authority := by
  cases step.receiptEffect with
  | kept h => rw [h]
  | admitted call => exact absurd call (hcall _)
  | changed present _ change after => simp [present, after, change.authority_eq]

/-- What the changes of a call keep of a receipt, the call keeps of the current one. -/
theorem keeps_receipt {P : OperationReceipt → Prop} (step : Transition s c a s')
    (hcall : ∀ request, c ≠ .admitRequest request)
    (hstep : ∀ r r', ReceiptStep s c a r r' → P r → P r') (h : ∀ r ∈ s.currentReceipt, P r) :
    ∀ r ∈ s'.currentReceipt, P r := by
  intro r hr
  cases step.receiptEffect with
  | kept hkept => exact h r (hkept ▸ hr)
  | admitted call => exact absurd call (hcall _)
  | changed present _ change after =>
    cases after.symm.trans hr
    exact hstep _ _ change (h _ present)

/-- What the changes of a call keep of the current receipt is found in it after the call. -/
theorem keeps_present {P : OperationReceipt → Prop} (step : Transition s c a s')
    (hcall : ∀ request, c ≠ .admitRequest request)
    (hstep : ∀ r r', ReceiptStep s c a r r' → P r → P r') (h : ∃ r ∈ s.currentReceipt, P r) :
    ∃ r ∈ s'.currentReceipt, P r := by
  obtain ⟨r, hr, hp⟩ := h
  cases step.receiptEffect with
  | kept hkept => exact ⟨r, hkept.trans hr, hp⟩
  | admitted call => exact absurd call (hcall _)
  | changed present _ change after =>
    cases present.symm.trans hr
    exact ⟨_, after, hstep _ _ change hp⟩

/-- A control keeps the current receipt or revokes it. -/
theorem control (step : Transition s c a s') (kind : c.IsControl) :
    s'.currentReceipt = s.currentReceipt ∨
      ∃ r r', s.currentReceipt = some r ∧ s'.currentReceipt = some r' ∧
        ReceiptStep s c a r r' := by
  cases step.receiptEffect with
  | kept h => exact .inl h
  | admitted call => subst call; cases kind
  | changed present _ change after => exact .inr ⟨_, _, present, after, change⟩

/-- An instructed stop is recorded in the current receipt. -/
theorem stopped (step : Transition s c a s')
    (h : RobotHarness.stopInstruction ⟨s, c, a, s'⟩ ≠ none) :
    ∃ r ∈ s'.currentReceipt, r.Stopped := by
  rcases step.stopInstruction with hnone | ⟨r, r', -, hr', change⟩
  · exact absurd hnone h
  · rcases change.stopInstruction s' with ⟨-, -, hstopped⟩ | ⟨hnone, -⟩
    · exact ⟨r', hr', hstopped⟩
    · exact absurd hnone h

/-- A report of capabilities keeps the phase, the configuration and the receipt. -/
theorem reportsCapabilities {e : ExecutionCapabilities}
    (step : Transition s (.observeExecutionCapabilities e) a s') :
    s'.bindingPhase = s.bindingPhase ∧ s'.config = s.config ∧
      s'.currentReceipt = s.currentReceipt := by
  cases step with
  | noEffect | capabilities | candidateCapabilities | capabilitiesConflict =>
    exact ⟨rfl, rfl, rfl⟩
  | operation _ _ step => cases step

end Transition

/-- What a claimed dispatch found and what it assigned. -/
theorem Transition.claimed {s s' : AuthorityGate} {authority : OperationAuthority}
    {t : MonotonicTime} (step : Transition s (.claimDispatch authority t) (.dispatch true) s') :
    ∃ r, s.currentReceipt = some r ∧ r.authority = authority ∧
      r.authority.binding = s.config.binding ∧ r.dispatch = .pending ∧
      s' = { s with currentReceipt := some (r.claim t) } := by
  cases step with
  | noEffect hquiet => cases hquiet
  | operation present bound step =>
    cases step with
    | claim _ _ _ pending => exact ⟨_, present, rfl, bound, pending, rfl⟩

/-- An admission is refused without an authority, or passes its guards. -/
theorem AuthorityGate.admit_cases (s : AuthorityGate) (request : OperationRequest) :
    (∃ decision, s.call (.admitRequest request) = (.admission decision, s) ∧
      decision.authority = none) ∨
    (AdmitGuard s request ∧ s.call (.admitRequest request) =
      (.admission ⟨.admitted, some (s.nextAuthority request)⟩, s.admitted request)) := by
  have hrefused : (s.admitRequest request).1.status ≠ .admitted →
      (s.admitRequest request).1.authority = none := by
    unfold AuthorityGate.admitRequest
    iterate 8
      split
      · exact fun _ ↦ rfl
    exact fun hstatus ↦ absurd rfl hstatus
  have hstep : Transition s (.admitRequest request) (.admission (s.admitRequest request).1)
      (s.admitRequest request).2 := gate_transition s (.admitRequest request)
  change (∃ decision, (Answer.admission (s.admitRequest request).1, (s.admitRequest request).2) =
      (.admission decision, s) ∧ _) ∨ AdmitGuard s request ∧
    (Answer.admission (s.admitRequest request).1, (s.admitRequest request).2) = _
  generalize s.admitRequest request = answered at hrefused hstep ⊢
  obtain ⟨decision, s'⟩ := answered
  cases hstep with
  | noEffect hquiet => exact .inl ⟨decision, rfl, hrefused hquiet⟩
  | admission guard => exact .inr ⟨guard, rfl⟩
  | operation _ _ step => cases step

/-- While the binding is withdrawn, output is pending only of an operation that the withdrawal
has revoked. -/
def AuthorityGate.WithdrawalStamped (s : AuthorityGate) : Prop :=
  s.bindingPhase = .withdrawn →
    ∀ r ∈ s.currentReceipt, r.output = .pending → r.bindingWithdrawnAt.isSome

/-- A change of the receipt keeps a withdrawal, and makes no output pending. -/
theorem ReceiptStep.stamped {s : AuthorityGate} {c : Call} {a : Answer}
    {r r' : OperationReceipt} (step : ReceiptStep s c a r r')
    (h : r.output = .pending → r.bindingWithdrawnAt.isSome) :
    r'.output = .pending → r'.bindingWithdrawnAt.isSome := by
  intro hpending
  have hbefore : r.output = .pending := by
    by_contra hne
    exact hne ((step.output_eq hne).symm.trans hpending)
  have hwithdrawn := h hbefore
  cases step with
  | native step => rwa [step.frame.bindingWithdrawnAt]
  | withdraw => rw [OperationReceipt.revoke_eq]; rfl
  | operation step =>
    cases step with
    | cancel | expire => rwa [OperationReceipt.revoke_eq]
    | claim | acknowledge | notSubmitted | acceptOutput | withholdOutput | settle =>
      exact hwithdrawn

/-- Every transition of a coherent gate keeps withdrawals stamped. -/
theorem Transition.withdrawalStamped {s s' : AuthorityGate} {c : Call} {a : Answer}
    (step : Transition s c a s') (hs : s.Coherent) (h : s.WithdrawalStamped) :
    s'.WithdrawalStamped := by
  intro hphase r hr hpending
  have unreleased : ¬ r.isReleasable := fun hreleasable ↦
    AuthorityGate.Coherent.output_of_releasable hreleasable hpending
  cases step with
  | noEffect => exact h hphase r hr hpending
  | @startup e index phase =>
    obtain ⟨_, _, _, _, -, heq⟩ := s.recordStartup_eq index e
    rw [heq] at hphase hr
    exact h hphase r hr hpending
  | discard candidate =>
    have hpreparing : s.bindingPhase = .preparing := hs.candidate.mp (by rw [candidate]; rfl)
    exact absurd hpending (hs.disposed hpreparing r hr)
  | withdrawIdle _ _ _ _ settled =>
    by_cases hbound : r.authority.binding = s.config.binding
    · exact absurd (settled r hr hbound) unreleased
    · exact absurd (hs.superseded r hr hbound) unreleased
  | withdrawCurrent =>
    cases hr
    rw [OperationReceipt.revoke_eq]
    rfl
  | begin | commit | close => cases hphase
  | admission guard => exact absurd (guard.phase.symm.trans hphase) nofun
  | operation present bound step =>
    cases hr
    exact (ReceiptStep.operation step).stamped (h hphase _ present) hpending
  | native present bound step =>
    cases hr
    exact (ReceiptStep.native step).stamped (h hphase _ present) hpending
  | capabilities | candidateCapabilities | capabilitiesConflict | readiness
  | readinessConflict => exact h hphase r hr hpending

namespace Run

/-- Every reachable gate has its withdrawals stamped. -/
theorem withdrawalStamped (run : Run) : run.final.WithdrawalStamped :=
  run.history_rule (Q := fun _ s ↦ s.WithdrawalStamped) nofun
    fun _ _ _ _ _ hs _ step h ↦ step.withdrawalStamped hs h

/-- Every reachable gate has the configuration of its start but for the binding. -/
theorem config_eq (run : Run) :
    run.final.config = { run.config with binding := run.final.config.binding } :=
  gate.invariant_run
    (P := fun s ↦ s.config = { run.config with binding := s.config.binding })
    (fun s c h ↦ by
      have hnext := (gate_transition s c).config_eq_withBinding
      rw [h] at hnext
      exact hnext)
    rfl run.calls

end Run

end RobotHarness
