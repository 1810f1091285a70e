import RobotHarness.Core.History
import RobotHarness.Core.Persistence

/-!
# Refusals are atomic

A call that reports refusal has written nothing, with one exception that the source makes on
purpose: an observation that contradicts the retained one of the current candidate marks it.
-/

namespace RobotHarness

/-- The answer reports refusal. -/
def Answer.ReportsRefusal : Answer → Prop
  | .evidence disposition => disposition = .rejected
  | .dispatch claimed => claimed = false
  | .admission decision => decision.status ≠ .admitted
  | .control decision => decision.status ≠ .applied
  | .binding decision => decision.status ≠ .applied
  | _ => False

/-- The observation contradicts the retained one under its sequence number. -/
structure CandidateFact.Contradicted {α : Type} [Observation α] (identical : α → α → Prop)
    (fact : CandidateFact α) (observation previous : α) : Prop where
  retained : fact.evidence = some previous
  sequence : (Observation.record observation).sequence = (Observation.record previous).sequence
  differs : ¬ identical observation previous

/-- The fact with its conflict flag set, at the later of the two times. -/
def CandidateFact.marked {α : Type} [Observation α] (observation previous : α) :
    CandidateFact α :=
  ⟨some (Observation.withObservedAt previous
    (max (Observation.record previous).observedAt (Observation.record observation).observedAt)),
    true⟩

/-- The event marks a fact of the current candidate as contradicted and writes nothing else. -/
inductive MarksConflict (e : GateEvent) : Prop where
  | readiness {c : Candidate} {observation previous : BindingReadinessEvidence} {index : Fin 3}
      (input : e.input = .observeRebindReadiness observation)
      (candidate : e.pre.candidate = some c) (binding : observation.binding = c.binding)
      (slot : e.pre.config.readinessIndex observation.kind = some index)
      (contradicted :
        (c.readiness index).Contradicted readinessIdentical observation previous)
      (state : e.post = e.pre.setReadiness c index (.marked observation previous))
  | capabilities {c : Candidate} {observation previous : ExecutionCapabilities}
      (input : e.input = .observeExecutionCapabilities observation)
      (candidate : e.pre.candidate = some c) (binding : observation.binding = c.binding)
      (contradicted :
        c.capabilities.Contradicted capabilitiesIdentical observation previous)
      (state : e.post =
        { e.pre with
          candidate := some { c with capabilities := .marked observation previous } })

/-- A native event that repeats a kind leaves the receipt alone. -/
theorem NativeStep.repeated {s : AuthorityGate} {e : NativeEvidence} {r applied : OperationReceipt}
    (step : NativeStep s e .duplicate r applied) (h : r.Integrity) :
    applied.deriveNativeOutcome.refreshAuthorityDisposition = r := by
  have hchange := step.change
  cases hchange with
  | repeated =>
    have hderived : r.deriveNativeOutcome = r := by
      rw [OperationReceipt.deriveNativeOutcome_eq,
        OperationReceipt.derivedOutcome_of_recorded h.recorded]
    rw [hderived, OperationReceipt.refreshAuthorityDisposition, ← h.refreshed]

/-- A native event that reaches the receipt is not rejected. -/
theorem NativeStep.not_rejected {s : AuthorityGate} {e : NativeEvidence}
    {r applied : OperationReceipt} : ¬ NativeStep s e .rejected r applied := by
  intro step
  have hchange := step.change
  cases hchange

/-- A transition whose answer reports refusal has no effect, or marks a contradiction. -/
theorem Transition.refused {e : GateEvent} (step : Transition e.pre e.input e.output e.post)
    (h : e.output.ReportsRefusal) : e.post = e.pre ∨ MarksConflict e := by
  obtain ⟨s, c, a, s'⟩ := e
  dsimp only at step h ⊢
  cases step with
  | noEffect => exact .inl rfl
  | capabilitiesConflict target retained sequence differs =>
    exact .inr (.capabilities rfl target.candidate target.binding ⟨retained, sequence, differs⟩ rfl)
  | readinessConflict target retained sequence differs =>
    exact .inr (.readiness rfl target.candidate target.binding target.slot
      ⟨retained, sequence, differs⟩ rfl)
  | discard | withdrawIdle | withdrawCurrent | begin | commit => exact absurd rfl h
  | admission => exact absurd rfl h
  | operation _ _ change =>
    cases change with
    | cancel | expire => exact absurd rfl h
    | claim | acknowledge | notSubmitted | acceptOutput | withholdOutput | settle => cases h
  | native _ _ step =>
    cases h
    exact absurd step NativeStep.not_rejected
  | startup | capabilities | candidateCapabilities | readiness | close => cases h

/-- Evidence that is answered as a duplicate leaves the receipt alone. -/
theorem Transition.duplicate {e : GateEvent} (step : Transition e.pre e.input e.output e.post)
    (hpre : e.pre.Coherent) (h : e.output = .evidence .duplicate) :
    e.post.currentReceipt = e.pre.currentReceipt := by
  obtain ⟨s, c, a, s'⟩ := e
  dsimp only at step hpre h ⊢
  cases step with
  | noEffect => rfl
  | native present _ step =>
    cases h
    rw [step.repeated (hpre.receipts _ present), present]
  | operation _ _ change => cases change <;> cases h
  | startup | capabilities | candidateCapabilities | readiness | capabilitiesConflict
  | readinessConflict | discard | withdrawIdle | withdrawCurrent | begin | commit | admission
  | close => cases h

/-- Refusals are atomic: a call of a reachable gate that reports refusal leaves the whole gate
as it was, but for the mark on a contradicted fact of the candidate, and evidence that is
answered as a duplicate never changes the receipt. -/
theorem Run.refusals_atomic (run : Run) :
    (∀ e ∈ run.history, e.output.ReportsRefusal → e.post = e.pre ∨ MarksConflict e) ∧
      ∀ e ∈ run.history, e.output = .evidence .duplicate →
        e.post.currentReceipt = e.pre.currentReceipt :=
  ⟨fun _ he ↦ (run.transition he).2.refused,
    fun _ he ↦ (run.transition he).2.duplicate (run.transition he).1⟩

end RobotHarness
