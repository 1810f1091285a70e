import RobotHarness.Core.Identity

/-!
# Closing is final

What a closed gate still does: it takes controls and evidence of the operation that was current
when it was closed, and nothing else.
-/

namespace RobotHarness

/-- The gate has been closed while the operation was current. -/
structure AuthorityGate.ClosedWith (s : AuthorityGate) (current : Option OperationAuthority) :
    Prop where
  phase : s.bindingPhase = .closed
  initialization : s.initializationState = .closed
  candidate : s.candidate = none
  receipt : s.currentReceipt.map (·.authority) = current

namespace AuthorityGate.ClosedWith

variable {s : AuthorityGate} {current : Option OperationAuthority}

/-- Closing keeps the receipt. -/
theorem of_close (s : AuthorityGate) :
    s.closeAdmission.ClosedWith (s.currentReceipt.map (·.authority)) := by
  constructor <;> rfl

/-- A change of the receipt keeps its operation. -/
theorem change (h : s.ClosedWith current) {c : Call} {a : Answer} {r r' : OperationReceipt}
    (present : s.currentReceipt = some r) (step : ReceiptStep s c a r r') :
    ClosedWith { s with currentReceipt := some r' } current := by
  constructor
  · exact h.phase
  · exact h.initialization
  · exact h.candidate
  · have hcurrent := h.receipt
    rw [present] at hcurrent
    rw [← hcurrent, Option.map_some, Option.map_some, step.authority_eq]

end AuthorityGate.ClosedWith

/-- A closed gate stays closed, with the operation it was closed with. -/
theorem Transition.closedWith {s s' : AuthorityGate} {c : Call} {a : Answer}
    {current : Option OperationAuthority} (step : Transition s c a s')
    (h : s.ClosedWith current) : s'.ClosedWith current := by
  cases step with
  | noEffect => exact h
  | startup _ opened => exact absurd h.initialization opened
  | capabilities opened => exact absurd h.initialization opened
  | candidateCapabilities target | capabilitiesConflict target | readiness target
  | readinessConflict target => cases h.candidate.symm.trans target.candidate
  | discard candidate => cases h.candidate.symm.trans candidate
  | withdrawIdle _ opened | withdrawCurrent _ opened => exact absurd h.phase opened
  | begin guard => cases h.phase.symm.trans guard.phase
  | commit candidate => cases h.candidate.symm.trans candidate
  | admission guard => cases h.phase.symm.trans guard.phase
  | operation present _ step => exact h.change present (.operation step)
  | native present _ step =>
    have hchange := h.change present (.native step)
    exact ⟨hchange.phase, hchange.initialization, hchange.candidate, hchange.receipt⟩
  | close => exact ⟨rfl, rfl, rfl, h.receipt⟩

/-- An operation changes a receipt for a call that names it. -/
theorem OperationStep.names {s : AuthorityGate} {c : Call} {a : Answer}
    {r r' : OperationReceipt} (step : OperationStep s c a r r') :
    c.authority = some r.authority := by
  cases step with
  | claim | cancel | expire => rfl
  | acknowledge same | notSubmitted same | acceptOutput same | withholdOutput same
  | settle same => exact congrArg some same

/-- The event begins nothing: it admits no operation, claims no dispatch and applies no control
of the binding. -/
structure BeginsNothing (e : GateEvent) : Prop where
  admits : ¬ Admitted e
  claims : ¬ Claimed e
  binds : ¬ BindingApplied e

/-- An answer without effect begins nothing. -/
theorem BeginsNothing.of_noEffect {e : GateEvent} (h : e.output.NoEffect) : BeginsNothing e := by
  constructor
  · rintro ⟨decision, houtput, hadmitted⟩
    rw [houtput] at h
    exact h hadmitted
  · intro hclaimed
    rw [hclaimed] at h
    cases h
  · rintro ⟨decision, houtput, happlied⟩
    rw [houtput] at h
    exact h.1 happlied

/-- So does an answer to a control or to evidence. -/
theorem BeginsNothing.of_control {e : GateEvent}
    (h : (∃ decision, e.output = .control decision) ∨ ∃ d, e.output = .evidence d) :
    BeginsNothing e := by
  constructor
  · rintro ⟨decision, houtput, -⟩
    rcases h with ⟨_, h⟩ | ⟨_, h⟩ <;> cases houtput.symm.trans h
  · intro houtput
    rcases h with ⟨_, h⟩ | ⟨_, h⟩ <;> cases houtput.symm.trans h
  · rintro ⟨decision, houtput, -⟩
    rcases h with ⟨_, h⟩ | ⟨_, h⟩ <;> cases houtput.symm.trans h

/-- A call of a closed gate begins nothing, and changes something only when it names the
operation that the gate was closed with. -/
theorem Transition.windsUp {e : GateEvent} {current : Option OperationAuthority}
    (step : Transition e.pre e.input e.output e.post) (h : e.pre.ClosedWith current) :
    BeginsNothing e ∧
      (e.post ≠ e.pre → current.isSome ∧ e.input.authority = current) := by
  obtain ⟨s, c, a, s'⟩ := e
  dsimp only at step h ⊢
  have hcurrent : ∀ r, s.currentReceipt = some r → current = some r.authority := by
    intro r present
    have hreceipt := h.receipt
    rw [present] at hreceipt
    exact hreceipt.symm
  cases step with
  | noEffect answer =>
    constructor
    · exact .of_noEffect answer
    · intro hchanged
      exact absurd rfl hchanged
  | startup _ opened | capabilities opened => exact absurd h.initialization opened
  | candidateCapabilities target | capabilitiesConflict target | readiness target
  | readinessConflict target => cases h.candidate.symm.trans target.candidate
  | discard candidate | commit candidate => cases h.candidate.symm.trans candidate
  | withdrawIdle _ opened | withdrawCurrent _ opened => exact absurd h.phase opened
  | begin guard | admission guard => cases h.phase.symm.trans guard.phase
  | operation present _ step =>
    constructor
    · apply BeginsNothing.of_control
      cases step with
      | claim phase => cases h.phase.symm.trans phase
      | cancel | expire => exact .inl ⟨_, rfl⟩
      | acknowledge | notSubmitted | acceptOutput | withholdOutput | settle =>
        exact .inr ⟨_, rfl⟩
    · intro _
      rw [hcurrent _ present]
      exact ⟨rfl, step.names⟩
  | native present _ step =>
    constructor
    · exact .of_control (.inr ⟨_, rfl⟩)
    · intro _
      rw [hcurrent _ present]
      exact ⟨rfl, congrArg some step.authority⟩
  | close =>
    constructor
    · constructor
      · rintro ⟨_, houtput, -⟩
        cases houtput
      · intro houtput
        cases houtput
      · rintro ⟨_, houtput, -⟩
        cases houtput
    · intro hchanged
      apply absurd _ hchanged
      rw [AuthorityGate.closeAdmission, ← h.phase, ← h.initialization, ← h.candidate]

/-- Closing is final: from then on no operation is admitted or dispatched and no control of the
binding applied, every change is by a call that names the operation the gate was closed with, and
the gate is still closed with it in the end. -/
theorem Run.closing_is_final (run : Run) {h t : List GateEvent} {e : GateEvent}
    (heq : run.history = h ++ e :: t) (hclose : e.input = .closeAdmission) :
    let current := e.pre.currentReceipt.map (·.authority)
    run.final.ClosedWith current ∧
      ∀ d ∈ t, BeginsNothing d ∧
        (d.post ≠ d.pre → current.isSome ∧ d.input.authority = current) := by
  intro current
  have hmem : e ∈ run.history := by simp [heq]
  have hcall := run.call_eq hmem
  rw [hclose] at hcall
  have hpost : e.post = e.pre.closeAdmission := (congrArg Prod.snd hcall).symm
  have hclosed : e.post.ClosedWith current := by
    rw [hpost]
    exact .of_close e.pre
  have hrule := run.stable_rule (P := fun s ↦ s.ClosedWith current)
    (fun s c a s' _ step hs ↦ step.closedWith hs) heq hclosed
  constructor
  · exact hrule.1
  · intro d hd
    have hlater : d ∈ run.history := by
      rw [heq]
      exact List.mem_append_right h (List.mem_cons_of_mem e hd)
    exact (run.transition hlater).2.windsUp (hrule.2 d hd)

/-- The test operation, cancelled after the gate is closed. -/
theorem closing_is_final_cancelled :
    (testRun (testDispatch ++ [.closeAdmission, .requestCancel testAuthority 15])).final.ClosedWith
      (some testAuthority) := by
  have heq : (testRun (testDispatch ++ [.closeAdmission, .requestCancel testAuthority 15])).history =
      (testRun testDispatch).history ++
        gate.event (testRun testDispatch).final .closeAdmission ::
          gate.trace (testRun testDispatch).final.closeAdmission
            [.requestCancel testAuthority 15] :=
    gate.trace_append _ (testStartup ++ testDispatch) _
  have hfinal := (Run.closing_is_final _ heq rfl).1
  have hcurrent : (testRun testDispatch).final.currentReceipt.map (·.authority) =
      some testAuthority := by decide
  rwa [← hcurrent]

end RobotHarness
