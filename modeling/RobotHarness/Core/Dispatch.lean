import RobotHarness.Core.Candidate
import RobotHarness.Core.Revocation

/-!
# Dispatch

A dispatch is claimed at most once for an operation, and only under permission that is live
at the claim: the binding that admitted it is active, nothing has ended the operation, and
the newest capabilities of that binding cover it.
-/

namespace RobotHarness

/-- The id that an event claims a dispatch for. -/
def claimedId (e : GateEvent) : Option OperationId :=
  match e.input, e.output with
  | .claimDispatch authority _, .dispatch true => some authority.operationId
  | _, _ => none

/-- The ids dispatched in a history, oldest first. -/
def claimedIds (h : List GateEvent) : List OperationId := h.filterMap claimedId

/-- The event took the permission to dispatch away: a cancellation or an expiry of the
operation, a withdrawal of its binding, closing the gate, or its non-submission. -/
def Forbids (authority : OperationAuthority) (e : GateEvent) : Prop :=
  (∃ t, (e.input = .requestCancel authority t ∨ e.input = .observeTime authority t) ∧
      ControlApplied e) ∨
    (∃ now, e.input = .withdrawBinding authority.binding now ∧ BindingApplied e) ∨
    e.input = .closeAdmission ∨
    ∃ evidence, e.input = .observeNonSubmission evidence ∧ evidence.authority = authority ∧
      EvidenceAccepted e

/-- The operation was admitted with the deadline and requirements that its receipt shows. -/
def AdmittedAs (h : List GateEvent) (r : OperationReceipt) : Prop :=
  ∃ d ∈ h, ∃ request, d.input = .admitRequest request ∧
    d.output = .admission ⟨.admitted, some r.authority⟩ ∧ r.deadline = request.deadline ∧
    r.executionRequirements = request.executionRequirements

/-- The capabilities cover the requirements at a time. -/
def Covers (capabilities : ExecutionCapabilities) (requirements : ExecutionRequirements)
    (time : MonotonicTime) : Prop :=
  capabilities.available = true ∧ capabilities.profileId = requirements.profileId ∧
    requirements.workUnits ≤ capabilities.maximumWorkUnits ∧
    capabilities.record.observedAt ≤ time ∧ time < capabilities.validUntil

/-- The operation may not be dispatched any more: it is revoked or its dispatch is decided. -/
def OperationReceipt.Undispatchable (r : OperationReceipt) : Prop :=
  r.isRevoked ∨ r.dispatch ≠ .pending

/-- The gate may not let the operation be dispatched. -/
def AuthorityGate.Forbidden (s : AuthorityGate) (authority : OperationAuthority) : Prop :=
  s.Pinned authority.operationId OperationReceipt.Undispatchable ∨
    s.Inactive authority.binding ∨ s.bindingPhase = .closed

/-! ### The claim -/

namespace Transition

variable {authority : OperationAuthority} {e : GateEvent}

/-- What a claim presupposes, and that it decides the dispatch. -/
theorem claims {t : MonotonicTime} (step : Transition e.pre e.input e.output e.post)
    (hpre : e.pre.Coherent) (hinput : e.input = .claimDispatch authority t) (h : Claimed e) :
    (∃ r ∈ e.pre.currentReceipt, r.authority = authority ∧
      r.authority.binding = e.pre.config.binding ∧ e.pre.bindingPhase = .active ∧
      e.pre.initializationState = .ready ∧ authority.admittedAt ≤ t ∧ ¬ r.Undispatchable ∧
      ¬ r.hasReachedDeadline t ∧
      ∀ q ∈ r.executionRequirements, e.pre.supportsExecution q t) ∧
      e.post.Pinned authority.operationId OperationReceipt.Undispatchable := by
  have hpost := step.coherent hpre
  obtain ⟨s, c, a, s'⟩ := e
  dsimp only [Claimed] at hinput h step hpre hpost ⊢
  subst hinput
  cases step with
  | noEffect hquiet =>
    subst h
    cases hquiet
  | operation present bound change =>
    have hchange := ReceiptStep.operation change
    cases change with
    | claim phase ready admitted pending unrevoked early supported =>
      refine ⟨⟨_, present, rfl, bound, phase, ready, admitted, ?_, early, supported⟩,
        hpost.pin_change hchange rfl (.inr nofun)⟩
      rintro (hrevoked | hdecided)
      · exact unrevoked hrevoked
      · exact hdecided pending

/-- Permission to dispatch that is gone does not come back. -/
theorem forbidden {s s' : AuthorityGate} {c : Call} {a : Answer} (step : Transition s c a s')
    (hs : s.Coherent) (h : s.Forbidden authority) : s'.Forbidden authority := by
  rcases h with hpinned | hinactive | hclosed
  · refine .inl (step.pinned hs (fun r r' change _ hr ↦ ?_) hpinned)
    rcases hr with hrevoked | hdecided
    · exact .inl (change.isRevoked hrevoked)
    · exact .inr (change.dispatched hdecided)
  · exact .inr (.inl (step.inactive hs hinactive))
  · exact .inr (.inr (step.closed hclosed))

/-- An event that forbids the dispatch makes it forbidden. -/
theorem forbids (step : Transition e.pre e.input e.output e.post) (hpre : e.pre.Coherent)
    (hcall : e.pre.call e.input = (e.output, e.post)) (h : Forbids authority e) :
    e.post.Forbidden authority := by
  have hpost := step.coherent hpre
  rcases h with ⟨t, hinput, happlied⟩ | ⟨now, hinput, happlied⟩ | hinput |
    ⟨evidence, hinput, rfl, haccepted⟩
  · exact .inl ((step.control_revokes hpre hinput happlied).mono fun _ ↦ .inl)
  · exact .inr (.inl (step.withdraws hpre hinput happlied))
  · rw [hinput] at hcall
    have hstate : e.post = e.pre.closeAdmission := (congrArg Prod.snd hcall).symm
    exact .inr (.inr (by rw [hstate]; rfl))
  · obtain ⟨s, c, a, s'⟩ := e
    dsimp only [EvidenceAccepted] at hinput haccepted step hpre hpost ⊢
    subst hinput
    cases step with
    | noEffect hquiet =>
      subst haccepted
      exact absurd rfl hquiet
    | operation present bound change =>
      have hchange := ReceiptStep.operation change
      cases change with
      | notSubmitted authority =>
        rw [authority]
        exact .inl (hpost.pin_change hchange rfl (.inr nofun))

/-- A forbidden dispatch is not claimed. -/
theorem not_claims {t : MonotonicTime} (step : Transition e.pre e.input e.output e.post)
    (hpre : e.pre.Coherent) (hinput : e.input = .claimDispatch authority t)
    (h : e.pre.Forbidden authority) : ¬ Claimed e := by
  intro hclaimed
  obtain ⟨⟨r, hr, rfl, hbound, hphase, -, -, hlive, -, -⟩, -⟩ :=
    step.claims hpre hinput hclaimed
  rcases h with hpinned | hinactive | hclosed
  · exact hlive (hpinned.2 r hr rfl)
  · rcases hinactive with hretired | ⟨-, hnotActive⟩
    · exact hretired.2 (.inl hbound)
    · exact hnotActive hphase
  · rw [hphase] at hclosed
    cases hclosed

end Transition

/-! ### Runs -/

/-- Every receipt shows the deadline and the requirements of its admission. -/
theorem Run.admittedAs (run : Run) {h t : List GateEvent} {e : GateEvent}
    (heq : run.history = h ++ e :: t) : ∀ r ∈ e.pre.currentReceipt, AdmittedAs h r := by
  refine run.history_rule_pre (Q := fun h s ↦ ∀ r ∈ s.currentReceipt, AdmittedAs h r)
    (by intro r hr; cases hr) ?_ heq
  intro h s c a s' _ _ step ih r' hr'
  rw [Option.mem_def] at hr'
  cases step.receiptEffect with
  | kept hkept =>
    obtain ⟨d, hd, hadmitted⟩ := ih r' (hkept ▸ hr')
    exact ⟨d, List.mem_append_left _ hd, hadmitted⟩
  | admitted hcall _ hanswer hstate =>
    subst hstate
    cases hr'
    exact ⟨_, List.mem_append_right _ (List.mem_singleton_self _), _, hcall, hanswer, rfl, rfl⟩
  | changed present _ change after =>
    rw [after, Option.some.injEq] at hr'
    subst hr'
    obtain ⟨d, hd, request, hinput, houtput, hdeadline, hrequirements⟩ := ih _ present
    obtain ⟨hdeadline', hrequirements'⟩ := change.request_eq
    exact ⟨d, List.mem_append_left _ hd, request, hinput,
      by rw [houtput, change.authority_eq], hdeadline'.trans hdeadline,
      hrequirements'.trans hrequirements⟩

/-- A dispatch is claimed at most once for an operation. -/
theorem Run.nodup_claimedIds (run : Run) : (claimedIds run.history).Nodup := by
  have hclaim : ∀ e id, claimedId e = some id →
      ∃ authority t, e.input = .claimDispatch authority t ∧ Claimed e ∧
        authority.operationId = id := by
    rintro ⟨s, c, a, s'⟩ id hid
    unfold claimedId at hid
    split at hid
    · next hinput houtput =>
      cases hid
      exact ⟨_, _, hinput, houtput, rfl⟩
    · cases hid
  apply run.nodup_filterMap _
  intro h e t id heq hid d hd hagain
  obtain ⟨authority, time, hinput, hclaimed, rfl⟩ := hclaim e id hid
  obtain ⟨again, later, hinput', hclaimed', hsame⟩ := hclaim d _ hagain
  obtain ⟨hpre, step⟩ := run.transition (e := e) (by simp [heq])
  obtain ⟨hpre', step'⟩ := run.transition (e := d) (by simp [heq, hd])
  have hforbidden : e.post.Forbidden again := by
    refine .inl ?_
    rw [hsame]
    exact (step.claims hpre hinput hclaimed).2
  have hlater := (run.stable_rule (P := fun s ↦ s.Forbidden again)
    (fun s c a s' hs hstep hp ↦ hstep.forbidden hs hp) heq hforbidden).2 d hd
  exact step'.not_claims hpre' hinput' hlater hclaimed'

/-- Single dispatch under live permission. -/
theorem Run.single_dispatch (run : Run) :
    (claimedIds run.history).Nodup ∧
      ∀ h e t, run.history = h ++ e :: t → ∀ authority time,
        e.input = .claimDispatch authority time → Claimed e →
          e.pre.bindingPhase = .active ∧ e.pre.config.binding = authority.binding ∧
          e.pre.initializationState = .ready ∧ (∀ d ∈ h, ¬ Forbids authority d) ∧
          authority.admittedAt ≤ time ∧
          ∃ d ∈ h, ∃ request, d.input = .admitRequest request ∧
            d.output = .admission ⟨.admitted, some authority⟩ ∧
            (∀ deadline ∈ request.deadline, time < deadline) ∧
            ∀ requirements ∈ request.executionRequirements, ∃ capabilities,
              capabilities.binding = authority.binding ∧
              capabilityStream.Newest capabilities h ∧
              Covers capabilities requirements time := by
  refine ⟨run.nodup_claimedIds, ?_⟩
  intro h e t heq authority time hinput hclaimed
  obtain ⟨hpre, step⟩ := run.transition (e := e) (by simp [heq])
  obtain ⟨⟨r, hr, rfl, hbound, hphase, hready, hadmitted, -, hearly, hsupported⟩, -⟩ :=
    step.claims hpre hinput hclaimed
  refine ⟨hphase, hbound.symm, hready, ?_, hadmitted, ?_⟩
  · intro d hd hforbids
    obtain ⟨before, after, rfl⟩ := List.append_of_mem hd
    have hsplit : run.history = before ++ d :: (after ++ e :: t) := by simp [heq]
    have hmem : d ∈ run.history := by simp [hsplit]
    obtain ⟨hpre', step'⟩ := run.transition hmem
    have hlater := (run.stable_rule (P := fun s ↦ s.Forbidden r.authority)
      (fun s c a s' hs hstep hp ↦ hstep.forbidden hs hp) hsplit
      (step'.forbids hpre' (run.call_eq hmem) hforbids)).2 e (by simp)
    exact step.not_claims hpre hinput hlater hclaimed
  · obtain ⟨d, hd, request, hcall, hanswer, hdeadline, hrequirements⟩ :=
      run.admittedAs heq r hr
    refine ⟨d, hd, request, hcall, hanswer, ?_, ?_⟩
    · intro deadline hmem
      by_contra hle
      exact hearly ⟨deadline, hdeadline ▸ hmem, not_lt.mp hle⟩
    · intro requirements hmem
      obtain ⟨-, -, -, -, capabilities, hactive, hcovers⟩ :=
        hsupported requirements (hrequirements ▸ hmem)
      obtain ⟨habout, hnewest⟩ := (run.observationHistory heq).active capabilities hactive
      exact ⟨capabilities, habout.trans hbound.symm, hnewest, hcovers⟩

end RobotHarness
