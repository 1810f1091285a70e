import RobotHarness.Core.Binding

/-!
# No stale identity acts

The bindings and the operation that a call names, and the refusal of every call that names
a binding out of use or an operation that is not current.
-/

namespace RobotHarness

/-- The bindings that a call names. -/
def Call.bindings : Call → List BindingIdentity
  | .observeStartup evidence => [evidence.binding]
  | .observeExecutionCapabilities capabilities => [capabilities.binding]
  | .withdrawBinding expectedBinding _ => [expectedBinding]
  | .beginRebind expectedOldBinding _ oldScopeEvidence _ =>
    [expectedOldBinding, oldScopeEvidence.binding]
  | .observeRebindReadiness evidence => [evidence.binding]
  | .commitRebind expectedCandidate _ => [expectedCandidate]
  | _ => []

/-- The operation that a control or evidence call, or a question for permission, names. -/
def Call.authority : Call → Option OperationAuthority
  | .claimDispatch authority _ => some authority
  | .requestCancel authority _ => some authority
  | .observeTime authority _ => some authority
  | .observeStopAcknowledgement evidence => some evidence.authority
  | .observeNonSubmission evidence => some evidence.authority
  | .observeNative evidence => some evidence.authority
  | .canDeliverResult authority => some authority
  | .observeOutputAccepted evidence => some evidence.authority
  | .observeOutputNotDelivered evidence => some evidence.authority
  | .observeSettlement evidence => some evidence.authority
  | _ => none

/-- The answer refuses: nothing is accepted, applied, claimed, permitted or to be stopped. -/
def Answer.Refused : Answer → Prop
  | .evidence disposition => disposition = .rejected
  | .binding decision => decision.status ≠ .applied ∧ decision.nativeStopAuthority = none
  | .dispatch claimed => claimed = false
  | .control decision => decision = ⟨.noActiveOperation, false⟩
  | .deliverable permitted => permitted = false
  | _ => False

/-- The call is refused and leaves the gate as it was. -/
def AuthorityGate.Refuses (s : AuthorityGate) (c : Call) : Prop :=
  gate.next s c = s ∧ (gate.answer s c).Refused

namespace AuthorityGate

variable {s : AuthorityGate}

private theorem refuses_evidence {c : Call} {result : EvidenceDisposition × AuthorityGate}
    (h : result = (.rejected, s)) (hcall : s.call c = result.map .evidence id) :
    s.Refuses c := by
  show (s.call c).2 = s ∧ (s.call c).1.Refused
  rw [hcall, h]
  exact ⟨rfl, rfl⟩

private theorem refuses_binding_control {c : Call} {result : BindingDecision × AuthorityGate}
    (hcall : s.call c = result.map .binding id)
    (h : ∀ d s', Transition s c (.binding d) s' → s' = s ∧ (Answer.binding d).NoEffect) :
    s.Refuses c := by
  have step := gate_transition s c
  have hanswer : gate.answer s c = .binding result.1 := congrArg Prod.fst hcall
  rw [hanswer] at step
  obtain ⟨hnext, hquiet⟩ := h _ _ step
  exact ⟨hnext, by rw [hanswer]; exact hquiet⟩

private theorem observeActiveCapabilities_stale {e : ExecutionCapabilities}
    (he : e.binding ≠ s.config.binding) :
    s.observeActiveCapabilities e = (.rejected, s) := by
  rw [observeActiveCapabilities, if_pos (.inr (.inr (.inl he)))]

/-- A call that names a binding out of use is refused. -/
theorem refuses_binding {c : Call} {b : BindingIdentity} (hb : ¬ s.InUse b)
    (hc : b ∈ c.bindings) : s.Refuses c := by
  have hactive : b ≠ s.config.binding := fun heq ↦ hb (.inl heq)
  have hcandidate : ∀ candidate, s.candidate = some candidate → b ≠ candidate.binding := by
    intro candidate hs heq
    exact hb (.inr (by rw [hs, heq]; rfl))
  have step := gate_transition s c
  cases c with
  | observeStartup e =>
    cases List.mem_singleton.mp hc
    have hrejected : s.observeStartup e = (.rejected, s) := by
      rw [observeStartup, if_pos (.inr (.inr (.inr hactive)))]
    exact refuses_evidence hrejected rfl
  | observeExecutionCapabilities e =>
    cases List.mem_singleton.mp hc
    have hrejected : s.observeExecutionCapabilities e = (.rejected, s) := by
      unfold observeExecutionCapabilities
      split
      · exact observeActiveCapabilities_stale hactive
      · next candidate hs =>
        rw [if_neg fun h ↦ hcandidate candidate hs h.1]
        exact observeActiveCapabilities_stale hactive
    exact refuses_evidence hrejected rfl
  | observeRebindReadiness e =>
    cases List.mem_singleton.mp hc
    have hrejected : s.observeRebindReadiness e = (.rejected, s) := by
      unfold observeRebindReadiness
      split
      · rfl
      · next candidate hs => rw [if_pos (.inr (hcandidate candidate hs))]
    exact refuses_evidence hrejected rfl
  | withdrawBinding expected now =>
    cases List.mem_singleton.mp hc
    apply refuses_binding_control rfl
    intro d s' step
    cases step with
    | noEffect h => exact ⟨rfl, h⟩
    | discard candidate => exact absurd rfl (hcandidate _ candidate)
    | withdrawIdle => exact absurd rfl hactive
    | withdrawCurrent => exact absurd rfl hactive
    | operation _ _ step => cases step
  | beginRebind expected providerId e now =>
    apply refuses_binding_control rfl
    intro d s' step
    cases step with
    | noEffect h => exact ⟨rfl, h⟩
    | begin guard =>
      rcases List.mem_cons.mp hc with hexpected | hevidence
      · exact absurd hexpected hactive
      · exact absurd ((List.mem_singleton.mp hevidence).trans guard.binding) hactive
    | operation _ _ step => cases step
  | commitRebind expected now =>
    cases List.mem_singleton.mp hc
    apply refuses_binding_control rfl
    intro d s' step
    cases step with
    | noEffect h => exact ⟨rfl, h⟩
    | commit candidate => exact absurd rfl (hcandidate _ candidate)
    | operation _ _ step => cases step
  | _ => exact absurd hc List.not_mem_nil

private theorem refuses_control {c : Call} {result : ControlDecision × AuthorityGate}
    (h : result = (⟨.noActiveOperation, false⟩, s)) (hcall : s.call c = result.map .control id) :
    s.Refuses c := by
  show (s.call c).2 = s ∧ (s.call c).1.Refused
  rw [hcall, h]
  exact ⟨rfl, rfl⟩

/-- A call that names an operation other than the current one is refused. -/
theorem refuses_authority {c : Call} {authority : OperationAuthority}
    (hstale : s.matchingReceipt authority = none) (hc : c.authority = some authority) :
    s.Refuses c := by
  cases c with
  | claimDispatch _ t =>
    cases hc
    show (s.claimDispatch authority t).2 = s ∧ (s.claimDispatch authority t).1 = false
    rw [claimDispatch, hstale]
    exact ⟨rfl, rfl⟩
  | requestCancel _ t =>
    cases hc
    have hnone : s.requestCancel authority t = (⟨.noActiveOperation, false⟩, s) := by
      rw [requestCancel, hstale]
    exact refuses_control hnone rfl
  | observeTime _ t =>
    cases hc
    have hnone : s.observeTime authority t = (⟨.noActiveOperation, false⟩, s) := by
      rw [observeTime, hstale]
    exact refuses_control hnone rfl
  | observeStopAcknowledgement e =>
    cases hc
    have hrejected : s.observeStopAcknowledgement e = (.rejected, s) := by
      rw [observeStopAcknowledgement, hstale]
    exact refuses_evidence hrejected rfl
  | observeNonSubmission e =>
    cases hc
    have hrejected : s.observeNonSubmission e = (.rejected, s) := by
      rw [observeNonSubmission, hstale]
    exact refuses_evidence hrejected rfl
  | observeNative e =>
    cases hc
    have hrejected : s.observeNative e = (.rejected, s) := by rw [observeNative, hstale]
    exact refuses_evidence hrejected rfl
  | canDeliverResult _ =>
    cases hc
    have hdenied : ¬ s.canDeliverResult authority := by
      rintro ⟨-, -, r, hr, -⟩
      rw [hstale] at hr
      cases hr
    exact ⟨rfl, decide_eq_false hdenied⟩
  | observeOutputAccepted e =>
    cases hc
    have hrejected : s.observeOutputAccepted e = (.rejected, s) := by
      rw [observeOutputAccepted, hstale]
    exact refuses_evidence hrejected rfl
  | observeOutputNotDelivered e =>
    cases hc
    have hrejected : s.observeOutputNotDelivered e = (.rejected, s) := by
      rw [observeOutputNotDelivered, hstale]
    exact refuses_evidence hrejected rfl
  | observeSettlement e =>
    cases hc
    have hrejected : s.observeSettlement e = (.rejected, s) := by
      rw [observeSettlement, hstale]
    exact refuses_evidence hrejected rfl
  | _ => cases hc

end AuthorityGate

/-! ### Runs -/

/-- The event started a rebinding, to the candidate. -/
def Begins (candidate : BindingIdentity) (e : GateEvent) : Prop :=
  ∃ b providerId evidence now, e.input = .beginRebind b providerId evidence now ∧
    e.output = .binding { status := .applied, candidate := some candidate }

/-- The event discarded the candidate, by its withdrawal or by closing the gate. -/
def Discards (b : BindingIdentity) (e : GateEvent) : Prop :=
  ((∃ now, e.input = .withdrawBinding b now ∧ BindingApplied e) ∨ e.input = .closeAdmission) ∧
    b ∈ e.pre.candidate.map Candidate.binding

/-- The event committed a candidate in the place of the binding. -/
def Supersedes (b : BindingIdentity) (e : GateEvent) : Prop :=
  (∃ candidate now, e.input = .commitRebind candidate now ∧ BindingApplied e) ∧
    b = e.pre.config.binding

/-- A rebinding that is started hands out a candidate of the next generation. -/
theorem Transition.begins {e : GateEvent} {b : BindingIdentity} {providerId : String}
    {evidence : BindingReadinessEvidence} {now : MonotonicTime}
    (step : Transition e.pre e.input e.output e.post)
    (hinput : e.input = .beginRebind b providerId evidence now) (happlied : BindingApplied e) :
    ∃ candidate, Begins candidate e ∧
      e.pre.generationHighWater < candidate.providerGeneration := by
  obtain ⟨guard, -, hanswer, -⟩ := step.rebinding hinput happlied
  exact ⟨_, ⟨b, providerId, evidence, now, hinput, hanswer⟩, guard.generation_lt⟩

/-- A discarded candidate is out of use. -/
theorem Transition.discards {e : GateEvent} {b : BindingIdentity} (hpre : e.pre.Coherent)
    (hcall : e.pre.call e.input = (e.output, e.post))
    (step : Transition e.pre e.input e.output e.post) (h : Discards b e) :
    e.post.Retired b := by
  obtain ⟨hcause, hcandidate⟩ := h
  obtain ⟨candidate, hpresent, hb⟩ := Option.map_eq_some_iff.mp hcandidate
  have hother : b ≠ e.pre.config.binding := hb ▸ hpre.candidate_ne hpresent
  have hgone : e.post.config.binding = e.pre.config.binding ∧ e.post.candidate = none := by
    rcases hcause with ⟨now, hinput, happlied⟩ | hinput
    · cases step.withdrawal hinput happlied with
      | discard _ _ state => rw [state]; exact ⟨rfl, rfl⟩
      | idle binding | current binding => exact absurd binding hother
    · rw [hinput] at hcall
      have hstate : e.post = e.pre.closeAdmission := (congrArg Prod.snd hcall).symm
      rw [hstate]
      exact ⟨rfl, rfl⟩
  apply step.retires hpre (.inr hcandidate)
  rintro (heq | hused)
  · exact hother (heq.trans hgone.1)
  · rw [hgone.2] at hused
    cases hused

/-- A superseded binding is out of use. -/
theorem Transition.supersedes {e : GateEvent} {b : BindingIdentity} (hpre : e.pre.Coherent)
    (step : Transition e.pre e.input e.output e.post) (h : Supersedes b e) :
    e.post.Retired b := by
  obtain ⟨⟨candidate, now, hinput, happlied⟩, rfl⟩ := h
  obtain ⟨c, hpresent, -, -, hpost⟩ := step.commits hinput happlied
  apply step.retires hpre (.inl rfl)
  rw [hpost]
  rintro (heq | hused)
  · exact hpre.candidate_ne hpresent heq.symm
  · cases hused

/-- The receipt is the one given, and it names a binding older than the configured one. -/
def AuthorityGate.Frozen (s : AuthorityGate) (receipt : Option OperationReceipt) : Prop :=
  s.currentReceipt = receipt ∧ ∀ r ∈ receipt,
    r.authority.binding.providerGeneration < s.config.binding.providerGeneration

/-- A commit leaves the receipt behind: it names an older binding. -/
theorem Transition.freezes {e : GateEvent} {candidate : BindingIdentity} {now : MonotonicTime}
    (hpre : e.pre.Coherent) (step : Transition e.pre e.input e.output e.post)
    (hinput : e.input = .commitRebind candidate now) (happlied : BindingApplied e) :
    e.post.Frozen e.pre.currentReceipt := by
  obtain ⟨c, hpresent, -, -, hpost⟩ := step.commits hinput happlied
  rw [hpost]
  refine ⟨rfl, fun r hr ↦ ?_⟩
  have hlater := (hpre.candidateGeneration c hpresent).1
  rcases hpre.receiptBinding r hr with heq | hlt
  · exact heq ▸ hlater
  · exact hlt.trans hlater

/-- Until the next admission a frozen receipt stays as it is. -/
theorem Transition.frozen {s s' : AuthorityGate} {c : Call} {a : Answer}
    {receipt : Option OperationReceipt} (step : Transition s c a s') (hs : s.Coherent)
    (hadmits : ¬ Admitted ⟨s, c, a, s'⟩) (h : s.Frozen receipt) : s'.Frozen receipt := by
  have hgeneration := step.activeGeneration hs
  refine ⟨?_, fun r hr ↦ (h.2 r hr).trans_le hgeneration⟩
  cases step.receiptEffect with
  | kept hkept => rw [hkept, h.1]
  | admitted _ _ answer => exact absurd ⟨_, answer, rfl⟩ hadmits
  | changed present bound =>
    have hlt := h.2 _ (h.1 ▸ present)
    rw [bound] at hlt
    exact absurd hlt (lt_irrefl _)

/-- What was in use before an event has a generation that is used up at the event. -/
theorem Run.used_generation_le (run : Run) {h t : List GateEvent} {e : GateEvent}
    (heq : run.history = h ++ e :: t) :
    ∀ d ∈ h ++ [e], ∀ b, d.pre.InUse b →
      b.providerGeneration ≤ e.pre.generationHighWater := by
  intro d hd b hb
  rcases List.mem_append.mp hd with hbefore | hlast
  · have hrule := run.history_rule_pre
      (Q := fun h s ↦ ∀ d ∈ h, ∀ b, d.pre.InUse b →
        b.providerGeneration ≤ s.generationHighWater)
      (fun d hd ↦ absurd hd List.not_mem_nil)
      (fun h s c a s' hs _ step ih d hd b hb ↦ by
        rcases List.mem_append.mp hd with hold | hnew
        · exact (ih d hold b hb).trans step.generation_le
        · rw [List.mem_singleton.mp hnew] at hb
          exact (hs.generation_le hb).trans step.generation_le) heq
    exact hrule d hbefore b hb
  · rw [List.mem_singleton.mp hlast] at hb
    exact (run.transition (e := e) (by simp [heq])).1.generation_le hb

/-- No stale identity ever acts: a candidate has a generation above every binding used
before; a call that names a discarded candidate, a superseded binding, or an operation that is
not the current one of the configured binding, is refused and changes nothing; and a commit
freezes the old receipt until the next admission. -/
theorem Run.stale_identity_refused (run : Run) :
    (∀ h e t, run.history = h ++ e :: t → ∀ b providerId evidence now,
      e.input = .beginRebind b providerId evidence now → BindingApplied e →
        ∃ candidate, Begins candidate e ∧ ∀ d ∈ h ++ [e], ∀ used, d.pre.InUse used →
          used.providerGeneration < candidate.providerGeneration) ∧
      (∀ e ∈ run.history, ∀ b, Discards b e ∨ Supersedes b e →
        ∀ c, b ∈ c.bindings → run.final.Refuses c) ∧
      (∀ c authority, c.authority = some authority →
        (∀ r ∈ run.final.currentReceipt, r.authority ≠ authority) ∨
          authority.binding ≠ run.final.config.binding → run.final.Refuses c) ∧
      ∀ h e t, run.history = h ++ e :: t → ∀ candidate now,
        e.input = .commitRebind candidate now → BindingApplied e →
          (∀ d ∈ t, ¬ Admitted d) → run.final.currentReceipt = e.pre.currentReceipt := by
  refine ⟨?_, ?_, ?_, ?_⟩
  · intro h e t heq b providerId evidence now hinput happlied
    have step := (run.transition (e := e) (by simp [heq])).2
    obtain ⟨candidate, hbegins, hfresh⟩ := step.begins hinput happlied
    refine ⟨candidate, hbegins, fun d hd used hused ↦ ?_⟩
    exact (run.used_generation_le heq d hd used hused).trans_lt hfresh
  · intro e he b hcause c hc
    obtain ⟨before, after, heq⟩ := List.append_of_mem he
    obtain ⟨hpre, step⟩ := run.transition he
    have hretired : e.post.Retired b := by
      rcases hcause with hdiscards | hsupersedes
      · exact step.discards hpre (run.call_eq he) hdiscards
      · exact step.supersedes hpre hsupersedes
    have hfinal := (run.stable_rule (P := fun s ↦ s.Retired b)
      (fun s c a s' _ hstep ↦ hstep.retired) heq hretired).1
    exact AuthorityGate.refuses_binding hfinal.2 hc
  · intro c authority hc hstale
    refine AuthorityGate.refuses_authority ?_ hc
    by_contra hsome
    obtain ⟨r, hr⟩ := Option.ne_none_iff_exists'.mp hsome
    obtain ⟨hpresent, rfl, hbound⟩ := AuthorityGate.matchingReceipt_eq_some.mp hr
    rcases hstale with hother | hother
    · exact hother r hpresent rfl
    · exact hother hbound
  · intro h e t heq candidate now hinput happlied hadmits
    obtain ⟨hpre, step⟩ := run.transition (e := e) (by simp [heq])
    exact (run.stable_while (P := fun s ↦ s.Frozen e.pre.currentReceipt)
      (A := fun d ↦ ¬ Admitted d)
      (fun s c a s' hs hstep hallow hp ↦ hstep.frozen hs hallow hp)
      heq (step.freezes hpre hinput happlied) hadmits).1

end RobotHarness
