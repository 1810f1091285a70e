import RobotHarness.Core.Candidate

/-!
# Handoffs between providers

A candidate replaces the configured binding only after that binding was withdrawn, its work
closed and its scope observed idle, and while the candidate is observed ready. The commit
checks the end of this; the rest is known from the history.
-/

namespace RobotHarness

/-! ### What a handoff rests on -/

/-- The event withdrew the configured binding. -/
def Withdraws (b : BindingIdentity) (w : MonotonicTime) (e : GateEvent) : Prop :=
  e.input = .withdrawBinding b w ∧ BindingApplied e ∧ e.pre.config.binding = b

/-- The event started the rebinding from the old binding to the candidate, with the
old-scope evidence that the candidate retains. -/
def Opens (c : Candidate) (old : BindingIdentity) (e : GateEvent) : Prop :=
  (∃ providerId, e.input = .beginRebind old providerId c.oldScope c.preparedAt) ∧
    e.output = .binding { status := .applied, candidate := some c.binding }

/-- The event accepted an idle or an old-scope record of the binding. -/
def AcceptsIdle (b : BindingIdentity) (record : EvidenceRecord) (e : GateEvent) : Prop :=
  (∃ evidence, e.input = .observeStartup evidence ∧ EvidenceAccepted e ∧
      evidence.kind = .bindingIdleAndSettled ∧ evidence.binding = b ∧
      evidence.record = record) ∨
    (∃ evidence, e.input = .observeRebindReadiness evidence ∧ EvidenceAccepted e ∧
      evidence.kind = .bindingIdleAndSettled ∧ evidence.binding = b ∧
      evidence.record = record) ∨
    ∃ expected providerId evidence now,
      e.input = .beginRebind expected providerId evidence now ∧ BindingApplied e ∧
      evidence.binding = b ∧ evidence.record = record

/-! ### The withdrawal -/

/-- A withdrawn binding was withdrawn at the recorded time and was not active since. -/
def WithdrawnSince (h : List GateEvent) (s : AuthorityGate) : Prop :=
  s.bindingPhase = .withdrawn ∨ s.bindingPhase = .preparing →
    ∃ w ∈ s.withdrawnAt, Since (Withdraws s.config.binding w)
      (fun d ↦ d.pre.bindingPhase ≠ .active) h

private theorem withdrawnSince_step {h : List GateEvent} {s s' : AuthorityGate} {c : Call}
    {a : Answer} (hs : s.Coherent) (step : Transition s c a s') (ih : WithdrawnSince h s) :
    WithdrawnSince (h ++ [⟨s, c, a, s'⟩]) s' := by
  intro hphase
  have later (hbefore : s.bindingPhase = .withdrawn ∨ s.bindingPhase = .preparing)
      (hbinding : s'.config.binding = s.config.binding)
      (htime : s'.withdrawnAt = s.withdrawnAt) :
      ∃ w ∈ s'.withdrawnAt, Since (Withdraws s'.config.binding w)
        (fun d ↦ d.pre.bindingPhase ≠ .active) (h ++ [⟨s, c, a, s'⟩]) := by
    obtain ⟨w, hw, hsince⟩ := ih hbefore
    refine ⟨w, htime ▸ hw, ?_⟩
    rw [hbinding]
    apply hsince.later
    intro hactive
    rw [show s.bindingPhase = .active from hactive] at hbefore
    rcases hbefore with hne | hne <;> cases hne
  cases step.bindingEffect with
  | kept binding _ phase _ withdrawn => exact later (phase ▸ hphase) binding withdrawn
  | discarded _ candidate _ state =>
    have hpreparing : s.bindingPhase = .preparing := hs.candidate.mp (by rw [candidate]; rfl)
    exact later (.inr hpreparing) (by rw [state]; rfl) (by rw [state]; rfl)
  | @withdrawn now call _ _ _ answer state =>
    obtain ⟨_, hstate⟩ := state
    obtain ⟨_, hanswer⟩ := answer
    subst hstate
    exact ⟨now, rfl, Since.now ⟨call, ⟨_, hanswer, rfl⟩, rfl⟩⟩
  | begun _ guard _ state =>
    exact later (.inl guard.phase) (by rw [state]; rfl) (by rw [state]; rfl)
  | committed _ _ _ state =>
    subst state
    rcases hphase with hne | hne <;> cases hne
  | closed state =>
    subst state
    rcases hphase with hne | hne <;> cases hne

/-! ### Idle records -/

/-- The idle and old-scope records that the gate retains of the binding, when it is in use,
have reached the sequence number. -/
structure AuthorityGate.IdleReached (s : AuthorityGate) (b : BindingIdentity)
    (sequence : UInt64) : Prop where
  generation : b.providerGeneration ≤ s.generationHighWater
  configured : b = s.config.binding →
    Reached sequence s.bindingIdle.record ∨ Reached sequence s.lastOldScopeRecord
  candidate : ∀ c ∈ s.candidate, b = c.binding →
    Reached sequence ((c.readiness 0).evidence.map (·.record))

/-- What the event that accepts an idle or old-scope record does. -/
inductive IdleEffect (s s' : AuthorityGate) (b : BindingIdentity) (record : EvidenceRecord) :
    Prop where
  | startup (phase : s.bindingPhase = .active) (binding : b = s'.config.binding)
      (retained : s'.bindingIdle.record = some record)
  | readiness {c : Candidate} (candidate : s'.candidate = some c) (binding : b = c.binding)
      (retained : (c.readiness 0).evidence.map (·.record) = some record)
  | begun (noCandidate : s.candidate = none) (binding : b = s'.config.binding)
      (retained : s'.lastOldScopeRecord = some record)

namespace Transition

variable {s s' : AuthorityGate} {c : Call} {a : Answer} {b : BindingIdentity}

/-- The effect of accepting an idle or old-scope record. -/
theorem idleEffect {record : EvidenceRecord} (step : Transition s c a s')
    (h : AcceptsIdle b record ⟨s, c, a, s'⟩) : IdleEffect s s' b record := by
  rcases h with ⟨evidence, hinput, haccepted, hkind, rfl, rfl⟩ |
    ⟨evidence, hinput, haccepted, hkind, rfl, rfl⟩ |
    ⟨expected, providerId, evidence, now, hinput, happlied, rfl, rfl⟩
  · dsimp only [EvidenceAccepted] at hinput haccepted
    subst hinput
    cases step with
    | noEffect h =>
      subst haccepted
      exact absurd rfl h
    | @startup e index phase _ _ binding slot =>
      rw [hkind] at slot
      cases slot
      obtain ⟨_, _, _, _, -, heq⟩ := s.recordStartup_eq 0 evidence
      refine .startup phase ?_ ?_
      · rw [heq]
        exact binding
      · show ((s.recordStartup 0 evidence).startupFact 0).record = some evidence.record
        rw [AuthorityGate.recordStartup_startupFact, if_pos rfl]
    | operation _ _ step => cases step
  · dsimp only [EvidenceAccepted] at hinput haccepted
    subst hinput
    cases step with
    | noEffect h =>
      subst haccepted
      exact absurd rfl h
    | readiness target =>
      have hslot := target.slot
      rw [hkind, AuthorityGateConfig.readinessIndex, if_pos rfl, Option.some.injEq] at hslot
      subst hslot
      refine .readiness rfl target.binding ?_
      dsimp only
      rw [Function.update_self]
      rfl
    | readinessConflict => cases haccepted
    | operation _ _ step => cases step
  · obtain ⟨guard, -, -, hpost⟩ :=
      Transition.rebinding (e := ⟨s, c, a, s'⟩) step hinput happlied
    dsimp only at hpost
    subst hpost
    exact .begun guard.noCandidate guard.binding rfl

/-- An accepted idle or old-scope record is reached. -/
theorem reaches {record : EvidenceRecord} (step : Transition s c a s') (hs : s.Coherent)
    (h : AcceptsIdle b record ⟨s, c, a, s'⟩) : s'.IdleReached b record.sequence := by
  have hs' := step.coherent hs
  cases step.idleEffect h with
  | startup _ binding retained =>
    subst binding
    exact
      { generation := hs'.generation
        configured := fun _ ↦ .inl ⟨record, retained, le_refl _⟩
        candidate := fun d hd heq ↦ absurd heq.symm (hs'.candidate_ne hd) }
  | @readiness d candidate binding retained =>
    subst binding
    exact
      { generation := (hs'.candidateGeneration d candidate).2
        configured := fun heq ↦ absurd heq (hs'.candidate_ne candidate)
        candidate := fun d' hd' _ ↦ by
          cases candidate.symm.trans hd'
          exact ⟨record, retained, le_refl _⟩ }
  | begun _ binding retained =>
    subst binding
    exact
      { generation := hs'.generation
        configured := fun _ ↦ .inr ⟨record, retained, le_refl _⟩
        candidate := fun d hd heq ↦ absurd heq.symm (hs'.candidate_ne hd) }

/-- A record that is reached stays reached. -/
theorem idleReached {sequence : UInt64} (step : Transition s c a s')
    (h : s.IdleReached b sequence) : s'.IdleReached b sequence := by
  obtain ⟨hgeneration, hconfigured, hcandidate⟩ := h
  have hgeneration' := hgeneration.trans step.generation_le
  refine ⟨hgeneration', ?_, ?_⟩
  · intro hb
    cases step with
    | @startup e index _ _ _ _ slot _ newer =>
      obtain ⟨_, _, _, _, -, heq⟩ := s.recordStartup_eq index e
      have hidle : (s.recordStartup index e).bindingIdle =
          if 0 = index then ⟨true, e.observed, some e.record⟩ else s.bindingIdle :=
        s.recordStartup_startupFact index 0 e
      have hold := hconfigured (by rw [heq] at hb; exact hb)
      by_cases hindex : 0 = index
      · subst hindex
        rw [hidle, if_pos rfl]
        rcases hold with hreached | hreached
        · exact .inl ⟨e.record, rfl, (newer.reached hreached).le⟩
        · exact .inr (by rw [heq]; exact hreached)
      · rw [hidle, if_neg hindex]
        rcases hold with hreached | hreached
        · exact .inl hreached
        · exact .inr (by rw [heq]; exact hreached)
    | @begin providerId e now guard =>
      rcases hconfigured hb with hreached | hreached
      · exact .inl hreached
      · exact .inr ⟨e.record, rfl, (guard.afterOldScope.reached hreached).le⟩
    | commit candidate => exact .inl (hcandidate _ candidate hb)
    | _ => exact hconfigured hb
  · intro d hd hb
    cases step with
    | @startup e index =>
      obtain ⟨_, _, _, _, -, heq⟩ := s.recordStartup_eq index e
      rw [heq] at hd
      exact hcandidate d hd hb
    | candidateCapabilities target | capabilitiesConflict target =>
      cases hd
      have hreached := hcandidate _ target.candidate
      exact hreached hb
    | begin guard =>
      cases hd
      subst hb
      exact absurd (guard.generation_lt.trans_le hgeneration) (lt_irrefl _)
    | @readiness d e index target newer =>
      cases hd
      have hreached := hcandidate d target.candidate hb
      by_cases hindex : 0 = index
      · subst hindex
        refine ⟨e.record, ?_, (newer.reached hreached).le⟩
        dsimp only
        rw [Function.update_self]
        rfl
      · dsimp only
        rwa [Function.update_of_ne hindex]
    | @readinessConflict d e p index target retained =>
      cases hd
      have hreached := hcandidate d target.candidate hb
      by_cases hindex : 0 = index
      · subst hindex
        rw [retained] at hreached
        obtain ⟨_, hrecord, hle⟩ := hreached
        cases hrecord
        dsimp only
        rw [Function.update_self]
        exact ⟨_, rfl, hle⟩
      · dsimp only
        rwa [Function.update_of_ne hindex]
    | discard | commit | close => cases hd
    | _ => exact hcandidate d hd hb

end Transition

/-! ### The old-scope evidence -/

/-- What the history says of the old-scope evidence that a candidate retains. -/
structure Opened (h : List GateEvent) (s : AuthorityGate) (c : Candidate) : Prop where
  opened : ∃ d ∈ h, Opens c s.config.binding d
  binding : c.oldScope.binding = s.config.binding
  kind : c.oldScope.kind = .bindingIdleAndSettled
  observed : c.oldScope.observed = true
  source : c.oldScope.record.source = s.config.bindingObserver
  withdrawn : ∀ w ∈ s.withdrawnAt, w ≤ c.oldScope.record.observedAt
  newest : ∀ d ∈ h, ∀ record, AcceptsIdle s.config.binding record d →
    Opens c s.config.binding d ∨ record.sequence < c.oldScope.record.sequence

/-- What the history says of a handoff in preparation. -/
structure HandoffHistory (h : List GateEvent) (s : AuthorityGate) : Prop where
  withdrawn : WithdrawnSince h s
  idle : ∀ d ∈ h, ∀ b record, AcceptsIdle b record d → s.IdleReached b record.sequence
  opened : ∀ c ∈ s.candidate, Opened h s c

/-- Evidence that starts a rebinding does not precede the withdrawal. -/
theorem withdrawnAt_le_oldScopeEarliest {s : AuthorityGate} :
    ∀ w ∈ s.withdrawnAt, w ≤ s.oldScopeEarliest := by
  intro w hw
  have hvalue : s.withdrawnAt.getD 0 = w := by rw [show s.withdrawnAt = some w from hw]; rfl
  unfold AuthorityGate.oldScopeEarliest
  split
  · exact hvalue.ge
  · rw [hvalue]
    exact le_max_left _ _

private theorem opened_begin {h : List GateEvent} {s : AuthorityGate} {providerId : String}
    {e : BindingReadinessEvidence} {now : MonotonicTime} {d : GateEvent}
    (guard : BeginGuard s providerId e now) (ih : HandoffHistory h s)
    (hd : Opens (s.newCandidate providerId e now) s.config.binding d) :
    Opened (h ++ [d]) (s.prepared providerId e now) (s.newCandidate providerId e now) where
  opened := ⟨d, List.mem_append_right _ (List.mem_singleton_self d), hd⟩
  binding := guard.binding
  kind := guard.kind
  observed := guard.observed
  source := guard.formed.2.1
  withdrawn := fun w hw ↦ (withdrawnAt_le_oldScopeEarliest w hw).trans guard.formed.2.2.2
  newest := by
    intro x hx record haccepts
    rcases List.mem_append.mp hx with hold | hnew
    · rcases (ih.idle x hold _ _ haccepts).configured rfl with hreached | hreached
      · exact .inr (guard.afterIdle.reached hreached)
      · exact .inr (guard.afterOldScope.reached hreached)
    · rw [List.mem_singleton.mp hnew]
      exact .inl hd

private theorem opened_kept {h : List GateEvent} {s s' : AuthorityGate} {c : Call} {a : Answer}
    {b b' : Candidate} (hs : s.Coherent) (step : Transition s c a s')
    (hb : s.candidate = some b) (hb' : s'.candidate = some b') (origin : b.SameOrigin b')
    (hwithdrawn : s'.withdrawnAt = s.withdrawnAt) (ih : Opened h s b) :
    Opened (h ++ [⟨s, c, a, s'⟩]) s' b' := by
  have hs' := step.coherent hs
  have hconfig := step.config_eq (by rw [hb']; rfl)
  obtain ⟨hbinding, hprepared, hscope⟩ := origin
  have hopens : ∀ d, Opens b s.config.binding d → Opens b' s'.config.binding d := by
    unfold Opens
    rw [hbinding, hprepared, hscope, hconfig]
    exact fun d hd ↦ hd
  obtain ⟨d, hd, hopened⟩ := ih.opened
  exact
    { opened := ⟨d, List.mem_append_left _ hd, hopens d hopened⟩
      binding := by rw [hscope, hconfig]; exact ih.binding
      kind := by rw [hscope]; exact ih.kind
      observed := by rw [hscope]; exact ih.observed
      source := by rw [hscope, hconfig]; exact ih.source
      withdrawn := by rw [hscope, hwithdrawn]; exact ih.withdrawn
      newest := by
        intro x hx record haccepts
        rcases List.mem_append.mp hx with hold | hnew
        · rw [hconfig] at haccepts
          rw [hscope]
          exact (ih.newest x hold record haccepts).imp_left (hopens x)
        · -- While the candidate stands no idle or old-scope record of the binding is accepted.
          rw [List.mem_singleton.mp hnew] at haccepts
          cases step.idleEffect haccepts with
          | startup phase =>
            rw [hs.candidate.mp (by rw [hb]; rfl)] at phase
            cases phase
          | readiness candidate binding => exact absurd binding.symm (hs'.candidate_ne candidate)
          | begun noCandidate =>
            rw [hb] at noCandidate
            cases noCandidate }

private theorem handoffHistory_step (h : List GateEvent) (s : AuthorityGate) (c : Call)
    (a : Answer) (s' : AuthorityGate) (hs : s.Coherent) (_ : s.call c = (a, s'))
    (step : Transition s c a s') (ih : HandoffHistory h s) :
    HandoffHistory (h ++ [⟨s, c, a, s'⟩]) s' where
  withdrawn := withdrawnSince_step hs step ih.withdrawn
  idle := by
    intro d hd b record haccepts
    rcases List.mem_append.mp hd with hold | hnew
    · exact step.idleReached (ih.idle d hold b record haccepts)
    · rw [List.mem_singleton.mp hnew] at haccepts
      exact step.reaches hs haccepts
  opened := by
    intro b' hb'
    cases step.bindingEffect with
    | kept _ _ _ _ withdrawn origin =>
      obtain ⟨b, hb, hsame⟩ := origin b' hb'
      exact opened_kept hs step hb hb' hsame withdrawn (ih.opened b hb)
    | discarded _ _ _ state => rw [state] at hb'; cases hb'
    | withdrawn _ noCandidate _ _ _ state =>
      obtain ⟨_, rfl⟩ := state
      cases noCandidate.symm.trans hb'
    | @begun providerId e now call guard answer state =>
      subst state
      cases hb'
      exact opened_begin guard ih ⟨⟨providerId, call⟩, answer⟩
    | committed _ _ _ state => rw [state] at hb'; cases hb'
    | closed state => rw [state] at hb'; cases hb'

/-- The history before each event accounts for the handoff in preparation. -/
theorem Run.handoffHistory (run : Run) {h t : List GateEvent} {e : GateEvent}
    (heq : run.history = h ++ e :: t) : HandoffHistory h e.pre := by
  refine run.history_rule_pre ⟨?_, ?_, ?_⟩ handoffHistory_step heq
  · rintro (hphase | hphase) <;> cases hphase
  · exact fun d hd ↦ absurd hd List.not_mem_nil
  · intro c hc
    cases hc

/-! ### The commit -/

/-- What a commit of the candidate rests on, with the history before it and the gate that
it meets. -/
structure SoundHandoff (h : List GateEvent) (s : AuthorityGate) (c : Candidate)
    (now : MonotonicTime) : Prop where
  /-- The old binding was withdrawn before its scope was observed, and not active since. -/
  withdrawn : ∃ w, Since (Withdraws s.config.binding w)
    (fun d ↦ d.pre.bindingPhase ≠ .active) h ∧ w ≤ c.oldScope.record.observedAt
  /-- The old work is released with resolved closure. -/
  closed : ∀ r ∈ s.currentReceipt,
    r.authorityDisposition = .released ∧ r.hasResolvedClosure
  /-- The retained old-scope evidence started this rebinding. -/
  opened : ∃ d ∈ h, Opens c s.config.binding d
  idle : c.oldScope.binding = s.config.binding ∧ c.oldScope.kind = .bindingIdleAndSettled ∧
    c.oldScope.observed = true ∧ c.oldScope.record.source = s.config.bindingObserver ∧
    now < c.oldScope.validUntil
  /-- It was observed after every effect of the old receipt as it now stands. -/
  afterEffects : ∀ r ∈ s.currentReceipt,
    r.authority.admittedAt ≤ c.oldScope.record.observedAt ∧
      (∀ t ∈ r.dispatchedAt, t ≤ c.oldScope.record.observedAt) ∧
      ∀ slot ∈ r.effectRecords, ∀ record ∈ slot,
        record.observedAt ≤ c.oldScope.record.observedAt
  /-- Every other idle or old-scope record of the old binding has a smaller sequence. -/
  newest : ∀ d ∈ h, ∀ record, AcceptsIdle s.config.binding record d →
    Opens c s.config.binding d ∨ record.sequence < c.oldScope.record.sequence
  /-- Each readiness fact is the newest, uncontradicted, positive and valid. -/
  readiness : ∀ index, ∃ x ∈ (c.readiness index).evidence,
    (readinessStream index).Uncontradicted x h ∧ x.binding = c.binding ∧
      x.record.source = s.config.readinessSource index ∧ x.observed = true ∧
      c.preparedAt ≤ x.record.observedAt ∧ x.record.observedAt ≤ now ∧ now < x.validUntil
  /-- So are the capabilities, when an observer of them is configured. -/
  capabilities : s.config.executionCapabilityObserver ≠ "" →
    ∃ x ∈ c.capabilities.evidence, capabilityStream.Uncontradicted x h ∧
      x.binding = c.binding ∧ x.record.source = s.config.executionCapabilityObserver ∧
      x.available = true ∧ c.preparedAt ≤ x.record.observedAt ∧
      x.record.observedAt ≤ now ∧ now < x.validUntil

/-- A gate that can commit, with its history, makes a sound handoff. -/
theorem soundHandoff_of_canCommit {h : List GateEvent} {s : AuthorityGate} {c : Candidate}
    {now : MonotonicTime} (handoff : HandoffHistory h s) (observed : ObservationHistory h s)
    (hc : s.candidate = some c) (committable : s.canCommit now) : SoundHandoff h s c now := by
  obtain ⟨hphase, c', hc', -, hclosed, hvalid, hafter, hready, hcapable⟩ := committable
  cases Option.some.inj (hc.symm.trans hc')
  have hopened := handoff.opened c hc
  obtain ⟨w, hw, hsince⟩ := handoff.withdrawn (.inr hphase)
  exact
    { withdrawn := ⟨w, hsince, hopened.withdrawn w hw⟩
      closed := fun r hr ↦ ⟨(hclosed r hr).2, (hclosed r hr).1⟩
      opened := hopened.opened
      idle := ⟨hopened.binding, hopened.kind, hopened.observed, hopened.source, hvalid⟩
      afterEffects := fun r hr ↦ OperationReceipt.latestEffectTime_le_iff.mp (hafter r hr)
      newest := hopened.newest
      readiness := by
        intro index
        obtain ⟨hagreed, x, hx, hpositive, hreached, hunexpired⟩ := hready index
        obtain ⟨habout, hnewest⟩ := observed.readiness index c hc
        obtain ⟨hformed, hsince⟩ := hnewest hagreed x hx
        exact ⟨x, hx, hsince, (habout x hx).1, hformed.2.1, hpositive, hformed.2.2.2,
          hreached, hunexpired⟩
      capabilities := by
        intro hconfigured
        obtain ⟨hagreed, x, hx, havailable, hreached, hunexpired⟩ := hcapable hconfigured
        obtain ⟨habout, hnewest⟩ := observed.capabilities c hc
        obtain ⟨hformed, hsince⟩ := hnewest hagreed x hx
        exact ⟨x, hx, hsince, (habout x hx).1, hformed.2.1, havailable, hformed.2.2.2,
          hreached, hunexpired⟩ }

/-- Every commit of a run makes a sound handoff. -/
theorem Run.handoff_sound (run : Run) {h t : List GateEvent} {e : GateEvent}
    (heq : run.history = h ++ e :: t) {b : BindingIdentity} {now : MonotonicTime}
    (hinput : e.input = .commitRebind b now) (happlied : BindingApplied e) :
    ∃ c ∈ e.pre.candidate, c.binding = b ∧ SoundHandoff h e.pre c now := by
  have handoff := run.handoffHistory heq
  have observed := run.observationHistory heq
  have step := (run.transition (e := e) (by simp [heq])).2
  obtain ⟨c, hc, hb, committable, -⟩ := step.commits hinput happlied
  exact ⟨c, hc, hb, soundHandoff_of_canCommit handoff observed hc committable⟩

/-- The candidate of `prepare` in `tests/m3b_rebinding_core_tests.cpp`. -/
def testCandidate : BindingIdentity := ⟨"new-provider", "domain", 1, 2⟩

/-- A withdrawal at 20, `prepare` at 22 and `ready` at 23, after `initialize`. -/
def testHandoff : List Call :=
  [.withdrawBinding testConfig.binding 20,
    .beginRebind testConfig.binding "new-provider"
      ⟨.bindingIdleAndSettled, testConfig.binding, ⟨"binding-observer", 21, 2⟩, true, 200⟩ 22,
    .observeRebindReadiness
      ⟨.bindingIdleAndSettled, testCandidate, ⟨"binding-observer", 23, 1⟩, true, 200⟩,
    .observeRebindReadiness ⟨.workerReady, testCandidate, ⟨"worker", 24, 1⟩, true, 200⟩,
    .observeRebindReadiness ⟨.resultSinkReady, testCandidate, ⟨"sink", 25, 1⟩, true, 200⟩]

/-- The commit of the test candidate. -/
theorem handoff_sound_committed :
    ∃ c ∈ (testRun testHandoff).final.candidate, c.binding = testCandidate ∧
      SoundHandoff (testRun testHandoff).history (testRun testHandoff).final c 26 := by
  have heq : (testRun (testHandoff ++ [.commitRebind testCandidate 26])).history =
      (testRun testHandoff).history ++
        [gate.event (testRun testHandoff).final (.commitRebind testCandidate 26)] :=
    gate.trace_append _ (testStartup ++ testHandoff) [.commitRebind testCandidate 26]
  exact Run.handoff_sound _ heq rfl ⟨_, rfl, by decide⟩

end RobotHarness
