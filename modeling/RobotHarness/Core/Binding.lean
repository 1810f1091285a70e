import RobotHarness.Core.History

/-!
# Bindings and stale identities

A gate uses its configured binding and, while it prepares a handoff, a candidate. Generations
grow with every candidate, so a binding that goes out of use stays out of use, and a call
that names it, or an operation that is no longer current, is refused.
-/

namespace RobotHarness

/-- Two candidates differ at most in the observations that they retain. -/
def Candidate.SameOrigin (c c' : Candidate) : Prop :=
  c'.binding = c.binding ∧ c'.preparedAt = c.preparedAt ∧ c'.oldScope = c.oldScope

/-- What a call does to the bindings of a gate. -/
inductive BindingEffect (s : AuthorityGate) (c : Call) (a : Answer) (s' : AuthorityGate) :
    Prop where
  | kept (binding : s'.config.binding = s.config.binding)
      (candidate : s'.candidate.map Candidate.binding = s.candidate.map Candidate.binding)
      (phase : s'.bindingPhase = s.bindingPhase)
      (generation : s'.generationHighWater = s.generationHighWater)
      (withdrawn : s'.withdrawnAt = s.withdrawnAt)
      (origin : ∀ c' ∈ s'.candidate, ∃ c ∈ s.candidate, c.SameOrigin c')
  | discarded {discard : Candidate} {now : MonotonicTime}
      (call : c = .withdrawBinding discard.binding now)
      (candidate : s.candidate = some discard) (opened : s.bindingPhase ≠ .closed)
      (state : s' = { s.withdrawn now with candidate := none })
  | withdrawn {now : MonotonicTime} (call : c = .withdrawBinding s.config.binding now)
      (noCandidate : s.candidate = none) (opened : s.bindingPhase ≠ .closed)
      (unwithdrawn : s.bindingPhase ≠ .withdrawn)
      (answer : ∃ stop, a = .binding { status := .applied, nativeStopAuthority := stop })
      (state : ∃ receipt,
        s' = { s.withdrawn now with withdrawnAt := some now, currentReceipt := receipt })
  | begun {providerId : String} {e : BindingReadinessEvidence} {now : MonotonicTime}
      (call : c = .beginRebind s.config.binding providerId e now)
      (guard : BeginGuard s providerId e now)
      (answer : a = .binding
        { status := .applied, candidate := some (s.newCandidate providerId e now).binding })
      (state : s' = s.prepared providerId e now)
  | committed {commit : Candidate} {now : MonotonicTime}
      (call : c = .commitRebind commit.binding now) (candidate : s.candidate = some commit)
      (committable : s.canCommit now) (state : s' = s.committed commit now)
  | closed (state : s' = s.closeAdmission)

/-- The effect of a transition on the bindings. -/
theorem Transition.bindingEffect {s s' : AuthorityGate} {c : Call} {a : Answer}
    (step : Transition s c a s') : BindingEffect s c a s' := by
  have same : ∀ c' ∈ s.candidate, ∃ c ∈ s.candidate, c.SameOrigin c' :=
    fun c' hc' ↦ ⟨c', hc', rfl, rfl, rfl⟩
  cases step with
  | @startup e index =>
    obtain ⟨_, _, _, _, -, heq⟩ := s.recordStartup_eq index e
    rw [heq]
    exact .kept rfl rfl rfl rfl rfl same
  | candidateCapabilities target | capabilitiesConflict target | readiness target
  | readinessConflict target =>
    refine .kept rfl (by rw [target.candidate]; rfl) rfl rfl rfl fun c' hc' ↦ ?_
    cases hc'
    exact ⟨_, target.candidate, rfl, rfl, rfl⟩
  | discard candidate opened => exact .discarded rfl candidate opened rfl
  | withdrawIdle noCandidate opened unwithdrawn =>
    exact .withdrawn rfl noCandidate opened unwithdrawn ⟨_, rfl⟩ ⟨_, rfl⟩
  | withdrawCurrent noCandidate opened unwithdrawn =>
    exact .withdrawn rfl noCandidate opened unwithdrawn ⟨_, rfl⟩ ⟨_, rfl⟩
  | begin guard => exact .begun rfl guard rfl rfl
  | commit candidate committable => exact .committed rfl candidate committable rfl
  | close => exact .closed rfl
  | noEffect | capabilities | admission | operation | native =>
    exact .kept rfl rfl rfl rfl rfl same

namespace AuthorityGate

/-- The binding is configured, or it is the candidate's. -/
def InUse (s : AuthorityGate) (b : BindingIdentity) : Prop :=
  b = s.config.binding ∨ b ∈ s.candidate.map Candidate.binding

/-- The binding is out of use, and its generation is used up. -/
def Retired (s : AuthorityGate) (b : BindingIdentity) : Prop :=
  b.providerGeneration ≤ s.generationHighWater ∧ ¬ s.InUse b

/-- The binding is retired, or it is configured and withdrawn or closed. -/
def Inactive (s : AuthorityGate) (b : BindingIdentity) : Prop :=
  s.Retired b ∨ b = s.config.binding ∧ s.bindingPhase ≠ .active

namespace Coherent

variable {s : AuthorityGate}

/-- A binding in use has a generation that is used up. -/
theorem generation_le (h : s.Coherent) {b : BindingIdentity} (hb : s.InUse b) :
    b.providerGeneration ≤ s.generationHighWater := by
  rcases hb with rfl | hb
  · exact h.generation
  · obtain ⟨c, hc, rfl⟩ := Option.map_eq_some_iff.mp hb
    exact (h.candidateGeneration c hc).2

/-- The candidate's binding is not the configured one. -/
theorem candidate_ne (h : s.Coherent) {c : Candidate} (hc : s.candidate = some c) :
    c.binding ≠ s.config.binding := by
  intro heq
  have hlt := (h.candidateGeneration c hc).1
  rw [heq] at hlt
  exact lt_irrefl _ hlt

end Coherent

end AuthorityGate

namespace Transition

variable {s s' : AuthorityGate} {c : Call} {a : Answer}

/-- Generations are never given back. -/
theorem generation_le (step : Transition s c a s') :
    s.generationHighWater ≤ s'.generationHighWater := by
  cases step.bindingEffect with
  | kept _ _ _ generation => exact generation.ge
  | discarded _ _ _ state => exact (congrArg AuthorityGate.generationHighWater state).ge
  | withdrawn _ _ _ _ _ state =>
    obtain ⟨_, state⟩ := state
    exact (congrArg AuthorityGate.generationHighWater state).ge
  | begun _ guard _ state =>
    subst state
    exact guard.generation_lt.le
  | committed _ _ _ state => exact (congrArg AuthorityGate.generationHighWater state).ge
  | closed state => exact (congrArg AuthorityGate.generationHighWater state).ge

/-- The configured binding is only replaced by one of a later generation. -/
theorem activeGeneration (step : Transition s c a s') (hs : s.Coherent) :
    s.config.binding.providerGeneration ≤ s'.config.binding.providerGeneration := by
  cases step.bindingEffect with
  | kept binding => rw [binding]
  | discarded _ _ _ state | begun _ _ _ state | closed state => rw [state]; exact le_refl _
  | withdrawn _ _ _ _ _ state =>
    obtain ⟨_, rfl⟩ := state
    exact le_refl _
  | committed _ candidate _ state =>
    rw [state]
    exact (hs.candidateGeneration _ candidate).1.le

/-- A binding comes into use only with a generation that was not used before. -/
theorem inUse (step : Transition s c a s') {b : BindingIdentity} (h : s'.InUse b) :
    s.InUse b ∨ s.generationHighWater < b.providerGeneration := by
  unfold AuthorityGate.InUse at h ⊢
  cases step.bindingEffect with
  | kept binding candidate => exact .inl (by rwa [binding, candidate] at h)
  | discarded _ _ _ state =>
    subst state
    rcases h with hb | hb
    · exact .inl (.inl hb)
    · cases hb
  | withdrawn _ noCandidate _ _ _ state =>
    obtain ⟨_, rfl⟩ := state
    exact .inl h
  | begun _ guard _ state =>
    subst state
    rcases h with hb | hb
    · exact .inl (.inl hb)
    · cases hb
      exact .inr guard.generation_lt
  | committed _ candidate _ state =>
    subst state
    rcases h with rfl | hb
    · exact .inl (.inr (by rw [candidate]; rfl))
    · cases hb
  | closed state =>
    subst state
    rcases h with hb | hb
    · exact .inl (.inl hb)
    · cases hb

/-- A retired binding stays retired. -/
theorem retired (step : Transition s c a s') {b : BindingIdentity} (h : s.Retired b) :
    s'.Retired b := by
  refine ⟨h.1.trans step.generation_le, fun hb ↦ ?_⟩
  rcases step.inUse hb with hused | hfresh
  · exact h.2 hused
  · exact absurd (h.1.trans_lt hfresh) (lt_irrefl _)

/-- A binding that goes out of use is retired. -/
theorem retires (step : Transition s c a s') (hs : s.Coherent) {b : BindingIdentity}
    (h : s.InUse b) (h' : ¬ s'.InUse b) : s'.Retired b :=
  ⟨(hs.generation_le h).trans step.generation_le, h'⟩

/-- A binding that is inactive does not become active again. -/
theorem inactive (step : Transition s c a s') (hs : s.Coherent) {b : BindingIdentity}
    (h : s.Inactive b) : s'.Inactive b := by
  rcases h with hretired | ⟨rfl, hphase⟩
  · exact .inl (step.retired hretired)
  · cases step.bindingEffect with
    | kept binding _ phase => exact .inr ⟨binding.symm, by rwa [phase]⟩
    | discarded _ _ _ state =>
      rw [state]
      exact .inr ⟨rfl, nofun⟩
    | withdrawn _ _ _ _ _ state =>
      obtain ⟨_, rfl⟩ := state
      exact .inr ⟨rfl, nofun⟩
    | begun _ _ _ state =>
      rw [state]
      exact .inr ⟨rfl, nofun⟩
    | committed _ candidate _ state =>
      refine .inl (step.retires hs (.inl rfl) ?_)
      rw [state]
      rintro (heq | hnone)
      · exact hs.candidate_ne candidate heq.symm
      · cases hnone
    | closed state =>
      rw [state]
      exact .inr ⟨rfl, nofun⟩

/-- A closed gate stays closed. -/
theorem closed (step : Transition s c a s') (h : s.bindingPhase = .closed) :
    s'.bindingPhase = .closed := by
  cases step.bindingEffect with
  | kept _ _ phase => rwa [phase]
  | discarded _ _ opened | withdrawn _ _ opened => exact absurd h opened
  | begun _ guard => rw [guard.phase] at h; cases h
  | committed _ _ committable => rw [committable.1] at h; cases h
  | closed state => rw [state]; rfl

/-- A binding whose withdrawal is applied is inactive. -/
theorem withdraws {e : GateEvent} {b : BindingIdentity} {now : MonotonicTime}
    (step : Transition e.pre e.input e.output e.post) (hpre : e.pre.Coherent)
    (hinput : e.input = .withdrawBinding b now) (happlied : BindingApplied e) :
    e.post.Inactive b := by
  cases step.withdrawal hinput happlied with
  | discard candidate binding state =>
    subst binding
    refine .inl (step.retires hpre (.inr (by rw [candidate]; rfl)) ?_)
    rw [state]
    rintro (heq | hnone)
    · exact hpre.candidate_ne candidate heq
    · cases hnone
  | idle binding _ state | current binding _ _ state =>
    rw [state]
    exact .inr ⟨binding, nofun⟩

end Transition

end RobotHarness
