import RobotHarness.Core.Binding

/-!
# What a candidate retains

A candidate retains one observation for each readiness slot and one of its capabilities. All
four follow one rule, so they are treated as streams of observations: a retained observation
that is not contradicted is the newest one accepted for the candidate.
-/

namespace RobotHarness

/-- A stream of observations about candidates. -/
structure CandidateStream (α : Type) where
  /-- The call that delivers an observation. -/
  call : α → Call
  binding : α → BindingIdentity
  record : α → EvidenceRecord
  /-- Whether the configuration lets the observation into this stream. -/
  applies : AuthorityGateConfig → α → Prop
  source : AuthorityGateConfig → String
  identical : α → α → Prop
  fact : Candidate → CandidateFact α

/-- The observations of one readiness slot. -/
def readinessStream (index : Fin 3) : CandidateStream BindingReadinessEvidence where
  call := .observeRebindReadiness
  binding := BindingReadinessEvidence.binding
  record := BindingReadinessEvidence.record
  applies config e := config.readinessIndex e.kind = some index
  source config := config.readinessSource index
  identical := readinessIdentical
  fact c := c.readiness index

/-- The observations of execution capabilities. -/
def capabilityStream : CandidateStream ExecutionCapabilities where
  call := .observeExecutionCapabilities
  binding := ExecutionCapabilities.binding
  record := ExecutionCapabilities.record
  applies config _ := config.executionCapabilityObserver ≠ ""
  source config := config.executionCapabilityObserver
  identical := capabilitiesIdentical
  fact c := c.capabilities

namespace CandidateStream

variable {α : Type} (S : CandidateStream α)

/-- The event accepted the observation. -/
def Accepts (x : α) (e : GateEvent) : Prop :=
  e.input = S.call x ∧ EvidenceAccepted e ∧ S.applies e.pre.config x

/-- The event delivered another observation under the sequence number of this one. -/
def Contradicts (x : α) (e : GateEvent) : Prop :=
  ∃ y, e.input = S.call y ∧ S.applies e.pre.config y ∧ S.binding y = S.binding x ∧
    (∃ c ∈ e.pre.candidate,
      isRecordWellFormed (S.record y) (S.source e.pre.config) c.preparedAt) ∧
    (S.record y).sequence = (S.record x).sequence ∧ ¬ S.identical y x

/-- The observation is the newest one accepted for its binding. -/
def Newest (x : α) (h : List GateEvent) : Prop :=
  Since (S.Accepts x) (fun d ↦ ∀ y, S.Accepts y d → S.binding y ≠ S.binding x) h

/-- The observation is the newest one accepted for its binding, and it has not been
contradicted since. -/
def Uncontradicted (x : α) (h : List GateEvent) : Prop :=
  Since (S.Accepts x)
    (fun d ↦ (∀ y, S.Accepts y d → S.binding y ≠ S.binding x) ∧ ¬ S.Contradicts x d) h

/-- An uncontradicted observation is the newest one. -/
theorem Uncontradicted.newest {x : α} {h : List GateEvent} (hx : S.Uncontradicted x h) :
    S.Newest x h :=
  Since.mono hx (fun _ hp ↦ hp) fun _ hq ↦ hq.1

/-- What the history says of the observation that a candidate retains. -/
structure Retained (h : List GateEvent) (s : AuthorityGate) (c : Candidate) : Prop where
  binding : ∀ x ∈ (S.fact c).evidence, S.binding x = c.binding ∧ S.applies s.config x
  newest : (S.fact c).conflicted = false → ∀ x ∈ (S.fact c).evidence,
    isRecordWellFormed (S.record x) (S.source s.config) c.preparedAt ∧ S.Uncontradicted x h

/-- What a call does to the fact that a candidate retains after it. -/
inductive Effect (s : AuthorityGate) (e : GateEvent) (c' : Candidate) : Prop where
  | fresh (fact : (S.fact c').evidence = none)
      (generation : s.generationHighWater < c'.binding.providerGeneration)
  | kept {c : Candidate} (before : s.candidate = some c) (binding : c'.binding = c.binding)
      (prepared : c'.preparedAt = c.preparedAt) (fact : S.fact c' = S.fact c)
      (quiet : ∀ y, S.Accepts y e → S.binding y ≠ c.binding)
  | accepted {c : Candidate} {x : α} (before : s.candidate = some c)
      (binding : c'.binding = c.binding) (prepared : c'.preparedAt = c.preparedAt)
      (accepts : S.Accepts x e) (about : S.binding x = c.binding)
      (formed : isRecordWellFormed (S.record x) (S.source s.config) c.preparedAt)
      (newer : Newer (S.record x) ((S.fact c).evidence.map S.record))
      (fact : S.fact c' = ⟨some x, false⟩)
  | conflicted {c : Candidate} {x p : α} (before : s.candidate = some c)
      (binding : c'.binding = c.binding) (retained : (S.fact c).evidence = some p)
      (fact : S.fact c' = ⟨some x, true⟩) (about : S.binding x = S.binding p)
      (sequence : (S.record x).sequence = (S.record p).sequence)
      (time : (S.record p).observedAt ≤ (S.record x).observedAt)
      (applies : S.applies s.config p → S.applies s.config x)

/-- An answer without effect accepts no observation. -/
theorem not_accepts_of_noEffect {s s' : AuthorityGate} {c : Call} {a : Answer}
    (h : a.NoEffect) (x : α) : ¬ S.Accepts x ⟨s, c, a, s'⟩ := by
  rintro ⟨-, haccepted, -⟩
  dsimp only [EvidenceAccepted] at haccepted
  subst haccepted
  exact h rfl

/-- A call of another kind accepts no observation of the stream. -/
theorem not_accepts_of_ne {s s' : AuthorityGate} {c : Call} {a : Answer}
    (h : ∀ x, c ≠ S.call x) (x : α) : ¬ S.Accepts x ⟨s, c, a, s'⟩ :=
  fun haccepts ↦ h x haccepts.1

end CandidateStream

/-! ### The effect on each stream -/

namespace Transition

variable {s s' : AuthorityGate} {c : Call} {a : Answer}

/-- The effect of a transition on the candidate's capabilities. -/
theorem capabilityEffect (step : Transition s c a s') (hs : s.Coherent) {c' : Candidate}
    (hc' : s'.candidate = some c') : capabilityStream.Effect s ⟨s, c, a, s'⟩ c' := by
  have kept {b : Candidate} (hbefore : s.candidate = some b) (hbinding : c'.binding = b.binding)
      (hprepared : c'.preparedAt = b.preparedAt) (hfact : c'.capabilities = b.capabilities)
      (hcall : ∀ x, c ≠ capabilityStream.call x) :
      capabilityStream.Effect s ⟨s, c, a, s'⟩ c' :=
    .kept hbefore hbinding hprepared hfact fun y hy ↦
      absurd hy (capabilityStream.not_accepts_of_ne hcall y)
  cases step with
  | noEffect h =>
    exact .kept hc' rfl rfl rfl fun y hy ↦
      absurd hy (capabilityStream.not_accepts_of_noEffect h y)
  | @startup e index =>
    obtain ⟨_, _, _, _, -, heq⟩ := s.recordStartup_eq index e
    rw [heq] at hc'
    exact kept hc' rfl rfl rfl nofun
  | capabilities _ _ binding =>
    refine .kept hc' rfl rfl rfl fun y hy hsame ↦ ?_
    cases hy.1
    exact hs.candidate_ne hc' (hsame.symm.trans binding)
  | candidateCapabilities target _ newer =>
    cases hc'
    exact .accepted target.candidate rfl rfl ⟨rfl, rfl, target.configured⟩ target.binding
      target.formed newer rfl
  | capabilitiesConflict target retained =>
    cases hc'
    exact .conflicted target.candidate rfl retained rfl rfl rfl (le_max_left _ _)
      fun happlies ↦ happlies
  | readiness target =>
    cases hc'
    exact kept target.candidate rfl rfl rfl nofun
  | readinessConflict target =>
    cases hc'
    exact kept target.candidate rfl rfl rfl nofun
  | begin guard =>
    cases hc'
    exact .fresh rfl guard.generation_lt
  | discard | commit | close => cases hc'
  | withdrawIdle noCandidate | withdrawCurrent noCandidate =>
    rw [show s.candidate = some c' from hc'] at noCandidate
    cases noCandidate
  | admission | native => exact kept hc' rfl rfl rfl nofun
  | operation _ _ step => exact kept hc' rfl rfl rfl (by cases step <;> nofun)

/-- The effect of a transition on the candidate's fact of one readiness slot. -/
theorem readinessEffect (step : Transition s c a s') (index : Fin 3) {c' : Candidate}
    (hc' : s'.candidate = some c') : (readinessStream index).Effect s ⟨s, c, a, s'⟩ c' := by
  have kept {b : Candidate} (hbefore : s.candidate = some b) (hbinding : c'.binding = b.binding)
      (hprepared : c'.preparedAt = b.preparedAt)
      (hfact : c'.readiness index = b.readiness index)
      (hcall : ∀ x, c ≠ (readinessStream index).call x) :
      (readinessStream index).Effect s ⟨s, c, a, s'⟩ c' :=
    .kept hbefore hbinding hprepared hfact fun y hy ↦
      absurd hy ((readinessStream index).not_accepts_of_ne hcall y)
  cases step with
  | noEffect h =>
    exact .kept hc' rfl rfl rfl fun y hy ↦
      absurd hy ((readinessStream index).not_accepts_of_noEffect h y)
  | @startup e index =>
    obtain ⟨_, _, _, _, -, heq⟩ := s.recordStartup_eq index e
    rw [heq] at hc'
    exact kept hc' rfl rfl rfl nofun
  | candidateCapabilities target =>
    cases hc'
    exact kept target.candidate rfl rfl rfl nofun
  | capabilitiesConflict target =>
    cases hc'
    exact kept target.candidate rfl rfl rfl nofun
  | @readiness b e slot target newer =>
    cases hc'
    by_cases hslot : index = slot
    · subst hslot
      exact .accepted target.candidate rfl rfl ⟨rfl, rfl, target.slot⟩ target.binding
        target.formed newer (Function.update_self ..)
    · refine .kept target.candidate rfl rfl (Function.update_of_ne hslot ..) fun y hy ↦ ?_
      cases hy.1
      exact absurd (Option.some.inj (hy.2.2.symm.trans target.slot)) hslot
  | @readinessConflict b e p slot target retained =>
    cases hc'
    by_cases hslot : index = slot
    · subst hslot
      exact .conflicted target.candidate rfl retained (Function.update_self ..) rfl rfl
        (le_max_left _ _) fun happlies ↦ happlies
    · refine .kept target.candidate rfl rfl (Function.update_of_ne hslot ..) fun y hy ↦ ?_
      cases hy.2.1
  | begin guard =>
    cases hc'
    exact .fresh rfl guard.generation_lt
  | discard | commit | close => cases hc'
  | withdrawIdle noCandidate | withdrawCurrent noCandidate =>
    rw [show s.candidate = some c' from hc'] at noCandidate
    cases noCandidate
  | capabilities | admission | native => exact kept hc' rfl rfl rfl nofun
  | operation _ _ step => exact kept hc' rfl rfl rfl (by cases step <;> nofun)

/-- While a candidate stands the configuration stays. -/
theorem config_eq (step : Transition s c a s') (h : s'.candidate.isSome) :
    s'.config = s.config := by
  cases step with
  | @startup e index =>
    obtain ⟨_, _, _, _, -, heq⟩ := s.recordStartup_eq index e
    rw [heq]
  | commit => cases h
  | _ => rfl

end Transition

/-! ### Contradictions -/

/-- A contradiction of the retained observation marks the fact. -/
class CandidateStream.Marks {α : Type} (S : CandidateStream α) : Prop where
  marks : ∀ {s s' : AuthorityGate} {c : Call} {a : Answer} {candidate : Candidate} {x : α},
    s.call c = (a, s') → s.candidate = some candidate → s.bindingPhase = .preparing →
    (S.fact candidate).evidence = some x → S.binding x = candidate.binding →
    S.Contradicts x ⟨s, c, a, s'⟩ → ∃ c' ∈ s'.candidate, (S.fact c').conflicted = true

/-- The comparison marks another observation under the retained sequence number. -/
theorem CandidateFact.compare_contradiction {α : Type} [Observation α] (identical : α → α → Prop)
    [DecidableRel identical] {fact : CandidateFact α} {y x : α}
    (retained : fact.evidence = some x)
    (sequence : (Observation.record y).sequence = (Observation.record x).sequence)
    (differs : ¬ identical y x) :
    fact.compare identical y = some (.rejected,
      ⟨some (Observation.withObservedAt x
        (max (Observation.record x).observedAt (Observation.record y).observedAt)), true⟩) := by
  simp only [compare, retained]
  rw [if_neg (by rw [sequence]; exact lt_irrefl _), if_pos sequence, if_neg differs]

/-- The capability of a candidate is marked by the contradictions that it meets. -/
instance : capabilityStream.Marks where
  marks := by
    intro s s' c a candidate x hcall hcandidate hphase hretained hbinding hcontradicts
    obtain ⟨y, rfl, hconfigured, habout, ⟨b, hb, hformed⟩, hsequence, hdiffers⟩ := hcontradicts
    cases hcandidate.symm.trans hb
    obtain ⟨marked, hcompare, hmarked⟩ :
        ∃ marked, candidate.capabilities.compare capabilitiesIdentical y =
          some (.rejected, marked) ∧ marked.conflicted = true :=
      ⟨_, CandidateFact.compare_contradiction _ hretained hsequence hdiffers, rfl⟩
    have hobserve : s' = (s.observeExecutionCapabilities y).2 := (congrArg Prod.snd hcall).symm
    have hbranch : y.binding = candidate.binding ∧ s.bindingPhase = .preparing :=
      ⟨habout.trans hbinding, hphase⟩
    simp only [AuthorityGate.observeExecutionCapabilities, hcandidate, if_pos hbranch,
      AuthorityGate.observeCandidateCapabilities] at hobserve
    rw [if_neg (by rintro (h | h); exacts [hconfigured h, h hformed])] at hobserve
    rw [hobserve, hcompare]
    exact ⟨_, rfl, hmarked⟩

/-- The readiness of a candidate is marked by the contradictions that it meets. -/
instance (index : Fin 3) : (readinessStream index).Marks where
  marks := by
    intro s s' c a candidate x hcall hcandidate hphase hretained hbinding hcontradicts
    obtain ⟨y, rfl, hslot, habout, ⟨b, hb, hformed⟩, hsequence, hdiffers⟩ := hcontradicts
    cases hcandidate.symm.trans hb
    obtain ⟨marked, hcompare, hmarked⟩ :
        ∃ marked, (candidate.readiness index).compare readinessIdentical y =
          some (.rejected, marked) ∧ marked.conflicted = true :=
      ⟨_, CandidateFact.compare_contradiction _ hretained hsequence hdiffers, rfl⟩
    have hobserve : s' = (s.observeRebindReadiness y).2 := (congrArg Prod.snd hcall).symm
    have hguard : ¬ (s.bindingPhase ≠ .preparing ∨ y.binding ≠ candidate.binding) := by
      rintro (h | h)
      · exact h hphase
      · exact h (habout.trans hbinding)
    have hindex : s.config.readinessIndex y.kind = some index := hslot
    simp only [AuthorityGate.observeRebindReadiness, hcandidate, if_neg hguard, hindex]
      at hobserve
    rw [if_neg (fun h ↦ h hformed)] at hobserve
    rw [hobserve, hcompare]
    refine ⟨_, rfl, ?_⟩
    show (Function.update candidate.readiness index marked index).conflicted = true
    rw [Function.update_self]
    exact hmarked

/-! ### The retained observations of a run -/

/-- Every effect on a candidate's fact keeps what the history says of it. -/
theorem CandidateStream.Retained.step {α : Type} {S : CandidateStream α} [S.Marks]
    {h : List GateEvent} {s s' : AuthorityGate} {c : Call} {a : Answer} {c' : Candidate}
    (effect : S.Effect s ⟨s, c, a, s'⟩ c') (hs : s.Coherent) (hcall : s.call c = (a, s'))
    (hc' : s'.candidate = some c') (hconfig : s'.config = s.config)
    (ih : ∀ b ∈ s.candidate, S.Retained h s b) :
    S.Retained (h ++ [⟨s, c, a, s'⟩]) s' c' := by
  cases effect with
  | fresh fact =>
    constructor
    · intro x hx
      rw [fact] at hx
      cases hx
    · intro _ x hx
      rw [fact] at hx
      cases hx
  | @kept b before binding prepared fact quiet =>
    obtain ⟨habout, hnewest⟩ := ih b before
    constructor
    · intro x hx
      rw [binding, hconfig]
      exact habout x (fact ▸ hx)
    · intro hconflicted x hx
      have hx' : x ∈ (S.fact b).evidence := fact ▸ hx
      obtain ⟨hformed, hsince⟩ := hnewest (fact ▸ hconflicted) x hx'
      have hbinding := (habout x hx').1
      rw [prepared, hconfig]
      refine ⟨hformed, hsince.later ⟨fun y hy ↦ hbinding ▸ quiet y hy, fun hcontradicts ↦ ?_⟩⟩
      have hphase : s.bindingPhase = .preparing := hs.candidate.mp (by rw [before]; rfl)
      obtain ⟨d, hd, hmarked⟩ :=
        Marks.marks hcall before hphase hx' hbinding hcontradicts
      cases hc'.symm.trans hd
      rw [hconflicted] at hmarked
      cases hmarked
  | @accepted b x before binding prepared accepts about formed _ fact =>
    constructor
    · intro y hy
      rw [fact] at hy
      cases hy
      rw [binding, hconfig]
      exact ⟨about, accepts.2.2⟩
    · intro _ y hy
      rw [fact] at hy
      cases hy
      rw [prepared, hconfig]
      exact ⟨formed, Since.now accepts⟩
  | @conflicted b x p before binding retained fact about _ _ applies =>
    obtain ⟨hbinding, happlies⟩ := (ih b before).binding p retained
    constructor
    · intro y hy
      rw [fact] at hy
      cases hy
      rw [binding, hconfig]
      exact ⟨about.trans hbinding, applies happlies⟩
    · intro hconflicted
      rw [fact] at hconflicted
      cases hconflicted

/-- What the history says of the candidate's facts and of the active capabilities. -/
structure ObservationHistory (h : List GateEvent) (s : AuthorityGate) : Prop where
  capabilities : ∀ c ∈ s.candidate, capabilityStream.Retained h s c
  readiness : ∀ index, ∀ c ∈ s.candidate, (readinessStream index).Retained h s c
  active : ∀ x ∈ s.executionCapabilities,
    x.binding = s.config.binding ∧ capabilityStream.Newest x h

private theorem active_step {h : List GateEvent} {s s' : AuthorityGate} {c : Call} {a : Answer}
    (hs : s.Coherent) (step : Transition s c a s') (ih : ObservationHistory h s) :
    ∀ x ∈ s'.executionCapabilities,
      x.binding = s'.config.binding ∧ capabilityStream.Newest x (h ++ [⟨s, c, a, s'⟩]) := by
  intro x hx
  have kept (hold : x ∈ s.executionCapabilities) (hbinding : s'.config.binding = s.config.binding)
      (hquiet : ∀ y, capabilityStream.Accepts y ⟨s, c, a, s'⟩ →
        y.binding ≠ s.config.binding) :
      x.binding = s'.config.binding ∧ capabilityStream.Newest x (h ++ [⟨s, c, a, s'⟩]) := by
    obtain ⟨habout, hnewest⟩ := ih.active x hold
    refine ⟨habout.trans hbinding.symm, hnewest.later fun y hy hsame ↦ ?_⟩
    exact hquiet y hy (hsame.trans habout)
  have other (hcall : ∀ y, c ≠ capabilityStream.call y) {b : BindingIdentity} :
      ∀ y, capabilityStream.Accepts y ⟨s, c, a, s'⟩ → y.binding ≠ b :=
    fun y hy ↦ absurd hy (capabilityStream.not_accepts_of_ne hcall y)
  cases step with
  | noEffect h =>
    exact kept hx rfl fun y hy ↦ absurd hy (capabilityStream.not_accepts_of_noEffect h y)
  | @startup e index =>
    obtain ⟨_, _, _, _, -, heq⟩ := s.recordStartup_eq index e
    refine kept ?_ ?_ (other nofun)
    · rwa [heq] at hx
    · rw [heq]
  | capabilities _ configured binding =>
    cases hx
    exact ⟨binding, Since.now ⟨rfl, rfl, configured⟩⟩
  | candidateCapabilities target =>
    apply kept hx rfl
    intro y hy hsame
    cases hy.1
    exact hs.candidate_ne target.candidate (target.binding.symm.trans hsame)
  | capabilitiesConflict =>
    apply kept hx rfl
    intro y hy
    cases hy.2.1
  | @commit b now candidate committable =>
    obtain ⟨-, b', hb', -, -, -, -, -, hholds⟩ := committable
    cases Option.some.inj (candidate.symm.trans hb')
    obtain ⟨habout, hnewest⟩ := ih.capabilities b candidate
    obtain ⟨hbinding, hconfigured⟩ := habout x hx
    obtain ⟨-, hsince⟩ := hnewest (hholds hconfigured).1 x hx
    exact ⟨hbinding, hsince.newest.later (other nofun)⟩
  | operation _ _ step => exact kept hx rfl (other (by cases step <;> nofun))
  | _ => exact kept hx rfl (other nofun)

private theorem observationHistory_step (h : List GateEvent) (s : AuthorityGate) (c : Call)
    (a : Answer) (s' : AuthorityGate) (hs : s.Coherent) (hcall : s.call c = (a, s'))
    (step : Transition s c a s') (ih : ObservationHistory h s) :
    ObservationHistory (h ++ [⟨s, c, a, s'⟩]) s' where
  capabilities := fun c' hc' ↦
    .step (step.capabilityEffect hs hc') hs hcall hc'
      (step.config_eq (by rw [show s'.candidate = some c' from hc']; rfl)) ih.capabilities
  readiness := fun index c' hc' ↦
    .step (step.readinessEffect index hc') hs hcall hc'
      (step.config_eq (by rw [show s'.candidate = some c' from hc']; rfl)) (ih.readiness index)
  active := active_step hs step ih

private theorem observationHistory_start (run : Run) : ObservationHistory [] run.start where
  capabilities := by intro c hc; cases hc
  readiness := by intro index c hc; cases hc
  active := by intro x hx; cases hx

/-- The history before each event accounts for the observations that the gate retains. -/
theorem Run.observationHistory (run : Run) {h t : List GateEvent} {e : GateEvent}
    (heq : run.history = h ++ e :: t) : ObservationHistory h e.pre :=
  run.history_rule_pre (observationHistory_start run) observationHistory_step heq

end RobotHarness
