import RobotHarness.Core.Alike
import RobotHarness.Core.Handoff

/-!
# Contradictory observations of a candidate

Two observations of one kind under one sequence number that differ contradict each other: the
second to arrive marks the fact, whichever it is. The mark stands as long as the candidate does,
until a later sequence number is accepted.
-/

namespace RobotHarness

/-- An observation about a candidate. -/
inductive CandidateObservation where
  | readiness (evidence : BindingReadinessEvidence)
  | capabilities (capabilities : ExecutionCapabilities)
  deriving DecidableEq, Repr

namespace CandidateObservation

/-- The call that delivers the observation. -/
def call : CandidateObservation → Call
  | .readiness e => .observeRebindReadiness e
  | .capabilities e => .observeExecutionCapabilities e

/-- The binding that an observation is about. -/
def binding : CandidateObservation → BindingIdentity
  | .readiness e => e.binding
  | .capabilities e => e.binding

/-- The record of an observation. -/
def record : CandidateObservation → EvidenceRecord
  | .readiness e => e.record
  | .capabilities e => e.record

/-- Readiness observations of one kind, or two capability observations. -/
def SameKind : CandidateObservation → CandidateObservation → Prop
  | .readiness e, .readiness d => e.kind = d.kind
  | .capabilities _, .capabilities _ => True
  | _, _ => False

/-- Whether two observations are of one kind. -/
instance (x y : CandidateObservation) : Decidable (x.SameKind y) := by
  cases x <;> cases y <;> unfold SameKind <;> infer_instance

/-- An observation of the same kind with a larger sequence number. -/
def Supersedes (y x : CandidateObservation) : Prop :=
  x.SameKind y ∧ x.record.sequence < y.record.sequence
  deriving Decidable

end CandidateObservation

/-- The gate after two observations about its candidate. -/
def AuthorityGate.afterBoth (s : AuthorityGate) (x y : CandidateObservation) : AuthorityGate :=
  gate.run s [x.call, y.call]

/-- The observation that a call delivers. -/
def Call.observation : Call → Option CandidateObservation
  | .observeRebindReadiness e => some (.readiness e)
  | .observeExecutionCapabilities e => some (.capabilities e)
  | _ => none

/-- Two different observations of one kind about the gate's candidate, under one sequence
number, each of which the gate would accept. -/
structure Contradictory (s : AuthorityGate) (x y : CandidateObservation) : Prop where
  kind : x.SameKind y
  about : ∃ c ∈ s.candidate, x.binding = c.binding ∧ y.binding = c.binding
  sequence : x.record.sequence = y.record.sequence
  differs : x ≠ y
  left : gate.answer s x.call = .evidence .accepted
  right : gate.answer s y.call = .evidence .accepted

/-! ### The mark -/

/-- The candidate of this binding, while it stands, has a contradicted fact in the stream that
retains the sequence number. -/
structure CandidateStream.Marked {α : Type} (S : CandidateStream α) (b : BindingIdentity)
    (sequence : UInt64) (s : AuthorityGate) : Prop where
  generation : b.providerGeneration ≤ s.generationHighWater
  fact : ∀ c ∈ s.candidate, c.binding = b →
    (S.fact c).conflicted = true ∧ ∃ p ∈ (S.fact c).evidence, (S.record p).sequence = sequence

/-- A mark stands until a larger sequence number is accepted for its binding. -/
theorem CandidateStream.Marked.step {α : Type} {S : CandidateStream α} {b : BindingIdentity}
    {sequence : UInt64} {s s' : AuthorityGate} {c : Call} {a : Answer}
    (h : S.Marked b sequence s) (step : Transition s c a s')
    (effect : ∀ c' ∈ s'.candidate, S.Effect s ⟨s, c, a, s'⟩ c')
    (unrepaired : ∀ x, S.Accepts x ⟨s, c, a, s'⟩ → S.binding x = b →
      ¬ sequence < (S.record x).sequence) : S.Marked b sequence s' where
  generation := h.generation.trans step.generation_le
  fact := by
    intro c' hc' hbinding
    cases effect c' hc' with
    | fresh _ generation =>
      rw [hbinding] at generation
      exact absurd h.generation (not_le.mpr generation)
    | kept before binding _ fact =>
      rw [fact]
      exact h.fact _ before (binding.symm.trans hbinding)
    | accepted before binding _ accepts about _ newer =>
      have hsame := binding.symm.trans hbinding
      obtain ⟨-, p, hp, hsequence⟩ := h.fact _ before hsame
      have hlt := (newer (S.record p) (Option.mem_map_of_mem _ hp)).1
      rw [hsequence] at hlt
      exact absurd hlt (unrepaired _ accepts (about.trans hsame))
    | conflicted before binding retained fact _ hsame =>
      obtain ⟨-, q, hq, hsequence⟩ := h.fact _ before (binding.symm.trans hbinding)
      cases Option.some.inj (retained.symm.trans hq)
      rw [fact]
      exact ⟨rfl, _, rfl, hsame.trans hsequence⟩

/-- A stream whose contradicted fact keeps a candidate from committing. -/
class CandidateStream.Gates {α : Type} (S : CandidateStream α) : Prop where
  effect : ∀ {s s' : AuthorityGate} {c : Call} {a : Answer}, s.Coherent →
    Transition s c a s' → ∀ c' ∈ s'.candidate, S.Effect s ⟨s, c, a, s'⟩ c'
  applies : ∀ {s s' : AuthorityGate} {c : Call} {a : Answer}, Transition s c a s' →
    S.applies s'.config = S.applies s.config
  required : ∀ {s : AuthorityGate} {x : α} {now : MonotonicTime}, S.applies s.config x →
    s.canCommit now → ∀ c ∈ s.candidate, (S.fact c).conflicted = false

/-- A contradicted readiness keeps a candidate from committing. -/
instance (index : Fin 3) : (readinessStream index).Gates where
  effect := fun _ step _ hc' ↦ step.readinessEffect index hc'
  applies := by
    intro s s' c a step
    funext x
    rw [step.config_eq_withBinding]
    rfl
  required := by
    rintro s x now - ⟨-, c', hc', -, -, -, -, hready, -⟩ c hc
    cases Option.some.inj (hc.symm.trans hc')
    exact (hready index).1

/-- A contradicted capability keeps a candidate from committing. -/
instance : capabilityStream.Gates where
  effect := fun hs step _ hc' ↦ step.capabilityEffect hs hc'
  applies := by
    intro s s' c a step
    funext x
    rw [step.config_eq_withBinding]
    rfl
  required := by
    rintro s x now configured ⟨-, c', hc', -, -, -, -, -, hcapable⟩ c hc
    cases Option.some.inj (hc.symm.trans hc')
    exact (hcapable configured).1

/-- A candidate with a marked fact commits only after a larger sequence number of the stream
was accepted for it. -/
theorem CandidateStream.Marked.repaired {α : Type} {S : CandidateStream α} [S.Gates]
    {b : BindingIdentity} {sequence : UInt64} {s : AuthorityGate}
    (h : S.Marked b sequence s) (hs : s.Coherent) {x : α} (hx : S.applies s.config x)
    {calls : List Call} {now : MonotonicTime} (committable : (gate.run s calls).canCommit now) :
    (∃ e ∈ gate.trace s calls, ∃ z, S.Accepts z e ∧ S.applies s.config z ∧ S.binding z = b ∧
        sequence < (S.record z).sequence) ∨
      ∀ c ∈ (gate.run s calls).candidate, c.binding ≠ b := by
  by_contra hneither
  push Not at hneither
  obtain ⟨hunrepaired, c, hc, hb⟩ := hneither
  obtain ⟨-, hmarked, happlies⟩ := gate.invariant_while
    (P := fun t ↦ t.Coherent ∧ S.Marked b sequence t ∧ S.applies t.config = S.applies s.config)
    (A := fun e ↦ ∀ z, S.Accepts z e → S.applies s.config z → S.binding z = b →
      (S.record z).sequence ≤ sequence)
    (by
      rintro t call ⟨ht, hmarked, happlies⟩ hallowed
      have step := gate_transition t call
      refine ⟨step.coherent ht, hmarked.step step (Gates.effect ht step) ?_,
        (Gates.applies step).trans happlies⟩
      intro z hz hsame
      exact not_lt.mpr (hallowed z hz (happlies ▸ hz.2.2) hsame))
    ⟨hs, h, rfl⟩ hunrepaired
  have hagreed := Gates.required (S := S) (happlies.symm ▸ hx) committable c hc
  rw [(hmarked.fact c hc hb).1] at hagreed
  cases hagreed

/-! ### Two contradictory observations -/

section Capabilities

variable {s s' : AuthorityGate} {c : Candidate} {x y : ExecutionCapabilities}

/-- Capabilities that are accepted for the candidate become its own. -/
theorem Transition.acceptsCapabilities
    (step : Transition s (.observeExecutionCapabilities x) (.evidence .accepted) s')
    (hs : s.Coherent) (hc : s.candidate = some c) (hb : x.binding = c.binding) :
    CapabilityTarget s c x ∧ CapabilityContent s x ∧
      s' = { s with candidate := some { c with capabilities := ⟨some x, false⟩ } } := by
  cases step with
  | noEffect h => exact absurd rfl h
  | capabilities _ _ binding => exact absurd (hb.symm.trans binding) (hs.candidate_ne hc)
  | candidateCapabilities target content =>
    cases Option.some.inj (hc.symm.trans target.candidate)
    exact ⟨target, content, rfl⟩
  | operation _ _ step => cases step

/-- Capabilities that contradict the candidate's mark them. -/
theorem CapabilityTarget.contradicts (target : CapabilityTarget s c y)
    (retained : c.capabilities.evidence = some x)
    (sequence : y.record.sequence = x.record.sequence) (differs : ¬ capabilitiesIdentical y x) :
    gate.next s (.observeExecutionCapabilities y) =
      { s with
        candidate := some
          { c with
            capabilities :=
              ⟨some (Observation.withObservedAt x
                (max x.record.observedAt y.record.observedAt)), true⟩ } } := by
  obtain ⟨candidate, phase, binding, configured, formed⟩ := target
  show (s.observeExecutionCapabilities y).2 = _
  simp only [AuthorityGate.observeExecutionCapabilities, candidate, binding, phase, and_self,
    if_true, AuthorityGate.observeCandidateCapabilities]
  rw [if_neg (by rintro (h | h); exacts [configured h, h formed]),
    CandidateFact.compare_contradiction capabilitiesIdentical retained sequence differs]
  rfl

/-- The second of two contradictory capability observations marks the first. -/
theorem CapabilityTarget.run_pair (hy : CapabilityTarget s c y)
    (accepts : gate.next s (.observeExecutionCapabilities x) =
      { s with candidate := some { c with capabilities := ⟨some x, false⟩ } })
    (sequence : y.record.sequence = x.record.sequence) (differs : ¬ capabilitiesIdentical y x) :
    gate.run s [.observeExecutionCapabilities x, .observeExecutionCapabilities y] =
      { s with
        candidate := some
          { c with
            capabilities :=
              ⟨some (Observation.withObservedAt x
                (max x.record.observedAt y.record.observedAt)), true⟩ } } := by
  rw [Mealy.run_cons, Mealy.run_cons, Mealy.run_nil, accepts]
  have target : CapabilityTarget
      { s with candidate := some { c with capabilities := ⟨some x, false⟩ } }
      { c with capabilities := ⟨some x, false⟩ } y :=
    ⟨rfl, hy.phase, hy.binding, hy.configured, hy.formed⟩
  rw [target.contradicts rfl sequence differs]

end Capabilities

section Readiness

variable {s s' : AuthorityGate} {c : Candidate} {index : Fin 3} {x y : BindingReadinessEvidence}

/-- A readiness observation that is accepted becomes the fact of its slot. -/
theorem Transition.acceptsReadiness
    (step : Transition s (.observeRebindReadiness x) (.evidence .accepted) s')
    (hc : s.candidate = some c) :
    ∃ index, ReadinessTarget s c x index ∧ s' = s.setReadiness c index ⟨some x, false⟩ := by
  cases step with
  | noEffect h => exact absurd rfl h
  | readiness target =>
    cases Option.some.inj (hc.symm.trans target.candidate)
    exact ⟨_, target, rfl⟩
  | operation _ _ step => cases step

/-- A readiness observation that contradicts the fact of its slot marks it. -/
theorem ReadinessTarget.contradicts (target : ReadinessTarget s c y index)
    (retained : (c.readiness index).evidence = some x)
    (sequence : y.record.sequence = x.record.sequence) (differs : ¬ readinessIdentical y x) :
    gate.next s (.observeRebindReadiness y) = s.setReadiness c index
      ⟨some (Observation.withObservedAt x
        (max x.record.observedAt y.record.observedAt)), true⟩ := by
  obtain ⟨candidate, phase, binding, slot, formed⟩ := target
  show (s.observeRebindReadiness y).2 = _
  simp only [AuthorityGate.observeRebindReadiness, candidate]
  rw [if_neg (by rintro (h | h); exacts [h phase, h binding])]
  simp only [slot]
  rw [if_neg (fun h ↦ h formed),
    CandidateFact.compare_contradiction readinessIdentical retained sequence differs]
  rfl

/-- The second of two contradictory readiness observations marks the first. -/
theorem ReadinessTarget.run_pair (hy : ReadinessTarget s c y index)
    (accepts : gate.next s (.observeRebindReadiness x) = s.setReadiness c index ⟨some x, false⟩)
    (sequence : y.record.sequence = x.record.sequence) (differs : ¬ readinessIdentical y x) :
    gate.run s [.observeRebindReadiness x, .observeRebindReadiness y] =
      s.setReadiness c index
        ⟨some (Observation.withObservedAt x
          (max x.record.observedAt y.record.observedAt)), true⟩ := by
  rw [Mealy.run_cons, Mealy.run_cons, Mealy.run_nil, accepts]
  have target : ReadinessTarget (s.setReadiness c index ⟨some x, false⟩)
      { c with readiness := Function.update c.readiness index ⟨some x, false⟩ } y index :=
    ⟨rfl, hy.phase, hy.binding, hy.slot, hy.formed⟩
  rw [target.contradicts (by dsimp only; rw [Function.update_self]) sequence differs]
  simp only [AuthorityGate.setReadiness, Function.update_idem]

end Readiness

/-! ### Both orders -/

section

variable {s : AuthorityGate} {c : Candidate}

/-- Different readiness observations of one kind and binding are not identical. -/
private theorem not_readinessIdentical {x y : BindingReadinessEvidence} (kind : x.kind = y.kind)
    (binding : x.binding = y.binding) (differs : x ≠ y) : ¬ readinessIdentical y x := by
  rintro ⟨hrecord, hobserved, huntil⟩
  apply differs
  cases x
  cases y
  cases kind
  cases binding
  cases recordsMatch_iff.mp hrecord
  cases hobserved
  cases huntil
  rfl

/-- Nor are different capabilities of one binding and capability. -/
private theorem not_capabilitiesIdentical {x y : ExecutionCapabilities}
    (binding : x.binding = y.binding) (differs : x ≠ y) : ¬ capabilitiesIdentical y x := by
  rintro ⟨hrecord, hcapability, hprofile, hunits, havailable, huntil⟩
  apply differs
  cases x
  cases y
  cases binding
  cases recordsMatch_iff.mp hrecord
  cases hcapability
  cases hprofile
  cases hunits
  cases havailable
  cases huntil
  rfl

/-- A readiness fact of the standing candidate that is contradicted is marked. -/
private theorem marked_setReadiness (hs : s.Coherent) (hc : s.candidate = some c)
    (index : Fin 3) (p : BindingReadinessEvidence) :
    (readinessStream index).Marked c.binding p.record.sequence
      (s.setReadiness c index ⟨some p, true⟩) where
  generation := (hs.candidateGeneration c hc).2
  fact := by
    rintro _ ⟨⟩ -
    have hfact : (readinessStream index).fact
        { c with readiness := Function.update c.readiness index ⟨some p, true⟩ } =
          ⟨some p, true⟩ := Function.update_self ..
    rw [hfact]
    exact ⟨rfl, p, rfl, rfl⟩

/-- Readiness facts contradicted under one record are alike. -/
private theorem alike_setReadiness (index : Fin 3) {p q : BindingReadinessEvidence}
    (record : p.record = q.record) :
    (s.setReadiness c index ⟨some p, true⟩).Alike (s.setReadiness c index ⟨some q, true⟩) := by
  refine .candidates rfl ⟨rfl, rfl, rfl, fun slot ↦ ?_, .inl rfl⟩ fun _ ↦ rfl
  by_cases hslot : slot = index
  · subst hslot
    simp only [Function.update_self]
    exact .inr ⟨rfl, rfl, congrArg some record⟩
  · simp only [Function.update_of_ne hslot]
    exact .inl rfl

/-- The same for capabilities. -/
private theorem marked_setCapabilities (hs : s.Coherent) (hc : s.candidate = some c)
    (p : ExecutionCapabilities) :
    capabilityStream.Marked c.binding p.record.sequence
      { s with candidate := some { c with capabilities := ⟨some p, true⟩ } } where
  generation := (hs.candidateGeneration c hc).2
  fact := by
    rintro _ ⟨⟩ -
    exact ⟨rfl, p, rfl, rfl⟩

private theorem alike_setCapabilities {p q : ExecutionCapabilities}
    (configured : s.config.executionCapabilityObserver ≠ "") (record : p.record = q.record) :
    ({ s with candidate := some { c with capabilities := ⟨some p, true⟩ } }).Alike
      { s with candidate := some { c with capabilities := ⟨some q, true⟩ } } :=
  .candidates rfl ⟨rfl, rfl, rfl, fun _ ↦ .inl rfl, .inr ⟨rfl, rfl, congrArg some record⟩⟩
    fun hunset ↦ absurd hunset configured

end

/-- Two observations of one source under one sequence number have one record at a common
time. -/
private theorem record_at_eq {r q : EvidenceRecord} (hsource : r.source = q.source)
    (hsequence : r.sequence = q.sequence) (t : MonotonicTime) :
    { r with observedAt := t } = { q with observedAt := t } := by
  cases r
  cases q
  cases hsource
  cases hsequence
  rfl

/-- The slot of a readiness observation determines its kind. -/
private theorem kind_of_readinessIndex {config : AuthorityGateConfig} {index : Fin 3}
    {k k' : StartupEvidenceKind} (h : config.readinessIndex k = some index)
    (h' : config.readinessIndex k' = some index) : k = k' := by
  unfold AuthorityGateConfig.readinessIndex at h h'
  grind

namespace Contradictory

variable {s : AuthorityGate} {x y : CandidateObservation}

/-- Contradiction has no order. -/
theorem symm (h : Contradictory s x y) : Contradictory s y x where
  kind := by
    have hkind := h.kind
    cases x <;> cases y
    · exact Eq.symm hkind
    · exact hkind
    · exact hkind
    · exact hkind
  about := by
    obtain ⟨c, hc, hx, hy⟩ := h.about
    exact ⟨c, hc, hy, hx⟩
  sequence := h.sequence.symm
  differs := h.differs.symm
  left := h.right
  right := h.left

/-- After two contradictory observations, in either order, the gates are alike, and the
candidate commits only once the observation was superseded for it. -/
structure Outcome (s : AuthorityGate) (x y : CandidateObservation) : Prop where
  alike : (s.afterBoth x y).Alike (s.afterBoth y x)
  blocked : ∀ calls now, (gate.run (s.afterBoth x y) calls).canCommit now →
    (∃ e ∈ gate.trace (s.afterBoth x y) calls, EvidenceAccepted e ∧
        ∃ z ∈ e.input.observation, z.binding = x.binding ∧ z.Supersedes x) ∨
      ∀ c ∈ (gate.run (s.afterBoth x y) calls).candidate, c.binding ≠ x.binding

/-- The outcome for readiness observations. -/
private theorem outcome_readiness {e d : BindingReadinessEvidence} (hs : s.Coherent)
    (h : Contradictory s (.readiness e) (.readiness d)) :
    Outcome s (.readiness e) (.readiness d) := by
  obtain ⟨hkind, ⟨c, hc, hbinding, hbinding'⟩, hsequence, hdiffers, hleft, hright⟩ := h
  have hne : e ≠ d := fun heq ↦ hdiffers (congrArg _ heq)
  have hsame : e.binding = d.binding := Eq.trans hbinding hbinding'.symm
  have hleft' := gate_transition s (.observeRebindReadiness e)
  have hright' := gate_transition s (.observeRebindReadiness d)
  rw [show gate.answer s (.observeRebindReadiness e) = _ from hleft] at hleft'
  rw [show gate.answer s (.observeRebindReadiness d) = _ from hright] at hright'
  obtain ⟨index, target, hnext⟩ := hleft'.acceptsReadiness hc
  obtain ⟨slot, target', hnext'⟩ := hright'.acceptsReadiness hc
  cases Option.some.inj (target.slot.symm.trans ((congrArg _ hkind).trans target'.slot))
  have hfirst := target'.run_pair hnext (Eq.symm hsequence)
    (not_readinessIdentical hkind hsame hne)
  have hsecond := target.run_pair hnext' hsequence
    (not_readinessIdentical (Eq.symm hkind) hsame.symm hne.symm)
  constructor
  · simp only [AuthorityGate.afterBoth, CandidateObservation.call, hfirst, hsecond]
    rw [max_comm d.record.observedAt]
    exact alike_setReadiness index
      (record_at_eq (target.formed.2.1.trans target'.formed.2.1.symm) hsequence _)
  · intro calls now hcommit
    simp only [AuthorityGate.afterBoth, CandidateObservation.call, hfirst] at hcommit ⊢
    have hmarked := marked_setReadiness hs hc index (Observation.withObservedAt e
      (max e.record.observedAt d.record.observedAt))
    rcases hmarked.repaired (hs.changeCandidate hc rfl) target.slot hcommit with
      ⟨event, hevent, z, haccepts, happlies, habout, hlater⟩ | hgone
    · refine .inl ⟨event, hevent, haccepts.2.1, .readiness z, ?_, ?_, ?_, hlater⟩
      · rw [haccepts.1]
        rfl
      · exact habout.trans hbinding.symm
      · exact kind_of_readinessIndex target.slot happlies
    · exact .inr fun b hb hsame ↦ hgone b hb (hsame.trans hbinding)

/-- The outcome for capabilities. -/
private theorem outcome_capabilities {e d : ExecutionCapabilities} (hs : s.Coherent)
    (h : Contradictory s (.capabilities e) (.capabilities d)) :
    Outcome s (.capabilities e) (.capabilities d) := by
  obtain ⟨-, ⟨c, hc, hbinding, hbinding'⟩, hsequence, hdiffers, hleft, hright⟩ := h
  have hne : e ≠ d := fun heq ↦ hdiffers (congrArg _ heq)
  have hsame : e.binding = d.binding := Eq.trans hbinding hbinding'.symm
  have hleft' := gate_transition s (.observeExecutionCapabilities e)
  have hright' := gate_transition s (.observeExecutionCapabilities d)
  rw [show gate.answer s (.observeExecutionCapabilities e) = _ from hleft] at hleft'
  rw [show gate.answer s (.observeExecutionCapabilities d) = _ from hright] at hright'
  obtain ⟨target, -, hnext⟩ := hleft'.acceptsCapabilities hs hc hbinding
  obtain ⟨target', -, hnext'⟩ := hright'.acceptsCapabilities hs hc hbinding'
  have hfirst := target'.run_pair hnext (Eq.symm hsequence)
    (not_capabilitiesIdentical hsame hne)
  have hsecond := target.run_pair hnext' hsequence
    (not_capabilitiesIdentical hsame.symm hne.symm)
  constructor
  · simp only [AuthorityGate.afterBoth, CandidateObservation.call, hfirst, hsecond]
    rw [max_comm d.record.observedAt]
    exact alike_setCapabilities target.configured
      (record_at_eq (target.formed.2.1.trans target'.formed.2.1.symm) hsequence _)
  · intro calls now hcommit
    simp only [AuthorityGate.afterBoth, CandidateObservation.call, hfirst] at hcommit ⊢
    have hmarked := marked_setCapabilities hs hc (Observation.withObservedAt e
      (max e.record.observedAt d.record.observedAt))
    rcases hmarked.repaired (hs.changeCandidate hc rfl) (x := e) target.configured hcommit with
      ⟨event, hevent, z, haccepts, -, habout, hlater⟩ | hgone
    · refine .inl ⟨event, hevent, haccepts.2.1, .capabilities z, ?_, ?_, trivial, hlater⟩
      · rw [haccepts.1]
        rfl
      · exact habout.trans hbinding.symm
    · exact .inr fun b hb hsame ↦ hgone b hb (hsame.trans hbinding)

/-- Contradictory observations of either kind. -/
theorem outcome (h : Contradictory s x y) (hs : s.Coherent) : Outcome s x y := by
  cases x with
  | readiness e =>
    cases y with
    | readiness d => exact outcome_readiness hs h
    | capabilities d => exact h.kind.elim
  | capabilities e =>
    cases y with
    | readiness d => exact h.kind.elim
    | capabilities d => exact outcome_capabilities hs h

end Contradictory

/-- Contradictory observations are sticky and have no order: after both, in either order, the
gate cannot commit their candidate at any time before the observation is superseded, and the
two orders answer every later sequence of calls alike. -/
theorem Run.contradiction_sticky (run : Run) {x y : CandidateObservation}
    (h : Contradictory run.final x y) (calls : List Call) :
    gate.answers (run.final.afterBoth x y) calls = gate.answers (run.final.afterBoth y x) calls ∧
      ∀ s ∈ [run.final.afterBoth x y, run.final.afterBoth y x], ∀ now,
        (gate.run s calls).canCommit now →
          (∃ e ∈ gate.trace s calls, EvidenceAccepted e ∧
              ∃ z ∈ e.input.observation, z.binding = x.binding ∧ z.Supersedes x) ∨
            ∀ c ∈ (gate.run s calls).candidate, c.binding ≠ x.binding := by
  have houtcome := h.outcome run.coherent
  have houtcome' := h.symm.outcome run.coherent
  refine ⟨houtcome.alike.answers calls, ?_⟩
  have hbinding : y.binding = x.binding := by
    obtain ⟨c, -, hx, hy⟩ := h.about
    exact hy.trans hx.symm
  intro t ht now hcommit
  rw [List.mem_cons, List.mem_singleton] at ht
  rcases ht with rfl | rfl
  · exact houtcome.blocked calls now hcommit
  · have hblocked := houtcome'.blocked calls now hcommit
    rw [hbinding] at hblocked
    refine hblocked.imp_left ?_
    rintro ⟨e, he, haccepted, z, hz, habout, hsame, hlater⟩
    refine ⟨e, he, haccepted, z, hz, habout, ?_, h.sequence ▸ hlater⟩
    have hkind := h.kind
    cases x <;> cases y <;> cases z <;> first | exact hkind.elim | exact hsame.elim | skip
    · exact Eq.trans hkind hsame
    · trivial

/-! ### A candidate that is begun again -/

/-- Two worker observations of the test candidate under sequence number 5. -/
def testContradiction : CandidateObservation × CandidateObservation :=
  (.readiness ⟨.workerReady, testCandidate, ⟨"worker", 24, 5⟩, true, 200⟩,
    .readiness ⟨.workerReady, testCandidate, ⟨"worker", 25, 5⟩, false, 200⟩)

/-- The candidate is withdrawn and a rebinding begun again, to a candidate that is observed
under sequence number 1. -/
def testRebegin : List Call :=
  let candidate : BindingIdentity := ⟨"new-provider", "domain", 1, 3⟩
  [.withdrawBinding testCandidate 30,
    .beginRebind testConfig.binding "new-provider"
      ⟨.bindingIdleAndSettled, testConfig.binding, ⟨"binding-observer", 31, 3⟩, true, 200⟩ 32,
    .observeRebindReadiness
      ⟨.bindingIdleAndSettled, candidate, ⟨"binding-observer", 33, 1⟩, true, 200⟩,
    .observeRebindReadiness ⟨.workerReady, candidate, ⟨"worker", 34, 1⟩, true, 200⟩,
    .observeRebindReadiness ⟨.resultSinkReady, candidate, ⟨"sink", 35, 1⟩, true, 200⟩]

/-- The test observations contradict each other at the candidate that `prepare` leaves. -/
private theorem testContradictory : Contradictory (testRun (testHandoff.take 2)).final
    testContradiction.1 testContradiction.2 where
  kind := rfl
  about := ⟨_, rfl, rfl, rfl⟩
  sequence := rfl
  differs := by decide
  left := by decide +kernel
  right := by decide +kernel

/-- The two orders of the test observations before a repair of the same candidate. -/
theorem contradiction_sticky_repaired :
    gate.answers ((testRun (testHandoff.take 2)).final.afterBoth testContradiction.1
        testContradiction.2)
      [.observeRebindReadiness ⟨.workerReady, testCandidate, ⟨"worker", 26, 6⟩, true, 200⟩] =
    gate.answers ((testRun (testHandoff.take 2)).final.afterBoth testContradiction.2
        testContradiction.1)
      [.observeRebindReadiness ⟨.workerReady, testCandidate, ⟨"worker", 26, 6⟩, true, 200⟩] :=
  (Run.contradiction_sticky _ testContradictory _).1

/-- The next candidate can commit under a smaller sequence number than the contradicted one. -/
theorem rebegun_commits :
    Contradictory (testRun (testHandoff.take 2)).final testContradiction.1 testContradiction.2 ∧
      (gate.run ((testRun (testHandoff.take 2)).final.afterBoth testContradiction.1
        testContradiction.2) testRebegin).canCommit 36 ∧
      ∀ e ∈ gate.trace ((testRun (testHandoff.take 2)).final.afterBoth testContradiction.1
          testContradiction.2) testRebegin,
        EvidenceAccepted e → ∀ z ∈ e.input.observation, ¬ z.Supersedes testContradiction.1 := by
  refine ⟨testContradictory, by decide +kernel, ?_⟩
  unfold EvidenceAccepted
  decide +kernel

end RobotHarness
