import RobotHarness.Core.Candidate

/-!
# Gates that answer alike

A contradicted fact is never read again but for the record it retains: its sequence number
orders later observations and its time enters the binding clock. Two gates that differ in such
facts alone therefore answer every sequence of calls alike.
-/

namespace RobotHarness

/-! ### Facts -/

/-- Two facts about candidates are equal, or both contradicted under one record. -/
def CandidateFact.Alike {α : Type} [Observation α] (f g : CandidateFact α) : Prop :=
  f = g ∨ f.conflicted = true ∧ g.conflicted = true ∧
    f.evidence.map Observation.record = g.evidence.map Observation.record

/-- The contradiction rule moves the time of an observation and keeps the rest of its record. -/
class LawfulObservation (α : Type) [Observation α] : Prop where
  record_withObservedAt : ∀ (x : α) (t : MonotonicTime),
    Observation.record (Observation.withObservedAt x t) =
      { Observation.record x with observedAt := t }

/-- A readiness observation is moved in time alone. -/
instance : LawfulObservation BindingReadinessEvidence := ⟨fun _ _ ↦ rfl⟩

/-- Capabilities are moved in time alone. -/
instance : LawfulObservation ExecutionCapabilities := ⟨fun _ _ ↦ rfl⟩

namespace CandidateFact

variable {α : Type} [Observation α] {f g : CandidateFact α}

/-- Alike facts retain observations of one record. -/
theorem Alike.record (h : f.Alike g) :
    f.evidence.map Observation.record = g.evidence.map Observation.record := by
  rcases h with rfl | ⟨-, -, hrecord⟩
  · rfl
  · exact hrecord

/-- Alike facts are equal unless contradicted. -/
theorem Alike.eq (h : f.Alike g) (hagreed : f.conflicted = false) : f = g := by
  rcases h with rfl | ⟨hconflicted, -, -⟩
  · rfl
  · rw [hagreed] at hconflicted
    cases hconflicted

/-- Alike facts are contradicted together. -/
theorem Alike.conflicted (h : f.Alike g) : f.conflicted = g.conflicted := by
  rcases h with rfl | ⟨hf, hg, -⟩
  · rfl
  · rw [hf, hg]

/-- Two answers of the comparison that agree, and leave alike facts. -/
inductive ComparedAlike : Option (EvidenceDisposition × CandidateFact α) →
    Option (EvidenceDisposition × CandidateFact α) → Prop where
  | passed : ComparedAlike none none
  | stopped {d : EvidenceDisposition} {f g : CandidateFact α} (alike : f.Alike g) :
      ComparedAlike (some (d, f)) (some (d, g))

variable {identical : α → α → Prop} [DecidableRel identical] [LawfulObservation α]

/-- A contradicted fact rejects what reaches its sequence number, and keeps its record up to
the later of the two times. -/
private theorem compare_conflicted (hsame : ∀ x y, identical x y →
      Observation.record x = Observation.record y)
    (hconflicted : f.conflicted = true) {p e : α} (hp : f.evidence = some p) :
    (∃ f', f.compare identical e = some (.rejected, f') ∧ f'.conflicted = true ∧
      f'.evidence.map Observation.record = some
        (if (Observation.record e).sequence = (Observation.record p).sequence then
          { Observation.record p with
            observedAt :=
              max (Observation.record p).observedAt (Observation.record e).observedAt }
        else Observation.record p)) ∧
        ((Observation.record e).sequence ≤ (Observation.record p).sequence ∨
          (Observation.record e).observedAt < (Observation.record p).observedAt) ∨
      f.compare identical e = none ∧
        ¬ ((Observation.record e).sequence ≤ (Observation.record p).sequence ∨
          (Observation.record e).observedAt < (Observation.record p).observedAt) := by
  simp only [compare, hp]
  by_cases hlt : (Observation.record e).sequence < (Observation.record p).sequence
  · rw [if_pos hlt]
    refine .inl ⟨⟨f, rfl, hconflicted, ?_⟩, .inl hlt.le⟩
    rw [if_neg hlt.ne, hp]
    rfl
  rw [if_neg hlt]
  by_cases hseq : (Observation.record e).sequence = (Observation.record p).sequence
  · rw [if_pos hseq, if_pos hseq]
    by_cases hid : identical e p
    · rw [if_pos hid, if_pos hconflicted]
      refine .inl ⟨⟨f, rfl, hconflicted, ?_⟩, .inl hseq.le⟩
      rw [hp, hsame e p hid, max_self]
      rfl
    · rw [if_neg hid]
      refine .inl ⟨⟨_, rfl, rfl, ?_⟩, .inl hseq.le⟩
      exact congrArg some (LawfulObservation.record_withObservedAt _ _)
  · rw [if_neg hseq, if_neg hseq]
    by_cases htime : (Observation.record e).observedAt < (Observation.record p).observedAt
    · rw [if_pos htime]
      refine .inl ⟨⟨f, rfl, hconflicted, ?_⟩, .inr htime⟩
      rw [hp]
      rfl
    · rw [if_neg htime]
      refine .inr ⟨rfl, ?_⟩
      rintro (hle | hearly)
      · exact (lt_of_le_of_ne hle hseq |> hlt)
      · exact htime hearly

/-- Alike facts compare alike with every observation. -/
theorem Alike.compare (hsame : ∀ x y, identical x y →
      Observation.record x = Observation.record y) (h : f.Alike g) (e : α) :
    ComparedAlike (f.compare identical e) (g.compare identical e) := by
  rcases h with rfl | ⟨hf, hg, hrecord⟩
  · cases f.compare identical e with
    | none => exact .passed
    | some answer => exact .stopped (.inl rfl)
  · cases hp : f.evidence with
    | none =>
      rw [hp] at hrecord
      have hq : g.evidence = none := Option.map_eq_none_iff.mp hrecord.symm
      simp only [CandidateFact.compare, hp, hq]
      exact .passed
    | some p =>
      rw [hp] at hrecord
      obtain ⟨q, hq, hqp⟩ := Option.map_eq_some_iff.mp hrecord.symm
      have hcompare := compare_conflicted hsame hg (e := e) hq
      rw [hqp] at hcompare
      rcases compare_conflicted hsame hf (e := e) hp with
        ⟨⟨f', hf', hconflicted, hkept⟩, hstop⟩ | ⟨hpass, hgo⟩
      · rcases hcompare with ⟨⟨g', hg', hconflicted', hkept'⟩, -⟩ | ⟨-, hgo⟩
        · rw [hf', hg']
          exact .stopped (.inr ⟨hconflicted, hconflicted', hkept.trans hkept'.symm⟩)
        · exact absurd hstop hgo
      · rcases hcompare with ⟨-, hstop⟩ | ⟨hpass', -⟩
        · exact absurd hstop hgo
        · rw [hpass, hpass']
          exact .passed

end CandidateFact

/-! ### Candidates and gates -/

/-- Two candidates of one rebinding with alike facts. -/
structure Candidate.Alike (c d : Candidate) : Prop where
  binding : c.binding = d.binding
  preparedAt : c.preparedAt = d.preparedAt
  oldScope : c.oldScope = d.oldScope
  readiness : ∀ index, (c.readiness index).Alike (d.readiness index)
  capabilities : c.capabilities.Alike d.capabilities

/-- Alike candidates were observed at the same times. -/
theorem Candidate.Alike.candidateTimes {c d : Candidate} (h : c.Alike d) :
    AuthorityGate.candidateTimes c = AuthorityGate.candidateTimes d := by
  have htime {α : Type} [Observation α] {f g : CandidateFact α} (hfact : f.Alike g) :
      f.evidence.map (fun x ↦ (Observation.record x).observedAt) =
        g.evidence.map (fun x ↦ (Observation.record x).observedAt) := by
    have hmap := congrArg (Option.map EvidenceRecord.observedAt) hfact.record
    simpa only [Option.map_map, Function.comp_def] using hmap
  have h0 := htime (h.readiness 0)
  have h1 := htime (h.readiness 1)
  have h2 := htime (h.readiness 2)
  have h3 := htime h.capabilities
  unfold AuthorityGate.candidateTimes
  exact congr (congrArg _ h0)
    (congr (congrArg _ h1) (congr (congrArg _ h2) (congrArg (· :: []) h3)))

namespace AuthorityGate

/-- The gate with another candidate. -/
@[simps]
def withCandidate (s : AuthorityGate) (c : Option Candidate) : AuthorityGate :=
  { s with candidate := c }

section WithCandidate

variable {s : AuthorityGate} {c : Option Candidate}

/-- A gate with its own candidate is itself. -/
theorem withCandidate_self (h : s.candidate = c) : s.withCandidate c = s := by
  subst h
  rfl

@[simp] private theorem matchingReceipt_withCandidate (authority : OperationAuthority) :
    (s.withCandidate c).matchingReceipt authority = s.matchingReceipt authority := rfl

@[simp] private theorem supportsExecution_withCandidate (q : ExecutionRequirements)
    (t : MonotonicTime) :
    (s.withCandidate c).supportsExecution q t ↔ s.supportsExecution q t := Iff.rfl

@[simp] private theorem canDeliverResult_withCandidate (authority : OperationAuthority) :
    (s.withCandidate c).canDeliverResult authority ↔ s.canDeliverResult authority := Iff.rfl

@[simp] private theorem compareNative_withCandidate (r : OperationReceipt) (e : NativeEvidence) :
    (s.withCandidate c).compareNative r e = s.compareNative r e := rfl

@[simp] private theorem nonDeliveryPrerequisite_withCandidate (r : OperationReceipt)
    (e : OutputNonDeliveryEvidence) :
    (s.withCandidate c).nonDeliveryPrerequisite r e = s.nonDeliveryPrerequisite r e := rfl

@[simp] private theorem startupFact_withCandidate (index : Fin 3) :
    (s.withCandidate c).startupFact index = s.startupFact index := by
  match index with
  | 0 | 1 | 2 => rfl

@[simp] private theorem oldWorkClosed_withCandidate :
    (s.withCandidate c).oldWorkClosed ↔ s.oldWorkClosed := Iff.rfl

@[simp] private theorem compareActiveCapabilities_withCandidate (e : ExecutionCapabilities) :
    (s.withCandidate c).compareActiveCapabilities e = s.compareActiveCapabilities e := rfl

@[simp] private theorem recordStartup_withCandidate (index : Fin 3) (e : StartupEvidence) :
    (s.withCandidate c).recordStartup index e =
      (s.recordStartup index e).withCandidate c := by
  match index with
  | 0 | 1 | 2 => rfl

end WithCandidate

/-- The operation neither reads nor writes the candidate. -/
def Ignores {β : Type} (op : AuthorityGate → β × AuthorityGate) : Prop :=
  ∀ s c, op (s.withCandidate c) = ((op s).1, (op s).2.withCandidate c)

/-! ### Operations that ignore the candidate -/

private theorem observeStartup_ignores (e : StartupEvidence) : Ignores (·.observeStartup e) := by
  intro s c
  simp only [observeStartup, withCandidate_bindingPhase, withCandidate_initializationState,
    withCandidate_currentReceipt, withCandidate_config, startupFact_withCandidate,
    recordStartup_withCandidate]
  split
  · rfl
  cases s.config.startupIndex e.kind with
  | none => rfl
  | some index =>
    dsimp only
    split
    · rfl
    · cases (s.startupFact index).compare e <;> rfl

private theorem observeActiveCapabilities_ignores (e : ExecutionCapabilities) :
    Ignores (·.observeActiveCapabilities e) := by
  intro s c
  simp only [observeActiveCapabilities, withCandidate_initializationState, withCandidate_config,
    compareActiveCapabilities_withCandidate]
  split
  · rfl
  · cases s.compareActiveCapabilities e <;> rfl

private theorem admitRequest_ignores (request : OperationRequest) :
    Ignores (·.admitRequest request) := by
  intro s c
  simp only [admitRequest, withCandidate_initializationState, withCandidate_config,
    withCandidate_lastBindingControlAt, withCandidate_nextOperationId,
    withCandidate_bindingPhase, oldWorkClosed_withCandidate, withCandidate_currentReceipt,
    startupFact_withCandidate, supportsExecution_withCandidate]
  split_ifs <;> rfl

private theorem claimDispatch_ignores (authority : OperationAuthority) (t : MonotonicTime) :
    Ignores (·.claimDispatch authority t) := by
  intro s c
  simp only [claimDispatch, matchingReceipt_withCandidate, withCandidate_bindingPhase,
    withCandidate_initializationState, supportsExecution_withCandidate]
  cases s.matchingReceipt authority with
  | none => rfl
  | some r =>
    dsimp only
    split_ifs <;> rfl

private theorem requestCancel_ignores (authority : OperationAuthority) (t : MonotonicTime) :
    Ignores (·.requestCancel authority t) := by
  intro s c
  simp only [requestCancel, matchingReceipt_withCandidate]
  cases s.matchingReceipt authority with
  | none => rfl
  | some r =>
    dsimp only
    split_ifs <;> rfl

private theorem observeTime_ignores (authority : OperationAuthority) (t : MonotonicTime) :
    Ignores (·.observeTime authority t) := by
  intro s c
  simp only [observeTime, matchingReceipt_withCandidate]
  cases s.matchingReceipt authority with
  | none => rfl
  | some r =>
    dsimp only
    split_ifs <;> rfl

private theorem observeStopAcknowledgement_ignores (e : StopAcknowledgementEvidence) :
    Ignores (·.observeStopAcknowledgement e) := by
  intro s c
  simp only [observeStopAcknowledgement, matchingReceipt_withCandidate, withCandidate_config]
  cases s.matchingReceipt e.authority with
  | none => rfl
  | some r =>
    dsimp only
    cases r.nativeStopRequestedAt with
    | none => rfl
    | some requested =>
      cases r.stopAcknowledgementEvidence <;> dsimp only <;> split_ifs <;> rfl

private theorem observeNonSubmission_ignores (e : NonSubmissionEvidence) :
    Ignores (·.observeNonSubmission e) := by
  intro s c
  simp only [observeNonSubmission, matchingReceipt_withCandidate, withCandidate_config]
  cases s.matchingReceipt e.authority with
  | none => rfl
  | some r =>
    dsimp only
    split_ifs <;> rfl

private theorem observeNative_ignores (e : NativeEvidence) : Ignores (·.observeNative e) := by
  intro s c
  simp only [observeNative, matchingReceipt_withCandidate, withCandidate_config,
    compareNative_withCandidate]
  cases s.matchingReceipt e.authority with
  | none => rfl
  | some r =>
    dsimp only
    split
    · rfl
    cases s.compareNative r e with
    | some disposition => rfl
    | none =>
      dsimp only
      split
      · rfl
      · cases r.applyNativeEvent e <;> rfl

private theorem observeOutputAccepted_ignores (e : OutputEvidence) :
    Ignores (·.observeOutputAccepted e) := by
  intro s c
  simp only [observeOutputAccepted, matchingReceipt_withCandidate, withCandidate_config,
    canDeliverResult_withCandidate]
  cases s.matchingReceipt e.authority with
  | none => rfl
  | some r =>
    dsimp only
    split_ifs <;> rfl

private theorem observeOutputNotDelivered_ignores (e : OutputNonDeliveryEvidence) :
    Ignores (·.observeOutputNotDelivered e) := by
  intro s c
  simp only [observeOutputNotDelivered, matchingReceipt_withCandidate,
    nonDeliveryPrerequisite_withCandidate]
  cases s.matchingReceipt e.authority with
  | none => rfl
  | some r =>
    dsimp only
    cases s.nonDeliveryPrerequisite r e with
    | none => rfl
    | some expected =>
      dsimp only
      split_ifs <;> rfl

private theorem observeSettlement_ignores (e : SettlementEvidence) :
    Ignores (·.observeSettlement e) := by
  intro s c
  simp only [observeSettlement, matchingReceipt_withCandidate, withCandidate_config]
  cases s.matchingReceipt e.authority with
  | none => rfl
  | some r =>
    dsimp only
    split_ifs <;> rfl

/-! ### Alike gates -/

/-- Two gates are equal, or differ in contradicted facts of their candidates alone.
Capabilities are contradicted only where an observer of them is configured. -/
inductive Alike (s : AuthorityGate) : AuthorityGate → Prop where
  | same : Alike s s
  | candidates {c d : Candidate} (present : s.candidate = some c) (alike : c.Alike d)
      (configured : s.config.executionCapabilityObserver = "" →
        c.capabilities = d.capabilities) : Alike s (s.withCandidate (some d))

/-- The call answers alike gates alike and leaves alike gates. -/
def AnswersAlike (call : Call) : Prop :=
  ∀ s t : AuthorityGate, s.Alike t →
    (s.call call).1 = (t.call call).1 ∧ (s.call call).2.Alike (t.call call).2

/-- An operation that ignores the candidate and keeps the configuration answers alike. -/
private theorem Ignores.alike {β : Type} {op : AuthorityGate → β × AuthorityGate}
    (h : Ignores op) {s : AuthorityGate} {c d : Candidate} (present : s.candidate = some c)
    (alike : c.Alike d)
    (configured : s.config.executionCapabilityObserver = "" → c.capabilities = d.capabilities)
    (hconfig : (op s).2.config = s.config) :
    (op s).1 = (op (s.withCandidate (some d))).1 ∧
      (op s).2.Alike (op (s.withCandidate (some d))).2 := by
  have hself := h s (some c)
  rw [withCandidate_self present] at hself
  have hcandidate : (op s).2.candidate = some c := by
    rw [congrArg Prod.snd hself]
    rfl
  rw [h s (some d)]
  exact ⟨rfl, .candidates hcandidate alike (by rw [hconfig]; exact configured)⟩

/-- A call that ignores the candidate answers alike. -/
private theorem Ignores.answersAlike {β : Type} {op : AuthorityGate → β × AuthorityGate}
    (h : Ignores op) {call : Call} {wrap : β → Answer}
    (hcall : ∀ s : AuthorityGate, s.call call = (op s).map wrap id) : AnswersAlike call := by
  have hignores : Ignores (AuthorityGate.call · call) := by
    intro s c
    dsimp only
    rw [hcall, hcall, h s c]
    rfl
  intro s t halike
  cases halike with
  | same => exact ⟨rfl, .same⟩
  | @candidates c d present alike configured =>
    have hcandidate : (s.call call).2.candidate = some c := by
      rw [← withCandidate_self present, congrArg Prod.snd (hignores s (some c))]
      rfl
    refine hignores.alike present alike configured ((gate_transition s call).config_eq ?_)
    exact Option.isSome_of_mem hcandidate

/-- A query that ignores the candidate answers alike. -/
private theorem query_alike {call : Call} {query : AuthorityGate → Answer}
    (hcall : ∀ s : AuthorityGate, s.call call = (query s, s))
    (h : ∀ s c, query (s.withCandidate c) = query s) : AnswersAlike call := by
  intro s t halike
  rw [hcall, hcall]
  refine ⟨?_, halike⟩
  cases halike with
  | same => rfl
  | candidates => exact (h s _).symm

section ReadingTheCandidate

variable {s : AuthorityGate} {c d : Candidate}

/-- Alike candidates leave the binding clock alike. -/
private theorem latestBindingTime_alike (present : s.candidate = some c) (alike : c.Alike d) :
    (s.withCandidate (some d)).latestBindingTime = s.latestBindingTime := by
  unfold latestBindingTime
  simp only [present, alike.candidateTimes, withCandidate_candidate]
  rfl

/-- A fact that holds equals the one it is alike to. -/
private theorem readinessHolds_alike {f g : CandidateFact BindingReadinessEvidence}
    (h : f.Alike g) (now : MonotonicTime) : readinessHolds f now ↔ readinessHolds g now := by
  by_cases hagreed : f.conflicted = false
  · rw [h.eq hagreed]
  · exact iff_of_false (fun hf ↦ hagreed hf.1) fun hg ↦ hagreed (h.conflicted.trans hg.1)

private theorem capabilitiesHold_alike {f g : CandidateFact ExecutionCapabilities}
    (h : f.Alike g) (now : MonotonicTime) :
    capabilitiesHold f now ↔ capabilitiesHold g now := by
  by_cases hagreed : f.conflicted = false
  · rw [h.eq hagreed]
  · exact iff_of_false (fun hf ↦ hagreed hf.1) fun hg ↦ hagreed (h.conflicted.trans hg.1)

/-- Alike candidates can be committed at the same times. -/
private theorem canCommit_alike (present : s.candidate = some c) (alike : c.Alike d)
    (now : MonotonicTime) : (s.withCandidate (some d)).canCommit now ↔ s.canCommit now := by
  unfold canCommit
  simp only [latestBindingTime_alike present alike, oldWorkClosed_withCandidate,
    withCandidate_bindingPhase, withCandidate_currentReceipt, withCandidate_config,
    withCandidate_candidate, present, Option.mem_def, Option.some.injEq, exists_eq_left',
    ← alike.oldScope, ← readinessHolds_alike (alike.readiness _) now,
    ← capabilitiesHold_alike alike.capabilities now]

/-- A candidate that can be committed equals every candidate it is alike to. -/
private theorem eq_of_canCommit (present : s.candidate = some c) (alike : c.Alike d)
    (configured : s.config.executionCapabilityObserver = "" → c.capabilities = d.capabilities)
    {now : MonotonicTime} (committable : s.canCommit now) : c = d := by
  obtain ⟨-, c', hc', -, -, -, -, hready, hcapable⟩ := committable
  cases Option.some.inj (present.symm.trans hc')
  have hreadiness : c.readiness = d.readiness :=
    funext fun index ↦ (alike.readiness index).eq (hready index).1
  have hcapabilities : c.capabilities = d.capabilities := by
    by_cases h : s.config.executionCapabilityObserver = ""
    · exact configured h
    · exact alike.capabilities.eq (hcapable h).1
  obtain ⟨hbinding, hprepared, hscope, -, -⟩ := alike
  cases c
  cases d
  cases hbinding
  cases hprepared
  cases hscope
  cases hreadiness
  cases hcapabilities
  rfl

end ReadingTheCandidate

/-! ### Calls that read the candidate -/

private theorem bindingStatus_alike (time : MonotonicTime) :
    AnswersAlike (.bindingStatus time) := by
  intro s t halike
  refine ⟨?_, halike⟩
  cases halike with
  | same => rfl
  | candidates present alike =>
    simp only [call, bindingStatus, canCommit_alike present alike, withCandidate_bindingPhase,
      withCandidate_config, withCandidate_candidate, present, Option.map_some, alike.binding]

private theorem withdrawBinding_alike (b : BindingIdentity) (now : MonotonicTime) :
    AnswersAlike (.withdrawBinding b now) := by
  intro s t halike
  cases halike with
  | same => exact ⟨rfl, .same⟩
  | @candidates c d present alike configured =>
    have hbinding : (s.withCandidate (some d)).withdrawableBinding = s.withdrawableBinding := by
      simp only [withdrawableBinding, present, withCandidate_candidate, alike.binding]
    simp only [call, withdrawBinding, latestBindingTime_alike present alike, hbinding,
      withCandidate_bindingPhase, withCandidate_candidate, present, Option.isSome_some, if_true]
    split_ifs
    · exact ⟨rfl, .candidates present alike configured⟩
    · exact ⟨rfl, .candidates present alike configured⟩
    · exact ⟨rfl, .candidates present alike configured⟩
    · exact ⟨rfl, .candidates present alike configured⟩
    · exact ⟨rfl, .same⟩

private theorem beginRebind_alike (b : BindingIdentity) (providerId : String)
    (e : BindingReadinessEvidence) (now : MonotonicTime) :
    AnswersAlike (.beginRebind b providerId e now) := by
  intro s t halike
  cases halike with
  | same => exact ⟨rfl, .same⟩
  | @candidates c d present alike configured =>
    simp only [call, beginRebind, latestBindingTime_alike present alike,
      withCandidate_bindingPhase, withCandidate_config, withCandidate_candidate, present,
      Option.isSome_some, if_true, Option.map_some, alike.binding]
    split_ifs <;> exact ⟨rfl, .candidates present alike configured⟩

private theorem commitRebind_alike (b : BindingIdentity) (now : MonotonicTime) :
    AnswersAlike (.commitRebind b now) := by
  intro s t halike
  cases halike with
  | same => exact ⟨rfl, .same⟩
  | @candidates c d present alike configured =>
    by_cases hcommit : s.canCommit now
    · cases eq_of_canCommit present alike configured hcommit
      rw [withCandidate_self present]
      exact ⟨rfl, .same⟩
    · simp only [call, commitRebind, latestBindingTime_alike present alike,
        withCandidate_bindingPhase, withCandidate_candidate, present,
        oldWorkClosed_withCandidate, canCommit_alike present alike, hcommit, ← alike.binding,
        not_false_eq_true, if_true]
      split_ifs <;> exact ⟨rfl, .candidates present alike configured⟩

/-- Capabilities are identical only under one record. -/
private theorem record_of_capabilitiesIdentical (x y : ExecutionCapabilities)
    (h : capabilitiesIdentical x y) : Observation.record x = Observation.record y :=
  recordsMatch_iff.mp h.1

/-- So are readiness observations. -/
private theorem record_of_readinessIdentical (x y : BindingReadinessEvidence)
    (h : readinessIdentical x y) : Observation.record x = Observation.record y :=
  recordsMatch_iff.mp h.1

private theorem observeExecutionCapabilities_alike (e : ExecutionCapabilities) :
    AnswersAlike (.observeExecutionCapabilities e) := by
  intro s t halike
  cases halike with
  | same => exact ⟨rfl, .same⟩
  | @candidates c d present alike configured =>
    simp only [call, observeExecutionCapabilities, withCandidate_candidate, present,
      withCandidate_bindingPhase, ← alike.binding]
    split
    · simp only [observeCandidateCapabilities, withCandidate_config, ← alike.preparedAt]
      split
      · exact ⟨rfl, .candidates present alike configured⟩
      next hguard =>
      have hcapabilities (f g : CandidateFact ExecutionCapabilities) (h : f.Alike g) :
          ({ s with candidate := some { c with capabilities := f } }).Alike
            { s with
              candidate := some { d with preparedAt := c.preparedAt, capabilities := g } } :=
        .candidates rfl { alike with preparedAt := rfl, capabilities := h }
          fun hunset ↦ absurd (.inl hunset) hguard
      have hcompare := alike.capabilities.compare record_of_capabilitiesIdentical e
      revert hcompare
      generalize c.capabilities.compare capabilitiesIdentical e = left
      generalize d.capabilities.compare capabilitiesIdentical e = right
      rintro (_ | hfacts)
      · dsimp only
        split
        · exact ⟨rfl, .candidates present alike configured⟩
        · exact ⟨rfl, hcapabilities _ _ (.inl rfl)⟩
      · exact ⟨rfl, hcapabilities _ _ hfacts⟩
    · have hconfig : (s.observeActiveCapabilities e).2.config = s.config := by
        unfold observeActiveCapabilities
        split
        · rfl
        · cases s.compareActiveCapabilities e <;> rfl
      obtain ⟨hanswer, hstate⟩ :=
        (observeActiveCapabilities_ignores e).alike present alike configured hconfig
      exact ⟨congrArg Answer.evidence hanswer, hstate⟩

private theorem observeRebindReadiness_alike (e : BindingReadinessEvidence) :
    AnswersAlike (.observeRebindReadiness e) := by
  intro s t halike
  cases halike with
  | same => exact ⟨rfl, .same⟩
  | @candidates c d present alike configured =>
    simp only [call, observeRebindReadiness, withCandidate_candidate, present,
      withCandidate_bindingPhase, withCandidate_config, ← alike.binding, ← alike.preparedAt]
    split
    · exact ⟨rfl, .candidates present alike configured⟩
    cases s.config.readinessIndex e.kind with
    | none => exact ⟨rfl, .candidates present alike configured⟩
    | some index =>
      dsimp only
      split
      · exact ⟨rfl, .candidates present alike configured⟩
      have hreadiness (f g : CandidateFact BindingReadinessEvidence) (h : f.Alike g) :
          (s.setReadiness c index f).Alike
            ((s.withCandidate (some d)).setReadiness d index g) := by
        refine .candidates rfl { alike with readiness := fun slot ↦ ?_ } configured
        by_cases hslot : slot = index
        · subst hslot
          simp only [Function.update_self]
          exact h
        · simp only [Function.update_of_ne hslot]
          exact alike.readiness slot
      have hcompare := (alike.readiness index).compare record_of_readinessIdentical e
      revert hcompare
      generalize (c.readiness index).compare readinessIdentical e = left
      generalize (d.readiness index).compare readinessIdentical e = right
      rintro (_ | hfacts)
      · dsimp only
        split
        · exact ⟨rfl, .candidates present alike configured⟩
        · exact ⟨rfl, hreadiness _ _ (.inl rfl)⟩
      · exact ⟨rfl, hreadiness _ _ hfacts⟩

/-- Every call answers alike gates alike and leaves alike gates. -/
theorem call_alike (call : Call) : AnswersAlike call := by
  cases call with
  | observeStartup e => exact (observeStartup_ignores e).answersAlike fun _ ↦ rfl
  | startupStatus => exact query_alike (fun _ ↦ rfl) fun _ _ ↦ rfl
  | observeExecutionCapabilities e => exact observeExecutionCapabilities_alike e
  | supportsExecution q t => exact query_alike (fun _ ↦ rfl) fun _ _ ↦ rfl
  | bindingStatus time => exact bindingStatus_alike time
  | withdrawBinding b now => exact withdrawBinding_alike b now
  | beginRebind b providerId e now => exact beginRebind_alike b providerId e now
  | observeRebindReadiness e => exact observeRebindReadiness_alike e
  | commitRebind b now => exact commitRebind_alike b now
  | admitRequest request => exact (admitRequest_ignores request).answersAlike fun _ ↦ rfl
  | claimDispatch authority t =>
    exact (claimDispatch_ignores authority t).answersAlike fun _ ↦ rfl
  | requestCancel authority t =>
    exact (requestCancel_ignores authority t).answersAlike fun _ ↦ rfl
  | observeTime authority t =>
    exact (observeTime_ignores authority t).answersAlike fun _ ↦ rfl
  | observeStopAcknowledgement e =>
    exact (observeStopAcknowledgement_ignores e).answersAlike fun _ ↦ rfl
  | observeNonSubmission e => exact (observeNonSubmission_ignores e).answersAlike fun _ ↦ rfl
  | observeNative e => exact (observeNative_ignores e).answersAlike fun _ ↦ rfl
  | canDeliverResult authority => exact query_alike (fun _ ↦ rfl) fun _ _ ↦ rfl
  | observeOutputAccepted e =>
    exact (observeOutputAccepted_ignores e).answersAlike fun _ ↦ rfl
  | observeOutputNotDelivered e =>
    exact (observeOutputNotDelivered_ignores e).answersAlike fun _ ↦ rfl
  | observeSettlement e => exact (observeSettlement_ignores e).answersAlike fun _ ↦ rfl
  | receipt authority => exact query_alike (fun _ ↦ rfl) fun _ _ ↦ rfl
  | closeAdmission =>
    intro s t halike
    refine ⟨rfl, ?_⟩
    cases halike <;> exact .same

/-- Alike gates answer every sequence of calls alike. -/
theorem Alike.answers {s t : AuthorityGate} (h : s.Alike t) (calls : List Call) :
    gate.answers s calls = gate.answers t calls :=
  gate.answers_eq_of_bisimulation (fun s t call halike ↦ call_alike call s t halike) h calls

end AuthorityGate

end RobotHarness
