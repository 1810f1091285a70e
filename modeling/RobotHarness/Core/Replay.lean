import RobotHarness.Core.Candidate

/-!
# Replayed evidence

Evidence that was accepted once is consumed: the gate retains enough to answer a replay
with a duplicate or a rejection, and to stay as it is. So replays can be inserted anywhere
in a run without changing the answer to any other call.
-/

namespace RobotHarness

/-! ### Consumed evidence -/

/-- The slot of a startup observation has reached it, while its binding is configured. -/
structure AuthorityGate.StartupConsumed (s : AuthorityGate) (e : StartupEvidence) : Prop where
  generation : e.binding.providerGeneration ≤ s.generationHighWater
  candidate : ∀ c ∈ s.candidate, e.binding ≠ c.binding
  configured : e.binding = s.config.binding → ∃ index,
    s.config.startupIndex e.kind = some index ∧
      Reached e.record.sequence (s.startupFact index).record

/-- The last native record has reached the event, while its operation is current. -/
def AuthorityGate.NativeConsumed (s : AuthorityGate) (e : NativeEvidence) : Prop :=
  s.Issued e.authority.operationId ∧ ∀ r ∈ s.currentReceipt,
    r.authority.operationId = e.authority.operationId →
      Reached e.record.sequence s.lastNativeRecord

/-- The active capabilities have reached the observation, while its binding is configured. -/
def AuthorityGate.ActiveConsumed (s : AuthorityGate) (e : ExecutionCapabilities) : Prop :=
  e.binding = s.config.binding →
    Reached e.record.sequence (s.executionCapabilities.map (·.record))

namespace CandidateStream

variable {α : Type} (S : CandidateStream α)

/-- The retained observation has reached this one: by its sequence number, or under the same
number and as this very observation unless it was contradicted. -/
def Passed (fact : CandidateFact α) (x : α) : Prop :=
  ∃ p ∈ fact.evidence, (S.record x).sequence < (S.record p).sequence ∨
    (S.record x).sequence = (S.record p).sequence ∧
      (S.record x).observedAt ≤ (S.record p).observedAt ∧ (fact.conflicted = false → p = x)

/-- The candidate's fact has passed the observation, while it is about the candidate. -/
structure Consumed (s : AuthorityGate) (x : α) : Prop where
  generation : (S.binding x).providerGeneration ≤ s.generationHighWater
  candidate : ∀ c ∈ s.candidate, S.binding x = c.binding →
    S.applies s.config x ∧ S.Passed (S.fact c) x

variable {S}

/-- A consumed observation stays consumed. -/
theorem Consumed.stable {x : α} {s s' : AuthorityGate} {c : Call} {a : Answer}
    (h : S.Consumed s x) (step : Transition s c a s')
    (effect : ∀ c' ∈ s'.candidate, S.Effect s ⟨s, c, a, s'⟩ c') : S.Consumed s' x := by
  refine ⟨h.generation.trans step.generation_le, fun c' hc' hbinding ↦ ?_⟩
  rw [step.config_eq (by rw [show s'.candidate = some c' from hc']; rfl)]
  cases effect c' hc' with
  | fresh _ generation =>
    rw [← hbinding] at generation
    exact absurd (generation.trans_le h.generation) (lt_irrefl _)
  | kept before binding _ fact =>
    rw [fact]
    exact h.candidate _ before (hbinding.trans binding)
  | @accepted b y before binding _ _ _ _ newer fact =>
    obtain ⟨happlies, p, hp, hpassed⟩ := h.candidate b before (hbinding.trans binding)
    refine ⟨happlies, y, by rw [fact]; rfl, .inl ?_⟩
    refine newer.reached ⟨S.record p, by rw [show (S.fact b).evidence = some p from hp]; rfl, ?_⟩
    rcases hpassed with hlt | ⟨heq, -⟩
    · exact hlt.le
    · exact heq.le
  | @conflicted b y p before binding retained fact _ sequence time =>
    obtain ⟨happlies, q, hq, hpassed⟩ := h.candidate b before (hbinding.trans binding)
    cases retained.symm.trans hq
    refine ⟨happlies, y, by rw [fact]; rfl, ?_⟩
    rcases hpassed with hlt | ⟨heq, hle, -⟩
    · exact .inl (hlt.trans_eq sequence.symm)
    · exact .inr ⟨heq.trans sequence.symm, hle.trans time, by rw [fact]; nofun⟩

end CandidateStream

/-- The evidence that a call delivers is consumed. -/
def AuthorityGate.Consumed (s : AuthorityGate) : Call → Prop
  | .observeStartup e => s.StartupConsumed e
  | .observeExecutionCapabilities e => capabilityStream.Consumed s e ∧ s.ActiveConsumed e
  | .observeRebindReadiness e => ∃ index, (readinessStream index).Consumed s e
  | .observeStopAcknowledgement e =>
    s.Pinned e.authority.operationId fun r ↦ r.stopAcknowledgementEvidence.isSome
  | .observeNonSubmission e => s.Pinned e.authority.operationId (·.dispatch = .notSubmitted)
  | .observeNative e => s.NativeConsumed e
  | .observeOutputAccepted e => s.Pinned e.authority.operationId (·.output = .accepted)
  | .observeOutputNotDelivered e =>
    s.Pinned e.authority.operationId (·.output = .notDelivered)
  | .observeSettlement e => s.Pinned e.authority.operationId (·.settlement = .settled)
  | _ => False

/-! ### Consumed evidence stays consumed -/

namespace Transition

variable {s s' : AuthorityGate} {c : Call} {a : Answer}

private theorem startupConsumed (step : Transition s c a s') {e : StartupEvidence}
    (h : s.StartupConsumed e) : s'.StartupConsumed e where
  generation := h.generation.trans step.generation_le
  candidate := by
    intro d hd heq
    cases step.bindingEffect with
    | kept _ candidate _ _ _ origin =>
      obtain ⟨b, hb, hsame, -⟩ := origin d hd
      exact h.candidate b hb (heq.trans hsame)
    | begun _ guard _ state =>
      subst state
      cases hd
      have hle := h.generation
      rw [heq] at hle
      exact absurd (guard.generation_lt.trans_le hle) (lt_irrefl _)
    | discarded _ _ _ state | committed _ _ _ state | closed state =>
      rw [state] at hd
      cases hd
    | withdrawn _ noCandidate _ _ _ state =>
      obtain ⟨_, rfl⟩ := state
      cases noCandidate.symm.trans hd
  configured := by
    intro hbinding
    cases step with
    | @startup f index _ _ _ _ _ _ newer =>
      obtain ⟨_, _, _, _, -, heq⟩ := s.recordStartup_eq index f
      have hconfig : (s.recordStartup index f).config = s.config := by rw [heq]
      rw [hconfig] at hbinding ⊢
      obtain ⟨slot, hslot, hreached⟩ := h.configured hbinding
      refine ⟨slot, hslot, ?_⟩
      rw [AuthorityGate.recordStartup_startupFact]
      by_cases hindex : slot = index
      · subst hindex
        rw [if_pos rfl]
        exact ⟨f.record, rfl, (newer.reached hreached).le⟩
      · rwa [if_neg hindex]
    | commit candidate => exact absurd hbinding (h.candidate _ candidate)
    | _ => exact h.configured hbinding

private theorem nativeConsumed (step : Transition s c a s') {e : NativeEvidence}
    (h : s.NativeConsumed e) : s'.NativeConsumed e := by
  refine ⟨step.issued h.1, fun r hr hid ↦ ?_⟩
  cases step with
  | @startup f index =>
    obtain ⟨_, _, _, _, -, heq⟩ := s.recordStartup_eq index f
    rw [heq] at hr ⊢
    exact h.2 r hr hid
  | admission guard =>
    cases hr
    have hnext : s.nextOperationId = e.authority.operationId := hid
    exact absurd (hnext ▸ h.1) (AuthorityGate.not_issued_next guard.unexhausted)
  | withdrawCurrent noCandidate opened unwithdrawn time present bound unreleased =>
    have change := ReceiptStep.withdraw noCandidate opened unwithdrawn time unreleased
    cases hr
    rw [change.authority_eq] at hid
    exact h.2 _ present hid
  | operation present _ step =>
    have change := ReceiptStep.operation step
    cases hr
    rw [change.authority_eq] at hid
    exact h.2 _ present hid
  | @native f d q applied present _ step =>
    have change := ReceiptStep.native step
    cases hr
    rw [change.authority_eq] at hid
    exact ⟨f.record, rfl, (step.newer.reached (h.2 _ present hid)).le⟩
  | _ => exact h.2 r hr hid

private theorem activeConsumed (step : Transition s c a s') {e : ExecutionCapabilities}
    (h : s.ActiveConsumed e) (hcandidate : capabilityStream.Consumed s e) :
    s'.ActiveConsumed e := by
  intro hbinding
  cases step with
  | @startup f index =>
    obtain ⟨_, _, _, _, -, heq⟩ := s.recordStartup_eq index f
    rw [heq] at hbinding ⊢
    exact h hbinding
  | @capabilities f _ _ _ _ _ newer =>
    exact ⟨f.record, rfl, (newer.reached (h hbinding)).le⟩
  | @commit d now candidate =>
    obtain ⟨-, p, hp, hpassed⟩ := hcandidate.candidate d candidate hbinding
    have hp : d.capabilities.evidence = some p := hp
    refine ⟨p.record, congrArg (Option.map (·.record)) hp, ?_⟩
    rcases hpassed with hlt | ⟨heq, -⟩
    · exact hlt.le
    · exact heq.le
  | _ => exact h hbinding

/-- Consumed evidence stays consumed. -/
theorem consumed (step : Transition s c a s') (hs : s.Coherent) {replay : Call}
    (h : s.Consumed replay) : s'.Consumed replay := by
  cases replay with
  | observeStartup e => exact step.startupConsumed h
  | observeExecutionCapabilities e =>
    exact ⟨h.1.stable step fun c' hc' ↦ step.capabilityEffect hs hc',
      step.activeConsumed h.2 h.1⟩
  | observeRebindReadiness e =>
    obtain ⟨index, hconsumed⟩ := h
    exact ⟨index, hconsumed.stable step fun c' hc' ↦ step.readinessEffect index hc'⟩
  | observeStopAcknowledgement e =>
    exact step.pinned hs (fun _ _ change _ hr ↦ change.acknowledged hr) h
  | observeNonSubmission e =>
    exact step.pinned hs (fun _ _ change _ hr ↦ change.notSubmitted hr) h
  | observeNative e => exact step.nativeConsumed h
  | observeOutputAccepted e =>
    refine step.pinned hs (fun r r' change _ hr ↦ ?_) h
    exact (change.output_eq (by rw [hr]; nofun)).trans hr
  | observeOutputNotDelivered e =>
    refine step.pinned hs (fun r r' change _ hr ↦ ?_) h
    exact (change.output_eq (by rw [hr]; nofun)).trans hr
  | observeSettlement e =>
    exact step.pinned hs (fun _ _ change _ hr ↦ change.settled hr) h
  | _ => exact h

private theorem startup_consumes {e : StartupEvidence} (hs : s.Coherent)
    (step : Transition s (.observeStartup e) (.evidence .accepted) s') :
    s'.StartupConsumed e := by
  have hs' := step.coherent hs
  cases step with
  | noEffect h => exact absurd rfl h
  | @startup _ index phase _ _ binding slot =>
    obtain ⟨_, _, _, _, -, heq⟩ := s.recordStartup_eq index e
    have hconfig : (s.recordStartup index e).config = s.config := by rw [heq]
    have hbinding : e.binding = (s.recordStartup index e).config.binding := by
      rw [hconfig, binding]
    refine ⟨hbinding ▸ hs'.generation, ?_, fun _ ↦ ⟨index, by rw [hconfig, slot], ?_⟩⟩
    · intro d hd hsame
      exact hs'.candidate_ne hd (hsame.symm.trans hbinding)
    · rw [AuthorityGate.recordStartup_startupFact, if_pos rfl]
      exact ⟨e.record, rfl, le_refl _⟩
  | operation _ _ step => cases step

private theorem capabilities_consume {e : ExecutionCapabilities} (hs : s.Coherent)
    (step : Transition s (.observeExecutionCapabilities e) (.evidence .accepted) s') :
    capabilityStream.Consumed s' e ∧ s'.ActiveConsumed e := by
  have hs' := step.coherent hs
  cases step with
  | noEffect h => exact absurd rfl h
  | capabilities _ _ binding =>
    refine ⟨⟨?_, ?_⟩, fun _ ↦ ⟨e.record, rfl, le_refl _⟩⟩
    · exact (congrArg BindingIdentity.providerGeneration binding).trans_le hs.generation
    · intro d hd hsame
      exact absurd (hsame.symm.trans binding) (hs.candidate_ne hd)
  | @candidateCapabilities d _ target =>
    refine ⟨⟨?_, ?_⟩, ?_⟩
    · exact (congrArg BindingIdentity.providerGeneration target.binding).trans_le
        (hs.candidateGeneration d target.candidate).2
    · intro d' hd' _
      cases hd'
      exact ⟨target.configured, e, rfl, .inr ⟨rfl, le_refl _, fun _ ↦ rfl⟩⟩
    · intro hbinding
      exact absurd (target.binding.symm.trans hbinding) (hs.candidate_ne target.candidate)
  | operation _ _ step => cases step

private theorem readiness_consumes {e : BindingReadinessEvidence} (hs : s.Coherent)
    (step : Transition s (.observeRebindReadiness e) (.evidence .accepted) s') :
    ∃ index, (readinessStream index).Consumed s' e := by
  cases step with
  | noEffect h => exact absurd rfl h
  | @readiness d _ index target =>
    refine ⟨index, ?_, ?_⟩
    · exact (congrArg BindingIdentity.providerGeneration target.binding).trans_le
        (hs.candidateGeneration d target.candidate).2
    · intro d' hd' _
      cases hd'
      refine ⟨target.slot, e, ?_, .inr ⟨rfl, le_refl _, fun _ ↦ rfl⟩⟩
      show e ∈ (Function.update d.readiness index ⟨some e, false⟩ index).evidence
      rw [Function.update_self]
      rfl
  | operation _ _ step => cases step

private theorem operation_consumes {r r' : OperationReceipt} (hs' : s'.Coherent)
    (change : OperationStep s c (.evidence .accepted) r r')
    (after : s'.currentReceipt = some r') : s'.Consumed c := by
  have hchange := ReceiptStep.operation change
  unfold AuthorityGate.Consumed
  cases change with
  | acknowledge authority | notSubmitted authority | acceptOutput authority
  | withholdOutput authority | settle authority =>
    dsimp only
    rw [authority]
    exact hs'.pin_change hchange after rfl

/-- Evidence that is accepted is consumed. -/
theorem consumes (step : Transition s c (.evidence .accepted) s') (hs : s.Coherent) :
    s'.Consumed c := by
  have hs' := step.coherent hs
  cases c with
  | observeStartup e => exact startup_consumes hs step
  | observeExecutionCapabilities e => exact capabilities_consume hs step
  | observeRebindReadiness e => exact readiness_consumes hs step
  | observeNative e =>
    cases step with
    | noEffect h => exact absurd rfl h
    | native present _ step =>
      refine ⟨?_, fun _ _ _ ↦ ⟨e.record, rfl, le_refl _⟩⟩
      rw [step.authority]
      exact (hs.receiptIssued _ present).2
    | operation _ _ step => cases step
  | _ =>
    cases step with
    | noEffect h => exact absurd rfl h
    | operation _ _ change => exact operation_consumes hs' change rfl

end Transition

/-! ### Consumed evidence changes nothing -/

/-- The call is answered as a duplicate or rejected, and leaves the gate as it was. -/
def AuthorityGate.Inert (s : AuthorityGate) (c : Call) : Prop :=
  gate.next s c = s ∧
    (gate.answer s c = .evidence .duplicate ∨ gate.answer s c = .evidence .rejected)

namespace AuthorityGate

variable {s : AuthorityGate}

private theorem inert_of {c : Call} {result : EvidenceDisposition × AuthorityGate}
    (hcall : s.call c = result.map .evidence id)
    (h : ∀ d s', Transition s c (.evidence d) s' → d ≠ .accepted ∧ s' = s) : s.Inert c := by
  have step := gate_transition s c
  have hanswer : gate.answer s c = .evidence result.1 := congrArg Prod.fst hcall
  rw [hanswer] at step
  obtain ⟨hrefused, hnext⟩ := h _ _ step
  refine ⟨hnext, ?_⟩
  rw [hanswer]
  cases hd : result.1 with
  | accepted => exact absurd hd hrefused
  | duplicate => exact .inl rfl
  | rejected => exact .inr rfl

/-- A contradiction of a passed observation finds the fact already marked, and keeps it. -/
private theorem contradiction_kept {α : Type} [Observation α] {S : CandidateStream α}
    {fact : CandidateFact α} {x p : α} (hpassed : S.Passed fact x)
    (hretained : fact.evidence = some p)
    (hsequence : (S.record x).sequence = (S.record p).sequence) (hdiffers : p ≠ x)
    (hkept : (S.record x).observedAt ≤ (S.record p).observedAt →
      Observation.withObservedAt p (max (S.record p).observedAt (S.record x).observedAt) = p) :
    (⟨some (Observation.withObservedAt p
      (max (S.record p).observedAt (S.record x).observedAt)), true⟩ : CandidateFact α) = fact := by
  obtain ⟨q, hq, hpassed⟩ := hpassed
  cases hretained.symm.trans hq
  rcases hpassed with hlt | ⟨-, hle, hsame⟩
  · rw [hsequence] at hlt
    exact absurd hlt (lt_irrefl _)
  · rw [hkept hle, ← hretained]
    cases hconflicted : fact.conflicted with
    | false => exact absurd (hsame hconflicted) hdiffers
    | true => rw [← hconflicted]

private theorem inert_startup {e : StartupEvidence} (h : s.StartupConsumed e) :
    s.Inert (.observeStartup e) := by
  apply inert_of rfl
  intro d s' step
  cases step with
  | noEffect hrefused => exact ⟨hrefused, rfl⟩
  | startup _ _ _ binding slot _ newer =>
    obtain ⟨index, hslot, hreached⟩ := h.configured binding
    cases slot.symm.trans hslot
    exact absurd (newer.reached hreached) (lt_irrefl _)
  | operation _ _ step => cases step

private theorem not_newer_of_passed {α : Type} {S : CandidateStream α} {fact : CandidateFact α}
    {x : α} (h : S.Passed fact x) : ¬ Newer (S.record x) (fact.evidence.map S.record) := by
  intro newer
  obtain ⟨p, hp, hpassed⟩ := h
  have hlt := (newer (S.record p) (congrArg (Option.map S.record) hp)).1
  rcases hpassed with hlater | ⟨heq, -⟩
  · exact lt_irrefl _ (hlt.trans hlater)
  · rw [heq] at hlt
    exact lt_irrefl _ hlt

private theorem inert_capabilities {e : ExecutionCapabilities}
    (h : capabilityStream.Consumed s e) (hactive : s.ActiveConsumed e) :
    s.Inert (.observeExecutionCapabilities e) := by
  apply inert_of rfl
  intro d s' step
  cases step with
  | noEffect hrefused => exact ⟨hrefused, rfl⟩
  | capabilities _ _ binding _ _ newer =>
    exact absurd (newer.reached (hactive binding)) (lt_irrefl _)
  | candidateCapabilities target _ newer =>
    obtain ⟨-, hpassed⟩ := h.candidate _ target.candidate target.binding
    exact absurd newer (not_newer_of_passed hpassed)
  | @capabilitiesConflict b _ p target retained sequence differs =>
    obtain ⟨-, hpassed⟩ := h.candidate _ target.candidate target.binding
    have hkept := contradiction_kept hpassed retained sequence
      (fun hsame ↦ differs (by rw [hsame]; simp [capabilitiesIdentical]))
      (fun hle ↦ by rw [max_eq_left hle]; rfl)
    have hself : { s with candidate := some { b with capabilities := b.capabilities } } = s := by
      rw [← target.candidate]
    exact ⟨nofun, (congrArg (fun fact ↦
      { s with candidate := some { b with capabilities := fact } }) hkept).trans hself⟩
  | operation _ _ step => cases step

private theorem inert_readiness {e : BindingReadinessEvidence} {index : Fin 3}
    (h : (readinessStream index).Consumed s e) : s.Inert (.observeRebindReadiness e) := by
  apply inert_of rfl
  intro d s' step
  cases step with
  | noEffect hrefused => exact ⟨hrefused, rfl⟩
  | readiness target newer =>
    obtain ⟨hslot, hpassed⟩ := h.candidate _ target.candidate target.binding
    cases hslot.symm.trans target.slot
    exact absurd newer (not_newer_of_passed hpassed)
  | @readinessConflict b _ p slot target retained sequence differs =>
    obtain ⟨hslot, hpassed⟩ := h.candidate _ target.candidate target.binding
    cases hslot.symm.trans target.slot
    have hkept := contradiction_kept hpassed retained sequence
      (fun hsame ↦ differs (by rw [hsame]; simp [readinessIdentical]))
      (fun hle ↦ by rw [max_eq_left hle]; rfl)
    exact ⟨nofun, (congrArg (s.setReadiness b index) hkept).trans
      (setReadiness_self target.candidate index)⟩
  | operation _ _ step => cases step

private theorem inert_native {e : NativeEvidence} (h : s.NativeConsumed e) :
    s.Inert (.observeNative e) := by
  apply inert_of rfl
  intro d s' step
  cases step with
  | noEffect hrefused => exact ⟨hrefused, rfl⟩
  | native present _ step =>
    have hreached := h.2 _ present (by rw [step.authority])
    exact absurd (step.newer.reached hreached) (lt_irrefl _)
  | operation _ _ step => cases step

/-- Consumed evidence changes nothing. -/
theorem inert_of_consumed {c : Call} (h : s.Consumed c) : s.Inert c := by
  cases c with
  | observeStartup e => exact inert_startup h
  | observeExecutionCapabilities e => exact inert_capabilities h.1 h.2
  | observeRebindReadiness e =>
    obtain ⟨index, hconsumed⟩ := h
    exact inert_readiness hconsumed
  | observeNative e => exact inert_native h
  | observeStopAcknowledgement e =>
    apply inert_of rfl
    intro d s' step
    cases step with
    | noEffect hrefused => exact ⟨hrefused, rfl⟩
    | operation present _ change =>
      cases change with
      | acknowledge authority _ _ _ first =>
        have hshown := h.2 _ present (by rw [authority])
        dsimp only at hshown
        rw [first] at hshown
        cases hshown
  | observeNonSubmission e =>
    apply inert_of rfl
    intro d s' step
    cases step with
    | noEffect hrefused => exact ⟨hrefused, rfl⟩
    | operation present _ change =>
      cases change with
      | notSubmitted authority _ _ unmarked =>
        exact absurd (h.2 _ present (by rw [authority])) unmarked
  | observeOutputAccepted e =>
    apply inert_of rfl
    intro d s' step
    cases step with
    | noEffect hrefused => exact ⟨hrefused, rfl⟩
    | operation present _ change =>
      cases change with
      | acceptOutput authority _ _ _ _ _ pending =>
        have hshown := h.2 _ present (by rw [authority])
        dsimp only at hshown
        rw [pending] at hshown
        cases hshown
  | observeOutputNotDelivered e =>
    apply inert_of rfl
    intro d s' step
    cases step with
    | noEffect hrefused => exact ⟨hrefused, rfl⟩
    | operation present _ change =>
      cases change with
      | withholdOutput authority _ _ pending =>
        have hshown := h.2 _ present (by rw [authority])
        dsimp only at hshown
        rw [pending] at hshown
        cases hshown
  | observeSettlement e =>
    apply inert_of rfl
    intro d s' step
    cases step with
    | noEffect hrefused => exact ⟨hrefused, rfl⟩
    | operation present _ change =>
      cases change with
      | settle authority _ _ unsettled =>
        exact absurd (h.2 _ present (by rw [authority])) unsettled
  | _ => exact absurd h id

end AuthorityGate

/-! ### Runs -/

/-- What a run accepted is consumed. -/
theorem Run.consumed (run : Run) :
    ∀ e ∈ run.history, EvidenceAccepted e → run.final.Consumed e.input := by
  refine run.history_rule
    (Q := fun h s ↦ ∀ e ∈ h, EvidenceAccepted e → s.Consumed e.input)
    (fun e he ↦ absurd he List.not_mem_nil) ?_
  intro h s c a s' hs _ step ih e he haccepted
  rcases List.mem_append.mp he with hold | hnew
  · exact step.consumed hs (ih e hold haccepted)
  · rw [List.mem_singleton] at hnew
    subst hnew
    have hanswer : a = .evidence .accepted := haccepted
    subst hanswer
    exact step.consumes hs

/-- Calls with insertions, each of them evidence that the run without the insertions had
accepted before that place. -/
def Run.InsertsReplays (run : Run) (calls : List (Call × Bool)) : Prop :=
  Mealy.unmarked calls = run.calls ∧
    ∀ before replay after, calls = before ++ (replay, true) :: after →
      ∃ e ∈ gate.trace run.start (Mealy.unmarked before),
        EvidenceAccepted e ∧ e.input = replay

/-- Replay noninterference: a replay of accepted evidence is a duplicate or rejected and
leaves the gate as it was, so inserted replays change no other answer of a run. -/
theorem Run.replay_noninterference (run : Run) :
    (∀ e ∈ run.history, EvidenceAccepted e →
      gate.next run.final e.input = run.final ∧
        (gate.answer run.final e.input = .evidence .duplicate ∨
          gate.answer run.final e.input = .evidence .rejected)) ∧
      ∀ calls, run.InsertsReplays calls →
        gate.unmarkedAnswers run.start calls = gate.answers run.start run.calls ∧
          gate.run run.start (calls.map Prod.fst) = run.final := by
  refine ⟨fun e he haccepted ↦ AuthorityGate.inert_of_consumed (run.consumed e he haccepted), ?_⟩
  rintro calls ⟨hcalls, hreplays⟩
  rw [Run.final, ← hcalls]
  apply gate.erase_marked
  intro before replay after heq
  obtain ⟨e, he, haccepted, rfl⟩ := hreplays before replay after heq
  let earlier : Run := ⟨run.config, run.accepted, Mealy.unmarked before⟩
  exact (AuthorityGate.inert_of_consumed (earlier.consumed e he haccepted)).1

end RobotHarness
