import RobotHarness.Core.Admission
import RobotHarness.Sample.Result

/-!
# The plans of the sample adapter

The events of an operation come in one of five orders, with numbers of their own. A plan is a path
through the stages of an operation, from the one that its receipt is at to the one where the
adapter has nothing more to report. Each event of a plan is accepted when it is processed, and
takes the receipt to the next stage.
-/

namespace RobotHarness.Sample

open SampleProgram (nativeEvent resultReference)

/-- The stage of an operation, in the order of its events. -/
inductive Stage where
  | prepared | unsubmitted | submitted | rejected | running | started | stopped | succeeded
  /-- The effects are resolved, and the settlement will have this number. -/
  | closing (sequence : UInt64)
  | released
  deriving DecidableEq, Repr

namespace Stage

/-- An event that the adapter numbers, and the stage it leads to. -/
inductive Next : Stage → CallbackKind → UInt64 → Stage → Prop where
  | notSubmitted : Next prepared .notSubmitted 1 unsubmitted
  | notExecuted : Next unsubmitted .noOutputProduced 2 (closing 3)
  | accepted : Next submitted .accepted 1 running
  | rejected : Next submitted .rejected 1 rejected
  | refused : Next rejected .noOutputProduced 1 (closing 2)
  | started : Next running .started 2 started
  | cancelled : Next running .terminalCancelled 2 stopped
  | failed : Next started .terminalFailed 3 stopped
  | fruitless : Next stopped .noOutputProduced 1 (closing 2)
  | succeeded : Next started .terminalSucceeded 3 succeeded
  | result : Next succeeded .result 4 (closing 5)
  | settled {sequence : UInt64} (positive : sequence ≠ 0) (counted : sequence < lastSequence) :
      Next (closing sequence) .settled sequence released

/-- A path through the stages, by the kinds and numbers of its events. -/
inductive Drains : Stage → List (CallbackKind × UInt64) → Stage → Prop where
  | nil {s : Stage} : Drains s [] s
  | cons {s t u : Stage} {kind : CallbackKind} {sequence : UInt64}
      {rest : List (CallbackKind × UInt64)} (next : Next s kind sequence t)
      (drains : Drains t rest u) : Drains s ((kind, sequence) :: rest) u

/-- Paths are joined. -/
theorem Drains.append {s t u : Stage} {first rest : List (CallbackKind × UInt64)}
    (h : Drains s first t) (h' : Drains t rest u) : Drains s (first ++ rest) u := by
  induction h with
  | nil => exact h'
  | cons next _ ih => exact .cons next (ih h')

/-- No path leads to a prepared operation. -/
theorem Drains.eq_prepared {s t : Stage} {path : List (CallbackKind × UInt64)}
    (h : Drains s path t) (hend : t = prepared) : s = prepared ∧ path = [] := by
  induction h with
  | nil => exact ⟨hend, rfl⟩
  | cons next _ ih =>
    obtain ⟨rfl, -⟩ := ih hend
    cases next

/-- Nothing follows a release. -/
theorem Drains.of_released {t : Stage} {path : List (CallbackKind × UInt64)}
    (h : Drains released path t) : t = released ∧ path = [] := by
  cases h with
  | nil => exact ⟨rfl, rfl⟩
  | cons next => cases next

/-- What the receipt of an operation shows at a stage. -/
def At : Stage → OperationReceipt → Prop
  | prepared, r => r.dispatch = .pending
  | unsubmitted, r => r.dispatch = .notSubmitted ∧ r.output = .pending
  | submitted, r => r.dispatch = .submitted ∧ r.nativeAcceptance = .pending
  | rejected, r => r.nativeAcceptance = .rejected ∧ r.output = .pending
  | running, r =>
    r.nativeAcceptance = .accepted ∧ r.nativeStarted = false ∧ r.nativeOutcome = .pending
  | started, r =>
    r.nativeAcceptance = .accepted ∧ r.nativeStarted = true ∧ r.nativeOutcome = .pending
  | stopped, r =>
    r.nativeAcceptance = .accepted ∧ (r.nativeOutcome = .failed ∨ r.nativeOutcome = .cancelled) ∧
      r.output = .pending
  | succeeded, r =>
    r.nativeAcceptance = .accepted ∧ r.nativeOutcome = .succeeded ∧ r.settlement ≠ .settled
  | closing _, r => r.hasResolvedEffects ∧ r.settlement ≠ .settled
  | released, r => r.isReleasable

/-- A receipt that can be released is at no stage before. -/
theorem At.of_releasable {s : Stage} {r : OperationReceipt} (h : s.At r) (hr : r.isReleasable) :
    s = released := by
  obtain ⟨⟨hsettled, hresolved⟩, -⟩ := hr
  unfold OperationReceipt.hasResolvedEffects at hresolved
  cases s with
  | prepared =>
    have hpending : r.dispatch = .pending := h
    simp [hpending] at hresolved
  | unsubmitted =>
    obtain ⟨hnot, hpending⟩ := h
    simp [hnot, hpending] at hresolved
  | submitted =>
    obtain ⟨hsubmitted, hpending⟩ := h
    simp [hsubmitted, hpending] at hresolved
  | rejected =>
    obtain ⟨hrejected, hpending⟩ := h
    simp [hrejected, hpending] at hresolved
  | running | started =>
    obtain ⟨haccepted, -, hpending⟩ := h
    by_cases hnot : r.dispatch = .notSubmitted
    · simp [hnot, hpending] at hresolved
    · simp [hnot, haccepted, hpending] at hresolved
  | stopped =>
    obtain ⟨haccepted, -, hpending⟩ := h
    by_cases hnot : r.dispatch = .notSubmitted
    · simp [hnot, hpending] at hresolved
    · simp [hnot, haccepted, hpending] at hresolved
  | succeeded => exact absurd hsettled h.2.2
  | closing => exact absurd hsettled h.2
  | released => rfl

/-- The number that the next native event has at least. -/
def nativeSequence : Stage → UInt64
  | prepared | submitted => 1
  | running => 2
  | started => 3
  | _ => lastSequence

/-- The number that the next record of the settlement source has. -/
def settlementSequence : Stage → UInt64
  | unsubmitted => 2
  | closing sequence => sequence
  | released => lastSequence
  | _ => 1

/-- The number of a native event is the next one of its source. -/
theorem Next.numbers {s t : Stage} {kind : CallbackKind} {native : NativeEventKind}
    {sequence : UInt64} (h : Next s kind sequence t) (hkind : nativeEvent kind = some native) :
    s.nativeSequence ≤ sequence ∧ sequence ≠ 0 ∧ sequence < t.nativeSequence ∧
      s.settlementSequence ≤ t.settlementSequence := by
  cases h <;> cases hkind <;> decide

end Stage

/-- The identity that the adapter gives to its work. -/
def nativeIdentity (authority : OperationAuthority) : String :=
  "native-sample-" ++ toString authority.operationId

/-- A record that is no later than the time, and below the number when its source settles. -/
def Behind (floor : MonotonicTime) (sequence : UInt64) (record : EvidenceRecord) : Prop :=
  record.observedAt ≤ floor ∧
    (record.source = settlementEvidenceSource → record.sequence < sequence)

/-- The receipt is at the stage, and what was recorded of it comes before the events to come. -/
structure Tracks (s : AuthorityGate) (stage : Stage) (floor : MonotonicTime)
    (r : OperationReceipt) : Prop where
  at_stage : stage.At r
  admitted : r.authority.admittedAt ≤ floor
  dispatched : ∀ time ∈ r.dispatchedAt, time ≤ floor
  effects : ∀ slot ∈ r.effectRecords, ∀ record ∈ slot,
    Behind floor stage.settlementSequence record
  sink : r.output = .pending → ∀ slot ∈ r.effectRecords, ∀ record ∈ slot,
    record.source ≠ resultSinkObserver
  stop : ∀ record ∈ r.stopAcknowledgementEvidence, record.source = "native-stop"
  native : ∀ record ∈ s.lastNativeRecord,
    record.observedAt ≤ floor ∧ record.sequence < stage.nativeSequence
  identity : r.nativeAcceptance = .accepted → r.nativeIdentity = nativeIdentity r.authority

/-- The sources that the gate of the host expects. -/
theorem Sound.sources {clock : ℕ → MonotonicTime} {h : SampleHost} (hs : Sound clock h) :
    h.gate.config.nativeEvidenceSource = nativeEvidenceSource ∧
      h.gate.config.settlementEvidenceSource = settlementEvidenceSource ∧
      h.gate.config.resultSinkObserver = resultSinkObserver ∧
      h.gate.config.settlementScope = settlementScope ∧
      h.gate.config.stopEvidenceSource = "native-stop" := by
  rw [hs.config]
  exact ⟨rfl, rfl, rfl, rfl, rfl⟩

/-- Only records of the settlement source can be in the way of a settlement or of an output that
was not produced. -/
theorem Tracks.follows {s : AuthorityGate} {stage : Stage} {floor : MonotonicTime}
    {r : OperationReceipt} (ht : Tracks s stage floor r) {record : EvidenceRecord}
    (hsource : record.source = settlementEvidenceSource)
    (hsequence : stage.settlementSequence ≤ record.sequence) :
    OperationReceipt.followsSameSourceRecords record r := by
  rintro slot hslot previous hprevious ⟨hsame, hle⟩
  rcases List.mem_append.mp hslot with hslot | hslot
  · have hless := (ht.effects slot hslot previous hprevious).2 (hsame.trans hsource)
    exact absurd (hless.trans_le hsequence) (not_lt.mpr hle)
  · cases List.mem_singleton.mp hslot
    have hstop := (ht.stop previous hprevious).symm.trans (hsame.trans hsource)
    exact absurd hstop (by decide)

/-- A later floor. -/
theorem Tracks.raise {s : AuthorityGate} {stage : Stage} {floor later : MonotonicTime}
    {r : OperationReceipt} (ht : Tracks s stage floor r) (hle : floor ≤ later) :
    Tracks s stage later r :=
  { ht with
    admitted := ht.admitted.trans hle
    dispatched := fun time htime ↦ (ht.dispatched time htime).trans hle
    effects := fun slot hslot record hrecord ↦
      ⟨(ht.effects slot hslot record hrecord).1.trans hle,
        (ht.effects slot hslot record hrecord).2⟩
    native := fun record hrecord ↦
      ⟨(ht.native record hrecord).1.trans hle, (ht.native record hrecord).2⟩ }

/-- A receipt with one more effect, at the next stage. -/
theorem Tracks.extend {s s' : AuthorityGate} {stage next : Stage} {floor time : MonotonicTime}
    {r r' : OperationReceipt} (ht : Tracks s stage floor r) (htime : floor ≤ time)
    (record : EvidenceRecord) (hnew : Behind time next.settlementSequence record)
    (hslots : ∀ slot ∈ r'.effectRecords, slot ∈ r.effectRecords ∨ slot = some record)
    (hsink : r'.output = .pending → r.output = .pending ∧ record.source ≠ resultSinkObserver)
    (hsequence : stage.settlementSequence ≤ next.settlementSequence)
    (hkept : r'.authority = r.authority ∧ r'.dispatchedAt = r.dispatchedAt ∧
      r'.stopAcknowledgementEvidence = r.stopAcknowledgementEvidence)
    (hat : next.At r')
    (hnative : ∀ record ∈ s'.lastNativeRecord,
      record.observedAt ≤ time ∧ record.sequence < next.nativeSequence)
    (hidentity : r'.nativeAcceptance = .accepted →
      r'.nativeIdentity = nativeIdentity r'.authority) : Tracks s' next time r' where
  at_stage := hat
  admitted := hkept.1 ▸ ht.admitted.trans htime
  dispatched := fun t h ↦ (ht.dispatched t (hkept.2.1 ▸ h)).trans htime
  effects := by
    intro slot hslot record' hrecord'
    rcases hslots slot hslot with hold | rfl
    · obtain ⟨hle, hless⟩ := ht.effects slot hold record' hrecord'
      exact ⟨hle.trans htime, fun hsource ↦ (hless hsource).trans_le hsequence⟩
    · cases hrecord'
      exact hnew
  sink := by
    intro hpending slot hslot record' hrecord'
    obtain ⟨hbefore, hother⟩ := hsink hpending
    rcases hslots slot hslot with hold | rfl
    · exact ht.sink hbefore slot hold record' hrecord'
    · cases hrecord'
      exact hother
  stop := fun record hrecord ↦ ht.stop record (hkept.2.2 ▸ hrecord)
  native := hnative
  identity := hidentity

/-- After the call the operation is at the stage. -/
def Advances (s : AuthorityGate) (c : Call) (stage : Stage) (time : MonotonicTime)
    (authority : OperationAuthority) : Prop :=
  ∃ r, (s.call c).2.currentReceipt = some r ∧ r.authority = authority ∧
    Tracks (s.call c).2 stage time r

section Reports

variable {clock : ℕ → MonotonicTime} {h : SampleHost} {stage : Stage}
  {floor time : MonotonicTime} {r : OperationReceipt}

/-- A report about an operation that was never dispatched. -/
theorem Tracks.reports_notSubmitted (ht : Tracks h.gate .prepared floor r) (hs : Sound clock h)
    (present : h.gate.currentReceipt = some r)
    (bound : r.authority.binding = h.gate.config.binding) (htime : floor ≤ time) :
    Advances h.gate (.observeNonSubmission ⟨r.authority,
      ⟨settlementEvidenceSource, time, 1⟩⟩) .unsubmitted time r.authority := by
  obtain ⟨-, hsource, -⟩ := hs.sources
  have hintegrity := hs.coherent.receipts r present
  have hpending : r.dispatch = .pending := ht.at_stage
  obtain ⟨⟨haccepted, hrejected, hstarted, hsuccess, hfailure, -⟩, -, hoff, -⟩ :=
    OperationReceipt.undispatched hintegrity.recorded hintegrity.sequenced hpending
  have hstep := OperationStep.call_eq present bound (.notSubmitted
    (e := ⟨r.authority, ⟨settlementEvidenceSource, time, 1⟩⟩) rfl
    ⟨by change settlementEvidenceSource ≠ ""; decide, hsource.symm,
      by change (1 : UInt64) ≠ 0; decide, ht.admitted.trans htime⟩
    (fun hsubmitted ↦ by rw [hpending] at hsubmitted; cases hsubmitted)
    (by rw [hpending]; decide) ⟨haccepted, hrejected, hstarted, hsuccess, hfailure⟩)
  unfold Advances
  rw [hstep]
  refine ⟨_, rfl, rfl, ht.extend htime ⟨settlementEvidenceSource, time, 1⟩
    ⟨le_refl time, fun _ ↦ by change (1 : UInt64) < 2; decide⟩ ?_
    (fun _ ↦ ⟨hoff, by change settlementEvidenceSource ≠ resultSinkObserver; decide⟩)
    (by change (1 : UInt64) ≤ 2; decide) ⟨rfl, rfl, rfl⟩ ⟨rfl, hoff⟩ ?_ ht.identity⟩
  · intro slot hslot
    simp only [OperationReceipt.markNotSubmitted, OperationReceipt.refreshAuthorityDisposition,
      OperationReceipt.effectRecords, List.mem_cons, List.not_mem_nil, or_false] at hslot ⊢
    tauto
  · intro record hrecord
    obtain ⟨hle, hless⟩ := ht.native record hrecord
    exact ⟨hle.trans htime, hless.trans (by change (1 : UInt64) < lastSequence; decide)⟩

/-- The record that an output rests on which was not produced. -/
private theorem prerequisite_of_at (hs : Sound clock h) (present : h.gate.currentReceipt = some r)
    (hat : stage = .unsubmitted ∨ stage = .rejected ∨ stage = .stopped) (ht : stage.At r)
    (record : EvidenceRecord) :
    (∃ prerequisite, some prerequisite ∈ r.effectRecords ∧
      h.gate.nonDeliveryPrerequisite r ⟨r.authority, .noOutputProduced, "", record⟩ =
        some (settlementEvidenceSource, prerequisite)) ∧
    r.output = .pending ∧ r.settlement ≠ .settled ∧
    ∀ r' : OperationReceipt, r'.dispatch = r.dispatch → r'.nativeAcceptance = r.nativeAcceptance →
      r'.nativeOutcome = r.nativeOutcome → r'.output = .notDelivered →
      r'.outputNonDeliveryReason = some .noOutputProduced → r'.hasResolvedEffects := by
  obtain ⟨-, hsource, -⟩ := hs.sources
  have hintegrity := hs.coherent.receipts r present
  have hrecorded := hintegrity.recorded
  have hsequenced := hintegrity.sequenced
  unfold AuthorityGate.nonDeliveryPrerequisite OperationReceipt.hasResolvedEffects
  rw [hsource]
  rcases hat with rfl | rfl | rfl
  · obtain ⟨hnot, hoff⟩ := ht
    have houtcome : r.nativeOutcome = .notExecuted := by
      rw [hrecorded.outcome, OperationReceipt.justifiedOutcome,
        if_pos (.inl (hrecorded.notSubmitted.mp hnot))]
    obtain ⟨prerequisite, hprerequisite⟩ :=
      Option.isSome_iff_exists.mp (hrecorded.notSubmitted.mp hnot)
    refine ⟨⟨prerequisite, ?_, ?_⟩, hoff, ?_, ?_⟩
    · simp [OperationReceipt.effectRecords, hprerequisite]
    · simp [hnot, hprerequisite]
    · exact OperationReceipt.unsettled_of_undisposed hsequenced hoff (by rw [houtcome]; decide)
    · intro r' hdispatch _ hout hoff hreason
      simp [hdispatch, hnot, hout, houtcome, hoff, hreason]
  · obtain ⟨hrejected, hoff⟩ := ht
    have hsubmitted : r.dispatch = .submitted := hsequenced.native (by rw [hrejected]; decide)
    have houtcome : r.nativeOutcome = .notExecuted := by
      rw [hrecorded.outcome, OperationReceipt.justifiedOutcome,
        if_pos (.inr (hrecorded.rejected.mp hrejected))]
    obtain ⟨prerequisite, hprerequisite⟩ :=
      Option.isSome_iff_exists.mp (hrecorded.rejected.mp hrejected)
    refine ⟨⟨prerequisite, ?_, ?_⟩, hoff, ?_, ?_⟩
    · simp [OperationReceipt.effectRecords, hprerequisite]
    · simp [hsubmitted, hrejected, hprerequisite]
    · exact OperationReceipt.unsettled_of_undisposed hsequenced hoff (by rw [houtcome]; decide)
    · intro r' hdispatch hacceptance hout hoff hreason
      simp [hdispatch, hsubmitted, hacceptance, hrejected, hout, houtcome, hoff, hreason]
  · obtain ⟨haccepted, hended, hoff⟩ := ht
    have hsubmitted : r.dispatch = .submitted := hsequenced.native (by rw [haccepted]; decide)
    have hunsettled : r.settlement ≠ .settled :=
      OperationReceipt.unsettled_of_undisposed hsequenced hoff
        (by rcases hended with hended | hended <;> rw [hended] <;> decide)
    obtain ⟨-, hfailed, hcancelled⟩ := hrecorded.terminal
    rcases hended with hended | hended
    · obtain ⟨prerequisite, hprerequisite⟩ := Option.isSome_iff_exists.mp (hfailed hended)
      refine ⟨⟨prerequisite, ?_, ?_⟩, hoff, hunsettled, ?_⟩
      · simp [OperationReceipt.effectRecords, hprerequisite]
      · simp [hsubmitted, haccepted, hended, hprerequisite]
      · intro r' hdispatch hacceptance hout hoff hreason
        simp [hdispatch, hsubmitted, hacceptance, haccepted, hout, hended, hoff, hreason]
    · obtain ⟨prerequisite, hprerequisite⟩ := Option.isSome_iff_exists.mp (hcancelled hended)
      refine ⟨⟨prerequisite, ?_, ?_⟩, hoff, hunsettled, ?_⟩
      · simp [OperationReceipt.effectRecords, hprerequisite]
      · simp [hsubmitted, haccepted, hended, hprerequisite]
      · intro r' hdispatch hacceptance hout hoff hreason
        simp [hdispatch, hsubmitted, hacceptance, haccepted, hout, hended, hoff, hreason]

/-- A report that no output was produced. -/
theorem Tracks.reports_noOutput (ht : Tracks h.gate stage floor r) (hs : Sound clock h)
    (present : h.gate.currentReceipt = some r)
    (bound : r.authority.binding = h.gate.config.binding) (htime : floor ≤ time)
    (hat : stage = .unsubmitted ∨ stage = .rejected ∨ stage = .stopped) {sequence : UInt64}
    (hsequence : sequence = stage.settlementSequence) :
    Advances h.gate (.observeOutputNotDelivered ⟨r.authority, .noOutputProduced, "",
      ⟨settlementEvidenceSource, time, sequence⟩⟩) (.closing (sequence + 1)) time r.authority := by
  obtain ⟨⟨prerequisite, hslot, hrests⟩, hoff, hunsettled, hresolved⟩ :=
    prerequisite_of_at hs present hat ht.at_stage ⟨settlementEvidenceSource, time, sequence⟩
  have hless : stage.settlementSequence < sequence + 1 ∧ sequence ≠ 0 := by
    rcases hat with rfl | rfl | rfl <;> subst hsequence <;> decide
  have hstep := OperationStep.call_eq present bound (.withholdOutput
    (e := ⟨r.authority, .noOutputProduced, "", ⟨settlementEvidenceSource, time, sequence⟩⟩) rfl
    hrests ⟨by change settlementEvidenceSource ≠ ""; decide, rfl, hless.2,
      (ht.effects _ hslot prerequisite rfl).1.trans htime⟩ hoff (ht.follows rfl hsequence.ge))
  unfold Advances
  rw [hstep]
  refine ⟨_, rfl, rfl, ht.extend htime ⟨settlementEvidenceSource, time, sequence⟩
    ⟨le_refl time, fun _ ↦ hsequence ▸ hless.1⟩ ?_ nofun hless.1.le ⟨rfl, rfl, rfl⟩
    ⟨hresolved _ rfl rfl rfl rfl rfl, hunsettled⟩ ?_ ht.identity⟩
  · intro slot hslot
    simp only [OperationReceipt.withholdOutput, OperationReceipt.refreshAuthorityDisposition,
      OperationReceipt.effectRecords, List.mem_cons, List.not_mem_nil, or_false] at hslot ⊢
    tauto
  · intro record hrecord
    obtain ⟨hle, hbelow⟩ := ht.native record hrecord
    refine ⟨hle.trans htime, ?_⟩
    rcases hat with rfl | rfl | rfl <;> exact hbelow

/-- An undecided outcome has no terminal event behind it. -/
private theorem flags_of_pending (hrecorded : r.Recorded) (hpending : r.nativeOutcome = .pending) :
    r.observedNativeSuccess = false ∧ r.observedNativeFailure = false ∧
      r.observedNativeCancellation = false := by
  have houtcome := hrecorded.outcome.symm.trans hpending
  unfold OperationReceipt.justifiedOutcome at houtcome
  have hsuccess := hrecorded.success
  have hfailure := hrecorded.failure
  have hcancellation := hrecorded.cancellation
  split at houtcome
  · cases houtcome
  · split at houtcome
    all_goals try cases houtcome
    next hs hf hc =>
      rw [hs] at hsuccess
      rw [hf] at hfailure
      rw [hc] at hcancellation
      exact ⟨by simpa using hsuccess, by simpa using hfailure, by simpa using hcancellation⟩

/-- An undecided outcome has no output. -/
private theorem undisposed_of_pending (hrecorded : r.Recorded) (hsequenced : r.Sequenced)
    (hpending : r.nativeOutcome = .pending) : r.output = .pending := by
  cases hoff : r.output with
  | pending => rfl
  | accepted => simpa [hpending] using hsequenced.delivered hoff
  | notDelivered =>
    obtain ⟨reason, hreason⟩ := Option.isSome_iff_exists.mp (hrecorded.reason.mp hoff)
    cases reason with
    | noOutputProduced => simpa [hpending] using hsequenced.unproduced hreason
    | sinkRejected => simpa [hpending] using hsequenced.refused (.inl hreason)
    | authorityRevoked => simpa [hpending] using hsequenced.refused (.inr hreason)

/-- A native event that the plan expects changes the receipt, and leads to the next stage. -/
private theorem native_switch (hs : Sound clock h) (present : h.gate.currentReceipt = some r)
    (ht : Tracks h.gate stage floor r) {kind : CallbackKind} {native : NativeEventKind}
    {sequence : UInt64} {next : Stage} (hnext : Stage.Next stage kind sequence next)
    (hkind : nativeEvent kind = some native) (record : EvidenceRecord) :
    ∃ applied, r.dispatch = .submitted ∧
      ¬ AuthorityGate.nativeContradicts r
        ⟨r.authority, nativeIdentity r.authority, native, record⟩ ∧
      r.applyNativeEvent ⟨r.authority, nativeIdentity r.authority, native, record⟩ =
        some (.accepted, applied) ∧
      next.At applied.deriveNativeOutcome.refreshAuthorityDisposition ∧
      (∀ slot ∈ applied.effectRecords, slot ∈ r.effectRecords ∨ slot = some record) ∧
      (applied.authority = r.authority ∧ applied.dispatchedAt = r.dispatchedAt ∧
        applied.stopAcknowledgementEvidence = r.stopAcknowledgementEvidence) ∧
      applied.nativeIdentity = nativeIdentity r.authority := by
  have hintegrity := hs.coherent.receipts r present
  have hrecorded := hintegrity.recorded
  have hsequenced := hintegrity.sequenced
  have hruns : r.nativeAcceptance = .accepted → native ≠ .rejected → r.dispatch = .submitted ∧
      ¬ AuthorityGate.nativeContradicts r
        ⟨r.authority, nativeIdentity r.authority, native, record⟩ := by
    intro haccepted hkind
    have hnamed := ht.identity haccepted
    refine ⟨hsequenced.native (by rw [haccepted]; decide), ?_⟩
    have hidentified : r.nativeIdentity ≠ "" :=
      hsequenced.identified.mp (by rw [haccepted]; decide)
    simp [AuthorityGate.nativeContradicts, hnamed.symm, hidentified, haccepted, hkind]
  cases hnext with
  | notSubmitted | notExecuted | refused | fruitless | result | settled => cases hkind
  | accepted =>
    cases hkind
    obtain ⟨hsubmitted, hpending⟩ := ht.at_stage
    obtain ⟨-, houtcome, -⟩ := OperationReceipt.unobserved hrecorded hsequenced
      (OperationReceipt.noNativeEvidence_of_pending hrecorded hpending)
      (by rw [hsubmitted]; decide)
    obtain ⟨hsuccess, hfailure, hcancellation⟩ := flags_of_pending hrecorded houtcome
    have hunnamed : r.nativeIdentity = "" := by
      by_contra hne
      exact hsequenced.identified.mpr hne hpending
    have hunstarted : r.nativeStarted = false := by
      by_contra hne
      have := hrecorded.observed (.inl (Bool.not_eq_false _ ▸ hne))
      rw [hpending] at this
      cases this
    refine ⟨{ r with
      nativeIdentity := nativeIdentity r.authority
      nativeAcceptance := .accepted
      nativeAcceptanceEvidence := some record }, hsubmitted, ?_, ?_, ?_, ?_, ⟨rfl, rfl, rfl⟩, rfl⟩
    · simp [AuthorityGate.nativeContradicts, hunnamed, hpending]
    · simp [OperationReceipt.applyNativeEvent, hpending]
    · simp [Stage.At, OperationReceipt.deriveNativeOutcome_eq, OperationReceipt.derivedOutcome,
        OperationReceipt.terminalCount, OperationReceipt.refreshAuthorityDisposition, hsuccess,
        hfailure, hcancellation, hunstarted, houtcome]
    · intro slot hslot
      simp only [OperationReceipt.effectRecords, List.mem_cons, List.not_mem_nil, or_false]
        at hslot ⊢
      tauto
  | rejected =>
    cases hkind
    obtain ⟨hsubmitted, hpending⟩ := ht.at_stage
    obtain ⟨-, houtcome, hoff, -⟩ := OperationReceipt.unobserved hrecorded hsequenced
      (OperationReceipt.noNativeEvidence_of_pending hrecorded hpending)
      (by rw [hsubmitted]; decide)
    obtain ⟨hsuccess, hfailure, hcancellation⟩ := flags_of_pending hrecorded houtcome
    have hunnamed : r.nativeIdentity = "" := by
      by_contra hne
      exact hsequenced.identified.mpr hne hpending
    refine ⟨{ r with
      nativeIdentity := nativeIdentity r.authority
      nativeAcceptance := .rejected
      nativeOutcome := .notExecuted
      nativeRejectionEvidence := some record }, hsubmitted, ?_, ?_, ?_, ?_, ⟨rfl, rfl, rfl⟩, rfl⟩
    · simp [AuthorityGate.nativeContradicts, hunnamed, hpending]
    · simp [OperationReceipt.applyNativeEvent, hpending]
    · simp [Stage.At, OperationReceipt.deriveNativeOutcome_eq,
        OperationReceipt.refreshAuthorityDisposition, hoff]
    · intro slot hslot
      simp only [OperationReceipt.effectRecords, List.mem_cons, List.not_mem_nil, or_false]
        at hslot ⊢
      tauto
  | started =>
    cases hkind
    obtain ⟨haccepted, hunstarted, houtcome⟩ := ht.at_stage
    obtain ⟨hsubmitted, hconsistent⟩ := hruns haccepted (by decide)
    obtain ⟨hsuccess, hfailure, hcancellation⟩ := flags_of_pending hrecorded houtcome
    refine ⟨{ r with nativeStarted := true, nativeStartedEvidence := some record }, hsubmitted,
      hconsistent, ?_, ?_, ?_, ⟨rfl, rfl, rfl⟩, ht.identity haccepted⟩
    · simp [OperationReceipt.applyNativeEvent, haccepted, hunstarted]
    · simp [Stage.At, OperationReceipt.deriveNativeOutcome_eq, OperationReceipt.derivedOutcome,
        OperationReceipt.terminalCount, OperationReceipt.refreshAuthorityDisposition, hsuccess,
        hfailure, hcancellation, haccepted, houtcome]
    · intro slot hslot
      simp only [OperationReceipt.effectRecords, List.mem_cons, List.not_mem_nil, or_false]
        at hslot ⊢
      tauto
  | cancelled =>
    cases hkind
    obtain ⟨haccepted, -, houtcome⟩ := ht.at_stage
    obtain ⟨hsubmitted, hconsistent⟩ := hruns haccepted (by decide)
    obtain ⟨hsuccess, hfailure, hcancellation⟩ := flags_of_pending hrecorded houtcome
    refine ⟨{ r with
      observedNativeCancellation := true, nativeCancellationEvidence := some record }, hsubmitted,
      hconsistent, ?_, ?_, ?_, ⟨rfl, rfl, rfl⟩, ht.identity haccepted⟩
    · simp [OperationReceipt.applyNativeEvent, haccepted, hcancellation]
    · simp [Stage.At, OperationReceipt.deriveNativeOutcome_eq, OperationReceipt.derivedOutcome,
        OperationReceipt.terminalCount, OperationReceipt.refreshAuthorityDisposition, hsuccess,
        hfailure, haccepted, (undisposed_of_pending hrecorded hsequenced houtcome)]
    · intro slot hslot
      simp only [OperationReceipt.effectRecords, List.mem_cons, List.not_mem_nil, or_false]
        at hslot ⊢
      tauto
  | failed =>
    cases hkind
    obtain ⟨haccepted, -, houtcome⟩ := ht.at_stage
    obtain ⟨hsubmitted, hconsistent⟩ := hruns haccepted (by decide)
    obtain ⟨hsuccess, hfailure, hcancellation⟩ := flags_of_pending hrecorded houtcome
    refine ⟨{ r with
      observedNativeFailure := true, nativeFailureEvidence := some record }, hsubmitted,
      hconsistent, ?_, ?_, ?_, ⟨rfl, rfl, rfl⟩, ht.identity haccepted⟩
    · simp [OperationReceipt.applyNativeEvent, haccepted, hfailure]
    · simp [Stage.At, OperationReceipt.deriveNativeOutcome_eq, OperationReceipt.derivedOutcome,
        OperationReceipt.terminalCount, OperationReceipt.refreshAuthorityDisposition, hsuccess,
        hcancellation, haccepted, (undisposed_of_pending hrecorded hsequenced houtcome)]
    · intro slot hslot
      simp only [OperationReceipt.effectRecords, List.mem_cons, List.not_mem_nil, or_false]
        at hslot ⊢
      tauto
  | succeeded =>
    cases hkind
    obtain ⟨haccepted, -, houtcome⟩ := ht.at_stage
    obtain ⟨hsubmitted, hconsistent⟩ := hruns haccepted (by decide)
    obtain ⟨hsuccess, hfailure, hcancellation⟩ := flags_of_pending hrecorded houtcome
    have hunsettled : r.settlement ≠ .settled :=
      OperationReceipt.unsettled_of_undisposed hsequenced
        (undisposed_of_pending hrecorded hsequenced houtcome) (by rw [houtcome]; decide)
    refine ⟨{ r with
      observedNativeSuccess := true, nativeSuccessEvidence := some record }, hsubmitted,
      hconsistent, ?_, ?_, ?_, ⟨rfl, rfl, rfl⟩, ht.identity haccepted⟩
    · simp [OperationReceipt.applyNativeEvent, haccepted, hsuccess]
    · simp [Stage.At, OperationReceipt.deriveNativeOutcome_eq, OperationReceipt.derivedOutcome,
        OperationReceipt.terminalCount, OperationReceipt.refreshAuthorityDisposition, hfailure,
        hcancellation, haccepted, hunsettled]
    · intro slot hslot
      simp only [OperationReceipt.effectRecords, List.mem_cons, List.not_mem_nil, or_false]
        at hslot ⊢
      tauto

/-- A native event that the plan expects. -/
theorem Tracks.reports_native (ht : Tracks h.gate stage floor r) (hs : Sound clock h)
    (present : h.gate.currentReceipt = some r)
    (bound : r.authority.binding = h.gate.config.binding) (htime : floor ≤ time)
    {kind : CallbackKind} {native : NativeEventKind} {sequence : UInt64} {next : Stage}
    (hnext : Stage.Next stage kind sequence next) (hkind : nativeEvent kind = some native) :
    Advances h.gate (.observeNative ⟨r.authority, nativeIdentity r.authority, native,
      ⟨nativeEvidenceSource, time, sequence⟩⟩) next time r.authority := by
  obtain ⟨hsource, -⟩ := hs.sources
  obtain ⟨applied, hsubmitted, hconsistent, hswitch, hat, hslots, hkept, hidentity⟩ :=
    native_switch hs present ht hnext hkind ⟨nativeEvidenceSource, time, sequence⟩
  have hnumbers : stage.nativeSequence ≤ sequence ∧ sequence ≠ 0 ∧
      sequence < next.nativeSequence ∧
      stage.settlementSequence ≤ next.settlementSequence := hnext.numbers hkind
  have hdispatched : r.dispatchedAt.getD 0 ≤ time := by
    cases hat : r.dispatchedAt with
    | none => exact UInt64.zero_le
    | some at_ => exact (ht.dispatched at_ hat).trans htime
  have step : NativeStep h.gate ⟨r.authority, nativeIdentity r.authority, native,
      ⟨nativeEvidenceSource, time, sequence⟩⟩ .accepted r applied :=
    { authority := rfl
      named := by simp [nativeIdentity]
      submitted := hsubmitted
      formed := ⟨by change nativeEvidenceSource ≠ ""; decide, hsource.symm, hnumbers.2.1,
        hdispatched⟩
      newer := fun record hrecord ↦
        ⟨(ht.native record hrecord).2.trans_le hnumbers.1,
          (ht.native record hrecord).1.trans htime⟩
      consistent := hconsistent
      switch := hswitch }
  unfold Advances
  rw [NativeStep.call_eq present bound step]
  have hderived := OperationReceipt.deriveNativeOutcome_eq applied
  refine ⟨_, rfl, by rw [hderived]; exact hkept.1, ht.extend htime
    ⟨nativeEvidenceSource, time, sequence⟩ ⟨le_refl time, ?_⟩ ?_ ?_ hnumbers.2.2.2
    (by rw [hderived]; exact hkept) hat ?_ ?_⟩
  · intro hsettles
    exact absurd hsettles (by change nativeEvidenceSource ≠ settlementEvidenceSource; decide)
  · rw [hderived]
    exact hslots
  · intro hpending
    exact ⟨step.frame.output ▸ hpending,
      by change nativeEvidenceSource ≠ resultSinkObserver; decide⟩
  · intro record hrecord
    cases hrecord
    exact ⟨le_refl time, hnumbers.2.2.1⟩
  · intro _
    rw [hderived]
    exact hidentity.trans (by rw [← hkept.1]; rfl)

/-- A report that the effects of an operation are settled. -/
theorem Tracks.settles {sequence : UInt64} (ht : Tracks h.gate (.closing sequence) floor r)
    (hs : Sound clock h) (present : h.gate.currentReceipt = some r)
    (bound : r.authority.binding = h.gate.config.binding) (looked : h.Looked time)
    (hpositive : sequence ≠ 0) (hcounted : sequence < lastSequence) {callback : NativeCallback}
    (hauthority : callback.authority = r.authority) (hsequence : callback.sequence = sequence) :
    Advances h.gate (settlementReport callback time) .released (max floor time) r.authority := by
  obtain ⟨-, hsource, -, hscope, -⟩ := hs.sources
  obtain ⟨hresolved, hunsettled⟩ := ht.at_stage
  have heffects := looked.effects r present
  have hdisposed : r.output ≠ .pending := by
    intro hpending
    simp [OperationReceipt.hasResolvedEffects, hpending] at hresolved
  have hstep := OperationStep.call_eq present bound (.settle
    (e := ⟨callback.authority, settlementScope, true,
      ⟨settlementEvidenceSource, time, callback.sequence⟩⟩) hauthority hscope.symm
    ⟨by change settlementEvidenceSource ≠ ""; decide, hsource.symm, hsequence ▸ hpositive,
      (OperationReceipt.latestEffectTime_le_iff.mp heffects).1⟩ hunsettled rfl hdisposed heffects
    (ht.follows rfl hsequence.ge) hresolved)
  have hreleased : (r.settle ⟨callback.authority, settlementScope, true,
      ⟨settlementEvidenceSource, time, callback.sequence⟩⟩).isReleasable := by
    refine ⟨⟨rfl, hresolved⟩, ?_⟩
    have hknown := OperationReceipt.known_of_hasResolvedEffects hresolved
    exact (if_neg hknown).trans (if_pos ⟨rfl, hresolved⟩)
  unfold Advances settlementReport
  rw [hstep]
  refine ⟨_, rfl, rfl, ht.extend (le_max_left floor time)
    ⟨settlementEvidenceSource, time, callback.sequence⟩
    ⟨le_max_right floor time, fun _ ↦ hsequence ▸ hcounted⟩ ?_
    (fun hpending ↦ absurd hpending hdisposed) hcounted.le ⟨rfl, rfl, rfl⟩ hreleased ?_
    ht.identity⟩
  · intro slot hslot
    simp only [OperationReceipt.settle, OperationReceipt.refreshAuthorityDisposition,
      OperationReceipt.effectRecords, List.mem_cons, List.not_mem_nil, or_false] at hslot ⊢
    tauto
  · intro record hrecord
    obtain ⟨hle, hbelow⟩ := ht.native record hrecord
    exact ⟨hle.trans (le_max_left floor time), hbelow⟩

end Reports

/-! ### Deliveries -/

/-- Output is pending after a success only while the result is on its way. -/
theorem Stage.At.eq_succeeded {s : Stage} {r : OperationReceipt} (hat : s.At r)
    (hsequenced : r.Sequenced) (haccepted : r.nativeAcceptance = .accepted)
    (hsucceeded : r.nativeOutcome = .succeeded) (hpending : r.output = .pending) :
    s = .succeeded := by
  have hsubmitted := hsequenced.native (by rw [haccepted]; decide)
  have hunresolved : ¬ r.hasResolvedEffects := by
    intro hresolved
    simp [OperationReceipt.hasResolvedEffects, hpending] at hresolved
  cases s with
  | succeeded => rfl
  | prepared =>
    have hunsent : r.dispatch = .pending := hat
    cases hunsent.symm.trans hsubmitted
  | unsubmitted => cases hat.1.symm.trans hsubmitted
  | submitted => cases hat.2.symm.trans haccepted
  | rejected => cases hat.1.symm.trans haccepted
  | running | started => cases hat.2.2.symm.trans hsucceeded
  | stopped => rcases hat.2.1 with hended | hended <;> cases hended.symm.trans hsucceeded
  | closing => exact absurd hat.1 hunresolved
  | released => exact absurd hat.1.2 hunresolved

/-- Disposed output of a success resolves the effects. -/
theorem Stage.At.closing_of_disposed {r : OperationReceipt} (hat : Stage.succeeded.At r)
    (hintegrity : r.Integrity) (hdisposed : r.output ≠ .pending) (sequence : UInt64) :
    (Stage.closing sequence).At r := by
  obtain ⟨haccepted, hsucceeded, hunsettled⟩ := hat
  have hsubmitted := hintegrity.sequenced.native (by rw [haccepted]; decide)
  refine ⟨?_, hunsettled⟩
  cases hoff : r.output with
  | pending => exact absurd hoff hdisposed
  | accepted =>
    simp [OperationReceipt.hasResolvedEffects, hsubmitted, haccepted, hsucceeded, hoff]
  | notDelivered =>
    obtain ⟨reason, hreason⟩ :=
      Option.isSome_iff_exists.mp (hintegrity.recorded.reason.mp hoff)
    have hproduced : reason ≠ .noOutputProduced := by
      rintro rfl
      simpa [hsucceeded] using hintegrity.sequenced.unproduced hreason
    cases reason with
    | noOutputProduced => exact absurd rfl hproduced
    | sinkRejected | authorityRevoked =>
      simp [OperationReceipt.hasResolvedEffects, hsubmitted, haccepted, hsucceeded, hoff, hreason]

/-- Only native events and admissions change the last native record. -/
theorem lastNativeRecord_eq {s s' : AuthorityGate} {c : Call} {a : Answer}
    (step : Transition s c a s') (hnative : ∀ e, c ≠ .observeNative e)
    (hadmits : ∀ request, c ≠ .admitRequest request) :
    s'.lastNativeRecord = s.lastNativeRecord := by
  cases step with
  | @startup e index =>
    obtain ⟨idle, ready, sink, initialization, -, heq⟩ := s.recordStartup_eq index e
    rw [heq]
  | admission => exact absurd rfl (hadmits _)
  | native => exact absurd rfl (hnative _)
  | _ => rfl

section Deliveries

variable {clock : ℕ → MonotonicTime} {h : SampleHost} {stage : Stage}
  {floor time : MonotonicTime} {r : OperationReceipt} {authority : OperationAuthority}

/-- The receipt of an operation at a stage, after a report of a delivery. -/
structure Reported (s : AuthorityGate) (stage : Stage) (floor time : MonotonicTime)
    (r r' : OperationReceipt) (later : MonotonicTime) : Prop where
  present : s.currentReceipt = some r'
  authority : r'.authority = r.authority
  reached : later ≤ max floor time
  unmoved : stage ≠ .succeeded → later = floor
  pending : r'.output = .pending → r.output = .pending
  tracks : Tracks s stage later r'

/-- A report of a delivery changes the receipt of a success only, and leaves it there. -/
theorem Tracks.reports_delivery {s s' : AuthorityGate} {c : Call} {a : Answer}
    (ht : Tracks s stage floor r) (hintegrity : r.Integrity)
    (present : s.currentReceipt = some r) (step : Transition s c a s')
    {acceptance : ResultAcceptance} (hcall : deliveryReport authority time acceptance = some c) :
    ∃ r' later, Reported s' stage floor time r r' later := by
  have hlast := lastNativeRecord_eq step
    (by cases acceptance <;> cases hcall <;> intro _ heq <;> cases heq)
    (by cases acceptance <;> cases hcall <;> intro _ heq <;> cases heq)
  have hnative : ∀ record ∈ s'.lastNativeRecord,
      record.observedAt ≤ max floor time ∧ record.sequence < stage.nativeSequence := by
    intro record hrecord
    obtain ⟨hle, hbelow⟩ := ht.native record (hlast ▸ hrecord)
    exact ⟨hle.trans (le_max_left floor time), hbelow⟩
  have hbehind : Behind (max floor time) stage.settlementSequence
      ⟨resultSinkObserver, time, 1⟩ :=
    ⟨le_max_right floor time, fun heq ↦ absurd heq
      (by change resultSinkObserver ≠ settlementEvidenceSource; decide)⟩
  cases step.receiptEffect with
  | kept hkept =>
    exact ⟨r, floor, hkept.trans present, rfl, le_max_left floor time, fun _ ↦ rfl, id,
      { ht with native := fun record hrecord ↦ ht.native record (hlast ▸ hrecord) }⟩
  | admitted call => subst call; cases acceptance <;> cases hcall
  | changed hpresent _ change after =>
    cases present.symm.trans hpresent
    cases change with
    | native => cases acceptance <;> cases hcall
    | withdraw => cases acceptance <;> cases hcall
    | operation change =>
      cases change with
      | claim | cancel | expire | acknowledge | notSubmitted | settle =>
        cases acceptance <;> cases hcall
      | @acceptOutput _ e _ _ _ _ _ succeeded pending _ follows =>
        obtain ⟨success, hsuccess, -⟩ := follows
        have haccepted := hintegrity.recorded.observed
          (.inr (.inl (hintegrity.recorded.success.mpr (by rw [Option.mem_def.mp hsuccess]; rfl))))
        have hrecord : e.record = ⟨resultSinkObserver, time, 1⟩ := by
          cases acceptance <;> cases hcall
          rfl
        obtain rfl := ht.at_stage.eq_succeeded hintegrity.sequenced haccepted succeeded pending
        refine ⟨_, max floor time, after, rfl, le_refl (max floor time), fun hne ↦ absurd rfl hne,
          ?_, ht.extend (le_max_left floor time) _ (hrecord.symm ▸ hbehind) ?_ ?_ le_rfl
            ⟨rfl, rfl, rfl⟩ ht.at_stage hnative ht.identity⟩
        · intro hsame
          cases hsame
        · intro slot hslot
          simp only [OperationReceipt.acceptOutput, OperationReceipt.refreshAuthorityDisposition,
            OperationReceipt.effectRecords, List.mem_cons, List.not_mem_nil, or_false] at hslot ⊢
          tauto
        · intro hsame
          cases hsame
      | @withholdOutput _ e _ _ _ rests _ pending =>
        have hreason : e.reason ≠ .noOutputProduced ∧
            e.record = ⟨resultSinkObserver, time, 1⟩ := by
          cases acceptance <;> cases hcall <;> exact ⟨(fun heq ↦ by cases heq), rfl⟩
        obtain ⟨hunproduced, -⟩ | ⟨-, haccepted, succeeded⟩ :=
          OperationReceipt.nonDelivery_outcome hintegrity.recorded rests
        · exact absurd hunproduced hreason.1
        obtain rfl := ht.at_stage.eq_succeeded hintegrity.sequenced haccepted succeeded pending
        refine ⟨_, max floor time, after, rfl, le_refl (max floor time), fun hne ↦ absurd rfl hne,
          ?_, ht.extend (le_max_left floor time) _ (hreason.2.symm ▸ hbehind) ?_ ?_ le_rfl
            ⟨rfl, rfl, rfl⟩ ht.at_stage hnative ht.identity⟩
        · intro hsame
          cases hsame
        · intro slot hslot
          simp only [OperationReceipt.withholdOutput, OperationReceipt.refreshAuthorityDisposition,
            OperationReceipt.effectRecords, List.mem_cons, List.not_mem_nil, or_false] at hslot ⊢
          tauto
        · intro hsame
          cases hsame

/-- The sink's refusal of a pending result is accepted. -/
theorem Tracks.withholds (ht : Tracks h.gate .succeeded floor r) (hs : Sound clock h)
    (present : h.gate.currentReceipt = some r)
    (bound : r.authority.binding = h.gate.config.binding) (looked : h.Looked time)
    (hpending : r.output = .pending) {reason : OutputNonDeliveryReason}
    (hreason : reason = .sinkRejected ∨ reason = .authorityRevoked ∧ r.isRevoked) :
    (h.gate.call (.observeOutputNotDelivered ⟨r.authority, reason, resultReference r.authority,
      ⟨resultSinkObserver, time, 1⟩⟩)).2 =
        { h.gate with
          currentReceipt := some (r.withholdOutput ⟨r.authority, reason,
            resultReference r.authority, ⟨resultSinkObserver, time, 1⟩⟩) } := by
  obtain ⟨-, -, hsink, -⟩ := hs.sources
  have hrecorded := (hs.coherent.receipts r present).recorded
  obtain ⟨haccepted, hsucceeded, -⟩ := ht.at_stage
  obtain ⟨success, hsuccess⟩ := Option.isSome_iff_exists.mp (hrecorded.terminal.1 hsucceeded)
  have hnamed : resultReference r.authority ≠ "" := by
    unfold resultReference
    simp
  have hrests : h.gate.nonDeliveryPrerequisite r ⟨r.authority, reason,
      resultReference r.authority, ⟨resultSinkObserver, time, 1⟩⟩ =
        some (resultSinkObserver, success) := by
    unfold AuthorityGate.nonDeliveryPrerequisite
      AuthorityGate.nonDeliveryPrerequisite.sinkPrerequisite
    rcases hreason with rfl | ⟨rfl, hrevoked⟩
    · simp [hnamed, haccepted, hsucceeded, hsuccess, hsink]
    · simp [hnamed, haccepted, hsucceeded, hsuccess, hsink, looked.revoked r present hrevoked]
  have hfollows : OperationReceipt.followsSameSourceRecords ⟨resultSinkObserver, time, 1⟩ r := by
    rintro slot hslot previous hprevious ⟨hsame, -⟩
    rcases List.mem_append.mp hslot with hslot | hslot
    · exact ht.sink hpending slot hslot previous hprevious hsame
    · cases List.mem_singleton.mp hslot
      have hstop := (ht.stop previous hprevious).symm.trans hsame
      exact absurd hstop (by change "native-stop" ≠ resultSinkObserver; decide)
  have heffects := (OperationReceipt.latestEffectTime_le_iff.mp (looked.effects r present)).2.2
  exact congrArg Prod.snd (OperationStep.call_eq present bound (.withholdOutput rfl hrests
    ⟨by change resultSinkObserver ≠ ""; decide, rfl, by change (1 : UInt64) ≠ 0; decide,
      heffects _ (by simp [OperationReceipt.effectRecords]) success hsuccess⟩ hpending hfollows))

/-- A result that may not be delivered belongs to a revoked operation. -/
theorem Tracks.revoked_of_denied (ht : Tracks h.gate .succeeded floor r) (hs : Sound clock h)
    (present : h.gate.currentReceipt = some r)
    (bound : r.authority.binding = h.gate.config.binding) (hpending : r.output = .pending)
    (hdenied : ¬ h.gate.canDeliverResult r.authority) : r.isRevoked := by
  obtain ⟨-, hsucceeded, -⟩ := ht.at_stage
  by_contra hlive
  refine hdenied ⟨fun hwithdrawn ↦ ?_, fun hpreparing ↦ ?_, r,
    AuthorityGate.matchingReceipt_eq_some.mpr ⟨present, rfl, bound⟩, hlive, hsucceeded, hpending⟩
  · exact hlive (.inr (.inr (hs.stamped hwithdrawn r present hpending)))
  · exact hs.coherent.disposed hpreparing r present hpending

/-- What the adapter answers to a result of its own operation. -/
theorem acceptResult_fst (adapter : SampleAdapter) {result : SampleResult} (permitted : Bool)
    (hresult : result.operationId = authority.operationId) :
    (adapter.acceptResult authority result permitted).1 =
      if permitted = false then .permissionDenied
      else if adapter.isResultSinkReady = false then .sinkUnavailable
      else .accepted := by
  unfold SampleAdapter.acceptResult
  rw [if_neg (not_not.mpr hresult)]
  split
  · rfl
  · split <;> rfl

/-- A pending result is disposed of by its delivery. -/
theorem Tracks.disposes (ht : Tracks h.gate .succeeded floor r) (hs : Sound clock h)
    (present : h.gate.currentReceipt = some r)
    (bound : r.authority.binding = h.gate.config.binding) (looked : h.Looked time)
    (hpending : r.output = .pending) {result : SampleResult}
    (hresult : result.operationId = r.authority.operationId) :
    ∃ c, deliveryReport r.authority time (h.adapter.acceptResult r.authority result
        (decide (h.gate.canDeliverResult r.authority))).1 = some c ∧
      ∃ r', (h.gate.call c).2.currentReceipt = some r' ∧ r'.output ≠ .pending := by
  rw [acceptResult_fst h.adapter _ hresult]
  by_cases hdeliver : h.gate.canDeliverResult r.authority
  · rw [decide_eq_true hdeliver, if_neg (by decide)]
    by_cases hready : h.adapter.isResultSinkReady = false
    · rw [if_pos hready]
      refine ⟨_, rfl, _, congrArg AuthorityGate.currentReceipt
        (ht.withholds hs present bound looked hpending (.inl rfl)), fun h ↦ by cases h⟩
    · rw [if_neg hready]
      obtain ⟨q, hq, -, -, hcall⟩ := hs.accepts looked hdeliver
      exact ⟨_, rfl, _, congrArg AuthorityGate.currentReceipt hcall, fun h ↦ by cases h⟩
  · rw [decide_eq_false hdeliver, if_pos rfl]
    have hrevoked := ht.revoked_of_denied hs present bound hpending hdeliver
    exact ⟨_, rfl, _, congrArg AuthorityGate.currentReceipt
      (ht.withholds hs present bound looked hpending (.inr ⟨rfl, hrevoked⟩)), fun h ↦ by cases h⟩

/-- What a delivery does to the operation. -/
theorem Tracks.delivers (ht : Tracks h.gate stage floor r) (hs : Sound clock h)
    (present : h.gate.currentReceipt = some r) (looked : h.Looked time) {result : SampleResult}
    (hresult : result.operationId = authority.operationId) :
    ∃ r' later, Reported (h.delivered authority result time).gate stage floor time r r' later ∧
      (authority = r.authority → r.authority.binding = h.gate.config.binding →
        stage = .succeeded → r'.output ≠ .pending) := by
  have hintegrity := hs.coherent.receipts r present
  unfold SampleHost.delivered SampleHost.throughAll
  dsimp only
  cases hcall : deliveryReport authority time (h.adapter.acceptResult authority result
      (decide (h.gate.canDeliverResult authority))).1 with
  | none =>
    rw [acceptResult_fst h.adapter _ hresult] at hcall
    split at hcall
    · cases hcall
    · split at hcall <;> cases hcall
  | some c =>
    obtain ⟨r', later, hreported⟩ := ht.reports_delivery hintegrity present
      (gate_transition h.gate c) hcall
    refine ⟨r', later, hreported, ?_⟩
    rintro rfl bound rfl hpending
    obtain ⟨d, hd, q, hq, hdisposed⟩ :=
      ht.disposes hs present bound looked (hreported.pending hpending) hresult
    cases hcall.symm.trans hd
    cases hreported.present.symm.trans hq
    exact hdisposed hpending

end Deliveries

/-! ### Control -/

/-- A stage before the release is told by the progress of the operation. -/
theorem Stage.At.of_progress {s : Stage} {r r' : OperationReceipt} (hat : s.At r)
    (hunreleased : ¬ r.isReleasable) (hdispatch : r'.dispatch = r.dispatch)
    (hacceptance : r'.nativeAcceptance = r.nativeAcceptance)
    (hstarted : r'.nativeStarted = r.nativeStarted) (houtcome : r'.nativeOutcome = r.nativeOutcome)
    (houtput : r'.output = r.output)
    (hreason : r'.outputNonDeliveryReason = r.outputNonDeliveryReason)
    (hsettlement : r'.settlement = r.settlement) : s.At r' := by
  cases s with
  | released => exact absurd hat hunreleased
  | closing =>
    change r'.hasResolvedEffects ∧ r'.settlement ≠ .settled
    unfold OperationReceipt.hasResolvedEffects
    rw [hdispatch, hacceptance, houtcome, houtput, hreason, hsettlement]
    exact hat
  | prepared | unsubmitted | submitted | rejected | running | started | stopped | succeeded =>
    unfold Stage.At at hat ⊢
    simpa only [hdispatch, hacceptance, hstarted, houtcome, houtput, hsettlement] using hat

/-- Control changes neither the stage of an operation nor what was recorded of its events. -/
theorem Tracks.controls {s s' : AuthorityGate} {c : Call} {a : Answer} {stage : Stage}
    {floor : MonotonicTime} {r : OperationReceipt} (ht : Tracks s stage floor r)
    (step : Transition s c a s') (kind : IsQuiet c) (present : s.currentReceipt = some r)
    (hsource : s.config.stopEvidenceSource = "native-stop") :
    ∃ r', s'.currentReceipt = some r' ∧ r'.authority = r.authority ∧
      Tracks s' stage floor r' := by
  have hlast := lastNativeRecord_eq step (by rintro e rfl; exact kind)
    (by rintro request rfl; exact kind)
  have hkept : Tracks s' stage floor r :=
    { ht with native := fun record hrecord ↦ ht.native record (hlast ▸ hrecord) }
  cases step.receiptEffect with
  | kept hsame => exact ⟨r, hsame.trans present, rfl, hkept⟩
  | admitted call => subst call; cases kind
  | changed hpresent _ change after =>
    cases present.symm.trans hpresent
    cases change with
    | native => cases kind
    | withdraw _ _ _ _ unreleased =>
      refine ⟨_, after, by rw [OperationReceipt.revoke_eq]; rfl, ?_⟩
      rw [OperationReceipt.revoke_eq]
      exact
        { hkept with
          at_stage := ht.at_stage.of_progress unreleased rfl rfl rfl rfl rfl rfl rfl }
    | operation change =>
      cases change with
      | claim | notSubmitted | acceptOutput | withholdOutput | settle => cases kind
      | cancel unreleased | expire unreleased =>
        refine ⟨_, after, by rw [OperationReceipt.revoke_eq]; rfl, ?_⟩
        rw [OperationReceipt.revoke_eq]
        exact
          { hkept with
            at_stage := ht.at_stage.of_progress (fun hreleasable ↦ unreleased hreleasable.2)
              rfl rfl rfl rfl rfl rfl rfl }
      | acknowledge _ _ formed _ _ unreleased =>
        refine ⟨_, after, rfl, ?_⟩
        exact
          { hkept with
            at_stage := ht.at_stage.of_progress (fun hreleasable ↦ unreleased hreleasable.2)
              rfl rfl rfl rfl rfl rfl rfl
            stop := by
              rintro record ⟨⟩
              exact formed.2.1.trans hsource }

/-- A dispatch that is claimed. -/
theorem Tracks.claims {s : AuthorityGate} {floor time : MonotonicTime} {r : OperationReceipt}
    (ht : Tracks s .prepared floor r) (hintegrity : r.Integrity)
    (present : s.currentReceipt = some r) {authority : OperationAuthority}
    (claimed : (s.call (.claimDispatch authority time)).1 = .dispatch true) :
    ∃ r', (s.call (.claimDispatch authority time)).2.currentReceipt = some r' ∧
      r'.authority = r.authority ∧
      Tracks (s.call (.claimDispatch authority time)).2 .submitted (max floor time) r' := by
  have hstep : Transition s (.claimDispatch authority time) (.dispatch true)
      (s.call (.claimDispatch authority time)).2 := by
    rw [← claimed]
    exact gate_transition s (.claimDispatch authority time)
  have hlast := lastNativeRecord_eq hstep nofun nofun
  have hpending : r.dispatch = .pending := ht.at_stage
  have hunknown : r.nativeAcceptance = .pending := by
    by_contra hne
    cases hpending.symm.trans (hintegrity.sequenced.native hne)
  generalize (s.call (.claimDispatch authority time)).2 = s' at hstep hlast ⊢
  cases hstep with
  | noEffect quiet => cases quiet
  | operation hpresent _ step =>
    cases present.symm.trans hpresent
    cases step
    refine ⟨_, rfl, rfl, ?_⟩
    have hraised := ht.raise (le_max_left floor time)
    exact
      { hraised with
        at_stage := ⟨rfl, hunknown⟩
        dispatched := by
          rintro t ⟨⟩
          exact le_max_right floor time }

/-- An admission begins a plan. -/
theorem tracks_admitted {s : AuthorityGate} (request : OperationRequest) :
    Tracks (s.admitted request) .prepared request.requestedAt
      (AuthorityGate.newReceipt (s.nextAuthority request) request) where
  at_stage := rfl
  admitted := le_refl request.requestedAt
  dispatched := nofun
  effects := by
    intro slot hslot record hrecord
    simp only [OperationReceipt.effectRecords, AuthorityGate.newReceipt, List.mem_cons,
      List.not_mem_nil, or_false, or_self] at hslot
    rw [hslot] at hrecord
    cases hrecord
  sink := by
    intro _ slot hslot record hrecord
    simp only [OperationReceipt.effectRecords, AuthorityGate.newReceipt, List.mem_cons,
      List.not_mem_nil, or_false, or_self] at hslot
    rw [hslot] at hrecord
    cases hrecord
  stop := nofun
  native := nofun
  identity := nofun

end RobotHarness.Sample
