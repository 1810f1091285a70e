import RobotHarness.Core.Chronology

/-!
# The order of closing evidence within its source

A non-delivery and a settlement are compared with every record of their source that the receipt
holds. Accepted output is not: when the sink reports under the name of the native source, its
record may fall behind the native ones.
-/

namespace RobotHarness

/-- The record of a call that closes its operation. -/
def Call.closingRecord : Call → Option EvidenceRecord
  | .observeOutputAccepted e => some e.record
  | .observeOutputNotDelivered e => some e.record
  | .observeSettlement e => some e.record
  | _ => none

/-- The record is past every record of its source that the receipt holds. -/
def OperationReceipt.Precedes (r : OperationReceipt) (record : EvidenceRecord) : Prop :=
  ∀ slot ∈ r.receiptRecords, ∀ held ∈ slot,
    held.source = record.source → held.sequence < record.sequence

/-- The call reports accepted output under the name of the native source, with a sequence number
that a start or a success of the current operation has reached. -/
def RewindsNative (s : AuthorityGate) (c : Call) : Prop :=
  ∃ e, c = .observeOutputAccepted e ∧
    s.config.resultSinkObserver = s.config.nativeEvidenceSource ∧
    ∃ r ∈ s.currentReceipt,
      Reached e.record.sequence r.nativeStartedEvidence ∨
        Reached e.record.sequence r.nativeSuccessEvidence

namespace OperationReceipt

variable {r : OperationReceipt} {record : EvidenceRecord}

/-- What `follows_same_source_records` tests. -/
theorem precedes_iff : r.Precedes record ↔ followsSameSourceRecords record r := by
  unfold Precedes followsSameSourceRecords
  refine forall₄_congr fun slot _ held _ ↦ ?_
  rw [not_and, not_le]

/-- The receipt of an operation whose output can be accepted holds native records alone, of the
acceptance, a start and a success. -/
theorem Integrity.records_of_deliverable (h : r.Integrity) (hr : r.Chronological)
    (hunrevoked : ¬ r.isRevoked) (hsucceeded : r.nativeOutcome = .succeeded)
    (hpending : r.output = .pending) :
    ∀ slot ∈ r.receiptRecords, ∀ held ∈ slot, held ∈ r.nativeAcceptanceEvidence ∨
      held ∈ r.nativeStartedEvidence ∨ held ∈ r.nativeSuccessEvidence := by
  obtain ⟨houtput, hwithheld, -⟩ := undisposed h.recorded hpending
  have hsettlement := unsettled h hpending (by rw [hsucceeded]; decide)
  have hstop : r.stopAcknowledgementEvidence = none := by
    cases hack : r.stopAcknowledgementEvidence with
    | none => rfl
    | some record =>
      obtain ⟨t, ht, -⟩ := hr.acknowledged record hack
      cases revocationTimes_eq_none hunrevoked _ (hr.stopped t ht).1
  have houtcome := h.recorded.outcome
  rw [hsucceeded, justifiedOutcome] at houtcome
  split at houtcome
  · cases houtcome
  next hexecuted =>
  have hterminal : r.nativeFailureEvidence = none ∧ r.nativeCancellationEvidence = none := by
    split at houtcome <;> simp_all
  have hunsubmitted : r.nonSubmissionEvidence = none := by
    by_contra hne
    exact hexecuted (.inl (Option.isSome_iff_ne_none.mpr hne))
  have hrejection : r.nativeRejectionEvidence = none := by
    by_contra hne
    exact hexecuted (.inr (Option.isSome_iff_ne_none.mpr hne))
  intro slot hslot held hheld
  simp only [receiptRecords, effectRecords, houtput, hwithheld, hsettlement, hstop, hterminal.1,
    hterminal.2, hunsubmitted, hrejection, List.mem_append, List.mem_cons, List.not_mem_nil,
    or_false] at hslot
  have hnone : slot ≠ none := fun heq ↦ by cases heq.symm.trans hheld
  simp only [hnone, or_false, false_or] at hslot
  rcases hslot with rfl | rfl | rfl
  · exact .inl hheld
  · exact .inr (.inl hheld)
  · exact .inr (.inr hheld)

end OperationReceipt

/-- Accepted output is past the records of its source exactly where it rewinds no native one. -/
theorem precedes_output_iff {s : AuthorityGate} {r : OperationReceipt} {e : OutputEvidence}
    (hs : s.Coherent) (hchronology : s.Chronological) (present : s.currentReceipt = some r)
    (hsource : e.record.source = s.config.resultSinkObserver) (hunrevoked : ¬ r.isRevoked)
    (hsucceeded : r.nativeOutcome = .succeeded) (hpending : r.output = .pending)
    (hsuccess : r.nativeSuccessEvidence.isSome) :
    r.Precedes e.record ↔ ¬ RewindsNative s (.observeOutputAccepted e) := by
  have hnative := hchronology.native r present
  have hstarted : ∀ held ∈ r.nativeStartedEvidence, held.source = s.config.nativeEvidenceSource :=
    hnative.source .started
  have hsucceed : ∀ held ∈ r.nativeSuccessEvidence, held.source = s.config.nativeEvidenceSource :=
    hnative.source .terminalSucceeded
  constructor
  · rintro hprecedes ⟨_, hcall, hshared, q, hq, hreached⟩
    cases hcall
    cases present.symm.trans hq
    rcases hreached with ⟨held, hheld, hle⟩ | ⟨held, hheld, hle⟩
    · refine not_lt.mpr hle (hprecedes r.nativeStartedEvidence ?_ held hheld ?_)
      · simp [OperationReceipt.receiptRecords, OperationReceipt.effectRecords]
      · rw [hstarted held hheld, hsource, hshared]
    · refine not_lt.mpr hle (hprecedes r.nativeSuccessEvidence ?_ held hheld ?_)
      · simp [OperationReceipt.receiptRecords, OperationReceipt.effectRecords]
      · rw [hsucceed held hheld, hsource, hshared]
  · intro hkeeps slot hslot held hheld hsame
    have hshared : held.source = s.config.nativeEvidenceSource →
        s.config.resultSinkObserver = s.config.nativeEvidenceSource := fun hheldSource ↦
      hsource.symm.trans (hsame.symm.trans hheldSource)
    have hpast : ∀ q, q ∈ r.nativeStartedEvidence ∨ q ∈ r.nativeSuccessEvidence →
        s.config.resultSinkObserver = s.config.nativeEvidenceSource →
          q.sequence < e.record.sequence := by
      intro q hq heq
      by_contra hle
      refine hkeeps ⟨e, rfl, heq, r, present, ?_⟩
      exact hq.imp (fun hq ↦ ⟨q, hq, not_lt.mp hle⟩) fun hq ↦ ⟨q, hq, not_lt.mp hle⟩
    rcases (hs.receipts r present).records_of_deliverable (hchronology.receipt r present) hunrevoked
      hsucceeded hpending slot hslot held hheld with haccepted | hstart | hdone
    · -- The acceptance is behind the success.
      obtain ⟨success, hmem⟩ := Option.isSome_iff_exists.mp hsuccess
      obtain ⟨answer, hanswer, hbefore, -⟩ := hnative.answered .terminalSucceeded (by decide)
        (by decide) success hmem
      cases hanswer.symm.trans haccepted
      exact hbefore.trans (hpast success (.inr hmem) (hshared (hnative.source .accepted _ hanswer)))
    · exact hpast held (.inl hstart) (hshared (hstarted held hstart))
    · exact hpast held (.inr hdone) (hshared (hsucceed held hdone))

/-- Every gate that a call of a run meets keeps the chronology. -/
theorem Run.chronological_pre (run : Run) {e : GateEvent} (he : e ∈ run.history) :
    e.pre.Chronological := by
  obtain ⟨h, t, heq⟩ := List.append_of_mem he
  exact run.history_rule_pre (Q := fun _ s ↦ s.Chronological)
    (AuthorityGate.chronological_initial run.config)
    (fun _ _ _ _ _ hs _ step h ↦ step.chronological hs h) heq

/-- Accepted closing evidence of a run is past every record of its source in the receipt, except
for accepted output that rewinds a native record. -/
theorem Run.closure_advances_iff (run : Run) {e : GateEvent} (he : e ∈ run.history)
    (haccepted : EvidenceAccepted e) {record : EvidenceRecord}
    (hrecord : e.input.closingRecord = some record) :
    ∃ r ∈ e.pre.currentReceipt, (r.Precedes record ↔ ¬ RewindsNative e.pre e.input) := by
  obtain ⟨hs, step⟩ := run.transition he
  have hchronology := run.chronological_pre he
  obtain ⟨s, c, a, s'⟩ := e
  dsimp only [EvidenceAccepted] at hs step hchronology haccepted hrecord ⊢
  subst haccepted
  cases step with
  | noEffect h => exact absurd rfl h
  | operation present _ step =>
    refine ⟨_, present, ?_⟩
    cases step with
    | acceptOutput _ _ _ formed unrevoked succeeded pending _ follows =>
      cases hrecord
      obtain ⟨success, hsuccess, -⟩ := follows
      exact precedes_output_iff hs hchronology present formed.2.1 unrevoked succeeded pending
        (Option.isSome_iff_exists.mpr ⟨success, hsuccess⟩)
    | withholdOutput _ _ _ _ follows | settle _ _ _ _ _ _ _ follows =>
      cases hrecord
      exact iff_of_true (OperationReceipt.precedes_iff.mpr follows)
        fun ⟨_, hcall, _⟩ ↦ by cases hcall
    | acknowledge | notSubmitted => cases hrecord
  | native | startup | capabilities | candidateCapabilities | readiness => cases hrecord

/-- The accepted output of the test operation, whose sink has a name of its own. -/
theorem closure_advances_output :
    ∃ e ∈ (testRun testOperation).history, ∃ r ∈ e.pre.currentReceipt,
      r.Precedes ⟨"sink", 17, 1⟩ := by
  have hinputs : (testRun testOperation).history[7]? = some
      (gate.event (testRun (testOperation.take 4)).final
        (.observeOutputAccepted ⟨testAuthority, "result-a", ⟨"sink", 17, 1⟩⟩)) := rfl
  have hmem := List.mem_of_getElem? hinputs
  obtain ⟨r, hr, hiff⟩ := Run.closure_advances_iff (testRun testOperation) hmem rfl
    rfl
  refine ⟨_, hmem, r, hr, hiff.mpr ?_⟩
  rintro ⟨_, _, hshared, -⟩
  exact absurd hshared (by decide)

/-- The gate of the tests whose sink reports under the name of its worker. -/
def testSharedRun (calls : List Call) : Run where
  config := { testConfig with resultSinkObserver := "worker" }
  accepted := by decide
  calls :=
    [.observeStartup
        ⟨.bindingIdleAndSettled, testConfig.binding, ⟨"binding-observer", 10, 1⟩, true⟩,
      .observeStartup ⟨.workerReady, testConfig.binding, ⟨"worker", 11, 1⟩, true⟩,
      .observeStartup ⟨.resultSinkReady, testConfig.binding, ⟨"worker", 12, 1⟩, true⟩] ++ calls

/-- Output accepted under a sequence number that the success has passed. -/
def testRewind : List Call := testDispatch ++
  [.observeNative ⟨testAuthority, "native-a", .accepted, ⟨"worker", 15, 1⟩⟩,
    .observeNative ⟨testAuthority, "native-a", .terminalSucceeded, ⟨"worker", 16, 2⟩⟩,
    .observeOutputAccepted ⟨testAuthority, "result-a", ⟨"worker", 17, 1⟩⟩]

/-- Output is accepted though its record is behind the success of the same source. -/
theorem rewound_output :
    ∃ e ∈ (testSharedRun testRewind).history, EvidenceAccepted e ∧
      e.input.closingRecord = some ⟨"worker", 17, 1⟩ ∧
      ∃ r ∈ e.pre.currentReceipt, ¬ r.Precedes ⟨"worker", 17, 1⟩ := by
  have hlast : (testSharedRun testRewind).history[7]? = some
      (gate.event (testSharedRun (testRewind.take 4)).final
        (.observeOutputAccepted ⟨testAuthority, "result-a", ⟨"worker", 17, 1⟩⟩)) := rfl
  refine ⟨_, List.mem_of_getElem? hlast, rfl, rfl, ?_⟩
  refine ⟨_, rfl, fun hprecedes ↦ ?_⟩
  exact absurd (hprecedes (some ⟨"worker", 16, 2⟩) (by decide) _ rfl rfl) (by decide)

end RobotHarness
