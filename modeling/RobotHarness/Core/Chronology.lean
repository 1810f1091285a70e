import RobotHarness.Core.Binding

/-!
# The chronology of a receipt

Each operation of the gate compares its time with a watermark of its own. Together they order
the times of a receipt: native records follow the dispatch and its answer, closing evidence
follows what it rests on, and a revocation follows everything before it.
-/

namespace RobotHarness

namespace OperationReceipt

/-- The retained record of a kind of native event. -/
def nativeRecord (r : OperationReceipt) : NativeEventKind → Option EvidenceRecord
  | .accepted => r.nativeAcceptanceEvidence
  | .rejected => r.nativeRejectionEvidence
  | .started => r.nativeStartedEvidence
  | .terminalSucceeded => r.nativeSuccessEvidence
  | .terminalFailed => r.nativeFailureEvidence
  | .terminalCancelled => r.nativeCancellationEvidence

variable {r : OperationReceipt}

private theorem nativeRecord_eq_none (h : r.NoNativeEvidence) (kind : NativeEventKind) :
    r.nativeRecord kind = none := by
  obtain ⟨haccepted, hrejected, hstarted, hsuccess, hfailure, hcancellation⟩ := h
  cases kind <;> assumption

/-- A native event leaves only its own record behind. -/
theorem NativeChange.nativeRecord {e : NativeEvidence} {d : EvidenceDisposition}
    {applied : OperationReceipt} (change : NativeChange r e d applied) {kind : NativeEventKind}
    {record : EvidenceRecord}
    (h : record ∈ applied.deriveNativeOutcome.refreshAuthorityDisposition.nativeRecord kind) :
    record ∈ r.nativeRecord kind ∨ (record = e.record ∧ kind = e.kind) := by
  rw [deriveNativeOutcome_eq] at h
  cases change with
  | repeated => exact .inl h
  | accepted hkind | rejected hkind | started hkind | succeeded hkind | failed hkind
  | cancelled hkind =>
    cases kind with
    | _ => first
      | exact .inl h
      | exact .inr ⟨(Option.some.inj h).symm, hkind.symm⟩

/-- A native event keeps what was recorded, unless it reports a start. -/
theorem NativeChange.keeps {e : NativeEvidence} {d : EvidenceDisposition}
    {applied : OperationReceipt} (change : NativeChange r e d applied) (hr : r.Recorded)
    {k : NativeEventKind} (hkind : k ≠ .started) {p : EvidenceRecord}
    (h : p ∈ r.nativeRecord k) :
    p ∈ applied.deriveNativeOutcome.refreshAuthorityDisposition.nativeRecord k := by
  have hunrecorded : ∀ {flag : Bool} {slot : Option EvidenceRecord},
      (flag = true ↔ slot.isSome) → flag = false → p ∉ slot := by
    intro flag slot hiff hflag hmem
    rw [Option.mem_def.mp hmem, hflag] at hiff
    exact Bool.noConfusion (hiff.mpr rfl)
  rw [deriveNativeOutcome_eq]
  cases change with
  | repeated => exact h
  | accepted _ pending | rejected _ pending =>
    rw [nativeRecord_eq_none (noNativeEvidence_of_pending hr pending)] at h
    cases h
  | started => cases k with
    | started => exact absurd rfl hkind
    | _ => exact h
  | succeeded _ _ first => cases k with
    | terminalSucceeded => exact absurd h (hunrecorded hr.success first)
    | _ => exact h
  | failed _ _ first => cases k with
    | terminalFailed => exact absurd h (hunrecorded hr.failure first)
    | _ => exact h
  | cancelled _ _ first => cases k with
    | terminalCancelled => exact absurd h (hunrecorded hr.cancellation first)
    | _ => exact h

end OperationReceipt

section Step

variable {s s' : AuthorityGate} {c : Call} {a : Answer} {r r' : OperationReceipt}

/-- A change of the receipt leaves the native records alone, or makes one native event's. -/
theorem ReceiptStep.nativeRecord (step : ReceiptStep s c a r r') :
    (∀ kind, r'.nativeRecord kind = r.nativeRecord kind) ∨
      ∃ e d applied, c = .observeNative e ∧ NativeStep s e d r applied ∧
        r' = applied.deriveNativeOutcome.refreshAuthorityDisposition := by
  cases step with
  | native step => exact .inr ⟨_, _, _, rfl, step, rfl⟩
  | withdraw =>
    refine .inl fun kind ↦ ?_
    rw [OperationReceipt.revoke_eq]
    cases kind <;> rfl
  | operation step =>
    refine .inl fun kind ↦ ?_
    cases step with
    | cancel | expire =>
      rw [OperationReceipt.revoke_eq]
      cases kind <;> rfl
    | claim | acknowledge | notSubmitted | acceptOutput | withholdOutput | settle =>
      cases kind <;> rfl

/-- Only a claim changes the time of the dispatch, and before it no native event is recorded. -/
theorem ReceiptStep.dispatchedAt (step : ReceiptStep s c a r r') (h : r.Integrity) :
    r'.dispatchedAt = r.dispatchedAt ∨ r.NoNativeEvidence := by
  cases step with
  | native step => exact .inl step.frame.dispatchedAt
  | withdraw => rw [OperationReceipt.revoke_eq]; exact .inl rfl
  | operation step =>
    cases step with
    | cancel | expire => rw [OperationReceipt.revoke_eq]; exact .inl rfl
    | claim _ _ _ pending =>
      exact .inr (OperationReceipt.undispatched h.recorded h.sequenced pending).1
    | acknowledge | notSubmitted | acceptOutput | withholdOutput | settle => exact .inl rfl

/-! ### Native records -/

/-- The order of the native records of the receipt: all are of the configured source, follow the
dispatch and precede the last native record, and all but an answer follow the acceptance. -/
structure NativeOrder (s : AuthorityGate) (r : OperationReceipt) : Prop where
  source : ∀ kind, ∀ record ∈ r.nativeRecord kind, record.source = s.config.nativeEvidenceSource
  dispatched : ∀ kind, ∀ record ∈ r.nativeRecord kind,
    ∃ t ∈ r.dispatchedAt, t ≤ record.observedAt
  behind : ∀ kind, ∀ record ∈ r.nativeRecord kind, ∃ last ∈ s.lastNativeRecord,
    record.sequence ≤ last.sequence ∧ record.observedAt ≤ last.observedAt
  answered : ∀ kind, kind ≠ .accepted → kind ≠ .rejected → ∀ record ∈ r.nativeRecord kind,
    ∃ answer ∈ r.nativeAcceptanceEvidence,
      answer.sequence < record.sequence ∧ answer.observedAt ≤ record.observedAt

/-- An event that is no answer passes only once the submission was accepted. -/
theorem NativeStep.accepted {e : NativeEvidence} {d : EvidenceDisposition}
    {applied : OperationReceipt} (step : NativeStep s e d r applied) (hne : e.kind ≠ .accepted)
    (hne' : e.kind ≠ .rejected) : r.nativeAcceptance = .accepted := by
  have hswitch := step.switch
  by_contra hpending
  unfold OperationReceipt.applyNativeEvent at hswitch
  split at hswitch
  · next hkind => exact hne hkind
  · next hkind => exact hne' hkind
  all_goals
    rw [if_pos hpending] at hswitch
    cases hswitch

/-- Without native records there is nothing to order. -/
theorem nativeOrder_of_none (h : r.NoNativeEvidence) : NativeOrder s r := by
  have hnone : ∀ kind, ∀ record, record ∉ r.nativeRecord kind := by
    intro kind record hrecord
    rw [OperationReceipt.nativeRecord_eq_none h] at hrecord
    cases hrecord
  exact
    { source := fun kind record h ↦ absurd h (hnone kind record)
      dispatched := fun kind record h ↦ absurd h (hnone kind record)
      behind := fun kind record h ↦ absurd h (hnone kind record)
      answered := fun kind _ _ record h ↦ absurd h (hnone kind record) }

/-- The order depends on the native records, the dispatch, the source and the last record. -/
theorem NativeOrder.of_eq (h : NativeOrder s r)
    (hrecord : ∀ kind, r'.nativeRecord kind = r.nativeRecord kind)
    (hdispatched : r'.dispatchedAt = r.dispatchedAt ∨ r.NoNativeEvidence)
    (hsource : s'.config.nativeEvidenceSource = s.config.nativeEvidenceSource)
    (hlast : s'.lastNativeRecord = s.lastNativeRecord) : NativeOrder s' r' := by
  have haccepted : r'.nativeAcceptanceEvidence = r.nativeAcceptanceEvidence := hrecord .accepted
  rcases hdispatched with hdispatched | hnone
  · constructor
    · intro kind record hmem
      rw [hsource]
      exact h.source kind record (hrecord kind ▸ hmem)
    · intro kind record hmem
      rw [hdispatched]
      exact h.dispatched kind record (hrecord kind ▸ hmem)
    · intro kind record hmem
      rw [hlast]
      exact h.behind kind record (hrecord kind ▸ hmem)
    · intro kind hne hne' record hmem
      rw [haccepted]
      exact h.answered kind hne hne' record (hrecord kind ▸ hmem)
  · refine nativeOrder_of_none ⟨haccepted.trans hnone.1, (hrecord .rejected).trans hnone.2.1,
      (hrecord .started).trans hnone.2.2.1, (hrecord .terminalSucceeded).trans hnone.2.2.2.1,
      (hrecord .terminalFailed).trans hnone.2.2.2.2.1,
      (hrecord .terminalCancelled).trans hnone.2.2.2.2.2⟩

/-- A native event continues the order. -/
theorem NativeStep.nativeOrder {e : NativeEvidence} {d : EvidenceDisposition}
    {applied : OperationReceipt} (step : NativeStep s e d r applied) (h : NativeOrder s r)
    (hr : r.Integrity) (hsource : s'.config.nativeEvidenceSource = s.config.nativeEvidenceSource)
    (hlast : s'.lastNativeRecord = some e.record) :
    NativeOrder s' applied.deriveNativeOutcome.refreshAuthorityDisposition := by
  have hnewer : ∀ last ∈ s.lastNativeRecord,
      last.sequence < e.record.sequence ∧ last.observedAt ≤ e.record.observedAt := step.newer
  have hfollows : ∀ kind, ∀ record ∈ r.nativeRecord kind,
      record.sequence < e.record.sequence ∧ record.observedAt ≤ e.record.observedAt := by
    intro kind record hmem
    obtain ⟨last, hlast, hsequence, htime⟩ := h.behind kind record hmem
    obtain ⟨hsequence', htime'⟩ := hnewer last hlast
    exact ⟨hsequence.trans_lt hsequence', htime.trans htime'⟩
  constructor
  · intro kind record hmem
    rw [hsource]
    rcases step.change.nativeRecord hmem with hold | ⟨rfl, -⟩
    · exact h.source kind record hold
    · exact step.formed.2.1
  · intro kind record hmem
    rw [step.frame.dispatchedAt]
    rcases step.change.nativeRecord hmem with hold | ⟨rfl, -⟩
    · exact h.dispatched kind record hold
    · obtain ⟨t, ht⟩ := Option.isSome_iff_exists.mp (hr.sequenced.dispatched step.submitted)
      have htime := step.formed.2.2.2
      rw [ht] at htime
      exact ⟨t, ht, htime⟩
  · intro kind record hmem
    refine ⟨e.record, hlast, ?_⟩
    rcases step.change.nativeRecord hmem with hold | ⟨rfl, -⟩
    · exact ⟨(hfollows kind record hold).1.le, (hfollows kind record hold).2⟩
    · exact ⟨le_refl _, le_refl _⟩
  · intro kind hne hne' record hmem
    rcases step.change.nativeRecord hmem with hold | ⟨rfl, hkind⟩
    · obtain ⟨answer, hanswer, hbefore⟩ := h.answered kind hne hne' record hold
      exact ⟨answer, step.change.keeps hr.recorded (k := .accepted) nofun hanswer, hbefore⟩
    · -- An event of another kind passes the switch only once the submission was accepted.
      have haccepted := step.accepted (hkind ▸ hne) (hkind ▸ hne')
      obtain ⟨answer, hanswer⟩ := Option.isSome_iff_exists.mp (hr.recorded.accepted.mp haccepted)
      exact ⟨answer, step.change.keeps hr.recorded (k := .accepted) nofun hanswer,
        hfollows .accepted answer hanswer⟩

end Step

/-! ### Dispatch, closure and revocation -/

namespace OperationReceipt

/-- The times of the revocations. -/
def revocationTimes (r : OperationReceipt) : List (Option MonotonicTime) :=
  [r.cancellationRequestedAt, r.expiryObservedAt, r.bindingWithdrawnAt]

/-- The records of the closure that a settlement follows. -/
def closureRecords (r : OperationReceipt) : List (Option EvidenceRecord) :=
  [r.nonSubmissionEvidence, r.outputEvidence, r.outputNonDeliveryEvidence]

/-- The order of the other times of a receipt. -/
structure Chronological (r : OperationReceipt) : Prop where
  dispatched : ∀ t ∈ r.dispatchedAt,
    r.authority.admittedAt ≤ t ∧ ∀ deadline ∈ r.deadline, t < deadline
  delivered : ∀ record ∈ r.outputEvidence,
    (∃ success ∈ r.nativeSuccessEvidence, success.observedAt ≤ record.observedAt) ∧
      ∀ deadline ∈ r.deadline, record.observedAt < deadline
  settled : ∀ record ∈ r.settlementEvidence,
    (∀ t ∈ r.dispatchedAt, t ≤ record.observedAt) ∧
      ∀ slot ∈ r.closureRecords, ∀ closing ∈ slot, closing.observedAt ≤ record.observedAt
  revoked : ∀ slot ∈ r.revocationTimes, ∀ t ∈ slot,
    r.authority.admittedAt ≤ t ∧ ∀ record ∈ r.outputEvidence, record.observedAt ≤ t
  expired : ∀ t ∈ r.expiryObservedAt, ∃ deadline ∈ r.deadline, deadline ≤ t
  stopped : ∀ t ∈ r.nativeStopRequestedAt,
    some t ∈ r.revocationTimes ∧ ∀ slot ∈ r.revocationTimes, ∀ later ∈ slot, t ≤ later
  acknowledged : ∀ record ∈ r.stopAcknowledgementEvidence,
    ∃ t ∈ r.nativeStopRequestedAt, t ≤ record.observedAt

variable {r : OperationReceipt}

private theorem chronological_new (authority : OperationAuthority) (request : OperationRequest) :
    (AuthorityGate.newReceipt authority request).Chronological := by
  constructor <;> simp [AuthorityGate.newReceipt, revocationTimes]

/-- A receipt that is not revoked has no time of a revocation. -/
theorem revocationTimes_eq_none (h : ¬ r.isRevoked) : ∀ slot ∈ r.revocationTimes, slot = none := by
  unfold isRevoked at h
  simpa [revocationTimes] using h

/-- The cached disposition has no part in the order. -/
theorem Chronological.refresh (h : r.Chronological) : r.refreshAuthorityDisposition.Chronological :=
  { h with }

/-- A receipt without output evidence that is not settled has no settlement record. -/
theorem unsettled (h : r.Integrity) (hpending : r.output = .pending)
    (hknown : r.nativeOutcome ≠ .unknown) : r.settlementEvidence = none := by
  by_contra hne
  have hsettled := h.recorded.settled.mpr (Option.isSome_iff_ne_none.mpr hne)
  exact unsettled_of_undisposed h.sequenced hpending hknown hsettled

private theorem Chronological.claim (h : r.Chronological) (hr : r.Integrity)
    (hpending : r.dispatch = .pending) {t : MonotonicTime}
    (hadmitted : r.authority.admittedAt ≤ t) (hearly : ¬ r.hasReachedDeadline t) :
    (r.claim t).Chronological := by
  obtain ⟨-, houtcome, houtput, -⟩ := undispatched hr.recorded hr.sequenced hpending
  have hsettlement := unsettled hr houtput (by rw [houtcome]; nofun)
  refine { h with dispatched := ?_, settled := ?_ }
  · intro t' ht'
    cases ht'
    exact ⟨hadmitted, fun deadline hd ↦ not_le.mp fun hle ↦ hearly ⟨deadline, hd, hle⟩⟩
  · intro record hrecord
    exact nomatch hsettlement.symm.trans hrecord

private theorem Chronological.markNotSubmitted (h : r.Chronological) (hr : r.Integrity)
    (hnone : r.NoNativeEvidence) (hdispatch : r.dispatch ≠ .notSubmitted)
    (record : EvidenceRecord) : (r.markNotSubmitted record).Chronological := by
  obtain ⟨-, houtcome, houtput, -⟩ := unobserved hr.recorded hr.sequenced hnone hdispatch
  have hsettlement := unsettled hr houtput (by rw [houtcome]; nofun)
  refine Chronological.refresh { h with settled := ?_ }
  intro record hrecord
  exact nomatch hsettlement.symm.trans hrecord

private theorem Chronological.acknowledgeStop (h : r.Chronological)
    {e : StopAcknowledgementEvidence} {t : MonotonicTime} (hrequested : r.nativeStopRequestedAt = some t)
    (htime : t ≤ e.record.observedAt) : (r.acknowledgeStop e).Chronological := by
  refine { h with acknowledged := ?_ }
  intro record hrecord
  cases hrecord
  exact ⟨t, hrequested, htime⟩

private theorem Chronological.acceptOutput (h : r.Chronological) (hr : r.Integrity)
    {e : OutputEvidence} (hpending : r.output = .pending) (hsucceeded : r.nativeOutcome = .succeeded)
    (hunrevoked : ¬ r.isRevoked) (hearly : ¬ r.hasReachedDeadline e.record.observedAt)
    (hfollows : ∃ success ∈ r.nativeSuccessEvidence,
      success.observedAt ≤ e.record.observedAt) : (r.acceptOutput e).Chronological := by
  have hsettlement := unsettled hr hpending (by rw [hsucceeded]; nofun)
  have hlive := revocationTimes_eq_none hunrevoked
  refine Chronological.refresh { h with delivered := ?_, settled := ?_, revoked := ?_ }
  · intro record hrecord
    cases hrecord
    exact ⟨hfollows, fun deadline hd ↦ not_le.mp fun hle ↦ hearly ⟨deadline, hd, hle⟩⟩
  · intro record hrecord
    exact nomatch hsettlement.symm.trans hrecord
  · intro slot hslot t ht
    exact nomatch (hlive slot hslot).symm.trans ht

private theorem Chronological.withholdOutput (h : r.Chronological) (hr : r.Integrity)
    (hpending : r.output = .pending) (hknown : r.nativeOutcome ≠ .unknown)
    (e : OutputNonDeliveryEvidence) : (r.withholdOutput e).Chronological := by
  have hsettlement := unsettled hr hpending hknown
  refine Chronological.refresh { h with settled := ?_ }
  intro record hrecord
  exact nomatch hsettlement.symm.trans hrecord

private theorem Chronological.settle (h : r.Chronological) {e : SettlementEvidence}
    (htime : r.latestEffectTime ≤ e.record.observedAt) : (r.settle e).Chronological := by
  obtain ⟨-, hdispatched, heffects⟩ := latestEffectTime_le_iff.mp htime
  refine Chronological.refresh { h with settled := ?_ }
  intro record hrecord
  cases hrecord
  refine ⟨hdispatched, fun slot hslot closing hclosing ↦ heffects slot ?_ closing hclosing⟩
  simp only [closureRecords, List.mem_cons, List.not_mem_nil, or_false] at hslot
  rcases hslot with rfl | rfl | rfl <;> simp [effectRecords]

/-- A native event changes none of these times. -/
theorem Chronological.native (h : r.Chronological) (hr : r.Integrity) {e : NativeEvidence}
    {d : EvidenceDisposition} {applied : OperationReceipt} (change : NativeChange r e d applied) :
    applied.deriveNativeOutcome.refreshAuthorityDisposition.Chronological := by
  have hframe := native_frame change
  have hsuccess := fun record ↦ change.keeps hr.recorded (k := .terminalSucceeded)
    (p := record) nofun
  constructor
  · rw [hframe.dispatchedAt, hframe.authority, hframe.deadline]
    exact h.dispatched
  · rw [hframe.outputEvidence, hframe.deadline]
    intro record hrecord
    obtain ⟨⟨success, hmem, htime⟩, hearly⟩ := h.delivered record hrecord
    exact ⟨⟨success, hsuccess success hmem, htime⟩, hearly⟩
  · unfold closureRecords
    rw [hframe.settlementEvidence, hframe.dispatchedAt, hframe.nonSubmissionEvidence,
      hframe.outputEvidence, hframe.outputNonDeliveryEvidence]
    exact h.settled
  · unfold revocationTimes
    rw [hframe.cancellationRequestedAt, hframe.expiryObservedAt, hframe.bindingWithdrawnAt,
      hframe.authority, hframe.outputEvidence]
    exact h.revoked
  · rw [hframe.expiryObservedAt, hframe.deadline]
    exact h.expired
  · unfold revocationTimes
    rw [hframe.nativeStopRequestedAt, hframe.cancellationRequestedAt, hframe.expiryObservedAt,
      hframe.bindingWithdrawnAt]
    exact h.stopped
  · rw [hframe.stopAcknowledgementEvidence, hframe.nativeStopRequestedAt]
    exact h.acknowledged

/-- The receipt with its revocation times replaced. -/
def withRevocations (r : OperationReceipt) (cancelled expired withdrawn : Option MonotonicTime) :
    OperationReceipt :=
  { r with
    cancellationRequestedAt := cancelled
    expiryObservedAt := expired
    bindingWithdrawnAt := withdrawn }

/-- A first revocation of a kind comes after everything recorded. -/
theorem Chronological.revoke (h : r.Chronological) (hr : r.Integrity) {now : MonotonicTime}
    {cancelled expired withdrawn : Option MonotonicTime} (htime : r.latestTime ≤ now)
    (hkept : ∀ slot ∈ r.revocationTimes, ∀ t ∈ slot,
      some t ∈ (r.withRevocations cancelled expired withdrawn).revocationTimes)
    (hnew : some now ∈ (r.withRevocations cancelled expired withdrawn).revocationTimes)
    (honly : ∀ slot ∈ (r.withRevocations cancelled expired withdrawn).revocationTimes,
      ∀ t ∈ slot, some t ∈ r.revocationTimes ∨ t = now)
    (hdue : ∀ t ∈ expired, ∃ deadline ∈ r.deadline, deadline ≤ t) :
    ((r.withRevocations cancelled expired withdrawn).revoke now).2.Chronological := by
  obtain ⟨heffect, -, hcancelledBefore, hexpiredBefore, hwithdrawnBefore⟩ :=
    latestTime_le_iff.mp htime
  obtain ⟨hadmitted, -, heffects⟩ := latestEffectTime_le_iff.mp heffect
  have hbefore : ∀ t, some t ∈ r.revocationTimes → t ≤ now := by
    intro t ht
    simp only [revocationTimes, List.mem_cons, List.not_mem_nil, or_false] at ht
    rcases ht with ht | ht | ht
    · exact hcancelledBefore t ht.symm
    · exact hexpiredBefore t ht.symm
    · exact hwithdrawnBefore t ht.symm
  have hrevoked : ∀ slot ∈ (r.withRevocations cancelled expired withdrawn).revocationTimes,
      ∀ t ∈ slot, r.authority.admittedAt ≤ t ∧ ∀ record ∈ r.outputEvidence,
        record.observedAt ≤ t := by
    intro slot hslot t ht
    rcases honly slot hslot t ht with hold | rfl
    · exact h.revoked _ hold t rfl
    · exact ⟨hadmitted, heffects r.outputEvidence (by simp [effectRecords])⟩
  have hstopped : ∀ t ∈ (if (r.withRevocations cancelled expired withdrawn).shouldStop
        then some now else r.nativeStopRequestedAt),
      some t ∈ (r.withRevocations cancelled expired withdrawn).revocationTimes ∧
        ∀ slot ∈ (r.withRevocations cancelled expired withdrawn).revocationTimes,
          ∀ later ∈ slot, t ≤ later := by
    intro t ht
    split at ht
    · next hstop =>
      -- A stop is first requested by the first revocation of all.
      cases ht
      obtain ⟨hsubmitted, hpending, hnone⟩ := hstop
      have hunrevoked : ¬ r.isRevoked := fun hrevoked ↦ by
        have hsome := hr.stopRequested hrevoked hsubmitted hpending
        exact Option.isSome_iff_ne_none.mp hsome hnone
      refine ⟨hnew, fun slot hslot later hlater ↦ ?_⟩
      rcases honly slot hslot later hlater with hold | rfl
      · exact nomatch revocationTimes_eq_none hunrevoked _ hold
      · exact le_refl _
    · obtain ⟨hfirst, hearliest⟩ := h.stopped t ht
      refine ⟨hkept _ hfirst t rfl, fun slot hslot later hlater ↦ ?_⟩
      rcases honly slot hslot later hlater with hold | rfl
      · exact hearliest _ hold later rfl
      · exact hbefore t hfirst
  rw [revoke_eq]
  refine { h with revoked := hrevoked, expired := hdue, stopped := hstopped, acknowledged := ?_ }
  intro record hrecord
  obtain ⟨t, ht, hle⟩ := h.acknowledged record hrecord
  refine ⟨t, ?_, hle⟩
  have hstop : ¬ (r.withRevocations cancelled expired withdrawn).shouldStop := by
    rintro ⟨-, -, hnone⟩
    exact nomatch hnone.symm.trans ht
  simp only [if_neg hstop]
  exact ht

end OperationReceipt

section Step

variable {s s' : AuthorityGate} {c : Call} {a : Answer} {r r' : OperationReceipt}

/-- Every change of the receipt keeps the chronology. -/
theorem ReceiptStep.chronological (step : ReceiptStep s c a r r') (hs : s.Coherent)
    (present : s.currentReceipt = some r) (h : r.Chronological)
    (hfresh : s.bindingPhase = .active → r.bindingWithdrawnAt = none) : r'.Chronological := by
  have hr := hs.receipts r present
  cases step with
  | native step => exact h.native hr step.change
  | @withdraw _ now noCandidate opened unwithdrawn time =>
    have hactive : s.bindingPhase = .active := by
      cases hphase : s.bindingPhase with
      | active => rfl
      | withdrawn => exact absurd hphase unwithdrawn
      | preparing =>
        have hsome := hs.candidate.mpr hphase
        rw [noCandidate] at hsome
        cases hsome
      | closed => exact absurd hphase opened
    have htime : r.latestTime ≤ now := by
      rw [AuthorityGate.latestBindingTime, watermark_le_iff] at time
      exact time.2 (some r.latestTime) (by simp [present]) _ rfl
    have hnone := hfresh hactive
    refine h.revoke hr htime ?_ ?_ ?_ h.expired
    all_goals
      simp only [OperationReceipt.revocationTimes, OperationReceipt.withRevocations, hnone,
        List.mem_cons, List.not_mem_nil, Option.mem_def]
      grind
  | operation step =>
    cases step with
    | claim _ _ admitted pending _ early => exact h.claim hr pending admitted early
    | @cancel _ t _ time first =>
      refine h.revoke hr time ?_ ?_ ?_ h.expired
      all_goals
        simp only [OperationReceipt.revocationTimes, OperationReceipt.withRevocations, first,
          List.mem_cons, List.not_mem_nil, Option.mem_def]
        grind
    | @expire _ t _ time first due =>
      refine h.revoke hr time ?_ ?_ ?_ ?_
      rotate_right
      · intro t' ht'
        cases ht'
        exact due
      all_goals
        simp only [OperationReceipt.revocationTimes, OperationReceipt.withRevocations, first,
          List.mem_cons, List.not_mem_nil, Option.mem_def]
        grind
    | acknowledge _ requested formed => exact h.acknowledgeStop requested formed.2.2.2
    | notSubmitted _ _ _ unmarked unobserved =>
      exact h.markNotSubmitted hr (OperationReceipt.noNativeEvidence_of_unobserved hr.recorded
        unobserved.1 unobserved.2.1) unmarked _
    | acceptOutput _ _ _ _ unrevoked succeeded pending early follows =>
      exact h.acceptOutput hr pending succeeded unrevoked early follows
    | withholdOutput _ rests _ pending =>
      refine h.withholdOutput hr pending (fun hunknown ↦ ?_) _
      have houtcome := OperationReceipt.nonDelivery_outcome hr.recorded rests
      simp [hunknown] at houtcome
    | settle _ _ _ _ _ _ time => exact h.settle time

/-! ### The gate -/

/-- While the binding is active, no operation under it is withdrawn. -/
def AuthorityGate.Unwithdrawn (s : AuthorityGate) : Prop :=
  s.bindingPhase = .active → ∀ r ∈ s.currentReceipt,
    r.authority.binding = s.config.binding → r.bindingWithdrawnAt = none

/-- The chronology of the current receipt. -/
structure AuthorityGate.Chronological (s : AuthorityGate) : Prop where
  receipt : ∀ r ∈ s.currentReceipt, r.Chronological
  native : ∀ r ∈ s.currentReceipt, NativeOrder s r
  unwithdrawn : s.Unwithdrawn

/-- The initial gate keeps the chronology. -/
theorem AuthorityGate.chronological_initial (config : AuthorityGateConfig) :
    (AuthorityGate.initial config).Chronological := by
  constructor
  · intro r hr
    cases hr
  · intro r hr
    cases hr
  · intro _ r hr
    cases hr

/-- A change of the receipt while the binding is active withdraws nothing. -/
theorem ReceiptStep.unwithdrawn (step : ReceiptStep s c a r r')
    (hcall : ∀ now, c ≠ .withdrawBinding s.config.binding now)
    (h : r.bindingWithdrawnAt = none) : r'.bindingWithdrawnAt = none := by
  cases step with
  | native step => exact step.frame.bindingWithdrawnAt.trans h
  | withdraw => exact absurd rfl (hcall _)
  | operation step =>
    cases step with
    | cancel | expire => rw [OperationReceipt.revoke_eq]; exact h
    | claim | acknowledge | notSubmitted | acceptOutput | withholdOutput | settle => exact h

/-- Every transition of a coherent gate keeps the chronology. -/
theorem Transition.chronological (step : Transition s c a s') (hs : s.Coherent)
    (h : s.Chronological) : s'.Chronological := by
  have hsource : s'.config.nativeEvidenceSource = s.config.nativeEvidenceSource := by
    rw [step.config_eq_withBinding]
  have hkeep : s'.currentReceipt = s.currentReceipt → s'.lastNativeRecord = s.lastNativeRecord →
      s'.Unwithdrawn → s'.Chronological := by
    intro hreceipt hlast hunwithdrawn
    refine ⟨hreceipt ▸ h.receipt, fun r hr ↦ ?_, hunwithdrawn⟩
    exact (h.native r (hreceipt ▸ hr)).of_eq (fun _ ↦ rfl) (.inl rfl) hsource hlast
  have hchange : ∀ {q q' : OperationReceipt}, s.currentReceipt = some q →
      q.authority.binding = s.config.binding → ReceiptStep s c a q q' → q'.Chronological := by
    intro q q' present bound change
    exact change.chronological hs present (h.receipt q present) fun hphase ↦
      h.unwithdrawn hphase q present bound
  cases step with
  | noEffect => exact h
  | @startup e index =>
    obtain ⟨_, _, _, _, -, heq⟩ := s.recordStartup_eq index e
    refine hkeep (by rw [heq]) (by rw [heq]) ?_
    rw [heq]
    exact h.unwithdrawn
  | capabilities | candidateCapabilities | capabilitiesConflict | readiness | readinessConflict =>
    exact hkeep rfl rfl h.unwithdrawn
  | discard | withdrawIdle | begin | close => exact hkeep rfl rfl nofun
  | withdrawCurrent noCandidate opened unwithdrawn time present bound unreleased =>
    have change := ReceiptStep.withdraw noCandidate opened unwithdrawn time unreleased
    refine ⟨fun r' hr' ↦ ?_, fun r' hr' ↦ ?_, nofun⟩
    · cases hr'
      exact hchange present bound change
    · cases hr'
      rw [OperationReceipt.revoke_eq]
      exact (h.native _ present).of_eq (fun kind ↦ by cases kind <;> rfl) (.inl rfl) rfl rfl
  | commit candidate =>
    refine hkeep rfl rfl fun _ r hr hbound ↦ ?_
    -- The candidate's generation is above that of every receipt.
    have hnewer := (hs.candidateGeneration _ candidate).1
    rcases hs.receiptBinding r hr with hold | hold
    · exact absurd (hold.symm.trans hbound) (hs.candidate_ne candidate).symm
    · rw [hbound] at hold
      exact absurd (hold.trans hnewer) (lt_irrefl _)
  | admission guard =>
    refine ⟨fun r' hr' ↦ ?_, fun r' hr' ↦ ?_, fun _ r' hr' _ ↦ ?_⟩
    all_goals cases hr'
    · exact OperationReceipt.chronological_new _ _
    · exact nativeOrder_of_none ⟨rfl, rfl, rfl, rfl, rfl, rfl⟩
    · rfl
  | operation present bound step =>
    have change := ReceiptStep.operation step
    refine ⟨fun r' hr' ↦ ?_, fun r' hr' ↦ ?_, fun hphase r' hr' _ ↦ ?_⟩
    all_goals cases hr'
    · exact hchange present bound change
    · refine (h.native _ present).of_eq (fun kind ↦ ?_)
        (change.dispatchedAt (hs.receipts _ present)) rfl rfl
      rcases change.nativeRecord with hkept | ⟨_, _, _, rfl, -⟩
      · exact hkept kind
      · cases step
    · refine change.unwithdrawn (fun now hcall ↦ ?_) (h.unwithdrawn hphase _ present bound)
      cases step <;> cases hcall
  | native present bound step =>
    have change := ReceiptStep.native step
    refine ⟨fun r' hr' ↦ ?_, fun r' hr' ↦ ?_, fun hphase r' hr' _ ↦ ?_⟩
    all_goals cases hr'
    · exact hchange present bound change
    · exact step.nativeOrder (h.native _ present) (hs.receipts _ present) rfl rfl
    · exact change.unwithdrawn nofun (h.unwithdrawn hphase _ present bound)

/-! ### What a non-delivery rests on -/

/-- The receipt retains the record as a non-submission, or as a native event but a start. -/
def OperationReceipt.Retains (r : OperationReceipt) (record : EvidenceRecord) : Prop :=
  record ∈ r.nonSubmissionEvidence ∨ ∃ kind, kind ≠ .started ∧ record ∈ r.nativeRecord kind

/-- The record that a non-delivery rests on, by its reason and by how the operation ended:
without an output the record of what left none, otherwise the one of the success whose output was
not delivered. -/
inductive OperationReceipt.Basis (r : OperationReceipt) :
    OutputNonDeliveryReason → EvidenceRecord → Prop where
  | notSubmitted {record : EvidenceRecord} (dispatch : r.dispatch = .notSubmitted)
      (kept : record ∈ r.nonSubmissionEvidence) : Basis r .noOutputProduced record
  | rejected {record : EvidenceRecord} (acceptance : r.nativeAcceptance = .rejected)
      (kept : record ∈ r.nativeRejectionEvidence) : Basis r .noOutputProduced record
  | failed {record : EvidenceRecord} (outcome : r.nativeOutcome = .failed)
      (kept : record ∈ r.nativeFailureEvidence) : Basis r .noOutputProduced record
  | cancelled {record : EvidenceRecord} (outcome : r.nativeOutcome = .cancelled)
      (kept : record ∈ r.nativeCancellationEvidence) : Basis r .noOutputProduced record
  | succeeded {reason : OutputNonDeliveryReason} {record : EvidenceRecord}
      (produced : reason ≠ .noOutputProduced) (outcome : r.nativeOutcome = .succeeded)
      (kept : record ∈ r.nativeSuccessEvidence) : Basis r reason record

/-- What a non-delivery rests on is retained. -/
theorem OperationReceipt.Basis.retains {reason : OutputNonDeliveryReason}
    {record : EvidenceRecord} (h : r.Basis reason record) : r.Retains record := by
  cases h with
  | notSubmitted _ kept => exact .inl kept
  | rejected _ kept => exact .inr ⟨.rejected, nofun, kept⟩
  | failed _ kept => exact .inr ⟨.terminalFailed, nofun, kept⟩
  | cancelled _ kept => exact .inr ⟨.terminalCancelled, nofun, kept⟩
  | succeeded _ _ kept => exact .inr ⟨.terminalSucceeded, nofun, kept⟩

/-- The prerequisite of a non-delivery is what it rests on. -/
theorem basis_of_rests {e : OutputNonDeliveryEvidence} {source : String}
    {prerequisite : EvidenceRecord}
    (rests : s.nonDeliveryPrerequisite r e = some (source, prerequisite)) :
    r.Basis e.reason prerequisite := by
  have hsink : e.reason ≠ .noOutputProduced →
      AuthorityGate.nonDeliveryPrerequisite.sinkPrerequisite s r e =
        some (source, prerequisite) → r.Basis e.reason prerequisite := by
    intro hproduced hrests
    unfold AuthorityGate.nonDeliveryPrerequisite.sinkPrerequisite at hrests
    split at hrests
    · cases hrests
    next hno =>
    obtain ⟨record, hrecord, heq⟩ := Option.map_eq_some_iff.mp hrests
    cases heq
    exact .succeeded hproduced (not_not.mp fun houtcome ↦ hno (.inr (.inr houtcome))) hrecord
  unfold AuthorityGate.nonDeliveryPrerequisite at rests
  split at rests
  next hreason =>
    rw [hreason]
    split at rests
    · cases rests
    obtain ⟨record, hrecord, heq⟩ := Option.map_eq_some_iff.mp rests
    cases heq
    split at hrecord
    next hdispatch => exact .notSubmitted hdispatch hrecord
    split at hrecord
    next hrejected => exact .rejected hrejected hrecord
    split at hrecord
    next hfailed => exact .failed hfailed.2 hrecord
    split at hrecord
    next hcancelled => exact .cancelled hcancelled hrecord
    next => cases hrecord
  next hreason =>
    split at rests
    · cases rests
    · exact hsink (by rw [hreason]; decide) rests
  next hreason => exact hsink (by rw [hreason]; decide) rests

/-- No change gives up such a record. -/
theorem ReceiptStep.retains (step : ReceiptStep s c a r r') (hr : r.Integrity)
    {record : EvidenceRecord} (h : r.Retains record) : r'.Retains record := by
  rcases h with hnone | ⟨kind, hkind, hrecord⟩
  · left
    cases step with
    | native step => rwa [step.frame.nonSubmissionEvidence]
    | withdraw => rwa [OperationReceipt.revoke_eq]
    | operation step =>
      cases step with
      | cancel | expire => rwa [OperationReceipt.revoke_eq]
      | notSubmitted _ _ _ unmarked =>
        exact absurd (hr.recorded.notSubmitted.mpr (Option.isSome_iff_exists.mpr ⟨_, hnone⟩))
          unmarked
      | claim | acknowledge | acceptOutput | withholdOutput | settle => exact hnone
  · refine .inr ⟨kind, hkind, ?_⟩
    rcases step.nativeRecord with hkept | ⟨e, d, applied, -, native, rfl⟩
    · rwa [hkept]
    · exact native.change.keeps hr.recorded hkind hrecord

/-- The non-delivery was accepted by an event of the history, at or after the record that it
rests on and that the receipt retains. -/
def RestsOn (h : List GateEvent) (r : OperationReceipt) (record : EvidenceRecord) : Prop :=
  ∃ e ∈ h, ∃ evidence, e.input = .observeOutputNotDelivered evidence ∧ EvidenceAccepted e ∧
    evidence.authority = r.authority ∧ evidence.record = record ∧
    ∃ q ∈ e.pre.currentReceipt, ∃ basis, q.Basis evidence.reason basis ∧ r.Retains basis ∧
      basis.observedAt ≤ record.observedAt

/-- What a change leaves of a non-delivery: it was there before, or it is accepted now. -/
theorem ReceiptStep.withheld (step : ReceiptStep s c a r r') {record : EvidenceRecord}
    (h : record ∈ r'.outputNonDeliveryEvidence) :
    record ∈ r.outputNonDeliveryEvidence ∨
      ∃ evidence basis, c = .observeOutputNotDelivered evidence ∧ a = .evidence .accepted ∧
        evidence.authority = r.authority ∧ evidence.record = record ∧
        r.Basis evidence.reason basis ∧ basis.observedAt ≤ record.observedAt := by
  cases step with
  | native step => exact .inl (step.frame.outputNonDeliveryEvidence ▸ h)
  | withdraw => rw [OperationReceipt.revoke_eq] at h; exact .inl h
  | operation step =>
    cases step with
    | cancel | expire => rw [OperationReceipt.revoke_eq] at h; exact .inl h
    | withholdOutput authority rests formed =>
      cases h
      exact .inr ⟨_, _, rfl, rfl, authority, rfl, basis_of_rests rests, formed.2.2.2⟩
    | claim | acknowledge | notSubmitted | acceptOutput | settle => exact .inl h

end Step

namespace Run

variable (run : Run)

/-- Every reachable gate keeps the chronology. -/
theorem chronological : run.final.Chronological :=
  run.history_rule (Q := fun _ s ↦ s.Chronological) (AuthorityGate.chronological_initial run.config)
    fun _ _ _ _ _ hs _ step h ↦ step.chronological hs h

/-- Every non-delivery rests on a record that is still retained. -/
theorem rests_on : ∀ r ∈ run.final.currentReceipt, ∀ record ∈ r.outputNonDeliveryEvidence,
    RestsOn run.history r record := by
  refine run.history_rule (Q := fun h s ↦ ∀ r ∈ s.currentReceipt,
    ∀ record ∈ r.outputNonDeliveryEvidence, RestsOn h r record) (by intro r hr; cases hr) ?_
  intro h s c a s' hs _ step ih r' hr' record hrecord
  cases step.receiptEffect with
  | kept hkept =>
    obtain ⟨e, he, hrests⟩ := ih r' (hkept ▸ hr') record hrecord
    exact ⟨e, List.mem_append_left _ he, hrests⟩
  | admitted _ _ _ state =>
    rw [state] at hr'
    cases hr'
    cases hrecord
  | @changed r q present _ change after =>
    cases after.symm.trans hr'
    have hr := hs.receipts r present
    rcases change.withheld hrecord with hold | ⟨evidence, basis, rfl, rfl, hauthority, hsame,
      hbasis, htime⟩
    · obtain ⟨e, he, evidence, hinput, haccepted, hauthority, hsame, q, hq, basis, hbasis,
        hretained, htime⟩ := ih r present record hold
      exact ⟨e, List.mem_append_left _ he, evidence, hinput, haccepted,
        hauthority.trans change.authority_eq.symm, hsame, q, hq, basis, hbasis,
        change.retains hr hretained, htime⟩
    · exact ⟨_, List.mem_append_right _ (List.mem_singleton_self _), evidence, rfl, rfl,
        hauthority.trans change.authority_eq.symm, hsame, r, present, basis, hbasis,
        change.retains hr hbasis.retains, htime⟩

/-- The chronology of the current receipt of a reachable gate. -/
theorem receipt_chronology (r : OperationReceipt) (hr : r ∈ run.final.currentReceipt) :
    r.Chronological ∧
      (∀ kind, ∀ record ∈ r.nativeRecord kind,
        (∃ t ∈ r.dispatchedAt, t ≤ record.observedAt) ∧
          ∃ answer, (answer ∈ r.nativeAcceptanceEvidence ∨ answer ∈ r.nativeRejectionEvidence) ∧
            answer.observedAt ≤ record.observedAt) ∧
      ∀ record ∈ r.outputNonDeliveryEvidence, RestsOn run.history r record := by
  have hs := run.chronological
  have hnative := hs.native r hr
  refine ⟨hs.receipt r hr, fun kind record hrecord ↦ ⟨hnative.dispatched kind record hrecord, ?_⟩,
    run.rests_on r hr⟩
  by_cases haccepted : kind = .accepted
  · subst haccepted
    exact ⟨record, .inl hrecord, le_refl _⟩
  by_cases hrejected : kind = .rejected
  · subst hrejected
    exact ⟨record, .inr hrecord, le_refl _⟩
  obtain ⟨answer, hanswer, -, htime⟩ := hnative.answered kind haccepted hrejected record hrecord
  exact ⟨answer, .inl hanswer, htime⟩

/-- The chronology of the settled test operation. -/
theorem receipt_chronology_settled :
    ∃ r ∈ (testRun testOperation).final.currentReceipt,
      r.dispatchedAt = some 14 ∧ r.Chronological := by
  have hpresent : (testRun testOperation).final.currentReceipt.isSome := by decide
  obtain ⟨r, hr⟩ := Option.isSome_iff_exists.mp hpresent
  have hdispatched : ∀ q ∈ (testRun testOperation).final.currentReceipt,
      q.dispatchedAt = some 14 := by decide
  exact ⟨r, hr, hdispatched r hr, (receipt_chronology (testRun testOperation) r hr).1⟩

end Run

end RobotHarness
