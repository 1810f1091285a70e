import Mathlib.Algebra.Group.Nat.Defs
import RobotHarness.Core.History

/-!
# No wedged operation

While its outcome is not unknown, evidence can still release an operation, whatever its
dispatch, revocations and deadline and whatever the phase of the binding. The evidence
closes the open layers of the receipt in turn: the outcome, the output, the settlement.
-/

namespace RobotHarness

namespace OperationReceipt

/-! ### Outcomes and their records -/

/-- Work whose outcome is pending has neither been refused nor reached a terminal. -/
theorem unrefused_of_pending {r : OperationReceipt} (h : r.Recorded)
    (hpending : r.nativeOutcome = .pending) :
    r.nonSubmissionEvidence = none ∧ r.nativeRejectionEvidence = none ∧
      r.nativeSuccessEvidence = none ∧ r.nativeFailureEvidence = none ∧
      r.nativeCancellationEvidence = none := by
  have houtcome := h.outcome
  rw [hpending, justifiedOutcome] at houtcome
  split at houtcome
  · cases houtcome
  · next hrefused =>
    push Not at hrefused
    split at houtcome <;> simp_all

/-- Unexecuted work was refused before or after its submission. -/
theorem refused_of_notExecuted {r : OperationReceipt} (h : r.Recorded) (hs : r.Sequenced)
    (hoff : r.nativeOutcome = .notExecuted) :
    r.dispatch = .notSubmitted ∧ r.nonSubmissionEvidence.isSome ∨
      r.dispatch = .submitted ∧ r.nativeAcceptance = .rejected ∧
        r.nativeRejectionEvidence.isSome := by
  have houtcome := h.outcome
  rw [hoff, justifiedOutcome] at houtcome
  split at houtcome
  · next hrefused =>
    rcases hrefused with hsub | hrej
    · exact .inl ⟨h.notSubmitted.mpr hsub, hsub⟩
    · have hrejected := h.rejected.mpr hrej
      exact .inr ⟨hs.native (by rw [hrejected]; decide), hrejected, hrej⟩
  · split at houtcome <;> cases houtcome

/-- The retained record of the only terminal of a known outcome. -/
def terminalEvidence (r : OperationReceipt) : Option EvidenceRecord :=
  match r.nativeOutcome with
  | .succeeded => r.nativeSuccessEvidence
  | .failed => r.nativeFailureEvidence
  | .cancelled => r.nativeCancellationEvidence
  | _ => none

/-- Work with a known terminal was submitted and accepted, and the terminal is retained. -/
theorem terminal_of_known {r : OperationReceipt} (h : r.Recorded) (hs : r.Sequenced)
    (hknown : r.nativeOutcome = .succeeded ∨ r.nativeOutcome = .failed ∨
      r.nativeOutcome = .cancelled) :
    r.dispatch = .submitted ∧ r.nativeAcceptance = .accepted ∧
      r.terminalEvidence.isSome := by
  have hterminal : r.terminalEvidence.isSome := by
    have houtcome := h.outcome
    unfold terminalEvidence
    rw [justifiedOutcome] at houtcome
    split at houtcome
    · simp_all
    · split at houtcome <;> simp_all
  have hobserved : r.observedNativeSuccess = true ∨ r.observedNativeFailure = true ∨
      r.observedNativeCancellation = true := by
    rw [h.success, h.failure, h.cancellation]
    unfold terminalEvidence at hterminal
    rcases hknown with hk | hk | hk <;> simp_all
  have hrunning := h.observed (.inr hobserved)
  exact ⟨hs.native (by rw [hrunning]; decide), hrunning, hterminal⟩

/-- Once the outcome is known and the output is disposed, the effects are resolved. -/
theorem resolved_of_disposed {r : OperationReceipt} (h : r.Recorded) (hs : r.Sequenced)
    (hended : r.nativeOutcome ≠ .pending) (hknown : r.nativeOutcome ≠ .unknown)
    (hdisposed : r.output ≠ .pending) : r.hasResolvedEffects := by
  have hdelivered := hs.delivered
  have hunproduced := hs.unproduced
  have hrefused := hs.refused
  have hreason : r.output = .notDelivered → ∃ reason, r.outputNonDeliveryReason = some reason :=
    fun hoff ↦ Option.isSome_iff_exists.mp (h.reason.mp hoff)
  have hunexecuted : r.nativeOutcome ≠ .succeeded →
      r.output = .notDelivered ∧ r.outputNonDeliveryReason = some .noOutputProduced := by
    intro hne
    have hoff : r.output = .notDelivered := by
      cases hout : r.output <;> simp_all
    obtain ⟨reason, hr⟩ := hreason hoff
    refine ⟨hoff, ?_⟩
    cases reason <;> simp_all
  have hexecuted : r.nativeOutcome = .succeeded → r.output = .accepted ∨
      (r.output = .notDelivered ∧ (r.outputNonDeliveryReason = some .sinkRejected ∨
        r.outputNonDeliveryReason = some .authorityRevoked)) := by
    intro hsucceeded
    cases hout : r.output with
    | pending => exact absurd hout hdisposed
    | accepted => exact .inl rfl
    | notDelivered =>
      obtain ⟨reason, hr⟩ := hreason hout
      refine .inr ⟨rfl, ?_⟩
      cases reason <;> simp_all
  unfold hasResolvedEffects
  cases houtcome : r.nativeOutcome with
  | pending => exact absurd houtcome hended
  | unknown => exact absurd houtcome hknown
  | notExecuted =>
    have hoff := hunexecuted (by rw [houtcome]; decide)
    rcases refused_of_notExecuted h hs houtcome with ⟨hd, -⟩ | ⟨hd, hrejected, -⟩
    · simp [hd, hoff]
    · simp [hd, hrejected, hoff]
  | succeeded =>
    obtain ⟨hd, hrunning, -⟩ := terminal_of_known h hs (.inl houtcome)
    simpa [hd, hrunning] using hexecuted houtcome
  | failed =>
    obtain ⟨hd, hrunning, -⟩ := terminal_of_known h hs (.inr (.inl houtcome))
    simpa [hd, hrunning] using hunexecuted (by rw [houtcome]; decide)
  | cancelled =>
    obtain ⟨hd, hrunning, -⟩ := terminal_of_known h hs (.inr (.inr houtcome))
    simpa [hd, hrunning] using hunexecuted (by rw [houtcome]; decide)

/-- The layers of a receipt that are still open: its outcome, output and settlement. -/
def openLayers (r : OperationReceipt) : ℕ :=
  (if r.nativeOutcome = .pending then 1 else 0) + (if r.output = .pending then 1 else 0) +
    (if r.settlement = .pending then 1 else 0)

/-- There are three layers. -/
theorem openLayers_le (r : OperationReceipt) : r.openLayers ≤ 3 := by
  unfold openLayers
  split <;> split <;> split <;> decide

/-- An unreleased receipt with a known outcome has an open layer. -/
theorem openLayers_pos {r : OperationReceipt} (h : r.Integrity)
    (hknown : r.nativeOutcome ≠ .unknown) (hunreleased : r.authorityDisposition ≠ .released) :
    0 < r.openLayers := by
  by_contra hclosed
  have hended : r.nativeOutcome ≠ .pending ∧ r.output ≠ .pending ∧ r.settlement ≠ .pending := by
    unfold openLayers at hclosed
    refine ⟨?_, ?_, ?_⟩ <;> intro hpending <;> simp [hpending] at hclosed
  have hresolved := resolved_of_disposed h.recorded h.sequenced hended.1 hknown hended.2.1
  have hsettled : r.settlement = .settled := by
    cases hset : r.settlement with
    | pending => exact absurd hset hended.2.2
    | settled => rfl
  have hclosure : r.hasResolvedClosure := ⟨hsettled, hresolved⟩
  apply hunreleased
  rw [h.refreshed, computedDisposition, if_neg hknown, if_pos hclosure]

/-- A change that ends the work alone closes a layer. -/
theorem openLayers_lt_of_ended {r r' : OperationReceipt} (hpending : r.nativeOutcome = .pending)
    (hended : r'.nativeOutcome ≠ .pending) (houtput : r'.output = r.output)
    (hsettlement : r'.settlement = r.settlement) : r'.openLayers < r.openLayers := by
  rw [openLayers, openLayers, if_pos hpending, if_neg hended, houtput, hsettlement]
  omega

/-- A change that disposes of the output alone closes a layer. -/
theorem openLayers_lt_of_disposed {r r' : OperationReceipt} (hpending : r.output = .pending)
    (houtcome : r'.nativeOutcome = r.nativeOutcome) (hdisposed : r'.output ≠ .pending)
    (hsettlement : r'.settlement = r.settlement) : r'.openLayers < r.openLayers := by
  rw [openLayers, openLayers, if_pos hpending, if_neg hdisposed, houtcome, hsettlement]
  omega

/-- A change that settles alone closes a layer. -/
theorem openLayers_lt_of_settled {r r' : OperationReceipt} (hpending : r.settlement = .pending)
    (houtcome : r'.nativeOutcome = r.nativeOutcome) (houtput : r'.output = r.output)
    (hsettled : r'.settlement ≠ .pending) : r'.openLayers < r.openLayers := by
  rw [openLayers, openLayers, if_pos hpending, if_neg hsettled, houtcome, houtput]
  omega

end OperationReceipt

/-! ### Evidence and the records it leaves -/

/-- The evidence record that a call supplies. -/
def Call.record : Call → Option EvidenceRecord
  | .observeStartup evidence => some evidence.record
  | .observeExecutionCapabilities capabilities => some capabilities.record
  | .beginRebind _ _ oldScopeEvidence _ => some oldScopeEvidence.record
  | .observeRebindReadiness evidence => some evidence.record
  | .observeStopAcknowledgement evidence => some evidence.record
  | .observeNonSubmission evidence => some evidence.record
  | .observeNative evidence => some evidence.record
  | .observeOutputAccepted evidence => some evidence.record
  | .observeOutputNotDelivered evidence => some evidence.record
  | .observeSettlement evidence => some evidence.record
  | _ => none

/-- The call is evidence about the operation from the source configured for its kind. -/
def OperationEvidence (config : AuthorityGateConfig) (authority : OperationAuthority) :
    Call → Prop
  | .observeStopAcknowledgement evidence =>
    evidence.authority = authority ∧ evidence.record.source = config.stopEvidenceSource
  | .observeNonSubmission evidence =>
    evidence.authority = authority ∧ evidence.record.source = config.settlementEvidenceSource
  | .observeNative evidence =>
    evidence.authority = authority ∧ evidence.record.source = config.nativeEvidenceSource
  | .observeOutputAccepted evidence =>
    evidence.authority = authority ∧ evidence.record.source = config.resultSinkObserver
  | .observeOutputNotDelivered evidence =>
    evidence.authority = authority ∧
      evidence.record.source =
        if evidence.reason = .noOutputProduced then config.settlementEvidenceSource
        else config.resultSinkObserver
  | .observeSettlement evidence =>
    evidence.authority = authority ∧ evidence.record.source = config.settlementEvidenceSource
  | _ => False

namespace ReceiptStep

variable {s : AuthorityGate} {c : Call} {a : Answer} {r r' : OperationReceipt}

/-- A change leaves the effect records alone, or puts the supplied record in one slot. -/
theorem effectRecords_eq (step : ReceiptStep s c a r r') :
    r'.effectRecords = r.effectRecords ∨
      ∃ slot, r'.effectRecords = r.effectRecords.set slot c.record := by
  cases step with
  | withdraw => rw [OperationReceipt.revoke_eq]; exact .inl rfl
  | native step =>
    rw [OperationReceipt.deriveNativeOutcome_eq]
    cases step.change with
    | repeated => exact .inl rfl
    | accepted => exact .inr ⟨0, rfl⟩
    | rejected => exact .inr ⟨1, rfl⟩
    | started => exact .inr ⟨2, rfl⟩
    | succeeded => exact .inr ⟨3, rfl⟩
    | failed => exact .inr ⟨4, rfl⟩
    | cancelled => exact .inr ⟨9, rfl⟩
  | operation step =>
    cases step with
    | cancel | expire => rw [OperationReceipt.revoke_eq]; exact .inl rfl
    | claim | acknowledge => exact .inl rfl
    | notSubmitted => exact .inr ⟨6, rfl⟩
    | acceptOutput => exact .inr ⟨5, rfl⟩
    | withholdOutput => exact .inr ⟨7, rfl⟩
    | settle => exact .inr ⟨8, rfl⟩

/-- An effect record was retained before the change, or the call supplied it. -/
theorem mem_effectRecords (step : ReceiptStep s c a r r') {record : EvidenceRecord}
    (h : some record ∈ r'.effectRecords) :
    some record ∈ r.effectRecords ∨ c.record = some record := by
  rcases step.effectRecords_eq with heq | ⟨slot, heq⟩
  · exact .inl (heq ▸ h)
  · rw [heq] at h
    exact (List.mem_or_eq_of_mem_set h).imp_right Eq.symm

/-- A record of any kind was retained before the change, or the call supplied it. -/
theorem mem_receiptRecords (step : ReceiptStep s c a r r') {record : EvidenceRecord}
    (h : some record ∈ r'.receiptRecords) :
    some record ∈ r.receiptRecords ∨ c.record = some record := by
  have hstop : r'.stopAcknowledgementEvidence = r.stopAcknowledgementEvidence ∨
      r'.stopAcknowledgementEvidence = c.record := by
    cases step with
    | native step => exact .inl step.frame.stopAcknowledgementEvidence
    | withdraw => rw [OperationReceipt.revoke_eq]; exact .inl rfl
    | operation step =>
      cases step with
      | cancel | expire => rw [OperationReceipt.revoke_eq]; exact .inl rfl
      | acknowledge => exact .inr rfl
      | claim | notSubmitted | acceptOutput | withholdOutput | settle => exact .inl rfl
  unfold OperationReceipt.receiptRecords at h ⊢
  rw [List.mem_append, List.mem_singleton] at h ⊢
  rcases h with h | h
  · exact (step.mem_effectRecords h).imp_left .inl
  · rcases hstop with heq | heq
    · exact .inl (.inr (h.trans heq))
    · exact .inr (h.trans heq).symm

/-- Evidence does not move the dispatch. -/
theorem dispatchedAt_eq (step : ReceiptStep s c a r r') (h : c.record.isSome) :
    r'.dispatchedAt = r.dispatchedAt := by
  cases step with
  | native step => exact step.frame.dispatchedAt
  | withdraw => cases h
  | operation step =>
    cases step with
    | claim | cancel | expire => cases h
    | acknowledge | notSubmitted | acceptOutput | withholdOutput | settle => rfl

end ReceiptStep

/-! ### What a run retains -/

/-- The record is kept with the current receipt or as the last native record. -/
def AuthorityGate.Retains (s : AuthorityGate) (record : EvidenceRecord) : Prop :=
  s.lastNativeRecord = some record ∨ ∃ r ∈ s.currentReceipt, some record ∈ r.receiptRecords

/-- A change of the receipt keeps retained records and adds the one that the call supplied. -/
private theorem retains_change {s s' : AuthorityGate} {c : Call} {a : Answer}
    {r r' : OperationReceipt} {record : EvidenceRecord} (h : s'.Retains record)
    (step : ReceiptStep s c a r r') (present : s.currentReceipt = some r)
    (after : s'.currentReceipt = some r')
    (native : s'.lastNativeRecord = s.lastNativeRecord ∨ s'.lastNativeRecord = c.record) :
    s.Retains record ∨ c.record = some record := by
  rcases h with hnative | ⟨q, hq, hrecord⟩
  · rcases native with heq | heq
    · exact .inl (.inl (heq ▸ hnative))
    · exact .inr (heq ▸ hnative)
  · rw [Option.mem_def, after, Option.some.injEq] at hq
    subst hq
    exact (step.mem_receiptRecords hrecord).imp_left fun hkept ↦ .inr ⟨r, present, hkept⟩

/-- Every retained record was retained before the call, or the call supplied it. -/
theorem Transition.retains {s s' : AuthorityGate} {c : Call} {a : Answer}
    {record : EvidenceRecord} (step : Transition s c a s') (h : s'.Retains record) :
    s.Retains record ∨ c.record = some record := by
  cases step with
  | @startup e index =>
    obtain ⟨idle, ready, sink, initialization, -, heq⟩ := s.recordStartup_eq index e
    rw [heq] at h
    exact .inl h
  | withdrawCurrent noCandidate opened unwithdrawn time present bound unreleased =>
    exact retains_change h (.withdraw noCandidate opened unwithdrawn time unreleased) present rfl
      (.inl rfl)
  | admission =>
    rcases h with hnative | ⟨q, hq, hrecord⟩
    · cases hnative
    · cases hq
      simp [OperationReceipt.receiptRecords, OperationReceipt.effectRecords,
        AuthorityGate.newReceipt] at hrecord
  | operation present bound step =>
    exact retains_change h (.operation step) present rfl (.inl rfl)
  | native present bound step =>
    exact retains_change h (.native step) present rfl (.inr rfl)
  | noEffect | capabilities | candidateCapabilities | capabilitiesConflict | discard
  | withdrawIdle | begin | readiness | readinessConflict | commit | close => exact .inl h

/-- What a run that supplies sequence numbers below a bound leaves behind: its sources are
those of its configuration, and the bound holds for the retained records. -/
theorem Run.retains_lt (run : Run) {bound : ℕ}
    (hroom : ∀ c ∈ run.calls, ∀ record ∈ c.record, record.sequence.toNat < bound) :
    run.final.config = { run.config with binding := run.final.config.binding } ∧
      ∀ record, run.final.Retains record → record.sequence.toNat < bound := by
  refine gate.invariant_inputs
    (P := fun s ↦ s.config = { run.config with binding := s.config.binding } ∧
      ∀ record, s.Retains record → record.sequence.toNat < bound)
    (B := fun c ↦ ∀ record ∈ c.record, record.sequence.toNat < bound)
    (fun s c hc ⟨hconfig, hs⟩ ↦ ?_) ⟨rfl, fun record h ↦ ?_⟩ hroom
  · have step := gate_transition s c
    refine ⟨?_, fun record h ↦ (step.retains h).elim (hs record) (hc record)⟩
    rw [step.config_eq_withBinding, hconfig]
  · rcases h with hnative | ⟨r, hr, -⟩
    · cases hnative
    · cases hr

/-! ### Closing an operation -/

/-- The record that closes an open layer: at the given time, with a sequence number that
leaves one for each further layer. -/
def OperationReceipt.closingRecord (r : OperationReceipt) (source : String)
    (t : MonotonicTime) : EvidenceRecord :=
  ⟨source, t, UInt64.ofNat (2 ^ 64 - r.openLayers)⟩

/-- The sequence number of a closing record and the open layers use up the 64-bit words. -/
theorem OperationReceipt.closingRecord_sequence {r : OperationReceipt} (h : 0 < r.openLayers)
    (source : String) (t : MonotonicTime) :
    (r.closingRecord source t).sequence.toNat + r.openLayers = 2 ^ 64 := by
  have hle := r.openLayers_le
  have hlt : 2 ^ 64 - r.openLayers < 2 ^ 64 := by omega
  rw [closingRecord, UInt64.toNat_ofNat_of_lt' hlt]
  omega

/-- The current receipt is of the operation and under the active binding, its outcome is not
unknown, nothing retained is past the time, and every open layer has a sequence number left. -/
structure Closable (config : AuthorityGateConfig) (authority : OperationAuthority)
    (t : MonotonicTime) (s : AuthorityGate) (r : OperationReceipt) : Prop where
  present : s.currentReceipt = some r
  authority : r.authority = authority
  bound : r.authority.binding = s.config.binding
  integrity : r.Integrity
  known : r.nativeOutcome ≠ .unknown
  sources : s.config = { config with binding := s.config.binding }
  time : r.latestEffectTime ≤ t
  nativeTime : ∀ record ∈ s.lastNativeRecord, record.observedAt ≤ t
  room : ∀ record, s.Retains record → record.sequence.toNat + r.openLayers < 2 ^ 64

namespace Closable

variable {config : AuthorityGateConfig} {authority : OperationAuthority} {t : MonotonicTime}
  {s s' : AuthorityGate} {c : Call} {a : Answer} {r r' : OperationReceipt} {source : String}

/-- A closing record passes the test of its source. -/
theorem formed (hopen : 0 < r.openLayers) (hsource : source ≠ "") {earliest : MonotonicTime}
    (htime : earliest ≤ t) : isRecordWellFormed (r.closingRecord source t) source earliest := by
  refine ⟨hsource, rfl, fun hzero ↦ ?_, htime⟩
  have hsequence := OperationReceipt.closingRecord_sequence hopen source t
  have hle := r.openLayers_le
  rw [hzero, UInt64.toNat_zero] at hsequence
  omega

/-- A closing record is past every retained record. -/
theorem sequence_lt (h : Closable config authority t s r) (hopen : 0 < r.openLayers)
    (source : String) {record : EvidenceRecord} (hrecord : s.Retains record) :
    record.sequence < (r.closingRecord source t).sequence := by
  have hroom := h.room record hrecord
  have hsequence := OperationReceipt.closingRecord_sequence hopen source t
  rw [UInt64.lt_iff_toNat_lt]
  omega

/-- So it follows the records of its own source. -/
theorem follows (h : Closable config authority t s r) (hopen : 0 < r.openLayers)
    (source : String) :
    OperationReceipt.followsSameSourceRecords (r.closingRecord source t) r := by
  rintro slot hslot record hrecord ⟨-, hle⟩
  rw [Option.mem_def] at hrecord
  have hretained : s.Retains record := .inr ⟨r, h.present, hrecord ▸ hslot⟩
  exact absurd hle (not_le.mpr (h.sequence_lt hopen source hretained))

/-- An effect record is not past the time. -/
theorem effect_le (h : Closable config authority t s r) {record : EvidenceRecord}
    (hrecord : some record ∈ r.effectRecords) : record.observedAt ≤ t :=
  (OperationReceipt.latestEffectTime_le_iff.mp h.time).2.2 (some record) hrecord record rfl

/-- A change made by a closing record that closes a layer leaves the operation closable. -/
theorem advance (h : Closable config authority t s r) (hopen : 0 < r.openLayers)
    (step : ReceiptStep s c a r r') (hrecord : c.record = some (r.closingRecord source t))
    (hknown : r'.nativeOutcome ≠ .unknown) (hlayers : r'.openLayers < r.openLayers)
    (hconfig : s'.config = s.config) (after : s'.currentReceipt = some r')
    (native : s'.lastNativeRecord = s.lastNativeRecord ∨ s'.lastNativeRecord = c.record) :
    Closable config authority t s' r' where
  present := after
  authority := step.authority_eq.trans h.authority
  bound := by rw [step.authority_eq, hconfig, h.bound]
  integrity := step.integrity h.integrity
  known := hknown
  sources := hconfig ▸ h.sources
  time := by
    obtain ⟨hadmitted, hdispatched, -⟩ := OperationReceipt.latestEffectTime_le_iff.mp h.time
    refine OperationReceipt.latestEffectTime_le_iff.mpr ⟨?_, ?_, ?_⟩
    · rwa [step.authority_eq]
    · rwa [step.dispatchedAt_eq (by rw [hrecord]; rfl)]
    · intro slot hslot record heq
      rw [Option.mem_def] at heq
      rcases step.mem_effectRecords (heq ▸ hslot) with hkept | hnew
      · exact h.effect_le hkept
      · rw [hrecord, Option.some.injEq] at hnew
        exact hnew ▸ le_refl t
  nativeTime := by
    intro record heq
    rcases native with hkept | hnew
    · exact h.nativeTime record (hkept ▸ heq)
    · rw [Option.mem_def, hnew, hrecord, Option.some.injEq] at heq
      exact heq ▸ le_refl t
  room := by
    intro record hretained
    rcases retains_change hretained step h.present after native with hkept | hnew
    · have := h.room record hkept
      omega
    · rw [hrecord, Option.some.injEq] at hnew
      have := OperationReceipt.closingRecord_sequence hopen source t
      rw [← hnew]
      omega

/-- Some evidence about the operation closes one of its layers. -/
def CanAdvance (config : AuthorityGateConfig) (authority : OperationAuthority)
    (t : MonotonicTime) (s : AuthorityGate) (r : OperationReceipt) : Prop :=
  ∃ c, OperationEvidence config authority c ∧
    ∃ r', Closable config authority t (gate.next s c) r' ∧ r'.openLayers < r.openLayers

/-- It does when it makes an assignment that closes a layer. -/
private theorem canAdvance_operation (h : Closable config authority t s r)
    (hopen : 0 < r.openLayers) (step : OperationStep s c a r r')
    (hevidence : OperationEvidence config authority c)
    (hrecord : c.record = some (r.closingRecord source t)) (hknown : r'.nativeOutcome ≠ .unknown)
    (hlayers : r'.openLayers < r.openLayers) : CanAdvance config authority t s r := by
  have hnext : gate.next s c = { s with currentReceipt := some r' } :=
    congrArg Prod.snd (step.call_eq h.present h.bound)
  refine ⟨c, hevidence, r', ?_, hlayers⟩
  rw [hnext]
  exact h.advance hopen (.operation step) hrecord hknown hlayers rfl rfl (.inl rfl)

/-- The gate still has the sources and the scope of its configuration. -/
private theorem sources_eq (h : Closable config authority t s r) :
    s.config.resultSinkObserver = config.resultSinkObserver ∧
      s.config.nativeEvidenceSource = config.nativeEvidenceSource ∧
      s.config.settlementEvidenceSource = config.settlementEvidenceSource ∧
      s.config.settlementScope = config.settlementScope := by
  rw [h.sources]
  exact ⟨rfl, rfl, rfl, rfl⟩

/-- The configured sources are nonempty. -/
private theorem sources_ne (accepted : config.Accepted) :
    config.resultSinkObserver ≠ "" ∧ config.nativeEvidenceSource ≠ "" ∧
      config.settlementEvidenceSource ≠ "" := by
  obtain ⟨-, -, -, -, -, -, -, hsink, hnative, hsettlement, -⟩ := accepted
  exact ⟨hsink, hnative, hsettlement⟩

/-- Work that was never answered is reported as not submitted. -/
theorem reportNonSubmission (h : Closable config authority t s r) (accepted : config.Accepted)
    (hopen : 0 < r.openLayers) (hpending : r.nativeOutcome = .pending)
    (hunanswered : r.nativeAcceptance = .pending) : CanAdvance config authority t s r := by
  obtain ⟨-, -, hsource, -⟩ := h.sources_eq
  obtain ⟨-, -, hnonempty⟩ := sources_ne accepted
  obtain ⟨haccepted, hrejected, hstarted, hsuccess, hfailure, -⟩ :=
    OperationReceipt.noNativeEvidence_of_pending h.integrity.recorded hunanswered
  obtain ⟨hadmitted, hdispatched, -⟩ := OperationReceipt.latestEffectTime_le_iff.mp h.time
  have hunmarked : r.dispatch ≠ .notSubmitted := by
    have hsub := (OperationReceipt.unrefused_of_pending h.integrity.recorded hpending).1
    rw [Ne, h.integrity.recorded.notSubmitted, hsub]
    decide
  have hreached : r.dispatch = .submitted → ∃ time ∈ r.dispatchedAt, time ≤ t := by
    intro hsubmitted
    obtain ⟨time, htime⟩ := Option.isSome_iff_exists.mp
      (h.integrity.sequenced.dispatched hsubmitted)
    exact ⟨time, htime, hdispatched time htime⟩
  let evidence : NonSubmissionEvidence :=
    ⟨r.authority, r.closingRecord config.settlementEvidenceSource t⟩
  have hstep : OperationStep s (.observeNonSubmission evidence) (.evidence .accepted) r
      (r.markNotSubmitted evidence.record) :=
    .notSubmitted rfl (hsource ▸ formed hopen hnonempty hadmitted) hreached hunmarked
      ⟨haccepted, hrejected, hstarted, hsuccess, hfailure⟩
  apply h.canAdvance_operation hopen hstep ⟨h.authority, rfl⟩ rfl nofun
  exact OperationReceipt.openLayers_lt_of_ended hpending nofun rfl rfl

/-- Accepted work without a terminal is reported as failed. -/
theorem reportFailure (h : Closable config authority t s r) (accepted : config.Accepted)
    (hopen : 0 < r.openLayers) (hpending : r.nativeOutcome = .pending)
    (hrunning : r.nativeAcceptance = .accepted) : CanAdvance config authority t s r := by
  obtain ⟨-, hsource, -, -⟩ := h.sources_eq
  obtain ⟨-, hnonempty, -⟩ := sources_ne accepted
  have hanswered : r.nativeAcceptance ≠ .pending := by rw [hrunning]; decide
  have hnamed : r.nativeIdentity ≠ "" := h.integrity.sequenced.identified.mp hanswered
  have hdispatched : r.dispatchedAt.getD 0 ≤ t := by
    obtain ⟨-, hle, -⟩ := OperationReceipt.latestEffectTime_le_iff.mp h.time
    cases hd : r.dispatchedAt with
    | none => exact UInt64.zero_le
    | some time => exact hle time hd
  obtain ⟨-, -, hsuccess, hfailure, hcancellation⟩ :=
    OperationReceipt.unrefused_of_pending h.integrity.recorded hpending
  have hflags := h.integrity.recorded.flags
  have hfirst : r.observedNativeFailure = false := by rw [hflags.failure, hfailure]; rfl
  let evidence : NativeEvidence :=
    ⟨r.authority, r.nativeIdentity, .terminalFailed,
      r.closingRecord config.nativeEvidenceSource t⟩
  let applied : OperationReceipt :=
    { r with observedNativeFailure := true, nativeFailureEvidence := some evidence.record }
  have hstep : NativeStep s evidence .accepted r applied :=
    { authority := rfl
      named := hnamed
      submitted := h.integrity.sequenced.native hanswered
      formed := hsource ▸ formed hopen hnonempty hdispatched
      newer := fun previous hprevious ↦
        ⟨h.sequence_lt hopen _ (.inl hprevious), h.nativeTime previous hprevious⟩
      consistent := by simp [AuthorityGate.nativeContradicts, evidence, hnamed, hrunning]
      switch := by simp [OperationReceipt.applyNativeEvent, evidence, applied, hrunning, hfirst] }
  let ended : OperationReceipt := applied.deriveNativeOutcome.refreshAuthorityDisposition
  have hfailed : ended.nativeOutcome = .failed := by
    simp only [ended, OperationReceipt.deriveNativeOutcome_eq]
    simp [OperationReceipt.refreshAuthorityDisposition, OperationReceipt.derivedOutcome,
      OperationReceipt.terminalCount, applied, hflags.success, hflags.cancellation, hsuccess,
      hcancellation]
  have hlayers := OperationReceipt.openLayers_lt_of_ended hpending (hfailed.trans_ne (by decide))
    hstep.frame.output hstep.frame.settlement
  have hnext : gate.next s (.observeNative evidence) = _ :=
    congrArg Prod.snd (hstep.call_eq h.present h.bound)
  refine ⟨.observeNative evidence, ⟨h.authority, rfl⟩, ended, ?_, hlayers⟩
  rw [hnext]
  exact h.advance hopen (.native hstep) rfl (hfailed.trans_ne (by decide)) hlayers rfl rfl
    (.inr rfl)

/-- Evidence of a non-delivery that follows what it rests on disposes of pending output. -/
private theorem withhold (h : Closable config authority t s r) (hopen : 0 < r.openLayers)
    (hpending : r.output = .pending) (reason : OutputNonDeliveryReason) (reference : String)
    {basis : EvidenceRecord} (hbasis : some basis ∈ r.effectRecords)
    (hsource : source = if reason = .noOutputProduced then config.settlementEvidenceSource
      else config.resultSinkObserver) (hnonempty : source ≠ "")
    (hrests : s.nonDeliveryPrerequisite r
      ⟨r.authority, reason, reference, r.closingRecord source t⟩ = some (source, basis)) :
    CanAdvance config authority t s r := by
  let evidence : OutputNonDeliveryEvidence :=
    ⟨r.authority, reason, reference, r.closingRecord source t⟩
  have hstep : OperationStep s (.observeOutputNotDelivered evidence) (.evidence .accepted) r
      (r.withholdOutput evidence) :=
    .withholdOutput rfl hrests (formed hopen hnonempty (h.effect_le hbasis)) hpending
      (h.follows hopen source)
  apply h.canAdvance_operation hopen hstep ⟨h.authority, hsource⟩ rfl h.known
  exact OperationReceipt.openLayers_lt_of_disposed hpending rfl nofun rfl

/-- Work that ended without a success has a record that its missing output rests on. -/
theorem exists_basis (h : r.Integrity) (s : AuthorityGate)
    (hunexecuted : r.nativeOutcome = .notExecuted ∨ r.nativeOutcome = .failed ∨
      r.nativeOutcome = .cancelled) :
    ∃ basis, some basis ∈ r.effectRecords ∧
      ∀ record, s.nonDeliveryPrerequisite r ⟨r.authority, .noOutputProduced, "", record⟩ =
        some (s.config.settlementEvidenceSource, basis) := by
  have hrecorded := h.recorded
  have hsequenced := h.sequenced
  rcases hunexecuted with houtcome | hterminal
  · rcases OperationReceipt.refused_of_notExecuted hrecorded hsequenced houtcome with
      ⟨hd, hrefused⟩ | ⟨hd, hrejected, hrefused⟩
    · obtain ⟨basis, hbasis⟩ := Option.isSome_iff_exists.mp hrefused
      refine ⟨basis, by simp [OperationReceipt.effectRecords, hbasis], ?_⟩
      simp [AuthorityGate.nonDeliveryPrerequisite, hd, hbasis]
    · obtain ⟨basis, hbasis⟩ := Option.isSome_iff_exists.mp hrefused
      refine ⟨basis, by simp [OperationReceipt.effectRecords, hbasis], ?_⟩
      simp [AuthorityGate.nonDeliveryPrerequisite, hd, hrejected, hbasis]
  · obtain ⟨hd, hrunning, hretained⟩ :=
      OperationReceipt.terminal_of_known hrecorded hsequenced (.inr hterminal)
    obtain ⟨basis, hbasis⟩ := Option.isSome_iff_exists.mp hretained
    rcases hterminal with houtcome | houtcome <;>
      simp only [OperationReceipt.terminalEvidence, houtcome] at hbasis
    · refine ⟨basis, by simp [OperationReceipt.effectRecords, hbasis], ?_⟩
      simp [AuthorityGate.nonDeliveryPrerequisite, hd, hrunning, houtcome, hbasis]
    · refine ⟨basis, by simp [OperationReceipt.effectRecords, hbasis], ?_⟩
      simp [AuthorityGate.nonDeliveryPrerequisite, hd, hrunning, houtcome, hbasis]

/-- Work that ended without a success produced no output. -/
theorem reportNoOutput (h : Closable config authority t s r) (accepted : config.Accepted)
    (hopen : 0 < r.openLayers) (hpending : r.output = .pending)
    (hunexecuted : r.nativeOutcome = .notExecuted ∨ r.nativeOutcome = .failed ∨
      r.nativeOutcome = .cancelled) : CanAdvance config authority t s r := by
  obtain ⟨-, -, hsource, -⟩ := h.sources_eq
  obtain ⟨-, -, hnonempty⟩ := sources_ne accepted
  obtain ⟨basis, hbasis, hrests⟩ := exists_basis h.integrity s hunexecuted
  apply h.withhold hopen hpending .noOutputProduced "" hbasis (if_pos rfl).symm hnonempty
  rw [hrests, hsource]

/-- The output of successful work is reported as rejected by the sink. -/
theorem reportSinkRejection (h : Closable config authority t s r) (accepted : config.Accepted)
    (hopen : 0 < r.openLayers) (hpending : r.output = .pending)
    (hsucceeded : r.nativeOutcome = .succeeded) : CanAdvance config authority t s r := by
  obtain ⟨hsource, -⟩ := h.sources_eq
  obtain ⟨hnonempty, -⟩ := sources_ne accepted
  obtain ⟨-, hrunning, hterminal⟩ :=
    OperationReceipt.terminal_of_known h.integrity.recorded h.integrity.sequenced
      (.inl hsucceeded)
  obtain ⟨basis, hbasis⟩ := Option.isSome_iff_exists.mp hterminal
  simp only [OperationReceipt.terminalEvidence, hsucceeded] at hbasis
  have hmem : some basis ∈ r.effectRecords := by
    simp [OperationReceipt.effectRecords, hbasis]
  refine h.withhold hopen hpending .sinkRejected "result" hmem (if_neg (by decide)).symm
    hnonempty ?_
  simp [AuthorityGate.nonDeliveryPrerequisite,
    AuthorityGate.nonDeliveryPrerequisite.sinkPrerequisite, hrunning, hsucceeded, hbasis,
    hsource]

/-- Resolved effects are settled. -/
theorem reportSettlement (h : Closable config authority t s r) (accepted : config.Accepted)
    (hopen : 0 < r.openLayers) (hended : r.nativeOutcome ≠ .pending)
    (hdisposed : r.output ≠ .pending) : CanAdvance config authority t s r := by
  obtain ⟨-, -, hsource, hscope⟩ := h.sources_eq
  obtain ⟨-, -, hnonempty⟩ := sources_ne accepted
  obtain ⟨hadmitted, -, -⟩ := OperationReceipt.latestEffectTime_le_iff.mp h.time
  have hpending : r.settlement = .pending := by
    by_contra hsettled
    simp [OperationReceipt.openLayers, hended, hdisposed, hsettled] at hopen
  have hresolved := OperationReceipt.resolved_of_disposed h.integrity.recorded
    h.integrity.sequenced hended h.known hdisposed
  let evidence : SettlementEvidence :=
    ⟨r.authority, config.settlementScope, true,
      r.closingRecord config.settlementEvidenceSource t⟩
  have hstep : OperationStep s (.observeSettlement evidence) (.evidence .accepted) r
      (r.settle evidence) :=
    .settle rfl hscope.symm (hsource ▸ formed hopen hnonempty hadmitted)
      (by rw [hpending]; decide) rfl hdisposed h.time (h.follows hopen _) hresolved
  apply h.canAdvance_operation hopen hstep ⟨h.authority, rfl⟩ rfl h.known
  exact OperationReceipt.openLayers_lt_of_settled hpending rfl rfl nofun

/-- Short of its release, evidence brings an operation closer to it. -/
theorem canAdvance (h : Closable config authority t s r) (accepted : config.Accepted)
    (hunreleased : r.authorityDisposition ≠ .released) : CanAdvance config authority t s r := by
  have hopen := OperationReceipt.openLayers_pos h.integrity h.known hunreleased
  by_cases hended : r.nativeOutcome = .pending
  · cases hanswer : r.nativeAcceptance with
    | pending => exact h.reportNonSubmission accepted hopen hended hanswer
    | accepted => exact h.reportFailure accepted hopen hended hanswer
    | rejected =>
      have hrefused := h.integrity.recorded.rejected.mp hanswer
      rw [(OperationReceipt.unrefused_of_pending h.integrity.recorded hended).2.1] at hrefused
      cases hrefused
  · by_cases hdisposed : r.output = .pending
    · cases houtcome : r.nativeOutcome with
      | pending => exact absurd houtcome hended
      | unknown => exact absurd houtcome h.known
      | succeeded => exact h.reportSinkRejection accepted hopen hdisposed houtcome
      | notExecuted => exact h.reportNoOutput accepted hopen hdisposed (.inl houtcome)
      | failed => exact h.reportNoOutput accepted hopen hdisposed (.inr (.inl houtcome))
      | cancelled => exact h.reportNoOutput accepted hopen hdisposed (.inr (.inr houtcome))
    · exact h.reportSettlement accepted hopen hended hdisposed

/-- At most three pieces of evidence release a closable operation. -/
theorem release (h : Closable config authority t s r) (accepted : config.Accepted) :
    ∃ calls : List Call, (∀ c ∈ calls, OperationEvidence config authority c) ∧
      calls.length ≤ 3 ∧ ∃ q ∈ (gate.run s calls).currentReceipt,
        q.authority = authority ∧ q.authorityDisposition = .released := by
  have hrank := gate.exists_run_of_rank
    (P := fun s ↦ ∃ r, Closable config authority t s r)
    (G := fun s ↦ ∃ q ∈ s.currentReceipt,
      q.authority = authority ∧ q.authorityDisposition = .released)
    (B := OperationEvidence config authority)
    (fun s ↦ s.currentReceipt.elim 0 OperationReceipt.openLayers)
    (fun s ⟨r, hr⟩ hgoal ↦ ?_) ⟨r, h⟩
  · obtain ⟨calls, hall, hlength, hgoal⟩ := hrank
    rw [h.present] at hlength
    exact ⟨calls, hall, hlength.trans r.openLayers_le, hgoal⟩
  · have hunreleased : r.authorityDisposition ≠ .released := fun hreleased ↦
      hgoal ⟨r, hr.present, hr.authority, hreleased⟩
    obtain ⟨c, hevidence, r', hr', hlt⟩ := hr.canAdvance accepted hunreleased
    refine ⟨c, hevidence, ⟨r', hr'⟩, ?_⟩
    rw [hr.present, hr'.present]
    exact hlt

end Closable

/-- Unless its outcome is unknown, an operation is released by at most three further pieces of
evidence from the configured sources, in every state that a run reaches before the sequence
numbers of its evidence run out. -/
theorem Run.no_wedged_operation (run : Run) (r : OperationReceipt)
    (present : r ∈ run.final.currentReceipt) (unreleased : r.authorityDisposition ≠ .released)
    (known : r.nativeOutcome ≠ .unknown)
    (room : ∀ c ∈ run.calls, ∀ record ∈ c.record, record.sequence.toNat < 2 ^ 64 - 8) :
    ∃ calls : List Call, (∀ c ∈ calls, OperationEvidence run.config r.authority c) ∧
      calls.length ≤ 3 ∧ ∃ q ∈ (gate.run run.final calls).currentReceipt,
        q.authority = r.authority ∧ q.authorityDisposition = .released := by
  obtain ⟨hsources, hretains⟩ := run.retains_lt room
  have hcoherent := run.coherent
  have hbound : r.authority.binding = run.final.config.binding := by
    by_contra hsuperseded
    exact unreleased (hcoherent.superseded r present hsuperseded).2
  let t := watermark r.latestEffectTime [run.final.lastNativeRecord.map EvidenceRecord.observedAt]
  obtain ⟨htime, hnative⟩ := watermark_le_iff.mp (le_refl t)
  have hclosable : Closable run.config r.authority t run.final r :=
    { present := present
      authority := rfl
      bound := hbound
      integrity := hcoherent.receipts r present
      known := known
      sources := hsources
      time := htime
      nativeTime := by simpa using hnative
      room := fun record hrecord ↦ by
        have hlt := hretains record hrecord
        have hle := r.openLayers_le
        omega }
  exact hclosable.release run.accepted

/-- A dispatched operation that was cancelled before the gate was closed. -/
def cancelledRun : Run :=
  testRun (testDispatch ++ [.requestCancel testAuthority 15, .closeAdmission])

/-- It is released by evidence about it. -/
theorem no_wedged_operation_cancelled :
    ∃ r ∈ cancelledRun.final.currentReceipt, r.authorityDisposition = .revoked ∧
      ∃ calls : List Call, (∀ c ∈ calls, OperationEvidence testConfig r.authority c) ∧
        calls.length ≤ 3 ∧ ∃ q ∈ (gate.run cancelledRun.final calls).currentReceipt,
          q.authority = r.authority ∧ q.authorityDisposition = .released := by
  have hpresent : cancelledRun.final.currentReceipt.isSome := by decide
  obtain ⟨r, hr⟩ := Option.isSome_iff_exists.mp hpresent
  have hstate : ∀ q ∈ cancelledRun.final.currentReceipt,
      q.authorityDisposition = .revoked ∧ q.nativeOutcome = .pending := by decide
  have hroom : ∀ c ∈ cancelledRun.calls, ∀ record ∈ c.record,
      record.sequence.toNat < 2 ^ 64 - 8 := by decide
  obtain ⟨hrevoked, hpending⟩ := hstate r hr
  exact ⟨r, hr, hrevoked, Run.no_wedged_operation cancelledRun r hr (by rw [hrevoked]; decide)
    (by rw [hpending]; decide) hroom⟩

end RobotHarness
