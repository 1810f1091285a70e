import RobotHarness.Core.History

/-!
# Settlement and later effects

`observe_settlement` compares its evidence with every effect recorded so far. One effect can
still be recorded under a settlement without withdrawing the release: a first `started` event,
which `observe_native` accepts at any time after the last native record.
-/

namespace RobotHarness

namespace OperationReceipt

/-- The settlement was observed at or after every recorded effect. -/
def SettlementCovers (r : OperationReceipt) : Prop :=
  ∃ settlement ∈ r.settlementEvidence, r.latestEffectTime ≤ settlement.observedAt

/-- The settlement covers the effects of a settled receipt whose outcome is known. -/
def Covered (r : OperationReceipt) : Prop :=
  r.settlement = .settled → r.nativeOutcome ≠ .unknown → r.SettlementCovers

/-- A settled receipt with a known outcome is released. -/
theorem Integrity.released_of_settled {r : OperationReceipt} (h : r.Integrity)
    (hsettled : r.settlement = .settled) (hknown : r.nativeOutcome ≠ .unknown) :
    r.authorityDisposition = .released := by
  have hresolved := (h.sequenced.settled hsettled).resolve_right hknown
  have hrefreshed : r.authorityDisposition = r.computedDisposition := h.refreshed
  rw [hrefreshed, computedDisposition, if_neg hknown, if_pos ⟨hsettled, hresolved⟩]

/-- A released receipt is settled and its outcome is known. -/
theorem Integrity.settled_of_released {r : OperationReceipt} (h : r.Integrity)
    (hreleased : r.authorityDisposition = .released) :
    r.settlement = .settled ∧ r.nativeOutcome ≠ .unknown := by
  have hrefreshed : r.authorityDisposition = r.computedDisposition := h.refreshed
  rw [hreleased, computedDisposition] at hrefreshed
  split at hrefreshed
  · cases hrefreshed
  next hknown =>
  split at hrefreshed
  · next hclosed => exact ⟨hclosed.1, hknown⟩
  · split at hrefreshed <;> cases hrefreshed

end OperationReceipt

/-- Wherever the effect domain is open for the next admission, the settlement covers every
effect of the operation before it. -/
def AuthorityGate.ReleaseCovers (s : AuthorityGate) : Prop :=
  ∀ r ∈ s.currentReceipt, r.authorityDisposition = .released → r.SettlementCovers

/-- A native event that reports the start of released work for the first time, in a record
that passes the tests of `observe_native` and is later than the settlement. -/
structure StartsReleased (s : AuthorityGate) (e : NativeEvidence) (r : OperationReceipt) :
    Prop where
  present : s.currentReceipt = some r
  bound : r.authority.binding = s.config.binding
  authority : e.authority = r.authority
  kind : e.kind = .started
  named : e.nativeIdentity = r.nativeIdentity
  running : r.nativeAcceptance = .accepted
  first : r.nativeStarted = false
  released : r.authorityDisposition = .released
  formed : isRecordWellFormed e.record s.config.nativeEvidenceSource (r.dispatchedAt.getD 0)
  newer : Newer e.record s.lastNativeRecord
  late : ∃ settlement ∈ r.settlementEvidence, settlement.observedAt < e.record.observedAt

/-- The call delivers such an event. -/
def StartsAfterSettlement (s : AuthorityGate) (c : Call) : Prop :=
  ∃ e r, c = .observeNative e ∧ StartsReleased s e r

/-! ### One call -/

namespace OperationReceipt

/-- Recorded effects that are unchanged stay covered. -/
private theorem Covered.of_eq {r r' : OperationReceipt} (h : r.Covered)
    (hsettlement : r'.settlement = r.settlement)
    (hevidence : r'.settlementEvidence = r.settlementEvidence)
    (houtcome : r'.nativeOutcome = r.nativeOutcome)
    (htime : r'.latestEffectTime = r.latestEffectTime) : r'.Covered := by
  intro hsettled hknown
  rw [hsettlement] at hsettled
  rw [houtcome] at hknown
  unfold SettlementCovers
  rw [hevidence, htime]
  exact h hsettled hknown

/-- An unsettled receipt has nothing to cover. -/
private theorem covered_of_pending {r : OperationReceipt} (h : r.settlement = .pending) :
    r.Covered := by
  intro hsettled
  rw [h] at hsettled
  cases hsettled

/-- `revoke` records no effect. -/
private theorem Covered.revoke {r : OperationReceipt} (h : r.Covered) (t : MonotonicTime) :
    (r.revoke t).2.Covered := by
  rw [revoke_eq]
  exact h.of_eq rfl rfl rfl rfl

/-- While the output of a receipt is pending its settlement is, unless its outcome is unknown. -/
private theorem pending_of_undisposed {r : OperationReceipt} (h : r.Integrity)
    (hpending : r.output = .pending) (hknown : r.nativeOutcome ≠ .unknown) :
    r.settlement = .pending := by
  have hunsettled := unsettled_of_undisposed h.sequenced hpending hknown
  cases hs : r.settlement with
  | pending => rfl
  | settled => exact absurd hs hunsettled

/-- A settlement that comes at or after every effect covers them and itself. -/
private theorem covered_settle {r : OperationReceipt} {e : SettlementEvidence}
    (htime : r.latestEffectTime ≤ e.record.observedAt) : (r.settle e).Covered := by
  intro _ _
  refine ⟨e.record, rfl, ?_⟩
  rw [latestEffectTime_le_iff] at htime ⊢
  obtain ⟨hadmitted, hdispatched, heffects⟩ := htime
  refine ⟨hadmitted, hdispatched, ?_⟩
  simp only [effectRecords, settle, refreshAuthorityDisposition, List.forall_mem_cons] at heffects ⊢
  obtain ⟨h1, h2, h3, h4, h5, h6, h7, h8, -, h10, hnil⟩ := heffects
  refine ⟨h1, h2, h3, h4, h5, h6, h7, h8, ?_, h10, hnil⟩
  rintro _ ⟨⟩
  exact le_refl _

/-- A new terminal of settled work contradicts the one that it was settled with. -/
private theorem unknown_of_terminal {r applied : OperationReceipt} (h : r.Integrity)
    (hrunning : r.nativeAcceptance = .accepted) (hsettled : r.settlement = .settled)
    (hcount : applied.terminalCount = r.terminalCount + 1) :
    applied.derivedOutcome = .unknown := by
  have hended : r.terminalCount ≠ 0 := by
    intro hzero
    have hpending := unfinished_pending h.recorded hrunning hzero
    have hresolved := h.sequenced.settled hsettled
    simp [hasResolvedEffects, hpending, hrunning] at hresolved
  unfold derivedOutcome
  rw [if_pos (by omega)]

end OperationReceipt

/-- A call on a receipt keeps it covered, unless it starts released work. -/
private theorem OperationStep.covered {s : AuthorityGate} {c : Call} {a : Answer}
    {r r' : OperationReceipt} (step : OperationStep s c a r r') (hr : r.Integrity)
    (h : r.Covered) : r'.Covered := by
  cases step with
  | claim _ _ _ pending =>
    exact OperationReceipt.covered_of_pending
      (OperationReceipt.undispatched hr.recorded hr.sequenced pending).2.2.2
  | @cancel _ t =>
    have hcancelled : (r.cancelAt t).Covered := h.of_eq rfl rfl rfl rfl
    exact hcancelled.revoke t
  | @expire _ t =>
    have hexpired : (r.expireAt t).Covered := h.of_eq rfl rfl rfl rfl
    exact hexpired.revoke t
  | acknowledge => exact h.of_eq rfl rfl rfl rfl
  | notSubmitted _ _ _ unmarked unobserved =>
    have hnone := OperationReceipt.noNativeEvidence_of_unobserved hr.recorded unobserved.1
      unobserved.2.1
    exact OperationReceipt.covered_of_pending
      (OperationReceipt.unobserved hr.recorded hr.sequenced hnone unmarked).2.2.2
  | acceptOutput _ _ _ _ _ succeeded pending =>
    have hpending := OperationReceipt.pending_of_undisposed hr pending (by rw [succeeded]; decide)
    exact OperationReceipt.covered_of_pending hpending
  | withholdOutput _ _ _ pending =>
    intro hsettled hknown
    have hpending := OperationReceipt.pending_of_undisposed hr pending hknown
    exact OperationReceipt.covered_of_pending hpending hsettled hknown
  | settle _ _ _ _ _ _ time => exact OperationReceipt.covered_settle time

/-- A native event keeps the receipt covered, unless it starts released work. -/
private theorem NativeStep.covered {s : AuthorityGate} {e : NativeEvidence}
    {d : EvidenceDisposition} {r applied : OperationReceipt} (step : NativeStep s e d r applied)
    (present : s.currentReceipt = some r) (bound : r.authority.binding = s.config.binding)
    (hr : r.Integrity) (h : r.Covered) (hstart : ¬ StartsAfterSettlement s (.observeNative e)) :
    applied.deriveNativeOutcome.refreshAuthorityDisposition.Covered := by
  have hunanswered : r.nativeAcceptance = .pending → r.settlement = .pending := fun hpending ↦
    (OperationReceipt.unobserved hr.recorded hr.sequenced
      (OperationReceipt.noNativeEvidence_of_pending hr.recorded hpending)
      (by rw [step.submitted]; decide)).2.2.2
  rw [OperationReceipt.deriveNativeOutcome_eq]
  have hchange := step.change
  have hswitch := step.switch
  cases hchange with
  | repeated => exact h.of_eq rfl rfl (OperationReceipt.derivedOutcome_of_recorded hr.recorded) rfl
  | accepted _ pending => exact OperationReceipt.covered_of_pending (hunanswered pending)
  | rejected _ pending => exact OperationReceipt.covered_of_pending (hunanswered pending)
  | started kind running =>
    intro hsettled hknown
    have houtcome := OperationReceipt.derivedOutcome_of_recorded hr.recorded
    have hcovers : r.SettlementCovers := h hsettled fun hu ↦ hknown (houtcome.trans hu)
    obtain ⟨settlement, hevidence, htime⟩ := hcovers
    refine ⟨settlement, hevidence, ?_⟩
    have hfirst : r.nativeStarted = false := by
      simp only [OperationReceipt.applyNativeEvent, kind, running] at hswitch
      cases hs : r.nativeStarted with
      | false => rfl
      | true => simp [hs] at hswitch
    have hnamed : e.nativeIdentity = r.nativeIdentity := by
      have hidentified := hr.sequenced.identified.mp (by rw [running]; decide)
      have hconsistent := step.consistent
      unfold AuthorityGate.nativeContradicts at hconsistent
      push Not at hconsistent
      exact (hconsistent.1 hidentified).symm
    have hreleased := hr.released_of_settled hsettled fun hu ↦ hknown (houtcome.trans hu)
    have hlate : e.record.observedAt ≤ settlement.observedAt := by
      by_contra hlt
      exact hstart ⟨e, r, rfl,
        { present, bound, kind, running
          authority := step.authority
          named := hnamed
          first := hfirst
          released := hreleased
          formed := step.formed
          newer := step.newer
          late := ⟨settlement, hevidence, not_le.mp hlt⟩ }⟩
    rw [OperationReceipt.latestEffectTime_le_iff] at htime ⊢
    obtain ⟨hadmitted, hdispatched, heffects⟩ := htime
    refine ⟨hadmitted, hdispatched, ?_⟩
    simp only [OperationReceipt.effectRecords, OperationReceipt.refreshAuthorityDisposition,
      List.forall_mem_cons] at heffects ⊢
    obtain ⟨h1, h2, -, hrest⟩ := heffects
    refine ⟨h1, h2, ?_, hrest⟩
    rintro _ ⟨⟩
    exact hlate
  | succeeded _ running first =>
    intro hsettled hknown
    apply absurd (OperationReceipt.unknown_of_terminal hr running hsettled ?_) hknown
    simp only [OperationReceipt.terminalCount, first]
    simp
    omega
  | failed _ running first =>
    intro hsettled hknown
    apply absurd (OperationReceipt.unknown_of_terminal hr running hsettled ?_) hknown
    simp only [OperationReceipt.terminalCount, first]
    simp
    omega
  | cancelled _ running first =>
    intro hsettled hknown
    apply absurd (OperationReceipt.unknown_of_terminal hr running hsettled ?_) hknown
    simp only [OperationReceipt.terminalCount, first]
    simp

/-- The receipt that is present, if any, is covered. -/
def AuthorityGate.ReceiptCovered (s : AuthorityGate) : Prop := ∀ r ∈ s.currentReceipt, r.Covered

private theorem Transition.covered {s s' : AuthorityGate} {c : Call} {a : Answer}
    (step : Transition s c a s') (hs : s.Coherent) (hstart : ¬ StartsAfterSettlement s c)
    (h : s.ReceiptCovered) : s'.ReceiptCovered := by
  intro r' hr'
  rw [Option.mem_def] at hr'
  cases step.receiptEffect with
  | kept hkept => exact h r' (hkept ▸ hr')
  | admitted _ _ _ hstate =>
    subst hstate
    cases hr'
    exact OperationReceipt.covered_of_pending rfl
  | @changed r q present bound change after =>
    rw [after, Option.some.injEq] at hr'
    subst hr'
    have hr := hs.receipts r present
    cases change with
    | operation step => exact step.covered hr (h r present)
    | native step => exact step.covered present bound hr (h r present) hstart
    | @withdraw _ now =>
      have hwithdrawn : (r.withdrawAt now).Covered := (h r present).of_eq rfl rfl rfl rfl
      exact hwithdrawn.revoke now

/-- The start of released work after its settlement leaves it released, with an effect that
the settlement does not cover. -/
private theorem StartsAfterSettlement.uncovered {s : AuthorityGate} {c : Call}
    (h : StartsAfterSettlement s c) (hs : s.Coherent) : ¬ (gate.next s c).ReleaseCovers := by
  obtain ⟨e, r, rfl, start⟩ := h
  have hr := hs.receipts r start.present
  have hanswered : r.nativeAcceptance ≠ .pending := by rw [start.running]; decide
  have hnamed : r.nativeIdentity ≠ "" := hr.sequenced.identified.mp hanswered
  let applied : OperationReceipt :=
    { r with nativeStarted := true, nativeStartedEvidence := some e.record }
  have hstep : NativeStep s e .accepted r applied :=
    { authority := start.authority
      named := start.named ▸ hnamed
      submitted := hr.sequenced.native hanswered
      formed := start.formed
      newer := start.newer
      consistent := by
        simp [AuthorityGate.nativeContradicts, start.named, start.kind, start.running, hnamed]
      switch := by
        simp [OperationReceipt.applyNativeEvent, start.kind, start.running, start.first, applied] }
  have hnext : gate.next s (.observeNative e) = _ :=
    congrArg Prod.snd (hstep.call_eq start.present start.bound)
  obtain ⟨hsettled, hknown⟩ := hr.settled_of_released start.released
  have hderived := OperationReceipt.derivedOutcome_of_recorded hr.recorded
  have houtcome : applied.derivedOutcome = r.nativeOutcome := hderived
  let started : OperationReceipt := applied.deriveNativeOutcome.refreshAuthorityDisposition
  have hintegrity : started.Integrity :=
    hr.native hstep.submitted hstep.named hstep.change
  have hreleased : started.authorityDisposition = .released := by
    apply hintegrity.released_of_settled
    · exact hstep.frame.settlement.trans hsettled
    · simp only [started, OperationReceipt.deriveNativeOutcome_eq]
      exact houtcome.trans_ne hknown
  intro hcovers
  rw [hnext] at hcovers
  obtain ⟨settlement, hevidence, htime⟩ := hcovers started rfl hreleased
  obtain ⟨retained, hretained, hlate⟩ := start.late
  have hsame : started.settlementEvidence = r.settlementEvidence :=
    hstep.frame.settlementEvidence
  rw [hsame, hretained] at hevidence
  cases hevidence
  obtain ⟨-, -, heffects⟩ := OperationReceipt.latestEffectTime_le_iff.mp htime
  have hstarted : some e.record ∈ started.effectRecords := by
    simp only [started, OperationReceipt.deriveNativeOutcome_eq]
    simp [OperationReceipt.effectRecords, OperationReceipt.refreshAuthorityDisposition, applied]
  exact absurd (heffects _ hstarted _ rfl) (not_le.mpr hlate)

/-! ### Runs -/

namespace Run

/-- The gates that a run reaches, from its start to its end. -/
def reached (run : Run) : List AuthorityGate := run.start :: run.history.map Mealy.Event.post

/-- In a run that starts no released work after its settlement, every receipt is covered. -/
private theorem receiptCovered (run : Run)
    (hstart : ∀ e ∈ run.history, ¬ StartsAfterSettlement e.pre e.input) {e : GateEvent}
    (he : e ∈ run.history) : e.post.ReceiptCovered := by
  obtain ⟨h, t, heq⟩ := List.append_of_mem he
  have hpre : e.pre.ReceiptCovered := by
    have hrule := run.history_rule_pre
      (Q := fun h s ↦ (∀ d ∈ h, ¬ StartsAfterSettlement d.pre d.input) → s.ReceiptCovered)
      (fun _ r hr ↦ by cases hr)
      (fun h s c a s' hs _ step ih hall ↦ by
        rw [List.forall_mem_append, List.forall_mem_singleton] at hall
        exact step.covered hs hall.2 (ih hall.1))
      heq
    exact hrule fun d hd ↦ hstart d (by simp [heq, hd])
  obtain ⟨hs, step⟩ := run.transition he
  exact step.covered hs (hstart e he) hpre

/-- In every reached gate the settlement of a released operation covers all its effects, if
and only if no call of the run starts released work after its settlement. -/
theorem release_covers_iff (run : Run) :
    (∀ s ∈ run.reached, s.ReleaseCovers) ↔
      ∀ e ∈ run.history, ¬ StartsAfterSettlement e.pre e.input := by
  constructor
  · intro hcovers e he hstarts
    obtain ⟨hs, -⟩ := run.transition he
    have hpost : e.post = gate.next e.pre e.input :=
      congrArg Mealy.Event.post (gate.eq_event_of_mem_trace he)
    have hreached : e.post ∈ run.reached := List.mem_cons_of_mem _ (List.mem_map_of_mem he)
    exact hstarts.uncovered hs (hpost ▸ hcovers e.post hreached)
  · intro hstart s hs r hr hreleased
    rcases List.mem_cons.mp hs with rfl | hs
    · cases hr
    obtain ⟨e, he, rfl⟩ := List.mem_map.mp hs
    obtain ⟨hpre, step⟩ := run.transition he
    obtain ⟨hsettled, hknown⟩ :=
      ((step.coherent hpre).receipts r hr).settled_of_released hreleased
    exact run.receiptCovered hstart he r hr hsettled hknown

end Run

/-- `testOperation`, settled at 18, with its start reported at 19. -/
def testLateStart : List Call :=
  testOperation ++ [.observeNative ⟨testAuthority, "native-a", .started, ⟨"worker", 19, 3⟩⟩]

/-- The operation stays released with a start that is later than its settlement. -/
theorem late_start_uncovered :
    ¬ ∀ run : Run, ∀ s ∈ run.reached, s.ReleaseCovers := by
  intro hcovers
  have hfinal : ∃ r ∈ (testRun testLateStart).final.currentReceipt,
      r.authorityDisposition = .released ∧
        (∀ settlement ∈ r.settlementEvidence, settlement.observedAt = 18) ∧
        r.latestEffectTime = 19 := by decide
  obtain ⟨r, hr, hreleased, htime, heffect⟩ := hfinal
  have hreached : (testRun testLateStart).final ∈ (testRun testLateStart).reached := by
    apply List.mem_cons_of_mem
    apply List.mem_of_getLast?
    rfl
  obtain ⟨settlement, hsettlement, hle⟩ := hcovers _ _ hreached r hr hreleased
  rw [heffect, htime settlement hsettlement] at hle
  exact absurd hle (by decide)

end RobotHarness
