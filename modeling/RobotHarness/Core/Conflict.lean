import RobotHarness.Core.Admission

/-!
# Conflicting terminals

Two different terminal events of one operation make its outcome unknown, in any order and at
any time. Nothing resolves an unknown outcome, so the gate stays with the operation.
-/

namespace RobotHarness

/-- The event ends the native work. -/
def NativeEventKind.IsTerminal (kind : NativeEventKind) : Prop :=
  kind = .terminalSucceeded ∨ kind = .terminalFailed ∨ kind = .terminalCancelled

/-- The event accepted native evidence of the kind for the operation. -/
def AcceptsNative (authority : OperationAuthority) (kind : NativeEventKind) (e : GateEvent) :
    Prop :=
  ∃ evidence, e.input = .observeNative evidence ∧ EvidenceAccepted e ∧
    evidence.authority = authority ∧ evidence.kind = kind

/-- Some event of the history did. -/
def NativeAccepted (h : List GateEvent) (authority : OperationAuthority)
    (kind : NativeEventKind) : Prop :=
  ∃ e ∈ h, AcceptsNative authority kind e

/-- At least two different terminal kinds were accepted for the operation. -/
def TerminalsConflict (h : List GateEvent) (authority : OperationAuthority) : Prop :=
  ∃ first second : NativeEventKind, first.IsTerminal ∧ second.IsTerminal ∧ first ≠ second ∧
    NativeAccepted h authority first ∧ NativeAccepted h authority second

private theorem nativeAccepted_snoc {h : List GateEvent} {e : GateEvent}
    {authority : OperationAuthority} {kind : NativeEventKind} :
    NativeAccepted (h ++ [e]) authority kind ↔
      NativeAccepted h authority kind ∨ AcceptsNative authority kind e := by
  simp [NativeAccepted, or_and_right, exists_or]

namespace OperationReceipt

/-- The flag of a terminal kind. -/
def observedTerminal (r : OperationReceipt) : NativeEventKind → Bool
  | .terminalSucceeded => r.observedNativeSuccess
  | .terminalFailed => r.observedNativeFailure
  | .terminalCancelled => r.observedNativeCancellation
  | _ => false

/-- More than one terminal is counted exactly when two flags are set. -/
theorem one_lt_terminalCount_iff {r : OperationReceipt} :
    1 < r.terminalCount ↔ ∃ first second : NativeEventKind, first ≠ second ∧
      r.observedTerminal first = true ∧ r.observedTerminal second = true := by
  unfold terminalCount
  constructor
  · intro hcount
    cases hs : r.observedNativeSuccess <;> cases hf : r.observedNativeFailure <;>
      cases hc : r.observedNativeCancellation <;> simp only [hs, hf, hc] at hcount
    · exact absurd hcount (by decide)
    · exact absurd hcount (by decide)
    · exact absurd hcount (by decide)
    · exact ⟨.terminalFailed, .terminalCancelled, nofun, hf, hc⟩
    · exact absurd hcount (by decide)
    · exact ⟨.terminalSucceeded, .terminalCancelled, nofun, hs, hc⟩
    · exact ⟨.terminalSucceeded, .terminalFailed, nofun, hs, hf⟩
    · exact ⟨.terminalSucceeded, .terminalFailed, nofun, hs, hf⟩
  · rintro ⟨first, second, hne, hfirst, hsecond⟩
    cases first <;> cases second <;> simp_all [observedTerminal] <;> omega

/-- The outcome of a recorded receipt is unknown exactly when two terminals are counted. -/
theorem unknown_iff {r : OperationReceipt} (h : r.Recorded) :
    r.nativeOutcome = .unknown ↔ 1 < r.terminalCount := by
  have hflags := h.flags
  have hunfinished : r.terminalCount = 0 → r.nativeOutcome ≠ .unknown := by
    intro hcount
    unfold terminalCount at hcount
    rw [hflags.success, hflags.failure, hflags.cancellation] at hcount
    rw [h.outcome, justifiedOutcome]
    cases hs : r.nativeSuccessEvidence.isSome <;> cases hf : r.nativeFailureEvidence.isSome <;>
      cases hc : r.nativeCancellationEvidence.isSome <;> simp_all
    split <;> decide
  constructor
  · intro hunknown
    by_contra hle
    have hderived := derivedOutcome_of_recorded h
    rw [hunknown] at hderived
    unfold derivedOutcome at hderived
    rw [if_neg hle] at hderived
    unfold terminalCount at hunfinished hle
    cases hs : r.observedNativeSuccess <;> cases hf : r.observedNativeFailure <;>
      cases hc : r.observedNativeCancellation <;> simp_all
  · intro hcount
    rw [← derivedOutcome_of_recorded h, derivedOutcome, if_pos hcount]

end OperationReceipt

/-! ### Which terminals were accepted -/

namespace NativeStep

variable {s : AuthorityGate} {e : NativeEvidence} {d : EvidenceDisposition}
  {r applied : OperationReceipt}

/-- A native event sets the flag of the terminal kind it is accepted with, and no other. -/
theorem observedTerminal (step : NativeStep s e d r applied) {kind : NativeEventKind}
    (hkind : kind.IsTerminal) :
    applied.deriveNativeOutcome.refreshAuthorityDisposition.observedTerminal kind = true ↔
      r.observedTerminal kind = true ∨ d = .accepted ∧ e.kind = kind := by
  rw [OperationReceipt.deriveNativeOutcome_eq]
  rcases hkind with rfl | rfl | rfl <;> cases step.change <;>
    simp_all [OperationReceipt.observedTerminal, OperationReceipt.refreshAuthorityDisposition]

end NativeStep

/-- Of the changes of the receipt only native events set terminal flags. -/
private theorem observedTerminal_kept {s : AuthorityGate} {c : Call} {a : Answer}
    {r r' : OperationReceipt} (step : ReceiptStep s c a r r')
    (hother : ∀ evidence, c ≠ .observeNative evidence) (kind : NativeEventKind) :
    r'.observedTerminal kind = r.observedTerminal kind := by
  cases step with
  | native => exact absurd rfl (hother _)
  | withdraw => rw [OperationReceipt.revoke_eq]; cases kind <;> rfl
  | operation step =>
    cases step with
    | cancel | expire => rw [OperationReceipt.revoke_eq]; cases kind <;> rfl
    | claim | acknowledge | notSubmitted | acceptOutput | withholdOutput | settle =>
      cases kind <;> rfl

/-- A change of the receipt sets the flag of the terminal kind that it accepts. -/
theorem ReceiptStep.observedTerminal {s s' : AuthorityGate} {c : Call} {a : Answer}
    {r r' : OperationReceipt} (step : ReceiptStep s c a r r') {kind : NativeEventKind}
    (hkind : kind.IsTerminal) :
    r'.observedTerminal kind = true ↔
      r.observedTerminal kind = true ∨ AcceptsNative r.authority kind ⟨s, c, a, s'⟩ := by
  by_cases hother : ∀ evidence, c ≠ .observeNative evidence
  · rw [observedTerminal_kept step hother]
    refine ⟨.inl, fun h ↦ h.resolve_right ?_⟩
    rintro ⟨evidence, hinput, -⟩
    exact hother evidence hinput
  · cases step with
    | native step =>
      rw [step.observedTerminal hkind]
      refine or_congr_right ⟨fun ⟨hd, hk⟩ ↦ ?_, fun ⟨_, hinput, haccepted, _, hk⟩ ↦ ?_⟩
      · exact ⟨_, rfl, by rw [EvidenceAccepted, hd], step.authority, hk⟩
      · cases hinput
        cases haccepted
        exact ⟨rfl, hk⟩
    | withdraw => exact absurd nofun hother
    | operation step => exact absurd (by cases step <;> nofun) hother

/-- Native evidence is accepted for the current operation, as a change of its receipt. -/
theorem Transition.acceptsNative {s s' : AuthorityGate} {c : Call} {a : Answer}
    {authority : OperationAuthority} {kind : NativeEventKind} (step : Transition s c a s')
    (h : AcceptsNative authority kind ⟨s, c, a, s'⟩) :
    ∃ r r', s.currentReceipt = some r ∧ r.authority = authority ∧
      s'.currentReceipt = some r' ∧ ReceiptStep s c a r r' := by
  obtain ⟨evidence, hinput, haccepted, rfl, rfl⟩ := h
  dsimp only [EvidenceAccepted] at hinput haccepted
  subst hinput
  cases step with
  | noEffect h =>
    subst haccepted
    exact absurd rfl h
  | native present _ step => exact ⟨_, _, present, step.authority.symm, rfl, .native step⟩
  | operation _ _ step => cases step

/-- The terminal flags of the current receipt are those accepted in the history. -/
structure TerminalHistory (h : List GateEvent) (s : AuthorityGate) : Prop where
  issued : ∀ authority kind, NativeAccepted h authority kind → s.Issued authority.operationId
  observed : ∀ r ∈ s.currentReceipt, ∀ kind : NativeEventKind, kind.IsTerminal →
    (r.observedTerminal kind = true ↔ NativeAccepted h r.authority kind)

private theorem terminalHistory_step (h : List GateEvent) (s : AuthorityGate) (c : Call)
    (a : Answer) (s' : AuthorityGate) (hs : s.Coherent) (_ : s.call c = (a, s'))
    (step : Transition s c a s') (ih : TerminalHistory h s) :
    TerminalHistory (h ++ [⟨s, c, a, s'⟩]) s' where
  issued := by
    intro authority kind haccepted
    rcases nativeAccepted_snoc.mp haccepted with hold | hnew
    · exact step.issued (ih.issued authority kind hold)
    · obtain ⟨r, -, hr, rfl, -⟩ := step.acceptsNative hnew
      exact step.issued (hs.receiptIssued r hr).2
  observed := by
    intro r' hr' kind hkind
    rw [Option.mem_def] at hr'
    rw [nativeAccepted_snoc]
    cases step.receiptEffect with
    | kept hkept =>
      rw [ih.observed r' (hkept ▸ hr') kind hkind]
      refine ⟨.inl, fun haccepted ↦ ?_⟩
      rcases haccepted with hold | hnew
      · exact hold
      · -- The evidence may repeat a kind in a newer record, and leave the receipt as it was.
        obtain ⟨r, q, hr, hauthority, hq, change⟩ := step.acceptsNative hnew
        have hqr : q = r := Option.some.inj (hq.symm.trans (hkept.trans hr))
        have hr'q : r' = q := Option.some.inj (hr'.symm.trans hq)
        subst hqr hr'q
        exact (ih.observed _ hr kind hkind).mp
          ((change.observedTerminal hkind).mpr (.inr (hauthority ▸ hnew)))
    | @admitted request hcall guard _ hstate =>
      subst hstate hcall
      cases hr'
      have hunset : (AuthorityGate.newReceipt (s.nextAuthority request)
          request).observedTerminal kind = false := by
        rcases hkind with rfl | rfl | rfl <;> rfl
      rw [hunset]
      refine ⟨nofun, fun haccepted ↦ ?_⟩
      rcases haccepted with hold | ⟨_, hinput, -⟩
      · exact absurd (ih.issued _ kind hold)
          (AuthorityGate.not_issued_next guard.unexhausted)
      · cases hinput
    | changed present _ change after =>
      rw [after, Option.some.injEq] at hr'
      subst hr'
      rw [change.observedTerminal hkind, ih.observed _ present kind hkind, change.authority_eq]

/-- The terminal flags of every run are those accepted in its history. -/
theorem Run.terminalHistory (run : Run) : TerminalHistory run.history run.final := by
  refine run.history_rule ⟨?_, ?_⟩ terminalHistory_step
  · rintro authority kind ⟨e, he, -⟩
    exact absurd he List.not_mem_nil
  · intro r hr
    cases hr

/-- The outcome is unknown exactly when two different terminal kinds were accepted. -/
theorem Run.unknown_iff_conflict (run : Run) (r : OperationReceipt)
    (hr : r ∈ run.final.currentReceipt) :
    r.nativeOutcome = .unknown ↔ TerminalsConflict run.history r.authority := by
  have hhistory := run.terminalHistory
  rw [OperationReceipt.unknown_iff (run.coherent.receipts r hr).recorded,
    OperationReceipt.one_lt_terminalCount_iff]
  have hterminal : ∀ kind, r.observedTerminal kind = true → kind.IsTerminal := by
    intro kind hset
    cases kind <;> simp_all [OperationReceipt.observedTerminal, NativeEventKind.IsTerminal]
  constructor
  · rintro ⟨first, second, hne, hfirst, hsecond⟩
    have h1 := hterminal first hfirst
    have h2 := hterminal second hsecond
    exact ⟨first, second, h1, h2, hne, (hhistory.observed r hr first h1).mp hfirst,
      (hhistory.observed r hr second h2).mp hsecond⟩
  · rintro ⟨first, second, h1, h2, hne, hfirst, hsecond⟩
    exact ⟨first, second, hne, (hhistory.observed r hr first h1).mpr hfirst,
      (hhistory.observed r hr second h2).mpr hsecond⟩

/-! ### What a conflict blocks -/

/-- The event starts or commits a rebinding. -/
def Rebinds (e : GateEvent) : Prop :=
  BindingApplied e ∧ ((∃ b providerId evidence now,
    e.input = .beginRebind b providerId evidence now) ∨ ∃ b now, e.input = .commitRebind b now)

/-- The event newly accepts output, accepted or not delivered, or a settlement. -/
def Resolves (e : GateEvent) : Prop :=
  EvidenceAccepted e ∧ ((∃ evidence, e.input = .observeOutputAccepted evidence) ∨
    (∃ evidence, e.input = .observeOutputNotDelivered evidence) ∨
    ∃ evidence, e.input = .observeSettlement evidence)

/-- The receipt of the operation is current, and its outcome is unknown. -/
def AuthorityGate.Conflicted (s : AuthorityGate) (authority : OperationAuthority) : Prop :=
  ∃ r ∈ s.currentReceipt, r.authority = authority ∧ r.nativeOutcome = .unknown

namespace AuthorityGate.Conflicted

variable {s s' : AuthorityGate} {c : Call} {a : Answer} {authority : OperationAuthority}

/-- Conflicted work is not closed. -/
theorem not_oldWorkClosed (h : s.Conflicted authority) : ¬ s.oldWorkClosed := by
  obtain ⟨r, hr, -, hunknown⟩ := h
  intro hclosed
  exact OperationReceipt.known_of_hasResolvedEffects (hclosed r hr).1.2 hunknown

/-- Nothing resolves a conflict. -/
theorem stable (h : s.Conflicted authority) (hs : s.Coherent) (step : Transition s c a s') :
    s'.Conflicted authority := by
  have hopen := h.not_oldWorkClosed
  obtain ⟨r, hr, hauthority, hunknown⟩ := h
  cases step.receiptEffect with
  | kept hkept => exact ⟨r, hkept ▸ hr, hauthority, hunknown⟩
  | admitted _ guard => exact absurd guard.closed hopen
  | @changed q q' present _ change after =>
    rw [Option.mem_def, present, Option.some.injEq] at hr
    subst hr
    refine ⟨q', after, change.authority_eq.trans hauthority, ?_⟩
    rcases change.evolves (hs.receipts q present) with hpending | hsame | hunknown'
    · rw [hunknown] at hpending
      cases hpending
    · exact hsame.trans hunknown
    · exact hunknown'

/-- A conflict blocks admission, rebinding, output and settlement. -/
theorem blocks (h : s.Conflicted authority) (hs : s.Coherent) (step : Transition s c a s') :
    ¬ Admitted ⟨s, c, a, s'⟩ ∧ ¬ Rebinds ⟨s, c, a, s'⟩ ∧ ¬ Resolves ⟨s, c, a, s'⟩ := by
  have hopen := h.not_oldWorkClosed
  obtain ⟨r, hr, -, hunknown⟩ := h
  refine ⟨?_, ?_, ?_⟩
  · intro hadmitted
    obtain ⟨_, _, -, -, -, hexclusive⟩ :=
      Transition.admission_exclusive (e := ⟨s, c, a, s'⟩) step hadmitted
    exact (hexclusive r hr).2.2.1 hunknown
  · rintro ⟨happlied, ⟨b, providerId, evidence, now, hinput⟩ | ⟨b, now, hinput⟩⟩
    · obtain ⟨guard, -⟩ := Transition.rebinding (e := ⟨s, c, a, s'⟩) step hinput happlied
      exact hopen guard.closed
    · obtain ⟨_, -, -, ⟨-, _, -, -, hclosed, -⟩, -⟩ :=
        Transition.commits (e := ⟨s, c, a, s'⟩) step hinput happlied
      exact hopen hclosed
  · rintro ⟨haccepted, hcall⟩
    dsimp only [EvidenceAccepted] at haccepted hcall
    cases step with
    | noEffect h =>
      subst haccepted
      exact absurd rfl h
    | operation present _ step =>
      rw [Option.mem_def, present, Option.some.injEq] at hr
      subst hr
      cases step with
      | acceptOutput _ _ _ _ _ succeeded => rw [hunknown] at succeeded; cases succeeded
      | withholdOutput _ rests =>
        have houtcome :=
          OperationReceipt.nonDelivery_outcome (hs.receipts _ present).recorded rests
        simp [hunknown] at houtcome
      | settle _ _ _ _ _ _ _ _ resolved =>
        exact OperationReceipt.known_of_hasResolvedEffects resolved hunknown
      | claim | cancel | expire | acknowledge | notSubmitted => simp at hcall
    | _ => simp at hcall

end AuthorityGate.Conflicted

/-- Conflicting terminals block for good: the outcome is unknown exactly when two different
terminal kinds were accepted, and from then on nothing is admitted, rebound, delivered,
withheld or settled, and the authority stays blocked. -/
theorem Run.conflict_blocks (run : Run) :
    (∀ r ∈ run.final.currentReceipt,
      (r.nativeOutcome = .unknown ↔ TerminalsConflict run.history r.authority)) ∧
      ∀ h e t, run.history = h ++ e :: t → ∀ r ∈ e.post.currentReceipt,
        r.nativeOutcome = .unknown →
          (∀ d ∈ t, ¬ Admitted d ∧ ¬ Rebinds d ∧ ¬ Resolves d) ∧
          ∃ q ∈ run.final.currentReceipt, q.authority = r.authority ∧
            q.nativeOutcome = .unknown ∧ q.authorityDisposition = .blockedUnknown := by
  refine ⟨run.unknown_iff_conflict, ?_⟩
  intro h e t heq r hr hunknown
  obtain ⟨hfinal, hlater⟩ := run.stable_rule (P := fun s ↦ s.Conflicted r.authority)
    (fun s c a s' hs step hc ↦ hc.stable hs step) heq ⟨r, hr, rfl, hunknown⟩
  constructor
  · intro d hd
    obtain ⟨hpre, step⟩ := run.transition (e := d) (by simp [heq, hd])
    exact (hlater d hd).blocks hpre step
  · obtain ⟨q, hq, hauthority, hunknown'⟩ := hfinal
    have hrefreshed := (run.coherent.receipts q hq).refreshed
    refine ⟨q, hq, hauthority, hunknown', ?_⟩
    rw [hrefreshed, OperationReceipt.computedDisposition, if_pos hunknown']

end RobotHarness
