import RobotHarness.Base.Since
import RobotHarness.Core.Coherence

/-!
# Arguing about runs

Every event of a run is a transition from a coherent gate. So a relation between history
and gate, or a property that has been established, needs a proof for one transition only.
-/

namespace RobotHarness

/-! ### What an event did -/

/-- Evidence was newly accepted. -/
def EvidenceAccepted (e : GateEvent) : Prop := e.output = .evidence .accepted

/-- A cancellation or an expiry was applied. -/
def ControlApplied (e : GateEvent) : Prop :=
  ∃ decision, e.output = .control decision ∧ decision.status = .applied

/-- A withdrawal, the start of a rebinding or a commit was applied. -/
def BindingApplied (e : GateEvent) : Prop :=
  ∃ decision, e.output = .binding decision ∧ decision.status = .applied

/-- An operation was admitted. -/
def Admitted (e : GateEvent) : Prop :=
  ∃ decision, e.output = .admission decision ∧ decision.status = .admitted

/-- A dispatch was claimed. -/
def Claimed (e : GateEvent) : Prop := e.output = .dispatch true

/-- What an event contributes to a list read off the history comes last. -/
theorem filterMap_snoc {β : Type} (f : GateEvent → Option β) (h : List GateEvent)
    (e : GateEvent) : (h ++ [e]).filterMap f = h.filterMap f ++ (f e).toList := by
  rw [List.filterMap_append]
  cases he : f e <;> simp [he]

/-! ### Applied controls of the binding -/

/-- What an applied withdrawal does: it discards a candidate, or withdraws the configured
binding with its current operation, when that is not over yet. -/
inductive Withdrawal (s : AuthorityGate) (b : BindingIdentity) (now : MonotonicTime)
    (s' : AuthorityGate) : Prop where
  | discard {c : Candidate} (candidate : s.candidate = some c) (binding : b = c.binding)
      (state : s' = { s.withdrawn now with candidate := none })
  | idle (binding : b = s.config.binding)
      (settled : ∀ r ∈ s.currentReceipt,
        r.authority.binding = s.config.binding → r.isReleasable)
      (state : s' = { s.withdrawn now with withdrawnAt := some now })
  | current {a : Answer} {r : OperationReceipt} (binding : b = s.config.binding)
      (present : s.currentReceipt = some r)
      (change : ReceiptStep s (.withdrawBinding b now) a r ((r.withdrawAt now).revoke now).2)
      (state : s' =
        { s.withdrawn now with
          withdrawnAt := some now
          currentReceipt := some ((r.withdrawAt now).revoke now).2 })

namespace Transition

variable {e : GateEvent} {b : BindingIdentity} {now : MonotonicTime}

/-- A withdrawal that is applied is one of these. -/
theorem withdrawal (step : Transition e.pre e.input e.output e.post)
    (hinput : e.input = .withdrawBinding b now) (happlied : BindingApplied e) :
    Withdrawal e.pre b now e.post := by
  obtain ⟨s, c, a, s'⟩ := e
  obtain ⟨decision, hanswer, happlied⟩ := happlied
  dsimp only at hinput hanswer step ⊢
  subst hinput
  cases step with
  | noEffect h =>
    subst hanswer
    exact absurd happlied h.1
  | discard candidate => exact .discard candidate rfl rfl
  | withdrawIdle _ _ _ _ settled => exact .idle rfl settled rfl
  | withdrawCurrent noCandidate opened unwithdrawn time present _ unreleased =>
    exact .current rfl present (.withdraw noCandidate opened unwithdrawn time unreleased) rfl
  | operation _ _ change => cases change

/-- The start of a rebinding that is applied passed its guards and hands out the candidate. -/
theorem rebinding {providerId : String} {evidence : BindingReadinessEvidence}
    (step : Transition e.pre e.input e.output e.post)
    (hinput : e.input = .beginRebind b providerId evidence now) (happlied : BindingApplied e) :
    BeginGuard e.pre providerId evidence now ∧ b = e.pre.config.binding ∧
      e.output = .binding
        { status := .applied
          candidate := some (e.pre.newCandidate providerId evidence now).binding } ∧
      e.post = e.pre.prepared providerId evidence now := by
  obtain ⟨s, c, a, s'⟩ := e
  obtain ⟨decision, hanswer, happlied⟩ := happlied
  dsimp only at hinput hanswer step ⊢
  subst hinput
  cases step with
  | noEffect h =>
    subst hanswer
    exact absurd happlied h.1
  | begin guard => exact ⟨guard, rfl, rfl, rfl⟩
  | operation _ _ change => cases change

/-- A commit that is applied puts the candidate in the place of the configured binding. -/
theorem commits (step : Transition e.pre e.input e.output e.post)
    (hinput : e.input = .commitRebind b now) (happlied : BindingApplied e) :
    ∃ c, e.pre.candidate = some c ∧ c.binding = b ∧ e.pre.canCommit now ∧
      e.post = e.pre.committed c now := by
  obtain ⟨s, c, a, s'⟩ := e
  obtain ⟨decision, hanswer, happlied⟩ := happlied
  dsimp only at hinput hanswer step ⊢
  subst hinput
  cases step with
  | noEffect h =>
    subst hanswer
    exact absurd happlied h.1
  | commit candidate committable => exact ⟨_, candidate, rfl, committable, rfl⟩
  | operation _ _ change => cases change

/-- Only the binding of the configuration ever changes. -/
theorem config_eq_withBinding {s s' : AuthorityGate} {c : Call} {a : Answer}
    (step : Transition s c a s') : s'.config = { s.config with binding := s'.config.binding } := by
  cases step with
  | @startup e index =>
    obtain ⟨idle, ready, sink, initialization, -, heq⟩ := s.recordStartup_eq index e
    rw [heq]
  | _ => rfl

end Transition

/-! ### Rules -/

namespace Run

variable (run : Run)

private theorem coherent_next (s : AuthorityGate) (c : Call) (h : s.Coherent) :
    (gate.next s c).Coherent :=
  (gate_transition s c).coherent h

/-- Every event is a transition from a coherent gate. -/
theorem transition {e : GateEvent} (he : e ∈ run.history) :
    e.pre.Coherent ∧ Transition e.pre e.input e.output e.post := by
  have hcoherent := gate.invariant_pre coherent_next
    (AuthorityGate.coherent_initial run.config) he
  have hevent := gate.eq_event_of_mem_trace he
  refine ⟨hcoherent, ?_⟩
  rw [hevent]
  exact gate_transition e.pre e.input

/-- Every event is the answer of the gate that it meets. -/
theorem call_eq {e : GateEvent} (he : e ∈ run.history) :
    e.pre.call e.input = (e.output, e.post) := by
  have hevent := gate.eq_event_of_mem_trace he
  rw [hevent]
  rfl

/-- A relation between history and gate that every transition keeps holds of every run. -/
theorem history_rule {Q : List GateEvent → AuthorityGate → Prop} (hstart : Q [] run.start)
    (hstep : ∀ h s c a s', s.Coherent → s.call c = (a, s') → Transition s c a s' → Q h s →
      Q (h ++ [⟨s, c, a, s'⟩]) s') : Q run.history run.final := by
  have hrule := gate.history_run (Q := fun h s ↦ s.Coherent ∧ Q h s)
    (fun h s c ⟨hs, hq⟩ ↦
      ⟨coherent_next s c hs, hstep h s c _ _ hs rfl (gate_transition s c) hq⟩)
    ⟨AuthorityGate.coherent_initial run.config, hstart⟩ run.calls
  exact hrule.2

/-- Such a relation also holds between each event's past and the gate that it meets. -/
theorem history_rule_pre {Q : List GateEvent → AuthorityGate → Prop}
    (hstart : Q [] run.start)
    (hstep : ∀ h s c a s', s.Coherent → s.call c = (a, s') → Transition s c a s' → Q h s →
      Q (h ++ [⟨s, c, a, s'⟩]) s')
    {h t : List GateEvent} {e : GateEvent} (heq : run.history = h ++ e :: t) : Q h e.pre := by
  have hrule := gate.history_pre (Q := fun h s ↦ s.Coherent ∧ Q h s)
    (fun h s c ⟨hs, hq⟩ ↦
      ⟨coherent_next s c hs, hstep h s c _ _ hs rfl (gate_transition s c) hq⟩)
    ⟨AuthorityGate.coherent_initial run.config, hstart⟩ heq
  exact hrule.2

/-- A property that every transition keeps holds ever after it has been established. -/
theorem stable_rule {P : AuthorityGate → Prop}
    (hstep : ∀ s c a s', s.Coherent → Transition s c a s' → P s → P s')
    {h t : List GateEvent} {e : GateEvent} (heq : run.history = h ++ e :: t) (he : P e.post) :
    P run.final ∧ ∀ d ∈ t, P d.pre := by
  have hmem : e ∈ run.history := by simp [heq]
  obtain ⟨hpre, htrans⟩ := run.transition hmem
  have hrule := gate.stable_after (P := fun s ↦ s.Coherent ∧ P s)
    (fun s c ⟨hs, hp⟩ ↦
      ⟨coherent_next s c hs, hstep s c _ _ hs (gate_transition s c) hp⟩)
    heq ⟨htrans.coherent hpre, he⟩
  exact ⟨hrule.1.2, fun d hd ↦ (hrule.2 d hd).2⟩

/-- A property that the allowed transitions keep holds at the end when all events since it
was established are allowed. -/
theorem stable_while {P : AuthorityGate → Prop} {A : GateEvent → Prop}
    (hstep : ∀ s c a s', s.Coherent → Transition s c a s' → A ⟨s, c, a, s'⟩ → P s → P s')
    {h t : List GateEvent} {e : GateEvent} (heq : run.history = h ++ e :: t) (he : P e.post)
    (hallowed : ∀ d ∈ t, A d) : P run.final := by
  have hmem : e ∈ run.history := by simp [heq]
  obtain ⟨hpre, htrans⟩ := run.transition hmem
  have hrule := gate.stable_while (P := fun s ↦ s.Coherent ∧ P s)
    (fun s c ⟨hs, hp⟩ hallow ↦
      ⟨coherent_next s c hs, hstep s c _ _ hs (gate_transition s c) hallow hp⟩)
    heq ⟨htrans.coherent hpre, he⟩ hallowed
  exact hrule.2

private theorem pairwise_of_splits {R : GateEvent → GateEvent → Prop} {l : List GateEvent}
    (h : ∀ before e after, l = before ++ e :: after → ∀ d ∈ after, R e d) : l.Pairwise R := by
  induction l with
  | nil => exact List.Pairwise.nil
  | cons e l ih =>
    refine List.Pairwise.cons (h [] e l rfl) (ih fun before d after heq ↦ ?_)
    exact h (e :: before) d after (by rw [heq]; rfl)

/-- What no later event contributes again is listed without repetition. -/
theorem nodup_filterMap {β : Type} (f : GateEvent → Option β)
    (honce : ∀ h e t b, run.history = h ++ e :: t → f e = some b → ∀ d ∈ t, f d ≠ some b) :
    (run.history.filterMap f).Nodup := by
  rw [List.Nodup, List.pairwise_filterMap]
  apply pairwise_of_splits
  intro h e t heq d hd b hb c hc hbc
  exact honce h e t b heq hb d hd (hbc ▸ hc)

end Run

/-! ### Facts about one operation -/

/-- The operation was admitted before, and as long as its receipt is current the receipt has
the property. -/
def AuthorityGate.Pinned (s : AuthorityGate) (id : OperationId)
    (P : OperationReceipt → Prop) : Prop :=
  s.Issued id ∧ ∀ r ∈ s.currentReceipt, r.authority.operationId = id → P r

/-- What follows from a pinned property is pinned. -/
theorem AuthorityGate.Pinned.mono {P Q : OperationReceipt → Prop} {s : AuthorityGate}
    {id : OperationId} (h : s.Pinned id P) (himp : ∀ r, P r → Q r) : s.Pinned id Q :=
  ⟨h.1, fun r hr hid ↦ himp r (h.2 r hr hid)⟩

/-- A property of receipts that no change takes away stays pinned: a later admission has
another id. -/
theorem Transition.pinned {P : OperationReceipt → Prop} {s s' : AuthorityGate} {c : Call}
    {a : Answer} {id : OperationId} (step : Transition s c a s') (hs : s.Coherent)
    (hstep : ∀ r r', ReceiptStep s c a r r' → r.Integrity → P r → P r')
    (h : s.Pinned id P) : s'.Pinned id P := by
  refine ⟨step.issued h.1, fun r' hr' hid ↦ ?_⟩
  rw [Option.mem_def] at hr'
  cases step.receiptEffect with
  | kept hkept => exact h.2 r' (hkept ▸ hr') hid
  | admitted _ guard _ hstate =>
    subst hstate
    cases hr'
    have hnext : s.nextOperationId = id := hid
    exact absurd (hnext ▸ h.1) (AuthorityGate.not_issued_next guard.unexhausted)
  | @changed r q present _ change after =>
    rw [after, Option.some.injEq] at hr'
    subst hr'
    have hsame : r.authority.operationId = id := by rw [← change.authority_eq, hid]
    exact hstep r _ change (hs.receipts r present) (h.2 r present hsame)

/-- What is true of the current receipt is pinned. -/
theorem AuthorityGate.Coherent.pin {P : OperationReceipt → Prop} {s : AuthorityGate}
    (hs : s.Coherent) {r : OperationReceipt} (hr : s.currentReceipt = some r) (h : P r) :
    s.Pinned r.authority.operationId P := by
  refine ⟨(hs.receiptIssued r hr).2, fun q hq _ ↦ ?_⟩
  rw [Option.mem_def, hr, Option.some.injEq] at hq
  exact hq ▸ h

/-- What a change of the receipt establishes is pinned. -/
theorem AuthorityGate.Coherent.pin_change {P : OperationReceipt → Prop} {s s' : AuthorityGate}
    {c : Call} {a : Answer} {r r' : OperationReceipt} (hs' : s'.Coherent)
    (step : ReceiptStep s c a r r') (hr' : s'.currentReceipt = some r') (h : P r') :
    s'.Pinned r.authority.operationId P :=
  step.authority_eq ▸ hs'.pin hr' h

end RobotHarness
