import RobotHarness.Core.Delivery
import RobotHarness.Python.Coordination

/-!
# Sound gates of Python

What holds of the gate of a session in every run whose clock has reached no later time: its
evidence is no later and its sequence not ahead, its binding was never withdrawn, and the
operation that it answers for is the one of its receipt.
-/

namespace RobotHarness.Python

open Fallible (Moves)

/-- The largest sequence number, after which no evidence is drawn. -/
def lastSequence : UInt64 := 0xFFFFFFFFFFFFFFFF

/-- What holds of a gate whose clock has reached a time. -/
structure GateState.Sound (g : GateState) (t : MonotonicTime) : Prop where
  coherent : g.gate.Coherent
  bounded : g.gate.Bounded t g.sequence
  phase : g.gate.bindingPhase ≠ .withdrawn ∧ g.gate.bindingPhase ≠ .preparing
  current : g.authority = g.gate.currentReceipt.map OperationReceipt.authority
  bound : ∀ r ∈ g.gate.currentReceipt, r.authority.binding = g.gate.config.binding
  sink : g.gate.config.resultSinkObserver = sinkSource
  settlement : g.gate.config.settlementEvidenceSource = settlementSource
  scope : g.gate.config.settlementScope = g.settlementScope

/-- The output of the current operation is not disposed of. -/
def GateState.Undisposed (g : GateState) : Prop :=
  ∃ r ∈ g.gate.currentReceipt, r.output = .pending

/-- A call that Python makes of its gate, apart from admissions: no call of a rebinding. -/
def PlainCall : Call → Prop
  | .withdrawBinding _ _ | .beginRebind _ _ _ _ | .observeRebindReadiness _ | .commitRebind _ _
  | .admitRequest _ => False
  | _ => True

/-- A call of a gate keeps the binding in use. -/
theorem keeps_binding {s s' : AuthorityGate} {c : Call} {a : Answer}
    (step : Transition s c a s')
    (phase : s.bindingPhase ≠ .withdrawn ∧ s.bindingPhase ≠ .preparing)
    (plain : PlainCall c ∨ ∃ request, c = .admitRequest request) :
    s'.config = s.config ∧ s'.bindingPhase ≠ .withdrawn ∧ s'.bindingPhase ≠ .preparing := by
  cases step with
  | noEffect => exact ⟨rfl, phase⟩
  | @startup e index =>
    obtain ⟨_, _, _, _, -, heq⟩ := s.recordStartup_eq index e
    rw [heq]
    exact ⟨rfl, phase⟩
  | discard | withdrawIdle | withdrawCurrent | begin | commit =>
    rcases plain with plain | ⟨_, hcall⟩
    · cases plain
    · cases hcall
  | readiness | readinessConflict =>
    rcases plain with plain | ⟨_, hcall⟩
    · cases plain
    · cases hcall
  | close =>
    refine ⟨rfl, ?_, ?_⟩
    · simp [AuthorityGate.closeAdmission]
    · simp [AuthorityGate.closeAdmission]
  | capabilities | candidateCapabilities | capabilitiesConflict | admission | operation | native =>
    exact ⟨rfl, phase⟩

/-- A bounded call that admits nothing keeps a gate sound, and makes no output pending. -/
theorem GateState.Sound.through {g : GateState} {t : MonotonicTime} (h : g.Sound t) {c : Call}
    (plain : PlainCall c) (hbounded : c.Bounded t g.sequence) :
    ({ g with gate := (g.gate.call c).2 } : GateState).Sound t ∧
      (({ g with gate := (g.gate.call c).2 } : GateState).Undisposed → g.Undisposed) := by
  have step : Transition g.gate c (g.gate.call c).1 (g.gate.call c).2 := gate_transition g.gate c
  have hadmits : ∀ request, c ≠ .admitRequest request := by
    rintro request rfl
    exact plain
  obtain ⟨hconfig, hphase⟩ := keeps_binding step h.phase (.inl plain)
  have hauthority := step.authority_eq hadmits
  constructor
  · constructor
    case coherent => exact step.coherent h.coherent
    case bounded => exact step.bounded h.bounded hbounded
    case phase => exact hphase
    case current => exact h.current.trans hauthority.symm
    case bound =>
      intro r hr
      change r.authority.binding = (g.gate.call c).2.config.binding
      rw [hconfig]
      have hsome : some r.authority = g.gate.currentReceipt.map OperationReceipt.authority := by
        rw [← hauthority, show (g.gate.call c).2.currentReceipt = some r from hr]
        rfl
      obtain ⟨q, hq, hsame⟩ := Option.map_eq_some_iff.mp hsome.symm
      rw [← hsame]
      exact h.bound q hq
    case sink => exact hconfig ▸ h.sink
    case settlement => exact hconfig ▸ h.settlement
    case scope => exact hconfig ▸ h.scope
  · rintro ⟨r, hr, hpending⟩
    cases step.receiptEffect with
    | kept hkept => exact ⟨r, hkept ▸ hr, hpending⟩
    | admitted call => exact absurd call (hadmits _)
    | @changed q q' present _ change after =>
      cases after.symm.trans hr
      refine ⟨q, present, ?_⟩
      by_contra hne
      exact hne ((change.output_eq hne).symm.trans hpending)

/-- What a program does to a gate whose clock has reached a time. -/
structure Keeps (t : MonotonicTime) (g h : GateState) : Prop where
  sound : g.Sound t → h.Sound t
  authority : SameAuthority g h
  sequence : h.sequence ≠ lastSequence → g.sequence ≠ lastSequence
  undisposed : g.Sound t → h.Undisposed → g.Undisposed

namespace Keeps

variable {t : MonotonicTime}

/-- A gate that does not change is kept sound. -/
theorem refl (g : GateState) : Keeps t g g := ⟨id, rfl, id, fun _ h ↦ h⟩

/-- Two programs after each other keep the gate sound when both do. -/
theorem trans (g h k : GateState) (hgh : Keeps t g h) (hhk : Keeps t h k) : Keeps t g k where
  sound := hhk.sound ∘ hgh.sound
  authority := SameAuthority.trans g h k hgh.authority hhk.authority
  sequence := hgh.sequence ∘ hhk.sequence
  undisposed := fun hg hk ↦ hgh.undisposed hg (hhk.undisposed (hgh.sound hg) hk)

end Keeps

namespace GateState

variable {t : MonotonicTime} {α β : Type}

/-- The reading does not lie beyond the time. -/
def Within (t : MonotonicTime) (now : ℕ) : Prop := now ≤ t.toNat

/-- A reading that lies within a time is converted to no later one. -/
theorem Within.converted {now : ℕ} {stamp : MonotonicTime} (h : Within t now)
    (hstamp : unsignedValue now = .ok stamp) : stamp ≤ t := by
  unfold unsignedValue at hstamp
  split at hstamp
  · next hlt =>
    cases hstamp
    rw [UInt64.le_iff_toNat_le, UInt64.toNat_ofNat_of_lt' hlt]
    exact h
  · cases hstamp

private theorem keepThen {p : GateProgram α} {k : α → GateProgram β} (hp : Moves (Keeps t) p)
    (hk : ∀ a, Moves (Keeps t) (k a)) : Moves (Keeps t) (p >>= k) :=
  .bind Keeps.trans hp hk

private theorem keepReturn (a : α) : Moves (Keeps t) (pure a : GateProgram α) :=
  .pure Keeps.refl

private theorem keepRead (f : GateState → α) : Moves (Keeps t) (Fallible.read f : GateProgram α) :=
  .read Keeps.refl

private theorem keepFail (e : Failure) : Moves (Keeps t) (Fallible.raise e : GateProgram α) :=
  .raise Keeps.refl

private theorem keepAnswer {r : Except Failure α} {k : α → GateProgram β}
    (hk : ∀ a, r = .ok a → Moves (Keeps t) (k a)) :
    Moves (Keeps t) (Fallible.answer r >>= k) := by
  intro g
  cases r with
  | error e => exact Keeps.refl g
  | ok a => exact hk a rfl g

private theorem keeps_operationValue (operation : OperationId) :
    Moves (Keeps t) (operationValue operation) := by
  refine keepThen (keepRead _) fun authority ↦ ?_
  cases authority with
  | none => exact keepFail _
  | some authority => exact .ite (fun _ ↦ keepReturn _) fun _ ↦ keepFail _

/-- A call without evidence. -/
private theorem keepCall {f : AuthorityGate → α × AuthorityGate} {c : Call}
    (hf : ∀ s, (f s).2 = (s.call c).2) (plain : PlainCall c) (hbounded : ∀ n, c.Bounded t n) :
    Moves (Keeps t) (onGate f) := by
  intro g
  have hthrough : (onGate f g).2 = { g with gate := (g.gate.call c).2 } := by
    rw [onGate, hf]
  rw [hthrough]
  constructor
  case sound => exact fun h ↦ (h.through plain (hbounded g.sequence)).1
  case authority => rfl
  case sequence => exact id
  case undisposed => exact fun h ↦ (h.through plain (hbounded g.sequence)).2

/-- Evidence is drawn under a new sequence number. -/
private theorem keepRecord (source : String) (now : MonotonicTime) :
    Moves (Keeps t) (record source now) := by
  intro g
  unfold record
  split
  · exact Keeps.refl g
  next hroom =>
  constructor
  case sound =>
    intro h
    have hle : g.sequence ≤ g.sequence + 1 := by grind
    exact { h with bounded := h.bounded.mono le_rfl hle }
  case authority => rfl
  case sequence => exact fun _ ↦ hroom
  case undisposed => exact fun _ h ↦ h

/-- A call with evidence that is drawn for it. -/
private theorem keepEvidence {source : String} {now : MonotonicTime} (hnow : now ≤ t)
    {f : EvidenceRecord → AuthorityGate → α × AuthorityGate} {c : EvidenceRecord → Call}
    (hf : ∀ e s, (f e s).2 = (s.call (c e)).2) (plain : ∀ e, PlainCall (c e))
    (hbounded : ∀ (e : EvidenceRecord) (n : UInt64), e.Bounded t n → (c e).Bounded t n) :
    Moves (Keeps t) (record source now >>= fun e ↦ onGate (f e)) := by
  intro g
  have hdrawn := keepRecord (t := t) source now g
  have hbind : ((record source now >>= fun e ↦ onGate (f e)) g).2 =
      match record source now g with
      | (.ok e, h) => { h with gate := (h.gate.call (c e)).2 }
      | (.error _, h) => h := by
    simp only [Bind.bind, Fallible.bind]
    rcases record source now g with ⟨_ | e, h⟩
    · rfl
    · dsimp only
      rw [onGate, hf]
  rw [hbind]
  unfold record at hdrawn ⊢
  split at hdrawn
  · next hlast =>
    rw [if_pos hlast]
    exact hdrawn
  next hroom =>
  rw [if_neg hroom]
  dsimp only at hdrawn ⊢
  refine Keeps.trans _ _ _ hdrawn ?_
  constructor
  case sound =>
    intro h
    refine (h.through (plain _) (hbounded _ _ ⟨hnow, le_rfl⟩)).1
  case authority => rfl
  case sequence => exact id
  case undisposed =>
    intro h
    exact (h.through (plain _) (hbounded _ _ ⟨hnow, le_rfl⟩)).2

private theorem keepOperation {operation : OperationId} {now : ℕ} (hnow : Within t now)
    {call : OperationAuthority → MonotonicTime → GateProgram α}
    (hcall : ∀ authority stamp, stamp ≤ t → Moves (Keeps t) (call authority stamp)) :
    Moves (Keeps t) (operationTime operation now call) :=
  keepThen (keeps_operationValue operation) fun authority ↦
    keepAnswer fun stamp hstamp ↦ hcall authority stamp (hnow.converted hstamp)

/-- `startup` keeps the gate sound up to the time that it is given. -/
theorem keeps_startup (kind : StartupEvidenceKind) (observed : Bool) {now : ℕ}
    (hnow : Within t now) : Moves (Keeps t) (startup kind observed now) :=
  keepAnswer fun _ hstamp ↦ keepThen (keepRead _) fun binding ↦
    keepEvidence (hnow.converted hstamp)
      (c := fun e ↦ .observeStartup ⟨kind, binding, e, observed⟩) (fun _ _ ↦ rfl)
      (fun _ ↦ trivial) fun _ _ h ↦ h

/-- `capabilities` keeps the gate sound up to the time that it is given. -/
theorem keeps_capabilities (available : Bool) {now : ℕ} (validUntil : ℕ) (hnow : Within t now) :
    Moves (Keeps t) (capabilities available now validUntil) :=
  keepAnswer fun _ hstamp ↦ keepAnswer fun validUntil _ ↦ keepThen (keepRead _) fun state ↦
    keepEvidence (hnow.converted hstamp)
      (c := fun e ↦ .observeExecutionCapabilities ⟨state.binding, state.capability,
        state.profile, state.maximumUnits, available, e, validUntil⟩) (fun _ _ ↦ rfl)
      (fun _ ↦ trivial) fun _ _ h ↦ h

/-- `dispatch` keeps the gate sound up to the time that it is given. -/
theorem keeps_dispatch (operation : OperationId) {now : ℕ} (hnow : Within t now) :
    Moves (Keeps t) (dispatch operation now) :=
  keepOperation hnow fun authority stamp hstamp ↦
    keepCall (c := .claimDispatch authority stamp) (fun _ ↦ rfl) trivial fun _ ↦ hstamp

/-- `tick` keeps the gate sound up to the time that it is given. -/
theorem keeps_tick (operation : OperationId) {now : ℕ} (hnow : Within t now) :
    Moves (Keeps t) (tick operation now) :=
  keepOperation hnow fun authority stamp hstamp ↦
    keepThen (keepCall (c := .observeTime authority stamp) (fun _ ↦ rfl) trivial fun _ ↦ hstamp)
      fun _ ↦ keepReturn _

/-- `cancel` keeps the gate sound up to the time that it is given. -/
theorem keeps_cancel (operation : OperationId) {now : ℕ} (hnow : Within t now) :
    Moves (Keeps t) (cancel operation now) :=
  keepOperation hnow fun authority stamp hstamp ↦
    keepThen (keepCall (c := .requestCancel authority stamp) (fun _ ↦ rfl) trivial fun _ ↦ hstamp)
      fun _ ↦ keepReturn _

/-- `nonSubmission` keeps the gate sound up to the time that it is given. -/
theorem keeps_nonSubmission (operation : OperationId) {now : ℕ} (hnow : Within t now) :
    Moves (Keeps t) (nonSubmission operation now) :=
  keepOperation hnow fun authority _ hstamp ↦
    keepEvidence hstamp (c := fun e ↦ .observeNonSubmission ⟨authority, e⟩) (fun _ _ ↦ rfl)
      (fun _ ↦ trivial) fun _ _ h ↦ h

/-- `settle` keeps the gate sound up to the time that it is given. -/
theorem keeps_settle (operation : OperationId) {now : ℕ} (hnow : Within t now) :
    Moves (Keeps t) (settle operation now) :=
  keepOperation hnow fun authority _ hstamp ↦ keepThen (keepRead _) fun scope ↦
    keepEvidence hstamp (c := fun e ↦ .observeSettlement ⟨authority, scope, true, e⟩)
      (fun _ _ ↦ rfl) (fun _ ↦ trivial) fun _ _ h ↦ h

/-- `receipt` keeps the gate sound up to the time that it is given. -/
theorem keeps_receipt (operation : OperationId) : Moves (Keeps t) (receipt operation) :=
  keepThen (keeps_operationValue operation) fun _ ↦ keepRead _

/-- `canDeliver` keeps the gate sound up to the time that it is given. -/
theorem keeps_canDeliver (operation : OperationId) : Moves (Keeps t) (canDeliver operation) :=
  keepThen (keeps_operationValue operation) fun _ ↦ keepRead _

/-- `native` keeps the gate sound up to the time that it is given. -/
theorem keeps_native (operation : OperationId) (kind : NativeEventKind) {now : ℕ}
    (nativeIdentity : Option String) (hnow : Within t now) :
    Moves (Keeps t) (native operation kind now nativeIdentity) := by
  refine keepThen (keeps_operationValue operation) fun authority ↦
    keepAnswer fun stamp hstamp ↦ ?_
  have hevidence (identity : String) :
      Moves (Keeps t) (record nativeSource stamp >>= fun e ↦
        onGate (·.observeNative ⟨authority, identity, kind, e⟩)) :=
    keepEvidence (hnow.converted hstamp) (c := fun e ↦ .observeNative ⟨authority, identity, kind, e⟩)
      (fun _ _ ↦ rfl) (fun _ ↦ trivial) fun _ _ h ↦ h
  cases nativeIdentity with
  | none => exact keepThen (keepReturn _) hevidence
  | some identity => exact keepAnswer fun identity _ ↦ hevidence identity

/-- `output` keeps the gate sound up to the time that it is given. -/
theorem keeps_output (operation : OperationId) (publication : Publication) (reference : String)
    {now : ℕ} (hnow : Within t now) :
    Moves (Keeps t) (output operation publication reference now) := by
  refine keepThen (keeps_operationValue operation) fun authority ↦ keepAnswer fun reference _ ↦
    keepAnswer fun stamp hstamp ↦ ?_
  have hwithheld (source : String) (reason : OutputNonDeliveryReason) :
      Moves (Keeps t) (record source stamp >>= fun e ↦
        onGate (·.observeOutputNotDelivered ⟨authority, reason, reference, e⟩)) :=
    keepEvidence (hnow.converted hstamp)
      (c := fun e ↦ .observeOutputNotDelivered ⟨authority, reason, reference, e⟩)
      (fun _ _ ↦ rfl) (fun _ ↦ trivial) fun _ _ h ↦ h
  cases publication with
  | accepted =>
    exact keepEvidence (hnow.converted hstamp)
      (c := fun e ↦ .observeOutputAccepted ⟨authority, reference, e⟩) (fun _ _ ↦ rfl)
      (fun _ ↦ trivial) fun _ _ h ↦ h
  | noOutput => exact hwithheld settlementSource _
  | authorityRevoked => exact hwithheld sinkSource _
  | sinkRejected => exact hwithheld sinkSource _

/-- `close` keeps the gate sound up to the time that it is given. -/
theorem keeps_close : Moves (Keeps t) close :=
  keepCall (f := fun s ↦ ((), s.closeAdmission)) (c := .closeAdmission) (fun _ ↦ rfl) trivial
    fun _ ↦ trivial

/-- A text is converted to itself. -/
theorem eq_of_textValue {text text' : String} {allowEmpty : Bool}
    (h : textValue text allowEmpty = .ok text') : text' = text := by
  unfold textValue at h
  split at h
  · cases h
  split at h
  · cases h
  · cases h
    rfl

/-- An admission, or its refusal, keeps a gate sound. -/
theorem Sound.admits {g : GateState} (h : g.Sound t) (request : OperationRequest)
    (hrequested : request.requestedAt ≤ t) :
    ({ g with
        gate := (g.gate.admitRequest request).2
        authority := if (g.gate.admitRequest request).1.authority.isSome then
          (g.gate.admitRequest request).1.authority else g.authority } : GateState).Sound t ∧
      ((g.gate.admitRequest request).1.status ≠ .admitted →
        (g.gate.admitRequest request).2 = g.gate) := by
  have hstep : Transition g.gate (.admitRequest request)
      (.admission (g.gate.admitRequest request).1) (g.gate.admitRequest request).2 :=
    gate_transition g.gate (.admitRequest request)
  have hcases := g.gate.admit_cases request
  change (∃ decision, (Answer.admission (g.gate.admitRequest request).1,
      (g.gate.admitRequest request).2) = (.admission decision, g.gate) ∧ _) ∨
    AdmitGuard g.gate request ∧ (Answer.admission (g.gate.admitRequest request).1,
      (g.gate.admitRequest request).2) = _ at hcases
  generalize g.gate.admitRequest request = answered at hstep hcases ⊢
  obtain ⟨decision, gate⟩ := answered
  rcases hcases with ⟨refusal, heq, hnone⟩ | ⟨hguard, heq⟩
  · cases heq
    have hkept : ¬ (decision.authority.isSome = true) := by
      rw [show decision.authority = none from hnone]
      exact Bool.false_ne_true
    rw [if_neg hkept]
    exact ⟨h, fun _ ↦ rfl⟩
  · cases heq
    refine ⟨?_, fun hne ↦ absurd rfl hne⟩
    constructor
    case coherent => exact hstep.coherent h.coherent
    case bounded => exact hstep.bounded h.bounded hrequested
    case phase => exact h.phase
    case current => rfl
    case bound =>
      intro r hr
      cases hr
      rfl
    case sink => exact h.sink
    case settlement => exact h.settlement
    case scope => exact h.scope

/-- What a request for an admission does to a gate whose clock has reached a time. -/
theorem admitRequest_keeps {g : GateState} (h : g.Sound t) (reference : String) (units : ℕ)
    (deadline : Option ℕ) {now : ℕ} (hnow : Within t now) :
    Fallible.Meets (admitRequest reference units deadline now) g
      (fun decision g' ↦ g'.Sound t ∧ textValue reference false = .ok reference ∧
        (decision.status ≠ .admitted → g'.gate = g.gate))
      fun _ g' ↦ g' = g := by
  unfold admitRequest
  cases htext : textValue reference false with
  | error e => simp
  | ok reference' =>
  obtain rfl := eq_of_textValue htext
  cases hunits : unsignedValue units with
  | error e => simp
  | ok units =>
  cases hstamp : unsignedValue now with
  | error e => simp
  | ok stamp =>
  have hadmit (deadline : Option UInt64) :=
    h.admits
      { capabilityId := g.capability
        effectDomain := g.binding.effectDomain
        opaqueRequestReference := reference'
        targetReference := reference'
        requestedAt := stamp
        deadline
        executionRequirements := some ⟨g.profile, units⟩ } (hnow.converted hstamp)
  simp only [Fallible.meets_bind, Fallible.meets_answer_ok]
  cases deadline with
  | none =>
    obtain ⟨hsound, hrefused⟩ := hadmit none
    exact ⟨hsound, trivial, hrefused⟩
  | some deadline =>
    dsimp only
    cases unsignedValue deadline with
    | error e => exact (rfl : g = g)
    | ok deadline =>
      obtain ⟨hsound, hrefused⟩ := hadmit (some deadline)
      exact ⟨hsound, trivial, hrefused⟩

end GateState

end RobotHarness.Python
