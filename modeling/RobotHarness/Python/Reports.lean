import RobotHarness.Core.Acceptance
import RobotHarness.Python.CoordinatorRun

/-!
# Reports about one operation

What the gate of Python answers to an owner that reports about its operation in order. Each call
raises an `OverflowError`, for want of a time or of a number, or the gate accepts it and the
operation goes on to its next stage.
-/

namespace RobotHarness.Python

open Fallible (Meets Moves)

/-! ### Stages -/

/-- How far an operation has come, and whether it has succeeded once it has ended. -/
inductive Stage where
  | admitted
  | claimed
  | running
  | ended (succeeded : Prop)
  | disposed
  | settled

/-- The outcome is known. -/
def Known (r : OperationReceipt) : Prop := r.nativeOutcome ≠ .pending ∧ r.nativeOutcome ≠ .unknown

/-- The receipt of an operation in a stage. -/
def AtStage (r : OperationReceipt) : Stage → Prop
  | .admitted => r.dispatch = .pending ∧ r.nativeOutcome = .pending ∧ r.output = .pending ∧
      r.settlement = .pending
  | .claimed => r.dispatch = .submitted ∧ r.nativeAcceptance = .pending ∧
      r.nativeOutcome = .pending ∧ r.output = .pending ∧ r.settlement = .pending
  | .running => r.nativeAcceptance = .accepted ∧
      r.nativeIdentity = GateState.episodeIdentity r.authority.operationId ∧
      r.nativeOutcome = .pending ∧ r.output = .pending ∧ r.settlement = .pending
  | .ended succeeded => Known r ∧ (r.nativeOutcome = .succeeded ↔ succeeded) ∧
      r.output = .pending ∧ r.settlement = .pending
  | .disposed => Known r ∧ r.output ≠ .pending ∧ r.settlement = .pending
  | .settled => r.settlement = .settled

/-- What a look at the deadline or a cancellation makes of a receipt: its stage is the same, and
a revocation is not taken back. -/
structure Revises (r r' : OperationReceipt) : Prop where
  authority : r'.authority = r.authority
  started : r'.nativeStarted = r.nativeStarted
  stage : ∀ stage, AtStage r stage → AtStage r' stage
  revoked : r.isRevoked → r'.isRevoked

namespace Revises

private theorem refl (r : OperationReceipt) : Revises r r := ⟨rfl, rfl, fun _ ↦ id, id⟩

/-- A cancellation. -/
theorem cancel (r : OperationReceipt) (t : MonotonicTime) :
    Revises r ((r.cancelAt t).revoke t).2 where
  authority := by rw [OperationReceipt.revoke_eq]; rfl
  started := by rw [OperationReceipt.revoke_eq]; rfl
  stage := by
    intro stage h
    rw [OperationReceipt.revoke_eq]
    cases stage <;> exact h
  revoked := fun _ ↦ OperationReceipt.isRevoked_revoke (.inl rfl) t

/-- An expiry. -/
theorem expire (r : OperationReceipt) (t : MonotonicTime) :
    Revises r ((r.expireAt t).revoke t).2 where
  authority := by rw [OperationReceipt.revoke_eq]; rfl
  started := by rw [OperationReceipt.revoke_eq]; rfl
  stage := by
    intro stage h
    rw [OperationReceipt.revoke_eq]
    cases stage <;> exact h
  revoked := fun _ ↦ OperationReceipt.isRevoked_revoke (.inr (.inl rfl)) t

end Revises

/-- The deadline lies within the readings. -/
def Due (r : OperationReceipt) (n : ℕ) : Prop := ∃ deadline ∈ r.deadline, deadline.toNat ≤ n

/-! ### Serving gates -/

/-- What the owner sees of a gate. -/
structure GateView where
  receipt : Option OperationReceipt
  nextOperationId : OperationId
  closed : Prop

/-- The same with a receipt. -/
abbrev GateView.bearing (v : GateView) (r : OperationReceipt) : GateView :=
  { v with receipt := some r }

namespace GateState

/-- The identities and sources with which `gate_init` configures a gate. -/
structure Configured (g : GateState) : Prop where
  config : ∃ provider domain capability scope startedAt,
    g.gate.config = gateConfig provider domain capability scope startedAt
  binding : g.binding = g.gate.config.binding
  capability : g.capability = g.gate.config.capabilityId
  profile : g.profile ≠ ""
  maximumUnits : g.maximumUnits ≠ 0

/-- A sound gate of Python whose clock has read no more than `n`, as its owner sees it. -/
structure Serves (g : GateState) (n : ℕ) (v : GateView) : Prop where
  sound : ∃ t : MonotonicTime, t.toNat ≤ n ∧ g.Sound t
  configured : g.Configured
  receipt : g.gate.currentReceipt = v.receipt
  nextOperationId : g.gate.nextOperationId = v.nextOperationId
  closed : g.gate.initializationState = .closed ↔ v.closed

/-- What a call raises when there is no time or no number left. -/
def Overflows (e : Failure) (_ : GateState) : Prop := e = .overflowError

variable {g : GateState} {n now : ℕ} {v : GateView} {r : OperationReceipt} {α : Type}
  {Q : α → GateState → Prop}

/-- A reading is converted, or there is no time for it. -/
theorem meets_unsigned {k : UInt64 → GateProgram α}
    (hk : ∀ stamp : UInt64, stamp.toNat = now → Meets (k stamp) g Q Overflows) :
    Meets (.answer (unsignedValue now) >>= k) g Q Overflows := by
  rw [Fallible.meets_bind]
  unfold unsignedValue
  split
  · next hlt => exact hk _ (UInt64.toNat_ofNat_of_lt' hlt)
  · exact (rfl : Failure.overflowError = .overflowError)

/-- A number is drawn, or there is none left. -/
theorem meets_record {source : String} {stamp : MonotonicTime} {k : EvidenceRecord → GateProgram α}
    (hk : g.sequence ≠ lastSequence → Meets (k ⟨source, stamp, g.sequence + 1⟩)
      { g with sequence := g.sequence + 1 } Q Overflows) :
    Meets (record source stamp >>= k) g Q Overflows := by
  rw [Fallible.meets_bind]
  by_cases hroom : g.sequence = lastSequence
  · have hraised : record source stamp g = (.error .overflowError, g) := if_pos hroom
    exact .of_raised hraised rfl
  · exact .of_eq (Awaiting.record source hroom) (hk hroom)

namespace Serves

/-- The clock may go on. -/
theorem mono (h : g.Serves n v) (hle : n ≤ now) : g.Serves now v := by
  obtain ⟨t, ht, hsound⟩ := h.sound
  exact { h with sound := ⟨t, ht.trans hle, hsound⟩ }

/-- The gate is sound at the time of a later reading. -/
theorem at_stamp (h : g.Serves n v) (hle : n ≤ now) {stamp : MonotonicTime}
    (hstamp : stamp.toNat = now) : g.Sound stamp := by
  obtain ⟨t, ht, hsound⟩ := h.sound
  have hlater : t ≤ stamp := by
    rw [UInt64.le_iff_toNat_le]
    omega
  exact hsound.mono hlater

/-- The current operation is the one that the owner sees. -/
theorem meets_operation {k : OperationAuthority → GateProgram α} {E : Failure → GateState → Prop}
    (h : g.Serves n (v.bearing r)) (hk : Meets (k r.authority) g Q E) :
    Meets (operationValue r.authority.operationId >>= k) g Q E := by
  obtain ⟨t, -, hsound⟩ := h.sound
  rw [Fallible.meets_bind]
  exact .of_eq (Awaiting.operationValue hsound h.receipt) hk

/-- The gate that a call leaves serves the owner, as it is seen then. -/
theorem call (h : g.Serves n v) (hle : n ≤ now) {stamp : MonotonicTime}
    (hstamp : stamp.toNat = now) {c : Call} (plain : PlainCall c) {number : UInt64}
    (hnumber : g.sequence ≤ number) (hbounded : c.Bounded stamp number)
    {s : AuthorityGate} (hleft : (g.gate.call c).2 = s) {w : GateView}
    (hreceipt : s.currentReceipt = w.receipt) (hnext : s.nextOperationId = w.nextOperationId)
    (hclosed : s.initializationState = .closed ↔ w.closed) :
    ({ g with gate := s, sequence := number } : GateState).Serves now w := by
  have hsound := h.at_stamp hle hstamp
  have hnumbered : ({ g with sequence := number } : GateState).Sound stamp :=
    { hsound with bounded := hsound.bounded.mono le_rfl hnumber }
  have hthrough := (hnumbered.through plain hbounded).1
  have hstep : Transition g.gate c (g.gate.call c).1 (g.gate.call c).2 := gate_transition g.gate c
  have hconfig := (keeps_binding hstep hsound.phase (.inl plain)).1
  rw [hleft] at hconfig
  simp only [hleft] at hthrough
  constructor
  · exact ⟨stamp, hstamp.le, hthrough⟩
  · constructor
    · rw [hconfig]
      exact h.configured.config
    · exact h.configured.binding.trans (by rw [hconfig])
    · exact h.configured.capability.trans (by rw [hconfig])
    · exact h.configured.profile
    · exact h.configured.maximumUnits
  · exact hreceipt
  · exact hnext
  · exact hclosed

/-- An open gate is in its binding. -/
theorem active (h : g.Serves n v) (opened : ¬ v.closed) :
    g.gate.bindingPhase = .active ∧ g.gate.initializationState ≠ .closed ∧
      g.gate.candidate = none := by
  obtain ⟨t, -, hsound⟩ := h.sound
  have hopen : g.gate.initializationState ≠ .closed := fun hclosed ↦ opened (h.closed.mp hclosed)
  have hphase : g.gate.bindingPhase ≠ .closed := fun hclosed ↦
    hopen (hsound.coherent.closed.mp hclosed)
  refine ⟨?_, hopen, ?_⟩
  · cases hactive : g.gate.bindingPhase with
    | active => rfl
    | withdrawn => exact absurd hactive hsound.phase.1
    | preparing => exact absurd hactive hsound.phase.2
    | closed => exact absurd hactive hphase
  · by_contra hsome
    exact hsound.phase.2 (hsound.coherent.candidate.mp (Option.isSome_iff_ne_none.mpr hsome))

end Serves

/-- The next number comes after the last one. -/
private theorem follows_last {m : UInt64} (h : m ≠ lastSequence) : m < m + 1 := by
  unfold lastSequence at h
  grind

/-- A record with the next number comes after all the others. -/
private theorem after_last {m : UInt64} (h : m ≠ lastSequence) (source : String)
    (stamp : MonotonicTime) : EvidenceRecord.After ⟨source, stamp, m + 1⟩ stamp m :=
  ⟨le_rfl, follows_last h⟩

/-- What the gate answers to a call is the answer of its operation. -/
theorem meets_onGate {call : AuthorityGate → α × AuthorityGate} {a : α} {s : AuthorityGate}
    {E : Failure → GateState → Prop} (hcall : call g.gate = (a, s))
    (hq : Q a { g with gate := s }) :
    Meets (onGate call) g Q E := by
  have heq : onGate call g = (.ok a, { g with gate := s }) := by
    rw [onGate, hcall]
  exact .of_eq heq hq

/-- What a call leaves, whatever the gate answers. -/
theorem meets_leaves {call : AuthorityGate → α × AuthorityGate} {s : AuthorityGate}
    {E : Failure → GateState → Prop} (hleaves : (call g.gate).2 = s)
    (hq : ∀ a, Q a { g with gate := s }) : Meets (onGate call) g Q E :=
  meets_onGate (Prod.eta (call g.gate)).symm (hleaves ▸ hq (call g.gate).1)

/-- Evidence that the gate accepts is accepted. -/
theorem meets_evidence {call : AuthorityGate → EvidenceDisposition × AuthorityGate} {c : Call}
    {d : EvidenceDisposition} {s : AuthorityGate} {Q : EvidenceDisposition → GateState → Prop}
    {E : Failure → GateState → Prop} {number : UInt64}
    (hanswers : g.gate.call c = (call g.gate).map .evidence id)
    (hcall : g.gate.call c = (.evidence d, s))
    (hq : Q d { g with gate := s, sequence := number }) :
    Meets (onGate call) { g with sequence := number } Q E := by
  apply meets_onGate _ hq
  rw [hanswers] at hcall
  generalize call g.gate = answered at hcall
  obtain ⟨d', s'⟩ := answered
  cases hcall
  rfl

namespace Serves

/-! ### Startup and capabilities -/

/-- The capabilities of an open gate are accepted. -/
theorem capabilities (h : g.Serves n v) (opened : ¬ v.closed) (available : Bool) (hle : n ≤ now)
    {validUntil : ℕ} (hvalid : now < validUntil) :
    Meets (GateState.capabilities available now validUntil) g
      (fun d g' ↦ d = .accepted ∧ g'.Serves now v) Overflows := by
  unfold GateState.capabilities
  apply meets_unsigned
  intro stamp hstamp
  apply meets_unsigned
  intro stampUntil huntil
  rw [Fallible.meets_bind, Fallible.meets_read]
  apply meets_record
  intro hroom
  obtain ⟨provider, domain, capability, scope, startedAt, hconfig⟩ := h.configured.config
  obtain ⟨-, hopen, hcandidate⟩ := h.active opened
  let e : ExecutionCapabilities :=
    ⟨g.binding, g.capability, g.profile, g.maximumUnits, available,
      ⟨capabilitySource, stamp, g.sequence + 1⟩, stampUntil⟩
  have hobserver : g.gate.config.executionCapabilityObserver = capabilitySource := by
    rw [hconfig]
    rfl
  have hlater : stamp < stampUntil := by
    rw [UInt64.lt_iff_toNat_lt]
    omega
  have hcall : g.gate.call (.observeExecutionCapabilities e) =
      (.evidence .accepted, { g.gate with executionCapabilities := some e }) := by
    apply (h.at_stamp hle hstamp).bounded.accepts_capabilities hcandidate hopen
    · rw [hobserver]
      decide
    · exact h.configured.binding
    · exact ⟨h.configured.capability, h.configured.profile, h.configured.maximumUnits, hlater⟩
    · exact hobserver.symm
    · exact after_last hroom capabilitySource stamp
  apply meets_evidence rfl hcall
  exact ⟨rfl, h.call hle hstamp (c := .observeExecutionCapabilities e) trivial
    (follows_last hroom).le ⟨le_rfl, le_rfl⟩ (congrArg Prod.snd hcall) h.receipt
    h.nextOperationId h.closed⟩

/-- The capabilities of a closed gate are not accepted. -/
theorem capabilities_closed (h : g.Serves n v) (hclosed : v.closed) (available : Bool)
    (validUntil : ℕ) :
    Meets (GateState.capabilities available now validUntil) g (fun d _ ↦ d ≠ .accepted)
      Overflows := by
  unfold GateState.capabilities
  apply meets_unsigned
  intro stamp _
  apply meets_unsigned
  intro stampUntil _
  rw [Fallible.meets_bind, Fallible.meets_read]
  apply meets_record
  intro _
  obtain ⟨t, -, hsound⟩ := h.sound
  have hcandidate : g.gate.candidate = none := by
    by_contra hsome
    exact hsound.phase.2 (hsound.coherent.candidate.mp (Option.isSome_iff_ne_none.mpr hsome))
  have hstate := h.closed.mpr hclosed
  have hrejects (e : ExecutionCapabilities) :
      g.gate.observeExecutionCapabilities e = (.rejected, g.gate) := by
    simp [AuthorityGate.observeExecutionCapabilities, hcandidate,
      AuthorityGate.observeActiveCapabilities, hstate]
  apply meets_onGate (hrejects _)
  decide

/-- The observations of an owner that starts are accepted. -/
theorem startup (h : g.Serves n v) (opened : ¬ v.closed) (unused : v.receipt = none)
    {kind : StartupEvidenceKind} (hkind : kind ≠ .adapterReady) (hle : n ≤ now) :
    Meets (GateState.startup kind true now) g
      (fun d g' ↦ d = .accepted ∧ g'.Serves now v) Overflows := by
  unfold GateState.startup
  apply meets_unsigned
  intro stamp hstamp
  rw [Fallible.meets_bind, Fallible.meets_read]
  apply meets_record
  intro hroom
  obtain ⟨provider, domain, capability, scope, startedAt, hconfig⟩ := h.configured.config
  obtain ⟨hphase, hopen, -⟩ := h.active opened
  let e : StartupEvidence :=
    ⟨kind, g.binding, ⟨startupSource kind, stamp, g.sequence + 1⟩, true⟩
  have hslot : ∃ index, g.gate.config.startupIndex kind = some index ∧
      g.gate.config.readinessSource index = startupSource kind ∧ startupSource kind ≠ "" := by
    rw [hconfig]
    cases kind with
    | bindingIdleAndSettled => exact ⟨0, rfl, rfl, by decide⟩
    | workerReady => exact ⟨1, rfl, rfl, by decide⟩
    | resultSinkReady => exact ⟨2, rfl, rfl, by decide⟩
    | adapterReady => exact absurd rfl hkind
  obtain ⟨index, hindex, hsource, hnonempty⟩ := hslot
  have hcall : g.gate.call (.observeStartup e) =
      (.evidence .accepted, g.gate.recordStartup index e) := by
    apply (h.at_stamp hle hstamp).bounded.accepts_startup hphase hopen
    · exact h.receipt.trans unused
    · exact h.configured.binding
    · exact hindex
    · exact hsource.symm
    · rw [hsource]
      exact hnonempty
    · exact after_last hroom (startupSource kind) stamp
  apply meets_evidence rfl hcall
  obtain ⟨idle, ready, sink, initialization, hne, heq⟩ := g.gate.recordStartup_eq index e
  refine ⟨rfl, h.call hle hstamp (c := .observeStartup e) trivial (follows_last hroom).le
    ⟨le_rfl, le_rfl⟩ (congrArg Prod.snd hcall) ?_ ?_ ?_⟩
  · rw [heq]
    exact h.receipt
  · rw [heq]
    exact h.nextOperationId
  · rw [heq]
    exact ⟨fun hclosed ↦ absurd hclosed hne, fun hclosed ↦ absurd hclosed opened⟩

/-- Closing the gate closes it. -/
theorem close (h : g.Serves n v) :
    Meets GateState.close g (fun _ g' ↦ g'.Serves n { v with closed := True })
      fun _ _ ↦ False := by
  obtain ⟨t, ht, hsound⟩ := h.sound
  have hserves : g.Serves t.toNat v := { h with sound := ⟨t, le_rfl, hsound⟩ }
  have hclosed := hserves.call le_rfl rfl (c := .closeAdmission) trivial le_rfl trivial rfl
    (w := { v with closed := True }) h.receipt h.nextOperationId ⟨fun _ ↦ trivial, fun _ ↦ rfl⟩
  exact hclosed.mono ht

/-! ### Time and revocation -/

/-- What a look at the deadline leaves. -/
private theorem observeTime_leaves {s : AuthorityGate} (present : s.currentReceipt = some r)
    (authority : OperationAuthority) (t : MonotonicTime) :
    ∃ r', Revises r r' ∧
      (s.observeTime authority t).2 = { s with currentReceipt := some r' } := by
  have hsame : s = { s with currentReceipt := some r } := by rw [← present]
  unfold AuthorityGate.observeTime
  split
  · exact ⟨r, .refl r, hsame⟩
  · next q hmatch =>
    obtain ⟨hpresent, -, -⟩ := AuthorityGate.matchingReceipt_eq_some.mp hmatch
    cases present.symm.trans hpresent
    split
    · exact ⟨r, .refl r, hsame⟩
    split
    · exact ⟨r, .refl r, hsame⟩
    split
    · exact ⟨r, .refl r, hsame⟩
    split
    · exact ⟨r, .refl r, hsame⟩
    · exact ⟨_, .expire r t, rfl⟩

/-- Unsettled work is not released. -/
theorem unreleased (h : g.Serves n (v.bearing r))
    (hpending : r.settlement = .pending) : r.authorityDisposition ≠ .released := by
  obtain ⟨t, -, hsound⟩ := h.sound
  rw [(hsound.coherent.receipts r h.receipt).refreshed, OperationReceipt.computedDisposition]
  have hopen : ¬ r.hasResolvedClosure := by
    rintro ⟨hsettled, -⟩
    rw [hpending] at hsettled
    cases hsettled
  rw [if_neg hopen]
  split
  · decide
  · split <;> decide

/-- The authority of unsettled work with a known or pending outcome is current unless it was
revoked. -/
theorem current_iff (h : g.Serves n (v.bearing r))
    (hpending : r.settlement = .pending) (hknown : r.nativeOutcome ≠ .unknown) :
    r.authorityDisposition = .current ↔ ¬ r.isRevoked := by
  obtain ⟨t, -, hsound⟩ := h.sound
  rw [(hsound.coherent.receipts r h.receipt).refreshed, OperationReceipt.computedDisposition,
    if_neg hknown, if_neg]
  · split
    · next hrevoked => simp [hrevoked]
    · next hlive => simp [hlive]
  · rintro ⟨hsettled, -⟩
    rw [hpending] at hsettled
    cases hsettled

/-- A look at the deadline revises the receipt, and revokes unsettled work that is due. -/
theorem tick (h : g.Serves n (v.bearing r)) (hle : n ≤ now) :
    Meets (GateState.tick r.authority.operationId now) g
      (fun _ g' ↦ ∃ r', Revises r r' ∧ (r.settlement = .pending → Due r now → r'.isRevoked) ∧
        g'.Serves now (v.bearing r')) Overflows := by
  unfold GateState.tick operationTime
  apply h.meets_operation
  apply meets_unsigned
  intro stamp hstamp
  rw [Fallible.meets_bind]
  have hsound := h.at_stamp hle hstamp
  by_cases hexpires : r.settlement = .pending ∧ Due r now ∧ r.expiryObservedAt = none
  · obtain ⟨hpending, ⟨deadline, hdeadline, hdue⟩, hfirst⟩ := hexpires
    have hreached : r.hasReachedDeadline stamp := by
      refine ⟨deadline, hdeadline, ?_⟩
      rw [UInt64.le_iff_toNat_le]
      omega
    have hstep : OperationStep g.gate (.observeTime r.authority stamp)
        (.control ((r.expireAt stamp).revoke stamp).1) r ((r.expireAt stamp).revoke stamp).2 :=
      .expire (h.unreleased hpending) (hsound.bounded.receipt r h.receipt).latestTime_le hfirst
        hreached
    have hcall := hstep.call_eq h.receipt (hsound.bound r h.receipt)
    have hleaves : (g.gate.observeTime r.authority stamp).2 =
        { g.gate with currentReceipt := some ((r.expireAt stamp).revoke stamp).2 } :=
      congrArg Prod.snd hcall
    have hserves := h.call hle hstamp (c := .observeTime r.authority stamp) trivial le_rfl
      (le_refl stamp) hleaves (w := v.bearing ((r.expireAt stamp).revoke stamp).2) rfl
      h.nextOperationId h.closed
    exact meets_leaves hleaves fun _ ↦ ⟨_, .expire r stamp,
      fun _ _ ↦ OperationReceipt.isRevoked_revoke (.inr (.inl rfl)) stamp, hserves⟩
  · obtain ⟨r', hrevises, hleaves⟩ := observeTime_leaves h.receipt r.authority stamp
    have hleft : (g.gate.call (.observeTime r.authority stamp)).2 =
        { g.gate with currentReceipt := some r' } := hleaves
    have hserves := h.call hle hstamp (c := .observeTime r.authority stamp) trivial le_rfl
      (le_refl stamp) hleft (w := v.bearing r') rfl h.nextOperationId h.closed
    refine meets_leaves hleaves fun _ ↦ ⟨r', hrevises, fun hpending hdue ↦ ?_, hserves⟩
    apply hrevises.revoked
    by_contra hlive
    apply hexpires
    refine ⟨hpending, hdue, ?_⟩
    by_contra hsome
    exact hlive (.inr (.inl (Option.isSome_iff_ne_none.mpr hsome)))

/-- A cancellation revokes work that is not settled. -/
theorem cancel (h : g.Serves n (v.bearing r)) (hpending : r.settlement = .pending)
    (hle : n ≤ now) :
    Meets (GateState.cancel r.authority.operationId now) g
      (fun _ g' ↦ ∃ r', Revises r r' ∧ r'.isRevoked ∧
        g'.Serves now (v.bearing r')) Overflows := by
  unfold GateState.cancel operationTime
  apply h.meets_operation
  apply meets_unsigned
  intro stamp hstamp
  rw [Fallible.meets_bind]
  have hsound := h.at_stamp hle hstamp
  by_cases hfirst : r.cancellationRequestedAt = none
  · have hstep : OperationStep g.gate (.requestCancel r.authority stamp)
        (.control ((r.cancelAt stamp).revoke stamp).1) r ((r.cancelAt stamp).revoke stamp).2 :=
      .cancel (h.unreleased hpending) (hsound.bounded.receipt r h.receipt).latestTime_le hfirst
    have hcall := hstep.call_eq h.receipt (hsound.bound r h.receipt)
    have hleaves : (g.gate.requestCancel r.authority stamp).2 =
        { g.gate with currentReceipt := some ((r.cancelAt stamp).revoke stamp).2 } :=
      congrArg Prod.snd hcall
    refine meets_leaves hleaves fun _ ↦
      ⟨_, .cancel r stamp, OperationReceipt.isRevoked_revoke (.inl rfl) stamp, ?_⟩
    exact h.call hle hstamp (c := .requestCancel r.authority stamp) trivial le_rfl
      (le_refl stamp) (congrArg Prod.snd hcall)
      (w := v.bearing ((r.cancelAt stamp).revoke stamp).2) rfl
      h.nextOperationId h.closed
  · have hrevoked : r.isRevoked := .inl (Option.isSome_iff_ne_none.mpr hfirst)
    have hleaves : (g.gate.requestCancel r.authority stamp).2 = g.gate := by
      unfold AuthorityGate.requestCancel
      split
      · rfl
      · next q hmatch =>
        obtain ⟨hpresent, -, -⟩ := AuthorityGate.matchingReceipt_eq_some.mp hmatch
        cases h.receipt.symm.trans hpresent
        simp only [Option.isSome_iff_ne_none.mpr hfirst]
        split
        · rfl
        split
        · rfl
        · rfl
    exact meets_leaves hleaves fun _ ↦ ⟨r, .refl r, hrevoked, h.mono hle⟩

/-! ### Dispatch -/

/-- What a claim of the dispatch leaves. -/
private theorem claimDispatch_leaves {s : AuthorityGate} (present : s.currentReceipt = some r)
    (authority : OperationAuthority) (t : MonotonicTime) :
    s.claimDispatch authority t = (false, s) ∨
      r.dispatch = .pending ∧ ¬ r.isRevoked ∧
        s.claimDispatch authority t = (true, { s with currentReceipt := some (r.claim t) }) := by
  unfold AuthorityGate.claimDispatch
  split
  · exact .inl rfl
  · next q hmatch =>
    obtain ⟨hpresent, -, -⟩ := AuthorityGate.matchingReceipt_eq_some.mp hmatch
    cases present.symm.trans hpresent
    split
    · exact .inl rfl
    · next hguard =>
      push Not at hguard
      exact .inr ⟨hguard.2.2.2.1, hguard.2.2.2.2.1, rfl⟩

/-- A dispatch of admitted work is claimed, or nothing happens. -/
theorem dispatch (h : g.Serves n (v.bearing r)) (hstage : AtStage r .admitted)
    (hle : n ≤ now) :
    Meets (GateState.dispatch r.authority.operationId now) g
      (fun claimed g' ↦
        (claimed = true → ∃ r', r'.authority = r.authority ∧ AtStage r' .claimed ∧
          ¬ r'.isRevoked ∧ r'.nativeStarted = r.nativeStarted ∧
          g'.Serves now (v.bearing r')) ∧
        (claimed = false → g'.Serves now (v.bearing r))) Overflows := by
  unfold GateState.dispatch operationTime
  apply h.meets_operation
  apply meets_unsigned
  intro stamp hstamp
  have hsound := h.at_stamp hle hstamp
  rcases claimDispatch_leaves h.receipt r.authority stamp with
    hrefused | ⟨hpending, hlive, hclaimed⟩
  · apply meets_onGate hrefused
    refine ⟨fun hfalse ↦ ?_, fun _ ↦ h.mono hle⟩
    cases hfalse
  · apply meets_onGate hclaimed
    refine ⟨fun _ ↦ ?_, fun hfalse ↦ ?_⟩
    · refine ⟨r.claim stamp, rfl, ?_, hlive, rfl, ?_⟩
      · have hunasked : r.nativeAcceptance = .pending := by
          by_contra hasked
          have hsubmitted :=
            (hsound.coherent.receipts r h.receipt).sequenced.native hasked
          rw [hpending] at hsubmitted
          cases hsubmitted
        exact ⟨rfl, hunasked, hstage.2⟩
      · have hleft : (g.gate.call (.claimDispatch r.authority stamp)).2 =
            { g.gate with currentReceipt := some (r.claim stamp) } := congrArg Prod.snd hclaimed
        exact h.call hle hstamp (c := .claimDispatch r.authority stamp) trivial le_rfl
          (le_refl stamp) hleft (w := v.bearing (r.claim stamp)) rfl
          h.nextOperationId h.closed
    · cases hfalse

/-- A receipt of the gate has integrity. -/
theorem integrity (h : g.Serves n (v.bearing r)) : r.Integrity := by
  obtain ⟨t, -, hsound⟩ := h.sound
  exact hsound.coherent.receipts r h.receipt

/-! ### Reports of the owner -/

/-- Evidence about the operation that assigns its receipt is accepted, and what it assigns is
seen. -/
private theorem reports (h : g.Serves n (v.bearing r)) (hle : n ≤ now)
    {stamp : MonotonicTime} (hstamp : stamp.toNat = now) (hroom : g.sequence ≠ lastSequence)
    {call : AuthorityGate → EvidenceDisposition × AuthorityGate} {c : Call} (plain : PlainCall c)
    (hbounded : c.Bounded stamp (g.sequence + 1)) {r' : OperationReceipt}
    (hanswers : g.gate.call c = (call g.gate).map .evidence id)
    (step : OperationStep g.gate c (.evidence .accepted) r r') :
    Meets (onGate call) { g with sequence := g.sequence + 1 }
      (fun d g' ↦ d = .accepted ∧ g'.Serves now (v.bearing r'))
      Overflows := by
  have hcall := step.call_eq h.receipt ((h.at_stamp hle hstamp).bound r h.receipt)
  apply meets_evidence hanswers hcall
  exact ⟨rfl, h.call hle hstamp plain (follows_last hroom).le hbounded (congrArg Prod.snd hcall)
    (w := v.bearing r') rfl h.nextOperationId h.closed⟩

/-- The settlement source of a gate of Python. -/
theorem settlement_source (h : g.Serves n v) :
    g.gate.config.settlementEvidenceSource = Python.settlementSource := by
  obtain ⟨t, -, hsound⟩ := h.sound
  exact hsound.settlement

/-- Work that was not dispatched ends without a submission. -/
theorem nonSubmission (h : g.Serves n (v.bearing r)) (hstage : AtStage r .admitted)
    (hle : n ≤ now) :
    Meets (GateState.nonSubmission r.authority.operationId now) g
      (fun d g' ↦ d = .accepted ∧ ∃ r', r'.authority = r.authority ∧
        AtStage r' (.ended False) ∧ g'.Serves now (v.bearing r')) Overflows := by
  unfold GateState.nonSubmission operationTime
  apply h.meets_operation
  apply meets_unsigned
  intro stamp hstamp
  apply meets_record
  intro hroom
  have hintegrity := h.integrity
  have hbounded := (h.at_stamp hle hstamp).bounded.receipt r h.receipt
  obtain ⟨hpending, -, houtput, hsettlement⟩ := hstage
  have hunasked : r.nativeAcceptance = .pending := by
    by_contra hasked
    rw [hintegrity.sequenced.native hasked] at hpending
    cases hpending
  obtain ⟨haccepted, hrejected, hstarted, hsuccess, hfailure, -⟩ :=
    OperationReceipt.noNativeEvidence_of_pending hintegrity.recorded hunasked
  have hadmitted := (OperationReceipt.latestEffectTime_le_iff.mp hbounded.latestEffectTime_le).1
  have hsource : Python.settlementSource ≠ "" := by decide
  let evidence : NonSubmissionEvidence :=
    ⟨r.authority, ⟨Python.settlementSource, stamp, g.sequence + 1⟩⟩
  have hstep : OperationStep g.gate (.observeNonSubmission evidence) (.evidence .accepted) r
      (r.markNotSubmitted evidence.record) := by
    apply OperationStep.notSubmitted
    · rfl
    · exact ⟨hsource, h.settlement_source.symm, (after_last hroom _ stamp).ne_zero, hadmitted⟩
    · intro hsubmitted
      rw [hpending] at hsubmitted
      cases hsubmitted
    · rw [hpending]
      decide
    · exact ⟨haccepted, hrejected, hstarted, hsuccess, hfailure⟩
  refine (h.reports hle hstamp hroom (c := .observeNonSubmission evidence) trivial
    ⟨le_rfl, le_rfl⟩ rfl hstep).mono ?_ fun _ _ he ↦ he
  rintro d g' ⟨hd, hserves⟩
  refine ⟨hd, _, ?_, ?_, hserves⟩
  · rfl
  · refine ⟨⟨?_, ?_⟩, ?_, houtput, hsettlement⟩
    · nofun
    · nofun
    · simp [OperationReceipt.markNotSubmitted, OperationReceipt.refreshAuthorityDisposition]

/-! ### Native events -/

/-- The identity of an episode is not empty. -/
private theorem episode_ne (operation : OperationId) : episodeIdentity operation ≠ "" := by
  intro hempty
  have hlength := congrArg String.length hempty
  simp [episodeIdentity] at hlength

/-- A native event that fits the receipt is accepted. -/
private theorem native_reports (h : g.Serves n (v.bearing r))
    (submitted : r.dispatch = .submitted) (kind : NativeEventKind)
    (change : EvidenceRecord → OperationReceipt)
    (consistent : ∀ record, ¬ AuthorityGate.nativeContradicts r
      ⟨r.authority, episodeIdentity r.authority.operationId, kind, record⟩)
    (switch : ∀ record, r.applyNativeEvent
      ⟨r.authority, episodeIdentity r.authority.operationId, kind, record⟩ =
        some (.accepted, change record)) (hle : n ≤ now) :
    Meets (GateState.native r.authority.operationId kind now none) g
      (fun d g' ↦ d = .accepted ∧ ∃ record, g'.Serves now
        (v.bearing (change record).deriveNativeOutcome.refreshAuthorityDisposition)) Overflows := by
  unfold GateState.native
  apply h.meets_operation
  apply meets_unsigned
  intro stamp hstamp
  rw [Fallible.meets_bind, Fallible.meets_pure]
  apply meets_record
  intro hroom
  obtain ⟨provider, domain, capability, scope, startedAt, hconfig⟩ := h.configured.config
  have hsound := h.at_stamp hle hstamp
  have hbounded := hsound.bounded.receipt r h.receipt
  have hdispatched : r.dispatchedAt.getD 0 ≤ stamp := by
    obtain ⟨-, hbefore, -⟩ :=
      OperationReceipt.latestEffectTime_le_iff.mp hbounded.latestEffectTime_le
    cases hd : r.dispatchedAt with
    | none => exact UInt64.zero_le
    | some time => exact hbefore time hd
  have hsource : nativeSource ≠ "" := by decide
  have hafter := after_last hroom nativeSource stamp
  let evidence : NativeEvidence :=
    ⟨r.authority, episodeIdentity r.authority.operationId, kind,
      ⟨nativeSource, stamp, g.sequence + 1⟩⟩
  have hstep : NativeStep g.gate evidence .accepted r (change evidence.record) := by
    constructor
    · rfl
    · exact episode_ne r.authority.operationId
    · exact submitted
    · refine ⟨hsource, ?_, hafter.ne_zero, hdispatched⟩
      rw [hconfig]
      rfl
    · exact hafter.newer hsound.bounded.native
    · exact consistent evidence.record
    · exact switch evidence.record
  have hcall := hstep.call_eq h.receipt (hsound.bound r h.receipt)
  apply meets_evidence rfl hcall
  exact ⟨rfl, evidence.record, h.call hle hstamp (c := .observeNative evidence) trivial
    (follows_last hroom).le ⟨le_rfl, le_rfl⟩ (congrArg Prod.snd hcall)
    (w := v.bearing (change evidence.record).deriveNativeOutcome.refreshAuthorityDisposition) rfl
    h.nextOperationId h.closed⟩

/-- Work without a terminal has none of its flags. -/
private theorem no_terminal (h : g.Serves n (v.bearing r)) (hpending : r.nativeOutcome = .pending) :
    r.observedNativeSuccess = false ∧ r.observedNativeFailure = false ∧
      r.observedNativeCancellation = false := by
  obtain ⟨-, -, hsuccess, hfailure, hcancellation⟩ :=
    OperationReceipt.unrefused_of_pending h.integrity.recorded hpending
  have hflags := h.integrity.recorded.flags
  rw [hflags.success, hflags.failure, hflags.cancellation, hsuccess, hfailure, hcancellation]
  exact ⟨rfl, rfl, rfl⟩

/-- A submission that was claimed is accepted. -/
theorem native_accepted (h : g.Serves n (v.bearing r)) (hstage : AtStage r .claimed)
    (hle : n ≤ now) :
    Meets (GateState.native r.authority.operationId .accepted now none) g
      (fun d g' ↦ d = .accepted ∧ ∃ r', r'.authority = r.authority ∧ AtStage r' .running ∧
        r'.nativeStarted = r.nativeStarted ∧ (r'.isRevoked ↔ r.isRevoked) ∧
        g'.Serves now (v.bearing r')) Overflows := by
  obtain ⟨submitted, hunasked, hpending, houtput, hsettlement⟩ := hstage
  have hunnamed : r.nativeIdentity = "" := by
    by_contra hnamed
    exact h.integrity.sequenced.identified.mpr hnamed hunasked
  have hflags := h.no_terminal hpending
  refine (h.native_reports submitted .accepted
    (fun record ↦
      { r with
        nativeIdentity := episodeIdentity r.authority.operationId
        nativeAcceptance := .accepted
        nativeAcceptanceEvidence := some record }) ?_ ?_ hle).mono ?_ fun _ _ he ↦ he
  · intro record
    simp [AuthorityGate.nativeContradicts, hunnamed, hunasked]
  · intro record
    simp [OperationReceipt.applyNativeEvent, hunasked]
  · rintro d g' ⟨hd, record, hserves⟩
    rw [OperationReceipt.deriveNativeOutcome_eq] at hserves
    refine ⟨hd, _, ?_, ?_, ?_, ?_, hserves⟩
    · rfl
    · refine ⟨rfl, rfl, ?_, houtput, hsettlement⟩
      simp [OperationReceipt.refreshAuthorityDisposition, OperationReceipt.derivedOutcome,
        OperationReceipt.terminalCount, hflags, hpending]
    · rfl
    · rfl

/-- The acceptance of running work was reported. -/
private theorem running_submitted (h : g.Serves n (v.bearing r)) (hstage : AtStage r .running) :
    r.dispatch = .submitted := by
  apply h.integrity.sequenced.native
  rw [hstage.1]
  decide

/-- Running work starts once. -/
theorem native_started (h : g.Serves n (v.bearing r)) (hstage : AtStage r .running)
    (hfirst : r.nativeStarted = false) (hle : n ≤ now) :
    Meets (GateState.native r.authority.operationId .started now none) g
      (fun d g' ↦ d = .accepted ∧ ∃ r', r'.authority = r.authority ∧ AtStage r' .running ∧
        (r'.isRevoked ↔ r.isRevoked) ∧ g'.Serves now (v.bearing r')) Overflows := by
  obtain ⟨haccepted, hidentity, hpending, houtput, hsettlement⟩ := hstage
  have hflags := h.no_terminal hpending
  have submitted := h.running_submitted ⟨haccepted, hidentity, hpending, houtput, hsettlement⟩
  refine (h.native_reports submitted .started
    (fun record ↦
      { r with nativeStarted := true, nativeStartedEvidence := some record }) ?_ ?_ hle).mono ?_
    fun _ _ he ↦ he
  · intro record
    simp [AuthorityGate.nativeContradicts, hidentity, haccepted, episode_ne]
  · intro record
    simp [OperationReceipt.applyNativeEvent, haccepted, hfirst]
  · rintro d g' ⟨hd, record, hserves⟩
    rw [OperationReceipt.deriveNativeOutcome_eq] at hserves
    refine ⟨hd, _, ?_, ?_, ?_, hserves⟩
    · rfl
    · refine ⟨haccepted, hidentity, ?_, houtput, hsettlement⟩
      simp [OperationReceipt.refreshAuthorityDisposition, OperationReceipt.derivedOutcome,
        OperationReceipt.terminalCount, hflags, hpending]
    · rfl

/-- What a terminal makes of a receipt. -/
private def terminated (r : OperationReceipt) (kind : NativeEventKind) (record : EvidenceRecord) :
    OperationReceipt :=
  match kind with
  | .terminalSucceeded =>
    { r with observedNativeSuccess := true, nativeSuccessEvidence := some record }
  | .terminalFailed =>
    { r with observedNativeFailure := true, nativeFailureEvidence := some record }
  | .terminalCancelled =>
    { r with observedNativeCancellation := true, nativeCancellationEvidence := some record }
  | _ => r

/-- Running work ends with the terminal that is reported. -/
theorem native_terminal (h : g.Serves n (v.bearing r)) (hstage : AtStage r .running)
    {kind : NativeEventKind}
    (hkind : kind = .terminalSucceeded ∨ kind = .terminalFailed ∨ kind = .terminalCancelled)
    (hle : n ≤ now) :
    Meets (GateState.native r.authority.operationId kind now none) g
      (fun d g' ↦ d = .accepted ∧ ∃ r', r'.authority = r.authority ∧
        AtStage r' (.ended (kind = .terminalSucceeded)) ∧ g'.Serves now (v.bearing r'))
      Overflows := by
  obtain ⟨haccepted, hidentity, hpending, houtput, hsettlement⟩ := hstage
  obtain ⟨hsuccess, hfailure, hcancellation⟩ := h.no_terminal hpending
  have submitted := h.running_submitted ⟨haccepted, hidentity, hpending, houtput, hsettlement⟩
  refine (h.native_reports submitted
    kind (terminated r kind) ?_ ?_ hle).mono ?_ fun _ _ he ↦ he
  · intro record
    rcases hkind with rfl | rfl | rfl <;>
      simp [AuthorityGate.nativeContradicts, hidentity, haccepted, episode_ne]
  · intro record
    rcases hkind with rfl | rfl | rfl <;>
      simp [OperationReceipt.applyNativeEvent, terminated, haccepted, hsuccess, hfailure,
        hcancellation]
  · rintro d g' ⟨hd, record, hserves⟩
    rw [OperationReceipt.deriveNativeOutcome_eq] at hserves
    refine ⟨hd, _, ?_, ?_, hserves⟩
    · rcases hkind with rfl | rfl | rfl <;> rfl
    · rcases hkind with rfl | rfl | rfl <;>
        simp [AtStage, Known, OperationReceipt.refreshAuthorityDisposition,
          OperationReceipt.derivedOutcome, OperationReceipt.terminalCount, terminated, hsuccess,
          hfailure, hcancellation, houtput, hsettlement]

/-! ### Output and settlement -/

/-- Work that has ended without a success produces no output. -/
theorem output_none (h : g.Serves n (v.bearing r)) (hstage : AtStage r (.ended False))
    (hle : n ≤ now) :
    Meets (GateState.output r.authority.operationId .noOutput "" now) g
      (fun d g' ↦ d = .accepted ∧ ∃ r', r'.authority = r.authority ∧ AtStage r' .disposed ∧
        g'.Serves now (v.bearing r')) Overflows := by
  obtain ⟨hknown, hfailed, houtput, hsettlement⟩ := hstage
  have hunexecuted : r.nativeOutcome = .notExecuted ∨ r.nativeOutcome = .failed ∨
      r.nativeOutcome = .cancelled := by
    obtain ⟨hended, hunknown⟩ := hknown
    cases houtcome : r.nativeOutcome with
    | pending => exact absurd houtcome hended
    | unknown => exact absurd houtcome hunknown
    | notExecuted => exact .inl rfl
    | failed => exact .inr (.inl rfl)
    | cancelled => exact .inr (.inr rfl)
    | succeeded => exact (hfailed.mp houtcome).elim
  have htext : textValue "" true = .ok "" := rfl
  unfold GateState.output
  apply h.meets_operation
  rw [htext, Fallible.meets_bind, Fallible.meets_answer_ok]
  apply meets_unsigned
  intro stamp hstamp
  apply meets_record
  intro hroom
  have hbounded := (h.at_stamp hle hstamp).bounded.receipt r h.receipt
  have hsource : Python.settlementSource ≠ "" := by decide
  let evidence : OutputNonDeliveryEvidence :=
    ⟨r.authority, .noOutputProduced, "", ⟨Python.settlementSource, stamp, g.sequence + 1⟩⟩
  obtain ⟨basis, hbasis, hrests⟩ :=
    Closable.exists_basis h.integrity g.gate hunexecuted
  have hbefore : basis.observedAt ≤ stamp :=
    (OperationReceipt.latestEffectTime_le_iff.mp hbounded.latestEffectTime_le).2.2 _ hbasis basis
      rfl
  have hstep : OperationStep g.gate (.observeOutputNotDelivered evidence) (.evidence .accepted) r
      (r.withholdOutput evidence) := by
    have hresolved := hrests evidence.record
    refine OperationStep.withholdOutput rfl hresolved ?_ ?_ ?_
    · refine ⟨hsource, h.settlement_source.symm, (after_last hroom _ stamp).ne_zero, hbefore⟩
    · exact houtput
    · exact hbounded.follows (follows_last hroom)
  refine (h.reports hle hstamp hroom (c := .observeOutputNotDelivered evidence) trivial
    ⟨le_rfl, le_rfl⟩ rfl hstep).mono ?_ fun _ _ he ↦ he
  rintro d g' ⟨hd, hserves⟩
  refine ⟨hd, _, ?_, ?_, hserves⟩
  · rfl
  · refine ⟨hknown, ?_, hsettlement⟩
    simp [OperationReceipt.withholdOutput, OperationReceipt.refreshAuthorityDisposition]

/-- Successful work of a live authority may be delivered, and no other work. -/
theorem canDeliver_iff (h : g.Serves n (v.bearing r)) :
    g.gate.canDeliverResult r.authority ↔
      ¬ r.isRevoked ∧ r.nativeOutcome = .succeeded ∧ r.output = .pending := by
  obtain ⟨t, -, hsound⟩ := h.sound
  have hmatching : g.gate.matchingReceipt r.authority = some r :=
    AuthorityGate.matchingReceipt_eq_some.mpr ⟨h.receipt, rfl, hsound.bound r h.receipt⟩
  constructor
  · rintro ⟨-, -, q, hq, hlive⟩
    cases hmatching.symm.trans hq
    exact hlive
  · intro hlive
    exact ⟨hsound.phase.1, hsound.phase.2, r, hmatching, hlive⟩

/-- The question changes nothing. -/
theorem canDeliver (h : g.Serves n (v.bearing r)) {E : Failure → GateState → Prop} :
    Meets (GateState.canDeliver r.authority.operationId) g
      (fun deliverable g' ↦ g' = g ∧ (deliverable = true ↔
        ¬ r.isRevoked ∧ r.nativeOutcome = .succeeded ∧ r.output = .pending)) E := by
  unfold GateState.canDeliver
  apply h.meets_operation
  refine ⟨rfl, ?_⟩
  rw [decide_eq_true_iff]
  exact h.canDeliver_iff

/-- The result of successful work is published, or refused because it is due. -/
theorem output_accepted (h : g.Serves n (v.bearing r)) (hstage : AtStage r (.ended True))
    (hlive : ¬ r.isRevoked) {reference : String}
    (htext : textValue reference false = .ok reference) (hle : n ≤ now) :
    Meets (GateState.output r.authority.operationId .accepted reference now) g
      (fun d g' ↦
        (d = .accepted → ∃ r', r'.authority = r.authority ∧ AtStage r' .disposed ∧
          g'.Serves now (v.bearing r')) ∧
        (d ≠ .accepted → Due r now ∧ g'.Serves now (v.bearing r))) Overflows := by
  obtain ⟨hknown, hsucceeded, houtput, hsettlement⟩ := hstage
  have hsuccess := hsucceeded.mpr trivial
  obtain ⟨hallowed, hnamed⟩ := ExecutionCoordinator.reference_allowed htext
  unfold GateState.output
  apply h.meets_operation
  rw [hallowed, Fallible.meets_bind, Fallible.meets_answer_ok]
  apply meets_unsigned
  intro stamp hstamp
  apply meets_record
  intro hroom
  let evidence : OutputEvidence :=
    ⟨r.authority, reference, ⟨sinkSource, stamp, g.sequence + 1⟩⟩
  have hawaiting : g.Awaiting stamp r := ⟨h.at_stamp hle hstamp, h.receipt, hsuccess, houtput⟩
  by_cases hdue : r.hasReachedDeadline stamp
  · obtain ⟨hrefused, hsame⟩ := Awaiting.refuses (g := g) reference hdue h.receipt
      (show evidence.record.observedAt = stamp from rfl)
    have hanswer : g.gate.observeOutputAccepted evidence =
        ((g.gate.observeOutputAccepted evidence).1, g.gate) := Prod.ext rfl hsame
    apply meets_onGate hanswer
    refine ⟨fun haccepted ↦ absurd haccepted hrefused, fun _ ↦ ⟨?_, ?_⟩⟩
    · obtain ⟨deadline, hdeadline, hreached⟩ := hdue
      refine ⟨deadline, hdeadline, ?_⟩
      rw [UInt64.le_iff_toNat_le] at hreached
      omega
    · exact h.call hle hstamp (c := .observeOutputAccepted evidence) trivial
        (follows_last hroom).le ⟨le_rfl, le_rfl⟩ hsame h.receipt h.nextOperationId h.closed
  · have hdeliver := h.canDeliver_iff.mpr ⟨hlive, hsuccess, houtput⟩
    have haccepts := hawaiting.accepts le_rfl hroom hdeliver hnamed hdue
    have hleft : (g.gate.call (.observeOutputAccepted evidence)).2 =
        { g.gate with currentReceipt := some (r.acceptOutput evidence) } :=
      congrArg Prod.snd haccepts
    apply meets_onGate haccepts
    refine ⟨fun _ ↦ ⟨r.acceptOutput evidence, ?_, ?_, ?_⟩, fun hne ↦ absurd rfl hne⟩
    · rfl
    · refine ⟨hknown, ?_, hsettlement⟩
      simp [OperationReceipt.acceptOutput, OperationReceipt.refreshAuthorityDisposition]
    · exact h.call hle hstamp (c := .observeOutputAccepted evidence) trivial
        (follows_last hroom).le ⟨le_rfl, le_rfl⟩ hleft
        (w := v.bearing (r.acceptOutput evidence)) rfl h.nextOperationId h.closed

/-- The result of successful work whose authority was revoked is withheld. -/
theorem output_revoked (h : g.Serves n (v.bearing r)) (hstage : AtStage r (.ended True))
    (hrevoked : r.isRevoked) {reference : String}
    (htext : textValue reference false = .ok reference) (hle : n ≤ now) :
    Meets (GateState.output r.authority.operationId .authorityRevoked reference now) g
      (fun d g' ↦ d = .accepted ∧ ∃ r', r'.authority = r.authority ∧ AtStage r' .disposed ∧
        g'.Serves now (v.bearing r')) Overflows := by
  obtain ⟨hknown, hsucceeded, houtput, hsettlement⟩ := hstage
  have hsuccess := hsucceeded.mpr trivial
  obtain ⟨hallowed, hnamed⟩ := ExecutionCoordinator.reference_allowed htext
  unfold GateState.output
  apply h.meets_operation
  rw [hallowed, Fallible.meets_bind, Fallible.meets_answer_ok]
  apply meets_unsigned
  intro stamp hstamp
  apply meets_record
  intro hroom
  let evidence : OutputNonDeliveryEvidence :=
    ⟨r.authority, .authorityRevoked, reference, ⟨sinkSource, stamp, g.sequence + 1⟩⟩
  have hawaiting : g.Awaiting stamp r := ⟨h.at_stamp hle hstamp, h.receipt, hsuccess, houtput⟩
  have hwithholds := hawaiting.withholds le_rfl hroom hnamed hrevoked
  have hleft : (g.gate.call (.observeOutputNotDelivered evidence)).2 =
      { g.gate with currentReceipt := some (r.withholdOutput evidence) } :=
    congrArg Prod.snd hwithholds
  apply meets_onGate hwithholds
  refine ⟨rfl, r.withholdOutput evidence, rfl, ?_, ?_⟩
  · refine ⟨hknown, ?_, hsettlement⟩
    simp [OperationReceipt.withholdOutput, OperationReceipt.refreshAuthorityDisposition]
  · exact h.call hle hstamp (c := .observeOutputNotDelivered evidence) trivial
      (follows_last hroom).le ⟨le_rfl, le_rfl⟩ hleft
      (w := v.bearing (r.withholdOutput evidence)) rfl h.nextOperationId h.closed

/-- Work that has disposed of its output is settled. -/
theorem settle (h : g.Serves n (v.bearing r)) (hstage : AtStage r .disposed) (hle : n ≤ now) :
    Meets (GateState.settle r.authority.operationId now) g
      (fun d g' ↦ d = .accepted ∧ ∃ r', r'.authority = r.authority ∧ AtStage r' .settled ∧
        g'.Serves now (v.bearing r')) Overflows := by
  obtain ⟨⟨hended, hunknown⟩, hdisposed, hsettlement⟩ := hstage
  unfold GateState.settle operationTime
  apply h.meets_operation
  apply meets_unsigned
  intro stamp hstamp
  rw [Fallible.meets_bind, Fallible.meets_read]
  apply meets_record
  intro hroom
  have hsound := h.at_stamp hle hstamp
  have hbounded := hsound.bounded.receipt r h.receipt
  have hresolved := OperationReceipt.resolved_of_disposed h.integrity.recorded
    h.integrity.sequenced hended hunknown hdisposed
  have hsource : Python.settlementSource ≠ "" := by decide
  have hadmitted := (OperationReceipt.latestEffectTime_le_iff.mp hbounded.latestEffectTime_le).1
  let evidence : SettlementEvidence :=
    ⟨r.authority, g.settlementScope, true, ⟨Python.settlementSource, stamp, g.sequence + 1⟩⟩
  have hstep : OperationStep g.gate (.observeSettlement evidence) (.evidence .accepted) r
      (r.settle evidence) := by
    apply OperationStep.settle
    · rfl
    · exact hsound.scope.symm
    · exact ⟨hsource, h.settlement_source.symm, (after_last hroom _ stamp).ne_zero, hadmitted⟩
    · rw [hsettlement]
      decide
    · rfl
    · exact hdisposed
    · exact hbounded.latestEffectTime_le
    · exact hbounded.follows (follows_last hroom)
    · exact hresolved
  refine (h.reports hle hstamp hroom (c := .observeSettlement evidence) trivial
    ⟨le_rfl, le_rfl⟩ rfl hstep).mono ?_ fun _ _ he ↦ he
  rintro d g' ⟨hd, hserves⟩
  exact ⟨hd, r.settle evidence, rfl, rfl, hserves⟩

/-! ### Questions and admissions -/

/-- The receipt of the current operation is read. -/
theorem receipt_read (h : g.Serves n (v.bearing r)) {E : Failure → GateState → Prop} :
    Meets (GateState.receipt r.authority.operationId) g (fun found g' ↦ found = some r ∧ g' = g)
      E := by
  unfold GateState.receipt
  apply h.meets_operation
  refine ⟨?_, rfl⟩
  have hpresent : g.gate.currentReceipt = some r := h.receipt
  simp [AuthorityGate.receipt, hpresent]

/-- Whether the gate supports an execution changes nothing. -/
theorem supports (h : g.Serves n v) (units : ℕ) :
    Meets (GateState.supports units now) g (fun _ g' ↦ g'.Serves n v) Overflows := by
  unfold GateState.supports
  apply meets_unsigned
  intro _ _
  apply meets_unsigned
  intro _ _
  exact h

/-- An admission is one of an open gate, of the next operation. -/
def Admission.Opens (now : ℕ) (v : GateView) (decision : AdmissionDecision) (g : GateState) :
    Prop :=
  ¬ v.closed ∧ ∃ r, decision.authority = some r.authority ∧
    r.authority.operationId = v.nextOperationId ∧ v.nextOperationId ≠ 0 ∧
    AtStage r .admitted ∧ ¬ r.isRevoked ∧ r.nativeStarted = false ∧
    g.Serves now ⟨some r, v.nextOperationId + 1, v.closed⟩

/-- What the gate answers to a request for an admission at a time. -/
private theorem admits (h : g.Serves n v) (request : OperationRequest)
    {stamp : MonotonicTime} (hrequested : request.requestedAt = stamp) (hle : n ≤ now)
    (hstamp : stamp.toNat = now) :
    let answered := g.gate.admitRequest request
    let g' : GateState :=
      { g with
        gate := answered.2
        authority := if answered.1.authority.isSome then answered.1.authority else g.authority }
    (answered.1.status = .admitted → Admission.Opens now v answered.1 g') ∧
      (answered.1.status ≠ .admitted → g'.Serves now v) := by
  have hsound := h.at_stamp hle hstamp
  obtain ⟨hadmits, hrefused⟩ := hsound.admits request hrequested.le
  have hsome := authority_of_admitted g.gate request
  have hcases := g.gate.admit_cases request
  change (∃ decision, (Answer.admission (g.gate.admitRequest request).1,
      (g.gate.admitRequest request).2) = (.admission decision, g.gate) ∧ _) ∨
    AdmitGuard g.gate request ∧ (Answer.admission (g.gate.admitRequest request).1,
      (g.gate.admitRequest request).2) = _ at hcases
  generalize g.gate.admitRequest request = answered at hadmits hrefused hsome hcases ⊢
  obtain ⟨decision, gate⟩ := answered
  dsimp only at hadmits hcases hrefused hsome ⊢
  constructor
  · intro hstatus
    rcases hcases with ⟨refusal, heq, hnone⟩ | ⟨hguard, heq⟩
    · cases heq
      have hauthority := hsome hstatus
      rw [show decision.authority = none from hnone] at hauthority
      cases hauthority
    · cases heq
      refine ⟨fun hclosed ↦ ?_, AuthorityGate.newReceipt (g.gate.nextAuthority request) request,
        rfl, h.nextOperationId, ?_, ?_, ?_, rfl, ?_⟩
      · have hready := hguard.ready
        rw [h.closed.mpr hclosed] at hready
        cases hready
      · exact h.nextOperationId ▸ hguard.unexhausted
      · exact ⟨rfl, rfl, rfl, rfl⟩
      · simp [OperationReceipt.isRevoked, AuthorityGate.newReceipt]
      · constructor
        · exact ⟨stamp, hstamp.le, hadmits⟩
        · exact { h.configured with }
        · rfl
        · exact congrArg (· + 1) h.nextOperationId
        · exact h.closed
  · intro hstatus
    have hsame := hrefused hstatus
    subst hsame
    constructor
    · exact ⟨stamp, hstamp.le, hadmits⟩
    · exact { h.configured with }
    · exact h.receipt
    · exact h.nextOperationId
    · exact h.closed

/-- An admission issues the next operation, or nothing happens. -/
theorem admitRequest (h : g.Serves n v) (reference : String) (units : ℕ) (deadline : Option ℕ)
    (hle : n ≤ now) :
    Meets (GateState.admitRequest reference units deadline now) g
      (fun decision g' ↦ textValue reference false = .ok reference ∧
        (decision.status = .admitted → Admission.Opens now v decision g') ∧
        (decision.status ≠ .admitted → g'.Serves now v))
      fun e g' ↦ g' = g ∧ (e = .overflowError ∨ ∃ text, e = .valueError text) := by
  unfold GateState.admitRequest
  cases htext : textValue reference false with
  | error e =>
    refine ⟨rfl, .inr ?_⟩
    unfold textValue at htext
    split at htext
    · exact ⟨_, (Except.error.inj htext).symm⟩
    split at htext
    · exact ⟨_, (Except.error.inj htext).symm⟩
    · cases htext
  | ok reference' =>
  obtain rfl := eq_of_textValue htext
  rw [Fallible.meets_bind, Fallible.meets_answer_ok]
  have hadmits (stamp : UInt64) (hstamp : stamp.toNat = now) (units : UInt64)
      (deadline : Option UInt64) :=
    h.admits
      { capabilityId := g.capability
        effectDomain := g.binding.effectDomain
        opaqueRequestReference := reference'
        targetReference := reference'
        requestedAt := stamp
        deadline
        executionRequirements := some ⟨g.profile, units⟩ } rfl hle hstamp
  unfold unsignedValue
  split
  · split
    · next hlt =>
      rw [Fallible.meets_bind, Fallible.meets_answer_ok, Fallible.meets_bind,
        Fallible.meets_answer_ok]
      have hstamp := UInt64.toNat_ofNat_of_lt' hlt
      cases deadline with
      | none => exact ⟨rfl, hadmits _ hstamp _ none⟩
      | some deadline =>
        dsimp only
        split
        · exact ⟨rfl, hadmits _ hstamp _ (some _)⟩
        · exact ⟨rfl, .inl rfl⟩
    · exact ⟨rfl, .inl rfl⟩
  · exact ⟨rfl, .inl rfl⟩

end Serves

end GateState

end RobotHarness.Python
