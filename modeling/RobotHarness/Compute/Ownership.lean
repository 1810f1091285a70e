import RobotHarness.Compute.Steps
import RobotHarness.Core.Binding

/-!
# Ownership of the child

The host gives up no process whose child may still be there: a process with a child keeps the
receipt of its operation unsettled until both channels are closed, and the gate admits nothing
before the settlement.
-/

namespace RobotHarness.Compute

open Forward HostProgram

namespace ComputeHost

/-- The dispatch of the current operation is decided and its settlement is not. -/
def Unsettled (h : ComputeHost) : Prop :=
  ∃ r ∈ h.gate.currentReceipt, r.dispatch ≠ .pending ∧ r.settlement = .pending

/-- What a closed host has left behind. -/
structure LeftClear (h : ComputeHost) : Prop where
  settled : ∀ r ∈ h.gate.currentReceipt, r.settlement = .settled
  clear : ¬ h.Busy
  evidence : h.evidenceError = false
  ownership : h.observed.ownershipLost = false

/-- How every host owns its processes. -/
structure Owned (h : ComputeHost) : Prop where
  coherent : h.gate.Coherent
  linked : h.gate.currentReceipt.map OperationReceipt.authority = h.authority
  discarded : ∀ p ∈ h.discarded, p.Clean
  sound : ∀ p ∈ h.process, p.Sound
  busy : h.Busy → h.Unsettled
  shut : h.shutdown ≠ .isOpen → h.gate.bindingPhase = .closed
  closed : h.shutdown = .closed → h.LeftClear

/-- The host is not closed. -/
def Active (h : ComputeHost) : Prop := h.Owned ∧ h.shutdown ≠ .closed

/-- The host is not closed and no child of it has open channels. -/
def Idle (h : ComputeHost) : Prop := h.Active ∧ ¬ h.Busy

variable {h : ComputeHost}

/-- An unsettled operation is not settled. -/
theorem Unsettled.not_settled (hs : h.Unsettled) :
    ¬ ∀ r ∈ h.gate.currentReceipt, r.settlement = .settled := by
  obtain ⟨r, hr, -, hpending⟩ := hs
  exact fun hsettled ↦ nomatch (hsettled r hr).symm.trans hpending

namespace Owned

/-- A settled operation is not waiting for its dispatch. -/
theorem not_dispatchPending (hs : h.Owned)
    (hsettled : ∀ r ∈ h.gate.currentReceipt, r.settlement = .settled) : ¬ h.DispatchPending := by
  rintro ⟨r, hr, hpending⟩
  have hintegrity := hs.coherent.receipts r hr
  obtain ⟨-, -, -, hunsettled⟩ :=
    OperationReceipt.undispatched hintegrity.recorded hintegrity.sequenced hpending
  exact nomatch (hsettled r hr).symm.trans hunsettled

/-- A host with a child whose channels are not closed is not closed. -/
theorem active_of_busy (hs : h.Owned) (hbusy : h.Busy) : h.Active :=
  ⟨hs, fun hclosed ↦ (hs.closed hclosed).clear hbusy⟩

/-- A host whose binding is not closed is open. -/
theorem isOpen_of_phase (hs : h.Owned) (hphase : h.gate.bindingPhase ≠ .closed) :
    h.shutdown = .isOpen := by
  by_contra hne
  exact hphase (hs.shut hne)

private theorem active_of_phase (hs : h.Owned) (hphase : h.gate.bindingPhase = .active) :
    h.Active := by
  refine ⟨hs, ?_⟩
  rw [hs.isOpen_of_phase (by rw [hphase]; nofun)]
  nofun

/-- Before its dispatch an operation has no child. -/
theorem idle_of_pending (hs : h.Owned) (hpending : h.DispatchPending) : h.Idle := by
  refine ⟨⟨hs, fun hclosed ↦ hs.not_dispatchPending (hs.closed hclosed).settled hpending⟩, ?_⟩
  intro hbusy
  obtain ⟨r, hr, hdispatched, -⟩ := hs.busy hbusy
  obtain ⟨q, hq, hdispatch⟩ := hpending
  cases hr.symm.trans hq
  exact hdispatched hdispatch

/-- A call of the gate that admits nothing, and settles nothing behind an open child, keeps the
ownership. -/
theorem call (hs : h.Owned) {α : Type} {c : Call} {f : Answer → α}
    (hadmits : ∀ request, c ≠ .admitRequest request)
    (hsettle : h.Busy → ∀ e, c ≠ .observeSettlement e) :
    ((callGate c f).final h).Owned where
  coherent := (gate_transition h.gate c).coherent hs.coherent
  linked := ((gate_transition h.gate c).authority_eq hadmits).trans hs.linked
  discarded := hs.discarded
  sound := hs.sound
  busy := fun hbusy ↦ (gate_transition h.gate c).keeps_present hadmits
    (fun _ _ change ⟨hdispatched, hpending⟩ ↦
      ⟨change.dispatched hdispatched,
        (change.settlement_eq (hsettle hbusy)).trans hpending⟩) (hs.busy hbusy)
  shut := fun hshut ↦ (gate_transition h.gate c).closed (hs.shut hshut)
  closed := fun hclosed ↦
    { hs.closed hclosed with
      settled := (gate_transition h.gate c).keeps_receipt hadmits
        (fun _ _ change ↦ change.settled) (hs.closed hclosed).settled }

end Owned

/-! ### Reports -/

section Reports

variable {env : HostEnvironment} {time : MonotonicTime} {source : String}

private theorem keeps_active_accept {d : EvidenceDisposition} : Keeps Active (accept d) := by
  rintro h ⟨hs, hopen⟩
  rw [final_accept]
  exact ⟨{ hs with closed := fun hclosed ↦ absurd hclosed hopen }, hopen⟩

private theorem keeps_active_now : Keeps Active (now env) :=
  fun _ ⟨hs, hopen⟩ ↦ ⟨{ hs with closed := fun hclosed ↦ { hs.closed hclosed with } }, hopen⟩

private theorem keeps_active_call {α : Type} {c : Call} {f : Answer → α}
    (hadmits : ∀ request, c ≠ .admitRequest request)
    (hsettle : ∀ e, c ≠ .observeSettlement e) : Keeps Active (callGate c f) :=
  fun _ ⟨hs, hopen⟩ ↦ ⟨hs.call hadmits fun _ ↦ hsettle, hopen⟩

private theorem keeps_active_record : Keeps Active (record source time) :=
  fun _ ⟨hs, hopen⟩ ↦ ⟨{ hs with closed := fun hclosed ↦ { hs.closed hclosed with } }, hopen⟩

/-- A report that settles nothing keeps the ownership of a host that is not closed. -/
theorem keeps_active_emit {observe : EvidenceRecord → Call}
    (hadmits : ∀ record request, observe record ≠ .admitRequest request)
    (hsettle : ∀ record e, observe record ≠ .observeSettlement e) :
    Keeps Active (emit source time observe) := by
  refine .bind keeps_active_record fun _ ↦ ?_
  exact .bind (keeps_active_call (hadmits _) (hsettle _)) fun _ ↦ keeps_active_accept

/-- Any report keeps the ownership of an idle host. -/
theorem keeps_idle_emit {observe : EvidenceRecord → Call}
    (hadmits : ∀ record request, observe record ≠ .admitRequest request) :
    Keeps Idle (emit source time observe) := by
  rintro h ⟨hs, hidle⟩
  obtain ⟨hdrawn, hopen⟩ := keeps_active_record h hs
  have hcalled := hdrawn.call (f := disposition) (hadmits (nextRecord h source time) ·)
    fun hbusy ↦ absurd hbusy hidle
  exact ⟨keeps_active_accept _ ⟨hcalled, hopen⟩, by rw [final_emit]; exact hidle⟩

private theorem keeps_idle_now : Keeps Idle (now env) :=
  fun h ⟨hs, hidle⟩ ↦ ⟨keeps_active_now h hs, hidle⟩

private theorem keeps_idle_settleUnsubmitted {cleanupConfirmed : Bool} :
    Keeps Idle (settleUnsubmitted env cleanupConfirmed) := by
  refine .bind keeps_idle_now fun _ ↦ .read fun _ ↦ ?_
  refine .bind (keeps_idle_emit nofun) fun _ ↦ .bind (keeps_idle_emit nofun) fun _ ↦ ?_
  cases cleanupConfirmed with
  | true => exact keeps_idle_emit nofun
  | false =>
    exact fun h ⟨⟨hs, hopen⟩, hidle⟩ ↦
      ⟨⟨{ hs with closed := fun hclosed ↦ absurd hclosed hopen }, hopen⟩, hidle⟩

private theorem keeps_active_native {kind : NativeEventKind} : Keeps Active (native kind time) :=
  .read fun _ ↦ keeps_active_emit nofun nofun

private theorem keeps_active_reportCapabilities {binding : BindingIdentity} {available : Bool} :
    Keeps Active (reportCapabilities binding available time) := by
  refine .read fun _ ↦ keeps_active_emit ?_ ?_
  all_goals
    intro _ _ heq
    cases heq

end Reports

/-! ### The process -/

/-- The observation of the host is that of its process. -/
theorem observed_eq {p : ComputeProcess} (hp : p ∈ h.process) : h.observed = p.observation := by
  unfold observed
  rw [Option.mem_def.mp hp]
  rfl

/-- An operation of the process keeps the ownership when it keeps the process sound, adds no
child to a settled operation, and leaves a closed host clear. -/
theorem Owned.operate (hs : h.Owned) {f : ComputeProcess → ComputeProcess}
    (hsound : ∀ p ∈ h.process, (f p).Sound) (hbusy : ∀ p ∈ h.process, (f p).Busy → h.Unsettled)
    (hclear : h.shutdown = .closed → ∀ p ∈ h.process,
      ¬ (f p).Busy ∧ (f p).observation.ownershipLost = p.observation.ownershipLost) :
    Owned { h with interactions := h.interactions + 1, process := h.process.map f } :=
  { hs with
    sound := by
      intro q hq
      obtain ⟨p, hp, rfl⟩ := Option.mem_map.mp hq
      exact hsound p hp
    busy := by
      rintro ⟨q, hq, hbusyq⟩
      obtain ⟨p, hp, rfl⟩ := Option.mem_map.mp hq
      exact hbusy p hp hbusyq
    closed := by
      intro hclosed
      have hleft := hs.closed hclosed
      refine { hleft with clear := ?_, ownership := ?_ }
      · rintro ⟨q, hq, hbusyq⟩
        obtain ⟨p, hp, rfl⟩ := Option.mem_map.mp hq
        exact (hclear hclosed p hp).1 hbusyq
      · cases hprocess : h.process with
        | none => simp [observed]
        | some p =>
          have hlost := hleft.ownership
          rw [observed_eq hprocess] at hlost
          exact ((hclear hclosed p hprocess).2).trans hlost }

private theorem Owned.requestStop (hs : h.Owned) (env : HostEnvironment) (nowMs : UInt64) :
    ((HostProgram.operate env.send fun p send ↦ p.requestStop nowMs send).final h).Owned := by
  have hkept : ∀ p ∈ h.process, (p.requestStop nowMs (env.send h.interactions)).Busy → h.Busy := by
    intro p hp hbusy
    obtain ⟨_, _, _, _, heq⟩ := p.requestStop_eq nowMs (env.send h.interactions)
    unfold ComputeProcess.Busy at hbusy
    rw [heq] at hbusy
    exact ⟨p, hp, hbusy⟩
  refine hs.operate (fun p hp ↦ (hs.sound p hp).requestStop _ _)
    (fun p hp hbusy ↦ hs.busy (hkept p hp hbusy))
    fun hclosed p hp ↦ ⟨fun hbusy ↦ (hs.closed hclosed).clear (hkept p hp hbusy), ?_⟩
  obtain ⟨_, _, _, _, heq⟩ := p.requestStop_eq nowMs (env.send h.interactions)
  rw [heq]

/-! ### Steps -/

variable {env : HostEnvironment}

/-- A control step keeps the ownership. -/
theorem Owned.control (hs : h.Owned) {h' : ComputeHost} (step : ControlStep env h h') :
    h'.Owned := by
  cases step with
  | now | probe | draw => exact { hs with closed := fun hclosed ↦ { hs.closed hclosed with } }
  | control kind =>
    refine hs.call ?_ fun _ ↦ ?_
    all_goals
      rintro _ rfl
      exact kind
  | capabilities phase =>
    exact (keeps_active_reportCapabilities h (hs.active_of_phase phase)).1
  | unsubmitted pending => exact (keeps_idle_settleUnsubmitted h (hs.idle_of_pending pending)).1.1
  | stop => exact hs.requestStop env h.lastReading

/-- The commit of a candidate keeps the ownership. -/
theorem Owned.commit (hs : h.Owned) {candidate : BindingIdentity} {executable : String}
    {time : MonotonicTime} : ((commitCandidate candidate executable time).final h).Owned := by
  have hcalled := hs.call (c := .commitRebind candidate time) (f := bindingDecision) nofun
    fun _ ↦ nofun
  unfold commitCandidate
  rw [final_bind, final_bind, final_pure, final_guarded]
  split
  · exact { hcalled with closed := fun hclosed ↦ { hcalled.closed hclosed with } }
  · exact hcalled

/-- An admission finds no child with open channels, and the old process is clean. -/
theorem Owned.admits (hs : h.Owned) {request : ComputeRequest} {effectDomain : String}
    {time : MonotonicTime} : ((admitOperation request effectDomain time).final h).Owned := by
  rcases admitOperation_cases (h := h) with ⟨_, heq⟩ | ⟨guard, -, heq⟩
  · rw [heq]
    exact { hs with closed := fun hclosed ↦ { hs.closed hclosed with } }
  have hopen : h.shutdown = .isOpen := hs.isOpen_of_phase (by rw [guard.phase]; nofun)
  have hidle : ¬ h.Busy := fun hbusy ↦
    (hs.busy hbusy).not_settled fun r hr ↦ (guard.closed r hr).1.1
  rw [heq, adoptOperation, final_assign]
  exact
    { coherent := hs.coherent.admission guard
      linked := rfl
      discarded := by
        intro p hp
        rcases List.mem_append.mp hp with hold | hlast
        · exact hs.discarded p hold
        · have hp : p ∈ h.process := Option.mem_toList.mp hlast
          exact (hs.sound p hp).clean fun hbusy ↦ hidle ⟨p, hp, hbusy⟩
      sound := by
        intro _ hp
        cases hp
      busy := by
        rintro ⟨_, hp, _⟩
        cases hp
      shut := fun hshut ↦ absurd hopen hshut
      closed := fun hclosed ↦ nomatch hopen.symm.trans hclosed }

/-- A claim that is not made leaves the host idle; one that is made leaves its operation
unsettled. -/
theorem claim_cases (hs : h.Idle) {authority : OperationAuthority} {time : MonotonicTime} :
    ((claimUnlessError authority time).final h).Idle ∧
      ((claimUnlessError authority time).result h = true →
        ((claimUnlessError authority time).final h).Unsettled) := by
  unfold claimUnlessError
  rw [final_bind, result_bind, final_read, result_read]
  split
  · exact ⟨hs, nofun⟩
  refine ⟨⟨keeps_active_call (by nofun) (by nofun) h hs.1, hs.2⟩, fun hclaimed ↦ ?_⟩
  have hstep := gate_transition h.gate (.claimDispatch authority time)
  rw [result_callGate] at hclaimed
  change Transition h.gate _ (h.gate.call _).1 (h.gate.call _).2 at hstep
  unfold Unsettled
  rw [final_callGate]
  generalize h.gate.call (.claimDispatch authority time) = answered at hclaimed hstep ⊢
  obtain ⟨answer, s'⟩ := answered
  cases answer with
  | dispatch claimed =>
    cases (show claimed = true from hclaimed)
    obtain ⟨r, hr, -, -, hpending, rfl⟩ := hstep.claimed
    have hintegrity := hs.1.1.coherent.receipts r hr
    obtain ⟨-, -, -, hunsettled⟩ :=
      OperationReceipt.undispatched hintegrity.recorded hintegrity.sequenced hpending
    exact ⟨_, rfl, nofun, hunsettled⟩
  | _ => cases hclaimed

/-- A launch of a fresh process for an unsettled operation keeps the ownership. -/
theorem Active.launch (hs : h.Active) (hunsettled : h.Unsettled)
    (hfresh : ∀ p ∈ h.process, p.observation = {}) :
    ((launchPrepared env).final h).Owned := by
  have hlaunched : ((launchProcess env).final h).Active := by
    refine ⟨hs.1.operate (fun p hp ↦ (p.launch_sound _ (hfresh p hp)).1) (fun _ _ _ ↦ hunsettled)
      fun hclosed ↦ absurd hclosed hs.2, hs.2⟩
  unfold launchPrepared
  rw [final_bind]
  split
  · next hfailed =>
    rw [final_bind, final_read, result_read, final_bind, final_pure]
    refine (keeps_idle_settleUnsubmitted _ ⟨hlaunched, ?_⟩).1.1
    rintro ⟨q, hq, hbusy⟩
    obtain ⟨p, hp, rfl⟩ := Option.mem_map.mp hq
    have hchild := (p.launch_sound _ (hfresh p hp)).2 hbusy
    have hresult : (launchProcess env).result h = (p.launch (env.launch h.interactions)).1 := by
      change h.process.any _ = _
      rw [Option.mem_def.mp hp]
      rfl
    exact nomatch (hfailed.symm.trans hresult).trans hchild
  · exact (Keeps.bind keeps_active_now (fun _ ↦ .bind keeps_active_native fun _ ↦ .pure)
      ((launchProcess env).final h) hlaunched).1

/-- A clean process may be discarded. -/
theorem Owned.discard (hs : h.Owned) {process : ComputeProcess} (hclean : process.Clean) :
    ((discardProcess process).final h).Owned :=
  { hs with
    discarded := by
      intro p hp
      rcases List.mem_append.mp hp with hold | hlast
      · exact hs.discarded p hold
      · cases List.mem_singleton.mp hlast
        exact hclean
    closed := fun hclosed ↦ { hs.closed hclosed with } }

/-- A fresh process may be installed for an unsettled operation. -/
theorem Active.install (hs : h.Active) (hunsettled : h.Unsettled) {process : ComputeProcess}
    (hfresh : process.observation = {}) : ((installProcess process).final h).Active :=
  ⟨{ hs.1 with
      sound := by
        intro p hp
        cases hp
        exact ComputeProcess.sound_of_fresh hfresh
      busy := fun _ ↦ hunsettled
      closed := fun hclosed ↦ absurd hclosed hs.2 }, hs.2⟩

/-- A dispatch installs a process without a child, or discards it. -/
theorem Owned.dispatch (hs : h.Owned) {authority : OperationAuthority} {process : ComputeProcess}
    {time : MonotonicTime} (hfresh : process.observation = {}) (hpending : h.DispatchPending) :
    ((dispatchProcess env authority process time).final h).Owned := by
  obtain ⟨hidle, hclaimed⟩ := claim_cases (hs.idle_of_pending hpending)
  unfold dispatchProcess
  rw [final_bind]
  split
  · rw [final_bind, final_bind, final_pure]
    exact (keeps_idle_settleUnsubmitted _ hidle).1.1.discard (.inl (by rw [hfresh]))
  · next hmade =>
    have hunsettled := hclaimed (by simpa using hmade)
    rw [final_bind]
    refine (hidle.1.install hunsettled hfresh).launch hunsettled fun p hp ↦ ?_
    cases hp
    exact hfresh

section Process

variable {time : MonotonicTime}

private theorem keeps_active_applyStop {decision : ControlDecision} :
    Keeps Active (applyStop env decision time) :=
  .read fun _ ↦ .guarded fun _ _ ⟨hs, hopen⟩ ↦ ⟨hs.requestStop env time, hopen⟩

private theorem keeps_active_expire : Keeps Active (expire env time) :=
  .read fun _ ↦ .guarded fun _ ↦
    .bind (keeps_active_call (by nofun) (by nofun)) fun _ ↦ keeps_active_applyStop

private theorem keeps_active_reportOutput {kind : NativeEventKind} :
    Keeps Active (reportOutput env kind time) := by
  refine .read fun _ ↦ .ite (fun _ ↦ ?_) fun _ ↦ keeps_active_emit (by nofun) (by nofun)
  refine .bind keeps_active_now fun _ ↦ .bind keeps_active_expire fun _ ↦ .read fun _ ↦ ?_
  refine .ite (fun _ ↦ .bind ?_ fun _ ↦ ?_) fun _ ↦ keeps_active_emit (by nofun) (by nofun)
  · exact .assign fun _ ⟨hs, hopen⟩ ↦
      ⟨{ hs with closed := fun hclosed ↦ absurd hclosed hopen }, hopen⟩
  · exact keeps_active_emit (by nofun) (by nofun)

private theorem keeps_active_reportTerminal {status : ExitStatus} :
    Keeps Active (reportTerminal env status time) := by
  refine .read fun _ ↦ .bind keeps_active_native fun _ ↦ .bind keeps_active_reportOutput fun _ ↦ ?_
  exact .assign fun _ ⟨hs, hopen⟩ ↦
    ⟨{ hs with closed := fun hclosed ↦ absurd hclosed hopen }, hopen⟩

private theorem keeps_active_reportStop : Keeps Active (reportStop env) := by
  refine .read fun _ ↦ .bind keeps_active_now fun _ ↦ ?_
  refine .bind (keeps_active_emit (by nofun) (by nofun)) fun _ ↦ ?_
  exact .assign fun _ ⟨hs, hopen⟩ ↦
    ⟨{ hs with closed := fun hclosed ↦ absurd hclosed hopen }, hopen⟩

private theorem keeps_active_observeStartups {binding : BindingIdentity} {ready : Bool} :
    Keeps Active (observeStartups binding ready time) := by
  refine .bind (keeps_active_emit (by nofun) (by nofun)) fun _ ↦ ?_
  refine .bind (keeps_active_emit (by nofun) (by nofun)) fun _ ↦ ?_
  refine .bind (keeps_active_emit (by nofun) (by nofun)) fun _ ↦ ?_
  exact .assign fun _ ⟨hs, hopen⟩ ↦
    ⟨{ hs with closed := fun hclosed ↦ absurd hclosed hopen }, hopen⟩

private theorem keeps_idle_settleClosed : Keeps Idle (settleClosed env) :=
  .read fun _ ↦ .guarded fun _ ↦ .bind keeps_idle_now fun _ ↦ keeps_idle_emit (by nofun)

/-- A poll of a process whose channels are not closed keeps the ownership. -/
theorem Owned.poll (hs : h.Owned) (hbusy : h.Busy) (nowMs : UInt64) :
    ((HostProgram.operate env.poll fun p answer ↦ p.poll nowMs answer).final h).Owned := by
  have hkept : ∀ p ∈ h.process, (p.poll nowMs (env.poll h.interactions)).Busy := by
    obtain ⟨q, hq, hbusyq⟩ := hbusy
    intro p hp
    cases hp.symm.trans hq
    exact hbusyq.poll _ _
  exact hs.operate (fun p hp ↦ (hkept p hp).sound) (fun _ _ _ ↦ hs.busy hbusy)
    fun hclosed ↦ absurd hbusy (hs.closed hclosed).clear

/-- The settlement follows the release of the channels. -/
theorem Owned.close (hs : h.Owned) (hbusy : h.Busy) : ((closeAndSettle env).final h).Owned := by
  have hreleased : ((closeChannels env).final h).Active :=
    ⟨hs.operate (fun p hp ↦ (hs.sound p hp).closeChannels _ _) (fun _ _ _ ↦ hs.busy hbusy)
      fun hclosed ↦ absurd hbusy (hs.closed hclosed).clear, (hs.active_of_busy hbusy).2⟩
  unfold closeAndSettle
  rw [final_bind, final_guarded]
  split
  · next hclosed =>
    refine (keeps_idle_settleClosed _ ⟨hreleased, ?_⟩).1.1
    rintro ⟨q, hq, -, hopen⟩
    obtain ⟨p, hp, rfl⟩ := Option.mem_map.mp hq
    obtain ⟨closed, _, heq, hanswer, -⟩ :=
      p.closeChannels_eq (env.close h.interactions).1 (env.close h.interactions).2
    have hresult : (closeChannels env).result h = closed := by
      rw [← hanswer]
      change h.process.any _ = _
      rw [Option.mem_def.mp hp]
      rfl
    rw [heq] at hopen
    exact nomatch (hclosed.symm.trans hresult).trans hopen
  · exact hreleased.1

end Process

/-- A host that begins its shutdown closes its gate. -/
theorem Owned.closeAdmission (hs : h.Owned) : (HostProgram.closeAdmission.final h).Owned := by
  have hcalled := hs.call (c := .closeAdmission) (f := fun _ ↦ ()) nofun fun _ ↦ nofun
  exact
    { hcalled with
      shut := fun _ ↦ rfl
      closed := nofun }

/-- A host whose process is clear has no child with open channels. -/
theorem not_busy_of_ownedClear (hclear : h.ownedClear = true) : ¬ h.Busy := by
  rintro ⟨p, hp, hlaunched, hopen⟩
  unfold ownedClear at hclear
  rw [observed_eq hp, Option.mem_def.mp hp, hlaunched, hopen] at hclear
  cases hclear

/-- A settled host has a settled receipt, if it has one. -/
theorem Owned.settled (hs : h.Owned) (hsettled : h.isSettled) :
    ∀ r ∈ h.gate.currentReceipt, r.settlement = .settled := by
  intro r hr
  rcases hsettled with hnone | ⟨q, hq, hsettled⟩
  · have hlinked := hs.linked
    rw [hnone, Option.mem_def.mp hr] at hlinked
    cases hlinked
  · cases hr.symm.trans (currentReceipt_eq_some.mp hq).1
    exact hsettled

/-- The shutdown status is updated to closed only when nothing is left. -/
theorem Owned.update (hs : h.Owned) : (updateShutdownStatus.final h).Owned := by
  unfold updateShutdownStatus
  rw [final_assign]
  split
  · exact hs
  next hshut =>
  split
  · exact { hs with shut := fun _ ↦ hs.shut hshut, closed := nofun }
  next hfree =>
  push Not at hfree
  split
  · next hdone =>
    have hlost : h.observed.ownershipLost = false := by
      cases hprocess : h.process with
      | none => simp [observed, hprocess]
      | some p => simpa using (hfree.2 (by simp [hprocess])).1
    exact
      { hs with
        shut := fun _ ↦ hs.shut hshut
        closed := fun _ ↦
          ⟨hs.settled hdone.1, not_busy_of_ownedClear hdone.2, by simpa using hfree.1, hlost⟩ }
  · exact hs

/-- Every step keeps the ownership. -/
theorem Owned.step (hs : h.Owned) {h' : ComputeHost} (step : HostStep env h h') : h'.Owned := by
  cases step with
  | control step => exact hs.control step
  | startups phase => exact (keeps_active_observeStartups h (hs.active_of_phase phase)).1
  | commit => exact hs.commit
  | admits => exact hs.admits
  | dispatch fresh _ _ pending => exact hs.dispatch fresh pending
  | poll busy => exact hs.poll busy _
  | started busy =>
    exact (Keeps.bind keeps_active_now (fun _ ↦ keeps_active_native) h
      (hs.active_of_busy busy)).1
  | stopped busy => exact (keeps_active_reportStop h (hs.active_of_busy busy)).1
  | terminal busy => exact (keeps_active_reportTerminal h (hs.active_of_busy busy)).1
  | close busy => exact hs.close busy
  | shutdown => exact hs.closeAdmission
  | update => exact hs.update

/-! ### The closed host -/

private theorem ownedClear_of_not_busy (hclear : ¬ h.Busy) : h.ownedClear = true := by
  cases hprocess : h.process with
  | none => simp [ownedClear, hprocess]
  | some p =>
    have hbusy : ¬ p.Busy := fun hbusy ↦ hclear ⟨p, hprocess, hbusy⟩
    rw [ComputeProcess.Busy, not_and_or, Bool.not_eq_true, Bool.not_eq_false] at hbusy
    simp [ownedClear, observed, hprocess, hbusy]

/-- The update of the shutdown status leaves a closed host closed. -/
theorem Owned.update_closed (hs : h.Owned) (hclosed : h.shutdown = .closed) :
    (updateShutdownStatus.final h).shutdown = .closed := by
  have hleft := hs.closed hclosed
  unfold updateShutdownStatus
  rw [final_assign, if_neg (by rw [hclosed]; nofun), if_neg]
  · split
    · rfl
    · exact hclosed
  · rintro (hevidence | ⟨-, hlost | ⟨hkept, -⟩⟩)
    · exact nomatch hleft.evidence.symm.trans hevidence
    · exact nomatch hleft.ownership.symm.trans hlost
    · exact nomatch (ownedClear_of_not_busy hleft.clear).symm.trans hkept

/-- Every step leaves a closed host closed. -/
theorem Owned.step_closed (hs : h.Owned) {h' : ComputeHost} (step : HostStep env h h')
    (hclosed : h.shutdown = .closed) : h'.shutdown = .closed := by
  have hphase : h.gate.bindingPhase = .closed := hs.shut (by rw [hclosed]; nofun)
  have hidle := (hs.closed hclosed).clear
  cases step with
  | control step =>
    rcases step.frame with ⟨_, _, _, _, _, _, _, _, rfl⟩ | ⟨_, rfl⟩
    · exact hclosed
    · exact hclosed
  | startups phase => exact nomatch hphase.symm.trans phase
  | commit =>
    unfold commitCandidate
    rw [final_bind, final_bind, final_pure, final_guarded]
    split
    · exact hclosed
    · exact hclosed
  | admits =>
    rcases admitOperation_cases with ⟨_, heq⟩ | ⟨guard, -⟩
    · rw [heq]
      exact hclosed
    · exact nomatch hphase.symm.trans guard.phase
  | dispatch _ _ _ pending => exact absurd hclosed (hs.idle_of_pending pending).1.2
  | poll busy | started busy | stopped busy | terminal busy | close busy => exact absurd busy hidle
  | shutdown opened => exact nomatch hclosed.symm.trans opened
  | update => exact hs.update_closed hclosed

/-! ### Runs -/

/-- The host that the constructor leaves owns nothing. -/
theorem owned_initial (config : ComputeHostConfig) (generation : UInt64) (time : MonotonicTime) :
    (initial config generation time).Owned where
  coherent := AuthorityGate.coherent_initial _
  linked := rfl
  discarded := by
    intro _ hp
    cases hp
  sound := by
    intro _ hp
    cases hp
  busy := by
    rintro ⟨_, hp, _⟩
    cases hp
  shut := fun hshut ↦ absurd rfl hshut
  closed := by
    intro hclosed
    cases hclosed

/-- In a clear old scope there is no child. -/
theorem clean_of_oldScopeIsClear (hclear : h.oldScopeIsClear) : ∀ p ∈ h.process, p.Clean := by
  intro p hp
  obtain ⟨-, hscope⟩ := hclear.2.2 (by rw [Option.mem_def.mp hp]; rfl)
  rw [observed_eq hp] at hscope
  split at hscope
  · exact .inr hscope
  · next hlaunched => exact .inl (by simpa using hlaunched)

/-- A rebinding that is applied has found the old scope clear. -/
theorem clear_of_rebound {expected : BindingIdentity} {providerId executable : String}
    (happlied : ((rebindProvider env expected providerId executable).result h).status =
      .applied) : h.oldScopeIsClear := by
  unfold rebindProvider at happlied
  rw [result_bind, result_bind, result_read] at happlied
  dsimp only at happlied
  iterate 3
    split at happlied
    · cases happlied
  split at happlied
  · cases happlied
  · next hclear => exact not_not.mp hclear

/-- A rebinding leaves the process alone. -/
theorem keeps_process_rebindProvider {expected : BindingIdentity}
    {providerId executable : String} (process : Option ComputeProcess) :
    Keeps (fun h ↦ h.process = process) (rebindProvider env expected providerId executable) := by
  have hcandidate : ∀ source time observe, Keeps (fun h ↦ h.process = process)
      (observeCandidate source time observe) := fun _ _ _ _ ↦ id
  have hcommit : ∀ candidate time, Keeps (fun h ↦ h.process = process)
      (commitCandidate candidate executable time) := fun _ _ ↦
    .bind (fun _ ↦ id) fun _ ↦ .bind (.guarded fun _ ↦ .assign fun _ ↦ id) fun _ ↦ .pure
  refine .bind (fun _ ↦ id) fun _ ↦ .read fun _ ↦ ?_
  refine .ite (fun _ ↦ .pure) fun _ ↦ .ite (fun _ ↦ .pure) fun _ ↦ ?_
  refine .ite (fun _ ↦ .pure) fun _ ↦ .ite (fun _ ↦ .pure) fun _ ↦ ?_
  refine .ite (fun _ ↦ .pure) fun _ ↦ .bind (fun _ ↦ id) fun _ ↦ .bind (fun _ ↦ id) fun begun ↦ ?_
  split
  · exact .pure
  refine .ite (fun _ ↦ .pure) fun _ ↦ .bind (fun _ ↦ id) fun _ ↦ .bind (fun _ ↦ id) fun _ ↦ ?_
  refine .bind (hcandidate _ _ _) fun _ ↦ .bind (hcandidate _ _ _) fun _ ↦ ?_
  refine .bind (hcandidate _ _ _) fun _ ↦ .read fun _ ↦ .bind (hcandidate _ _ _) fun _ ↦ ?_
  refine .bind (fun _ ↦ id) fun _ ↦ .bind (hcommit _ _) fun _ ↦ .bind (.guarded fun _ ↦ ?_) ?_
  · exact .bind (fun _ ↦ id) fun _ _ ↦ id
  · exact fun _ ↦ .pure

/-- The processes that the host has had, the discarded ones first. -/
def processes (h : ComputeHost) : List ComputeProcess := h.discarded ++ h.process.toList

/-- At most one process of the host has a child that is not gone. -/
theorem Owned.countP_processes (hs : h.Owned) :
    h.processes.countP (fun p ↦ decide (¬ p.Clean)) ≤ 1 := by
  have hdiscarded : h.discarded.countP (fun p ↦ decide (¬ p.Clean)) = 0 := by
    rw [List.countP_eq_zero]
    intro p hp
    simpa using hs.discarded p hp
  rw [processes, List.countP_append, hdiscarded, zero_add]
  refine List.countP_le_length.trans ?_
  cases h.process with
  | none => exact Nat.zero_le 1
  | some p => exact le_refl 1

end ComputeHost

namespace HostRun

open ComputeHost

/-- Every host that is reached owns its processes. -/
theorem owned (run : HostRun) : run.final.Owned :=
  run.invariant (owned_initial _ _ _) fun _ _ step hs ↦ hs.step step

/-- A host that is closed after a call stays closed. -/
theorem closed_after (run : HostRun)
    {h t : List (Mealy.Event ComputeHost HostCall HostAnswer)}
    {e : Mealy.Event ComputeHost HostCall HostAnswer} (heq : run.history = h ++ e :: t)
    (hclosed : e.post.shutdown = .closed) :
    run.final.shutdown = .closed ∧ ∀ d ∈ t, d.post.shutdown = .closed := by
  have hkeeps : ∀ h c, h.Owned → ((computeHost run.env).next h c).Owned := fun h c ↦
    keeps_call (fun _ _ step hs ↦ hs.step step) h c
  have hstays : ∀ h c, h.Owned ∧ h.shutdown = .closed →
      ((computeHost run.env).next h c).Owned ∧
        ((computeHost run.env).next h c).shutdown = .closed := fun h c ↦
    keeps_call (P := fun h ↦ h.Owned ∧ h.shutdown = .closed)
      (fun _ _ step hs ↦ ⟨hs.1.step step, hs.1.step_closed step hs.2⟩) h c
  have hmem : e ∈ run.history := by
    rw [heq]
    exact List.mem_append_right _ List.mem_cons_self
  have hpre : e.pre.Owned := (computeHost run.env).invariant_pre hkeeps (owned_initial _ _ _) hmem
  have hpost : e.post = (computeHost run.env).next e.pre e.input :=
    congrArg Mealy.Event.post ((computeHost run.env).eq_event_of_mem_trace hmem)
  obtain ⟨hfinal, hlater⟩ := (computeHost run.env).stable_after hstays heq
    ⟨hpost ▸ hkeeps _ _ hpre, hclosed⟩
  refine ⟨hfinal.2, fun d hd ↦ ?_⟩
  have hd' : d ∈ run.history := by
    rw [heq]
    exact List.mem_append_right _ (List.mem_cons_of_mem _ hd)
  rw [congrArg Mealy.Event.post ((computeHost run.env).eq_event_of_mem_trace hd')]
  exact (hstays _ _ (hlater d hd)).2

/-- A process is discarded only when its child is gone, so that at most one child is there at
a time; a binding is replaced only beside such a process; and a closed host stays closed,
with its last operation settled, its child gone and no error of its evidence. -/
theorem child_ownership (run : HostRun) :
    (∀ p ∈ run.final.discarded, p.Clean) ∧
      run.final.processes.countP (fun p ↦ decide (¬ p.Clean)) ≤ 1 ∧
      (∀ e ∈ run.history, ∀ expected providerId executable decision,
        e.input = .rebindProvider expected providerId executable → e.output = .binding decision →
          decision.status = .applied →
            (∀ p ∈ e.pre.process, p.Clean) ∧ e.post.process = e.pre.process) ∧
      (run.final.shutdown = .closed →
        (∀ authority ∈ run.final.authority, ∃ r ∈ run.final.gate.receipt authority,
          r.settlement = .settled) ∧
          (∀ p ∈ run.final.process, p.Clean) ∧ run.final.evidenceError = false) ∧
      ∀ h e t, run.history = h ++ e :: t → e.post.shutdown = .closed →
        run.final.shutdown = .closed ∧ ∀ d ∈ t, d.post.shutdown = .closed := by
  have hfinal := run.owned
  refine ⟨hfinal.discarded, hfinal.countP_processes, ?_, fun hclosed ↦ ⟨?_, ?_, ?_⟩, ?_⟩
  · rintro e he expected providerId executable decision hinput houtput happlied
    have hevent := (computeHost run.env).eq_event_of_mem_trace he
    obtain ⟨pre, input, output, post⟩ := e
    simp only [Mealy.event, Mealy.Event.mk.injEq, true_and] at hevent
    obtain ⟨hanswer, hnext⟩ := hevent
    dsimp only at hinput houtput ⊢
    subst hinput houtput hnext
    cases hanswer
    exact ⟨clean_of_oldScopeIsClear (clear_of_rebound happlied),
      keeps_process_rebindProvider pre.process pre rfl⟩
  · rintro authority hauthority
    have hlinked := hfinal.linked
    rw [Option.mem_def.mp hauthority] at hlinked
    obtain ⟨r, hr, hrauthority⟩ := Option.map_eq_some_iff.mp hlinked
    exact ⟨r, AuthorityGate.receipt_eq_some.mpr ⟨hr, hrauthority⟩,
      (hfinal.closed hclosed).settled r hr⟩
  · exact fun p hp ↦ (hfinal.sound p hp).clean fun hbusy ↦
      (hfinal.closed hclosed).clear ⟨p, hp, hbusy⟩
  · exact (hfinal.closed hclosed).evidence
  · exact fun h e t heq hclosed ↦ run.closed_after heq hclosed

end HostRun

end RobotHarness.Compute
