import RobotHarness.Compute.Host
import RobotHarness.Compute.Lifecycle
import RobotHarness.Core.Bounds
import RobotHarness.Core.Control

/-!
# What one call of the host can do

Every call of the host is a sequence of steps: a reading, a control of the gate, a report of
evidence, an operation of the process or an assignment, each under what the source has tested
before it. Every invariant of the host is proved from these steps.
-/

namespace RobotHarness.Compute

open Forward

namespace ComputeHost

/-- There is a process with a child whose channels are not closed. -/
def Busy (h : ComputeHost) : Prop := ∃ p ∈ h.process, p.Busy

/-- The dispatch of the current operation is not decided. -/
def DispatchPending (h : ComputeHost) : Prop :=
  ∃ r ∈ h.gate.currentReceipt, r.dispatch = .pending

/-- The native stop of the current operation has been requested. -/
def StopInstructed (h : ComputeHost) : Prop := ∃ r ∈ h.gate.currentReceipt, r.Stopped

private theorem busy_iff {h : ComputeHost} :
    h.Busy ↔ h.launched = true ∧ h.observed.channelsClosed = false := by
  unfold Busy launched observed
  cases h.process with
  | none => simp
  | some p => simp [ComputeProcess.Busy]

/-- The receipt of the last admitted operation is the current one of the gate. -/
theorem currentReceipt_eq_some {h : ComputeHost} {r : OperationReceipt} :
    h.currentReceipt = some r ↔
      h.gate.currentReceipt = some r ∧ h.authority = some r.authority := by
  unfold currentReceipt
  rw [Option.bind_eq_some_iff]
  simp only [AuthorityGate.receipt_eq_some]
  constructor
  · rintro ⟨authority, hauthority, hr, rfl⟩
    exact ⟨hr, hauthority⟩
  · rintro ⟨hr, hauthority⟩
    exact ⟨_, hauthority, hr, rfl⟩

end ComputeHost

namespace HostProgram

variable {env : HostEnvironment} {h : ComputeHost}

/-! ### Reports -/

/-- The record that the host draws next. -/
def nextRecord (h : ComputeHost) (source : String) (time : MonotonicTime) : EvidenceRecord :=
  ⟨source, time, h.sequence + 1⟩

/-- A call of the gate returns what the gate answers. -/
theorem result_callGate {α : Type} (call : Call) (decode : Answer → α) (h : ComputeHost) :
    (callGate call decode).result h = decode (h.gate.call call).1 := rfl

/-- A call of the gate changes the gate and is noted. -/
theorem final_callGate {α : Type} (call : Call) (decode : Answer → α) (h : ComputeHost) :
    (callGate call decode).final h =
      { h with gate := (h.gate.call call).2, calls := h.calls ++ [call] } := rfl

/-- A rejected disposition is remembered. -/
theorem final_accept (d : EvidenceDisposition) (h : ComputeHost) :
    (accept d).final h =
      { h with
        evidenceError := h.evidenceError || decide (d = .rejected)
        rejected := h.rejected || decide (d = .rejected) } := by
  change (if d = .rejected then _ else _) = _
  split
  · next hd => simp [hd]
  · next hd => simp [hd]

/-- What a report of evidence assigns. -/
theorem final_emit (source : String) (time : MonotonicTime) (observe : EvidenceRecord → Call)
    (h : ComputeHost) :
    (emit source time observe).final h =
      { h with
        sequence := h.sequence + 1
        drawn := h.drawn + 1
        gate := (h.gate.call (observe (nextRecord h source time))).2
        calls := h.calls ++ [observe (nextRecord h source time)]
        evidenceError := h.evidenceError ||
          decide (disposition (h.gate.call (observe (nextRecord h source time))).1 = .rejected)
        rejected := h.rejected ||
          decide (disposition (h.gate.call (observe (nextRecord h source time))).1 =
            .rejected) } :=
  final_accept _ _

/-- The host after a report that its gate has not rejected. -/
def reported (h : ComputeHost) (s : AuthorityGate) (call : Call) : ComputeHost :=
  { h with
    sequence := h.sequence + 1
    drawn := h.drawn + 1
    gate := s
    calls := h.calls ++ [call] }

/-- A report that is not rejected leaves the errors alone. -/
theorem final_emit_of_call {source : String} {time : MonotonicTime}
    {f : EvidenceRecord → Call} {s : AuthorityGate} {d : EvidenceDisposition}
    (hcall : h.gate.call (f (nextRecord h source time)) = (.evidence d, s))
    (hd : d ≠ .rejected) :
    (emit source time f).final h =
      reported h s (f (nextRecord h source time)) := by
  rw [final_emit]
  simp only [hcall, disposition, hd, decide_false, Bool.or_false, reported]

/-- The hosts differ at most in the readings, in the gate and in the evidence drawn for it. -/
def Reports (h h' : ComputeHost) : Prop :=
  ∃ interactions lastReading gate calls sequence drawn evidenceError rejected,
    h' =
      { h with
        interactions := interactions
        lastReading := lastReading
        gate := gate
        calls := calls
        sequence := sequence
        drawn := drawn
        evidenceError := evidenceError
        rejected := rejected }

private theorem Reports.refl (h : ComputeHost) : Reports h h := ⟨_, _, _, _, _, _, _, _, rfl⟩

private theorem Reports.trans {h h' h'' : ComputeHost} (first : Reports h h')
    (second : Reports h' h'') : Reports h h'' := by
  obtain ⟨_, _, _, _, _, _, _, _, rfl⟩ := first
  obtain ⟨_, _, _, _, _, _, _, _, rfl⟩ := second
  exact ⟨_, _, _, _, _, _, _, _, rfl⟩

/-- The program reads the clock and reports evidence, and does nothing else. -/
def Reporting {α : Type} (m : HostProgram α) : Prop := ∀ h, Reports h (m.final h)

private theorem Reporting.bind {α β : Type} {m : HostProgram α} {k : α → HostProgram β}
    (hm : Reporting m) (hk : ∀ a, Reporting (k a)) : Reporting (m >>= k) :=
  fun h ↦ (hm h).trans (hk _ _)

private theorem Reporting.read {α β : Type} {f : ComputeHost → α} {k : α → HostProgram β}
    (hk : ∀ a, Reporting (k a)) : Reporting (Forward.read f >>= k) :=
  fun h ↦ hk _ h

private theorem reporting_now : Reporting (now env) := fun _ ↦ ⟨_, _, _, _, _, _, _, _, rfl⟩

private theorem reporting_callGate {α : Type} {call : Call} {decode : Answer → α} :
    Reporting (callGate call decode) := fun _ ↦ ⟨_, _, _, _, _, _, _, _, rfl⟩

private theorem reporting_emit {source : String} {time : MonotonicTime}
    {observe : EvidenceRecord → Call} : Reporting (emit source time observe) := by
  intro h
  rw [final_emit]
  exact ⟨_, _, _, _, _, _, _, _, rfl⟩

private theorem reporting_settleUnsubmitted {cleanupConfirmed : Bool} :
    Reporting (settleUnsubmitted env cleanupConfirmed) := by
  refine reporting_now.bind fun _ ↦ .read fun _ ↦ ?_
  refine reporting_emit.bind fun _ ↦ reporting_emit.bind fun _ ↦ ?_
  cases cleanupConfirmed with
  | true => exact reporting_emit
  | false => exact fun _ ↦ ⟨_, _, _, _, _, _, _, _, rfl⟩

private theorem reporting_native {kind : NativeEventKind} {time : MonotonicTime} :
    Reporting (native kind time) := .read fun _ ↦ reporting_emit

private theorem reporting_reportCapabilities {binding : BindingIdentity} {available : Bool}
    {time : MonotonicTime} : Reporting (reportCapabilities binding available time) :=
  .read fun _ ↦ reporting_emit

/-! ### Steps -/

/-- A step that neither admits nor dispatches nor reports what the process did. -/
inductive ControlStep (env : HostEnvironment) (h : ComputeHost) : ComputeHost → Prop where
  | now : ControlStep env h ((now env).final h)
  | probe : ControlStep env h ((canLaunch env).final h)
  | draw {source : String} {time : MonotonicTime} :
      ControlStep env h ((record source time).final h)
  | control {α : Type} {call : Call} {decode : Answer → α} (kind : call.IsControl)
      (bounded : call.Bounded h.lastReading h.sequence) :
      ControlStep env h ((callGate call decode).final h)
  | capabilities {available : Bool} (phase : h.gate.bindingPhase = .active) :
      ControlStep env h
        ((reportCapabilities h.gate.config.binding available h.lastReading).final h)
  | unsubmitted (pending : h.DispatchPending) :
      ControlStep env h ((settleUnsubmitted env true).final h)
  | stop (launched : h.launched = true) (instructed : h.StopInstructed) :
      ControlStep env h
        ((operate env.send fun p send ↦ p.requestStop h.lastReading send).final h)

/-- A step of the host, under what the source has tested before it. -/
inductive HostStep (env : HostEnvironment) (h : ComputeHost) : ComputeHost → Prop where
  | control {h' : ComputeHost} (step : ControlStep env h h') : HostStep env h h'
  | startups {ready : Bool} (phase : h.gate.bindingPhase = .active)
      (starting : h.initialized = false) :
      HostStep env h ((observeStartups h.gate.config.binding ready h.lastReading).final h)
  | commit {candidate : BindingIdentity} {executable : String} :
      HostStep env h ((commitCandidate candidate executable h.lastReading).final h)
  | admits {request : ComputeRequest} {effectDomain : String} (valid : request.Valid) :
      HostStep env h ((admitOperation request effectDomain h.lastReading).final h)
  | dispatch {authority : OperationAuthority} {process : ComputeProcess}
      (fresh : process.observation = {}) (current : h.authority = some authority)
      (undispatched : h.process = none) (pending : h.DispatchPending) :
      HostStep env h ((dispatchProcess env authority process h.lastReading).final h)
  | poll (busy : h.Busy) :
      HostStep env h ((operate env.poll fun p answer ↦ p.poll h.lastReading answer).final h)
  | started (busy : h.Busy) (starts : h.observed.started = true)
      (first : ∃ r ∈ h.gate.currentReceipt, r.nativeStarted = false) :
      HostStep env h ((reportStarted env).final h)
  | stopped (busy : h.Busy) (first : h.stopReported = false)
      (requested : h.observed.stopRequested = true) :
      HostStep env h ((reportStop env).final h)
  | terminal {status : ExitStatus} (busy : h.Busy) (exit : h.observed.exitStatus = some status)
      (eof : h.observed.eventEof = true) (first : h.outcomeReported = false) :
      HostStep env h ((reportTerminal env status h.lastReading).final h)
  | close (busy : h.Busy) (reported : h.outcomeReported = true) :
      HostStep env h ((closeAndSettle env).final h)
  | shutdown (opened : h.shutdown = .isOpen) : HostStep env h (closeAdmission.final h)
  | update : HostStep env h (updateShutdownStatus.final h)

/-- An admission is refused and changes nothing, or adopts the operation that it admits. -/
theorem admitOperation_cases {request : ComputeRequest} {effectDomain : String}
    {time : MonotonicTime} :
    (∃ calls, (admitOperation request effectDomain time).final h =
      { h with calls := h.calls ++ calls }) ∨
      AdmitGuard h.gate (operationRequest request effectDomain time) ∧
        h.gate.call (.admitRequest (operationRequest request effectDomain time)) =
          (.admission ⟨.admitted,
              some (h.gate.nextAuthority (operationRequest request effectDomain time))⟩,
            h.gate.admitted (operationRequest request effectDomain time)) ∧
        (admitOperation request effectDomain time).final h =
          (adoptOperation (h.gate.nextAuthority (operationRequest request effectDomain time))
            request).final
            { h with
              gate := h.gate.admitted (operationRequest request effectDomain time)
              calls := h.calls ++
                [.admitRequest (operationRequest request effectDomain time)] } := by
  unfold admitOperation
  rw [final_bind, result_callGate, final_callGate]
  rcases h.gate.admit_cases (operationRequest request effectDomain time) with
    ⟨decision, hcall, hnone⟩ | ⟨guard, hcall⟩
  · rw [hcall, admissionDecision, hnone]
    exact .inl ⟨_, rfl⟩
  · refine .inr ⟨guard, hcall, ?_⟩
    rw [hcall]
    rfl

/-- A control step reports, or requests the stop of the process. -/
theorem ControlStep.frame {h' : ComputeHost} (step : ControlStep env h h') :
    Reports h h' ∨
      ∃ send,
        h' =
          { h with
            interactions := h.interactions + 1
            process := h.process.map fun p ↦ p.requestStop h.lastReading send } := by
  cases step with
  | now | probe | draw | control => exact .inl ⟨_, _, _, _, _, _, _, _, rfl⟩
  | capabilities => exact .inl (reporting_reportCapabilities h)
  | unsubmitted => exact .inl (reporting_settleUnsubmitted h)
  | stop => exact .inr ⟨env.send h.interactions, rfl⟩

/-- What control steps leave alone. -/
structure ControlFrame (h h' : ComputeHost) : Prop where
  authority : h'.authority = h.authority
  initialized : h'.initialized = h.initialized
  outcomeReported : h'.outcomeReported = h.outcomeReported
  process : h.process = none → h'.process = none
  busy : h.Busy → h'.Busy
  exitStatus : h'.observed.exitStatus = h.observed.exitStatus
  eventEof : h'.observed.eventEof = h.observed.eventEof

private theorem ControlStep.controlFrame {h' : ComputeHost} (step : ControlStep env h h') :
    ControlFrame h h' := by
  rcases step.frame with ⟨_, _, _, _, _, _, _, _, rfl⟩ | ⟨send, rfl⟩
  · exact ⟨rfl, rfl, rfl, id, id, rfl, rfl⟩
  · refine ⟨rfl, rfl, rfl, fun hnone ↦ by simp [hnone], ?_, ?_, ?_⟩
    · rintro ⟨p, hp, hbusy⟩
      exact ⟨_, Option.mem_map_of_mem _ hp, hbusy.requestStop _ _⟩
    all_goals
      unfold ComputeHost.observed
      cases h.process with
      | none => rfl
      | some p =>
        obtain ⟨_, _, _, _, heq⟩ := p.requestStop_eq h.lastReading send
        simp [heq]

/-- A program of control steps leaves the same alone. -/
theorem controlFrame_of_makes {α : Type} {m : HostProgram α} (hm : Makes (ControlStep env) m h) :
    ControlFrame h (m.final h) := by
  refine hm.keeps (P := fun h' ↦ ControlFrame h h') (fun h₁ h₂ step first ↦ ?_)
    ⟨rfl, rfl, rfl, id, id, rfl, rfl⟩
  have second := step.controlFrame
  exact ⟨second.authority.trans first.authority, second.initialized.trans first.initialized,
    second.outcomeReported.trans first.outcomeReported,
    fun hnone ↦ second.process (first.process hnone),
    fun hbusy ↦ second.busy (first.busy hbusy),
    second.exitStatus.trans first.exitStatus, second.eventEof.trans first.eventEof⟩

/-! ### Programs of control steps -/

section Control

variable {time : MonotonicTime}

private theorem makes_now : Makes (ControlStep env) (now env) h := .step .now

/-- A stop that the gate has instructed is applied. -/
theorem makes_applyStop {decision : ControlDecision} (ht : time = h.lastReading)
    (instructed : decision.shouldRequestNativeStop = true → h.StopInstructed) :
    Makes (ControlStep env) (applyStop env decision time) h := by
  subst ht
  refine .read (.guarded fun ⟨hdecision, hlaunched⟩ ↦ ?_)
  exact .step (.stop hlaunched (instructed hdecision))

private theorem makes_control {α : Type} {call : Call} {decode : Answer → α} (kind : call.IsControl)
    (bounded : call.Bounded h.lastReading h.sequence) :
    Makes (ControlStep env) (callGate call decode) h :=
  .step (.control kind bounded)

/-- A revocation that asks for a stop has recorded it. -/
theorem instructed_of_control {call : Call} {authority : OperationAuthority}
    (hcall : call = .requestCancel authority time ∨ call = .observeTime authority time)
    (hstop : ((callGate call controlDecision).result h).shouldRequestNativeStop = true) :
    ((callGate call controlDecision).final h).StopInstructed := by
  refine (gate_transition h.gate call).stopped ?_
  change (controlDecision (h.gate.call call).1).shouldRequestNativeStop = true at hstop
  change stopInstruction ⟨_, _, (h.gate.call call).1, _⟩ ≠ none
  generalize (h.gate.call call).1 = answer at hstop ⊢
  cases answer with
  | control decision =>
    have hstop : decision.shouldRequestNativeStop = true := hstop
    rcases hcall with rfl | rfl <;> simp [stopInstruction, hstop]
  | _ => cases hstop

/-- A withdrawal that asks for a stop has recorded it. -/
theorem instructed_of_withdrawal {binding : BindingIdentity}
    (hstop : ((callGate (.withdrawBinding binding time) bindingDecision).result
      h).nativeStopAuthority ≠ none) :
    ((callGate (.withdrawBinding binding time) bindingDecision).final h).StopInstructed := by
  refine (gate_transition h.gate (.withdrawBinding binding time)).stopped ?_
  change (bindingDecision (h.gate.call (.withdrawBinding binding time)).1).nativeStopAuthority ≠
    none at hstop
  change stopInstruction ⟨_, _, (h.gate.call (.withdrawBinding binding time)).1, _⟩ ≠ none
  generalize (h.gate.call (.withdrawBinding binding time)).1 = answer at hstop ⊢
  cases answer with
  | binding decision => exact hstop
  | _ => exact absurd rfl hstop

/-- A look at the deadline makes steps of control. -/
theorem makes_expire (ht : time = h.lastReading) :
    Makes (ControlStep env) (expire env time) h := by
  subst ht
  refine .read (.guarded fun _ ↦ .bind (makes_control trivial (le_refl h.lastReading)) ?_)
  exact makes_applyStop rfl (instructed_of_control (.inr rfl))

private theorem dispatchPending_of_currentReceipt
    (hpending : ∃ r ∈ h.currentReceipt, r.dispatch = .pending) : h.DispatchPending := by
  obtain ⟨r, hr, hdispatch⟩ := hpending
  exact ⟨r, (ComputeHost.currentReceipt_eq_some.mp hr).1, hdispatch⟩

private theorem dispatchPending_of_receipt {authority : OperationAuthority}
    (hpending : ∃ r ∈ h.gate.receipt authority, r.dispatch = .pending) : h.DispatchPending := by
  obtain ⟨r, hr, hdispatch⟩ := hpending
  exact ⟨r, (AuthorityGate.receipt_eq_some.mp hr).1, hdispatch⟩

private theorem makes_withdrawBinding {binding : BindingIdentity} :
    Makes (ControlStep env) (withdrawBinding env binding) h := by
  refine .bind makes_now (.bind (makes_control trivial (le_refl _)) (.bind ?_ .pure))
  refine .guarded fun _ ↦ .read (.bind ?_ ?_)
  · refine .guarded fun ⟨_, hstop, _⟩ ↦ makes_applyStop rfl fun _ ↦ ?_
    exact instructed_of_withdrawal fun hnone ↦ nomatch hnone ▸ hstop
  · exact .read (.guarded fun hpending ↦
      .step (.unsubmitted (dispatchPending_of_currentReceipt hpending)))

private theorem makes_observeCapabilities (ht : time = h.lastReading) :
    Makes (ControlStep env) (observeCapabilities env time) h := by
  subst ht
  refine .read (.ite (fun _ ↦ .pure) fun hphase ↦ .bind (.step .probe) ?_)
  refine .bind (.step (.capabilities (not_not.mp hphase))) (.read (.bind ?_ .pure))
  exact .guarded fun _ ↦ .bind makes_withdrawBinding .pure

private theorem makes_requestCancel {authority : OperationAuthority} :
    Makes (ControlStep env) (requestCancel env authority) h := by
  refine .bind makes_now (.bind (makes_control trivial (le_refl _)) ?_)
  refine .bind (makes_applyStop rfl (instructed_of_control (.inl rfl))) (.read (.bind ?_ .pure))
  exact .guarded fun ⟨_, hpending⟩ ↦ .step (.unsubmitted (dispatchPending_of_receipt hpending))

end Control

/-! ### All programs -/

section Programs

variable {time : MonotonicTime}

private theorem makes_host {α : Type} {m : HostProgram α} (hm : Makes (ControlStep env) m h) :
    Makes (HostStep env) m h :=
  hm.mono fun _ _ ↦ .control

private theorem makes_observeCandidate {source : String} {observe : EvidenceRecord → Call}
    (ht : time = h.lastReading) (kind : ∀ record, (observe record).IsControl)
    (bounded : ∀ record t n, record.Bounded t n → (observe record).Bounded t n) :
    Makes (ControlStep env) (observeCandidate source time observe) h := by
  refine .bind (.step .draw) (makes_control (kind _) (bounded _ _ _ ⟨ht.le, le_refl _⟩))

private theorem makes_installCandidate {candidate : BindingIdentity} {executable : String} :
    Makes (HostStep env) (installCandidate env candidate executable) h := by
  refine .bind (makes_host (.step .probe)) (.bind (makes_host makes_now) ?_)
  refine .bind (makes_host (makes_observeCandidate rfl (fun _ ↦ trivial) fun _ _ _ ↦ id)) ?_
  refine .bind (makes_host (makes_observeCandidate rfl (fun _ ↦ trivial) fun _ _ _ ↦ id)) ?_
  refine .bind (makes_host (makes_observeCandidate rfl (fun _ ↦ trivial) fun _ _ _ ↦ id)) ?_
  refine .read ?_
  refine .bind (makes_host (makes_observeCandidate rfl (fun _ ↦ trivial) fun _ _ _ ↦ id)) ?_
  refine .bind (makes_host makes_now) (.bind (.step .commit) (.bind ?_ .pure))
  exact .guarded fun _ ↦ makes_host (.bind makes_now (makes_control trivial (le_refl _)))

private theorem makes_rebindProvider {binding : BindingIdentity} {providerId executable : String} :
    Makes (HostStep env) (rebindProvider env binding providerId executable) h := by
  refine .bind (makes_host makes_now) (.read ?_)
  refine .ite (fun _ ↦ .pure) fun _ ↦ .ite (fun _ ↦ .pure) fun _ ↦ .ite (fun _ ↦ .pure) fun _ ↦ ?_
  refine .ite (fun _ ↦ .pure) fun _ ↦ .ite (fun _ ↦ .pure) fun _ ↦ ?_
  refine .bind (makes_host makes_now) ?_
  refine .bind (makes_host (.bind (.step .draw) (makes_control trivial trivial))) ?_
  split
  · exact .pure
  · exact .ite (fun _ ↦ .pure) fun _ ↦ makes_installCandidate

/-- Before the host is initialized an observation of the capabilities withdraws nothing. -/
theorem final_observeCapabilities_starting (hphase : h.gate.bindingPhase = .active)
    (hstarting : h.initialized = false) :
    (observeCapabilities env time).final h =
      (reportCapabilities h.gate.config.binding (env.canLaunch h.interactions) time).final
        ((canLaunch env).final h) := by
  have hguard : ¬ (((reportCapabilities h.gate.config.binding (env.canLaunch h.interactions)
      time).final ((canLaunch env).final h)).initialized = true ∧
      env.canLaunch h.interactions = false) := by
    obtain ⟨_, _, _, _, _, _, _, _, heq⟩ := reporting_reportCapabilities
      ((canLaunch env).final h)
    rw [heq]
    rintro ⟨hinitialized, -⟩
    exact Bool.false_ne_true (hstarting.symm.trans hinitialized)
  have hactive : ¬ (h.gate.bindingStatus time).phase ≠ .active := not_not.mpr hphase
  unfold observeCapabilities
  rw [final_bind, final_read, result_read, if_neg hactive, final_bind, final_bind, final_bind,
    final_bind, final_pure, final_guarded]
  exact if_neg hguard

private theorem reportCapabilities_frame {binding : BindingIdentity} {available : Bool} :
    ((reportCapabilities binding available time).final h).gate.bindingPhase =
        h.gate.bindingPhase ∧
      ((reportCapabilities binding available time).final h).gate.config = h.gate.config ∧
      ((reportCapabilities binding available time).final h).lastReading = h.lastReading := by
  unfold reportCapabilities
  rw [final_bind, final_emit]
  obtain ⟨hphase, hconfig, -⟩ := (gate_transition h.gate (.observeExecutionCapabilities
    (hostCapabilities h.config binding available
      (nextRecord h hostObserver time)))).reportsCapabilities
  exact ⟨hphase, hconfig, rfl⟩

private theorem makes_initializeHost : Makes (HostStep env) (initializeHost env) h := by
  refine .bind (makes_host makes_now) (.read (.bind ?_ .pure))
  refine .guarded fun ⟨_, hphase⟩ ↦ ?_
  have hmakes : Makes (ControlStep env) _ _ :=
    makes_observeCapabilities (h := (now env).final h) rfl
  refine .bind (makes_host hmakes) (.read (.guarded fun hinitialized ↦ ?_))
  have hstarting : h.initialized = false :=
    (controlFrame_of_makes hmakes).initialized.symm.trans hinitialized
  have hfinal : (observeCapabilities env ((now env).final h).lastReading).final
      ((now env).final h) = _ := final_observeCapabilities_starting hphase hstarting
  obtain ⟨hkept, hconfig, hreading⟩ := reportCapabilities_frame
    (h := (canLaunch env).final ((now env).final h))
  rw [← hfinal] at hkept hconfig hreading
  have hstep := @HostStep.startups env _
    ((observeCapabilities env ((now env).final h).lastReading).result ((now env).final h))
    (hkept.trans hphase) hinitialized
  rw [hconfig, hreading] at hstep
  exact .step hstep

private theorem makes_prepare {request : ComputeRequest} :
    Makes (HostStep env) (prepare env request) h := by
  refine .read (.ite (fun _ ↦ .pure) fun hvalid ↦ .ite (fun _ ↦ .pure) fun _ ↦ ?_)
  refine .ite (fun _ ↦ .pure) fun _ ↦ .bind (makes_host makes_now) ?_
  refine .bind (makes_host (makes_observeCapabilities rfl)) (.bind (makes_host makes_now) ?_)
  exact .read (.bind (makes_host makes_now) (.step (.admits (not_not.mp hvalid))))

/-- The stop that follows from a decision changes neither the gate nor the last reading. -/
theorem applyStop_frame {decision : ControlDecision} :
    ((applyStop env decision time).final h).gate = h.gate ∧
      ((applyStop env decision time).final h).lastReading = h.lastReading := by
  unfold applyStop
  rw [final_bind, final_guarded]
  split
  · exact ⟨rfl, rfl⟩
  · exact ⟨rfl, rfl⟩

/-- Where a look at the deadline ends. -/
theorem final_expire (time : MonotonicTime) (h : ComputeHost) :
    (expire env time).final h =
      if h.authority.isSome = true then
        (applyStop env
          ((callGate (.observeTime h.theAuthority time) controlDecision).result h) time).final
          ((callGate (.observeTime h.theAuthority time) controlDecision).final h)
      else h :=
  final_guarded _ _ _

/-- Looking at the deadline reads no clock and decides no dispatch. -/
theorem expire_frame :
    ((expire env time).final h).lastReading = h.lastReading ∧
      (h.DispatchPending → ((expire env time).final h).DispatchPending) := by
  rw [final_expire]
  split
  · obtain ⟨hgate, hreading⟩ := applyStop_frame
      (h := (callGate (.observeTime h.theAuthority time) controlDecision).final h)
    refine ⟨hreading, fun ⟨r, hr, hdispatch⟩ ↦ ?_⟩
    unfold ComputeHost.DispatchPending
    rw [hgate]
    rcases (gate_transition h.gate (.observeTime h.theAuthority time)).control trivial with
      hkept | ⟨q, q', hq, hq', change⟩
    · exact ⟨r, hkept.trans hr, hdispatch⟩
    · obtain ⟨_, _, _, _, _, _, rfl⟩ := change.control_eq trivial
      cases hr.symm.trans hq
      exact ⟨_, hq', hdispatch⟩
  · exact ⟨rfl, id⟩

private theorem makes_dispatchPrepared {authority : OperationAuthority} :
    Makes (HostStep env) (dispatchPrepared env authority) h := by
  refine .read (.ite (fun _ ↦ .pure) fun hguard ↦ .bind (makes_host makes_now) ?_)
  push Not at hguard
  obtain ⟨hauthority, -, hprocess⟩ := hguard
  have hnone : h.process = none := by simpa using hprocess
  have hobserve : Makes (ControlStep env) _ _ :=
    makes_observeCapabilities (h := (now env).final h) rfl
  have hfirst := controlFrame_of_makes hobserve
  refine .bind (makes_host hobserve) (.read (.ite (fun _ ↦ .pure) fun hpending ↦ ?_))
  refine .bind (makes_host makes_now) ?_
  have hexpire : Makes (ControlStep env) _ _ := makes_expire (h := (now env).final
    ((observeCapabilities env ((now env).final h).lastReading).final ((now env).final h))) rfl
  have hsecond := controlFrame_of_makes hexpire
  refine .bind (makes_host hexpire) ?_
  obtain ⟨hreading, hkept⟩ := expire_frame (h := (now env).final
    ((observeCapabilities env ((now env).final h).lastReading).final ((now env).final h)))
  have hstep := @HostStep.dispatch env _ _
    (ComputeProcess.create
      ((observeCapabilities env ((now env).final h).lastReading).final
        ((now env).final h)).config.workerExecutable
      ((observeCapabilities env ((now env).final h).lastReading).final
        ((now env).final h)).theRequest.iterations
      ((observeCapabilities env ((now env).final h).lastReading).final
        ((now env).final h)).config.stopGraceMs) rfl
    ((hsecond.authority.trans hfirst.authority).trans hauthority)
    (hsecond.process (hfirst.process hnone))
    (hkept (dispatchPending_of_receipt (not_not.mp hpending)))
  rw [hreading] at hstep
  exact .step hstep

private theorem makes_submit {request : ComputeRequest} :
    Makes (HostStep env) (submit env request) h := by
  refine .bind makes_prepare ?_
  split
  · exact .pure
  · exact .bind makes_dispatchPrepared .pure

/-! ### What the process did -/

/-- A report keeps what does not depend on the gate and its evidence. -/
theorem Reporting.keeps {α : Type} {m : HostProgram α} (hm : Reporting m)
    {P : ComputeHost → Prop} (hP : ∀ h h', Reports h h' → P h → P h') : Keeps P m :=
  fun h ↦ hP _ _ (hm h)

private theorem Reports.busy {h h' : ComputeHost} (hreports : Reports h h') (hbusy : h.Busy) :
    h'.Busy := by
  obtain ⟨_, _, _, _, _, _, _, _, rfl⟩ := hreports
  exact hbusy

private theorem busy_reportStarted : Keeps ComputeHost.Busy (reportStarted env) :=
  (reporting_now.bind fun _ ↦ reporting_native).keeps fun _ _ ↦ Reports.busy

private theorem busy_reportStop : Keeps ComputeHost.Busy (reportStop env) :=
  .read fun _ ↦ .bind (reporting_now.keeps fun _ _ ↦ Reports.busy) fun _ ↦
    .bind (reporting_emit.keeps fun _ _ ↦ Reports.busy) fun _ ↦ .assign fun _ ↦ id

private theorem busy_observeProcessEvents : Keeps ComputeHost.Busy (observeProcessEvents env) :=
  .read fun _ ↦ .bind (.guarded fun _ ↦ busy_reportStarted) fun _ ↦
    .read fun _ ↦ .guarded fun _ ↦ busy_reportStop

private theorem makes_observeProcessEvents (hbusy : h.Busy) :
    Makes (HostStep env) (observeProcessEvents env) h := by
  refine .read (.bind (.guarded fun ⟨hstarts, r, hr, hfirst⟩ ↦ .step ?_) (.read ?_))
  · exact .started hbusy hstarts ⟨r, (AuthorityGate.receipt_eq_some.mp hr).1, hfirst⟩
  · refine .guarded fun ⟨hfirst, hrequested, _⟩ ↦ .step (.stopped ?_ hfirst hrequested)
    exact Keeps.guarded (fun _ ↦ busy_reportStarted) h hbusy

private theorem makes_reportOutcome {status : ExitStatus} (hbusy : h.Busy)
    (hexit : h.observed.exitStatus = some status) (heof : h.observed.eventEof = true)
    (hfirst : h.outcomeReported = false) : Makes (HostStep env) (reportOutcome env status) h := by
  have hexpire : Makes (ControlStep env) _ _ := makes_expire (h := (now env).final h) rfl
  refine .bind (makes_host makes_now) (.bind (makes_host hexpire) ?_)
  have hframe := controlFrame_of_makes hexpire
  obtain ⟨hreading, -⟩ := expire_frame (h := (now env).final h)
  have hstep : HostStep env _ _ := HostStep.terminal (hframe.busy hbusy)
    (hframe.exitStatus.trans hexit) (hframe.eventEof.trans heof)
    (hframe.outcomeReported.trans hfirst)
  rw [hreading] at hstep
  exact .step hstep

private theorem busy_applyStop {decision : ControlDecision} :
    Keeps ComputeHost.Busy (applyStop env decision time) := by
  refine .read fun _ ↦ .guarded fun _ h ⟨p, hp, hbusy⟩ ↦ ?_
  exact ⟨_, Option.mem_map_of_mem _ hp, hbusy.requestStop _ _⟩

private theorem busy_expire : Keeps ComputeHost.Busy (expire env time) :=
  .read fun _ ↦ .guarded fun _ ↦
    .bind (reporting_callGate.keeps fun _ _ ↦ Reports.busy) fun _ ↦ busy_applyStop

private theorem busy_reportOutput {kind : NativeEventKind} :
    Keeps ComputeHost.Busy (reportOutput env kind time) := by
  refine .read fun _ ↦ .ite (fun _ ↦ ?_) fun _ ↦ reporting_emit.keeps fun _ _ ↦ Reports.busy
  refine .bind (reporting_now.keeps fun _ _ ↦ Reports.busy) fun _ ↦ .bind busy_expire fun _ ↦ ?_
  refine .read fun _ ↦ .ite (fun _ ↦ ?_) fun _ ↦ reporting_emit.keeps fun _ _ ↦ Reports.busy
  exact .bind (.assign fun _ ↦ id) fun _ ↦ reporting_emit.keeps fun _ _ ↦ Reports.busy

private theorem busy_reportOutcome {status : ExitStatus} :
    Keeps ComputeHost.Busy (reportOutcome env status) := by
  refine .bind (reporting_now.keeps fun _ _ ↦ Reports.busy) fun _ ↦ .bind busy_expire fun _ ↦ ?_
  refine .read fun _ ↦ .bind (reporting_native.keeps fun _ _ ↦ Reports.busy) fun _ ↦ ?_
  exact .bind busy_reportOutput fun _ ↦ .assign fun _ ↦ id

private theorem makes_finish (hbusy : h.Busy) : Makes (HostStep env) (finish env) h := by
  refine .read ?_
  split
  · exact .pure
  · next status hexit =>
    refine .guarded fun ⟨heof, _⟩ ↦ .bind (.guarded (makes_reportOutcome hbusy hexit heof))
      (.step (.close ?_ ?_))
    · exact Keeps.guarded (fun _ ↦ busy_reportOutcome) h hbusy
    · rw [final_guarded]
      split
      · rfl
      · next hreported => simpa using hreported

private theorem makes_checkSupport : Makes (ControlStep env) (checkSupport env) h := by
  refine .bind makes_now (.read (.guarded fun _ ↦ .bind makes_now (.read ?_)))
  exact .guarded fun _ ↦ .bind makes_withdrawBinding .pure

private theorem makes_pollProcess (hbusy : h.Busy) : Makes (HostStep env) (pollProcess env) h := by
  have hmakes : Makes (ControlStep env) (checkSupport env) h := makes_checkSupport
  have hchecked := (controlFrame_of_makes hmakes).busy hbusy
  refine .bind (makes_host makes_checkSupport) (.bind (makes_host makes_now) ?_)
  refine .bind (.step (.poll hchecked)) (.read ?_)
  have hpolled : ((operate env.poll fun p answer ↦ p.poll ((now env).final
      ((checkSupport env).final h)).lastReading answer).final ((now env).final
        ((checkSupport env).final h))).Busy := by
    obtain ⟨p, hp, hbusy⟩ := hchecked
    exact ⟨_, Option.mem_map_of_mem _ hp, hbusy.poll _ _⟩
  refine .bind (.guarded fun _ ↦ makes_host (.bind makes_requestCancel .pure)) ?_
  refine .bind (makes_observeProcessEvents ?_) (makes_finish (busy_observeProcessEvents _ ?_))
  all_goals
    rw [final_guarded]
    split
    · exact (controlFrame_of_makes makes_requestCancel).busy hpolled
    · exact hpolled

private theorem makes_poll : Makes (HostStep env) (poll env) h := by
  refine .read (.guarded fun _ ↦ .bind (.guarded fun _ ↦ ?_) (.bind (makes_host makes_now) ?_))
  · exact makes_host (.bind makes_now (.bind (makes_observeCapabilities rfl) .pure))
  refine .bind (makes_host (makes_expire rfl)) (.read (.bind (.guarded ?_) (.read ?_)))
  · rintro ⟨-, -, r, hr, hpending, -⟩
    exact makes_host (.step (.unsubmitted (dispatchPending_of_receipt ⟨r, hr, hpending⟩)))
  · exact .bind (.guarded fun hbusy ↦ makes_pollProcess (ComputeHost.busy_iff.mpr hbusy))
      (.step .update)

private theorem makes_beginShutdown : Makes (HostStep env) (beginShutdown env) h := by
  refine .read (.guarded fun hopen ↦ .bind (.step (.shutdown hopen)) (.read ?_))
  exact .bind (.guarded fun _ ↦ makes_host (.bind makes_requestCancel .pure)) makes_poll

/-- Every call of the host is a sequence of steps. -/
theorem makes_program (c : HostCall) : Makes (HostStep env) (c.program env) h := by
  cases c with
  | initializeHost => exact .bind makes_initializeHost .pure
  | prepare => exact .bind makes_prepare .pure
  | dispatchPrepared => exact .bind makes_dispatchPrepared .pure
  | submit => exact .bind makes_submit .pure
  | requestCancel => exact .bind (makes_host makes_requestCancel) .pure
  | withdrawBinding => exact .bind (makes_host makes_withdrawBinding) .pure
  | rebindProvider => exact .bind makes_rebindProvider .pure
  | poll => exact .bind makes_poll .pure
  | beginShutdown => exact .bind makes_beginShutdown .pure

end Programs

end HostProgram

/-- What every step keeps, every call keeps. -/
theorem keeps_call {env : HostEnvironment} {P : ComputeHost → Prop}
    (hstep : ∀ h h', HostProgram.HostStep env h h' → P h → P h') (h : ComputeHost)
    (c : HostCall) (hs : P h) : P ((computeHost env).next h c) :=
  (HostProgram.makes_program c).keeps hstep hs

/-- What holds at the start and is kept by every step holds after every run. -/
theorem HostRun.invariant (run : HostRun) {P : ComputeHost → Prop} (hstart : P run.start)
    (hstep : ∀ h h', HostProgram.HostStep run.env h h' → P h → P h') : P run.final :=
  (computeHost run.env).invariant_run (fun h c ↦ keeps_call hstep h c) hstart run.calls

end RobotHarness.Compute
