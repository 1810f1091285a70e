import RobotHarness.Compute.Timing
import RobotHarness.Core.Acceptance
import RobotHarness.Core.Delivery

/-!
# The result slot

The slot is filled before the gate is asked, and the gate then accepts the output: the expiry
was looked at with the time of the delivery, so that a result that may be delivered is in time.
-/

namespace RobotHarness.Compute

open Forward HostProgram

namespace ComputeHost

/-- The result of a completed operation. -/
def resultOf (authority : OperationAuthority) (request : ComputeRequest) : ComputeResult where
  operationId := authority.operationId
  requestReference := request.requestReference
  iterations := request.iterations
  sum := expectedSum request.iterations

/-- The result slot agrees with the receipt of the last admitted operation. -/
structure Agrees (h : ComputeHost) : Prop where
  linked : h.gate.currentReceipt.map OperationReceipt.authority = h.authority
  requested : h.authority.isSome = true → ∃ request ∈ h.request, request.Valid ∧
    ∀ r ∈ h.gate.currentReceipt, r.deadline = request.deadline
  named : h.authority.isSome = true → h.resultReference ≠ ""
  slot : h.result.isSome = true ↔ ∃ r ∈ h.gate.currentReceipt, r.output = .accepted
  filled : ∀ result ∈ h.result, ∃ authority ∈ h.authority, ∃ request ∈ h.request,
    result = resultOf authority request ∧
      h.Completed request.iterations (expectedSum request.iterations)

variable {env : HostEnvironment} {h h' : ComputeHost}

/-- A part that neither admits nor delivers keeps the agreement. -/
theorem Agrees.plainPart (hs : h.Agrees) (part : PlainPart env h h') : h'.Agrees := by
  cases part with
  | now | draw => exact { hs with }
  | @call _ call _ plain =>
    have hadmits : ∀ request, call ≠ .admitRequest request := by
      rintro _ rfl
      cases plain
    have hstep := gate_transition h.gate call
    exact
      { linked := (hstep.authority_eq hadmits).trans hs.linked
        requested := by
          intro hauthority
          obtain ⟨request, hrequest, hvalid, hdeadline⟩ := hs.requested hauthority
          refine ⟨request, hrequest, hvalid, hstep.keeps_receipt hadmits ?_ hdeadline⟩
          exact fun r r' change hr ↦ change.request_eq.1.trans hr
        named := hs.named
        slot := hs.slot.trans (hstep.accepted_iff plain).symm
        filled := hs.filled }
  | quiet quiet same =>
    refine ⟨?_, ?_, ?_, ?_, ?_⟩
    · rw [quiet.gate, same.authority]
      exact hs.linked
    · rw [same.authority, same.request, quiet.gate]
      exact hs.requested
    · rw [same.authority, same.resultReference]
      exact hs.named
    · rw [same.result, quiet.gate]
      exact hs.slot
    · rw [same.result, same.authority, same.request]
      intro result hresult
      obtain ⟨authority, hauthority, request, hrequest, heq, hcompleted⟩ := hs.filled result hresult
      exact ⟨authority, hauthority, request, hrequest, heq, same.completed _ _ hcompleted⟩

private theorem Agrees.plainParts (hs : h.Agrees)
    (parts : Relation.ReflTransGen (PlainPart env) h h') : h'.Agrees := by
  induction parts with
  | refl => exact hs
  | tail _ hlast ih => exact ih.plainPart hlast

/-- An admission empties the slot. -/
theorem Agrees.admission (hs : h.Agrees) {request : ComputeRequest} {effectDomain : String}
    {time : MonotonicTime} (valid : request.Valid) :
    ((admitOperation request effectDomain time).final h).Agrees := by
  rcases admitOperation_cases (h := h) with ⟨_, heq⟩ | ⟨_, -, heq⟩
  · rw [heq]
    exact { hs with }
  rw [heq, adoptOperation, final_assign]
  refine ⟨rfl, fun _ ↦ ⟨request, rfl, valid, ?_⟩, fun _ ↦ ?_, ?_, ?_⟩
  · intro r hr
    cases hr
    rfl
  · dsimp only
    simp
  · constructor
    · intro hresult
      cases hresult
    · rintro ⟨r, hr, haccepted⟩
      cases hr
      cases haccepted
  · intro result hresult
    cases hresult

/-- A terminal event that is reported as a success completes the requested iterations. -/
theorem completed_of_terminalKind {status : ExitStatus}
    (hexit : h.observed.exitStatus = some status) (heof : h.observed.eventEof = true)
    (hkind : h.terminalKind status = .terminalSucceeded) :
    h.Completed h.theRequest.iterations (expectedSum h.theRequest.iterations) := by
  unfold terminalKind at hkind
  dsimp only at hkind
  split at hkind
  · next hsucceeded =>
    obtain ⟨⟨hformed, -⟩, rfl, hterminal, hiterations, hvalue⟩ := hsucceeded
    cases hprocess : h.process with
    | none => simp [observed, hprocess] at hexit
    | some p =>
      have hobserved : h.observed = p.observation := by simp [observed, hprocess]
      rw [hobserved] at hexit heof hformed hterminal hiterations hvalue
      exact ⟨p, hprocess, hexit, heof, hformed, hterminal, hiterations, hvalue⟩
  · split at hkind <;> cases hkind

private theorem theAuthority_eq {authority : OperationAuthority}
    (h' : h.authority = some authority) : h.theAuthority = authority := by
  rw [theAuthority, h']
  rfl

private theorem theRequest_eq {request : ComputeRequest} (h' : h.request = some request) :
    h.theRequest = request := by
  rw [theRequest, h']
  rfl

/-- An operation that is current after its deadline was looked at is in time or revoked. -/
theorem Agrees.revoked_of_due (hs : h.Agrees) (coherent : h.gate.Coherent)
    (bounded : h.gate.Bounded h.lastReading h.sequence) {r : OperationReceipt}
    (hr : r ∈ ((expire env h.lastReading).final h).gate.currentReceipt)
    (hbound : r.authority.binding =
      ((expire env h.lastReading).final h).gate.config.binding)
    (hpending : r.output = .pending) (hdue : r.hasReachedDeadline h.lastReading) :
    r.isRevoked := by
  have hkept : ((expire env h.lastReading).final h).authority = h.authority :=
    (controlFrame_of_makes (makes_expire rfl)).authority
  have hafter : ((expire env h.lastReading).final h).Agrees :=
    hs.plainParts (plain_expire (le_refl _))
  have hauthority : h.authority = some r.authority := by
    rw [← hkept, ← hafter.linked, Option.mem_def.mp hr]
    rfl
  have hgate : ((expire env h.lastReading).final h).gate =
      (h.gate.call (.observeTime r.authority h.lastReading)).2 := by
    rw [final_expire, if_pos (by rw [hauthority]; rfl), applyStop_frame.1, final_callGate,
      theAuthority_eq hauthority]
  rw [hgate] at hr hbound
  rw [AuthorityGate.config_observeTime] at hbound
  exact coherent.revoked_of_due bounded hr hbound hpending hdue

/-- A delivery fills the slot and its output is accepted. -/
theorem Agrees.delivery (hs : h.Agrees) (coherent : h.gate.Coherent) (timed : h.Timed env)
    (hsink : h.gate.config.resultSinkObserver = hostSink)
    (hcompleted : h.Completed h.theRequest.iterations (expectedSum h.theRequest.iterations))
    (hdeliver : h.gate.canDeliverResult h.theAuthority)
    (hearly : ∀ r ∈ h.gate.currentReceipt, r.output = .pending → ¬ r.isRevoked →
      ¬ r.hasReachedDeadline h.lastReading)
    (hdrawn : (delivered h).drawn < 2 ^ 64) : (delivered h).Agrees := by
  have hdrawn : h.drawn + 1 < 2 ^ 64 := by
    unfold delivered at hdrawn
    rw [final_emit] at hdrawn
    exact hdrawn
  obtain ⟨-, -, r, hr, hunrevoked, -, hpending⟩ := id hdeliver
  obtain ⟨present, hauthority, -⟩ := AuthorityGate.matchingReceipt_eq_some.mp hr
  have hlinked : h.authority = some r.authority := by
    rw [← hs.linked, present]
    rfl
  have hsequence : h.sequence + 1 ≠ 0 := by
    intro hzero
    have hnext := (sequence_lt_succ timed hdrawn).2
    rw [hzero] at hnext
    exact absurd hnext (by simp)
  have hbounded := timed.bounded (Nat.lt_of_succ_lt hdrawn)
  have hcall := coherent.accepts_output
    (e := ⟨h.theAuthority, h.resultReference, ⟨hostSink, h.lastReading, h.sequence + 1⟩⟩)
    present (hbounded.receipt r present).latestEffectTime_le hdeliver
    (hs.named (by rw [hlinked]; rfl)) (by rw [hsink]; decide) hsink.symm rfl hsequence
    (hearly r present hpending hunrevoked)
  obtain ⟨request, hrequest, hvalid, hdeadline⟩ := hs.requested (by rw [hlinked]; rfl)
  rw [theRequest_eq hrequest] at hcompleted
  have hvalue : h.observed.terminalValue = expectedSum request.iterations := by
    obtain ⟨p, hp, hdone⟩ := hcompleted
    rw [← hdone.terminalValue, observed, Option.mem_def.mp hp]
    rfl
  have hemit := final_emit_of_call (h := fillResult.final h)
    (f := fun record ↦ .observeOutputAccepted ⟨h.theAuthority, h.resultReference, record⟩)
    hcall nofun
  unfold delivered
  rw [hemit]
  refine ⟨?_, fun _ ↦ ⟨request, hrequest, hvalid, ?_⟩, hs.named, ?_, ?_⟩
  · exact hlinked.symm
  · intro q hq
    cases hq
    exact hdeadline r present
  · exact ⟨fun _ ↦ ⟨_, rfl, rfl⟩, fun _ ↦ rfl⟩
  · intro result hresult
    cases hresult
    refine ⟨r.authority, hlinked, request, hrequest, ?_, hcompleted⟩
    rw [theAuthority_eq hlinked, theRequest_eq hrequest, hvalue]
    rfl

/-- A step that does not exhaust the counter of the evidence keeps the agreement. -/
theorem Agrees.step (hs : h.Agrees) (hclock : Monotone env.clock) (timed : h.Timed env)
    {generation : UInt64} {startedAt : MonotonicTime} (hgeneration : generation ≠ 0)
    (replays : Replays (.initial (makeGateConfig (makeBinding generation) startedAt)) h)
    (step : HostStep env h h') (hdrawn : h'.drawn < 2 ^ 64) : h'.Agrees := by
  cases step.course with
  | plain parts => exact hs.plainParts parts
  | admission valid => exact hs.admission valid
  | @delivery h₁ _ exit eof succeeded parts _ deliverable =>
    have hexpire : Makes (PlainPart env) _ _ := plain_expire (h := h₁) (le_refl h₁.lastReading)
    have hreading : ((expire env h₁.lastReading).final h₁).lastReading = h₁.lastReading :=
      expire_frame.1
    have timed₁ := timed_of_parts hclock (parts_of_plain parts) timed
    have timed₂ := timed_of_parts hclock (parts_of_plain hexpire) timed₁
    have replays₁ := replays_of_parts (parts_of_plain parts) replays
    have replays₂ := replays_of_parts (parts_of_plain hexpire) replays₁
    have hconfig := gateConfig_accepted hgeneration startedAt
    obtain ⟨coherent₁, -, -⟩ := replays₁.reachable hconfig
    obtain ⟨coherent₂, hsink, -⟩ := replays₂.reachable hconfig
    have same := sameResult_of_parts (parts.trans hexpire)
    have hcompleted := same.completed _ _ (completed_of_terminalKind exit eof succeeded)
    have hrequest : ((expire env h₁.lastReading).final h₁).theRequest = h.theRequest := by
      rw [theRequest, same.request, theRequest]
    have hdrawn₁ : h₁.drawn < 2 ^ 64 := by
      refine lt_of_le_of_lt ((drawn_le_of_parts (parts_of_plain hexpire)).trans ?_) hdrawn
      unfold delivered
      rw [final_emit]
      exact Nat.le_succ _
    refine ((hs.plainParts parts).plainParts hexpire).delivery coherent₂ timed₂ (by rw [hsink]; rfl)
      (hrequest ▸ hcompleted) deliverable ?_ hdrawn
    intro r hr hpending hlive hdue
    rw [hreading] at hdue
    obtain ⟨-, -, q, hq, -⟩ := deliverable
    obtain ⟨present, -, hbound⟩ := AuthorityGate.matchingReceipt_eq_some.mp hq
    cases present.symm.trans hr
    exact hlive ((hs.plainParts parts).revoked_of_due coherent₁ (timed₁.bounded hdrawn₁) hr hbound
      hpending hdue)

end ComputeHost

/-! ### The admission of the operation -/

namespace HostProgram

/-- The gate has admitted the current operation for the current request. -/
def Requested (start : AuthorityGate) (h : ComputeHost) : Prop :=
  ∀ authority ∈ h.authority, ∃ request ∈ h.request, ∃ effectDomain time,
    ∃ e ∈ gate.trace start h.calls,
      e.input = .admitRequest (operationRequest request effectDomain time) ∧
        e.output = .admission ⟨.admitted, some authority⟩

variable {env : HostEnvironment} {h h' : ComputeHost} {start : AuthorityGate}

/-- The admission stays in the history while the operation is current. -/
theorem Requested.mono (hs : Requested start h) (hauthority : h'.authority = h.authority)
    (hrequest : h'.request = h.request) (hcalls : h.calls <+: h'.calls) :
    Requested start h' := by
  intro authority ha
  obtain ⟨request, hr, effectDomain, time, e, he, hadmits⟩ := hs authority (hauthority ▸ ha)
  refine ⟨request, hrequest ▸ hr, effectDomain, time, e, ?_, hadmits⟩
  obtain ⟨calls, heq⟩ := hcalls
  rw [← heq, gate.trace_append]
  exact List.mem_append_left _ he

/-- The operation that an admission adopts is the one that the gate has admitted. -/
theorem Requested.admission (hs : Requested start h) (replays : Replays start h)
    {request : ComputeRequest} {effectDomain : String} {time : MonotonicTime} :
    Requested start ((admitOperation request effectDomain time).final h) := by
  rcases admitOperation_cases (h := h) with ⟨_, heq⟩ | ⟨-, hcall, heq⟩
  · rw [heq]
    exact hs.mono rfl rfl (List.prefix_append _ _)
  rw [heq, adoptOperation, final_assign]
  intro authority ha
  refine ⟨request, rfl, effectDomain, time,
    gate.event h.gate (.admitRequest (operationRequest request effectDomain time)), ?_, rfl, ?_⟩
  · dsimp only
    rw [gate.trace_append, ← replays]
    exact List.mem_append_right _ (List.mem_singleton_self _)
  · cases ha
    exact congrArg Prod.fst hcall

private theorem Requested.step (hs : Requested start h) (replays : Replays start h)
    (step : HostStep env h h') : Requested start h' := by
  have course := step.course
  have hcalls := calls_prefix_of_parts course.parts
  cases course with
  | plain parts =>
    have same := sameResult_of_parts parts
    exact hs.mono same.authority same.request hcalls
  | admission => exact hs.admission replays
  | delivery _ _ _ parts =>
    have same := sameResult_of_parts (parts.trans (plain_expire (le_refl _)))
    refine hs.mono ?_ ?_ hcalls
    all_goals
      unfold delivered
      rw [final_emit]
    · exact same.authority
    · exact same.request

end HostProgram

namespace HostRun

open ComputeHost

/-- The gate has admitted the current operation for the current request. -/
theorem requested (run : HostRun) : Requested run.gateRun.start run.final := by
  refine (run.invariant (P := fun h ↦ Replays run.gateRun.start h ∧
    Requested run.gateRun.start h) ⟨rfl, nofun⟩ ?_).2
  rintro h h' step ⟨replays, hs⟩
  exact ⟨replays_of_parts step.course.parts replays, hs.step replays step⟩

/-- Under a nondecreasing clock the slot agrees with the receipt, as long as fewer than 2^64
records of evidence were drawn. -/
theorem agrees (run : HostRun) (hclock : run.Monotone) (hdrawn : run.final.drawn < 2 ^ 64) :
    run.final.Agrees := by
  have hinvariant := run.invariant
    (P := fun h ↦ h.Timed run.env ∧
      Replays (.initial (makeGateConfig (makeBinding run.generation) run.startedAt)) h ∧
        (h.drawn < 2 ^ 64 → h.Agrees)) ⟨run.timed_start hclock, rfl, fun _ ↦ ?_⟩ ?_
  · exact hinvariant.2.2 hdrawn
  · exact
      { linked := rfl
        requested := nofun
        named := nofun
        slot := ⟨nofun, fun ⟨_, hr, _⟩ ↦ nomatch hr⟩
        filled := nofun }
  · rintro h h' step ⟨timed, replays, hs⟩
    have parts := step.course.parts
    refine ⟨timed_of_parts hclock.clock_le parts timed, replays_of_parts parts replays, ?_⟩
    intro hlast
    have hfirst := lt_of_le_of_lt (drawn_le_of_parts parts) hlast
    exact (hs hfirst).step hclock.clock_le timed run.assigned replays step hlast

/-- The result slot agrees with the receipt under a nondecreasing clock, as long as fewer than
2^64 records of evidence were drawn: it is filled exactly while the output of the last admitted
operation is accepted, with what that operation asked for and what its worker computed, and the
acceptance came before the deadline and before every revocation. -/
theorem result_agrees (run : HostRun) (hclock : run.Monotone)
    (hdrawn : run.final.drawn < 2 ^ 64) :
    (run.final.result.isSome = true ↔ ∃ r ∈ run.final.currentReceipt, r.output = .accepted) ∧
      ∀ result ∈ run.final.result,
        ∃ authority ∈ run.final.authority, ∃ request ∈ run.final.request,
          (result.operationId = authority.operationId ∧
            result.requestReference = request.requestReference ∧
            result.iterations = request.iterations ∧
            result.sum.toNat = periodicSquareSum request.iterations.toNat) ∧
          (∃ p ∈ run.final.process, p.observation.exitStatus = some (.exited 0) ∧
            p.observation.eventEof = true ∧ p.observation.malformed = false ∧
            p.observation.terminal = .completed ∧
            p.observation.terminalIterations = request.iterations) ∧
          (∃ effectDomain time, ∃ e ∈ run.gateRun.history,
            e.input = .admitRequest (operationRequest request effectDomain time) ∧
              e.output = .admission ⟨.admitted, some authority⟩) ∧
          ∃ h e t, run.gateRun.history = h ++ e :: t ∧
            ∃ evidence, e.input = .observeOutputAccepted evidence ∧
              evidence.authority = authority ∧ EvidenceAccepted e ∧
              (∀ d ∈ h, ¬ Revokes authority d) ∧
              ∀ deadline ∈ request.deadline, evidence.record.observedAt < deadline := by
  have hs := run.agrees hclock hdrawn
  have hcurrent : ∀ r, r ∈ run.final.currentReceipt ↔ r ∈ run.final.gate.currentReceipt := by
    intro r
    refine currentReceipt_eq_some.trans ⟨And.left, fun hr ↦ ⟨hr, ?_⟩⟩
    rw [← hs.linked, hr]
    rfl
  refine ⟨by simpa only [hcurrent] using hs.slot, fun result hresult ↦ ?_⟩
  obtain ⟨authority, hauthority, request, hrequest, rfl, p, hp, hdone⟩ := hs.filled result hresult
  refine ⟨authority, hauthority, request, hrequest, ?_, ?_, ?_, ?_⟩
  · obtain ⟨_, hrequest', hvalid, -⟩ := hs.requested (by rw [hauthority]; rfl)
    cases hrequest.symm.trans hrequest'
    exact ⟨rfl, rfl, rfl, toNat_expectedSum hvalid.2.2.1.2⟩
  · exact ⟨p, hp, hdone.exitStatus, hdone.eventEof, hdone.malformed, hdone.terminal,
      hdone.terminalIterations⟩
  · obtain ⟨request', hrequest', hadmits⟩ := run.requested authority hauthority
    cases hrequest.symm.trans hrequest'
    exact hadmits
  · obtain ⟨r, hr, haccepted⟩ := hs.slot.mp (by rw [hresult]; rfl)
    have hlinked : r.authority = authority := by
      have hmap := hs.linked
      rw [hr, hauthority] at hmap
      exact Option.some.inj hmap
    obtain ⟨e, he, evidence, hinput, hevidence, hevent, hearly⟩ :=
      run.gateRun.delivered r (run.gate_eq ▸ hr) haccepted
    obtain ⟨h, t, heq⟩ := List.append_of_mem he
    have hunrevoked := (run.gateRun.revocation_final.2 evidence h e t heq hinput hevent).1
    rw [hevidence, hlinked] at hunrevoked
    obtain ⟨_, hrequest', -, hdeadline⟩ := hs.requested (by rw [hauthority]; rfl)
    cases hrequest.symm.trans hrequest'
    exact ⟨h, e, t, heq, evidence, hinput, hevidence.trans hlinked, hevent, hunrevoked,
      hdeadline r hr ▸ hearly⟩

end HostRun

/-! ### A host at rest -/

/-- A worker that completes one iteration at once, while the clock stands still. -/
def promptEnvironment : HostEnvironment where
  clock := fun _ ↦ 0
  canLaunch := fun _ ↦ true
  launch := fun _ ↦ ⟨0, 0, none, 0, 7, none⟩
  send := fun _ ↦ none
  poll := fun _ ↦
    ⟨[.data 32 {}, .data 32 { kind := .completed, iterations := 1 }, .eof], .ended (.exited 0),
      none⟩
  close := fun _ ↦ (none, none)

/-- A request for one iteration. -/
def promptRequest : ComputeRequest := { requestReference := "request", iterations := 1 }

/-- The run that makes the calls on a host with that worker. -/
def promptRun (calls : List HostCall) : HostRun where
  config := { workerExecutable := "/worker" }
  accepted := by decide
  generation := 1
  assigned := by decide
  startedAt := 0
  env := promptEnvironment
  calls

/-- The clock of such a run does not go back. -/
theorem promptRun_monotone (calls : List HostCall) : (promptRun calls).Monotone :=
  ⟨le_refl _, fun _ _ _ ↦ le_refl _⟩

/-- The host publishes the result of the request to that worker. -/
theorem result_agrees_prompt :
    (promptRun [.initializeHost, .submit promptRequest, .poll]).final.result =
        some ⟨1, "request", 1, 0⟩ ∧
      ∃ r ∈ (promptRun [.initializeHost, .submit promptRequest, .poll]).final.currentReceipt,
        r.output = .accepted := by
  have hresult : (promptRun [.initializeHost, .submit promptRequest, .poll]).final.result =
      some ⟨1, "request", 1, 0⟩ := by
    decide +kernel
  refine ⟨hresult, (HostRun.result_agrees _ (promptRun_monotone _) ?_).1.mp ?_⟩
  · decide +kernel
  · rw [hresult]
    rfl

/-- The host that has probed its worker. -/
def probed (env : HostEnvironment) (h : ComputeHost) : ComputeHost :=
  { h with
    interactions := h.interactions + 2
    lastReading := env.clock h.interactions }

/-- A host that is initialized again reports its capabilities and does nothing else. -/
theorem final_initializeHost_again {env : HostEnvironment} {h : ComputeHost} {s : AuthorityGate}
    (opened : h.shutdown = .isOpen) (initialized : h.initialized = true)
    (phase : h.gate.bindingPhase = .active)
    (available : env.canLaunch (h.interactions + 1) = true)
    (accepted : h.gate.call (.observeExecutionCapabilities (hostCapabilities h.config
      h.gate.config.binding true (nextRecord h hostObserver (env.clock h.interactions)))) =
        (.evidence .accepted, s)) :
    (initializeHost env).final h =
      reported (probed env h) s (.observeExecutionCapabilities (hostCapabilities h.config
        h.gate.config.binding true (nextRecord h hostObserver (env.clock h.interactions)))) := by
  have hnow : Yields (now env) h (env.clock h.interactions) ((now env).final h) := rfl
  have hprobe : Yields (canLaunch env) ((now env).final h) true (probed env h) :=
    Prod.ext available rfl
  have hreport := final_emit_of_call (h := probed env h)
    (f := fun record ↦ .observeExecutionCapabilities
      (hostCapabilities h.config h.gate.config.binding true record)) accepted nofun
  have hobserve : Yields (observeCapabilities env (env.clock h.interactions)) ((now env).final h)
      true (reported (probed env h) s (.observeExecutionCapabilities (hostCapabilities h.config
        h.gate.config.binding true (nextRecord h hostObserver (env.clock h.interactions))))) := by
    refine .read (.otherwise (not_not.mpr phase) (.bind hprobe ?_))
    refine .bind (.read (.of_final hreport)) (.read (.bind (.skip ?_) .pure))
    exact fun hboth ↦ Bool.noConfusion hboth.2
  have hinitialized : ¬ h.initialized = false := fun hstarting ↦
    Bool.noConfusion (initialized.symm.trans hstarting)
  exact Yields.final (a := s.startupStatus) (.bind hnow (.read (.bind
    (.guarded ⟨opened, phase⟩ (.bind hobserve (.read (.skip hinitialized)))) rfl)))

/-- The host with the prompt worker at rest. -/
def restingHost (interactions drawn : ℕ) (sequence : UInt64) (calls : List Call) : ComputeHost :=
  { config := { workerExecutable := "/worker" }
    gate :=
      { AuthorityGate.initial (makeGateConfig (makeBinding 1) 0) with
        initializationState := .ready
        bindingIdle := ⟨true, true, some ⟨hostObserver, 0, 2⟩⟩
        workerReady := ⟨true, true, some ⟨hostObserver, 0, 3⟩⟩
        resultSinkReady := ⟨true, true, some ⟨hostSink, 0, 4⟩⟩
        executionCapabilities := some (hostCapabilities { workerExecutable := "/worker" }
          (makeBinding 1) true ⟨hostObserver, 0, sequence⟩) }
    sequence
    initialized := true
    interactions
    lastReading := 0
    drawn
    calls }

/-- The host is that host, and its counter has not wrapped. -/
def Resting (h : ComputeHost) : Prop :=
  5 ≤ h.drawn ∧ h.sequence = .ofNat h.drawn ∧
    h = restingHost h.interactions h.drawn h.sequence h.calls

private theorem next_initializeHost {env : HostEnvironment} {h : ComputeHost} :
    (computeHost env).next h .initializeHost = (initializeHost env).final h := rfl

/-- What the gate of the host at rest remembers. -/
theorem bounded_restingHost {interactions drawn : ℕ} {sequence : UInt64} {calls : List Call}
    (hsequence : 4 ≤ sequence) :
    (restingHost interactions drawn sequence calls).gate.Bounded 0 sequence := by
  have hinitial : (AuthorityGate.initial (makeGateConfig (makeBinding 1) 0)).Bounded 0 sequence :=
    AuthorityGate.bounded_initial (le_refl _)
  have hbelow : ∀ n ≤ (4 : UInt64), n ≤ sequence := fun n hn ↦ hn.trans hsequence
  refine { hinitial with startup := fun index record hrecord ↦ ?_, capabilities := fun e he ↦ ?_ }
  · match index with
    | 0 =>
      cases hrecord
      exact ⟨le_refl _, hbelow 2 (by decide)⟩
    | 1 =>
      cases hrecord
      exact ⟨le_refl _, hbelow 3 (by decide)⟩
    | 2 =>
      cases hrecord
      exact ⟨le_refl _, hsequence⟩
  · cases he
    exact ⟨le_refl _, le_refl _⟩

/-- An initialization of the host at rest draws one record. -/
theorem Resting.next {h : ComputeHost} (hs : Resting h) (hdrawn : h.drawn + 1 < 2 ^ 64) :
    Resting ((computeHost promptEnvironment).next h .initializeHost) ∧
      ((computeHost promptEnvironment).next h .initializeHost).drawn = h.drawn + 1 := by
  obtain ⟨hstarted, hcount, hrest⟩ := hs
  generalize h.interactions = interactions at hrest
  generalize h.calls = calls at hrest
  generalize h.drawn = drawn at hrest hstarted hcount hdrawn ⊢
  generalize h.sequence = sequence at hrest hcount
  subst hrest
  have hsequence : sequence.toNat = drawn := by
    rw [hcount, UInt64.toNat_ofNat', Nat.mod_eq_of_lt (Nat.lt_of_succ_lt hdrawn)]
  have hnext : sequence + 1 = .ofNat (drawn + 1) := by
    rw [hcount]
    exact (UInt64.ofNat_add drawn 1).symm
  have hlt : sequence < sequence + 1 := by
    rw [UInt64.lt_iff_toNat_lt, hnext, hsequence, UInt64.toNat_ofNat', Nat.mod_eq_of_lt hdrawn]
    exact Nat.lt_succ_self drawn
  have hfacts : 4 ≤ sequence := by
    rw [UInt64.le_iff_toNat_le, hsequence]
    exact Nat.le_of_succ_le hstarted
  have hexpiry : (0 : MonotonicTime) < evidenceExpiry 0 := by decide
  have hunits : (100000000 : UInt64) ≠ 0 := by decide
  have hprofile : localComputeProfile ≠ "" := by decide
  have hobserver : hostObserver ≠ "" := by decide
  have hbounded : (restingHost interactions drawn sequence calls).gate.Bounded 0 sequence :=
    bounded_restingHost hfacts
  have haccepted := hbounded.accepts_capabilities
    (e := hostCapabilities { workerExecutable := "/worker" } (makeBinding 1) true
      ⟨hostObserver, 0, sequence + 1⟩) rfl nofun hobserver rfl
    ⟨rfl, hprofile, hunits, hexpiry⟩ rfl ⟨le_refl _, hlt⟩
  have hagain : (initializeHost promptEnvironment).final
      (restingHost interactions drawn sequence calls) = _ :=
    final_initializeHost_again rfl rfl rfl rfl haccepted
  rw [next_initializeHost, hagain]
  exact ⟨⟨Nat.le_succ_of_le hstarted, hnext, rfl⟩, rfl⟩

/-- The host with the prompt worker after it has been initialized so often. -/
def initializedHost (n : ℕ) : ComputeHost := (promptRun (List.replicate n .initializeHost)).final

private theorem resting_initializedHost (n : ℕ) (hn : n + 5 < 2 ^ 64) :
    Resting (initializedHost (n + 2)) ∧ (initializedHost (n + 2)).drawn = n + 5 := by
  induction n with
  | zero => exact ⟨⟨le_refl _, rfl, rfl⟩, rfl⟩
  | succ n ih =>
    obtain ⟨hs, hdrawn⟩ := ih (Nat.lt_of_succ_lt hn)
    have hlast : initializedHost (n + 1 + 2) =
        (computeHost promptEnvironment).next (initializedHost (n + 2)) .initializeHost := by
      unfold initializedHost HostRun.final promptRun
      rw [List.replicate_succ', Mealy.run_append]
      rfl
    have hnext := hs.next (by rw [hdrawn]; exact hn)
    rw [hlast]
    exact ⟨hnext.1, by rw [hnext.2, hdrawn]⟩

/-- What follows the initializations starts from the host at rest. -/
theorem final_promptRun (n : ℕ) (hn : n + 5 < 2 ^ 64) (calls : List HostCall) :
    (promptRun (List.replicate (n + 2) .initializeHost ++ calls)).final =
      (computeHost promptEnvironment).run
        (restingHost (initializedHost (n + 2)).interactions (n + 5) (.ofNat (n + 5))
          (initializedHost (n + 2)).calls) calls := by
  obtain ⟨⟨-, hcount, hs⟩, hdrawn⟩ := resting_initializedHost n hn
  rw [hcount, hdrawn] at hs
  rw [← hs]
  exact Mealy.run_append _ _ _ _

/-- The run in which the record of the delivered result is the one that wraps. -/
def exhaustedRun : HostRun :=
  promptRun (List.replicate (2 ^ 64 - 12 + 2) .initializeHost ++ [.submit promptRequest, .poll])

/-- With an exhausted counter the slot is filled though the output is not accepted. -/
theorem exhausted_result : exhaustedRun.Monotone ∧ exhaustedRun.final.result.isSome = true ∧
    ∃ r ∈ exhaustedRun.final.currentReceipt, r.output = .pending := by
  refine ⟨promptRun_monotone _, ?_⟩
  unfold exhaustedRun
  rw [final_promptRun _ (by norm_num)]
  decide +kernel

end RobotHarness.Compute
