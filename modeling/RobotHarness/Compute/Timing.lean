import RobotHarness.Compute.Steps

/-!
# The clock and the evidence of the host

The parts of which the steps of the host consist. Under a nondecreasing clock all that the
gate remembers is bounded by the last reading and, until the counter of the evidence wraps,
by the last sequence number drawn; and the gate is what the calls made on it have left.
-/

namespace RobotHarness.Compute

open Forward

namespace ComputeHost

/-- The host under a nondecreasing clock: no later reading is before the last one, and the
evidence in the gate is bounded as long as the counter has not wrapped. -/
structure Timed (env : HostEnvironment) (h : ComputeHost) : Prop where
  clock : ∀ k, h.interactions ≤ k → h.lastReading ≤ env.clock k
  sequence : h.drawn < 2 ^ 64 → h.sequence.toNat = h.drawn
  bounded : h.drawn < 2 ^ 64 → h.gate.Bounded h.lastReading h.sequence

/-- The process of the host has completed its child. -/
def Completed (h : ComputeHost) (iterations value : UInt64) : Prop :=
  ∃ p ∈ h.process, p.Completed iterations value

end ComputeHost

namespace HostProgram

open ComputeHost

variable {env : HostEnvironment} {h h' : ComputeHost}

/-! ### Parts -/

/-- Neither the gate nor the readings nor the counters of the evidence differ. -/
structure Quiet (h h' : ComputeHost) : Prop where
  gate : h'.gate = h.gate
  calls : h'.calls = h.calls
  reading : h'.lastReading = h.lastReading
  sequence : h'.sequence = h.sequence
  drawn : h'.drawn = h.drawn
  interactions : h.interactions ≤ h'.interactions

/-- The operation and its result do not differ, and a completed child stays so. -/
structure SameResult (h h' : ComputeHost) : Prop where
  result : h'.result = h.result
  authority : h'.authority = h.authority
  request : h'.request = h.request
  resultReference : h'.resultReference = h.resultReference
  completed : ∀ iterations value, h.Completed iterations value → h'.Completed iterations value

/-- The smallest parts of a step: a reading, a draw, one call of the gate, or what touches
none of these. -/
inductive Part (env : HostEnvironment) (h : ComputeHost) : ComputeHost → Prop where
  | now : Part env h ((now env).final h)
  | draw {source : String} {time : MonotonicTime} : Part env h ((record source time).final h)
  | call {α : Type} {call : Call} {decode : Answer → α}
      (bounded : call.Bounded h.lastReading h.sequence) :
      Part env h ((callGate call decode).final h)
  | quiet {h' : ComputeHost} (quiet : Quiet h h') : Part env h h'

/-- The parts that neither admit an operation nor deliver its result. -/
inductive PlainPart (env : HostEnvironment) (h : ComputeHost) : ComputeHost → Prop where
  | now : PlainPart env h ((now env).final h)
  | draw {source : String} {time : MonotonicTime} :
      PlainPart env h ((record source time).final h)
  | call {α : Type} {call : Call} {decode : Answer → α} (plain : call.IsPlain)
      (bounded : call.Bounded h.lastReading h.sequence) :
      PlainPart env h ((callGate call decode).final h)
  | quiet {h' : ComputeHost} (quiet : Quiet h h') (same : SameResult h h') : PlainPart env h h'

private theorem PlainPart.part (step : PlainPart env h h') : Part env h h' := by
  cases step with
  | now => exact .now
  | draw => exact .draw
  | call _ bounded => exact .call bounded
  | quiet quiet => exact .quiet quiet

/-- The parts that neither admit nor deliver keep the operation and its result. -/
theorem PlainPart.sameResult (step : PlainPart env h h') : SameResult h h' := by
  cases step with
  | now | draw | call => exact ⟨rfl, rfl, rfl, rfl, fun _ _ ↦ id⟩
  | quiet _ same => exact same

/-- Plain parts keep the result. -/
theorem sameResult_of_parts (parts : Relation.ReflTransGen (PlainPart env) h h') :
    SameResult h h' := by
  induction parts with
  | refl => exact ⟨rfl, rfl, rfl, rfl, fun _ _ ↦ id⟩
  | tail _ hlast ih =>
    have same := hlast.sameResult
    exact ⟨same.result.trans ih.result, same.authority.trans ih.authority,
      same.request.trans ih.request, same.resultReference.trans ih.resultReference,
      fun _ _ hcompleted ↦ same.completed _ _ (ih.completed _ _ hcompleted)⟩

/-- Plain parts are parts. -/
theorem parts_of_plain (parts : Relation.ReflTransGen (PlainPart env) h h') :
    Relation.ReflTransGen (Part env) h h' :=
  Relation.ReflTransGen.mono (fun _ _ step ↦ step.part) _ _ parts

/-! ### Steps in their parts -/

section Parts

variable {time : MonotonicTime} {source : String}

private theorem plain_now : Makes (PlainPart env) (now env) h := .step .now

private theorem plain_quiet {α : Type} {m : HostProgram α} (hquiet : ∀ h, Quiet h (m.final h))
    (hsame : ∀ h, SameResult h (m.final h)) : Makes (PlainPart env) m h :=
  .step (.quiet (hquiet h) (hsame h))

private theorem plain_accept {d : EvidenceDisposition} : Makes (PlainPart env) (accept d) h := by
  refine plain_quiet (fun h ↦ ?_) fun h ↦ ?_
  all_goals rw [final_accept]
  · exact ⟨rfl, rfl, rfl, rfl, rfl, le_refl _⟩
  · exact ⟨rfl, rfl, rfl, rfl, fun _ _ ↦ id⟩

/-- A report at a time that was read is a draw and a bounded call. -/
theorem plain_emit {observe : EvidenceRecord → Call} (ht : time ≤ h.lastReading)
    (hplain : ∀ record, (observe record).IsPlain)
    (hbounded : ∀ record t n, record.Bounded t n → (observe record).Bounded t n) :
    Makes (PlainPart env) (emit source time observe) h :=
  .bind (.step .draw)
    (.bind (.step (.call (hplain _) (hbounded _ _ _ ⟨ht, le_refl _⟩))) plain_accept)

@[simp] private theorem lastReading_emit {observe : EvidenceRecord → Call} :
    ((emit source time observe).final h).lastReading = h.lastReading := by
  rw [final_emit]

@[simp] private theorem lastReading_native {kind : NativeEventKind} :
    ((native kind time).final h).lastReading = h.lastReading := by
  unfold native
  rw [final_bind, lastReading_emit, final_read]

private theorem plain_native {kind : NativeEventKind} (ht : time ≤ h.lastReading) :
    Makes (PlainPart env) (native kind time) h :=
  .read (plain_emit ht (fun _ ↦ trivial) fun _ _ _ ↦ id)

private theorem plain_settleUnsubmitted {cleanupConfirmed : Bool} :
    Makes (PlainPart env) (settleUnsubmitted env cleanupConfirmed) h := by
  refine .bind plain_now (.read ?_)
  refine .bind (plain_emit (le_refl _) (fun _ ↦ trivial) fun _ _ _ ↦ id) ?_
  refine .bind (plain_emit (by simp; rfl) (fun _ ↦ trivial) fun _ _ _ ↦ id) ?_
  cases cleanupConfirmed with
  | true => exact plain_emit (by simp; rfl) (fun _ ↦ trivial) fun _ _ _ ↦ id
  | false =>
    exact plain_quiet (fun _ ↦ ⟨rfl, rfl, rfl, rfl, rfl, le_refl _⟩)
      fun _ ↦ ⟨rfl, rfl, rfl, rfl, fun _ _ ↦ id⟩

private theorem plain_reportCapabilities {binding : BindingIdentity} {available : Bool}
    (ht : time ≤ h.lastReading) :
    Makes (PlainPart env) (reportCapabilities binding available time) h :=
  .read (plain_emit ht (fun _ ↦ trivial) fun _ _ _ ↦ id)

private theorem plain_observeStartups {binding : BindingIdentity} {ready : Bool}
    (ht : time ≤ h.lastReading) : Makes (PlainPart env) (observeStartups binding ready time) h := by
  refine .bind (plain_emit ht (fun _ ↦ trivial) fun _ _ _ ↦ id) ?_
  refine .bind (plain_emit (by simpa using ht) (fun _ ↦ trivial) fun _ _ _ ↦ id) ?_
  refine .bind (plain_emit (by simpa using ht) (fun _ ↦ trivial) fun _ _ _ ↦ id) ?_
  exact plain_quiet (fun _ ↦ ⟨rfl, rfl, rfl, rfl, rfl, le_refl _⟩)
    fun _ ↦ ⟨rfl, rfl, rfl, rfl, fun _ _ ↦ id⟩

private theorem plain_commitCandidate {candidate : BindingIdentity} {executable : String} :
    Makes (PlainPart env) (commitCandidate candidate executable time) h := by
  refine .bind (.step (.call trivial trivial)) (.bind (.guarded fun _ ↦ ?_) .pure)
  exact plain_quiet (fun _ ↦ ⟨rfl, rfl, rfl, rfl, rfl, le_refl _⟩)
    fun _ ↦ ⟨rfl, rfl, rfl, rfl, fun _ _ ↦ id⟩

/-- An operation of the process that keeps a completed child is a plain part. -/
theorem plain_operate {α β : Type} {m : HostProgram β} {f : ComputeProcess → α → ComputeProcess}
    {answers : ℕ → α}
    (hm : ∀ h, m.final h =
      { h with
        interactions := h.interactions + 1
        process := h.process.map fun p ↦ f p (answers h.interactions) })
    (hf : ∀ p answer iterations value, p.Completed iterations value →
      (f p answer).Completed iterations value) : Makes (PlainPart env) m h := by
  refine plain_quiet (fun h ↦ ?_) fun h ↦ ?_
  all_goals rw [hm]
  · exact ⟨rfl, rfl, rfl, rfl, rfl, Nat.le_succ _⟩
  · refine ⟨rfl, rfl, rfl, rfl, fun iterations value ⟨p, hp, hcompleted⟩ ↦ ?_⟩
    exact ⟨_, Option.mem_map_of_mem _ hp, hf p _ _ _ hcompleted⟩

private theorem plain_launchPrepared : Makes (PlainPart env) (launchPrepared env) h := by
  refine .bind (plain_operate (f := fun p answer ↦ (p.launch answer).2) (fun _ ↦ rfl)
    fun p answer _ _ hp ↦ hp.launch answer) (.ite (fun _ ↦ ?_) fun _ ↦ ?_)
  · exact .read (.bind plain_settleUnsubmitted .pure)
  · exact .bind plain_now (.bind (plain_native (le_refl _)) .pure)

/-- A process is installed where there was none. -/
theorem plain_installProcess {process : ComputeProcess} (hnone : h.process = none) :
    Makes (PlainPart env) (installProcess process) h := by
  refine .step (.quiet ⟨rfl, rfl, rfl, rfl, rfl, le_refl _⟩ ⟨rfl, rfl, rfl, rfl, ?_⟩)
  rintro _ _ ⟨_, hp, -⟩
  exact nomatch hnone.symm.trans hp

private theorem plain_dispatchProcess {authority : OperationAuthority} {process : ComputeProcess}
    (ht : time ≤ h.lastReading) (hnone : h.process = none) :
    Makes (PlainPart env) (dispatchProcess env authority process time) h := by
  have hclaim : Makes (PlainPart env) (claimUnlessError authority time) h :=
    .read (.ite (fun _ ↦ .pure) fun _ ↦ .step (.call trivial ht))
  have hkept : ((claimUnlessError authority time).final h).process = none := by
    unfold claimUnlessError
    rw [final_bind, final_read]
    split
    · exact hnone
    · exact hnone
  refine .bind hclaim (.ite (fun _ ↦ ?_) fun _ ↦ ?_)
  · refine .bind plain_settleUnsubmitted (.bind ?_ .pure)
    exact plain_quiet (fun _ ↦ ⟨rfl, rfl, rfl, rfl, rfl, le_refl _⟩)
      fun _ ↦ ⟨rfl, rfl, rfl, rfl, fun _ _ ↦ id⟩
  · exact .bind (plain_installProcess hkept) plain_launchPrepared

private theorem plain_applyStop {decision : ControlDecision} :
    Makes (PlainPart env) (applyStop env decision time) h :=
  .read (.guarded fun _ ↦ plain_operate (f := fun p send ↦ p.requestStop time send)
    (fun _ ↦ rfl) fun _ _ _ _ hp ↦ hp.requestStop _ _)

/-- A look at the deadline makes plain parts. -/
theorem plain_expire (ht : time ≤ h.lastReading) : Makes (PlainPart env) (expire env time) h :=
  .read (.guarded fun _ ↦ .bind (.step (.call trivial ht)) plain_applyStop)

private theorem plain_reportStarted : Makes (PlainPart env) (reportStarted env) h :=
  .bind plain_now (plain_native (le_refl _))

private theorem plain_reportStop : Makes (PlainPart env) (reportStop env) h := by
  refine .read (.bind plain_now ?_)
  refine .bind (plain_emit (le_refl _) (fun _ ↦ trivial) fun _ _ _ ↦ id) ?_
  exact plain_quiet (fun _ ↦ ⟨rfl, rfl, rfl, rfl, rfl, le_refl _⟩)
    fun _ ↦ ⟨rfl, rfl, rfl, rfl, fun _ _ ↦ id⟩

private theorem plain_closeAndSettle : Makes (PlainPart env) (closeAndSettle env) h := by
  refine .bind (plain_operate
    (f := fun p (answer : Option Int × Option Int) ↦ (p.closeChannels answer.1 answer.2).2)
    (fun _ ↦ rfl) fun _ _ _ _ hp ↦ hp.closeChannels _ _) (.guarded fun _ ↦ .read ?_)
  exact .guarded fun _ ↦ .bind plain_now
    (plain_emit (le_refl _) (fun _ ↦ trivial) fun _ _ _ ↦ id)

private theorem plain_closeAdmission : Makes (PlainPart env) closeAdmission h :=
  .bind (plain_quiet (fun _ ↦ ⟨rfl, rfl, rfl, rfl, rfl, le_refl _⟩)
      fun _ ↦ ⟨rfl, rfl, rfl, rfl, fun _ _ ↦ id⟩)
    (.step (.call trivial trivial))

private theorem plain_updateShutdownStatus : Makes (PlainPart env) updateShutdownStatus h := by
  refine plain_quiet (fun h ↦ ?_) fun h ↦ ?_
  all_goals
    unfold updateShutdownStatus
    rw [final_assign]
    repeat' split
  all_goals first
    | exact ⟨rfl, rfl, rfl, rfl, rfl, le_refl _⟩
    | exact ⟨rfl, rfl, rfl, rfl, fun _ _ ↦ id⟩

/-- The host after it has filled the slot and the sink has been reported, at the last reading. -/
def delivered (h : ComputeHost) : ComputeHost :=
  { (emit hostSink h.lastReading fun record ↦
      .observeOutputAccepted ⟨h.theAuthority, h.resultReference, record⟩).final
        (fillResult.final h) with outcomeReported := true }

/-- What a step of the host consists of: plain parts, an admission, or plain parts up to the
delivery of a result. -/
inductive Course (env : HostEnvironment) (h : ComputeHost) : ComputeHost → Prop where
  | plain {h' : ComputeHost} (parts : Relation.ReflTransGen (PlainPart env) h h') :
      Course env h h'
  | admission {request : ComputeRequest} {effectDomain : String} (valid : request.Valid) :
      Course env h ((admitOperation request effectDomain h.lastReading).final h)
  | delivery {h₁ : ComputeHost} {status : ExitStatus}
      (exit : h.observed.exitStatus = some status) (eof : h.observed.eventEof = true)
      (succeeded : h.terminalKind status = .terminalSucceeded)
      (parts : Relation.ReflTransGen (PlainPart env) h h₁)
      (evidence : ((expire env h₁.lastReading).final h₁).evidenceError = false)
      (deliverable : ((expire env h₁.lastReading).final h₁).gate.canDeliverResult
        ((expire env h₁.lastReading).final h₁).theAuthority) :
      Course env h (delivered ((expire env h₁.lastReading).final h₁))

/-- A result that the gate lets pass fills the slot before the sink is reported. -/
theorem final_deliverResult
    (hdeliver : ((expire env ((now env).final h).lastReading).final
        ((now env).final h)).evidenceError = false ∧
      ((expire env ((now env).final h).lastReading).final
        ((now env).final h)).gate.canDeliverResult ((expire env
          ((now env).final h).lastReading).final ((now env).final h)).theAuthority) :
    { (deliverResult env).final h with outcomeReported := true } =
      delivered ((expire env ((now env).final h).lastReading).final ((now env).final h)) := by
  have hreading : ((expire env ((now env).final h).lastReading).final
      ((now env).final h)).lastReading = ((now env).final h).lastReading := expire_frame.1
  unfold deliverResult delivered
  rw [final_bind, final_bind, final_bind, final_read, result_read, hreading]
  refine (congrArg (fun m : HostProgram Unit ↦ { m.final _ with outcomeReported := true })
    (if_pos hdeliver)).trans ?_
  rfl

/-- The report of the outcome consists of plain parts, or ends in the delivery of a result. -/
theorem course_reportTerminal {status : ExitStatus} (hexit : h.observed.exitStatus = some status)
    (heof : h.observed.eventEof = true) :
    Course env h ((reportTerminal env status h.lastReading).final h) := by
  have hnative : Makes (PlainPart env) (native (h.terminalKind status) h.lastReading) h :=
    plain_native (le_refl h.lastReading)
  have hreported : ∀ h : ComputeHost, Makes (PlainPart env)
      (.assign (fun h ↦ { h with outcomeReported := true }) fun h ↦ le_refl h.drawn) h := fun _ ↦
    plain_quiet (fun _ ↦ ⟨rfl, rfl, rfl, rfl, rfl, le_refl _⟩)
      fun _ ↦ ⟨rfl, rfl, rfl, rfl, fun _ _ ↦ id⟩
  by_cases hkind : h.terminalKind status = .terminalSucceeded
  · set h₁ := (now env).final ((native (h.terminalKind status) h.lastReading).final h) with hh₁
    have hreading : ((expire env h₁.lastReading).final h₁).lastReading = h₁.lastReading :=
      expire_frame.1
    by_cases hdeliver : ((expire env h₁.lastReading).final h₁).evidenceError = false ∧
        ((expire env h₁.lastReading).final h₁).gate.canDeliverResult
          ((expire env h₁.lastReading).final h₁).theAuthority
    · have hfinal : (reportTerminal env status h.lastReading).final h =
          delivered ((expire env h₁.lastReading).final h₁) := by
        unfold reportTerminal reportOutput
        rw [final_bind, final_read, result_read, final_bind, final_bind, final_bind, final_read,
          if_pos hkind]
        exact final_deliverResult hdeliver
      rw [hfinal]
      exact .delivery hexit heof hkind (hnative.trans (.single .now)) hdeliver.1 hdeliver.2
    · refine .plain (Makes.read (.bind hnative (.bind (.read (.ite (fun _ ↦ ?_) fun hne ↦
        absurd hkind hne)) (hreported _))))
      refine .bind plain_now (.bind (plain_expire (le_refl _)) (.read (.ite
        (fun hd ↦ absurd hd hdeliver) fun _ ↦ ?_)))
      exact plain_emit hreading.ge (fun _ ↦ trivial) fun _ _ _ ↦ id
  · refine .plain (Makes.read (.bind hnative (.bind (.read (.ite (fun heq ↦ absurd heq hkind)
      fun _ ↦ ?_)) (hreported _))))
    exact plain_emit (by simp) (fun _ ↦ trivial) fun _ _ _ ↦ id

/-- Every step consists of plain parts, admits an operation or delivers a result. -/
theorem HostStep.course (step : HostStep env h h') : Course env h h' := by
  cases step with
  | control step =>
    refine .plain ?_
    cases step with
    | now => exact plain_now
    | probe =>
      exact .single (.quiet ⟨rfl, rfl, rfl, rfl, rfl, Nat.le_succ _⟩
        ⟨rfl, rfl, rfl, rfl, fun _ _ ↦ id⟩)
    | draw => exact .single .draw
    | control kind bounded => exact .single (.call kind.isPlain bounded)
    | capabilities => exact plain_reportCapabilities (le_refl _)
    | unsubmitted => exact plain_settleUnsubmitted
    | stop =>
      exact plain_operate (f := fun p send ↦ p.requestStop h.lastReading send) (fun _ ↦ rfl)
        fun _ _ _ _ hp ↦ hp.requestStop _ _
  | startups => exact .plain (plain_observeStartups (le_refl _))
  | commit => exact .plain plain_commitCandidate
  | admits valid => exact .admission valid
  | dispatch _ _ undispatched => exact .plain (plain_dispatchProcess (le_refl _) undispatched)
  | poll =>
    exact .plain (plain_operate (f := fun p answer ↦ p.poll h.lastReading answer) (fun _ ↦ rfl)
      fun _ _ _ _ hp ↦ hp.poll _ _)
  | started => exact .plain plain_reportStarted
  | stopped => exact .plain plain_reportStop
  | terminal _ exit eof => exact course_reportTerminal exit eof
  | close => exact .plain plain_closeAndSettle
  | shutdown => exact .plain plain_closeAdmission
  | update => exact .plain plain_updateShutdownStatus

/-- The course of a step in its smallest parts. -/
theorem Course.parts (course : Course env h h') : Relation.ReflTransGen (Part env) h h' := by
  cases course with
  | plain parts => exact parts_of_plain parts
  | admission =>
    refine Makes.bind (.step (.call (le_refl h.lastReading))) ?_
    split
    · exact .pure
    · exact .bind (.step (.quiet ⟨rfl, rfl, rfl, rfl, rfl, le_refl _⟩)) .pure
  | @delivery h₁ _ _ _ _ parts =>
    refine .trans (parts_of_plain (.trans parts (plain_expire (le_refl _)))) ?_
    generalize (expire env h₁.lastReading).final h₁ = h₂
    have hfill : Makes (Part env) fillResult h₂ :=
      .step (.quiet ⟨rfl, rfl, rfl, rfl, rfl, le_refl _⟩)
    have hemit : Makes (Part env) (emit hostSink h₂.lastReading fun record ↦
        .observeOutputAccepted ⟨h₂.theAuthority, h₂.resultReference, record⟩)
        (fillResult.final h₂) :=
      .bind (.step .draw) (.bind (.step (.call ⟨le_refl _, le_refl _⟩))
        (plain_accept.mono fun _ _ step ↦ step.part))
    exact (hfill.trans hemit).trans (.single (.quiet ⟨rfl, rfl, rfl, rfl, rfl, le_refl _⟩))

end Parts

/-! ### Every part keeps the host timed -/

/-- A sequence number that has not wrapped is drawn after all that were drawn before. -/
theorem sequence_lt_succ (hs : h.Timed env) (hdrawn : h.drawn + 1 < 2 ^ 64) :
    h.sequence < h.sequence + 1 ∧ (h.sequence + 1).toNat = h.drawn + 1 := by
  have hsequence := hs.sequence (Nat.lt_of_succ_lt hdrawn)
  have hnext : (h.sequence + 1).toNat = h.drawn + 1 := by
    rw [UInt64.toNat_add, hsequence, UInt64.toNat_one, Nat.mod_eq_of_lt hdrawn]
  refine ⟨?_, hnext⟩
  rw [UInt64.lt_iff_toNat_lt, hnext, hsequence]
  exact Nat.lt_succ_self h.drawn

private theorem Part.timed (hclock : Monotone env.clock) (part : Part env h h') (hs : h.Timed env) :
    h'.Timed env := by
  cases part with
  | now =>
    exact
      { clock := fun k hk ↦ hclock (Nat.le_of_succ_le hk)
        sequence := hs.sequence
        bounded := fun hdrawn ↦ (hs.bounded hdrawn).mono (hs.clock _ (le_refl _)) (le_refl _) }
  | draw =>
    exact
      { clock := hs.clock
        sequence := fun hdrawn ↦ (sequence_lt_succ hs hdrawn).2
        bounded := fun hdrawn ↦ (hs.bounded (Nat.lt_of_succ_lt hdrawn)).mono (le_refl _)
          (sequence_lt_succ hs hdrawn).1.le }
  | call bounded =>
    exact
      { hs with
        bounded := fun hdrawn ↦ (gate_transition h.gate _).bounded (hs.bounded hdrawn) bounded }
  | quiet quiet =>
    obtain ⟨gate, -, reading, sequence, drawn, interactions⟩ := quiet
    refine ⟨?_, ?_, ?_⟩
    · rw [reading]
      exact fun k hk ↦ hs.clock k (interactions.trans hk)
    · rw [sequence, drawn]
      exact hs.sequence
    · rw [gate, reading, sequence, drawn]
      exact hs.bounded

/-- A sequence of parts keeps the host timed. -/
theorem timed_of_parts (hclock : Monotone env.clock)
    (parts : Relation.ReflTransGen (Part env) h h') (hs : h.Timed env) : h'.Timed env := by
  induction parts with
  | refl => exact hs
  | tail _ hlast ih => exact hlast.timed hclock ih

/-! ### The calls of the gate -/

/-- The gate of the host is what its calls have left of `start`. -/
def Replays (start : AuthorityGate) (h : ComputeHost) : Prop := h.gate = gate.run start h.calls

private theorem Part.replays {start : AuthorityGate} (part : Part env h h') (hs : Replays start h) :
    Replays start h' := by
  unfold Replays at hs ⊢
  cases part with
  | now | draw => exact hs
  | call =>
    rw [final_callGate, gate.run_append, ← hs]
    rfl
  | quiet quiet => rw [quiet.gate, quiet.calls, hs]

private theorem Part.drawn_le (part : Part env h h') : h.drawn ≤ h'.drawn := by
  cases part with
  | now | call => exact le_refl h.drawn
  | draw => exact Nat.le_succ h.drawn
  | quiet quiet => exact quiet.drawn.ge

/-- Parts draw only more evidence. -/
theorem drawn_le_of_parts (parts : Relation.ReflTransGen (Part env) h h') :
    h.drawn ≤ h'.drawn := by
  induction parts with
  | refl => exact le_refl h.drawn
  | tail _ hlast ih => exact ih.trans hlast.drawn_le

/-- The calls of the gate are only added to. -/
theorem calls_prefix_of_parts (parts : Relation.ReflTransGen (Part env) h h') :
    h.calls <+: h'.calls := by
  induction parts with
  | refl => exact List.prefix_rfl
  | tail _ hlast ih =>
    refine ih.trans ?_
    cases hlast with
    | now | draw => exact List.prefix_rfl
    | call => exact List.prefix_append _ _
    | quiet quiet => rw [quiet.calls]

/-- Parts go on with the replay. -/
theorem replays_of_parts {start : AuthorityGate} (parts : Relation.ReflTransGen (Part env) h h')
    (hs : Replays start h) : Replays start h' := by
  induction parts with
  | refl => exact hs
  | tail _ hlast ih => exact hlast.replays ih

/-- The configuration of the gate is accepted by its constructor. -/
theorem gateConfig_accepted {generation : UInt64} (h : generation ≠ 0) (time : MonotonicTime) :
    (makeGateConfig (makeBinding generation) time).Accepted := by
  simp [AuthorityGateConfig.Accepted, makeGateConfig, makeBinding, hostCapability, hostObserver,
    hostSink, hostNative, hostStop, hostScope, h]

/-- A gate that replays is coherent and keeps its configuration but for the binding. -/
theorem Replays.reachable {config : AuthorityGateConfig} (hs : Replays (.initial config) h)
    (hconfig : config.Accepted) :
    h.gate.Coherent ∧ h.gate.config = { config with binding := h.gate.config.binding } ∧
      h.gate.WithdrawalStamped := by
  let run : Run := ⟨config, hconfig, h.calls⟩
  have hfinal : h.gate = run.final := hs
  rw [hfinal]
  exact ⟨run.coherent, run.config_eq, run.withdrawalStamped⟩

end HostProgram

namespace HostRun

open HostProgram

/-- The start of a run under a nondecreasing clock is timed. -/
theorem timed_start (run : HostRun) (hclock : run.Monotone) : run.start.Timed run.env where
  clock := fun k _ ↦ hclock.start_le.trans (hclock.clock_le 0 k (Nat.zero_le k))
  sequence := fun _ ↦ rfl
  bounded := fun _ ↦ AuthorityGate.bounded_initial (le_refl _)

/-- The run of the gate that a run of the host makes. -/
def gateRun (run : HostRun) : Run where
  config := makeGateConfig (makeBinding run.generation) run.startedAt
  accepted := gateConfig_accepted run.assigned run.startedAt
  calls := run.final.calls

/-- The gate of the host is that of its run of the gate. -/
theorem gate_eq (run : HostRun) : run.final.gate = run.gateRun.final :=
  run.invariant (P := Replays (.initial (makeGateConfig (makeBinding run.generation)
    run.startedAt))) rfl fun _ _ step hs ↦ replays_of_parts step.course.parts hs

end HostRun

end RobotHarness.Compute
