import RobotHarness.Python.SessionRules

/-!
# What the methods of a session's host do

Each method of the host from what it keeps: the failures and the closing, the ends of
operations, submissions and commands.
-/

namespace RobotHarness.Python

open Fallible (Meets)
open Transport (Json Dict)

namespace Host

variable {β : Type} {env : Surroundings} {backend : Backend β} {fresh : β → Prop} {s : Host β}
  {w : View β} {n : ℕ} {e : Execution} {v : GateView} {reference : String}
  {arguments : HostArguments} {r : OperationReceipt}
  {known : HostError → Prop} {stranded refused : Prop} {α : Type}

/-! ### Calls of the gate -/

namespace Knows

/-- A call of the gate that raises nothing but for want of a time or a number. -/
theorem callGate (h : Knows env s w n e) {call : GateProgram α} {P : α → GateState → Prop}
    (hcall : Meets call e.gate P GateState.Overflows) :
    Meets (Host.onGate call) s (fun a t ↦ ∃ g, P a g ∧ Knows env t w n { e with gate := g })
      (Raises env backend fresh known stranded refused) := by
  have hgate := ExecutionCoordinator.meets_gate (e := e) (Q := fun a f ↦ ∃ g, P a g ∧
    f = { e with gate := g }) hcall fun a g ha ↦ ⟨g, ha, rfl⟩
  apply (h.call hgate).mono
  · rintro a t ⟨f, ⟨g, ha, rfl⟩, ht⟩
    exact ⟨g, ha, ht⟩
  · exact fun _ _ he ↦ he

/-- The evidence of a call that the gate accepts. -/
theorem callAccepted (h : Knows env s w n e)
    {p : Coordination HostArguments HostFields EvidenceDisposition} {P : Execution → Prop}
    (hp : Meets p e (fun d f ↦ d = .accepted ∧ P f) ExecutionCoordinator.Overflows) :
    Meets (do
        let disposition ← onExecution p
        Host.accepted disposition) s (fun _ t ↦ ∃ f, P f ∧ Knows env t w n f)
      (Raises env backend fresh known stranded refused) := by
  apply (h.call hp).bind
  rintro d t ⟨f, ⟨rfl, hf⟩, h⟩
  exact ⟨f, hf, h⟩

/-- The time of `refresh_capability`. -/
private theorem planned (h : Knows env s w n e) (next : ℕ) :
    Meets (.assign fun s ↦ { s with nextCapabilityObservation := next }) s
      (fun _ t ↦ Knows env t w n e) (Raises env backend fresh known stranded refused) :=
  h.assign id h.orderly fun _ ↦ ⟨rfl, rfl, rfl⟩

/-- An open gate accepts the capabilities. -/
theorem refreshCapability (h : Knows env s w n e) (hclock : Monotone env.clock)
    (hserves : e.gate.Serves n v) (hopen : ¬ v.closed) (available : Bool) :
    Meets (Host.refreshCapability env available) s
      (fun _ t ↦ ∃ m g, n ≤ m ∧ g.Serves m v ∧ Knows env t w m { e with gate := g })
      (Raises env backend fresh known stranded refused) := by
  unfold Host.refreshCapability
  apply (h.now hclock).bind
  rintro stamp t ⟨hle, h⟩
  apply (h.callGate (hserves.capabilities hopen available hle (by omega))).bind
  rintro d t ⟨g, ⟨rfl, hg⟩, h⟩
  apply h.accepted.bind
  intro _ t h
  apply (h.planned _).mono
  · intro _ t h
    exact ⟨stamp, g, hle, hg, h⟩
  · exact fun _ _ he ↦ he

/-- A closed gate refuses the capabilities. -/
theorem refreshCapability_closed (h : Knows env s w n e) (hclock : Monotone env.clock)
    (hserves : e.gate.Serves n v) (hclosed : v.closed) (hrefused : refused)
    (available : Bool) :
    Meets (Host.refreshCapability env available) s (fun _ _ ↦ False)
      (Raises env backend fresh known stranded refused) := by
  unfold Host.refreshCapability
  apply (h.now hclock).bind
  rintro stamp t ⟨hle, h⟩
  apply (h.callGate (hserves.capabilities_closed hclosed available _)).bind
  rintro d t ⟨g, hd, h⟩
  unfold Host.accepted Python.accepted
  rw [if_pos hd, Fallible.meets_bind, Fallible.meets_lifted, Fallible.meets_raise]
  exact h.refuses hrefused d

/-- The gate accepts what an owner observes that starts. -/
theorem observeStartup (h : Knows env s w n e) (hclock : Monotone env.clock)
    (hserves : e.gate.Serves n v) (hopen : ¬ v.closed) (unused : v.receipt = none)
    {kind : StartupEvidenceKind} (hkind : kind ≠ .adapterReady) :
    Meets (Host.observeStartup env kind) s
      (fun _ t ↦ ∃ m g, n ≤ m ∧ g.Serves m v ∧ Knows env t w m { e with gate := g })
      (Raises env backend fresh known stranded refused) := by
  unfold Host.observeStartup
  apply (h.now hclock).bind
  rintro stamp t ⟨hle, h⟩
  apply (h.callGate (hserves.startup hopen unused hkind hle)).bind
  rintro d t ⟨g, ⟨rfl, hg⟩, h⟩
  exact ⟨stamp, g, hle, hg, h⟩

/-- `cancel` of the active request revokes it. -/
theorem cancelRecord (h : Knows env s w n e) (hclock : Monotone env.clock)
    (howns : e.Owns n v reference arguments r) (hpending : r.settlement = .pending) :
    Meets (Host.cancelRecord env reference) s
      (fun affected t ↦ affected = true ∧ ∃ m f r', n ≤ m ∧ Revises r r' ∧ r'.isRevoked ∧
        f.Owns m v reference arguments r' ∧ Knows env t w m f)
      (Raises env backend fresh known stranded refused) := by
  unfold Host.cancelRecord
  rw [Fallible.meets_read_bind, h.execution, if_pos howns.active]
  apply (h.now hclock).bind
  rintro stamp t ⟨hle, h⟩
  apply (h.call (howns.cancel hpending hle)).mono
  · rintro affected t ⟨f, ⟨haffected, r', hrevises, hrevoked, howns⟩, h⟩
    exact ⟨haffected, stamp, f, r', hle, hrevises, hrevoked, howns, h⟩
  · exact fun _ _ he ↦ he

/-- Items of the record of any request are assigned, but its identity. -/
theorem assignRecord (h : Knows env s w n e) (howns : e.Owns n v reference arguments r)
    {other : String} {f : Record HostArguments HostFields → Record HostArguments HostFields}
    (hf : ∀ record, (f record).identity = record.identity) :
    Meets (onExecution (ExecutionCoordinator.update other f)) s
      (fun _ t ↦ ∃ f, f.Owns n v reference arguments r ∧ Knows env t w n f)
      (Raises env backend fresh known stranded refused) := by
  apply h.update.mono
  · intro _ t h
    exact ⟨_, howns.withRecord other hf, h⟩
  · exact fun _ _ he ↦ he

/-- `revoked_at_step` is assigned. -/
theorem markRevoked (h : Knows env s w n e) (howns : e.Owns n v reference arguments r) :
    Meets (Host.markRevoked backend reference) s
      (fun _ t ↦ ∃ f, f.Owns n v reference arguments r ∧ Knows env t w n f)
      (Raises env backend fresh known stranded refused) := by
  unfold Host.markRevoked describe
  rw [Fallible.meets_self_bind]
  exact h.assignRecord howns fun _ ↦ rfl

end Knows

/-! ### Failure and closing -/

/-- `fail_worker` of a host that has failed before. -/
theorem failWorker_again (h : Knows env s w n e) (hfailed : w.failure.isSome = true)
    (error : String) :
    Meets (failWorker env backend error) s (fun _ t ↦ t = s)
      (Raises env backend fresh known stranded refused) := by
  unfold failWorker
  rw [Fallible.meets_self_bind, if_neg]
  · rfl
  · intro hnone
    rw [h.failure_eq] at hnone
    rw [hnone] at hfailed
    cases hfailed

/-- The first failure of the host. -/
private theorem failWorker_first (h : Knows env s w n e) (hclock : Monotone env.clock)
    (hfirst : w.failure = none) (hopen : ¬ v.closed) (hserves : e.gate.Serves n v)
    (error : String) {P : ℕ → Execution → Prop}
    (hcancels : ∀ {t m g}, n ≤ m → g.Serves m v →
      Knows env t { w with failure := some error } m { e with gate := g } →
      Meets (match e.active with
        | some reference => do
          let _ ← cancelRecord env reference
          markRevoked backend reference
        | none => pure ()) t
        (fun _ t ↦ ∃ m f, n ≤ m ∧ P m f ∧ Knows env t { w with failure := some error } m f)
        (Raises env backend fresh known stranded refused)) :
    Meets (failWorker env backend error) s
      (fun _ t ↦ ∃ m f, n ≤ m ∧ P m f ∧ Knows env t (w.failed error) m f)
      (Raises env backend fresh known stranded refused) := by
  unfold failWorker
  rw [Fallible.meets_self_bind, if_pos (h.failure_eq.trans hfirst), h.execution]
  refine Meets.bind (h.assign (fun w ↦ { w with failure := some error }) h.orderly
    fun _ ↦ ⟨rfl, rfl, rfl⟩) ?_
  intro _ t h
  apply (h.refreshCapability hclock hserves hopen false).bind
  rintro _ t ⟨m, g, hle, hg, h⟩
  apply (hcancels hle hg h).bind
  rintro _ t ⟨m, f, hle, hf, h⟩
  refine Meets.mono (h.assign (fun w ↦ { w with queue := [], phase := .failed }) h.orderly
    fun _ ↦ ⟨rfl, rfl, rfl⟩) ?_
    fun _ _ he ↦ he
  intro _ t h
  exact ⟨m, f, hle, hf, h⟩

/-- A closed gate refuses the capabilities of the first failure. -/
theorem failWorker_closed (h : Knows env s w n e) (hclock : Monotone env.clock)
    (hfirst : w.failure = none) (hclosed : v.closed) (hrefused : refused)
    (hserves : e.gate.Serves n v) (error : String) :
    Meets (failWorker env backend error) s (fun _ _ ↦ False)
      (Raises env backend fresh known stranded refused) := by
  unfold failWorker
  rw [Fallible.meets_self_bind, if_pos (h.failure_eq.trans hfirst)]
  refine Meets.bind (h.assign (fun w ↦ { w with failure := some error }) h.orderly
    fun _ ↦ ⟨rfl, rfl, rfl⟩) ?_
  intro _ t h
  apply (h.refreshCapability_closed hclock hserves hclosed hrefused false).bind
  intro _ _ hfalse
  exact hfalse.elim

/-- `fail_worker` without an operation. -/
theorem failWorker_rests (h : Knows env s w n e) (hclock : Monotone env.clock)
    (hfirst : w.failure = none) (hopen : ¬ v.closed) (hrests : e.Rests n v) (error : String) :
    Meets (failWorker env backend error) s
      (fun _ t ↦ ∃ m f, n ≤ m ∧ f.Rests m v ∧ Knows env t (w.failed error) m f)
      (Raises env backend fresh known stranded refused) := by
  apply failWorker_first h hclock hfirst hopen hrests.gate
  intro t m g hle hg h
  rw [hrests.active]
  exact ⟨m, _, hle, hrests.regate hg, h⟩

/-- `fail_worker` revokes the operation. -/
theorem failWorker_owns (h : Knows env s w n e) (hclock : Monotone env.clock)
    (hfirst : w.failure = none) (hopen : ¬ v.closed)
    (howns : e.Owns n v reference arguments r) (hpending : r.settlement = .pending)
    (error : String) :
    Meets (failWorker env backend error) s
      (fun _ t ↦ ∃ m f, n ≤ m ∧
        (∃ r', Revises r r' ∧ r'.isRevoked ∧ f.Owns m v reference arguments r') ∧
        Knows env t (w.failed error) m f) (Raises env backend fresh known stranded refused) := by
  apply failWorker_first (v := v.bearing r) h hclock hfirst hopen howns.gate
  intro t m g hle hg h
  rw [howns.active]
  apply (h.cancelRecord hclock (howns.regate hg rfl) hpending).bind
  rintro _ t ⟨-, m', f, r', hle', hrevises, hrevoked, howns, h⟩
  apply (h.markRevoked howns).mono
  · rintro _ t ⟨f, howns, h⟩
    exact ⟨m', f, hle.trans hle', ⟨r', hrevises, hrevoked, howns⟩, h⟩
  · exact fun _ _ he ↦ he

/-- `begin_close` of a host that is closing. -/
theorem beginClose_again (h : Knows env s w n e) (hclosing : w.closingAt.isSome = true) :
    Meets (beginClose env) s (fun _ t ↦ t = s)
      (Raises env backend fresh known stranded refused) := by
  unfold beginClose
  rw [Fallible.meets_self_bind, if_neg]
  · rfl
  · intro hnone
    rw [h.closingAt_eq] at hnone
    rw [hnone] at hclosing
    cases hclosing

/-- The gate is closed. -/
theorem closeGate (h : Knows env s w n e) (hserves : e.gate.Serves n v) :
    Meets (onGate GateState.close) s
      (fun _ t ↦ ∃ g : GateState, g.Serves n { v with closed := True } ∧
        Knows env t w n { e with gate := g })
      (Raises env backend fresh known stranded refused) := by
  apply (h.callGate (hserves.close.mono (fun _ _ hg ↦ hg) fun _ _ hf ↦ hf.elim)).mono
  · rintro _ t ⟨g, hg, h⟩
    exact ⟨g, hg, h⟩
  · exact fun _ _ he ↦ he

/-- `begin_close` without an operation. -/
theorem beginClose_rests (h : Knows env s w n e) (hclock : Monotone env.clock)
    (hfirst : w.closingAt = none) (hrests : e.Rests n v) :
    Meets (beginClose env) s
      (fun _ t ↦ ∃ m f reading, n ≤ m ∧ f.Rests m { v with closed := True } ∧
        Knows env t (w.closing reading) m f) (Raises env backend fresh known stranded refused) := by
  unfold beginClose
  rw [Fallible.meets_self_bind, if_pos (h.closingAt_eq.trans hfirst), h.execution, hrests.active]
  apply (h.now hclock).bind
  rintro reading t ⟨hle, h⟩
  refine Meets.bind (h.assign (fun w ↦ { w with closingAt := some reading }) h.orderly
    fun _ ↦ ⟨rfl, rfl, rfl⟩) ?_
  intro _ t h
  rw [Fallible.meets_bind, Fallible.meets_pure]
  refine Meets.bind (h.assign (fun w ↦ { w with queue := [] }) h.orderly fun _ ↦ ⟨rfl, rfl, rfl⟩) ?_
  intro _ t h
  apply (closeGate h (hrests.gate.mono hle)).bind
  rintro _ t ⟨g, hg, h⟩
  refine Meets.mono (h.assign (fun w ↦ { w with phase := .closing }) h.orderly
    fun _ ↦ ⟨rfl, rfl, rfl⟩) ?_ fun _ _ he ↦ he
  intro _ t h
  exact ⟨reading, _, reading, hle, hrests.regate hg, h⟩

/-- `begin_close` revokes the operation. -/
theorem beginClose_owns (h : Knows env s w n e) (hclock : Monotone env.clock)
    (hfirst : w.closingAt = none) (howns : e.Owns n v reference arguments r)
    (hpending : r.settlement = .pending) :
    Meets (beginClose env) s
      (fun _ t ↦ ∃ m f reading r', n ≤ m ∧ Revises r r' ∧ r'.isRevoked ∧
        f.Owns m { v with closed := True } reference arguments r' ∧
        Knows env t (w.closing reading) m f) (Raises env backend fresh known stranded refused) := by
  unfold beginClose
  rw [Fallible.meets_self_bind, if_pos (h.closingAt_eq.trans hfirst), h.execution, howns.active]
  apply (h.now hclock).bind
  rintro reading t ⟨hle, h⟩
  refine Meets.bind (h.assign (fun w ↦ { w with closingAt := some reading }) h.orderly
    fun _ ↦ ⟨rfl, rfl, rfl⟩) ?_
  intro _ t h
  rw [Fallible.meets_bind]
  apply (h.cancelRecord hclock (howns.mono hle) hpending).bind
  rintro _ t ⟨-, m, f, r', hle', hrevises, hrevoked, howns, h⟩
  rw [Fallible.meets_pure]
  refine Meets.bind (h.assign (fun w ↦ { w with queue := [] }) h.orderly fun _ ↦ ⟨rfl, rfl, rfl⟩) ?_
  intro _ t h
  apply (closeGate h howns.gate).bind
  rintro _ t ⟨g, hg, h⟩
  refine Meets.mono (h.assign (fun w ↦ { w with phase := .closing }) h.orderly
    fun _ ↦ ⟨rfl, rfl, rfl⟩) ?_ fun _ _ he ↦ he
  intro _ t h
  exact ⟨m, _, reading, r', hle.trans hle', hrevises, hrevoked,
      howns.regate (w := { v with closed := True }) hg rfl, h⟩

/-- `fail_worker` of a host that does not close. -/
theorem failWorker_keeps (h : s.Keeps env backend fresh stranded) (hclock : Monotone env.clock)
    (hgoes : s.closingAt = none) {error : String} (hnamed : error ≠ "") :
    Meets (failWorker env backend error) s (fun _ t ↦ t.Keeps env backend fresh stranded)
      (Raises env backend fresh known stranded refused) := by
  obtain ⟨w, n, e, v, h, hagrees, hhalts, hstands⟩ := h
  by_cases hfailed : w.failure.isSome = true
  · refine Meets.mono (failWorker_again h hfailed error) ?_ fun _ _ he ↦ he
    rintro _ t rfl
    exact ⟨w, n, e, v, h, hagrees, hhalts, hstands⟩
  have hfirst : w.failure = none := by simpa using hfailed
  have hopen : ¬ v.closed := by
    rw [hagrees.closed, ← h.closingAt_eq, hgoes]
    simp
  have hhalts' : Halts stranded (w.failed error) := fun _ ↦ .inr (.inl rfl)
  rcases hstands with hquiet | ⟨reference, arguments, r, hbusy⟩
  · refine Meets.mono (failWorker_rests h hclock hfirst hopen hquiet.rests error) ?_
      fun _ _ he ↦ he
    rintro _ t ⟨m, f, -, hrests, h⟩
    refine ⟨_, m, f, v, h, hagrees.failed hnamed, hhalts', .inl ?_⟩
    constructor
    · exact hrests
    · exact hquiet.prediction
    · rintro (hstarting | hready)
      · cases hstarting
      · cases hready
    · intro hstarting
      cases hstarting
    · intro hrunning
      cases hrunning
  · refine Meets.mono (failWorker_owns h hclock hfirst hopen hbusy.owns hbusy.stage.2.2.2.2 error)
      ?_ fun _ _ he ↦ he
    rintro _ t ⟨m, f, -, ⟨q, hrevises, hrevoked, howns⟩, h⟩
    have hstopped := (hbusy.toBound.revise hrevises howns).stop backend (w.failed error)
      hrevoked rfl (.inr (.inl rfl)) ⟨rfl, rfl, rfl⟩
    exact ⟨_, m, f, v, h, hagrees.failed hnamed, hhalts', .inr ⟨_, _, q, hstopped⟩⟩

/-- `begin_close`. -/
theorem beginClose_keeps (h : s.Keeps env backend fresh stranded) (hclock : Monotone env.clock) :
    Meets (beginClose env) s (fun _ t ↦ t.Keeps env backend fresh stranded)
      (Raises env backend fresh known stranded refused) := by
  obtain ⟨w, n, e, v, h, hagrees, hhalts, hstands⟩ := h
  by_cases hclosing : w.closingAt.isSome = true
  · refine Meets.mono (beginClose_again h hclosing) ?_ fun _ _ he ↦ he
    rintro _ t rfl
    exact ⟨w, n, e, v, h, hagrees, hhalts, hstands⟩
  have hfirst : w.closingAt = none := by simpa using hclosing
  rcases hstands with hquiet | ⟨reference, arguments, r, hbusy⟩
  · refine Meets.mono (beginClose_rests h hclock hfirst hquiet.rests) ?_ fun _ _ he ↦ he
    rintro _ t ⟨m, f, reading, -, hrests, h⟩
    refine ⟨_, m, f, _, h, hagrees.closing reading, fun _ ↦ .inl rfl, .inl ?_⟩
    constructor
    · exact hrests
    · exact hquiet.prediction
    · rintro (hstarting | hready)
      · cases hstarting
      · cases hready
    · intro hstarting
      cases hstarting
    · intro hrunning
      cases hrunning
  · refine Meets.mono (beginClose_owns h hclock hfirst hbusy.owns hbusy.stage.2.2.2.2) ?_
      fun _ _ he ↦ he
    rintro _ t ⟨m, f, reading, q, -, hrevises, hrevoked, howns, h⟩
    have hstopped := (hbusy.toBound.revise hrevises howns).stop backend
      (w.closing reading) hrevoked rfl (.inr (.inr rfl)) ⟨rfl, rfl, rfl⟩
    exact ⟨_, m, f, _, h, hagrees.closing reading, fun _ ↦ .inl rfl, .inr ⟨_, _, q, hstopped⟩⟩

/-! ### Ends of operations -/

namespace Knows

/-- The record of the active request. -/
theorem activeRecord (h : Knows env s w n e) (howns : e.Owns n v reference arguments r) :
    Meets Host.activeRecord s
      (fun found t ↦ found.1 = reference ∧ found.2.operationId = some r.authority.operationId ∧
        found.2.arguments = arguments ∧ t = s)
      (Raises env backend fresh known stranded refused) := by
  obtain ⟨record, hrecord, hid, harguments⟩ := howns.holds
  unfold Host.activeRecord
  rw [Fallible.meets_self_bind, h.execution, howns.active]
  dsimp only
  rw [hrecord]
  exact ⟨rfl, hid, harguments, rfl⟩

/-- The clock is read for the active request. -/
theorem tick (h : Knows env s w n e) (hclock : Monotone env.clock)
    (howns : e.Owns n v reference arguments r) :
    Meets (Host.tick env) s
      (fun found t ↦ ∃ m f r', found = some r' ∧ n ≤ m ∧ Revises r r' ∧
        f.Owns m v reference arguments r' ∧ Knows env t w m f)
      (Raises env backend fresh known stranded refused) := by
  unfold Host.tick
  rw [Fallible.meets_read_bind, h.execution, howns.active]
  apply (h.now hclock).bind
  rintro stamp t ⟨hle, h⟩
  apply (h.call (howns.tick hle)).mono
  · rintro found t ⟨f, ⟨r', hfound, hrevises, -, howns⟩, h⟩
    exact ⟨stamp, f, r', hfound, hle, hrevises, howns, h⟩
  · exact fun _ _ he ↦ he

/-- Native evidence that the gate accepts. -/
theorem native (h : Knows env s w n e) (hclock : Monotone env.clock) {kind : NativeEventKind}
    {P : ℕ → Execution → Prop}
    (hnative : ∀ stamp, n ≤ stamp →
      Meets (ExecutionCoordinator.native reference kind none stamp) e
        (fun d f ↦ d = .accepted ∧ P stamp f) ExecutionCoordinator.Overflows) :
    Meets (Host.native env reference kind) s
      (fun _ t ↦ ∃ m f, n ≤ m ∧ P m f ∧ Knows env t w m f)
      (Raises env backend fresh known stranded refused) := by
  unfold Host.native
  apply (h.now hclock).bind
  rintro stamp t ⟨hle, h⟩
  apply (h.callAccepted (hnative stamp hle)).mono
  · rintro _ t ⟨f, hf, h⟩
    exact ⟨stamp, f, hle, hf, h⟩
  · exact fun _ _ he ↦ he

/-- The output of work that has ended is disposed of. -/
theorem disposeResult (h : Knows env s w n e) (hclock : Monotone env.clock)
    (howns : e.Owns n v reference arguments r) {candidate : Option Json}
    (hstage : AtStage r (.ended (candidate.isSome = true))) :
    Meets (Host.disposeResult env backend reference candidate) s
      (fun _ t ↦ ∃ m f r', n ≤ m ∧ AtStage r' .disposed ∧ f.Owns m v reference arguments r' ∧
        Knows env t w m f) (Raises env backend fresh known stranded refused) := by
  unfold Host.disposeResult
  rw [Fallible.meets_self_bind]
  apply (h.now hclock).bind
  rintro first t ⟨hle, h⟩
  apply (h.now hclock).bind
  rintro second t ⟨hle', h⟩
  apply (h.now hclock).bind
  rintro third t ⟨hle'', h⟩
  have hdisposes := howns.disposeResult hstage (backend.observe s.backend).value hle hle' hle''
  refine Meets.mono (h.call hdisposes) ?_ fun _ _ he ↦ he
  rintro _ t ⟨f, ⟨r', -, hstage', howns⟩, h⟩
  exact ⟨third, f, r', (hle.trans hle').trans hle'', hstage', howns, h⟩

end Knows

/-- `phase_after` of the members. -/
def View.phaseAfter (w : View β) (continuation : Bool) : HostPhase :=
  if w.failure.any (· ≠ "") = true then .failed
  else if w.closingAt.any (· ≠ 0) = true then .closing
  else if continuation = true then .ready
  else .needsReset

/-- What the end of an operation makes of the members. -/
def View.released (w : View β) (continuation : Bool) : View β :=
  { w with fixedAction := none, phase := w.phaseAfter continuation }

/-- The phases after an operation. -/
theorem View.phase_released (w : View β) (continuation : Bool) :
    (w.released continuation).phase = .failed ∨ (w.released continuation).phase = .closing ∨
      (w.released continuation).phase = .needsReset ∨
      continuation = true ∧ (w.released continuation).phase = .ready := by
  simp only [View.released, View.phaseAfter]
  split
  · simp
  split
  · simp
  split
  · next hcontinues => simp [hcontinues]
  · simp

/-- A host that has failed, or that closes, has stopped after an operation. -/
theorem halts_released {continuation : Bool} (hnamed : ∀ text ∈ w.failure, text ≠ "")
    (hgoes : continuation = true → w.closingAt = none)
    (hstranded : w.closingAt = some 0 → stranded) : Halts stranded (w.released continuation) := by
  intro hstopped
  simp only [View.released, View.phaseAfter]
  cases hfailure : w.failure with
  | some text => simp [hnamed text hfailure]
  | none =>
    cases hclosing : w.closingAt with
    | none => simp [View.released, hfailure, hclosing] at hstopped
    | some reading =>
      have hends : continuation = false := by
        by_contra hcontinues
        rw [Bool.not_eq_false] at hcontinues
        rw [hgoes hcontinues] at hclosing
        cases hclosing
      by_cases hzero : reading = 0
      · subst hzero
        simp [hends, hstranded hclosing]
      · simp [hzero]

/-- Whether the result was delivered. -/
private theorem isDelivered_meets (h : Knows env s w n e)
    (howns : e.Owns n v reference arguments r) (reason : FinishReason) :
    Meets (isDelivered env reason reference) s
      (fun delivered t ↦ (delivered = true → w.failure = none ∧ w.closingAt = none) ∧
        Knows env t w n e) (Raises env backend fresh known stranded refused) := by
  obtain ⟨record, hrecord, -⟩ := howns.holds
  have hlookup : Meets (ExecutionCoordinator.lookup reference) e
      (fun found f ↦ found = record ∧ f = e) ExecutionCoordinator.Overflows := by
    unfold ExecutionCoordinator.lookup
    rw [Fallible.meets_read_bind, hrecord]
    exact ⟨rfl, rfl⟩
  unfold isDelivered
  rw [Fallible.meets_self_bind]
  have hfailure := h.failure_eq
  have hclosing := h.closingAt_eq
  apply (h.call hlookup).bind
  rintro found t ⟨f, ⟨-, hsame⟩, ht⟩
  subst hsame
  cases found.receipt with
  | none => exact ht.confuses
  | some receipt =>
    dsimp only
    rw [Fallible.meets_ite, hfailure, hclosing]
    split
    · next hdelivers =>
      apply ht.workerExited.bind
      intro exited t h
      exact ⟨fun _ ↦ hdelivers.2.2.2.2, h⟩
    · exact ⟨fun hfalse ↦ absurd hfalse Bool.false_ne_true, ht⟩

/-- The host keeps what it keeps when it releases a settled operation. -/
private theorem release_keeps (h : Knows env s w n e) (hclock : Monotone env.clock)
    (hagrees : Agrees w v) (hstranded : w.closingAt = some 0 → stranded)
    (hresolved : w.prediction = none) (howns : e.Owns n v reference arguments r)
    (hstage : AtStage r .settled)
    {continuation : Bool} (hgoes : continuation = true →
      w.failure = none ∧ w.closingAt = none ∧ fresh w.backend) :
    Meets (do
        onExecution (ExecutionCoordinator.release reference)
        .assign fun s ↦ { s with fixedAction := none, phase := phaseAfter s continuation }
        if continuation = true then refreshCapability env true else pure ()) s
      (fun _ t ↦ t.Keeps env backend fresh stranded)
      (Raises env backend fresh known stranded refused) := by
  apply (h.call (howns.release hstage)).bind
  rintro _ t ⟨f, hrests, h⟩
  refine Meets.bind (h.assign (fun w ↦ w.released continuation) h.orderly
    fun _ ↦ ⟨rfl, rfl, rfl⟩) ?_
  intro _ t h
  have hagrees' : Agrees (w.released continuation) (v.bearing r) :=
    ⟨hagrees.closed, hagrees.next, hagrees.named⟩
  have hhalts : Halts stranded (w.released continuation) :=
    halts_released hagrees.named (fun hcontinues ↦ (hgoes hcontinues).2.1) hstranded
  have hquiet {m : ℕ} {f : Execution} (hrests : f.Rests m (v.bearing r)) :
      Quiet fresh (w.released continuation) m f (v.bearing r) := by
    have hphase := w.phase_released continuation
    constructor
    · exact hrests
    · exact hresolved
    · intro hready
      by_cases hcontinues : continuation = true
      · exact (hgoes hcontinues).2.2
      · rcases hready with hready | hready <;> rw [hready] at hphase <;> simp [hcontinues] at hphase
    · intro hstarting
      rw [hstarting] at hphase
      simp at hphase
    · intro hrunning
      rw [hrunning] at hphase
      simp at hphase
  rw [Fallible.meets_ite]
  split
  · next hcontinues =>
    have hopen : ¬ v.closed := by
      rw [hagrees.closed, (hgoes hcontinues).2.1]
      simp
    refine Meets.mono (h.refreshCapability hclock hrests.gate hopen true) ?_ fun _ _ he ↦ he
    rintro _ t ⟨m, g, -, hg, h⟩
    exact ⟨_, m, _, v.bearing r, h, hagrees', hhalts, .inl (hquiet (hrests.regate hg))⟩
  · exact ⟨_, n, f, v.bearing r, h, hagrees', hhalts, .inl (hquiet hrests)⟩

/-- An operation whose end was reported is closed. -/
theorem closeOperation_keeps (h : Knows env s w n e) (hclock : Monotone env.clock)
    (hlawful : backend.Lawful fresh) (hagrees : Agrees w v)
    (hstranded : w.closingAt = some 0 → stranded) (hresolved : w.prediction = none)
    (howns : e.Owns n v reference arguments r) {reason : FinishReason}
    (hstage : AtStage r (.ended (reason = .completed))) {summary : Json}
    (hsummary : reason = .completed → present summary = some summary) :
    Meets (closeOperation env backend reason reference summary) s
      (fun _ t ↦ t.Keeps env backend fresh stranded)
      (Raises env backend fresh known stranded refused) := by
  unfold closeOperation
  unfold setReason describe
  refine Meets.bind (h.assignRecord howns fun _ ↦ rfl) ?_
  rintro _ t ⟨f, howns, h⟩
  have hcandidate : AtStage r (.ended
      ((if reason = .completed then present summary else none).isSome = true)) := by
    obtain ⟨hknown, hsucceeded, hrest⟩ := hstage
    refine ⟨hknown, hsucceeded.trans ?_, hrest⟩
    by_cases hcompleted : reason = .completed
    · rw [if_pos hcompleted, hsummary hcompleted]
      simp [hcompleted]
    · rw [if_neg hcompleted]
      simp [hcompleted]
  apply (h.disposeResult hclock howns hcandidate).bind
  rintro _ t ⟨m, f, r', -, hstage, howns, h⟩
  apply (h.now hclock).bind
  rintro stamp t ⟨hle, h⟩
  apply (h.call (howns.settle hstage hle)).bind
  rintro _ t ⟨f, ⟨r', hstage, howns, -⟩, h⟩
  rw [Fallible.meets_self_bind]
  refine Meets.bind (h.assignRecord howns fun _ ↦ rfl) ?_
  rintro _ t ⟨f, howns, h⟩
  apply (isDelivered_meets h howns reason).bind
  rintro delivered t ⟨hdelivers, h⟩
  apply (h.onBackend (hlawful.settles delivered w.backend)).bind
  rintro continuation t ⟨b, hcontinues, h⟩
  apply release_keeps h hclock ⟨hagrees.closed, hagrees.next, hagrees.named⟩ hstranded hresolved
    howns hstage
  intro htrue
  obtain ⟨hdelivered, hfresh⟩ := hcontinues htrue
  obtain ⟨hfailure, hclosing⟩ := hdelivers hdelivered
  exact ⟨hfailure, hclosing, hfresh⟩

/-- How the native end of an operation is reported. -/
private theorem reportEnd (h : Knows env s w n e) (hclock : Monotone env.clock)
    (hagrees : Agrees w v) (howns : e.Owns n v reference arguments r)
    (hknown : ∃ entry ∈ w.log, entry.operation = r.authority.operationId)
    (hstage : AtStage r .running) (reason : FinishReason) :
    Meets (do
        Host.note (.ended r.authority.operationId)
        native env reference reason.outcome) s
      (fun _ t ↦ ∃ m f w' r', AtStage r' (.ended (reason = .completed)) ∧ Agrees w' v ∧
        w'.closingAt = w.closingAt ∧ w'.prediction = w.prediction ∧
        f.Owns m v reference arguments r' ∧
        Knows env t w' m f) (Raises env backend fresh known stranded refused) := by
  refine Meets.bind (h.note (by exact trivial)) ?_
  intro _ t h
  have hterminal : reason.outcome = .terminalSucceeded ∨ reason.outcome = .terminalFailed ∨
      reason.outcome = .terminalCancelled := by
    cases reason <;> simp [FinishReason.outcome]
  have hreports (stamp : ℕ) (hle : n ≤ stamp) := howns.native_terminal hstage hterminal hle
  apply (h.native hclock hreports).mono
  · rintro _ t ⟨m, f, -, ⟨r', hsame, hstage', howns⟩, h⟩
    refine ⟨m, f, _, r', ?_, hagrees.note (by exact hknown), rfl, rfl, howns, h⟩
    obtain ⟨hended, hsucceeded, hrest⟩ := hstage'
    refine ⟨hended, hsucceeded.trans ?_, hrest⟩
    cases reason <;> simp [FinishReason.outcome]
  · exact fun _ _ he ↦ he

/-- `finish` of an operation that runs, or of one that was not submitted. -/
theorem finish_keeps (h : Knows env s w n e) (hclock : Monotone env.clock)
    (hlawful : backend.Lawful fresh) (hagrees : Agrees w v)
    (hstranded : w.closingAt = some 0 → stranded)
    (howns : e.Owns n v reference arguments r)
    (hknown : ∃ entry ∈ w.log, entry.operation = r.authority.operationId)
    {reason : FinishReason} {reportsNative : Bool}
    (hruns : reportsNative = true → AtStage r .running)
    (hunsubmitted : reportsNative = false → reason ≠ .completed ∧ AtStage r (.ended False)) :
    Meets (finish env backend reason reportsNative) s (fun _ t ↦ t.Keeps env backend fresh stranded)
      (Raises env backend fresh known stranded refused) := by
  unfold finish
  rw [Fallible.meets_self_bind, h.prediction_eq, h.closingAt_eq]
  by_cases hunresolved : w.prediction.isSome = true
  · rw [if_pos hunresolved]
    apply h.raises rfl rfl
    intro d heq
    exact absurd heq (by cases d <;> decide)
  rw [if_neg hunresolved]
  have hresolved : w.prediction = none := by simpa using hunresolved
  apply (h.activeRecord howns).bind
  rintro ⟨active, record⟩ t ⟨hreference, hid, -, rfl⟩
  obtain rfl : reference = active := hreference.symm
  apply (h.tick hclock howns).bind
  rintro _ t ⟨m, f, q, -, hle, hrevises, howns, h⟩
  have hauthority := hrevises.authority
  refine Meets.bind (h.assign (fun w ↦ { w with queue := [] }) h.orderly fun _ ↦ ⟨rfl, rfl, rfl⟩) ?_
  intro _ t h
  have hrefreshed : Meets (if w.closingAt = none then refreshCapability env false else pure ()) t
      (fun _ t ↦ ∃ m f, f.Owns m v reference arguments q ∧
        Knows env t { w with queue := [] } m f)
      (Raises env backend fresh known stranded refused) := by
    rw [Fallible.meets_ite]
    split
    · next hgoes =>
      have hopen : ¬ v.closed := by
        rw [hagrees.closed, hgoes]
        simp
      refine Meets.mono (h.refreshCapability hclock howns.gate hopen false) ?_ fun _ _ he ↦ he
      rintro _ t ⟨m, g, -, hg, h⟩
      exact ⟨m, _, howns.regate hg rfl, h⟩
    · exact ⟨m, f, howns, h⟩
  apply hrefreshed.bind
  rintro _ t ⟨m, f, howns, h⟩
  apply (h.onBackend (hlawful.finish reason w.backend)).bind
  rintro summary t ⟨b, hsummary, h⟩
  unfold describe
  refine Meets.bind (h.assignRecord howns fun _ ↦ rfl) ?_
  rintro _ t ⟨f, howns, h⟩
  have hreported : Meets (if reportsNative = true then do
      let operation ← operationOf record
      Host.note (.ended operation)
      native env reference reason.outcome
    else pure ()) t
      (fun _ t ↦ ∃ m f w' r', AtStage r' (.ended (reason = .completed)) ∧ Agrees w' v ∧
        w'.closingAt = w.closingAt ∧ w'.prediction = none ∧ f.Owns m v reference arguments r' ∧
        Knows env t w' m f) (Raises env backend fresh known stranded refused) := by
    unfold operationOf
    rw [hid, Fallible.meets_ite]
    split
    · next hnative =>
      rw [Fallible.meets_bind, Fallible.meets_pure, ← hauthority]
      refine Meets.mono (reportEnd h hclock (hagrees.assign ⟨rfl, rfl, rfl⟩) howns ?_
        (hrevises.stage _ (hruns hnative)) reason) ?_ fun _ _ he ↦ he
      · rw [hauthority]
        exact hknown
      · rintro _ t ⟨m, f, w', r', hstage', hagrees', hclosing, hresolved', howns, h⟩
        exact ⟨m, f, w', r', hstage', hagrees', hclosing, hresolved'.trans hresolved, howns, h⟩
    · next hnative =>
      obtain ⟨hreason, hstage⟩ := hunsubmitted (by simpa using hnative)
      have hended := hrevises.stage _ hstage
      rw [← eq_false hreason] at hended
      exact ⟨m, f, { w with backend := b, queue := [] }, q, hended,
        hagrees.assign ⟨rfl, rfl, rfl⟩, rfl, hresolved, howns, h⟩
  apply hreported.bind
  rintro _ t ⟨m, f, w', r', hstage', hagrees', hclosing, hresolved', howns, h⟩
  rw [← hclosing] at hstranded
  exact closeOperation_keeps h hclock hlawful hagrees' hstranded hresolved' howns hstage' hsummary

/-! ### Submissions -/

/-- An operation of the backend is started: what it repeats is in the log. -/
private theorem beginOperation_meets (h : Knows env s w n e) (hlawful : backend.Lawful fresh)
    (hfresh : fresh w.backend) (skill : Skill) (operation : OperationId) :
    Meets (beginOperation backend skill (some operation)) s
      (fun outcome t ↦ ∃ b fixedAction log,
        Knows env t { w with backend := b, fixedAction := fixedAction, log := log } n e ∧
        (log = w.log ∨ ∃ action, log = w.log ++ [.fixed operation action]) ∧
        (outcome = .ok () → backend.steps b = 0 ∧
          ∀ action ∈ fixedAction, log = w.log ++ [.fixed operation action]))
      (Raises env backend fresh known stranded refused) := by
  unfold beginOperation
  apply (h.tryBackend (hlawful.beginOperation skill.name (some operation) w.backend hfresh)).bind
  rintro outcome t ⟨b, hsteps, h⟩
  cases outcome with
  | error text =>
    refine ⟨b, w.fixedAction, w.log, h, .inl rfl, ?_⟩
    intro heq
    cases heq
  | ok _ =>
    have hzero := hsteps () rfl
    let repeats := backend.localTargetSkills.contains skill.name
    have hassigned : Meets (.assign fun s : Host β ↦
        { s with fixedAction := if repeats = true then s.lastAction else none }) t
        (fun _ t ↦ ∃ fixedAction, Knows env t { w with backend := b, fixedAction := fixedAction }
          n e) (Raises env backend fresh known stranded refused) := by
      let target := if repeats = true then t.lastAction else none
      exact ⟨target, congrArg (fun w : View β ↦ { w with fixedAction := target }) h.view,
        h.execution, h.time, h.orderly⟩
    apply hassigned.bind
    rintro _ t ⟨fixedAction, h⟩
    rw [Fallible.meets_self_bind, Fallible.meets_ite, h.fixedAction_eq]
    split
    · exact ⟨b, fixedAction, w.log, h, .inl rfl, nofun⟩
    · cases fixedAction with
      | none => exact ⟨b, none, w.log, h, .inl rfl, fun _ ↦ ⟨hzero, nofun⟩⟩
      | some action =>
        refine Meets.bind (h.note (by exact trivial)) ?_
        intro _ t h
        refine ⟨b, some action, _, h, .inr ⟨action, rfl⟩, fun _ ↦ ⟨hzero, ?_⟩⟩
        rintro _ ⟨⟩
        rfl

/-- An operation that was not submitted is finished. -/
private theorem finishUnsubmitted_keeps (h : Knows env s w n e) (hclock : Monotone env.clock)
    (hlawful : backend.Lawful fresh) (hagrees : Agrees w v) (hgoes : w.closingAt = none)
    (howns : e.Owns n v reference arguments r)
    (hknown : ∃ entry ∈ w.log, entry.operation = r.authority.operationId)
    (hstage : AtStage r .admitted) {reason : FinishReason} (hreason : reason ≠ .completed) :
    Meets (finishUnsubmitted env backend reason reference r.authority.operationId) s
      (fun _ t ↦ t.Keeps env backend fresh stranded)
      (Raises env backend fresh known stranded refused) := by
  unfold finishUnsubmitted
  refine Meets.bind (h.note (by exact trivial)) ?_
  intro _ t h
  apply (h.now hclock).bind
  rintro stamp t ⟨hle, h⟩
  apply (h.call (howns.nonSubmission hstage hle)).bind
  rintro d t ⟨f, ⟨rfl, r', hsame, hstage', howns⟩, h⟩
  apply h.accepted.bind
  intro _ t h
  have hstranded : w.closingAt = some 0 → stranded := by
    rw [hgoes]
    nofun
  apply finish_keeps h hclock hlawful (hagrees.note (by exact hknown)) hstranded howns
  · obtain ⟨entry, hentry, hoperation⟩ := hknown
    exact ⟨entry, List.mem_append_left _ hentry, hoperation.trans (by rw [hsame])⟩
  · intro hfalse
    cases hfalse
  · exact fun _ ↦ ⟨hreason, hstage'⟩

/-- An operation whose dispatch was claimed runs. -/
private theorem accept_keeps (h : Knows env s w n e) (hclock : Monotone env.clock)
    (hagrees : Agrees w v) (howns : e.Owns n v reference arguments r)
    (hstage : AtStage r .claimed) (hstarted : r.nativeStarted = false)
    (hphase : w.phase = .running) (hgoes : w.failure = none ∧ w.closingAt = none)
    (hresolved : w.prediction = none) (hqueue : w.queue = [])
    (hunderway : Underway w.log r.authority.operationId arguments.steps)
    (hclaimed : .claimed r.authority.operationId ∈ w.log)
    (hunmade : stepsOf r.authority.operationId w.log = 0) (hzero : backend.steps w.backend = 0)
    (hsteps : 0 < arguments.steps)
    (hfixed : ∀ action ∈ w.fixedAction, .fixed r.authority.operationId action ∈ w.log) :
    Meets (native env reference .accepted) s (fun _ t ↦ t.Keeps env backend fresh stranded)
      (Raises env backend fresh known stranded refused) := by
  have haccepts (stamp : ℕ) (hle : n ≤ stamp) := howns.native_accepted hstage hle
  refine Meets.mono (h.native hclock haccepts) ?_ fun _ _ he ↦ he
  rintro _ t ⟨m, f, -, ⟨q, hsame, hruns, hq, -, howns⟩, h⟩
  refine ⟨w, m, f, v, h, hagrees, ?_, .inr ⟨reference, arguments, q, ?_⟩⟩
  · intro hstopped
    simp [hgoes] at hstopped
  rw [← hsame] at hunderway hclaimed hunmade hfixed
  constructor
  · constructor
    · exact howns
    · exact hruns
    · exact .inl hphase
    · exact hunderway
    · exact hclaimed
    · rw [hqueue]
      simp
    · exact hfixed
    · rw [hresolved]
      simp
  · intro _
    refine ⟨hgoes.1, hgoes.2, hunmade.trans hzero.symm, hzero ▸ hsteps, ?_⟩
    intro hfirst
    rw [hq, hstarted] at hfirst
    cases hfirst

/-- An admitted operation is dispatched, or it is finished. -/
theorem startOperation_keeps (h : Knows env s w n e) (hclock : Monotone env.clock)
    (hlawful : backend.Lawful fresh) (hagrees : Agrees w v) (hfresh : fresh w.backend)
    (hgoes : w.failure = none ∧ w.closingAt = none) (hresolved : w.prediction = none)
    (hqueue : w.queue = []) (hnonzero : v.nextOperationId ≠ 0)
    (hsteps : 0 < arguments.steps) (hid : r.authority.operationId = v.nextOperationId)
    (hstage : AtStage r .admitted) (hstarted : r.nativeStarted = false)
    (howns : e.Owns n ⟨some r, v.nextOperationId + 1, v.closed⟩ reference arguments r)
    (skill : Skill) :
    Meets (startOperation env backend reference skill arguments.steps r.authority.operationId) s
      (fun _ t ↦ t.Keeps env backend fresh stranded)
      (Raises env backend fresh known stranded refused) := by
  obtain ⟨hnew, hadmitted⟩ := hagrees.admit hnonzero arguments.steps r
  have hopen : ¬ v.closed := by
    rw [hagrees.closed, hgoes.2]
    simp
  rw [← hid] at hnew hadmitted
  have hunderway : Underway (w.log ++ [.admitted r.authority.operationId arguments.steps])
      r.authority.operationId arguments.steps := .start hnew
  have hunmade : stepsOf r.authority.operationId
      (w.log ++ [.admitted r.authority.operationId arguments.steps]) = 0 := by
    rw [stepsOf_append, stepsOf_eq_zero hnew]
    simp [HostEvent.isStepOf]
  unfold startOperation
  refine Meets.bind (h.note (by exact hnew)) ?_
  intro _ t h
  refine Meets.bind (h.assign (fun w ↦ { w with phase := .running }) h.orderly
    fun _ ↦ ⟨rfl, rfl, rfl⟩) ?_
  intro _ t h
  apply (beginOperation_meets h hlawful hfresh skill r.authority.operationId).bind
  rintro outcome t ⟨b, fixedAction, log, h, hlog, hbegun⟩
  dsimp only at hlog hbegun
  have hlogged : Agrees { w with log := log } ⟨some r, r.authority.operationId + 1, v.closed⟩ ∧
      Underway log r.authority.operationId arguments.steps ∧
      stepsOf r.authority.operationId log = 0 := by
    rcases hlog with rfl | ⟨action, rfl⟩
    · exact ⟨hadmitted, hunderway, hunmade⟩
    · refine ⟨hadmitted.note hunderway.known, hunderway.note rfl, ?_⟩
      rw [stepsOf_append, hunmade]
      simp [HostEvent.isStepOf]
  obtain ⟨hagrees, hunderway, hunmade⟩ := hlogged
  rw [← hid] at howns
  have hopen' : ¬ (⟨some r, r.authority.operationId + 1, v.closed⟩ : GateView).closed := hopen
  generalize (⟨some r, r.authority.operationId + 1, v.closed⟩ : GateView) = u at *
  cases outcome with
  | error text =>
    dsimp only
    apply (failWorker_owns h hclock hgoes.1 hopen' howns hstage.2.2.2 _).bind
    rintro _ t ⟨m, f, -, ⟨q, hrevises, -, howns⟩, h⟩
    have hsame := hrevises.authority
    have hnamed : "backend operation start error: " ++ text ≠ "" := by simp
    rw [← hsame]
    have hagreed := hagrees.failed hnamed
    apply finishUnsubmitted_keeps h hclock hlawful (hagreed.assign ⟨rfl, rfl, rfl⟩) hgoes.2 howns
    · rw [hsame]
      exact hunderway.known
    · exact hrevises.stage _ hstage
    · decide
  | ok _ =>
    obtain ⟨hzero, hfixed⟩ := hbegun rfl
    dsimp only
    apply (h.now hclock).bind
    rintro stamp t ⟨hle, h⟩
    apply (h.call (howns.dispatch hstage hle)).bind
    rintro dispatched t ⟨f, ⟨hclaimed, hrefused⟩, h⟩
    rw [Fallible.meets_ite]
    split
    · next hfalse =>
      exact finishUnsubmitted_keeps h hclock hlawful (hagrees.assign ⟨rfl, rfl, rfl⟩) hgoes.2
        (hrefused hfalse) hunderway.known hstage (by decide)
    · next htrue =>
      obtain ⟨q, hsame, hclaim, hlive, hq, howns⟩ := hclaimed (by simpa using htrue)
      refine Meets.bind (h.note (by exact trivial)) ?_
      intro _ t h
      have hagreed : Agrees { w with log := log ++ [.claimed r.authority.operationId] } u :=
        hagrees.note hunderway.known
      refine accept_keeps h hclock (hagreed.assign ⟨rfl, rfl, rfl⟩) howns hclaim
        (hq.trans hstarted) rfl hgoes hresolved hqueue ?_ ?_ ?_ hzero hsteps ?_
      · rw [hsame]
        exact hunderway.note rfl
      · rw [hsame]
        simp
      · rw [hsame, stepsOf_append, hunmade]
        simp [HostEvent.isStepOf]
      · intro action haction
        rw [hsame, hfixed action haction]
        simp

/-- The reason of a refusal is assigned. -/
private theorem setReason_keeps (h : Knows env s w n e) (hagrees : Agrees w v)
    (hhalts : Halts stranded w) (hstands : Stands backend fresh w n e v) (reason : String) :
    Meets (setReason reference reason) s (fun _ t ↦ t.Keeps env backend fresh stranded)
      (Raises env backend fresh known stranded refused) := by
  unfold setReason
  refine Meets.mono h.update ?_ fun _ _ he ↦ he
  intro _ t h
  exact ⟨w, n, _, v, h, hagrees, hhalts, hstands.withRecord reference fun _ ↦ rfl⟩

/-- An admission at a time, and what follows it. -/
private theorem admit_keeps (h : Knows env s w n e) (hclock : Monotone env.clock)
    (hlawful : backend.Lawful fresh) (hagrees : Agrees w v) (hhalts : Halts stranded w)
    (hquiet : Quiet fresh w n e v) (hready : w.phase = .ready) (hqueue : w.queue = [])
    (hsteps : 0 < arguments.steps)
    (hreserved : ∃ record, e.records.get? reference = some record ∧
      record.operationId = none ∧ record.arguments = arguments) (skill : Skill) :
    Meets (do
        let stamp ← now env
        let decision ← onExecution (ExecutionCoordinator.admitRecord reference arguments.steps
          (arguments.deadlineMs.map fun deadlineMs ↦ stamp + deadlineMs * 1000000) stamp)
        (match decision.status, decision.authority with
          | .admitted, some authority =>
            startOperation env backend reference skill arguments.steps authority.operationId
          | _, _ => pure ())) s (fun _ t ↦ t.Keeps env backend fresh stranded)
      (Raises env backend fresh (fun _ ↦ True) stranded refused) := by
  obtain ⟨record, hrecord, hunasked, rfl⟩ := hreserved
  apply (h.now hclock).bind
  rintro stamp t ⟨hle, h⟩
  have hrests {f : Execution} {t : Host β} (h : Knows env t w stamp f) (hf : f.Rests stamp v) :
      t.Keeps env backend fresh stranded :=
    ⟨w, stamp, f, v, h, hagrees, hhalts, .inl (hquiet.transfer hf)⟩
  rw [Fallible.meets_bind]
  refine Meets.mono (h.callRaising (hquiet.rests.admitRecord hrecord hunasked
    record.arguments.steps _ hle)) ?_ ?_
  · rintro decision t ⟨f, ⟨hadmitted, hrefused⟩, h⟩
    by_cases hstatus : decision.status = .admitted
    · obtain ⟨hopen, r, hauthority, hid, hnonzero, hstage, -, hstarted, howns⟩ :=
        hadmitted hstatus
      rw [hstatus, hauthority]
      have hgoes : w.failure = none ∧ w.closingAt = none := by
        constructor
        · by_contra hsome
          have hstopped := hhalts (.inl (Option.isSome_iff_ne_none.mpr hsome))
          simp [hready] at hstopped
        · rw [hagrees.closed] at hopen
          simpa using hopen
      exact startOperation_keeps h hclock hlawful hagrees (hquiet.fresh (.inr hready)) hgoes
        hquiet.prediction hqueue hnonzero hsteps hid hstage hstarted howns skill
    · have hskips : (match decision.status, decision.authority with
          | .admitted, some authority =>
            startOperation env backend reference skill record.arguments.steps authority.operationId
          | _, _ => pure ()) = pure () := by
        split
        · next heq _ => exact absurd heq hstatus
        · rfl
      rw [hskips]
      exact hrests h (hrefused hstatus)
  · rintro _ t ⟨failure, f, rfl, ⟨hfailure, hf⟩, h⟩
    rcases hfailure with rfl | ⟨text, rfl⟩
    · exact h.overflows
    · exact (hrests h hf).refuses trivial

/-- `submit` of a request that it has reserved. -/
private theorem decideReserved_keeps (h : Knows env s w n e) (hclock : Monotone env.clock)
    (hlawful : backend.Lawful fresh) (hagrees : Agrees w v) (hhalts : Halts stranded w)
    (hstands : Stands backend fresh w n e v) (hsteps : 0 < arguments.steps)
    (hreserved : ∃ record, e.records.get? reference = some record ∧
      record.operationId = none ∧ record.arguments = arguments) :
    Meets (decideReserved env backend reference arguments) s
      (fun _ t ↦ t.Keeps env backend fresh stranded)
      (Raises env backend fresh (fun _ ↦ True) stranded refused) := by
  unfold decideReserved
  rw [Fallible.meets_self_bind]
  cases findSkill backend arguments with
  | none => exact setReason_keeps h hagrees hhalts hstands _
  | some skill =>
    dsimp only
    cases mismatch backend arguments skill (backend.observe s.backend) with
    | some reason => exact setReason_keeps h hagrees hhalts hstands reason
    | none =>
      dsimp only
      have hexited : Meets (if s.phase ≠ .ready then pure true else workerExited env) s
          (fun exited t ↦ (exited = false → w.phase = .ready) ∧ Knows env t w n e)
          (Raises env backend fresh (fun _ ↦ True) stranded refused) := by
        rw [h.phase_eq, Fallible.meets_ite]
        split
        · refine ⟨fun hfalse ↦ ?_, h⟩
          cases hfalse
        · next hready =>
          refine Meets.mono h.workerExited ?_ fun _ _ he ↦ he
          exact fun _ _ h ↦ ⟨fun _ ↦ not_not.mp hready, h⟩
      have hqueue := h.queue_eq
      apply hexited.bind
      rintro exited t ⟨hready, h⟩
      rw [Fallible.meets_ite]
      split
      · exact setReason_keeps h hagrees hhalts hstands _
      · next hgoes =>
        rw [not_or, Bool.not_eq_true, Bool.not_eq_true] at hgoes
        have hphase := hready hgoes.1
        have hempty : w.queue = [] := by
          have hunready := hgoes.2
          unfold isUnready at hunready
          simp only [Bool.or_eq_false_iff, Bool.not_eq_false', List.isEmpty_iff] at hunready
          exact hqueue.symm.trans hunready.1.1.2
        rcases hstands with hquiet | ⟨other, _, q, hbusy⟩
        · exact admit_keeps h hclock hlawful hagrees hhalts hquiet hphase hempty hsteps hreserved
            skill
        · have hother := hbusy.phase
          rw [hphase] at hother
          simp at hother

/-- A snapshot changes nothing. -/
theorem snapshot_keeps (h : s.Keeps env backend fresh stranded) (reference : String) :
    Meets (snapshot backend reference) s (fun _ t ↦ t.Keeps env backend fresh stranded)
      (Raises env backend fresh (fun _ ↦ True) stranded refused) := by
  obtain ⟨w, n, e, v, h, hagrees, hhalts, hstands⟩ := h
  have hreads : Meets (ExecutionCoordinator.snapshot reference) e (fun _ f ↦ f = e)
      fun failure f ↦ failure = .keyError reference ∧ f = e := by
    unfold ExecutionCoordinator.snapshot ExecutionCoordinator.lookup
    rw [Fallible.meets_bind, Fallible.meets_read_bind]
    cases hrecord : e.records.get? reference with
    | none => exact ⟨rfl, rfl⟩
    | some record =>
      dsimp only
      rw [Fallible.meets_pure, Fallible.meets_read_bind, Fallible.meets_bind, Fallible.meets_ite]
      split
      · next hactive =>
        rcases hstands with hquiet | ⟨_, _, r, hbusy⟩
        · rw [hquiet.rests.active] at hactive
          cases hactive
        · obtain ⟨record', hrecord', hid, -⟩ := hbusy.owns.holds
          rw [hbusy.owns.active] at hactive
          cases hactive
          cases hrecord.symm.trans hrecord'
          rw [hid]
          unfold ExecutionCoordinator.onGate
          rw [Fallible.meets_within]
          refine Meets.mono hbusy.owns.gate.receipt_read ?_ fun _ _ he ↦ he
          rintro _ g ⟨-, rfl⟩
          rfl
      · rfl
  have hkeeps {t : Host β} (h : Knows env t w n e) : t.Keeps env backend fresh stranded :=
    ⟨w, n, e, v, h, hagrees, hhalts, hstands⟩
  unfold snapshot
  rw [Fallible.meets_bind]
  refine Meets.mono (h.callRaising hreads) ?_ ?_
  · rintro record t ⟨f, hsame, ht⟩
    subst hsame
    exact hkeeps ht
  · rintro _ t ⟨_, f, rfl, ⟨rfl, hsame⟩, ht⟩
    subst hsame
    apply (hkeeps ht).raises trivial
    intro d heq
    cases heq

/-- A reservation adds a record, or refuses the request. -/
private theorem reserve_stands (hstands : Stands backend fresh w n e v) (reference : String)
    (arguments : HostArguments) (driver : HostFields) :
    Meets (ExecutionCoordinator.reserve reference arguments (.ok driver)) e
      (fun isNew f ↦ Stands backend fresh w n f v ∧ (isNew = true →
        ∃ record, f.records.get? reference = some record ∧ record.operationId = none ∧
          record.arguments = arguments))
      fun failure f ↦ (∃ text, failure = .valueError text) ∧ f = e := by
  unfold ExecutionCoordinator.reserve
  rw [Fallible.meets_read_bind]
  cases hrecord : e.records.get? reference with
  | some record =>
    dsimp only
    rw [Fallible.meets_ite]
    split
    · exact ⟨⟨_, rfl⟩, rfl⟩
    · exact ⟨hstands, fun hfalse ↦ absurd hfalse Bool.false_ne_true⟩
  | none =>
    dsimp only
    rw [Fallible.meets_ite]
    split
    · exact ⟨⟨_, rfl⟩, rfl⟩
    · refine ⟨?_, fun _ ↦ ⟨_, Table.get?_set_self .., rfl, rfl⟩⟩
      rcases hstands with hquiet | ⟨active, _, r, hbusy⟩
      · exact .inl (hquiet.transfer ⟨hquiet.rests.gate, hquiet.rests.active⟩)
      · have hother : active ≠ reference := by
          rintro rfl
          obtain ⟨_, hsome, -⟩ := hbusy.owns.holds
          rw [hrecord] at hsome
          cases hsome
        refine .inr ⟨active, _, r, hbusy.transfer ⟨hbusy.owns.gate, hbusy.owns.active, ?_,
          hbusy.owns.named⟩⟩
        obtain ⟨record, hsome, hrest⟩ := hbusy.owns.holds
        exact ⟨record, (Table.get?_set_of_ne hother).trans hsome, hrest⟩

/-- `submit`. -/
theorem submit_keeps (h : s.Keeps env backend fresh stranded) (hclock : Monotone env.clock)
    (hlawful : backend.Lawful fresh) (message : Dict) :
    Meets (submit env backend message) s (fun _ t ↦ t.Keeps env backend fresh stranded)
      (Raises env backend fresh (fun _ ↦ True) stranded refused) := by
  unfold submit
  apply (h.checked (.readSubmission message)).bind
  rintro ⟨reference, arguments⟩ t ⟨hread, rfl⟩
  have hsteps := steps_of_readSubmission hread
  obtain ⟨w, n, e, v, h, hagrees, hhalts, hstands⟩ := h
  dsimp only
  rw [Fallible.meets_self_bind, Fallible.meets_bind]
  refine Meets.mono (h.callRaising (reserve_stands hstands reference arguments _)) ?_ ?_
  · rintro isNew u ⟨f, ⟨hstands, hreserved⟩, h⟩
    have hdecided : Meets
        (if isNew = true then decideReserved env backend reference arguments else pure ()) u
        (fun _ t ↦ t.Keeps env backend fresh stranded)
        (Raises env backend fresh (fun _ ↦ True) stranded refused) := by
      rw [Fallible.meets_ite]
      split
      · next hnew =>
        exact decideReserved_keeps h hclock hlawful hagrees hhalts hstands hsteps (hreserved hnew)
      · exact ⟨w, n, f, v, h, hagrees, hhalts, hstands⟩
    apply hdecided.bind
    intro _ t h
    exact snapshot_keeps h reference
  · rintro _ u ⟨_, f, rfl, ⟨⟨text, rfl⟩, hsame⟩, hu⟩
    subst hsame
    have hkeeps : u.Keeps env backend fresh stranded := ⟨w, n, f, v, hu, hagrees, hhalts, hstands⟩
    exact hkeeps.refuses trivial

/-! ### Commands -/

/-- The worker is looked at. -/
theorem workerExited_keeps (h : s.Keeps env backend fresh stranded) :
    Meets (workerExited env) s (fun _ t ↦ t.Keeps env backend fresh stranded)
      (Raises env backend fresh known stranded refused) := by
  obtain ⟨w, n, e, v, h, hrest⟩ := h
  refine Meets.mono h.workerExited ?_ fun _ _ he ↦ he
  exact fun _ _ h ↦ ⟨w, n, e, v, h, hrest⟩

/-- A message is queued, or the channel does not take it. -/
theorem queueMessage_keeps (h : s.Keeps env backend fresh stranded) :
    Meets (queueMessage env) s (fun _ t ↦ t.Keeps env backend fresh stranded)
      (Raises env backend fresh (fun _ ↦ True) stranded refused) := by
  obtain ⟨w, n, e, v, h, hrest⟩ := h
  apply h.queueMessage.mono
  · exact fun _ _ h ↦ ⟨w, n, e, v, h, hrest⟩
  · rintro _ t ⟨⟨failure, rfl⟩, h⟩
    have hkeeps : t.Keeps env backend fresh stranded := ⟨w, n, e, v, h, hrest⟩
    apply hkeeps.raises trivial
    intro d heq
    cases failure <;> cases heq

/-- Members of the host that nothing depends on. -/
theorem assign_keeps (h : s.Keeps env backend fresh stranded) {f : Host β → Host β}
    (hassigns : ∀ s, (f s).view = s.view ∧ (f s).execution = s.execution ∧
      (f s).readings = s.readings) :
    Meets (.assign f) s (fun _ t ↦ t.Keeps env backend fresh stranded)
      (Raises env backend fresh known stranded refused) := by
  obtain ⟨w, n, e, v, h, hkept⟩ := h
  refine Meets.mono (h.assign id h.orderly hassigns) ?_ fun _ _ he ↦ he
  exact fun _ _ h ↦ ⟨w, n, e, v, h, hkept⟩

/-- The clock is read. -/
theorem now_keeps (h : s.Keeps env backend fresh stranded) (hclock : Monotone env.clock) :
    Meets (now env) s (fun _ t ↦ t.Keeps env backend fresh stranded)
      (Raises env backend fresh known stranded refused) := by
  obtain ⟨w, n, e, v, h, hagrees, hhalts, hstands⟩ := h
  refine Meets.mono (h.now hclock) ?_ fun _ _ he ↦ he
  rintro reading t ⟨hle, h⟩
  exact ⟨w, reading, e, v, h, hagrees, hhalts, hstands.mono hle⟩

/-- Whether the gate supports an execution changes nothing. -/
theorem supports_keeps (h : s.Keeps env backend fresh stranded) (hclock : Monotone env.clock)
    (units : ℕ) :
    Meets (do
        let stamp ← now env
        onGate (GateState.supports units stamp)) s (fun _ t ↦ t.Keeps env backend fresh stranded)
      (Raises env backend fresh (fun _ ↦ True) stranded refused) := by
  obtain ⟨w, n, e, v, h, hagrees, hhalts, hstands⟩ := h
  apply (h.now hclock).bind
  rintro stamp t ⟨hle, h⟩
  obtain ⟨u, hserves, -, hregates⟩ := (hstands.mono hle).regate
  refine Meets.mono (h.callGate (hserves.supports units)) ?_ fun _ _ he ↦ he
  rintro _ t ⟨g, hg, h⟩
  exact ⟨w, stamp, _, v, h, hagrees, hhalts, hregates hg⟩

/-- The backend may go on without a step. -/
theorem Stands.onBackend (h : Stands backend fresh w n e v) {b : β}
    (hsteps : backend.steps b = backend.steps w.backend) (hfresh : fresh w.backend → fresh b) :
    Stands backend fresh { w with backend := b } n e v := by
  rcases h with hquiet | ⟨reference, arguments, r, hbusy⟩
  · exact .inl { hquiet with fresh := hfresh ∘ hquiet.fresh }
  · refine .inr ⟨reference, arguments, r, { hbusy with live := ?_ }⟩
    dsimp only
    rw [hsteps]
    exact hbusy.live

/-- `sample`. -/
theorem sample_keeps (h : s.Keeps env backend fresh stranded) (hlawful : backend.Lawful fresh) :
    Meets (Host.onBackend backend.sample) s (fun _ t ↦ t.Keeps env backend fresh stranded)
      (Raises env backend fresh (fun _ ↦ True) stranded refused) := by
  obtain ⟨w, n, e, v, h, hagrees, hhalts, hstands⟩ := h
  refine Meets.mono (h.onBackend (hlawful.sample w.backend)) ?_ fun _ _ he ↦ he
  rintro _ t ⟨b, ⟨hsteps, hfresh⟩, h⟩
  exact ⟨_, n, e, v, h, hagrees.assign ⟨rfl, rfl, rfl⟩, hhalts, hstands.onBackend hsteps hfresh⟩

/-- `status`. -/
private theorem status_keeps (h : s.Keeps env backend fresh stranded) :
    Meets (status env backend) s (fun _ t ↦ t.Keeps env backend fresh stranded)
      (Raises env backend fresh (fun _ ↦ True) stranded refused) := by
  unfold status
  apply (workerExited_keeps h).bind
  intro _ t h
  exact h

/-- The command `capabilities`. -/
private theorem capabilities_keeps (h : s.Keeps env backend fresh stranded)
    (hclock : Monotone env.clock) :
    Meets (capabilities env backend) s (fun _ t ↦ t.Keeps env backend fresh stranded)
      (Raises env backend fresh (fun _ ↦ True) stranded refused) := by
  unfold capabilities
  rw [Fallible.meets_self_bind]
  have hexited : Meets (if s.phase = .ready then workerExited env else pure true) s
      (fun _ t ↦ t.Keeps env backend fresh stranded)
      (Raises env backend fresh (fun _ ↦ True) stranded refused) := by
    rw [Fallible.meets_ite]
    split
    · exact workerExited_keeps h
    · exact h
  apply hexited.bind
  intro exited t h
  have hready : Meets (if exited = false then do
        let stamp ← now env
        onGate (GateState.supports 1 stamp)
      else pure false) t (fun _ t ↦ t.Keeps env backend fresh stranded)
      (Raises env backend fresh (fun _ ↦ True) stranded refused) := by
    rw [Fallible.meets_ite]
    split
    · exact supports_keeps h hclock 1
    · exact h
  apply hready.bind
  intro _ t h
  exact h

/-- A reset that the backend has refused. -/
private theorem refuseReset_keeps {b : β} (h : Knows env s { w with backend := b } n e)
    (hclock : Monotone env.clock) (hagrees : Agrees w v) (hhalts : Halts stranded w)
    (hquiet : Quiet fresh w n e v) (hphase : w.phase = .needsReset)
    (hgoes : w.failure = none ∧ w.closingAt = none ∨ w.closingAt = some 0 ∧ refused)
    (text : String) :
    Meets (do
        failWorker env backend ("backend reset error: " ++ text)
        let s ← .read id
        refuse (s.failure.getD "None")) s
      (fun (_ : HostReply) t ↦ t.Keeps env backend fresh stranded)
      (Raises env backend fresh (fun _ ↦ True) stranded refused) := by
  have hnamed : "backend reset error: " ++ text ≠ "" := by simp
  rcases hgoes with ⟨hfirst, hgoes⟩ | ⟨hzero, hrefused⟩
  · have hopen : ¬ v.closed := by
      rw [hagrees.closed, hgoes]
      simp
    apply (failWorker_rests h hclock hfirst hopen hquiet.rests _).bind
    rintro _ t ⟨m, f, -, hrests, h⟩
    rw [Fallible.meets_self_bind]
    have hagreed := hagrees.failed hnamed
    refine Keeps.refuses ⟨_, m, f, v, h, hagreed.assign ⟨rfl, rfl, rfl⟩, ?_, .inl ?_⟩ trivial
    · exact fun _ ↦ .inr (.inl rfl)
    · constructor
      · exact hrests
      · exact hquiet.prediction
      · rintro (hstarting | hready)
        · cases hstarting
        · cases hready
      · intro hstarting
        cases hstarting
      · intro hrunning
        cases hrunning
  · by_cases hfailed : w.failure.isSome = true
    · apply (failWorker_again h hfailed _).bind
      rintro _ t rfl
      rw [Fallible.meets_self_bind]
      refine Keeps.refuses ⟨_, n, e, v, h, hagrees.assign ⟨rfl, rfl, rfl⟩, hhalts,
        .inl { hquiet with fresh := ?_ }⟩ trivial
      rintro (hstarting | hready)
      · rw [hphase] at hstarting
        cases hstarting
      · rw [hphase] at hready
        cases hready
    · have hclosed : v.closed := by
        rw [hagrees.closed, hzero]
        rfl
      apply (failWorker_closed h hclock (by simpa using hfailed) hclosed hrefused
        hquiet.rests.gate _).bind
      intro _ _ hfalse
      exact hfalse.elim

/-- `reset`. -/
private theorem reset_keeps (h : s.Keeps env backend fresh stranded) (hclock : Monotone env.clock)
    (hlawful : backend.Lawful fresh) {message : Dict}
    (hrefuses : (∃ seed, readSeed backend (item message "seed") = .ok seed) → stranded → refused) :
    Meets (reset env backend message) s (fun _ t ↦ t.Keeps env backend fresh stranded)
      (Raises env backend fresh (fun _ ↦ True) stranded refused) := by
  unfold reset
  rw [Fallible.meets_self_bind, Fallible.meets_ite]
  split
  · exact h.refuses trivial
  · next hallowed =>
    rw [not_or, not_not] at hallowed
    apply (h.checked (.readSeed backend _)).bind
    rintro seed t ⟨hseed, rfl⟩
    obtain ⟨w, n, e, v, h, hagrees, hhalts, hstands⟩ := h
    rw [h.phase_eq, h.execution] at hallowed
    obtain ⟨hphase, hactive⟩ := hallowed
    have hquiet : Quiet fresh w n e v := by
      rcases hstands with hquiet | ⟨_, _, _, hbusy⟩
      · exact hquiet
      · rw [hbusy.owns.active] at hactive
        simp at hactive
    -- A host that has stopped needs a reset only after a closing at the time zero.
    have hgoes : w.failure = none ∧ w.closingAt = none ∨ w.closingAt = some 0 ∧ refused := by
      by_cases hstopped : w.failure.isSome = true ∨ w.closingAt.isSome = true
      · have hzero := hhalts hstopped
        simp only [hphase, reduceCtorEq, true_and, false_or] at hzero
        exact .inr ⟨hzero.1, hrefuses ⟨seed, hseed⟩ hzero.2⟩
      · exact .inl (by simpa using hstopped)
    apply (h.tryBackend (hlawful.reset seed w.backend)).bind
    rintro outcome t ⟨b, hfresh, h⟩
    cases outcome with
    | error text => exact refuseReset_keeps h hclock hagrees hhalts hquiet hphase hgoes text
    | ok _ =>
      dsimp only
      rcases hgoes with ⟨hfirst, hgoes⟩ | ⟨hzero, hrefused⟩
      · have hopen : ¬ v.closed := by
          rw [hagrees.closed, hgoes]
          simp
        apply (h.refreshCapability hclock hquiet.rests.gate hopen true).bind
        rintro _ t ⟨m, g, -, hg, h⟩
        refine Meets.bind (h.assign (fun w ↦ { w with fixedAction := none, phase := .ready })
          h.orderly fun _ ↦ ⟨rfl, rfl, rfl⟩) ?_
        intro _ t h
        refine ⟨_, m, _, v, h, hagrees.assign ⟨rfl, rfl, rfl⟩, ?_, .inl ?_⟩
        · intro hstopped
          simp [hfirst, hgoes] at hstopped
        · constructor
          · exact hquiet.rests.regate hg
          · exact hquiet.prediction
          · exact fun _ ↦ hfresh () rfl
          · intro hstarting
            cases hstarting
          · intro hrunning
            cases hrunning
      · have hclosed : v.closed := by
          rw [hagrees.closed, hzero]
          rfl
        apply (h.refreshCapability_closed hclock hquiet.rests.gate hclosed hrefused true).bind
        intro _ _ hfalse
        exact hfalse.elim

/-- A cancellation, which changes nothing unless the request is active. -/
private theorem cancelRecord_keeps (h : s.Keeps env backend fresh stranded)
    (hclock : Monotone env.clock)
    (reference : String) :
    Meets (do
        let affected ← cancelRecord env reference
        (if affected = true then do
          .assign fun s ↦ { s with queue := [] }
          markRevoked backend reference
        else pure ())) s (fun _ t ↦ t.Keeps env backend fresh stranded)
      (Raises env backend fresh (fun _ ↦ True) stranded refused) := by
  obtain ⟨w, n, e, v, h, hagrees, hhalts, hstands⟩ := h
  by_cases hactive : e.active = some reference
  · rcases hstands with hquiet | ⟨reference', arguments, r, hbusy⟩
    · rw [hquiet.rests.active] at hactive
      cases hactive
    · cases hbusy.owns.active.symm.trans hactive
      apply (h.cancelRecord hclock hbusy.owns hbusy.stage.2.2.2.2).bind
      rintro affected t ⟨haffected, m, f, q, -, hrevises, hrevoked, howns, h⟩
      rw [if_pos haffected]
      refine Meets.bind (h.assign (fun w ↦ { w with queue := [] }) h.orderly
        fun _ ↦ ⟨rfl, rfl, rfl⟩) ?_
      intro _ t h
      refine Meets.mono (h.markRevoked howns) ?_ fun _ _ he ↦ he
      rintro _ t ⟨f, howns, h⟩
      have hstopped := (hbusy.toBound.revise hrevises howns).stop backend
        { w with queue := [] } hrevoked rfl hbusy.phase ⟨rfl, rfl, rfl⟩
      exact ⟨_, m, f, v, h, hagrees.assign ⟨rfl, rfl, rfl⟩, hhalts, .inr ⟨_, _, q, hstopped⟩⟩
  · have hspared : Meets (ExecutionCoordinator.cancel reference 0) e
        (fun affected f ↦ affected = false ∧ f = e)
        fun failure f ↦ (∃ text, failure = .valueError text) ∧ f = e := by
      unfold ExecutionCoordinator.cancel ExecutionCoordinator.retained
      rw [Fallible.meets_bind, Fallible.meets_read_bind]
      cases e.records.get? reference with
      | none => exact ⟨⟨_, rfl⟩, rfl⟩
      | some record =>
        dsimp only
        rw [Fallible.meets_pure, Fallible.meets_read_bind, if_pos hactive]
        exact ⟨rfl, rfl⟩
    have hkeeps {t : Host β} (h : Knows env t w n e) : t.Keeps env backend fresh stranded :=
      ⟨w, n, e, v, h, hagrees, hhalts, hstands⟩
    rw [Fallible.meets_bind]
    unfold cancelRecord
    rw [Fallible.meets_read_bind, h.execution, if_neg hactive, Fallible.meets_bind,
      Fallible.meets_pure]
    refine Meets.mono (h.callRaising hspared) ?_ ?_
    · rintro affected t ⟨f, ⟨rfl, hsame⟩, ht⟩
      subst hsame
      exact hkeeps ht
    · rintro _ t ⟨_, f, rfl, ⟨⟨text, rfl⟩, hsame⟩, ht⟩
      subst hsame
      exact (hkeeps ht).refuses trivial

/-- A record is looked up. -/
private theorem lookup_keeps (h : s.Keeps env backend fresh stranded) (reference : String) :
    Meets (onExecution (ExecutionCoordinator.lookup reference)) s
      (fun _ t ↦ t.Keeps env backend fresh stranded)
      (Raises env backend fresh (fun _ ↦ True) stranded refused) := by
  obtain ⟨w, n, e, v, h, hkept⟩ := h
  have hreads : Meets (ExecutionCoordinator.lookup reference) e (fun _ f ↦ f = e)
      fun failure f ↦ failure = .keyError reference ∧ f = e := by
    unfold ExecutionCoordinator.lookup
    rw [Fallible.meets_read_bind]
    cases e.records.get? reference with
    | none => exact ⟨rfl, rfl⟩
    | some record => rfl
  refine Meets.mono (h.callRaising hreads) ?_ ?_
  · rintro _ t ⟨f, hsame, ht⟩
    subst hsame
    exact ⟨w, n, f, v, ht, hkept⟩
  · rintro _ t ⟨_, f, rfl, ⟨rfl, hsame⟩, ht⟩
    subst hsame
    apply Keeps.raises ⟨w, n, f, v, ht, hkept⟩ trivial
    intro d heq
    cases heq

/-- `cancel`. -/
private theorem cancel_keeps (h : s.Keeps env backend fresh stranded) (hclock : Monotone env.clock)
    (message : Dict) :
    Meets (cancel env backend message) s (fun _ t ↦ t.Keeps env backend fresh stranded)
      (Raises env backend fresh (fun _ ↦ True) stranded refused) := by
  unfold cancel
  apply (h.checked (.identifier _ _)).bind
  rintro reference t ⟨-, rfl⟩
  apply (lookup_keeps h reference).bind
  intro _ t h
  have hcancelled : Meets _ t _ (Raises env backend fresh (fun _ ↦ True) stranded refused) :=
    cancelRecord_keeps h hclock reference
  rw [Fallible.meets_bind] at hcancelled
  apply hcancelled.bind
  intro _ t h
  apply Meets.bind h
  intro _ t h
  exact snapshot_keeps h reference

/-- The result of a command. -/
private theorem perform_keeps (h : s.Keeps env backend fresh stranded) (hclock : Monotone env.clock)
    (hlawful : backend.Lawful fresh) (message : Dict)
    (hrefuses : Dict.get? message "command" = some (.string "reset") →
      (∃ seed, readSeed backend (item message "seed") = .ok seed) → stranded → refused) :
    Meets (perform env backend message) s (fun _ t ↦ t.Keeps env backend fresh stranded)
      (Raises env backend fresh (fun _ ↦ True) stranded refused) := by
  unfold perform
  split
  · split
    · exact status_keeps h
    · apply (h.checked (.identifier _ _)).bind
      rintro reference t ⟨-, rfl⟩
      exact snapshot_keeps h reference
  · apply (sample_keeps h hlawful).bind
    intro _ t h
    exact h
  · exact capabilities_keeps h hclock
  · exact submit_keeps h hclock hlawful message
  · next hreset => exact reset_keeps h hclock hlawful (hrefuses hreset)
  · exact cancel_keeps h hclock message
  · exact h.refuses trivial

/-- The result of a command is queued. -/
theorem reply_keeps (h : s.Keeps env backend fresh stranded) (rpc : ℕ)
    (content : Except String HostReply) :
    Meets (reply env rpc content) s (fun _ t ↦ t.Keeps env backend fresh stranded)
      (Raises env backend fresh (fun _ ↦ True) stranded refused) := by
  unfold reply
  apply (queueMessage_keeps h).bind
  intro _ t h
  exact assign_keeps h fun _ ↦ ⟨rfl, rfl, rfl⟩

/-- `command`. -/
theorem command_keeps (h : s.Keeps env backend fresh stranded) (hclock : Monotone env.clock)
    (hlawful : backend.Lawful fresh) (message : Dict)
    (hrefuses : backend.Resets message → stranded → refused) :
    Meets (command env backend message) s (fun _ t ↦ t.Keeps env backend fresh stranded)
      (Raises env backend fresh (fun _ ↦ True) stranded refused) := by
  unfold command
  apply (h.checked (.integer _ _ _ _)).bind
  rintro rpc t ⟨hrpc, rfl⟩
  rw [Fallible.meets_ite]
  split
  · refine Meets.bind (assign_keeps h fun _ ↦ ⟨rfl, rfl, rfl⟩) ?_
    intro _ t h
    exact beginClose_keeps h hclock
  · rw [Fallible.meets_catching]
    have hanswered := (perform_keeps h hclock hlawful message fun hreset hseed ↦
      hrefuses ⟨hreset, ⟨rpc, hrpc⟩, hseed⟩).bind
      (k := fun result ↦ reply env rpc (.ok result)) fun _ t h ↦ reply_keeps h rpc _
    refine Meets.mono hanswered (fun _ _ h ↦ h) ?_
    intro error t hraised
    split
    · next hrequest => exact reply_keeps (hraised.handled (.inl hrequest)).1 rpc _
    · exact hraised

end Host

end RobotHarness.Python
