import RobotHarness.Core.Delivery
import RobotHarness.Sample.Moves

/-!
# Sound sample hosts

What holds of every sample host and rests on no account of its events: the clock has been read,
the gate is coherent and knows no later time, and the host remembers the current operation.
-/

namespace RobotHarness.Sample

open SampleProgram (nativeEvent resultReference operationRequest)

/-- What holds of every sample host. -/
structure Sound (clock : ℕ → MonotonicTime) (h : SampleHost) : Prop where
  timed : Timed clock h
  config : h.gate.config = { sampleConfig (clock 0) with binding := h.gate.config.binding }
  coherent : h.gate.Coherent
  bounded : h.gate.Bounded h.lastTime lastSequence
  stamped : h.gate.WithdrawalStamped
  current : h.currentAuthority = h.gate.currentReceipt.map OperationReceipt.authority
  staged : ∀ event ∈ h.stagedEvents, event.observedAt ≤ h.lastTime

/-- A record is bounded by its time. -/
theorem bounded_of_le {record : EvidenceRecord} {time : MonotonicTime}
    (h : record.observedAt ≤ time) : record.Bounded time lastSequence :=
  ⟨h, by unfold lastSequence; grind⟩

/-- The report of an event is bounded by the time of the event. -/
theorem StagedEvent.report_bounded {event : StagedEvent} {c : Call} {time : MonotonicTime}
    (h : event.report = some c) (htime : event.observedAt ≤ time) :
    c.Bounded time lastSequence ∧ ∀ request, c ≠ .admitRequest request := by
  obtain ⟨⟨kind, authority, identity, sequence, result⟩, observedAt⟩ := event
  cases kind <;> cases h <;> exact ⟨bounded_of_le htime, nofun⟩

/-- The report of a result is bounded by its time. -/
theorem deliveryReport_bounded {authority : OperationAuthority} {time bound : MonotonicTime}
    {acceptance : ResultAcceptance} {c : Call}
    (h : deliveryReport authority time acceptance = some c) (htime : time ≤ bound) :
    c.Bounded bound lastSequence ∧ ∀ request, c ≠ .admitRequest request := by
  cases acceptance <;> cases h <;> exact ⟨bounded_of_le htime, nofun⟩

namespace Sound

variable {clock : ℕ → MonotonicTime} {h t : SampleHost}

/-- What keeps the gate, the readings, the current operation and the staged events. -/
theorem of_eq (hs : Sound clock h) (hgate : t.gate = h.gate)
    (hread : t.hasReadTime = h.hasReadTime) (htime : t.lastTime = h.lastTime)
    (hreadings : t.readings = h.readings) (hcurrent : t.currentAuthority = h.currentAuthority)
    (hstaged : ∀ event ∈ t.stagedEvents, event ∈ h.stagedEvents) : Sound clock t where
  timed := hs.timed.of_eq hread htime hreadings
  config := by
    rw [hgate]
    exact hs.config
  coherent := hgate ▸ hs.coherent
  bounded := by
    rw [hgate, htime]
    exact hs.bounded
  stamped := hgate ▸ hs.stamped
  current := by
    rw [hgate, hcurrent]
    exact hs.current
  staged := fun event hevent ↦ htime ▸ hs.staged event (hstaged event hevent)

/-- A reading of the clock leaves the host sound. -/
theorem reading (hclock : Monotone clock) (hs : Sound clock h) : Sound clock (h.reading clock) :=
  have htime : h.lastTime ≤ clock h.readings := hs.timed.ahead _ le_rfl
  { hs with
    timed := .reading hclock
    bounded := hs.bounded.mono htime le_rfl
    staged := fun event hevent ↦ (hs.staged event hevent).trans htime }

/-- A call that admits nothing and is bounded keeps a host sound. -/
theorem through (hs : Sound clock h) {c : Call} (bounded : c.Bounded h.lastTime lastSequence)
    (hadmits : ∀ request, c ≠ .admitRequest request) : Sound clock (h.through c) :=
  have hstep : Transition h.gate c (h.gate.call c).1 (h.gate.call c).2 := gate_transition h.gate c
  { hs with
    timed := hs.timed.of_eq rfl rfl rfl
    config := by
      have hconfig := hstep.config_eq_withBinding
      rw [hs.config] at hconfig
      exact hconfig
    coherent := hstep.coherent hs.coherent
    bounded := hstep.bounded hs.bounded bounded
    stamped := hstep.withdrawalStamped hs.coherent hs.stamped
    current := hs.current.trans (hstep.authority_eq hadmits).symm }

/-- An emission leaves the host sound. -/
theorem emitted (hclock : Monotone clock) (hs : Sound clock h) (work : WorkItem) (e : Emission) :
    Sound clock (h.emitted clock work e) := by
  unfold SampleHost.emitted
  split
  · exact hs
  · split
    · have hr := hs.reading hclock
      exact
        { hr with
          timed := hr.timed.of_eq rfl rfl rfl
          staged := by
            intro event hevent
            rcases List.mem_append.mp hevent with hevent | hevent
            · exact hr.staged event hevent
            · rw [List.mem_singleton.mp hevent]
              exact le_refl (clock h.readings) }
    · exact hs

private theorem emittedAll (hclock : Monotone clock) (hs : Sound clock h) (work : WorkItem)
    (script : List Emission) : Sound clock (h.emittedAll clock work script) := by
  induction script generalizing h with
  | nil => exact hs
  | cons e script ih => exact ih (hs.emitted hclock work e)

/-- The host gives its prepared operation up. -/
theorem unsubmitted (hclock : Monotone clock) (hs : Sound clock h) (work : WorkItem) :
    Sound clock (h.unsubmitted clock work) :=
  (hs.of_eq rfl rfl rfl rfl rfl fun _ ↦ id : Sound clock
    { h with preparedRequest := none, preparedAuthority := none }).emittedAll hclock work _

/-- A quiet move keeps a host sound. -/
theorem quiet (hclock : Monotone clock) (move : Quiet clock h t) (hs : Sound clock h) :
    Sound clock t := by
  cases move with
  | read => exact hs.reading hclock
  | control kind bounded =>
    exact hs.through bounded (by rintro request rfl; exact kind)
  | refuse refused => exact hs.of_eq refused rfl rfl rfl rfl fun _ ↦ id
  | count => exact hs.of_eq rfl rfl rfl rfl rfl fun _ ↦ id
  | stop => exact hs.of_eq rfl rfl rfl rfl rfl fun _ ↦ id
  | discard => exact hs.unsubmitted hclock _

/-- The event that is staged first may go. -/
theorem popped (hs : Sound clock h) : Sound clock h.popped :=
  hs.of_eq rfl rfl rfl rfl rfl fun _ ↦ List.mem_of_mem_tail

/-- A pass over the staged events keeps a host sound. -/
theorem pass (hclock : Monotone clock) (move : Pass clock h t) (hs : Sound clock h) :
    Sound clock t := by
  cases move with
  | quiet move => exact hs.quiet hclock move
  | @report event rest c staged reports =>
    obtain ⟨hbounded, hadmits⟩ := StagedEvent.report_bounded reports
      (hs.staged event (staged ▸ List.mem_cons_self))
    exact hs.popped.through hbounded hadmits
  | deliver staged kind carries looked =>
    unfold SampleHost.delivered SampleHost.throughAll
    generalize h.popped.adapter.acceptResult _ _ _ = answered
    have hpopped : Sound clock { h.popped with adapter := answered.2 } :=
      hs.popped.of_eq rfl rfl rfl rfl rfl fun _ ↦ id
    dsimp only
    cases hcall : deliveryReport _ _ answered.1 with
    | none => exact hpopped
    | some c =>
      obtain ⟨hbounded, hadmits⟩ := deliveryReport_bounded hcall looked.reached
      exact hpopped.through hbounded hadmits
  | drop => exact hs.popped
  | settle staged kind looked =>
    exact hs.popped.through (bounded_of_le looked.reached) nofun

/-- Finishing work keeps a host sound. -/
theorem finished (hclock : Monotone clock) (hs : Sound clock h) (work : WorkItem) :
    Sound clock (h.finished clock work) := by
  refine Sound.emittedAll hclock ?_ _ _
  exact hs.of_eq rfl rfl rfl rfl rfl fun _ ↦ id

/-- Submitting work keeps a host sound. -/
theorem submitted (hclock : Monotone clock) (hs : Sound clock h) (work : WorkItem) :
    Sound clock (h.submitted clock work) := by
  unfold SampleHost.submitted
  split
  · refine Sound.emittedAll hclock ?_ _ _
    exact hs.of_eq rfl rfl rfl rfl rfl fun _ ↦ id
  · have haccepted := hs.emitted hclock work ⟨.accepted, 1, none⟩
    dsimp only
    split
    · exact haccepted.finished hclock work
    · exact haccepted.of_eq rfl rfl rfl rfl rfl fun _ ↦ id

/-- Claiming a dispatch keeps a host sound. -/
theorem claimed (hs : Sound clock h) {time : MonotonicTime} (reached : time ≤ h.lastTime)
    (authority : OperationAuthority) : Sound clock (h.claimed authority time) :=
  (hs.through (c := .claimDispatch authority time) reached nofun).of_eq rfl rfl rfl rfl rfl
    fun _ ↦ id

/-- A move of a call keeps a host sound. -/
theorem move (hclock : Monotone clock) (step : Move clock h t) (hs : Sound clock h) :
    Sound clock t := by
  cases step with
  | pass step => exact hs.pass hclock step
  | adapt => exact hs.of_eq rfl rfl rfl rfl rfl fun _ ↦ id
  | @admits request time valid reached guard admitted =>
    have hstep : Transition h.gate (.admitRequest (operationRequest request time))
        (h.gate.call (.admitRequest (operationRequest request time))).1
        (h.gate.call (.admitRequest (operationRequest request time))).2 :=
      gate_transition h.gate _
    exact
      { hs with
        timed := hs.timed.of_eq rfl rfl rfl
        config := by
          have hconfig := hstep.config_eq_withBinding
          rw [hs.config] at hconfig
          exact hconfig
        coherent := hstep.coherent hs.coherent
        bounded := hstep.bounded hs.bounded reached
        stamped := hstep.withdrawalStamped hs.coherent hs.stamped
        current := by
          unfold SampleHost.through
          dsimp only
          rw [admitted]
          rfl }
  | submit prepared requested idle reached => exact (hs.claimed reached _).submitted hclock _
  | finish =>
    refine Sound.finished hclock ?_ _
    exact hs.of_eq rfl rfl rfl rfl rfl fun _ ↦ id
  | replay =>
    have hr := hs.reading hclock
    exact
      { hr with
        timed := hr.timed.of_eq rfl rfl rfl
        staged := by
          intro event hevent
          rcases List.mem_cons.mp hevent with rfl | hevent
          · exact le_refl (clock h.readings)
          · exact hr.staged event hevent }
  | replace => exact hs.of_eq rfl rfl rfl rfl rfl fun _ ↦ id
  | close => exact hs.of_eq rfl rfl rfl rfl rfl fun _ ↦ id

end Sound

end RobotHarness.Sample
