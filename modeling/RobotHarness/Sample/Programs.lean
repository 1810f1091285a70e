import RobotHarness.Core.Binding
import RobotHarness.Sample.Sound

/-!
# The programs of the sample host, as moves

Every program of the host returns when the clock does not go back, and takes the host along the
moves of its kind. An event that is taken off the queue, and a prepared operation that is taken
out of its slot, are put back in thought until the move that they belong to.
-/

namespace RobotHarness.Sample

open Relation (ReflTransGen)
open Fallible (Reaches)
open SampleProgram (operationRequest passes)

variable {clock : ℕ → MonotonicTime} {h t : SampleHost}

/-! ### Quiet moves -/

/-- Quiet moves keep a host sound. -/
theorem Sound.quietly (hclock : Monotone clock) (hs : Sound clock h)
    (moves : ReflTransGen (Quiet clock) h t) : Sound clock t :=
  Fallible.holds_along (fun _ _ move hs ↦ hs.quiet hclock move) moves hs

/-- A pass over the staged events keeps a host sound, move by move. -/
theorem Sound.passed (hclock : Monotone clock) (hs : Sound clock h)
    (moves : ReflTransGen (Pass clock) h t) : Sound clock t :=
  Fallible.holds_along (fun _ _ move hs ↦ hs.pass hclock move) moves hs

/-- Moves keep a host sound. -/
theorem Sound.moved (hclock : Monotone clock) (hs : Sound clock h)
    (moves : ReflTransGen (Move clock) h t) : Sound clock t :=
  Fallible.holds_along (fun _ _ move hs ↦ hs.move hclock move) moves hs

/-- What the events of a script leave alone. -/
theorem SampleHost.Emits.kept {work : WorkItem} {script : List Emission}
    (emits : SampleHost.Emits work script h t) :
    t.gate = h.gate ∧ t.preparedAuthority = h.preparedAuthority ∧
      t.preparedRequest = h.preparedRequest ∧ t.adapter.pendingWork = h.adapter.pendingWork ∧
      t.isShutdown = h.isShutdown := by
  rw [emits.frame]
  exact ⟨rfl, rfl, rfl, rfl, rfl⟩

namespace Quiet

/-- A quiet move keeps what is not pending so. -/
theorem idle (move : Quiet clock h t) (hidle : h.adapter.pendingWork = none) :
    t.adapter.pendingWork = none := by
  cases move with
  | stop =>
    unfold SampleAdapter.requestStop
    simp only [hidle]
  | discard =>
    exact ((SampleHost.emits_emittedAll clock _ _ _).kept.2.2.2.1).trans hidle
  | read | control | refuse | count => exact hidle

/-- A quiet move prepares no operation. -/
theorem unprepared (move : Quiet clock h t) (hnone : h.preparedAuthority = none) :
    t.preparedAuthority = none ∧ t.preparedRequest = h.preparedRequest := by
  cases move with
  | discard prepared => rw [hnone] at prepared; cases prepared
  | read | control | refuse | count | stop => exact ⟨hnone, rfl⟩

/-- A quiet move counts no event that it does not stage. -/
theorem passes_le (move : Quiet clock h t) : passes t ≤ passes h := by
  cases move with
  | @discard work prepared =>
    have hemits := SampleHost.emits_emittedAll clock work unsubmittedScript
      { h with preparedRequest := none, preparedAuthority := none }
    have hprepared := hemits.kept.2.1
    obtain ⟨events, hstaged, hlength, -⟩ := hemits.staged
    unfold SampleHost.unsubmitted SampleProgram.passes
    rw [hprepared, hstaged, prepared, List.length_append]
    have hthree : events.length ≤ 3 := hlength
    simpa using hthree
  | read | control | refuse | count | stop => exact le_refl _

/-- An event that is put back before the move is there after it. -/
theorem put_back (move : Quiet clock h t) (event : StagedEvent) :
    Quiet clock { h with stagedEvents := event :: h.stagedEvents }
      { t with stagedEvents := event :: t.stagedEvents } := by
  cases move with
  | read => exact .read
  | control kind bounded => exact .control kind bounded
  | refuse refused => exact .refuse refused
  | count => exact .count
  | stop => exact .stop
  | @discard work prepared =>
    have hcommutes : ∀ (script : List Emission) (h : SampleHost),
        SampleHost.emittedAll clock work script
            { h with stagedEvents := event :: h.stagedEvents } =
          { h.emittedAll clock work script with
            stagedEvents := event :: (h.emittedAll clock work script).stagedEvents } := by
      intro script
      induction script with
      | nil => exact fun _ ↦ rfl
      | cons e script ih =>
        intro h
        have hone : SampleHost.emitted clock work
            { h with stagedEvents := event :: h.stagedEvents } e =
            { h.emitted clock work e with
              stagedEvents := event :: (h.emitted clock work e).stagedEvents } := by
          simp only [SampleHost.emitted]
          split
          · rfl
          · split <;> rfl
        exact (congrArg (SampleHost.emittedAll clock work script) hone).trans (ih _)
    have hdiscard : Quiet clock { h with stagedEvents := event :: h.stagedEvents }
        (SampleHost.unsubmitted clock work
          { h with stagedEvents := event :: h.stagedEvents }) := .discard prepared
    unfold SampleHost.unsubmitted at hdiscard ⊢
    rwa [hcommutes unsubmittedScript
      { h with preparedRequest := none, preparedAuthority := none }] at hdiscard

/-- An operation that is put back before a move without one is there after it. -/
theorem prepare_back (move : Quiet clock h t) (hnone : h.preparedAuthority = none)
    (authority : OperationAuthority) (request : SampleRequest) :
    Quiet clock
      { h with preparedAuthority := some authority, preparedRequest := some request }
      { t with preparedAuthority := some authority, preparedRequest := some request } := by
  cases move with
  | discard prepared => rw [hnone] at prepared; cases prepared
  | read => exact .read
  | control kind bounded => exact .control kind bounded
  | refuse refused => exact .refuse refused
  | count => exact .count
  | stop => exact .stop

end Quiet

/-- Quiet moves, with an event put back. -/
theorem quietly_put_back (moves : ReflTransGen (Quiet clock) h t) (event : StagedEvent) :
    ReflTransGen (Quiet clock) { h with stagedEvents := event :: h.stagedEvents }
      { t with stagedEvents := event :: t.stagedEvents } := by
  induction moves with
  | refl => exact .refl
  | tail _ move ih => exact ih.tail (move.put_back event)

/-- Quiet moves without a prepared operation, with one put back. -/
theorem quietly_prepare_back (moves : ReflTransGen (Quiet clock) h t)
    (hnone : h.preparedAuthority = none ∧ h.preparedRequest = none)
    (authority : OperationAuthority) (request : SampleRequest) :
    (t.preparedAuthority = none ∧ t.preparedRequest = none) ∧
      ReflTransGen (Quiet clock)
        { h with preparedAuthority := some authority, preparedRequest := some request }
        { t with preparedAuthority := some authority, preparedRequest := some request } := by
  induction moves with
  | refl => exact ⟨hnone, .refl⟩
  | tail _ move ih =>
    obtain ⟨⟨hprepared, hrequested⟩, moves⟩ := ih
    obtain ⟨hprepared', hrequested'⟩ := move.unprepared hprepared
    exact ⟨⟨hprepared', hrequested'.trans hrequested⟩,
      moves.tail (move.prepare_back hprepared authority request)⟩

/-- Quiet moves keep what is not pending so. -/
theorem quietly_idle (moves : ReflTransGen (Quiet clock) h t)
    (hidle : h.adapter.pendingWork = none) : t.adapter.pendingWork = none :=
  Fallible.holds_along (P := fun t ↦ t.adapter.pendingWork = none) (fun _ _ move ↦ move.idle) moves
    hidle

/-- Quiet moves count no event that they do not stage. -/
theorem quietly_passes_le (moves : ReflTransGen (Quiet clock) h t) : passes t ≤ passes h :=
  Fallible.holds_along (P := fun t ↦ passes t ≤ passes h)
    (fun _ _ move ih ↦ move.passes_le.trans ih) moves le_rfl

/-- Nothing is pending or prepared, and the gate is closed. -/
structure Closing (h : SampleHost) : Prop where
  closed : h.gate.bindingPhase = .closed
  idle : h.adapter.pendingWork = none
  unprepared : h.preparedAuthority = none

/-- A closed gate stays closed, whatever it is called with. -/
private theorem closed_through (c : Call) (hclosed : h.gate.bindingPhase = .closed) :
    (h.through c).gate.bindingPhase = .closed :=
  (gate_transition h.gate c).closed hclosed

/-- A quiet move of a host that is closing. -/
theorem Quiet.closing (move : Quiet clock h t) (hclosing : Closing h) : Closing t where
  closed := by
    cases move with
    | control | refuse => exact closed_through _ hclosing.closed
    | discard prepared => rw [hclosing.unprepared] at prepared; cases prepared
    | read | count | stop => exact hclosing.closed
  idle := move.idle hclosing.idle
  unprepared := (move.unprepared hclosing.unprepared).1

/-- A delivery leaves pending work and the prepared operation alone. -/
theorem delivered_kept (h : SampleHost) (authority : OperationAuthority) (result : SampleResult)
    (time : MonotonicTime) :
    (h.delivered authority result time).stagedEvents = h.stagedEvents ∧
      (h.delivered authority result time).preparedAuthority = h.preparedAuthority ∧
      (h.delivered authority result time).adapter.pendingWork = h.adapter.pendingWork := by
  have hadapter : ∀ permitted,
      (h.adapter.acceptResult authority result permitted).2.pendingWork =
        h.adapter.pendingWork := by
    intro permitted
    unfold SampleAdapter.acceptResult
    split
    · rfl
    · split
      · rfl
      · split <;> rfl
  unfold SampleHost.delivered SampleHost.throughAll
  dsimp only
  cases deliveryReport _ _ _ <;> exact ⟨rfl, rfl, hadapter _⟩

/-- A pass of a host that is closing. -/
theorem Pass.closing (pass : Pass clock h t) (hclosing : Closing h) : Closing t := by
  cases pass with
  | quiet move => exact move.closing hclosing
  | report | settle =>
    exact ⟨closed_through (h := h.popped) _ hclosing.closed, hclosing.idle, hclosing.unprepared⟩
  | drop => exact ⟨hclosing.closed, hclosing.idle, hclosing.unprepared⟩
  | @deliver event rest time staged kind result =>
    obtain ⟨-, hprepared, hpending⟩ :=
      delivered_kept h.popped event.callback.authority result time
    refine ⟨?_, hpending.trans hclosing.idle, hprepared.trans hclosing.unprepared⟩
    unfold SampleHost.delivered SampleHost.throughAll
    dsimp only
    cases deliveryReport _ _ _ with
    | none => exact hclosing.closed
    | some c => exact closed_through (h := { h.popped with adapter := _ }) c hclosing.closed

/-- The events of a script leave the current operation alone. -/
theorem emittedAll_current (work : WorkItem) (script : List Emission) (h : SampleHost) :
    (h.emittedAll clock work script).currentAuthority = h.currentAuthority := by
  rw [(SampleHost.emits_emittedAll clock work script h).frame]

/-- Quiet moves leave the current operation alone. -/
theorem quietly_current (moves : ReflTransGen (Quiet clock) h t) :
    t.currentAuthority = h.currentAuthority := by
  refine Fallible.holds_along (P := fun t ↦ t.currentAuthority = h.currentAuthority)
    (fun s t move hs ↦ Eq.trans ?_ hs) moves rfl
  cases move with
  | discard => exact emittedAll_current _ _ _
  | read | control | refuse | count | stop => rfl

/-- Passes over the staged events leave the current operation alone. -/
theorem passed_current (moves : ReflTransGen (Pass clock) h t) :
    t.currentAuthority = h.currentAuthority := by
  refine Fallible.holds_along (P := fun t ↦ t.currentAuthority = h.currentAuthority)
    (fun s t move hs ↦ Eq.trans ?_ hs) moves rfl
  cases move with
  | quiet move => exact quietly_current (.single move)
  | report | drop | settle => rfl
  | deliver =>
    unfold SampleHost.delivered SampleHost.throughAll
    dsimp only
    cases deliveryReport _ _ _ <;> rfl

/-! ### Looking at the deadline -/

/-- A stop response is all that its report adds to the receipt. -/
theorem acknowledged_cases {s s' : AuthorityGate} {a : Answer}
    {evidence : StopAcknowledgementEvidence}
    (step : Transition s (.observeStopAcknowledgement evidence) a s') :
    ∀ r ∈ s'.currentReceipt, ∃ q ∈ s.currentReceipt, r = q ∨ r = q.acknowledgeStop evidence := by
  intro r hr
  cases step.receiptEffect with
  | kept hkept => exact ⟨r, hkept ▸ hr, .inl rfl⟩
  | admitted call => cases call
  | changed present _ change after =>
    cases after.symm.trans hr
    cases change with
    | operation step =>
      cases step with
      | acknowledge => exact ⟨_, present, .inr rfl⟩

namespace SampleHost.Looked

variable {time : MonotonicTime}

/-- What keeps the gate keeps that it was looked at. -/
theorem of_gate (looked : h.Looked time) (hgate : t.gate = h.gate)
    (htime : h.lastTime ≤ t.lastTime) : t.Looked time where
  reached := looked.reached.trans htime
  effects := hgate ▸ looked.effects
  revoked := hgate ▸ looked.revoked
  due := hgate ▸ looked.due

/-- A stop response keeps that the deadline was looked at. -/
theorem acknowledged (looked : h.Looked time) (evidence : StopAcknowledgementEvidence) :
    (h.through (.observeStopAcknowledgement evidence)).Looked time := by
  have hreceipts : ∀ r ∈ (h.through (.observeStopAcknowledgement evidence)).gate.currentReceipt,
      ∃ q ∈ h.gate.currentReceipt, r = q ∨ r = q.acknowledgeStop evidence :=
    acknowledged_cases (gate_transition h.gate (.observeStopAcknowledgement evidence))
  refine ⟨looked.reached, fun r hr ↦ ?_, fun r hr ↦ ?_, fun r hr ↦ ?_⟩ <;>
    obtain ⟨q, hq, rfl | rfl⟩ := hreceipts r hr
  · exact looked.effects _ hq
  · exact looked.effects q hq
  · exact looked.revoked _ hq
  · exact looked.revoked q hq
  · exact looked.due _ hq
  · exact looked.due q hq

end SampleHost.Looked

/-- Looking at the deadline of the current operation, at the time of the last reading. -/
theorem Sound.looked (hs : Sound clock h) {authority : OperationAuthority}
    (hcurrent : h.currentAuthority = some authority) :
    (h.through (.observeTime authority h.lastTime)).Looked h.lastTime := by
  have hsound := hs.through (c := .observeTime authority h.lastTime) (le_refl h.lastTime) nofun
  have hauthority : ∀ r ∈ (h.through (.observeTime authority h.lastTime)).gate.currentReceipt,
      r.authority = authority := by
    intro r hr
    have hsame := hsound.current.symm.trans hcurrent
    rw [Option.mem_def.mp hr] at hsame
    exact Option.some.inj hsame
  refine ⟨le_refl h.lastTime, fun r hr ↦ ?_, fun r hr hrevoked ↦ ?_, fun r hr hpending hdue ↦ ?_⟩
  · exact (hsound.bounded.receipt r hr).latestEffectTime_le
  · obtain ⟨⟨-, -, hcancelled, hexpired, hwithdrawn, -⟩, -⟩ :=
      OperationReceipt.bounded_iff.mp (hsound.bounded.receipt r hr)
    rcases hrevoked with hsome | hsome | hsome <;>
      obtain ⟨at_, hat⟩ := Option.isSome_iff_exists.mp hsome
    · exact .inl ⟨at_, hat, hcancelled at_ hat⟩
    · exact .inr (.inl ⟨at_, hat, hexpired at_ hat⟩)
    · exact .inr (.inr ⟨at_, hat, hwithdrawn at_ hat⟩)
  · have hbound : r.authority.binding = h.gate.config.binding := by
      by_contra hne
      refine AuthorityGate.Coherent.output_of_releasable (hsound.coherent.superseded r hr ?_)
        hpending
      intro hbound
      exact hne (hbound.trans
        (congrArg _ (h.gate.config_observeTime authority h.lastTime)))
    have hauth := hauthority r hr
    subst hauth
    exact hs.coherent.revoked_of_due hs.bounded hr hbound hpending hdue

/-- Without a current operation there is no deadline. -/
theorem Sound.looked_none (hs : Sound clock h) (hnone : h.currentAuthority = none) :
    h.Looked h.lastTime := by
  have habsent : h.gate.currentReceipt = none := by
    have := hs.current.symm.trans hnone
    exact Option.map_eq_none_iff.mp this
  refine ⟨le_rfl, ?_, ?_, ?_⟩ <;> rw [habsent] <;> intro r hr <;> cases hr

/-! ### The programs of a poll -/

namespace SampleProgram

private theorem readTime_reaches (hs : Sound clock h) :
    Reaches (Quiet clock) (readTime clock) h fun now t ↦
      now = t.lastTime ∧ t = h.reading clock :=
  .step (readTime_eq hs.timed) .read ⟨rfl, rfl⟩

/-- A call of the gate that controls it. -/
theorem onGate_reaches {α : Type} {f : AuthorityGate → α × AuthorityGate} {c : Call}
    (hcall : (f h.gate).2 = (h.gate.call c).2) (kind : IsQuiet c)
    (bounded : c.Bounded h.lastTime lastSequence) :
    Reaches (Quiet clock) (onGate f) h fun a t ↦ a = (f h.gate).1 ∧ t = h.through c := by
  refine .step (t := h.through c) ?_ (.control kind bounded) ⟨rfl, rfl⟩
  unfold onGate SampleHost.through
  rw [hcall]

private theorem discardPrepared_reaches (hclock : Monotone clock) (hs : Sound clock h) :
    Reaches (Quiet clock) (discardPrepared clock) h fun _ t ↦
      t.preparedAuthority = none ∧ t.gate = h.gate ∧
        (h.adapter.pendingWork = none → t.adapter.pendingWork = none) := by
  refine .read_bind ?_
  cases hprepared : h.preparedAuthority with
  | none => exact .pure ⟨hprepared, rfl, id⟩
  | some authority =>
    have hs' : Sound clock { h with preparedRequest := none, preparedAuthority := none } :=
      hs.of_eq rfl rfl rfl rfl rfl fun _ ↦ id
    have hkept := (SampleHost.emits_emittedAll clock ⟨authority, ⟨"", [], none⟩, "", false⟩
      unsubmittedScript { h with preparedRequest := none, preparedAuthority := none }).kept
    exact .step (t := h.unsubmitted clock ⟨authority, ⟨"", [], none⟩, "", false⟩)
      (emitNotSubmitted_eq hclock hs'.timed _) (.discard hprepared)
      ⟨hkept.2.1, hkept.1, fun hidle ↦ hkept.2.2.2.1.trans hidle⟩

private theorem requestNativeStop_reaches (hs : Sound clock h) (authority : OperationAuthority) :
    Reaches (Quiet clock) (requestNativeStop clock authority) h fun _ t ↦
      ∀ time, h.Looked time → t.Looked time := by
  have hstopped : Reaches (Quiet clock) (onAdapter (·.requestStop authority)) h fun _ t ↦
      t = { h with adapter := (h.adapter.requestStop authority).2 } := .step rfl .stop rfl
  refine hstopped.bind ?_
  rintro (_ | acknowledgement) t - rfl
  · exact .pure fun time looked ↦ looked.of_gate rfl le_rfl
  · have hs' : Sound clock { h with adapter := (h.adapter.requestStop authority).2 } :=
      hs.of_eq rfl rfl rfl rfl rfl fun _ ↦ id
    refine (readTime_reaches hs').bind ?_
    rintro now t - ⟨rfl, rfl⟩
    refine (onGate_reaches (c := .observeStopAcknowledgement _) rfl trivial
      (bounded_of_le le_rfl)).bind ?_
    rintro _ t - ⟨-, rfl⟩
    exact .pure fun time looked ↦
      (looked.of_gate (t := SampleHost.reading clock
        { h with adapter := (h.adapter.requestStop authority).2 }) rfl
        (hs.timed.ahead _ le_rfl)).acknowledged _

/-- Quiet moves do not put the clock back. -/
theorem lastTime_le (hclock : Monotone clock) (hs : Sound clock h)
    (moves : ReflTransGen (Quiet clock) h t) : h.lastTime ≤ t.lastTime := by
  induction moves with
  | refl => exact le_refl _
  | @tail u t moves move ih =>
    refine ih.trans ?_
    have hu := hs.quietly hclock moves
    cases move with
    | read => exact hu.timed.ahead _ le_rfl
    | control | refuse | count | stop => exact le_refl _
    | @discard work =>
      have hlater : ∀ (script : List Emission) (h : SampleHost), Sound clock h →
          h.lastTime ≤ (h.emittedAll clock work script).lastTime := by
        intro script
        induction script with
        | nil => exact fun _ _ ↦ le_refl _
        | cons e script ih =>
          intro h hs
          refine le_trans ?_ (ih _ (hs.emitted hclock work e))
          unfold SampleHost.emitted
          split
          · exact le_refl _
          · split
            · exact hs.timed.ahead _ le_rfl
            · exact le_refl _
      exact hlater unsubmittedScript { u with preparedRequest := none, preparedAuthority := none }
        (hu.of_eq rfl rfl rfl rfl rfl fun _ ↦ id)

private theorem applyControl_reaches (hclock : Monotone clock) (hs : Sound clock h)
    (authority : OperationAuthority) (decision : ControlDecision) :
    Reaches (Quiet clock) (applyControl clock authority decision) h fun _ t ↦
      ∀ time, h.Looked time → t.Looked time := by
  have hkeeps : ∀ t, t = h → ∀ time, h.Looked time → t.Looked time := fun _ heq _ looked ↦
    heq ▸ looked
  refine .ite (fun _ ↦ .read_bind ?_) fun _ ↦ .pure (hkeeps h rfl)
  have hdiscards : Reaches (Quiet clock)
      (if ∃ prepared ∈ (id h).preparedAuthority, prepared.operationId = authority.operationId then
        discardPrepared clock else pure ()) h fun _ t ↦ t.gate = h.gate :=
    .ite (fun _ ↦ (discardPrepared_reaches hclock hs).mono fun _ _ ht ↦ ht.2.1) fun _ ↦ .pure rfl
  refine hdiscards.bind fun _ t moves hgate ↦ ?_
  have hlooked : ∀ time, h.Looked time → t.Looked time := fun time looked ↦
    looked.of_gate hgate (lastTime_le hclock hs moves)
  refine .ite (fun _ ↦ ?_) fun _ ↦ .pure hlooked
  exact (requestNativeStop_reaches (hs.quietly hclock moves) authority).mono
    fun _ u hu time looked ↦ hu time (hlooked time looked)

private theorem observeTime_reaches (hclock : Monotone clock) (hs : Sound clock h)
    {now : MonotonicTime} (hnow : now = h.lastTime) :
    Reaches (Quiet clock) (observeTime clock now) h fun _ t ↦ t.Looked now := by
  subst hnow
  refine .read_bind ?_
  cases hcurrent : h.currentAuthority with
  | none => exact .pure (hs.looked_none hcurrent)
  | some authority =>
    refine (onGate_reaches (c := .observeTime authority h.lastTime) rfl trivial
      (le_refl h.lastTime)).bind ?_
    rintro decision t - ⟨-, rfl⟩
    have hs' := hs.through (c := .observeTime authority h.lastTime) (le_refl h.lastTime) nofun
    refine (applyControl_reaches hclock hs' authority decision).bind fun _ t _ ht ↦ ?_
    exact .pure (ht _ (hs.looked hcurrent))

private theorem withdrawBinding_reaches (hclock : Monotone clock) (hs : Sound clock h)
    (expected : BindingIdentity) :
    Reaches (Quiet clock) (withdrawBinding clock expected) h fun _ _ ↦ True := by
  refine (readTime_reaches hs).bind ?_
  rintro now t - ⟨rfl, rfl⟩
  refine (onGate_reaches (c := .withdrawBinding expected _) rfl trivial (le_refl _)).bind ?_
  rintro decision t - ⟨-, rfl⟩
  have ht := (hs.reading hclock).through
    (c := .withdrawBinding expected (h.reading clock).lastTime) (le_refl _) nofun
  refine .ite (fun _ ↦ ?_) fun _ ↦ .pure trivial
  refine (discardPrepared_reaches hclock ht).bind fun _ u moves _ ↦ ?_
  split
  · refine (applyControl_reaches hclock (ht.quietly hclock moves) _ _).bind fun _ _ _ _ ↦ ?_
    exact .pure trivial
  · exact .pure trivial

private theorem poll_reaches (hclock : Monotone clock) (hs : Sound clock h) :
    Reaches (Quiet clock) (poll clock) h fun _ _ ↦ True := by
  refine (readTime_reaches hs).bind ?_
  rintro now t - ⟨rfl, rfl⟩
  have ht := hs.reading hclock
  refine .read_bind ?_
  have hwithdraws : Reaches (Quiet clock)
      (if (id (h.reading clock)).gate.startupStatus.state = .ready ∧
          ((id (h.reading clock)).adapter.isWorkerReady = false ∨
            (id (h.reading clock)).adapter.isResultSinkReady = false) then
        (fun _ ↦ ()) <$> withdrawBinding clock
          ((id (h.reading clock)).gate.bindingStatus (h.reading clock).lastTime).active
      else pure ()) (h.reading clock) fun _ _ ↦ True :=
    .ite (fun _ ↦ (withdrawBinding_reaches hclock ht _).map fun _ _ ↦ id) fun _ ↦ .pure trivial
  refine hwithdraws.bind fun _ u moves _ ↦ .read_bind ?_
  exact (observeTime_reaches hclock (ht.quietly hclock moves) rfl).mono fun _ _ _ ↦ trivial

private theorem requestCancel_reaches (hclock : Monotone clock) (hs : Sound clock h)
    (authority : OperationAuthority) :
    Reaches (Quiet clock) (requestCancel clock authority) h fun _ _ ↦ True := by
  refine (poll_reaches hclock hs).bind fun _ t polled _ ↦ ?_
  have ht := hs.quietly hclock polled
  refine (readTime_reaches ht).bind ?_
  rintro now u - ⟨rfl, rfl⟩
  refine (onGate_reaches (c := .requestCancel authority _) rfl trivial (le_refl _)).bind ?_
  rintro decision u - ⟨-, rfl⟩
  have hu := (ht.reading hclock).through
    (c := .requestCancel authority (t.reading clock).lastTime) (le_refl _) nofun
  refine (applyControl_reaches hclock hu authority decision).bind fun _ _ _ _ ↦ ?_
  exact .pure trivial

/-! ### Passes over the staged events -/

/-- The report of a result that has reached the sink. -/
theorem reportAcceptance_eq (authority : OperationAuthority) (acceptance : ResultAcceptance)
    (time : MonotonicTime) (h : SampleHost) :
    reportAcceptance authority acceptance time h =
      (.ok ⟨⟩, h.throughAll (deliveryReport authority time acceptance)) := by
  cases acceptance <;> rfl

/-- A host that has one event less and the same prepared operation. -/
theorem passes_lt {event : StagedEvent} {rest : List StagedEvent}
    (hstaged : h.stagedEvents = event :: rest) (hrest : t.stagedEvents = rest)
    (hprepared : t.preparedAuthority = h.preparedAuthority) : passes t < passes h := by
  unfold passes
  rw [hstaged, hrest, hprepared, List.length_cons]
  lia

/-- What `process_next` does with an event that is taken off the queue. -/
theorem processEvent_meets (hclock : Monotone clock) (hs : Sound clock h) {event : StagedEvent}
    {rest : List StagedEvent} (hstaged : h.stagedEvents = event :: rest) :
    Fallible.Meets (processEvent clock event) h.popped
      (fun _ t ↦ ∃ u, ReflTransGen (Quiet clock) h u ∧ Pass clock u t ∧ passes t < passes u)
      fun _ _ ↦ False := by
  have hback : { h.popped with stagedEvents := event :: h.popped.stagedEvents } = h := by
    unfold SampleHost.popped
    dsimp only
    rw [hstaged, List.tail_cons, ← hstaged]
  have hrest : h.popped.stagedEvents = rest := by
    unfold SampleHost.popped
    rw [hstaged, List.tail_cons]
  have hreports : ∀ c, event.report = some c → ∃ u, ReflTransGen (Quiet clock) h u ∧
      Pass clock u (h.popped.through c) ∧ passes (h.popped.through c) < passes u := fun c hreport ↦
    ⟨h, .refl, .report hstaged hreport, passes_lt hstaged hrest rfl⟩
  -- an event that waits for the deadline to be looked at is put back in thought until then
  have hwaits : ∀ {k : MonotonicTime → SampleProgram Unit},
      (∀ now t, t.Looked now → Fallible.Meets (k now) t
        (fun _ v ↦ Pass clock { t with stagedEvents := event :: t.stagedEvents } v ∧
          v.stagedEvents = t.stagedEvents ∧ v.preparedAuthority = t.preparedAuthority)
        fun _ _ ↦ False) →
      Fallible.Meets (do
        let now ← readTime clock
        let _ ← observeTime clock now
        k now) h.popped
      (fun _ t ↦ ∃ u, ReflTransGen (Quiet clock) h u ∧ Pass clock u t ∧ passes t < passes u)
      fun _ _ ↦ False := by
    intro k hk
    refine (readTime_reaches hs.popped).meets_bind ?_
    rintro now t hread ⟨hnow, -⟩
    refine (observeTime_reaches hclock (hs.popped.quietly hclock hread) hnow).meets_bind ?_
    rintro - u moves looked
    refine (hk now u looked).mono ?_ fun _ _ ↦ id
    rintro - v ⟨hpass, hevents, hprepared⟩
    refine ⟨{ u with stagedEvents := event :: u.stagedEvents }, ?_, hpass,
      passes_lt rfl hevents hprepared⟩
    rw [← hback]
    exact quietly_put_back (hread.trans moves) event
  obtain ⟨⟨kind, authority, identity, sequence, result⟩, observedAt⟩ := event
  cases kind with
  | notSubmitted | noOutputProduced | accepted | rejected | started | terminalSucceeded
  | terminalFailed | terminalCancelled => exact hreports _ rfl
  | result =>
    cases result with
    | none => exact ⟨h, .refl, .drop hstaged rfl rfl, passes_lt hstaged hrest rfl⟩
    | some result =>
      refine hwaits fun now t looked ↦ ?_
      obtain ⟨hevents, hprepared, -⟩ := delivered_kept t authority result now
      refine .of_eq (a := ⟨⟩) (t := t.delivered authority result now) ?_
        ⟨.deliver (h := { t with stagedEvents := _ :: t.stagedEvents }) rfl rfl rfl
          (looked.of_gate rfl le_rfl), hevents, hprepared⟩
      exact reportAcceptance_eq authority _ now { t with adapter := _ }
  | settled =>
    refine hwaits fun now t looked ↦ ?_
    exact ⟨.settle (h := { t with stagedEvents := _ :: t.stagedEvents }) rfl rfl
      (looked.of_gate rfl le_rfl), rfl, rfl⟩

private theorem processNext_reaches (hclock : Monotone clock) (hs : Sound clock h) :
    Reaches (Pass clock) (processNext clock) h fun processed t ↦
      (processed = true → passes t < passes h) ∧ (processed = false → t.stagedEvents = []) := by
  have hquiet : ∀ {t u}, ReflTransGen (Quiet clock) t u → ReflTransGen (Pass clock) t u :=
    fun moves ↦ ReflTransGen.mono (fun _ _ ↦ .quiet) _ _ moves
  refine Reaches.bind ((poll_reaches hclock hs).with_steps.coarsen fun _ _ ↦ .quiet)
    fun _ t _ ⟨polled, _⟩ ↦ .read_bind ?_
  cases hstaged : t.stagedEvents with
  | nil => exact .pure ⟨nofun, fun _ ↦ hstaged⟩
  | cons event rest =>
    have hpopped : ({ t with stagedEvents := rest } : SampleHost) = t.popped := by
      unfold SampleHost.popped
      rw [hstaged, List.tail_cons]
    unfold Reaches
    rw [Fallible.meets_bind, Fallible.meets_assign, Fallible.meets_bind, hpopped]
    refine (processEvent_meets hclock (hs.quietly hclock polled) hstaged).mono ?_ fun _ _ ↦ id
    rintro - v ⟨u, moves, pass, hless⟩
    exact ⟨(hquiet moves).tail pass, fun _ ↦ hless.trans_le ((quietly_passes_le moves).trans
      (quietly_passes_le polled)), nofun⟩

private theorem processWithin_reaches (hclock : Monotone clock) {fuel : ℕ} (hs : Sound clock h)
    (hfuel : passes h ≤ fuel) :
    Reaches (Pass clock) (processWithin clock fuel) h fun _ t ↦ t.stagedEvents = [] := by
  induction fuel generalizing h with
  | zero => cases hfuel
  | succ fuel ih =>
    refine (processNext_reaches hclock hs).bind fun processed t moves ⟨hless, hempty⟩ ↦ ?_
    refine .ite (fun hprocessed ↦ ?_) fun hended ↦ ?_
    · exact ih (hs.passed hclock moves) (Nat.le_of_lt_succ ((hless hprocessed).trans_le hfuel))
    · exact .pure (hempty (Bool.eq_false_iff.mpr hended))

private theorem processAll_reaches (hclock : Monotone clock) (hs : Sound clock h) :
    Reaches (Pass clock) (processAll clock) h fun _ t ↦ t.stagedEvents = [] :=
  .read_bind (processWithin_reaches hclock hs le_rfl)

/-! ### The programs of the calls -/

/-- The moves of a poll are moves of a call. -/
private theorem reaches_quiet {α : Type} {p : SampleProgram α} {Q : α → SampleHost → Prop}
    (hp : Reaches (Quiet clock) p h Q) : Reaches (Move clock) p h Q :=
  hp.coarsen fun _ _ move ↦ .pass (.quiet move)

/-- The moves of a pass are moves of a call. -/
private theorem reaches_pass {α : Type} {p : SampleProgram α} {Q : α → SampleHost → Prop}
    (hp : Reaches (Pass clock) p h Q) : Reaches (Move clock) p h Q :=
  hp.coarsen fun _ _ move ↦ .pass move

private theorem prepare_reaches (hclock : Monotone clock) (hs : Sound clock h)
    (request : SampleRequest) :
    Reaches (Move clock) (prepare clock request) h fun _ _ ↦ True := by
  refine (reaches_quiet (poll_reaches hclock hs)).bind fun _ t polled _ ↦ ?_
  have ht := hs.moved hclock polled
  refine .ite (fun _ ↦ .pure trivial) fun hvalid ↦ ?_
  refine (reaches_quiet (readTime_reaches ht)).bind ?_
  rintro now u hread ⟨hnow, -⟩
  have hu := ht.moved hclock hread
  refine (reaches_quiet (observeTime_reaches hclock hu hnow).with_steps).bind ?_
  rintro - v - ⟨moves, looked⟩
  have hadmits : onGate (·.admitRequest (operationRequest request now)) v =
      (.ok (v.gate.admitRequest (operationRequest request now)).1,
        v.through (.admitRequest (operationRequest request now))) := rfl
  rcases v.gate.admit_cases (operationRequest request now) with
    ⟨decision, hrefused, hnone⟩ | ⟨guard, hadmitted⟩
  · have hdecision : (v.gate.admitRequest (operationRequest request now)).1 = decision := by
      have hanswer := congrArg Prod.fst hrefused
      exact Answer.admission.inj hanswer
    rw [hdecision] at hadmits
    have hstep : Quiet clock v (v.through (.admitRequest (operationRequest request now))) :=
      .refuse (congrArg Prod.snd hrefused)
    refine (Reaches.step hadmits (.pass (.quiet hstep))
      (Q := fun a _ ↦ a = decision) rfl).bind ?_
    rintro _ w - rfl
    rw [hnone]
    exact .pure trivial
  · have hdecision : (v.gate.admitRequest (operationRequest request now)).1 =
        ⟨.admitted, some (v.gate.nextAuthority (operationRequest request now))⟩ :=
      Answer.admission.inj (congrArg Prod.fst hadmitted)
    refine .step
      (a := ⟨.prepared, .admitted, some (v.gate.nextAuthority (operationRequest request now))⟩)
      (t := { v.through (.admitRequest (operationRequest request now)) with
        currentAuthority := some (v.gate.nextAuthority (operationRequest request now))
        preparedAuthority := some (v.gate.nextAuthority (operationRequest request now))
        preparedRequest := some request
        admissions := v.admissions ++
          [(v.gate.nextAuthority (operationRequest request now), request)] })
      ?_ (.admits (not_not.mp hvalid) looked.reached guard (congrArg Prod.snd hadmitted)) trivial
    rw [hdecision] at hadmits
    exact (Fallible.bind_of_eq hadmits).trans rfl

/-- The emissions that follow a claimed dispatch. -/
theorem submitWork_eq (hclock : Monotone clock) (hs : Sound clock h) (work : WorkItem) :
    submitWork clock work h = (.ok true, h.submitted clock work) := by
  refine (Fallible.read_bind _ _ h).trans ?_
  unfold SampleHost.submitted
  split
  · have h0 : Timed clock { h with
        adapter := { h.adapter with rejectNextNativeSubmission := false } } :=
      hs.timed.of_eq rfl rfl rfl
    have h1 := h0.emitted hclock work ⟨.rejected, 1, none⟩
    have h2 := h1.emitted hclock work ⟨.noOutputProduced, 1, none⟩
    exact (emit_bind h0 work ⟨.rejected, 1, none⟩).trans
      ((emit_bind h1 work ⟨.noOutputProduced, 1, none⟩).trans
        ((emit_bind h2 work ⟨.settled, 2, none⟩).trans rfl))
  · have h1 := hs.timed.emitted hclock work ⟨.accepted, 1, none⟩
    have hmode : (h.emitted clock work ⟨.accepted, 1, none⟩).adapter.completionMode =
        h.adapter.completionMode := by
      rw [(SampleHost.emits_emitted clock work ⟨.accepted, 1, none⟩ h).frame]
    refine (emit_bind hs.timed work ⟨.accepted, 1, none⟩).trans ?_
    dsimp only
    by_cases hsynchronous : h.adapter.completionMode = .synchronous
    · rw [if_pos hsynchronous, if_pos (hmode.trans hsynchronous)]
      exact (Fallible.bind_of_eq (finish_eq hclock h1 work)).trans rfl
    · rw [if_neg hsynchronous, if_neg (hmode.trans_ne hsynchronous)]
      rfl

/-- A claim that is refused leaves the gate as it was. -/
private theorem claimDispatch_refused {s : AuthorityGate} {authority : OperationAuthority}
    {time : MonotonicTime} (hrefused : (s.claimDispatch authority time).1 = false) :
    (s.claimDispatch authority time).2 = s := by
  unfold AuthorityGate.claimDispatch at hrefused ⊢
  split at hrefused
  · rfl
  · split at hrefused
    · next hblocked => rw [if_pos hblocked]
    · cases hrefused

/-- What the rest of `dispatch` does with an operation that was taken out of its slot. -/
private theorem dispatched_meets (hclock : Monotone clock) (hs : Sound clock h)
    (hnone : h.preparedAuthority = none ∧ h.preparedRequest = none)
    (authority : OperationAuthority) (request : SampleRequest) :
    ∃ t, emitNotSubmitted clock (workOf authority request) h = (.ok ⟨⟩, t) ∧
      Move clock
        { h with preparedAuthority := some authority, preparedRequest := some request } t := by
  refine ⟨_, emitNotSubmitted_eq hclock hs.timed _, ?_⟩
  have hdiscard : Quiet clock
      { h with preparedAuthority := some authority, preparedRequest := some request }
      (SampleHost.unsubmitted clock (workOf authority request)
        { h with preparedAuthority := some authority, preparedRequest := some request }) :=
    .discard rfl
  unfold SampleHost.unsubmitted at hdiscard
  have hsame : ({ h with preparedRequest := none, preparedAuthority := none } : SampleHost) =
      h := by
    rw [← hnone.1, ← hnone.2]
  rw [hsame] at hdiscard
  exact .pass (.quiet hdiscard)

private theorem dispatch_reaches (hclock : Monotone clock) (hs : Sound clock h)
    (hnone : h.preparedAuthority = none ∧ h.preparedRequest = none)
    (authority : OperationAuthority) (request : SampleRequest) :
    Fallible.Meets (dispatch clock authority request) h
      (fun _ t ↦ ReflTransGen (Move clock)
        { h with preparedAuthority := some authority, preparedRequest := some request } t)
      fun _ _ ↦ False := by
  have hrefused : ∀ t, ReflTransGen (Quiet clock) h t →
      Fallible.Meets (do emitNotSubmitted clock (workOf authority request); pure false) t
        (fun _ t ↦ ReflTransGen (Move clock)
          { h with preparedAuthority := some authority, preparedRequest := some request } t)
        fun _ _ ↦ False := by
    intro t moves
    obtain ⟨hgone, hback⟩ := quietly_prepare_back moves hnone authority request
    obtain ⟨u, hemits, hmove⟩ :=
      dispatched_meets hclock (hs.quietly hclock moves) hgone authority request
    refine .of_eq (Fallible.bind_of_eq hemits) ?_
    exact (ReflTransGen.mono (fun _ _ move ↦ .pass (.quiet move)) _ _ hback).tail hmove
  unfold dispatch
  rw [Fallible.meets_bind, Fallible.meets_read, Fallible.meets_bind]
  by_cases hblocked : h.adapter.isWorkerReady = false ∨ h.adapter.isResultSinkReady = false ∨
      h.adapter.pendingWork.isSome = true
  · rw [if_pos hblocked, Fallible.meets_pure, if_pos rfl]
    exact hrefused h .refl
  rw [if_neg hblocked]
  have hidle : h.adapter.pendingWork = none := by
    cases hpending : h.adapter.pendingWork with
    | none => rfl
    | some => exact absurd (.inr (.inr (by rw [hpending]; rfl))) hblocked
  unfold dispatchPermission
  refine (readTime_reaches hs).meets_bind ?_
  rintro now u hread ⟨hnow, -⟩
  have hu := hs.quietly hclock hread
  refine (observeTime_reaches hclock hu hnow).meets_bind ?_
  rintro - v hlook looked
  have moves := hread.trans hlook
  have hv := hs.quietly hclock moves
  have hvidle := quietly_idle moves hidle
  obtain ⟨hgone, hback⟩ := quietly_prepare_back moves hnone authority request
  rw [Fallible.meets_bind]
  refine .of_eq (a := (v.gate.claimDispatch authority now).1)
    (t := v.through (.claimDispatch authority now)) rfl ?_
  rw [Fallible.meets_bind, Fallible.meets_assign, Fallible.meets_pure]
  cases hpermitted : (v.gate.claimDispatch authority now).1 with
  | false =>
    rw [if_neg Bool.false_ne_true, if_pos rfl]
    exact hrefused _ (moves.tail (.refuse (claimDispatch_refused hpermitted)))
  | true =>
    have hclaimed : ({ v.through (.claimDispatch authority now) with
        permissions := v.permissions ++ [v.adapter]
        adapter := { v.adapter with submissionCount := v.adapter.submissionCount + 1 } } :
          SampleHost) =
        SampleHost.claimed authority now
          { v with preparedAuthority := some authority, preparedRequest := some request } := by
      unfold SampleHost.claimed SampleHost.through
      dsimp only
      rw [hgone.1, hgone.2]
    have hprepared : Sound clock
        { v with preparedAuthority := some authority, preparedRequest := some request } :=
      hv.of_eq rfl rfl rfl rfl rfl fun _ ↦ id
    rw [if_pos rfl, if_neg nofun, Fallible.meets_bind, Fallible.meets_assign]
    change Fallible.Meets _ { v.through (.claimDispatch authority now) with
      permissions := v.permissions ++ [v.adapter]
      adapter := { v.adapter with submissionCount := v.adapter.submissionCount + 1 } } _ _
    rw [hclaimed]
    refine .of_eq (submitWork_eq hclock (hprepared.claimed looked.reached authority) _) ?_
    exact (ReflTransGen.mono (fun _ _ move ↦ .pass (.quiet move)) _ _ hback).tail
      (.submit rfl rfl hvidle looked.reached (congrArg Answer.dispatch hpermitted))

private theorem processDispatched_reaches (hclock : Monotone clock) (hs : Sound clock h) :
    Reaches (Pass clock) (processDispatched clock) h fun _ _ ↦ True := by
  refine .read_bind (.ite (fun _ ↦ ?_) fun _ ↦ ?_)
  · exact (processNext_reaches hclock hs).map fun _ _ _ ↦ trivial
  · exact (processAll_reaches hclock hs).mono fun _ _ _ ↦ trivial

private theorem dispatchPrepared_reaches (hclock : Monotone clock) (hs : Sound clock h)
    (authority : OperationAuthority) :
    Reaches (Move clock) (dispatchPrepared clock authority) h fun _ _ ↦ True := by
  refine .read_bind ((reaches_quiet (poll_reaches hclock hs)).bind fun _ t polled _ ↦ ?_)
  have ht := hs.moved hclock polled
  refine .read_bind (.ite (fun _ ↦ ?_) fun _ ↦ ?_)
  · exact (reaches_pass (processDispatched_reaches hclock ht)).bind fun _ _ _ _ ↦ .pure trivial
  rw [id_eq]
  cases hrequested : t.preparedRequest with
  | none => exact .pure trivial
  | some request =>
    refine .ite (fun _ ↦ .pure trivial) fun hopen ↦ ?_
    have hprepared : t.preparedAuthority = some authority := by
      by_contra hne
      exact hopen (.inr hne)
    have hback : ({ t with
        preparedAuthority := some authority, preparedRequest := some request } : SampleHost) =
        t := by
      rw [← hprepared, ← hrequested]
    have hdispatch := dispatch_reaches hclock (h := { t with
      preparedRequest := none, preparedAuthority := none })
      (ht.of_eq rfl rfl rfl rfl rfl fun _ ↦ id) ⟨rfl, rfl⟩ authority request
    unfold Reaches
    rw [Fallible.meets_bind, Fallible.meets_assign, Fallible.meets_bind]
    refine hdispatch.mono (fun dispatched u moves ↦ ?_) fun _ _ ↦ id
    have hmoves : ReflTransGen (Move clock) t u := hback ▸ moves
    have hrest : Reaches (Move clock) (do processDispatched clock; pure dispatched) u
        fun _ _ ↦ True :=
      (reaches_pass (processDispatched_reaches hclock (ht.moved hclock hmoves))).bind
        fun _ _ _ _ ↦ .pure trivial
    exact Fallible.Meets.mono hrest (fun _ _ ⟨hsteps, _⟩ ↦ ⟨hmoves.trans hsteps, trivial⟩)
      fun _ _ ↦ id

private theorem submit_reaches (hclock : Monotone clock) (hs : Sound clock h)
    (request : SampleRequest) :
    Reaches (Move clock) (submit clock request) h fun _ _ ↦ True := by
  refine (prepare_reaches hclock hs request).bind fun submission t moves _ ↦ ?_
  split
  · exact .pure trivial
  · refine .ite (fun _ ↦ ?_) fun _ ↦ .pure trivial
    exact (dispatchPrepared_reaches hclock (hs.moved hclock moves) _).bind fun _ _ _ _ ↦
      .pure trivial

private theorem replayRetainedResult_reaches (hs : Sound clock h) :
    Reaches (Move clock) (replayRetainedResult clock) h fun _ _ ↦ True := by
  refine .read_bind ?_
  cases hretained : h.adapter.retainedResult with
  | none => exact .pure trivial
  | some callback =>
    obtain ⟨hopen, hreplay⟩ : h.adapter.isClosed = false ∧
        h.adapter.replayResult = some callback := by
      unfold SampleAdapter.retainedResult at hretained
      split at hretained
      · cases hretained
      · next hopen => exact ⟨Bool.eq_false_iff.mpr hopen, hretained⟩
    exact .step ((Fallible.bind_of_eq (readTime_eq hs.timed)).trans rfl) (.replay hopen hreplay)
      trivial

private theorem drainPending_reaches (hclock : Monotone clock) (hs : Sound clock h) :
    Reaches (Move clock) (drainPending clock) h fun _ t ↦
      t.adapter.pendingWork = none ∧ t.gate = h.gate ∧
        t.preparedAuthority = h.preparedAuthority ∧
          t.currentAuthority = h.currentAuthority := by
  refine .read_bind ?_
  cases hpending : h.adapter.pendingWork with
  | none => exact .pure ⟨hpending, rfl, rfl, rfl⟩
  | some work =>
    have hs' : Sound clock { h with adapter := { h.adapter with pendingWork := none } } :=
      hs.of_eq rfl rfl rfl rfl rfl fun _ ↦ id
    have hkept := (SampleHost.emits_emittedAll clock work
      (finishScript work { h.adapter with pendingWork := none })
      { h with adapter :=
        SampleAdapter.executed { h.adapter with pendingWork := none } work }).kept
    refine .step (t := SampleHost.finished clock work
        { h with adapter := { h.adapter with pendingWork := none } })
      ((Fallible.bind_of_eq (finish_eq hclock hs'.timed work)).trans rfl) (.finish hpending)
      ⟨hkept.2.2.2.1.trans ?_, hkept.1, hkept.2.1, emittedAll_current _ _ _⟩
    unfold SampleAdapter.executed
    split <;> rfl

private theorem completeDeferred_reaches (hclock : Monotone clock) (hs : Sound clock h) :
    Reaches (Move clock) (completeDeferred clock) h fun _ _ ↦ True := by
  refine (reaches_quiet (poll_reaches hclock hs)).bind fun _ t polled _ ↦ ?_
  refine .read_bind (.ite (fun _ ↦ .pure trivial) fun _ ↦ ?_)
  exact (drainPending_reaches hclock (hs.moved hclock polled)).mono fun _ _ _ ↦ trivial

/-- Shutting down leaves nothing prepared, pending or staged, and admits nothing. -/
theorem shutdown_reaches (hclock : Monotone clock) (hs : Sound clock h) :
    Reaches (Move clock) (shutdown clock) h fun _ t ↦
      t.currentAuthority = h.currentAuthority ∧
        ((t = h ∧ h.isShutdown = true) ∨ (t.stagedEvents = [] ∧ Closing t)) := by
  refine .read_bind (.ite (fun hshut ↦ .pure ⟨rfl, .inl ⟨rfl, hshut⟩⟩) fun _ ↦ ?_)
  refine (reaches_quiet (poll_reaches hclock hs).with_steps).bind ?_
  rintro - t polled ⟨hpolled, -⟩
  have ht := hs.moved hclock polled
  refine (reaches_quiet (onGate_reaches (c := .closeAdmission) rfl trivial trivial)).bind ?_
  rintro - u hclose ⟨-, hu⟩
  have hclosed : u.gate.bindingPhase = .closed := hu ▸ rfl
  have hus := ht.moved hclock hclose
  refine (reaches_quiet (discardPrepared_reaches hclock hus).with_steps).bind ?_
  rintro - v hdiscard ⟨hdiscarded, hunprepared, hgate, -⟩
  have hvs := hus.moved hclock hdiscard
  refine (drainPending_reaches hclock hvs).bind ?_
  rintro - w hdrain ⟨hidle, hkept, hsame, hdrained⟩
  have hclosing : Closing w :=
    ⟨hkept ▸ hgate ▸ hclosed, hidle, hsame.trans hunprepared⟩
  refine (reaches_pass (processAll_reaches hclock (hvs.moved hclock hdrain)).with_steps).bind ?_
  rintro - x - ⟨passes, hempty⟩
  have hend : Closing x := Fallible.holds_along (fun _ _ pass ↦ pass.closing) passes hclosing
  have hclose : x.adapter.close.pendingWork = none := by
    unfold SampleAdapter.close
    split <;> exact hend.idle
  have hcurrent : x.currentAuthority = h.currentAuthority := by
    rw [passed_current passes, hdrained, quietly_current hdiscarded, hu]
    change t.currentAuthority = h.currentAuthority
    exact quietly_current hpolled
  exact .step rfl (.close hend.closed hend.idle hend.unprepared hempty)
    ⟨hcurrent, .inr ⟨hempty, hend.closed, hclose, hend.unprepared⟩⟩

/-- An observation of a replacement is a call of the gate that reports its readiness. -/
private theorem observeReplacement_reaches (kind : StartupEvidenceKind)
    (candidate : BindingIdentity) (source : String) (sequence : SampleHost → UInt64)
    (count : SampleHost → SampleHost) (hcount : Quiet clock h (count h))
    (htime : (count h).lastTime = h.lastTime) (observed : Bool) {now : MonotonicTime}
    (hnow : now ≤ h.lastTime) :
    Reaches (Quiet clock) (observeReplacement kind candidate source sequence count observed now) h
      fun _ t ↦ ∃ c, t = (count h).through c := by
  have hcounted : Reaches (Quiet clock) (Fallible.assign count : SampleProgram PUnit) h
      fun _ t ↦ t = count h := .step rfl hcount rfl
  refine hcounted.bind ?_
  rintro - t - rfl
  refine .read_bind ((onGate_reaches (c := .observeRebindReadiness _) rfl trivial ?_).bind ?_)
  · exact bounded_of_le (hnow.trans htime.ge)
  · rintro - t - ⟨-, rfl⟩
    exact .pure ⟨_, rfl⟩

private theorem handOff_reaches (hopen : h.isShutdown = false)
    (hidle : h.adapter.pendingWork = none) (hunprepared : h.preparedAuthority = none) (candidate : BindingIdentity)
    (mode : CompletionMode) {now : MonotonicTime} (hnow : now ≤ h.lastTime) :
    Reaches (Move clock) (handOff candidate mode now) h fun _ _ ↦ True := by
  refine (reaches_quiet (observeReplacement_reaches _ _ _ _ countBinding .count rfl _ hnow)).bind ?_
  rintro - t - ⟨c, rfl⟩
  refine (reaches_quiet (observeReplacement_reaches (h := (countBinding h).through c) _ _ _ _
    countWorker .count rfl _ hnow)).bind ?_
  rintro - t - ⟨d, rfl⟩
  refine (reaches_quiet (observeReplacement_reaches
    (h := (countWorker ((countBinding h).through c)).through d) _ _ _ _ countSink .count rfl _
    hnow)).bind ?_
  rintro - t - ⟨e, rfl⟩
  refine (reaches_quiet (onGate_reaches (c := .commitRebind candidate now) rfl trivial
    trivial)).bind ?_
  rintro committed t - ⟨-, rfl⟩
  refine .ite (fun _ ↦ ?_) fun _ ↦ .step rfl (.replace hopen hidle hunprepared) trivial
  exact (reaches_quiet (onGate_reaches (f := (·.withdrawBinding candidate now))
    (c := .withdrawBinding candidate now)
    (h := (((countSink ((countWorker ((countBinding h).through c)).through d)).through e).through
      (.commitRebind candidate now))) rfl trivial hnow)).bind fun _ _ _ _ ↦ .pure trivial

private theorem rebindProvider_reaches (hclock : Monotone clock) (hs : Sound clock h)
    (expected : BindingIdentity) (providerId : String) (mode : CompletionMode) :
    Reaches (Move clock) (rebindProvider clock expected providerId mode) h fun _ _ ↦ True := by
  refine (reaches_quiet (poll_reaches hclock hs)).bind fun _ t polled _ ↦ ?_
  refine (reaches_quiet (readTime_reaches (hs.moved hclock polled))).bind ?_
  rintro now u - ⟨hnow, -⟩
  refine .read_bind (.ite (fun _ ↦ .pure trivial) fun hopen ↦ ?_)
  refine .ite (fun _ ↦ .pure trivial) fun hresolved ↦ ?_
  refine .ite (fun _ ↦ .pure trivial) fun _ ↦ ?_
  have hcounted : Reaches (Move clock) (Fallible.assign countBinding : SampleProgram PUnit) u
      fun _ t ↦ t = countBinding u := .step rfl (.pass (.quiet .count)) rfl
  refine hcounted.bind ?_
  rintro - v - rfl
  refine .read_bind ((reaches_quiet (onGate_reaches (c := .beginRebind _ _ _ _) rfl trivial
    trivial)).bind ?_)
  rintro begun v - ⟨-, rfl⟩
  split
  · refine .ite (fun _ ↦ .pure trivial) fun _ ↦ ?_
    refine handOff_reaches ?_ ?_ ?_ _ mode hnow.le
    · exact Bool.eq_false_iff.mpr hopen
    · by_contra hpending
      refine hresolved (.inl ?_)
      exact Option.isNone_eq_false_iff.mpr (Option.isSome_iff_ne_none.mpr hpending)
    · by_contra hprepared
      exact hresolved (.inr (.inl (Option.isSome_iff_ne_none.mpr hprepared)))
  · exact .pure trivial

/-- A startup observation counts, reads the clock and reports to the gate. -/
private theorem observeStartup_reaches (hs : Sound clock h) (kind : StartupEvidenceKind)
    (source : String) (observed : SampleAdapter → Bool) (sequence : SampleHost → UInt64)
    (count : SampleHost → SampleHost) (hcount : Quiet clock h (count h))
    (hclock : Monotone clock) :
    Reaches (Quiet clock) (observeStartup clock kind source observed sequence count) h
      fun _ _ ↦ True := by
  have hcounted : Reaches (Quiet clock) (Fallible.assign count : SampleProgram PUnit) h
      fun _ t ↦ t = count h := .step rfl hcount rfl
  refine hcounted.bind ?_
  rintro - t - rfl
  refine .read_bind ((readTime_reaches (hs.quiet hclock hcount)).bind ?_)
  rintro time t - ⟨rfl, -⟩
  exact (onGate_reaches (c := .observeStartup _) rfl trivial (bounded_of_le le_rfl)).bind
    fun _ _ _ _ ↦ .pure trivial

private theorem initializeHost_reaches (hclock : Monotone clock) (hs : Sound clock h) :
    Reaches (Quiet clock) (initializeHost clock) h fun _ _ ↦ True := by
  refine .read_bind ?_
  have hpolls : Reaches (Quiet clock)
      (if (id h).gate.startupStatus.state = .ready ∧
          ((id h).adapter.isWorkerReady = false ∨ (id h).adapter.isResultSinkReady = false) then
        (fun _ ↦ ()) <$> poll clock
      else pure ()) h fun _ _ ↦ True :=
    .ite (fun _ ↦ (poll_reaches hclock hs).map fun _ _ ↦ id) fun _ ↦ .pure trivial
  refine hpolls.bind fun _ t polled _ ↦ ?_
  have ht := hs.quietly hclock polled
  refine (observeStartup_reaches ht _ _ _ _ countBinding .count hclock).bind fun _ u observed _ ↦ ?_
  have hu := ht.quietly hclock observed
  refine (observeStartup_reaches hu _ _ _ _ countWorker .count hclock).bind fun _ v observed _ ↦ ?_
  have hv := hu.quietly hclock observed
  exact (observeStartup_reaches hv _ _ _ _ countSink .count hclock).bind fun _ _ _ _ ↦ .read trivial

/-- A setter of the adapter is one move. -/
private theorem set_reaches {f : SampleAdapter → SampleAdapter}
    (adapts : h.adapter.Adapts (f h.adapter))
    (reports : h.adapter.settlementReportingEnabled = true →
      (f h.adapter).settlementReportingEnabled = true) :
    Reaches (Move clock) ((fun _ ↦ SampleAnswer.done) <$> set f) h fun _ _ ↦ True :=
  Reaches.map (.step rfl (.adapt adapts reports) trivial) fun _ _ ↦ id

end SampleProgram

/-- Every call but one that disables the reporting of settlements goes by moves. -/
theorem SampleCall.reaches (hclock : Monotone clock) (hs : Sound clock h) (call : SampleCall)
    (hreports : call ≠ .setSettlementReportingEnabled false) :
    Reaches (Move clock) (call.program clock) h fun _ _ ↦ True := by
  have hquiet : ∀ s t, Quiet clock s t → Move clock s t := fun _ _ move ↦ .pass (.quiet move)
  have hpass : ∀ s t, Pass clock s t → Move clock s t := fun _ _ move ↦ .pass move
  cases call with
  | initializeHost =>
    exact ((SampleProgram.initializeHost_reaches hclock hs).coarsen hquiet).map fun _ _ ↦ id
  | bindingStatus =>
    refine Reaches.map ((Reaches.bind (SampleProgram.readTime_reaches hs) ?_).coarsen hquiet)
      (Q := fun _ _ ↦ True) fun _ _ ↦ id
    exact fun _ _ _ _ ↦ .read trivial
  | withdrawBinding expected =>
    exact ((SampleProgram.withdrawBinding_reaches hclock hs expected).coarsen hquiet).map
      fun _ _ ↦ id
  | rebindProvider expected providerId mode =>
    exact (SampleProgram.rebindProvider_reaches hclock hs expected providerId mode).map
      fun _ _ ↦ id
  | setWorkerReady | setResultSinkReady | rejectNextNativeSubmission | failNextNativeExecution
  | setCancellationMode =>
    exact SampleProgram.set_reaches ⟨rfl, rfl, rfl, rfl, fun _ ↦ id⟩ id
  | setSettlementReportingEnabled enabled =>
    have henabled : enabled = true := by
      by_contra hne
      exact hreports (by rw [Bool.eq_false_iff.mpr hne])
    subst henabled
    exact SampleProgram.set_reaches ⟨rfl, rfl, rfl, rfl, fun _ ↦ id⟩ fun _ ↦ rfl
  | setResultReplayEnabled => exact SampleProgram.set_reaches ⟨rfl, rfl, rfl, rfl, nofun⟩ id
  | replayRetainedResult =>
    exact (SampleProgram.replayRetainedResult_reaches hs).map fun _ _ ↦ id
  | prepare request => exact (SampleProgram.prepare_reaches hclock hs request).map fun _ _ ↦ id
  | dispatchPrepared authority =>
    exact (SampleProgram.dispatchPrepared_reaches hclock hs authority).map fun _ _ ↦ id
  | submit request => exact (SampleProgram.submit_reaches hclock hs request).map fun _ _ ↦ id
  | requestCancel authority =>
    exact ((SampleProgram.requestCancel_reaches hclock hs authority).coarsen hquiet).map
      fun _ _ ↦ id
  | poll => exact ((SampleProgram.poll_reaches hclock hs).coarsen hquiet).map fun _ _ ↦ id
  | completeDeferred =>
    exact (SampleProgram.completeDeferred_reaches hclock hs).map fun _ _ ↦ id
  | processNextStagedEvent =>
    exact ((SampleProgram.processNext_reaches hclock hs).coarsen hpass).map fun _ _ _ ↦ trivial
  | processAllStagedEvents =>
    exact ((SampleProgram.processAll_reaches hclock hs).coarsen hpass).map fun _ _ _ ↦ trivial
  | shutdown => exact (SampleProgram.shutdown_reaches hclock hs).map fun _ _ _ ↦ trivial

end RobotHarness.Sample
