import Mathlib.Data.List.Induction
import RobotHarness.Base.Since
import RobotHarness.Compute.Lifecycle
import RobotHarness.Recovery.Owner

/-!
# What the owner conserves

In every run of the owner each launched worker is accounted for once: its result was sent, or
discarded, or it is outstanding. Workers are launched one after the other, in sessions that were
found clear and activated in time, and a result answers a submission of the session it is sent in.
-/

namespace RobotHarness.Recovery

open Compute (ComputeProcess ProcessObservation PollAnswer LaunchAnswer ExitStatus)

/-! ### The log -/

/-- A call of a process that its owner retains. -/
inductive ProcessCall (p : ComputeProcess) : ComputeProcess → Prop
  | poll (now : UInt64) (answer : PollAnswer) : ProcessCall p (p.poll now answer)
  | stop (now : UInt64) (send : Option Int) : ProcessCall p (p.requestStop now send)
  | close (control event : Option Int) : ProcessCall p (p.closeChannels control event).2

/-- The process is what calls have made of another one. -/
def Evolves : ComputeProcess → ComputeProcess → Prop := Relation.ReflTransGen ProcessCall

/-- The worker that is not retired after an event. -/
def OwnerEvent.after (standing : Option ComputeProcess) : OwnerEvent → Option ComputeProcess
  | .launched _ _ _ process => some process
  | .retired _ => none
  | .received _ _ _ => standing
  | .sent _ _ => standing

/-- The worker that a log leaves unretired. -/
def standing (log : List OwnerEvent) : Option ComputeProcess := log.foldl OwnerEvent.after none

/-- The event is the delivery of the result of a launched worker. -/
def OwnerEvent.delivers : OwnerEvent → Bool
  | .sent _ message => decide (message.kind = .result ∧ message.flags ≠ notLaunched)
  | _ => false

/-- The number of results of launched workers that were sent. -/
def delivered (log : List OwnerEvent) : ℕ := log.countP OwnerEvent.delivers

/-- One more event is taken after the ones before it. -/
@[simp] theorem standing_append (log : List OwnerEvent) (event : OwnerEvent) :
    standing (log ++ [event]) = event.after (standing log) := by
  simp [standing]

@[simp] private theorem delivered_append (log : List OwnerEvent) (event : OwnerEvent) :
    delivered (log ++ [event]) = delivered log + if event.delivers then 1 else 0 := by
  simp [delivered, List.countP_cons]

/-- The session was found clear in the answer to a query. -/
def Cleared (log : List OwnerEvent) (session token at' : UInt64) : Prop :=
  ∃ query snapshot, [.received session at' query, .sent session snapshot].Sublist log ∧
    query.kind = .query ∧ query.request = token ∧ snapshot.kind = .snapshot ∧
    snapshot.request = token ∧ snapshot.flags = clearFlag

/-- The session was found clear, and activated while that was fresh. -/
def Activated (log : List OwnerEvent) (session : UInt64) : Prop :=
  ∃ asked query snapshot now activate,
    [.received session asked query, .sent session snapshot,
      .received session now activate].Sublist log ∧
    query.kind = .query ∧ snapshot.kind = .snapshot ∧ snapshot.request = query.request ∧
    snapshot.flags = clearFlag ∧ activate.kind = .activate ∧ activate.value = query.request ∧
    asked ≤ now ∧ now - asked < evidenceLifetimeMs

/-- The submission is the one that a message answers. -/
structure Answers (session : UInt64) (submit message : Message) : Prop where
  kind : submit.kind = .submit
  session : submit.session = session
  request : message.request = submit.request
  operation : message.operation = submit.operation
  amount : message.amount = submit.amount

/-- A submission that the message answers was received in the session. -/
def Submitted (log : List OwnerEvent) (session : UInt64) (message : Message) : Prop :=
  ∃ now submit, .received session now submit ∈ log ∧ Answers session submit message

/-- The worker of the submission that the message answers was launched and has ended, and the
message says how. -/
def Finished (log : List OwnerEvent) (session : UInt64) (message : Message) : Prop :=
  ∃ now submit worker ended,
    [.received session now submit, .launched session message.operation message.amount worker,
      .retired ended].Sublist log ∧
    Answers session submit message ∧ Evolves worker ended ∧ ended.Reaped ∧
    (message.flags, message.value) = Owner.verdict ended.observation message.amount

/-- How an event fits the log before it. -/
def Fine (log : List OwnerEvent) : OwnerEvent → Prop
  | .received _ _ _ => True
  | .sent session message => message.session = session ∧ (message.kind = .result →
      message.flags = notLaunched ∧ Submitted log session message ∨ Finished log session message)
  | .launched session operation amount process =>
    standing log = none ∧ Activated log session ∧ process.iterations = amount ∧
      ∀ n other, .launched session operation n other ∉ log
  | .retired process => (∃ worker, standing log = some worker ∧ Evolves worker process) ∧
      process.Reaped

section Log

variable {log more : List OwnerEvent} {session : UInt64} {message : Message}

private theorem Cleared.append {token asked : UInt64} (h : Cleared log session token asked) :
    Cleared (log ++ more) session token asked := by
  obtain ⟨query, snapshot, hsublist, hrest⟩ := h
  exact ⟨query, snapshot, hsublist.trans (List.sublist_append_left log more), hrest⟩

private theorem Activated.append (h : Activated log session) : Activated (log ++ more) session := by
  obtain ⟨asked, query, snapshot, now, activate, hsublist, hrest⟩ := h
  exact ⟨asked, query, snapshot, now, activate,
    hsublist.trans (List.sublist_append_left log more), hrest⟩

private theorem Submitted.append (h : Submitted log session message) :
    Submitted (log ++ more) session message := by
  obtain ⟨now, submit, hmem, hanswers⟩ := h
  exact ⟨now, submit, List.mem_append_left more hmem, hanswers⟩

private theorem Finished.append (h : Finished log session message) :
    Finished (log ++ more) session message := by
  obtain ⟨now, submit, worker, ended, hsublist, hrest⟩ := h
  exact ⟨now, submit, worker, ended, hsublist.trans (List.sublist_append_left log more), hrest⟩

end Log

/-- The verdict on a worker is that it was launched. -/
theorem verdict_flags (observed : ProcessObservation) (amount : UInt64) :
    (Owner.verdict observed amount).1 ≠ notLaunched := by
  unfold Owner.verdict
  split
  · split
    · exact (by decide : succeeded ≠ notLaunched)
    · split
      · exact (by decide : cancelled ≠ notLaunched)
      · exact (by decide : failed ≠ notLaunched)
  · exact (by decide : failed ≠ notLaunched)

namespace Owner

/-! ### What holds of every owner -/

/-- The operation that is outstanding. -/
structure Current (o : Owner) : Prop where
  kept : o.operationHandedOff = false ∧ o.operationDiscarded = false
  session : o.operationSession = o.epoch
  launched : ∃ now submit worker,
    [.received o.epoch now submit,
      .launched o.epoch o.operation o.amount worker].Sublist o.log ∧
    submit.kind = .submit ∧ submit.session = o.epoch ∧ submit.request = o.operationRequest ∧
    submit.operation = o.operation ∧ submit.amount = o.amount ∧
    (o.resultReady = false → standing o.log = some worker)

/-- The result that waits to be sent. -/
structure Ready (o : Owner) : Prop where
  operation : o.operation ≠ 0
  process : o.process = none
  kind : o.result.kind = .result
  session : o.result.session = o.epoch
  flags : o.result.flags ≠ notLaunched
  finished : Finished o.log o.epoch o.result

/-- What holds of the owner in every run. -/
structure Sound (o : Owner) : Prop where
  fine : Preceded Fine o.log
  clock : o.clockSeen = false → o.lastNow = 0
  faulted : o.fault = true → o.connected = false
  idle : o.connected = false → o.hasPending = false ∧ o.resultReady = false ∧ o.operation = 0 ∧
    o.active = false ∧ o.clearToken = 0
  process : ∀ p, o.process = some p → ∃ worker, standing o.log = some worker ∧ Evolves worker p
  spare : o.process = none → standing o.log = none ∨ o.fault = true
  conserved : o.launches =
    .ofNat (delivered o.log) + o.discardedResults + if o.operation = 0 then 0 else 1
  current : o.operation ≠ 0 → o.Current
  ready : o.resultReady = true → o.Ready
  pendingAt : o.hasPending = true → o.pendingAt ≤ o.lastNow
  session : o.hasPending = true → o.pending.session = o.epoch
  answer : o.hasPending = true → o.pending.kind = .result →
    o.resultReady = true ∧ o.pending = o.result ∨
      o.operation = 0 ∧ o.pending.flags = notLaunched ∧ Submitted o.log o.epoch o.pending
  tokenAt : o.clearToken ≠ 0 → o.clearTokenAt ≤ o.lastNow
  token : o.clearToken ≠ 0 → o.hasPending = false →
    Cleared o.log o.epoch o.clearToken o.clearTokenAt
  snapshot : o.clearToken ≠ 0 → o.hasPending = true → o.pending.kind = .snapshot ∧
    o.pending.request = o.clearToken ∧ o.pending.flags = clearFlag ∧
    ∃ query, .received o.epoch o.clearTokenAt query ∈ o.log ∧ query.kind = .query ∧
      query.request = o.clearToken
  active : o.active = true → Activated o.log o.epoch ∧ o.clearToken = 0
  claimed : o.operation ≠ 0 → o.active = true
  numbered : ∀ session operation amount p, .launched session operation amount p ∈ o.log →
    session ≤ o.epoch ∧ (session = o.epoch → operation ≤ o.lastOperation)

variable {o : Owner}

/-- A new owner is sound. -/
theorem sound_create (worker : String) (stopGraceMs : UInt64) :
    (create worker stopGraceMs).Sound := by
  constructor
  case fine => exact .nil
  case clock => exact fun _ ↦ rfl
  case idle => exact fun _ ↦ ⟨rfl, rfl, rfl, rfl, rfl⟩
  case spare => exact fun _ ↦ .inl rfl
  case conserved => rfl
  all_goals simp [create]

/-- An owner without a descriptor is sound whether it is faulted or not. -/
theorem Sound.withFault (h : o.Sound) (hidle : o.connected = false) :
    ({ o with fault := true } : Owner).Sound :=
  { h with
    faulted := fun _ ↦ hidle
    spare := fun _ ↦ .inr rfl
    current := fun hoperation ↦
      have hcurrent := h.current hoperation
      ⟨hcurrent.kept, hcurrent.session, hcurrent.launched⟩
    ready := fun hready ↦
      have hresult := h.ready hready
      ⟨hresult.operation, hresult.process, hresult.kind, hresult.session, hresult.flags,
        hresult.finished⟩ }

/-- A disconnection keeps an owner sound. -/
theorem Sound.disconnect (h : o.Sound) (now : UInt64) (answer : DisconnectAnswer) :
    (o.disconnect now answer).Sound := by
  constructor
  case fine => exact h.fine
  case clock => exact h.clock
  case faulted => exact fun _ ↦ rfl
  case idle => exact fun _ ↦ ⟨rfl, rfl, rfl, rfl, rfl⟩
  case process =>
    intro p hp
    obtain ⟨q, hq, rfl⟩ := Option.map_eq_some_iff.mp hp
    obtain ⟨worker, hworker, hevolves⟩ := h.process q hq
    refine ⟨worker, hworker, ?_⟩
    split
    · exact hevolves.tail (.stop now answer.stop)
    · exact hevolves
  case spare =>
    intro hnone
    have hbefore : o.process = none := Option.map_eq_none_iff.mp hnone
    exact (h.spare hbefore).imp_right fun hfault ↦ by simp [Owner.disconnect, hfault]
  case conserved =>
    have hconserved := h.conserved
    by_cases hoperation : o.operation = 0
    · simp [Owner.disconnect, hoperation] at hconserved ⊢
      exact hconserved
    · obtain ⟨hhanded, hdiscarded⟩ := (h.current hoperation).kept
      simp [Owner.disconnect, hoperation, hhanded, hdiscarded] at hconserved ⊢
      rw [hconserved]
      grind
  case numbered => exact h.numbered
  all_goals simp [Owner.disconnect]

/-- A fault that disconnects keeps an owner sound. -/
theorem Sound.fail (h : o.Sound) (now : UInt64) (answer : DisconnectAnswer) :
    (o.fail now answer).Sound := by
  have heq : o.fail now answer = { o.disconnect now answer with fault := true } := by
    simp [Owner.fail, Owner.disconnect]
  rw [heq]
  exact (h.disconnect now answer).withFault rfl

/-- Reading the clock keeps an owner sound. -/
theorem Sound.readClock (h : o.Sound) (now : UInt64) (answer : DisconnectAnswer) :
    (o.readClock now answer).Sound := by
  unfold Owner.readClock
  split
  · exact h.fail o.lastNow answer
  next hforward =>
  have hle : o.lastNow ≤ now := by
    cases hseen : o.clockSeen with
    | false => exact h.clock hseen ▸ UInt64.zero_le
    | true => exact UInt64.not_lt.mp fun hlt ↦ hforward ⟨hseen, hlt⟩
  exact { h with
    clock := fun hseen ↦ by cases hseen
    current := fun hoperation ↦
      have hcurrent := h.current hoperation
      ⟨hcurrent.kept, hcurrent.session, hcurrent.launched⟩
    ready := fun hready ↦
      have hresult := h.ready hready
      ⟨hresult.operation, hresult.process, hresult.kind, hresult.session, hresult.flags,
        hresult.finished⟩
    pendingAt := fun hpending ↦ (h.pendingAt hpending).trans hle
    tokenAt := fun htoken ↦ (h.tokenAt htoken).trans hle }

/-! ### The worker -/

/-- The worker that the owner retains may go on. -/
theorem Sound.evolve (h : o.Sound) {p q : ComputeProcess} (hp : o.process = some p)
    (hq : ∀ worker, standing o.log = some worker → Evolves worker p → Evolves worker q) :
    ({ o with process := some q } : Owner).Sound := by
  have hwaiting : o.resultReady = false := by
    rw [← Bool.not_eq_true]
    intro hready
    cases hp.symm.trans (h.ready hready).process
  exact { h with
    process := fun p' hp' ↦ by
      cases hp'
      obtain ⟨worker, hworker, hevolves⟩ := h.process p hp
      exact ⟨worker, hworker, hq worker hworker hevolves⟩
    spare := fun hnone ↦ by cases hnone
    current := fun hoperation ↦
      have hcurrent := h.current hoperation
      ⟨hcurrent.kept, hcurrent.session, hcurrent.launched⟩
    ready := fun hready ↦ by cases hwaiting.symm.trans hready }

/-- Giving up a worker that is gone keeps an owner sound. -/
theorem Sound.retire (h : o.Sound) {p : ComputeProcess} (hp : o.process = some p)
    (hreaped : p.Reaped) : (o.retire p).Sound := by
  obtain ⟨worker, hworker, hevolves⟩ := h.process p hp
  have hwaiting : o.resultReady = false := by
    rw [← Bool.not_eq_true]
    intro hready
    cases hp.symm.trans (h.ready hready).process
  have hfine : Preceded Fine (o.log ++ [.retired p]) :=
    Preceded.append_singleton.mpr ⟨h.fine, ⟨worker, hworker, hevolves⟩, hreaped⟩
  have hconserved : o.launches = .ofNat (delivered (o.log ++ [.retired p])) + o.discardedResults +
      if o.operation = 0 then 0 else 1 := by
    simpa [OwnerEvent.delivers] using h.conserved
  have hnumbered : ∀ session operation amount q,
      .launched session operation amount q ∈ o.log ++ [.retired p] →
        session ≤ o.epoch ∧ (session = o.epoch → operation ≤ o.lastOperation) := by
    intro session operation amount q hmem
    rcases List.mem_append.mp hmem with hold | hlast
    · exact h.numbered session operation amount q hold
    · cases List.mem_singleton.mp hlast
  have hanswer : o.hasPending = true → o.pending.kind = .result →
      o.operation = 0 ∧ o.pending.flags = notLaunched ∧
        Submitted (o.log ++ [.retired p]) o.epoch o.pending := by
    intro hpending hkind
    rcases h.answer hpending hkind with ⟨hready, -⟩ | ⟨hzero, hflags, hsubmitted⟩
    · cases hwaiting.symm.trans hready
    · exact ⟨hzero, hflags, hsubmitted.append⟩
  have hsnapshot : o.clearToken ≠ 0 → o.hasPending = true → o.pending.kind = .snapshot ∧
      o.pending.request = o.clearToken ∧ o.pending.flags = clearFlag ∧
      ∃ query, .received o.epoch o.clearTokenAt query ∈ o.log ++ [.retired p] ∧
        query.kind = .query ∧ query.request = o.clearToken := by
    intro htoken hpending
    obtain ⟨hkind, hrequest, hflags, query, hmem, hquery⟩ := h.snapshot htoken hpending
    exact ⟨hkind, hrequest, hflags, query, List.mem_append_left _ hmem, hquery⟩
  unfold Owner.retire
  dsimp only
  split
  · next hunclaimed =>
    have hzero : o.operation = 0 := hunclaimed.elim id fun hidle ↦ (h.idle hidle).2.2.1
    exact { h with
      fine := hfine
      process := fun q hq ↦ by cases hq
      spare := fun _ ↦ .inl (standing_append _ _)
      conserved := hconserved
      current := fun hne ↦ absurd hzero hne
      ready := fun hready ↦ by cases hwaiting.symm.trans hready
      answer := fun hpending hkind ↦ .inr (hanswer hpending hkind)
      token := fun htoken hpending ↦ (h.token htoken hpending).append
      snapshot := hsnapshot
      active := fun hactive ↦ (h.active hactive).imp_left .append
      numbered := hnumbered }
  · next hclaimed =>
    push Not at hclaimed
    obtain ⟨hoperation, hconnected⟩ := hclaimed
    obtain ⟨hkept, hsession, now, submit, launched, hsublist, hkind, hsubmit, hrequest, hnumber,
      hamount, hstanding⟩ := h.current hoperation
    obtain rfl : worker = launched :=
      Option.some.inj (hworker.symm.trans (hstanding hwaiting))
    have hfinished : Finished (o.log ++ [.retired p]) o.epoch
        { reply .result o.operationSession o.operationRequest with
          operation := o.operation, amount := o.amount
          value := (verdict p.observation o.amount).2
          flags := (verdict p.observation o.amount).1 } :=
      ⟨now, submit, worker, p, hsublist.append (List.Sublist.refl [OwnerEvent.retired p]),
        ⟨hkind, hsubmit, hrequest.symm, hnumber.symm, hamount.symm⟩, hevolves, hreaped, rfl⟩
    exact { h with
      fine := hfine
      idle := fun hidle ↦ absurd hidle hconnected
      process := fun q hq ↦ by cases hq
      spare := fun _ ↦ .inl (standing_append _ _)
      conserved := hconserved
      current := fun _ ↦
        { kept := hkept
          session := hsession
          launched := ⟨now, submit, worker,
            hsublist.trans (List.sublist_append_left o.log [.retired p]), hkind, hsubmit, hrequest,
            hnumber, hamount, fun hready ↦ by cases hready⟩ }
      ready := fun _ ↦
        { operation := hoperation
          process := rfl
          kind := rfl
          session := hsession
          flags := verdict_flags _ _
          finished := hfinished }
      answer := fun hpending hkind ↦ .inr (hanswer hpending hkind)
      token := fun htoken hpending ↦ (h.token htoken hpending).append
      snapshot := hsnapshot
      active := fun hactive ↦ (h.active hactive).imp_left .append
      numbered := hnumbered }

/-- Channels that are found closed behind a worker that has ended. -/
private theorem reaped_of_closed {p : ComputeProcess} {control event : Option Int}
    (hexit : p.observation.exitStatus.isSome = true) (heof : p.observation.eventEof = true)
    (hclosed : (p.closeChannels control event).1 = true) :
    (p.closeChannels control event).2.Reaped := by
  obtain ⟨closed, io, hobservation, hanswer, -⟩ := p.closeChannels_eq control event
  rw [ComputeProcess.Reaped, hobservation]
  exact ⟨hexit, heof, hanswer ▸ hclosed⟩

/-- A worker that the owner still retains was not found at its end, or its owner is faulted. -/
def Watched (o : Owner) : Prop :=
  ∀ p, o.process = some p → o.fault = true ∨
    p.observation.exitStatus.isSome = false ∨ p.observation.eventEof = false

/-- Observing the worker keeps an owner sound. -/
theorem Sound.observeNative (h : o.Sound) (now : UInt64) (answer : OwnerAnswer) :
    (o.observeNative now answer).Sound ∧ (o.observeNative now answer).Watched := by
  unfold Owner.observeNative
  cases hprocess : o.process with
  | none => exact ⟨h, fun p hp ↦ by cases hprocess.symm.trans hp⟩
  | some p =>
  dsimp only
  have hpolled := h.evolve hprocess (q := p.poll now answer.process) fun _ _ hevolves ↦
    hevolves.tail (.poll now answer.process)
  generalize hq : p.poll now answer.process = q at hpolled ⊢
  generalize hpolledState : ({ o with process := some q } : Owner) = polled at hpolled ⊢
  have hretained : polled.process = some q := by rw [← hpolledState]
  -- A stop of the worker leaves its exit status and the end of its stream.
  have hchecked : ∃ checked : Owner,
      (if q.observation.ownershipLost = true ∨ q.observation.malformed = true ∨
          q.observation.ioError ≠ 0 then polled.fail now answer.disconnect else polled) = checked ∧
        checked.Sound ∧
        (q.observation.exitStatus.isSome = true → checked.process = some q) ∧
        ∀ p, checked.process = some p →
          p.observation.exitStatus = q.observation.exitStatus ∧
            p.observation.eventEof = q.observation.eventEof := by
    split
    · refine ⟨_, rfl, hpolled.fail now answer.disconnect, fun hexit ↦ ?_, fun r hr ↦ ?_⟩
      · have hended : ¬ (q.observation.launched = true ∧
            q.observation.exitStatus.isNone = true) := by
          rintro ⟨-, hnone⟩
          rw [Option.isNone_iff_eq_none] at hnone
          rw [hnone] at hexit
          cases hexit
        change polled.process.map _ = some q
        rw [hretained, Option.map_some, if_neg hended]
      · obtain ⟨r', hr', rfl⟩ := Option.map_eq_some_iff.mp
          (show polled.process.map _ = some r from hr)
        cases hretained.symm.trans hr'
        split
        · obtain ⟨_, _, _, _, hstopped⟩ := q.requestStop_eq now answer.disconnect.stop
          rw [hstopped]
          exact ⟨rfl, rfl⟩
        · exact ⟨rfl, rfl⟩
    · refine ⟨polled, rfl, hpolled, fun _ ↦ hretained, fun r hr ↦ ?_⟩
      cases hretained.symm.trans hr
      exact ⟨rfl, rfl⟩
  obtain ⟨checked, heq, hsound, hkept, hsame⟩ := hchecked
  rw [heq]
  split
  · next hrunning =>
    refine ⟨hsound, fun r hr ↦ .inr ?_⟩
    obtain ⟨hexit, heof⟩ := hsame r hr
    rw [hexit, heof]
    exact hrunning.imp_left fun hnone ↦ by
      rw [Option.isNone_iff_eq_none] at hnone
      rw [hnone]
      rfl
  · next hended =>
    push Not at hended
    have hexit : q.observation.exitStatus.isSome = true := by
      rw [Option.isSome_iff_ne_none]
      exact fun hnone ↦ hended.1 (by rw [hnone]; rfl)
    have heof : q.observation.eventEof = true := by simpa using hended.2
    have hreleased := hsound.evolve (hkept hexit)
      (q := (q.closeChannels answer.control answer.event).2) fun _ _ hevolves ↦
        hevolves.tail (.close answer.control answer.event)
    split
    · refine ⟨hreleased.fail now answer.disconnect, fun r hr ↦ .inl ?_⟩
      simp [Owner.fail, Owner.disconnect]
    · next hclosed =>
      have hreaped := reaped_of_closed hexit heof (by simpa using hclosed)
      have hretired := hreleased.retire rfl hreaped
      have hsame : ∀ r : ComputeProcess, ({ checked with process := some r } : Owner).retire r =
          checked.retire r := fun _ ↦ rfl
      rw [hsame] at hretired ⊢
      refine ⟨hretired, fun r hr ↦ ?_⟩
      unfold Owner.retire at hr
      dsimp only at hr
      split at hr
      · cases hr
      · cases hr

/-! ### Messages -/

/-- Queueing a result that is ready keeps an owner sound. -/
theorem Sound.queueResult (h : o.Sound) : (o.queueResult o.lastNow).Sound := by
  unfold Owner.queueResult
  split
  · next hready =>
    obtain ⟨hpending, hready⟩ := hready
    have hresult := h.ready hready
    exact { h with
      idle := fun hidle ↦ by cases hready.symm.trans (h.idle hidle).2.1
      current := fun hoperation ↦
        have hcurrent := h.current hoperation
        ⟨hcurrent.kept, hcurrent.session, hcurrent.launched⟩
      ready := fun _ ↦ ⟨hresult.operation, hresult.process, hresult.kind, hresult.session,
        hresult.flags, hresult.finished⟩
      pendingAt := fun _ ↦ le_rfl
      session := fun _ ↦ hresult.session
      answer := fun _ _ ↦ .inl ⟨hready, rfl⟩
      token := fun _ hidle ↦ by cases hidle
      snapshot := fun htoken _ ↦ absurd (h.active (h.claimed hresult.operation)).2 htoken }
  · exact h

/-- Sending what waits keeps an owner sound. -/
theorem Sound.flush (h : o.Sound) (answer : OwnerAnswer) : (o.flush o.lastNow answer).Sound := by
  unfold Owner.flush
  split
  · exact h
  next hwaiting =>
  push Not at hwaiting
  have hpending : o.hasPending = true := by simpa using hwaiting.1
  have hconnected : o.connected = true := by simpa using hwaiting.2
  split
  · exact h.disconnect o.lastNow answer.disconnect
  cases sendMessage answer.send with
  | closed => exact h.disconnect o.lastNow answer.disconnect
  | again => exact h
  | done =>
  dsimp only
  generalize hsent : OwnerEvent.sent o.epoch o.pending = sent
  have hstanding : standing (o.log ++ [sent]) = standing o.log := by
    rw [standing_append, ← hsent]
    rfl
  have hfine : Preceded Fine (o.log ++ [sent]) := by
    refine Preceded.append_singleton.mpr ⟨h.fine, ?_⟩
    rw [← hsent]
    refine ⟨h.session hpending, fun hkind ↦ ?_⟩
    rcases h.answer hpending hkind with ⟨hready, hresult⟩ | ⟨-, hflags, hsubmitted⟩
    · rw [hresult]
      exact .inr (h.ready hready).finished
    · exact .inl ⟨hflags, hsubmitted⟩
  have hnumbered : ∀ session operation amount q,
      .launched session operation amount q ∈ o.log ++ [sent] →
        session ≤ o.epoch ∧ (session = o.epoch → operation ≤ o.lastOperation) := by
    intro session operation amount q hmem
    rcases List.mem_append.mp hmem with hold | hlast
    · exact h.numbered session operation amount q hold
    · rw [List.mem_singleton, ← hsent] at hlast
      cases hlast
  have hprocess : ∀ p, o.process = some p →
      ∃ worker, standing (o.log ++ [sent]) = some worker ∧ Evolves worker p := by
    rw [hstanding]
    exact h.process
  have hspare : o.process = none → standing (o.log ++ [sent]) = none ∨ o.fault = true := by
    rw [hstanding]
    exact h.spare
  have htoken : o.clearToken ≠ 0 →
      Cleared (o.log ++ [sent]) o.epoch o.clearToken o.clearTokenAt := by
    intro htoken
    obtain ⟨hkind, hrequest, hflags, query, hmem, hquery, hasked⟩ := h.snapshot htoken hpending
    refine ⟨query, o.pending, ?_, hquery, hasked, hkind, hrequest, hflags⟩
    rw [← hsent]
    exact (List.singleton_sublist.mpr hmem).append (List.Sublist.refl [OwnerEvent.sent _ _])
  have hcount : delivered (o.log ++ [sent]) = delivered o.log +
      if o.pending.kind = .result ∧ o.pending.flags ≠ notLaunched then 1 else 0 := by
    rw [delivered_append, ← hsent]
    simp only [OwnerEvent.delivers, decide_eq_true_eq]
  split
  · next hkind =>
    replace hkind : o.pending.kind = .result := hkind
    have hconserved : o.launches = .ofNat (delivered (o.log ++ [sent])) + o.discardedResults := by
      have hconserved := h.conserved
      rw [hcount]
      rcases h.answer hpending hkind with ⟨hready, hresult⟩ | ⟨hzero, hflags, -⟩
      · have hclaimed := h.ready hready
        rw [if_neg hclaimed.operation] at hconserved
        rw [if_pos ⟨hkind, hresult ▸ hclaimed.flags⟩, UInt64.ofNat_add, hconserved]
        have hone : UInt64.ofNat 1 = 1 := rfl
        rw [hone]
        ac_rfl
      · rw [if_pos hzero] at hconserved
        rw [if_neg fun hresult ↦ hresult.2 hflags, hconserved]
        simp
    exact { h with
      fine := hfine
      idle := fun hidle ↦ by cases hconnected.symm.trans hidle
      process := hprocess
      spare := hspare
      conserved := by
        rw [if_pos rfl, UInt64.add_zero]
        exact hconserved
      current := fun hne ↦ absurd rfl hne
      ready := fun hready ↦ by cases hready
      pendingAt := fun hnone ↦ by cases hnone
      session := fun hnone ↦ by cases hnone
      answer := fun hnone ↦ by cases hnone
      token := fun hne _ ↦ htoken hne
      snapshot := fun _ hnone ↦ by cases hnone
      active := fun hactive ↦ (h.active hactive).imp_left .append
      claimed := fun hne ↦ absurd rfl hne
      numbered := hnumbered }
  · next hkind =>
    replace hkind : o.pending.kind ≠ .result := hkind
    have hconserved : o.launches = .ofNat (delivered (o.log ++ [sent])) + o.discardedResults +
        if o.operation = 0 then 0 else 1 := by
      rw [hcount, if_neg fun hresult ↦ hkind hresult.1]
      exact h.conserved
    exact { h with
      fine := hfine
      idle := fun hidle ↦ by cases hconnected.symm.trans hidle
      process := hprocess
      spare := hspare
      conserved := hconserved
      current := fun hoperation ↦ by
        obtain ⟨hkept, hsession, now, submit, launched, hsublist, hkind, hsubmit, hrequest,
          hnumber, hamount, hrunning⟩ := h.current hoperation
        exact ⟨hkept, hsession, now, submit, launched,
          hsublist.trans (List.sublist_append_left o.log [sent]), hkind, hsubmit, hrequest,
          hnumber, hamount, fun hready ↦ hstanding.trans (hrunning hready)⟩
      ready := fun hready ↦
        have hresult := h.ready hready
        ⟨hresult.operation, hresult.process, hresult.kind, hresult.session, hresult.flags,
          hresult.finished.append⟩
      pendingAt := fun hnone ↦ by cases hnone
      session := fun hnone ↦ by cases hnone
      answer := fun hnone ↦ by cases hnone
      token := fun hne _ ↦ htoken hne
      snapshot := fun _ hnone ↦ by cases hnone
      active := fun hactive ↦ (h.active hactive).imp_left .append
      numbered := hnumbered }

/-- A message that is received is noted. -/
theorem Sound.received (h : o.Sound) (now : UInt64) (message : Message) :
    (o.note (.received o.epoch now message)).Sound := by
  have hnoted : standing (o.log ++ [.received o.epoch now message]) = standing o.log :=
    standing_append _ _
  exact { h with
    fine := Preceded.append_singleton.mpr ⟨h.fine, trivial⟩
    process := fun p hp ↦ by
      obtain ⟨worker, hworker, hevolves⟩ := h.process p hp
      exact ⟨worker, hnoted.trans hworker, hevolves⟩
    spare := fun hnone ↦ (h.spare hnone).imp_left hnoted.trans
    conserved := by
      rw [show delivered (o.note (.received o.epoch now message)).log = delivered o.log from
        delivered_append _ _]
      exact h.conserved
    current := fun hoperation ↦ by
      obtain ⟨hkept, hsession, at', submit, worker, hsublist, hkind, hsubmit, hrequest, hnumber,
        hamount, hrunning⟩ := h.current hoperation
      exact ⟨hkept, hsession, at', submit, worker,
        hsublist.trans (List.sublist_append_left o.log [.received o.epoch now message]), hkind,
        hsubmit, hrequest, hnumber, hamount, fun hready ↦ hnoted.trans (hrunning hready)⟩
    ready := fun hready ↦
      have hresult := h.ready hready
      ⟨hresult.operation, hresult.process, hresult.kind, hresult.session, hresult.flags,
        hresult.finished.append⟩
    answer := fun hpending hkind ↦ (h.answer hpending hkind).imp_right fun ⟨hzero, hflags, hold⟩ ↦
      ⟨hzero, hflags, hold.append⟩
    token := fun htoken hpending ↦ (h.token htoken hpending).append
    snapshot := fun htoken hpending ↦ by
      obtain ⟨hkind, hrequest, hflags, query, hmem, hquery⟩ := h.snapshot htoken hpending
      exact ⟨hkind, hrequest, hflags, query, List.mem_append_left _ hmem, hquery⟩
    active := fun hactive ↦ (h.active hactive).imp_left .append
    numbered := fun session operation amount p hmem ↦ by
      rcases List.mem_append.mp hmem with hold | hlast
      · exact h.numbered session operation amount p hold
      · cases List.mem_singleton.mp hlast }

/-- The answer to a query keeps an owner sound. -/
theorem Sound.receiveQuery (h : o.Sound) (answer : OwnerAnswer) {message : Message}
    (hmem : .received o.epoch o.lastNow message ∈ o.log) (hconnected : o.connected = true)
    (hkind : message.kind = .query) (hactive : o.active = false) :
    (o.receiveQuery o.lastNow answer message).Sound := by
  have hidle : o.operation = 0 := by
    by_contra hoperation
    cases hactive.symm.trans (h.claimed hoperation)
  have hunready : ¬ o.resultReady = true := fun hready ↦ (h.ready hready).operation hidle
  unfold Owner.receiveQuery
  dsimp only
  split
  · exact { h with
      idle := fun hnone ↦ by cases hconnected.symm.trans hnone
      current := fun hoperation ↦ absurd hidle hoperation
      ready := fun hready ↦ absurd hready hunready
      pendingAt := fun _ ↦ le_rfl
      session := fun _ ↦ rfl
      answer := fun _ hresult ↦ by cases hresult
      tokenAt := fun _ ↦ le_rfl
      token := fun _ hnone ↦ by cases hnone
      snapshot := fun _ _ ↦ ⟨rfl, rfl, rfl, message, hmem, hkind, rfl⟩
      active := fun hsome ↦ by cases hactive.symm.trans hsome }
  · exact { h with
      idle := fun hnone ↦ by cases hconnected.symm.trans hnone
      current := fun hoperation ↦ absurd hidle hoperation
      ready := fun hready ↦ absurd hready hunready
      pendingAt := fun _ ↦ le_rfl
      session := fun _ ↦ rfl
      answer := fun _ hresult ↦ by cases hresult
      tokenAt := fun hne ↦ absurd rfl hne
      token := fun hne ↦ absurd rfl hne
      snapshot := fun hne ↦ absurd rfl hne
      active := fun hsome ↦ by cases hactive.symm.trans hsome }

/-- An activation in time keeps an owner sound. -/
theorem Sound.receiveActivate (h : o.Sound) {log : List OwnerEvent} {message : Message}
    (hlog : o.log = log ++ [.received o.epoch o.lastNow message])
    (hcleared : Cleared log o.epoch o.clearToken o.clearTokenAt) (hconnected : o.connected = true)
    (hkind : message.kind = .activate) (hactive : o.active = false)
    (hnone : o.clearToken ≠ 0) (hvalue : message.value = o.clearToken)
    (hfresh : o.lastNow - o.clearTokenAt < evidenceLifetimeMs) :
    (o.receiveActivate o.lastNow message).Sound := by
  have hidle : o.operation = 0 := by
    by_contra hoperation
    cases hactive.symm.trans (h.claimed hoperation)
  obtain ⟨query, snapshot, hsublist, hquery, hasked, hsnapshot, hrequest, hflags⟩ := hcleared
  have hactivated : Activated o.log o.epoch := by
    refine ⟨o.clearTokenAt, query, snapshot, o.lastNow, message, ?_, hquery, hsnapshot,
      hrequest.trans hasked.symm, hflags, hkind, hvalue.trans hasked.symm, h.tokenAt hnone, hfresh⟩
    rw [hlog]
    exact hsublist.append (List.Sublist.refl [OwnerEvent.received _ _ _])
  exact { h with
    idle := fun hnone ↦ by cases hconnected.symm.trans hnone
    current := fun hoperation ↦ absurd hidle hoperation
    ready := fun hready ↦ absurd hidle (h.ready hready).operation
    pendingAt := fun _ ↦ le_rfl
    session := fun _ ↦ rfl
    answer := fun _ hresult ↦ by cases hresult
    tokenAt := fun hne ↦ absurd rfl hne
    token := fun hne ↦ absurd rfl hne
    snapshot := fun hne ↦ absurd rfl hne
    active := fun _ ↦ ⟨hactivated, rfl⟩
    claimed := fun _ ↦ rfl }

/-- A launch leaves the amount of a process. -/
private theorem iterations_launch (p : ComputeProcess) (answer : LaunchAnswer) :
    (p.launch answer).2.iterations = p.iterations := by
  have hreport : ∀ (q : ComputeProcess) (close : Option Int),
      (q.reportClose close).iterations = q.iterations := by
    intro q close
    cases close with
    | none => rfl
    | some error =>
      unfold ComputeProcess.reportClose ComputeProcess.rememberIoError
      dsimp only
      split
      · rfl
      · rfl
  unfold ComputeProcess.launch
  split
  · rfl
  split
  · rfl
  split
  · rfl
  split
  · rfl
  dsimp only
  split
  · rw [hreport]
    exact hreport _ _
  split
  · rw [hreport]
    exact hreport _ _
  · rw [hreport]
    exact hreport _ _

/-- The answer to a submission keeps an owner sound. -/
theorem Sound.receiveSubmit (h : o.Sound) (answer : OwnerAnswer) {message : Message}
    (hmem : .received o.epoch o.lastNow message ∈ o.log) (hconnected : o.connected = true)
    (hprocess : o.process = none) (hkind : message.kind = .submit)
    (hsession : message.session = o.epoch) (hactive : o.active = true) (hidle : o.operation = 0)
    (hnumber : o.lastOperation < message.operation) :
    (o.receiveSubmit o.lastNow answer message).Sound := by
  have hopen : o.fault = false := by
    rw [← Bool.not_eq_true]
    intro hfault
    cases hconnected.symm.trans (h.faulted hfault)
  have hfree : standing o.log = none := (h.spare hprocess).resolve_right (by simp [hopen])
  have hunready : ¬ o.resultReady = true := fun hready ↦ (h.ready hready).operation hidle
  have htoken : o.clearToken = 0 := (h.active hactive).2
  unfold Owner.receiveSubmit
  split
  · exact h.fail o.lastNow answer.disconnect
  have hiterations := iterations_launch
    (ComputeProcess.create o.worker message.amount o.stopGraceMs) answer.launch
  generalize (ComputeProcess.create o.worker message.amount o.stopGraceMs).launch answer.launch =
    launched at hiterations ⊢
  obtain ⟨launched, candidate⟩ := launched
  dsimp only at hiterations ⊢
  have hraised : ∀ session operation amount p, .launched session operation amount p ∈ o.log →
      session ≤ o.epoch ∧ (session = o.epoch → operation ≤ message.operation) :=
    fun session operation amount p hold ↦ (h.numbered session operation amount p hold).imp_right
      fun hle hsame ↦ (hle hsame).trans hnumber.le
  cases launched with
  | false =>
    have hrefused : ({ o with
        lastRequest := message.request, lastOperation := message.operation
        lastObservation := candidate.observation } : Owner).Sound :=
      { h with
        current := fun hoperation ↦ absurd hidle hoperation
        ready := fun hready ↦ absurd hready hunready
        numbered := hraised }
    simp only [Bool.false_eq_true, if_false, if_true]
    split
    · exact hrefused.fail o.lastNow answer.disconnect
    · exact { hrefused with
        idle := fun hnone ↦ by cases hconnected.symm.trans hnone
        current := fun hoperation ↦ absurd hidle hoperation
        ready := fun hready ↦ absurd hready hunready
        pendingAt := fun _ ↦ le_rfl
        session := fun _ ↦ rfl
        answer := fun _ _ ↦ .inr ⟨hidle, rfl, o.lastNow, message, hmem, hkind, hsession, rfl, rfl, rfl⟩
        token := fun _ hnone ↦ by cases hnone
        snapshot := fun hne ↦ absurd htoken hne }
  | true =>
    simp only [if_true, Bool.true_eq_false, if_false]
    have hlog : Preceded Fine
        (o.log ++ [.launched o.epoch message.operation message.amount candidate]) := by
      refine Preceded.append_singleton.mpr ⟨h.fine, hfree, (h.active hactive).1, hiterations, ?_⟩
      intro n other hother
      exact absurd ((h.numbered _ _ _ _ hother).2 rfl) (UInt64.not_le.mpr hnumber)
    have hlaunches : ∀ session operation amount p, .launched session operation amount p ∈
        o.log ++ [.launched o.epoch message.operation message.amount candidate] →
        session ≤ o.epoch ∧ (session = o.epoch → operation ≤ message.operation) := by
      intro session operation amount p hmem
      rcases List.mem_append.mp hmem with hold | hlast
      · exact hraised session operation amount p hold
      · cases List.mem_singleton.mp hlast
        exact ⟨le_rfl, fun _ ↦ le_rfl⟩
    have hconserved : o.launches =
        .ofNat (delivered (o.log ++
          [.launched o.epoch message.operation message.amount candidate])) +
            o.discardedResults := by
      have hconserved := h.conserved
      rw [if_pos hidle, UInt64.add_zero] at hconserved
      rw [delivered_append]
      exact hconserved
    split
    · constructor
      case fine => exact hlog
      case clock => exact h.clock
      case faulted => exact fun _ ↦ rfl
      case idle => exact fun _ ↦ ⟨rfl, rfl, rfl, rfl, rfl⟩
      case process =>
        intro p hp
        obtain ⟨q, hq, -⟩ := Option.map_eq_some_iff.mp
          (show o.process.map _ = some p from hp)
        cases hprocess.symm.trans hq
      case spare => exact fun _ ↦ .inr (by simp [Owner.fail, Owner.disconnect])
      case conserved => simpa [Owner.fail, Owner.disconnect, Owner.note, hidle] using hconserved
      case numbered => exact hlaunches
      all_goals simp [Owner.fail, Owner.disconnect]
    · exact { h with
        fine := hlog
        idle := fun hnone ↦ by cases hconnected.symm.trans hnone
        process := fun p hp ↦ by
          cases hp
          exact ⟨candidate, standing_append _ _, .refl⟩
        spare := fun hnone ↦ by cases hnone
        conserved := by
          have hne : message.operation ≠ 0 := by
            rintro hzero
            rw [hzero] at hnumber
            exact absurd hnumber (UInt64.not_lt.mpr UInt64.zero_le)
          change o.launches + 1 = _ + _ + if message.operation = 0 then 0 else 1
          rw [if_neg hne, hconserved]
          rfl
        current := fun _ ↦
          { kept := ⟨rfl, rfl⟩
            session := rfl
            launched := ⟨o.lastNow, message, candidate,
              (List.singleton_sublist.mpr hmem).append
                (List.Sublist.refl [OwnerEvent.launched _ _ _ _]),
              hkind, hsession, rfl, rfl, rfl, fun _ ↦ standing_append _ _⟩ }
        ready := fun hready ↦ absurd hready hunready
        pendingAt := fun _ ↦ le_rfl
        session := fun _ ↦ rfl
        answer := fun _ hresult ↦ by cases hresult
        token := fun _ hnone ↦ by cases hnone
        snapshot := fun hne ↦ absurd htoken hne
        active := fun hsome ↦ (h.active hsome).imp_left .append
        claimed := fun _ ↦ hactive
        numbered := hlaunches }

/-- Receiving a message keeps an owner sound. -/
theorem Sound.receive (h : o.Sound) (answer : OwnerAnswer) (hwatched : o.Watched)
    (hconnected : o.connected = true) (hpending : o.hasPending = false) :
    (o.receive o.lastNow answer).Sound := by
  unfold Owner.receive
  split
  · exact h
  · exact h.disconnect o.lastNow answer.disconnect
  next message _ =>
  have hnoted := h.received o.lastNow message
  have hmem : .received o.epoch o.lastNow message ∈
      (o.note (.received o.epoch o.lastNow message)).log :=
    List.mem_append_right o.log (List.mem_singleton.mpr rfl)
  dsimp only
  split
  · exact hnoted.disconnect o.lastNow answer.disconnect
  next hvalid =>
  push Not at hvalid
  split
  · next hquery => exact hnoted.receiveQuery answer hmem hconnected hquery.1 hquery.2.1
  split
  · next hactivate =>
    obtain ⟨hkind, hactive, -, -, -, htoken, hvalue, hfresh, -⟩ := hactivate
    exact hnoted.receiveActivate rfl (h.token htoken hpending) hconnected hkind hactive htoken
      hvalue hfresh
  split
  · next hsubmit =>
    obtain ⟨hkind, hactive, hidle, hnumber, -, -, -, -, hclear⟩ := hsubmit
    refine hnoted.receiveSubmit answer hmem hconnected ?_ hkind hvalid.1 hactive hidle hnumber
    -- A worker behind which the session is clear would have been given up.
    by_contra hsome
    obtain ⟨p, hp⟩ := Option.ne_none_iff_exists'.mp hsome
    have hp : o.process = some p := hp
    have hopen : o.fault = false := by
      rw [← Bool.not_eq_true]
      intro hfault
      cases hconnected.symm.trans (h.faulted hfault)
    have hsettled : settled p.observation = true := by
      have hclear : o.clear answer.canLaunch = true := hclear
      unfold Owner.clear at hclear
      split at hclear
      · cases hclear
      · rw [hp] at hclear
        exact hclear
    simp only [settled, Bool.and_eq_true] at hsettled
    obtain ⟨⟨⟨⟨⟨hexit, heof⟩, -⟩, -⟩, -⟩, -⟩ := hsettled
    rcases hwatched p hp with hfault | hnone | hmore
    · cases hopen.symm.trans hfault
    · cases hexit.symm.trans hnone
    · cases heof.symm.trans hmore
  · exact hnoted.disconnect o.lastNow answer.disconnect

/-! ### Calls -/

/-- The owner as `flush` meets it in a poll. -/
def atFlush (o : Owner) (now : UInt64) (answer : OwnerAnswer) : Owner :=
  let o := o.readClock now answer.disconnect
  (o.observeNative o.lastNow answer).queueResult o.lastNow

/-- The owner as `receive` meets it in a poll. -/
def atReceive (o : Owner) (now : UInt64) (answer : OwnerAnswer) : Owner :=
  let o := o.atFlush now answer
  (if o.hasPending then o.flush o.lastNow answer else o).queueResult o.lastNow

/-- What is the same while the owner neither reads its clock nor receives: the time, the session
and the launches; a fault stays, and nothing is attached. -/
structure Stays (o o' : Owner) : Prop where
  lastNow : o'.lastNow = o.lastNow
  epoch : o'.epoch = o.epoch
  launches : o'.launches = o.launches
  fault : o.fault = true → o'.fault = true
  connected : o'.connected = true → o.connected = true

namespace Stays

private theorem refl (o : Owner) : Stays o o := ⟨rfl, rfl, rfl, id, id⟩

private theorem trans {o o' o'' : Owner} (h : Stays o o') (h' : Stays o' o'') : Stays o o'' where
  lastNow := h'.lastNow.trans h.lastNow
  epoch := h'.epoch.trans h.epoch
  launches := h'.launches.trans h.launches
  fault := h'.fault ∘ h.fault
  connected := h.connected ∘ h'.connected

end Stays

private theorem stays_disconnect (o : Owner) (now : UInt64) (answer : DisconnectAnswer) :
    Stays o (o.disconnect now answer) where
  lastNow := rfl
  epoch := rfl
  launches := rfl
  fault := fun hfault ↦ by simp [Owner.disconnect, hfault]
  connected := fun hnone ↦ by cases hnone

private theorem stays_fail (o : Owner) (now : UInt64) (answer : DisconnectAnswer) :
    Stays o (o.fail now answer) where
  lastNow := rfl
  epoch := rfl
  launches := rfl
  fault := fun _ ↦ by simp [Owner.fail, Owner.disconnect]
  connected := fun hnone ↦ by cases hnone

private theorem stays_process (o : Owner) (p : ComputeProcess) :
    Stays o { o with process := some p } := ⟨rfl, rfl, rfl, id, id⟩

private theorem stays_retire (o : Owner) (p : ComputeProcess) : Stays o (o.retire p) := by
  unfold Owner.retire
  dsimp only
  split
  · exact ⟨rfl, rfl, rfl, id, id⟩
  · exact ⟨rfl, rfl, rfl, id, id⟩

private theorem stays_observeNative (o : Owner) (now : UInt64) (answer : OwnerAnswer) :
    Stays o (o.observeNative now answer) := by
  unfold Owner.observeNative
  cases o.process with
  | none => exact .refl o
  | some p =>
    dsimp only
    have hchecked : ∀ (c : Prop) [Decidable c],
        Stays o (if c then
          ({ o with process := some (p.poll now answer.process) } : Owner).fail now
            answer.disconnect
        else { o with process := some (p.poll now answer.process) }) := by
      intro c _
      split
      · exact (stays_process o _).trans (stays_fail _ now answer.disconnect)
      · exact stays_process o _
    split
    · exact hchecked _
    · split
      · exact (hchecked _).trans ((stays_process _ _).trans (stays_fail _ _ _))
      · exact (hchecked _).trans ((stays_process _ _).trans (stays_retire _ _))

private theorem stays_queueResult (o : Owner) (now : UInt64) : Stays o (o.queueResult now) := by
  unfold Owner.queueResult
  split
  · exact ⟨rfl, rfl, rfl, id, id⟩
  · exact .refl o

private theorem stays_flush (o : Owner) (now : UInt64) (answer : OwnerAnswer) :
    Stays o (o.flush now answer) := by
  unfold Owner.flush
  split
  · exact .refl o
  split
  · exact stays_disconnect o now answer.disconnect
  cases sendMessage answer.send with
  | closed => exact stays_disconnect o now answer.disconnect
  | again => exact .refl o
  | done =>
    dsimp only
    split
    · exact ⟨rfl, rfl, rfl, id, id⟩
    · exact ⟨rfl, rfl, rfl, id, id⟩

/-- Queueing leaves the worker. -/
theorem Watched.queueResult (h : o.Watched) (now : UInt64) : (o.queueResult now).Watched := by
  unfold Owner.queueResult
  split
  · exact h
  · exact h

/-- A flush that leaves the connection leaves the worker. -/
theorem Watched.flush (h : o.Watched) (now : UInt64) (answer : OwnerAnswer)
    (hconnected : (o.flush now answer).connected = true) : (o.flush now answer).Watched := by
  unfold Owner.flush at hconnected ⊢
  split
  · exact h
  next hwaiting =>
  rw [if_neg hwaiting] at hconnected
  split
  · next hlate =>
    rw [if_pos hlate] at hconnected
    cases hconnected
  next hfresh =>
  rw [if_neg hfresh] at hconnected
  cases hsent : sendMessage answer.send with
  | closed =>
    rw [hsent] at hconnected
    cases hconnected
  | again => exact h
  | done =>
    dsimp only
    split
    · exact h
    · exact h

/-- The exchange of messages keeps an owner sound. -/
theorem Sound.exchange (h : o.Sound) (hwatched : o.Watched) (answer : OwnerAnswer) :
    (o.exchange o.lastNow answer).Sound := by
  unfold Owner.exchange
  split
  · exact h
  have hqueued := h.queueResult
  have hqueuedWatched := hwatched.queueResult o.lastNow
  have hqueuedLast := (o.stays_queueResult o.lastNow).lastNow
  generalize o.queueResult o.lastNow = queued at hqueued hqueuedWatched hqueuedLast ⊢
  rw [← hqueuedLast]
  have hflushed : ∃ flushed : Owner,
      (if queued.hasPending = true then queued.flush queued.lastNow answer else queued) = flushed ∧
        flushed.Sound ∧ (flushed.connected = true → flushed.Watched) ∧
        flushed.lastNow = queued.lastNow := by
    split
    · exact ⟨_, rfl, hqueued.flush answer, hqueuedWatched.flush queued.lastNow answer,
        (queued.stays_flush queued.lastNow answer).lastNow⟩
    · exact ⟨queued, rfl, hqueued, fun _ ↦ hqueuedWatched, rfl⟩
  obtain ⟨flushed, heq, hsound, hflushedWatched, hflushedLast⟩ := hflushed
  dsimp only
  rw [heq, ← hflushedLast]
  split
  · exact hsound
  next hconnected =>
  have hconnected : flushed.connected = true := by simpa using hconnected
  have hagain := hsound.queueResult
  have hagainWatched := (hflushedWatched hconnected).queueResult flushed.lastNow
  have hagainConnected : (flushed.queueResult flushed.lastNow).connected = true := by
    unfold Owner.queueResult
    split
    · exact hconnected
    · exact hconnected
  have hagainLast := (flushed.stays_queueResult flushed.lastNow).lastNow
  generalize flushed.queueResult flushed.lastNow = again
    at hagain hagainWatched hagainConnected hagainLast ⊢
  split
  · next hpending =>
    rw [← hagainLast]
    exact hagain.receive answer hagainWatched hagainConnected hpending
  · exact hagain

/-- A poll keeps an owner sound. -/
theorem Sound.poll (h : o.Sound) (now : UInt64) (answer : OwnerAnswer) :
    (o.poll now answer).Sound := by
  unfold Owner.poll
  have hclock := h.readClock now answer.disconnect
  generalize o.readClock now answer.disconnect = clocked at hclock ⊢
  obtain ⟨hobserved, hwatched⟩ := hclock.observeNative clocked.lastNow answer
  have hexchanged := hobserved.exchange hwatched answer
  rw [(clocked.stays_observeNative clocked.lastNow answer).lastNow] at hexchanged
  exact hexchanged

/-- An attachment keeps an owner sound. -/
theorem Sound.attach (h : o.Sound) (now : UInt64) (answer : AttachAnswer) :
    (o.attach now answer).2.Sound := by
  unfold Owner.attach
  split
  · have hfirst : (if o.clockSeen = true ∧ now < o.lastNow then
        o.fail o.lastNow answer.disconnect else o).Sound := by
      split
      · exact h.fail o.lastNow answer.disconnect
      · exact h
    generalize (if o.clockSeen = true ∧ now < o.lastNow then
      o.fail o.lastNow answer.disconnect else o) = first at hfirst ⊢
    dsimp only
    split
    · exact hfirst.fail first.lastNow answer.disconnect
    · exact hfirst
  next hallowed =>
  push Not at hallowed
  obtain ⟨hconnected, hopen, hroom, hforward, -, -⟩ := hallowed
  split
  · exact h
  have hclosed : o.connected = false := by simpa using hconnected
  obtain ⟨-, hunready, hoperation, hinactive, htoken⟩ := h.idle hclosed
  have hnext : o.epoch < o.epoch + 1 := by
    grind
  exact { h with
    clock := fun hseen ↦ by cases hseen
    faulted := fun hfault ↦ absurd hfault hopen
    idle := fun hnone ↦ by cases hnone
    current := fun hne ↦ absurd hoperation hne
    ready := fun hready ↦ by cases hunready.symm.trans hready
    pendingAt := fun _ ↦ le_rfl
    session := fun _ ↦ rfl
    answer := fun _ hresult ↦ by cases hresult
    tokenAt := fun hne ↦ absurd rfl hne
    token := fun hne ↦ absurd rfl hne
    snapshot := fun hne ↦ absurd rfl hne
    active := fun hsome ↦ by cases hsome
    claimed := fun hne ↦ absurd hoperation hne
    numbered := fun session operation amount p hmem ↦ by
      have hle := (h.numbered session operation amount p hmem).1
      refine ⟨hle.trans hnext.le, fun hsame ↦ absurd hle ?_⟩
      rw [show session = o.epoch + 1 from hsame]
      exact UInt64.not_le.mpr hnext }

private theorem Sound.atFlush (h : o.Sound) (now : UInt64) (answer : OwnerAnswer) :
    (o.atFlush now answer).Sound := by
  have hclock := h.readClock now answer.disconnect
  unfold Owner.atFlush
  generalize o.readClock now answer.disconnect = clocked at hclock ⊢
  have hqueued := (hclock.observeNative clocked.lastNow answer).1.queueResult
  rwa [(clocked.stays_observeNative clocked.lastNow answer).lastNow] at hqueued

private theorem Sound.atReceive (h : o.Sound) (now : UInt64) (answer : OwnerAnswer) :
    (o.atReceive now answer).Sound := by
  have hflush := h.atFlush now answer
  unfold Owner.atReceive
  generalize o.atFlush now answer = queued at hflush ⊢
  dsimp only
  split
  · have hqueued := (hflush.flush answer).queueResult
    rwa [(queued.stays_flush queued.lastNow answer).lastNow] at hqueued
  · exact hflush.queueResult

/-- A poll flushes and receives at the last reading of its clock. -/
theorem poll_eq (o : Owner) (now : UInt64) (answer : OwnerAnswer) :
    o.poll now answer =
      let observed := (o.readClock now answer.disconnect).observeNative
        (o.readClock now answer.disconnect).lastNow answer
      let flushing := o.atFlush now answer
      let flushed := if flushing.hasPending then flushing.flush flushing.lastNow answer else flushing
      let receiving := o.atReceive now answer
      if observed.connected = false then observed
      else if flushed.connected = false then flushed
      else if receiving.hasPending = false then receiving.receive receiving.lastNow answer
      else receiving := by
  unfold Owner.poll Owner.exchange Owner.atReceive Owner.atFlush
  dsimp only
  generalize o.readClock now answer.disconnect = clocked
  have hobserved := (clocked.stays_observeNative clocked.lastNow answer).lastNow
  generalize clocked.observeNative clocked.lastNow answer = observed at hobserved ⊢
  have hqueued : (observed.queueResult clocked.lastNow).lastNow = clocked.lastNow :=
    (stays_queueResult observed clocked.lastNow).lastNow.trans hobserved
  generalize observed.queueResult clocked.lastNow = queued at hqueued ⊢
  rw [hqueued]
  have hflushed : (if queued.hasPending = true then queued.flush clocked.lastNow answer
      else queued).lastNow = clocked.lastNow := by
    split
    · exact (stays_flush queued clocked.lastNow answer).lastNow.trans hqueued
    · exact hqueued
  generalize (if queued.hasPending = true then queued.flush clocked.lastNow answer else queued) =
    flushed at hflushed ⊢
  rw [(stays_queueResult flushed clocked.lastNow).lastNow, hflushed]

/-- Every call keeps an owner sound. -/
theorem Sound.next (h : o.Sound) (i : OwnerInput) : (recoveryOwner.next o i).Sound := by
  cases i with
  | attach now answer => exact h.attach now answer
  | poll now answer => exact h.poll now answer

/-- A faulted owner stays faulted, attaches nothing and launches nothing. -/
theorem Sound.faulted_next (h : o.Sound) (hfault : o.fault = true) (i : OwnerInput) :
    (recoveryOwner.next o i).fault = true ∧ (recoveryOwner.next o i).launches = o.launches := by
  cases i with
  | attach now answer =>
    change (o.attach now answer).2.fault = true ∧ (o.attach now answer).2.launches = o.launches
    unfold Owner.attach
    rw [if_pos (.inr (.inl hfault))]
    have hstays : ∀ (c : Prop) [Decidable c] (q : Owner),
        Stays q (if c then q.fail q.lastNow answer.disconnect else q) := by
      intro c _ q
      split
      · exact stays_fail q q.lastNow answer.disconnect
      · exact .refl q
    have hfirst := hstays (o.clockSeen = true ∧ now < o.lastNow) o
    generalize (if o.clockSeen = true ∧ now < o.lastNow then
      o.fail o.lastNow answer.disconnect else o) = first at hfirst ⊢
    have hboth := hfirst.trans (hstays (first.epoch = 0xFFFFFFFFFFFFFFFF) first)
    exact ⟨hboth.fault hfault, hboth.launches⟩
  | poll now answer =>
    change (o.poll now answer).fault = true ∧ (o.poll now answer).launches = o.launches
    have hclock : (o.readClock now answer.disconnect).fault = true ∧
        (o.readClock now answer.disconnect).launches = o.launches := by
      unfold Owner.readClock
      split
      · exact ⟨(stays_fail o o.lastNow answer.disconnect).fault hfault, rfl⟩
      · exact ⟨hfault, rfl⟩
    have hsound := (h.readClock now answer.disconnect).observeNative
      (o.readClock now answer.disconnect).lastNow answer
    have hstays := stays_observeNative (o.readClock now answer.disconnect)
      (o.readClock now answer.disconnect).lastNow answer
    have hobserved := hstays.fault hclock.1
    unfold Owner.poll
    dsimp only
    rw [Owner.exchange, if_pos (hsound.1.faulted hobserved)]
    exact ⟨hobserved, hstays.launches.trans hclock.2⟩

end Owner

/-! ### Runs -/

/-- Before the end of a fine log, a worker that was launched has been retired, or it stands. -/
theorem retired_or_standing {log : List OwnerEvent} (h : Preceded Fine log)
    {earlier later : List OwnerEvent} {session operation amount : UInt64} {worker : ComputeProcess}
    (heq : log = earlier ++ .launched session operation amount worker :: later) :
    (∃ ended, .retired ended ∈ later ∧ Evolves worker ended ∧ ended.Reaped) ∨
      standing log = some worker := by
  induction log using List.reverseRecOn generalizing later with
  | nil => simp at heq
  | append_singleton log event ih =>
    obtain ⟨hbefore, hfine⟩ := Preceded.append_singleton.mp h
    rcases List.eq_nil_or_concat later with rfl | ⟨later, last, rfl⟩
    · obtain ⟨-, hlast⟩ := List.append_inj' heq rfl
      cases hlast
      exact .inr (standing_append _ _)
    · rw [List.concat_eq_append, ← List.cons_append, ← List.append_assoc] at heq
      obtain ⟨hlog, hlast⟩ := List.append_inj' heq rfl
      cases hlast
      rcases ih hbefore hlog with ⟨ended, hmem, hrest⟩ | hstanding
      · exact .inl ⟨ended, by simp [hmem], hrest⟩
      cases event with
      | received => exact .inr ((standing_append _ _).trans hstanding)
      | sent => exact .inr ((standing_append _ _).trans hstanding)
      | launched => cases hfine.1.symm.trans hstanding
      | retired ended =>
        obtain ⟨⟨other, hother, hevolves⟩, hreaped⟩ := hfine
        obtain rfl : other = worker := Option.some.inj (hother.symm.trans hstanding)
        exact .inl ⟨ended, by simp, hevolves, hreaped⟩

/-- A run of the owner. -/
structure OwnerRun where
  worker : String
  stopGraceMs : UInt64
  inputs : List OwnerInput

namespace OwnerRun

/-- The owner at the end of a run. -/
def final (run : OwnerRun) : Owner :=
  recoveryOwner.run (.create run.worker run.stopGraceMs) run.inputs

private theorem sound_final (run : OwnerRun) : run.final.Sound :=
  recoveryOwner.invariant_run (P := Owner.Sound) (fun _ i h ↦ h.next i)
    (Owner.sound_create run.worker run.stopGraceMs) run.inputs

/-- In every run of the owner, with arbitrary messages, answers of the operating system, workers
and readings of the clock: every launch is accounted for by a result that was sent, a result that
was discarded, or the outstanding operation; when a worker is launched, every worker before it was
reaped with its channels closed, and in the same session a query was answered clear and a matching
activation received within the lifetime of evidence; every result that is sent names the session,
the request and the operation of a submission that was received in the session it is sent in; a
faulted owner has no descriptor and never launches again; and no difference of times underflows. -/
theorem conserved_and_isolated (run : OwnerRun) :
    (run.final.launches = .ofNat (delivered run.final.log) + run.final.discardedResults +
      if run.final.operation = 0 then 0 else 1) ∧
    (∀ before session operation amount worker after,
      run.final.log = before ++ .launched session operation amount worker :: after →
      (∀ earlier session' operation' amount' worker' later,
        before = earlier ++ .launched session' operation' amount' worker' :: later →
        ∃ ended, .retired ended ∈ later ∧ Evolves worker' ended ∧ ended.Reaped) ∧
      ∃ asked query snapshot now activate,
        [.received session asked query, .sent session snapshot,
          .received session now activate].Sublist before ∧
        query.kind = .query ∧ snapshot.kind = .snapshot ∧ snapshot.request = query.request ∧
        snapshot.flags = clearFlag ∧ activate.kind = .activate ∧
        activate.value = query.request ∧ asked ≤ now ∧ now - asked < evidenceLifetimeMs) ∧
    (∀ before session result after, run.final.log = before ++ .sent session result :: after →
      result.kind = .result → result.session = session ∧
      ∃ now submit, .received session now submit ∈ before ∧ submit.kind = .submit ∧
        submit.session = session ∧ result.request = submit.request ∧
        result.operation = submit.operation) ∧
    (run.final.fault = true → run.final.connected = false ∧
      ∀ inputs, (recoveryOwner.run run.final inputs).connected = false ∧
        (recoveryOwner.run run.final inputs).launches = run.final.launches) ∧
    ∀ now answer,
      ((run.final.atFlush now answer).hasPending = true →
        (run.final.atFlush now answer).pendingAt ≤ (run.final.atFlush now answer).lastNow) ∧
      ((run.final.atReceive now answer).clearToken ≠ 0 →
        (run.final.atReceive now answer).clearTokenAt ≤
          (run.final.atReceive now answer).lastNow) := by
  have hsound := run.sound_final
  refine ⟨hsound.conserved, ?_, ?_, fun hfault ↦ ⟨hsound.faulted hfault, ?_⟩, fun now answer ↦
    ⟨(hsound.atFlush now answer).pendingAt, (hsound.atReceive now answer).tokenAt⟩⟩
  · intro before session operation amount worker after heq
    obtain ⟨hfree, hactivated, -⟩ := hsound.fine before _ after heq
    refine ⟨fun earlier session' operation' amount' worker' later hbefore ↦ ?_, hactivated⟩
    have hfine : Preceded Fine before := fun l e r hl ↦
      hsound.fine l e (r ++ .launched session operation amount worker :: after)
        (by rw [heq, hl, List.append_assoc]; rfl)
    refine (retired_or_standing hfine hbefore).resolve_right fun hstanding ↦ ?_
    cases hfree.symm.trans hstanding
  · intro before session result after heq hkind
    obtain ⟨hsession, hresult⟩ := hsound.fine before _ after heq
    refine ⟨hsession, ?_⟩
    rcases hresult hkind with ⟨-, now, submit, hmem, hanswers⟩ |
      ⟨now, submit, worker, ended, hsublist, hanswers, -⟩
    · exact ⟨now, submit, hmem, hanswers.kind, hanswers.session, hanswers.request,
        hanswers.operation⟩
    · exact ⟨now, submit, hsublist.subset List.mem_cons_self, hanswers.kind, hanswers.session,
        hanswers.request, hanswers.operation⟩
  · intro inputs
    have hrun := recoveryOwner.invariant_run
      (P := fun o ↦ o.Sound ∧ o.fault = true ∧ o.launches = run.final.launches)
      (fun o i h ↦ ⟨h.1.next i, (h.1.faulted_next h.2.1 i).1,
        (h.1.faulted_next h.2.1 i).2.trans h.2.2⟩) ⟨hsound, hfault, rfl⟩ inputs
    exact ⟨hrun.1.faulted hrun.2.1, hrun.2.2⟩

end OwnerRun

end RobotHarness.Recovery
