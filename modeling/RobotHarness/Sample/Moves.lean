import RobotHarness.Core.Bounds
import RobotHarness.Core.Control
import RobotHarness.Sample.Host

/-!
# The moves of the sample host

What the programs of the host do, as moves of three kinds: the quiet ones of a poll, those of a
pass over the staged events, and those of the calls. A move is the smallest change that leaves
the staged events in step with the current operation.
-/

namespace RobotHarness.Sample

/-- The greatest sequence number: it bounds every record. -/
def lastSequence : UInt64 := 0xFFFFFFFFFFFFFFFF

/-- An event that the adapter emits. -/
structure Emission where
  kind : CallbackKind
  sequence : UInt64
  result : Option SampleResult := none

/-- The callback of an event about work. -/
def Emission.callback (e : Emission) (work : WorkItem) : NativeCallback :=
  ⟨e.kind, work.authority, work.nativeIdentity, e.sequence, e.result⟩

/-- The events of work that was not submitted. -/
def unsubmittedScript : List Emission :=
  [⟨.notSubmitted, 1, none⟩, ⟨.noOutputProduced, 2, none⟩, ⟨.settled, 3, none⟩]

/-- The events of work that the worker refuses. -/
def rejectedScript : List Emission :=
  [⟨.rejected, 1, none⟩, ⟨.noOutputProduced, 1, none⟩, ⟨.settled, 2, none⟩]

/-- The events of `finish`. -/
def finishScript (work : WorkItem) (adapter : SampleAdapter) : List Emission :=
  if work.isCancelled = true then
    [⟨.terminalCancelled, 2, none⟩, ⟨.noOutputProduced, 1, none⟩, ⟨.settled, 2, none⟩]
  else
    ⟨.started, 2, none⟩ ::
      if adapter.failNextNativeExecution = true then
        [⟨.terminalFailed, 3, none⟩, ⟨.noOutputProduced, 1, none⟩, ⟨.settled, 2, none⟩]
      else
        [⟨.terminalSucceeded, 3, none⟩, ⟨.result, 4, some (computeResult work)⟩,
          ⟨.settled, 5, none⟩]

/-- What `finish` assigns to the adapter. -/
def SampleAdapter.executed (adapter : SampleAdapter) (work : WorkItem) : SampleAdapter :=
  if work.isCancelled = true then adapter
  else
    { adapter with
      executionCount := adapter.executionCount + 1
      failNextNativeExecution := false }

/-- The work of an operation. -/
def workOf (authority : OperationAuthority) (request : SampleRequest) : WorkItem :=
  ⟨authority, request, "native-sample-" ++ toString authority.operationId, false⟩

namespace SampleHost

variable (clock : ℕ → MonotonicTime)

/-- The host after a reading of the clock. -/
def reading (h : SampleHost) : SampleHost :=
  { h with readings := h.readings + 1, hasReadTime := true, lastTime := clock h.readings }

/-- The host after a call of its gate. -/
def through (h : SampleHost) (c : Call) : SampleHost :=
  { h with gate := (h.gate.call c).2, gates := h.gates ++ [(h.gate.call c).2] }

/-- The host after an event is staged. -/
def emitted (work : WorkItem) (h : SampleHost) (e : Emission) : SampleHost :=
  if e.kind = .settled ∧ h.adapter.settlementReportingEnabled = false then h
  else if h.adapter.hasCallback = true then
    { h.reading clock with
      adapter := h.adapter.retain (e.callback work)
      stagedEvents := h.stagedEvents ++ [⟨e.callback work, clock h.readings⟩] }
  else h

/-- The host after the events of a script. -/
def emittedAll (work : WorkItem) (script : List Emission) (h : SampleHost) : SampleHost :=
  script.foldl (emitted clock work) h

/-- The host after its prepared operation is given up. -/
def unsubmitted (work : WorkItem) (h : SampleHost) : SampleHost :=
  emittedAll clock work unsubmittedScript
    { h with preparedRequest := none, preparedAuthority := none }

/-- The host after its work is finished. -/
def finished (work : WorkItem) (h : SampleHost) : SampleHost :=
  emittedAll clock work (finishScript work h.adapter)
    { h with adapter := h.adapter.executed work }

/-- The host after the dispatch of its prepared operation is claimed. -/
def claimed (authority : OperationAuthority) (time : MonotonicTime) (h : SampleHost) :
    SampleHost :=
  { h.through (.claimDispatch authority time) with
    preparedRequest := none
    preparedAuthority := none
    permissions := h.permissions ++ [h.adapter]
    adapter := { h.adapter with submissionCount := h.adapter.submissionCount + 1 } }

/-- The host after work is submitted. -/
def submitted (work : WorkItem) (h : SampleHost) : SampleHost :=
  if h.adapter.rejectNextNativeSubmission = true then
    emittedAll clock work rejectedScript
      { h with adapter := { h.adapter with rejectNextNativeSubmission := false } }
  else
    let h := emitted clock work h ⟨.accepted, 1, none⟩
    if h.adapter.completionMode = .synchronous then finished clock work h
    else { h with adapter := { h.adapter with pendingWork := some work } }

/-- What the events of a script change. -/
structure Emits (work : WorkItem) (script : List Emission) (h t : SampleHost) : Prop where
  frame : t =
    { h with
      adapter := { h.adapter with replayResult := t.adapter.replayResult }
      stagedEvents := t.stagedEvents
      readings := t.readings
      hasReadTime := t.hasReadTime
      lastTime := t.lastTime }
  staged : ∃ events : List StagedEvent, t.stagedEvents = h.stagedEvents ++ events ∧
    events.length ≤ script.length ∧ ∀ event ∈ events, ∃ e ∈ script, event.callback = e.callback work
  retained : t.adapter.replayResult = h.adapter.replayResult ∨
    ∃ e ∈ script, e.kind = .result ∧ t.adapter.replayResult = some (e.callback work)

/-- One emission of the native side. -/
theorem emits_emitted (work : WorkItem) (e : Emission) (h : SampleHost) :
    Emits work [e] h (h.emitted clock work e) := by
  unfold emitted
  split
  · exact ⟨rfl, ⟨[], (List.append_nil _).symm, Nat.zero_le _, nofun⟩, .inl rfl⟩
  · split
    · refine ⟨?_, ⟨_, rfl, le_refl 1, by simp⟩, ?_⟩
      · unfold SampleAdapter.retain
        split <;> rfl
      · unfold SampleAdapter.retain
        split
        · next hkind => exact .inr ⟨e, List.mem_singleton_self e, hkind.1, rfl⟩
        · exact .inl rfl
    · exact ⟨rfl, ⟨[], (List.append_nil _).symm, Nat.zero_le _, nofun⟩, .inl rfl⟩

/-- The events of a script change the staged events, the clock and the retained result. -/
theorem emits_emittedAll (work : WorkItem) (script : List Emission) (h : SampleHost) :
    Emits work script h (h.emittedAll clock work script) := by
  induction script generalizing h with
  | nil => exact ⟨rfl, ⟨[], (List.append_nil _).symm, Nat.zero_le _, nofun⟩, .inl rfl⟩
  | cons e script ih =>
    obtain ⟨hframe, ⟨first, hfirst, hone, hcallback⟩, hretained⟩ := emits_emitted clock work e h
    obtain ⟨hframes, ⟨rest, hrest, hlength, hcallbacks⟩, hretains⟩ := ih (h.emitted clock work e)
    change Emits work (e :: script) h ((h.emitted clock work e).emittedAll clock work script)
    refine ⟨?_, ⟨first ++ rest, ?_, ?_, ?_⟩, ?_⟩
    · rw [hframes, hframe]
    · rw [hrest, hfirst, List.append_assoc]
    · rw [List.length_append, List.length_cons, Nat.add_comm]
      exact Nat.add_le_add hlength hone
    · intro event hevent
      rcases List.mem_append.mp hevent with hevent | hevent
      · obtain ⟨_, he, hcall⟩ := hcallback event hevent
        cases List.mem_singleton.mp he
        exact ⟨e, List.mem_cons_self, hcall⟩
      · obtain ⟨d, hd, hcall⟩ := hcallbacks event hevent
        exact ⟨d, List.mem_cons_of_mem _ hd, hcall⟩
    · rcases hretains with hsame | ⟨d, hd, hkind, hset⟩
      · rw [hsame]
        rcases hretained with hsame | ⟨d, hd, hkind, hset⟩
        · exact .inl hsame
        · cases List.mem_singleton.mp hd
          exact .inr ⟨e, List.mem_cons_self, hkind, hset⟩
      · exact .inr ⟨d, List.mem_cons_of_mem _ hd, hkind, hset⟩

end SampleHost

/-! ### Programs that return -/

/-- The clock has been read, and no later reading is earlier than the last one. -/
structure Timed (clock : ℕ → MonotonicTime) (h : SampleHost) : Prop where
  read : h.hasReadTime = true
  ahead : ∀ n, h.readings ≤ n → h.lastTime ≤ clock n

namespace Timed

variable {clock : ℕ → MonotonicTime} {h t : SampleHost}

/-- A reading of the clock leaves the host timed. -/
theorem reading (hclock : Monotone clock) : Timed clock (h.reading clock) where
  read := rfl
  ahead := fun _ hn ↦ hclock ((Nat.le_succ _).trans hn)

/-- What keeps the readings of the clock. -/
theorem of_eq (hs : Timed clock h) (hread : t.hasReadTime = h.hasReadTime)
    (htime : t.lastTime = h.lastTime) (hreadings : t.readings = h.readings) : Timed clock t where
  read := hread.trans hs.read
  ahead := by
    rw [htime, hreadings]
    exact hs.ahead

/-- An emission leaves the host timed. -/
theorem emitted (hclock : Monotone clock) (hs : Timed clock h) (work : WorkItem)
    (e : Emission) : Timed clock (h.emitted clock work e) := by
  unfold SampleHost.emitted
  split
  · exact hs
  · split
    · exact (Timed.reading hclock : Timed clock (h.reading clock)).of_eq rfl rfl rfl
    · exact hs

end Timed

namespace SampleProgram

variable {clock : ℕ → MonotonicTime} {h : SampleHost}

/-- A timed host reads its clock. -/
theorem readTime_eq (hs : Timed clock h) :
    readTime clock h = (.ok (clock h.readings), h.reading clock) := by
  unfold readTime
  rw [if_neg fun hback ↦ not_lt.mpr (hs.ahead _ le_rfl) hback.2]
  rfl

private theorem emit_eq (hs : Timed clock h) (work : WorkItem) (e : Emission) :
    emit clock work e.kind e.sequence e.result h = (.ok ⟨⟩, h.emitted clock work e) := by
  unfold SampleHost.emitted
  change (if e.kind = .settled ∧ h.adapter.settlementReportingEnabled = false then pure ()
    else if h.adapter.hasCallback = true then _ else pure () : SampleProgram Unit) h = _
  split
  · rfl
  · split
    · have hread := readTime_eq (hs.of_eq rfl rfl rfl : Timed clock
        { h with adapter := h.adapter.retain (e.callback work) })
      refine Eq.trans (b := stage clock (e.callback work)
        { h with adapter := h.adapter.retain (e.callback work) }) rfl ?_
      exact (Fallible.bind_of_eq hread).trans rfl
    · rfl

/-- The first event of a script, and the rest of it. -/
theorem emit_bind {β : Type} {k : Unit → SampleProgram β} (hs : Timed clock h)
    (work : WorkItem) (e : Emission) :
    (emit clock work e.kind e.sequence e.result >>= k) h = k ⟨⟩ (h.emitted clock work e) :=
  Fallible.bind_of_eq (emit_eq hs work e)

/-- A timed host reports that an operation was not submitted. -/
theorem emitNotSubmitted_eq (hclock : Monotone clock) (hs : Timed clock h) (work : WorkItem) :
    emitNotSubmitted clock work h =
      (.ok ⟨⟩, h.emittedAll clock work unsubmittedScript) := by
  have h1 := hs.emitted hclock work ⟨.notSubmitted, 1, none⟩
  have h2 := h1.emitted hclock work ⟨.noOutputProduced, 2, none⟩
  exact (emit_bind hs work ⟨.notSubmitted, 1, none⟩).trans
    ((emit_bind h1 work ⟨.noOutputProduced, 2, none⟩).trans (emit_eq h2 work ⟨.settled, 3, none⟩))

/-- An event does not depend on whether the next execution fails. -/
private theorem emitted_failNext (work : WorkItem) (e : Emission) (fails : Bool) :
    SampleHost.emitted clock work
        { h with adapter := { h.adapter with failNextNativeExecution := fails } } e =
      { h.emitted clock work e with
        adapter :=
          { (h.emitted clock work e).adapter with failNextNativeExecution := fails } } := by
  simp only [SampleHost.emitted, SampleAdapter.retain]
  split
  · rfl
  · split
    · split <;> rfl
    · rfl

/-- A timed host finishes an operation. -/
theorem finish_eq (hclock : Monotone clock) (hs : Timed clock h) (work : WorkItem) :
    finish clock work h = (.ok ⟨⟩, h.finished clock work) := by
  unfold finish SampleHost.finished finishScript SampleAdapter.executed
  by_cases hcancelled : work.isCancelled = true
  · rw [if_pos hcancelled, if_pos hcancelled, if_pos hcancelled]
    have h1 := hs.emitted hclock work ⟨.terminalCancelled, 2, none⟩
    have h2 := h1.emitted hclock work ⟨.noOutputProduced, 1, none⟩
    exact (emit_bind hs work ⟨.terminalCancelled, 2, none⟩).trans
      ((emit_bind h1 work ⟨.noOutputProduced, 1, none⟩).trans
        (emit_eq h2 work ⟨.settled, 2, none⟩))
  rw [if_neg hcancelled, if_neg hcancelled, if_neg hcancelled]
  generalize hcounted : ({ h with
    adapter := { h.adapter with executionCount := h.adapter.executionCount + 1 } } : SampleHost) =
    counted
  have hc : Timed clock counted := hcounted ▸ hs.of_eq rfl rfl rfl
  have hfails : counted.adapter.failNextNativeExecution = h.adapter.failNextNativeExecution := by
    rw [← hcounted]
  have hstate : ({ h with
      adapter :=
        { h.adapter with
          executionCount := h.adapter.executionCount + 1
          failNextNativeExecution := false } } : SampleHost) =
      { counted with adapter := { counted.adapter with failNextNativeExecution := false } } := by
    rw [← hcounted]
  rw [hstate, ← hfails]
  refine (Fallible.bind_of_eq (a := ⟨⟩) (t := counted) (by rw [← hcounted]; rfl)).trans ?_
  refine (emit_bind hc work ⟨.started, 2, none⟩).trans ?_
  have h1 := hc.emitted hclock work ⟨.started, 2, none⟩
  have hkept : (counted.emitted clock work ⟨.started, 2, none⟩).adapter.failNextNativeExecution =
      counted.adapter.failNextNativeExecution := by
    simp only [SampleHost.emitted, SampleAdapter.retain]
    split
    · rfl
    · split <;> rfl
  refine (Fallible.bind_of_eq (a := _) rfl).trans ?_
  by_cases hfail : counted.adapter.failNextNativeExecution = true
  · rw [if_pos hfail, if_pos (hkept.trans hfail)]
    refine (Fallible.bind_of_eq (a := ⟨⟩)
      (t := SampleHost.emitted clock work { counted with
        adapter := { counted.adapter with failNextNativeExecution := false } }
          ⟨.started, 2, none⟩)
      (congrArg (Prod.mk (Except.ok PUnit.unit)) (emitted_failNext work _ false).symm)).trans ?_
    have h1 := (hc.of_eq rfl rfl rfl : Timed clock { counted with
      adapter := { counted.adapter with failNextNativeExecution := false } }).emitted hclock work
        ⟨.started, 2, none⟩
    have h2 := h1.emitted hclock work ⟨.terminalFailed, 3, none⟩
    have h3 := h2.emitted hclock work ⟨.noOutputProduced, 1, none⟩
    exact (emit_bind h1 work ⟨.terminalFailed, 3, none⟩).trans
      ((emit_bind h2 work ⟨.noOutputProduced, 1, none⟩).trans
        (emit_eq h3 work ⟨.settled, 2, none⟩))
  · rw [if_neg hfail, if_neg (hkept.trans_ne hfail)]
    have hsame : ({ counted with
        adapter := { counted.adapter with failNextNativeExecution := false } } : SampleHost) =
        counted := by
      rw [← Bool.eq_false_iff.mpr hfail]
    rw [hsame]
    have h2 := h1.emitted hclock work ⟨.terminalSucceeded, 3, none⟩
    have h3 := h2.emitted hclock work ⟨.result, 4, some (computeResult work)⟩
    exact (emit_bind h1 work ⟨.terminalSucceeded, 3, none⟩).trans
      ((emit_bind h2 work ⟨.result, 4, some (computeResult work)⟩).trans
        (emit_eq h3 work ⟨.settled, 5, none⟩))

end SampleProgram

/-! ### Moves -/

open SampleProgram (nativeEvent resultReference operationRequest)

/-- The call concerns neither the admission nor the evidence of an operation. -/
def IsQuiet : Call → Prop
  | .admitRequest _ | .claimDispatch .. | .observeNonSubmission _ | .observeNative _ => False
  | .observeOutputAccepted _ | .observeOutputNotDelivered _ | .observeSettlement _ => False
  | _ => True

/-- What a poll does: it reads the clock, controls the gate, asks the adapter to stop and gives a
prepared operation up. -/
inductive Quiet (clock : ℕ → MonotonicTime) (h : SampleHost) : SampleHost → Prop where
  | read : Quiet clock h (h.reading clock)
  | control {c : Call} (kind : IsQuiet c) (bounded : c.Bounded h.lastTime lastSequence) :
      Quiet clock h (h.through c)
  | refuse {c : Call} (refused : (h.gate.call c).2 = h.gate) : Quiet clock h (h.through c)
  | count {binding worker sink : UInt64} :
      Quiet clock h
        { h with
          bindingObservationSequence := binding
          workerObservationSequence := worker
          sinkObservationSequence := sink }
  | stop {authority : OperationAuthority} :
      Quiet clock h { h with adapter := (h.adapter.requestStop authority).2 }
  | discard {work : WorkItem} (prepared : h.preparedAuthority = some work.authority) :
      Quiet clock h (h.unsubmitted clock work)

/-- The deadline of the current operation was looked at, at a time that no earlier change of its
receipt is later than. -/
structure SampleHost.Looked (h : SampleHost) (time : MonotonicTime) : Prop where
  reached : time ≤ h.lastTime
  effects : ∀ r ∈ h.gate.currentReceipt, r.latestEffectTime ≤ time
  revoked : ∀ r ∈ h.gate.currentReceipt, r.isRevoked → r.revocationPrecedes time
  due : ∀ r ∈ h.gate.currentReceipt, r.output = .pending → r.hasReachedDeadline time → r.isRevoked

/-- The report of an event that neither delivers nor settles. -/
def StagedEvent.report (event : StagedEvent) : Option Call :=
  let callback := event.callback
  match callback.kind with
  | .notSubmitted => some (.observeNonSubmission ⟨callback.authority,
      ⟨settlementEvidenceSource, event.observedAt, callback.sequence⟩⟩)
  | .noOutputProduced => some (.observeOutputNotDelivered ⟨callback.authority, .noOutputProduced,
      "", ⟨settlementEvidenceSource, event.observedAt, callback.sequence⟩⟩)
  | kind => (nativeEvent kind).map fun native ↦ .observeNative ⟨callback.authority,
      callback.nativeIdentity, native,
      ⟨nativeEvidenceSource, event.observedAt, callback.sequence⟩⟩

/-- The report of a result that has reached the sink. -/
def deliveryReport (authority : OperationAuthority) (time : MonotonicTime) :
    ResultAcceptance → Option Call
  | .accepted => some (.observeOutputAccepted ⟨authority, resultReference authority,
      ⟨resultSinkObserver, time, 1⟩⟩)
  | .permissionDenied => some (.observeOutputNotDelivered ⟨authority, .authorityRevoked,
      resultReference authority, ⟨resultSinkObserver, time, 1⟩⟩)
  | .sinkUnavailable => some (.observeOutputNotDelivered ⟨authority, .sinkRejected,
      resultReference authority, ⟨resultSinkObserver, time, 1⟩⟩)
  | .invalid => none

/-- The report of a settlement. -/
def settlementReport (callback : NativeCallback) (time : MonotonicTime) : Call :=
  .observeSettlement ⟨callback.authority, settlementScope, true,
    ⟨settlementEvidenceSource, time, callback.sequence⟩⟩

namespace SampleHost

/-- The host after calls that there may be. -/
def throughAll (h : SampleHost) (calls : Option Call) : SampleHost := calls.elim h h.through

/-- The host after a result has reached the sink. -/
def delivered (h : SampleHost) (authority : OperationAuthority) (result : SampleResult)
    (time : MonotonicTime) : SampleHost :=
  let answered := h.adapter.acceptResult authority result
    (decide (h.gate.canDeliverResult authority))
  { h with adapter := answered.2 }.throughAll (deliveryReport authority time answered.1)

/-- The host without the event that is staged first. -/
def popped (h : SampleHost) : SampleHost := { h with stagedEvents := h.stagedEvents.tail }

end SampleHost

/-- What a pass over the staged events does. -/
inductive Pass (clock : ℕ → MonotonicTime) (h : SampleHost) : SampleHost → Prop where
  | quiet {t : SampleHost} (move : Quiet clock h t) : Pass clock h t
  | report {event : StagedEvent} {rest : List StagedEvent} {c : Call}
      (staged : h.stagedEvents = event :: rest) (reports : event.report = some c) :
      Pass clock h (h.popped.through c)
  | deliver {event : StagedEvent} {rest : List StagedEvent} {time : MonotonicTime}
      (staged : h.stagedEvents = event :: rest) (kind : event.callback.kind = .result)
      {result : SampleResult} (carries : event.callback.result = some result)
      (looked : h.Looked time) :
      Pass clock h (h.popped.delivered event.callback.authority result time)
  | drop {event : StagedEvent} {rest : List StagedEvent}
      (staged : h.stagedEvents = event :: rest) (kind : event.callback.kind = .result)
      (empty : event.callback.result = none) : Pass clock h h.popped
  | settle {event : StagedEvent} {rest : List StagedEvent} {time : MonotonicTime}
      (staged : h.stagedEvents = event :: rest) (kind : event.callback.kind = .settled)
      (looked : h.Looked time) :
      Pass clock h (h.popped.through (settlementReport event.callback time))

/-- What the setters of the adapter leave alone. -/
structure SampleAdapter.Adapts (old new : SampleAdapter) : Prop where
  hasCallback : new.hasCallback = old.hasCallback
  isClosed : new.isClosed = old.isClosed
  pendingWork : new.pendingWork = old.pendingWork
  results : new.results = old.results
  replayResult : ∀ callback ∈ new.replayResult, callback ∈ old.replayResult

/-- What the calls do. -/
inductive Move (clock : ℕ → MonotonicTime) (h : SampleHost) : SampleHost → Prop where
  | pass {t : SampleHost} (pass : Pass clock h t) : Move clock h t
  | adapt {adapter : SampleAdapter} (adapts : h.adapter.Adapts adapter)
      (reports : h.adapter.settlementReportingEnabled = true →
        adapter.settlementReportingEnabled = true) : Move clock h { h with adapter }
  | admits {request : SampleRequest} {time : MonotonicTime} (valid : isValidRequest request)
      (reached : time ≤ h.lastTime) (guard : AdmitGuard h.gate (operationRequest request time))
      (admitted : (h.gate.call (.admitRequest (operationRequest request time))).2 =
        h.gate.admitted (operationRequest request time)) :
      Move clock h
        { h.through (.admitRequest (operationRequest request time)) with
          currentAuthority := some (h.gate.nextAuthority (operationRequest request time))
          preparedAuthority := some (h.gate.nextAuthority (operationRequest request time))
          preparedRequest := some request
          admissions := h.admissions ++
            [(h.gate.nextAuthority (operationRequest request time), request)] }
  | submit {authority : OperationAuthority} {request : SampleRequest} {time : MonotonicTime}
      (prepared : h.preparedAuthority = some authority)
      (requested : h.preparedRequest = some request) (idle : h.adapter.pendingWork = none)
      (reached : time ≤ h.lastTime)
      (claimed : (h.gate.call (.claimDispatch authority time)).1 = .dispatch true) :
      Move clock h ((h.claimed authority time).submitted clock (workOf authority request))
  | finish {work : WorkItem} (pending : h.adapter.pendingWork = some work) :
      Move clock h
        (SampleHost.finished clock work
          { h with adapter := { h.adapter with pendingWork := none } })
  | replay {callback : NativeCallback} (opened : h.adapter.isClosed = false)
      (retained : h.adapter.replayResult = some callback) :
      Move clock h
        { h.reading clock with
          stagedEvents := ⟨callback, clock h.readings⟩ :: h.stagedEvents }
  | replace {mode : CompletionMode} (opened : h.isShutdown = false)
      (idle : h.adapter.pendingWork = none)
      (unprepared : h.preparedAuthority = none) :
      Move clock h
        { h with
          adapter :=
            SampleAdapter.inheritObservations { completionMode := mode } h.adapter }
  | close (closed : h.gate.bindingPhase = .closed) (idle : h.adapter.pendingWork = none)
      (unprepared : h.preparedAuthority = none) (drained : h.stagedEvents = []) :
      Move clock h
        { h with
          adapter := { h.adapter.close with hasCallback := false }
          isShutdown := true }

end RobotHarness.Sample
