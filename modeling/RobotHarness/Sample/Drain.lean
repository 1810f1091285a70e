import RobotHarness.Sample.Plan

/-!
# Draining the sample host

The staged events are those of a plan for the current operation, behind results that were
replayed. Every move keeps them so. Where nothing is staged, prepared or pending, the plan is at
its end, and the operation is released.
-/

namespace RobotHarness.Sample

open Relation (ReflTransGen)
open SampleProgram (nativeEvent operationRequest)

variable {clock : ℕ → MonotonicTime} {h t : SampleHost}

/-! ### Plans of events -/

/-- The kind and the number of an event. -/
def StagedEvent.shape (event : StagedEvent) : CallbackKind × UInt64 :=
  (event.callback.kind, event.callback.sequence)

/-- The callback is of the operation, and carries what its kind needs. -/
structure NativeCallback.Belongs (callback : NativeCallback) (authority : OperationAuthority) :
    Prop where
  owner : callback.authority = authority
  identity : ∀ native, nativeEvent callback.kind = some native →
    callback.nativeIdentity = Sample.nativeIdentity authority
  result : callback.kind = .result → callback.result.isSome

/-- A callback that carries a result. -/
def NativeCallback.IsResult (callback : NativeCallback) : Prop :=
  callback.kind = .result ∧ callback.result.isSome

/-- The events are the rest of a plan for the operation, up to a stage. -/
structure Plan (s : AuthorityGate) (r : OperationReceipt) (stage last : Stage)
    (floor : MonotonicTime) (events : List StagedEvent) : Prop where
  tracks : Tracks s stage floor r
  drains : stage.Drains (events.map StagedEvent.shape) last
  belongs : ∀ event ∈ events, event.callback.Belongs r.authority
  ordered : events.Pairwise fun event later ↦ event.observedAt ≤ later.observedAt
  later : ∀ event ∈ events, event.report.isSome → floor ≤ event.observedAt

/-- Where the operation rests when its staged events are processed. -/
def Rests (h : SampleHost) (r : OperationReceipt) : Stage → Prop
  | .prepared => h.preparedAuthority = some r.authority ∧ h.adapter.pendingWork = none
  | .running => h.preparedAuthority = none ∧ ∃ work ∈ h.adapter.pendingWork,
    work.authority = r.authority ∧ work.nativeIdentity = nativeIdentity r.authority
  | .released => h.preparedAuthority = none ∧ h.adapter.pendingWork = none
  | _ => False

/-- The events account for what is left to do of the current operation. -/
inductive Account (h : SampleHost) (events : List StagedEvent) : Prop where
  | unused (absent : h.gate.currentReceipt = none) (empty : events = [])
      (unprepared : h.preparedAuthority = none) (idle : h.adapter.pendingWork = none)
  | planned {r : OperationReceipt} {stage last : Stage} {floor : MonotonicTime}
      (present : h.gate.currentReceipt = some r) (plan : Plan h.gate r stage last floor events)
      (reached : floor ≤ h.lastTime) (rests : Rests h r last)

/-- The staged events are replayed results, and those of the current operation. -/
structure Planned (h : SampleHost) : Prop where
  reporting : h.adapter.settlementReportingEnabled = true
  connected : h.isShutdown = false → h.adapter.hasCallback = true
  shut : h.isShutdown = true → h.adapter.isClosed = true ∧ h.stagedEvents = [] ∧ Closing h
  retained : ∀ callback ∈ h.adapter.replayResult, callback.IsResult
  permitted : ∀ adapter ∈ h.permissions, adapter.pendingWork = none
  queue : ∃ replays events, h.stagedEvents = replays ++ events ∧
    (∀ event ∈ replays, event.callback.IsResult) ∧ Account h events

/-! ### Emitting the events of a script -/

/-- The events that a script stages. -/
structure Stages (work : WorkItem) (script : List Emission) (time : MonotonicTime)
    (events : List StagedEvent) : Prop where
  callbacks : events.map StagedEvent.callback = script.map (Emission.callback · work)
  ordered : events.Pairwise fun event later ↦ event.observedAt ≤ later.observedAt
  later : ∀ event ∈ events, time ≤ event.observedAt

/-- The adapter stages every event of a script while it reports to the host. -/
theorem stages_emittedAll (hclock : Monotone clock) (hs : Timed clock h)
    (hreporting : h.adapter.settlementReportingEnabled = true)
    (hconnected : h.adapter.hasCallback = true) (work : WorkItem) (script : List Emission) :
    ∃ events, (h.emittedAll clock work script).stagedEvents = h.stagedEvents ++ events ∧
      Stages work script h.lastTime events ∧
      h.lastTime ≤ (h.emittedAll clock work script).lastTime := by
  induction script generalizing h with
  | nil => exact ⟨[], (List.append_nil _).symm, ⟨rfl, .nil, nofun⟩, le_refl h.lastTime⟩
  | cons e script ih =>
    have hnext := SampleHost.emits_emitted clock work e h
    have htimed := hs.emitted hclock work e
    have hone : (h.emitted clock work e).stagedEvents =
        h.stagedEvents ++ [⟨e.callback work, clock h.readings⟩] ∧
        (h.emitted clock work e).lastTime = clock h.readings := by
      unfold SampleHost.emitted
      rw [if_neg (fun hsilent ↦ by rw [hreporting] at hsilent; cases hsilent.2),
        if_pos hconnected]
      exact ⟨rfl, rfl⟩
    have hahead := hs.ahead h.readings le_rfl
    obtain ⟨events, hevents, hstages, htime⟩ := ih htimed (by rw [hnext.frame]; exact hreporting)
      (by rw [hnext.frame]; exact hconnected)
    refine ⟨⟨e.callback work, clock h.readings⟩ :: events, ?_, ⟨?_, ?_, ?_⟩,
      (hahead.trans hone.2.ge).trans htime⟩
    · refine hevents.trans ?_
      rw [hone.1, List.append_assoc]
      rfl
    · exact congrArg _ hstages.callbacks
    · exact .cons (fun event hevent ↦ hone.2 ▸ hstages.later event hevent) hstages.ordered
    · intro event hevent
      rcases List.mem_cons.mp hevent with rfl | hevent
      · exact hahead
      · exact hahead.trans (hone.2 ▸ hstages.later event hevent)

/-- The kinds and numbers of a script. -/
def shapes (script : List Emission) : List (CallbackKind × UInt64) :=
  script.map fun e ↦ (e.kind, e.sequence)

private theorem Stages.shapes {work : WorkItem} {script : List Emission} {time : MonotonicTime}
    {events : List StagedEvent} (hstages : Stages work script time events) :
    events.map StagedEvent.shape = Sample.shapes script := by
  have hcallbacks := congrArg (List.map fun callback : NativeCallback ↦
    (callback.kind, callback.sequence)) hstages.callbacks
  simp only [List.map_map] at hcallbacks
  exact hcallbacks

/-- A host in the middle of a move: the events for its operation lead up to a stage. -/
structure Underway (h : SampleHost) (r : OperationReceipt) (last : Stage) : Prop where
  reporting : h.adapter.settlementReportingEnabled = true
  opened : h.isShutdown = false
  connected : h.adapter.hasCallback = true
  retained : ∀ callback ∈ h.adapter.replayResult, callback.IsResult
  permitted : ∀ adapter ∈ h.permissions, adapter.pendingWork = none
  present : h.gate.currentReceipt = some r
  queue : ∃ replays events stage floor, h.stagedEvents = replays ++ events ∧
    (∀ event ∈ replays, event.callback.IsResult) ∧
      Plan h.gate r stage last floor events ∧ floor ≤ h.lastTime

namespace Underway

variable {r : OperationReceipt} {last : Stage}

/-- The move is over where the operation may rest. -/
theorem planned (hu : Underway h r last) (rests : Rests h r last) : Planned h where
  reporting := hu.reporting
  connected := fun _ ↦ hu.connected
  shut := fun hshut ↦ by rw [hu.opened] at hshut; cases hshut
  retained := hu.retained
  permitted := hu.permitted
  queue := by
    obtain ⟨replays, events, stage, floor, hstaged, hreplays, plan, hreached⟩ := hu.queue
    exact ⟨replays, events, hstaged, hreplays, .planned hu.present plan hreached rests⟩

/-- What the adapter and the slots of the host may change in a move. -/
theorem of_eq (hu : Underway h r last) (hgate : t.gate = h.gate)
    (hreporting : t.adapter.settlementReportingEnabled = h.adapter.settlementReportingEnabled)
    (hconnected : t.adapter.hasCallback = h.adapter.hasCallback)
    (hretained : t.adapter.replayResult = h.adapter.replayResult)
    (hpermitted : t.permissions = h.permissions) (hopened : t.isShutdown = h.isShutdown)
    (hstaged : t.stagedEvents = h.stagedEvents) (htime : t.lastTime = h.lastTime) :
    Underway t r last where
  reporting := hreporting.trans hu.reporting
  opened := hopened.trans hu.opened
  connected := hconnected.trans hu.connected
  retained := hretained ▸ hu.retained
  permitted := hpermitted ▸ hu.permitted
  present := hgate ▸ hu.present
  queue := by
    rw [hstaged, hgate, htime]
    exact hu.queue

/-- The events of a script go on with the plan. -/
theorem emits (hclock : Monotone clock) (hs : Sound clock h) (hu : Underway h r last)
    {work : WorkItem} (hwork : work.authority = r.authority) (script : List Emission)
    {next : Stage} (hscript : last.Drains (shapes script) next)
    (hidentity : ∀ e ∈ script, ∀ native, nativeEvent e.kind = some native →
      work.nativeIdentity = nativeIdentity r.authority)
    (hcarries : ∀ e ∈ script, e.kind = .result → e.result.isSome) :
    Underway (h.emittedAll clock work script) r next := by
  obtain ⟨replays, before, stage, floor, hstaged, hreplays, plan, hreached⟩ := hu.queue
  obtain ⟨hframe, -, hkept⟩ := SampleHost.emits_emittedAll clock work script h
  obtain ⟨events, hevents, hstages, htime⟩ :=
    stages_emittedAll hclock hs.timed hu.reporting hu.connected work script
  have hgate : (h.emittedAll clock work script).gate = h.gate := by rw [hframe]
  have horigin : ∀ event ∈ events, ∃ e ∈ script, event.callback = e.callback work := by
    intro event hevent
    have hmem := List.mem_map_of_mem (f := StagedEvent.callback) hevent
    rw [hstages.callbacks] at hmem
    obtain ⟨e, he, heq⟩ := List.mem_map.mp hmem
    exact ⟨e, he, heq.symm⟩
  refine ⟨?_, ?_, ?_, ?_, ?_, ?_, replays, before ++ events, stage, floor, ?_, hreplays,
    ⟨hgate ▸ plan.tracks, ?_, ?_, ?_, ?_⟩, hreached.trans htime⟩
  · rw [hframe]; exact hu.reporting
  · rw [hframe]; exact hu.opened
  · rw [hframe]; exact hu.connected
  · intro callback hcallback
    rcases hkept with hsame | ⟨e, he, hkind, hset⟩
    · exact hu.retained callback (hsame ▸ hcallback)
    · cases hset.symm.trans hcallback
      exact ⟨hkind, hcarries e he hkind⟩
  · rw [hframe]; exact hu.permitted
  · rw [hgate]; exact hu.present
  · rw [hevents, hstaged, List.append_assoc]
  · rw [List.map_append, hstages.shapes]
    exact plan.drains.append hscript
  · intro event hevent
    rcases List.mem_append.mp hevent with hevent | hevent
    · exact plan.belongs event hevent
    · obtain ⟨e, he, heq⟩ := horigin event hevent
      rw [heq]
      exact ⟨hwork, hidentity e he, hcarries e he⟩
  · refine List.pairwise_append.mpr
      ⟨plan.ordered, hstages.ordered, fun event hevent later hlater ↦ ?_⟩
    exact (hs.staged event (hstaged ▸ List.mem_append_right _ hevent)).trans
      (hstages.later later hlater)
  · intro event hevent hreport
    rcases List.mem_append.mp hevent with hevent | hevent
    · exact plan.later event hevent hreport
    · exact hreached.trans (hstages.later event hevent)

/-- The prepared operation is given up. -/
theorem unsubmitted (hclock : Monotone clock) (hs : Sound clock h) (hu : Underway h r .prepared)
    {work : WorkItem} (hwork : work.authority = r.authority)
    (idle : h.adapter.pendingWork = none) : Planned (h.unsubmitted clock work) := by
  unfold SampleHost.unsubmitted
  have hgone : Underway { h with preparedRequest := none, preparedAuthority := none } r
      .prepared := hu.of_eq rfl rfl rfl rfl rfl rfl rfl rfl
  have hsound : Sound clock { h with preparedRequest := none, preparedAuthority := none } :=
    hs.of_eq rfl rfl rfl rfl rfl fun _ ↦ id
  have hemits := hgone.emits hclock hsound hwork unsubmittedScript
    (.cons .notSubmitted (.cons .notExecuted (.cons (.settled (by decide) (by decide)) .nil)))
    (by simp [unsubmittedScript, nativeEvent]) (by simp [unsubmittedScript])
  obtain ⟨-, hprepared, -, hpending, -⟩ := (SampleHost.emits_emittedAll clock work
    unsubmittedScript { h with preparedRequest := none, preparedAuthority := none }).kept
  exact hemits.planned ⟨hprepared, hpending.trans idle⟩

/-- Work is finished. -/
theorem finished (hclock : Monotone clock) (hs : Sound clock h) (hu : Underway h r .running)
    {work : WorkItem} (hwork : work.authority = r.authority)
    (hidentity : work.nativeIdentity = nativeIdentity r.authority)
    (unprepared : h.preparedAuthority = none) (idle : h.adapter.pendingWork = none) :
    Planned (h.finished clock work) := by
  unfold SampleHost.finished
  have hexecuted : Underway { h with adapter := h.adapter.executed work } r .running := by
    unfold SampleAdapter.executed
    split
    · exact hu
    · exact hu.of_eq rfl rfl rfl rfl rfl rfl rfl rfl
  have hsound : Sound clock { h with adapter := h.adapter.executed work } :=
    hs.of_eq rfl rfl rfl rfl rfl fun _ ↦ id
  have hscript : Stage.running.Drains (shapes (finishScript work h.adapter)) .released := by
    have hfruitless : Stage.stopped.Drains [(.noOutputProduced, 1), (.settled, 2)] .released :=
      .cons .fruitless (.cons (.settled (by decide) (by decide)) .nil)
    unfold finishScript
    split
    · exact .cons .cancelled hfruitless
    · split
      · exact .cons .started (.cons .failed hfruitless)
      · exact .cons .started (.cons .succeeded (.cons .result
          (.cons (.settled (by decide) (by decide)) .nil)))
  have hcarries : ∀ e ∈ finishScript work h.adapter, e.kind = .result → e.result.isSome := by
    unfold finishScript
    split
    · simp
    · split <;> simp
  have hemits := hexecuted.emits hclock hsound hwork _ hscript (fun _ _ _ _ ↦ hidentity) hcarries
  obtain ⟨-, hprepared, -, hpending, -⟩ := (SampleHost.emits_emittedAll clock work
    (finishScript work h.adapter) { h with adapter := h.adapter.executed work }).kept
  refine hemits.planned ⟨hprepared.trans unprepared, hpending.trans ?_⟩
  unfold SampleAdapter.executed
  split <;> exact idle

/-- Work is submitted. -/
theorem submitted (hclock : Monotone clock) (hs : Sound clock h) (hu : Underway h r .submitted)
    {work : WorkItem} (hwork : work.authority = r.authority)
    (hidentity : work.nativeIdentity = nativeIdentity r.authority)
    (unprepared : h.preparedAuthority = none) (idle : h.adapter.pendingWork = none) :
    Planned (h.submitted clock work) := by
  unfold SampleHost.submitted
  split
  · have hsound : Sound clock
        { h with adapter := { h.adapter with rejectNextNativeSubmission := false } } :=
      hs.of_eq rfl rfl rfl rfl rfl fun _ ↦ id
    have hready : Underway
        { h with adapter := { h.adapter with rejectNextNativeSubmission := false } } r
        .submitted := hu.of_eq rfl rfl rfl rfl rfl rfl rfl rfl
    have hemits := hready.emits hclock hsound hwork rejectedScript
      (.cons .rejected (.cons .refused (.cons (.settled (by decide) (by decide)) .nil)))
      (fun _ _ _ _ ↦ hidentity) (by simp [rejectedScript])
    obtain ⟨-, hprepared, -, hpending, -⟩ := (SampleHost.emits_emittedAll clock work
      rejectedScript
      { h with adapter := { h.adapter with rejectNextNativeSubmission := false } }).kept
    exact hemits.planned ⟨hprepared.trans unprepared, hpending.trans idle⟩
  · have hemits := hu.emits hclock hs hwork [⟨.accepted, 1, none⟩]
      (.cons .accepted .nil) (fun _ _ _ _ ↦ hidentity) (by simp)
    have hsound := hs.emitted hclock work ⟨.accepted, 1, none⟩
    obtain ⟨-, hprepared, -, hpending, -⟩ :=
      (SampleHost.emits_emitted clock work ⟨.accepted, 1, none⟩ h).kept
    dsimp only
    split
    · exact Underway.finished hclock hsound hemits hwork hidentity (hprepared.trans unprepared)
        (hpending.trans idle)
    · have hpends : Underway
          { h.emitted clock work ⟨.accepted, 1, none⟩ with
            adapter :=
              { (h.emitted clock work ⟨.accepted, 1, none⟩).adapter with
                pendingWork := some work } } r .running :=
        Underway.of_eq hemits rfl rfl rfl rfl rfl rfl rfl rfl
      exact hpends.planned ⟨hprepared.trans unprepared, work, rfl, hwork, hidentity⟩

end Underway

/-! ### Quiet moves -/

/-- Whose work it is. -/
def WorkItem.owner (work : WorkItem) : OperationAuthority × String :=
  (work.authority, work.nativeIdentity)

/-- The account rests on the gate, the slots of the host and the owner of pending work. -/
theorem Account.of_eq {events : List StagedEvent} (ha : Account h events)
    (hgate : t.gate = h.gate) (hprepared : t.preparedAuthority = h.preparedAuthority)
    (hpending : t.adapter.pendingWork.map WorkItem.owner = h.adapter.pendingWork.map WorkItem.owner)
    (htime : h.lastTime ≤ t.lastTime) : Account t events := by
  have hidle : h.adapter.pendingWork = none → t.adapter.pendingWork = none := by
    intro hnone
    rw [hnone] at hpending
    exact Option.map_eq_none_iff.mp hpending
  cases ha with
  | unused absent empty unprepared idle =>
    exact .unused (hgate ▸ absent) empty (hprepared.trans unprepared) (hidle idle)
  | @planned r stage last floor present plan reached rests =>
    refine .planned (hgate ▸ present) (hgate ▸ plan) (reached.trans htime) ?_
    cases last with
    | prepared => exact ⟨hprepared.trans rests.1, hidle rests.2⟩
    | released => exact ⟨hprepared.trans rests.1, hidle rests.2⟩
    | running =>
      obtain ⟨hunprepared, work, hwork, howner, hidentity⟩ := rests
      rw [Option.mem_def.mp hwork] at hpending
      obtain ⟨work', hwork', hsame⟩ := Option.map_eq_some_iff.mp hpending
      obtain ⟨hauthority, hnamed⟩ := Prod.ext_iff.mp hsame
      exact ⟨hprepared.trans hunprepared, work', hwork', hauthority.trans howner,
        hnamed.trans hidentity⟩
    | unsubmitted | submitted | rejected | started | stopped | succeeded | closing => exact rests

/-- Control keeps the account. -/
theorem Account.controls {events : List StagedEvent} {c : Call} (ha : Account h events)
    (hs : Sound clock h) (kind : IsQuiet c) : Account (h.through c) events := by
  obtain ⟨-, -, -, -, hsource⟩ := hs.sources
  have hstep : Transition h.gate c (h.gate.call c).1 (h.through c).gate :=
    gate_transition h.gate c
  cases ha with
  | unused absent empty unprepared idle =>
    refine .unused ?_ empty unprepared idle
    cases hstep.receiptEffect with
    | kept hkept => exact hkept.trans absent
    | admitted call => subst call; cases kind
    | changed present => cases absent.symm.trans present
  | @planned r stage last floor present plan reached rests =>
    obtain ⟨r', after, hauthority, tracks⟩ := plan.tracks.controls hstep kind present hsource
    refine .planned after ⟨tracks, plan.drains, ?_, plan.ordered, plan.later⟩ reached ?_
    · rw [hauthority]
      exact plan.belongs
    · unfold Rests at rests ⊢
      rw [hauthority]
      exact rests

namespace Planned

/-- What neither the gate nor the staged events take part in. -/
theorem of_eq (hp : Planned h) (hgate : t.gate = h.gate)
    (hreporting : h.adapter.settlementReportingEnabled = true →
      t.adapter.settlementReportingEnabled = true)
    (hconnected : t.adapter.hasCallback = h.adapter.hasCallback)
    (hclosed : t.adapter.isClosed = h.adapter.isClosed)
    (hretained : ∀ callback ∈ t.adapter.replayResult, callback ∈ h.adapter.replayResult)
    (hpermitted : t.permissions = h.permissions) (hopened : t.isShutdown = h.isShutdown)
    (hstaged : t.stagedEvents = h.stagedEvents) (htime : h.lastTime ≤ t.lastTime)
    (hprepared : t.preparedAuthority = h.preparedAuthority)
    (hpending : t.adapter.pendingWork.map WorkItem.owner =
      h.adapter.pendingWork.map WorkItem.owner) : Planned t where
  reporting := hreporting hp.reporting
  connected := fun hopen ↦ hconnected.trans (hp.connected (hopened ▸ hopen))
  shut := by
    intro hshut
    obtain ⟨hclose, hempty, hclosing⟩ := hp.shut (hopened ▸ hshut)
    refine ⟨hclosed.trans hclose, hstaged.trans hempty, hgate ▸ hclosing.closed, ?_,
      hprepared.trans hclosing.unprepared⟩
    rw [hclosing.idle] at hpending
    exact Option.map_eq_none_iff.mp hpending
  retained := fun callback hcallback ↦ hp.retained callback (hretained callback hcallback)
  permitted := hpermitted ▸ hp.permitted
  queue := by
    obtain ⟨replays, events, hqueue, hreplays, account⟩ := hp.queue
    exact ⟨replays, events, hstaged.trans hqueue, hreplays,
      account.of_eq hgate hprepared hpending htime⟩

/-- An open host is underway to where its operation rests. -/
theorem underway (hp : Planned h) (hopened : h.isShutdown = false) {r : OperationReceipt}
    (present : h.gate.currentReceipt = some r) :
    ∃ last, Underway h r last ∧ Rests h r last := by
  obtain ⟨replays, events, hstaged, hreplays, account⟩ := hp.queue
  cases account with
  | unused absent => cases present.symm.trans absent
  | @planned q stage last floor hpresent plan reached rests =>
    cases present.symm.trans hpresent
    exact ⟨last, ⟨hp.reporting, hopened, hp.connected hopened, hp.retained, hp.permitted, present,
      replays, events, stage, floor, hstaged, hreplays, plan, reached⟩, rests⟩

/-- Where an operation is prepared, the plan has not begun. -/
theorem prepared (hp : Planned h) {authority : OperationAuthority}
    (hprepared : h.preparedAuthority = some authority) :
    h.isShutdown = false ∧ ∃ r, r.authority = authority ∧ h.adapter.pendingWork = none ∧
      Underway h r .prepared := by
  have hopened : h.isShutdown = false := by
    by_contra hshut
    obtain ⟨-, -, hclosing⟩ := hp.shut (by simpa using hshut)
    cases hclosing.unprepared.symm.trans hprepared
  obtain ⟨_, _, _, _, account⟩ := hp.queue
  cases account with
  | unused _ _ unprepared => cases unprepared.symm.trans hprepared
  | @planned r _ _ _ present =>
    obtain ⟨last, hu, rests⟩ := hp.underway hopened present
    cases last with
    | prepared => exact ⟨hopened, r, Option.some.inj (rests.1.symm.trans hprepared), rests.2, hu⟩
    | running | released => cases rests.1.symm.trans hprepared
    | unsubmitted | submitted | rejected | started | stopped | succeeded | closing => cases rests

/-- Where work is pending, the plan leads up to it. -/
theorem pending (hp : Planned h) {work : WorkItem} (hpending : h.adapter.pendingWork = some work) :
    h.isShutdown = false ∧ ∃ r, work.authority = r.authority ∧
      work.nativeIdentity = nativeIdentity r.authority ∧ h.preparedAuthority = none ∧
      Underway h r .running := by
  have hopened : h.isShutdown = false := by
    by_contra hshut
    obtain ⟨-, -, hclosing⟩ := hp.shut (by simpa using hshut)
    cases hclosing.idle.symm.trans hpending
  obtain ⟨_, _, _, _, account⟩ := hp.queue
  cases account with
  | unused _ _ _ idle => cases idle.symm.trans hpending
  | @planned r _ _ _ present =>
    obtain ⟨last, hu, rests⟩ := hp.underway hopened present
    cases last with
    | running =>
      obtain ⟨hunprepared, work', hwork, howner, hidentity⟩ := rests
      cases hpending.symm.trans hwork
      exact ⟨hopened, r, howner, hidentity, hunprepared, hu⟩
    | prepared | released => cases rests.2.symm.trans hpending
    | unsubmitted | submitted | rejected | started | stopped | succeeded | closing => cases rests

/-- A quiet move keeps the plan. -/
theorem quiet (hclock : Monotone clock) (hs : Sound clock h) (hp : Planned h)
    (move : Quiet clock h t) : Planned t := by
  cases move with
  | read =>
    exact hp.of_eq rfl id rfl rfl (fun _ ↦ id) rfl rfl rfl (hs.timed.ahead _ le_rfl) rfl rfl
  | @control c kind bounded =>
    have hmove : Quiet clock h (h.through c) := .control kind bounded
    obtain ⟨replays, events, hstaged, hreplays, account⟩ := hp.queue
    refine ⟨hp.reporting, hp.connected, fun hshut ↦ ?_, hp.retained, hp.permitted, replays, events,
      hstaged, hreplays, account.controls hs kind⟩
    obtain ⟨hclosed, hempty, hclosing⟩ := hp.shut hshut
    exact ⟨hclosed, hempty, hmove.closing hclosing⟩
  | refuse refused =>
    exact hp.of_eq refused id rfl rfl (fun _ ↦ id) rfl rfl rfl le_rfl rfl rfl
  | count => exact hp.of_eq rfl id rfl rfl (fun _ ↦ id) rfl rfl rfl le_rfl rfl rfl
  | @stop authority =>
    have hadapter : ∃ work, (h.adapter.requestStop authority).2 =
        { h.adapter with
          stopRequestCount := h.adapter.stopRequestCount + 1
          pendingWork := work } ∧
        work.map WorkItem.owner = h.adapter.pendingWork.map WorkItem.owner := by
      unfold SampleAdapter.requestStop
      dsimp only
      split
      · next hnone => exact ⟨none, by rw [← hnone], by rw [hnone]⟩
      · next work hwork =>
        have hsame : ({ h.adapter with
            stopRequestCount := h.adapter.stopRequestCount + 1 } : SampleAdapter) =
            { h.adapter with
              stopRequestCount := h.adapter.stopRequestCount + 1
              pendingWork := some work } := by rw [← hwork]
        split
        · exact ⟨some work, hsame, by rw [hwork]⟩
        · split
          · exact ⟨some { work with isCancelled := true }, rfl, by rw [hwork]; rfl⟩
          all_goals exact ⟨some work, hsame, by rw [hwork]⟩
    obtain ⟨work, hadapter, howner⟩ := hadapter
    rw [hadapter]
    exact hp.of_eq rfl id rfl rfl (fun _ ↦ id) rfl rfl rfl le_rfl rfl howner
  | discard hprepared =>
    obtain ⟨hopened, r, howner, idle, hu⟩ := hp.prepared hprepared
    exact hu.unsubmitted hclock hs howner.symm idle

end Planned

/-! ### Passes over the staged events -/

/-- A delivery changes the gate and what the sink holds. -/
theorem delivered_frame (h : SampleHost) (authority : OperationAuthority) (result : SampleResult)
    (time : MonotonicTime) : ∃ results denials gates, h.delivered authority result time =
      { h with
        gate := (h.delivered authority result time).gate
        gates := gates
        adapter :=
          { h.adapter with results := results, resultPermissionDenialCount := denials } } := by
  have hadapter : ∀ permitted, ∃ results denials,
      (h.adapter.acceptResult authority result permitted).2 =
        { h.adapter with results := results, resultPermissionDenialCount := denials } := by
    intro permitted
    unfold SampleAdapter.acceptResult
    split
    · exact ⟨_, _, rfl⟩
    · split
      · exact ⟨_, _, rfl⟩
      · split <;> exact ⟨_, _, rfl⟩
  obtain ⟨results, denials, heq⟩ := hadapter (decide (h.gate.canDeliverResult authority))
  unfold SampleHost.delivered SampleHost.throughAll
  dsimp only
  cases deliveryReport _ _ _ with
  | none => exact ⟨results, denials, h.gates, by rw [heq]; rfl⟩
  | some c => exact ⟨results, denials, _, by rw [heq]; rfl⟩

/-- The last events of a plan are no reports. -/
theorem Stage.Drains.ending {s t : Stage} {path : List (CallbackKind × UInt64)}
    (h : s.Drains path t)
    (hs : s = .succeeded ∨ (∃ sequence, s = .closing sequence) ∨ s = .released) :
    ∀ p ∈ path, p.1 = .result ∨ p.1 = .settled := by
  induction h with
  | nil => nofun
  | @cons s t u kind sequence rest next drains ih =>
    obtain ⟨hkind, hnext⟩ : (kind = .result ∨ kind = .settled) ∧
        (t = .succeeded ∨ (∃ sequence, t = .closing sequence) ∨ t = .released) := by
      cases next with
      | result => exact ⟨.inl rfl, .inr (.inl ⟨_, rfl⟩)⟩
      | settled => exact ⟨.inr rfl, .inr (.inr rfl)⟩
      | notSubmitted | notExecuted | accepted | rejected | refused | started | cancelled | failed
      | fruitless | succeeded => simp at hs
    intro p hp
    rcases List.mem_cons.mp hp with rfl | hp
    · exact hkind
    · exact ih hnext p hp

/-- A result and a settlement are no reports. -/
theorem report_eq_none {event : StagedEvent}
    (h : event.callback.kind = .result ∨ event.callback.kind = .settled) :
    event.report = none := by
  obtain ⟨⟨kind, _, _, _, _⟩, _⟩ := event
  rcases h with h | h <;> cases h <;> rfl

namespace Plan

variable {r : OperationReceipt} {stage last : Stage} {floor time : MonotonicTime}
  {event : StagedEvent} {rest : List StagedEvent}

/-- An event that is processed leaves the rest of the plan. -/
theorem advance {s s' : AuthorityGate} (plan : Plan s r stage last floor (event :: rest))
    {r' : OperationReceipt} {next : Stage} {after : MonotonicTime}
    (hauthority : r'.authority = r.authority) (tracks : Tracks s' next after r')
    (drains : next.Drains (rest.map StagedEvent.shape) last)
    (later : ∀ event ∈ rest, event.report.isSome → after ≤ event.observedAt) :
    Plan s' r' next last after rest where
  tracks := tracks
  drains := drains
  belongs := by
    rw [hauthority]
    exact fun event hevent ↦ plan.belongs event (List.mem_cons_of_mem _ hevent)
  ordered := (List.pairwise_cons.mp plan.ordered).2
  later := later

/-- An operation with events to come is of the binding that is configured. -/
theorem bound {s : AuthorityGate} (plan : Plan s r stage last floor (event :: rest))
    (hcoherent : s.Coherent) (present : s.currentReceipt = some r) :
    r.authority.binding = s.config.binding := by
  by_contra hne
  obtain rfl := plan.tracks.at_stage.of_releasable (hcoherent.superseded r present hne)
  obtain ⟨-, hnil⟩ := plan.drains.of_released
  cases hnil

/-- The last events of a plan are no reports. -/
theorem unreported {events : List StagedEvent}
    (drains : stage.Drains (events.map StagedEvent.shape) last)
    (hstage : stage = .succeeded ∨ (∃ sequence, stage = .closing sequence) ∨ stage = .released) :
    ∀ event ∈ events, event.report.isSome → floor ≤ event.observedAt := by
  intro event hevent hreport
  have hkind := drains.ending hstage _ (List.mem_map_of_mem hevent)
  rw [report_eq_none hkind] at hreport
  cases hreport

/-- A report that the plan has next. -/
theorem reports (plan : Plan h.gate r stage last floor (event :: rest)) (hs : Sound clock h)
    (present : h.gate.currentReceipt = some r) {c : Call} (hreport : event.report = some c) :
    ∃ next, Advances h.gate c next event.observedAt r.authority ∧
      next.Drains (rest.map StagedEvent.shape) last := by
  have bound := plan.bound hs.coherent present
  have htime := plan.later event List.mem_cons_self (by rw [hreport]; rfl)
  obtain ⟨howner, hidentity, -⟩ := plan.belongs event List.mem_cons_self
  have hdrains := plan.drains
  obtain ⟨⟨kind, authority, identity, sequence, result⟩, observedAt⟩ := event
  rw [List.map_cons] at hdrains
  subst howner
  cases hdrains with
  | cons next drains =>
    refine ⟨_, ?_, drains⟩
    cases hnative : nativeEvent kind with
    | some native =>
      obtain rfl : identity = nativeIdentity r.authority := hidentity native hnative
      obtain rfl : Call.observeNative ⟨r.authority, nativeIdentity r.authority, native,
          ⟨nativeEvidenceSource, observedAt, sequence⟩⟩ = c := by
        cases kind <;> cases hnative <;> exact Option.some.inj hreport
      exact plan.tracks.reports_native hs present bound htime next hnative
    | none =>
      cases next with
      | accepted | rejected | started | cancelled | failed | succeeded => cases hnative
      | result | settled => cases hreport
      | notSubmitted =>
        cases hreport
        exact plan.tracks.reports_notSubmitted hs present bound htime
      | notExecuted =>
        cases hreport
        exact plan.tracks.reports_noOutput hs present bound htime (.inl rfl) rfl
      | refused =>
        cases hreport
        exact plan.tracks.reports_noOutput hs present bound htime (.inr (.inl rfl)) rfl
      | fruitless =>
        cases hreport
        exact plan.tracks.reports_noOutput hs present bound htime (.inr (.inr rfl)) rfl

end Plan

/-- A success whose output is disposed of waits for its settlement. -/
theorem Tracks.closing {s : AuthorityGate} {floor : MonotonicTime} {r : OperationReceipt}
    (ht : Tracks s .succeeded floor r) (hat : (Stage.closing 5).At r) :
    Tracks s (.closing 5) floor r :=
  { ht with
    at_stage := hat
    effects := by
      intro slot hslot record hrecord
      obtain ⟨hle, hless⟩ := ht.effects slot hslot record hrecord
      exact ⟨hle, fun hsource ↦ (hless hsource).trans (by change (1 : UInt64) < 5; decide)⟩ }

/-- A report of a delivery finds no operation where there is none. -/
theorem delivered_absent {h : SampleHost} (absent : h.gate.currentReceipt = none)
    (authority : OperationAuthority) (result : SampleResult) (time : MonotonicTime) :
    (h.delivered authority result time).gate.currentReceipt = none := by
  unfold SampleHost.delivered SampleHost.throughAll
  dsimp only
  cases hcall : deliveryReport authority time (h.adapter.acceptResult authority result
      (decide (h.gate.canDeliverResult authority))).1 with
  | none => exact absent
  | some c =>
    have hstep : Transition h.gate c (h.gate.call c).1 (h.gate.call c).2 :=
      gate_transition h.gate c
    cases hstep.receiptEffect with
    | kept hkept => exact hkept.trans absent
    | admitted call =>
      subst call
      generalize (h.adapter.acceptResult authority result _).1 = acceptance at hcall
      cases acceptance <;> cases hcall
    | changed present => cases absent.symm.trans present

/-- The slots of the host hold what they held. -/
theorem Rests.of_eq {r r' : OperationReceipt} {last : Stage} (rests : Rests h r last)
    (hauthority : r'.authority = r.authority) (hprepared : t.preparedAuthority = h.preparedAuthority)
    (hpending : t.adapter.pendingWork = h.adapter.pendingWork) : Rests t r' last := by
  unfold Rests at rests ⊢
  rw [hauthority, hprepared, hpending]
  exact rests

namespace Planned

/-- A host with other staged events, in a pass over them. -/
theorem requeue (hp : Planned h) (hopened : h.isShutdown = false)
    (hreporting : t.adapter.settlementReportingEnabled = h.adapter.settlementReportingEnabled)
    (hconnected : t.adapter.hasCallback = h.adapter.hasCallback)
    (hretained : t.adapter.replayResult = h.adapter.replayResult)
    (hpermitted : t.permissions = h.permissions) (hsame : t.isShutdown = h.isShutdown)
    (queue : ∃ replays events, t.stagedEvents = replays ++ events ∧
      (∀ event ∈ replays, event.callback.IsResult) ∧ Account t events) : Planned t where
  reporting := hreporting.trans hp.reporting
  connected := fun _ ↦ hconnected.trans (hp.connected hopened)
  shut := fun hshut ↦ by
    rw [hsame, hopened] at hshut
    cases hshut
  retained := hretained ▸ hp.retained
  permitted := hpermitted ▸ hp.permitted
  queue := queue

/-- The event that is staged first is a replay, or the next one of the plan. -/
theorem first (hp : Planned h) {event : StagedEvent} {rest : List StagedEvent}
    (staged : h.stagedEvents = event :: rest) :
    h.isShutdown = false ∧ ((event.callback.IsResult ∧
      ∃ replays events, rest = replays ++ events ∧
        (∀ event ∈ replays, event.callback.IsResult) ∧ Account h events) ∨
      ∃ r stage last floor, h.gate.currentReceipt = some r ∧
        Plan h.gate r stage last floor (event :: rest) ∧ floor ≤ h.lastTime ∧ Rests h r last) := by
  constructor
  · by_contra hshut
    obtain ⟨-, hempty, -⟩ := hp.shut (by simpa using hshut)
    cases hempty.symm.trans staged
  · obtain ⟨replays, events, hstaged, hreplays, account⟩ := hp.queue
    cases replays with
    | cons replay replays =>
      obtain ⟨rfl, rfl⟩ := List.cons_eq_cons.mp (staged.symm.trans hstaged)
      exact .inl ⟨hreplays _ List.mem_cons_self, replays, events, rfl,
        fun event hevent ↦ hreplays event (List.mem_cons_of_mem _ hevent), account⟩
    | nil =>
      obtain rfl : event :: rest = events := staged.symm.trans hstaged
      cases account with
      | unused _ empty => cases empty
      | planned present plan reached rests =>
        exact .inr ⟨_, _, _, _, present, plan, reached, rests⟩

/-- A report keeps the plan. -/
theorem report (hs : Sound clock h) (hp : Planned h) {event : StagedEvent}
    {rest : List StagedEvent} {c : Call} (staged : h.stagedEvents = event :: rest)
    (reports : event.report = some c) : Planned (h.popped.through c) := by
  obtain ⟨hopened, hreplay | ⟨r, stage, last, floor, present, plan, -, rests⟩⟩ := hp.first staged
  · rw [report_eq_none (.inl hreplay.1.1)] at reports
    cases reports
  · obtain ⟨next, ⟨r', after, hauthority, tracks⟩, drains⟩ := plan.reports hs present reports
    have hrest : (h.popped.through c).stagedEvents = [] ++ rest :=
      (congrArg List.tail staged).trans rfl
    refine hp.requeue hopened rfl rfl rfl rfl rfl
      ⟨[], rest, hrest, nofun, .planned after (plan.advance hauthority tracks drains ?_) ?_
        (rests.of_eq hauthority rfl rfl)⟩
    · intro later hlater _
      exact (List.pairwise_cons.mp plan.ordered).1 later hlater
    · exact hs.staged event (staged ▸ List.mem_cons_self)

/-- A settlement keeps the plan. -/
theorem settle (hs : Sound clock h) (hp : Planned h) {event : StagedEvent}
    {rest : List StagedEvent} {time : MonotonicTime} (staged : h.stagedEvents = event :: rest)
    (kind : event.callback.kind = .settled) (looked : h.Looked time) :
    Planned (h.popped.through (settlementReport event.callback time)) := by
  obtain ⟨hopened, hreplay | ⟨r, stage, last, floor, present, plan, reached, rests⟩⟩ :=
    hp.first staged
  · cases kind.symm.trans hreplay.1.1
  · have bound := plan.bound hs.coherent present
    obtain ⟨howner, -⟩ := plan.belongs event List.mem_cons_self
    have hdrains := plan.drains
    rw [List.map_cons, StagedEvent.shape, kind] at hdrains
    cases hdrains with
    | cons next drains =>
      cases next with
      | settled positive counted =>
        obtain ⟨r', after, hauthority, tracks⟩ :=
          plan.tracks.settles hs present bound looked positive counted howner rfl
        have hrest : (h.popped.through (settlementReport event.callback time)).stagedEvents =
            [] ++ rest := (congrArg List.tail staged).trans rfl
        refine hp.requeue hopened rfl rfl rfl rfl rfl
          ⟨[], rest, hrest, nofun, .planned after (plan.advance hauthority tracks drains
            (Plan.unreported drains (.inr (.inr rfl)))) (max_le reached looked.reached)
            (rests.of_eq hauthority rfl rfl)⟩

/-- A delivery keeps the plan. -/
theorem deliver (hclock : Monotone clock) (hs : Sound clock h) (hp : Planned h)
    {event : StagedEvent} {rest : List StagedEvent} {time : MonotonicTime}
    (staged : h.stagedEvents = event :: rest) (kind : event.callback.kind = .result)
    {result : SampleResult} (carries : event.callback.result = some result)
    (hresult : result.operationId = event.callback.authority.operationId)
    (looked : h.Looked time) :
    Planned (h.popped.delivered event.callback.authority result time) := by
  have hsound : Sound clock (h.popped.delivered event.callback.authority result time) :=
    hs.pass hclock (.deliver staged kind carries looked)
  have hpopped : h.popped.Looked time := looked.of_gate rfl le_rfl
  have hdelivers := fun r stage floor (ht : Tracks h.gate stage floor r) present ↦
    Tracks.delivers (h := h.popped) ht hs.popped present hpopped hresult
  have habsent := fun absent : h.gate.currentReceipt = none ↦
    delivered_absent (h := h.popped) absent event.callback.authority result time
  obtain ⟨results, denials, gates, hframe⟩ :=
    delivered_frame h.popped event.callback.authority result time
  generalize h.popped.delivered event.callback.authority result time = t at *
  have hrest : t.stagedEvents = rest := by
    rw [hframe]
    exact congrArg List.tail staged
  have hslots : t.preparedAuthority = h.preparedAuthority ∧
      t.adapter.pendingWork = h.adapter.pendingWork ∧ t.lastTime = h.lastTime := by
    rw [hframe]
    exact ⟨rfl, rfl, rfl⟩
  obtain ⟨hprepared, hpending, htime⟩ := hslots
  obtain ⟨hopened, hfirst⟩ := hp.first staged
  have hqueue : (∃ replays events, t.stagedEvents = replays ++ events ∧
      (∀ event ∈ replays, event.callback.IsResult) ∧ Account t events) → Planned t :=
    hp.requeue hopened (by rw [hframe]; rfl) (by rw [hframe]; rfl) (by rw [hframe]; rfl)
      (by rw [hframe]; rfl) (by rw [hframe]; rfl)
  rcases hfirst with ⟨-, replays, events, hevents, hreplays, account⟩ |
    ⟨r, stage, last, floor, present, plan, reached, rests⟩
  · refine hqueue ⟨replays, events, hrest.trans hevents, hreplays, ?_⟩
    cases account with
    | unused absent empty unprepared idle =>
      exact .unused (habsent absent) empty (hprepared.trans unprepared) (hpending.trans idle)
    | @planned r stage last floor present plan reached rests =>
      obtain ⟨r', later, hreported, -⟩ := hdelivers r stage floor plan.tracks present
      refine .planned hreported.present ⟨hreported.tracks, plan.drains, ?_, plan.ordered, ?_⟩ ?_
        (rests.of_eq hreported.authority hprepared hpending)
      · rw [hreported.authority]
        exact plan.belongs
      · by_cases hstage : stage = .succeeded
        · exact Plan.unreported plan.drains (.inl hstage)
        · rw [hreported.unmoved hstage]
          exact plan.later
      · exact htime ▸ hreported.reached.trans (max_le reached looked.reached)
  · have bound := plan.bound hs.coherent present
    obtain ⟨howner, -⟩ := plan.belongs event List.mem_cons_self
    have hdrains := plan.drains
    rw [List.map_cons, StagedEvent.shape, kind] at hdrains
    generalize event.callback.sequence = sequence at hdrains
    cases hdrains with
    | cons next drains =>
      cases next with
      | result =>
        obtain ⟨r', later, hreported, hdisposed⟩ := hdelivers r _ floor plan.tracks present
        have hat := hreported.tracks.at_stage.closing_of_disposed
          (hsound.coherent.receipts r' hreported.present) (hdisposed howner bound rfl) 5
        refine hqueue ⟨[], rest, hrest, nofun, .planned hreported.present
          (plan.advance hreported.authority (hreported.tracks.closing hat) drains
            (Plan.unreported drains (.inr (.inl ⟨5, rfl⟩)))) ?_
          (rests.of_eq hreported.authority hprepared hpending)⟩
        exact htime ▸ hreported.reached.trans (max_le reached looked.reached)

/-- A pass over the staged events keeps the plan. -/
theorem pass (hclock : Monotone clock) (hs : Sound clock h) (ha : Authentic h) (hp : Planned h)
    (move : Pass clock h t) : Planned t := by
  cases move with
  | quiet move => exact hp.quiet hclock hs move
  | report staged reports => exact hp.report hs staged reports
  | settle staged kind looked => exact hp.settle hs staged kind looked
  | @deliver event rest time staged kind result carries looked =>
    obtain ⟨request, -, hcomputed⟩ := ha.staged event (staged ▸ List.mem_cons_self) result carries
    exact hp.deliver hclock hs staged kind carries (by rw [hcomputed]; rfl) looked
  | @drop event rest staged kind empty =>
    have hcarries : event.callback.result.isSome := by
      obtain ⟨-, hreplay | ⟨r, stage, last, floor, -, plan, -⟩⟩ := hp.first staged
      · exact hreplay.1.2
      · exact (plan.belongs event List.mem_cons_self).result kind
    rw [empty] at hcarries
    cases hcarries

end Planned

/-! ### Moves of the calls -/

namespace Planned

/-- An admission begins a new plan. -/
theorem admission (hp : Planned h) {request : SampleRequest} {time : MonotonicTime}
    (reached : time ≤ h.lastTime) (guard : AdmitGuard h.gate (operationRequest request time))
    (admitted : (h.gate.call (.admitRequest (operationRequest request time))).2 =
      h.gate.admitted (operationRequest request time)) :
    Planned
      { h.through (.admitRequest (operationRequest request time)) with
        currentAuthority := some (h.gate.nextAuthority (operationRequest request time))
        preparedAuthority := some (h.gate.nextAuthority (operationRequest request time))
        preparedRequest := some request
        admissions := h.admissions ++
          [(h.gate.nextAuthority (operationRequest request time), request)] } := by
  have hopened : h.isShutdown = false := by
    by_contra hshut
    obtain ⟨-, -, hclosing⟩ := hp.shut (by simpa using hshut)
    cases hclosing.closed.symm.trans guard.phase
  obtain ⟨replays, events, hstaged, hreplays, account⟩ := hp.queue
  obtain ⟨rfl, idle⟩ : events = [] ∧ h.adapter.pendingWork = none := by
    cases account with
    | unused _ empty _ idle => exact ⟨empty, idle⟩
    | @planned r stage last floor present plan _ rests =>
      obtain rfl := plan.tracks.at_stage.of_releasable (guard.closed r present)
      obtain ⟨rfl, hnil⟩ := plan.drains.of_released
      exact ⟨List.map_eq_nil_iff.mp hnil, rests.2⟩
  refine hp.requeue hopened rfl rfl rfl rfl rfl ⟨replays, [], hstaged, hreplays, ?_⟩
  refine .planned (r := AuthorityGate.newReceipt (h.gate.nextAuthority
    (operationRequest request time)) (operationRequest request time)) (congrArg
      AuthorityGate.currentReceipt admitted)
    ⟨?_, (.nil : Stage.prepared.Drains [] .prepared), nofun, .nil, nofun⟩ reached ⟨rfl, idle⟩
  unfold SampleHost.through
  dsimp only
  rw [admitted]
  exact tracks_admitted _

/-- A prepared operation is submitted. -/
theorem submit (hclock : Monotone clock) (hs : Sound clock h) (hp : Planned h)
    {authority : OperationAuthority} (request : SampleRequest) {time : MonotonicTime}
    (prepared : h.preparedAuthority = some authority) (reached : time ≤ h.lastTime)
    (claimed : (h.gate.call (.claimDispatch authority time)).1 = .dispatch true) :
    Planned ((h.claimed authority time).submitted clock (workOf authority request)) := by
  obtain ⟨hopened, r, howner, idle, hu⟩ := hp.prepared prepared
  obtain ⟨replays, events, stage, floor, hstaged, hreplays, plan, hreached⟩ := hu.queue
  obtain ⟨rfl, hnil⟩ := plan.drains.eq_prepared rfl
  obtain rfl := List.map_eq_nil_iff.mp hnil
  obtain ⟨r', after, hauthority, tracks⟩ :=
    plan.tracks.claims (hs.coherent.receipts r hu.present) hu.present claimed
  have hclaimed : Underway (h.claimed authority time) r' .submitted :=
    { reporting := hu.reporting
      opened := hu.opened
      connected := hu.connected
      retained := hu.retained
      permitted := by
        intro adapter hadapter
        rcases List.mem_append.mp hadapter with hadapter | hadapter
        · exact hu.permitted adapter hadapter
        · rw [List.mem_singleton.mp hadapter]
          exact idle
      present := after
      queue := ⟨replays, [], .submitted, max floor time, hstaged, hreplays,
        ⟨tracks, .nil, nofun, .nil, nofun⟩, max_le hreached reached⟩ }
  have hwork : authority = r'.authority := (hauthority.trans howner).symm
  exact hclaimed.submitted hclock (hs.claimed reached authority) hwork
    (congrArg nativeIdentity hwork) rfl idle

/-- Pending work is finished. -/
theorem finish (hclock : Monotone clock) (hs : Sound clock h) (hp : Planned h) {work : WorkItem}
    (pending : h.adapter.pendingWork = some work) :
    Planned (SampleHost.finished clock work
      { h with adapter := { h.adapter with pendingWork := none } }) := by
  obtain ⟨hopened, r, howner, hidentity, unprepared, hu⟩ := hp.pending pending
  have htaken : Underway { h with adapter := { h.adapter with pendingWork := none } } r .running :=
    hu.of_eq rfl rfl rfl rfl rfl rfl rfl rfl
  have hsound : Sound clock { h with adapter := { h.adapter with pendingWork := none } } :=
    hs.of_eq rfl rfl rfl rfl rfl fun _ ↦ id
  exact htaken.finished hclock hsound howner hidentity unprepared rfl

/-- A retained result is replayed. -/
theorem replay (hs : Sound clock h) (hp : Planned h) {callback : NativeCallback}
    (opened : h.adapter.isClosed = false) (retained : h.adapter.replayResult = some callback) :
    Planned
      { h.reading clock with
        stagedEvents := ⟨callback, clock h.readings⟩ :: h.stagedEvents } := by
  have hopened : h.isShutdown = false := by
    by_contra hshut
    obtain ⟨hclosed, -⟩ := hp.shut (by simpa using hshut)
    cases opened.symm.trans hclosed
  obtain ⟨replays, events, hstaged, hreplays, account⟩ := hp.queue
  refine hp.requeue hopened rfl rfl rfl rfl rfl
    ⟨⟨callback, clock h.readings⟩ :: replays, events, congrArg _ hstaged, ?_,
      account.of_eq rfl rfl rfl (hs.timed.ahead _ le_rfl)⟩
  intro event hevent
  rcases List.mem_cons.mp hevent with rfl | hevent
  · exact hp.retained callback retained
  · exact hreplays event hevent

/-- The adapter is replaced. -/
theorem replace (hp : Planned h) (mode : CompletionMode) (opened : h.isShutdown = false)
    (idle : h.adapter.pendingWork = none) :
    Planned
      { h with
        adapter :=
          SampleAdapter.inheritObservations { completionMode := mode } h.adapter } where
  reporting := rfl
  connected := fun _ ↦ rfl
  shut := fun hshut ↦ by cases opened.symm.trans hshut
  retained := hp.retained
  permitted := hp.permitted
  queue := by
    obtain ⟨replays, events, hstaged, hreplays, account⟩ := hp.queue
    exact ⟨replays, events, hstaged, hreplays,
      account.of_eq rfl rfl (congrArg (Option.map WorkItem.owner) idle.symm) le_rfl⟩

/-- The host is shut down. -/
theorem close (hp : Planned h) (closed : h.gate.bindingPhase = .closed)
    (idle : h.adapter.pendingWork = none) (unprepared : h.preparedAuthority = none)
    (drained : h.stagedEvents = []) :
    Planned
      { h with
        adapter := { h.adapter.close with hasCallback := false }
        isShutdown := true } := by
  obtain ⟨hreporting, hpending, hclosed, hretained⟩ :
      h.adapter.close.settlementReportingEnabled = h.adapter.settlementReportingEnabled ∧
      h.adapter.close.pendingWork = h.adapter.pendingWork ∧ h.adapter.close.isClosed = true ∧
      ∀ callback ∈ h.adapter.close.replayResult, callback ∈ h.adapter.replayResult := by
    unfold SampleAdapter.close
    split
    · next hclosed => exact ⟨rfl, rfl, hclosed, fun _ ↦ id⟩
    · exact ⟨rfl, rfl, rfl, nofun⟩
  obtain ⟨replays, events, hstaged, hreplays, account⟩ := hp.queue
  exact
    { reporting := hreporting.trans hp.reporting
      connected := nofun
      shut := fun _ ↦ ⟨hclosed, drained, closed, hpending.trans idle, unprepared⟩
      retained := fun callback hcallback ↦ hp.retained callback (hretained callback hcallback)
      permitted := hp.permitted
      queue := ⟨replays, events, hstaged, hreplays,
        account.of_eq rfl rfl (congrArg (Option.map WorkItem.owner) hpending) le_rfl⟩ }

/-- Every move keeps the plan. -/
theorem move (hclock : Monotone clock) (hs : Sound clock h) (ha : Authentic h) (hp : Planned h)
    (step : Move clock h t) : Planned t := by
  cases step with
  | pass step => exact hp.pass hclock hs ha step
  | adapt adapts reports =>
    exact hp.of_eq rfl reports adapts.hasCallback adapts.isClosed adapts.replayResult rfl rfl rfl
      le_rfl rfl (congrArg _ adapts.pendingWork)
  | admits _ reached guard admitted => exact hp.admission reached guard admitted
  | submit prepared _ _ reached claimed => exact hp.submit hclock hs _ prepared reached claimed
  | finish pending => exact hp.finish hclock hs pending
  | replay opened retained => exact hp.replay hs opened retained
  | replace opened idle => exact hp.replace _ opened idle
  | close closed idle unprepared drained => exact hp.close closed idle unprepared drained

end Planned

/-! ### Whole runs -/

/-- The operation of a host that has nothing left to do is released. -/
theorem Planned.released (hp : Planned h) (hs : Sound clock h)
    (idle : h.adapter.pendingWork = none) (unprepared : h.preparedAuthority = none)
    (drained : h.stagedEvents = []) : ∀ authority ∈ h.currentAuthority,
      ∃ r, h.gate.receipt authority = some r ∧ r.authorityDisposition = .released := by
  intro authority hauthority
  rw [hs.current] at hauthority
  obtain ⟨r, present, rfl⟩ := Option.map_eq_some_iff.mp hauthority
  refine ⟨r, ?_, ?_⟩
  · unfold AuthorityGate.receipt
    rw [present]
    exact if_pos (authorityMatches_iff.mpr rfl)
  · obtain ⟨replays, events, hstaged, -, account⟩ := hp.queue
    obtain ⟨-, rfl⟩ := List.append_eq_nil_iff.mp (hstaged.symm.trans drained)
    cases account with
    | unused absent => cases present.symm.trans absent
    | @planned q stage last floor hpresent plan _ rests =>
      cases present.symm.trans hpresent
      obtain ⟨rfl⟩ : stage = last := by
        cases plan.drains
        rfl
      cases stage with
      | released => exact plan.tracks.at_stage.2
      | prepared => cases unprepared.symm.trans rests.1
      | running =>
        obtain ⟨-, work, hwork, -⟩ := rests
        cases idle.symm.trans hwork
      | unsubmitted | submitted | rejected | started | stopped | succeeded | closing => cases rests

/-- Only submitted work becomes running. -/
theorem Stage.Drains.running {s t : Stage} {path : List (CallbackKind × UInt64)}
    (h : s.Drains path t) (hend : t = .running) : s = .submitted ∨ s = .running := by
  induction h with
  | nil => exact .inr hend
  | cons next _ ih =>
    rcases ih hend with rfl | rfl
    · cases next
    · cases next
      exact .inl rfl

/-- No dispatch is claimed while work is pending. -/
theorem Planned.unclaimed (hp : Planned h) (hs : Sound clock h) {work : WorkItem}
    (pending : h.adapter.pendingWork = some work) (authority : OperationAuthority)
    (time : MonotonicTime) : (h.gate.claimDispatch authority time).1 = false := by
  obtain ⟨-, r, -, -, -, hu⟩ := hp.pending pending
  obtain ⟨-, events, stage, floor, -, -, plan, -⟩ := hu.queue
  have hsubmitted : r.dispatch = .submitted := by
    rcases plan.drains.running rfl with rfl | rfl
    · exact plan.tracks.at_stage.1
    · exact (hs.coherent.receipts r hu.present).sequenced.native
        (by rw [plan.tracks.at_stage.1]; nofun)
  unfold AuthorityGate.claimDispatch
  cases hreceipt : h.gate.matchingReceipt authority with
  | none => rfl
  | some q =>
    cases hu.present.symm.trans (AuthorityGate.matchingReceipt_eq_some.mp hreceipt).1
    exact congrArg Prod.fst (if_pos (.inr (.inr (.inr (.inl (by rw [hsubmitted]; nofun))))))

namespace SampleRun

private theorem planned_start (run : SampleRun) : Planned run.start where
  reporting := rfl
  connected := fun _ ↦ rfl
  shut := fun hshut ↦ Bool.noConfusion hshut
  retained := fun _ hnone ↦ by cases hnone
  permitted := fun _ hnone ↦ (List.not_mem_nil hnone).elim
  queue := ⟨[], [], rfl, fun _ hnone ↦ (List.not_mem_nil hnone).elim, .unused rfl rfl rfl rfl⟩

/-- The moves of a call keep the plan. -/
theorem planned_along (hclock : Monotone clock) (moves : ReflTransGen (Move clock) h t)
    (hh : Holds clock h) (hp : Planned h) : Holds clock t ∧ Planned t :=
  Fallible.holds_along (P := fun t ↦ Holds clock t ∧ Planned t)
    (fun _ _ step ⟨hh, hp⟩ ↦ ⟨hh.move hclock step,
      hp.move hclock hh.sound hh.authentic step⟩) moves ⟨hh, hp⟩

/-- The host of a run in which settlements are always reported has a plan. -/
theorem planned_final (run : SampleRun) (hclock : Monotone run.clock)
    (hreports : .setSettlementReportingEnabled false ∉ run.calls) :
    Holds run.clock run.final ∧ Planned run.final := by
  refine (sampleHost run.clock).invariant_inputs
    (P := fun h ↦ Holds run.clock h ∧ Planned h)
    (B := fun call ↦ call ≠ .setSettlementReportingEnabled false) ?_
    ⟨holds_start hclock, run.planned_start⟩ fun call hcall heq ↦ hreports (heq ▸ hcall)
  intro h call hcall ⟨hh, hp⟩
  have hreaches := call.reaches hclock hh.sound hcall
  change Holds run.clock (call.program run.clock h).2 ∧ Planned (call.program run.clock h).2
  unfold Fallible.Reaches Fallible.Meets at hreaches
  split at hreaches
  · next answer t heq =>
    rw [heq]
    exact planned_along hclock hreaches.1 hh hp
  · exact hreaches.elim

/-- The host drains to closure: in every run whose clock does not go back and in which settlements
are always reported, the last admitted operation is released wherever nothing is pending, prepared
or staged; shutting down returns, leaves nothing pending or staged, and releases it; and no
dispatch is permitted while the adapter holds pending work. -/
theorem drains_to_closure (run : SampleRun) (hclock : Monotone run.clock)
    (hreports : .setSettlementReportingEnabled false ∉ run.calls) :
    (run.final.adapter.pendingWork = none → run.final.preparedAuthority = none →
      run.final.stagedEvents = [] → ∀ authority ∈ run.final.currentAuthority,
        ∃ r, run.final.gate.receipt authority = some r ∧ r.authorityDisposition = .released) ∧
    (∃ t, SampleProgram.shutdown run.clock run.final = (.ok ⟨⟩, t) ∧
      t.adapter.pendingWork = none ∧ t.stagedEvents = [] ∧
      t.currentAuthority = run.final.currentAuthority ∧
      ∀ authority ∈ t.currentAuthority,
        ∃ r, t.gate.receipt authority = some r ∧ r.authorityDisposition = .released) ∧
    (∀ adapter ∈ run.final.permissions, adapter.pendingWork = none) ∧
    (run.final.adapter.pendingWork.isSome → ∀ authority time,
      (run.final.gate.claimDispatch authority time).1 = false) := by
  obtain ⟨hh, hp⟩ := run.planned_final hclock hreports
  refine ⟨hp.released hh.sound, ?_, hp.permitted, fun hpending authority time ↦ ?_⟩
  · have hreaches := SampleProgram.shutdown_reaches hclock hh.sound
    unfold Fallible.Reaches Fallible.Meets at hreaches
    split at hreaches
    · next answer t heq =>
      obtain ⟨moves, hcurrent, hends⟩ := hreaches
      obtain ⟨ht, hpt⟩ := planned_along hclock moves hh hp
      obtain ⟨hempty, hclosing⟩ : t.stagedEvents = [] ∧ Closing t := by
        rcases hends with ⟨rfl, hshut⟩ | hends
        · exact (hp.shut hshut).2
        · exact hends
      exact ⟨t, heq, hclosing.idle, hempty, hcurrent,
        hpt.released ht.sound hclosing.idle hclosing.unprepared hempty⟩
    · exact hreaches.elim
  · obtain ⟨work, hwork⟩ := Option.isSome_iff_exists.mp hpending
    exact hp.unclaimed hh.sound hwork authority time

/-- One operation of a deferred adapter, on a clock that stands still. -/
def deferred : SampleRun :=
  ⟨.deferred, fun _ ↦ 5, [.initializeHost, .submit ⟨"request", [3, -4], none⟩]⟩

/-- Its work is pending, and shutting down releases it. -/
theorem drains_to_closure_deferred :
    deferred.final.adapter.pendingWork.isSome = true ∧
      ∃ t, SampleProgram.shutdown deferred.clock deferred.final = (.ok ⟨⟩, t) ∧
        t.adapter.pendingWork = none ∧ t.stagedEvents = [] ∧
        t.currentAuthority = deferred.final.currentAuthority ∧
        ∀ authority ∈ t.currentAuthority,
          ∃ r, t.gate.receipt authority = some r ∧ r.authorityDisposition = .released :=
  ⟨by decide +kernel, (deferred.drains_to_closure monotone_const (by decide)).2.1⟩

end SampleRun

end RobotHarness.Sample
