import RobotHarness.Python.CoordinatorRun
import RobotHarness.Python.SessionSteps

/-!
# Runs of a session's host

What the host keeps over the messages of its worker, the progress of an operation, the process of
the worker and the turns of its loop: every step of the backend is permitted, and the gate
refuses nothing that the host reports, but when a reset reaches a host that was closed at the time
zero.
-/

namespace RobotHarness.Python

open Fallible (Meets)
open Transport (Json Dict)

namespace Host

variable {β : Type} {env : Surroundings} {backend : Backend β} {fresh : β → Prop} {s : Host β}
  {w : View β} {n : ℕ} {e : Execution} {v : GateView} {reference : String}
  {arguments : HostArguments} {r : OperationReceipt}
  {known : HostError → Prop} {stranded refused : Prop} {α : Type}

/-! ### Messages of the worker -/

/-- `initialize`. -/
private theorem initializeGate_keeps (h : Knows env s w n e) (hclock : Monotone env.clock)
    (hagrees : Agrees w v) (hhalts : Halts stranded w) (hquiet : Quiet fresh w n e v)
    (hstarting : w.phase = .starting) :
    Meets (initializeGate env) s (fun _ t ↦ t.Keeps env backend fresh stranded)
      (Raises env backend fresh known stranded refused) := by
  have hgoes : ¬ (w.failure.isSome = true ∨ w.closingAt.isSome = true) := by
    intro hstopped
    have hphase := hhalts hstopped
    simp [hstarting] at hphase
  have hopen : ¬ v.closed := fun hclosed ↦ hgoes (.inr (hagrees.closed.mp hclosed))
  have hunused := hquiet.unused hstarting
  unfold initializeGate
  apply (h.observeStartup hclock hquiet.rests.gate hopen hunused (by decide)).bind
  rintro _ t ⟨_, _, -, hg, h⟩
  apply (h.observeStartup hclock hg hopen hunused (by decide)).bind
  rintro _ t ⟨_, _, -, hg, h⟩
  apply (h.observeStartup hclock hg hopen hunused (by decide)).bind
  rintro _ t ⟨_, _, -, hg, h⟩
  apply (h.refreshCapability hclock hg hopen true).bind
  rintro _ t ⟨m, g, -, hg, h⟩
  refine Meets.mono (h.assign (fun w ↦ { w with phase := .ready }) h.orderly
    fun _ ↦ ⟨rfl, rfl, rfl⟩) ?_ fun _ _ he ↦ he
  intro _ t h
  refine ⟨_, m, _, v, h, hagrees.assign ⟨rfl, rfl, rfl⟩,
    fun hstopped ↦ absurd hstopped hgoes, .inl ?_⟩
  constructor
  · exact hquiet.rests.regate hg
  · exact hquiet.prediction
  · exact fun _ ↦ hquiet.fresh (.inl hstarting)
  · intro hstarts
    cases hstarts
  · intro hrunning
    cases hrunning

/-- The receipt of the operation. -/
private theorem receiptOf_meets (h : Knows env s w n e) (howns : e.Owns n v reference arguments r) :
    Meets (receiptOf r.authority.operationId) s (fun found t ↦ found = r ∧ Knows env t w n e)
      (Raises env backend fresh known stranded refused) := by
  unfold receiptOf
  apply (h.callGate (howns.gate.receipt_read)).bind
  rintro found t ⟨g, ⟨rfl, rfl⟩, h⟩
  exact ⟨rfl, h⟩

/-- A prediction that was asked for. -/
private theorem receivePrediction_keeps (h : Knows env s w n e) (hlawful : backend.Lawful fresh)
    (hagrees : Agrees w v) (hhalts : Halts stranded w)
    (hbusy : Busy backend w n e v reference arguments r) {prediction : Prediction}
    (hpending : w.prediction = some prediction) (message : Dict) :
    Meets (receivePrediction backend message prediction) s
      (fun _ t ↦ t.Keeps env backend fresh stranded)
      (Raises env backend fresh HostError.Texted stranded refused) := by
  have hkeeps : s.Keeps env backend fresh stranded :=
    ⟨w, n, e, v, h, hagrees, hhalts, .inr ⟨_, _, r, hbusy⟩⟩
  unfold receivePrediction
  rw [Fallible.meets_ite]
  split
  · exact hkeeps.refuses (by simp [HostError.Texted, HostError.text])
  next hmatches =>
  rw [Bool.not_eq_false] at hmatches
  rw [Fallible.meets_self_bind]
  dsimp only
  cases hvalid : backend.validateActions (item message "actions") prediction.count s.backend with
  | error error =>
    obtain ⟨text, hnamed, rfl⟩ := hlawful.refuses hvalid
    exact hkeeps.refuses hnamed
  | ok _ =>
    obtain ⟨actions, hactions⟩ := hlawful.validates hvalid
    generalize (Dict.get? message "identity").getD .null = answered at hmatches ⊢
    have hclosing := h.closingAt_eq
    have hfailure := h.failure_eq
    have hsettled : Busy backend { w with prediction := none } n e v reference arguments r :=
      { hbusy with asked := by simp }
    rw [Fallible.meets_bind, Fallible.meets_answer_ok, hactions, hclosing, hfailure]
    refine Meets.bind (h.assign (fun w ↦ { w with prediction := none }) h.orderly
      fun _ ↦ ⟨rfl, rfl, rfl⟩) ?_
    intro _ t h
    apply (h.activeRecord hbusy.owns).bind
    rintro ⟨active, record⟩ t ⟨-, hid, -, rfl⟩
    unfold operationOf
    dsimp only at hid ⊢
    rw [hid, Fallible.meets_bind, Fallible.meets_pure]
    apply (receiptOf_meets h hbusy.owns).bind
    rintro found t ⟨hfound, h⟩
    rw [hfound, Fallible.meets_ite]
    split
    · refine Meets.bind (h.note (by exact trivial)) ?_
      intro _ t h
      refine Meets.mono (h.assign (fun w ↦ { w with queue := w.queue ++ actions }) h.orderly
        fun _ ↦ ⟨rfl, rfl, rfl⟩) ?_
        fun _ _ he ↦ he
      intro _ t h
      have hnoted := hsettled.note (.validated r.authority.operationId answered true actions) rfl
        (.inr rfl) rfl
      have hagreed : Agrees
          { w with log := w.log ++ [.validated r.authority.operationId answered true actions] } v :=
        hagrees.note hbusy.underway.known
      refine ⟨_, n, e, v, h, hagreed.assign ⟨rfl, rfl, rfl⟩, hhalts,
        .inr ⟨_, _, r, { hnoted with queue := ?_ }⟩⟩
      intro action haction
      rcases List.mem_append.mp haction with hbefore | hnew
      · exact hnoted.queue action hbefore
      · exact ⟨w.log, _, answered, actions, [], rfl, hnew, hmatches, hbusy.asked _ hpending⟩
    · exact ⟨_, n, e, v, h, hagrees.assign ⟨rfl, rfl, rfl⟩, hhalts, .inr ⟨_, _, r, hsettled⟩⟩

/-- `worker_message`. -/
theorem workerMessage_keeps (h : s.Keeps env backend fresh stranded) (hclock : Monotone env.clock)
    (hlawful : backend.Lawful fresh) (message : Dict) :
    Meets (workerMessage env backend message) s (fun _ t ↦ t.Keeps env backend fresh stranded)
      (Raises env backend fresh HostError.Texted stranded refused) := by
  have hkeeps := h
  have hrefuses : Meets (refuse "unsolicited worker response") s
      (fun (_ : Unit) t ↦ t.Keeps env backend fresh stranded)
        (Raises env backend fresh HostError.Texted stranded refused) :=
    hkeeps.refuses (by simp [HostError.Texted, HostError.text])
  obtain ⟨w, n, e, v, h, hagrees, hhalts, hstands⟩ := h
  unfold workerMessage
  rw [Fallible.meets_self_bind, h.phase_eq, h.prediction_eq, Fallible.meets_ite]
  split
  · next hready =>
    have hstarting := hready.2.2
    rcases hstands with hquiet | ⟨_, _, _, hbusy⟩
    · refine Meets.bind (h.assign id h.orderly fun _ ↦ ⟨rfl, rfl, rfl⟩) ?_
      intro _ t h
      exact initializeGate_keeps h hclock hagrees hhalts hquiet hstarting
    · have hphase := hbusy.phase
      rw [hstarting] at hphase
      simp at hphase
  · cases hpending : w.prediction with
    | none => exact hrefuses
    | some prediction =>
      dsimp only
      rw [Fallible.meets_ite]
      split
      · exact hrefuses
      · rcases hstands with hquiet | ⟨_, _, r, hbusy⟩
        · rw [hquiet.prediction] at hpending
          cases hpending
        · exact receivePrediction_keeps h hlawful hagrees hhalts hbusy hpending message

/-! ### Progress -/

/-- The identity of a prediction. -/
private theorem identity_meets (h : Knows env s w n e)
    (howns : e.Owns n v reference arguments r) :
    Meets (identity backend) s (fun _ t ↦ Knows env t w n e)
      (Raises env backend fresh known stranded refused) := by
  unfold identity
  apply (h.activeRecord howns).bind
  rintro ⟨active, record⟩ t ⟨-, hid, -, rfl⟩
  unfold operationOf
  dsimp only at hid ⊢
  rw [hid, Fallible.meets_bind, Fallible.meets_pure]
  apply (receiptOf_meets h howns).bind
  rintro found t ⟨-, h⟩
  exact h

/-- The worker is asked for a prediction. -/
private theorem requestPrediction_keeps (h : Knows env s w n e) (hlawful : backend.Lawful fresh)
    (hagrees : Agrees w v) (hhalts : Halts stranded w)
    (hbusy : Busy backend w n e v reference arguments r) (hresolved : w.prediction = none)
    (record : Record HostArguments HostFields) :
    Meets (requestPrediction env backend record r.authority.operationId) s
      (fun _ t ↦ t.Keeps env backend fresh stranded)
      (Raises env backend fresh (fun _ ↦ True) stranded refused) := by
  unfold requestPrediction
  refine Meets.bind (h.assign id h.orderly fun _ ↦ ⟨rfl, rfl, rfl⟩) ?_
  intro _ t h
  rw [Fallible.meets_self_bind]
  dsimp only
  apply (identity_meets h hbusy.owns).bind
  intro identity t h
  refine Meets.bind (h.note (by exact trivial)) ?_
  intro _ t h
  have hnoted := hbusy.note (.requested r.authority.operationId identity) rfl (.inr hresolved) rfl
  have hasked (count : ℤ) :
      Busy backend
        { w with
          log := w.log ++ [.requested r.authority.operationId identity]
          prediction := some ⟨identity, count⟩ }
        n e v reference arguments r := by
    refine ⟨{ hnoted.toBound with asked := ?_ }, hnoted.live⟩
    rintro _ ⟨⟩
    exact Since.now rfl
  refine Meets.bind (h.assign (fun w ↦ { w with prediction := some ⟨identity, _⟩ }) h.orderly
    fun _ ↦ ⟨rfl, rfl, rfl⟩) ?_
  intro _ t h
  have hagreed : Agrees
      { w with log := w.log ++ [.requested r.authority.operationId identity] } v :=
    hagrees.note hbusy.underway.known
  have hkept : t.Keeps env backend fresh stranded :=
    ⟨_, n, e, v, h, hagreed.assign ⟨rfl, rfl, rfl⟩, hhalts, .inr ⟨_, _, r, hasked _⟩⟩
  apply (sample_keeps hkept hlawful).bind
  intro _ t h
  rw [Fallible.meets_ite]
  split
  · exact queueMessage_keeps h
  · apply h.raises trivial
    intro d heq
    cases heq

/-- The next action is the fixed one, or the first of the queue. -/
private theorem nextAction_licensed (h : Knows env s w n e)
    (hbusy : Busy backend w n e v reference arguments r) {action : Json} {queue : List Json}
    (hnext : nextAction s = some (action, queue)) :
    (.fixed r.authority.operationId action ∈ w.log ∨
      Predicted w.log r.authority.operationId action) ∧ ∀ a ∈ queue, a ∈ w.queue := by
  have hfixed := h.fixedAction_eq
  have hqueue := h.queue_eq
  unfold nextAction at hnext
  rw [hfixed, hqueue] at hnext
  split at hnext
  · next heq =>
    cases hnext
    exact ⟨.inl (hbusy.fixed _ heq), fun _ ha ↦ ha⟩
  · next heq =>
    cases hnext
    refine ⟨.inr (hbusy.queue _ ?_), fun a ha ↦ ?_⟩
    · rw [heq]
      exact List.mem_cons_self
    · rw [heq]
      exact List.mem_cons_of_mem _ ha
  · cases hnext

/-- The part of a step after the backend has made it. -/
private theorem stepped_keeps (h : Knows env s w n e) (hclock : Monotone env.clock)
    (hlawful : backend.Lawful fresh) (hagrees : Agrees w v) (hhalts : Halts stranded w)
    (hbound : Bound w n e v reference arguments r)
    (hgoes : w.failure = none ∧ w.closingAt = none)
    (hsteps : stepsOf r.authority.operationId w.log = backend.steps w.backend)
    (hpositive : 0 < backend.steps w.backend)
    (hbounded : backend.steps w.backend ≤ arguments.steps)
    (hfirst : backend.steps w.backend = 1 → r.nativeStarted = false) :
    Meets (do
        let s ← .read id
        (if backend.steps s.backend = 1 then native env reference .started else pure ())
        let reading ← now env
        .assign fun s ↦ { s with nextStep := reading + backend.stepInterval }
        match backend.completion arguments.steps s.backend with
        | some reason => finish env backend reason true
        | none => pure ()) s
      (fun _ t ↦ t.Keeps env backend fresh stranded)
      (Raises env backend fresh known stranded refused) := by
  rw [Fallible.meets_self_bind, h.backend_eq]
  have hstarted : Meets
      (if backend.steps w.backend = 1 then native env reference .started else pure ()) s
      (fun _ t ↦ ∃ m f q, q.authority = r.authority ∧ AtStage q .running ∧
        f.Owns m v reference arguments q ∧ Knows env t w m f)
      (Raises env backend fresh known stranded refused) := by
    rw [Fallible.meets_ite]
    split
    · next hone =>
      have hreports (stamp : ℕ) (hle : n ≤ stamp) :=
        hbound.owns.native_started hbound.stage (hfirst hone) hle
      refine Meets.mono (h.native hclock hreports) ?_ fun _ _ he ↦ he
      rintro _ t ⟨m, f, -, ⟨q, hsame, hstage, -, howns⟩, h⟩
      exact ⟨m, f, q, hsame, hstage, howns, h⟩
    · exact ⟨n, e, r, rfl, hbound.stage, hbound.owns, h⟩
  apply hstarted.bind
  rintro _ t ⟨m, f, q, hsame, hstage, howns, h⟩
  apply (h.now hclock).bind
  rintro reading t ⟨hle, h⟩
  refine Meets.bind (h.assign id h.orderly fun _ ↦ ⟨rfl, rfl, rfl⟩) ?_
  intro _ t h
  have hbound := hbound.rebind hsame hstage (howns.mono hle)
  cases hcompletion : backend.completion arguments.steps w.backend with
  | some reason =>
    have hstranded : w.closingAt = some 0 → stranded := by
      rw [hgoes.2]
      nofun
    apply finish_keeps h hclock hlawful hagrees hstranded hbound.owns hbound.underway.known
    · exact fun _ ↦ hbound.stage
    · intro hfalse
      cases hfalse
  | none =>
    have hunfinished := hlawful.completion hcompletion
    refine ⟨w, reading, f, v, h, hagrees, hhalts, .inr ⟨_, _, q, hbound, fun _ ↦ ?_⟩⟩
    rw [hsame]
    exact ⟨hgoes.1, hgoes.2, hsteps, by omega, fun _ ↦ hpositive⟩

/-- A step of the backend. -/
private theorem makeStep_keeps (h : Knows env s w n e) (hclock : Monotone env.clock)
    (hlawful : backend.Lawful fresh) (hagrees : Agrees w v) (hhalts : Halts stranded w)
    (hbusy : Busy backend w n e v reference arguments r) (hlive : ¬ r.isRevoked)
    {record : Record HostArguments HostFields} (harguments : record.arguments = arguments)
    {action : Json} (hpermitted : Permitted w.log r.authority.operationId action) :
    Meets (makeStep env backend reference record r.authority.operationId action) s
      (fun _ t ↦ t.Keeps env backend fresh stranded)
      (Raises env backend fresh known stranded refused) := by
  obtain ⟨hfirst, hgoes, hcounted, hbounded, hstarted⟩ := hbusy.live hlive
  have hopen : ¬ v.closed := by
    rw [hagrees.closed, hgoes]
    simp
  have hbound := hbusy.toBound.note (.stepped r.authority.operationId action) rfl
    (.inl trivial)
  have hnoted : Agrees { w with log := w.log ++ [.stepped r.authority.operationId action] } v :=
    hagrees.note hbusy.underway.known
  have hcounts : stepsOf r.authority.operationId
      (w.log ++ [.stepped r.authority.operationId action]) = backend.steps w.backend + 1 := by
    rw [stepsOf_append, hcounted]
    simp [HostEvent.isStepOf]
  unfold makeStep
  refine Meets.bind (h.note (by exact hpermitted)) ?_
  intro _ t h
  apply (h.tryBackend (hlawful.step action w.backend)).bind
  rintro outcome t ⟨b, hstepped, h⟩
  cases outcome with
  | error text =>
    have hnamed : "backend step error: " ++ text ≠ "" := by simp
    dsimp only
    refine Meets.mono (failWorker_owns h hclock hfirst hopen hbound.owns hbound.stage.2.2.2.2 _)
      ?_ fun _ _ he ↦ he
    rintro _ t ⟨m, f, -, ⟨q, hrevises, hrevoked, howns⟩, h⟩
    refine ⟨_, m, f, v, h, ?_, fun _ ↦ .inr (.inl rfl), .inr ⟨reference, arguments, q, ?_⟩⟩
    · apply Agrees.failed _ hnamed
      exact hnoted.assign ⟨rfl, rfl, rfl⟩
    · exact (hbound.revise hrevises howns).stop backend _ hrevoked rfl (.inr (.inl rfl))
        ⟨rfl, rfl, rfl⟩
  | ok _ =>
    have hmade := hstepped () rfl
    dsimp only
    refine Meets.bind (h.assign id h.orderly fun _ ↦ ⟨rfl, rfl, rfl⟩) ?_
    intro _ t h
    rw [harguments]
    have hbound' : Bound
        { w with log := w.log ++ [.stepped r.authority.operationId action], backend := b }
        n e v reference arguments r := { hbound with }
    refine stepped_keeps h hclock hlawful (hnoted.assign ⟨rfl, rfl, rfl⟩) hhalts hbound'
      ⟨hfirst, hgoes⟩ ?_ ?_ ?_ ?_
    · exact hcounts.trans hmade.symm
    · show 0 < backend.steps b
      omega
    · show backend.steps b ≤ arguments.steps
      omega
    · intro hone
      have hone : backend.steps b = 1 := hone
      by_contra hstarts
      have hpositive := hstarted (by simpa using hstarts)
      omega

/-- The progress of an operation whose authority is current. -/
private theorem progress_keeps (h : Knows env s w n e) (hclock : Monotone env.clock)
    (hlawful : backend.Lawful fresh) (hagrees : Agrees w v) (hhalts : Halts stranded w)
    (hbusy : Busy backend w n e v reference arguments r) (hlive : ¬ r.isRevoked)
    {record : Record HostArguments HostFields} (harguments : record.arguments = arguments)
    (hcurrent : ∃ before, w.log = before ++ [.ticked r.authority.operationId .current]) :
    Meets (progress env backend reference record r.authority.operationId) s
      (fun _ t ↦ t.Keeps env backend fresh stranded)
      (Raises env backend fresh (fun _ ↦ True) stranded refused) := by
  unfold progress
  rw [Fallible.meets_self_bind, h.prediction_eq, Fallible.meets_ite]
  split
  · exact ⟨w, n, e, v, h, hagrees, hhalts, .inr ⟨_, _, r, hbusy⟩⟩
  next hresolved =>
  cases hnext : nextAction s with
  | none =>
    exact requestPrediction_keeps h hlawful hagrees hhalts hbusy (by simpa using hresolved) record
  | some next =>
    obtain ⟨action, queue⟩ := next
    obtain ⟨hlicensed, hqueue⟩ := nextAction_licensed h hbusy hnext
    obtain ⟨-, -, hcounted, hbounded, -⟩ := hbusy.live hlive
    dsimp only
    apply (h.now hclock).bind
    rintro reading t ⟨hle, h⟩
    have hlater := hbusy.transfer (hbusy.owns.mono hle)
    rw [Fallible.meets_ite]
    split
    · exact ⟨w, reading, e, v, h, hagrees, hhalts, .inr ⟨_, _, r, hlater⟩⟩
    · refine Meets.bind (h.assign (fun w ↦ { w with queue := queue }) h.orderly
        fun _ ↦ ⟨rfl, rfl, rfl⟩) ?_
      intro _ t h
      have htaken : Busy backend { w with queue := queue } reading e v reference arguments r :=
        { hlater with queue := fun a ha ↦ hlater.queue a (hqueue a ha) }
      refine makeStep_keeps h hclock hlawful (hagrees.assign ⟨rfl, rfl, rfl⟩) hhalts htaken hlive
        harguments ?_
      constructor
      · exact hcurrent
      · exact hbusy.underway.single
      · exact hbusy.claimed
      · exact hbusy.underway.unended
      · exact hlicensed
      · refine ⟨arguments.steps, hbusy.underway.admitted, ?_⟩
        exact hcounted.trans_lt hbounded

/-- The operation is cancelled whose execution the gate does not support any more. -/
private theorem unsupported_keeps (h : Knows env s w n e) (hclock : Monotone env.clock)
    (hagrees : Agrees w v) (hhalts : Halts stranded w)
    (hbusy : Busy backend w n e v reference arguments r) :
    Meets (do
        let _ ← cancelRecord env reference
        .assign fun s ↦ { s with queue := [] }
        markRevoked backend reference) s
      (fun _ t ↦ t.Keeps env backend fresh stranded)
      (Raises env backend fresh known stranded refused) := by
  apply (h.cancelRecord hclock hbusy.owns hbusy.stage.2.2.2.2).bind
  rintro _ t ⟨-, m, f, q, -, hrevises, hrevoked, howns, h⟩
  refine Meets.bind (h.assign (fun w ↦ { w with queue := [] }) h.orderly fun _ ↦ ⟨rfl, rfl, rfl⟩) ?_
  intro _ t h
  refine Meets.mono (h.markRevoked howns) ?_ fun _ _ he ↦ he
  rintro _ t ⟨f, howns, h⟩
  have hstopped := (hbusy.toBound.revise hrevises howns).stop backend
    { w with queue := [] } hrevoked rfl hbusy.phase ⟨rfl, rfl, rfl⟩
  exact ⟨_, m, f, v, h, hagrees.assign ⟨rfl, rfl, rfl⟩, hhalts, .inr ⟨_, _, q, hstopped⟩⟩

/-- `advance`. -/
theorem advance_keeps (h : s.Keeps env backend fresh stranded) (hclock : Monotone env.clock)
    (hlawful : backend.Lawful fresh) (hstranded : stranded) :
    Meets (advance env backend) s (fun _ t ↦ t.Keeps env backend fresh stranded)
      (Raises env backend fresh (fun _ ↦ True) stranded refused) := by
  obtain ⟨w, n, e, v, h, hagrees, hhalts, hstands⟩ := h
  unfold advance
  rw [Fallible.meets_self_bind, h.execution, Fallible.meets_ite]
  rcases hstands with hquiet | ⟨reference, arguments, r, hbusy⟩
  · rw [if_pos hquiet.rests.active]
    exact ⟨w, n, e, v, h, hagrees, hhalts, .inl hquiet⟩
  rw [if_neg (by simp [hbusy.owns.active])]
  apply (h.activeRecord hbusy.owns).bind
  rintro ⟨active, record⟩ t ⟨hreference, hid, harguments, rfl⟩
  obtain rfl : reference = active := hreference.symm
  unfold operationOf
  dsimp only at hid harguments ⊢
  rw [hid, Fallible.meets_bind, Fallible.meets_pure]
  apply (h.tick hclock hbusy.owns).bind
  rintro found t ⟨m, f, q, hfound, hle, hrevises, howns, h⟩
  rw [hfound]
  dsimp only
  have hbusy := hbusy.revise hrevises howns
  rw [← hrevises.authority]
  refine Meets.bind (h.note (by exact trivial)) ?_
  intro _ t h
  have hnoted := hbusy.note
    (.ticked q.authority.operationId q.authorityDisposition) rfl (.inl trivial) rfl
  have hagreed : Agrees
      { w with log := w.log ++ [.ticked q.authority.operationId q.authorityDisposition] } v :=
    hagrees.note hbusy.underway.known
  rw [Fallible.meets_ite]
  split
  · refine Meets.bind (h.assign (fun w ↦ { w with queue := [] }) h.orderly
      fun _ ↦ ⟨rfl, rfl, rfl⟩) ?_
    intro _ t h
    rw [Fallible.meets_self_bind, Fallible.meets_ite]
    split
    · apply finish_keeps h hclock hlawful (hagreed.assign ⟨rfl, rfl, rfl⟩)
        (fun _ ↦ hstranded) hnoted.owns
      · exact hnoted.underway.known
      · exact fun _ ↦ hnoted.stage
      · intro hfalse
        cases hfalse
    · exact ⟨_, m, f, v, h, hagreed.assign ⟨rfl, rfl, rfl⟩, hhalts,
        .inr ⟨_, _, q, { hnoted with queue := by simp }⟩⟩
  · next hcurrent =>
    have hcurrent := not_not.mp hcurrent
    obtain ⟨-, -, hpending, -, hsettlement⟩ := hbusy.stage
    have hlive : ¬ q.isRevoked := by
      apply (hbusy.owns.gate.current_iff hsettlement ?_).mp hcurrent
      rw [hpending]
      decide
    apply (h.now hclock).bind
    rintro stamp t ⟨hle, h⟩
    have hlater := hnoted.transfer (hnoted.owns.mono hle)
    apply (h.callGate (hlater.owns.gate.supports _)).bind
    rintro supported t ⟨g, hg, h⟩
    have hlater := hlater.transfer (hlater.owns.regate hg rfl)
    rw [Fallible.meets_ite]
    split
    · exact unsupported_keeps h hclock hagreed hhalts hlater
    · refine progress_keeps h hclock hlawful hagreed hhalts hlater hlive harguments ⟨w.log, ?_⟩
      rw [hcurrent]

/-! ### The worker's process -/

/-- An unresolved prediction is given up. -/
private theorem forgetPrediction_keeps (h : s.Keeps env backend fresh stranded) :
    Meets (.assign fun s : Host β ↦ { s with prediction := none }) s
      (fun _ t ↦ t.Keeps env backend fresh stranded)
      (Raises env backend fresh known stranded refused) := by
  obtain ⟨w, n, e, v, h, hagrees, hhalts, hstands⟩ := h
  refine Meets.mono (h.assign (fun w ↦ { w with prediction := none }) h.orderly
    fun _ ↦ ⟨rfl, rfl, rfl⟩) ?_
    fun _ _ he ↦ he
  intro _ t h
  refine ⟨_, n, e, v, h, hagrees.assign ⟨rfl, rfl, rfl⟩, hhalts, ?_⟩
  rcases hstands with hquiet | ⟨_, _, r, hbusy⟩
  · exact .inl { hquiet with prediction := rfl }
  · exact .inr ⟨_, _, r, { hbusy with asked := by simp }⟩

/-- A message for the worker that may be lost. -/
private theorem closeMessage_keeps (h : s.Keeps env backend fresh stranded) :
    Meets (if s.workerChannel = true then
        .catching (queueMessage env)
          (fun error ↦ match error with
            | .osError _ | .bufferError _ => true
            | _ => false)
          fun _ ↦ pure ()
      else pure ()) s (fun _ t ↦ t.Keeps env backend fresh stranded)
      (Raises env backend fresh (fun _ ↦ True) stranded refused) := by
  rw [Fallible.meets_ite]
  split
  · rw [Fallible.meets_catching]
    have hqueued : Meets _ s _ (Raises env backend fresh (fun _ ↦ True) stranded refused) :=
      queueMessage_keeps h
    refine hqueued.mono (fun _ _ h ↦ h) ?_
    intro error t hraised
    cases error with
    | osError text => exact (hraised.handled (.inr rfl)).1
    | bufferError text => exact (hraised.handled (.inr rfl)).1
    | failure failure => exact hraised
    | eofError text => exact hraised
  · exact h

/-- The clock is read, and members are assigned that nothing depends on. -/
private theorem schedule_keeps (h : s.Keeps env backend fresh stranded)
    (hclock : Monotone env.clock) {f : ℕ → Host β → Host β}
    (hassigns : ∀ m s, (f m s).view = s.view ∧ (f m s).execution = s.execution ∧
      (f m s).readings = s.readings) :
    Meets (do
        let reading ← now env
        .assign (f reading)) s (fun _ t ↦ t.Keeps env backend fresh stranded)
      (Raises env backend fresh known stranded refused) := by
  apply (now_keeps h hclock).bind
  intro reading t h
  exact assign_keeps h (hassigns reading)

/-- `stop_worker`. -/
private theorem stopWorker_keeps (h : s.Keeps env backend fresh stranded)
    (hclock : Monotone env.clock) :
    Meets (stopWorker env) s (fun _ t ↦ t.Keeps env backend fresh stranded)
      (Raises env backend fresh (fun _ ↦ True) stranded refused) := by
  unfold stopWorker
  apply (workerExited_keeps h).bind
  intro exited t h
  rw [Fallible.meets_ite]
  split
  · exact forgetPrediction_keeps h
  rw [Fallible.meets_self_bind]
  have hasked : Meets (if t.shutdownSent = false then do
        (if t.workerChannel = true then
          .catching (queueMessage env)
            (fun error ↦ match error with
              | .osError _ | .bufferError _ => true
              | _ => false)
            fun _ ↦ pure ()
        else pure ())
        let reading ← now env
        .assign fun s ↦
          { s with
            shutdownSent := true
            terminatedAt := some (reading + 250000000) }
      else pure ()) t (fun _ t ↦ t.Keeps env backend fresh stranded)
      (Raises env backend fresh (fun _ ↦ True) stranded refused) := by
    rw [Fallible.meets_ite]
    split
    · apply (closeMessage_keeps h).bind
      intro _ t h
      exact schedule_keeps h hclock fun _ _ ↦ ⟨rfl, rfl, rfl⟩
    · exact h
  apply hasked.bind
  intro _ t h
  apply (now_keeps h hclock).bind
  intro reading t h
  rw [Fallible.meets_self_bind, Fallible.meets_ite]
  split
  · exact schedule_keeps h hclock fun _ _ ↦ ⟨rfl, rfl, rfl⟩
  rw [Fallible.meets_ite]
  split
  · apply (now_keeps h hclock).bind
    intro reading t h
    rw [Fallible.meets_ite]
    split
    · exact schedule_keeps h hclock fun _ _ ↦ ⟨rfl, rfl, rfl⟩
    · exact h
  · exact h

/-! ### The loop -/

/-- The host was closed when the clock read zero, and waits for a reset. -/
def Stranded (s : Host β) : Prop := s.phase = .needsReset ∧ s.closingAt = some 0

/-- The host may be stranded where that was allowed before. -/
private theorem Keeps.mono (h : s.Keeps env backend fresh stranded) {stranded' : Prop}
    (hmono : stranded → stranded') : s.Keeps env backend fresh stranded' := by
  obtain ⟨w, n, e, v, h, hagrees, hhalts, hstands⟩ := h
  refine ⟨w, n, e, v, h, hagrees, fun hstopped ↦ ?_, hstands⟩
  exact (hhalts hstopped).imp_right <| .imp_right fun hreset ↦
    ⟨hreset.1, hreset.2.1, hmono hreset.2.2⟩

/-- A host that may be stranded is, or has stopped otherwise. -/
private theorem Keeps.isStranded (h : s.Keeps env backend fresh stranded) :
    s.Keeps env backend fresh s.Stranded := by
  obtain ⟨w, n, e, v, h, hagrees, hhalts, hstands⟩ := h
  refine ⟨w, n, e, v, h, hagrees, fun hstopped ↦ ?_, hstands⟩
  refine (hhalts hstopped).imp_right <| .imp_right fun hreset ↦ ⟨hreset.1, hreset.2.1, ?_, ?_⟩
  · rw [h.phase_eq]
    exact hreset.1
  · rw [h.closingAt_eq]
    exact hreset.2.1

/-- Messages are handled one after another, each where those before it have led. -/
private theorem handleAll_keeps {handle : Dict → Session β Unit} {messages : List Dict}
    (hhandle : ∀ earlier message later t, messages = earlier ++ message :: later →
      handleAll handle earlier s = (.ok (), t) → t.Keeps env backend fresh stranded →
        Meets (handle message) t (fun _ t ↦ t.Keeps env backend fresh stranded)
          (Raises env backend fresh known stranded refused))
    (h : s.Keeps env backend fresh stranded) :
    Meets (handleAll handle messages) s (fun _ t ↦ t.Keeps env backend fresh stranded)
      (Raises env backend fresh known stranded refused) := by
  induction messages generalizing s with
  | nil => exact h
  | cons message messages ih =>
    have hfirst := (hhandle [] message messages s rfl rfl h).and Meets.eq
    unfold handleAll
    rw [Fallible.meets_bind]
    apply hfirst.mono
    · rintro _ t ⟨h, heq⟩
      refine ih (fun earlier other later u hsplit hearlier hkept ↦ ?_) h
      refine hhandle (message :: earlier) other later u (by rw [hsplit]; rfl) ?_ hkept
      rw [handleAll, Fallible.bind_of_eq heq]
      exact hearlier
    · exact fun _ _ hraised ↦ hraised.1

/-- What is known of the exceptions may be forgotten, and that a host is not stranded. -/
private theorem forgets {p : Session β α} {Q : α → Host β → Prop}
    (h : Meets p s Q (Raises env backend fresh known stranded refused)) :
    Meets p s Q (Raises env backend fresh (fun _ ↦ True) True refused) := by
  refine h.mono (fun _ _ h ↦ h) fun error t hraises ↦ ?_
  refine ⟨hraises.log, fun hhandled ↦ ⟨?_, trivial⟩, hraises.rejected⟩
  exact (hraises.handled hhandled).1.mono fun _ ↦ trivial

/-- `maintain_capability`. -/
private theorem maintainCapability_keeps (h : s.Keeps env backend fresh stranded)
    (hclock : Monotone env.clock) :
    Meets (maintainCapability env backend) s (fun _ t ↦ t.Keeps env backend fresh stranded)
      (Raises env backend fresh (fun _ ↦ True) stranded refused) := by
  have hkept := h
  obtain ⟨w, n, e, v, h, hagrees, hhalts, hstands⟩ := h
  unfold maintainCapability
  rw [Fallible.meets_self_bind, h.phase_eq, Fallible.meets_ite]
  split
  · next hactive =>
    have hgoes : w.closingAt = none := by
      by_contra hsome
      have hstopped := hhalts (.inr (Option.isSome_iff_ne_none.mpr hsome))
      rcases hactive.1 with hphase | hphase <;> simp [hphase] at hstopped
    have hopen : ¬ v.closed := by
      rw [hagrees.closed, hgoes]
      simp
    apply h.workerExited.bind
    intro exited t h
    rw [Fallible.meets_ite]
    split
    · apply (h.now hclock).bind
      rintro reading t ⟨hle, h⟩
      have hlater := hstands.mono hle
      rw [Fallible.meets_ite]
      split
      · obtain ⟨u, hserves, hclosed, hregates⟩ := hlater.regate
        refine Meets.mono (h.refreshCapability hclock hserves (hclosed ▸ hopen) true) ?_
          fun _ _ he ↦ he
        rintro _ t ⟨m, g, -, hg, h⟩
        exact ⟨w, m, _, v, h, hagrees, hhalts, hregates hg⟩
      · exact ⟨w, reading, e, v, h, hagrees, hhalts, hlater⟩
    · exact ⟨w, n, e, v, h, hagrees, hhalts, hstands⟩
  · exact hkept

/-- Among the messages of the client is a reset that the host can read, and that it comes to when
it is stranded. -/
def ComesToReset (env : Surroundings) (backend : Backend β) (arrivals : Arrivals) (s : Host β) :
    Prop :=
  ∃ earlier message later t, s.peerAlive = true ∧
    arrivals.client = .ok (earlier ++ message :: later) ∧
    handleAll (command env backend) earlier s = (.ok (), t) ∧ t.Stranded ∧ backend.Resets message

/-- The client is served. -/
private theorem serveClient_keeps (h : s.Keeps env backend fresh True)
    (hclock : Monotone env.clock) (hlawful : backend.Lawful fresh) {arrivals : Arrivals}
    (htexted : arrivals.Texted) :
    Meets (serveClient env backend arrivals) s (fun _ t ↦ t.Keeps env backend fresh True)
      (Raises env backend fresh (fun _ ↦ True) True (ComesToReset env backend arrivals s)) := by
  unfold serveClient
  rw [Fallible.meets_self_bind, Fallible.meets_ite]
  split
  · next hpeer =>
    rw [Fallible.meets_catching]
    have hserved : Meets (do
          let messages ← .answer arrivals.client
          handleAll (command env backend) messages) s (fun _ t ↦ t.Keeps env backend fresh True)
        (Raises env backend fresh (fun _ ↦ True) True (ComesToReset env backend arrivals s)) := by
      rw [Fallible.meets_bind]
      cases harrived : arrivals.client with
      | error error => exact h.raises trivial (htexted error (.inl harrived)).2
      | ok messages =>
        refine handleAll_keeps (fun earlier message later t hsplit hearlier h ↦ ?_) h
        have hcommand := forgets (command_keeps h.isStranded hclock hlawful message
          fun hresets hstranded ↦ show ComesToReset env backend arrivals s from
            ⟨earlier, message, later, t, hpeer, hsplit ▸ harrived, hearlier, hstranded, hresets⟩)
        exact hcommand.mono (fun _ _ h ↦ h.mono fun _ ↦ trivial) fun _ _ h ↦ h
    refine Meets.mono hserved (fun _ _ h ↦ h) ?_
    intro error t hraised
    split
    · next hconnection =>
      refine Meets.bind (assign_keeps (hraised.handled (.inr hconnection)).1
        fun _ ↦ ⟨rfl, rfl, rfl⟩) ?_
      intro _ t h
      exact beginClose_keeps h hclock
    · exact hraised
  · exact h

/-- The worker is served. -/
private theorem serveWorker_keeps (h : s.Keeps env backend fresh stranded)
    (hclock : Monotone env.clock)
    (hlawful : backend.Lawful fresh) {arrivals : Arrivals} (htexted : arrivals.Texted) :
    Meets (serveWorker env backend arrivals) s (fun _ t ↦ t.Keeps env backend fresh stranded)
      (Raises env backend fresh HostError.Texted stranded refused) := by
  unfold serveWorker
  rw [Fallible.meets_self_bind, Fallible.meets_ite]
  split
  · rw [Fallible.meets_catching]
    have hserved : Meets (do
          let messages ← .answer arrivals.worker
          handleAll (workerMessage env backend) messages) s
        (fun _ t ↦ t.Keeps env backend fresh stranded)
        (Raises env backend fresh HostError.Texted stranded refused) := by
      rw [Fallible.meets_bind]
      cases harrived : arrivals.worker with
      | error error =>
        obtain ⟨htext, hforeign⟩ := htexted error (.inr harrived)
        exact h.raises htext hforeign
      | ok messages =>
        exact handleAll_keeps (fun _ message _ _ _ _ h ↦ workerMessage_keeps h hclock hlawful message) h
    refine Meets.mono hserved (fun _ _ h ↦ h) ?_
    intro error t hraised
    split
    · next hconnection =>
      obtain ⟨h, hnamed⟩ := hraised.handled (.inr hconnection)
      rw [Fallible.meets_self_bind]
      have hfailed : Meets
          (if t.closingAt = none then failWorker env backend error.text else pure ()) t
          (fun _ t ↦ t.Keeps env backend fresh stranded)
        (Raises env backend fresh HostError.Texted stranded refused) := by
        rw [Fallible.meets_ite]
        split
        · next hgoes => exact failWorker_keeps h hclock hgoes hnamed
        · exact h
      apply hfailed.bind
      intro _ t h
      exact assign_keeps h fun _ ↦ ⟨rfl, rfl, rfl⟩
    · exact hraised
  · exact h

/-- The process of the worker is looked after. -/
private theorem superviseWorker_keeps (h : s.Keeps env backend fresh stranded)
    (hclock : Monotone env.clock) :
    Meets (superviseWorker env backend) s (fun _ t ↦ t.Keeps env backend fresh stranded)
      (Raises env backend fresh (fun _ ↦ True) stranded refused) := by
  unfold superviseWorker
  apply (workerExited_keeps h).bind
  intro exited t h
  have hexited : Meets (if exited = true then do
        let s ← .read id
        (if s.closingAt = none then failWorker env backend "worker exited" else pure ())
        .assign fun s ↦ { s with prediction := none }
      else pure ()) t (fun _ t ↦ t.Keeps env backend fresh stranded)
      (Raises env backend fresh (fun _ ↦ True) stranded refused) := by
    rw [Fallible.meets_ite]
    split
    · rw [Fallible.meets_self_bind]
      have hfailed : Meets
          (if t.closingAt = none then failWorker env backend "worker exited" else pure ()) t
          (fun _ t ↦ t.Keeps env backend fresh stranded)
        (Raises env backend fresh (fun _ ↦ True) stranded refused) := by
        rw [Fallible.meets_ite]
        split
        · next hgoes => exact failWorker_keeps h hclock hgoes (by decide)
        · exact h
      apply hfailed.bind
      intro _ t h
      exact forgetPrediction_keeps h
    · exact h
  apply hexited.bind
  intro _ t h
  rw [Fallible.meets_self_bind]
  have hstopped : Meets
      (if hasFailure t = true ∨ t.closingAt.isSome = true then stopWorker env else pure ()) t
      (fun _ t ↦ t.Keeps env backend fresh stranded)
      (Raises env backend fresh (fun _ ↦ True) stranded refused) := by
    rw [Fallible.meets_ite]
    split
    · exact stopWorker_keeps h hclock
    · exact h
  apply hstopped.bind
  intro _ t h
  rw [Fallible.meets_self_bind, Fallible.meets_ite]
  split
  · next hstarting =>
    have hgoes : t.closingAt = none := by
      obtain ⟨w, _, _, _, h, _, hhalts, _⟩ := h
      rw [h.phase_eq] at hstarting
      rw [h.closingAt_eq]
      by_contra hsome
      have hphase := hhalts (.inr (Option.isSome_iff_ne_none.mpr hsome))
      simp [hstarting] at hphase
    have hstart := t.startTime
    obtain ⟨w, n, e, v, h, hagrees, hhalts, hstands⟩ := h
    have hclosing := h.closingAt_eq
    apply (h.now hclock).bind
    rintro reading u ⟨hle, h⟩
    have hkept : u.Keeps env backend fresh stranded :=
      ⟨w, reading, e, v, h, hagrees, hhalts, hstands.mono hle⟩
    rw [Fallible.meets_ite]
    split
    · exact failWorker_keeps hkept hclock (h.closingAt_eq.trans (hclosing.symm.trans hgoes))
        (by decide)
    · exact hkept
  · exact h

/-- The backend of a host that closes is closed. -/
private theorem closeBackend_keeps (h : s.Keeps env backend fresh stranded)
    (hlawful : backend.Lawful fresh) (hclosing : s.closingAt.isSome = true) :
    Meets (Host.onBackend backend.close) s (fun _ t ↦ t.Keeps env backend fresh stranded)
      (Raises env backend fresh (fun _ ↦ True) stranded refused) := by
  obtain ⟨w, n, e, v, h, hagrees, hhalts, hstands⟩ := h
  rw [h.closingAt_eq] at hclosing
  have hstopped := hhalts (.inr hclosing)
  have hstands' (b : β) : Stands backend fresh { w with backend := b } n e v := by
    rcases hstands with hquiet | ⟨_, _, r, hbusy⟩
    · refine .inl { hquiet with fresh := ?_ }
      rintro (hphase | hphase) <;> dsimp only at hphase <;> simp [hphase] at hstopped
    · refine .inr ⟨_, _, r, { hbusy with live := ?_ }⟩
      intro hlive
      have hgoes := (hbusy.live hlive).2.1
      rw [hgoes] at hclosing
      cases hclosing
  have hkept (b : β) : ({ s with backend := b } : Host β).Keeps env backend fresh stranded :=
    ⟨_, n, e, v, h.rebacked b, hagrees.assign ⟨rfl, rfl, rfl⟩, hhalts, hstands' b⟩
  unfold Host.onBackend
  rw [Fallible.meets_within]
  apply (hlawful.close s.backend).mono
  · intro _ b _
    exact hkept b
  · intro error b hforeign
    exact (hkept b).raises trivial hforeign

/-- A channel is looked at. -/
private theorem channelDrained_keeps (h : s.Keeps env backend fresh stranded) :
    Meets (channelDrained env) s (fun _ t ↦ t.Keeps env backend fresh stranded)
      (Raises env backend fresh known stranded refused) := by
  obtain ⟨w, n, e, v, h, hkept⟩ := h
  exact ⟨w, n, e, v, ⟨h.view, h.execution, h.time, h.orderly⟩, hkept⟩

/-- The part of `run` after the worker has exited under closing. -/
private theorem completeClose_keeps (h : s.Keeps env backend fresh stranded)
    (hclock : Monotone env.clock)
    (hlawful : backend.Lawful fresh) :
    Meets (completeClose env backend) s (fun _ t ↦ t.Keeps env backend fresh stranded)
      (Raises env backend fresh (fun _ ↦ True) stranded refused) := by
  obtain ⟨w, n, e, v, h, hagrees, hhalts, hstands⟩ := h
  unfold completeClose
  rw [Fallible.meets_self_bind, h.closingAt_eq]
  have hpolled : Meets (if w.closingAt.isSome = true then workerExited env else pure false) s
      (fun exited t ↦ (exited = true → w.closingAt.isSome = true) ∧ Knows env t w n e)
      (Raises env backend fresh (fun _ ↦ True) stranded refused) := by
    rw [Fallible.meets_ite]
    split
    · next hclosing =>
      refine Meets.mono h.workerExited ?_ fun _ _ he ↦ he
      intro _ t h
      exact ⟨fun _ ↦ hclosing, h⟩
    · refine ⟨?_, h⟩
      intro hfalse
      cases hfalse
  apply hpolled.bind
  rintro exited t ⟨hclosing, h⟩
  rw [Fallible.meets_ite]
  split
  · next hexited =>
    have hmarked : Meets (if s.closeReadyAt = none then do
          let reading ← now env
          .assign fun s ↦ { s with closeReadyAt := some reading }
        else pure ()) t (fun _ t ↦ ∃ m, n ≤ m ∧ Knows env t w m e)
        (Raises env backend fresh (fun _ ↦ True) stranded refused) := by
      rw [Fallible.meets_ite]
      split
      · apply (h.now hclock).bind
        rintro reading t ⟨hle, h⟩
        refine Meets.mono (h.assign id h.orderly fun _ ↦ ⟨rfl, rfl, rfl⟩) ?_ fun _ _ he ↦ he
        intro _ t h
        exact ⟨reading, hle, h⟩
      · exact ⟨n, le_rfl, h⟩
    apply hmarked.bind
    rintro _ t ⟨m, hle, h⟩
    have hkept : t.Keeps env backend fresh stranded :=
      ⟨w, m, e, v, h, hagrees, hhalts, hstands.mono hle⟩
    apply (closeBackend_keeps hkept hlawful (h.closingAt_eq ▸ hclosing hexited)).bind
    intro _ t h
    refine Meets.bind (Q := fun _ t ↦ t.Keeps env backend fresh stranded) ?_ ?_
    · split
      · next rpc _ _ =>
        apply (reply_keeps h rpc _).bind
        intro _ t h
        exact assign_keeps h fun _ ↦ ⟨rfl, rfl, rfl⟩
      · exact h
    · intro _ t h
      rw [Fallible.meets_ite]
      split
      · exact h
      apply (channelDrained_keeps h).bind
      intro drained t h
      rw [Fallible.meets_ite]
      split
      · exact h
      · apply (now_keeps h hclock).bind
        intro reading t h
        exact h
  · exact ⟨w, n, e, v, h, hagrees, hhalts, hstands⟩

/-- A turn of the loop: the gate refuses nothing, unless a reset comes to a host that is
stranded. -/
theorem turn_keeps (h : s.Keeps env backend fresh True) (hclock : Monotone env.clock)
    (hlawful : backend.Lawful fresh) {arrivals : Arrivals} (htexted : arrivals.Texted) :
    Meets (turn env backend arrivals) s (fun _ t ↦ t.Keeps env backend fresh True)
      (Raises env backend fresh (fun _ ↦ True) True
        (∃ t, maintainCapability env backend s = (.ok (), t) ∧
          ComesToReset env backend arrivals t)) := by
  unfold turn
  rw [Fallible.meets_bind]
  apply ((maintainCapability_keeps h hclock).and Meets.eq).mono
  rotate_left
  · exact fun _ _ hraised ↦ hraised.1
  rintro _ t ⟨h, heq⟩
  have hserved := serveClient_keeps h hclock hlawful htexted
  apply (hserved.mono (fun _ _ h ↦ h) fun _ _ hraised ↦
    ⟨hraised.log, hraised.handled, fun d hd ↦ ⟨t, heq, hraised.rejected d hd⟩⟩).bind
  intro _ t h
  apply (forgets (serveWorker_keeps h hclock hlawful htexted)).bind
  intro _ t h
  apply (superviseWorker_keeps h hclock).bind
  intro _ t h
  apply (advance_keeps h hclock hlawful trivial).bind
  intro _ t h
  exact completeClose_keeps h hclock hlawful

/-- In a turn of the run, a reset that the host can read comes to the host when it is stranded. -/
def ResetsStranded (env : Surroundings) (backend : Backend β) (s : Host β)
    (turns : List Arrivals) : Prop :=
  ∃ before arrivals after t u, turns = before ++ arrivals :: after ∧
    run env backend before s = (.ok false, t) ∧ maintainCapability env backend t = (.ok (), u) ∧
    ComesToReset env backend arrivals u

/-- The turns after one that goes on are turns of the run. -/
private theorem ResetsStranded.later {t : Host β} {arrivals : Arrivals} {rest : List Arrivals}
    (hturn : turn env backend arrivals s = (.ok false, t))
    (h : ResetsStranded env backend t rest) :
    ResetsStranded env backend s (arrivals :: rest) := by
  obtain ⟨before, resets, after, u, maintained, rfl, hgoes, hmaintained, hcomes⟩ := h
  refine ⟨arrivals :: before, resets, after, u, maintained, rfl, ?_, hmaintained, hcomes⟩
  rw [run, Fallible.bind_of_eq hturn]
  exact hgoes

/-- The turns of the loop. -/
theorem run_keeps (hclock : Monotone env.clock) (hlawful : backend.Lawful fresh)
    {turns : List Arrivals} (htexted : ∀ arrivals ∈ turns, arrivals.Texted)
    (h : s.Keeps env backend fresh True) :
    Meets (run env backend turns) s (fun _ t ↦ t.Keeps env backend fresh True)
      (Raises env backend fresh (fun _ ↦ True) True (ResetsStranded env backend s turns)) := by
  induction turns generalizing s with
  | nil => exact h
  | cons arrivals rest ih =>
    have hturn := (turn_keeps h hclock hlawful (htexted arrivals List.mem_cons_self)).and Meets.eq
    unfold run
    rw [Fallible.meets_bind]
    apply hturn.mono
    · rintro returns t ⟨h, hturn⟩
      rw [Fallible.meets_ite]
      split
      · exact h
      · next hgoes =>
        rw [Bool.not_eq_true] at hgoes
        subst hgoes
        have hrest := ih (fun later hlater ↦ htexted later (List.mem_cons_of_mem _ hlater)) h
        refine hrest.mono (fun _ _ h ↦ h) fun error u hraises ↦ ?_
        exact ⟨hraises.log, hraises.handled, fun d hd ↦ (hraises.rejected d hd).later hturn⟩
    · rintro error t ⟨hraises, -⟩
      refine ⟨hraises.log, hraises.handled, fun d hd ↦ ?_⟩
      obtain ⟨u, hmaintained, hcomes⟩ := hraises.rejected d hd
      exact ⟨[], arrivals, rest, s, u, rfl, rfl, hmaintained, hcomes⟩

/-! ### The start -/

/-- A gate that `gate_init` has built serves its owner. -/
private theorem serves_created {provider domain capability profile : String} {now m : ℕ}
    {g : GateState}
    (hcreated : GateState.create provider domain capability profile maxSteps now none = .ok g)
    (hle : now ≤ m) : g.Serves m ⟨none, 1, False⟩ := by
  unfold GateState.create at hcreated
  obtain ⟨provider, -, hcreated⟩ := Fallible.ok_of_bind hcreated
  obtain ⟨domain, -, hcreated⟩ := Fallible.ok_of_bind hcreated
  obtain ⟨capability, -, hcreated⟩ := Fallible.ok_of_bind hcreated
  obtain ⟨profile, hprofile, hcreated⟩ := Fallible.ok_of_bind hcreated
  obtain ⟨maximum, hmaximum, hcreated⟩ := Fallible.ok_of_bind hcreated
  obtain ⟨stamp, hstamp, hcreated⟩ := Fallible.ok_of_bind hcreated
  have hconverted : stamp.toNat = now := by
    unfold unsignedValue at hstamp
    split at hstamp
    · next hlt =>
      cases hstamp
      exact UInt64.toNat_ofNat_of_lt' hlt
    · cases hstamp
  have hnamed : profile ≠ "" := by
    rintro rfl
    unfold textValue at hprofile
    split at hprofile
    · cases hprofile
    · next hsize =>
      split at hprofile
      · cases hprofile
      · cases hprofile
        simp at hsize
  have hcounted : maximum ≠ 0 := by
    rintro rfl
    cases hmaximum
  dsimp only at hcreated
  obtain ⟨scope, -, hcreated⟩ := Fallible.ok_of_bind hcreated
  have hinitial : GateState.initial
      (gateConfig provider domain capability scope stamp) profile maximum = g := by
    split at hcreated
    · exact Except.ok.inj hcreated
    · cases hcreated
  constructor
  · exact ⟨stamp, hconverted.trans_le hle, CoordinatorRun.sound_initial le_rfl hcreated⟩
  · rw [← hinitial]
    exact ⟨⟨_, _, _, _, _, rfl⟩, rfl, rfl, hnamed, hcounted⟩
  · rw [← hinitial]
    rfl
  · rw [← hinitial]
    rfl
  · rw [← hinitial]
    simp [GateState.initial, AuthorityGate.initial]

/-- A new host. -/
theorem keeps_created {start : β} {sessionId : String} {startupTimeout hostPid workerPid : ℕ}
    (hcreated : create env backend start sessionId startupTimeout hostPid workerPid = .ok s)
    (hclock : Monotone env.clock) (hfresh : fresh start) : s.Keeps env backend fresh True := by
  unfold create at hcreated
  obtain ⟨gate, hgate, hcreated⟩ := Fallible.ok_of_bind hcreated
  cases hcreated
  have hserves := serves_created hgate (hclock (Nat.zero_le 2))
  refine ⟨_, env.clock 2, { gate := gate }, ⟨none, 1, False⟩, ⟨rfl, rfl, le_rfl, Orderly.nil⟩,
    ?_, ?_, .inl ?_⟩
  · constructor
    · simp [view]
    · exact .inr (by simp [view])
    · simp [view]
  · intro hstopped
    simp [view] at hstopped
  · constructor
    · exact ⟨hserves, rfl⟩
    · rfl
    · exact fun _ ↦ hfresh
    · exact fun _ ↦ rfl
    · simp [view]

/-! ### The fixture -/

/-- The fixture is lawful: an operation counts from zero. -/
theorem fixture_lawful :
    IncrementBackend.members.Lawful fun s ↦ s.steps = 0 where
  step action s := by
    simp only [IncrementBackend.members, IncrementBackend.step, Fallible.meets_self_bind,
      Fallible.meets_ite]
    split
    · exact trivial
    · rfl
  reset seed s := by
    simp only [IncrementBackend.members, IncrementBackend.reset, Fallible.meets_self_bind,
      Fallible.meets_ite]
    split
    · exact trivial
    · rfl
  beginOperation skill operation s hfresh := hfresh
  sample s := ⟨rfl, id⟩
  validates := by
    intro actions count s hvalid
    simp only [IncrementBackend.members, IncrementBackend.validateActions] at hvalid
    split at hvalid
    · exact ⟨_, rfl⟩
    · cases hvalid
  refuses := by
    intro actions count s error hinvalid
    simp only [IncrementBackend.members, IncrementBackend.validateActions] at hinvalid
    refine ⟨"invalid candidate chunk", by decide, ?_⟩
    split at hinvalid
    · split at hinvalid
      · cases hinvalid
        rfl
      · cases hinvalid
    · cases hinvalid
      rfl
  completion := by
    intro limit s hgoes heq
    simp only [IncrementBackend.members, IncrementBackend.completion] at hgoes heq
    rw [if_pos heq] at hgoes
    cases hgoes
  finish reason s _ := rfl
  settles delivered s := by
    intro hcontinues
    cases hcontinues
  close s := trivial

/-- A host of the fixture. -/
def fixtureHost (startTime : ℕ) : Host IncrementBackend :=
  { execution :=
      { gate := .initial (gateConfig "deterministic-worker" "fixture-counter" "fixture.increment"
          settlementScope 0) "deterministic-session-v1" 400 }
    backend := {}
    startupTimeout := 30000000000
    hostPid := 1
    workerPid := 2
    sessionId := "session"
    startTime
    readings := 2 }

/-- Nothing outside fails, and the clock reads a microsecond more each time. -/
def calm : Surroundings :=
  { clock := fun i ↦ 1000 * i
    exited := fun _ ↦ false
    queued := fun _ ↦ .ok ()
    drained := fun _ ↦ true }

/-- The clock reads zero. -/
def stopped : Surroundings := { calm with clock := fun _ ↦ 0 }

/-- A submission of one step. -/
def submission : Dict :=
  [("rpc", .int 1), ("command", .string "submit"), ("request_id", .string "first"),
    ("skill", .string "fixture.increment"), ("steps", .int 1)]

/-- The identity of the first prediction that the worker is asked for. -/
def firstIdentity : Json :=
  .object [
    ("session", .string "session"),
    ("authority", .object [
      ("binding", .object [
        ("provider", .string "deterministic-worker"),
        ("domain", .string "fixture-counter"),
        ("revision", .int 1),
        ("generation", .int 1)]),
      ("operation_id", .int 1),
      ("admitted_at", .int 7000)]),
    ("observation", .object [("epoch", .int 0), ("sequence", .int 0), ("value", .int 0)]),
    ("prediction", .int 1)]

/-- The answer of the worker to it. -/
def firstPrediction : Dict :=
  [("kind", .string "prediction"), ("identity", firstIdentity), ("actions", .array [.int 1])]

/-- An operation of one step. -/
def oneStep : List Arrivals :=
  [{ worker := .ok [[("kind", .string "ready")]] }, { client := .ok [submission] },
    { worker := .ok [firstPrediction] }]

/-- The host is closed in the turn of the submission, and then reset. -/
def resetAfterClose : List Arrivals :=
  [{ worker := .ok [[("kind", .string "ready")]] },
    { client := .ok [submission, [("rpc", .int 2), ("command", .string "close")]] },
    { client := .ok [[("rpc", .int 3), ("command", .string "reset")]] }]

/-! ### Runs -/

/-- Over every run of a host, whatever its client and its worker send: each step of the backend is
permitted, an operation makes no more steps than it was admitted for, and unless a reset comes to
the host while it is stranded, the gate refuses nothing that is passed to `accepted`. -/
theorem run_serves {start : β} {sessionId : String} {startupTimeout hostPid workerPid : ℕ}
    (hlawful : backend.Lawful fresh) (hclock : Monotone env.clock) (hfresh : fresh start)
    (hcreated : create env backend start sessionId startupTimeout hostPid workerPid = .ok s)
    (turns : List Arrivals) (htexted : ∀ arrivals ∈ turns, arrivals.Texted) :
    (∀ before operation action after,
      (run env backend turns s).2.log = before ++ .stepped operation action :: after →
        Permitted before operation action) ∧
    (∀ operation units, .admitted operation units ∈ (run env backend turns s).2.log →
      stepsOf operation (run env backend turns s).2.log ≤ units) ∧
    (¬ ResetsStranded env backend s turns →
      ∀ d, (run env backend turns s).1 ≠ .error (.failure (coreRejected d))) := by
  have hkept := keeps_created hcreated hclock hfresh
  have hends := run_keeps hclock hlawful htexted hkept
  have horderly : Orderly (run env backend turns s).2.log := by
    refine Meets.state (P := fun t ↦ Orderly t.log) (hends.mono ?_ ?_)
    · intro _ t h
      exact h.orderly
    · intro _ t h
      exact h.log
  refine ⟨?_, ?_, ?_⟩
  · intro before operation action after heq
    exact horderly before _ after heq
  · intro operation units hadmitted
    exact (horderly.admitted_once hadmitted).1
  · intro hnever d hrejected
    rcases hends.cases with ⟨_, t, heq, -⟩ | ⟨error, t, heq, hraises⟩
    · rw [heq] at hrejected
      cases hrejected
    · rw [heq] at hrejected
      cases hrejected
      exact hnever (hraises.rejected d rfl)

/-- The step of an operation is permitted after what the log says before it. -/
theorem run_serves_oneStep :
    Permitted [.admitted 1 1, .claimed 1, .ticked 1 .current, .requested 1 firstIdentity,
      .validated 1 firstIdentity true [.int 1], .ticked 1 .current] 1 (.int 1) ∧
    stepsOf 1 (run calm IncrementBackend.members oneStep (fixtureHost 1000)).2.log ≤ 1 ∧
    ∀ d, (run calm IncrementBackend.members oneStep (fixtureHost 1000)).1 ≠
      .error (.failure (coreRejected d)) := by
  have hclock : Monotone calm.clock := fun _ _ hle ↦ Nat.mul_le_mul_left 1000 hle
  have hcreated : create calm IncrementBackend.members {} "session" 30000000000 1 2 =
      .ok (fixtureHost 1000) := by rfl
  have htexted : ∀ arrivals ∈ oneStep, arrivals.Texted := by simp [oneStep, Arrivals.Texted]
  obtain ⟨hsteps, hbounded, hrefuses⟩ :=
    run_serves fixture_lawful hclock rfl hcreated oneStep htexted
  refine ⟨hsteps _ 1 (.int 1) [.ended 1] ?_, hbounded 1 1 ?_, hrefuses ?_⟩
  · decide +kernel
  · decide +kernel
  · rintro ⟨before, arrivals, after, t, u, heq, -, -, earlier, message, later, v, -, hclient, -, -,
      hresets⟩
    have hturn : arrivals ∈ oneStep := by
      rw [heq]
      simp
    have hmessage : ∀ messages, arrivals.client = .ok messages → message ∈ messages := by
      intro messages hmessages
      cases hclient.symm.trans hmessages
      simp
    have hreset := hresets.command
    simp only [oneStep, List.mem_cons, List.not_mem_nil, or_false] at hturn
    rcases hturn with rfl | rfl | rfl
    · cases hmessage [] rfl
    · rw [List.mem_singleton.mp (hmessage [submission] rfl)] at hreset
      revert hreset
      decide
    · cases hmessage [] rfl

/-- The gate refuses the capabilities of a reset, after the host was closed when the clock read
zero. -/
theorem rejects_stranded :
    Monotone stopped.clock ∧
    create stopped IncrementBackend.members {} "session" 30000000000 1 2 = .ok (fixtureHost 0) ∧
    (∀ arrivals ∈ resetAfterClose, arrivals.Texted) ∧
    (run stopped IncrementBackend.members resetAfterClose (fixtureHost 0)).1 =
      .error (.failure (coreRejected .rejected)) := by
  refine ⟨fun _ _ _ ↦ le_rfl, by rfl, by simp [resetAfterClose, Arrivals.Texted], ?_⟩
  decide +kernel

end Host

end RobotHarness.Python
