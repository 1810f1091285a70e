import RobotHarness.Python.Coordination
import RobotHarness.Python.Navigation

/-!
# Requests are admitted once, and on fresh observations

A request has one record for good. Whatever is asked again under its name is answered from that
record; the gate is asked at most once, by the submission that reserved the record, and then
only with an issued observation that is still retained, still fresh and still current.
-/

namespace RobotHarness.Python

open Fallible (Meets Moves)
open Transport (Json Dict)

/-! ### Submissions -/

namespace NavigationRequests

/-- The conditions of an admission: nothing else is active, no close was requested, and the
observation that the arguments name is retained, was valid, is fresh and is still current. -/
def Grounded (s : NavigationRequests) (answers : CommandAnswers)
    (arguments : NavigationArguments) : Prop :=
  s.closing = false ∧ s.execution.active = none ∧ ∃ value current,
    answers.observation = .ok value ∧ checkCurrent s.mapId value = .ok current ∧
      Fresh (s.observations.get? arguments.observationReference.observationId)
        arguments.observationReference current answers.reading

/-- What is asked of the gate for a request. -/
def admissionOf (answers : CommandAnswers) (reference : String)
    (arguments : NavigationArguments) : Admission :=
  ⟨reference, 1, some (answers.reading + arguments.deadlineMs * 1000000), answers.reading⟩

/-- What the decision on a reserved request changes. -/
def Decides (answers : CommandAnswers) (reference : String) (arguments : NavigationArguments)
    (s t : NavigationRequests) : Prop :=
  t = { s with execution := t.execution } ∧ (Retains s.execution t.execution ∨
    Admits s.execution t.execution (admissionOf answers reference arguments) ∧
      s.Grounded answers arguments)

/-- No refusal: the request is grounded and the owner is ready. -/
private theorem grounded_of_refusal {s : NavigationRequests} {arguments : NavigationArguments}
    {current : CurrentObservation} {available : Bool} {stamp : ℕ}
    (h : s.refusal arguments current available stamp = none) :
    s.closing = false ∧ s.execution.active = none ∧
      Fresh (s.observations.get? arguments.observationReference.observationId)
        arguments.observationReference current stamp := by
  by_cases hclosing : s.closing = true
  · simp [refusal, hclosing] at h
  by_cases hfresh : Fresh (s.observations.get? arguments.observationReference.observationId)
      arguments.observationReference current stamp
  · by_cases hactive : s.execution.active = none
    · exact ⟨by simpa using hclosing, hactive, hfresh⟩
    · simp [refusal, hclosing, hfresh, hactive] at h
  · simp [refusal, hclosing, hfresh] at h

/-- A method of the coordinator that retains its records leaves the rest alone. -/
theorem moves_onExecution {β : Type} {R : NavigationRequests → NavigationRequests → Prop}
    {p : Coordination NavigationArguments NavigationFields β}
    (hR : ∀ s e, Retains s.execution e → R s { s with execution := e }) (hp : Moves Retains p) :
    Moves R (onExecution p) :=
  .within hR hp

/-- A callback that is asked under a condition changes nothing. -/
private theorem meets_asked {β : Type} {c : Prop} [Decidable c] (r : Except Failure β) (b : β)
    (s : NavigationRequests) :
    Meets (if c then .answer r else pure b : Navigation β) s (fun _ t ↦ t = s) fun _ t ↦ t = s := by
  rw [Fallible.meets_ite]
  split
  · cases r <;> rfl
  · rfl

/-- An item of the context is read without a change. -/
private theorem meets_item (context : Json) (key : String) (s : NavigationRequests) :
    Meets (.answer (contextItem context key) : Navigation Json) s (fun _ t ↦ t = s)
      fun _ t ↦ t = s := by
  cases contextItem context key <;> rfl

private theorem current_meets (answers : CommandAnswers) (s : NavigationRequests) :
    Meets (current answers) s
      (fun current t ↦ t = s ∧ ∃ value, answers.observation = .ok value ∧
        checkCurrent s.mapId value = .ok current)
      fun _ t ↦ t = s := by
  unfold current
  rw [Fallible.meets_bind]
  cases hvalue : answers.observation with
  | error e => rfl
  | ok value =>
    rw [Fallible.meets_answer_ok, Fallible.meets_bind, Fallible.meets_read]
    cases hcurrent : checkCurrent s.mapId value with
    | error e => rfl
    | ok current => exact ⟨rfl, value, rfl, hcurrent⟩

private theorem decideReserved_moves (answers : CommandAnswers) (reference : String)
    (arguments : NavigationArguments) :
    Moves (Decides answers reference arguments) (decideReserved answers reference arguments) := by
  have hrefl : ∀ s, Decides answers reference arguments s s := fun s ↦ ⟨rfl, .inl (.refl _)⟩
  have hupdate : ∀ (s : NavigationRequests) e, Retains s.execution e →
      Decides answers reference arguments s { s with execution := e } :=
    fun s e he ↦ ⟨rfl, .inl he⟩
  refine .of_meets fun s ↦ ?_
  unfold decideReserved
  rw [Fallible.meets_bind, Fallible.meets_read, id_eq, Fallible.meets_bind]
  refine (meets_asked _ _ s).mono ?_ fun _ _ h ↦ h ▸ hrefl s
  rintro available s rfl
  rw [Fallible.meets_bind]
  refine (meets_asked _ _ s).mono ?_ fun _ _ h ↦ h ▸ hrefl s
  rintro context s rfl
  rw [Fallible.meets_bind]
  refine (current_meets answers s).mono ?_ fun _ _ h ↦ h ▸ hrefl s
  rintro current s ⟨rfl, value, hvalue, hcurrent⟩
  cases hrefusal : s.refusal arguments current available answers.reading with
  | some reason =>
    refine Moves.meets (moves_onExecution hupdate ?_) s
    exact ExecutionCoordinator.retains_update fun _ ↦ rfl
  | none =>
    obtain ⟨hclosing, hidle, hfresh⟩ := grounded_of_refusal hrefusal
    have hgrounded : s.Grounded answers arguments :=
      ⟨hclosing, hidle, value, current, hvalue, hcurrent, hfresh⟩
    rw [Fallible.meets_bind]
    refine (meets_item _ _ s).mono ?_ fun _ _ h ↦ h ▸ hrefl s
    rintro stage s rfl
    rw [Fallible.meets_bind]
    refine (meets_item _ _ s).mono ?_ fun _ _ h ↦ h ▸ hrefl s
    rintro scopeId s rfl
    rw [Fallible.meets_bind]
    refine (meets_item _ _ s).mono ?_ fun _ _ h ↦ h ▸ hrefl s
    rintro generation s rfl
    rw [Fallible.meets_bind]
    unfold onExecution ExecutionCoordinator.update
    rw [Fallible.meets_within, Fallible.meets_assign, Fallible.meets_bind, Fallible.meets_within]
    generalize hupdated : s.execution.withRecord reference _ = e
    have he : Retains s.execution e :=
      hupdated ▸ ExecutionCoordinator.retains_withRecord _ fun _ ↦ rfl
    have hdecides : ∀ f, Retains e f ∨ Admits e f (admissionOf answers reference arguments) →
        Decides answers reference arguments s { s with execution := f } := by
      rintro f (hretains | hadmits)
      · exact ⟨rfl, .inl (he.trans _ _ _ hretains)⟩
      · exact ⟨rfl, .inr ⟨hadmits.after he hidle, hgrounded⟩⟩
    exact (ExecutionCoordinator.admitRecord_meets e _ _ _ _).mono (fun _ f hf ↦ hdecides f hf)
      fun _ f hf ↦ hdecides f hf

/-- The submission is answered without a new record: it cannot be read, it names a request that has
a record, or there is no room. -/
def Unreserved (message : Dict) (s : NavigationRequests) : Prop :=
  ∀ reference arguments target,
    readSubmission s.sites s.maximumDeadlineMs message = .ok (reference, arguments, target) →
      s.execution.records.get? reference = none → maxRecords ≤ s.execution.records.size

/-- What a submission changes. -/
def Submits (answers : CommandAnswers) (message : Dict) (s t : NavigationRequests) : Prop :=
  t = { s with execution := t.execution } ∧
    (s.Unreserved message ∧ Retains s.execution t.execution ∨
    ∃ reference arguments target e,
      readSubmission s.sites s.maximumDeadlineMs message = .ok (reference, arguments, target) ∧
      Reserves s.execution e reference arguments ∧ (Retains e t.execution ∨
        Admits e t.execution (admissionOf answers reference arguments) ∧
          s.Grounded answers arguments))

private theorem reserve_meets {e : ExecutionCoordinator NavigationArguments NavigationFields}
    {reference : String} (hnone : e.records.get? reference = none)
    (arguments : NavigationArguments) (driver : NavigationFields) :
    Meets (ExecutionCoordinator.reserve reference arguments (.ok driver)) e
      (fun _ f ↦ Reserves e f reference arguments)
      fun _ f ↦ f = e ∧ maxRecords ≤ e.records.size := by
  unfold ExecutionCoordinator.reserve
  rw [Fallible.meets_bind, Fallible.meets_read, hnone]
  simp only [Fallible.meets_ite]
  split
  next hfull => exact ⟨rfl, hfull⟩
  next hroom =>
  rw [Fallible.meets_bind, Fallible.meets_answer_ok]
  exact ⟨Nat.lt_of_not_le hroom, hnone, driver, rfl⟩

private theorem submit_moves (answers : CommandAnswers) (message : Dict) :
    Moves (Submits answers message) (submit answers message) := by
  refine .of_meets fun s ↦ ?_
  have hrefl : s.Unreserved message → Submits answers message s s :=
    fun h ↦ ⟨rfl, .inl ⟨h, .refl _⟩⟩
  unfold submit
  rw [Fallible.meets_bind, Fallible.meets_read, id_eq, Fallible.meets_bind]
  cases hread : readSubmission s.sites s.maximumDeadlineMs message with
  | error e => exact hrefl fun _ _ _ h ↦ by cases hread.symm.trans h
  | ok submission =>
  obtain ⟨reference, arguments, target⟩ := submission
  rw [Fallible.meets_answer_ok]
  simp only
  cases hrecord : s.execution.records.get? reference with
  | some old =>
    have hknown : s.Unreserved message := by
      intro reference' arguments' target' h hnone
      cases hread.symm.trans h
      cases hrecord.symm.trans hnone
    simp only [Fallible.meets_ite]
    split
    · exact hrefl hknown
    · rw [Fallible.meets_bind]
      refine Meets.mono (Moves.meets (moves_onExecution
        (R := fun s t ↦ t = { s with execution := t.execution } ∧ Retains s.execution t.execution)
        (fun s e he ↦ ⟨rfl, he⟩) (ExecutionCoordinator.retains_snapshot reference)) s) ?_ ?_
      all_goals
        rintro _ t ⟨ht, hretains⟩
        exact ⟨ht, .inl ⟨hknown, hretains⟩⟩
  | none =>
    simp only
    rw [Fallible.meets_bind]
    unfold onExecution
    rw [Fallible.meets_within]
    refine (reserve_meets hrecord arguments _).mono ?_ ?_
    rotate_left
    · rintro _ _ ⟨rfl, hfull⟩
      exact hrefl fun _ _ _ _ _ ↦ hfull
    intro _ e hreserved
    have hsubmits : ∀ t, Decides answers reference arguments { s with execution := e } t →
        Submits answers message s t := by
      rintro t ⟨ht, hcases⟩
      refine ⟨ht, .inr ⟨reference, arguments, target, e, hread, hreserved, ?_⟩⟩
      refine hcases.imp id fun ⟨hadmits, hgrounded⟩ ↦ ⟨hadmits, ?_⟩
      obtain ⟨driver, rfl⟩ := hreserved.reserved
      exact hgrounded
    rw [Fallible.meets_bind]
    refine ((decideReserved_moves answers reference arguments).meets _).mono ?_
      fun _ t ht ↦ hsubmits t ht
    intro _ t ht
    rw [Fallible.meets_bind]
    refine Meets.mono (Moves.meets (moves_onExecution
      (R := fun t u ↦ u = { t with execution := u.execution } ∧ Retains t.execution u.execution)
      (fun t e he ↦ ⟨rfl, he⟩) (ExecutionCoordinator.retains_snapshot reference)) t) ?_ ?_
    all_goals
      rintro _ u ⟨hu, hretains⟩
      refine hsubmits u ⟨?_, ?_⟩
      · rw [hu, ht.1]
      · exact ht.2.imp (fun h ↦ h.trans _ _ _ hretains) fun h ↦ ⟨h.1.before hretains, h.2⟩

/-- A submission that can be read leaves a record of a new request as long as there is room, whether
it is then admitted, refused or raises. -/
theorem Submits.retained {answers : CommandAnswers} {message : Dict} {s t : NavigationRequests}
    (h : Submits answers message s t) {reference : String} {arguments : NavigationArguments}
    {target : Json} (hread : readSubmission s.sites s.maximumDeadlineMs message =
      .ok (reference, arguments, target)) (hnone : s.execution.records.get? reference = none)
    (hroom : s.execution.records.size < maxRecords) :
    (t.execution.records.get? reference).map Record.request = some (reference, arguments) := by
  rcases h.2 with ⟨hunreserved, -⟩ | ⟨reference', arguments', target', e, hread', hreserves, hrest⟩
  · exact absurd (hunreserved reference arguments target hread hnone) (Nat.not_le.mpr hroom)
  cases hread'.symm.trans hread
  have he : (e.records.get? reference).map Record.request = some (reference, arguments) := by
    obtain ⟨-, -, driver, rfl⟩ := hreserves
    rw [Table.get?_set_self]
    rfl
  rcases hrest with hretains | ⟨hadmits, -⟩
  · exact (hretains.sameRequests.2 reference).trans he
  · exact (hadmits.same.2 reference).trans he

/-! ### The other commands -/

/-- What the commands that neither observe nor submit change. -/
def Serves (s t : NavigationRequests) : Prop :=
  t = { s with execution := t.execution, closing := t.closing } ∧
    Retains s.execution t.execution ∧ (s.closing = true → t.closing = true)

namespace Serves

private theorem refl (s : NavigationRequests) : Serves s s := ⟨rfl, .refl _, id⟩

private theorem trans (s t u : NavigationRequests) (hst : Serves s t) (htu : Serves t u) :
    Serves s u :=
  ⟨by rw [htu.1, hst.1], hst.2.1.trans _ _ _ htu.2.1, fun h ↦ htu.2.2 (hst.2.2 h)⟩

end Serves

private theorem serves_onExecution {β : Type}
    {p : Coordination NavigationArguments NavigationFields β} (hp : Moves Retains p) :
    Moves Serves (onExecution p) :=
  moves_onExecution (fun _ _ he ↦ ⟨rfl, he, id⟩) hp

private theorem andThen {β γ : Type} {p : Navigation β} {k : β → Navigation γ}
    (hp : Moves Serves p) (hk : ∀ b, Moves Serves (k b)) : Moves Serves (p >>= k) :=
  .bind Serves.trans hp hk

private theorem ret {β : Type} (b : β) : Moves Serves (pure b : Navigation β) :=
  .pure Serves.refl

private theorem ans {β : Type} (r : Except Failure β) :
    Moves Serves (Fallible.answer r : Navigation β) :=
  .answer Serves.refl

private theorem rd {β : Type} (f : NavigationRequests → β) :
    Moves Serves (Fallible.read f : Navigation β) :=
  .read Serves.refl

private theorem serves_current (answers : CommandAnswers) : Moves Serves (current answers) :=
  andThen (ans _) fun _ ↦ andThen (rd _) fun _ ↦ ans _

private theorem serves_statusOf (reference : String) : Moves Serves (statusOf reference) :=
  serves_onExecution (ExecutionCoordinator.retains_snapshot reference)

private theorem serves_capabilities (answers : CommandAnswers) :
    Moves Serves (capabilities answers) :=
  andThen (serves_current answers) fun _ ↦ andThen (rd _) fun _ ↦
    andThen (.ite (fun _ ↦ ans _) fun _ ↦ ret _) fun _ ↦
    andThen (.ite (fun _ ↦ serves_onExecution (ExecutionCoordinator.retains_onGate
      (GateState.moves_supports _ _))) fun _ ↦ ret _) fun _ ↦ ret _

private theorem serves_status (reference : Option Json) : Moves Serves (status reference) := by
  have hsession : Moves Serves (status none) := by
    refine andThen (rd _) fun s ↦ andThen ?_ fun _ ↦ ret _
    cases s.execution.active with
    | none => exact ret _
    | some reference => exact (serves_statusOf reference).map
  unfold status
  split
  · exact hsession
  · exact hsession
  · exact andThen (ans _) fun reference ↦ andThen (serves_statusOf reference) fun _ ↦ ret _

private theorem serves_cancel (answers : CommandAnswers) (reference : Option Json) :
    Moves Serves (cancel answers reference) := by
  refine andThen (ans _) fun reference ↦ andThen ?_ fun _ ↦
    andThen (serves_statusOf reference) fun _ ↦ ret _
  refine andThen (serves_onExecution (ExecutionCoordinator.retains_lookup reference)) fun _ ↦
    andThen (serves_onExecution (ExecutionCoordinator.retains_cancel reference _)) fun _ ↦
    andThen (.ite (fun _ ↦ ?_) fun _ ↦ ret _) fun _ ↦ ret _
  exact andThen (ans _) fun _ ↦
    serves_onExecution (ExecutionCoordinator.retains_update fun _ ↦ rfl)

private theorem serves_close (answers : CommandAnswers) : Moves Serves (close answers) := by
  refine andThen (.assign fun s ↦ ⟨rfl, .refl _, fun _ ↦ rfl⟩) fun _ ↦
    andThen (rd _) fun active ↦ ?_
  cases active with
  | none => exact ret _
  | some reference => exact andThen (serves_cancel answers _) fun _ ↦ ret _

/-- An action of the owner retains the records and admits nothing. -/
theorem retains_perform {α δ : Type} (action : OwnerAction) :
    Moves Retains (action.perform : Coordination α δ Unit) := by
  cases action with
  | startup kind observed now =>
    exact (ExecutionCoordinator.retains_onGate (GateState.moves_startup kind observed now)).map
  | capabilities available now validUntil =>
    exact (ExecutionCoordinator.retains_onGate
      (GateState.moves_capabilities available now validUntil)).map
  | dispatch reference now => exact (ExecutionCoordinator.retains_dispatch reference now).map
  | nonSubmission reference now =>
    exact (ExecutionCoordinator.retains_nonSubmission reference now).map
  | tick now => exact (ExecutionCoordinator.retains_tick now).map
  | cancel reference now => exact (ExecutionCoordinator.retains_cancel reference now).map
  | native reference kind nativeIdentity now =>
    exact (ExecutionCoordinator.retains_native reference kind nativeIdentity now).map
  | disposeResult reference candidate diagnostic now now' now'' =>
    exact ExecutionCoordinator.retains_disposeResult reference candidate diagnostic now now' now''
  | settle reference now => exact ExecutionCoordinator.retains_settle reference now
  | release reference => exact ExecutionCoordinator.retains_release reference
  | close => exact ExecutionCoordinator.retains_onGate GateState.moves_close

/-- What `observe` issues. -/
def issueOf (s : NavigationRequests) (answers : CommandAnswers) (current : CurrentObservation) :
    Issued :=
  ⟨⟨s.sessionId, answers.uuid, current.epoch, s.mapId, "map"⟩, answers.reading, current.valid⟩

/-- What `observe` leaves. -/
def observed (s : NavigationRequests) (answers : CommandAnswers)
    (current : CurrentObservation) : NavigationRequests :=
  { s with
    observations := (if s.observations.size = maxObservations then s.observations.evict
      else s.observations).set answers.uuid (s.issueOf answers current) }

/-- `observe` issues a reference to what the owner observes, or changes nothing. -/
theorem observe_cases (answers : CommandAnswers) (s : NavigationRequests) :
    (observe answers s).2 = s ∨ ∃ value current, answers.observation = .ok value ∧
      checkCurrent s.mapId value = .ok current ∧
      observe answers s = (.ok (.observation (Dict.set current.value "reference"
        (s.issueOf answers current).reference.toJson)), s.observed answers current) := by
  cases hvalue : answers.observation with
  | error e =>
    left
    simp [observe, current, hvalue, Fallible.answer, Bind.bind, Fallible.bind]
  | ok value =>
  cases hcurrent : checkCurrent s.mapId value with
  | error e =>
    left
    simp [observe, current, hvalue, hcurrent, Fallible.answer, Fallible.read, Bind.bind,
      Fallible.bind]
  | ok current' =>
    refine .inr ⟨value, current', rfl, hcurrent, ?_⟩
    simp only [observe, current, hvalue, hcurrent, Fallible.answer, Fallible.read, Fallible.assign,
      Bind.bind, Fallible.bind, Pure.pure]
    rfl

end NavigationRequests

open NavigationRequests

/-- What an input changes. -/
inductive Change (s : NavigationRequests) (i : NavigationInput)
    (a : Except Failure (Option Reply)) (t : NavigationRequests) : Prop
  | serves (h : Serves s t)
  | observes (answers : CommandAnswers) (message : Dict) (value : Json)
      (current : CurrentObservation) (hi : i = .command answers message)
      (hcommand : Dict.get? message "command" = some (.string "observe"))
      (hvalue : answers.observation = .ok value)
      (hcurrent : checkCurrent s.mapId value = .ok current)
      (ha : a = .ok (some (.observation (Dict.set current.value "reference"
        (s.issueOf answers current).reference.toJson))))
      (ht : t = s.observed answers current)
  | submits (answers : CommandAnswers) (message : Dict) (hi : i = .command answers message)
      (hcommand : Dict.get? message "command" = some (.string "submit"))
      (h : Submits answers message s t)

/-- Every input serves, observes or submits. -/
theorem navigation_change (s : NavigationRequests) (i : NavigationInput) :
    Change s i (navigation.answer s i) (navigation.next s i) := by
  cases i with
  | owner action =>
    exact .serves ((serves_onExecution (retains_perform action)).map s)
  | command answers message =>
    suffices h : ∀ p : Navigation Reply, NavigationRequests.command answers message = p →
        Change s (.command answers message) ((some <$> p : Navigation (Option Reply)) s).1
          ((some <$> p : Navigation (Option Reply)) s).2 from h _ rfl
    rintro p hp
    unfold NavigationRequests.command at hp
    split at hp <;> subst hp
    · next hcommand =>
      exact .submits answers message rfl hcommand ((submit_moves answers message).map s)
    · exact .serves ((serves_cancel answers _).map s)
    · exact .serves ((serves_status _).map s)
    · exact .serves ((serves_capabilities answers).map s)
    · next hcommand =>
      rcases observe_cases answers s with hsame | ⟨value, current, hvalue, hcurrent, hobserve⟩
      · rw [Fallible.map_apply, hsame]
        exact .serves (.refl s)
      · rw [Fallible.map_apply, hobserve]
        exact .observes answers message value current rfl hcommand hvalue hcurrent rfl rfl
    · exact .serves ((serves_close answers).map s)
    · exact .serves (Moves.map (.raise Serves.refl) s)

/-! ### Runs -/

/-- What `snapshot` returns of a record. -/
def ExecutionCoordinator.view {α δ : Type} (e : ExecutionCoordinator α δ) (reference : String)
    (record : Record α δ) : Snapshot δ :=
  ⟨record.requestId, record.driver, record.state, record.operationId, record.result,
    if e.active = some reference then e.gate.authority.bind e.gate.gate.receipt
    else record.receipt,
    record.reason, record.diagnostic⟩

/-- A snapshot of a retained record changes nothing. -/
theorem ExecutionCoordinator.snapshot_eq {α δ : Type} {e : ExecutionCoordinator α δ}
    (h : e.ActiveIsCurrent) {reference : String} {record : Record α δ}
    (hrecord : e.records.get? reference = some record) :
    snapshot reference e = (.ok (e.view reference record), e) := by
  by_cases hactive : e.active = some reference
  · obtain ⟨authority, hauthority, hoperation⟩ := h reference hactive
    rw [hrecord, Option.bind_some] at hoperation
    simp [snapshot, lookup, view, hrecord, hactive, hoperation, hauthority, onGate,
      GateState.receipt, GateState.operationValue, Fallible.within, Fallible.read, Bind.bind,
      Fallible.bind, Pure.pure]
    rw [← hactive]
  · simp [snapshot, lookup, view, hrecord, hactive, Fallible.read, Bind.bind, Fallible.bind,
      Pure.pure]

/-- Requests in a run: a bounded number of observations beside a sound coordinator. -/
structure NavigationRequests.Sound (s : NavigationRequests) : Prop where
  execution : s.execution.Sound
  observations : s.observations.size ≤ maxObservations

private theorem NavigationRequests.observed_size (s : NavigationRequests) (answers : CommandAnswers)
    (current : CurrentObservation) (h : s.observations.size ≤ maxObservations) :
    (s.observed answers current).observations.size ≤ maxObservations := by
  refine Table.size_set_le.trans ?_
  split
  · rw [Table.size_evict]
    simp only [maxObservations] at h ⊢
    omega
  · omega

/-- Every input keeps the requests sound. -/
theorem NavigationRequests.Sound.change {s t : NavigationRequests} {i : NavigationInput}
    {a : Except Failure (Option Reply)} (h : s.Sound) (change : Change s i a t) : t.Sound := by
  cases change with
  | serves hs =>
    refine ⟨h.execution.retains hs.2.1, ?_⟩
    rw [hs.1]
    exact h.observations
  | observes answers message value current hi hcommand hvalue hcurrent ha ht =>
    rw [ht]
    exact ⟨h.execution, s.observed_size answers current h.observations⟩
  | submits answers message hi hcommand hs =>
    refine ⟨?_, by rw [hs.1]; exact h.observations⟩
    rcases hs.2 with ⟨-, hretains⟩ | ⟨reference, arguments, target, e, hread, hreserves, hrest⟩
    · exact h.execution.retains hretains
    have he := h.execution.reserves hreserves
    rcases hrest with hretains | ⟨hadmits, -⟩
    · exact he.retains hretains
    · obtain ⟨hroom, hfresh, driver, rfl⟩ := hreserves
      refine he.admits hadmits (fun admission ha hsame ↦ ?_) (by simp [admissionOf])
      have hretained := h.execution.retained admission ha
      rw [hsame] at hretained
      simp [admissionOf, hfresh] at hretained

/-- Every input keeps the arguments of every record. -/
theorem Change.arguments {s t : NavigationRequests} {i : NavigationInput}
    {a : Except Failure (Option Reply)} (change : Change s i a t) {reference : String}
    {request : String × NavigationArguments}
    (h : (s.execution.records.get? reference).map Record.request = some request) :
    (t.execution.records.get? reference).map Record.request = some request := by
  cases change with
  | serves hs => exact (hs.2.1.sameRequests.2 reference).trans h
  | observes answers message value current hi hcommand hvalue hcurrent ha ht =>
    rw [ht]
    exact h
  | submits answers message hi hcommand hs =>
    rcases hs.2 with ⟨-, hretains⟩ | ⟨new, arguments, target, e, hread, hreserves, hrest⟩
    · exact (hretains.sameRequests.2 reference).trans h
    have he : (e.records.get? reference).map Record.request = some request := by
      obtain ⟨hroom, hfresh, driver, rfl⟩ := hreserves
      have hne : reference ≠ new := by
        rintro rfl
        simp [hfresh] at h
      simpa only [Table.get?_set_of_ne hne] using h
    rcases hrest with hretains | ⟨hadmits, -⟩
    · exact (hretains.sameRequests.2 reference).trans he
    · exact (hadmits.same.2 reference).trans he

/-- One input of a run, with its answer and the states around it. -/
abbrev NavigationEvent :=
  Mealy.Event NavigationRequests NavigationInput (Except Failure (Option Reply))

/-- The event is a command of a name. -/
def IsCommand (name : String) (d : NavigationEvent) : Prop :=
  ∃ answers message, d.input = .command answers message ∧
    Dict.get? message "command" = some (.string name)

/-- The event submits the arguments under the name of a request. -/
def Submitted (d : NavigationEvent) (reference : String) (arguments : NavigationArguments) : Prop :=
  ∃ answers message target, d.input = .command answers message ∧
    Dict.get? message "command" = some (.string "submit") ∧
    readSubmission d.pre.sites d.pre.maximumDeadlineMs message = .ok (reference, arguments, target)

/-- The event issued the reference, for what the owner then observed. -/
def Issues (d : NavigationEvent) (identity : String) (entry : Issued) : Prop :=
  IsCommand "observe" d ∧ ∃ answers message value current, d.input = .command answers message ∧
    answers.uuid = identity ∧ answers.observation = .ok value ∧
    checkCurrent d.pre.mapId value = .ok current ∧ entry = d.pre.issueOf answers current ∧
    d.output = .ok (some (.observation
      (Dict.set current.value "reference" entry.reference.toJson)))

/-- What a state remembers of its history: the references it retains were issued, and a close
was recorded. -/
structure Remembers (h : List NavigationEvent) (s : NavigationRequests) : Prop where
  sound : s.Sound
  issued : ∀ identity entry, s.observations.get? identity = some entry →
    ∃ d ∈ h, Issues d identity entry
  closing : (∃ d ∈ h, IsCommand "close" d) → s.closing = true

/-- After a close no submission is admitted. -/
theorem NavigationRequests.closing_of_close (answers : CommandAnswers)
    (s : NavigationRequests) : (close answers s).2.closing = true := by
  refine Moves.of_meets (p := close answers) (R := fun _ t ↦ t.closing = true) (fun s ↦ ?_) s
  unfold close
  rw [Fallible.meets_bind, Fallible.meets_assign, Fallible.meets_bind, Fallible.meets_read]
  simp only
  cases s.execution.active with
  | none => rfl
  | some reference =>
    rw [Fallible.meets_bind]
    exact (Moves.meets (serves_cancel answers _) _).mono (fun _ _ h ↦ h.2.2 rfl)
      fun _ _ h ↦ h.2.2 rfl

/-- A command of the name close is `close`. -/
private theorem closing_of_isCommand {s : NavigationRequests} {i : NavigationInput}
    (h : IsCommand "close" (navigation.event s i)) : (navigation.next s i).closing = true := by
  obtain ⟨answers, message, hi, hcommand⟩ := h
  have hi : i = .command answers message := hi
  subst hi
  have hrun : NavigationRequests.command answers message = close answers := by
    simp [NavigationRequests.command, hcommand]
  have hnext : navigation.next s (.command answers message) =
      ((some <$> close answers : Navigation (Option Reply)) s).2 := by
    rw [← hrun]
    rfl
  rw [hnext, Fallible.map_apply]
  exact closing_of_close answers s

private theorem Remembers.step (h : List NavigationEvent) (s : NavigationRequests)
    (i : NavigationInput) (hs : Remembers h s) : Remembers (h ++ [navigation.event s i]) (navigation.next s i) := by
  have change := navigation_change s i
  refine ⟨hs.sound.change change, ?_, ?_⟩
  · intro identity entry hentry
    have hkept : s.observations.get? identity = some entry →
        ∃ d ∈ h ++ [navigation.event s i], Issues d identity entry := by
      intro hold
      obtain ⟨d, hd, hissues⟩ := hs.issued identity entry hold
      exact ⟨d, List.mem_append_left _ hd, hissues⟩
    cases change with
    | serves hserves =>
      rw [hserves.1] at hentry
      exact hkept hentry
    | submits answers message hi hcommand hsubmits =>
      rw [hsubmits.1] at hentry
      exact hkept hentry
    | observes answers message value current hi hcommand hvalue hcurrent ha ht =>
      rw [ht] at hentry
      by_cases hid : identity = answers.uuid
      · subst hid
        simp only [observed, Table.get?_set_self, Option.some.injEq] at hentry
        exact ⟨_, List.mem_append_right _ (List.mem_singleton.mpr rfl),
          ⟨answers, message, hi, hcommand⟩, answers, message, value, current, hi, rfl, hvalue,
          hcurrent, hentry.symm, hentry ▸ ha⟩
      · simp only [observed, Table.get?_set_of_ne hid] at hentry
        split at hentry
        · exact hkept (Table.get?_of_get?_evict hentry)
        · exact hkept hentry
  · rintro ⟨d, hd, hclose⟩
    rcases List.mem_append.mp hd with hold | hlast
    · have hclosing := hs.closing ⟨d, hold, hclose⟩
      cases change with
      | serves hserves => exact hserves.2.2 hclosing
      | observes answers message value current hi hcommand hvalue hcurrent ha ht =>
        rw [ht]
        exact hclosing
      | submits answers message hi hcommand hsubmits =>
        rw [hsubmits.1]
        exact hclosing
    · rw [List.mem_singleton.mp hlast] at hclose
      exact closing_of_isCommand hclose

/-- A run: how the requests are configured, the gate and the session they start with, and the
commands and actions of the owner. -/
structure NavigationRun where
  config : NavigationConfig
  gate : GateState
  sessionId : String
  inputs : List NavigationInput

namespace NavigationRun

/-- The requests as they are created, over a new coordinator. -/
def start (run : NavigationRun) : NavigationRequests :=
  .initial run.config { gate := run.gate } run.sessionId

/-- The requests after a sequence of inputs. -/
def after (run : NavigationRun) (inputs : List NavigationInput) : NavigationRequests :=
  navigation.run run.start inputs

/-- The requests at the end of a run. -/
def final (run : NavigationRun) : NavigationRequests := run.after run.inputs

/-- The events of a run. -/
def history (run : NavigationRun) : List NavigationEvent := navigation.trace run.start run.inputs

private theorem remembers_start (run : NavigationRun) : Remembers [] run.start where
  sound := ⟨.initial run.gate, Nat.zero_le _⟩
  issued _ _ h := nomatch h
  closing h := by
    obtain ⟨d, hd, -⟩ := h
    nomatch hd

private theorem sound_final (run : NavigationRun) : run.final.Sound :=
  (navigation.history_run Remembers.step run.remembers_start run.inputs).sound

/-- A repeated submission returns the retained record, and one with other arguments raises;
neither changes anything. -/
theorem resubmit {s : NavigationRequests} (hs : s.Sound) (answers : CommandAnswers)
    {message : Dict} {reference : String} {arguments : NavigationArguments} {target : Json}
    {record : Record NavigationArguments NavigationFields}
    (hcommand : Dict.get? message "command" = some (.string "submit"))
    (hread : readSubmission s.sites s.maximumDeadlineMs message =
      .ok (reference, arguments, target))
    (hrecord : s.execution.records.get? reference = some record) :
    navigation.step s (.command answers message) =
      if record.arguments = arguments then
        (.ok (some (.record (s.execution.view reference record))), s)
      else (.error (.valueError "request ID reused with different arguments"), s) := by
  have hcommand : NavigationRequests.command answers message = submit answers message := by
    simp [NavigationRequests.command, hcommand]
  have hstep : navigation.step s (.command answers message) =
      (some <$> submit answers message : Navigation (Option Reply)) s := by
    rw [← hcommand]
    rfl
  have hsnapshot := ExecutionCoordinator.snapshot_eq hs.execution.active hrecord
  rw [hstep, Fallible.map_apply]
  by_cases heq : record.arguments = arguments
  · simp [submit, statusOf, onExecution, hread, hrecord, heq, hsnapshot, Fallible.within,
      Fallible.read, Fallible.answer, Bind.bind, Fallible.bind, Pure.pure, Except.map]
  · simp [submit, hread, hrecord, heq, Fallible.read, Fallible.answer, Fallible.raise, Bind.bind,
      Fallible.bind, Except.map]

/-- The event answers a submission of a retained request from its record, or raises when the
arguments differ, and changes nothing. -/
def AnsweredFrom (d : NavigationEvent) (reference : String)
    (arguments retained : NavigationArguments) : Prop :=
  ∃ record, d.pre.execution.records.get? reference = some record ∧
    record.requestId = reference ∧ record.arguments = retained ∧ d.post = d.pre ∧
    d.output = if arguments = retained then
        .ok (some (.record (d.pre.execution.view reference record)))
      else .error (.valueError "request ID reused with different arguments")

/-- A submission of a new request leaves its record as long as there is room. -/
theorem retained_of_submitted {s : NavigationRequests} {i : NavigationInput} {reference : String}
    {arguments : NavigationArguments}
    (hsubmitted : Submitted (navigation.event s i) reference arguments)
    (hnone : s.execution.records.get? reference = none)
    (hroom : s.execution.records.size < maxRecords) :
    ((navigation.next s i).execution.records.get? reference).map Record.request =
      some (reference, arguments) := by
  obtain ⟨answers, message, target, hi, hcommand, hread⟩ := hsubmitted
  have hi : i = .command answers message := hi
  subst hi
  have hrun : NavigationRequests.command answers message = submit answers message := by
    simp [NavigationRequests.command, hcommand]
  have hnext : navigation.next s (.command answers message) =
      ((some <$> submit answers message : Navigation (Option Reply)) s).2 := by
    rw [← hrun]
    rfl
  rw [hnext]
  exact ((submit_moves answers message).map s).retained hread hnone hroom

/-- A submission of a request that has a record is answered from it. -/
theorem answeredFrom {s : NavigationRequests} (hs : s.Sound) {i : NavigationInput}
    {reference : String} {arguments retained : NavigationArguments}
    (hsubmitted : Submitted (navigation.event s i) reference arguments)
    (hretained : (s.execution.records.get? reference).map Record.request =
      some (reference, retained)) :
    AnsweredFrom (navigation.event s i) reference arguments retained := by
  obtain ⟨answers, message, target, hi, hcommand, hread⟩ := hsubmitted
  have hi : i = .command answers message := hi
  subst hi
  obtain ⟨record, hrecord, hrequest⟩ := Option.map_eq_some_iff.mp hretained
  have harguments : record.arguments = retained := congrArg Prod.snd hrequest
  have hstep := resubmit hs answers hcommand hread hrecord
  refine ⟨record, hrecord, congrArg Prod.fst hrequest, harguments, ?_, ?_⟩
  · refine (congrArg Prod.snd hstep).trans ?_
    split <;> rfl
  · refine (congrArg Prod.fst hstep).trans ?_
    rw [harguments]
    by_cases heq : arguments = retained
    · rw [if_pos heq, if_pos heq.symm]
      rfl
    · rw [if_neg heq, if_neg fun h ↦ heq h.symm]

/-- After a submission of a new request for which there is room, every later submission of the
request is answered from the record that it left. -/
theorem submitted_once {run : NavigationRun} {before after : List NavigationEvent}
    {event : NavigationEvent} (hhistory : run.history = before ++ event :: after)
    {reference : String} {arguments : NavigationArguments}
    (hsubmitted : Submitted event reference arguments)
    (hnone : event.pre.execution.records.get? reference = none)
    (hroom : event.pre.execution.records.size < maxRecords) :
    (event.post.execution.records.get? reference).map Record.request =
        some (reference, arguments) ∧
      ∀ d ∈ after, ∀ arguments', Submitted d reference arguments' →
        AnsweredFrom d reference arguments' arguments := by
  have hremembers := navigation.history_pre Remembers.step run.remembers_start hhistory
  have hmem : event ∈ run.history := by simp [hhistory]
  have hevent := navigation.eq_event_of_mem_trace hmem
  rw [hevent] at hsubmitted
  have hretained := retained_of_submitted hsubmitted hnone hroom
  have hpost : event.post = navigation.next event.pre event.input :=
    congrArg Mealy.Event.post hevent
  rw [← hpost] at hretained
  have hsound : event.post.Sound :=
    hpost ▸ hremembers.sound.change (navigation_change event.pre event.input)
  have hlater := (navigation.stable_after
    (P := fun s ↦ s.Sound ∧
      (s.execution.records.get? reference).map Record.request = some (reference, arguments))
    (fun s i h ↦ ⟨h.1.change (navigation_change s i), (navigation_change s i).arguments h.2⟩)
    hhistory ⟨hsound, hretained⟩).2
  refine ⟨hretained, fun d hd arguments' hagain ↦ ?_⟩
  have hd' := navigation.eq_event_of_mem_trace (show d ∈ run.history by simp [hhistory, hd])
  rw [hd'] at hagain ⊢
  exact answeredFrom (hlater d hd).1 hagain (hlater d hd).2

/-- In every run of the requests, with arbitrary messages, callbacks, clock readings and actions
of the owner: the gate is asked for an admission at most once for each request; a submission of
a retained request is answered from its record, or raises when its arguments differ, and changes
nothing; a submission of a new request leaves a record as long as there is room, from which every
later submission of the request is answered; records keep their arguments; at most 64 records and
64 observations are retained; and every admission is made by a submission whose observation was
issued by these requests for a valid observation of the owner, is still retained and at most a
second old, and has the epoch of a valid current one, while nothing is active and no close was
commanded. -/
theorem admitted_once_and_fresh (run : NavigationRun) :
    (run.final.execution.admissions.map Admission.requestId).Nodup ∧
    (∀ answers message reference arguments target record,
      Dict.get? message "command" = some (.string "submit") →
      readSubmission run.final.sites run.final.maximumDeadlineMs message =
        .ok (reference, arguments, target) →
      run.final.execution.records.get? reference = some record →
      navigation.step run.final (.command answers message) =
        if record.arguments = arguments then
          (.ok (some (.record (run.final.execution.view reference record))), run.final)
        else (.error (.valueError "request ID reused with different arguments"), run.final)) ∧
    (∀ before event after reference arguments, run.history = before ++ event :: after →
      Submitted event reference arguments →
      event.pre.execution.records.get? reference = none →
      event.pre.execution.records.size < 64 →
      (∃ record, event.post.execution.records.get? reference = some record ∧
        record.requestId = reference ∧ record.arguments = arguments) ∧
      ∀ d ∈ after, ∀ arguments', Submitted d reference arguments' →
        AnsweredFrom d reference arguments' arguments) ∧
    (∀ before after reference record, run.inputs = before ++ after →
      (run.after before).execution.records.get? reference = some record →
      ∃ record', run.final.execution.records.get? reference = some record' ∧
        record'.requestId = record.requestId ∧ record'.arguments = record.arguments) ∧
    run.final.execution.records.size ≤ 64 ∧ run.final.observations.size ≤ 64 ∧
    (∀ before event after, run.history = before ++ event :: after →
      event.post.execution.admissions = event.pre.execution.admissions ∨
      ∃ answers message reference arguments target value current entry,
        event.input = .command answers message ∧
        Dict.get? message "command" = some (.string "submit") ∧
        readSubmission event.pre.sites event.pre.maximumDeadlineMs message =
          .ok (reference, arguments, target) ∧
        event.pre.execution.records.get? reference = none ∧
        event.post.execution.admissions = event.pre.execution.admissions ++
          [⟨reference, 1, some (answers.reading + arguments.deadlineMs * 1000000),
            answers.reading⟩] ∧
        event.pre.observations.get? arguments.observationReference.observationId = some entry ∧
        entry.reference = arguments.observationReference ∧ entry.valid = true ∧
        (∃ d ∈ before, Issues d arguments.observationReference.observationId entry) ∧
        entry.issuedAt ≤ answers.reading ∧ answers.reading - entry.issuedAt ≤ 10 ^ 9 ∧
        answers.observation = .ok value ∧
        checkCurrent event.pre.mapId value = .ok current ∧
        current.epoch = arguments.observationReference.epoch ∧ current.valid = true ∧
        event.pre.execution.active = none ∧ event.pre.closing = false ∧
        ∀ d ∈ before, ¬ IsCommand "close" d) := by
  have hsound := run.sound_final
  refine ⟨hsound.execution.once, ?_, ?_, ?_, hsound.execution.bounded, hsound.observations, ?_⟩
  · exact fun answers message reference arguments target record hcommand hread hrecord ↦
      resubmit hsound answers hcommand hread hrecord
  · intro before event after reference arguments hhistory hsubmitted hnone hroom
    obtain ⟨hretained, hlater⟩ := submitted_once hhistory hsubmitted hnone hroom
    obtain ⟨record, hrecord, hrequest⟩ := Option.map_eq_some_iff.mp hretained
    exact ⟨⟨record, hrecord, congrArg Prod.fst hrequest, congrArg Prod.snd hrequest⟩, hlater⟩
  · intro before after reference record hinputs hrecord
    have hfinal : run.final = navigation.run (run.after before) after := by
      rw [final, NavigationRun.after, hinputs, navigation.run_append]
      rfl
    have hkept := navigation.invariant_run
      (P := fun s ↦ (s.execution.records.get? reference).map Record.request = some record.request)
      (fun s i h ↦ (navigation_change s i).arguments h)
      (by rw [hrecord, Option.map_some]) after
    rw [hfinal]
    obtain ⟨record', hrecord', hrequest⟩ := Option.map_eq_some_iff.mp hkept
    exact ⟨record', hrecord', congrArg Prod.fst hrequest, congrArg Prod.snd hrequest⟩
  · intro before event after hhistory
    have hremembers := navigation.history_pre Remembers.step run.remembers_start hhistory
    obtain ⟨_, _, -, -, hevent, -⟩ := navigation.trace_eq_append_cons hhistory
    have change := navigation_change event.pre event.input
    have hpost : event.post = navigation.next event.pre event.input := by
      rw [hevent]
      rfl
    rw [← hpost] at change
    cases change with
    | serves hserves => exact .inl hserves.2.1.admissions
    | observes answers message value current hi hcommand hvalue hcurrent ha ht =>
      rw [ht]
      exact .inl rfl
    | submits answers message hi hcommand hsubmits =>
      rcases hsubmits.2 with ⟨-, hretains⟩ |
        ⟨reference, arguments, target, e, hread, hreserves, hrest⟩
      · exact .inl hretains.admissions
      obtain ⟨hroom, hfresh, driver, rfl⟩ := hreserves
      rcases hrest with hretains | ⟨hadmits, hclosing, hidle, value, current, hvalue, hcurrent,
        entry, hentry, hvalid, hreference, hissued, hage, hepoch, hcurrentValid⟩
      · exact .inl hretains.admissions
      refine .inr ⟨answers, message, reference, arguments, target, value, current, entry, hi,
        hcommand, hread, hfresh, hadmits.admissions, hentry, hreference, hvalid,
        hremembers.issued _ _ hentry, hissued, hage, hvalue, hcurrent, hepoch, hcurrentValid,
        hidle, hclosing, fun d hd hclose ↦ ?_⟩
      rw [hremembers.closing ⟨d, hd, hclose⟩] at hclosing
      nomatch hclosing

/-- What the owner answers in the run of the tests. -/
def testAnswers (reading : ℕ) : CommandAnswers where
  observation := .ok (.object [("epoch", .int 3), ("map_id", .string "map"),
    ("frame", .string "map"), ("valid", .bool true)])
  ready := .ok true
  context := .ok (.object [("stage", .int 1), ("scope_id", .string "scope"), ("generation", .int 1)])
  requestStop := .ok ()
  uuid := "first"
  reading

/-- A submission of a visit. -/
def testSubmission : Dict :=
  [("command", .string "submit"), ("request_id", .string "visit"), ("skill", .string skill),
    ("site", .string "dock"), ("deadline_ms", .int 1000),
    ("expected_observation",
      (ObservationReference.mk "session" "first" 3 "map" "map").toJson)]

/-- A gate that is ready, an observation, and a visit that is submitted twice. -/
def testVisit : NavigationRun where
  config :=
    { sites := .set .empty "dock" (.array [.int 1, .int 2, .int 0])
      profile := "profile"
      mapId := "map" }
  gate := .initial (gateConfig "provider" "domain" "capability" settlementScope 0) "profile" 1
  sessionId := "session"
  inputs := [.owner (.startup .bindingIdleAndSettled true 1), .owner (.startup .workerReady true 2),
    .owner (.startup .resultSinkReady true 3), .owner (.startup .adapterReady true 4),
    .owner (.capabilities true 5 1000000000),
    .command (testAnswers 10) [("command", .string "observe")],
    .command (testAnswers 20) testSubmission, .command (testAnswers 30) testSubmission]

/-- The visit is admitted once, and stays retained. -/
theorem admitted_once_and_fresh_testVisit :
    testVisit.final.execution.admissions.map Admission.requestId = ["visit"] ∧
      testVisit.final.execution.active = some "visit" ∧
      (testVisit.final.execution.admissions.map Admission.requestId).Nodup ∧
      testVisit.final.execution.records.size ≤ 64 := by
  have h := testVisit.admitted_once_and_fresh
  exact ⟨by decide +kernel, by decide +kernel, h.1, h.2.2.2.2.1⟩

end NavigationRun

end RobotHarness.Python
