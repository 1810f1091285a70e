import Mathlib.Data.List.Induction
import RobotHarness.Base.Since
import RobotHarness.Python.Ownership
import RobotHarness.Python.SessionHost

/-!
# Rules for the host of a session

What the log of a host says about the steps of its backend, what the host keeps between its
commands, and the rules by which its methods are followed: the part of the host that a method
leaves alone, what it does to the coordinator, and what it may raise.
-/

namespace RobotHarness.Python

open Fallible (Meets)
open Transport (Json Dict)

/-! ### The log -/

namespace HostEvent

/-- The operation of an entry. -/
def operation : HostEvent → OperationId
  | .admitted operation _ | .fixed operation _ | .claimed operation | .ticked operation _
  | .requested operation _ | .validated operation _ _ _ | .stepped operation _
  | .ended operation => operation

/-- The entry is a step for the operation. -/
def isStepOf (operation : OperationId) : HostEvent → Bool
  | .stepped other _ => other = operation
  | _ => false

/-- The entry is an admission of the operation. -/
def AdmitsOf (operation : OperationId) (event : HostEvent) : Prop :=
  ∃ units, event = .admitted operation units

/-- The entry is no admission. -/
def AdmitsNone (event : HostEvent) : Prop := ∀ operation units, event ≠ .admitted operation units

/-- The entry neither admits an operation nor ends one. -/
def continues : HostEvent → Bool
  | .admitted _ _ | .ended _ => false
  | _ => true

/-- The entry leaves the prediction that was asked for last as it is. -/
def LeavesPrediction : HostEvent → Prop
  | .requested .. | .validated .. => False
  | _ => True

private theorem admitsNone_of_continues {event : HostEvent} (h : event.continues = true) :
    event.AdmitsNone := by
  rintro operation units rfl
  cases h

private theorem ne_ended_of_continues {event : HostEvent} (h : event.continues = true)
    (operation : OperationId) : event ≠ .ended operation := by
  rintro rfl
  cases h

end HostEvent

/-- How many steps were made for the operation. -/
def stepsOf (operation : OperationId) (log : List HostEvent) : ℕ :=
  log.countP (HostEvent.isStepOf operation)

/-- The prediction of this identity is the last one that was asked for, for the operation, and no
answer was taken since. -/
def Asked (log : List HostEvent) (operation : OperationId) (identity : Json) : Prop :=
  Since (· = .requested operation identity) HostEvent.LeavesPrediction log

/-- The action is one of a valid answer to the prediction that was asked for last, for the
operation, whose identity the answer matches. -/
def Predicted (log : List HostEvent) (operation : OperationId) (action : Json) : Prop :=
  ∃ before identity answered actions after,
    log = before ++ .validated operation answered true actions :: after ∧ action ∈ actions ∧
      matchesIdentity answered identity = true ∧ Asked before operation identity

/-- A step that the host may make after what the log says. -/
structure Permitted (log : List HostEvent) (operation : OperationId) (action : Json) : Prop where
  current : ∃ before, log = before ++ [.ticked operation .current]
  single : Since (HostEvent.AdmitsOf operation) HostEvent.AdmitsNone log
  claimed : .claimed operation ∈ log
  unended : .ended operation ∉ log
  licensed : .fixed operation action ∈ log ∨ Predicted log operation action
  bounded : ∃ units, .admitted operation units ∈ log ∧ stepsOf operation log < units

/-- An entry fits what the log says before it: a step is permitted, and an operation is admitted
once, before anything else about it. -/
def Fits (log : List HostEvent) : HostEvent → Prop
  | .stepped operation action => Permitted log operation action
  | .admitted operation _ => ∀ event ∈ log, event.operation ≠ operation
  | _ => True

/-- The log of a host. -/
def Orderly (log : List HostEvent) : Prop := Preceded Fits log

/-- One more event is one more step of an operation, or none. -/
theorem stepsOf_append {operation : OperationId} {log : List HostEvent} {event : HostEvent} :
    stepsOf operation (log ++ [event]) =
      stepsOf operation log + if event.isStepOf operation = true then 1 else 0 := by
  rw [stepsOf, List.countP_append, List.countP_singleton]
  rfl

/-- A prediction that was validated stays so. -/
theorem Predicted.append {log : List HostEvent} {operation : OperationId} {action : Json}
    (h : Predicted log operation action) (event : HostEvent) :
    Predicted (log ++ [event]) operation action := by
  obtain ⟨before, identity, answered, actions, after, rfl, hmem, hmatches, hasked⟩ := h
  exact ⟨before, identity, answered, actions, after ++ [event], by simp, hmem, hmatches, hasked⟩

/-- An operation that the log does not know has made no step. -/
theorem stepsOf_eq_zero {operation : OperationId} {log : List HostEvent}
    (h : ∀ event ∈ log, event.operation ≠ operation) : stepsOf operation log = 0 := by
  rw [stepsOf, List.countP_eq_zero]
  intro event hevent hstep
  cases event with
  | stepped other action =>
    exact h _ hevent (of_decide_eq_true hstep)
  | _ => cases hstep

namespace Orderly

variable {log : List HostEvent} {event : HostEvent}

/-- An empty log is in order. -/
theorem nil : Orderly [] := Preceded.nil

private theorem append (h : Orderly log) (hfits : Fits log event) : Orderly (log ++ [event]) :=
  Preceded.append_singleton.mpr ⟨h, hfits⟩

/-- An operation is admitted once, and makes at most as many steps as it was admitted for. -/
theorem admitted_once (h : Orderly log) {operation : OperationId} {units : ℕ}
    (hadmitted : .admitted operation units ∈ log) :
    stepsOf operation log ≤ units ∧
      ∀ units', .admitted operation units' ∈ log → units' = units := by
  induction log using List.reverseRecOn generalizing units with
  | nil => cases hadmitted
  | append_singleton log last ih =>
    obtain ⟨hlog, hfits⟩ := Preceded.append_singleton.mp h
    rw [stepsOf_append]
    rcases List.mem_append.mp hadmitted with hbefore | hlast
    · obtain ⟨hsteps, honce⟩ := ih hlog hbefore
      have honce' : ∀ units', HostEvent.admitted operation units' ∈ log ++ [last] →
          units' = units := by
        intro units' hmem
        rcases List.mem_append.mp hmem with hmem | hmem
        · exact honce units' hmem
        · rw [List.mem_singleton] at hmem
          subst hmem
          exact absurd rfl (hfits _ hbefore)
      refine ⟨?_, honce'⟩
      cases last with
      | stepped other action =>
        by_cases hother : other = operation
        · subst hother
          obtain ⟨units', hmem, hlt⟩ := hfits.bounded
          have heq := honce units' hmem
          simp only [HostEvent.isStepOf, decide_true, if_true]
          omega
        · simp only [HostEvent.isStepOf, hother, decide_false, Bool.false_eq_true, if_false]
          omega
      | _ =>
        simp only [HostEvent.isStepOf, Bool.false_eq_true, if_false]
        omega
    · rw [List.mem_singleton] at hlast
      subst hlast
      refine ⟨?_, ?_⟩
      · rw [stepsOf_eq_zero hfits]
        simp [HostEvent.isStepOf]
      · intro units' hmem
        rcases List.mem_append.mp hmem with hmem | hmem
        · exact absurd rfl (hfits _ hmem)
        · rw [List.mem_singleton] at hmem
          exact (HostEvent.admitted.inj hmem).2

end Orderly

/-! ### Backends -/

/-- No handler of the host takes the exception. -/
def HostError.Unhandled (error : HostError) : Prop :=
  error.isRequest = false ∧ error.isConnection = false ∧ ∀ d, error ≠ .failure (coreRejected d)

/-- The exception is none of `accepted`. -/
def HostError.Foreign (error : HostError) : Prop := ∀ d, error ≠ .failure (coreRejected d)

/-- The exception has a text. -/
def HostError.Texted (error : HostError) : Prop := error.text ≠ ""

/-- What the host relies on of a backend: `fresh` holds of its states from which an operation
starts to count. Its methods `finish`, `sample` and `after_settlement` raise nothing that the
host handles, and `finish` returns a summary of an operation that was completed, and not `None`. -/
structure Backend.Lawful {β : Type} (backend : Backend β) (fresh : β → Prop) : Prop where
  step : ∀ action s, Meets (backend.step action) s
    (fun _ t ↦ backend.steps t = backend.steps s + 1) fun _ _ ↦ True
  reset : ∀ seed s, Meets (backend.reset seed) s (fun _ t ↦ fresh t) fun _ _ ↦ True
  beginOperation : ∀ skill operation s, fresh s →
    Meets (backend.beginOperation skill operation) s (fun _ t ↦ backend.steps t = 0)
      fun _ _ ↦ True
  sample : ∀ s, Meets backend.sample s
    (fun _ t ↦ backend.steps t = backend.steps s ∧ (fresh s → fresh t))
    fun error _ ↦ error.Unhandled
  validates : ∀ {actions count s}, backend.validateActions actions count s = .ok () →
    ∃ items, actions = some (.array items)
  refuses : ∀ {actions count s error}, backend.validateActions actions count s = .error error →
    ∃ text, text ≠ "" ∧ error = .failure (.valueError text)
  completion : ∀ {limit s}, backend.completion limit s = none → backend.steps s ≠ limit
  finish : ∀ reason s, Meets (backend.finish reason) s
    (fun summary _ ↦ reason = .completed → present summary = some summary)
    fun error _ ↦ error.Unhandled
  settles : ∀ delivered s, Meets (backend.afterSettlement delivered) s
    (fun continuation t ↦ continuation = true → delivered = true ∧ fresh t)
    fun error _ ↦ error.Unhandled
  close : ∀ s, Meets backend.close s (fun _ _ ↦ True) fun error _ ↦ error.Foreign

/-- What `pump` raises has a text, and is none of `accepted`. -/
def Arrivals.Texted (arrivals : Arrivals) : Prop :=
  ∀ error, arrivals.client = .error error ∨ arrivals.worker = .error error →
    error.Texted ∧ error.Foreign

/-- The message asks for a reset that the host can read. -/
structure Backend.Resets {β : Type} (backend : Backend β) (message : Dict) : Prop where
  command : Dict.get? message "command" = some (.string "reset")
  rpc : ∃ rpc, integer (item message "rpc") "rpc" 1 (2 ^ 53) = .ok rpc
  seed : ∃ seed, Host.readSeed backend (item message "seed") = .ok seed

/-! ### Checks of a message -/

/-- What a check raises is a `ValueError`. -/
def Refuses {α : Type} (result : Except Failure α) : Prop :=
  ∀ error, result = .error error → ∃ text, error = .valueError text

namespace Refuses

variable {α γ : Type}

private theorem ok (a : α) : Refuses (.ok a) := by
  intro _ heq
  cases heq

private theorem error (text : String) : Refuses (.error (.valueError text) : Except Failure α) := by
  rintro _ ⟨⟩
  exact ⟨text, rfl⟩

/-- One check after another. -/
theorem bind {result : Except Failure α} (h : Refuses result) {k : α → Except Failure γ}
    (hk : ∀ a, Refuses (k a)) : Refuses (result >>= k) := by
  cases result with
  | ok a => exact hk a
  | error failure =>
    obtain ⟨text, rfl⟩ := h failure rfl
    exact error text

private theorem map {result : Except Failure α} (h : Refuses result) (f : α → γ) :
    Refuses (f <$> result) := by
  cases result with
  | ok a => exact ok (f a)
  | error failure =>
    obtain ⟨text, rfl⟩ := h failure rfl
    exact error text

/-- `identifier` raises nothing but a `ValueError`. -/
theorem identifier (value : Option Json) (name : String) :
    Refuses (Python.identifier value name) := by
  unfold Python.identifier
  split
  · split
    · exact error _
    · exact ok _
  · exact error _

/-- `integer` raises nothing but a `ValueError`. -/
theorem integer (value : Option Json) (name : String) (minimum maximum : ℕ) :
    Refuses (Python.integer value name minimum maximum) := by
  unfold Python.integer
  split
  · split
    · exact ok _
    · exact error _
  · exact error _

private theorem readExpected (value : Option Json) : Refuses (Host.readExpected value) := by
  unfold Host.readExpected
  split
  · exact ok _
  · apply (integer _ _ _ _).bind
    intro _
    apply (integer _ _ _ _).bind
    intro _
    exact ok _
  · exact error _

/-- `readSubmission` raises nothing but a `ValueError`. -/
theorem readSubmission (message : Dict) : Refuses (Host.readSubmission message) := by
  unfold Host.readSubmission
  apply (identifier _ _).bind
  intro _
  apply (integer _ _ _ _).bind
  intro _
  apply Refuses.bind
  · split
    · exact ok _
    · exact (integer _ _ _ _).map _
  · intro _
    apply (readExpected _).bind
    intro _
    exact ok _

/-- `readSeed` raises nothing but a `ValueError`. -/
theorem readSeed {β : Type} (backend : Backend β) (value : Option Json) :
    Refuses (Host.readSeed backend value) := by
  unfold Host.readSeed
  split
  · exact ok _
  · apply (integer _ _ _ _).bind
    intro _
    split
    · exact error _
    · exact ok _

end Refuses

/-- A submission is one of at least one step. -/
theorem Host.steps_of_readSubmission {message : Dict} {reference : String}
    {arguments : HostArguments}
    (h : Host.readSubmission message = .ok (reference, arguments)) : 0 < arguments.steps := by
  unfold Host.readSubmission at h
  obtain ⟨_, -, h⟩ := Fallible.ok_of_bind h
  obtain ⟨steps, hsteps, h⟩ := Fallible.ok_of_bind h
  obtain ⟨_, -, h⟩ := Fallible.ok_of_bind h
  obtain ⟨_, -, h⟩ := Fallible.ok_of_bind h
  cases h
  unfold integer at hsteps
  split at hsteps
  · split at hsteps
    · next hbounds =>
      cases hsteps
      dsimp only
      omega
    · cases hsteps
  · cases hsteps

namespace Host

variable {β : Type}

/-! ### What the host keeps -/

/-- The members of the host that its operations depend on. -/
structure View (β : Type) where
  backend : β
  phase : HostPhase
  queue : List Json
  prediction : Option Prediction
  fixedAction : Option Json
  failure : Option String
  closingAt : Option ℕ
  log : List HostEvent

/-- These members of a host. -/
def view (s : Host β) : View β :=
  ⟨s.backend, s.phase, s.queue, s.prediction, s.fixedAction, s.failure, s.closingAt, s.log⟩

/-- What a failure makes of the members. -/
def View.failed (w : View β) (error : String) : View β :=
  { w with failure := some error, queue := [], phase := .failed }

/-- What a closing makes of the members. -/
def View.closing (w : View β) (reading : ℕ) : View β :=
  { w with closingAt := some reading, queue := [], phase := .closing }

/-- A coordinator of the host. -/
abbrev Execution := ExecutionCoordinator HostArguments HostFields

/-- What is known of a host: these members, its coordinator, that its clock will read no less
than `n`, and that its log is in order. -/
structure Knows (env : Surroundings) (s : Host β) (w : View β) (n : ℕ) (e : Execution) :
    Prop where
  view : s.view = w
  execution : s.execution = e
  time : n ≤ env.clock s.readings
  orderly : Orderly w.log

/-- What agrees between the members of the host and the view that it has of its gate. -/
structure Agrees (w : View β) (v : GateView) : Prop where
  closed : v.closed ↔ w.closingAt.isSome = true
  next : v.nextOperationId = 0 ∨ ∀ event ∈ w.log, event.operation < v.nextOperationId
  named : ∀ text ∈ w.failure, text ≠ ""

/-- A host that has failed or is closing has stopped, or it may be stranded: its operation has
ended after a close at the time zero. -/
def Halts (stranded : Prop) (w : View β) : Prop :=
  w.failure.isSome = true ∨ w.closingAt.isSome = true →
    w.phase = .closing ∨ w.phase = .failed ∨
      w.phase = .needsReset ∧ w.closingAt = some 0 ∧ stranded

/-- The host has no operation. -/
structure Quiet (fresh : β → Prop) (w : View β) (n : ℕ) (e : Execution) (v : GateView) :
    Prop where
  rests : e.Rests n v
  prediction : w.prediction = none
  fresh : w.phase = .starting ∨ w.phase = .ready → fresh w.backend
  unused : w.phase = .starting → v.receipt = none
  idle : w.phase ≠ .running

/-- What the log says of an operation that is under way. -/
structure Underway (log : List HostEvent) (operation : OperationId) (units : ℕ) : Prop where
  single : Since (HostEvent.AdmitsOf operation) HostEvent.AdmitsNone log
  admitted : .admitted operation units ∈ log
  unended : .ended operation ∉ log

/-- The host has an operation that was accepted and has not ended. -/
structure Bound (w : View β) (n : ℕ) (e : Execution) (v : GateView) (reference : String)
    (arguments : HostArguments) (r : OperationReceipt) : Prop where
  owns : e.Owns n v reference arguments r
  stage : AtStage r .running
  phase : w.phase = .running ∨ w.phase = .failed ∨ w.phase = .closing
  underway : Underway w.log r.authority.operationId arguments.steps
  claimed : .claimed r.authority.operationId ∈ w.log
  queue : ∀ action ∈ w.queue, Predicted w.log r.authority.operationId action
  fixed : ∀ action ∈ w.fixedAction, .fixed r.authority.operationId action ∈ w.log
  asked : ∀ prediction ∈ w.prediction, Asked w.log r.authority.operationId prediction.identity

/-- The host has an operation that runs: the steps that the backend counts are those of the log,
unless its authority was revoked. -/
structure Busy (backend : Backend β) (w : View β) (n : ℕ) (e : Execution) (v : GateView)
    (reference : String) (arguments : HostArguments) (r : OperationReceipt) : Prop extends
    Bound w n e v reference arguments r where
  live : ¬ r.isRevoked → w.failure = none ∧ w.closingAt = none ∧
    stepsOf r.authority.operationId w.log = backend.steps w.backend ∧
    backend.steps w.backend < arguments.steps ∧
    (r.nativeStarted = true → 0 < backend.steps w.backend)

/-- The host has no operation, or one that runs. -/
def Stands (backend : Backend β) (fresh : β → Prop) (w : View β) (n : ℕ) (e : Execution)
    (v : GateView) : Prop :=
  Quiet fresh w n e v ∨ ∃ reference arguments r, Busy backend w n e v reference arguments r

/-- What the host keeps between its commands. -/
def Keeps (env : Surroundings) (backend : Backend β) (fresh : β → Prop) (stranded : Prop)
    (s : Host β) : Prop :=
  ∃ w n e v, s.Knows env w n e ∧ Agrees w v ∧ Halts stranded w ∧ Stands backend fresh w n e v

/-- What the host keeps when it raises: after an exception that its loop handles it goes on, and
it says when the gate may have `refused` evidence. Something is `known` of the exceptions that are
handled. -/
structure Raises (env : Surroundings) (backend : Backend β) (fresh : β → Prop)
    (known : HostError → Prop) (stranded refused : Prop) (error : HostError) (s : Host β) :
    Prop where
  log : Orderly s.log
  handled : error.isRequest = true ∨ error.isConnection = true →
    s.Keeps env backend fresh stranded ∧ known error
  rejected : ∀ d, error = .failure (coreRejected d) → refused

section Agreement

variable {w : View β} {v : GateView}

/-- An entry about an operation that the log knows. -/
theorem Agrees.note (h : Agrees w v) {event : HostEvent}
    (hknown : ∃ entry ∈ w.log, entry.operation = event.operation) :
    Agrees { w with log := w.log ++ [event] } v where
  closed := h.closed
  named := h.named
  next := by
    apply h.next.imp_right
    intro hbefore other hother
    rcases List.mem_append.mp hother with hother | hother
    · exact hbefore other hother
    · obtain ⟨entry, hentry, hsame⟩ := hknown
      rw [List.mem_singleton] at hother
      subst hother
      rw [← hsame]
      exact hbefore entry hentry

/-- Members that the gate does not see are assigned. -/
theorem Agrees.assign (h : Agrees w v) {w' : View β}
    (hsame : w'.closingAt = w.closingAt ∧ w'.log = w.log ∧ w'.failure = w.failure) :
    Agrees w' v := by
  obtain ⟨hclosing, hlog, hfailure⟩ := hsame
  constructor
  · rw [hclosing]
    exact h.closed
  · rw [hlog]
    exact h.next
  · rw [hfailure]
    exact h.named

/-- A failure has a text. -/
theorem Agrees.failed (h : Agrees w v) {error : String} (hnamed : error ≠ "") :
    Agrees (w.failed error) v where
  closed := h.closed
  next := h.next
  named := by
    rintro _ ⟨⟩
    exact hnamed

/-- The host and its gate are closed. -/
theorem Agrees.closing (h : Agrees w v) (reading : ℕ) :
    Agrees (w.closing reading) { v with closed := True } where
  closed := by simp [View.closing]
  next := h.next
  named := h.named

/-- The next operation is admitted. -/
theorem Agrees.admit (h : Agrees w v) (hnonzero : v.nextOperationId ≠ 0) (units : ℕ)
    (r : OperationReceipt) :
    (∀ event ∈ w.log, event.operation ≠ v.nextOperationId) ∧
      Agrees { w with log := w.log ++ [.admitted v.nextOperationId units] }
        ⟨some r, v.nextOperationId + 1, v.closed⟩ := by
  have hbefore := h.next.resolve_left hnonzero
  refine ⟨fun event hevent ↦ (hbefore event hevent).ne, h.closed, ?_, h.named⟩
  by_cases hwraps : v.nextOperationId + 1 = 0
  · exact .inl hwraps
  · right
    have hlater : v.nextOperationId < v.nextOperationId + 1 := by grind
    intro event hevent
    rcases List.mem_append.mp hevent with hevent | hevent
    · exact (hbefore event hevent).trans hlater
    · rw [List.mem_singleton] at hevent
      subst hevent
      exact hlater

end Agreement

namespace Underway

variable {log : List HostEvent} {operation : OperationId} {units : ℕ}

/-- An operation that the log does not know is admitted. -/
theorem start (hnew : ∀ event ∈ log, event.operation ≠ operation) :
    Underway (log ++ [.admitted operation units]) operation units where
  single := Since.now ⟨units, rfl⟩
  admitted := by simp
  unended := by
    intro hended
    rcases List.mem_append.mp hended with hended | hended
    · exact hnew _ hended rfl
    · simp at hended

/-- Other entries are made while it is under way. -/
theorem note (h : Underway log operation units) {event : HostEvent}
    (hcontinues : event.continues = true) : Underway (log ++ [event]) operation units where
  single := h.single.later (HostEvent.admitsNone_of_continues hcontinues)
  admitted := List.mem_append_left _ h.admitted
  unended := by
    intro hended
    rcases List.mem_append.mp hended with hended | hended
    · exact h.unended hended
    · exact HostEvent.ne_ended_of_continues hcontinues _ (List.mem_singleton.mp hended).symm

/-- The log knows it. -/
theorem known (h : Underway log operation units) :
    ∃ entry ∈ log, entry.operation = operation := ⟨_, h.admitted, rfl⟩

end Underway

section Standing

variable {backend : Backend β} {fresh : β → Prop} {w : View β} {n m : ℕ} {e f : Execution}
  {v : GateView} {reference : String} {arguments : HostArguments} {r : OperationReceipt}

/-- Another coordinator without an operation. -/
theorem Quiet.transfer (h : Quiet fresh w n e v) (hrests : f.Rests m v) : Quiet fresh w m f v :=
  { h with rests := hrests }

/-- Another coordinator with the operation. -/
theorem Busy.transfer (h : Busy backend w n e v reference arguments r)
    (howns : f.Owns m v reference arguments r) : Busy backend w m f v reference arguments r :=
  { h with owns := howns }

/-- Another coordinator with a receipt of the same operation. -/
theorem Bound.rebind (h : Bound w n e v reference arguments r) {q : OperationReceipt}
    {u : GateView} (hsame : q.authority = r.authority) (hstage : AtStage q .running)
    (howns : f.Owns m u reference arguments q) : Bound w m f u reference arguments q := by
  constructor
  · exact howns
  · exact hstage
  · exact h.phase
  all_goals rw [hsame]
  · exact h.underway
  · exact h.claimed
  · exact h.queue
  · exact h.fixed
  · exact h.asked

/-- Another coordinator with a receipt that was revised. -/
theorem Bound.revise (h : Bound w n e v reference arguments r) {q : OperationReceipt}
    {u : GateView} (hrevises : Revises r q) (howns : f.Owns m u reference arguments q) :
    Bound w m f u reference arguments q :=
  h.rebind hrevises.authority (hrevises.stage _ h.stage) howns

/-- Another coordinator with a receipt that was revised. -/
theorem Busy.revise (h : Busy backend w n e v reference arguments r) {q : OperationReceipt}
    {u : GateView} (hrevises : Revises r q) (howns : f.Owns m u reference arguments q) :
    Busy backend w m f u reference arguments q := by
  refine ⟨h.toBound.revise hrevises howns, fun hlive ↦ ?_⟩
  rw [hrevises.authority, hrevises.started]
  exact h.live (hlive ∘ hrevises.revoked)

/-- The authority was revoked, and no action is left. -/
theorem Bound.stop (h : Bound w n e v reference arguments r) (backend : Backend β) (w' : View β)
    (hrevoked : r.isRevoked) (hqueue : w'.queue = [])
    (hphase : w'.phase = .running ∨ w'.phase = .failed ∨ w'.phase = .closing)
    (hsame : w'.log = w.log ∧ w'.prediction = w.prediction ∧ w'.fixedAction = w.fixedAction) :
    Busy backend w' n e v reference arguments r := by
  obtain ⟨hlog, hprediction, hfixed⟩ := hsame
  refine ⟨⟨h.owns, h.stage, hphase, ?_, ?_, ?_, ?_, ?_⟩, fun hlive ↦ absurd hrevoked hlive⟩
  · rw [hlog]
    exact h.underway
  · rw [hlog]
    exact h.claimed
  · rw [hqueue]
    simp
  · rw [hlog, hfixed]
    exact h.fixed
  · rw [hlog, hprediction]
    exact h.asked

/-- An entry about the operation that goes on. -/
theorem Bound.note (h : Bound w n e v reference arguments r) (event : HostEvent)
    (hcontinues : event.continues = true)
    (hleaves : event.LeavesPrediction ∨ w.prediction = none) :
    Bound { w with log := w.log ++ [event] } n e v reference arguments r where
  owns := h.owns
  stage := h.stage
  phase := h.phase
  underway := h.underway.note hcontinues
  claimed := List.mem_append_left _ h.claimed
  queue := fun action haction ↦ (h.queue action haction).append event
  fixed := fun action haction ↦ List.mem_append_left _ (h.fixed action haction)
  asked := by
    intro prediction hprediction
    rcases hleaves with hleaves | hnone
    · exact (h.asked prediction hprediction).later hleaves
    · cases hnone.symm.trans hprediction

/-- An entry about the operation that goes on without a step. -/
theorem Busy.note (h : Busy backend w n e v reference arguments r) (event : HostEvent)
    (hcontinues : event.continues = true)
    (hleaves : event.LeavesPrediction ∨ w.prediction = none)
    (hidle : event.isStepOf r.authority.operationId = false) :
    Busy backend { w with log := w.log ++ [event] } n e v reference arguments r := by
  refine ⟨h.toBound.note event hcontinues hleaves, fun hlive ↦ ?_⟩
  dsimp only
  rw [stepsOf_append, hidle]
  exact h.live hlive

/-- The clock may go on. -/
theorem Stands.mono (h : Stands backend fresh w n e v) (hle : n ≤ m) :
    Stands backend fresh w m e v := by
  rcases h with hquiet | ⟨reference, arguments, r, hbusy⟩
  · exact .inl (hquiet.transfer (hquiet.rests.mono hle))
  · exact .inr ⟨reference, arguments, r, hbusy.transfer (hbusy.owns.mono hle)⟩

/-- Items of a record may be assigned, but its identity. -/
theorem Stands.withRecord (h : Stands backend fresh w n e v) (other : String)
    {f : Record HostArguments HostFields → Record HostArguments HostFields}
    (hf : ∀ record, (f record).identity = record.identity) :
    Stands backend fresh w n (e.withRecord other f) v := by
  rcases h with hquiet | ⟨reference, arguments, r, hbusy⟩
  · exact .inl (hquiet.transfer (hquiet.rests.withRecord other f))
  · exact .inr ⟨reference, arguments, r, hbusy.transfer (hbusy.owns.withRecord other hf)⟩

/-- The gate may go on with the same operation. -/
theorem Stands.regate (h : Stands backend fresh w n e v) :
    ∃ u, e.gate.Serves n u ∧ u.closed = v.closed ∧ ∀ {m : ℕ} {g : GateState}, g.Serves m u →
      Stands backend fresh w m { e with gate := g } v := by
  rcases h with hquiet | ⟨reference, arguments, r, hbusy⟩
  · refine ⟨v, hquiet.rests.gate, rfl, fun hg ↦ ?_⟩
    exact .inl (hquiet.transfer (hquiet.rests.regate hg))
  · refine ⟨v.bearing r, hbusy.owns.gate, rfl, fun hg ↦ ?_⟩
    exact .inr ⟨reference, arguments, r, hbusy.transfer (hbusy.owns.regate hg rfl)⟩

end Standing

/-! ### Rules -/

section Rules

variable {env : Surroundings} {backend : Backend β} {fresh : β → Prop} {s : Host β} {w : View β}
  {n : ℕ} {e : Execution} {v : GateView}
  {known : HostError → Prop} {stranded refused : Prop} {α : Type}

namespace Knows

/-- What is known of a host says what its backend is. -/
theorem backend_eq (h : Knows env s w n e) : s.backend = w.backend := congrArg View.backend h.view

/-- What is known of a host says what its phase is. -/
theorem phase_eq (h : Knows env s w n e) : s.phase = w.phase := congrArg View.phase h.view

/-- What is known of a host says what its queue is. -/
theorem queue_eq (h : Knows env s w n e) : s.queue = w.queue := congrArg View.queue h.view

/-- What is known of a host says what its prediction is. -/
theorem prediction_eq (h : Knows env s w n e) : s.prediction = w.prediction :=
  congrArg View.prediction h.view

/-- What is known of a host says what its fixed action is. -/
theorem fixedAction_eq (h : Knows env s w n e) : s.fixedAction = w.fixedAction :=
  congrArg View.fixedAction h.view

/-- What is known of a host says what its failure is. -/
theorem failure_eq (h : Knows env s w n e) : s.failure = w.failure := congrArg View.failure h.view

/-- What is known of a host says when it began to close. -/
theorem closingAt_eq (h : Knows env s w n e) : s.closingAt = w.closingAt :=
  congrArg View.closingAt h.view

private theorem log_eq (h : Knows env s w n e) : s.log = w.log := congrArg View.log h.view

/-- An exception that nothing handles. -/
theorem raises (h : Knows env s w n e) {error : HostError} (hrequest : error.isRequest = false)
    (hconnection : error.isConnection = false)
    (hrejected : ∀ d, error = .failure (coreRejected d) → refused) :
    Raises env backend fresh known stranded refused error s where
  log := by
    rw [h.log_eq]
    exact h.orderly
  handled := by
    rw [hrequest, hconnection]
    simp
  rejected := hrejected

/-- There is no time or no number left. -/
theorem overflows (h : Knows env s w n e) :
    Raises env backend fresh known stranded refused (.failure .overflowError) s := by
  apply h.raises rfl rfl
  intro d heq
  cases heq

/-- A `None` in the place of a value. -/
theorem confuses (h : Knows env s w n e) :
    Raises env backend fresh known stranded refused (.failure .typeError) s := by
  apply h.raises rfl rfl
  intro d heq
  cases heq

/-- A refusal of the gate. -/
theorem refuses (h : Knows env s w n e) (hrefused : refused) (d : EvidenceDisposition) :
    Raises env backend fresh known stranded refused (.failure (coreRejected d)) s := by
  apply h.raises rfl rfl
  intro _ _
  exact hrefused

/-- The clock is read. -/
theorem now (h : Knows env s w n e) (hclock : Monotone env.clock) :
    Meets (Host.now env) s (fun reading t ↦ n ≤ reading ∧ Knows env t w reading e)
      (Raises env backend fresh known stranded refused) := by
  refine ⟨h.time, h.view, h.execution, ?_, h.orderly⟩
  exact hclock (Nat.le_succ s.readings)

/-- The worker is looked at. -/
theorem workerExited (h : Knows env s w n e) :
    Meets (Host.workerExited env) s (fun _ t ↦ Knows env t w n e)
      (Raises env backend fresh known stranded refused) :=
  ⟨h.view, h.execution, h.time, h.orderly⟩

/-- A message is queued, or the channel does not take it. -/
theorem queueMessage (h : Knows env s w n e) :
    Meets (Host.queueMessage env) s (fun _ t ↦ Knows env t w n e)
      fun error t ↦ (∃ failure : QueueFailure, error = failure.error) ∧ Knows env t w n e := by
  unfold Host.queueMessage
  rw [Fallible.meets_read_bind, Fallible.meets_bind, Fallible.meets_assign]
  cases env.queued s.queues with
  | ok _ => exact ⟨h.view, h.execution, h.time, h.orderly⟩
  | error failure => exact ⟨⟨failure, rfl⟩, h.view, h.execution, h.time, h.orderly⟩

/-- An assignment to members of the host. -/
theorem assign (h : Knows env s w n e) {f : Host β → Host β} (g : View β → View β)
    (hlog : Orderly (g w).log) (hassigns : ∀ s, (f s).view = g s.view ∧
      (f s).execution = s.execution ∧ (f s).readings = s.readings) :
    Meets (.assign f) s (fun _ t ↦ Knows env t (g w) n e)
      (Raises env backend fresh known stranded refused) := by
  obtain ⟨hview, hexecution, hreadings⟩ := hassigns s
  rw [Fallible.meets_assign]
  constructor
  · rw [hview, h.view]
  · rw [hexecution, h.execution]
  · rw [hreadings]
    exact h.time
  · exact hlog

/-- An entry of the log. -/
theorem note (h : Knows env s w n e) {event : HostEvent} (hfits : Fits w.log event) :
    Meets (Host.note event) s
      (fun _ t ↦ Knows env t { w with log := w.log ++ [event] } n e)
      (Raises env backend fresh known stranded refused) :=
  h.assign (fun w ↦ { w with log := w.log ++ [event] }) (h.orderly.append hfits)
    fun _ ↦ ⟨rfl, rfl, rfl⟩

/-- A method of the coordinator. -/
theorem callRaising (h : Knows env s w n e) {p : Coordination HostArguments HostFields α}
    {P : α → Execution → Prop} {E : Failure → Execution → Prop} (hp : Meets p e P E) :
    Meets (onExecution p) s (fun a t ↦ ∃ f, P a f ∧ Knows env t w n f)
      fun error t ↦ ∃ failure f, error = .failure failure ∧ E failure f ∧ Knows env t w n f := by
  unfold onExecution
  rw [Fallible.meets_within, Fallible.meets_lifted, h.execution]
  apply hp.mono
  · intro a f hf
    exact ⟨f, hf, h.view, rfl, h.time, h.orderly⟩
  · intro failure f hf
    exact ⟨failure, f, rfl, hf, h.view, rfl, h.time, h.orderly⟩

/-- A method of the coordinator that raises nothing but for want of a time or a number. -/
theorem call (h : Knows env s w n e) {p : Coordination HostArguments HostFields α}
    {P : α → Execution → Prop} (hp : Meets p e P ExecutionCoordinator.Overflows) :
    Meets (onExecution p) s (fun a t ↦ ∃ f, P a f ∧ Knows env t w n f)
      (Raises env backend fresh known stranded refused) := by
  apply (h.callRaising hp).mono
  · exact fun _ _ hf ↦ hf
  · rintro _ t ⟨_, f, rfl, rfl, h⟩
    exact h.overflows

/-- The backend has gone on. -/
theorem rebacked (h : Knows env s w n e) (b : β) :
    Knows env { s with backend := b } { w with backend := b } n e :=
  ⟨congrArg (fun w : View β ↦ { w with backend := b }) h.view, h.execution, h.time, h.orderly⟩

/-- A method of the backend that raises nothing that the host handles. -/
theorem onBackend (h : Knows env s w n e) {p : Fallible HostError β α} {P : α → β → Prop}
    (hp : Meets p w.backend P fun error _ ↦ error.Unhandled) :
    Meets (Host.onBackend p) s (fun a t ↦ ∃ b, P a b ∧ Knows env t { w with backend := b } n e)
      (Raises env backend fresh known stranded refused) := by
  unfold Host.onBackend
  rw [Fallible.meets_within, h.backend_eq]
  apply hp.mono
  · intro a b hb
    exact ⟨b, hb, h.rebacked b⟩
  · rintro error b ⟨hrequest, hconnection, hforeign⟩
    apply (h.rebacked b).raises hrequest hconnection
    intro d heq
    exact absurd heq (hforeign d)

/-- A method of the backend whose exceptions are handled. -/
theorem tryBackend (h : Knows env s w n e) {p : Fallible String β α} {P : α → β → Prop}
    (hp : Meets p w.backend P fun _ _ ↦ True) :
    Meets (Host.tryBackend p) s
      (fun outcome t ↦ ∃ b, (∀ a, outcome = .ok a → P a b) ∧
        Knows env t { w with backend := b } n e)
      (Raises env backend fresh known stranded refused) := by
  unfold Host.tryBackend
  rw [Fallible.meets_within, Fallible.meets_attempt, h.backend_eq]
  apply hp.mono
  · intro a b hb
    refine ⟨b, ?_, h.rebacked b⟩
    intro a' heq
    cases heq
    exact hb
  · intro text b _
    refine ⟨b, ?_, h.rebacked b⟩
    intro a heq
    cases heq

/-- What is accepted raises nothing. -/
theorem accepted (h : Knows env s w n e) :
    Meets (Host.accepted .accepted) s (fun _ t ↦ Knows env t w n e)
      (Raises env backend fresh known stranded refused) :=
  h

/-- An assignment to a record, but to its identity. -/
theorem update (h : Knows env s w n e) {reference : String}
    {f : Record HostArguments HostFields → Record HostArguments HostFields} :
    Meets (onExecution (ExecutionCoordinator.update reference f)) s
      (fun _ t ↦ Knows env t w n (e.withRecord reference f))
      (Raises env backend fresh known stranded refused) := by
  refine ⟨h.view, ?_, h.time, h.orderly⟩
  rw [← h.execution]
  rfl

end Knows

/-! ### Refusals -/

/-- The log is in order. -/
theorem Keeps.orderly (h : s.Keeps env backend fresh stranded) : Orderly s.log := by
  obtain ⟨w, _, _, _, hknows, _⟩ := h
  rw [hknows.log_eq]
  exact hknows.orderly

/-- An exception after which the host still keeps what it keeps. -/
theorem Keeps.raises (h : s.Keeps env backend fresh stranded) {error : HostError}
    (hknown : known error) (hother : error.Foreign) :
    Raises env backend fresh known stranded refused error s where
  log := h.orderly
  handled := fun _ ↦ ⟨h, hknown⟩
  rejected := fun d heq ↦ absurd heq (hother d)

/-- A message is refused. -/
theorem Keeps.refuses (h : s.Keeps env backend fresh stranded) {text : String}
    (hknown : known (.failure (.valueError text))) :
    Raises env backend fresh known stranded refused (.failure (.valueError text)) s := by
  apply h.raises hknown
  intro d heq
  cases heq

/-- A check of the message. -/
theorem Keeps.checked (h : s.Keeps env backend fresh stranded) {result : Except Failure α}
    (hrefuses : Refuses result) :
    Meets (Host.checked result) s (fun a t ↦ result = .ok a ∧ t = s)
      (Raises env backend fresh (fun _ ↦ True) stranded refused) := by
  unfold Host.checked
  rw [Fallible.meets_lifted]
  cases result with
  | ok a => exact ⟨rfl, rfl⟩
  | error error =>
    obtain ⟨text, rfl⟩ := hrefuses error rfl
    exact h.refuses trivial

end Rules

end Host

end RobotHarness.Python
