import RobotHarness.Base.Mealy
import RobotHarness.Python.Execution

/-!
# Requests of navigation

`NavigationRequests` of `bindings/python/robot_harness/navigation.py`, over the coordinator it
borrows. The callbacks of the owner, the identities that `uuid` draws and the clock are answers
that come with a command: a command asks for each of them at most once.
-/

namespace RobotHarness.Python

open Transport (Json Dict)

/-- `SKILL`. -/
def skill : String := "navigation.visit_site"

/-- `identifier`. -/
def identifier (value : Option Json) (name : String) : Except Failure String :=
  match value with
  | some (.string text) =>
    if text = "" ∨ 128 < text.length then .error (.valueError ("invalid " ++ name)) else .ok text
  | _ => .error (.valueError ("invalid " ++ name))

/-- `integer` with a minimum that is not negative. -/
def integer (value : Option Json) (name : String) (minimum maximum : ℕ) : Except Failure ℕ :=
  match value with
  | some (.int number) =>
    if (minimum : ℤ) ≤ number ∧ number ≤ maximum then .ok number.toNat
    else .error (.valueError ("invalid " ++ name))
  | _ => .error (.valueError ("invalid " ++ name))

/-- A number that `math.isfinite` accepts; an integer too large for a float raises there. -/
def isFinite : Json → Bool
  | .int value => decide (value.natAbs < 2 ^ 1024 - 2 ^ 970)
  | .float bits => (bits >>> 52) &&& 0x7FF != 0x7FF
  | _ => false

/-- A reference to an observation, with the fields that a submission names. -/
structure ObservationReference where
  sessionId : String
  observationId : String
  epoch : ℤ
  mapId : String
  frame : String
  deriving DecidableEq, Repr

/-- The dictionary of a reference. -/
def ObservationReference.toJson (reference : ObservationReference) : Json :=
  .object [("session_id", .string reference.sessionId),
    ("observation_id", .string reference.observationId), ("epoch", .int reference.epoch),
    ("map_id", .string reference.mapId), ("frame", .string reference.frame)]

/-- The arguments of a submission. -/
structure NavigationArguments where
  site : String
  observationReference : ObservationReference
  deadlineMs : ℕ
  deriving DecidableEq, Repr

/-- The fields that a record of navigation has besides. -/
structure NavigationFields where
  skill : String
  site : String
  target : Json
  observationReference : ObservationReference
  stage : Option Json := none
  scopeId : Option Json := none
  generation : Option Json := none
  stopRequested : Bool := false

/-- An observation that was issued: its reference, when, and whether it was valid. -/
structure Issued where
  reference : ObservationReference
  issuedAt : ℕ
  valid : Bool
  deriving DecidableEq, Repr

/-- What `_current` has checked of an observation of the owner. -/
structure CurrentObservation where
  value : Dict
  epoch : ℤ
  valid : Bool

/-- The arguments of `__init__` besides the coordinator and the callbacks. -/
structure NavigationConfig where
  sites : Table String Json
  profile : String
  mapId : String
  maximumDeadlineMs : ℕ := 147000

/-- What a command meets outside. -/
structure CommandAnswers where
  /-- `read_observation()`. -/
  observation : Except Failure Json
  /-- `ready()`. -/
  ready : Except Failure Bool
  /-- `context()`. -/
  context : Except Failure Json
  /-- `request_stop(record)`. -/
  requestStop : Except Failure Unit
  /-- `uuid.uuid4().hex`. -/
  uuid : String
  /-- `clock()`. -/
  reading : ℕ

/-- What a command returns. -/
inductive Reply where
  | record (record : Snapshot NavigationFields)
  | session (sessionId : String) (closing : Bool) (active : Option (Snapshot NavigationFields))
  | cancellation (affectedCurrent : Bool) (record : Snapshot NavigationFields)
  | closing
  | capabilities (profile mapId : String) (sites : List String) (available : Bool)
      (maximumDeadlineMs : ℕ)
  | observation (value : Dict)

/-- The requests of a navigation session. -/
structure NavigationRequests where
  execution : ExecutionCoordinator NavigationArguments NavigationFields
  sites : Table String Json
  profile : String
  mapId : String
  maximumDeadlineMs : ℕ
  sessionId : String
  observations : Table String Issued := .empty
  closing : Bool := false

/-- A method of the requests. -/
abbrev Navigation := Fallible Failure NavigationRequests

/-- The number of observations that are retained. -/
def maxObservations : ℕ := 64

/-- How long an observation may be used, in nanoseconds. -/
def observationLifetime : ℕ := 1000000000

/-- The target of a site that `__init__` accepts. -/
def validTarget : Json → Bool
  | .array [x, y, yaw] => isFinite x && isFinite y && isFinite yaw
  | _ => false

namespace NavigationRequests

/-- The object that `__init__` leaves. -/
def initial (config : NavigationConfig)
    (execution : ExecutionCoordinator NavigationArguments NavigationFields)
    (sessionId : String) : NavigationRequests :=
  { execution
    sites := config.sites
    profile := config.profile
    mapId := config.mapId
    maximumDeadlineMs := config.maximumDeadlineMs
    sessionId }

/-- `__init__`. -/
def create (config : NavigationConfig)
    (execution : ExecutionCoordinator NavigationArguments NavigationFields)
    (sessionId : String) : Except Failure NavigationRequests := do
  if ¬ (1 ≤ config.sites.size ∧ config.sites.size ≤ 32) then
    throw (.valueError "invalid site table")
  for (name, target) in config.sites.entries do
    let _ ← identifier (some (.string name)) "site"
    if validTarget target = false then
      throw (.valueError "site target must be finite x, y, yaw")
  let _ ← identifier (some (.string config.profile)) "profile"
  let _ ← identifier (some (.string config.mapId)) "map_id"
  let _ ← integer (some (.int config.maximumDeadlineMs)) "maximum_deadline_ms" 1 147000
  pure (initial config execution sessionId)

/-- A method of the coordinator. -/
def onExecution {β : Type} (p : Coordination NavigationArguments NavigationFields β) :
    Navigation β :=
  .within NavigationRequests.execution (fun execution s ↦ { s with execution }) p

/-- The checks of `_current`. -/
def checkCurrent (mapId : String) (value : Json) : Except Failure CurrentObservation :=
  match value with
  | .object fields =>
    match Dict.get? fields "epoch", Dict.get? fields "map_id", Dict.get? fields "frame",
        Dict.get? fields "valid" with
    | some (.int epoch), some (.string map), some (.string frame), some (.bool valid) =>
      if 0 ≤ epoch ∧ map = mapId ∧ frame = "map" then .ok ⟨fields, epoch, valid⟩
      else .error (.valueError "invalid owner observation identity")
    | _, _, _, _ => .error (.valueError "invalid owner observation identity")
  | _ => .error (.valueError "invalid owner observation identity")

/-- `_current`. -/
def current (answers : CommandAnswers) : Navigation CurrentObservation := do
  let value ← .answer answers.observation
  let mapId ← .read NavigationRequests.mapId
  .answer (checkCurrent mapId value)

/-- `observe`. -/
def observe (answers : CommandAnswers) : Navigation Reply := do
  let current ← current answers
  let s ← .read id
  let reference : ObservationReference :=
    ⟨s.sessionId, answers.uuid, current.epoch, s.mapId, "map"⟩
  .assign fun s ↦
    { s with
      observations :=
        (if s.observations.size = maxObservations then s.observations.evict
          else s.observations).set answers.uuid ⟨reference, answers.reading, current.valid⟩ }
  pure (.observation (Dict.set current.value "reference" reference.toJson))

/-- `capabilities`. -/
def capabilities (answers : CommandAnswers) : Navigation Reply := do
  let current ← current answers
  let s ← .read id
  let ready ←
    (if s.closing = false ∧ s.execution.active = none ∧ current.valid = true then
      .answer answers.ready
    else pure false)
  let available ←
    (if ready = true then
      onExecution (ExecutionCoordinator.onGate (GateState.supports 1 answers.reading))
    else pure false)
  pure (.capabilities s.profile s.mapId (s.sites.entries.map Prod.fst) available
    s.maximumDeadlineMs)

/-- The reference that a submission proposes. -/
def readReference (value : Option Json) : Except Failure ObservationReference :=
  match value with
  | some (.object fields) =>
    match Dict.get? fields "session_id", Dict.get? fields "observation_id",
        Dict.get? fields "epoch", Dict.get? fields "map_id", Dict.get? fields "frame" with
    | some (.string sessionId), some (.string observationId), some (.int epoch),
        some (.string mapId), some (.string frame) =>
      .ok ⟨sessionId, observationId, epoch, mapId, frame⟩
    | _, _, _, _, _ => .error (.valueError "invalid observation reference")
  | _ => .error (.valueError "observation reference required")

/-- The part of `submit` that reads the message: the request, its arguments and its target. -/
def readSubmission (sites : Table String Json) (maximumDeadlineMs : ℕ) (message : Dict) :
    Except Failure (String × NavigationArguments × Json) := do
  let reference ← identifier (Dict.get? message "request_id") "request_id"
  match Dict.get? message "skill" with
  | some (.string name) =>
    if name ≠ skill then throw (.valueError "unsupported navigation skill")
  | _ => throw (.valueError "unsupported navigation skill")
  let site ← identifier (Dict.get? message "site") "site"
  match sites.get? site with
  | none => throw (.valueError "unknown registered site")
  | some target =>
    let proposed ← readReference (Dict.get? message "expected_observation")
    let deadlineMs ← integer (Dict.get? message "deadline_ms") "deadline_ms" 1 maximumDeadlineMs
    pure (reference, ⟨site, proposed, deadlineMs⟩, target)

/-- An item of the context. -/
def contextItem (context : Json) (key : String) : Except Failure Json :=
  match context with
  | .object fields =>
    match Dict.get? fields key with
    | some value => .ok value
    | none => .error (.keyError key)
  | _ => .error .typeError

/-- The reference was issued for a valid observation and may still be used at the stamp, with
the current observation. -/
def Fresh (issued : Option Issued) (proposed : ObservationReference)
    (current : CurrentObservation) (stamp : ℕ) : Prop :=
  ∃ entry, issued = some entry ∧ entry.valid = true ∧ entry.reference = proposed ∧
    entry.issuedAt ≤ stamp ∧ stamp - entry.issuedAt ≤ observationLifetime ∧
    current.epoch = proposed.epoch ∧ current.valid = true

/-- Whether an observation is fresh. -/
instance decidableFresh (issued : Option Issued) (proposed : ObservationReference)
    (current : CurrentObservation) (stamp : ℕ) : Decidable (Fresh issued proposed current stamp) :=
  match issued with
  | none => .isFalse fun ⟨_, h, _⟩ ↦ nomatch h
  | some entry =>
    decidable_of_iff (entry.valid = true ∧ entry.reference = proposed ∧ entry.issuedAt ≤ stamp ∧
        stamp - entry.issuedAt ≤ observationLifetime ∧ current.epoch = proposed.epoch ∧
        current.valid = true)
      ⟨fun h ↦ ⟨entry, rfl, h⟩, fun ⟨_, h, hrest⟩ ↦ Option.some.inj h ▸ hrest⟩

/-- Why `submit` refuses a request that it has reserved. -/
def refusal (s : NavigationRequests) (arguments : NavigationArguments)
    (current : CurrentObservation) (available : Bool) (stamp : ℕ) : Option String :=
  let proposed := arguments.observationReference
  if s.closing = true then some "closing"
  else if ¬ Fresh (s.observations.get? proposed.observationId) proposed current stamp then
    some "stale_or_foreign_observation"
  else if s.execution.active ≠ none then some "busy"
  else if available = false then some "not_ready"
  else none

/-- `status` of a request. -/
def statusOf (reference : String) : Navigation (Snapshot NavigationFields) :=
  onExecution (ExecutionCoordinator.snapshot reference)

/-- The part of `submit` that decides on a request that it has reserved. -/
def decideReserved (answers : CommandAnswers) (reference : String)
    (arguments : NavigationArguments) : Navigation Unit := do
  let s ← .read id
  let available ←
    (if s.closing = false ∧ s.execution.active = none then .answer answers.ready else pure false)
  let context ← (if available = true then .answer answers.context else pure .null)
  let current ← current answers
  match s.refusal arguments current available answers.reading with
  | some reason =>
    onExecution (ExecutionCoordinator.update reference fun record ↦
      { record with reason := some reason })
  | none =>
    let stage ← .answer (contextItem context "stage")
    let scopeId ← .answer (contextItem context "scope_id")
    let generation ← .answer (contextItem context "generation")
    onExecution (ExecutionCoordinator.update reference fun record ↦
      { record with
        driver := { record.driver with
          stage := some stage
          scopeId := some scopeId
          generation := some generation } })
    let _ ← onExecution (ExecutionCoordinator.admitRecord reference 1
      (some (answers.reading + arguments.deadlineMs * 1000000)) answers.reading)
    pure ()

/-- `submit`. -/
def submit (answers : CommandAnswers) (message : Dict) : Navigation Reply := do
  let s ← .read id
  let (reference, arguments, target) ←
    .answer (readSubmission s.sites s.maximumDeadlineMs message)
  match s.execution.records.get? reference with
  | some old =>
    if old.arguments ≠ arguments then
      .raise (.valueError "request ID reused with different arguments")
    else
      let snapshot ← statusOf reference
      pure (.record snapshot)
  | none =>
    let _ ← onExecution (ExecutionCoordinator.reserve reference arguments (.ok
      { skill
        site := arguments.site
        target
        observationReference := arguments.observationReference }))
    decideReserved answers reference arguments
    let snapshot ← statusOf reference
    pure (.record snapshot)

/-- `status`. -/
def status (reference : Option Json) : Navigation Reply := do
  match reference with
  | none | some .null =>
    let s ← .read id
    let active ←
      (match s.execution.active with
        | none => pure none
        | some reference => some <$> statusOf reference :
          Navigation (Option (Snapshot NavigationFields)))
    pure (.session s.sessionId s.closing active)
  | some value =>
    let reference ← .answer (identifier (some value) "request_id")
    let snapshot ← statusOf reference
    pure (.record snapshot)

/-- The part of `cancel` after its reference was checked: whether the request is the current
one. -/
def cancelRecord (answers : CommandAnswers) (reference : String) : Navigation Bool := do
  let record ← onExecution (ExecutionCoordinator.lookup reference)
  let affected ← onExecution (ExecutionCoordinator.cancel reference answers.reading)
  (if affected = true ∧ record.driver.stopRequested = false then do
    .answer answers.requestStop
    onExecution (ExecutionCoordinator.update reference fun record ↦
      { record with driver := { record.driver with stopRequested := true } })
  else pure ())
  pure affected

/-- `cancel`. -/
def cancel (answers : CommandAnswers) (reference : Option Json) : Navigation Reply := do
  let reference ← .answer (identifier reference "request_id")
  let affected ← cancelRecord answers reference
  let snapshot ← statusOf reference
  pure (.cancellation affected snapshot)

/-- `close`. -/
def close (answers : CommandAnswers) : Navigation Reply := do
  .assign fun s ↦ { s with closing := true }
  match ← Fallible.read fun s : NavigationRequests ↦ s.execution.active with
  | some reference =>
    let _ ← cancel answers (some (.string reference))
    pure .closing
  | none => pure .closing

/-- `command`. -/
def command (answers : CommandAnswers) (message : Dict) : Navigation Reply :=
  match Dict.get? message "command" with
  | some (.string "submit") => submit answers message
  | some (.string "cancel") => cancel answers (Dict.get? message "request_id")
  | some (.string "status") => status (Dict.get? message "request_id")
  | some (.string "capabilities") => capabilities answers
  | some (.string "observe") => observe answers
  | some (.string "close") => close answers
  | _ => .raise (.valueError "unsupported navigation command")

end NavigationRequests

/-! ### Runs -/

/-- What the owner does with the coordinator and its gate between the commands, with the
readings of the clock. -/
inductive OwnerAction where
  | startup (kind : StartupEvidenceKind) (observed : Bool) (now : ℕ)
  | capabilities (available : Bool) (now validUntil : ℕ)
  | dispatch (reference : String) (now : ℕ)
  | nonSubmission (reference : String) (now : ℕ)
  | tick (now : ℕ)
  | cancel (reference : String) (now : ℕ)
  | native (reference : String) (kind : NativeEventKind) (nativeIdentity : Option String)
      (now : ℕ)
  | disposeResult (reference : String) (candidate : Option Json)
      (diagnostic : Except Failure Json) (now now' now'' : ℕ)
  | settle (reference : String) (now : ℕ)
  | release (reference : String)
  | close

/-- An action of the owner, without its result. -/
def OwnerAction.perform {α δ : Type} : OwnerAction → Coordination α δ Unit
  | .startup kind observed now =>
    discard (ExecutionCoordinator.onGate (GateState.startup kind observed now))
  | .capabilities available now validUntil =>
    discard (ExecutionCoordinator.onGate (GateState.capabilities available now validUntil))
  | .dispatch reference now => discard (ExecutionCoordinator.dispatch reference now)
  | .nonSubmission reference now => discard (ExecutionCoordinator.nonSubmission reference now)
  | .tick now => discard (ExecutionCoordinator.tick now)
  | .cancel reference now => discard (ExecutionCoordinator.cancel reference now)
  | .native reference kind nativeIdentity now =>
    discard (ExecutionCoordinator.native reference kind nativeIdentity now)
  | .disposeResult reference candidate diagnostic now now' now'' =>
    ExecutionCoordinator.disposeResult reference candidate diagnostic now now' now''
  | .settle reference now => ExecutionCoordinator.settle reference now
  | .release reference => ExecutionCoordinator.release reference
  | .close => ExecutionCoordinator.onGate GateState.close

/-- A command with what it meets, or an action of the owner. -/
inductive NavigationInput where
  | command (answers : CommandAnswers) (message : Dict)
  | owner (action : OwnerAction)

/-- One input: the reply to a command, or what is raised. -/
def NavigationRequests.step (s : NavigationRequests) :
    NavigationInput → Except Failure (Option Reply) × NavigationRequests
  | .command answers message =>
    (some <$> NavigationRequests.command answers message : Navigation (Option Reply)) s
  | .owner action =>
    ((fun _ ↦ none) <$> NavigationRequests.onExecution action.perform :
      Navigation (Option Reply)) s

/-- The requests as a machine that answers commands. -/
def navigation : Mealy NavigationRequests NavigationInput (Except Failure (Option Reply)) :=
  ⟨NavigationRequests.step⟩

end RobotHarness.Python
