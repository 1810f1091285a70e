import RobotHarness.Motion.Permission

/-!
# The scoped drive

The handlers of `ScopedDiffDrivePrivate` in
`integrations/ros2/simulation/native_drive/scoped_diff_drive.cpp`, each of which runs under
the drive's lock, and `ScopedDiffDrive::Reset`. Floating-point values are opaque: what the
handlers compute from them is a parameter. A handler receives its clock readings, and an
update also the answers of its zero writes.
-/

namespace RobotHarness.Motion

/-- What the drive computes with floating-point values. -/
structure WheelArithmetic (V : Type) where
  /-- `0.0`. -/
  zero : V
  /-- `std::isfinite`. -/
  isFinite : V → Bool
  /-- The comparison with `0.0`. -/
  isNonzero : V → Bool
  /-- `UpdateWheelVelocities`: the speed of a wheel for the two targets. -/
  desired : V → V → ℕ → V
  /-- Whether a pair of wheels has no acceleration limit, or has reached its speed, for the
  desired and the current speeds of left and right. -/
  reached : ℕ → V → V → V → V → Bool
  /-- The next instructed speed of a wheel under the acceleration limit, from the instructed,
  the desired and the current speed and the time since the last update. -/
  instruct : ℕ → V → V → V → V → V
  /-- The division by the radius of a wheel. -/
  native : ℕ → V → V

/-- A write of a wheel's velocity: the zero of `apply_zero`, with the joint's answer, or a
motion, with the clock reading that permitted it in owner-permission mode. -/
inductive WheelWrite (V : Type) where
  | zero (wheel : ℕ) (accepted : Bool)
  | motion (wheel : ℕ) (velocity : V) (permittedNs : Option UInt64)

/-- The members of `ScopedDiffDrivePrivate` that the handlers share. -/
structure Drive (V : Type) where
  numWheelPairs : ℕ
  ownerPermissionMode : Bool
  generationMode : Bool
  permission : MotionPermission
  operationId : UInt64 := 0
  closureReason : String := "boot"
  scope : String := ""
  generation : UInt64 := 0
  isSealed : Bool
  applied : Bool := false
  updateSequence : UInt64 := 0
  targetX : V
  targetRot : V
  desiredWheelSpeed : ℕ → V
  wheelSpeedInstr : ℕ → V
  log : List (String × Option UInt64) := []

/-- `OpenPermit::Request`. -/
structure OpenPermitRequest where
  scopeId : String
  expectedGeneration : UInt64
  operationId : UInt64
  issuedNs : UInt64
  deriving DecidableEq, Repr

/-- The identity that `open_permit` asks for. -/
def OpenPermitRequest.identity (request : OpenPermitRequest) : MotionPermitIdentity :=
  ⟨request.scopeId, request.expectedGeneration + 1, request.operationId⟩

/-- `RenewPermit::Request`. -/
structure RenewPermitRequest where
  scopeId : String
  generation : UInt64
  operationId : UInt64
  issuedNs : UInt64
  deriving DecidableEq, Repr

/-- `ClosePermit::Request`. -/
structure ClosePermitRequest where
  scopeId : String
  generation : UInt64
  operationId : UInt64
  deriving DecidableEq, Repr

/-- `PermittedTwist`, with the two components that the drive uses. -/
structure PermittedTwist (V : Type) where
  scopeId : String
  generation : UInt64
  operationId : UInt64
  linearX : V
  angularZ : V

/-- The identity that a command carries. -/
def PermittedTwist.identity {V : Type} (command : PermittedTwist V) : MotionPermitIdentity :=
  ⟨command.scopeId, command.generation, command.operationId⟩

/-- `ScopedTwist`, with the two components that the drive uses. -/
structure ScopedTwist (V : Type) where
  scopeId : String
  generation : UInt64
  linearX : V
  angularZ : V

/-- What an update meets: whether the update period has passed, the readings of the clock,
the answers to zero writes, the speeds of the wheels and the time since the last update. -/
structure UpdateInput (V : Type) where
  due : Bool
  clock : ℕ → UInt64
  zeroAccepted : ℕ → Bool
  currentSpeed : ℕ → V
  secondsSinceLastUpdate : V

namespace Drive

variable {V : Type} (w : WheelArithmetic V)

/-- The drive that `Load` leaves. Its permission lives for one second. -/
def load (numWheelPairs : ℕ) (generationMode ownerPermissionMode : Bool) :
    Except String (Drive V) :=
  if ownerPermissionMode = true ∧ generationMode = false then
    .error "Owner permission requires generation mode"
  else .ok
    { numWheelPairs := max numWheelPairs 1
      ownerPermissionMode
      generationMode
      permission := .initial 1000000000
      isSealed := generationMode
      targetX := w.zero
      targetRot := w.zero
      desiredWheelSpeed := fun _ ↦ w.zero
      wheelSpeedInstr := fun _ ↦ w.zero }

/-- `permit_identity`. -/
def permitIdentity (d : Drive V) : MotionPermitIdentity := ⟨d.scope, d.generation, d.operationId⟩

/-- `Record`. -/
def record (d : Drive V) (event : String) (commandGeneration : Option UInt64 := none) : Drive V :=
  { d with log := d.log ++ [(event, commandGeneration)] }

/-- `sync_permission`: a latched fault seals the drive. -/
def syncPermission (d : Drive V) (now : UInt64) : Drive V :=
  if d.permission.state = .faultClosed ∧ d.isSealed = false then
    { d with
      isSealed := true
      applied := false
      targetX := w.zero
      targetRot := w.zero
      desiredWheelSpeed := fun _ ↦ w.zero
      wheelSpeedInstr := fun _ ↦ w.zero
      closureReason :=
        if d.permission.deadlineNs ≤ now then "permission_expired" else "clock_invalid" }
      |>.record "permission_fault_sealed"
  else d

/-! ### Owner permission -/

/-- The assignments of an accepted opening that is no retry. -/
def openedScope (d : Drive V) (identity : MotionPermitIdentity) : Drive V :=
  { d with
    scope := identity.scopeId
    generation := identity.generation
    operationId := identity.operationId
    targetX := w.zero
    targetRot := w.zero
    applied := false
    isSealed := false
    closureReason := "open" }
    |>.record "motion_scope_opened"

/-- `open_permit`, with the response's `accepted`, `generation` and `deadline_ns`. -/
def openPermit (d : Drive V) (request : OpenPermitRequest) (now : UInt64) :
    (Bool × UInt64 × UInt64) × Drive V :=
  let identity := request.identity
  let retry := !d.isSealed
  let (accepted, permission) := d.permission.openFor identity request.expectedGeneration
    request.issuedNs now d.applied
  let d := { d with permission := permission }.syncPermission w now
  let d := if accepted = true ∧ retry = false then d.openedScope w identity else d
  ((accepted, d.generation, d.permission.deadlineNs),
    d.record (if accepted then "permission_open_accepted" else "permission_open_rejected"))

/-- `renew_permit`, with the response's `accepted` and `deadline_ns`. -/
def renewPermit (d : Drive V) (request : RenewPermitRequest) (now : UInt64) :
    (Bool × UInt64) × Drive V :=
  let (accepted, permission) := d.permission.renew
    ⟨request.scopeId, request.generation, request.operationId⟩ request.issuedNs now
  let d := { d with permission := permission }.syncPermission w now
  ((accepted, d.permission.deadlineNs),
    d.record (if accepted then "permission_renewed" else "permission_renew_rejected"))

/-- The assignments of a normal close. -/
def closedScope (d : Drive V) : Drive V :=
  { d with
    isSealed := true
    applied := false
    targetX := w.zero
    targetRot := w.zero
    desiredWheelSpeed := fun _ ↦ w.zero
    wheelSpeedInstr := fun _ ↦ w.zero
    closureReason := "normal_close" }
    |>.record "motion_scope_sealed"

/-- `close_permit`, with the response's `accepted`. -/
def closePermit (d : Drive V) (request : ClosePermitRequest) (now : UInt64) : Bool × Drive V :=
  let (accepted, permission) := d.permission.close
    ⟨request.scopeId, request.generation, request.operationId⟩ now
  let d := { d with permission := permission }.syncPermission w now
  (accepted, if accepted = true ∧ d.isSealed = false then d.closedScope w else d)

/-- `permitted_command`. It answers nothing; the model tells whether the targets were taken
over. -/
def permittedCommand (d : Drive V) (command : PermittedTwist V) (now : UInt64) :
    Bool × Drive V :=
  let (allowed, permission) := d.permission.canConsume command.identity now
  let d : Drive V := { d with permission := permission }.syncPermission w now
  if allowed = false ∨ d.isSealed = true ∨ w.isFinite command.linearX = false ∨
      w.isFinite command.angularZ = false then
    (false, d.record "scoped_command_rejected" (some command.generation))
  else (true, { d with targetX := command.linearX, targetRot := command.angularZ })

/-! ### The handlers of the other modes -/

/-- `OnCmdVel`. -/
def onCmdVel (d : Drive V) (linearX angularZ : V) : Drive V :=
  if d.generationMode then
    if w.isNonzero linearX ∨ w.isNonzero angularZ then d.record "unscoped_command_rejected" else d
  else if d.isSealed then
    if w.isNonzero linearX ∨ w.isNonzero angularZ then
      d.record "late_nonzero_command_rejected" else d
  else { d with targetX := linearX, targetRot := angularZ }

/-- The scope tests of `CloseScope` and `OpenScope`. -/
def validScope (scope : String) : Prop :=
  scope.length = 32 ∧ scope ≠ String.ofList (List.replicate 32 '0') ∧
    ∀ c ∈ scope.toList, ('0' ≤ c ∧ c ≤ '9') ∨ ('a' ≤ c ∧ c ≤ 'f')
  deriving Decidable

/-- `CloseScope`, with the response's `accepted`. -/
def closeScope (d : Drive V) (scopeId : String) : Bool × Drive V :=
  if d.generationMode then (false, d)
  else if ¬ validScope scopeId ∨ (d.isSealed = true ∧ d.scope ≠ scopeId) then (false, d)
  else if d.isSealed then (true, d)
  else
    (true,
      { d with scope := scopeId, isSealed := true, targetX := w.zero, targetRot := w.zero }
        |>.record "motion_scope_sealed")

/-- `OpenScope`, with the response's `accepted` and `generation`. -/
def openScope (d : Drive V) (scopeId : String) (expectedGeneration : UInt64) :
    (Bool × UInt64) × Drive V :=
  if d.ownerPermissionMode then ((false, d.generation), d.record "legacy_open_rejected")
  else if d.generationMode = false ∨ expectedGeneration = 0xFFFFFFFFFFFFFFFF ∨
      ¬ validScope scopeId then
    ((false, d.generation), d)
  else if d.isSealed = false ∧ d.generation = expectedGeneration + 1 ∧ d.scope = scopeId then
    ((true, d.generation), d)
  else if d.generation ≠ expectedGeneration ∨ d.isSealed = false ∨ d.applied = false then
    ((false, d.generation), d)
  else
    ((true, d.generation + 1),
      { d with
        generation := d.generation + 1
        scope := scopeId
        targetX := w.zero
        targetRot := w.zero
        applied := false
        isSealed := false }
        |>.record "motion_scope_opened")

/-- `CloseGeneration`, with the response's `accepted`. -/
def closeGeneration (d : Drive V) (scopeId : String) (generation : UInt64) : Bool × Drive V :=
  if d.ownerPermissionMode then (false, d.record "legacy_close_rejected")
  else if d.generationMode = false ∨ d.generation = 0 ∨ generation ≠ d.generation ∨
      scopeId ≠ d.scope then
    (false, d)
  else if d.isSealed then (true, d)
  else
    (true,
      { d with isSealed := true, applied := false, targetX := w.zero, targetRot := w.zero }
        |>.record "motion_scope_sealed")

/-- `OnScopedCmd`. -/
def onScopedCmd (d : Drive V) (message : ScopedTwist V) : Drive V :=
  if d.ownerPermissionMode then d.record "legacy_command_rejected"
  else if d.generationMode = false ∨ d.generation = 0 ∨ d.isSealed = true ∨
      message.generation ≠ d.generation ∨ message.scopeId ≠ d.scope ∨
      w.isFinite message.linearX = false ∨ w.isFinite message.angularZ = false then
    d.record "scoped_command_rejected" (some message.generation)
  else { d with targetX := message.linearX, targetRot := message.angularZ }

/-- `Reset`. -/
def reset (d : Drive V) : Drive V := { d with targetX := w.zero, targetRot := w.zero }

/-! ### The update -/

/-- The zero writes of `apply_zero`, one for each wheel. -/
def zeroWrites (d : Drive V) (input : UpdateInput V) : List (WheelWrite V) :=
  (List.range (2 * d.numWheelPairs)).map fun wheel ↦ .zero wheel (input.zeroAccepted wheel)

/-- `apply_zero`: zero is applied once every joint accepts its write. -/
def applyZero (d : Drive V) (input : UpdateInput V) : Drive V × List (WheelWrite V) :=
  let accepted := (List.range (2 * d.numWheelPairs)).all input.zeroAccepted
  let zeroed :=
    { d with desiredWheelSpeed := fun _ ↦ w.zero, wheelSpeedInstr := fun _ ↦ w.zero }
  (if accepted = true ∧ d.applied = false then
      { zeroed with applied := true }.record
        (if d.generationMode = true ∧ d.generation = 0 then "drive_boot_zero_applied"
          else "motion_scope_applied")
    else zeroed,
    d.zeroWrites input)

/-- `write_permitted` with `write_current`: consume the permission at a reading of the clock
and write, or seal and apply zero. -/
def writePermitted (d : Drive V) (input : UpdateInput V) (reading wheel : ℕ) (velocity : V) :
    Bool × Drive V × List (WheelWrite V) :=
  if d.ownerPermissionMode then
    let now := input.clock reading
    let (permitted, permission) := d.permission.canConsume d.permitIdentity now
    let d := { d with permission := permission }
    if permitted then (true, d, [.motion wheel velocity (some now)])
    else
      let (d, writes) := (d.syncPermission w now).applyZero w input
      (false, d, writes)
  else (true, d, [.motion wheel velocity none])

/-- The speeds of a pair of wheels that one round of the loop instructs. -/
def instructPair (d : Drive V) (input : UpdateInput V) (pair : ℕ) : (ℕ → V) × Drive V :=
  let left := 2 * pair + 1
  let right := 2 * pair
  if w.reached pair (d.desiredWheelSpeed left) (input.currentSpeed left)
      (d.desiredWheelSpeed right) (input.currentSpeed right) then
    (d.desiredWheelSpeed, d)
  else
    let instructed := fun wheel ↦
      if wheel = left ∨ wheel = right then
        w.instruct wheel (d.wheelSpeedInstr wheel) (d.desiredWheelSpeed wheel)
          (input.currentSpeed wheel) input.secondsSinceLastUpdate
      else d.wheelSpeedInstr wheel
    (instructed, { d with wheelSpeedInstr := instructed })

/-- The two writes of a pair of wheels; the right wheel is written if the left one was. -/
def writePair (d : Drive V) (input : UpdateInput V) (pair : ℕ) :
    Bool × Drive V × List (WheelWrite V) :=
  let (speed, d) := d.instructPair w input pair
  let left := 2 * pair + 1
  let right := 2 * pair
  let (permitted, d, writes) :=
    d.writePermitted w input (2 * pair + 1) left (w.native left (speed left))
  if permitted = false then (false, d, writes)
  else
    let (permitted, d, more) :=
      d.writePermitted w input (2 * pair + 2) right (w.native right (speed right))
    (permitted, d, writes ++ more)

/-- The loop of `OnUpdate` over the pairs that are left; a refused write ends the update. -/
def writePairs (input : UpdateInput V) :
    (pairs : ℕ) → (pair : ℕ) → Drive V → Drive V × List (WheelWrite V)
  | 0, _, d => (d, [])
  | pairs + 1, pair, d =>
    let (permitted, d, writes) := d.writePair w input pair
    if permitted then
      let (d, more) := writePairs input pairs (pair + 1) d
      (d, writes ++ more)
    else (d, writes)

/-- `UpdateWheelVelocities`. -/
def updateWheelVelocities (d : Drive V) : Drive V :=
  { d with desiredWheelSpeed := w.desired d.targetX d.targetRot }

/-- The observation of the permission with which `OnUpdate` starts. -/
def observePermission (d : Drive V) (now : UInt64) : Drive V :=
  if d.ownerPermissionMode then
    { d with permission := (d.permission.canConsume d.permitIdentity now).2 }.syncPermission w now
  else d

/-- `OnUpdate`, from its time test on; reading 0 of the clock is the first. -/
def onUpdate (d : Drive V) (input : UpdateInput V) : Drive V × List (WheelWrite V) :=
  if input.due = false then (d, [])
  else
    let d := { d with updateSequence := d.updateSequence + 1 }.observePermission w (input.clock 0)
    if d.isSealed then d.applyZero w input
    else writePairs w input d.numWheelPairs 0 (d.updateWheelVelocities w)

end Drive

/-! ### Serialized handlers -/

/-- A handler with its arguments and, where it reads the clock, its reading. -/
inductive DriveCall (V : Type) where
  | openPermit (request : OpenPermitRequest) (now : UInt64)
  | renewPermit (request : RenewPermitRequest) (now : UInt64)
  | closePermit (request : ClosePermitRequest) (now : UInt64)
  | permittedCommand (command : PermittedTwist V) (now : UInt64)
  | onCmdVel (linearX angularZ : V)
  | closeScope (scopeId : String)
  | openScope (scopeId : String) (expectedGeneration : UInt64)
  | closeGeneration (scopeId : String) (generation : UInt64)
  | onScopedCmd (message : ScopedTwist V)
  | reset
  | onUpdate (input : UpdateInput V)

/-- What a handler answers, or writes to the wheels. -/
inductive DriveAnswer (V : Type) where
  | opened (accepted : Bool) (generation deadlineNs : UInt64)
  | renewed (accepted : Bool) (deadlineNs : UInt64)
  | closed (accepted : Bool)
  | commanded (accepted : Bool)
  | legacyOpened (accepted : Bool) (generation : UInt64)
  | done
  | writes (writes : List (WheelWrite V))

/-- One handler on a drive. -/
def Drive.call {V : Type} (w : WheelArithmetic V) (d : Drive V) :
    DriveCall V → DriveAnswer V × Drive V
  | .openPermit request now =>
    (d.openPermit w request now).map (fun a ↦ .opened a.1 a.2.1 a.2.2) id
  | .renewPermit request now => (d.renewPermit w request now).map (fun a ↦ .renewed a.1 a.2) id
  | .closePermit request now => (d.closePermit w request now).map .closed id
  | .permittedCommand command now => (d.permittedCommand w command now).map .commanded id
  | .onCmdVel linearX angularZ => (.done, d.onCmdVel w linearX angularZ)
  | .closeScope scopeId => (d.closeScope w scopeId).map .closed id
  | .openScope scopeId expected =>
    (d.openScope w scopeId expected).map (fun a ↦ .legacyOpened a.1 a.2) id
  | .closeGeneration scopeId generation => (d.closeGeneration w scopeId generation).map .closed id
  | .onScopedCmd message => (.done, d.onScopedCmd w message)
  | .reset => (.done, d.reset w)
  | .onUpdate input => ((d.onUpdate w input).map id .writes).swap

/-- The drive as a machine that runs one handler after another. -/
def drive {V : Type} (w : WheelArithmetic V) : Mealy (Drive V) (DriveCall V) (DriveAnswer V) :=
  ⟨Drive.call w⟩

/-- One handler of a history. -/
abbrev DriveEvent (V : Type) := Mealy.Event (Drive V) (DriveCall V) (DriveAnswer V)

end RobotHarness.Motion
