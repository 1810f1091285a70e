import Mathlib.Data.Int.Notation
import Mathlib.Logic.Function.Basic
import RobotHarness.Base.Fallible
import RobotHarness.Base.Mealy

/-!
# Observations of native closure

`ClosureObservations` of `integrations/ros2/nav2_observation/closure_observations.hpp`. The JSON
library is taken by what it parses: a wire text holds an object, another value or none. A method
that throws leaves what it has changed.
-/

namespace RobotHarness.Observation

/-- A JSON value, as far as the checks tell values apart. -/
inductive Json where
  | null
  | boolean (value : Bool)
  | integer (value : Int64)
  | unsigned (value : UInt64)
  | float
  | string (text : String)
  | array
  | object
  deriving DecidableEq, Repr

namespace Json

/-- `is_number_integer`. -/
def isNumberInteger : Json → Bool
  | integer _ | unsigned _ => true
  | _ => false

/-- `is_number_unsigned`. -/
def isNumberUnsigned : Json → Bool
  | unsigned _ => true
  | _ => false

/-- `get<std::int64_t>` of an integer, which wraps. -/
def getInt64 : Json → Except String Int64
  | integer value => .ok value
  | unsigned value => .ok value.toInt64
  | _ => .error "type must be number"

/-- `get<std::uint64_t>` of an unsigned integer. -/
def getUInt64 : Json → Except String UInt64
  | unsigned value => .ok value
  | _ => .error "type must be number"

/-- `get<std::string>`. -/
def getString : Json → Except String String
  | string text => .ok text
  | _ => .error "type must be string"

/-- The comparison of an integer with the largest `std::int64_t`. The library compares as signed
numbers. -/
def atMostInt64 (value : Json) : Except String Bool :=
  value.getInt64.map fun number ↦ !decide (Int64.maxValue < number)

/-- The number that an integer stands for. -/
def number? : Json → Option ℤ
  | integer value => some value.toInt
  | unsigned value => some value.toNat
  | _ => none

end Json

/-- A parsed object. -/
abbrev Event := List (String × Json)

/-- `at`. -/
def Event.atKey (event : Event) (key : String) : Except String Json :=
  match event.lookup key with
  | some value => .ok value
  | none => .error "key not found"

/-- The value of a key is the given one. -/
def Event.equals (event : Event) (key : String) (value : Json) : Except String Bool :=
  (event.atKey key).map fun found ↦ found == value

/-- What a text parses to. -/
inductive Parsed where
  | malformed | other
  | object (event : Event)
  deriving DecidableEq, Repr

/-- A text from outside. -/
structure Wire where
  size : ℕ
  parsed : Parsed
  deriving DecidableEq, Repr

/-- `uuid`. -/
def uuid (text : String) : Bool :=
  text.utf8ByteSize == 32 && text != "00000000000000000000000000000000" &&
    text.toList.all fun c ↦ ('0' ≤ c && c ≤ '9') || ('a' ≤ c && c ≤ 'f')

/-- A text that identifies a request. -/
abbrev Scope := {text : String // uuid text = true}

/-- The identities under which a child action was linked and its worker was acknowledged. -/
structure Child where
  link : Option String := none
  ack : Option String := none
  deriving DecidableEq, Repr

/-- The constructor lets no other text be a scope. -/
structure ClosureObservations where
  scope : Scope
  generation : UInt64 := 0
  parent : String := ""
  children : Fin 2 → Child := fun _ ↦ {}
  btClosed : Bool := false
  rejected : Bool := false
  driveRejected : Bool := false
  driveStamp : Int64 := 0

/-- A method that may throw. -/
abbrev Closing := Fallible String ClosureObservations

namespace ClosureObservations

/-- `workers_closed`. -/
def workersClosed (s : ClosureObservations) : Bool :=
  !s.rejected && s.parent != "" && [0, 1].all fun i ↦
    (s.children i).link.isSome && (s.children i).ack.isSome &&
      (s.children i).link == (s.children i).ack

/-- `drive_closed`. -/
def driveClosed (s : ClosureObservations) : Bool :=
  !s.driveRejected && decide (0 < s.driveStamp)

/-- `closed`. -/
def closed (s : ClosureObservations) : Bool :=
  s.workersClosed && s.btClosed && s.driveClosed

/-- `reject`. -/
def reject (s : ClosureObservations) : ClosureObservations :=
  { s with rejected := true }

/-- What the handler of `observe_drive` records. -/
def rejectDrive (s : ClosureObservations) : ClosureObservations :=
  { s with driveRejected := true, rejected := true }

end ClosureObservations

/-- The conditions of a conjunction, looked at in turn. -/
def allOf : List (Except String Bool) → Except String Bool
  | [] => .ok true
  | .ok true :: conditions => allOf conditions
  | condition :: _ => condition

/-- `check` of a conjunction. -/
def check (conditions : List (Except String Bool)) (error : String) : Closing PUnit := do
  if ← Fallible.answer (allOf conditions) then pure ⟨⟩
  else
    Fallible.assign ClosureObservations.reject
    Fallible.raise error

/-- `parse`. -/
def parse (wire : Wire) : Closing Event := do
  check [.ok (decide (wire.size ≤ 4096))] "oversized native observation"
  Fallible.onRaise ClosureObservations.reject do
    match wire.parsed with
    | .malformed => Fallible.raise "parse error"
    | .other =>
      check [.ok false] "native observation is not an object"
      pure []
    | .object event => pure event

/-- `ordered`. -/
def ordered (event : Event) (requested received : Int64) : Closing PUnit := do
  check [(event.atKey "steady_ns").map Json.isNumberInteger,
    (event.atKey "steady_ns").bind Json.atMostInt64] "invalid native timestamp"
  let stamp ← Fallible.answer ((event.atKey "steady_ns").bind Json.getInt64)
  check [.ok (decide (0 < requested)), .ok (decide (requested ≤ stamp)),
    .ok (decide (stamp ≤ received))] "native closure ordering"

/-- `bind_parent`. -/
def bindParent (parent : String) : Closing PUnit := do
  let bound ← Fallible.read ClosureObservations.parent
  check [.ok (uuid parent), .ok (bound == "" || bound == parent)] "parent identity mismatch"
  Fallible.assign fun s ↦ { s with parent }

/-- The name of a child action. -/
def childAction (i : Fin 2) : String :=
  if i = 0 then "compute_path_to_pose" else "follow_path"

/-- The acknowledgement of a worker in `observe_child`. -/
def observeAcknowledgement (i : Fin 2) (event : Event) : Closing PUnit := do
  check [event.equals "event" (.string (childAction i ++ "_worker_ack")),
    event.equals "worker_future_ready" (.boolean true),
    event.equals "endpoint_sealed" (.boolean true)] "invalid worker acknowledgement"
  let id ← Fallible.answer ((event.atKey "goal_uuid").bind Json.getString)
  let child ← Fallible.read fun s ↦ s.children i
  check [.ok (uuid id), .ok (child.ack == none || child.ack == some id)] "worker identity changed"
  Fallible.assign fun s ↦
    { s with children := Function.update s.children i { child with ack := some id } }

/-- The link of a child in `observe_child`. -/
def observeLink (i : Fin 2) (event : Event) : Closing PUnit := do
  let scope ← Fallible.read fun s ↦ s.scope.val
  check [event.equals "event" (.string "navigation_child_link"),
    event.equals "scope_id" (.string scope), event.equals "action" (.string (childAction i))]
    "child scope mismatch"
  let id ← Fallible.answer ((event.atKey "child_uuid").bind Json.getString)
  let child ← Fallible.read fun s ↦ s.children i
  check [.ok (uuid id), .ok (child.link == none || child.link == some id)] "child identity changed"
  Fallible.assign fun s ↦
    { s with children := Function.update s.children i { child with link := some id } }

/-- `observe_child`. -/
def observeChild (index : ℕ) (acknowledgement : Bool) (wire : Wire) : Closing PUnit :=
  Fallible.onRaise ClosureObservations.reject do
    if h : index < 2 then
      let i : Fin 2 := ⟨index, h⟩
      let event ← parse wire
      (if acknowledgement then observeAcknowledgement i event else observeLink i event)
      let child ← Fallible.read fun s ↦ s.children i
      check [.ok (child.link == none || child.ack == none || child.link == child.ack)]
        "child/worker mismatch"
    else check [.ok false] "invalid child action"

/-- `observe_bt`. -/
def observeBt (wire : Wire) (requested received : Int64) : Closing PUnit :=
  Fallible.onRaise ClosureObservations.reject do
    let event ← parse wire
    let workers ← Fallible.read ClosureObservations.workersClosed
    let scope ← Fallible.read fun s ↦ s.scope.val
    check [.ok workers, event.equals "event" (.string "navigation_bt_closed"),
      event.equals "scope_id" (.string scope), event.equals "bt_worker_joined" (.boolean true),
      event.equals "endpoint_sealed" (.boolean true), event.equals "tree_idle" (.boolean true)]
      "BT closure mismatch"
    ordered event requested received
    Fallible.assign fun s ↦ { s with btClosed := true }

/-- The generation of a drive acknowledgement is one of an earlier task. -/
def isRetained (event : Event) : Closing Bool := do
  let current ← Fallible.read ClosureObservations.generation
  if current = 0 then pure false
  else
    check [(event.atKey "generation").map Json.isNumberUnsigned] "invalid drive generation"
    let generation ← Fallible.answer ((event.atKey "generation").bind Json.getUInt64)
    if generation < current then pure true
    else
      check [.ok (generation == current)] "unexpected drive generation"
      pure false

/-- `observe_drive`. -/
def observeDrive (wire : Wire) (requested received : Int64) : Closing PUnit :=
  Fallible.onRaise ClosureObservations.rejectDrive do
    let event ← parse wire
    if ← isRetained event then pure ⟨⟩
    else
      let scope ← Fallible.read fun s ↦ s.scope.val
      check [event.equals "event" (.string "motion_scope_applied"),
        event.equals "scope_id" (.string scope), event.equals "sealed" (.boolean true),
        event.equals "wheel_targets_zero" (.boolean true)] "drive closure mismatch"
      ordered event requested received
      check [(event.atKey "update_sequence").map Json.isNumberUnsigned,
        (event.atKey "update_sequence").bind fun value ↦
          value.getUInt64.map fun sequence ↦ decide (0 < sequence),
        (event.atKey "sim_ns").map Json.isNumberInteger,
        (event.atKey "sim_ns").bind Json.atMostInt64] "invalid drive update"
      let stamp ← Fallible.answer ((event.atKey "sim_ns").bind Json.getInt64)
      let seen ← Fallible.read ClosureObservations.driveStamp
      check [.ok (decide (0 < stamp)), .ok (seen == 0 || seen == stamp)] "drive update changed"
      Fallible.assign fun s ↦ { s with driveStamp := stamp }

/-- A call from outside. -/
inductive ClosureCall where
  | bindParent (parent : String)
  | observeChild (index : ℕ) (acknowledgement : Bool) (wire : Wire)
  | observeBt (wire : Wire) (requested received : Int64)
  | observeDrive (wire : Wire) (requested received : Int64)
  | reject
  deriving DecidableEq, Repr

/-- What a call does. -/
def ClosureCall.run : ClosureCall → Closing PUnit
  | bindParent parent => Observation.bindParent parent
  | observeChild index acknowledgement wire => Observation.observeChild index acknowledgement wire
  | observeBt wire requested received => Observation.observeBt wire requested received
  | observeDrive wire requested received => Observation.observeDrive wire requested received
  | reject => Fallible.assign ClosureObservations.reject

/-- The observer as a machine that answers calls. -/
def closureMachine : Mealy ClosureObservations ClosureCall (Except String PUnit) :=
  ⟨fun s c ↦ c.run s⟩

/-! ### What an observation says -/

/-- The text holds an object. -/
def Wire.Holds (wire : Wire) (event : Event) : Prop :=
  wire.size ≤ 4096 ∧ wire.parsed = .object event

namespace Event

/-- The object has a value under a key. -/
def Has (event : Event) (key : String) (value : Json) : Prop :=
  event.lookup key = some value

/-- The object has a number under a key. -/
def HasNumber (event : Event) (key : String) (number : ℤ) : Prop :=
  ∃ value, event.Has key value ∧ value.number? = some number

/-- The closure lies between the request and the receipt. -/
def Ordered (event : Event) (requested received : Int64) : Prop :=
  ∃ steady, event.HasNumber "steady_ns" steady ∧ requested.toInt ≤ steady ∧
    steady ≤ received.toInt

end Event

/-- The text carries the number of an update. -/
def Wire.Updates (wire : Wire) : Prop :=
  ∃ event sequence, wire.Holds event ∧ event.Has "update_sequence" (.unsigned sequence) ∧
    0 < sequence

namespace ClosureCall

/-- The call binds a parent. -/
def Binds (parent : String) (c : ClosureCall) : Prop :=
  c = .bindParent parent ∧ uuid parent = true

/-- The call links a child action of a scope to an identity. -/
def Links (scope : Scope) (i : Fin 2) (id : String) (c : ClosureCall) : Prop :=
  ∃ wire event, c = .observeChild i false wire ∧ wire.Holds event ∧
    event.Has "event" (.string "navigation_child_link") ∧
    event.Has "scope_id" (.string scope.val) ∧ event.Has "action" (.string (childAction i)) ∧
    event.Has "child_uuid" (.string id) ∧ uuid id = true

/-- The call acknowledges a worker of a child action under an identity. -/
def Acknowledges (i : Fin 2) (id : String) (c : ClosureCall) : Prop :=
  ∃ wire event, c = .observeChild i true wire ∧ wire.Holds event ∧
    event.Has "event" (.string (childAction i ++ "_worker_ack")) ∧
    event.Has "worker_future_ready" (.boolean true) ∧
    event.Has "endpoint_sealed" (.boolean true) ∧ event.Has "goal_uuid" (.string id) ∧
    uuid id = true

/-- The call reports the tree of a scope closed. -/
def ClosesTree (scope : Scope) (c : ClosureCall) : Prop :=
  ∃ wire requested received event, c = .observeBt wire requested received ∧ wire.Holds event ∧
    event.Has "event" (.string "navigation_bt_closed") ∧
    event.Has "scope_id" (.string scope.val) ∧ event.Has "bt_worker_joined" (.boolean true) ∧
    event.Has "endpoint_sealed" (.boolean true) ∧ event.Has "tree_idle" (.boolean true) ∧
    event.Ordered requested received

/-- The call acknowledges the drive of a scope and generation with a simulation stamp. -/
def Drives (scope : Scope) (generation : UInt64) (stamp : ℤ) (c : ClosureCall) : Prop :=
  ∃ wire requested received event, c = .observeDrive wire requested received ∧
    wire.Holds event ∧ (generation = 0 ∨ event.Has "generation" (.unsigned generation)) ∧
    event.Has "event" (.string "motion_scope_applied") ∧
    event.Has "scope_id" (.string scope.val) ∧ event.Has "sealed" (.boolean true) ∧
    event.Has "wheel_targets_zero" (.boolean true) ∧ event.Ordered requested received ∧
    event.HasNumber "sim_ns" stamp

/-- The call acknowledges the drive of an earlier generation. -/
def IsRetained (generation : UInt64) (c : ClosureCall) : Prop :=
  ∃ wire requested received event earlier, c = .observeDrive wire requested received ∧
    wire.Holds event ∧ event.Has "generation" (.unsigned earlier) ∧ earlier < generation

/-- The call observes the drive. -/
def isDrive : ClosureCall → Bool
  | observeDrive .. => true
  | _ => false

end ClosureCall

/-! ### What a check passes -/

section Checks

variable {s : ClosureObservations} {E : String → ClosureObservations → Prop}

private theorem allOf_eq_true {conditions : List (Except String Bool)} :
    allOf conditions = .ok true ↔ ∀ condition ∈ conditions, condition = .ok true := by
  induction conditions with
  | nil => simp [allOf]
  | cons condition conditions ih =>
    rw [List.forall_mem_cons]
    rcases condition with error | _ | _
    · simp [allOf]
    · simp [allOf]
    · simp [allOf, ih]

private theorem allOf_map_ok (conditions : List Bool) :
    allOf (conditions.map .ok) = .ok (conditions.all id) := by
  induction conditions with
  | nil => rfl
  | cons condition conditions ih =>
    cases condition with
    | true => exact ih
    | false => rfl

/-- A check that fails rejects and throws, or throws. -/
theorem meets_check {conditions : List (Except String Bool)} {error : String}
    {Q : PUnit → ClosureObservations → Prop}
    (hQ : (∀ condition ∈ conditions, condition = .ok true) → Q ⟨⟩ s) (hE : ∀ e, E e s)
    (hreject : ∀ e, E e s.reject) : Fallible.Meets (check conditions error) s Q E := by
  unfold check
  rw [Fallible.meets_bind]
  rcases hall : allOf conditions with e | _ | _
  · exact hE e
  · exact hreject error
  · exact hQ (allOf_eq_true.mp hall)

/-- A check that passes changes nothing. -/
theorem check_of_all {conditions : List (Except String Bool)} {error : String}
    (h : ∀ condition ∈ conditions, condition = .ok true) :
    check conditions error s = (.ok ⟨⟩, s) := by
  unfold check
  rw [allOf_eq_true.mpr h]
  rfl

/-- A check of what the state and the arguments say. -/
theorem meets_check_ok (conditions : List Bool) {error : String}
    {Q : PUnit → ClosureObservations → Prop} (hQ : (∀ condition ∈ conditions, condition = true) →
      Q ⟨⟩ s) (hreject : E error s.reject) :
    Fallible.Meets (check (conditions.map .ok) error) s Q E := by
  unfold check
  rw [Fallible.meets_bind, allOf_map_ok]
  cases hconditions : conditions.all id with
  | true => exact hQ (by simpa using hconditions)
  | false => exact hreject

private theorem meets_answer {α : Type} {answer : Except String α}
    {Q : α → ClosureObservations → Prop} (hQ : ∀ a, answer = .ok a → Q a s) (hE : ∀ e, E e s) :
    Fallible.Meets (Fallible.answer answer) s Q E := by
  cases answer with
  | ok a => exact hQ a rfl
  | error e => exact hE e

/-- A text that parses holds an object. -/
theorem meets_parse {wire : Wire} {Q : Event → ClosureObservations → Prop}
    (hQ : ∀ event, wire.Holds event → Q event s) (hE : ∀ e, E e s)
    (hreject : ∀ e, E e s.reject) : Fallible.Meets (parse wire) s Q E := by
  unfold parse
  rw [Fallible.meets_bind]
  refine meets_check (fun hsize ↦ ?_) hE hreject
  have hsize : wire.size ≤ 4096 := by simpa using hsize
  rw [Fallible.meets_onRaise]
  cases hparsed : wire.parsed with
  | malformed => exact hreject _
  | other => exact hreject _
  | object event => exact hQ event ⟨hsize, hparsed⟩

end Checks

namespace Event

variable {event : Event} {key : String} {value value' : Json}

private theorem atKey_eq : event.atKey key = .ok value ↔ event.Has key value := by
  unfold atKey Has
  cases event.lookup key <;> simp

private theorem equals_eq : event.equals key value = .ok true ↔ event.Has key value := by
  unfold equals atKey Has
  cases event.lookup key <;> simp [Except.map]

private theorem bind_eq {α : Type} {f : Json → Except String α} {a : α}
    (h : (event.atKey key).bind f = .ok a) : ∃ value, event.Has key value ∧ f value = .ok a := by
  unfold atKey at h
  cases hvalue : event.lookup key with
  | none => rw [hvalue] at h; cases h
  | some value => exact ⟨value, hvalue, by rwa [hvalue] at h⟩

/-- The check of a positive number. -/
theorem positive_eq : ((event.atKey key).bind fun value ↦
    value.getUInt64.map fun number ↦ decide (0 < number)) = .ok true ↔
      ∃ number, event.Has key (.unsigned number) ∧ 0 < number := by
  constructor
  · intro h
    obtain ⟨value, hvalue, h⟩ := bind_eq h
    cases value with
    | unsigned number => exact ⟨number, hvalue, of_decide_eq_true (Except.ok.inj h)⟩
    | _ => cases h
  · rintro ⟨number, hvalue, hpos⟩
    rw [atKey_eq.mpr hvalue]
    exact congrArg Except.ok (decide_eq_true hpos)

/-- A key has one value. -/
theorem Has.unique (h : event.Has key value) (h' : event.Has key value') : value = value' :=
  Option.some.inj (h.symm.trans h')

private theorem getString_eq {text : String}
    (h : (event.atKey key).bind Json.getString = .ok text) : event.Has key (.string text) := by
  obtain ⟨value, hvalue, h⟩ := bind_eq h
  cases value <;> cases h
  exact hvalue

/-- A key has one number. -/
theorem HasNumber.unique {n m : ℤ} (h : event.HasNumber key n) (h' : event.HasNumber key m) :
    n = m := by
  obtain ⟨value, hvalue, hn⟩ := h
  obtain ⟨value', hvalue', hm⟩ := h'
  cases hvalue.unique hvalue'
  exact Option.some.inj (hn.symm.trans hm)

end Event

/-- What is said to be the same is what an earlier one was. -/
private theorem none_or_some_eq {earlier : Option String} {id : String} :
    (earlier == none || earlier == some id) = true ↔ ∀ id', earlier = some id' → id' = id := by
  cases earlier <;> simp

/-- A number that is no more than the largest signed one is read as it is. -/
private theorem Json.getInt64_of_number? {value : Json} {n : ℤ} (h : value.number? = some n)
    (hmax : n ≤ Int64.maxValue.toInt) :
    value.isNumberInteger = true ∧ ∃ m : Int64, value.getInt64 = .ok m ∧ m.toInt = n := by
  cases value with
  | integer value => exact ⟨rfl, value, rfl, Option.some.inj h⟩
  | unsigned value =>
    refine ⟨rfl, value.toInt64, rfl, ?_⟩
    have hn : (value.toBitVec.toNat : ℤ) = n := Option.some.inj h
    rw [Int64.toInt_maxValue] at hmax
    rw [← Int64.toInt_toBitVec, UInt64.toBitVec_toInt64, BitVec.toInt_eq_toNat_cond]
    split <;> omega
  | _ => cases h

/-- What the checks read of a signed number. -/
private theorem Event.HasNumber.reads {event : Event} {key : String} {n : ℤ}
    (h : event.HasNumber key n) (hmax : n ≤ Int64.maxValue.toInt) :
    ∃ m : Int64, m.toInt = n ∧ (event.atKey key).map Json.isNumberInteger = .ok true ∧
      (event.atKey key).bind Json.atMostInt64 = .ok true ∧
      (event.atKey key).bind Json.getInt64 = .ok m := by
  obtain ⟨value, hvalue, hn⟩ := h
  obtain ⟨hinteger, m, hread, hm⟩ := Json.getInt64_of_number? hn hmax
  have hat : event.atKey key = .ok value := Event.atKey_eq.mpr hvalue
  have hmost : value.atMostInt64 = .ok true := by
    simp [Json.atMostInt64, hread, Except.map, Int64.not_lt]
  refine ⟨m, hm, ?_, ?_, ?_⟩
  · rw [hat]
    exact congrArg Except.ok hinteger
  · rwa [hat]
  · rwa [hat]

/-- A positive signed reading of an integer is the integer. -/
theorem Json.number?_of_getInt64 {value : Json} {n : Int64} (h : value.getInt64 = .ok n)
    (hpos : 0 < n) : value.number? = some n.toInt := by
  cases value with
  | integer value =>
    cases h
    rfl
  | unsigned value =>
    cases h
    have hlt : 0 < value.toInt64.toInt := Int64.lt_iff_toInt_lt.mp hpos
    have hvalue : value.toInt64.toInt = value.toBitVec.toInt := by
      rw [← Int64.toInt_toBitVec, UInt64.toBitVec_toInt64]
    have hnat : value.toNat = value.toBitVec.toNat := rfl
    rw [BitVec.toInt_eq_toNat_cond] at hvalue
    have hbound := value.toBitVec.isLt
    have hsigned : value.toInt64.toInt = value.toNat := by
      split at hvalue <;> omega
    rw [number?, hsigned]
  | _ => cases h

/-! ### What a method does -/

section Methods

variable {s : ClosureObservations}

/-- What a method leaves alone that throws without an observation of the drive. -/
structure SameDrive (s t : ClosureObservations) : Prop where
  scope : t.scope = s.scope
  generation : t.generation = s.generation
  driveRejected : t.driveRejected = s.driveRejected
  driveStamp : t.driveStamp = s.driveStamp

/-- Nothing is changed of the drive when nothing is changed. -/
theorem SameDrive.refl : SameDrive s s := ⟨rfl, rfl, rfl, rfl⟩

private theorem SameDrive.reject {t : ClosureObservations} (h : SameDrive s t) :
    SameDrive s t.reject :=
  ⟨h.scope, h.generation, h.driveRejected, h.driveStamp⟩

/-- What a method that throws leaves. -/
def Rejects (s : ClosureObservations) (_ : String) (t : ClosureObservations) : Prop :=
  t.rejected = true ∧ SameDrive s t

/-- A handler rejects what a method leaves. -/
theorem rejects_reject {t : ClosureObservations} (error : String) (h : SameDrive s t) :
    Rejects s error t.reject :=
  ⟨rfl, h.reject⟩

/-- A parent that is bound is an identity that none contradicts. -/
theorem meets_bindParent (parent : String) :
    Fallible.Meets (bindParent parent) s
      (fun _ t ↦ uuid parent = true ∧ (s.parent = "" ∨ s.parent = parent) ∧
        t = { s with parent }) (Rejects s) := by
  unfold bindParent
  rw [Fallible.meets_read_bind, Fallible.meets_bind]
  refine meets_check_ok [uuid parent, s.parent == "" || s.parent == parent] (fun hparent ↦ ?_)
    (rejects_reject _ .refl)
  simp only [List.forall_mem_cons, Bool.or_eq_true, beq_iff_eq] at hparent
  exact ⟨hparent.1, hparent.2.1, rfl⟩

/-- An order that a check passes. -/
theorem meets_ordered {event : Event} {requested received : Int64}
    {Q : PUnit → ClosureObservations → Prop} {E : String → ClosureObservations → Prop}
    (hQ : 0 < requested → event.Ordered requested received → Q ⟨⟩ s) (hE : ∀ e, E e s)
    (hreject : ∀ e, E e s.reject) : Fallible.Meets (ordered event requested received) s Q E := by
  unfold ordered
  rw [Fallible.meets_bind]
  refine meets_check (fun _ ↦ ?_) hE hreject
  rw [Fallible.meets_bind]
  refine meets_answer (fun stamp hstamp ↦ ?_) hE
  refine meets_check (fun hordered ↦ ?_) hE hreject
  simp only [List.forall_mem_cons, Except.ok.injEq, decide_eq_true_eq] at hordered
  obtain ⟨hpos, hrequested, hreceived, -⟩ := hordered
  refine hQ hpos ?_
  obtain ⟨value, hvalue, hread⟩ := Event.bind_eq hstamp
  have hpositive : 0 < stamp := by
    rw [Int64.lt_iff_toInt_lt] at hpos ⊢
    rw [Int64.le_iff_toInt_le] at hrequested
    omega
  exact ⟨stamp.toInt, ⟨value, hvalue, Json.number?_of_getInt64 hread hpositive⟩,
    Int64.le_iff_toInt_le.mp hrequested, Int64.le_iff_toInt_le.mp hreceived⟩

/-- What an accepted link leaves. -/
def LinkedTo (s : ClosureObservations) (i : Fin 2) (id : String) (t : ClosureObservations) :
    Prop :=
  (∀ earlier, (s.children i).link = some earlier → earlier = id) ∧
    (∀ worker, (s.children i).ack = some worker → worker = id) ∧
    t = { s with children :=
      Function.update s.children i { s.children i with link := some id } }

/-- What an accepted acknowledgement leaves. -/
def AcknowledgedAs (s : ClosureObservations) (i : Fin 2) (id : String)
    (t : ClosureObservations) : Prop :=
  (∀ earlier, (s.children i).ack = some earlier → earlier = id) ∧
    (∀ child, (s.children i).link = some child → child = id) ∧
    t = { s with children :=
      Function.update s.children i { s.children i with ack := some id } }

private theorem meets_observeAcknowledgement (i : Fin 2) (event : Event) :
    Fallible.Meets (observeAcknowledgement i event) s
      (fun _ t ↦ ∃ id, (event.Has "event" (.string (childAction i ++ "_worker_ack")) ∧
          event.Has "worker_future_ready" (.boolean true) ∧
          event.Has "endpoint_sealed" (.boolean true) ∧ event.Has "goal_uuid" (.string id) ∧
          uuid id = true) ∧
        (∀ earlier, (s.children i).ack = some earlier → earlier = id) ∧
        t = { s with children :=
          Function.update s.children i { s.children i with ack := some id } })
      (fun _ t ↦ SameDrive s t) := by
  unfold observeAcknowledgement
  rw [Fallible.meets_bind]
  refine meets_check (fun hfields ↦ ?_) (fun _ ↦ .refl) fun _ ↦ SameDrive.refl.reject
  simp only [List.forall_mem_cons, Event.equals_eq] at hfields
  obtain ⟨hevent, hready, hsealed, -⟩ := hfields
  rw [Fallible.meets_bind]
  refine meets_answer (fun id hid ↦ ?_) fun _ ↦ .refl
  rw [Fallible.meets_read_bind, Fallible.meets_bind]
  refine meets_check (fun hsame ↦ ?_) (fun _ ↦ .refl) fun _ ↦ SameDrive.refl.reject
  simp only [List.forall_mem_cons, Except.ok.injEq, none_or_some_eq] at hsame
  exact ⟨id, ⟨hevent, hready, hsealed, Event.getString_eq hid, hsame.1⟩, hsame.2.1, rfl⟩

private theorem meets_observeLink (i : Fin 2) (event : Event) :
    Fallible.Meets (observeLink i event) s
      (fun _ t ↦ ∃ id, (event.Has "event" (.string "navigation_child_link") ∧
          event.Has "scope_id" (.string s.scope.val) ∧
          event.Has "action" (.string (childAction i)) ∧ event.Has "child_uuid" (.string id) ∧
          uuid id = true) ∧
        (∀ earlier, (s.children i).link = some earlier → earlier = id) ∧
        t = { s with children :=
          Function.update s.children i { s.children i with link := some id } })
      (fun _ t ↦ SameDrive s t) := by
  unfold observeLink
  rw [Fallible.meets_read_bind, Fallible.meets_bind]
  refine meets_check (fun hfields ↦ ?_) (fun _ ↦ .refl) fun _ ↦ SameDrive.refl.reject
  simp only [List.forall_mem_cons, Event.equals_eq] at hfields
  obtain ⟨hevent, hscope, haction, -⟩ := hfields
  rw [Fallible.meets_bind]
  refine meets_answer (fun id hid ↦ ?_) fun _ ↦ .refl
  rw [Fallible.meets_read_bind, Fallible.meets_bind]
  refine meets_check (fun hsame ↦ ?_) (fun _ ↦ .refl) fun _ ↦ SameDrive.refl.reject
  simp only [List.forall_mem_cons, Except.ok.injEq, none_or_some_eq] at hsame
  exact ⟨id, ⟨hevent, hscope, haction, Event.getString_eq hid, hsame.1⟩, hsame.2.1, rfl⟩

/-- The identities that a child keeps agree. -/
theorem meets_sameChild (i : Fin 2) (error : String) {t : ClosureObservations}
    (hsame : SameDrive s t) {Q : PUnit → ClosureObservations → Prop}
    (hQ : (∀ child worker, (t.children i).link = some child → (t.children i).ack = some worker →
      child = worker) → Q ⟨⟩ t) :
    Fallible.Meets (do
      let child ← Fallible.read fun s ↦ s.children i
      check [.ok (child.link == none || child.ack == none || child.link == child.ack)] error)
      t Q fun e t ↦ Rejects s e t.reject := by
  rw [Fallible.meets_read_bind]
  refine meets_check (fun hagree ↦ hQ fun child worker hlink hack ↦ ?_)
    (fun e ↦ rejects_reject e hsame) fun e ↦ rejects_reject e hsame.reject
  simp only [hlink, hack, List.forall_mem_cons, Except.ok.injEq] at hagree
  simpa using hagree

/-- A child that is observed is linked or acknowledged under an identity that none contradicts. -/
theorem meets_observeChild (index : ℕ) (acknowledgement : Bool) (wire : Wire) :
    Fallible.Meets (observeChild index acknowledgement wire) s
      (fun _ t ↦ ∃ i id,
        (ClosureCall.observeChild index acknowledgement wire).Links s.scope i id ∧
            LinkedTo s i id t ∨
          (ClosureCall.observeChild index acknowledgement wire).Acknowledges i id ∧
            AcknowledgedAs s i id t)
      (Rejects s) := by
  unfold observeChild
  rw [Fallible.meets_onRaise]
  split
  next hindex =>
    rw [Fallible.meets_bind]
    refine meets_parse (fun event hholds ↦ ?_) (fun e ↦ rejects_reject e .refl)
      fun e ↦ rejects_reject e SameDrive.refl.reject
    rw [Fallible.meets_bind]
    cases acknowledgement with
    | true =>
      refine (meets_observeAcknowledgement ⟨index, hindex⟩ event).mono ?_
        fun error t h ↦ rejects_reject error h
      rintro - t ⟨id, hsays, hearlier, rfl⟩
      refine meets_sameChild _ _ ?_ fun hagree ↦ ?_
      · exact ⟨rfl, rfl, rfl, rfl⟩
      refine ⟨⟨index, hindex⟩, id, .inr ⟨⟨wire, event, rfl, hholds, hsays⟩, hearlier, ?_, rfl⟩⟩
      intro child hlink
      exact hagree child id (by simpa using hlink) (by simp)
    | false =>
      refine (meets_observeLink ⟨index, hindex⟩ event).mono ?_
        fun error t h ↦ rejects_reject error h
      rintro - t ⟨id, hsays, hearlier, rfl⟩
      refine meets_sameChild _ _ ?_ fun hagree ↦ ?_
      · exact ⟨rfl, rfl, rfl, rfl⟩
      refine ⟨⟨index, hindex⟩, id, .inl ⟨⟨wire, event, rfl, hholds, hsays⟩, hearlier, ?_, rfl⟩⟩
      intro worker hack
      exact (hagree id worker (by simp) (by simpa using hack)).symm
  next =>
    refine meets_check (fun hno ↦ ?_) (fun e ↦ rejects_reject e .refl)
      fun e ↦ rejects_reject e SameDrive.refl.reject
    cases hno (.ok false) (by simp)

/-- A tree that is observed is closed after its workers. -/
theorem meets_observeBt (wire : Wire) (requested received : Int64) :
    Fallible.Meets (observeBt wire requested received) s
      (fun _ t ↦ 0 < requested ∧
        (ClosureCall.observeBt wire requested received).ClosesTree s.scope ∧
        s.workersClosed = true ∧ t = { s with btClosed := true })
      (Rejects s) := by
  unfold observeBt
  rw [Fallible.meets_onRaise, Fallible.meets_bind]
  refine meets_parse (fun event hholds ↦ ?_) (fun e ↦ rejects_reject e .refl)
    fun e ↦ rejects_reject e SameDrive.refl.reject
  rw [Fallible.meets_read_bind, Fallible.meets_read_bind, Fallible.meets_bind]
  refine meets_check (fun hfields ↦ ?_) (fun e ↦ rejects_reject e .refl)
    fun e ↦ rejects_reject e SameDrive.refl.reject
  simp only [List.forall_mem_cons, Event.equals_eq, Except.ok.injEq] at hfields
  obtain ⟨hworkers, hevent, hscope, hjoined, hsealed, hidle, -⟩ := hfields
  rw [Fallible.meets_bind]
  refine meets_ordered (fun hpos hordered ↦ ?_) (fun e ↦ rejects_reject e .refl)
    fun e ↦ rejects_reject e SameDrive.refl.reject
  exact ⟨hpos, ⟨wire, requested, received, event, rfl, hholds, hevent, hscope, hjoined, hsealed,
    hidle, hordered⟩, hworkers, rfl⟩

/-- What a throwing observation of the drive leaves. -/
def RejectsDrive (s : ClosureObservations) (_ : String) (t : ClosureObservations) : Prop :=
  t.rejected = true ∧ t.driveRejected = true ∧ t.scope = s.scope ∧ t.generation = s.generation

/-- The generation of an acknowledgement that is not retained from an earlier task. -/
theorem meets_isRetained (event : Event) :
    Fallible.Meets (isRetained event) s
      (fun retained t ↦ t = s ∧ (retained = true ∧
          (∃ earlier, event.Has "generation" (.unsigned earlier) ∧ earlier < s.generation) ∨
        retained = false ∧
          (s.generation = 0 ∨ event.Has "generation" (.unsigned s.generation))))
      (fun _ t ↦ SameDrive s t) := by
  unfold isRetained
  rw [Fallible.meets_read_bind]
  by_cases hzero : s.generation = 0
  · rw [if_pos hzero]
    exact ⟨rfl, .inr ⟨rfl, .inl hzero⟩⟩
  · rw [if_neg hzero, Fallible.meets_bind]
    refine meets_check (fun _ ↦ ?_) (fun _ ↦ .refl) fun _ ↦ SameDrive.refl.reject
    rw [Fallible.meets_bind]
    refine meets_answer (fun generation hread ↦ ?_) fun _ ↦ .refl
    obtain ⟨value, hvalue, hread⟩ := Event.bind_eq hread
    have hgeneration : event.Has "generation" (.unsigned generation) := by
      cases value <;> cases hread
      exact hvalue
    by_cases hearlier : generation < s.generation
    · rw [if_pos hearlier]
      exact ⟨rfl, .inl ⟨rfl, generation, hgeneration, hearlier⟩⟩
    · rw [if_neg hearlier, Fallible.meets_bind]
      refine meets_check_ok [generation == s.generation] (fun hcurrent ↦ ?_) SameDrive.refl.reject
      have hcurrent : generation = s.generation := by simpa using hcurrent
      exact ⟨rfl, .inr ⟨rfl, .inr (hcurrent ▸ hgeneration)⟩⟩

/-- A drive that is observed acknowledges this generation with the stamp of before, or an earlier
one. -/
theorem meets_observeDrive (wire : Wire) (requested received : Int64) :
    Fallible.Meets (observeDrive wire requested received) s
      (fun _ t ↦
        (ClosureCall.observeDrive wire requested received).IsRetained s.generation ∧ t = s ∨
          0 < requested ∧ wire.Updates ∧
            ∃ stamp : Int64, (ClosureCall.observeDrive wire requested received).Drives s.scope
                s.generation stamp.toInt ∧ 0 < stamp ∧
              (s.driveStamp = 0 ∨ s.driveStamp = stamp) ∧ t = { s with driveStamp := stamp })
      (RejectsDrive s) := by
  have hE : ∀ (e : String) {t : ClosureObservations}, SameDrive s t →
      RejectsDrive s e t.rejectDrive :=
    fun _ _ h ↦ ⟨rfl, rfl, h.scope, h.generation⟩
  unfold observeDrive
  rw [Fallible.meets_onRaise, Fallible.meets_bind]
  refine meets_parse (fun event hholds ↦ ?_) (fun e ↦ hE e .refl)
    fun e ↦ hE e SameDrive.refl.reject
  rw [Fallible.meets_bind]
  refine (meets_isRetained event).mono ?_ fun e t h ↦ hE e h
  rintro retained t ⟨rfl, ⟨rfl, earlier, hgeneration, hearlier⟩ | ⟨rfl, hgeneration⟩⟩
  · exact .inl ⟨⟨wire, requested, received, event, earlier, rfl, hholds, hgeneration, hearlier⟩,
      rfl⟩
  rw [if_neg Bool.false_ne_true, Fallible.meets_read_bind, Fallible.meets_bind]
  refine meets_check (fun hfields ↦ ?_) (fun e ↦ hE e .refl) fun e ↦ hE e SameDrive.refl.reject
  simp only [List.forall_mem_cons, Event.equals_eq] at hfields
  obtain ⟨hevent, hscope, hsealed, hzero, -⟩ := hfields
  rw [Fallible.meets_bind]
  refine meets_ordered (fun hrequested hordered ↦ ?_) (fun e ↦ hE e .refl)
    fun e ↦ hE e SameDrive.refl.reject
  rw [Fallible.meets_bind]
  refine meets_check (fun hupdate ↦ ?_) (fun e ↦ hE e .refl) fun e ↦ hE e SameDrive.refl.reject
  simp only [List.forall_mem_cons] at hupdate
  obtain ⟨sequence, hsequence, hnumber⟩ := Event.positive_eq.mp hupdate.2.1
  rw [Fallible.meets_bind]
  refine meets_answer (fun stamp hstamp ↦ ?_) fun e ↦ hE e .refl
  rw [Fallible.meets_read_bind, Fallible.meets_bind]
  refine meets_check_ok [decide (0 < stamp), t.driveStamp == 0 || t.driveStamp == stamp]
    (fun hsame ↦ ?_) (hE _ SameDrive.refl.reject)
  simp only [List.forall_mem_cons, decide_eq_true_eq, Bool.or_eq_true, beq_iff_eq] at hsame
  obtain ⟨hpos, hseen, -⟩ := hsame
  obtain ⟨value, hvalue, hread⟩ := Event.bind_eq hstamp
  exact .inr ⟨hrequested, ⟨event, sequence, hholds, hsequence, hnumber⟩, stamp,
    ⟨wire, requested, received, event, rfl, hholds, hgeneration, hevent, hscope, hsealed, hzero,
      hordered, value, hvalue, Json.number?_of_getInt64 hread hpos⟩, hpos, hseen, rfl⟩

end Methods

/-! ### What a method accepts -/

section Accepts

variable {s : ClosureObservations} {i : Fin 2} {wire : Wire} {event : Event} {id : String}
  {requested received : Int64}

/-- A text holds one object. -/
theorem Wire.Holds.unique {event' : Event} (h : wire.Holds event) (h' : wire.Holds event') :
    event = event' :=
  Parsed.object.inj (h.2.symm.trans h'.2)

/-- A text that holds an object is parsed. -/
private theorem parse_of_holds (h : wire.Holds event) : parse wire s = (.ok event, s) := by
  unfold parse
  rw [Fallible.bind_of_eq (check_of_all (by simpa using h.1)), h.2]
  rfl

private theorem ordered_of_ordered (hpos : 0 < requested) (h : event.Ordered requested received) :
    ordered event requested received s = (.ok ⟨⟩, s) := by
  obtain ⟨steady, hsteady, hrequested, hreceived⟩ := h
  obtain ⟨stamp, rfl, hinteger, hmost, hread⟩ := hsteady.reads
    (Int.le_trans hreceived received.toInt_le)
  unfold ordered
  rw [Fallible.bind_of_eq (check_of_all (by simp [hinteger, hmost])), hread]
  refine (Fallible.bind_of_eq rfl).trans (check_of_all ?_)
  simp [hpos, Int64.le_iff_toInt_le, hrequested, hreceived]

/-- A parent that differs from no earlier one is bound. -/
theorem bindParent_of_same {parent : String} (huuid : uuid parent = true)
    (hsame : s.parent = "" ∨ s.parent = parent) :
    bindParent parent s = (.ok ⟨⟩, { s with parent }) := by
  unfold bindParent
  rw [Fallible.read_bind, Fallible.bind_of_eq (check_of_all (by simpa [huuid] using hsame))]
  rfl

private theorem observeAcknowledgement_of_has
    (hevent : event.Has "event" (.string (childAction i ++ "_worker_ack")))
    (hready : event.Has "worker_future_ready" (.boolean true))
    (hsealed : event.Has "endpoint_sealed" (.boolean true))
    (hid : event.Has "goal_uuid" (.string id)) (huuid : uuid id = true)
    (hsame : ∀ earlier, (s.children i).ack = some earlier → earlier = id) :
    observeAcknowledgement i event s = (.ok ⟨⟩,
      { s with
        children := Function.update s.children i { s.children i with ack := some id } }) := by
  have hread : (event.atKey "goal_uuid").bind Json.getString = .ok id := by
    rw [Event.atKey_eq.mpr hid]
    rfl
  have hfields := And.intro (Event.equals_eq.mpr hevent)
    (And.intro (Event.equals_eq.mpr hready) (Event.equals_eq.mpr hsealed))
  unfold observeAcknowledgement
  rw [Fallible.bind_of_eq (check_of_all (by simp [hfields])), hread]
  refine (Fallible.bind_of_eq rfl).trans ((Fallible.read_bind _ _ _).trans ?_)
  exact Fallible.bind_of_eq (check_of_all (by simpa [huuid] using none_or_some_eq.mpr hsame))

private theorem observeLink_of_has
    (hevent : event.Has "event" (.string "navigation_child_link"))
    (hscope : event.Has "scope_id" (.string s.scope.val))
    (haction : event.Has "action" (.string (childAction i)))
    (hid : event.Has "child_uuid" (.string id)) (huuid : uuid id = true)
    (hsame : ∀ earlier, (s.children i).link = some earlier → earlier = id) :
    observeLink i event s = (.ok ⟨⟩,
      { s with
        children := Function.update s.children i { s.children i with link := some id } }) := by
  have hread : (event.atKey "child_uuid").bind Json.getString = .ok id := by
    rw [Event.atKey_eq.mpr hid]
    rfl
  have hfields := And.intro (Event.equals_eq.mpr hevent)
    (And.intro (Event.equals_eq.mpr hscope) (Event.equals_eq.mpr haction))
  unfold observeLink
  rw [Fallible.read_bind, Fallible.bind_of_eq (check_of_all (by simp [hfields])), hread]
  refine (Fallible.bind_of_eq rfl).trans ((Fallible.read_bind _ _ _).trans ?_)
  exact Fallible.bind_of_eq (check_of_all (by simpa [huuid] using none_or_some_eq.mpr hsame))

/-- An acknowledgement that agrees with what the child keeps is accepted. -/
theorem observeChild_of_acknowledges
    (h : (ClosureCall.observeChild i true wire).Acknowledges i id)
    (hack : ∀ earlier, (s.children i).ack = some earlier → earlier = id)
    (hlink : ∀ child, (s.children i).link = some child → child = id) :
    observeChild i true wire s = (.ok ⟨⟩,
      { s with
        children := Function.update s.children i { s.children i with ack := some id } }) := by
  obtain ⟨_, event, heq, hholds, hevent, hready, hsealed, hid, huuid⟩ := h
  obtain rfl := (ClosureCall.observeChild.inj heq).2.2
  refine Fallible.onRaise_of_eq ?_
  rw [dif_pos i.isLt, Fallible.bind_of_eq (parse_of_holds hholds), if_pos rfl,
    Fallible.bind_of_eq (observeAcknowledgement_of_has hevent hready hsealed hid huuid hack)]
  refine (Fallible.read_bind _ _ _).trans (check_of_all ?_)
  have hagree := none_or_some_eq.mpr hlink
  simpa using hagree

/-- A link that agrees with what the child keeps is accepted. -/
theorem observeChild_of_links (h : (ClosureCall.observeChild i false wire).Links s.scope i id)
    (hlink : ∀ earlier, (s.children i).link = some earlier → earlier = id)
    (hack : ∀ worker, (s.children i).ack = some worker → worker = id) :
    observeChild i false wire s = (.ok ⟨⟩,
      { s with
        children := Function.update s.children i { s.children i with link := some id } }) := by
  obtain ⟨_, event, heq, hholds, hevent, hscope, haction, hid, huuid⟩ := h
  obtain rfl := (ClosureCall.observeChild.inj heq).2.2
  refine Fallible.onRaise_of_eq ?_
  rw [dif_pos i.isLt, Fallible.bind_of_eq (parse_of_holds hholds), if_neg Bool.false_ne_true,
    Fallible.bind_of_eq (observeLink_of_has hevent hscope haction hid huuid hlink)]
  refine (Fallible.read_bind _ _ _).trans (check_of_all ?_)
  cases hkept : (s.children i).ack with
  | none => simp [hkept]
  | some worker => simp [hkept, hack worker hkept]

/-- A closure of the tree is accepted when the workers are closed. -/
theorem observeBt_of_closes (hpos : 0 < requested)
    (h : (ClosureCall.observeBt wire requested received).ClosesTree s.scope)
    (hworkers : s.workersClosed = true) :
    observeBt wire requested received s = (.ok ⟨⟩, { s with btClosed := true }) := by
  obtain ⟨_, _, _, event, heq, hholds, hevent, hscope, hjoined, hsealed, hidle, hordered⟩ := h
  cases heq
  refine Fallible.onRaise_of_eq ?_
  rw [Fallible.bind_of_eq (parse_of_holds hholds), Fallible.read_bind, Fallible.read_bind,
    Fallible.bind_of_eq (check_of_all ?_), Fallible.bind_of_eq (ordered_of_ordered hpos hordered)]
  · rfl
  · simp only [List.forall_mem_cons, Event.equals_eq]
    exact ⟨congrArg _ hworkers, hevent, hscope, hjoined, hsealed, hidle, List.forall_mem_nil _⟩

private theorem isRetained_of_earlier {earlier : UInt64}
    (hgeneration : event.Has "generation" (.unsigned earlier)) (hlt : earlier < s.generation) :
    isRetained event s = (.ok true, s) := by
  have hnonzero : s.generation ≠ 0 := by
    intro hzero
    rw [hzero] at hlt
    exact UInt64.not_lt_zero hlt
  unfold isRetained
  rw [Fallible.read_bind, if_neg hnonzero, Event.atKey_eq.mpr hgeneration,
    Fallible.bind_of_eq (check_of_all (by simp [Except.map, Json.isNumberUnsigned]))]
  refine (Fallible.bind_of_eq rfl).trans ?_
  rw [if_pos hlt]
  rfl

private theorem isRetained_of_current
    (h : s.generation = 0 ∨ event.Has "generation" (.unsigned s.generation)) :
    isRetained event s = (.ok false, s) := by
  unfold isRetained
  rw [Fallible.read_bind]
  by_cases hzero : s.generation = 0
  · rw [if_pos hzero]
    rfl
  · rw [if_neg hzero, Event.atKey_eq.mpr (h.resolve_left hzero),
      Fallible.bind_of_eq (check_of_all (by simp [Except.map, Json.isNumberUnsigned]))]
    refine (Fallible.bind_of_eq rfl).trans ?_
    rw [if_neg (UInt64.lt_irrefl _), Fallible.bind_of_eq (check_of_all (by simp))]
    rfl

/-- An acknowledgement of an earlier generation is accepted and changes nothing. -/
theorem run_retained {d : ClosureCall} (h : d.IsRetained s.generation) :
    d.run s = (.ok ⟨⟩, s) := by
  obtain ⟨wire, requested, received, event, earlier, rfl, hholds, hgeneration, hlt⟩ := h
  refine Fallible.onRaise_of_eq ?_
  rw [Fallible.bind_of_eq (parse_of_holds hholds),
    Fallible.bind_of_eq (isRetained_of_earlier hgeneration hlt)]
  rfl

/-- An acknowledgement of the drive whose stamp differs from no earlier one is accepted. -/
theorem observeDrive_of_drives {stamp : Int64} (hrequested : 0 < requested)
    (hupdates : wire.Updates)
    (h : (ClosureCall.observeDrive wire requested received).Drives s.scope s.generation
      stamp.toInt) (hpos : 0 < stamp) (hseen : s.driveStamp = 0 ∨ s.driveStamp = stamp) :
    observeDrive wire requested received s = (.ok ⟨⟩, { s with driveStamp := stamp }) := by
  obtain ⟨_, _, _, event, heq, hholds, hgeneration, hevent, hscope, hsealed, hzero, hordered,
    hstamp⟩ := h
  cases heq
  obtain ⟨_, sequence, hholds', hsequence, hnumber⟩ := hupdates
  obtain rfl := hholds.unique hholds'
  obtain ⟨n, hn, hinteger, hmost, hread⟩ := hstamp.reads stamp.toInt_le
  obtain rfl := Int64.toInt_inj.mp hn
  refine Fallible.onRaise_of_eq ?_
  rw [Fallible.bind_of_eq (parse_of_holds hholds),
    Fallible.bind_of_eq (isRetained_of_current hgeneration), if_neg Bool.false_ne_true,
    Fallible.read_bind, Fallible.bind_of_eq (check_of_all ?_),
    Fallible.bind_of_eq (ordered_of_ordered hrequested hordered),
    Fallible.bind_of_eq (check_of_all ?_), hread]
  · refine (Fallible.bind_of_eq rfl).trans ((Fallible.read_bind _ _ _).trans ?_)
    exact Fallible.bind_of_eq (check_of_all (by simpa [hpos] using hseen))
  · simp only [List.forall_mem_cons]
    refine ⟨?_, Event.positive_eq.mpr ⟨sequence, hsequence, hnumber⟩, hinteger, hmost,
      List.forall_mem_nil _⟩
    rw [Event.atKey_eq.mpr hsequence]
    rfl
  · simp only [List.forall_mem_cons, Event.equals_eq]
    exact ⟨hevent, hscope, hsealed, hzero, List.forall_mem_nil _⟩

end Accepts

end RobotHarness.Observation
