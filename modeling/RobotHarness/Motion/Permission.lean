import Mathlib.Data.List.Range
import RobotHarness.Base.Mealy
import RobotHarness.Base.Watermark

/-!
# Motion permission

`MotionPermission` of `integrations/ros2/simulation/native_drive/motion_permission.hpp`: the
latched permission of one motion scope, renewed by stamps of its sender. All times are
unsigned 64-bit nanoseconds and every call observes the time first.
-/

namespace RobotHarness.Motion

/-- The identity of a permit. -/
structure MotionPermitIdentity where
  scopeId : String
  generation : UInt64
  operationId : UInt64
  deriving DecidableEq, Repr

/-- `same_identity`: equality of scope, generation and operation. -/
def sameIdentity (left right : MotionPermitIdentity) : Prop :=
  left.scopeId = right.scopeId ∧ left.generation = right.generation ∧
    left.operationId = right.operationId
  deriving Decidable

/-- Same identities are equal. -/
@[simp] theorem sameIdentity_iff {left right : MotionPermitIdentity} :
    sameIdentity left right ↔ left = right := by
  cases left
  cases right
  simp [sameIdentity]

/-- `MotionPermission::State`. -/
inductive PermissionState where
  | bootClosed | active | normalClosed | faultClosed
  deriving DecidableEq, Repr

/-- The state of a permit, with the times that bound it. -/
structure MotionPermission where
  lifetimeNs : UInt64
  identity : MotionPermitIdentity := ⟨"", 0, 0⟩
  state : PermissionState := .bootClosed
  openedNs : UInt64 := 0
  issuedNs : UInt64 := 0
  deadlineNs : UInt64 := 0
  observedNs : UInt64 := 0
  deriving DecidableEq, Repr

/-- `valid_identity`: a nonzero generation and operation, and 32 lower-case hexadecimal
digits that are not all zero. -/
def validIdentity (identity : MotionPermitIdentity) : Prop :=
  0 < identity.generation ∧ 0 < identity.operationId ∧ identity.scopeId.length = 32 ∧
    identity.scopeId ≠ String.ofList (List.replicate 32 '0') ∧
    ∀ c ∈ identity.scopeId.toList, ('0' ≤ c ∧ c ≤ '9') ∨ ('a' ≤ c ∧ c ≤ 'f')
  deriving Decidable

namespace MotionPermission

/-- The state that the constructor leaves. -/
def initial (lifetimeNs : UInt64) : MotionPermission := { lifetimeNs }

/-- `MotionPermission::MotionPermission`: the text of `std::invalid_argument` for a zero
lifetime. -/
def create (lifetimeNs : UInt64) : Except String MotionPermission :=
  if lifetimeNs = 0 then .error "zero permission lifetime" else .ok (initial lifetimeNs)

/-- `valid_stamp`: the stamp is not in the future, is still alive, and its end does not
wrap. -/
def validStamp (s : MotionPermission) (issuedNs nowNs : UInt64) : Prop :=
  0 < issuedNs ∧ issuedNs ≤ nowNs ∧ issuedNs ≤ 0xFFFFFFFFFFFFFFFF - s.lifetimeNs ∧
    nowNs < issuedNs + s.lifetimeNs
  deriving Decidable

/-- `observe_time`: a regressing clock or a reached deadline latches the fault. -/
def observeTime (s : MotionPermission) (nowNs : UInt64) : MotionPermission :=
  { s with
    state :=
      if nowNs < s.observedNs ∨ (s.state = .active ∧ s.deadlineNs ≤ nowNs) then .faultClosed
      else s.state
    observedNs := nowNs }

/-- The assignments of an opening. -/
def opened (s : MotionPermission) (identity : MotionPermitIdentity) (issuedNs : UInt64) :
    MotionPermission :=
  { s with
    identity := identity
    openedNs := issuedNs
    issuedNs := issuedNs
    deadlineNs := issuedNs + s.lifetimeNs
    state := .active }

/-- `MotionPermission::open`. A retry of the opening in force is accepted without effect. -/
def openFor (s : MotionPermission) (identity : MotionPermitIdentity)
    (expectedGeneration issuedNs nowNs : UInt64) (priorZeroApplied : Bool) :
    Bool × MotionPermission :=
  let s := s.observeTime nowNs
  if s.state = .faultClosed ∨ ¬ validIdentity identity ∨ ¬ s.validStamp issuedNs nowNs ∨
      expectedGeneration = 0xFFFFFFFFFFFFFFFF ∨
      identity.generation ≠ expectedGeneration + 1 then
    (false, s)
  else if s.state = .active then
    (decide (sameIdentity s.identity identity ∧ issuedNs = s.openedNs), s)
  else if priorZeroApplied = false ∨ s.identity.generation ≠ expectedGeneration ∨
      identity.scopeId = s.identity.scopeId ∨
      identity.operationId = s.identity.operationId then
    (false, s)
  else (true, s.opened identity issuedNs)

/-- The assignments of a renewal. -/
def renewed (s : MotionPermission) (issuedNs : UInt64) : MotionPermission :=
  { s with issuedNs := issuedNs, deadlineNs := issuedNs + s.lifetimeNs }

/-- `MotionPermission::renew`. -/
def renew (s : MotionPermission) (identity : MotionPermitIdentity) (issuedNs nowNs : UInt64) :
    Bool × MotionPermission :=
  let s := s.observeTime nowNs
  if s.state ≠ .active ∨ ¬ sameIdentity s.identity identity ∨ issuedNs ≤ s.issuedNs ∨
      ¬ s.validStamp issuedNs nowNs then
    (false, s)
  else (true, s.renewed issuedNs)

/-- `MotionPermission::can_consume`. -/
def canConsume (s : MotionPermission) (identity : MotionPermitIdentity) (nowNs : UInt64) :
    Bool × MotionPermission :=
  let s := s.observeTime nowNs
  (decide (s.state = .active ∧ sameIdentity s.identity identity), s)

/-- `MotionPermission::close`. -/
def close (s : MotionPermission) (identity : MotionPermitIdentity) (nowNs : UInt64) :
    Bool × MotionPermission :=
  let s := s.observeTime nowNs
  if ¬ sameIdentity s.identity identity ∨ s.identity.generation = 0 then (false, s)
  else if s.state = .active then (true, { s with state := .normalClosed })
  else (true, s)

end MotionPermission

/-- A call of the permission with its arguments. -/
inductive PermissionCall where
  | openFor (identity : MotionPermitIdentity) (expectedGeneration issuedNs nowNs : UInt64)
      (priorZeroApplied : Bool)
  | renew (identity : MotionPermitIdentity) (issuedNs nowNs : UInt64)
  | canConsume (identity : MotionPermitIdentity) (nowNs : UInt64)
  | close (identity : MotionPermitIdentity) (nowNs : UInt64)
  deriving DecidableEq, Repr

/-- The time that a call observes. -/
def PermissionCall.nowNs : PermissionCall → UInt64
  | .openFor _ _ _ now _ | .renew _ _ now | .canConsume _ now | .close _ now => now

/-- One call on a permission. -/
def MotionPermission.call (s : MotionPermission) : PermissionCall → Bool × MotionPermission
  | .openFor identity expected issued now prior => s.openFor identity expected issued now prior
  | .renew identity issued now => s.renew identity issued now
  | .canConsume identity now => s.canConsume identity now
  | .close identity now => s.close identity now

/-- The permission as a machine that answers calls. -/
def permission : Mealy MotionPermission PermissionCall Bool := ⟨MotionPermission.call⟩

/-- One call of a history, with its answer and the permission around it. -/
abbrev PermissionEvent := Mealy.Event MotionPermission PermissionCall Bool

/-! ### What one call can do -/

/-- The call observes no regression of the clock, and no deadline that has been reached. -/
def MotionPermission.Timely (s : MotionPermission) (nowNs : UInt64) : Prop :=
  s.state ≠ .faultClosed ∧ s.observedNs ≤ nowNs ∧ (s.state = .active → nowNs < s.deadlineNs)

/-- The call is answered positively by a permission that its identity holds already. -/
def MotionPermission.Confirms (s : MotionPermission) : PermissionCall → Prop
  | .openFor identity _ issued now _ =>
    s.state = .active ∧ s.identity = identity ∧ issued = s.openedNs ∧ issued ≤ now
  | .renew .. => False
  | .canConsume identity _ => s.state = .active ∧ s.identity = identity
  | .close identity _ => s.state ≠ .active ∧ s.identity = identity

/-- What a call does: it latches the fault or finds it latched, it only observes the time, or
it opens, renews or closes. -/
inductive PermissionStep (s : MotionPermission) :
    PermissionCall → Bool → MotionPermission → Prop where
  | faulted {c : PermissionCall} {a : Bool} (untimely : ¬ s.Timely c.nowNs)
      (refused : a = true → ∃ identity now, c = .close identity now) :
      PermissionStep s c a { s with state := .faultClosed, observedNs := c.nowNs }
  | observed {c : PermissionCall} {a : Bool} (timely : s.Timely c.nowNs)
      (confirmed : a = true → s.Confirms c) :
      PermissionStep s c a { s with observedNs := c.nowNs }
  | opened {identity : MotionPermitIdentity} {issued now : UInt64}
      (timely : s.Timely now) (stamp : s.validStamp issued now) (closed : s.state ≠ .active)
      (unexhausted : s.identity.generation ≠ 0xFFFFFFFFFFFFFFFF)
      (next : identity.generation = s.identity.generation + 1) :
      PermissionStep s (.openFor identity s.identity.generation issued now true) true
        ({ s with observedNs := now }.opened identity issued)
  | renewed {issued now : UInt64} (timely : s.Timely now) (stamp : s.validStamp issued now)
      (active : s.state = .active) (later : s.issuedNs < issued) :
      PermissionStep s (.renew s.identity issued now) true
        ({ s with observedNs := now }.renewed issued)
  | closed {now : UInt64} (timely : s.Timely now) (active : s.state = .active) :
      PermissionStep s (.close s.identity now) true
        { s with state := .normalClosed, observedNs := now }

namespace MotionPermission

private theorem observeTime_timely {s : MotionPermission} {now : UInt64} (h : s.Timely now) :
    s.observeTime now = { s with observedNs := now } := by
  have hkept : ¬ (now < s.observedNs ∨ (s.state = .active ∧ s.deadlineNs ≤ now)) := by
    rintro (hlt | ⟨hactive, hle⟩)
    · exact not_lt.mpr h.2.1 hlt
    · exact not_lt.mpr hle (h.2.2 hactive)
  simp only [observeTime, if_neg hkept]

private theorem observeTime_untimely {s : MotionPermission} {now : UInt64}
    (h : ¬ s.Timely now) :
    s.observeTime now = { s with state := .faultClosed, observedNs := now } := by
  unfold observeTime
  split
  · rfl
  · next hkept =>
    push Not at hkept
    by_cases hfault : s.state = .faultClosed
    · rw [hfault]
    · exact absurd ⟨hfault, hkept.1, hkept.2⟩ h

variable (s : MotionPermission)

private theorem openFor_step (identity : MotionPermitIdentity) (expected issued now : UInt64)
    (prior : Bool) :
    PermissionStep s (.openFor identity expected issued now prior)
      (s.openFor identity expected issued now prior).1
      (s.openFor identity expected issued now prior).2 := by
  by_cases htime : s.Timely now
  · unfold openFor
    simp only [observeTime_timely htime]
    split
    · exact .observed htime nofun
    next hguard =>
    push Not at hguard
    obtain ⟨-, -, stamp, hmax, hnext⟩ := hguard
    split
    · next hactive =>
      refine .observed htime fun hsame ↦ ?_
      obtain ⟨hidentity, hissued⟩ := of_decide_eq_true hsame
      exact ⟨hactive, sameIdentity_iff.mp hidentity, hissued, stamp.2.1⟩
    next hclosed =>
    split
    · exact .observed htime nofun
    next hfresh =>
    push Not at hfresh
    obtain ⟨hprior, rfl, -, -⟩ := hfresh
    obtain rfl : prior = true := Bool.eq_true_of_not_eq_false hprior
    exact .opened htime stamp hclosed hmax hnext
  · unfold openFor
    simp only [observeTime_untimely htime, true_or, if_true]
    exact .faulted htime nofun

private theorem renew_step (identity : MotionPermitIdentity) (issued now : UInt64) :
    PermissionStep s (.renew identity issued now) (s.renew identity issued now).1
      (s.renew identity issued now).2 := by
  by_cases htime : s.Timely now
  · unfold renew
    simp only [observeTime_timely htime]
    split
    · exact .observed htime nofun
    next hguard =>
    push Not at hguard
    obtain ⟨hactive, hsame, hlater, stamp⟩ := hguard
    obtain rfl := sameIdentity_iff.mp hsame
    exact .renewed htime stamp hactive hlater
  · unfold renew
    rw [observeTime_untimely htime]
    exact .faulted htime nofun

private theorem canConsume_step (identity : MotionPermitIdentity) (now : UInt64) :
    PermissionStep s (.canConsume identity now) (s.canConsume identity now).1
      (s.canConsume identity now).2 := by
  by_cases htime : s.Timely now
  · unfold canConsume
    simp only [observeTime_timely htime]
    refine .observed htime fun hsame ↦ ?_
    obtain ⟨hactive, hidentity⟩ := of_decide_eq_true hsame
    exact ⟨hactive, sameIdentity_iff.mp hidentity⟩
  · unfold canConsume
    rw [observeTime_untimely htime]
    exact .faulted htime nofun

private theorem close_step (identity : MotionPermitIdentity) (now : UInt64) :
    PermissionStep s (.close identity now) (s.close identity now).1
      (s.close identity now).2 := by
  by_cases htime : s.Timely now
  · unfold close
    simp only [observeTime_timely htime]
    split
    · exact .observed htime nofun
    next hguard =>
    push Not at hguard
    obtain rfl := sameIdentity_iff.mp hguard.1
    split
    · next hactive => exact .closed htime hactive
    · next hclosed => exact .observed htime fun _ ↦ ⟨hclosed, rfl⟩
  · unfold close
    simp only [observeTime_untimely htime]
    split
    · exact .faulted htime nofun
    · exact .faulted htime fun _ ↦ ⟨identity, now, rfl⟩

/-- Every call is one of the steps. -/
theorem call_step (c : PermissionCall) : PermissionStep s c (s.call c).1 (s.call c).2 := by
  cases c with
  | openFor identity expected issued now prior =>
    exact s.openFor_step identity expected issued now prior
  | renew identity issued now => exact s.renew_step identity issued now
  | canConsume identity now => exact s.canConsume_step identity now
  | close identity now => exact s.close_step identity now

end MotionPermission

end RobotHarness.Motion
