import RobotHarness.Motion.Drive

/-!
# What one handler can do

In owner-permission mode the drive and its permission are two state machines that every
handler keeps in step. The inversion of the handlers says what each can do to a drive that is
in step, and that it leaves it in step.
-/

namespace RobotHarness.Motion

variable {V : Type} {w : WheelArithmetic V}

/-- The drive is open exactly under a live permission of its own identity; a sealed drive has
zero targets, and an open one has not applied zero. -/
structure Drive.Synced (w : WheelArithmetic V) (d : Drive V) : Prop where
  owner : d.ownerPermissionMode = true
  generations : d.generationMode = true
  live : d.isSealed = false ↔ d.permission.state = .active
  identity : d.isSealed = false → d.permitIdentity = d.permission.identity
  still : d.isSealed = true → d.targetX = w.zero ∧ d.targetRot = w.zero
  unapplied : d.isSealed = false → d.applied = false

/-- The two drives have the same modes and wheels. -/
structure Drive.SameModes (d d' : Drive V) : Prop where
  owner : d'.ownerPermissionMode = d.ownerPermissionMode
  generations : d'.generationMode = d.generationMode
  wheels : d'.numWheelPairs = d.numWheelPairs

/-- The drive is sealed as before, under the same grant. -/
structure Drive.SameScope (d d' : Drive V) : Prop extends d.SameModes d' where
  isSealed : d'.isSealed = d.isSealed
  identity : d'.permitIdentity = d.permitIdentity
  live : d'.permission.state = .active ↔ d.permission.state = .active
  grant : d'.permission.identity = d.permission.identity

/-- A handler closed the drive: it is sealed under a permission that is not live. -/
structure Drive.Sealed (w : WheelArithmetic V) (d d' : Drive V) : Prop
    extends d.SameModes d' where
  was : d.isSealed = false
  isSealed : d'.isSealed = true
  state : d'.permission.state ≠ .active
  still : d'.targetX = w.zero ∧ d'.targetRot = w.zero
  identity : d'.permitIdentity = d.permitIdentity

/-- The writes of an update include a zero for every wheel, all of them accepted. -/
def ZeroesAll (d : Drive V) (writes : List (WheelWrite V)) : Prop :=
  ∀ wheel < 2 * d.numWheelPairs, .zero wheel true ∈ writes

/-- The write is a zero, or a motion that a reading before the deadline of the drive's grant
permitted. -/
def Permitted (d : Drive V) (write : WheelWrite V) : Prop :=
  (∃ wheel accepted, write = .zero wheel accepted) ∨
    (d.permission.state = .active ∧
      ∃ wheel velocity now, write = .motion wheel velocity (some now) ∧
        now < d.permission.deadlineNs)

/-- All writes of the answer are permitted. -/
def DriveAnswer.Permitted (d : Drive V) (a : DriveAnswer V) : Prop :=
  ∀ writes, a = .writes writes → ∀ write ∈ writes, Motion.Permitted d write

/-- The answer is that of an update in which every wheel accepted a zero. -/
def DriveAnswer.ZeroesAll (d : Drive V) (a : DriveAnswer V) : Prop :=
  ∃ writes, a = .writes writes ∧ Motion.ZeroesAll d writes

/-- What a handler does: it leaves the scope as it is, takes over a command, applies zero to a
sealed drive, closes the drive, or opens it. -/
inductive DriveStep (w : WheelArithmetic V) (d : Drive V) :
    DriveCall V → DriveAnswer V → Drive V → Prop where
  | kept {c : DriveCall V} {a : DriveAnswer V} {d' : Drive V} (same : d.SameScope d')
      (applied : d'.applied = d.applied)
      (targets : (d'.targetX = d.targetX ∧ d'.targetRot = d.targetRot) ∨
        (d'.targetX = w.zero ∧ d'.targetRot = w.zero))
      (permitted : a.Permitted d) : DriveStep w d c a d'
  | commanded {command : PermittedTwist V} {now : UInt64} {d' : Drive V}
      (same : d.SameScope d') (applied : d'.applied = d.applied) (opened : d.isSealed = false)
      (identity : command.identity = d.permitIdentity)
      (finite : w.isFinite command.linearX = true ∧ w.isFinite command.angularZ = true)
      (targets : d'.targetX = command.linearX ∧ d'.targetRot = command.angularZ) :
      DriveStep w d (.permittedCommand command now) (.commanded true) d'
  | zeroed {input : UpdateInput V} {a : DriveAnswer V} {d' : Drive V} (same : d.SameScope d')
      (isSealed : d.isSealed = true)
      (targets : d'.targetX = d.targetX ∧ d'.targetRot = d.targetRot)
      (applied : d'.applied = true → d.applied = true ∨ a.ZeroesAll d)
      (permitted : a.Permitted d) : DriveStep w d (.onUpdate input) a d'
  | closed {c : DriveCall V} {a : DriveAnswer V} {d' : Drive V} (done : d.Sealed w d')
      (applied : d'.applied = true → a.ZeroesAll d) (permitted : a.Permitted d) :
      DriveStep w d c a d'
  | opened {request : OpenPermitRequest} {now generation deadlineNs : UInt64} {d' : Drive V}
      (modes : d.SameModes d') (isSealed : d.isSealed = true) (zero : d.applied = true)
      (identity : d'.permitIdentity = request.identity) (isOpen : d'.isSealed = false)
      (state : d'.permission.state = .active) (grant : d'.permission.identity = request.identity)
      (applied : d'.applied = false)
      (still : d'.targetX = w.zero ∧ d'.targetRot = w.zero) :
      DriveStep w d (.openPermit request now) (.opened true generation deadlineNs) d'

/-- An answer without writes is permitted. -/
theorem permitted_of_ne {d : Drive V} {a : DriveAnswer V}
    (h : ∀ writes, a ≠ .writes writes) : a.Permitted d :=
  fun writes hwrites ↦ absurd hwrites (h writes)

/-- A handler leaves a drive in step. -/
theorem DriveStep.synced {d d' : Drive V} {c : DriveCall V} {a : DriveAnswer V}
    (step : DriveStep w d c a d') (h : d.Synced w) : d'.Synced w := by
  cases step with
  | kept same applied targets =>
    refine ⟨same.owner.trans h.owner, same.generations.trans h.generations, ?_, ?_, ?_, ?_⟩
    · rw [same.isSealed, same.live]
      exact h.live
    · rw [same.isSealed, same.identity, same.grant]
      exact h.identity
    · intro hsealed
      rcases targets with ⟨hx, hrot⟩ | hzero
      · rw [hx, hrot]
        exact h.still (same.isSealed ▸ hsealed)
      · exact hzero
    · rw [same.isSealed, applied]
      exact h.unapplied
  | commanded same applied opened =>
    refine ⟨same.owner.trans h.owner, same.generations.trans h.generations, ?_, ?_, ?_, ?_⟩
    · rw [same.isSealed, same.live]
      exact h.live
    · rw [same.isSealed, same.identity, same.grant]
      exact h.identity
    · rw [same.isSealed, opened]
      nofun
    · rw [same.isSealed, applied]
      exact h.unapplied
  | zeroed same isSealed targets =>
    refine ⟨same.owner.trans h.owner, same.generations.trans h.generations, ?_, ?_, ?_, ?_⟩
    · rw [same.isSealed, same.live]
      exact h.live
    · rw [same.isSealed, same.identity, same.grant]
      exact h.identity
    · rw [targets.1, targets.2]
      exact fun _ ↦ h.still isSealed
    · rw [same.isSealed, isSealed]
      nofun
  | closed done =>
    refine ⟨done.owner.trans h.owner, done.generations.trans h.generations, ?_, ?_,
      fun _ ↦ done.still, ?_⟩
    · rw [done.isSealed]
      exact ⟨nofun, fun hactive ↦ absurd hactive done.state⟩
    · rw [done.isSealed]
      nofun
    · rw [done.isSealed]
      nofun
  | opened modes _ _ identity isOpen state grant applied still =>
    exact ⟨modes.owner.trans h.owner, modes.generations.trans h.generations,
      ⟨fun _ ↦ state, fun _ ↦ isOpen⟩, fun _ ↦ identity.trans grant.symm, fun _ ↦ still,
      fun _ ↦ applied⟩

/-- Whatever a handler writes is permitted. -/
theorem DriveStep.permitted {d d' : Drive V} {c : DriveCall V} {a : DriveAnswer V}
    (step : DriveStep w d c a d') : a.Permitted d := by
  cases step with
  | kept _ _ _ permitted => exact permitted
  | zeroed _ _ _ _ permitted => exact permitted
  | closed _ _ permitted => exact permitted
  | commanded => exact permitted_of_ne nofun
  | opened => exact permitted_of_ne nofun

/-- Only a sealed drive that has applied zero opens or changes its generation. -/
theorem DriveStep.opens {d d' : Drive V} {c : DriveCall V} {a : DriveAnswer V}
    (step : DriveStep w d c a d')
    (h : d'.generation ≠ d.generation ∨ (d.isSealed = true ∧ d'.isSealed = false)) :
    d.isSealed = true ∧ d.applied = true := by
  have hscope : ∀ {e : Drive V}, e.permitIdentity = d.permitIdentity →
      (e.isSealed = d.isSealed ∨ e.isSealed = true) →
      ¬ (e.generation ≠ d.generation ∨ (d.isSealed = true ∧ e.isSealed = false)) := by
    rintro e hidentity hkept (hgeneration | ⟨hsealed, hopen⟩)
    · exact hgeneration (congrArg MotionPermitIdentity.generation hidentity)
    · rw [hsealed, hopen] at hkept
      simp at hkept
  cases step with
  | kept same => exact absurd h (hscope same.identity (.inl same.isSealed))
  | commanded same => exact absurd h (hscope same.identity (.inl same.isSealed))
  | zeroed same => exact absurd h (hscope same.identity (.inl same.isSealed))
  | closed done => exact absurd h (hscope done.identity (.inr done.isSealed))
  | opened _ isSealed zero => exact ⟨isSealed, zero⟩

/-- What `Record` logs is no part of a step. -/
theorem DriveStep.record {d d' : Drive V} {c : DriveCall V} {a : DriveAnswer V}
    (step : DriveStep w d c a d') (event : String) (generation : Option UInt64 := none) :
    DriveStep w d c a (d'.record event generation) := by
  cases step with
  | kept same applied targets permitted =>
    exact .kept { same with } applied targets permitted
  | commanded same applied opened identity finite targets =>
    exact .commanded { same with } applied opened identity finite targets
  | zeroed same isSealed targets applied permitted =>
    exact .zeroed { same with } isSealed targets applied permitted
  | closed done applied permitted => exact .closed { done with } applied permitted
  | opened modes isSealed zero identity isOpen state grant applied still =>
    exact .opened { modes with } isSealed zero identity isOpen state grant applied still

namespace Drive

variable {d : Drive V}

/-! ### Calls of the permission -/

/-- A permission that is faulted when a drive in step is synchronized seals it. -/
private theorem sync_faulted (h : d.Synced w) {p : MotionPermission}
    (fault : p.state = .faultClosed) (grant : p.identity = d.permission.identity) (now : UInt64)
    {c : DriveCall V} {a : DriveAnswer V} (permitted : a.Permitted d) :
    DriveStep w d c a ({ d with permission := p }.syncPermission w now) := by
  have hstate : p.state ≠ .active := by rw [fault]; decide
  unfold syncPermission
  split
  · next hopen =>
    exact .closed ⟨⟨rfl, rfl, rfl⟩, hopen.2, rfl, hstate, ⟨rfl, rfl⟩, rfl⟩ nofun
      permitted
  · next hsealed =>
    have hclosed : d.isSealed ≠ false := fun hopen ↦ hsealed ⟨fault, hopen⟩
    have hidle : d.permission.state ≠ .active := fun hactive ↦ hclosed (h.live.mpr hactive)
    exact .kept ⟨⟨rfl, rfl, rfl⟩, rfl, rfl, iff_of_false hstate hidle, grant⟩ rfl
      (.inl ⟨rfl, rfl⟩) permitted

/-- A drive whose permission is faulted is sealed once it is synchronized. -/
private theorem sync_faulted_sealed {p : MotionPermission} (fault : p.state = .faultClosed)
    (now : UInt64) : ({ d with permission := p }.syncPermission w now).isSealed = true := by
  unfold syncPermission
  split
  · rfl
  · next hsealed => exact Bool.eq_true_of_not_eq_false fun hopen ↦ hsealed ⟨fault, hopen⟩

/-- Only a faulted permission makes the synchronization seal. -/
private theorem sync_unfaulted {now : UInt64} (h : d.permission.state ≠ .faultClosed) :
    d.syncPermission w now = d :=
  if_neg fun hfault ↦ h hfault.1

/-- A permission that has only observed the time leaves the scope as it is. -/
private theorem observed_step {p : MotionPermission} (state : p.state = d.permission.state)
    (grant : p.identity = d.permission.identity) {c : DriveCall V} {a : DriveAnswer V}
    (permitted : a.Permitted d) : DriveStep w d c a { d with permission := p } :=
  .kept ⟨⟨rfl, rfl, rfl⟩, rfl, rfl, iff_of_eq (congrArg (· = _) state), grant⟩ rfl
    (.inl ⟨rfl, rfl⟩) permitted

/-- `openPermit` is a step of the drive. -/
theorem openPermit_step (h : d.Synced w) (request : OpenPermitRequest) (now : UInt64) :
    DriveStep w d (.openPermit request now)
      (.opened (d.openPermit w request now).1.1 (d.openPermit w request now).1.2.1
        (d.openPermit w request now).1.2.2)
      (d.openPermit w request now).2 := by
  have hstep : PermissionStep d.permission
      (.openFor request.identity request.expectedGeneration request.issuedNs now d.applied)
      (d.permission.openFor request.identity request.expectedGeneration request.issuedNs now
        d.applied).1
      (d.permission.openFor request.identity request.expectedGeneration request.issuedNs now
        d.applied).2 := d.permission.call_step _
  unfold openPermit
  dsimp only
  generalize d.permission.openFor request.identity request.expectedGeneration
    request.issuedNs now d.applied = r at hstep ⊢
  obtain ⟨accepted, p⟩ := r
  dsimp only at hstep ⊢
  apply DriveStep.record
  have hpermitted : ∀ generation deadline,
      (DriveAnswer.opened accepted generation deadline : DriveAnswer V).Permitted d :=
    fun _ _ ↦ permitted_of_ne nofun
  generalize hc : PermissionCall.openFor request.identity request.expectedGeneration
    request.issuedNs now d.applied = c at hstep
  cases hstep with
  | faulted _ refused =>
    have hrefused : ¬ (accepted = true ∧ (!d.isSealed) = false) := by
      rintro ⟨ha, -⟩
      obtain ⟨_, _, hclose⟩ := refused ha
      rw [hclose] at hc
      cases hc
    simp only [if_neg hrefused]
    apply sync_faulted h _ _ now (hpermitted _ _) <;> rfl
  | observed timely confirmed =>
    have hretry : ¬ (accepted = true ∧ (!d.isSealed) = false) := by
      rintro ⟨ha, hsealed⟩
      have hactive := confirmed ha
      subst hc
      have hopen := h.live.mpr hactive.1
      simp [hopen] at hsealed
    simp only [if_neg hretry]
    rw [sync_unfaulted (by exact timely.1)]
    apply observed_step _ _ (hpermitted _ _) <;> rfl
  | @opened identity issued t _ _ closed =>
    obtain ⟨rfl, -, -, rfl, happlied⟩ := PermissionCall.openFor.injEq .. |>.mp hc
    have hsealed : d.isSealed = true := by
      cases hs : d.isSealed with
      | true => rfl
      | false => exact absurd (h.live.mp hs) closed
    have hfresh : (!d.isSealed) = false := by rw [hsealed]; rfl
    rw [sync_unfaulted (by exact fun hfault ↦ by cases hfault)]
    simp only [hfresh, and_self, if_true]
    exact .opened ⟨rfl, rfl, rfl⟩ hsealed happlied rfl rfl rfl rfl rfl ⟨rfl, rfl⟩
  | renewed => cases hc
  | closed => cases hc

/-- `renewPermit` is a step of the drive. -/
theorem renewPermit_step (h : d.Synced w) (request : RenewPermitRequest)
    (now : UInt64) :
    DriveStep w d (.renewPermit request now)
      (.renewed (d.renewPermit w request now).1.1 (d.renewPermit w request now).1.2)
      (d.renewPermit w request now).2 := by
  have hstep : PermissionStep d.permission
      (.renew ⟨request.scopeId, request.generation, request.operationId⟩ request.issuedNs now)
      (d.permission.renew ⟨request.scopeId, request.generation, request.operationId⟩
        request.issuedNs now).1
      (d.permission.renew ⟨request.scopeId, request.generation, request.operationId⟩
        request.issuedNs now).2 := d.permission.call_step _
  unfold renewPermit
  dsimp only
  generalize d.permission.renew ⟨request.scopeId, request.generation, request.operationId⟩
    request.issuedNs now = r at hstep ⊢
  obtain ⟨accepted, p⟩ := r
  dsimp only at hstep ⊢
  apply DriveStep.record
  have hpermitted : ∀ deadline,
      (DriveAnswer.renewed accepted deadline : DriveAnswer V).Permitted d :=
    fun _ ↦ permitted_of_ne nofun
  generalize hc : PermissionCall.renew ⟨request.scopeId, request.generation, request.operationId⟩
    request.issuedNs now = c at hstep
  cases hstep with
  | faulted => apply sync_faulted h _ _ now (hpermitted _) <;> rfl
  | observed timely =>
    rw [sync_unfaulted (by exact timely.1)]
    apply observed_step _ _ (hpermitted _) <;> rfl
  | opened => cases hc
  | renewed timely =>
    rw [sync_unfaulted (by exact timely.1)]
    apply observed_step _ _ (hpermitted _) <;> rfl
  | closed => cases hc

/-- `closePermit` is a step of the drive. -/
theorem closePermit_step (h : d.Synced w) (request : ClosePermitRequest)
    (now : UInt64) :
    DriveStep w d (.closePermit request now) (.closed (d.closePermit w request now).1)
      (d.closePermit w request now).2 := by
  have hstep : PermissionStep d.permission
      (.close ⟨request.scopeId, request.generation, request.operationId⟩ now)
      (d.permission.close ⟨request.scopeId, request.generation, request.operationId⟩ now).1
      (d.permission.close ⟨request.scopeId, request.generation, request.operationId⟩ now).2 :=
    d.permission.call_step _
  unfold closePermit
  dsimp only
  generalize d.permission.close ⟨request.scopeId, request.generation, request.operationId⟩
    now = r at hstep ⊢
  obtain ⟨accepted, p⟩ := r
  dsimp only at hstep ⊢
  have hpermitted : (DriveAnswer.closed accepted : DriveAnswer V).Permitted d :=
    permitted_of_ne nofun
  generalize hc : PermissionCall.close ⟨request.scopeId, request.generation, request.operationId⟩
    now = c at hstep
  cases hstep with
  | faulted =>
    rw [if_neg (by rw [sync_faulted_sealed rfl]; simp)]
    apply sync_faulted h _ _ now hpermitted <;> rfl
  | observed timely confirmed =>
    have hkept : ¬ (accepted = true ∧ d.isSealed = false) := by
      rintro ⟨ha, hopen⟩
      have hclosed := confirmed ha
      subst hc
      exact hclosed.1 (h.live.mp hopen)
    rw [sync_unfaulted (by exact timely.1), if_neg hkept]
    apply observed_step _ _ hpermitted <;> rfl
  | opened => cases hc
  | renewed => cases hc
  | closed _ active =>
    have hopen := h.live.mpr active
    rw [sync_unfaulted (by exact fun hfault ↦ by cases hfault), if_pos ⟨rfl, hopen⟩]
    exact .closed ⟨⟨rfl, rfl, rfl⟩, hopen, rfl, nofun, ⟨rfl, rfl⟩, rfl⟩ nofun hpermitted

/-- `permittedCommand` is a step of the drive. -/
theorem permittedCommand_step (h : d.Synced w) (command : PermittedTwist V)
    (now : UInt64) :
    DriveStep w d (.permittedCommand command now)
      (.commanded (d.permittedCommand w command now).1)
      (d.permittedCommand w command now).2 := by
  have hstep : PermissionStep d.permission (.canConsume command.identity now)
      (d.permission.canConsume command.identity now).1
      (d.permission.canConsume command.identity now).2 := d.permission.call_step _
  unfold permittedCommand
  dsimp only
  generalize d.permission.canConsume command.identity now = r at hstep ⊢
  obtain ⟨allowed, p⟩ := r
  dsimp only at hstep ⊢
  have hpermitted : ∀ taken, (DriveAnswer.commanded taken : DriveAnswer V).Permitted d :=
    fun _ ↦ permitted_of_ne nofun
  generalize hc : PermissionCall.canConsume command.identity now = c at hstep
  cases hstep with
  | faulted =>
    rw [if_pos (.inr (.inl (sync_faulted_sealed rfl now)))]
    apply DriveStep.record
    apply sync_faulted h _ _ now (hpermitted _) <;> rfl
  | observed timely confirmed =>
    rw [sync_unfaulted (by exact timely.1)]
    split
    · apply DriveStep.record
      apply observed_step _ _ (hpermitted _) <;> rfl
    · next htaken =>
      push Not at htaken
      obtain ⟨hallowed, hsealed, hlinear, hangular⟩ := htaken
      have hactive := confirmed (Bool.eq_true_of_not_eq_false hallowed)
      subst hc
      have hopen := h.live.mpr hactive.1
      exact .commanded ⟨⟨rfl, rfl, rfl⟩, rfl, rfl, Iff.rfl, rfl⟩ rfl hopen
        (hactive.2.symm.trans (h.identity hopen).symm)
        ⟨Bool.eq_true_of_not_eq_false hlinear, Bool.eq_true_of_not_eq_false hangular⟩ ⟨rfl, rfl⟩
  | opened => cases hc
  | renewed => cases hc
  | closed => cases hc

end Drive

end RobotHarness.Motion
