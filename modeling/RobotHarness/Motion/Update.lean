import RobotHarness.Motion.Handlers

/-!
# What an update can do

An update observes the permission, and again before every write. As long as each reading is in
time the update goes on and only writes; the first one that is not closes the drive, writes
zeros and ends the update.
-/

namespace RobotHarness.Motion

variable {V : Type} {w : WheelArithmetic V}

/-- An update that goes on has changed nothing of the open scope and its grant. -/
structure Drive.Running (d d' : Drive V) : Prop extends d.SameScope d' where
  isOpen : d.isSealed = false
  applied : d'.applied = d.applied
  targets : d'.targetX = d.targetX ∧ d'.targetRot = d.targetRot
  deadlineNs : d'.permission.deadlineNs = d.permission.deadlineNs

/-- How a part of an update of an open drive ends: it goes on, or it has closed the drive. -/
inductive UpdateOutcome (w : WheelArithmetic V) (d : Drive V) :
    Bool → Drive V → List (WheelWrite V) → Prop where
  | running {d' : Drive V} {writes : List (WheelWrite V)} (same : d.Running d')
      (permitted : ∀ write ∈ writes, Permitted d write) : UpdateOutcome w d true d' writes
  | halted {d' : Drive V} {writes : List (WheelWrite V)} (done : d.Sealed w d')
      (applied : d'.applied = true → ZeroesAll d writes)
      (permitted : ∀ write ∈ writes, Permitted d write) : UpdateOutcome w d false d' writes

namespace Drive

variable {d e : Drive V}

private theorem SameModes.trans {d e f : Drive V} (h : d.SameModes e) (h' : e.SameModes f) :
    d.SameModes f :=
  ⟨h'.owner.trans h.owner, h'.generations.trans h.generations, h'.wheels.trans h.wheels⟩

private theorem SameScope.trans {d e f : Drive V} (h : d.SameScope e) (h' : e.SameScope f) :
    d.SameScope f where
  toSameModes := h.toSameModes.trans h'.toSameModes
  isSealed := h'.isSealed.trans h.isSealed
  identity := h'.identity.trans h.identity
  live := h'.live.trans h.live
  grant := h'.grant.trans h.grant

namespace Running

private theorem trans {d e f : Drive V} (h : d.Running e) (h' : e.Running f) : d.Running f where
  toSameScope := h.toSameScope.trans h'.toSameScope
  isOpen := h.isOpen
  applied := h'.applied.trans h.applied
  targets := ⟨h'.targets.1.trans h.targets.1, h'.targets.2.trans h.targets.2⟩
  deadlineNs := h'.deadlineNs.trans h.deadlineNs

/-- The drive is still open. -/
theorem still_open (h : d.Running e) : e.isSealed = false := h.isSealed.trans h.isOpen

/-- The drive is still in step with its permission. -/
theorem synced (h : d.Running e) (hd : d.Synced w) : e.Synced w :=
  (DriveStep.kept (c := .reset) (a := .done) h.toSameScope h.applied (.inl h.targets)
    (permitted_of_ne nofun)).synced hd

/-- What the drive that goes on permits, the drive before permitted. -/
theorem permitted (h : d.Running e) {write : WheelWrite V} (hwrite : Permitted e write) :
    Permitted d write := by
  rcases hwrite with hzero | ⟨hstate, wheel, velocity, now, hmotion, hlt⟩
  · exact .inl hzero
  · exact .inr ⟨h.live.mp hstate, wheel, velocity, now, hmotion, h.deadlineNs ▸ hlt⟩

/-- The parts of an update follow one another. -/
theorem outcome (h : d.Running e) {goes : Bool} {d' : Drive V}
    {writes more : List (WheelWrite V)} (hwrites : ∀ write ∈ writes, Permitted d write)
    (hmore : UpdateOutcome w e goes d' more) : UpdateOutcome w d goes d' (writes ++ more) := by
  have happend : (∀ write ∈ more, Permitted e write) →
      ∀ write ∈ writes ++ more, Permitted d write := by
    intro hpermitted write hwrite
    rcases List.mem_append.mp hwrite with hwrite | hwrite
    · exact hwrites write hwrite
    · exact h.permitted (hpermitted write hwrite)
  cases hmore with
  | running same permitted => exact .running (h.trans same) (happend permitted)
  | halted done applied permitted =>
    refine .halted ⟨h.toSameModes.trans done.toSameModes, h.isOpen, done.isSealed, done.state,
      done.still, done.identity.trans h.identity⟩ ?_ (happend permitted)
    intro hzero wheel hwheel
    exact List.mem_append_right writes (applied hzero wheel (h.wheels ▸ hwheel))

end Running

/-! ### The zero writes -/

variable (w) in
/-- Applying zero changes nothing of the scope. -/
private theorem applyZero_frame (d : Drive V) (input : UpdateInput V) :
    d.SameScope (d.applyZero w input).1 ∧
      (d.applyZero w input).1.targetX = d.targetX ∧
      (d.applyZero w input).1.targetRot = d.targetRot := by
  unfold applyZero
  dsimp only
  split
  · exact ⟨⟨⟨rfl, rfl, rfl⟩, rfl, rfl, Iff.rfl, rfl⟩, rfl, rfl⟩
  · exact ⟨⟨⟨rfl, rfl, rfl⟩, rfl, rfl, Iff.rfl, rfl⟩, rfl, rfl⟩

/-- Zero becomes applied only when every wheel accepts it. -/
private theorem applyZero_applied {input : UpdateInput V}
    (h : (d.applyZero w input).1.applied = true) :
    d.applied = true ∨ ZeroesAll d (d.applyZero w input).2 := by
  unfold applyZero at h
  dsimp only at h
  split at h
  · next haccepted =>
    refine .inr fun wheel hwheel ↦ ?_
    have hrange := List.mem_range.mpr hwheel
    have hwrite := List.all_eq_true.mp haccepted.1 wheel hrange
    exact List.mem_map.mpr ⟨wheel, hrange, by rw [hwrite]⟩
  · exact .inl h

/-- Zero writes need no permission. -/
private theorem applyZero_permitted (input : UpdateInput V) :
    ∀ write ∈ (e.applyZero w input).2, Permitted d write := by
  intro write hwrite
  obtain ⟨wheel, -, rfl⟩ := List.mem_map.mp hwrite
  exact .inl ⟨wheel, _, rfl⟩

/-- An update that closes the drive goes on to write zeros. -/
private theorem Sealed.applyZero (done : d.Sealed w e) (fresh : e.applied = false)
    (input : UpdateInput V) :
    UpdateOutcome w d false (e.applyZero w input).1 (e.applyZero w input).2 := by
  obtain ⟨same, hx, hrot⟩ := e.applyZero_frame w input
  refine .halted ⟨done.toSameModes.trans same.toSameModes, done.was,
    same.isSealed.trans done.isSealed, fun hactive ↦ done.state (same.live.mp hactive),
    ⟨hx.trans done.still.1, hrot.trans done.still.2⟩, same.identity.trans done.identity⟩ ?_
    (applyZero_permitted input)
  intro hzero
  rcases applyZero_applied hzero with happlied | hall
  · rw [fresh] at happlied
    cases happlied
  · exact fun wheel hwheel ↦ hall wheel (done.wheels ▸ hwheel)

/-! ### The observations -/

/-- An open drive that consumes its permission is left as it is, or is sealed. -/
private theorem consume_open (h : d.Synced w) (hopen : d.isSealed = false) (now : UInt64) :
    let result := d.permission.canConsume d.permitIdentity now
    (now < d.permission.deadlineNs ∧ result.1 = true ∧
        d.Running { d with permission := result.2 } ∧ result.2.state ≠ .faultClosed) ∨
      (result.1 = false ∧ result.2.state = .faultClosed ∧
        d.Sealed w ({ d with permission := result.2 }.syncPermission w now) ∧
        ({ d with permission := result.2 }.syncPermission w now).applied = false) := by
  have hactive := h.live.mp hopen
  have hsame := (h.identity hopen).symm
  dsimp only
  unfold MotionPermission.canConsume MotionPermission.observeTime
  split
  · refine .inr ⟨by simp, rfl, ?_⟩
    unfold syncPermission
    rw [if_pos ⟨rfl, hopen⟩]
    exact ⟨⟨⟨rfl, rfl, rfl⟩, hopen, rfl, nofun, ⟨rfl, rfl⟩, rfl⟩, rfl⟩
  · next htimely =>
    push Not at htimely
    refine .inl ⟨htimely.2 hactive, by simp [hactive, hsame], ?_, ?_⟩
    · exact ⟨⟨⟨rfl, rfl, rfl⟩, rfl, rfl, Iff.rfl, rfl⟩, hopen, rfl, ⟨rfl, rfl⟩, rfl⟩
    · rw [hactive]
      nofun

private theorem writePermitted_outcome (h : d.Synced w) (hopen : d.isSealed = false)
    (input : UpdateInput V) (reading wheel : ℕ) (velocity : V) :
    let result := d.writePermitted w input reading wheel velocity
    UpdateOutcome w d result.1 result.2.1 result.2.2 := by
  have hconsume := consume_open h hopen (input.clock reading)
  dsimp only at hconsume ⊢
  unfold writePermitted
  rw [if_pos h.owner]
  dsimp only
  generalize d.permission.canConsume d.permitIdentity (input.clock reading) = result
    at hconsume ⊢
  obtain ⟨permitted, p⟩ := result
  dsimp only at hconsume ⊢
  rcases hconsume with ⟨hlt, rfl, same, -⟩ | ⟨rfl, -, done, fresh⟩
  · refine .running same fun write hwrite ↦ .inr ⟨h.live.mp hopen, wheel, velocity, _, ?_, hlt⟩
    exact List.mem_singleton.mp hwrite
  · exact done.applyZero fresh input

private theorem instructPair_running (hopen : d.isSealed = false) (input : UpdateInput V)
    (pair : ℕ) : d.Running (d.instructPair w input pair).2 := by
  unfold instructPair
  dsimp only
  split
  · exact ⟨⟨⟨rfl, rfl, rfl⟩, rfl, rfl, Iff.rfl, rfl⟩, hopen, rfl, ⟨rfl, rfl⟩, rfl⟩
  · exact ⟨⟨⟨rfl, rfl, rfl⟩, rfl, rfl, Iff.rfl, rfl⟩, hopen, rfl, ⟨rfl, rfl⟩, rfl⟩

private theorem writePair_outcome (h : d.Synced w) (hopen : d.isSealed = false)
    (input : UpdateInput V) (pair : ℕ) :
    UpdateOutcome w d (d.writePair w input pair).1 (d.writePair w input pair).2.1
      (d.writePair w input pair).2.2 := by
  have hinstruct := instructPair_running (w := w) hopen input pair
  unfold writePair
  dsimp only
  generalize d.instructPair w input pair = instructed at hinstruct ⊢
  obtain ⟨speed, e⟩ := instructed
  dsimp only at hinstruct ⊢
  have hleft := writePermitted_outcome (hinstruct.synced h) hinstruct.still_open input
    (2 * pair + 1) (2 * pair + 1) (w.native (2 * pair + 1) (speed (2 * pair + 1)))
  dsimp only at hleft
  generalize e.writePermitted w input (2 * pair + 1) (2 * pair + 1)
    (w.native (2 * pair + 1) (speed (2 * pair + 1))) = left at hleft ⊢
  obtain ⟨goes, f, writes⟩ := left
  dsimp only at hleft ⊢
  have hfirst := hinstruct.outcome (List.forall_mem_nil _) hleft
  rw [List.nil_append] at hfirst
  cases hfirst with
  | halted done applied permitted => exact .halted done applied permitted
  | running same permitted =>
    exact same.outcome permitted (writePermitted_outcome (same.synced h) same.still_open input
      (2 * pair + 2) (2 * pair) _)

/-- The loop over the pairs of wheels, by induction on the pairs that are left. -/
private theorem writePairs_outcome (input : UpdateInput V) (pairs : ℕ) :
    ∀ {d : Drive V} (pair : ℕ), d.Synced w → d.isSealed = false →
      ∃ goes, UpdateOutcome w d goes (writePairs w input pairs pair d).1
        (writePairs w input pairs pair d).2 := by
  induction pairs with
  | zero =>
    intro d pair h hopen
    exact ⟨true, .running ⟨⟨⟨rfl, rfl, rfl⟩, rfl, rfl, Iff.rfl, rfl⟩, hopen, rfl, ⟨rfl, rfl⟩, rfl⟩
      nofun⟩
  | succ pairs ih =>
    intro d pair h hopen
    have hpair := writePair_outcome h hopen input pair
    unfold writePairs
    generalize d.writePair w input pair = result at hpair ⊢
    obtain ⟨goes, e, writes⟩ := result
    dsimp only at hpair ⊢
    cases hpair with
    | halted done applied permitted => exact ⟨false, .halted done applied permitted⟩
    | running same permitted =>
      obtain ⟨goes, hrest⟩ := ih (pair + 1) (same.synced h) same.still_open
      exact ⟨goes, same.outcome permitted hrest⟩

/-! ### All handlers -/

/-- The drive with which an update starts. -/
private theorem counted_synced (h : d.Synced w) (n : UInt64) :
    { d with updateSequence := n }.Synced w :=
  ⟨h.owner, h.generations, h.live, h.identity, h.still, h.unapplied⟩

/-- Synchronizing a sealed drive changes nothing. -/
private theorem sync_sealed {now : UInt64} (h : d.isSealed = true) :
    d.syncPermission w now = d := by
  refine if_neg fun hopen ↦ ?_
  rw [h] at hopen
  cases hopen.2

/-- A sealed drive stays as it is when it observes its permission. -/
private theorem observe_sealed (h : d.Synced w) (hsealed : d.isSealed = true) (now n : UInt64) :
    let e := { d with updateSequence := n }.observePermission w now
    d.SameScope e ∧ e.applied = d.applied ∧ e.targetX = d.targetX ∧ e.targetRot = d.targetRot := by
  have hidle : d.permission.state ≠ .active := by
    intro hactive
    rw [h.live.mpr hactive] at hsealed
    cases hsealed
  dsimp only
  unfold observePermission
  rw [if_pos h.owner, sync_sealed (by exact hsealed)]
  refine ⟨⟨⟨rfl, rfl, rfl⟩, rfl, rfl, iff_of_false ?_ hidle, rfl⟩, rfl, rfl, rfl⟩
  dsimp only [MotionPermission.canConsume, MotionPermission.observeTime]
  split
  · nofun
  · exact hidle

/-- An open drive goes on when it observes its permission in time, and is closed otherwise. -/
private theorem observe_open (h : d.Synced w) (hopen : d.isSealed = false) (now n : UInt64) :
    let e := { d with updateSequence := n }.observePermission w now
    d.Running e ∨ (d.Sealed w e ∧ e.applied = false) := by
  have hconsume := consume_open (counted_synced h n) hopen now
  dsimp only at hconsume ⊢
  unfold observePermission
  rw [if_pos h.owner]
  rcases hconsume with ⟨-, -, same, hstate⟩ | ⟨-, -, done, fresh⟩
  · refine .inl ?_
    rw [syncPermission, if_neg fun hfault ↦ hstate hfault.1]
    exact { same with }
  · exact .inr ⟨{ done with }, fresh⟩

private theorem onUpdate_step (h : d.Synced w) (input : UpdateInput V) :
    DriveStep w d (.onUpdate input) (.writes (d.onUpdate w input).2) (d.onUpdate w input).1 := by
  have hwrites : ∀ {writes : List (WheelWrite V)}, (∀ write ∈ writes, Permitted d write) →
      (DriveAnswer.writes writes).Permitted d := by
    rintro writes hpermitted _ ⟨⟩
    exact hpermitted
  have houtcome : ∀ {goes : Bool} {d' : Drive V} {writes : List (WheelWrite V)},
      UpdateOutcome w d goes d' writes → DriveStep w d (.onUpdate input) (.writes writes) d' := by
    intro goes d' writes hdone
    cases hdone with
    | running same permitted =>
      exact .kept same.toSameScope same.applied (.inl same.targets) (hwrites permitted)
    | halted done applied permitted =>
      exact .closed done (fun hzero ↦ ⟨writes, rfl, applied hzero⟩) (hwrites permitted)
  unfold onUpdate
  split
  · exact .kept ⟨⟨rfl, rfl, rfl⟩, rfl, rfl, Iff.rfl, rfl⟩ rfl (.inl ⟨rfl, rfl⟩) (hwrites nofun)
  dsimp only
  by_cases hsealed : d.isSealed = true
  · have hobserve := observe_sealed h hsealed (input.clock 0) (d.updateSequence + 1)
    generalize observePermission w _ (input.clock 0) = e at hobserve ⊢
    obtain ⟨same, happlied, hx, hrot⟩ := hobserve
    rw [if_pos (same.isSealed.trans hsealed)]
    obtain ⟨zeroed, hzx, hzrot⟩ := e.applyZero_frame w input
    refine .zeroed (same.trans zeroed) hsealed ⟨hzx.trans hx, hzrot.trans hrot⟩ ?_
      (hwrites (applyZero_permitted input))
    intro hzero
    rcases applyZero_applied hzero with hbefore | hall
    · exact .inl (happlied.symm.trans hbefore)
    · exact .inr ⟨_, rfl, fun wheel hwheel ↦ hall wheel (same.wheels ▸ hwheel)⟩
  · have hopen := Bool.eq_false_of_not_eq_true hsealed
    have hobserve := observe_open h hopen (input.clock 0) (d.updateSequence + 1)
    generalize observePermission w _ (input.clock 0) = e at hobserve ⊢
    rcases hobserve with same | ⟨done, fresh⟩
    · rw [if_neg (by rw [same.still_open]; decide)]
      have hstarted : d.Running (e.updateWheelVelocities w) := { same with }
      obtain ⟨goes, hpairs⟩ := writePairs_outcome input e.numWheelPairs 0 (hstarted.synced h)
        hstarted.still_open
      exact houtcome (hstarted.outcome (List.forall_mem_nil _) hpairs)
    · rw [if_pos done.isSealed]
      exact houtcome (done.applyZero fresh input)

/-- What a legacy handler does in owner-permission mode. -/
private theorem unchanged_step {c : DriveCall V} {a : DriveAnswer V}
    (ha : ∀ writes, a ≠ .writes writes) : DriveStep w d c a d :=
  .kept ⟨⟨rfl, rfl, rfl⟩, rfl, rfl, Iff.rfl, rfl⟩ rfl (.inl ⟨rfl, rfl⟩) (permitted_of_ne ha)

/-- Every handler is one of the steps. -/
theorem call_step (h : d.Synced w) (c : DriveCall V) :
    DriveStep w d c (d.call w c).1 (d.call w c).2 := by
  cases c with
  | openPermit request now => exact openPermit_step h request now
  | renewPermit request now => exact renewPermit_step h request now
  | closePermit request now => exact closePermit_step h request now
  | permittedCommand command now => exact permittedCommand_step h command now
  | onUpdate input => exact onUpdate_step h input
  | onCmdVel linearX angularZ =>
    simp only [call, onCmdVel, if_pos h.generations]
    split
    · apply DriveStep.record
      exact unchanged_step nofun
    · exact unchanged_step nofun
  | closeScope scopeId =>
    simp only [call, closeScope, if_pos h.generations, Prod.map_apply]
    exact unchanged_step nofun
  | openScope scopeId expected =>
    simp only [call, openScope, if_pos h.owner, Prod.map_apply]
    apply DriveStep.record
    exact unchanged_step nofun
  | closeGeneration scopeId generation =>
    simp only [call, closeGeneration, if_pos h.owner, Prod.map_apply]
    apply DriveStep.record
    exact unchanged_step nofun
  | onScopedCmd message =>
    simp only [call, onScopedCmd, if_pos h.owner]
    apply DriveStep.record
    exact unchanged_step nofun
  | reset =>
    exact .kept ⟨⟨rfl, rfl, rfl⟩, rfl, rfl, Iff.rfl, rfl⟩ rfl (.inr ⟨rfl, rfl⟩)
      (permitted_of_ne nofun)

end Drive

end RobotHarness.Motion
