import RobotHarness.Base.Since
import RobotHarness.Motion.Update

/-!
# The drive moves under its grant

Runs of the drive in owner-permission mode from the state that `Load` leaves: the drive is
open exactly under a live grant of its identity, writes motions before the deadline of that
grant only, towards targets that were commanded under it, and opens a new generation only
after every wheel has accepted a zero.
-/

namespace RobotHarness.Motion

variable {V : Type} {w : WheelArithmetic V}

/-- Handlers on the drive that `Load` leaves in owner-permission mode. -/
structure DriveRun (w : WheelArithmetic V) where
  numWheelPairs : ℕ
  loaded : Drive V
  load : Drive.load w numWheelPairs true true = .ok loaded
  calls : List (DriveCall V)

namespace DriveRun

/-- The handlers with their answers, oldest first. -/
def history (run : DriveRun w) : List (DriveEvent V) := (drive w).trace run.loaded run.calls

/-- The drive after the run. -/
def final (run : DriveRun w) : Drive V := (drive w).run run.loaded run.calls

end DriveRun

/-! ### What an event did -/

/-- An opening of the identity was accepted by a sealed drive. -/
def OpensScope (identity : MotionPermitIdentity) (e : DriveEvent V) : Prop :=
  e.pre.isSealed = true ∧ e.post.isSealed = false ∧
    ∃ request now generation deadlineNs, e.input = .openPermit request now ∧
      e.output = .opened true generation deadlineNs ∧ request.identity = identity

/-- The drive was open before the event and after it. -/
def StaysOpen (e : DriveEvent V) : Prop := e.pre.isSealed = false ∧ e.post.isSealed = false

/-- The drive was sealed before the event and after it. -/
def StaysSealed (e : DriveEvent V) : Prop := e.pre.isSealed = true ∧ e.post.isSealed = true

/-- An update in which every wheel accepted a zero, and which leaves the drive sealed. -/
def AppliesZero (e : DriveEvent V) : Prop := e.output.ZeroesAll e.pre ∧ e.post.isSealed = true

/-- A finite command that carried exactly the identity was taken over with these targets. -/
def Commands (w : WheelArithmetic V) (identity : MotionPermitIdentity) (x rot : V)
    (e : DriveEvent V) : Prop :=
  e.output = .commanded true ∧ ∃ command now, e.input = .permittedCommand command now ∧
    command.identity = identity ∧ w.isFinite command.linearX = true ∧
    w.isFinite command.angularZ = true ∧ command.linearX = x ∧ command.angularZ = rot

/-- The identity was granted by an opening, and the drive has been open since. -/
def Granted (identity : MotionPermitIdentity) (h : List (DriveEvent V)) : Prop :=
  Since (OpensScope identity) StaysOpen h

/-- The targets were commanded under the grant of the identity, and the drive has been open
since. -/
def Commanded (w : WheelArithmetic V) (identity : MotionPermitIdentity) (x rot : V)
    (h : List (DriveEvent V)) : Prop :=
  ∃ before c after, h = before ++ c :: after ∧ Granted identity before ∧
    Commands w identity x rot c ∧ ∀ e ∈ c :: after, StaysOpen e

/-- How the history explains a drive in step: its grant, its targets and its zero. -/
structure Drive.Explained (w : WheelArithmetic V) (h : List (DriveEvent V)) (d : Drive V) : Prop
    extends d.Synced w where
  granted : d.isSealed = false → Granted d.permitIdentity h
  commanded : (d.targetX = w.zero ∧ d.targetRot = w.zero) ∨
    (d.isSealed = false ∧ Commanded w d.permitIdentity d.targetX d.targetRot h)
  zeroed : d.isSealed = true → d.applied = true → Since AppliesZero StaysSealed h

namespace Drive

variable {d d' : Drive V} {h : List (DriveEvent V)} {c : DriveCall V} {a : DriveAnswer V}

private theorem Explained.grant_later (hd : d.Explained w h) (same : d.SameScope d')
    (hopen : d'.isSealed = false) : Granted d'.permitIdentity (h ++ [⟨d, c, a, d'⟩]) := by
  have hbefore := same.isSealed.symm.trans hopen
  rw [same.identity]
  exact (hd.granted hbefore).later ⟨hbefore, hopen⟩

private theorem Explained.zero_later (hd : d.Explained w h) (same : d.SameScope d')
    (applied : d'.applied = true → d.applied = true ∨ a.ZeroesAll d)
    (hsealed : d'.isSealed = true) (hzero : d'.applied = true) :
    Since AppliesZero StaysSealed (h ++ [⟨d, c, a, d'⟩]) := by
  have hbefore := same.isSealed.symm.trans hsealed
  rcases applied hzero with happlied | hall
  · exact (hd.zeroed hbefore happlied).later ⟨hbefore, hsealed⟩
  · exact .now ⟨hall, hsealed⟩

private theorem Explained.command_later (hd : d.Explained w h) (same : d.SameScope d')
    (targets : d'.targetX = d.targetX ∧ d'.targetRot = d.targetRot) :
    (d'.targetX = w.zero ∧ d'.targetRot = w.zero) ∨ (d'.isSealed = false ∧
      Commanded w d'.permitIdentity d'.targetX d'.targetRot (h ++ [⟨d, c, a, d'⟩])) := by
  rw [targets.1, targets.2, same.isSealed, same.identity]
  rcases hd.commanded with hzero | ⟨hopen, before, e, after, rfl, hgranted, hcommands, hheld⟩
  · exact .inl hzero
  · refine .inr ⟨hopen, before, e, after ++ [⟨d, c, a, d'⟩], by simp, hgranted, hcommands, ?_⟩
    rw [← List.cons_append, List.forall_mem_append]
    exact ⟨hheld, List.forall_mem_singleton.mpr ⟨hopen, same.isSealed.trans hopen⟩⟩

/-- A handler on a drive that the history explains leaves one that the longer history
explains. -/
theorem Explained.step (hd : d.Explained w h) (step : DriveStep w d c a d') :
    d'.Explained w (h ++ [⟨d, c, a, d'⟩]) := by
  have hsynced := step.synced hd.toSynced
  cases step with
  | kept same applied targets =>
    refine ⟨hsynced, hd.grant_later same, ?_,
      hd.zero_later same fun hzero ↦ .inl (applied.symm.trans hzero)⟩
    rcases targets with htargets | hzero
    · exact hd.command_later same htargets
    · exact .inl hzero
  | @commanded command now _ same applied opened identity finite targets =>
    have hopen := same.isSealed.trans opened
    refine ⟨hsynced, hd.grant_later same, .inr ⟨hopen, ?_⟩, fun hsealed ↦ ?_⟩
    · rw [targets.1, targets.2, same.identity]
      exact ⟨h, _, [], rfl, hd.granted opened, ⟨rfl, command, now, rfl, identity, finite.1,
        finite.2, rfl, rfl⟩, List.forall_mem_singleton.mpr ⟨opened, hopen⟩⟩
    · rw [hopen] at hsealed
      cases hsealed
  | zeroed same isSealed targets applied =>
    exact ⟨hsynced, hd.grant_later same, hd.command_later same targets,
      hd.zero_later same applied⟩
  | closed done applied =>
    refine ⟨hsynced, fun hopen ↦ ?_, .inl done.still, fun _ hzero ↦
      .now ⟨applied hzero, done.isSealed⟩⟩
    rw [done.isSealed] at hopen
    cases hopen
  | @opened request now generation deadlineNs _ _ isSealed _ identity isOpen _ _ _ still =>
    refine ⟨hsynced, fun _ ↦ .now ⟨isSealed, isOpen, request, now, generation, deadlineNs, rfl,
      rfl, identity.symm⟩, .inl still, fun hsealed ↦ ?_⟩
    rw [isOpen] at hsealed
    cases hsealed

/-- The drive that `Load` leaves in owner-permission mode needs no explanation. -/
theorem load_explained {n : ℕ} (hload : Drive.load w n true true = .ok d) :
    d.Explained w [] := by
  obtain rfl := Except.ok.inj hload
  exact ⟨⟨rfl, rfl, ⟨nofun, nofun⟩, nofun, fun _ ↦ ⟨rfl, rfl⟩, nofun⟩, nofun, .inl ⟨rfl, rfl⟩,
    fun _ hzero ↦ by cases hzero⟩

end Drive

/-! ### Runs -/

namespace DriveRun

variable (run : DriveRun w)

private theorem history_step (h : List (DriveEvent V)) (d : Drive V) (c : DriveCall V)
    (hd : d.Explained w h) :
    ((drive w).next d c).Explained w (h ++ [(drive w).event d c]) :=
  hd.step (d.call_step hd.toSynced c)

/-- The history explains the drive after a run. -/
theorem explained_final : run.final.Explained w run.history :=
  (drive w).history_run history_step (Drive.load_explained run.load) run.calls

/-- The history before an event explains the drive that the event meets. -/
theorem explained {h t : List (DriveEvent V)} {e : DriveEvent V}
    (heq : run.history = h ++ e :: t) : e.pre.Explained w h :=
  (drive w).history_pre history_step (Drive.load_explained run.load) heq

/-- Every event is one of the steps. -/
theorem step {h t : List (DriveEvent V)} {e : DriveEvent V} (heq : run.history = h ++ e :: t) :
    DriveStep w e.pre e.input e.output e.post := by
  have hmem : e ∈ run.history := by simp [heq]
  have hevent := (drive w).eq_event_of_mem_trace hmem
  have hstep := e.pre.call_step (run.explained heq).toSynced e.input
  rw [hevent]
  exact hstep

/-- In every state that handlers lead to, the drive is open exactly under a live permission
of its own identity, and its targets are zero or were commanded under the grant in force;
motions are written at readings before the deadline of a live grant; and a generation opens
only after an update since which the drive was sealed and in which every wheel accepted a
zero. -/
theorem moves_under_grant :
    ((run.final.isSealed = false ↔ run.final.permission.state = .active) ∧
      (run.final.isSealed = false →
        run.final.permitIdentity = run.final.permission.identity ∧
          Granted run.final.permission.identity run.history)) ∧
    (∀ e ∈ run.history, ∀ writes, e.output = .writes writes →
      ∀ wheel velocity permittedNs, .motion wheel velocity permittedNs ∈ writes →
        e.pre.isSealed = false ∧ e.pre.permission.state = .active ∧
          e.pre.permitIdentity = e.pre.permission.identity ∧
          ∃ now, permittedNs = some now ∧ now < e.pre.permission.deadlineNs) ∧
    ((run.final.targetX = w.zero ∧ run.final.targetRot = w.zero) ∨
      (run.final.isSealed = false ∧ Commanded w run.final.permission.identity
        run.final.targetX run.final.targetRot run.history)) ∧
    ∀ h e t, run.history = h ++ e :: t →
      (e.post.generation ≠ e.pre.generation ∨
        (e.pre.isSealed = true ∧ e.post.isSealed = false)) →
      Since AppliesZero StaysSealed h := by
  have hfinal := run.explained_final
  refine ⟨⟨hfinal.live, fun hopen ↦ ⟨hfinal.identity hopen, ?_⟩⟩, ?_, ?_, ?_⟩
  · rw [← hfinal.identity hopen]
    exact hfinal.granted hopen
  · intro e he writes hwrites wheel velocity permittedNs hmotion
    obtain ⟨h, t, heq⟩ := List.append_of_mem he
    have hpre := run.explained heq
    have hpermitted := (run.step heq).permitted writes hwrites _ hmotion
    rcases hpermitted with ⟨_, _, hzero⟩ | ⟨hactive, _, _, now, hwrite, hlt⟩
    · cases hzero
    · have hopen := hpre.live.mpr hactive
      obtain ⟨-, -, rfl⟩ := WheelWrite.motion.inj hwrite
      exact ⟨hopen, hactive, hpre.identity hopen, now, rfl, hlt⟩
  · rcases hfinal.commanded with hzero | ⟨hopen, hcommanded⟩
    · exact .inl hzero
    · exact .inr ⟨hopen, hfinal.identity hopen ▸ hcommanded⟩
  · intro h e t heq hopens
    obtain ⟨hsealed, hzero⟩ := (run.step heq).opens hopens
    exact (run.explained heq).zeroed hsealed hzero

end DriveRun

end RobotHarness.Motion
