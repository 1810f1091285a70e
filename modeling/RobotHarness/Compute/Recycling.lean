import Mathlib.Data.List.Nodup
import RobotHarness.Compute.SystemCalls

/-!
# No descriptor and no child is used after it is given up

What the members of a process say about the system calls that were made, kept by every call of its
owner. `Fine` calls are the only ones made: a descriptor that was closed and a child that was
collected may belong to somebody else.
-/

namespace RobotHarness.Compute

/-! ### What the members say about the log -/

namespace ComputeProcess

/-- What the members of a process settle. -/
def standing (p : ComputeProcess) : Standing where
  launched := p.observation.launched
  killed := p.terminationAttempted
  unclean := p.channelCleanupUnknown
  exited := p.observation.exitStatus.isSome
  lost := p.observation.ownershipLost
  ended := p.observation.eventEof

/-- The members that ownership is read from. -/
def tracked (p : ComputeProcess) : Int × Bool × Bool × Bool × Standing :=
  (p.ownedPid, p.controlOpen, p.eventOpen, p.observation.channelsClosed, p.standing)

private theorem tracked_rememberIoError (p : ComputeProcess) (error : Int) :
    (p.rememberIoError error).tracked = p.tracked := by
  unfold rememberIoError
  split <;> rfl

private theorem tracked_consume (p : ComputeProcess) (frame : Frame) :
    (p.consume frame).tracked = p.tracked := by
  unfold consume
  split
  · rfl
  split
  · rfl
  unfold consumeKind
  dsimp only
  split
  all_goals first
    | rfl
    | split <;> rfl

private theorem tracked_requestStop (p : ComputeProcess) (nowMs : UInt64) (send : Option Int) :
    (p.requestStop nowMs send).tracked = p.tracked := by
  unfold requestStop
  dsimp only
  split
  · rfl
  split
  · rfl
  split <;> rfl

end ComputeProcess

namespace OwnedProcess

variable {o : OwnedProcess}

/-- The descriptors that are owned. -/
def held (o : OwnedProcess) : List ℕ := o.guards ++ (o.control.toList ++ o.event.toList)

/-- What the members of a process say about the calls that were made. -/
structure Sound (o : OwnedProcess) : Prop where
  fine : Preceded Fine o.log
  distinct : o.held.Nodup
  live : ∀ descriptor ∈ o.held, Live o.log descriptor
  fresh : ∀ descriptor, .opened descriptor ∈ o.log → descriptor < o.next
  control : o.process.controlOpen = o.control.isSome
  event : o.process.eventOpen = o.event.isSome
  settled : o.process.standing = RobotHarness.Compute.standing o.log
  running : 0 < o.process.ownedPid → Running o.log o.process.ownedPid
  closed : o.process.observation.channelsClosed = true → o.process.standing.Released

/-- A new process has called nothing. -/
theorem sound_create (executable : String) (iterations stopGraceMs : UInt64) :
    (create executable iterations stopGraceMs).Sound := by
  constructor
  case fine => exact Preceded.nil
  case settled => rfl
  all_goals simp [create, ComputeProcess.create, held]

/-- The members may change as long as they say the same about the log. -/
theorem Sound.change {p : ComputeProcess} (h : o.Sound) (hpid : p.ownedPid = o.process.ownedPid)
    (hcontrol : p.controlOpen = o.process.controlOpen)
    (hevent : p.eventOpen = o.process.eventOpen) (hsettled : p.standing = o.process.standing)
    (hclosed : p.observation.channelsClosed = true → p.standing.Released) :
    (o.become p).Sound := by
  constructor
  case fine => exact h.fine
  case distinct => exact h.distinct
  case live => exact h.live
  case fresh => exact h.fresh
  case control => exact hcontrol.trans h.control
  case event => exact hevent.trans h.event
  case settled => exact hsettled.trans h.settled
  case running => exact hpid ▸ h.running
  case closed => exact hclosed

/-- Members that ownership is not read from may change. -/
theorem Sound.become {p : ComputeProcess} (h : o.Sound) (hp : p.tracked = o.process.tracked) :
    (o.become p).Sound := by
  simp only [ComputeProcess.tracked, Prod.mk.injEq] at hp
  obtain ⟨hpid, hcontrol, hevent, hclosed, hsettled⟩ := hp
  refine h.change hpid hcontrol hevent hsettled ?_
  rw [hclosed, hsettled]
  exact h.closed

/-- A call that opens and closes nothing is made, and the process notes its answer. -/
theorem Sound.emit {p : ComputeProcess} (h : o.Sound) (call : SystemCall) (hfine : Fine o.log call)
    (hplain : call.opensOrCloses = false) (hcontrol : p.controlOpen = o.process.controlOpen)
    (hevent : p.eventOpen = o.process.eventOpen)
    (hstanding : p.standing = o.process.standing.after call)
    (hrunning : 0 < p.ownedPid → Running (o.log ++ [call]) p.ownedPid)
    (hclosed : p.observation.channelsClosed = true → p.standing.Released) :
    ((o.emit call).become p).Sound := by
  constructor
  case fine => exact Preceded.append_singleton.mpr ⟨h.fine, hfine⟩
  case distinct => exact h.distinct
  case live =>
    intro d hd
    refine (h.live d hd).append ?_
    rintro error rfl
    cases hplain
  case fresh =>
    intro d hd
    rcases List.mem_append.mp hd with hd | hd
    · exact h.fresh d hd
    · cases List.mem_singleton.mp hd
      cases hplain
  case control => exact hcontrol.trans h.control
  case event => exact hevent.trans h.event
  case settled => exact hstanding.trans (h.settled ▸ (standing_append o.log call).symm)
  case running => exact hrunning
  case closed => exact hclosed

/-- A call that settles nothing is made. -/
theorem Sound.note {p : ComputeProcess} (h : o.Sound) (call : SystemCall) (hfine : Fine o.log call)
    (hplain : call.opensOrCloses = false) (hsilent : ∀ s : Standing, s.after call = s)
    (hp : p.tracked = o.process.tracked) : ((o.emit call).become p).Sound := by
  simp only [ComputeProcess.tracked, Prod.mk.injEq] at hp
  obtain ⟨hpid, hcontrol, hevent, hclosed, hsettled⟩ := hp
  refine h.emit call hfine hplain hcontrol hevent (hsettled.trans (hsilent _).symm) ?_ ?_
  · rw [hpid]
    refine fun hpid ↦ (h.running hpid).append ?_
    rintro answer hreaps rfl
    have hsame := hsilent ⟨false, false, false, false, false, false⟩
    cases answer with
    | ended status => cases hsame
    | noChild => cases hsame
    | running => cases hreaps
    | failed errno => cases hreaps
  · rw [hclosed, hsettled]
    exact h.closed

/-! ### Descriptors -/

/-- A descriptor is opened. -/
theorem Sound.acquire (h : o.Sound) : o.acquire.2.Sound := by
  have hfresh : .opened o.next ∉ o.log := fun hmem ↦ (h.fresh _ hmem).false
  have hunused : ∀ error, .close o.next error ∉ o.log := by
    intro error hmem
    obtain ⟨before, after, heq⟩ := List.append_of_mem hmem
    have hopened : .opened o.next ∈ before := (h.fine before _ after heq).1
    exact hfresh (heq ▸ List.mem_append_left _ hopened)
  constructor
  case fine => exact Preceded.append_singleton.mpr ⟨h.fine, hfresh⟩
  case distinct =>
    refine List.nodup_cons.mpr ⟨fun hmem ↦ ?_, h.distinct⟩
    exact hfresh (h.live _ hmem).1
  case live =>
    intro d hd
    rcases List.mem_cons.mp hd with rfl | hd
    · refine ⟨List.mem_append_right _ (List.mem_singleton_self _), fun error hmem ↦ ?_⟩
      rcases List.mem_append.mp hmem with hmem | hmem
      · exact hunused error hmem
      · cases List.mem_singleton.mp hmem
    · exact (h.live d hd).append (by intro error h; cases h)
  case fresh =>
    intro d hd
    rcases List.mem_append.mp hd with hd | hd
    · exact Nat.lt_succ_of_lt (h.fresh d hd)
    · cases List.mem_singleton.mp hd
      exact Nat.lt_succ_self _
  case control => exact h.control
  case event => exact h.event
  case settled => exact h.settled.trans (standing_append o.log (.opened o.next)).symm
  case running => exact fun hpid ↦ (h.running hpid).append (by intro _ _ h; cases h)
  case closed => exact h.closed

/-- A descriptor that is owned no longer is closed. -/
theorem Sound.release {descriptor : ℕ} {error : Option Int} (h : o.Sound) (o' : OwnedProcess)
    (hlog : o'.log = o.log ++ [.close descriptor error])
    (hheld : o.held.Perm (descriptor :: o'.held)) (hnext : o'.next = o.next)
    (hcontrol : o'.process.controlOpen = o'.control.isSome)
    (hevent : o'.process.eventOpen = o'.event.isSome)
    (hpid : o'.process.ownedPid = o.process.ownedPid)
    (hstanding : o'.process.standing = o.process.standing.after (.close descriptor error))
    (hopen : o'.process.observation.channelsClosed = false) : o'.Sound := by
  have hlive : Live o.log descriptor := h.live _ (hheld.mem_iff.mpr List.mem_cons_self)
  have hdistinct := List.nodup_cons.mp (hheld.nodup_iff.mp h.distinct)
  constructor
  case fine =>
    rw [hlog]
    exact Preceded.append_singleton.mpr ⟨h.fine, hlive⟩
  case distinct => exact hdistinct.2
  case live =>
    intro d hd
    rw [hlog]
    refine (h.live d (hheld.mem_iff.mpr (List.mem_cons_of_mem _ hd))).append ?_
    rintro _ ⟨⟩
    exact hdistinct.1 hd
  case fresh =>
    intro d hd
    rw [hlog] at hd
    rw [hnext]
    rcases List.mem_append.mp hd with hd | hd
    · exact h.fresh d hd
    · cases List.mem_singleton.mp hd
  case control => exact hcontrol
  case event => exact hevent
  case settled => rw [hstanding, hlog, standing_append, h.settled]
  case running =>
    rw [hpid, hlog]
    exact fun hpid ↦ (h.running hpid).append (by intro _ _ h; cases h)
  case closed =>
    intro hclosed
    cases hopen.symm.trans hclosed

/-- What a failed close leaves alone, and what it settles. -/
theorem reportClose_tracked (p : ComputeProcess) (descriptor : ℕ) (error : Option Int) :
    (p.reportClose error).tracked =
      (p.ownedPid, p.controlOpen, p.eventOpen, p.observation.channelsClosed,
        p.standing.after (.close descriptor error)) := by
  cases error with
  | none => simp [ComputeProcess.reportClose, ComputeProcess.tracked, Standing.after]
  | some error =>
    unfold ComputeProcess.reportClose ComputeProcess.rememberIoError
    dsimp only
    split <;> simp [ComputeProcess.tracked, ComputeProcess.standing, Standing.after]

/-- What the guards of a launch leave alone. -/
structure Guarded (o o' : OwnedProcess) : Prop where
  control : o'.control = o.control
  event : o'.event = o.event
  launched : o'.process.observation.launched = o.process.observation.launched
  channelsClosed : o'.process.observation.channelsClosed = o.process.observation.channelsClosed

private theorem Guarded.trans {o' o'' : OwnedProcess} (h : Guarded o o') (h' : Guarded o' o'') :
    Guarded o o'' where
  control := h'.control.trans h.control
  event := h'.event.trans h.event
  launched := h'.launched.trans h.launched
  channelsClosed := h'.channelsClosed.trans h.channelsClosed

/-- A guarded descriptor is closed. -/
theorem Sound.reset {descriptor : ℕ} (h : o.Sound)
    (hopen : o.process.observation.channelsClosed = false) (hmem : descriptor ∈ o.guards)
    (error : Option Int) :
    (o.reset descriptor error).Sound ∧ Guarded o (o.reset descriptor error) := by
  have htracked := reportClose_tracked o.process descriptor error
  simp only [ComputeProcess.tracked, Prod.mk.injEq] at htracked
  obtain ⟨hpid, hcontrol, hevent, hclosed, hstanding⟩ := htracked
  constructor
  · refine h.release (o.reset descriptor error) rfl ?_ rfl (hcontrol.trans h.control)
      (hevent.trans h.event) hpid hstanding (hclosed.trans hopen)
    exact (List.perm_cons_erase hmem).append_right _
  · constructor
    case launched => exact congrArg Standing.launched hstanding
    case channelsClosed => exact hclosed
    all_goals rfl

/-- Guards are destroyed. -/
theorem Sound.resetAll (descriptors : List ℕ) (errors : List (Option Int)) (rest : List ℕ)
    (h : o.Sound) (hopen : o.process.observation.channelsClosed = false)
    (hguards : o.guards.Perm (descriptors ++ rest)) :
    (resetAll descriptors errors o).Sound ∧ Guarded o (resetAll descriptors errors o) ∧
      (resetAll descriptors errors o).guards.Perm rest := by
  induction descriptors generalizing o errors with
  | nil => exact ⟨h, ⟨rfl, rfl, rfl, rfl⟩, hguards⟩
  | cons descriptor descriptors ih =>
    have hmem : descriptor ∈ o.guards := hguards.mem_iff.mpr (by simp)
    obtain ⟨hreset, hguarded⟩ := h.reset hopen hmem errors.head?.join
    have herased : (o.reset descriptor errors.head?.join).guards.Perm (descriptors ++ rest) := by
      have := hguards.erase descriptor
      rwa [List.cons_append, List.erase_cons_head] at this
    obtain ⟨hsound, hkept, hrest⟩ :=
      ih errors.tail hreset (hguarded.channelsClosed.trans hopen) herased
    exact ⟨hsound, hguarded.trans hkept, hrest⟩

private theorem Sound.acquired {descriptor : ℕ} {o' : OwnedProcess} (h : o.Sound)
    (heq : o.acquire = (descriptor, o')) :
    o'.Sound ∧ Guarded o o' ∧ o'.guards = descriptor :: o.guards := by
  cases heq
  exact ⟨h.acquire, ⟨rfl, rfl, rfl, rfl⟩, rfl⟩

/-- A pair that is made or refused guards what it leaves to its caller. -/
theorem Sound.makePair (h : o.Sound) (hopen : o.process.observation.channelsClosed = false)
    (answer : PairAnswer) :
    (o.makePair answer).2.Sound ∧ Guarded o (o.makePair answer).2 ∧
      (o.makePair answer).2.guards.Perm ((o.makePair answer).1.owned ++ o.guards) := by
  unfold OwnedProcess.makePair
  split
  · exact ⟨h, ⟨rfl, rfl, rfl, rfl⟩, .refl _⟩
  cases h₁ : o.acquire with | mk original o₁ =>
  obtain ⟨hsound₁, hguarded₁, hguards₁⟩ := h.acquired h₁
  cases h₂ : o₁.acquire with | mk original' o₂ =>
  obtain ⟨hsound₂, hguarded₂, hguards₂⟩ := hsound₁.acquired h₂
  replace hguarded₂ := hguarded₁.trans hguarded₂
  rw [hguards₁] at hguards₂
  dsimp only
  rw [h₂]
  dsimp only
  split
  · obtain ⟨hsound, hguarded, hguards⟩ :=
      hsound₂.resetAll [original', original] answer.closes o.guards
        (hguarded₂.channelsClosed.trans hopen) (.of_eq hguards₂)
    exact ⟨hsound, hguarded₂.trans hguarded, hguards⟩
  cases h₃ : o₂.acquire with | mk first o₃ =>
  obtain ⟨hsound₃, hguarded₃, hguards₃⟩ := hsound₂.acquired h₃
  replace hguarded₃ := hguarded₂.trans hguarded₃
  rw [hguards₂] at hguards₃
  dsimp only
  split
  · obtain ⟨hsound, hguarded, hguards⟩ :=
      hsound₃.resetAll [first, original', original] answer.closes o.guards
        (hguarded₃.channelsClosed.trans hopen) (.of_eq hguards₃)
    exact ⟨hsound, hguarded₃.trans hguarded, hguards⟩
  cases h₄ : o₃.acquire with | mk second o₄ =>
  obtain ⟨hsound₄, hguarded₄, hguards₄⟩ := hsound₃.acquired h₄
  replace hguarded₄ := hguarded₃.trans hguarded₄
  rw [hguards₃] at hguards₄
  -- The two originals are closed, the duplicates are kept for the caller.
  have hkept :
      (OwnedProcess.resetAll [original', original] answer.closes o₄).Sound ∧
        Guarded o (OwnedProcess.resetAll [original', original] answer.closes o₄) ∧
        (OwnedProcess.resetAll [original', original] answer.closes o₄).guards.Perm
          ([second, first] ++ o.guards) := by
    have hperm : o₄.guards.Perm ([original', original] ++ ([second, first] ++ o.guards)) := by
      rw [hguards₄]
      exact @List.perm_append_comm _ [second, first] [original', original]
        |>.append_right o.guards
    obtain ⟨hsound, hguarded, hguards⟩ :=
      hsound₄.resetAll _ answer.closes _ (hguarded₄.channelsClosed.trans hopen) hperm
    exact ⟨hsound, hguarded₄.trans hguarded, hguards⟩
  dsimp only
  split
  · obtain ⟨hsound, hguarded, hguards⟩ :=
      hsound₄.resetAll [second, first, original', original] answer.closes o.guards
        (hguarded₄.channelsClosed.trans hopen) (.of_eq hguards₄)
    exact ⟨hsound, hguarded₄.trans hguarded, hguards⟩
  · exact hkept
  · exact hkept

/-! ### Launch -/

/-- A refused launch closes all that it guards. -/
theorem Sound.refuse {owned : List ℕ} (h : o.Sound)
    (hopen : o.process.observation.channelsClosed = false) (hguards : o.guards.Perm owned)
    (error : Int) (closes : List (Option Int)) :
    (o.refuse error owned closes).2.Sound ∧ (o.refuse error owned closes).2.guards = [] := by
  have hrefused : (o.become (o.process.refuseLaunch error)).Sound := h.become rfl
  obtain ⟨hsound, -, hrest⟩ :=
    hrefused.resetAll owned closes [] hopen ((List.append_nil owned).symm ▸ hguards)
  exact ⟨hsound, hrest.eq_nil⟩

/-- A child is adopted with one end of each channel, and the other ends are closed. -/
theorem Sound.adopt {child : Int} {control control' events events' : ℕ} (h : o.Sound)
    (hlaunched : o.process.observation.launched = false)
    (hopen : o.process.observation.channelsClosed = false)
    (hguards : o.guards.Perm [events', events, control', control])
    (closes : List (Option Int)) :
    ((o.emit (.spawn (some child))).adopt child control control' events events' closes).Sound ∧
      ((o.emit (.spawn (some child))).adopt child control control' events events'
        closes).guards = [] := by
  have hnone : ∀ pid, .spawn (some pid) ∉ o.log := by
    intro pid hmem
    have hspawned : (standing o.log).launched = true := (launched_iff o.log).mpr ⟨pid, hmem⟩
    rw [← h.settled] at hspawned
    cases hlaunched.symm.trans hspawned
  have hdistinct : [events', events, control', control].Nodup :=
    hguards.nodup_iff.mp (List.nodup_append.mp h.distinct).1
  have hrest : ((o.guards.erase control').erase events).Perm [events', control] := by
    have herased := (hguards.erase control').erase events
    simp only [List.nodup_cons, List.mem_cons, not_or] at hdistinct
    simpa [List.erase_cons, hdistinct.1.1, hdistinct.1.2.1, hdistinct.2.1.1] using herased
  have hadopted : Sound
      { o with
        log := o.log ++ [.spawn (some child)]
        process := o.process.adopt child
        control := some control'
        event := some events
        guards := (o.guards.erase control').erase events } := by
    constructor
    case fine => exact Preceded.append_singleton.mpr ⟨h.fine, hnone⟩
    case distinct =>
      refine ((hrest.append_right _).nodup_iff).mpr ?_
      have hperm : [events', control, control', events].Perm
          [events', events, control', control] :=
        .cons _ (List.reverse_perm [events, control', control])
      exact hperm.nodup_iff.mpr hdistinct
    case live =>
      intro d hd
      have hmem : d ∈ o.guards := by
        have hd : d ∈ [events', control] ++ [control', events] :=
          ((hrest.append_right _).mem_iff).mp hd
        rw [hguards.mem_iff]
        simp only [List.cons_append, List.nil_append, List.mem_cons, List.not_mem_nil] at hd ⊢
        tauto
      exact (h.live d (List.mem_append_left _ hmem)).append (by intro error h; cases h)
    case fresh =>
      intro d hd
      rcases List.mem_append.mp hd with hd | hd
      · exact h.fresh d hd
      · cases List.mem_singleton.mp hd
    case control => rfl
    case event => rfl
    case settled =>
      rw [standing_append, ← h.settled]
      simp [ComputeProcess.adopt, ComputeProcess.standing, Standing.after]
    case running =>
      intro _
      refine ⟨List.mem_append_right _ (List.mem_singleton_self _), fun answer _ hmem ↦ ?_⟩
      rcases List.mem_append.mp hmem with hmem | hmem
      · exact hnone child (spawned_of_waited h.fine hmem)
      · cases List.mem_singleton.mp hmem
    case closed =>
      intro hclosed
      cases hopen.symm.trans hclosed
  obtain ⟨hsound, -, hnil⟩ :=
    hadopted.resetAll [events', control] closes [] hopen (by simpa using hrest)
  exact ⟨hsound, hnil.eq_nil⟩

/-- The channels of a process without a child are not closed. -/
theorem Sound.open_of_unlaunched (h : o.Sound)
    (hlaunched : o.process.observation.launched = false) :
    o.process.observation.channelsClosed = false := by
  by_contra hclosed
  have hexited : o.process.standing.exited = true := (h.closed (by simpa using hclosed)).1
  rw [h.settled] at hexited
  obtain ⟨pid, status, hwait⟩ := (exited_iff o.log).mp hexited
  have hspawned : (standing o.log).launched = true :=
    (launched_iff o.log).mpr ⟨pid, spawned_of_waited h.fine hwait⟩
  rw [← h.settled] at hspawned
  cases hlaunched.symm.trans hspawned

/-- A launch leaves nothing guarded, whatever it meets. -/
theorem Sound.launch (h : o.Sound) (hguards : o.guards = []) (answer : LaunchCalls) :
    (o.launch answer).2.Sound ∧ (o.launch answer).2.guards = [] := by
  unfold OwnedProcess.launch
  dsimp only
  split
  · exact ⟨h, hguards⟩
  next hlaunched =>
  rw [Bool.not_eq_true] at hlaunched
  have hopen := h.open_of_unlaunched hlaunched
  split
  · exact ⟨h.become rfl, hguards⟩
  split
  · exact ⟨h.become rfl, hguards⟩
  split
  · exact ⟨h.become rfl, hguards⟩
  have hstart : (o.become (o.process.refuseLaunch 0)).Sound := h.become rfl
  obtain ⟨hcontrolSound, hcontrolGuarded, hcontrolGuards⟩ := hstart.makePair hopen answer.control
  rw [show (o.become (o.process.refuseLaunch 0)).guards = [] from hguards,
    List.append_nil] at hcontrolGuards
  generalize (o.become (o.process.refuseLaunch 0)).makePair answer.control = made at *
  obtain ⟨result, o₁⟩ := made
  cases result with
  | failed error owned =>
    exact hcontrolSound.refuse (hcontrolGuarded.channelsClosed.trans hopen) hcontrolGuards _ _
  | made control control' =>
  dsimp only at *
  have hopen₁ := hcontrolGuarded.channelsClosed.trans hopen
  obtain ⟨heventSound, heventGuarded, heventGuards⟩ :=
    hcontrolSound.makePair hopen₁ { answer.events with option := none }
  generalize o₁.makePair { answer.events with option := none } = made at *
  obtain ⟨result, o₂⟩ := made
  dsimp only at *
  have hopen₂ := heventGuarded.channelsClosed.trans hopen₁
  have hlaunched₂ := heventGuarded.launched.trans (hcontrolGuarded.launched.trans hlaunched)
  replace heventGuards := heventGuards.trans (hcontrolGuards.append_left _)
  cases result with
  | failed error owned => exact heventSound.refuse hopen₂ heventGuards _ _
  | made events events' =>
  dsimp only
  split
  · exact heventSound.refuse hopen₂ heventGuards _ _
  split
  · exact heventSound.refuse hopen₂ heventGuards _ _
  have hfailed : (o₂.emit (.spawn none)).Sound := by
    refine heventSound.note (p := o₂.process) _ (fun child hmem ↦ ?_) rfl
      (fun s ↦ by simp [Standing.after]) rfl
    have hspawned := (launched_iff o₂.log).mpr ⟨child, hmem⟩
    rw [← heventSound.settled] at hspawned
    cases hlaunched₂.symm.trans hspawned
  split
  · exact hfailed.refuse hopen₂ heventGuards _ _
  split
  · exact hfailed.refuse hopen₂ heventGuards _ _
  · exact heventSound.adopt hlaunched₂ hopen₂ heventGuards _

/-! ### Stop, poll and close -/

/-- A stop request sends at most on the control channel. -/
theorem Sound.requestStop (h : o.Sound) (nowMs : UInt64) (send : Option Int) :
    (o.requestStop nowMs send).Sound ∧ (o.requestStop nowMs send).guards = o.guards := by
  have htracked := o.process.tracked_requestStop nowMs send
  unfold OwnedProcess.requestStop
  dsimp only
  split
  · exact ⟨h.become htracked, rfl⟩
  split
  · exact ⟨h.become htracked, rfl⟩
  next descriptor hcontrol =>
  have hlive := h.live descriptor (by simp [held, hcontrol])
  exact ⟨h.note (.send descriptor) hlive rfl (fun _ ↦ rfl) htracked, rfl⟩

/-- The end of the event channel. -/
theorem Sound.readEof {descriptor : ℕ} (h : o.Sound) (hevent : o.event = some descriptor)
    (hopen : o.process.observation.channelsClosed = false) :
    ((o.emit (.read descriptor true)).become o.process.meetEof).Sound := by
  have hlive := h.live descriptor (by simp [held, hevent])
  refine h.emit (.read descriptor true) hlive rfl rfl rfl ?_ ?_ ?_
  · simp [ComputeProcess.meetEof, ComputeProcess.standing, Standing.after]
  · exact fun hpid ↦ (h.running hpid).append (by intro _ _ h; cases h)
  · intro hclosed
    cases hopen.symm.trans hclosed

/-- The event channel is read while it is open. -/
theorem Sound.drainFrames {descriptor : ℕ} (frames : ℕ) (reads : List ReadAnswer) (h : o.Sound)
    (hevent : o.event = some descriptor) (hopen : o.process.observation.channelsClosed = false) :
    (drainFrames descriptor frames reads o).Sound ∧
      (drainFrames descriptor frames reads o).guards = o.guards ∧
      (drainFrames descriptor frames reads o).process.observation.channelsClosed = false := by
  have hread {o : OwnedProcess} (h : o.Sound) (hevent : o.event = some descriptor)
      {p : ComputeProcess} (hp : p.tracked = o.process.tracked) :
      ((o.emit (.read descriptor false)).become p).Sound :=
    h.note _ (h.live descriptor (by simp [held, hevent])) rfl (fun s ↦ by simp [Standing.after]) hp
  fun_induction OwnedProcess.drainFrames descriptor frames reads o with
  | case1 => exact ⟨h, rfl, hopen⟩
  | case2 => exact ⟨hread h hevent rfl, rfl, hopen⟩
  | case3 frames count frame reads o buffered o' hfull ih =>
    have hconsumed :
        ({ o.process with bufferedFrameBytes := 0 }.consume frame).tracked = o.process.tracked :=
      ComputeProcess.tracked_consume _ frame
    refine ih (hread h hevent hconsumed) hevent ?_
    simp only [ComputeProcess.tracked, Prod.mk.injEq] at hconsumed
    exact hconsumed.2.2.2.1.trans hopen
  | case4 frames count frame reads o buffered o' hpartial ih =>
    exact ih (hread h hevent rfl) hevent hopen
  | case5 _ reads o => exact ⟨h.readEof hevent hopen, rfl, hopen⟩
  | case6 => exact ⟨hread h hevent rfl, rfl, hopen⟩
  | case7 _ errno reads o =>
    have herror := o.process.tracked_rememberIoError errno
    refine ⟨hread h hevent herror, rfl, ?_⟩
    simp only [ComputeProcess.tracked, Prod.mk.injEq] at herror
    exact herror.2.2.2.1.trans hopen

/-- A poll reads the event channel only. -/
theorem Sound.drainEvents (h : o.Sound) (hopen : o.process.observation.channelsClosed = false)
    (reads : List ReadAnswer) :
    (o.drainEvents reads).Sound ∧ (o.drainEvents reads).guards = o.guards ∧
      (o.drainEvents reads).process.observation.channelsClosed = false := by
  unfold OwnedProcess.drainEvents
  split
  · exact ⟨h, rfl, hopen⟩
  next hevent =>
  split
  · exact ⟨h, rfl, hopen⟩
  · exact h.drainFrames _ reads hevent hopen

/-- The child is waited for while it runs. -/
theorem Sound.collectExit (h : o.Sound) (hopen : o.process.observation.channelsClosed = false)
    (answer : WaitAnswer) :
    (o.collectExit answer).Sound ∧ (o.collectExit answer).guards = o.guards ∧
      (o.collectExit answer).process.observation.channelsClosed = false := by
  unfold OwnedProcess.collectExit ComputeProcess.collectExit
  split
  · exact ⟨h, rfl, hopen⟩
  next hwaits =>
  have hrunning := h.running (not_le.mp fun hpid ↦ hwaits (.inl hpid))
  dsimp only
  split
  · refine ⟨h.emit _ hrunning rfl rfl rfl ?_ ?_ ?_, rfl, hopen⟩
    · rfl
    · intro hpid
      cases hpid
    · intro hclosed
      cases hopen.symm.trans hclosed
  · exact ⟨h.note _ hrunning rfl (fun _ ↦ rfl) rfl, rfl, hopen⟩
  · refine ⟨h.emit _ hrunning rfl rfl rfl ?_ ?_ ?_, rfl, hopen⟩
    · rfl
    · intro hpid
      cases hpid
    · intro hclosed
      cases hopen.symm.trans hclosed
  next errno =>
  have herror := o.process.tracked_rememberIoError errno
  refine ⟨h.note _ hrunning rfl (fun _ ↦ rfl) herror, rfl, ?_⟩
  simp only [ComputeProcess.tracked, Prod.mk.injEq] at herror
  exact herror.2.2.2.1.trans hopen

/-- The child is signalled while it runs, and once. -/
theorem Sound.requestTerminationOnce (h : o.Sound) (kill : Option Int) :
    (o.requestTerminationOnce kill).Sound ∧ (o.requestTerminationOnce kill).guards = o.guards := by
  unfold OwnedProcess.requestTerminationOnce ComputeProcess.requestTerminationOnce
  dsimp only
  split
  · exact ⟨h, rfl⟩
  next hdue =>
  push Not at hdue
  obtain ⟨-, hattempted, hpid, -, -⟩ := hdue
  have hrunning := h.running hpid
  have hnone : ∀ pid, .kill pid ∉ o.log := by
    intro pid hmem
    have hkilled := (killed_iff o.log).mpr ⟨pid, hmem⟩
    rw [← h.settled] at hkilled
    exact hattempted hkilled
  refine ⟨h.emit (.kill _) ⟨hrunning, hnone⟩ rfl rfl rfl rfl ?_ h.closed, rfl⟩
  exact fun hpid ↦ hrunning.append (by intro _ _ h; cases h)

/-- A poll keeps what the members say. -/
theorem Sound.poll (h : o.Sound) (nowMs : UInt64) (answer : PollAnswer) :
    (o.poll nowMs answer).Sound ∧ (o.poll nowMs answer).guards = o.guards := by
  unfold OwnedProcess.poll
  dsimp only
  split
  · exact ⟨h, rfl⟩
  next hopen =>
  have hopen : o.process.observation.channelsClosed = false := by
    simpa using fun hclosed ↦ hopen (.inr (.inr hclosed))
  obtain ⟨hdrained, hdrainedGuards, hopen⟩ := h.drainEvents hopen answer.reads
  obtain ⟨hcollected, hcollectedGuards, -⟩ := hdrained.collectExit hopen answer.wait
  have hescalated := hcollected.become
    (p := ((o.drainEvents answer.reads).collectExit answer.wait).process.escalate nowMs) rfl
  obtain ⟨hkilled, hkilledGuards⟩ := hescalated.requestTerminationOnce answer.kill
  exact ⟨hkilled, hkilledGuards.trans (hcollectedGuards.trans hdrainedGuards)⟩

/-- One of the two closes of `close_channels`, of a descriptor that is owned no longer. -/
theorem Sound.closeOnce {descriptor : Option ℕ} (h : o.Sound) (o' : OwnedProcess)
    (hlog : o'.log = o.log) (hheld : o.held.Perm (descriptor.toList ++ o'.held))
    (hnext : o'.next = o.next) (hcontrol : o'.process.controlOpen = o'.control.isSome)
    (hevent : o'.process.eventOpen = o'.event.isSome)
    (hpid : o'.process.ownedPid = o.process.ownedPid)
    (hsettled : o'.process.standing = o.process.standing)
    (hopen : o'.process.observation.channelsClosed = false) (error : Option Int) :
    (o'.closeOnce descriptor error).2.Sound ∧
      (o'.closeOnce descriptor error).2.guards = o'.guards ∧
      (o'.closeOnce descriptor error).2.control = o'.control ∧
      (o'.closeOnce descriptor error).2.event = o'.event ∧
      (o'.closeOnce descriptor error).2.process.observation.channelsClosed = false ∧
      (o'.closeOnce descriptor error).2.process.standing =
        { o.process.standing with
          unclean := o.process.standing.unclean || !(o'.closeOnce descriptor error).1 } := by
  cases descriptor with
  | none =>
    refine ⟨?_, rfl, rfl, rfl, hopen, by simp [OwnedProcess.closeOnce, hsettled]⟩
    constructor
    case fine => exact hlog.symm ▸ h.fine
    case distinct => exact hheld.nodup_iff.mp h.distinct
    case live =>
      intro d hd
      rw [OwnedProcess.closeOnce, hlog]
      exact h.live d (hheld.mem_iff.mpr hd)
    case fresh =>
      rw [OwnedProcess.closeOnce, hlog, hnext]
      exact h.fresh
    case control => exact hcontrol
    case event => exact hevent
    case settled => exact hsettled.trans (hlog.symm ▸ h.settled)
    case running =>
      rw [OwnedProcess.closeOnce, hpid, hlog]
      exact h.running
    case closed =>
      intro hclosed
      cases hopen.symm.trans hclosed
  | some descriptor =>
    have htracked := reportClose_tracked o'.process descriptor error
    simp only [ComputeProcess.tracked, Prod.mk.injEq] at htracked
    obtain ⟨hpid', hcontrol', hevent', hclosed', hsettled'⟩ := htracked
    rw [hsettled] at hsettled'
    refine ⟨?_, rfl, rfl, rfl, hclosed'.trans hopen, hsettled'.trans ?_⟩
    · exact h.release _ (by rw [← hlog]; rfl) hheld hnext (hcontrol'.trans hcontrol)
        (hevent'.trans hevent) (hpid'.trans hpid) hsettled' (hclosed'.trans hopen)
    · cases error <;> rfl

/-- The first of the two closes. -/
theorem Sound.closeControl (h : o.Sound) (hopen : o.process.observation.channelsClosed = false)
    (error : Option Int) :
    (o.takeControl.closeOnce o.control error).2.Sound ∧
      (o.takeControl.closeOnce o.control error).2.guards = o.guards ∧
      (o.takeControl.closeOnce o.control error).2.control = none ∧
      (o.takeControl.closeOnce o.control error).2.process.observation.channelsClosed = false ∧
      (o.takeControl.closeOnce o.control error).2.process.standing =
        { o.process.standing with
          unclean := o.process.standing.unclean ||
            !(o.takeControl.closeOnce o.control error).1 } := by
  have hheld : o.held.Perm (o.control.toList ++ o.takeControl.held) := by
    simpa [held, takeControl] using
      List.perm_append_comm_assoc o.guards o.control.toList o.event.toList
  obtain ⟨hsound, hguards, hcontrol, -, hopened, hsettled⟩ :=
    h.closeOnce o.takeControl rfl hheld rfl rfl h.event rfl rfl hopen error
  exact ⟨hsound, hguards, hcontrol, hopened, hsettled⟩

/-- The channels are closed, and the answer says so, exactly when nothing of the child is left. -/
theorem Sound.closeChannels (h : o.Sound) (control event : Option Int) :
    (o.closeChannels control event).2.Sound ∧
      (o.closeChannels control event).2.guards = o.guards ∧
      ((o.closeChannels control event).1 = true ↔
        (o.closeChannels control event).2.process.standing.Released) ∧
      ((o.closeChannels control event).1 = true →
        (o.closeChannels control event).2.process.observation.channelsClosed = true) := by
  unfold OwnedProcess.closeChannels
  dsimp only
  split
  · next hclosed => exact ⟨h, rfl, ⟨fun _ ↦ h.closed hclosed, fun _ ↦ rfl⟩, fun _ ↦ hclosed⟩
  next hopen =>
  rw [Bool.not_eq_true] at hopen
  split
  · next hrefused =>
    have hkept : ¬ o.process.standing.Released := by
      rintro ⟨hexited, hended, hlost, hunclean⟩
      simp only [ComputeProcess.standing] at hexited hended hlost hunclean
      simp [hended, hlost, hunclean, Option.isSome_iff_ne_none.mp hexited] at hrefused
    refine ⟨h, rfl, ⟨fun hfalse ↦ ?_, fun hreleased ↦ absurd hreleased hkept⟩, fun hfalse ↦ ?_⟩
    · cases hfalse
    · cases hfalse
  next hready =>
  push Not at hready
  obtain ⟨hexited, hended, hlost, hunclean⟩ := hready
  have hexited : o.process.observation.exitStatus.isSome = true := by
    simpa [Option.isSome_iff_ne_none] using hexited
  obtain ⟨hsound₁, hguards₁, hcontrol₁, hopen₁, hsettled₁⟩ := h.closeControl hopen control
  generalize o.takeControl.closeOnce o.control control = controlled at *
  obtain ⟨controlClosed, o₁⟩ := controlled
  dsimp only at *
  have hheld : o₁.held.Perm (o₁.event.toList ++ o₁.takeEvent.held) := by
    simpa [held, takeEvent, hcontrol₁] using List.perm_append_comm
  obtain ⟨hsound₂, hguards₂, -, -, hopen₂, hsettled₂⟩ :=
    hsound₁.closeOnce o₁.takeEvent rfl hheld rfl hsound₁.control rfl rfl rfl hopen₁ event
  generalize o₁.takeEvent.closeOnce o₁.event event = released at *
  obtain ⟨eventClosed, o₂⟩ := released
  dsimp only at *
  have hreleased : o₂.process.standing.Released ↔ (controlClosed && eventClosed) = true := by
    rw [hsettled₂, hsettled₁]
    simp [Standing.Released, ComputeProcess.standing, hexited, hended, hlost, hunclean]
  refine ⟨?_, hguards₂.trans hguards₁, hreleased.symm, id⟩
  exact hsound₂.change rfl rfl rfl rfl hreleased.mpr

/-! ### The members alone -/

/-- Only the first failed close is remembered. -/
theorem reportClose_reportClose (p : ComputeProcess) (first second : Option Int) :
    (p.reportClose first).reportClose second = p.reportClose (first <|> second) := by
  have herror (error : Int) : errorOr error eio ≠ 0 := by
    unfold errorOr
    split
    · decide
    · assumption
  cases first with
  | none => rfl
  | some error =>
    cases second with
    | none => rfl
    | some error' =>
      have hfirst : (p.rememberIoError error).observation.ioError ≠ 0 := by
        unfold ComputeProcess.rememberIoError
        split
        · exact herror error
        · assumption
      change { ComputeProcess.rememberIoError { p.rememberIoError error with
        channelCleanupUnknown := true } error' with channelCleanupUnknown := true } = _
      rw [ComputeProcess.rememberIoError, if_neg hfirst]
      rfl

/-- Guards report the first of their closes that fails. -/
theorem process_resetAll (descriptors : List ℕ) (errors : List (Option Int)) (o : OwnedProcess) :
    ∃ close, (resetAll descriptors errors o).process = o.process.reportClose close := by
  induction descriptors generalizing errors o with
  | nil => exact ⟨none, rfl⟩
  | cons descriptor descriptors ih =>
    obtain ⟨close, hclose⟩ := ih errors.tail (o.reset descriptor errors.head?.join)
    exact ⟨_, hclose.trans (reportClose_reportClose _ _ _)⟩

/-- Opening a descriptor changes no member. -/
theorem process_acquire (o : OwnedProcess) : o.acquire.2.process = o.process := rfl

/-- A pair reports the first of its closes that fails, and a refused one has an error. -/
theorem process_makePair (answer : PairAnswer) (o : OwnedProcess) :
    (∃ close, (o.makePair answer).2.process = o.process.reportClose close) ∧
      ∀ error owned, (o.makePair answer).1 = .failed error owned → error ≠ 0 := by
  have herror {error fallback : Int} (h : fallback ≠ 0) : errorOr error fallback ≠ 0 := by
    unfold errorOr
    split
    · exact h
    · assumption
  have hemfile : emfile ≠ 0 := by decide
  have heio : eio ≠ 0 := by decide
  have hclosed (descriptors : List ℕ) (o' : OwnedProcess) (h : o'.process = o.process) :
      ∃ close,
        (resetAll descriptors answer.closes o').process = o.process.reportClose close := by
    rw [← h]
    exact process_resetAll descriptors answer.closes o'
  unfold OwnedProcess.makePair
  split
  · refine ⟨⟨none, rfl⟩, ?_⟩
    rintro _ _ ⟨⟩
    exact herror hemfile
  dsimp only
  split
  · refine ⟨hclosed _ _ (by simp only [process_acquire]), ?_⟩
    rintro _ _ ⟨⟩
    exact herror hemfile
  split
  · refine ⟨hclosed _ _ (by simp only [process_acquire]), ?_⟩
    rintro _ _ ⟨⟩
    exact herror hemfile
  split
  · refine ⟨hclosed _ _ (by simp only [process_acquire]), ?_⟩
    rintro _ _ ⟨⟩
    exact herror heio
  · refine ⟨hclosed _ _ (by simp only [process_acquire]), ?_⟩
    rintro _ _ ⟨⟩
    exact herror heio
  · refine ⟨hclosed _ _ (by simp only [process_acquire]), ?_⟩
    intro error owned hmade
    simp at hmade

/-- A launch changes the members as it does with one answer for all that it meets. -/
theorem process_launch (o : OwnedProcess) (answer : LaunchCalls) :
    ∃ summary, ((o.launch answer).1, (o.launch answer).2.process) = o.process.launch summary := by
  by_cases hstart : o.process.observation.launched = true ∨
      o.process.observation.stopRequested = true ∨ ¬ validIterations o.process.iterations ∨
      answer.executableError ≠ 0
  · refine ⟨⟨answer.executableError, 0, none, 0, 0, none⟩, ?_⟩
    unfold OwnedProcess.launch ComputeProcess.launch
    dsimp only
    split
    · rfl
    split
    · rfl
    split
    · rfl
    split
    · rfl
    · tauto
  push Not at hstart
  obtain ⟨hlaunched, hstopped, hvalid, hexecutable⟩ := hstart
  have hprocess (channelError : Int) (channelClose : Option Int) (spawnError child : Int)
      (returnClose : Option Int) :
      o.process.launch
          ⟨0, channelError, channelClose, spawnError, child, returnClose⟩ =
        let p := (o.process.refuseLaunch 0).reportClose channelClose
        if channelError ≠ 0 ∨ p.channelCleanupUnknown = true then
          (false,
            (p.refuseLaunch (errorOr channelError p.observation.ioError)).reportClose returnClose)
        else if spawnError ≠ 0 ∨ child ≤ 0 then
          (false, (p.refuseLaunch (errorOr spawnError echild)).reportClose returnClose)
        else (true, (p.adopt child).reportClose returnClose) := by
    unfold ComputeProcess.launch
    rw [if_neg hlaunched, if_neg hstopped, if_neg (not_not.mpr hvalid), if_neg (by simp)]
  unfold OwnedProcess.launch
  dsimp only
  rw [if_neg hlaunched, if_neg hstopped, if_neg (not_not.mpr hvalid),
    if_neg (not_not.mpr hexecutable)]
  obtain ⟨⟨controlClose, hcontrol⟩, hcontrolError⟩ :=
    process_makePair answer.control (o.become (o.process.refuseLaunch 0))
  generalize (o.become (o.process.refuseLaunch 0)).makePair answer.control = made at *
  obtain ⟨result, o₁⟩ := made
  dsimp only at *
  cases result with
  | failed error owned =>
    obtain ⟨returnClose, hreturn⟩ :=
      process_resetAll owned answer.returns
        (o₁.become (o₁.process.refuseLaunch (errorOr error o₁.process.observation.ioError)))
    refine ⟨⟨0, error, controlClose, 0, 0, returnClose⟩, ?_⟩
    rw [hprocess, if_pos (.inl (hcontrolError error owned rfl))]
    unfold refuse
    rw [hreturn, become, hcontrol]
    rfl
  | made control control' =>
  dsimp only
  obtain ⟨⟨eventClose, hevent⟩, heventError⟩ :=
    process_makePair { answer.events with option := none } o₁
  generalize o₁.makePair { answer.events with option := none } = made at *
  obtain ⟨result, o₂⟩ := made
  dsimp only at *
  rw [hcontrol, reportClose_reportClose] at hevent
  change o₂.process = (o.process.refuseLaunch 0).reportClose (controlClose <|> eventClose) at hevent
  have hrefuse (o' : OwnedProcess) (h : o'.process = o₂.process) (error : Int) (owned : List ℕ) :
      ∃ returnClose, (o'.refuse error owned answer.returns).2.process =
        (o₂.process.refuseLaunch error).reportClose returnClose := by
    rw [← h]
    exact process_resetAll owned answer.returns (o'.become (o'.process.refuseLaunch error))
  cases result with
  | failed error owned =>
    obtain ⟨returnClose, hreturn⟩ := hrefuse o₂ rfl
      (errorOr error o₂.process.observation.ioError) (owned ++ [control', control])
    refine ⟨⟨0, error, controlClose <|> eventClose, 0, 0, returnClose⟩, ?_⟩
    rw [hprocess, if_pos (.inl (heventError error owned rfl)), hreturn, hevent]
    rfl
  | made events events' =>
  dsimp only
  split
  · next hunclean =>
    obtain ⟨returnClose, hreturn⟩ := hrefuse o₂ rfl o₂.process.observation.ioError
      [events', events, control', control]
    refine ⟨⟨0, 0, controlClose <|> eventClose, 0, 0, returnClose⟩, ?_⟩
    rw [hprocess, hreturn, ← hevent, if_pos (.inr hunclean)]
    rfl
  next hclean =>
  have hmade : ¬ ((0 : Int) ≠ 0 ∨ o₂.process.channelCleanupUnknown = true) := by simpa using hclean
  split
  · next hactions =>
    obtain ⟨returnClose, hreturn⟩ := hrefuse o₂ rfl answer.actionsError
      [events', events, control', control]
    refine ⟨⟨0, 0, controlClose <|> eventClose, answer.actionsError, 0, returnClose⟩, ?_⟩
    rw [hprocess, hreturn, ← hevent, if_neg hmade, if_pos (.inl hactions), errorOr, if_neg hactions]
    rfl
  split
  · next error _ =>
    obtain ⟨returnClose, hreturn⟩ := hrefuse (o₂.emit (.spawn none)) rfl (errorOr error echild)
      [events', events, control', control]
    refine ⟨⟨0, 0, controlClose <|> eventClose, error, 0, returnClose⟩, ?_⟩
    rw [hprocess, hreturn, ← hevent, if_neg hmade, if_pos (.inr le_rfl)]
    rfl
  next child _ =>
  split
  · next hchild =>
    obtain ⟨returnClose, hreturn⟩ := hrefuse (o₂.emit (.spawn none)) rfl echild
      [events', events, control', control]
    refine ⟨⟨0, 0, controlClose <|> eventClose, 0, child, returnClose⟩, ?_⟩
    rw [hprocess, hreturn, ← hevent, if_neg hmade, if_pos (.inr hchild)]
    rfl
  · next hchild =>
    obtain ⟨returnClose, hreturn⟩ := process_resetAll [events', control] answer.returns
      { o₂.emit (.spawn (some child)) with
        process := o₂.process.adopt child
        control := some control'
        event := some events
        guards := (o₂.guards.erase control').erase events }
    refine ⟨⟨0, 0, controlClose <|> eventClose, 0, child, returnClose⟩, ?_⟩
    rw [hprocess, ← hevent, if_neg hmade, if_neg (by simpa using hchild)]
    unfold adopt
    exact congrArg (Prod.mk true) hreturn

/-- A stop request changes the members as it does without descriptors. -/
theorem process_requestStop (o : OwnedProcess) (nowMs : UInt64) (send : Option Int) :
    (o.requestStop nowMs send).process = o.process.requestStop nowMs send := by
  unfold OwnedProcess.requestStop
  dsimp only
  split
  · rfl
  split
  · rfl
  · rfl

private theorem process_drainFrames (descriptor frames : ℕ) (reads : List ReadAnswer)
    (o : OwnedProcess) :
    (drainFrames descriptor frames reads o).process =
      ComputeProcess.drainFrames frames reads o.process := by
  fun_induction OwnedProcess.drainFrames descriptor frames reads o with
  | case1 => simp [ComputeProcess.drainFrames]
  | case2 => simp [ComputeProcess.drainFrames, emit]
  | case3 frames count frame reads o buffered o' hfull ih =>
    rw [ih, ComputeProcess.drainFrames, if_pos hfull]
    rfl
  | case4 frames count frame reads o buffered o' hpartial ih =>
    rw [ih, ComputeProcess.drainFrames, if_neg hpartial]
    rfl
  | case5 => simp [ComputeProcess.drainFrames, become]
  | case6 => simp [ComputeProcess.drainFrames, emit]
  | case7 => simp [ComputeProcess.drainFrames, become]

/-- A poll changes the members as it does without descriptors. -/
theorem process_poll (h : o.Sound) (nowMs : UInt64) (answer : PollAnswer) :
    (o.poll nowMs answer).process = o.process.poll nowMs answer := by
  have hdrain : (o.drainEvents answer.reads).process = o.process.drainEvents answer.reads := by
    unfold OwnedProcess.drainEvents ComputeProcess.drainEvents
    rw [h.event]
    cases o.event with
    | none => rfl
    | some descriptor =>
      by_cases hended : o.process.observation.eventEof = true
      · simp [hended]
      · simp [hended, process_drainFrames]
  have hcollect (o : OwnedProcess) :
      (o.collectExit answer.wait).process = o.process.collectExit answer.wait := by
    unfold OwnedProcess.collectExit
    split
    · next hcollected =>
      unfold ComputeProcess.collectExit
      rw [if_pos hcollected]
    · rfl
  have hkill (o : OwnedProcess) :
      (o.requestTerminationOnce answer.kill).process =
        o.process.requestTerminationOnce answer.kill := by
    unfold OwnedProcess.requestTerminationOnce
    dsimp only
    split
    · next hkept =>
      unfold ComputeProcess.requestTerminationOnce
      rw [if_pos hkept]
    · rfl
  unfold OwnedProcess.poll ComputeProcess.poll
  dsimp only
  split
  · rfl
  · rw [hkill, become, hcollect, hdrain]

/-- The release of the channels changes the members as it does without descriptors. -/
theorem process_closeChannels (h : o.Sound) (control event : Option Int) :
    ((o.closeChannels control event).1, (o.closeChannels control event).2.process) =
      o.process.closeChannels control event := by
  have hclose (o : OwnedProcess) (descriptor : Option ℕ) (error : Option Int) :
      ((o.closeOnce descriptor error).1, (o.closeOnce descriptor error).2.process) =
        o.process.closeOnce descriptor.isSome error := by
    cases descriptor with
    | none => rfl
    | some descriptor => cases error <;> rfl
  unfold OwnedProcess.closeChannels ComputeProcess.closeChannels
  dsimp only
  split
  · rfl
  next hopen =>
  rw [Bool.not_eq_true] at hopen
  split
  · rfl
  have hfirst := hclose o.takeControl o.control control
  obtain ⟨hsound, -, -, -, -⟩ := h.closeControl hopen control
  generalize o.takeControl.closeOnce o.control control = controlled at *
  have hsecond := hclose controlled.2.takeEvent controlled.2.event event
  generalize controlled.2.takeEvent.closeOnce controlled.2.event event = released at *
  change (controlled.1, controlled.2.process) =
    { o.process with controlOpen := false }.closeOnce o.control.isSome control at hfirst
  change (released.1, released.2.process) =
    { controlled.2.process with eventOpen := false }.closeOnce controlled.2.event.isSome event
    at hsecond
  rw [← hsound.event] at hsecond
  rw [h.control, ← hfirst]
  dsimp only
  rw [← hsecond]
  rfl

/-! ### Runs -/

/-- Every call keeps what the members say, and leaves nothing guarded. -/
theorem Sound.call (h : o.Sound) (hguards : o.guards = []) (call : ProcessCall) :
    (o.call call).2.Sound ∧ (o.call call).2.guards = [] := by
  cases call with
  | launch answer => exact h.launch hguards answer
  | requestStop nowMs send =>
    obtain ⟨hsound, hkept⟩ := h.requestStop nowMs send
    exact ⟨hsound, hkept.trans hguards⟩
  | poll nowMs answer =>
    obtain ⟨hsound, hkept⟩ := h.poll nowMs answer
    exact ⟨hsound, hkept.trans hguards⟩
  | closeChannels control event =>
    obtain ⟨hsound, hkept, -, -⟩ := h.closeChannels control event
    exact ⟨hsound, hkept.trans hguards⟩

/-- What the members say holds after every run. -/
theorem sound_run (executable : String) (iterations stopGraceMs : UInt64)
    (calls : List ProcessCall) :
    (ownedProcess.run (create executable iterations stopGraceMs) calls).Sound ∧
      (ownedProcess.run (create executable iterations stopGraceMs) calls).guards = [] :=
  ownedProcess.invariant_run (P := fun o ↦ o.Sound ∧ o.guards = [])
    (fun _ call h ↦ h.1.call h.2 call) ⟨sound_create executable iterations stopGraceMs, rfl⟩ calls

/-- A poll of closed channels does nothing. -/
theorem poll_of_closed (hclosed : o.process.observation.channelsClosed = true) (nowMs : UInt64)
    (answer : PollAnswer) : o.poll nowMs answer = o :=
  if_pos (.inr (.inr hclosed))

/-- Channels that are closed stay closed. -/
theorem Sound.call_closed (h : o.Sound)
    (hclosed : o.process.observation.channelsClosed = true) (call : ProcessCall) :
    (o.call call).2.process.observation.channelsClosed = true := by
  cases call with
  | launch answer =>
    have hlaunched : o.process.observation.launched = true := by
      by_contra hlaunched
      cases (h.open_of_unlaunched (Bool.not_eq_true _ ▸ hlaunched)).symm.trans hclosed
    rw [OwnedProcess.call, OwnedProcess.launch, if_pos hlaunched]
    exact hclosed
  | requestStop nowMs send =>
    have htracked := o.process.tracked_requestStop nowMs send
    simp only [ComputeProcess.tracked, Prod.mk.injEq] at htracked
    have hkept := htracked.2.2.2.1.trans hclosed
    unfold OwnedProcess.call OwnedProcess.requestStop
    dsimp only
    split
    · exact hkept
    split
    · exact hkept
    · exact hkept
  | poll nowMs answer =>
    rw [OwnedProcess.call, poll_of_closed hclosed]
    exact hclosed
  | closeChannels control event =>
    rw [OwnedProcess.call, OwnedProcess.closeChannels, if_pos hclosed]
    exact hclosed

/-- Over every run, whatever the system answers: no descriptor is used before it is opened or
after it was passed to `close`, at most one child is spawned, and it is waited for and signalled,
once, only until `waitpid` has answered that it is gone. `close_channels` answers whether its exit
and the end of its events were seen, it was not lost and no close failed; from then on a poll
changes nothing. -/
theorem run_fine (executable : String) (iterations stopGraceMs : UInt64)
    (calls : List ProcessCall) :
    Preceded Fine (ownedProcess.run (create executable iterations stopGraceMs) calls).log ∧
      ∀ control event closed o,
        (ownedProcess.run (create executable iterations stopGraceMs) calls).closeChannels control
            event = (closed, o) →
          (closed = true ↔
            (∃ pid status, .waitpid pid (.ended status) ∈ o.log) ∧
              (∃ descriptor, .read descriptor true ∈ o.log) ∧
              (∀ pid, .waitpid pid .noChild ∉ o.log) ∧
              ∀ descriptor error, .close descriptor (some error) ∉ o.log) ∧
          (closed = true → ∀ later nowMs answer,
            (ownedProcess.run o later).poll nowMs answer = ownedProcess.run o later) := by
  obtain ⟨hsound, hguards⟩ := sound_run executable iterations stopGraceMs calls
  refine ⟨hsound.fine, fun control event closed o heq ↦ ?_⟩
  obtain ⟨hkept, hkeptGuards, hiff, hclosed⟩ := hsound.closeChannels control event
  rw [heq] at hkept hkeptGuards hiff hclosed
  constructor
  · rw [hiff, hkept.settled, Standing.Released, exited_iff, ended_iff, ← Bool.not_eq_true,
      ← Bool.not_eq_true, lost_iff, unclean_iff]
    push Not
    rfl
  · intro hanswer later nowMs answer
    have hrun := ownedProcess.invariant_run
      (P := fun o ↦ (o.Sound ∧ o.guards = []) ∧ o.process.observation.channelsClosed = true)
      (fun _ call h ↦ ⟨h.1.1.call h.1.2 call, h.1.1.call_closed h.2 call⟩)
      ⟨⟨hkept, hkeptGuards.trans hguards⟩, hclosed hanswer⟩ later
    exact poll_of_closed hrun.2 nowMs answer

end OwnedProcess

end RobotHarness.Compute
