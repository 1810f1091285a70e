import RobotHarness.Base.Since
import RobotHarness.Base.Word
import RobotHarness.Motion.Permission

/-!
# What a live permission rests on

Over every history of a permission: a live permission goes back to one accepted opening of its
identity, each call since then came before the deadline of the latest stamp, generations are
opened once and in order, and a latched fault is never left.
-/

namespace RobotHarness.Motion

/-- A permission with a lifetime that the constructor accepts, and the calls made on it. -/
structure PermissionRun where
  lifetimeNs : UInt64
  accepted : lifetimeNs ≠ 0
  calls : List PermissionCall

namespace PermissionRun

/-- The permission that the constructor returns. -/
def start (run : PermissionRun) : MotionPermission := MotionPermission.initial run.lifetimeNs

/-- The calls with their answers, oldest first. -/
def history (run : PermissionRun) : List PermissionEvent := permission.trace run.start run.calls

/-- The start of a run is what the constructor returns. -/
theorem create_eq_ok (run : PermissionRun) :
    MotionPermission.create run.lifetimeNs = .ok run.start := by
  rw [MotionPermission.create, if_neg run.accepted]
  rfl

end PermissionRun

/-! ### What an event did -/

/-- An opening of the identity was accepted. -/
def Opens (identity : MotionPermitIdentity) (e : PermissionEvent) : Prop :=
  ∃ expected issued now prior, e.input = .openFor identity expected issued now prior ∧
    e.output = true

/-- A close of the identity was accepted. -/
def Closes (identity : MotionPermitIdentity) (e : PermissionEvent) : Prop :=
  ∃ now, e.input = .close identity now ∧ e.output = true

/-- An opening or a renewal of the identity was accepted with the stamp. -/
def Stamps (identity : MotionPermitIdentity) (issued : UInt64) (e : PermissionEvent) : Prop :=
  e.output = true ∧
    ((∃ expected now prior, e.input = .openFor identity expected issued now prior) ∨
      ∃ now, e.input = .renew identity issued now)

/-- The deadline is the largest stamp accepted for the identity and the lifetime, without a
wrap; the stamp was not later than its receipt. -/
def InForce (lifetimeNs : UInt64) (identity : MotionPermitIdentity) (h : List PermissionEvent)
    (deadlineNs : UInt64) : Prop :=
  ∃ e ∈ h, ∃ issued, Stamps identity issued e ∧ issued ≤ e.input.nowNs ∧
    (∀ d ∈ h, ∀ other, Stamps identity other d → other ≤ issued) ∧
    issued.toNat + lifetimeNs.toNat = deadlineNs.toNat

/-- The generation that an accepted opening brings into force, when it changes the state. -/
def openedGeneration (e : PermissionEvent) : Option ℕ :=
  match e.input with
  | .openFor identity .. =>
    if e.output = true ∧ e.post.state ≠ e.pre.state then some identity.generation.toNat else none
  | _ => none

/-- The generations opened, oldest first. -/
def openedGenerations (h : List PermissionEvent) : List ℕ := h.filterMap openedGeneration

/-- The event met a permission that the identity held, before its deadline, and did not
close it. -/
def HeldBy (identity : MotionPermitIdentity) (e : PermissionEvent) : Prop :=
  e.pre.state = .active ∧ e.pre.identity = identity ∧ e.input.nowNs < e.pre.deadlineNs ∧
    ¬ Closes identity e

/-! ### The invariant -/

/-- What the history says of a live permission. -/
structure MotionPermission.Live (s : MotionPermission) (h : List PermissionEvent) : Prop where
  held : Since (Opens s.identity) (HeldBy s.identity) h
  stamped : ∃ e ∈ h, Stamps s.identity s.issuedNs e ∧ s.issuedNs ≤ e.input.nowNs
  latest : ∀ d ∈ h, ∀ other, Stamps s.identity other d → other ≤ s.issuedNs
  opened : s.openedNs ≤ s.issuedNs
  deadline : s.issuedNs.toNat + s.lifetimeNs.toNat = s.deadlineNs.toNat

/-- How a permission and its history fit together. -/
structure MotionPermission.Justified (lifetimeNs : UInt64) (h : List PermissionEvent)
    (s : MotionPermission) : Prop where
  lifetime : s.lifetimeNs = lifetimeNs
  ordered : s.state ≠ .faultClosed →
    h.Pairwise (fun d e ↦ d.input.nowNs ≤ e.input.nowNs) ∧
      ∀ d ∈ h, d.input.nowNs ≤ s.observedNs
  used : ∀ d ∈ h, ∀ identity issued, Stamps identity issued d →
    identity.generation ≤ s.identity.generation
  live : s.state = .active → s.Live h
  generations : openedGenerations h = List.range' 1 s.identity.generation.toNat

namespace MotionPermission

variable {lifetimeNs : UInt64} {h : List PermissionEvent} {s : MotionPermission}

private theorem openedGenerations_snoc (h : List PermissionEvent) (e : PermissionEvent) :
    openedGenerations (h ++ [e]) = openedGenerations h ++ (openedGeneration e).toList := by
  unfold openedGenerations
  rw [List.filterMap_append]
  cases he : openedGeneration e <;> simp [he]

/-- An event that keeps the state opens no generation. -/
private theorem openedGenerations_kept {e : PermissionEvent}
    (hkept : e.output = true → e.post.state = e.pre.state) :
    openedGenerations (h ++ [e]) = openedGenerations h := by
  rw [openedGenerations_snoc]
  have hnone : openedGeneration e = none := by
    unfold openedGeneration
    split
    · rw [if_neg]
      rintro ⟨ha, hchanged⟩
      exact hchanged (hkept ha)
    · rfl
  rw [hnone]
  simp

/-- A timely event comes last in the order of times. -/
private theorem Justified.ordered_snoc (hs : s.Justified lifetimeNs h) {e : PermissionEvent}
    (timely : s.Timely e.input.nowNs) :
    (h ++ [e]).Pairwise (fun d e ↦ d.input.nowNs ≤ e.input.nowNs) ∧
      ∀ d ∈ h ++ [e], d.input.nowNs ≤ e.input.nowNs := by
  obtain ⟨hpairwise, hle⟩ := hs.ordered timely.1
  have hall : ∀ d ∈ h, d.input.nowNs ≤ e.input.nowNs := fun d hd ↦
    (hle d hd).trans timely.2.1
  constructor
  · rw [List.pairwise_append]
    refine ⟨hpairwise, List.pairwise_singleton _ _, fun d hd x hx ↦ ?_⟩
    rw [List.mem_singleton.mp hx]
    exact hall d hd
  · intro d hd
    rcases List.mem_append.mp hd with hd | hd
    · exact hall d hd
    · rw [List.mem_singleton.mp hd]

/-- What a stamp in a history that grows by one event is. -/
private theorem forall_mem_snoc {P : PermissionEvent → Prop} {e : PermissionEvent}
    (hall : ∀ d ∈ h, P d) (he : P e) : ∀ d ∈ h ++ [e], P d := by
  intro d hd
  rcases List.mem_append.mp hd with hd | hd
  · exact hall d hd
  · rw [List.mem_singleton.mp hd]
    exact he

/-- Latching the fault leaves nothing to justify but the past. -/
private theorem Justified.faulted (hs : s.Justified lifetimeNs h) {c : PermissionCall}
    {a : Bool} (refused : a = true → ∃ identity now, c = .close identity now) :
    let s' : MotionPermission := { s with state := .faultClosed, observedNs := c.nowNs }
    s'.Justified lifetimeNs (h ++ [⟨s, c, a, s'⟩]) := by
  intro s'
  refine ⟨hs.lifetime, fun hstate ↦ absurd rfl hstate, ?_, nofun, ?_⟩
  · apply forall_mem_snoc hs.used
    rintro identity issued ⟨ha, hinput⟩
    obtain ⟨_, _, rfl⟩ := refused ha
    rcases hinput with ⟨_, _, _, hinput⟩ | ⟨_, hinput⟩ <;> cases hinput
  · rw [openedGenerations_snoc]
    have hnone : openedGeneration ⟨s, c, a, s'⟩ = none := by
      unfold openedGeneration
      split
      · next identity _ _ _ _ hinput =>
        rw [if_neg]
        rintro ⟨ha, -⟩
        obtain ⟨_, _, hclose⟩ := refused ha
        rw [hclose] at hinput
        cases hinput
      · rfl
    rw [hnone, Option.toList_none, List.append_nil]
    exact hs.generations

/-- Observing the time keeps what is live, and a retry of an opening adds no later stamp. -/
private theorem Justified.observed (hs : s.Justified lifetimeNs h) {c : PermissionCall}
    {a : Bool} (timely : s.Timely c.nowNs) (confirmed : a = true → s.Confirms c) :
    let s' : MotionPermission := { s with observedNs := c.nowNs }
    s'.Justified lifetimeNs (h ++ [⟨s, c, a, s'⟩]) := by
  intro s'
  have hstamp : ∀ identity issued, Stamps identity issued ⟨s, c, a, s'⟩ →
      s.state = .active ∧ identity = s.identity ∧ issued = s.openedNs := by
    rintro identity issued ⟨ha, hinput⟩
    have hconfirmed := confirmed ha
    rcases hinput with ⟨_, _, _, hinput⟩ | ⟨_, hinput⟩ <;> dsimp only at hinput <;> subst hinput
    · exact ⟨hconfirmed.1, hconfirmed.2.1.symm, hconfirmed.2.2.1⟩
    · exact absurd hconfirmed id
  refine ⟨hs.lifetime, fun _ ↦ hs.ordered_snoc (e := ⟨s, c, a, s'⟩) timely, ?_, ?_, ?_⟩
  · apply forall_mem_snoc hs.used
    intro identity issued hstamps
    rw [(hstamp identity issued hstamps).2.1]
  · intro hactive
    have hlive := hs.live hactive
    obtain ⟨e, he, hstamped⟩ := hlive.stamped
    refine ⟨?_, ⟨e, List.mem_append_left _ he, hstamped⟩, ?_, hlive.opened, hlive.deadline⟩
    · apply hlive.held.later
      refine ⟨hactive, rfl, timely.2.2 hactive, ?_⟩
      rintro ⟨now, hinput, ha⟩
      dsimp only at hinput
      have hconfirmed := confirmed ha
      rw [hinput] at hconfirmed
      exact hconfirmed.1 hactive
    · apply forall_mem_snoc hlive.latest
      intro issued hstamps
      rw [(hstamp _ issued hstamps).2.2]
      exact hlive.opened
  · rw [openedGenerations_kept fun _ ↦ rfl]
    exact hs.generations

/-- A valid stamp ends without a wrap. -/
private theorem validStamp_toNat {issued now : UInt64} (h : s.validStamp issued now) :
    issued.toNat + s.lifetimeNs.toNat = (issued + s.lifetimeNs).toNat :=
  (Word.toNat_add_of_le h.2.2.1).symm

/-- An opening brings a generation into force that no stamp was accepted for. -/
private theorem Justified.opened (hs : s.Justified lifetimeNs h)
    {identity : MotionPermitIdentity} {issued now : UInt64} (timely : s.Timely now)
    (stamp : s.validStamp issued now) (closed : s.state ≠ .active)
    (unexhausted : s.identity.generation ≠ 0xFFFFFFFFFFFFFFFF)
    (next : identity.generation = s.identity.generation + 1) :
    let c : PermissionCall := .openFor identity s.identity.generation issued now true
    let s' : MotionPermission := { s with observedNs := now }.opened identity issued
    s'.Justified lifetimeNs (h ++ [⟨s, c, true, s'⟩]) := by
  intro c s'
  have hlt : s.identity.generation < identity.generation := by
    rw [next]
    exact Word.lt_succ unexhausted
  have hstamp : ∀ other stamped, Stamps other stamped ⟨s, c, true, s'⟩ →
      other = identity ∧ stamped = issued := by
    rintro other stamped ⟨-, hinput⟩
    rcases hinput with ⟨_, _, _, hinput⟩ | ⟨_, hinput⟩
    · cases hinput
      exact ⟨rfl, rfl⟩
    · cases hinput
  refine ⟨hs.lifetime, fun _ ↦ hs.ordered_snoc (e := ⟨s, c, true, s'⟩) timely, ?_, ?_, ?_⟩
  · apply forall_mem_snoc fun d hd other stamped hstamps ↦
      (hs.used d hd other stamped hstamps).trans hlt.le
    intro other stamped hstamps
    rw [(hstamp other stamped hstamps).1]
  · intro _
    refine ⟨Since.now ⟨_, _, _, _, rfl, rfl⟩,
      ⟨⟨s, c, true, s'⟩, by simp, ⟨rfl, .inl ⟨_, _, _, rfl⟩⟩, stamp.2.1⟩, ?_, le_refl _,
      validStamp_toNat stamp⟩
    apply forall_mem_snoc
    · intro d hd stamped hstamps
      exact absurd (hs.used d hd _ stamped hstamps) (not_le.mpr hlt)
    · intro stamped hstamps
      rw [(hstamp _ stamped hstamps).2]
      exact le_refl _
  · have hgeneration : identity.generation.toNat = s.identity.generation.toNat + 1 := by
      rw [next, Word.toNat_succ unexhausted]
    have hopened : openedGeneration ⟨s, c, true, s'⟩ = some identity.generation.toNat := by
      have hchanged : PermissionState.active ≠ s.state := Ne.symm closed
      simp [openedGeneration, c, s', MotionPermission.opened, hchanged]
    have hafter : s'.identity.generation = identity.generation := rfl
    rw [openedGenerations_snoc, hopened, hs.generations, hafter, hgeneration,
      List.range'_1_concat, Nat.add_comm 1]
    rfl

/-- A renewal brings its later stamp into force. -/
private theorem Justified.renewed (hs : s.Justified lifetimeNs h) {issued now : UInt64}
    (timely : s.Timely now) (stamp : s.validStamp issued now) (active : s.state = .active)
    (later : s.issuedNs < issued) :
    let c : PermissionCall := .renew s.identity issued now
    let s' : MotionPermission := { s with observedNs := now }.renewed issued
    s'.Justified lifetimeNs (h ++ [⟨s, c, true, s'⟩]) := by
  intro c s'
  have hlive := hs.live active
  have hstamp : ∀ other stamped, Stamps other stamped ⟨s, c, true, s'⟩ →
      other = s.identity ∧ stamped = issued := by
    rintro other stamped ⟨-, hinput⟩
    rcases hinput with ⟨_, _, _, hinput⟩ | ⟨_, hinput⟩
    · cases hinput
    · cases hinput
      exact ⟨rfl, rfl⟩
  refine ⟨hs.lifetime, fun _ ↦ hs.ordered_snoc (e := ⟨s, c, true, s'⟩) timely, ?_, ?_, ?_⟩
  · apply forall_mem_snoc hs.used
    intro other stamped hstamps
    rw [(hstamp other stamped hstamps).1]
  · intro _
    refine ⟨?_, ⟨⟨s, c, true, s'⟩, by simp, ⟨rfl, .inr ⟨_, rfl⟩⟩, stamp.2.1⟩, ?_,
      hlive.opened.trans later.le, validStamp_toNat stamp⟩
    · apply hlive.held.later
      refine ⟨active, rfl, timely.2.2 active, ?_⟩
      rintro ⟨_, hinput, -⟩
      cases hinput
    · apply forall_mem_snoc
      · intro d hd stamped hstamps
        exact (hlive.latest d hd stamped hstamps).trans later.le
      · intro stamped hstamps
        rw [(hstamp _ stamped hstamps).2]
        exact le_refl _
  · rw [openedGenerations_kept fun _ ↦ rfl]
    exact hs.generations

/-- A close leaves nothing live. -/
private theorem Justified.closed (hs : s.Justified lifetimeNs h) {now : UInt64}
    (timely : s.Timely now) :
    let c : PermissionCall := .close s.identity now
    let s' : MotionPermission := { s with state := .normalClosed, observedNs := now }
    s'.Justified lifetimeNs (h ++ [⟨s, c, true, s'⟩]) := by
  intro c s'
  refine ⟨hs.lifetime, fun _ ↦ hs.ordered_snoc (e := ⟨s, c, true, s'⟩) timely, ?_, nofun, ?_⟩
  · apply forall_mem_snoc hs.used
    rintro other stamped ⟨-, hinput⟩
    rcases hinput with ⟨_, _, _, hinput⟩ | ⟨_, hinput⟩ <;> cases hinput
  · rw [openedGenerations_snoc]
    have hnone : openedGeneration ⟨s, c, true, s'⟩ = none := rfl
    rw [hnone, Option.toList_none, List.append_nil]
    exact hs.generations

/-- Every step keeps the permission justified. -/
theorem Justified.step (hs : s.Justified lifetimeNs h) {c : PermissionCall} {a : Bool}
    {s' : MotionPermission} (step : PermissionStep s c a s') :
    s'.Justified lifetimeNs (h ++ [⟨s, c, a, s'⟩]) := by
  cases step with
  | faulted _ refused => exact hs.faulted refused
  | observed timely confirmed => exact hs.observed timely confirmed
  | opened timely stamp closed unexhausted next =>
    exact hs.opened timely stamp closed unexhausted next
  | renewed timely stamp active later => exact hs.renewed timely stamp active later
  | closed timely => exact hs.closed timely

/-- A fresh permission is justified. -/
theorem justified_initial (lifetimeNs : UInt64) : (initial lifetimeNs).Justified lifetimeNs [] :=
  { lifetime := rfl
    ordered := fun _ ↦ ⟨List.Pairwise.nil, fun _ hd ↦ absurd hd List.not_mem_nil⟩
    used := fun _ hd ↦ absurd hd List.not_mem_nil
    live := fun hactive ↦ by cases hactive
    generations := rfl }

end MotionPermission

/-! ### Runs -/

/-- What an answered consumption tells of the permission. -/
private theorem PermissionStep.consumed {s s' : MotionPermission} {a : Bool}
    {identity : MotionPermitIdentity} {now : UInt64}
    (step : PermissionStep s (.canConsume identity now) a s') (ha : a = true) :
    s.Timely now ∧ s.state = .active ∧ s.identity = identity := by
  cases step with
  | faulted _ refused =>
    obtain ⟨_, _, hclose⟩ := refused ha
    cases hclose
  | observed timely confirmed => exact ⟨timely, confirmed ha⟩

/-- An opening that changes the state was told that zero had been applied. -/
private theorem PermissionStep.prior_zero {e : PermissionEvent}
    (step : PermissionStep e.pre e.input e.output e.post) (h : (openedGeneration e).isSome) :
    ∃ identity expected issued now, e.input = .openFor identity expected issued now true := by
  obtain ⟨s, c, a, s'⟩ := e
  unfold openedGeneration at h
  dsimp only at h step ⊢
  split at h
  · split at h
    · next hopened =>
      cases step with
      | faulted _ refused =>
        obtain ⟨_, _, hclose⟩ := refused hopened.1
        cases hclose
      | observed => exact absurd rfl hopened.2
      | opened => exact ⟨_, _, _, _, rfl⟩
    · cases h
  · cases h

/-- A latched fault stays, and refuses everything but a close. -/
private theorem PermissionStep.latched {s s' : MotionPermission} {c : PermissionCall} {a : Bool}
    (step : PermissionStep s c a s') (h : s.state = .faultClosed) :
    s'.state = .faultClosed ∧ (a = true → ∃ identity now, c = .close identity now) := by
  cases step with
  | faulted _ refused => exact ⟨rfl, refused⟩
  | observed timely | opened timely | renewed timely | closed timely => exact absurd h timely.1

namespace PermissionRun

variable (run : PermissionRun)

/-- Every event is a step. -/
private theorem step {e : PermissionEvent} (he : e ∈ run.history) :
    PermissionStep e.pre e.input e.output e.post := by
  have hevent := permission.eq_event_of_mem_trace he
  rw [hevent]
  exact e.pre.call_step e.input

/-- Every event meets a permission that the history before it justifies. -/
private theorem justified {h t : List PermissionEvent} {e : PermissionEvent}
    (heq : run.history = h ++ e :: t) : e.pre.Justified run.lifetimeNs h :=
  permission.history_pre (Q := fun h s ↦ s.Justified run.lifetimeNs h)
    (fun _ s c hs ↦ hs.step (s.call_step c))
    (MotionPermission.justified_initial run.lifetimeNs) heq

/-- The end of the run is justified by the whole history. -/
private theorem justified_final :
    (permission.run run.start run.calls).Justified run.lifetimeNs run.history :=
  permission.history_run (Q := fun h s ↦ s.Justified run.lifetimeNs h)
    (fun _ s c hs ↦ hs.step (s.call_step c))
    (MotionPermission.justified_initial run.lifetimeNs) run.calls

/-- A live permission has the deadline of its largest stamp. -/
private theorem inForce {h : List PermissionEvent} {s : MotionPermission}
    (hs : s.Justified run.lifetimeNs h) (hactive : s.state = .active) :
    InForce run.lifetimeNs s.identity h s.deadlineNs := by
  have hlive := hs.live hactive
  obtain ⟨e, he, hstamps, hreceipt⟩ := hlive.stamped
  exact ⟨e, he, s.issuedNs, hstamps, hreceipt, hlive.latest, hs.lifetime ▸ hlive.deadline⟩

/-- Motion is permitted only under an opening of the identity that was not closed, at times
that never regress and are before each deadline in force; generations are opened in order,
each once and after zero was applied; and a latched fault permits nothing again. -/
theorem live_with_cause :
    (∀ h e t, run.history = h ++ e :: t → ∀ identity now,
      e.input = .canConsume identity now → e.output = true →
        (h ++ [e]).Pairwise (fun d e ↦ d.input.nowNs ≤ e.input.nowNs) ∧
          ∃ before o since, h = before ++ o :: since ∧ Opens identity o ∧
            (∀ d ∈ since, ¬ Closes identity d) ∧
            ∀ past d rest, since ++ [e] = past ++ d :: rest →
              InForce run.lifetimeNs identity (before ++ o :: past) d.pre.deadlineNs ∧
                d.input.nowNs < d.pre.deadlineNs) ∧
      (∃ n, openedGenerations run.history = List.range' 1 n) ∧
      (∀ e ∈ run.history, (openedGeneration e).isSome →
        ∃ identity expected issued now, e.input = .openFor identity expected issued now true) ∧
      ∀ h e t, run.history = h ++ e :: t → e.post.state = .faultClosed →
        ∀ d ∈ t, d.output = true → ∃ identity now, d.input = .close identity now := by
  refine ⟨?_, ⟨_, run.justified_final.generations⟩, fun e he ↦ (run.step he).prior_zero, ?_⟩
  · intro h e t heq identity now hinput houtput
    have hs := run.justified heq
    have hstep := run.step (e := e) (by simp [heq])
    rw [hinput] at hstep
    obtain ⟨timely, hactive, rfl⟩ := hstep.consumed houtput
    have hnow : e.input.nowNs = now := by rw [hinput]; rfl
    refine ⟨(hs.ordered_snoc (hnow ▸ timely)).1, ?_⟩
    obtain ⟨before, o, since, rfl, hopens, hheld⟩ := (hs.live hactive).held
    refine ⟨before, o, since, rfl, hopens, fun d hd ↦ (hheld d hd).2.2.2, ?_⟩
    intro past d rest hsplit
    -- The call met the permission in the hands of the same identity, before its deadline.
    have hmet : d.pre.state = .active ∧ d.pre.identity = e.pre.identity ∧
        d.input.nowNs < d.pre.deadlineNs := by
      have hd : d ∈ since ++ [e] := by simp [hsplit]
      rcases List.mem_append.mp hd with hd | hd
      · obtain ⟨hstate, hidentity, hlt, -⟩ := hheld d hd
        exact ⟨hstate, hidentity, hlt⟩
      · rw [List.mem_singleton.mp hd, hnow]
        exact ⟨hactive, rfl, timely.2.2 hactive⟩
    have hfront : run.history = (before ++ o :: past) ++ d :: (rest ++ t) := by
      have hassoc : run.history = before ++ o :: (since ++ [e]) ++ t := by simp [heq]
      rw [hassoc, hsplit]
      simp
    refine ⟨?_, hmet.2.2⟩
    have hforce := run.inForce (run.justified hfront) hmet.1
    rwa [hmet.2.1] at hforce
  · intro h e t heq hfault
    have hlatched := permission.stable_after (P := fun s ↦ s.state = .faultClosed)
      (fun s c hs ↦ ((s.call_step c).latched hs).1) heq hfault
    intro d hd houtput
    have hstep := run.step (e := d) (by simp [heq, hd])
    exact (hstep.latched (hlatched.2 d hd)).2 houtput

end PermissionRun

end RobotHarness.Motion
