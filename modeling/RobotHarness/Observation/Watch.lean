import Mathlib.Algebra.Order.Group.Int
import Mathlib.Data.List.Chain
import RobotHarness.Base.Mealy

/-!
# The watch over runtime observations

`RuntimeObservationWatch` of `integrations/ros2/nav2_observation/runtime_observation_watch.hpp`.
It ages the clock and the odometry by the times at which their stamps advance. An interval that
has expired is remembered when the next observation arrives, so it can be seen from the times of
all advances.
-/

namespace RobotHarness.Observation

/-- The streams that are watched, and what `stale` reports of them. -/
inductive StaleObservation where
  | clock | odometry
  deriving DecidableEq, Repr

/-- `kBudgetMs`. -/
def budgetMs : ℕ := 2000

/-- `Stream`. -/
structure Stream where
  stamp : ℤ := 0
  advancedAt : ℕ := 0
  deriving DecidableEq, Repr

namespace Stream

/-- `Stream::observe`. -/
def observe (s : Stream) (value : ℤ) (time : ℕ) : Stream :=
  if s.stamp < value ∧ s.advancedAt ≤ time then { stamp := value, advancedAt := time } else s

/-- `Stream::expired`. -/
def expired (s : Stream) (time : ℕ) : Prop :=
  s.advancedAt ≤ time ∧ budgetMs ≤ time - s.advancedAt
  deriving Decidable

end Stream

/-- The watch of the streams of observations. -/
structure RuntimeObservationWatch where
  lost : Option StaleObservation := none
  active : Bool := false
  clock : Stream := {}
  odometry : Stream := {}
  deriving DecidableEq, Repr

/-- A call of the watch. -/
inductive WatchCall where
  | start (time : ℕ)
  | observeClock (stamp : ℤ) (time : ℕ)
  | observeOdometry (stamp : ℤ) (time : ℕ) (valid : Bool)
  | stale (time : ℕ)
  deriving DecidableEq, Repr

namespace RuntimeObservationWatch

/-- `start`. -/
def start (w : RuntimeObservationWatch) (time : ℕ) : RuntimeObservationWatch :=
  { lost := none
    active := true
    clock := { w.clock with advancedAt := time }
    odometry := { w.odometry with advancedAt := time } }

/-- `stale`. -/
def stale (w : RuntimeObservationWatch) (time : ℕ) : Option StaleObservation :=
  if w.lost.isSome then w.lost
  else if w.active = true ∧ w.clock.expired time then some .clock
  else if w.active = true ∧ w.odometry.expired time then some .odometry
  else none

/-- `latch_expiry`. -/
def latchExpiry (w : RuntimeObservationWatch) (time : ℕ) : RuntimeObservationWatch :=
  if w.lost.isSome then w else { w with lost := w.stale time }

/-- `observe_clock`. -/
def observeClock (w : RuntimeObservationWatch) (stamp : ℤ) (time : ℕ) :
    RuntimeObservationWatch :=
  let w := w.latchExpiry time
  { w with clock := w.clock.observe stamp time }

/-- `observe_odometry`. -/
def observeOdometry (w : RuntimeObservationWatch) (stamp : ℤ) (time : ℕ) (valid : Bool) :
    RuntimeObservationWatch :=
  let w := w.latchExpiry time
  if valid then { w with odometry := w.odometry.observe stamp time } else w

/-- One call. -/
def call (w : RuntimeObservationWatch) :
    WatchCall → Option StaleObservation × RuntimeObservationWatch
  | .start time => (none, w.start time)
  | .observeClock stamp time => (none, w.observeClock stamp time)
  | .observeOdometry stamp time valid => (none, w.observeOdometry stamp time valid)
  | .stale time => (w.stale time, w)

/-- The state of a stream. -/
def stream (w : RuntimeObservationWatch) : StaleObservation → Stream
  | .clock => w.clock
  | .odometry => w.odometry

end RuntimeObservationWatch

/-- The watch as a machine that answers calls. -/
def watch : Mealy RuntimeObservationWatch WatchCall (Option StaleObservation) :=
  ⟨RuntimeObservationWatch.call⟩

/-! ### Gaps -/

/-- Some time does not follow the one before it within the budget. -/
def HasGap (times : List ℕ) : Prop :=
  ¬ times.IsChain fun earlier later ↦ later < earlier + budgetMs
  deriving Decidable

/-- A time that follows makes a gap when it is a budget past the last one. -/
theorem hasGap_append {times : List ℕ} {last time : ℕ} :
    HasGap (times ++ [last] ++ [time]) ↔ HasGap (times ++ [last]) ∨ last + budgetMs ≤ time := by
  unfold HasGap
  rw [List.isChain_append, not_and_or, not_and_or]
  simp

/-! ### What a stream accepts -/

namespace WatchCall

/-- The time of a call. -/
def time : WatchCall → ℕ
  | start time | observeClock _ time | observeOdometry _ time _ | stale time => time

/-- The stamp of a valid observation of a stream. -/
def observed : StaleObservation → WatchCall → Option ℤ
  | .clock, observeClock stamp _ => some stamp
  | .odometry, observeOdometry stamp _ true => some stamp
  | _, _ => none

/-- The call starts an execution. -/
def isStart : WatchCall → Bool
  | start _ => true
  | _ => false

end WatchCall

/-- The stamp that a call makes a stream accept, after the earlier ones: that of a valid
observation, above all of them. -/
def accepts (s : StaleObservation) (earlier : List ℤ) (c : WatchCall) : Option ℤ :=
  (c.observed s).filter fun stamp ↦ decide (∀ accepted ∈ earlier, accepted < stamp)

/-- The times at which a stream advances that has accepted the earlier stamps. -/
def advances (s : StaleObservation) (earlier : List ℤ) : List WatchCall → List ℕ
  | [] => []
  | c :: calls =>
    match accepts s earlier c with
    | none => advances s earlier calls
    | some stamp => c.time :: advances s (stamp :: earlier) calls

/-- The stamps that a stream takes over in a sequence of calls. -/
def acceptedStamps (s : StaleObservation) (w : RuntimeObservationWatch) (calls : List WatchCall) :
    List ℤ :=
  (watch.trace w calls).filterMap fun e ↦
    if (e.post.stream s).stamp ≠ (e.pre.stream s).stamp then some (e.post.stream s).stamp else none

/-! ### What the watch knows -/

/-- A watch knows of each stream the last accepted stamp and advance, and whether an interval
expired by its last call. -/
structure Watches (w : RuntimeObservationWatch) (earlier : StaleObservation → List ℤ)
    (times : StaleObservation → List ℕ) (now : ℕ) : Prop where
  active : w.active = true
  stamp : ∀ s x, (∀ accepted ∈ earlier s, accepted < x) ↔ (w.stream s).stamp < x
  last : ∀ s, ∃ front, times s = front ++ [(w.stream s).advancedAt]
  reached : ∀ s, (w.stream s).advancedAt ≤ now
  lost : w.lost.isSome → ∃ s, HasGap (times s ++ [now])
  kept : ∀ s, HasGap (times s) → w.lost.isSome

/-- Times that follow keep a gap. -/
theorem HasGap.append {times : List ℕ} (h : HasGap times) (more : List ℕ) :
    HasGap (times ++ more) :=
  fun hchain ↦ h (List.isChain_append.mp hchain).1

/-- What `stale` reports. -/
theorem RuntimeObservationWatch.stale_isSome {w : RuntimeObservationWatch} (h : w.active = true)
    (time : ℕ) : (w.stale time).isSome ↔ w.lost.isSome ∨ ∃ s, (w.stream s).expired time := by
  have hstreams : (∃ s, (w.stream s).expired time) ↔
      w.clock.expired time ∨ w.odometry.expired time := by
    constructor
    · rintro ⟨s, hs⟩
      cases s with
      | clock => exact .inl hs
      | odometry => exact .inr hs
    · rintro (hs | hs)
      · exact ⟨.clock, hs⟩
      · exact ⟨.odometry, hs⟩
  rw [hstreams, stale, h]
  split
  next hlost => simp [hlost]
  next hlost =>
    split
    next hclock => simp [hclock.2]
    next hclock =>
      have hfresh : ¬ w.clock.expired time := fun hexpired ↦ hclock ⟨rfl, hexpired⟩
      by_cases hodometry : w.odometry.expired time
      · simp [hodometry]
      · simp [hodometry, hfresh, hlost]

namespace Watches

variable {w : RuntimeObservationWatch} {earlier : StaleObservation → List ℤ}
  {times : StaleObservation → List ℕ} {now : ℕ}

/-- A gap up to a time that is not before the last call is one between advances, or the stream
has expired. -/
theorem hasGap_iff (h : Watches w earlier times now) (s : StaleObservation) {time : ℕ}
    (hnow : now ≤ time) :
    HasGap (times s ++ [time]) ↔ HasGap (times s) ∨ (w.stream s).expired time := by
  obtain ⟨front, hfront⟩ := h.last s
  have hreached := (h.reached s).trans hnow
  rw [hfront, hasGap_append, Stream.expired]
  have hexpired : (w.stream s).advancedAt + budgetMs ≤ time ↔
      (w.stream s).advancedAt ≤ time ∧ budgetMs ≤ time - (w.stream s).advancedAt := by omega
  rw [hexpired]

/-- The watch is exact: it reports a stream at a time exactly when some gap lies before it. -/
theorem stale_isSome (h : Watches w earlier times now) {time : ℕ} (hnow : now ≤ time) :
    (w.stale time).isSome ↔ ∃ s, HasGap (times s ++ [time]) := by
  rw [RuntimeObservationWatch.stale_isSome h.active]
  constructor
  · rintro (hlost | ⟨s, hexpired⟩)
    · obtain ⟨s, hgap⟩ := h.lost hlost
      refine ⟨s, (h.hasGap_iff s hnow).mpr ?_⟩
      rcases (h.hasGap_iff s le_rfl).mp hgap with hgap | ⟨hreached, hexpired⟩
      · exact .inl hgap
      · exact .inr ⟨hreached.trans hnow, by omega⟩
    · exact ⟨s, (h.hasGap_iff s hnow).mpr (.inr hexpired)⟩
  · rintro ⟨s, hgap⟩
    rcases (h.hasGap_iff s hnow).mp hgap with hgap | hexpired
    · exact .inl (h.kept s hgap)
    · exact .inr ⟨s, hexpired⟩

/-- A stream takes over the stamp and the time of an observation that it accepts. -/
theorem stream_call (h : Watches w earlier times now) {c : WatchCall} (hstart : c.isStart = false)
    (hnow : now ≤ c.time) (s : StaleObservation) :
    (w.call c).2.stream s =
      match accepts s (earlier s) c with
      | none => w.stream s
      | some stamp => ⟨stamp, c.time⟩ := by
  have hobserve : ∀ stamp, (w.stream s).observe stamp c.time =
      if ∀ accepted ∈ earlier s, accepted < stamp then ⟨stamp, c.time⟩ else w.stream s := by
    intro stamp
    unfold Stream.observe
    simp only [h.stamp s stamp, (h.reached s).trans hnow, and_true]
  have hlatch : ∀ time, (w.latchExpiry time).stream = w.stream := by
    intro time
    unfold RuntimeObservationWatch.latchExpiry
    split <;> rfl
  have hstream : (w.call c).2.stream s =
      match c.observed s with
      | none => w.stream s
      | some stamp => (w.stream s).observe stamp c.time := by
    have hclock : ∀ time, (w.latchExpiry time).clock = w.clock :=
      fun time ↦ congrFun (hlatch time) .clock
    have hodometry : ∀ time, (w.latchExpiry time).odometry = w.odometry :=
      fun time ↦ congrFun (hlatch time) .odometry
    cases c with
    | start => cases hstart
    | stale => cases s <;> rfl
    | observeClock stamp time =>
      cases s with
      | clock => exact congrArg (·.observe stamp time) (hclock time)
      | odometry => exact hodometry time
    | observeOdometry stamp time valid =>
      cases s with
      | clock => cases valid <;> exact hclock time
      | odometry =>
        cases valid
        · exact hodometry time
        · exact congrArg (·.observe stamp time) (hodometry time)
  rw [hstream, accepts]
  cases c.observed s with
  | none => rfl
  | some stamp =>
    dsimp only
    rw [hobserve stamp, Option.filter_some]
    split
    next hall => rw [if_pos (decide_eq_true hall)]
    next hall => rw [if_neg (by simpa using hall)]

/-- What is remembered of an interval after a call. -/
theorem lost_call (c : WatchCall) (hstart : c.isStart = false) :
    ((w.call c).2.lost.isSome → (w.stale c.time).isSome) ∧
      (w.lost.isSome → (w.call c).2.lost.isSome) ∧
      ((w.stale c.time).isSome → ∀ s, (c.observed s).isSome → (w.call c).2.lost.isSome) := by
  have hkept : w.lost.isSome → (w.stale c.time).isSome := by
    intro hlost
    rw [RuntimeObservationWatch.stale, if_pos hlost]
    exact hlost
  have hlatch : ∀ time, (w.latchExpiry time).lost = w.stale time := by
    intro time
    unfold RuntimeObservationWatch.latchExpiry
    split
    next hlost => rw [RuntimeObservationWatch.stale, if_pos hlost]
    next => rfl
  have hobservation : (w.call c).2.lost = w.stale c.time →
      ((w.call c).2.lost.isSome → (w.stale c.time).isSome) ∧
      (w.lost.isSome → (w.call c).2.lost.isSome) ∧
      ((w.stale c.time).isSome → ∀ s, (c.observed s).isSome → (w.call c).2.lost.isSome) := by
    intro heq
    rw [heq]
    exact ⟨id, hkept, fun hstale _ _ ↦ hstale⟩
  cases c with
  | start => cases hstart
  | stale => exact ⟨hkept, id, fun _ s hobserved ↦ by cases s <;> cases hobserved⟩
  | observeClock stamp time => exact hobservation (hlatch time)
  | observeOdometry stamp time valid =>
    refine hobservation ?_
    cases valid
    · exact hlatch time
    · exact hlatch time

/-- The earlier stamps after a call. -/
private def earlierAfter (earlier : StaleObservation → List ℤ) (c : WatchCall)
    (s : StaleObservation) : List ℤ :=
  match accepts s (earlier s) c with
  | none => earlier s
  | some stamp => stamp :: earlier s

/-- The times of the advances after a call. -/
private def timesAfter (earlier : StaleObservation → List ℤ) (times : StaleObservation → List ℕ)
    (c : WatchCall) (s : StaleObservation) : List ℕ :=
  match accepts s (earlier s) c with
  | none => times s
  | some _ => times s ++ [c.time]

/-- A call of an execution is watched. -/
private theorem call (h : Watches w earlier times now) {c : WatchCall} (hstart : c.isStart = false)
    (hnow : now ≤ c.time) :
    Watches (w.call c).2 (earlierAfter earlier c) (timesAfter earlier times c) c.time := by
  obtain ⟨hlost, hkept, hlatched⟩ := lost_call (w := w) c hstart
  have hstream := h.stream_call hstart hnow
  refine ⟨?_, fun s x ↦ ?_, fun s ↦ ?_, fun s ↦ ?_, fun hremembered ↦ ?_, fun s hgap ↦ ?_⟩
  · have hactive : ∀ time, (w.latchExpiry time).active = true := by
      intro time
      unfold RuntimeObservationWatch.latchExpiry
      split <;> exact h.active
    cases c with
    | start => cases hstart
    | stale => exact h.active
    | observeClock stamp time => exact hactive time
    | observeOdometry stamp time valid => cases valid <;> exact hactive time
  · rw [hstream s, earlierAfter]
    cases haccepts : accepts s (earlier s) c with
    | none => exact h.stamp s x
    | some stamp =>
      have hnew := (Option.filter_eq_some_iff.mp haccepts).2
      rw [List.forall_mem_cons]
      refine ⟨And.left, fun hlt ↦ ⟨hlt, fun accepted haccepted ↦ ?_⟩⟩
      exact (of_decide_eq_true hnew accepted haccepted).trans hlt
  · rw [hstream s, timesAfter]
    cases accepts s (earlier s) c with
    | none => exact h.last s
    | some stamp => exact ⟨times s, rfl⟩
  · rw [hstream s]
    cases accepts s (earlier s) c with
    | none => exact (h.reached s).trans hnow
    | some stamp => exact le_rfl
  · obtain ⟨s, hgap⟩ := (h.stale_isSome hnow).mp (hlost hremembered)
    refine ⟨s, ?_⟩
    rw [timesAfter]
    cases accepts s (earlier s) c with
    | none => exact hgap
    | some stamp => exact hgap.append _
  · rw [timesAfter] at hgap
    cases haccepts : accepts s (earlier s) c with
    | none =>
      rw [haccepts] at hgap
      exact hkept (h.kept s hgap)
    | some stamp =>
      rw [haccepts] at hgap
      have hobserved := (Option.filter_eq_some_iff.mp haccepts).1
      exact hlatched ((h.stale_isSome hnow).mpr ⟨s, hgap⟩) s
        (Option.isSome_iff_exists.mpr ⟨stamp, hobserved⟩)

/-- So are all calls of an execution whose times do not decrease. -/
theorem run (h : Watches w earlier times now) {calls : List WatchCall}
    (hstart : ∀ c ∈ calls, c.isStart = false) {time : ℕ}
    (hsorted : (now :: calls.map WatchCall.time ++ [time]).IsChain (· ≤ ·)) :
    ∃ earlier' now', now' ≤ time ∧ Watches (watch.run w calls) earlier'
      (fun s ↦ times s ++ advances s (earlier s) calls) now' := by
  induction calls generalizing w earlier times now with
  | nil =>
    refine ⟨earlier, now, by simpa using hsorted, ?_⟩
    simpa [advances] using h
  | cons c calls ih =>
    simp only [List.map_cons, List.cons_append, List.isChain_cons_cons] at hsorted
    rw [List.forall_mem_cons] at hstart
    obtain ⟨earlier', now', hnow', hnext⟩ :=
      ih (h.call hstart.1 hsorted.1) hstart.2 hsorted.2
    have htimes : (fun s ↦ times s ++ advances s (earlier s) (c :: calls)) = fun s ↦
        timesAfter earlier times c s ++ advances s (earlierAfter earlier c s) calls := by
      funext s
      rw [advances, timesAfter, earlierAfter]
      cases accepts s (earlier s) c with
      | none => rfl
      | some stamp => simp
    rw [htimes]
    exact ⟨earlier', now', hnow', hnext⟩

/-- What has expired stays so, however late the watch is asked. -/
theorem stale_mono (h : Watches w earlier times now) {time time' : ℕ} (hnow : now ≤ time)
    (hle : time ≤ time') (hstale : (w.stale time).isSome) : (w.stale time').isSome := by
  obtain ⟨s, hgap⟩ := (h.stale_isSome hnow).mp hstale
  refine (h.stale_isSome (hnow.trans hle)).mpr ⟨s, (h.hasGap_iff s (hnow.trans hle)).mpr ?_⟩
  rcases (h.hasGap_iff s hnow).mp hgap with hgap | ⟨hreached, hexpired⟩
  · exact .inl hgap
  · exact .inr ⟨hreached.trans hle, by omega⟩

/-- It stays so after more calls, however fresh their observations. -/
theorem stale_run (h : Watches w earlier times now) {calls : List WatchCall}
    (hstart : ∀ c ∈ calls, c.isStart = false) {time time' : ℕ} (hnow : now ≤ time)
    (hsorted : (time :: calls.map WatchCall.time ++ [time']).IsChain (· ≤ ·))
    (hstale : (w.stale time).isSome) : ((watch.run w calls).stale time').isSome := by
  induction calls generalizing w earlier times now time with
  | nil =>
    have hle : time ≤ time' := by simpa using hsorted
    exact h.stale_mono hnow hle hstale
  | cons c calls ih =>
    simp only [List.map_cons, List.cons_append, List.isChain_cons_cons] at hsorted
    rw [List.forall_mem_cons] at hstart
    have hcalled := h.call hstart.1 (hnow.trans hsorted.1)
    refine ih hcalled hstart.2 le_rfl hsorted.2 ?_
    obtain ⟨s, hgap⟩ := (h.stale_isSome (hnow.trans hsorted.1)).mp
      (h.stale_mono hnow hsorted.1 hstale)
    refine (hcalled.stale_isSome le_rfl).mpr ⟨s, ?_⟩
    rw [timesAfter]
    cases accepts s (earlier s) c with
    | none => exact hgap
    | some stamp => exact hgap.append _

end Watches

/-! ### Whole executions -/

/-- A call never takes a stamp back. -/
theorem RuntimeObservationWatch.stamp_le_call (w : RuntimeObservationWatch) (c : WatchCall)
    (s : StaleObservation) : (w.stream s).stamp ≤ ((w.call c).2.stream s).stamp := by
  have hobserve : ∀ (q : Stream) (value : ℤ) (time : ℕ), q.stamp ≤ (q.observe value time).stamp := by
    intro q value time
    unfold Stream.observe
    split
    next hnew => exact hnew.1.le
    next => exact le_rfl
  have hlatch : ∀ time, (w.latchExpiry time).stream = w.stream := by
    intro time
    unfold RuntimeObservationWatch.latchExpiry
    split <;> rfl
  have hclock : ∀ time, (w.latchExpiry time).clock = w.clock :=
    fun time ↦ congrFun (hlatch time) .clock
  have hodometry : ∀ time, (w.latchExpiry time).odometry = w.odometry :=
    fun time ↦ congrFun (hlatch time) .odometry
  cases c with
  | start => cases s <;> exact le_rfl
  | stale => exact le_rfl
  | observeClock stamp time =>
    cases s with
    | clock =>
      change w.clock.stamp ≤ ((w.latchExpiry time).clock.observe stamp time).stamp
      rw [hclock]
      exact hobserve _ _ _
    | odometry => exact (congrArg Stream.stamp (hodometry time)).ge
  | observeOdometry stamp time valid =>
    cases s with
    | clock => cases valid <;> exact (congrArg Stream.stamp (hclock time)).ge
    | odometry =>
      cases valid
      · exact (congrArg Stream.stamp (hodometry time)).ge
      · change w.odometry.stamp ≤ ((w.latchExpiry time).odometry.observe stamp time).stamp
        rw [hodometry]
        exact hobserve _ _ _

/-- The stamp of a stream is the greatest of its first one and those it accepted. -/
theorem forall_acceptedStamps_lt (s : StaleObservation) (w : RuntimeObservationWatch)
    (calls : List WatchCall) (x : ℤ) :
    (∀ accepted ∈ (w.stream s).stamp :: acceptedStamps s w calls, accepted < x) ↔
      ((watch.run w calls).stream s).stamp < x := by
  induction calls generalizing w with
  | nil => simp [acceptedStamps]
  | cons c calls ih =>
    have hle := w.stamp_le_call c s
    refine Iff.trans ?_ (ih (w.call c).2)
    by_cases hsame : ((w.call c).2.stream s).stamp = (w.stream s).stamp
    · have hskip : acceptedStamps s w (c :: calls) = acceptedStamps s (w.call c).2 calls := by
        exact List.filterMap_cons_none (if_neg (not_not.mpr hsame))
      rw [hskip, hsame]
    · have htake : acceptedStamps s w (c :: calls) =
          ((w.call c).2.stream s).stamp :: acceptedStamps s (w.call c).2 calls := by
        exact List.filterMap_cons_some (if_pos hsame)
      rw [htake, List.forall_mem_cons]
      refine and_iff_right_of_imp fun hall ↦ ?_
      exact hle.trans_lt (hall _ List.mem_cons_self)

/-- An execution of the watch: what it met before, the start, and the calls after it. -/
structure WatchRun where
  before : List WatchCall
  startedAt : ℕ
  calls : List WatchCall
  single : ∀ c ∈ calls, c.isStart = false

namespace WatchRun

/-- The watch after all calls. -/
def final (run : WatchRun) : RuntimeObservationWatch :=
  watch.run {} (run.before ++ .start run.startedAt :: run.calls)

/-- The watch that the start leaves. -/
theorem watches_start (run : WatchRun) :
    Watches ((watch.run {} run.before).start run.startedAt)
      (fun s ↦ 0 :: acceptedStamps s {} run.before) (fun _ ↦ [run.startedAt]) run.startedAt where
  active := rfl
  stamp s x := by
    have hstamp := forall_acceptedStamps_lt s {} run.before x
    cases s with
    | clock => exact hstamp
    | odometry => exact hstamp
  last s := ⟨[], by cases s <;> rfl⟩
  reached s := by cases s <;> exact le_rfl
  lost := nofun
  kept _ hgap := absurd (List.isChain_singleton _) hgap

/-- The watchdog is exact: at a time that is not before the calls of an execution, whose times do
not decrease, it reports a stream exactly when, of the start, the advances of that stream and
this time, two that follow each other are a budget apart. A stream advances with a valid
observation whose stamp is above zero and all stamps it accepted before. Once reported, it stays
so whatever the next calls observe, until the next start. -/
theorem stale_iff_hasGap (run : WatchRun) {time : ℕ}
    (hsorted : (run.startedAt :: run.calls.map WatchCall.time ++ [time]).IsChain (· ≤ ·)) :
    ((run.final.stale time).isSome ↔ ∃ s, HasGap (run.startedAt ::
      advances s (0 :: acceptedStamps s {} run.before) run.calls ++ [time])) ∧
    ((run.final.stale time).isSome → ∀ more time', (∀ c ∈ more, c.isStart = false) →
      (time :: more.map WatchCall.time ++ [time']).IsChain (· ≤ ·) →
      ((watch.run run.final more).stale time').isSome) := by
  have hfinal : run.final =
      watch.run ((watch.run {} run.before).start run.startedAt) run.calls := by
    rw [final, Mealy.run_append]
    rfl
  obtain ⟨earlier', now', hnow', hwatches⟩ := run.watches_start.run run.single hsorted
  rw [hfinal]
  exact ⟨hwatches.stale_isSome hnow', fun hstale more time' hmore hlater ↦
    hwatches.stale_run hmore hnow' hlater hstale⟩

/-- An execution that has seen the stamps 100, and then sees the clock alone. -/
def silentOdometry : WatchRun :=
  ⟨[.observeClock 100 900, .observeOdometry 100 900 true], 1000,
    [.observeClock 200 2000, .observeOdometry 100 2900 true], by decide⟩

/-- Its odometry has not advanced since the start. -/
theorem stale_iff_hasGap_silent :
    ∃ s, HasGap (1000 :: advances s (0 :: acceptedStamps s {} silentOdometry.before)
      silentOdometry.calls ++ [3000]) :=
  (@stale_iff_hasGap silentOdometry 3000 (by decide)).1.mp (by decide)

/-- A clock whose first stamp is zero. -/
def zeroClock : WatchRun :=
  ⟨[], 0, [.observeClock 0 1000, .observeOdometry 1 1000 true], by decide⟩

/-- The stamp zero is not above the first stamp of a stream, so it does not advance it, although
no stamp was accepted before. -/
theorem stale_zeroClock :
    (zeroClock.final.stale 2000).isSome ∧ ¬ ∃ s, HasGap (zeroClock.startedAt ::
      advances s (acceptedStamps s {} zeroClock.before) zeroClock.calls ++ [2000]) := by
  refine ⟨by decide, ?_⟩
  rintro ⟨s, hgap⟩
  cases s with
  | clock => exact absurd hgap (by decide)
  | odometry => exact absurd hgap (by decide)

end WatchRun

end RobotHarness.Observation
