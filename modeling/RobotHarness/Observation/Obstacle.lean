import Mathlib.Algebra.Order.Field.Rat
import Mathlib.Data.List.Induction

/-!
# Obstacle decisions

`ObstacleWatch` of `integrations/ros2/nav2_observation/obstacle_watch.hpp`. The watch keeps the
last scan, the last costmap and two windows of three scans. Its decisions are those that the
history of the accepted observations calls for.
-/

namespace RobotHarness.Observation

/-- A `double`. -/
inductive Double where
  | finite (value : ℚ)
  | infinite (negative : Bool)
  | nan
  deriving DecidableEq, Repr

namespace Double

/-- `std::isfinite`. -/
def isFinite : Double → Bool
  | finite _ => true
  | _ => false

/-- `<=`. -/
def le : Double → Double → Bool
  | finite x, finite y => decide (x ≤ y)
  | finite _, infinite negative => !negative
  | infinite negative, finite _ => negative
  | infinite negative, infinite negative' => negative || !negative'
  | _, _ => false

/-- `<`. -/
def lt : Double → Double → Bool
  | finite x, finite y => decide (x < y)
  | finite _, infinite negative => !negative
  | infinite negative, finite _ => negative
  | infinite negative, infinite negative' => negative && !negative'
  | _, _ => false

end Double

/-- The `double` nearest to 1.3. -/
def clearLimit : Double := .finite (5854679515581645 / 4503599627370496)

/-- The `double` nearest to 1.05. -/
def closeLimit : Double := .finite (4728779608739021 / 4503599627370496)

/-- What the watch says of going on. -/
inductive ObstacleDecision where
  | continues | blocked | unknown
  deriving DecidableEq, Repr

/-- When a value was observed and received, and whether it was valid. -/
structure Sample where
  stamp : ℤ := 0
  received : ℤ := 0
  valid : Bool := false
  deriving DecidableEq, Repr

/-- `fresh`. -/
def Sample.Fresh (s : Sample) (time clock limitMs : ℤ) : Prop :=
  s.valid = true ∧ 0 < s.stamp ∧ s.received ≤ time ∧ time - s.received < limitMs ∧ 0 < clock ∧
    s.stamp ≤ clock + 250000000 ∧ clock - s.stamp < limitMs * 1000000
  deriving Decidable

/-- An array of three samples. -/
structure Window where
  first : Sample := {}
  second : Sample := {}
  third : Sample := {}
  deriving DecidableEq, Repr

namespace Window

/-- The samples of a window, in their order. -/
def samples (w : Window) : List Sample :=
  [w.first, w.second, w.third]

/-- The samples move up by one place. -/
def push (w : Window) (s : Sample) : Window :=
  ⟨w.second, w.third, s⟩

end Window

/-- The watch of the space ahead. -/
structure ObstacleWatch where
  scan : Sample := {}
  costmap : Sample := {}
  clearance : Double := .finite 0
  occupied : Bool := false
  closeWindow : Window := {}
  clearWindow : Window := {}
  deriving DecidableEq, Repr

/-- The arguments of `observe_scan`. -/
structure ScanObservation where
  stamp : ℤ
  received : ℤ
  clearance : Double
  valid : Bool
  deriving DecidableEq, Repr

/-- The arguments of `observe_costmap`. -/
structure CostmapObservation where
  stamp : ℤ
  received : ℤ
  occupied : Bool
  valid : Bool
  deriving DecidableEq, Repr

/-- What is kept of a scan. -/
def ScanObservation.sample (o : ScanObservation) : Sample :=
  ⟨o.stamp, o.received, o.valid && o.clearance.isFinite && Double.le (.finite 0) o.clearance⟩

/-- What is kept of a costmap. -/
def CostmapObservation.sample (o : CostmapObservation) : Sample :=
  ⟨o.stamp, o.received, o.valid⟩

namespace ObstacleWatch

/-- `observe_scan`. -/
def observeScan (w : ObstacleWatch) (o : ScanObservation) : ObstacleWatch :=
  if o.stamp ≤ w.scan.stamp then w
  else
    { w with
      scan := o.sample
      clearance := o.clearance
      clearWindow :=
        if o.sample.valid = true ∧ clearLimit.lt o.clearance = true then
          w.clearWindow.push o.sample
        else {}
      closeWindow :=
        if o.sample.valid = true ∧ o.clearance.le closeLimit = true then
          w.closeWindow.push o.sample
        else {} }

/-- `observe_costmap`. -/
def observeCostmap (w : ObstacleWatch) (o : CostmapObservation) : ObstacleWatch :=
  if o.stamp ≤ w.costmap.stamp then w
  else { w with costmap := o.sample, occupied := o.occupied }

/-- `scan_fresh`. -/
def ScanFresh (w : ObstacleWatch) (time clock : ℤ) : Prop :=
  w.scan.Fresh time clock 1500
  deriving Decidable

/-- `costmap_fresh`. -/
def CostmapFresh (w : ObstacleWatch) (time clock : ℤ) : Prop :=
  w.costmap.Fresh time clock 3000
  deriving Decidable

/-- `ready`. -/
def Ready (w : ObstacleWatch) (time clock : ℤ) : Prop :=
  w.ScanFresh time clock ∧ w.CostmapFresh time clock ∧ clearLimit.lt w.clearance = true ∧
    w.occupied = false
  deriving Decidable

/-- `can_resume`. -/
def canResume (w : ObstacleWatch) (time clock afterMs afterNs : ℤ) : Bool :=
  if ¬ w.Ready time clock ∨ w.costmap.stamp ≤ afterNs ∨ w.costmap.received ≤ afterMs then false
  else w.clearWindow.samples.all fun s ↦
    !(¬ s.Fresh time clock 1500 ∨ s.stamp ≤ afterNs ∨ s.received ≤ afterMs : Bool)

/-- `decision`. -/
def decision (w : ObstacleWatch) (time clock : ℤ) : ObstacleDecision :=
  if ¬ w.ScanFresh time clock ∨ ¬ w.CostmapFresh time clock then .unknown
  else if w.closeWindow.samples.any fun s ↦ !(s.Fresh time clock 1500 : Bool) then .continues
  else if w.occupied then .blocked
  else .continues

end ObstacleWatch

/-- A call that observes. -/
inductive ObstacleCall where
  | observeScan (o : ScanObservation)
  | observeCostmap (o : CostmapObservation)
  deriving DecidableEq, Repr

/-- One call. -/
def ObstacleWatch.call (w : ObstacleWatch) : ObstacleCall → ObstacleWatch
  | .observeScan o => w.observeScan o
  | .observeCostmap o => w.observeCostmap o

/-- The watch after a history of calls. -/
def obstacleWatch (calls : List ObstacleCall) : ObstacleWatch :=
  calls.foldl ObstacleWatch.call {}

/-! ### The history -/

section Accepted

variable {α : Type}

/-- The observations whose stamp is above those of all that were accepted before. -/
def accepted (stamp : α → ℤ) (observations : List α) : List α :=
  observations.foldl (fun earlier o ↦
    if ∀ a ∈ earlier, stamp a < stamp o then earlier ++ [o] else earlier) []

/-- The last one meets a condition. -/
def Last (P : α → Prop) (observations : List α) : Prop :=
  ∃ front a, observations = front ++ [a] ∧ P a

/-- Each of the last three meets a condition. -/
def LastThree (P : α → Prop) (observations : List α) : Prop :=
  ∃ front a b c, observations = front ++ [a, b, c] ∧ P a ∧ P b ∧ P c

private theorem accepted_append (stamp : α → ℤ) (observations : List α) (o : α) :
    accepted stamp (observations ++ [o]) =
      if ∀ a ∈ accepted stamp observations, stamp a < stamp o then
        accepted stamp observations ++ [o]
      else accepted stamp observations := by
  unfold accepted
  rw [List.foldl_append]
  rfl

end Accepted

/-- The scans that a history observes. -/
def scans (calls : List ObstacleCall) : List ScanObservation :=
  calls.filterMap fun
    | .observeScan o => some o
    | .observeCostmap _ => none

/-- The costmaps that a history observes. -/
def costmaps (calls : List ObstacleCall) : List CostmapObservation :=
  calls.filterMap fun
    | .observeScan _ => none
    | .observeCostmap o => some o

/-- The accepted scans. -/
def acceptedScans (calls : List ObstacleCall) : List ScanObservation :=
  accepted ScanObservation.stamp (scans calls)

/-- The accepted costmaps. -/
def acceptedCostmaps (calls : List ObstacleCall) : List CostmapObservation :=
  accepted CostmapObservation.stamp (costmaps calls)

/-- The road is clear beyond the limit. -/
def ScanObservation.Clear (o : ScanObservation) : Prop :=
  o.sample.valid = true ∧ clearLimit.lt o.clearance = true
  deriving Decidable

/-- Something is closer than the limit. -/
def ScanObservation.Close (o : ScanObservation) : Prop :=
  o.sample.valid = true ∧ o.clearance.le closeLimit = true
  deriving Decidable

/-- A scan is fresh. -/
def ScanObservation.Fresh (o : ScanObservation) (time clock : ℤ) : Prop :=
  o.sample.Fresh time clock 1500
  deriving Decidable

/-- A costmap is fresh. -/
def CostmapObservation.Fresh (o : CostmapObservation) (time clock : ℤ) : Prop :=
  o.sample.Fresh time clock 3000
  deriving Decidable

/-! ### What the watch retains -/

section Retains

variable {α : Type} {stamp : α → ℤ} {held : ℤ} {initial : Prop} {holds : α → Prop}
  {observations : List α}

/-- The watch holds the last accepted observation, and none as long as no stamp was positive. -/
structure Retains (stamp : α → ℤ) (held : ℤ) (initial : Prop) (holds : α → Prop)
    (observations : List α) : Prop where
  above : ∀ o ∈ observations, stamp o ≤ held
  last : held = 0 ∧ initial ∨
    ∃ front o, observations = front ++ [o] ∧ 0 < stamp o ∧ held = stamp o ∧ holds o

private theorem Retains.nil (hinitial : initial) : Retains stamp 0 initial holds [] :=
  ⟨fun _ ho ↦ (List.not_mem_nil ho).elim, .inl ⟨rfl, hinitial⟩⟩

/-- What is held has no negative stamp. -/
theorem Retains.nonneg (h : Retains stamp held initial holds observations) : 0 ≤ held := by
  rcases h.last with ⟨hzero, -⟩ | ⟨_, o, -, hpos, hheld, -⟩ <;> omega

/-- A positive stamp is above all accepted ones exactly when it is above the one held. -/
theorem Retains.forall_lt_iff (h : Retains stamp held initial holds observations) {x : ℤ}
    (hx : 0 < x) : (∀ o ∈ observations, stamp o < x) ↔ held < x := by
  constructor
  · intro hall
    rcases h.last with ⟨hzero, -⟩ | ⟨front, o, rfl, -, hheld, -⟩
    · omega
    · rw [hheld]
      exact hall o (by simp)
  · intro hlt o ho
    exact (h.above o ho).trans_lt hlt

/-- A condition that only observations with positive stamps meet holds of what is held exactly
when it holds of the last accepted observation. -/
theorem Retains.last_iff (h : Retains stamp held initial holds observations) {R : Prop}
    {Q : α → Prop} (hinitial : initial → ¬ R) (hholds : ∀ o, holds o → (R ↔ Q o))
    (hQ : ∀ o, Q o → 0 < stamp o) : R ↔ Last Q observations := by
  rcases h.last with ⟨hzero, hempty⟩ | ⟨front, o, rfl, -, -, ho⟩
  · refine iff_of_false (hinitial hempty) ?_
    rintro ⟨front, o, rfl, ho⟩
    have hle := h.above o (by simp)
    have hpos := hQ o ho
    omega
  · rw [hholds o ho]
    constructor
    · exact fun hQo ↦ ⟨front, o, rfl, hQo⟩
    · rintro ⟨front', o', heq, hQo⟩
      obtain ⟨-, heq⟩ := List.append_inj' heq rfl
      cases heq
      exact hQo

/-- An observation with a new positive stamp is the one held next. -/
theorem Retains.accept (h : Retains stamp held initial holds observations) {o : α}
    (hpos : 0 < stamp o) (hnew : held < stamp o) {initial' : Prop} {holds' : α → Prop}
    (ho : holds' o) : Retains stamp (stamp o) initial' holds' (observations ++ [o]) := by
  refine ⟨fun a ha ↦ ?_, .inr ⟨observations, o, rfl, hpos, rfl, ho⟩⟩
  rcases List.mem_append.mp ha with ha | ha
  · exact (h.above a ha).trans hnew.le
  · rw [List.mem_singleton.mp ha]

/-- One whose stamp is not positive changes nothing that is held. -/
theorem Retains.ignore (h : Retains stamp held initial holds observations) {o : α}
    (hnew : ∀ a ∈ observations, stamp a < stamp o) (hpos : ¬ 0 < stamp o) :
    Retains stamp held initial holds (observations ++ [o]) := by
  refine ⟨fun a ha ↦ ?_, ?_⟩
  · rcases List.mem_append.mp ha with ha | ha
    · exact h.above a ha
    · rw [List.mem_singleton.mp ha]
      exact (not_lt.mp hpos).trans h.nonneg
  · rcases h.last with hzero | ⟨front, last, rfl, hlast, -, -⟩
    · exact .inl hzero
    · exact absurd ((hlast.trans (hnew last (by simp)))) hpos

end Retains

/-! ### The windows -/

/-- The last accepted scans in a row with positive stamps that meet a condition, newest first. -/
def streak (P : ScanObservation → Prop) [DecidablePred P] (observations : List ScanObservation) :
    List ScanObservation :=
  observations.reverse.takeWhile fun o ↦ decide (0 < o.stamp ∧ P o)

/-- The window that a row of scans fills, newest first. -/
def Window.of : List ScanObservation → Window
  | [] => {}
  | [c] => ⟨{}, {}, c.sample⟩
  | [c, b] => ⟨{}, b.sample, c.sample⟩
  | c :: b :: a :: _ => ⟨a.sample, b.sample, c.sample⟩

private theorem Window.of_cons (o : ScanObservation) (row : List ScanObservation) :
    Window.of (o :: row) = (Window.of row).push o.sample := by
  rcases row with _ | ⟨c, _ | ⟨b, _ | ⟨a, row⟩⟩⟩ <;> rfl

section Streak

variable {P : ScanObservation → Prop} [DecidablePred P] {observations : List ScanObservation}

private theorem streak_append (o : ScanObservation) :
    streak P (observations ++ [o]) =
      if 0 < o.stamp ∧ P o then o :: streak P observations else [] := by
  unfold streak
  rw [List.reverse_append, List.reverse_singleton, List.singleton_append, List.takeWhile_cons]
  simp only [decide_eq_true_eq]

/-- A scan with a positive stamp goes on the window of its streak, or empties it. -/
theorem of_streak_append {o : ScanObservation} (hpos : 0 < o.stamp) :
    Window.of (streak P (observations ++ [o])) =
      if P o then (Window.of (streak P observations)).push o.sample else {} := by
  rw [streak_append]
  by_cases hP : P o
  · rw [if_pos ⟨hpos, hP⟩, if_pos hP, Window.of_cons]
  · rw [if_neg fun h ↦ hP h.2, if_neg hP]
    rfl

/-- Three scans end the streak exactly when they are the last accepted ones and meet its
condition. -/
theorem streak_eq_iff {a b c : ScanObservation} :
    (∃ rest, streak P observations = c :: b :: a :: rest) ↔
      ∃ front, observations = front ++ [a, b, c] ∧ (0 < a.stamp ∧ P a) ∧ (0 < b.stamp ∧ P b) ∧
        0 < c.stamp ∧ P c := by
  have hsnoc : ∀ {o : ScanObservation} {row : List ScanObservation}
      {observations : List ScanObservation}, streak P observations = o :: row ↔
        ∃ front, observations = front ++ [o] ∧ (0 < o.stamp ∧ P o) ∧ streak P front = row := by
    intro o row observations
    induction observations using List.reverseRecOn with
    | nil => simp [streak]
    | append_singleton front last =>
      rw [streak_append]
      constructor
      · intro heq
        split at heq
        next hP =>
          cases heq
          exact ⟨front, rfl, hP, rfl⟩
        next => cases heq
      · rintro ⟨front', heq, hP, rfl⟩
        obtain ⟨rfl, hlast⟩ := List.append_inj' heq rfl
        cases hlast
        rw [if_pos hP]
  constructor
  · rintro ⟨rest, heq⟩
    obtain ⟨front, rfl, hc, heq⟩ := hsnoc.mp heq
    obtain ⟨front, rfl, hb, heq⟩ := hsnoc.mp heq
    obtain ⟨front, rfl, ha, -⟩ := hsnoc.mp heq
    exact ⟨front, by simp, ha, hb, hc⟩
  · rintro ⟨front, rfl, ha, hb, hc⟩
    refine ⟨streak P front, hsnoc.mpr ⟨front ++ [a, b], by simp, hc, ?_⟩⟩
    exact hsnoc.mpr ⟨front ++ [a], by simp, hb, hsnoc.mpr ⟨front, rfl, ha, rfl⟩⟩

/-- A condition that no initial sample meets holds of the whole window of a streak exactly when
it holds of the last three accepted scans and these meet the streak's condition. -/
theorem forall_samples_iff {R : Sample → Prop} (hinitial : ¬ R {})
    (hpos : ∀ s, R s → 0 < s.stamp) :
    (∀ s ∈ (Window.of (streak P observations)).samples, R s) ↔
      LastThree (fun o ↦ P o ∧ R o.sample) observations := by
  constructor
  · intro hall
    rcases hrow : streak P observations with _ | ⟨c, _ | ⟨b, _ | ⟨a, row⟩⟩⟩
    all_goals rw [hrow] at hall
    · exact absurd (hall {} (by simp [Window.of, Window.samples])) hinitial
    · exact absurd (hall {} (by simp [Window.of, Window.samples])) hinitial
    · exact absurd (hall {} (by simp [Window.of, Window.samples])) hinitial
    · obtain ⟨front, heq, ha, hb, hc⟩ := streak_eq_iff.mp ⟨row, hrow⟩
      have hof : ∀ o ∈ [a, b, c], R o.sample := by
        intro o ho
        refine hall o.sample ?_
        exact List.mem_map_of_mem (f := ScanObservation.sample) ho
      refine ⟨front, a, b, c, heq, ⟨ha.2, hof a ?_⟩, ⟨hb.2, hof b ?_⟩, hc.2, hof c ?_⟩ <;> simp
  · rintro ⟨front, a, b, c, rfl, ⟨ha, hRa⟩, ⟨hb, hRb⟩, hc, hRc⟩
    obtain ⟨row, hrow⟩ := streak_eq_iff.mpr
      ⟨front, rfl, ⟨hpos _ hRa, ha⟩, ⟨hpos _ hRb, hb⟩, hpos _ hRc, hc⟩
    rw [hrow]
    intro s hs
    simp only [Window.of, Window.samples, List.mem_cons, List.not_mem_nil, or_false] at hs
    rcases hs with rfl | rfl | rfl
    · exact hRa
    · exact hRb
    · exact hRc

/-- No streak reaches back to scans whose stamps are not positive. -/
theorem streak_eq_nil (h : ∀ o ∈ observations, ¬ 0 < o.stamp) : streak P observations = [] := by
  induction observations using List.reverseRecOn with
  | nil => rfl
  | append_singleton front o =>
    rw [streak_append, if_neg]
    exact fun hP ↦ h o (by simp) hP.1

end Streak

/-! ### Every history -/

/-- The watch after a history retains its accepted observations. -/
structure Reflects (w : ObstacleWatch) (scans : List ScanObservation)
    (costmaps : List CostmapObservation) : Prop where
  scan : Retains ScanObservation.stamp w.scan.stamp (w.scan = {})
    (fun o ↦ w.scan = o.sample ∧ w.clearance = o.clearance) scans
  costmap : Retains CostmapObservation.stamp w.costmap.stamp (w.costmap = {})
    (fun o ↦ w.costmap = o.sample ∧ w.occupied = o.occupied) costmaps
  clearWindow : w.clearWindow = Window.of (streak ScanObservation.Clear scans)
  closeWindow : w.closeWindow = Window.of (streak ScanObservation.Close scans)

namespace Reflects

variable {w : ObstacleWatch} {seen : List ScanObservation} {maps : List CostmapObservation}

private theorem observeScan (h : Reflects w seen maps) (o : ScanObservation) :
    Reflects (w.observeScan o)
      (if ∀ a ∈ seen, a.stamp < o.stamp then seen ++ [o] else seen) maps := by
  have hnonneg := h.scan.nonneg
  by_cases hpos : 0 < o.stamp
  · simp only [h.scan.forall_lt_iff hpos]
    unfold ObstacleWatch.observeScan
    by_cases hnew : w.scan.stamp < o.stamp
    · rw [if_pos hnew, if_neg (not_le.mpr hnew)]
      refine ⟨h.scan.accept hpos hnew ⟨rfl, rfl⟩, h.costmap, ?_, ?_⟩
      · rw [of_streak_append hpos, ← h.clearWindow]
        rfl
      · rw [of_streak_append hpos, ← h.closeWindow]
        rfl
    · rw [if_neg hnew, if_pos (not_lt.mp hnew)]
      exact h
  · have hsame : w.observeScan o = w := by
      unfold ObstacleWatch.observeScan
      rw [if_pos (by omega)]
    rw [hsame]
    split
    next hnew =>
      have hempty : ∀ a ∈ seen, ¬ 0 < a.stamp := fun a ha hlt ↦ hpos (hlt.trans (hnew a ha))
      refine ⟨h.scan.ignore hnew hpos, h.costmap, ?_, ?_⟩
      · rw [streak_append, if_neg fun hP ↦ hpos hP.1, h.clearWindow, streak_eq_nil hempty]
      · rw [streak_append, if_neg fun hP ↦ hpos hP.1, h.closeWindow, streak_eq_nil hempty]
    next => exact h

private theorem observeCostmap (h : Reflects w seen maps) (o : CostmapObservation) :
    Reflects (w.observeCostmap o) seen
      (if ∀ a ∈ maps, a.stamp < o.stamp then maps ++ [o] else maps) := by
  have hnonneg := h.costmap.nonneg
  by_cases hpos : 0 < o.stamp
  · simp only [h.costmap.forall_lt_iff hpos]
    unfold ObstacleWatch.observeCostmap
    by_cases hnew : w.costmap.stamp < o.stamp
    · rw [if_pos hnew, if_neg (not_le.mpr hnew)]
      exact ⟨h.scan, h.costmap.accept hpos hnew ⟨rfl, rfl⟩, h.clearWindow, h.closeWindow⟩
    · rw [if_neg hnew, if_pos (not_lt.mp hnew)]
      exact h
  · have hsame : w.observeCostmap o = w := by
      unfold ObstacleWatch.observeCostmap
      rw [if_pos (by omega)]
    rw [hsame]
    split
    next hnew => exact ⟨h.scan, h.costmap.ignore hnew hpos, h.clearWindow, h.closeWindow⟩
    next => exact h

end Reflects

/-- After every history the watch reflects what it has accepted. -/
theorem reflects (calls : List ObstacleCall) :
    Reflects (obstacleWatch calls) (acceptedScans calls) (acceptedCostmaps calls) := by
  induction calls using List.reverseRecOn with
  | nil =>
    exact ⟨.nil rfl, .nil rfl, rfl, rfl⟩
  | append_singleton calls c ih =>
    have hwatch : obstacleWatch (calls ++ [c]) = (obstacleWatch calls).call c := by
      unfold obstacleWatch
      rw [List.foldl_append]
      rfl
    rw [hwatch]
    cases c with
    | observeScan o =>
      have hmaps : acceptedCostmaps (calls ++ [.observeScan o]) = acceptedCostmaps calls := by
        simp [acceptedCostmaps, costmaps]
      have hscans : acceptedScans (calls ++ [.observeScan o]) =
          if ∀ a ∈ acceptedScans calls, a.stamp < o.stamp then acceptedScans calls ++ [o]
          else acceptedScans calls := by
        rw [acceptedScans, scans, List.filterMap_append]
        exact accepted_append ScanObservation.stamp (scans calls) o
      rw [hmaps, hscans]
      exact ih.observeScan o
    | observeCostmap o =>
      have hscans : acceptedScans (calls ++ [.observeCostmap o]) = acceptedScans calls := by
        simp [acceptedScans, scans]
      have hmaps : acceptedCostmaps (calls ++ [.observeCostmap o]) =
          if ∀ a ∈ acceptedCostmaps calls, a.stamp < o.stamp then acceptedCostmaps calls ++ [o]
          else acceptedCostmaps calls := by
        rw [acceptedCostmaps, costmaps, List.filterMap_append]
        exact accepted_append CostmapObservation.stamp (costmaps calls) o
      rw [hmaps, hscans]
      exact ih.observeCostmap o

namespace Reflects

variable {w : ObstacleWatch} {seen : List ScanObservation} {maps : List CostmapObservation}

/-- What is fresh of the scan that is kept, and more, is so of the last accepted one. -/
theorem scanFresh_iff (h : Reflects w seen maps) (time clock : ℤ) (Q : Double → Prop) :
    w.ScanFresh time clock ∧ Q w.clearance ↔
      Last (fun o ↦ o.Fresh time clock ∧ Q o.clearance) seen := by
  refine h.scan.last_iff ?_ ?_ ?_
  · rintro hinitial ⟨hfresh, -⟩
    have hvalid := hfresh.1
    rw [hinitial] at hvalid
    cases hvalid
  · rintro o ⟨hscan, hclearance⟩
    rw [ObstacleWatch.ScanFresh, hscan, hclearance, ScanObservation.Fresh]
  · exact fun o hfresh ↦ hfresh.1.2.1

/-- What is fresh of the costmap that is kept, and more, is so of the last accepted one. -/
theorem costmapFresh_iff (h : Reflects w seen maps) (time clock : ℤ)
    (Q : Sample → Bool → Prop) :
    w.CostmapFresh time clock ∧ Q w.costmap w.occupied ↔
      Last (fun o ↦ o.Fresh time clock ∧ Q o.sample o.occupied) maps := by
  refine h.costmap.last_iff ?_ ?_ ?_
  · rintro hinitial ⟨hfresh, -⟩
    have hvalid := hfresh.1
    rw [hinitial] at hvalid
    cases hvalid
  · rintro o ⟨hcostmap, hoccupied⟩
    rw [ObstacleWatch.CostmapFresh, hcostmap, hoccupied, CostmapObservation.Fresh]
  · exact fun o hfresh ↦ hfresh.1.2.1

/-- A fresh window holds the last three accepted scans. -/
theorem clearWindow_iff (h : Reflects w seen maps) (time clock : ℤ) (Q : Sample → Prop) :
    (∀ s ∈ w.clearWindow.samples, s.Fresh time clock 1500 ∧ Q s) ↔
      LastThree (fun o ↦ o.Clear ∧ o.Fresh time clock ∧ Q o.sample) seen := by
  rw [h.clearWindow, forall_samples_iff]
  · rfl
  · exact fun hfresh ↦ by cases hfresh.1.1
  · exact fun s hfresh ↦ hfresh.1.2.1

private theorem closeWindow_iff (h : Reflects w seen maps) (time clock : ℤ) :
    (∀ s ∈ w.closeWindow.samples, s.Fresh time clock 1500) ↔
      LastThree (fun o ↦ o.Close ∧ o.Fresh time clock) seen := by
  rw [h.closeWindow, forall_samples_iff]
  · rfl
  · exact fun hfresh ↦ by cases hfresh.1
  · exact fun s hfresh ↦ hfresh.2.1

end Reflects

/-- What the last three meet, the last one meets. -/
theorem LastThree.last {α : Type} {P Q : α → Prop} {observations : List α}
    (h : LastThree P observations) (hPQ : ∀ o, P o → Q o) : Last Q observations := by
  obtain ⟨front, a, b, c, rfl, -, -, hc⟩ := h
  exact ⟨front ++ [a, b], c, by simp, hPQ c hc⟩

/-- What `can_resume` asks of the watch. -/
theorem ObstacleWatch.canResume_iff (w : ObstacleWatch) (time clock afterMs afterNs : ℤ) :
    w.canResume time clock afterMs afterNs = true ↔
      w.Ready time clock ∧ (afterNs < w.costmap.stamp ∧ afterMs < w.costmap.received) ∧
        ∀ s ∈ w.clearWindow.samples,
          s.Fresh time clock 1500 ∧ afterNs < s.stamp ∧ afterMs < s.received := by
  unfold canResume
  split
  next hno =>
    refine iff_of_false Bool.false_ne_true ?_
    rintro ⟨hready, ⟨hstamp, hreceived⟩, -⟩
    rcases hno with hno | hno | hno
    · exact hno hready
    · exact absurd hstamp (not_lt.mpr hno)
    · exact absurd hreceived (not_lt.mpr hno)
  next hyes =>
    rw [not_or, not_or, not_not, not_le, not_le] at hyes
    obtain ⟨hready, hstamp, hreceived⟩ := hyes
    simp [hready, hstamp, hreceived]

/-- When `decision` blocks. -/
theorem ObstacleWatch.decision_blocked_iff (w : ObstacleWatch) (time clock : ℤ) :
    w.decision time clock = .blocked ↔
      w.ScanFresh time clock ∧ (w.CostmapFresh time clock ∧ w.occupied = true) ∧
        ∀ s ∈ w.closeWindow.samples, s.Fresh time clock 1500 := by
  unfold decision
  split
  next hno =>
    refine iff_of_false (by decide) ?_
    rintro ⟨hscan, ⟨hcostmap, -⟩, -⟩
    rcases hno with hno | hno
    · exact hno hscan
    · exact hno hcostmap
  next hyes =>
    rw [not_or, not_not, not_not] at hyes
    obtain ⟨hscan, hcostmap⟩ := hyes
    split
    next hstale =>
      simp only [List.any_eq_true, Bool.not_eq_true', decide_eq_false_iff_not] at hstale
      obtain ⟨s, hs, hstale⟩ := hstale
      exact iff_of_false (by decide) fun h ↦ hstale (h.2.2 s hs)
    next hfresh =>
      simp only [List.any_eq_true, Bool.not_eq_true', decide_eq_false_iff_not, not_exists,
        not_and, not_not] at hfresh
      cases w.occupied with
      | true => exact iff_of_true rfl ⟨hscan, ⟨hcostmap, rfl⟩, hfresh⟩
      | false => exact iff_of_false (by decide) fun h ↦ Bool.false_ne_true h.2.1.2

/-- When `decision` does not know. -/
theorem ObstacleWatch.decision_unknown_iff (w : ObstacleWatch) (time clock : ℤ) :
    w.decision time clock = .unknown ↔ ¬ w.ScanFresh time clock ∨ ¬ w.CostmapFresh time clock := by
  unfold decision
  split
  next hno => exact iff_of_true rfl hno
  next hyes =>
    refine iff_of_false ?_ hyes
    split
    · decide
    · split <;> decide

/-- The decisions are those that the accepted observations call for. -/
theorem decisions_eq_history (calls : List ObstacleCall) (time clock afterMs afterNs : ℤ) :
    ((obstacleWatch calls).canResume time clock afterMs afterNs = true ↔
      LastThree (fun o ↦ o.Clear ∧ o.Fresh time clock ∧ afterNs < o.stamp ∧ afterMs < o.received)
          (acceptedScans calls) ∧
        Last (fun o ↦ o.Fresh time clock ∧ o.occupied = false ∧ afterNs < o.stamp ∧
          afterMs < o.received) (acceptedCostmaps calls)) ∧
      ((obstacleWatch calls).decision time clock = .blocked ↔
        Last (fun o ↦ o.Fresh time clock) (acceptedScans calls) ∧
          Last (fun o ↦ o.Fresh time clock ∧ o.occupied = true) (acceptedCostmaps calls) ∧
          LastThree (fun o ↦ o.Close ∧ o.Fresh time clock) (acceptedScans calls)) ∧
      ((obstacleWatch calls).decision time clock = .unknown ↔
        ¬ Last (fun o ↦ o.Fresh time clock) (acceptedScans calls) ∨
          ¬ Last (fun o ↦ o.Fresh time clock) (acceptedCostmaps calls)) ∧
      ((obstacleWatch calls).decision time clock = .continues ↔
        Last (fun o ↦ o.Fresh time clock) (acceptedScans calls) ∧
          Last (fun o ↦ o.Fresh time clock) (acceptedCostmaps calls) ∧
          ¬ (Last (fun o ↦ o.Fresh time clock ∧ o.occupied = true) (acceptedCostmaps calls) ∧
            LastThree (fun o ↦ o.Close ∧ o.Fresh time clock) (acceptedScans calls))) := by
  have h := reflects calls
  generalize obstacleWatch calls = w at h ⊢
  have hscan : w.ScanFresh time clock ↔
      Last (fun o ↦ o.Fresh time clock) (acceptedScans calls) := by
    simpa using h.scanFresh_iff time clock fun _ ↦ True
  have hcostmap : w.CostmapFresh time clock ↔
      Last (fun o ↦ o.Fresh time clock) (acceptedCostmaps calls) := by
    simpa using h.costmapFresh_iff time clock fun _ _ ↦ True
  have hoccupied : w.CostmapFresh time clock ∧ w.occupied = true ↔
      Last (fun o ↦ o.Fresh time clock ∧ o.occupied = true) (acceptedCostmaps calls) :=
    h.costmapFresh_iff time clock fun _ occupied ↦ occupied = true
  have hclose := h.closeWindow_iff time clock
  refine ⟨?_, ?_, ?_, ?_⟩
  · have hmap : w.CostmapFresh time clock ∧ w.occupied = false ∧ afterNs < w.costmap.stamp ∧
          afterMs < w.costmap.received ↔
        Last (fun o ↦ o.Fresh time clock ∧ o.occupied = false ∧ afterNs < o.stamp ∧
          afterMs < o.received) (acceptedCostmaps calls) :=
      h.costmapFresh_iff time clock fun s occupied ↦
        occupied = false ∧ afterNs < s.stamp ∧ afterMs < s.received
    have hwindow : (∀ s ∈ w.clearWindow.samples,
          s.Fresh time clock 1500 ∧ afterNs < s.stamp ∧ afterMs < s.received) ↔
        LastThree (fun o ↦ o.Clear ∧ o.Fresh time clock ∧ afterNs < o.stamp ∧
          afterMs < o.received) (acceptedScans calls) :=
      h.clearWindow_iff time clock fun s ↦ afterNs < s.stamp ∧ afterMs < s.received
    rw [w.canResume_iff, ← hmap, ← hwindow]
    constructor
    · rintro ⟨⟨-, hfresh, -, hfree⟩, hafter, hall⟩
      exact ⟨hall, hfresh, hfree, hafter⟩
    · rintro ⟨hall, hfresh, hfree, hafter⟩
      -- `ready` looks at the last scan, which is one of the window.
      obtain ⟨hlast, hclear⟩ :=
        (h.scanFresh_iff time clock fun clearance ↦ clearLimit.lt clearance = true).mpr
          ((hwindow.mp hall).last fun o ho ↦ ⟨ho.2.1, ho.1.2⟩)
      exact ⟨⟨hlast, hfresh, hclear, hfree⟩, hafter, hall⟩
  · rw [w.decision_blocked_iff, hscan, hoccupied, hclose]
  · rw [w.decision_unknown_iff, hscan, hcostmap]
  · rw [← hscan, ← hcostmap, ← hoccupied, ← hclose]
    have hblocked := w.decision_blocked_iff time clock
    have hunknown := w.decision_unknown_iff time clock
    cases hdecision : w.decision time clock with
    | blocked =>
      obtain ⟨-, hyes⟩ := hblocked.mp hdecision
      exact iff_of_false (by decide) fun hno ↦ hno.2.2 hyes
    | unknown =>
      refine iff_of_false (by decide) fun hno ↦ ?_
      rcases hunknown.mp hdecision with hstale | hstale
      · exact hstale hno.1
      · exact hstale hno.2.1
    | continues =>
      rw [hdecision] at hblocked hunknown
      have hfresh : ¬ (¬ w.ScanFresh time clock ∨ ¬ w.CostmapFresh time clock) :=
        fun hstale ↦ by cases hunknown.mpr hstale
      rw [not_or, not_not, not_not] at hfresh
      exact iff_of_true rfl ⟨hfresh.1, hfresh.2, fun hyes ↦ by
        cases hblocked.mpr ⟨hfresh.1, hyes⟩⟩

/-- A scan that is replayed with a stamp of before is no third close one. -/
example :
    let near (stamp received : ℤ) : ObstacleCall :=
      .observeScan ⟨stamp, received, .finite (4 / 5), true⟩
    let map : ObstacleCall := .observeCostmap ⟨1100000000, 1100, true, true⟩
    let two := [map, near 1100000000 1100, near 1200000000 1200, near 1200000000 1250]
    (obstacleWatch two).decision 1300 1300000000 = .continues ∧
      (obstacleWatch (two ++ [near 1300000000 1300])).decision 1300 1300000000 = .blocked := by
  decide +kernel

end RobotHarness.Observation
