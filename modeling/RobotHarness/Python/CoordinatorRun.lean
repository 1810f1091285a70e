import RobotHarness.Python.Publication
import RobotHarness.Python.Requests

/-!
# Runs of the coordinator

The coordinator with its gate as a machine, and what every run of it keeps while its clock goes
on: the gate is sound, the active request is the current operation, and no result is staged that
the gate has not accepted.
-/

namespace RobotHarness.Python

open Fallible (Meets Moves)
open Transport (Json)

/-- A call of the coordinator, or a change of what the driver keeps in a record. -/
inductive CoordinatorInput (α δ : Type) where
  | reserve (reference : String) (arguments : α) (driverFields : Except Failure δ)
  | admission (reference : String) (units : ℕ) (deadline : Option ℕ) (stamp : ℕ)
  | describe (reference : String) (change : δ → δ)
  | owner (action : OwnerAction)

/-- The readings of the clock that an action takes. -/
def OwnerAction.readings : OwnerAction → List ℕ
  | .startup _ _ now => [now]
  | .capabilities _ now _ => [now]
  | .dispatch _ now => [now]
  | .nonSubmission _ now => [now]
  | .tick now => [now]
  | .cancel _ now => [now]
  | .native _ _ _ now => [now]
  | .disposeResult _ _ _ now now' now'' => [now, now', now'']
  | .settle _ now => [now]
  | .release _ => []
  | .close => []

/-- The readings of the clock that an input takes. -/
def CoordinatorInput.readings {α δ : Type} : CoordinatorInput α δ → List ℕ
  | .reserve _ _ _ => []
  | .admission _ _ _ stamp => [stamp]
  | .describe _ _ => []
  | .owner action => action.readings

/-- The program of an input. -/
def CoordinatorInput.perform {α δ : Type} [DecidableEq α] :
    CoordinatorInput α δ → Coordination α δ Unit
  | .reserve reference arguments driverFields =>
    discard (ExecutionCoordinator.reserve reference arguments driverFields)
  | .admission reference units deadline stamp =>
    discard (ExecutionCoordinator.admitRecord reference units deadline stamp)
  | .describe reference change =>
    ExecutionCoordinator.update reference fun record ↦
      { record with driver := change record.driver }
  | .owner action => action.perform

/-- The coordinator as a machine. -/
def coordination (α δ : Type) [DecidableEq α] :
    Mealy (ExecutionCoordinator α δ) (CoordinatorInput α δ) (Except Failure Unit) :=
  ⟨fun e i ↦ i.perform e⟩

namespace ExecutionCoordinator

variable {α δ : Type} {e f : ExecutionCoordinator α δ} {t : MonotonicTime}

/-- What every run keeps of the coordinator while its clock has reached no later time. -/
structure Tidy (e : ExecutionCoordinator α δ) (t : MonotonicTime) : Prop where
  gate : e.gate.Sound t
  current : e.ActiveIsCurrent
  named : ∀ reference, e.active = some reference → textValue reference false = .ok reference
  fresh : ∀ reference record, e.records.get? reference = some record →
    record.operationId = none → record.result = none

/-- A result is staged only of an operation that has disposed of its output, unless the sequence
is exhausted. -/
def Unstaged (e : ExecutionCoordinator α δ) : Prop :=
  ∀ reference record, e.active = some reference → e.records.get? reference = some record →
    e.gate.sequence ≠ lastSequence → e.gate.Undisposed → record.result = none

/-- Programs that stage nothing keep a coordinator tidy. -/
theorem Tidy.leaves (h : e.Tidy t) (hretains : Retains e f) (hleaves : Leaves t e f) :
    f.Tidy t where
  gate := hleaves.gate.sound h.gate
  current := hretains.activeIsCurrent h.current
  named := by
    intro reference hactive
    rcases hretains.active with hsame | hnone
    · exact h.named reference (hsame ▸ hactive)
    · cases hnone.symm.trans hactive
  fresh := by
    intro reference record hrecord hnone
    obtain ⟨old, hold, hidentity⟩ := hretains.get? hrecord
    have hresults := hleaves.results reference
    rw [hrecord, hold, Option.map_some, Option.map_some, Option.some.injEq] at hresults
    rw [hresults]
    exact h.fresh reference old hold
      ((congrArg (fun i : String × α × Option OperationId ↦ i.2.2) hidentity).symm.trans hnone)

/-- Programs that stage nothing stage nothing. -/
theorem Unstaged.leaves (h : e.Unstaged) (hsound : e.gate.Sound t) (hretains : Retains e f)
    (hleaves : Leaves t e f) : f.Unstaged := by
  intro reference record hactive hrecord hroom hundisposed
  have hbefore : e.active = some reference := by
    rcases hretains.active with hsame | hnone
    · exact hsame ▸ hactive
    · cases hnone.symm.trans hactive
  obtain ⟨old, hold, -⟩ := hretains.get? hrecord
  have hresults := hleaves.results reference
  rw [hrecord, hold, Option.map_some, Option.map_some, Option.some.injEq] at hresults
  rw [hresults]
  exact h reference old hbefore hold (hleaves.gate.sequence hroom)
    (hleaves.gate.undisposed hsound hundisposed)

/-- The result of the active request may be assigned, and that of any other be withdrawn. -/
theorem Tidy.assignResult {reference : String} {result : Option Json} (h : e.Tidy t)
    (hassigned : e.active = some reference ∨ result = none) :
    (e.withRecord reference fun record ↦ { record with result }).Tidy t where
  gate := by
    rw [withRecord_gate]
    exact h.gate
  current := by
    intro other hother
    rw [withRecord_active] at hother
    obtain ⟨authority, hauthority, hoperation⟩ := h.current other hother
    refine ⟨authority, by rw [withRecord_gate]; exact hauthority, ?_⟩
    rw [get?_withRecord]
    split
    · next heq =>
      rw [heq] at hoperation
      rw [Option.bind_map]
      exact hoperation
    · exact hoperation
  named := by
    rw [withRecord_active]
    exact h.named
  fresh := by
    intro other record hrecord hnone
    rw [get?_withRecord] at hrecord
    split at hrecord
    · next heq =>
      obtain ⟨old, hold, rfl⟩ := Option.map_eq_some_iff.mp hrecord
      rcases hassigned with hactive | hwithdrawn
      · obtain ⟨authority, -, hoperation⟩ := h.current reference hactive
        rw [hold, Option.bind_some] at hoperation
        cases hnone.symm.trans hoperation
      · exact hwithdrawn
    · exact h.fresh other record hrecord hnone

/-- Both parts of what a coordinator keeps. -/
def Kept (e : ExecutionCoordinator α δ) (t : MonotonicTime) : Prop := e.Tidy t ∧ e.Unstaged

private theorem Kept.leaves (h : e.Kept t) (hretains : Retains e f) (hleaves : Leaves t e f) :
    f.Kept t :=
  ⟨h.1.leaves hretains hleaves, h.2.leaves h.1.gate hretains hleaves⟩

/-- A publication that the gate has accepted is disposed of. -/
theorem disposed_of_accepted {gate : AuthorityGate} {evidence : OutputEvidence}
    (h : (gate.observeOutputAccepted evidence).1 = .accepted) :
    ∀ r ∈ (gate.observeOutputAccepted evidence).2.currentReceipt, r.output ≠ .pending := by
  have hstep : Transition gate (.observeOutputAccepted evidence)
      (.evidence (gate.observeOutputAccepted evidence).1)
      (gate.observeOutputAccepted evidence).2 :=
    gate_transition gate (.observeOutputAccepted evidence)
  generalize gate.observeOutputAccepted evidence = answered at h hstep ⊢
  obtain ⟨disposition, gate'⟩ := answered
  cases hstep with
  | noEffect hquiet => exact absurd h hquiet
  | operation present bound step =>
    cases step
    intro r hr
    cases hr
    exact fun hpending ↦ by cases hpending

/-! ### What the methods keep -/

/-- A program that stages nothing keeps what a coordinator keeps. -/
theorem Kept.moves {β : Type} {p : Coordination α δ β} (hretains : Moves Retains p)
    (hleaves : Moves (Leaves t) p) (h : e.Kept t) :
    Meets p e (fun _ f ↦ f.Kept t) fun _ f ↦ f.Kept t :=
  (hretains.meets e).and (hleaves.meets e) |>.mono
    (fun _ _ hmoves ↦ h.leaves hmoves.1 hmoves.2) fun _ _ hmoves ↦ h.leaves hmoves.1 hmoves.2

/-- What is kept by the first part of a program is kept by the whole of it. -/
theorem Kept.andThen {β γ : Type} {p : Coordination α δ β} {k : β → Coordination α δ γ}
    (hretains : Moves Retains p) (hleaves : Moves (Leaves t) p) (h : e.Kept t)
    (hk : ∀ b f, f.Kept t → Meets (k b) f (fun _ f ↦ f.Kept t) fun _ f ↦ f.Kept t) :
    Meets (p >>= k) e (fun _ f ↦ f.Kept t) fun _ f ↦ f.Kept t := by
  rw [Fallible.meets_bind]
  exact (h.moves hretains hleaves).mono hk fun _ _ hf ↦ hf

/-- `_operation` answers for the active request alone, and changes nothing. -/
theorem operation_meets (e : ExecutionCoordinator α δ) (reference : String) :
    Meets (operation reference) e
      (fun operation f ↦ f = e ∧ e.active = some reference ∧
        (e.records.get? reference).bind Record.operationId = some operation)
      fun _ f ↦ f = e := by
  unfold operation retained
  simp only [Fallible.meets_bind, Fallible.meets_read]
  cases hrecord : e.records.get? reference with
  | none => rfl
  | some record =>
  simp only [Fallible.meets_pure, Fallible.meets_ite, Fallible.meets_raise]
  split
  · trivial
  next hactive =>
  cases hoperation : record.operationId with
  | none => rfl
  | some operation => exact ⟨rfl, not_not.mp hactive, hoperation⟩

/-- `admit` keeps what a coordinator keeps. -/
theorem admitRecord_kept (h : e.Kept t) (reference : String) (units : ℕ) (deadline : Option ℕ)
    {stamp : ℕ} (hnow : GateState.Within t stamp) :
    Meets (admitRecord reference units deadline stamp) e (fun _ f ↦ f.Kept t)
      fun _ f ↦ f.Kept t := by
  obtain ⟨htidy, hunstaged⟩ := h
  unfold admitRecord retained
  simp only [Fallible.meets_bind, Fallible.meets_read]
  cases hrecord : e.records.get? reference with
  | none => exact ⟨htidy, hunstaged⟩
  | some record =>
  simp only [Fallible.meets_pure, Fallible.meets_ite, Fallible.meets_raise]
  split
  · exact ⟨htidy, hunstaged⟩
  next hidle =>
  push Not at hidle
  have hactive : e.active = none := Option.not_isSome_iff_eq_none.mp hidle.1
  have hunasked : record.operationId = none := Option.not_isSome_iff_eq_none.mp hidle.2
  simp only [Fallible.meets_bind, Fallible.meets_assign, onGate, Fallible.meets_within, update]
  refine ((GateState.admitRequest_keeps htidy.gate reference units deadline hnow).and
    (GateState.admitRequest_meets e.gate reference units deadline stamp)).mono ?_ ?_
  · rintro decision g ⟨⟨hsound, htext, -⟩, hdecision⟩
    simp only [Fallible.meets_ite, Fallible.meets_bind, Fallible.meets_assign, Fallible.meets_pure]
    split
    · next hstatus =>
      obtain ⟨hauthority, hsome⟩ := hdecision hstatus
      obtain ⟨authority, hauth⟩ := Option.isSome_iff_exists.mp hsome
      refine ⟨⟨by simpa using hsound, ?_, ?_, ?_⟩, ?_⟩
      · intro other hother
        obtain rfl := Option.some.inj hother
        refine ⟨authority, by simpa using hauthority.trans hauth, ?_⟩
        simp [get?_withRecord, hrecord, hauth]
      · intro other hother
        obtain rfl := Option.some.inj hother
        exact htext
      · intro other old hold hnone
        simp only [get?_withRecord] at hold
        split at hold
        · next heq =>
          simp only [if_pos, hrecord, Option.map_some, Option.some.injEq] at hold
          rw [← hold, hauth] at hnone
          cases hnone
        · exact htidy.fresh other old hold hnone
      · intro other old hother hold _ _
        obtain rfl := Option.some.inj hother
        simp only [get?_withRecord, if_pos, hrecord, Option.map_some, Option.some.injEq] at hold
        rw [← hold]
        exact htidy.fresh reference record hrecord hunasked
    · refine ⟨⟨by simpa using hsound, ?_, ?_, ?_⟩, ?_⟩
      · simp [ActiveIsCurrent, hactive]
      · simp [hactive]
      · intro other old hold hnone
        simp only [get?_withRecord] at hold
        split at hold
        · next heq =>
          simp only [hrecord, Option.map_some, Option.some.injEq] at hold
          rw [← hold]
          exact htidy.fresh reference record hrecord hunasked
        · exact htidy.fresh other old hold hnone
      · simp [Unstaged, hactive]
  · rintro failure g ⟨rfl, -⟩
    exact ⟨⟨htidy.gate, htidy.current, htidy.named, htidy.fresh⟩, hunstaged⟩

/-- `reserve` keeps what a coordinator keeps. -/
theorem reserve_kept [DecidableEq α] (h : e.Kept t) (reference : String) (arguments : α)
    (driverFields : Except Failure δ) :
    Meets (reserve reference arguments driverFields) e (fun _ f ↦ f.Kept t)
      fun _ f ↦ f.Kept t := by
  unfold reserve
  rw [Fallible.meets_bind, Fallible.meets_read]
  cases hrecord : e.records.get? reference with
  | some record =>
    simp only [Fallible.meets_ite]
    split
    · exact h
    · exact h
  | none =>
  simp only [Fallible.meets_ite]
  split
  · exact h
  rw [Fallible.meets_bind]
  cases driverFields with
  | error failure => exact h
  | ok driver =>
  obtain ⟨htidy, hunstaged⟩ := h
  have hidle : e.active ≠ some reference := by
    intro hactive
    obtain ⟨authority, -, hoperation⟩ := htidy.current reference hactive
    rw [hrecord] at hoperation
    cases hoperation
  refine ⟨⟨htidy.gate, ?_, htidy.named, ?_⟩, ?_⟩
  · intro other hother
    obtain ⟨authority, hauthority, hoperation⟩ := htidy.current other hother
    refine ⟨authority, hauthority, ?_⟩
    have hne : other ≠ reference := by
      rintro rfl
      exact hidle hother
    simpa only [Table.get?_set_of_ne hne] using hoperation
  · intro other old hold hnone
    by_cases hother : other = reference
    · subst hother
      simp only [Table.get?_set_self, Option.some.injEq] at hold
      rw [← hold]
    · simp only [Table.get?_set_of_ne hother] at hold
      exact htidy.fresh other old hold hnone
  · intro other old hother hold
    have hne : other ≠ reference := by
      rintro rfl
      exact hidle hother
    simp only [Table.get?_set_of_ne hne] at hold
    exact hunstaged other old hother hold

/-- A question to the gate changes nothing. -/
private theorem asked_meets (e : ExecutionCoordinator α δ) (candidate : Option Json)
    (operation : OperationId) :
    Meets (if candidate.isSome then onGate (GateState.canDeliver operation) else pure false) e
      (fun _ f ↦ f = e) fun _ f ↦ f = e := by
  rw [Fallible.meets_ite]
  split
  · unfold onGate GateState.canDeliver GateState.operationValue
    simp only [Fallible.meets_within, Fallible.meets_bind, Fallible.meets_read]
    cases e.gate.authority with
    | none => rfl
    | some authority =>
      simp only [Fallible.meets_ite]
      split
      · rfl
      · rfl
  · rfl

/-- The gate accepts a publication and has it disposed of, or it refuses it; or there is no
number left to ask with. -/
private theorem published_meets {operation : OperationId} {reference : String} {now : ℕ}
    {authority : OperationAuthority} (hauthority : e.gate.authority = some authority)
    (hoperation : authority.operationId = operation)
    (htext : textValue reference false = .ok reference) (hnow : GateState.Within t now) :
    Meets (onGate (GateState.output operation .accepted reference now)) e
      (fun disposition f ↦ (Retains e f ∧ Leaves t e f) ∧
        (disposition = .accepted → ¬ f.gate.Undisposed))
      fun _ f ↦ f = e ∧ e.gate.sequence = lastSequence := by
  obtain ⟨hallowed, -⟩ := reference_allowed htext
  have hstamp : ∃ stamp, unsignedValue now = .ok stamp := by
    have hlt : now < 2 ^ 64 := lt_of_le_of_lt hnow t.toNat_lt
    exact ⟨_, if_pos hlt⟩
  obtain ⟨stamp, hstamp⟩ := hstamp
  have hmoved := ((retains_onGate (α := α) (δ := δ)
    (GateState.moves_output operation .accepted reference now)).meets e).and
    ((leaves_onGate (GateState.keeps_output operation .accepted reference hnow)).meets e)
  have hanswer : Meets (onGate (GateState.output operation .accepted reference now)) e
      (fun disposition f ↦ disposition = .accepted → ¬ f.gate.Undisposed)
      fun _ f ↦ f = e ∧ e.gate.sequence = lastSequence := by
    have hvalue : GateState.operationValue operation e.gate = (.ok authority, e.gate) := by
      rw [GateState.operationValue, Fallible.read_bind, hauthority]
      dsimp only
      rw [if_pos hoperation]
      rfl
    rw [onGate, Fallible.meets_within, GateState.output, Fallible.meets_bind]
    refine Meets.of_eq hvalue ?_
    rw [hallowed, hstamp]
    change Meets (GateState.record sinkSource stamp >>= fun evidence ↦
      GateState.onGate (·.observeOutputAccepted ⟨authority, reference, evidence⟩)) e.gate _ _
    rw [Fallible.meets_bind]
    by_cases hroom : e.gate.sequence = lastSequence
    · have hraised : GateState.record sinkSource stamp e.gate =
          (.error .overflowError, e.gate) := if_pos hroom
      exact .of_raised hraised ⟨rfl, hroom⟩
    · refine Meets.of_eq (GateState.Awaiting.record sinkSource hroom) ?_
      rintro haccepted ⟨r, hr, hpending⟩
      exact disposed_of_accepted haccepted r hr hpending
  exact (hmoved.and hanswer).mono (fun _ _ h ↦ h) fun _ _ h ↦ h.2

/-- `dispose_result` keeps what a coordinator keeps. -/
theorem disposeResult_kept (h : e.Kept t) (reference : String) (candidate : Option Json)
    (diagnostic : Except Failure Json) {now now' now'' : ℕ} (hnow : GateState.Within t now)
    (hnow' : GateState.Within t now') (hnow'' : GateState.Within t now'') :
    Meets (disposeResult reference candidate diagnostic now now' now'') e (fun _ f ↦ f.Kept t)
      fun _ f ↦ f.Kept t := by
  unfold disposeResult
  rw [Fallible.meets_bind]
  refine (operation_meets e reference).mono ?_ fun _ f hf ↦ hf ▸ h
  rintro operation e ⟨rfl, hactive, hoperation⟩
  rw [Fallible.meets_bind]
  refine (asked_meets e candidate operation).mono ?_ fun _ f hf ↦ hf ▸ h
  rintro deliverable e rfl
  rw [Fallible.meets_ite]
  split
  · rw [Fallible.meets_bind, update, Fallible.meets_assign, Fallible.meets_bind]
    generalize hstage : e.withRecord reference
      (fun record ↦ { record with result := candidate }) = staged
    have hstaged : staged.Tidy t := hstage ▸ h.1.assignResult (.inl hactive)
    have hstagedActive : staged.active = some reference := by
      rw [← hstage, withRecord_active, hactive]
    obtain ⟨authority, hauthority, hcurrent⟩ := h.1.current reference hactive
    rw [hoperation, Option.some.injEq] at hcurrent
    have hstagedAuthority : staged.gate.authority = some authority := by
      rw [← hstage, withRecord_gate, hauthority]
    refine (published_meets hstagedAuthority hcurrent.symm (h.1.named reference hactive)
      hnow).mono ?_ ?_
    · rintro disposition f ⟨⟨hretains, hleaves⟩, haccepted⟩
      have htidy : f.Tidy t := hstaged.leaves hretains hleaves
      rw [Fallible.meets_ite]
      split
      · rw [Fallible.meets_bind, update, Fallible.meets_assign]
        have hkept :
            (f.withRecord reference fun record ↦ { record with result := none }).Kept t := by
          refine ⟨htidy.assignResult (.inr rfl), fun other record hother hrecord _ _ ↦ ?_⟩
          rw [withRecord_active] at hother
          have hsame : other = reference := by
            rcases hretains.active with hkept | hnone
            · exact Option.some.inj (hother.symm.trans (hkept.trans hstagedActive))
            · cases hnone.symm.trans hother
          rw [get?_withRecord, if_pos hsame] at hrecord
          obtain ⟨old, -, rfl⟩ := Option.map_eq_some_iff.mp hrecord
          rfl
        refine hkept.andThen (retains_diagnose reference diagnostic)
          (leaves_diagnose reference diagnostic) fun _ f hf ↦ ?_
        refine hf.andThen (retains_onGate (GateState.moves_tick operation now'))
          (leaves_onGate (GateState.keeps_tick operation hnow')) fun _ f hf ↦ ?_
        refine hf.andThen (retains_onGate (GateState.moves_canDeliver operation))
          (leaves_onGate (GateState.keeps_canDeliver operation)) fun _ f hf ↦ ?_
        refine hf.andThen
          (.ite (fun _ ↦ retains_accepted disposition) fun _ ↦ .pure Retains.refl)
          (.ite (fun _ ↦ leaves_accepted disposition) fun _ ↦ .pure Leaves.refl) fun _ f hf ↦ ?_
        exact hf.andThen
          (retains_onGate (GateState.moves_output operation .authorityRevoked reference now''))
          (leaves_onGate (GateState.keeps_output operation .authorityRevoked reference hnow''))
          fun disposition f hf ↦
            hf.moves (retains_accepted disposition) (leaves_accepted disposition)
      · next hdisposition =>
        refine ⟨htidy, fun other record _ _ _ hundisposed ↦ ?_⟩
        exact absurd hundisposed (haccepted (not_not.mp hdisposition))
    · rintro failure f ⟨rfl, hlast⟩
      exact ⟨hstaged, fun _ _ _ _ hroom ↦ absurd hlast hroom⟩
  · refine h.andThen (retains_diagnose reference diagnostic)
      (leaves_diagnose reference diagnostic) fun _ f hf ↦ ?_
    exact hf.andThen (retains_onGate (GateState.moves_output operation _ _ now))
      (leaves_onGate (GateState.keeps_output operation _ _ hnow)) fun disposition f hf ↦
        hf.moves (retains_accepted disposition) (leaves_accepted disposition)

end ExecutionCoordinator

/-- An action of the owner, but a disposal of a result, stages nothing. -/
theorem leaves_perform {α δ : Type} {t : MonotonicTime} (action : OwnerAction)
    (hstages : ∀ reference candidate diagnostic now now' now'',
      action ≠ .disposeResult reference candidate diagnostic now now' now'')
    (hnow : ∀ now ∈ action.readings, GateState.Within t now) :
    Moves (Leaves t) (action.perform : Coordination α δ Unit) := by
  cases action with
  | startup kind observed now =>
    exact (ExecutionCoordinator.leaves_onGate
      (GateState.keeps_startup kind observed (hnow now List.mem_cons_self))).map
  | capabilities available now validUntil =>
    exact (ExecutionCoordinator.leaves_onGate
      (GateState.keeps_capabilities available validUntil (hnow now List.mem_cons_self))).map
  | dispatch reference now =>
    exact (ExecutionCoordinator.leaves_dispatch reference (hnow now List.mem_cons_self)).map
  | nonSubmission reference now =>
    exact (ExecutionCoordinator.leaves_nonSubmission reference (hnow now List.mem_cons_self)).map
  | tick now => exact (ExecutionCoordinator.leaves_tick (hnow now List.mem_cons_self)).map
  | cancel reference now =>
    exact (ExecutionCoordinator.leaves_cancel reference (hnow now List.mem_cons_self)).map
  | native reference kind nativeIdentity now =>
    exact (ExecutionCoordinator.leaves_native reference kind nativeIdentity
      (hnow now List.mem_cons_self)).map
  | disposeResult reference candidate diagnostic now now' now'' =>
    exact absurd rfl (hstages reference candidate diagnostic now now' now'')
  | settle reference now =>
    exact ExecutionCoordinator.leaves_settle reference (hnow now List.mem_cons_self)
  | release reference => exact ExecutionCoordinator.leaves_release reference
  | close => exact ExecutionCoordinator.leaves_onGate GateState.keeps_close

namespace ExecutionCoordinator

variable {α δ : Type} {e : ExecutionCoordinator α δ} {t : MonotonicTime}

/-- An action of the owner keeps what a coordinator keeps. -/
theorem perform_kept (h : e.Kept t) (action : OwnerAction)
    (hnow : ∀ now ∈ action.readings, GateState.Within t now) :
    Meets action.perform e (fun _ f ↦ f.Kept t) fun _ f ↦ f.Kept t := by
  by_cases hstages : ∃ reference candidate diagnostic now now' now'',
      action = .disposeResult reference candidate diagnostic now now' now''
  · obtain ⟨reference, candidate, diagnostic, now, now', now'', rfl⟩ := hstages
    exact disposeResult_kept h reference candidate diagnostic
      (hnow now (by simp [OwnerAction.readings]))
      (hnow now' (by simp [OwnerAction.readings])) (hnow now'' (by simp [OwnerAction.readings]))
  · push Not at hstages
    exact h.moves (NavigationRequests.retains_perform action) (leaves_perform action hstages hnow)

variable [DecidableEq α]

/-- An input whose readings lie within a time keeps what a coordinator keeps. -/
theorem Kept.next (h : e.Kept t) (i : CoordinatorInput α δ)
    (hnow : ∀ now ∈ i.readings, GateState.Within t now) :
    ((coordination α δ).next e i).Kept t := by
  have hmeets : Meets i.perform e (fun _ f ↦ f.Kept t) fun _ f ↦ f.Kept t := ?_
  · exact hmeets.state
  cases i with
  | reserve reference arguments driverFields =>
    exact Fallible.meets_map.mpr (reserve_kept h reference arguments driverFields)
  | admission reference units deadline stamp =>
    exact Fallible.meets_map.mpr (admitRecord_kept h reference units deadline
      (hnow stamp List.mem_cons_self))
  | describe reference change =>
    exact h.moves (retains_update fun _ ↦ rfl) (leaves_update fun _ ↦ rfl)
  | owner action => exact perform_kept h action hnow

end ExecutionCoordinator

/-! ### Runs -/

/-- A run of a coordinator: the arguments that its gate is created with, and its inputs. -/
structure CoordinatorRun (α δ : Type) where
  provider : String
  domain : String
  capability : String
  profile : String
  maximum : ℕ
  startedAt : ℕ
  scope : Option String
  gate : GateState
  created : GateState.create provider domain capability profile maximum startedAt scope = .ok gate
  inputs : List (CoordinatorInput α δ)

namespace CoordinatorRun

variable {α δ : Type}

/-- The coordinator at the end of a run. -/
def final [DecidableEq α] (run : CoordinatorRun α δ) : ExecutionCoordinator α δ :=
  (coordination α δ).run { gate := run.gate } run.inputs

/-- No reading of the clock is later than `now`. -/
def Until (run : CoordinatorRun α δ) (now : ℕ) : Prop :=
  run.startedAt ≤ now ∧ ∀ i ∈ run.inputs, ∀ reading ∈ i.readings, reading ≤ now

/-- A gate of converted arguments is sound. -/
theorem sound_initial {provider domain capability profile scope : String}
    {maximumUnits startedAt t : UInt64} {gate : GateState} (hle : startedAt ≤ t)
    (h : (match AuthorityGate.create (gateConfig provider domain capability scope startedAt) with
      | .ok _ => Except.ok (GateState.initial
          (gateConfig provider domain capability scope startedAt) profile maximumUnits)
      | .error text => .error (Failure.valueError text)) = .ok gate) : gate.Sound t := by
  split at h
  · rw [← Except.ok.inj h]
    constructor
    case coherent => exact AuthorityGate.coherent_initial _
    case bounded => exact AuthorityGate.bounded_initial hle
    case phase => simp [GateState.initial, AuthorityGate.initial]
    case current => rfl
    case bound =>
      intro r hr
      cases hr
    case sink => rfl
    case settlement => rfl
    case scope => rfl
  · cases h

/-- A new gate is sound. -/
private theorem sound_gate (run : CoordinatorRun α δ) {t : MonotonicTime}
    (h : run.startedAt ≤ t.toNat) : run.gate.Sound t := by
  have created := run.created
  unfold GateState.create at created
  obtain ⟨provider, -, created⟩ := Fallible.ok_of_bind created
  obtain ⟨domain, -, created⟩ := Fallible.ok_of_bind created
  obtain ⟨capability, -, created⟩ := Fallible.ok_of_bind created
  obtain ⟨profile, -, created⟩ := Fallible.ok_of_bind created
  obtain ⟨maximumUnits, -, created⟩ := Fallible.ok_of_bind created
  obtain ⟨startedAt, hstarted, created⟩ := Fallible.ok_of_bind created
  have hle : startedAt ≤ t := GateState.Within.converted h hstarted
  dsimp only at created
  split at created
  · obtain ⟨scope, -, created⟩ := Fallible.ok_of_bind created
    exact sound_initial hle created
  · exact sound_initial hle created

variable [DecidableEq α]

/-- What every run keeps of the coordinator. -/
theorem kept_final (run : CoordinatorRun α δ) {t : MonotonicTime} (h : run.Until t.toNat) :
    run.final.Kept t := by
  refine (coordination α δ).invariant_inputs (P := fun e ↦ e.Kept t)
    (B := fun i ↦ ∀ now ∈ i.readings, GateState.Within t now)
    (fun _ i hi he ↦ he.next i hi) ⟨⟨run.sound_gate h.1, ?_, ?_, ?_⟩, ?_⟩ h.2
  · intro reference hactive
    cases hactive
  · intro reference hactive
    cases hactive
  · intro reference record hrecord
    cases hrecord
  · intro reference record hactive
    cases hactive

/-- After every run, the result of a successful operation that has not disposed of its output is
published or withdrawn as a whole, without an exception, and the operation can be settled: when
there is a result, its diagnostic returns, the clock goes on and reads less than `2 ^ 64`, and
three numbers of the sequence are left. -/
theorem publishes_or_withdraws (run : CoordinatorRun α δ) {reference : String}
    {r : OperationReceipt} (hactive : run.final.active = some reference)
    (hreceipt : run.final.gate.gate.currentReceipt = some r)
    (hsucceeded : r.nativeOutcome = .succeeded) (hpending : r.output = .pending)
    (hroom : run.final.gate.sequence.toNat + 3 < 2 ^ 64) (candidate observed : Json)
    {now now' now'' later : ℕ} (huntil : run.Until now) (hle : now ≤ now') (hle' : now' ≤ now'')
    (hle'' : now'' ≤ later) (hlast : later < 2 ^ 64) :
    ∃ f, ExecutionCoordinator.disposeResult reference (some candidate) (.ok observed) now now' now''
        run.final = (.ok (), f) ∧
      (∃ record q, f.records.get? reference = some record ∧
        f.gate.gate.currentReceipt = some q ∧ q.nativeOutcome = .succeeded ∧
        (record.result = some candidate ∧ q.output = .accepted ∨
          record.result = none ∧ q.output = .notDelivered ∧
            q.outputNonDeliveryReason = some .authorityRevoked)) ∧
      ∃ g, ExecutionCoordinator.settle reference later f = (.ok (), g) := by
  have hconverted : ∀ n, n ≤ later → ∃ stamp : UInt64, unsignedValue n = .ok stamp ∧
      stamp.toNat = n := by
    intro n hn
    have hlt : n < 2 ^ 64 := lt_of_le_of_lt hn hlast
    exact ⟨_, if_pos hlt, UInt64.toNat_ofNat_of_lt' hlt⟩
  obtain ⟨stamp, hstamp, rfl⟩ := hconverted now (hle.trans (hle'.trans hle''))
  obtain ⟨stamp', hstamp', rfl⟩ := hconverted now' (hle'.trans hle'')
  obtain ⟨stamp'', hstamp'', rfl⟩ := hconverted now'' hle''
  obtain ⟨stampLater, hlater, rfl⟩ := hconverted later le_rfl
  obtain ⟨htidy, hunstaged⟩ := run.kept_final huntil
  have hawaiting : run.final.gate.Awaiting stamp r := ⟨htidy.gate, hreceipt, hsucceeded, hpending⟩
  have hleft : run.final.gate.sequence ≠ lastSequence := by
    intro hexhausted
    rw [hexhausted] at hroom
    simp [lastSequence] at hroom
  obtain ⟨f, heq, hdisposes⟩ := ExecutionCoordinator.disposeResult_publishes candidate observed
    hawaiting htidy.current hactive (htidy.named reference hactive)
    (fun record hrecord ↦ hunstaged reference record hactive hrecord hleft ⟨r, hreceipt, hpending⟩)
    (by omega) hstamp hstamp' hstamp'' le_rfl hle hle'
  have hretains := ExecutionCoordinator.retains_disposeResult reference (some candidate)
    (.ok observed) stamp.toNat stamp'.toNat stamp''.toNat run.final
  rw [heq] at hretains
  have hnumbered : f.gate.sequence ≠ lastSequence := by
    intro hexhausted
    have hsequence := hdisposes.sequence
    rw [hexhausted] at hsequence
    have hvalue : lastSequence.toNat = 2 ^ 64 - 1 := rfl
    omega
  refine ⟨f, heq, ?_, hdisposes.settles (hretains.activeIsCurrent htidy.current)
    (hdisposes.active.trans hactive) hnumbered hlater hle''⟩
  obtain ⟨record, q, hrecord, hq, hqsucceeded, -, houtput⟩ := hdisposes.disposed
  exact ⟨record, q, hrecord, hq, hqsucceeded, houtput⟩

/-- The run of `native_success` in `bindings/python/tests/test_execution.py`. -/
def nativeSuccess : CoordinatorRun Unit Unit where
  provider := "provider"
  domain := "domain"
  capability := "cap"
  profile := "profile"
  maximum := 10
  startedAt := 0
  scope := none
  gate := .initial (gateConfig "provider" "domain" "cap" settlementScope 0) "profile" 10
  created := by rfl
  inputs := [.owner (.startup .bindingIdleAndSettled true 1),
    .owner (.startup .workerReady true 1), .owner (.startup .resultSinkReady true 1),
    .owner (.capabilities true 2 1000), .reserve "first" () (.ok ()),
    .admission "first" 1 none 3, .owner (.dispatch "first" 3),
    .owner (.native "first" .accepted (some "goal-one") 3),
    .owner (.native "first" .terminalSucceeded (some "goal-one") 3)]

/-- The receipt of its operation. -/
def successReceipt : OperationReceipt :=
  (nativeSuccess.final.gate.gate.currentReceipt).get (by decide +kernel)

/-- The result of a successful operation is published, and the operation is settled. -/
theorem publishes_or_withdraws_nativeSuccess :
    ∃ f, ExecutionCoordinator.disposeResult "first" (some (.int 1)) (.ok .null) 3 3 11
        nativeSuccess.final = (.ok (), f) ∧
      (∃ record q, f.records.get? "first" = some record ∧
        f.gate.gate.currentReceipt = some q ∧ q.nativeOutcome = .succeeded ∧
        (record.result = some (.int 1) ∧ q.output = .accepted ∨
          record.result = none ∧ q.output = .notDelivered ∧
            q.outputNonDeliveryReason = some .authorityRevoked)) ∧
      ∃ g, ExecutionCoordinator.settle "first" 11 f = (.ok (), g) :=
  publishes_or_withdraws nativeSuccess (r := successReceipt) (by decide +kernel) (by rfl)
    (by decide +kernel) (by decide +kernel) (by decide +kernel) (.int 1) .null
    (by simp [Until, nativeSuccess, CoordinatorInput.readings, OwnerAction.readings]) (by decide)
    (by decide) (by decide) (by decide)

/-- Settling an operation too early draws a number, and changes nothing else. -/
private theorem settle_undisposed {e : ExecutionCoordinator α δ} {t : MonotonicTime}
    {reference : String} {r : OperationReceipt} {now : ℕ} {stamp : UInt64} (htidy : e.Tidy t)
    (hactive : e.active = some reference) (present : e.gate.gate.currentReceipt = some r)
    (hpending : r.output = .pending) (hroom : e.gate.sequence ≠ lastSequence)
    (hnow : unsignedValue now = .ok stamp) :
    (coordination α δ).next e (.owner (.settle reference now)) =
      { e with gate := { e.gate with sequence := e.gate.sequence + 1 } } := by
  obtain ⟨disposition, heq, hrefused⟩ :=
    htidy.gate.refuses_settlement present hpending hroom hnow
  change (ExecutionCoordinator.settle reference now e).2 = _
  rw [ExecutionCoordinator.settle, Fallible.bind_of_eq
    (ExecutionCoordinator.operation_of_active htidy.current hactive htidy.gate present),
    Fallible.bind_of_eq (ExecutionCoordinator.onGate_of_eq rfl heq), accepted, if_pos hrefused]
  rfl

/-- Settlements that come too early use up the sequence. -/
private theorem run_settlements {e : ExecutionCoordinator α δ} {t : MonotonicTime}
    {reference : String} {r : OperationReceipt} {now : ℕ} {stamp : UInt64} (hkept : e.Kept t)
    (hactive : e.active = some reference) (present : e.gate.gate.currentReceipt = some r)
    (hpending : r.output = .pending) (hnow : unsignedValue now = .ok stamp)
    (hwithin : GateState.Within t now) {n : ℕ} (hroom : e.gate.sequence.toNat + n < 2 ^ 64) :
    (coordination α δ).run e (List.replicate n (.owner (.settle reference now))) =
      { e with gate := { e.gate with sequence := e.gate.sequence + .ofNat n } } := by
  induction n generalizing e with
  | zero => simp
  | succ n ih =>
    have hleft : e.gate.sequence ≠ lastSequence := by
      intro hlast
      have hvalue : lastSequence.toNat = 2 ^ 64 - 1 := rfl
      rw [hlast, hvalue] at hroom
      omega
    have hnext := settle_undisposed hkept.1 hactive present hpending hleft hnow
    have hkept' := hkept.next (.owner (.settle reference now))
      (by simpa [CoordinatorInput.readings, OwnerAction.readings] using hwithin)
    rw [List.replicate_succ, Mealy.run_cons]
    rw [hnext] at hkept' ⊢
    have hsucc : (e.gate.sequence + 1).toNat = e.gate.sequence.toNat + 1 := by
      rw [UInt64.toNat_add]
      have hone : (1 : UInt64).toNat = 1 := rfl
      omega
    rw [ih hkept' hactive present (by change (e.gate.sequence + 1).toNat + n < 2 ^ 64; omega)]
    have hsum : e.gate.sequence + 1 + UInt64.ofNat n = e.gate.sequence + UInt64.ofNat (n + 1) := by
      rw [UInt64.ofNat_add]
      grind
    simp only [hsum]

/-- A disposal raises where there is no result, where the clock reads too much, where the
diagnostic raises, and where no number is left. -/
theorem disposal_raises :
    nativeSuccess.final.active = some "first" ∧
    nativeSuccess.final.gate.gate.currentReceipt = some successReceipt ∧
    successReceipt.nativeOutcome = .succeeded ∧ successReceipt.output = .pending ∧
    (ExecutionCoordinator.disposeResult "first" none (.ok .null) 3 3 3 nativeSuccess.final).1 =
      .error (coreRejected .rejected) ∧
    (ExecutionCoordinator.disposeResult "first" (some (.int 1)) (.ok .null) (2 ^ 64) (2 ^ 64)
      (2 ^ 64) nativeSuccess.final).1 = .error .overflowError ∧
    (ExecutionCoordinator.disposeResult "first" (some (.int 1)) (.error .callback) 3 3 3
      ((coordination Unit Unit).run nativeSuccess.final [.owner (.cancel "first" 3)])).1 =
        .error .callback ∧
    (ExecutionCoordinator.disposeResult "first" (some (.int 1)) (.ok .null) 3 3 3
      ((coordination Unit Unit).run nativeSuccess.final
        (List.replicate (2 ^ 64 - 7) (.owner (.settle "first" 3))))).1 = .error .overflowError := by
  refine ⟨by decide +kernel, by rfl, by decide +kernel, by decide +kernel, by rfl, by rfl, by rfl,
    ?_⟩
  have huntil : nativeSuccess.Until 3 := by
    simp [Until, nativeSuccess, CoordinatorInput.readings, OwnerAction.readings]
  rw [run_settlements (nativeSuccess.kept_final (t := 3) huntil) (r := successReceipt)
    (by decide +kernel) (by rfl) (by decide +kernel) (by rfl) (Nat.le_refl 3) (by decide +kernel)]
  rfl

end CoordinatorRun

end RobotHarness.Python
