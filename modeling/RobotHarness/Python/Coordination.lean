import RobotHarness.Core.Control
import RobotHarness.Python.Retention

/-!
# Reservations and admissions

What `reserve` and `admit` do to a coordinator, and what holds of it in every run: a bounded
number of records, each under its own name, and at most one admission for each of them.
-/

namespace RobotHarness.Python

open Fallible (Meets)

/-- An admission has an authority. -/
theorem authority_of_admitted (gate : AuthorityGate) (request : OperationRequest)
    (h : (gate.admitRequest request).1.status = .admitted) :
    (gate.admitRequest request).1.authority.isSome := by
  have hstep : Transition gate (.admitRequest request) (.admission (gate.admitRequest request).1)
      (gate.admitRequest request).2 := gate_transition gate (.admitRequest request)
  generalize gate.admitRequest request = answered at h hstep ⊢
  obtain ⟨decision, gate'⟩ := answered
  cases hstep with
  | noEffect hquiet => exact absurd h hquiet
  | admission guard => rfl
  | operation _ _ step => cases step

/-- `gate_admit` makes the admitted operation the current one. -/
theorem GateState.admitRequest_meets (g : GateState) (reference : String) (units : ℕ)
    (deadline : Option ℕ) (now : ℕ) :
    Meets (admitRequest reference units deadline now) g
      (fun decision h ↦ decision.status = .admitted →
        h.authority = decision.authority ∧ decision.authority.isSome)
      fun _ _ ↦ True := by
  have raised : ∀ (e : Failure) (t : GateState), True := fun _ _ ↦ trivial
  unfold admitRequest
  refine .after (fun reference g ↦ .after (fun units g ↦ .after (fun now g ↦
    .after (fun deadline g ↦ ?_) raised) raised) raised) raised
  simp only [Fallible.meets_bind, Fallible.meets_read, Fallible.meets_assign, Fallible.meets_pure]
  intro hstatus
  have hsome := authority_of_admitted g.gate _ hstatus
  simp only [hsome, if_true, and_true]

namespace ExecutionCoordinator

variable {α δ : Type} {e : ExecutionCoordinator α δ} {reference : String}
  {f : Record α δ → Record α δ}

/-- A change of a record changes nothing of the gate. -/
@[simp] theorem withRecord_gate : (e.withRecord reference f).gate = e.gate := by
  unfold withRecord
  split <;> rfl

/-- A change of a record changes nothing of the active request. -/
@[simp] theorem withRecord_active : (e.withRecord reference f).active = e.active := by
  unfold withRecord
  split <;> rfl

@[simp] private theorem withRecord_admissions :
    (e.withRecord reference f).admissions = e.admissions := by
  unfold withRecord
  split <;> rfl

@[simp] private theorem size_withRecord :
    (e.withRecord reference f).records.size = e.records.size := by
  unfold withRecord
  split
  · next h => exact Table.size_set_of_get? h
  · rfl

/-- A change of a record is seen at its reference alone. -/
theorem get?_withRecord (other : String) : (e.withRecord reference f).records.get? other =
    if other = reference then (e.records.get? reference).map f else e.records.get? other := by
  unfold withRecord
  split
  · next record hrecord =>
    by_cases ho : other = reference
    · subst ho
      simp [hrecord]
    · simp only [Table.get?_set_of_ne ho, if_neg ho]
  · next hnone =>
    split
    · next ho => simp [ho, hnone]
    · rfl

end ExecutionCoordinator

/-- Whose record it is, apart from its operation. -/
def Record.request {α δ : Type} (record : Record α δ) : String × α :=
  (record.requestId, record.arguments)

/-- The active request is the one whose operation the gate has as the current one. -/
def ExecutionCoordinator.ActiveIsCurrent {α δ : Type} (e : ExecutionCoordinator α δ) : Prop :=
  ∀ reference, e.active = some reference → ∃ authority, e.gate.authority = some authority ∧
    (e.records.get? reference).bind Record.operationId = some authority.operationId

/-- The requests of the records are the same. -/
def SameRequests {α δ : Type} (e f : ExecutionCoordinator α δ) : Prop :=
  f.records.size = e.records.size ∧ ∀ reference,
    (f.records.get? reference).map Record.request = (e.records.get? reference).map Record.request

private theorem SameRequests.trans {α δ : Type} {e f g : ExecutionCoordinator α δ}
    (hef : SameRequests e f) (hfg : SameRequests f g) : SameRequests e g :=
  ⟨hfg.1.trans hef.1, fun reference ↦ (hfg.2 reference).trans (hef.2 reference)⟩

/-- What retains the records retains the requests. -/
theorem Retains.sameRequests {α δ : Type} {e f : ExecutionCoordinator α δ} (h : Retains e f) :
    SameRequests e f := by
  refine ⟨h.size, fun reference ↦ ?_⟩
  have hpart := congrArg (Option.map fun i : String × α × Option OperationId ↦ (i.1, i.2.1))
    (h.records reference)
  simp only [Option.map_map] at hpart
  exact hpart

/-- What retains the records keeps the active request the current one. -/
theorem Retains.activeIsCurrent {α δ : Type} {e f : ExecutionCoordinator α δ} (h : Retains e f)
    (he : e.ActiveIsCurrent) : f.ActiveIsCurrent := by
  intro reference hactive
  rcases h.active with hsame | hnone
  · obtain ⟨authority, hauthority, hoperation⟩ := he reference (hsame ▸ hactive)
    refine ⟨authority, Eq.trans h.authority hauthority, ?_⟩
    have hpart := congrArg
      (Option.bind · fun i : String × α × Option OperationId ↦ i.2.2) (h.records reference)
    simp only [Option.bind_map] at hpart
    exact hpart.trans hoperation
  · rw [hnone] at hactive
    cases hactive

/-- The gate was asked for an admission, which made the request active or not; the requests of
the records are the same. -/
structure Admits {α δ : Type} (e f : ExecutionCoordinator α δ) (admission : Admission) :
    Prop where
  same : SameRequests e f
  admissions : f.admissions = e.admissions ++ [admission]
  idle : e.active = none
  active : f.ActiveIsCurrent

/-- A new record was reserved. -/
structure Reserves {α δ : Type} (e f : ExecutionCoordinator α δ) (reference : String)
    (arguments : α) : Prop where
  room : e.records.size < maxRecords
  fresh : e.records.get? reference = none
  reserved : ∃ driver, f = { e with
    records := e.records.set reference ⟨reference, arguments, driver, .rejected, none, none, none,
      none, none⟩ }

namespace ExecutionCoordinator

variable {α δ : Type}

/-- `admit` leaves the records as they are, or asks the gate. -/
theorem admitRecord_meets (e : ExecutionCoordinator α δ) (reference : String) (units : ℕ)
    (deadline : Option ℕ) (stamp : ℕ) :
    Meets (admitRecord reference units deadline stamp) e
      (fun _ f ↦ Retains e f ∨ Admits e f ⟨reference, units, deadline, stamp⟩)
      fun _ f ↦ Retains e f ∨ Admits e f ⟨reference, units, deadline, stamp⟩ := by
  unfold admitRecord retained
  simp only [Fallible.meets_bind, Fallible.meets_read]
  cases hrecord : e.records.get? reference with
  | none => exact .inl (.refl e)
  | some record =>
  simp only [Fallible.meets_pure, Fallible.meets_ite, Fallible.meets_raise]
  split
  · exact .inl (.refl e)
  next hidle =>
  have hactive : e.active = none := by
    by_contra h
    exact hidle (.inl (Option.isSome_iff_ne_none.mpr h))
  simp only [Fallible.meets_bind, Fallible.meets_assign, onGate, Fallible.meets_within, update]
  refine (GateState.admitRequest_meets e.gate reference units deadline stamp).mono ?_ ?_
  · intro decision g hdecision
    simp only [Fallible.meets_ite, Fallible.meets_bind, Fallible.meets_assign, Fallible.meets_pure]
    split
    · next hstatus =>
      obtain ⟨hauthority, hsome⟩ := hdecision hstatus
      obtain ⟨authority, hauth⟩ := Option.isSome_iff_exists.mp hsome
      refine .inr ⟨⟨by simp, fun other ↦ ?_⟩, by simp, hactive, ?_⟩
      · simp only [get?_withRecord]
        split
        · next ho => simp [ho, hrecord, Record.request]
        · rfl
      · intro other hother
        obtain rfl := Option.some.inj hother
        refine ⟨authority, by simpa using hauthority.trans hauth, ?_⟩
        simp [get?_withRecord, hrecord, hauth]
    · refine .inr ⟨⟨by simp, fun other ↦ ?_⟩, by simp, hactive, ?_⟩
      · simp only [get?_withRecord]
        split
        · next ho => simp [ho, hrecord, Record.request]
        · rfl
      · simp [ActiveIsCurrent, hactive]
  · intro _ g _
    exact .inr ⟨⟨rfl, fun _ ↦ rfl⟩, rfl, hactive, by simp [ActiveIsCurrent, hactive]⟩

end ExecutionCoordinator

namespace Admits

variable {α δ : Type} {e f g : ExecutionCoordinator α δ} {admission : Admission}

/-- What is retained before an admission does not matter. -/
theorem after (hef : Retains e f) (hidle : e.active = none) (h : Admits f g admission) :
    Admits e g admission where
  same := hef.sameRequests.trans h.same
  admissions := h.admissions.trans (congrArg (· ++ [admission]) hef.admissions)
  idle := hidle
  active := h.active

/-- What is retained after an admission neither. -/
theorem before (h : Admits e f admission) (hfg : Retains f g) : Admits e g admission where
  same := h.same.trans hfg.sameRequests
  admissions := hfg.admissions.trans h.admissions
  idle := h.idle
  active := hfg.activeIsCurrent h.active

end Admits

/-- What holds of the coordinator in every run: its records are bounded and named by their
keys, and every admission is that of one of them, and of no other. -/
structure ExecutionCoordinator.Sound {α δ : Type} (e : ExecutionCoordinator α δ) : Prop where
  bounded : e.records.size ≤ maxRecords
  named : ∀ reference record, e.records.get? reference = some record →
    record.requestId = reference
  once : (e.admissions.map Admission.requestId).Nodup
  retained : ∀ admission ∈ e.admissions, (e.records.get? admission.requestId).isSome
  active : e.ActiveIsCurrent

namespace ExecutionCoordinator.Sound

variable {α δ : Type} {e f : ExecutionCoordinator α δ}

/-- A coordinator without records is sound. -/
theorem initial (gate : GateState) : Sound ({ gate } : ExecutionCoordinator α δ) where
  bounded := Nat.zero_le _
  named _ _ h := nomatch h
  once := List.nodup_nil
  retained _ h := nomatch h
  active _ h := nomatch h

private theorem named_of_same (h : e.Sound) (hsame : SameRequests e f) (reference : String)
    (record : Record α δ) (hrecord : f.records.get? reference = some record) :
    record.requestId = reference := by
  have hmap := hsame.2 reference
  rw [hrecord, Option.map_some] at hmap
  obtain ⟨old, hold, hrequest⟩ := Option.map_eq_some_iff.mp hmap.symm
  exact (congrArg Prod.fst hrequest).symm.trans (h.named reference old hold)

private theorem isSome_of_same (hsame : SameRequests e f) {reference : String}
    (h : (e.records.get? reference).isSome) : (f.records.get? reference).isSome := by
  have hmap := congrArg Option.isSome (hsame.2 reference)
  simp only [Option.isSome_map] at hmap
  exact hmap.trans h

/-- What retains the records keeps a coordinator sound. -/
theorem retains (h : e.Sound) (hef : Retains e f) : f.Sound where
  bounded := hef.size ▸ h.bounded
  named := named_of_same h hef.sameRequests
  once := hef.admissions ▸ h.once
  retained := by
    rw [hef.admissions]
    exact fun admission ha ↦ isSome_of_same hef.sameRequests (h.retained admission ha)
  active := hef.activeIsCurrent h.active

/-- A reservation keeps a coordinator sound. -/
theorem reserves {reference : String} {arguments : α} (h : e.Sound)
    (hef : Reserves e f reference arguments) : f.Sound := by
  obtain ⟨hroom, hfresh, driver, rfl⟩ := hef
  refine ⟨Table.size_set_le.trans hroom, fun other record hrecord ↦ ?_, h.once,
    fun admission ha ↦ ?_, fun other hactive ↦ ?_⟩
  · by_cases ho : other = reference
    · subst ho
      simp only [Table.get?_set_self, Option.some.injEq] at hrecord
      exact hrecord ▸ rfl
    · simp only [Table.get?_set_of_ne ho] at hrecord
      exact h.named other record hrecord
  · by_cases ho : admission.requestId = reference
    · simp [ho]
    · simp only [Table.get?_set_of_ne ho]
      exact h.retained admission ha
  · obtain ⟨authority, hauthority, hoperation⟩ := h.active other hactive
    refine ⟨authority, hauthority, ?_⟩
    by_cases ho : other = reference
    · subst ho
      simp [hfresh] at hoperation
    · simp only [Table.get?_set_of_ne ho]
      exact hoperation

/-- An admission of a request that was not asked for before. -/
theorem admits {admission : Admission} (h : e.Sound) (hef : Admits e f admission)
    (hnew : ∀ a ∈ e.admissions, a.requestId ≠ admission.requestId)
    (hrecord : (e.records.get? admission.requestId).isSome) : f.Sound where
  bounded := hef.same.1 ▸ h.bounded
  named := named_of_same h hef.same
  once := by
    rw [hef.admissions, List.map_append, List.nodup_append]
    refine ⟨h.once, List.nodup_singleton _, fun a ha b hb ↦ ?_⟩
    obtain ⟨old, hold, rfl⟩ := List.mem_map.mp ha
    rw [List.map_singleton, List.mem_singleton] at hb
    exact hb ▸ hnew old hold
  retained := by
    rw [hef.admissions]
    intro a ha
    refine isSome_of_same hef.same ?_
    rcases List.mem_append.mp ha with hold | hlast
    · exact h.retained a hold
    · rwa [List.mem_singleton.mp hlast]
  active := hef.active

end ExecutionCoordinator.Sound

end RobotHarness.Python
