import RobotHarness.Core.History

/-!
# Admission

An operation is admitted only when the one before it is over, and under an id that no
operation had before. Ids come from one counter, which admits nothing once it has wrapped.
-/

namespace RobotHarness

/-- Resolved effects leave no unknown outcome. -/
theorem OperationReceipt.known_of_hasResolvedEffects {r : OperationReceipt}
    (h : r.hasResolvedEffects) : r.nativeOutcome ≠ .unknown := by
  intro hunknown
  simp [hasResolvedEffects, hunknown] at h

/-- The id that an event hands out. -/
def issuedId (e : GateEvent) : Option OperationId :=
  match e.output with
  | .admission ⟨.admitted, some authority⟩ => some authority.operationId
  | _ => none

/-- The ids handed out in a history, oldest first. -/
def issuedIds (h : List GateEvent) : List OperationId := h.filterMap issuedId

/-- An answer without effect hands out no id. -/
theorem Answer.NoEffect.issuedId {s s' : AuthorityGate} {c : Call} {a : Answer}
    (h : a.NoEffect) : RobotHarness.issuedId ⟨s, c, a, s'⟩ = none := by
  cases a with
  | admission decision =>
    obtain ⟨status, authority⟩ := decision
    cases status with
    | admitted => exact absurd rfl h
    | _ => rfl
  | _ => rfl

/-- A transition hands out no id, or the next one and moves the counter past it. -/
theorem Transition.issuedId {s s' : AuthorityGate} {c : Call} {a : Answer}
    (step : Transition s c a s') :
    RobotHarness.issuedId ⟨s, c, a, s'⟩ = none ∨
      RobotHarness.issuedId ⟨s, c, a, s'⟩ = some s.nextOperationId ∧
        s.nextOperationId ≠ 0 ∧ s'.nextOperationId = s.nextOperationId + 1 := by
  cases step with
  | noEffect h => exact .inl h.issuedId
  | admission guard => exact .inr ⟨rfl, guard.unexhausted, rfl⟩
  | operation _ _ step => cases step <;> exact .inl rfl
  | _ => exact .inl rfl

/-- The ids handed out are nonzero, increase, and are known to the counter. -/
structure OrderedIds (h : List GateEvent) (s : AuthorityGate) : Prop where
  nonzero : ∀ id ∈ issuedIds h, id ≠ 0
  issued : ∀ id ∈ issuedIds h, s.Issued id
  increasing : (issuedIds h).Pairwise (· < ·)

private theorem orderedIds_step (h : List GateEvent) (s : AuthorityGate) (c : Call) (a : Answer)
    (s' : AuthorityGate) (_ : s.Coherent) (_ : s.call c = (a, s'))
    (step : Transition s c a s') (ih : OrderedIds h s) :
    OrderedIds (h ++ [⟨s, c, a, s'⟩]) s' := by
  have happend : issuedIds (h ++ [⟨s, c, a, s'⟩]) =
      issuedIds h ++ (issuedId ⟨s, c, a, s'⟩).toList := filterMap_snoc issuedId h _
  rcases step.issuedId with hnone | ⟨hsome, hnonzero, hnext⟩
  · rw [hnone, Option.toList_none, List.append_nil] at happend
    refine ⟨?_, ?_, ?_⟩ <;> rw [happend]
    · exact ih.nonzero
    · exact fun id hid ↦ step.issued (ih.issued id hid)
    · exact ih.increasing
  · rw [hsome, Option.toList_some] at happend
    refine ⟨?_, ?_, ?_⟩ <;> rw [happend]
    · intro id hid
      rcases List.mem_append.mp hid with hold | hnew
      · exact ih.nonzero id hold
      · rw [List.mem_singleton.mp hnew]
        exact hnonzero
    · intro id hid
      rcases List.mem_append.mp hid with hold | hnew
      · exact step.issued (ih.issued id hold)
      · rw [List.mem_singleton.mp hnew, AuthorityGate.Issued, hnext]
        grind
    · rw [List.pairwise_append]
      refine ⟨ih.increasing, List.pairwise_singleton _ _, ?_⟩
      intro id hid next hmem
      rw [List.mem_singleton.mp hmem]
      exact (ih.issued id hid).resolve_left hnonzero

/-- In every run the ids handed out so far are ordered. -/
theorem Run.orderedIds (run : Run) : OrderedIds run.history run.final :=
  run.history_rule ⟨nofun, nofun, List.Pairwise.nil⟩ orderedIds_step

/-- What an admission finds of the operation before it: settled, with resolved effects and a
known outcome, and all its times in the past. -/
theorem Transition.admission_exclusive {e : GateEvent}
    (step : Transition e.pre e.input e.output e.post) (h : Admitted e) :
    ∃ request authority,
      e.input = .admitRequest request ∧ e.output = .admission ⟨.admitted, some authority⟩ ∧
        authority.admittedAt = request.requestedAt ∧
        ∀ r ∈ e.pre.currentReceipt, r.settlement = .settled ∧ r.hasResolvedEffects ∧
          r.nativeOutcome ≠ .unknown ∧
          ∀ slot ∈ r.recordedTimes, ∀ t ∈ slot, t ≤ authority.admittedAt := by
  obtain ⟨s, c, a, s'⟩ := e
  obtain ⟨decision, hanswer, hadmitted⟩ := h
  dsimp only at hanswer step ⊢
  cases step with
  | noEffect h =>
    subst hanswer
    exact absurd hadmitted h
  | @admission request guard =>
    refine ⟨request, s.nextAuthority request, rfl, rfl, rfl, fun r hr ↦ ?_⟩
    obtain ⟨⟨hsettled, hresolved⟩, -⟩ := guard.closed r hr
    exact ⟨hsettled, hresolved, OperationReceipt.known_of_hasResolvedEffects hresolved,
      OperationReceipt.latestTime_le_iff_recordedTimes.mp (guard.time r hr)⟩
  | operation _ _ step => cases step <;> cases hanswer
  | _ => cases hanswer

/-- Mutual exclusion and fresh identity. -/
theorem Run.exclusive_admission (run : Run) :
    (∀ e ∈ run.history, Admitted e → ∃ request authority,
      e.input = .admitRequest request ∧ e.output = .admission ⟨.admitted, some authority⟩ ∧
        authority.admittedAt = request.requestedAt ∧
        ∀ r ∈ e.pre.currentReceipt, r.settlement = .settled ∧ r.hasResolvedEffects ∧
          r.nativeOutcome ≠ .unknown ∧
          ∀ slot ∈ r.recordedTimes, ∀ t ∈ slot, t ≤ authority.admittedAt) ∧
      (∀ id ∈ issuedIds run.history, id ≠ 0) ∧
      (issuedIds run.history).Pairwise (· < ·) :=
  ⟨fun _ he hadmitted ↦ (run.transition he).2.admission_exclusive hadmitted,
    run.orderedIds.nonzero, run.orderedIds.increasing⟩

end RobotHarness
