import RobotHarness.Base.Mealy

/-!
# Machines that simulate one another

A machine refines another one when each of its steps, from a state related to one of the other
machine, is a step of that machine with a related answer, to a related state. Then each of its
histories is one of the other machine, event by event.
-/

universe u v w u' v' w'

namespace Mealy

variable {σ : Type u} {ι : Type v} {ο : Type w} {τ : Type u'} {κ : Type v'} {ν : Type w'}

/-- Two events are the same, as far as relations of states, inputs and answers tell. -/
structure Event.Matches (R : σ → τ → Prop) (J : ι → κ → Prop) (A : ο → ν → Prop)
    (d : Event σ ι ο) (e : Event τ κ ν) : Prop where
  pre : R d.pre e.pre
  input : J d.input e.input
  output : A d.output e.output
  post : R d.post e.post

/-- Every step of the first machine matches one of the second machine. -/
def Refines (M : Mealy σ ι ο) (N : Mealy τ κ ν) (R : σ → τ → Prop) (J : ι → κ → Prop)
    (A : ο → ν → Prop) : Prop :=
  ∀ s t, R s t → ∀ i, ∃ j, (M.event s i).Matches R J A (N.event t j)

/-- When every step from related states is matched by a step that leads to related states, every
history is matched event by event. -/
theorem exists_run_of_step {M : Mealy σ ι ο} {N : Mealy τ κ ν} {R : σ → τ → Prop}
    {E : Event σ ι ο → Event τ κ ν → Prop}
    (h : ∀ s t, R s t → ∀ i, ∃ j, E (M.event s i) (N.event t j) ∧ R (M.next s i) (N.next t j))
    {s : σ} {t : τ} (hst : R s t) (is : List ι) :
    ∃ js, List.Forall₂ E (M.trace s is) (N.trace t js) ∧ R (M.run s is) (N.run t js) := by
  induction is generalizing s t with
  | nil =>
    exists []
    constructor
    · exact .nil
    · exact hst
  | cons i is ih =>
    obtain ⟨j, hmatches, hpost⟩ := h s t hst i
    obtain ⟨js, hrest, hrun⟩ := ih hpost
    exists j :: js
    constructor
    · exact .cons hmatches hrest
    · exact hrun

/-- Every history of a machine is one of the machine that it refines. -/
theorem Refines.exists_run {M : Mealy σ ι ο} {N : Mealy τ κ ν} {R : σ → τ → Prop}
    {J : ι → κ → Prop} {A : ο → ν → Prop} (h : M.Refines N R J A) {s : σ} {t : τ} (hst : R s t)
    (is : List ι) :
    ∃ js, List.Forall₂ (Event.Matches R J A) (M.trace s is) (N.trace t js) ∧
      R (M.run s is) (N.run t js) := by
  refine exists_run_of_step (fun s t hst i ↦ ?_) hst is
  obtain ⟨j, hmatches⟩ := h s t hst i
  exact ⟨j, hmatches, hmatches.post⟩

end Mealy
