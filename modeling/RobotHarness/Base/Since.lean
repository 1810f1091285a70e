import Mathlib.Data.List.Basic

/-!
# Since

Past-time operators over a history that grows at its end: some event had one property and every
event after it has another; every event fits what came before it.
-/

universe u

variable {α : Type u}

/-- Some event of the history has `p`, and every later one has `q`. -/
def Since (p q : α → Prop) (history : List α) : Prop :=
  ∃ before e after, history = before ++ e :: after ∧ p e ∧ ∀ d ∈ after, q d

namespace Since

variable {p q : α → Prop} {history : List α} {e : α}

/-- It holds at the event with the first property. -/
theorem now (h : p e) : Since p q (history ++ [e]) := ⟨history, e, [], rfl, h, nofun⟩

/-- It goes on to hold while events have the second property. -/
theorem later (h : Since p q history) (hq : q e) : Since p q (history ++ [e]) := by
  obtain ⟨before, d, after, rfl, hp, hafter⟩ := h
  refine ⟨before, d, after ++ [e], by simp, hp, fun x hx ↦ ?_⟩
  rcases List.mem_append.mp hx with hx | hx
  · exact hafter x hx
  · rw [List.mem_singleton.mp hx]
    exact hq

/-- Both properties may be weakened. -/
theorem mono {p' q' : α → Prop} (h : Since p q history) (hp : ∀ x, p x → p' x)
    (hq : ∀ x, q x → q' x) : Since p' q' history := by
  obtain ⟨before, d, after, heq, hd, hafter⟩ := h
  exact ⟨before, d, after, heq, hp d hd, fun x hx ↦ hq x (hafter x hx)⟩

end Since

/-- Every event has the property with the history before it. -/
def Preceded (p : List α → α → Prop) (history : List α) : Prop :=
  ∀ before e after, history = before ++ e :: after → p before e

namespace Preceded

variable {p : List α → α → Prop} {history : List α} {e : α}

/-- An empty history has no event. -/
theorem nil : Preceded p [] := by
  intro before e after h
  simp at h

/-- A history that grows by one event has one more event to fit. -/
theorem append_singleton :
    Preceded p (history ++ [e]) ↔ Preceded p history ∧ p history e := by
  constructor
  · intro h
    refine ⟨fun before d after heq ↦ ?_, h history e [] rfl⟩
    exact h before d (after ++ [e]) (by simp [heq])
  · rintro ⟨h, hlast⟩ before d after heq
    rcases List.eq_nil_or_concat after with rfl | ⟨after, x, rfl⟩
    · obtain ⟨rfl, hd⟩ := List.append_inj' heq rfl
      cases hd
      exact hlast
    · rw [List.concat_eq_append, ← List.cons_append, ← List.append_assoc] at heq
      exact h before d after (List.append_inj' heq rfl).1

end Preceded
