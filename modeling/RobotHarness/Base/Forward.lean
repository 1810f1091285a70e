import Mathlib.Logic.Relation
import Mathlib.Order.Basic

/-!
# Programs that only move forward

State transformers over a preordered state that never lead below the state they start from,
and the rules for what they yield and what they keep. A program can also be read as a sequence of
steps of a relation on states.
-/

universe u v w

/-- A program over states: its result and the state in which it ends, at or above the state
in which it starts. -/
structure Forward (σ : Type u) [Preorder σ] (α : Type v) where
  run : σ → α × σ
  le_run : ∀ s, s ≤ (run s).2

namespace Forward

variable {σ : Type u} [Preorder σ] {α : Type v} {β : Type v}

/-- The result of a program at a state. -/
def result (m : Forward σ α) (s : σ) : α := (m.run s).1

/-- The state in which a program ends. -/
def final (m : Forward σ α) (s : σ) : σ := (m.run s).2

/-- Do nothing. -/
protected def pure (a : α) : Forward σ α := ⟨fun s ↦ (a, s), fun s ↦ le_refl s⟩

/-- One program after another. -/
protected def bind (m : Forward σ α) (k : α → Forward σ β) : Forward σ β :=
  ⟨fun s ↦ (k (m.run s).1).run (m.run s).2, fun s ↦ (m.le_run s).trans ((k _).le_run _)⟩

/-- A program goes on from where its first part ends. -/
instance instMonadForward : Monad (Forward σ) where
  pure := Forward.pure
  bind := Forward.bind

/-- Read from the state. -/
def read (f : σ → α) : Forward σ α := ⟨fun s ↦ (f s, s), fun s ↦ le_refl s⟩

/-- Assign to the state. -/
def assign (f : σ → σ) (h : ∀ s, s ≤ f s) : Forward σ PUnit := ⟨fun s ↦ (⟨⟩, f s), h⟩

/-- A program that runs only under a condition. -/
def guarded (c : Prop) [Decidable c] (m : Forward σ PUnit) : Forward σ PUnit :=
  if c then m else Forward.pure ⟨⟩

/-- A program that only returns leaves the state as it is. -/
@[simp] theorem final_pure (a : α) (s : σ) : (pure a : Forward σ α).final s = s := rfl

/-- A program that only returns has its result. -/
@[simp] theorem result_pure (a : α) (s : σ) : (pure a : Forward σ α).result s = a := rfl

/-- A read leaves the state as it is. -/
@[simp] theorem final_read (f : σ → α) (s : σ) : (read f).final s = s := rfl

/-- A read returns what it reads. -/
@[simp] theorem result_read (f : σ → α) (s : σ) : (read f).result s = f s := rfl

/-- An assignment leaves the new state. -/
@[simp] theorem final_assign (f : σ → σ) (h : ∀ s, s ≤ f s) (s : σ) :
    (assign f h).final s = f s := rfl

/-- Two programs end where the second one does. -/
@[simp] theorem final_bind (m : Forward σ α) (k : α → Forward σ β) (s : σ) :
    (m >>= k).final s = (k (m.result s)).final (m.final s) := rfl

/-- Two programs return what the second one does. -/
@[simp] theorem result_bind (m : Forward σ α) (k : α → Forward σ β) (s : σ) :
    (m >>= k).result s = (k (m.result s)).result (m.final s) := rfl

/-- A guarded program runs when its guard holds. -/
theorem final_guarded (c : Prop) [Decidable c] (m : Forward σ PUnit) (s : σ) :
    (guarded c m).final s = if c then m.final s else s := by
  unfold guarded
  split <;> rfl

/-! ### What a program yields -/

/-- The program yields the result and ends in the state. -/
def Yields (m : Forward σ α) (s : σ) (a : α) (s' : σ) : Prop := m.run s = (a, s')

section Yields

variable {m : Forward σ α} {k : α → Forward σ β} {s s' s'' : σ} {a : α} {b : β} {c : Prop}
  [Decidable c]

/-- A program that yields a state ends in it. -/
theorem Yields.final (h : Yields m s a s') : m.final s = s' := congrArg Prod.snd h

/-- A program without a result yields the state that it ends in. -/
theorem Yields.of_final {m : Forward σ PUnit} (h : m.final s = s') : Yields m s ⟨⟩ s' :=
  Prod.ext rfl h

/-- A program that only returns yields what it returns. -/
theorem Yields.pure : Yields (Pure.pure a) s a s := rfl

/-- What is read is known to the rest of a program that yields. -/
theorem Yields.read {γ : Type v} {f : σ → γ} {k : γ → Forward σ β}
    (h : Yields (k (f s)) s b s') : Yields (Forward.read f >>= k) s b s' := h

/-- Two programs yield what the second one does after the first. -/
theorem Yields.bind (h : Yields m s a s') (hk : Yields (k a) s' b s'') :
    Yields (m >>= k) s b s'' := by
  have hrun : (m >>= k).run s = (k (m.run s).1).run (m.run s).2 := rfl
  rw [Yields, hrun, h]
  exact hk

/-- A choice whose condition fails yields what its second branch does. -/
theorem Yields.otherwise {m' : Forward σ α} (hc : ¬ c) (h : Yields m' s a s') :
    Yields (if c then m else m') s a s' := by
  rwa [if_neg hc]

/-- A guarded program whose guard holds yields what it yields. -/
theorem Yields.guarded {m : Forward σ PUnit} (hc : c) (h : Yields m s ⟨⟩ s') :
    Yields (Forward.guarded c m) s ⟨⟩ s' := by
  rwa [Forward.guarded, if_pos hc]

/-- A guarded program whose guard fails yields nothing new. -/
theorem Yields.skip {m : Forward σ PUnit} (hc : ¬ c) : Yields (Forward.guarded c m) s ⟨⟩ s := by
  rw [Forward.guarded, if_neg hc]
  rfl

end Yields

variable {m : Forward σ α} {k : α → Forward σ β} {s : σ} {c : Prop} [Decidable c]

/-! ### What a program keeps -/

/-- The property holds at the end when it holds at the start. -/
def Keeps (P : σ → Prop) (m : Forward σ α) : Prop := ∀ s, P s → P (m.final s)

section Keeps

variable {P : σ → Prop}

/-- A program that only returns keeps everything. -/
theorem Keeps.pure {a : α} : Keeps P (Pure.pure a) := fun _ ↦ id

/-- An assignment keeps what its change does. -/
theorem Keeps.assign {f : σ → σ} {hf : ∀ s, s ≤ f s} (h : ∀ s, P s → P (f s)) :
    Keeps P (Forward.assign f hf) := h

/-- A program that reads first keeps what its rest does. -/
theorem Keeps.read {γ : Type v} {f : σ → γ} {k : γ → Forward σ β} (hk : ∀ a, Keeps P (k a)) :
    Keeps P (Forward.read f >>= k) := fun _ ↦ hk _ _

/-- Two programs keep what both do. -/
theorem Keeps.bind (h : Keeps P m) (hk : ∀ a, Keeps P (k a)) : Keeps P (m >>= k) :=
  fun s hs ↦ hk _ _ (h s hs)

/-- A choice keeps what both of its branches do. -/
theorem Keeps.ite {m' : Forward σ α} (ht : c → Keeps P m) (hf : ¬ c → Keeps P m') :
    Keeps P (if c then m else m') := by
  split
  · next h => exact ht h
  · next h => exact hf h

/-- A guarded program keeps what it keeps when its guard holds. -/
theorem Keeps.guarded {m : Forward σ PUnit} (h : c → Keeps P m) :
    Keeps P (Forward.guarded c m) := by
  unfold Forward.guarded
  exact .ite h fun _ ↦ .pure

end Keeps

/-! ### Programs as sequences of steps -/

/-- The program leads from the state along steps of the relation. -/
def Makes (R : σ → σ → Prop) (m : Forward σ α) (s : σ) : Prop :=
  Relation.ReflTransGen R s (m.final s)

section Makes

variable {R T : σ → σ → Prop}

/-- A program that only returns makes no step. -/
theorem Makes.pure {a : α} : Makes R (Pure.pure a) s := .refl

/-- A program that ends one step away. -/
theorem Makes.step (h : R s (m.final s)) : Makes R m s := .single h

/-- A read is followed by what makes use of it. -/
theorem Makes.read {γ : Type v} {f : σ → γ} {k : γ → Forward σ β} (h : Makes R (k (f s)) s) :
    Makes R (Forward.read f >>= k) s := h

/-- Two programs make the steps of both. -/
theorem Makes.bind (h : Makes R m s) (hk : Makes R (k (m.result s)) (m.final s)) :
    Makes R (m >>= k) s :=
  Relation.ReflTransGen.trans h hk

/-- A choice makes the steps of the branch that is taken. -/
theorem Makes.ite {m' : Forward σ α} (ht : c → Makes R m s) (hf : ¬ c → Makes R m' s) :
    Makes R (if c then m else m') s := by
  split
  · next h => exact ht h
  · next h => exact hf h

/-- A guarded program makes its steps when its guard holds. -/
theorem Makes.guarded {m : Forward σ PUnit} (h : c → Makes R m s) :
    Makes R (Forward.guarded c m) s := by
  unfold Forward.guarded
  exact .ite h fun _ ↦ .pure

/-- Steps of one relation are steps of a wider one. -/
theorem Makes.mono (h : Makes R m s) (hRT : ∀ a b, R a b → T a b) : Makes T m s :=
  Relation.ReflTransGen.mono hRT _ _ h

/-- What every step keeps, the program keeps. -/
theorem Makes.keeps {P : σ → Prop} (h : Makes R m s) (hstep : ∀ a b, R a b → P a → P b)
    (hs : P s) : P (m.final s) := by
  unfold Makes at h
  generalize m.final s = s' at h ⊢
  induction h with
  | refl => exact hs
  | tail _ hlast ih => exact hstep _ _ hlast ih

end Makes

end Forward
