import Mathlib.Logic.Relation

/-!
# Programs that may raise

State transformers that end with a result or with an exception, and that leave the state they
have reached in both cases; and the rules for what they meet when they end. A program of a
component becomes a program of the whole through the place where the whole keeps it.
-/

universe u v w x

/-- A program over states: a result or an exception, and the state that it leaves. -/
def Fallible (ε : Type u) (σ : Type v) (α : Type w) : Type (max u v w) := σ → Except ε α × σ

namespace Fallible

variable {ε : Type u} {σ : Type v} {τ : Type x} {α β : Type w}

/-- One program after another, unless the first one raises. -/
protected def bind (p : Fallible ε σ α) (k : α → Fallible ε σ β) : Fallible ε σ β := fun s ↦
  match p s with
  | (.ok a, t) => k a t
  | (.error e, t) => (.error e, t)

/-- A program goes on with what it returns, unless it raises. -/
instance instMonadFallible : Monad (Fallible ε σ) where
  pure a := fun s ↦ (.ok a, s)
  bind := Fallible.bind

/-- Raise an exception. -/
def raise (e : ε) : Fallible ε σ α := fun s ↦ (.error e, s)

/-- Read from the state. -/
def read (f : σ → α) : Fallible ε σ α := fun s ↦ (.ok (f s), s)

/-- Assign to the state. -/
def assign (f : σ → σ) : Fallible ε σ PUnit := fun s ↦ (.ok ⟨⟩, f s)

/-- An answer from outside, which may be an exception. -/
def answer (r : Except ε α) : Fallible ε σ α := fun s ↦ (r, s)

/-- A change of the state that an exception makes on its way out. -/
def onRaise (f : σ → σ) (p : Fallible ε σ α) : Fallible ε σ α := fun s ↦
  match p s with
  | (.ok a, t) => (.ok a, t)
  | (.error e, t) => (.error e, f t)

/-- A program of a component that the state holds. -/
def within (get : σ → τ) (put : τ → σ → σ) (p : Fallible ε τ α) : Fallible ε σ α := fun s ↦
  ((p (get s)).1, put (p (get s)).2 s)

/-- A program whose exceptions are exceptions of another kind. -/
def lifted {ε' : Type u} (f : ε' → ε) (p : Fallible ε' σ α) : Fallible ε σ α := fun s ↦
  match p s with
  | (.ok a, t) => (.ok a, t)
  | (.error e, t) => (.error (f e), t)

/-- A program that returns what another one raises. -/
def attempt {ε' : Type w} (p : Fallible ε' σ α) : Fallible ε σ (Except ε' α) := fun s ↦
  (.ok (p s).1, (p s).2)

/-- A handler of some exceptions, which starts from the state that the program has reached. -/
def catching (p : Fallible ε σ α) (caught : ε → Bool) (handler : ε → Fallible ε σ α) :
    Fallible ε σ α := fun s ↦
  match p s with
  | (.ok a, t) => (.ok a, t)
  | (.error e, t) => if caught e = true then handler e t else (.error e, t)

/-- What an `Except` program returns, its first part has returned. -/
theorem ok_of_bind {p : Except ε α} {k : α → Except ε β} {b : β} (h : p >>= k = .ok b) :
    ∃ a, p = .ok a ∧ k a = .ok b := by
  cases p with
  | error e => cases h
  | ok a => exact ⟨a, rfl, h⟩

/-- A function of the result changes no state. -/
theorem map_apply (f : α → β) (p : Fallible ε σ α) (s : σ) :
    (f <$> p) s = ((p s).1.map f, (p s).2) := by
  simp only [Functor.map, Fallible.bind]
  rcases p s with ⟨_ | _, _⟩ <;> rfl

/-- The rest of a program runs from the state that the first part has left. -/
theorem bind_of_eq {p : Fallible ε σ α} {k : α → Fallible ε σ β} {s t : σ} {a : α}
    (hp : p s = (.ok a, t)) : (p >>= k) s = k a t := by
  change (match p s with | (.ok a, t) => k a t | (.error e, t) => (.error e, t)) = k a t
  rw [hp]

/-- Nothing is changed on the way out of a program that returns. -/
theorem onRaise_of_eq {f : σ → σ} {p : Fallible ε σ α} {s t : σ} {a : α}
    (hp : p s = (.ok a, t)) : onRaise f p s = (.ok a, t) := by
  rw [onRaise, hp]

/-- What is read is known to the rest of a program. -/
theorem read_bind (f : σ → α) (k : α → Fallible ε σ β) (s : σ) :
    (read f >>= k) s = k (f s) s := rfl

/-! ### What a program meets -/

/-- The program ends with `Q`, or raises with `E`. -/
def Meets (p : Fallible ε σ α) (s : σ) (Q : α → σ → Prop) (E : ε → σ → Prop) : Prop :=
  match p s with
  | (.ok a, t) => Q a t
  | (.error e, t) => E e t

section Meets

variable {p : Fallible ε σ α} {k : α → Fallible ε σ β} {s : σ} {Q Q' : α → σ → Prop}
  {R : β → σ → Prop} {E E' : ε → σ → Prop} {c : Prop} [Decidable c]

/-- A program that only returns meets what holds where it starts. -/
@[simp] theorem meets_pure {a : α} : Meets (pure a) s Q E ↔ Q a s := Iff.rfl

/-- A program that raises meets what holds of its exception. -/
@[simp] theorem meets_raise {e : ε} : Meets (raise e) s Q E ↔ E e s := Iff.rfl

/-- A read changes nothing and returns what it reads. -/
@[simp] theorem meets_read {f : σ → α} : Meets (read f) s Q E ↔ Q (f s) s := Iff.rfl

/-- An assignment is met after the change. -/
@[simp] theorem meets_assign {f : σ → σ} {Q : PUnit → σ → Prop} :
    Meets (assign f) s Q E ↔ Q ⟨⟩ (f s) := Iff.rfl

/-- An answer is a result. -/
@[simp] theorem meets_answer_ok {a : α} : Meets (answer (.ok a)) s Q E ↔ Q a s := Iff.rfl

/-- An answer may be an exception. -/
@[simp] theorem meets_answer_error {e : ε} : Meets (answer (.error e)) s Q E ↔ E e s := Iff.rfl

/-- The rest of a program is met from where its first part returns. -/
@[simp] theorem meets_bind :
    Meets (p >>= k) s R E ↔ Meets p s (fun a t ↦ Meets (k a) t R E) E := by
  simp only [Meets, bind, Fallible.bind]
  rcases p s with ⟨_ | _, _⟩ <;> rfl

/-- An exception changes the state on its way out. -/
@[simp] theorem meets_onRaise {f : σ → σ} :
    Meets (onRaise f p) s Q E ↔ Meets p s Q fun e t ↦ E e (f t) := by
  unfold Meets onRaise
  rcases p s with ⟨_ | _, _⟩ <;> rfl

/-- A program of a component is met by the component. -/
@[simp] theorem meets_within {get : σ → τ} {put : τ → σ → σ} {p : Fallible ε τ α} :
    Meets (within get put p) s Q E ↔
      Meets p (get s) (fun a t ↦ Q a (put t s)) (fun e t ↦ E e (put t s)) := by
  unfold Meets within
  rcases p (get s) with ⟨_ | _, _⟩ <;> rfl

/-- A function of the result is met by its values. -/
@[simp] theorem meets_map {f : α → β} {p : Fallible ε σ α} :
    Meets (f <$> p) s R E ↔ Meets p s (fun a t ↦ R (f a) t) E := by
  unfold Meets
  rw [map_apply]
  rcases p s with ⟨_ | _, _⟩ <;> rfl

/-- Exceptions of another kind are met by what they stand for. -/
@[simp] theorem meets_lifted {ε' : Type u} {f : ε' → ε} {p : Fallible ε' σ α} :
    Meets (lifted f p) s Q E ↔ Meets p s Q fun e t ↦ E (f e) t := by
  unfold Meets lifted
  rcases p s with ⟨_ | _, _⟩ <;> rfl

/-- An attempt always returns, also what was raised. -/
@[simp] theorem meets_attempt {ε' : Type w} {p : Fallible ε' σ α} {Q : Except ε' α → σ → Prop} :
    Meets (attempt p : Fallible ε σ _) s Q E ↔
      Meets p s (fun a t ↦ Q (.ok a) t) fun e t ↦ Q (.error e) t := by
  unfold Meets attempt
  rcases p s with ⟨_ | _, _⟩ <;> rfl

/-- A handler is met from where a caught exception was raised. -/
@[simp] theorem meets_catching {caught : ε → Bool} {handler : ε → Fallible ε σ α} :
    Meets (catching p caught handler) s Q E ↔
      Meets p s Q fun e t ↦ if caught e = true then Meets (handler e) t Q E else E e t := by
  unfold Meets catching
  rcases p s with ⟨e | _, t⟩
  · by_cases h : caught e = true
    · simp only [h, if_true]
    · simp only [h, if_false, Bool.false_eq_true]
  · rfl

/-- What is read is known to what is met afterwards. -/
theorem meets_read_bind {f : σ → α} :
    Meets (read f >>= k) s R E ↔ Meets (k (f s)) s R E := Iff.rfl

/-- The whole state is known to the rest of a program. -/
theorem meets_self_bind {β : Type v} {k : σ → Fallible ε σ β} {s : σ}
    {R : β → σ → Prop} {E : ε → σ → Prop} :
    Meets ((read id : Fallible ε σ σ) >>= k) s R E ↔ Meets (k s) s R E := Iff.rfl

/-- A choice is met by the branch that is taken. -/
@[simp] theorem meets_ite {p' : Fallible ε σ α} :
    Meets (if c then p else p') s Q E ↔ if c then Meets p s Q E else Meets p' s Q E := by
  split <;> rfl

/-- What a program meets may be weakened. -/
theorem Meets.mono (h : Meets p s Q E) (hQ : ∀ a t, Q a t → Q' a t)
    (hE : ∀ e t, E e t → E' e t) : Meets p s Q' E' := by
  unfold Meets at h ⊢
  split at h
  · exact hQ _ _ h
  · exact hE _ _ h

/-- What a program meets in two ways it meets at once. -/
theorem Meets.and (h : Meets p s Q E) (h' : Meets p s Q' E') :
    Meets p s (fun a t ↦ Q a t ∧ Q' a t) fun e t ↦ E e t ∧ E' e t := by
  unfold Meets at h h' ⊢
  split
  · next heq =>
    simp only [heq] at h h'
    exact ⟨h, h'⟩
  · next heq =>
    simp only [heq] at h h'
    exact ⟨h, h'⟩

/-- What a program meets is known to the rest of it. -/
theorem Meets.bind (hp : Meets p s Q E) (hk : ∀ a t, Q a t → Meets (k a) t R E) :
    Meets (p >>= k) s R E := by
  rw [meets_bind]
  exact hp.mono hk fun _ _ he ↦ he

/-- What the last part of a program meets from every state, when exceptions do not matter. -/
theorem Meets.after (hk : ∀ a t, Meets (k a) t R E) (hE : ∀ e t, E e t) :
    Meets (p >>= k) s R E := by
  rw [meets_bind]
  unfold Meets
  split
  · exact hk _ _
  · exact hE _ _

/-- A program meets how it ends. -/
theorem Meets.eq : Meets p s (fun a t ↦ p s = (.ok a, t)) fun e t ↦ p s = (.error e, t) := by
  unfold Meets
  split <;> next heq => exact heq

/-- A program returns or raises with what it meets. -/
theorem Meets.cases (h : Meets p s Q E) :
    (∃ a t, p s = (.ok a, t) ∧ Q a t) ∨ ∃ e t, p s = (.error e, t) ∧ E e t := by
  unfold Meets at h
  split at h
  next a t heq => exact .inl ⟨a, t, heq, h⟩
  next e t heq => exact .inr ⟨e, t, heq, h⟩

/-- A program that returns has met what it returns with. -/
theorem Meets.returned {a : α} (h : Meets p s Q E) (hp : (p s).1 = .ok a) : Q a (p s).2 := by
  rcases h.cases with ⟨b, t, heq, hq⟩ | ⟨e, t, heq, -⟩
  · rw [heq] at hp ⊢
    cases hp
    exact hq
  · rw [heq] at hp
    cases hp

/-- What is met however a program ends holds of the state that it leaves. -/
theorem Meets.state {P : σ → Prop} (h : Meets p s (fun _ t ↦ P t) fun _ t ↦ P t) :
    P (p s).2 := by
  unfold Meets at h
  split at h <;> next heq => rwa [heq]

/-- A program that returns meets what holds then. -/
theorem Meets.of_eq {a : α} {t : σ} (hp : p s = (.ok a, t)) (h : Q a t) : Meets p s Q E := by
  simpa only [Meets, hp] using h

/-- A program that raises meets what holds then. -/
theorem Meets.of_raised {e : ε} {t : σ} (hp : p s = (.error e, t)) (h : E e t) :
    Meets p s Q E := by
  simpa only [Meets, hp] using h

end Meets

/-! ### How a program moves -/

/-- The program relates the state it starts from to the state it leaves. -/
def Moves (R : σ → σ → Prop) (p : Fallible ε σ α) : Prop := ∀ s, R s (p s).2

section Moves

variable {R : σ → σ → Prop} {p p' : Fallible ε σ α} {k : α → Fallible ε σ β} {c : Prop}
  [Decidable c]

/-- What a program relates is met when it ends. -/
theorem Moves.meets (h : Moves R p) (s : σ) : Meets p s (fun _ t ↦ R s t) fun _ t ↦ R s t := by
  have hs := h s
  unfold Meets
  split <;> next heq => rwa [heq] at hs

/-- What is met when a program ends, with a result or not, is what it relates. -/
theorem Moves.of_meets (h : ∀ s, Meets p s (fun _ t ↦ R s t) fun _ t ↦ R s t) : Moves R p :=
  fun s ↦ (h s).state

/-- A program that only returns moves nothing. -/
theorem Moves.pure (hrefl : ∀ s, R s s) {a : α} : Moves R (pure a : Fallible ε σ α) := hrefl

/-- A program that raises moves nothing. -/
theorem Moves.raise (hrefl : ∀ s, R s s) {e : ε} : Moves R (raise e : Fallible ε σ α) := hrefl

/-- A read moves nothing. -/
theorem Moves.read (hrefl : ∀ s, R s s) {f : σ → α} : Moves R (read f : Fallible ε σ α) := hrefl

/-- An answer moves nothing. -/
theorem Moves.answer (hrefl : ∀ s, R s s) {r : Except ε α} :
    Moves R (answer r : Fallible ε σ α) := hrefl

/-- Two programs move by a transitive relation when both do. -/
theorem Moves.bind (htrans : ∀ s t u, R s t → R t u → R s u) (hp : Moves R p)
    (hk : ∀ a, Moves R (k a)) : Moves R (p >>= k) := by
  intro s
  have hs := hp s
  simp only [Bind.bind, Fallible.bind]
  split
  · next a t heq => exact htrans s t _ (by simpa only [heq] using hs) (hk a t)
  · next e t heq => simpa only [heq] using hs

/-- A function of the result moves nothing more. -/
theorem Moves.map {f : α → β} (hp : Moves R p) : Moves R (f <$> p) := by
  intro s
  rw [map_apply]
  exact hp s

/-- A program of a component moves the whole by what it moves of the component. -/
theorem Moves.within {S : τ → τ → Prop} {get : σ → τ} {put : τ → σ → σ} {p : Fallible ε τ α}
    (hput : ∀ s t, S (get s) t → R s (put t s)) (hp : Moves S p) :
    Moves R (within get put p) :=
  fun s ↦ hput s _ (hp (get s))

/-- An assignment moves the state to its new value. -/
theorem Moves.assign {f : σ → σ} (h : ∀ s, R s (f s)) : Moves R (assign f : Fallible ε σ PUnit) := h

/-- A choice moves as both of its branches do. -/
theorem Moves.ite (ht : c → Moves R p) (hf : ¬ c → Moves R p') :
    Moves R (if c then p else p') := by
  split
  · next h => exact ht h
  · next h => exact hf h

end Moves

/-! ### Programs that go step by step -/

/-- What every step keeps holds along steps. -/
theorem holds_along {R : σ → σ → Prop} {P : σ → Prop} {s t : σ}
    (hstep : ∀ s t, R s t → P s → P t) (steps : Relation.ReflTransGen R s t) (hs : P s) : P t := by
  induction steps with
  | refl => exact hs
  | tail _ step ih => exact hstep _ _ step ih

/-- The program returns with `Q`, along steps of the relation. -/
def Reaches (R : σ → σ → Prop) (p : Fallible ε σ α) (s : σ) (Q : α → σ → Prop) : Prop :=
  Meets p s (fun a t ↦ Relation.ReflTransGen R s t ∧ Q a t) fun _ _ ↦ False

section Reaches

variable {R R' : σ → σ → Prop} {p p' : Fallible ε σ α} {k : α → Fallible ε σ β} {s t : σ}
  {Q Q' : α → σ → Prop} {T : β → σ → Prop} {c : Prop} [Decidable c]

/-- A program that returns where it started. -/
theorem Reaches.refl {a : α} (hp : p s = (.ok a, s)) (h : Q a s) : Reaches R p s Q :=
  .of_eq hp ⟨.refl, h⟩

/-- A program that only returns has reached its end. -/
theorem Reaches.pure {a : α} (h : Q a s) : Reaches R (pure a : Fallible ε σ α) s Q := .refl rfl h

/-- A read has reached its end. -/
theorem Reaches.read {f : σ → α} (h : Q (f s) s) : Reaches R (read f : Fallible ε σ α) s Q :=
  .refl rfl h

/-- A program that makes one step. -/
theorem Reaches.step {a : α} (hp : p s = (.ok a, t)) (hstep : R s t) (h : Q a t) :
    Reaches R p s Q :=
  .of_eq hp ⟨.single hstep, h⟩

/-- A program reaches its end through that of its first part. -/
theorem Reaches.bind (hp : Reaches R p s Q)
    (hk : ∀ a t, Relation.ReflTransGen R s t → Q a t → Reaches R (k a) t T) :
    Reaches R (p >>= k) s T := by
  unfold Reaches
  rw [meets_bind]
  refine hp.mono (fun a t ⟨hst, hq⟩ ↦ ?_) fun _ _ h ↦ h
  exact (hk a t hst hq).mono (fun b u ⟨htu, ht⟩ ↦ ⟨hst.trans htu, ht⟩) fun _ _ h ↦ h

/-- What is met after a program that goes step by step. -/
theorem Reaches.meets_bind {E : ε → σ → Prop} (hp : Reaches R p s Q)
    (hk : ∀ a t, Relation.ReflTransGen R s t → Q a t → Meets (k a) t T E) :
    Meets (p >>= k) s T E := by
  rw [Fallible.meets_bind]
  exact Meets.mono hp (fun a t ⟨hst, hq⟩ ↦ hk a t hst hq) fun _ _ hf ↦ hf.elim

/-- What a program reads is known to its continuation. -/
theorem Reaches.read_bind {f : σ → α} (hk : Reaches R (k (f s)) s T) :
    Reaches R (Fallible.read f >>= k) s T := hk

/-- What is reached may be weakened. -/
theorem Reaches.mono (hp : Reaches R p s Q) (h : ∀ a t, Q a t → Q' a t) : Reaches R p s Q' :=
  Meets.mono hp (fun a t ⟨hst, hq⟩ ↦ ⟨hst, h a t hq⟩) fun _ _ hf ↦ hf

/-- Finer steps are steps of a coarser relation. -/
theorem Reaches.coarsen (hp : Reaches R p s Q) (h : ∀ s t, R s t → R' s t) : Reaches R' p s Q :=
  Meets.mono hp (fun _ _ ⟨hst, hq⟩ ↦ ⟨Relation.ReflTransGen.mono h _ _ hst, hq⟩) fun _ _ hf ↦ hf

/-- What the steps keep is known at the end. -/
theorem Reaches.with_steps (hp : Reaches R p s Q) :
    Reaches R p s fun a t ↦ Relation.ReflTransGen R s t ∧ Q a t :=
  Meets.mono hp (fun _ _ ⟨hst, hq⟩ ↦ ⟨hst, hst, hq⟩) fun _ _ hf ↦ hf

/-- A function of the result is reached with it. -/
theorem Reaches.map {f : α → β} (hp : Reaches R p s Q) (h : ∀ a t, Q a t → T (f a) t) :
    Reaches R (f <$> p) s T := by
  unfold Reaches Meets at hp ⊢
  rw [map_apply]
  rcases heq : p s with ⟨_ | a, t⟩
  · simp only [heq] at hp
  · simp only [heq] at hp
    exact ⟨hp.1, h a t hp.2⟩

/-- A choice reaches its end in the branch that is taken. -/
theorem Reaches.ite (ht : c → Reaches R p s Q) (hf : ¬ c → Reaches R p' s Q) :
    Reaches R (if c then p else p') s Q := by
  split
  · next h => exact ht h
  · next h => exact hf h

end Reaches

end Fallible
