import Mathlib.Data.List.Basic

/-!
# Answering machines and their histories

A deterministic machine that answers every input, the history of a finite input
sequence, and the rules the rest of the development argues with: a state
invariant, an invariant that also reads the history, the split of a history at
one of its events, progress towards a goal, and the erasure of inputs that change
nothing.
-/

universe u v w

/-- A deterministic machine: each input yields an answer and the next state. -/
structure Mealy (σ : Type u) (ι : Type v) (ο : Type w) where
  step : σ → ι → ο × σ

namespace Mealy

variable {σ : Type u} {ι : Type v} {ο : Type w}

/-- One answered input, with the states before and after it. -/
structure Event (σ : Type u) (ι : Type v) (ο : Type w) where
  pre : σ
  input : ι
  output : ο
  post : σ

/-- The answer to one input. -/
def answer (M : Mealy σ ι ο) (s : σ) (i : ι) : ο := (M.step s i).1

/-- The state after one input. -/
def next (M : Mealy σ ι ο) (s : σ) (i : ι) : σ := (M.step s i).2

/-- The event of one input at a state. -/
def event (M : Mealy σ ι ο) (s : σ) (i : ι) : Event σ ι ο :=
  ⟨s, i, M.answer s i, M.next s i⟩

/-- The state after a sequence of inputs. -/
def run (M : Mealy σ ι ο) : σ → List ι → σ
  | s, [] => s
  | s, i :: is => M.run (M.next s i) is

/-- The history of a sequence of inputs, oldest event first. -/
def trace (M : Mealy σ ι ο) : σ → List ι → List (Event σ ι ο)
  | _, [] => []
  | s, i :: is => M.event s i :: M.trace (M.next s i) is

variable (M : Mealy σ ι ο)

/-- No input leaves the state as it is. -/
@[simp] theorem run_nil (s : σ) : M.run s [] = s := rfl

/-- Inputs are taken one after another. -/
@[simp] theorem run_cons (s : σ) (i : ι) (is : List ι) :
    M.run s (i :: is) = M.run (M.next s i) is := rfl

/-- No input leaves no event. -/
@[simp] theorem trace_nil (s : σ) : M.trace s [] = [] := rfl

/-- The trace begins with the event of the first input. -/
@[simp] theorem trace_cons (s : σ) (i : ι) (is : List ι) :
    M.trace s (i :: is) = M.event s i :: M.trace (M.next s i) is := rfl

/-- Running a concatenation runs its two parts in turn. -/
theorem run_append (s : σ) (is js : List ι) :
    M.run s (is ++ js) = M.run (M.run s is) js := by
  induction is generalizing s with
  | nil => rfl
  | cons i is ih => exact ih (M.next s i)

/-- The history of a concatenation is the concatenation of the histories. -/
theorem trace_append (s : σ) (is js : List ι) :
    M.trace s (is ++ js) = M.trace s is ++ M.trace (M.run s is) js := by
  induction is generalizing s with
  | nil => rfl
  | cons i is ih => simp only [List.cons_append, trace_cons, run_cons, ih]

/-- A history split at an event splits the inputs at the same place. -/
theorem trace_eq_append_cons {s : σ} {is : List ι} {h t : List (Event σ ι ο)}
    {e : Event σ ι ο} (heq : M.trace s is = h ++ e :: t) :
    ∃ js ks, is = js ++ e.input :: ks ∧ h = M.trace s js ∧
      e = M.event (M.run s js) e.input ∧ t = M.trace e.post ks := by
  induction h generalizing s is with
  | nil =>
    cases is with
    | nil => simp at heq
    | cons i is =>
      simp only [trace_cons, List.nil_append, List.cons.injEq] at heq
      obtain ⟨rfl, rfl⟩ := heq
      exact ⟨[], is, rfl, rfl, rfl, rfl⟩
  | cons d h ih =>
    cases is with
    | nil => simp at heq
    | cons i is =>
      simp only [trace_cons, List.cons_append, List.cons.injEq] at heq
      obtain ⟨rfl, heq⟩ := heq
      obtain ⟨js, ks, rfl, rfl, he, rfl⟩ := ih heq
      exact ⟨i :: js, ks, rfl, rfl, he, rfl⟩

/-- Every event of a history is the machine's own step at its state before. -/
theorem eq_event_of_mem_trace {s : σ} {is : List ι} {e : Event σ ι ο}
    (he : e ∈ M.trace s is) : e = M.event e.pre e.input := by
  obtain ⟨h, t, heq⟩ := List.append_of_mem he
  obtain ⟨js, ks, -, -, hev, -⟩ := M.trace_eq_append_cons heq
  have hp : e.pre = M.run s js := congrArg Event.pre hev
  rw [hp]
  exact hev

section Invariants

variable {P : σ → Prop}

/-- A property that every step keeps holds after every run. -/
theorem invariant_run (hstep : ∀ s i, P s → P (M.next s i)) {s : σ} (hs : P s)
    (is : List ι) : P (M.run s is) := by
  induction is generalizing s with
  | nil => exact hs
  | cons i is ih => exact ih (hstep s i hs)

/-- A property that the allowed inputs keep holds after every run of allowed inputs. -/
theorem invariant_inputs {B : ι → Prop} (hstep : ∀ s i, B i → P s → P (M.next s i)) {s : σ}
    (hs : P s) {is : List ι} (hall : ∀ i ∈ is, B i) : P (M.run s is) := by
  induction is generalizing s with
  | nil => exact hs
  | cons i is ih =>
    rw [List.forall_mem_cons] at hall
    exact ih (hstep s i hall.1 hs) hall.2

/-- A property that every step keeps holds before every event of a history. -/
theorem invariant_pre (hstep : ∀ s i, P s → P (M.next s i)) {s : σ} (hs : P s)
    {is : List ι} {e : Event σ ι ο} (he : e ∈ M.trace s is) : P e.pre := by
  obtain ⟨h, t, heq⟩ := List.append_of_mem he
  obtain ⟨js, ks, -, -, hev, -⟩ := M.trace_eq_append_cons heq
  have hp : e.pre = M.run s js := congrArg Event.pre hev
  rw [hp]
  exact M.invariant_run hstep hs js

/-- A property that every step keeps goes on to hold once an event has established it. -/
theorem stable_after (hstep : ∀ s i, P s → P (M.next s i)) {s : σ} {is : List ι}
    {h t : List (Event σ ι ο)} {e : Event σ ι ο} (heq : M.trace s is = h ++ e :: t)
    (he : P e.post) : P (M.run s is) ∧ ∀ d ∈ t, P d.pre := by
  obtain ⟨js, ks, rfl, -, hev, rfl⟩ := M.trace_eq_append_cons heq
  refine ⟨?_, fun d hd ↦ M.invariant_pre hstep he hd⟩
  have hpost : e.post = M.next (M.run s js) e.input := congrArg Event.post hev
  rw [M.run_append, run_cons, ← hpost]
  exact M.invariant_run hstep he ks

/-- A property that the allowed steps keep holds after every run of allowed events. -/
theorem invariant_while {A : Event σ ι ο → Prop}
    (hstep : ∀ s i, P s → A (M.event s i) → P (M.next s i)) {s : σ} (hs : P s)
    {is : List ι} (hall : ∀ d ∈ M.trace s is, A d) : P (M.run s is) := by
  induction is generalizing s with
  | nil => exact hs
  | cons i is ih =>
    rw [trace_cons, List.forall_mem_cons] at hall
    exact ih (hstep s i hs hall.1) hall.2

/-- A property that the allowed steps keep holds at the end of a run whose events are
allowed once the property has been established. -/
theorem stable_while {A : Event σ ι ο → Prop}
    (hstep : ∀ s i, P s → A (M.event s i) → P (M.next s i)) {s : σ} {is : List ι}
    {h t : List (Event σ ι ο)} {e : Event σ ι ο} (heq : M.trace s is = h ++ e :: t)
    (he : P e.post) (hall : ∀ d ∈ t, A d) : P (M.run s is) := by
  obtain ⟨js, ks, rfl, -, hev, rfl⟩ := M.trace_eq_append_cons heq
  have hpost : e.post = M.next (M.run s js) e.input := congrArg Event.post hev
  rw [M.run_append, run_cons, ← hpost]
  exact M.invariant_while hstep he hall

variable {Q : List (Event σ ι ο) → σ → Prop}

private theorem history_from (hstep : ∀ h s i, Q h s → Q (h ++ [M.event s i]) (M.next s i))
    {s : σ} {h : List (Event σ ι ο)} (hs : Q h s) (is : List ι) :
    Q (h ++ M.trace s is) (M.run s is) := by
  induction is generalizing s h with
  | nil => simpa using hs
  | cons i is ih => simpa using ih (hstep h s i hs)

/-- A relation between history and state that every step keeps holds of every run. -/
theorem history_run (hstep : ∀ h s i, Q h s → Q (h ++ [M.event s i]) (M.next s i))
    {s : σ} (hs : Q [] s) (is : List ι) : Q (M.trace s is) (M.run s is) := by
  simpa using M.history_from hstep hs is

/-- The same relation holds at each event between the history before it and the
state it meets. -/
theorem history_pre (hstep : ∀ h s i, Q h s → Q (h ++ [M.event s i]) (M.next s i))
    {s : σ} (hs : Q [] s) {is : List ι} {h t : List (Event σ ι ο)} {e : Event σ ι ο}
    (heq : M.trace s is = h ++ e :: t) : Q h e.pre := by
  obtain ⟨js, ks, -, rfl, hev, -⟩ := M.trace_eq_append_cons heq
  have hp : e.pre = M.run s js := congrArg Event.pre hev
  rw [hp]
  exact M.history_run hstep hs js

end Invariants

/-! ### Reaching a goal -/

/-- When an allowed input brings every state short of the goal closer to it, a sequence of
allowed inputs, no longer than the distance, reaches the goal. -/
theorem exists_run_of_rank {P G : σ → Prop} {B : ι → Prop} (rank : σ → ℕ)
    (hstep : ∀ s, P s → ¬ G s → ∃ i, B i ∧ P (M.next s i) ∧ rank (M.next s i) < rank s)
    {s : σ} (hs : P s) :
    ∃ is : List ι, (∀ i ∈ is, B i) ∧ is.length ≤ rank s ∧ G (M.run s is) := by
  induction hn : rank s using Nat.strongRecOn generalizing s with
  | ind n ih =>
    by_cases hg : G s
    · exact ⟨[], fun i hi ↦ absurd hi List.not_mem_nil, Nat.zero_le n, hg⟩
    · obtain ⟨i, hi, hp, hlt⟩ := hstep s hs hg
      obtain ⟨is, hall, hlength, hgoal⟩ := ih _ (hn ▸ hlt) hp rfl
      refine ⟨i :: is, List.forall_mem_cons.mpr ⟨hi, hall⟩, ?_, hgoal⟩
      exact Nat.succ_le_of_lt (Nat.lt_of_le_of_lt hlength (hn ▸ hlt))

/-! ### Erasing inputs that change nothing -/

/-- The inputs that are not marked as inserted. -/
def unmarked : List (ι × Bool) → List ι
  | [] => []
  | (_, true) :: rest => unmarked rest
  | (i, false) :: rest => i :: unmarked rest

/-- The answers to the unmarked inputs when all inputs are delivered. -/
def unmarkedAnswers : σ → List (ι × Bool) → List ο
  | _, [] => []
  | s, (i, true) :: rest => unmarkedAnswers (M.next s i) rest
  | s, (i, false) :: rest => M.answer s i :: unmarkedAnswers (M.next s i) rest

/-- The answers to a sequence of inputs. -/
def answers (s : σ) (is : List ι) : List ο := (M.trace s is).map Event.output

/-- When each marked input changes nothing in the state the unmarked inputs before it
lead to, deleting the marked inputs changes no other answer and not the final state. -/
theorem erase_marked {s : σ} {xs : List (ι × Bool)}
    (hinert : ∀ ys i zs, xs = ys ++ (i, true) :: zs →
      M.next (M.run s (unmarked ys)) i = M.run s (unmarked ys)) :
    M.unmarkedAnswers s xs = M.answers s (unmarked xs) ∧
      M.run s (xs.map Prod.fst) = M.run s (unmarked xs) := by
  induction xs generalizing s with
  | nil => exact ⟨rfl, rfl⟩
  | cons x xs ih =>
    obtain ⟨i, marked⟩ := x
    cases marked with
    | true =>
      have hi : M.next s i = s := hinert [] i xs rfl
      have hrest := ih (s := s) fun ys j zs hx ↦ hinert ((i, true) :: ys) j zs (by rw [hx]; rfl)
      simpa only [unmarkedAnswers, unmarked, List.map_cons, run_cons, hi] using hrest
    | false =>
      obtain ⟨hanswers, hrun⟩ := ih (s := M.next s i) fun ys j zs hx ↦
        hinert ((i, false) :: ys) j zs (by rw [hx]; rfl)
      refine ⟨?_, hrun⟩
      simp only [unmarkedAnswers, unmarked, answers, trace_cons, List.map_cons, hanswers]
      rfl

/-! ### States that answer alike -/

/-- States related by a bisimulation give the same answers to every sequence of inputs. -/
theorem answers_eq_of_bisimulation {R : σ → σ → Prop}
    (hstep : ∀ s t i, R s t → M.answer s i = M.answer t i ∧ R (M.next s i) (M.next t i))
    {s t : σ} (h : R s t) (is : List ι) : M.answers s is = M.answers t is := by
  induction is generalizing s t with
  | nil => rfl
  | cons i is ih =>
    obtain ⟨hanswer, hnext⟩ := hstep s t i h
    have hrest := ih hnext
    simp only [answers] at hrest ⊢
    simp only [trace_cons, List.map_cons, hrest]
    exact congrArg (· :: _) hanswer

end Mealy
