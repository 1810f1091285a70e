import Mathlib.Data.List.Chain
import Mathlib.Tactic.MkIffOfInductiveProp
import RobotHarness.Base.Since
import RobotHarness.Compute.Lifecycle

/-!
# The grammar of a worker's frames

What the host accepts from its worker, stated over the whole sequence of frames and stop
requests, and that `consume` accepts exactly this.
-/

namespace RobotHarness.Compute

/-- What reaches the parser of the host: a frame, or a request to stop the worker. -/
inductive ParserInput where
  | frame (frame : Frame)
  | requestStop (nowMs : UInt64) (send : Option Int)

namespace ParserInput

/-- The frame that is an input of the parser. -/
def frame? : ParserInput → Option Frame
  | .frame f => some f
  | .requestStop .. => none

/-- The input is a request to stop. -/
def IsStop : ParserInput → Prop
  | .frame _ => False
  | .requestStop .. => True

end ParserInput

/-- The frames of a sequence. -/
def frames (inputs : List ParserInput) : List Frame := inputs.filterMap ParserInput.frame?

/-- The frame answers a request to stop. -/
def Frame.AnswersStop (f : Frame) : Prop := f.kind = .stopAcknowledged ∨ f.kind = .stopIgnored

/-- The frame ends the sequence. -/
def Frame.IsTerminal (f : Frame) : Prop := f.kind = .completed ∨ f.kind = .cancelled

/-- The sequences of frames and stop requests that a worker with this iteration limit may
produce. -/
@[mk_iff]
structure Grammatical (limit : UInt64) (inputs : List ParserInput) : Prop where
  known : ∀ f ∈ frames inputs,
    f.magic = frameMagic ∧ f.version = frameVersion ∧ f.kind.isKnown = true
  limited : ∀ f ∈ frames inputs, f.iterations ≤ limit ∧ f.droppedProgress ≤ limit
  ordered : (frames inputs).Pairwise fun g f ↦
    g.iterations ≤ f.iterations ∧ g.droppedProgress ≤ f.droppedProgress
  /-- The first frame is the only one of its kind. -/
  ready : Preceded (fun before f ↦ f.kind = .ready ↔ before = []) (frames inputs)
  zero : ∀ f ∈ frames inputs,
    f.kind = .ready → f.iterations = 0 ∧ f.value = 0 ∧ f.droppedProgress = 0
  advancing : (frames inputs).IsChain fun g f ↦ f.kind = .progress → g.iterations < f.iterations
  /-- An acknowledged stop ends the progress and rules out a completion. -/
  stopped : (frames inputs).Pairwise fun g f ↦
    g.kind = .stopAcknowledged → f.kind ≠ .progress ∧ f.kind ≠ .completed
  answeredOnce : (frames inputs).Pairwise fun g f ↦ ¬ (g.AnswersStop ∧ f.AnswersStop)
  requested : Preceded (fun before x ↦ ∀ f ∈ x.frame?, f.AnswersStop → ∃ r ∈ before, r.IsStop)
    inputs
  completed : ∀ f ∈ frames inputs, f.kind = .completed → f.iterations = limit
  cancelled : Preceded (fun before f ↦ f.kind = .cancelled →
    ∃ g ∈ before, g.kind = .stopAcknowledged) (frames inputs)
  final : (frames inputs).Pairwise fun g _ ↦ ¬ g.IsTerminal

namespace ComputeProcess

/-- One input of the parser. -/
def receive (p : ComputeProcess) : ParserInput → ComputeProcess
  | .frame f => p.consume f
  | .requestStop nowMs send => p.requestStop nowMs send

/-- The process after a sequence of inputs. -/
def receiveAll (p : ComputeProcess) (inputs : List ParserInput) : ComputeProcess :=
  inputs.foldl receive p

end ComputeProcess

/-! ### One more frame -/

/-- The iterations of the last frame, or zero. -/
def lastIterationsOf (fs : List Frame) : UInt64 := (fs.getLast?.map (·.iterations)).getD 0

/-- The dropped progress of the last frame, or zero. -/
def lastDroppedOf (fs : List Frame) : UInt64 := (fs.getLast?.map (·.droppedProgress)).getD 0

/-- The iterations of the last progress, or zero. -/
def lastProgressOf (fs : List Frame) : UInt64 :=
  lastIterationsOf (fs.filter (·.kind = .progress))

/-- What a frame must satisfy to extend a sequence. -/
@[mk_iff]
structure Extends (limit : UInt64) (inputs : List ParserInput) (f : Frame) : Prop where
  known : f.magic = frameMagic ∧ f.version = frameVersion ∧ f.kind.isKnown = true
  limited : f.iterations ≤ limit ∧ f.droppedProgress ≤ limit
  ordered : ∀ g ∈ frames inputs,
    g.iterations ≤ f.iterations ∧ g.droppedProgress ≤ f.droppedProgress
  ready : f.kind = .ready ↔ frames inputs = []
  zero : f.kind = .ready → f.iterations = 0 ∧ f.value = 0 ∧ f.droppedProgress = 0
  advancing : ∀ g ∈ (frames inputs).getLast?, f.kind = .progress → g.iterations < f.iterations
  stopped : ∀ g ∈ frames inputs,
    g.kind = .stopAcknowledged → f.kind ≠ .progress ∧ f.kind ≠ .completed
  answeredOnce : ∀ g ∈ frames inputs, ¬ (g.AnswersStop ∧ f.AnswersStop)
  requested : f.AnswersStop → ∃ r ∈ inputs, r.IsStop
  completed : f.kind = .completed → f.iterations = limit
  cancelled : f.kind = .cancelled → ∃ g ∈ frames inputs, g.kind = .stopAcknowledged
  final : ∀ g ∈ frames inputs, ¬ g.IsTerminal

@[simp] private theorem frames_append (xs ys : List ParserInput) :
    frames (xs ++ ys) = frames xs ++ frames ys := List.filterMap_append ..

@[simp] private theorem frames_frame (f : Frame) : frames [.frame f] = [f] := rfl

@[simp] private theorem frames_requestStop (nowMs : UInt64) (send : Option Int) :
    frames [.requestStop nowMs send] = [] := rfl

/-- A pairwise relation goes on to hold when the last element has it with all before. -/
private theorem pairwise_append_singleton {α : Type} {R : α → α → Prop} {xs : List α} {x : α} :
    (xs ++ [x]).Pairwise R ↔ xs.Pairwise R ∧ ∀ y ∈ xs, R y x := by
  simp [List.pairwise_append]

/-- A chain is extended by what follows its last element. -/
private theorem isChain_append_singleton {α : Type} {R : α → α → Prop} {xs : List α} {x : α} :
    (xs ++ [x]).IsChain R ↔ xs.IsChain R ∧ ∀ y ∈ xs.getLast?, R y x := by
  simp [List.isChain_append]

/-- A grammatical sequence is extended by the frames that fit it. -/
theorem grammatical_append_frame {limit : UInt64} {inputs : List ParserInput} {f : Frame} :
    Grammatical limit (inputs ++ [.frame f]) ↔
      Grammatical limit inputs ∧ Extends limit inputs f := by
  rw [grammatical_iff, grammatical_iff, extends_iff]
  simp only [frames_append, frames_frame, List.forall_mem_append, List.forall_mem_singleton,
    Preceded.append_singleton, pairwise_append_singleton, isChain_append_singleton]
  simp only [ParserInput.frame?, Option.mem_some_iff, forall_eq']
  constructor
  · rintro ⟨⟨h1, k1⟩, ⟨h2, k2⟩, ⟨h3, k3⟩, ⟨h4, k4⟩, ⟨h5, k5⟩, ⟨h6, k6⟩, ⟨h7, k7⟩, ⟨h8, k8⟩,
      ⟨h9, k9⟩, ⟨h10, k10⟩, ⟨h11, k11⟩, ⟨h12, k12⟩⟩
    exact ⟨⟨h1, h2, h3, h4, h5, h6, h7, h8, h9, h10, h11, h12⟩,
      ⟨k1, k2, k3, k4, k5, k6, k7, k8, k9, k10, k11, k12⟩⟩
  · rintro ⟨⟨h1, h2, h3, h4, h5, h6, h7, h8, h9, h10, h11, h12⟩,
      ⟨k1, k2, k3, k4, k5, k6, k7, k8, k9, k10, k11, k12⟩⟩
    exact ⟨⟨h1, k1⟩, ⟨h2, k2⟩, ⟨h3, k3⟩, ⟨h4, k4⟩, ⟨h5, k5⟩, ⟨h6, k6⟩, ⟨h7, k7⟩, ⟨h8, k8⟩,
      ⟨h9, k9⟩, ⟨h10, k10⟩, ⟨h11, k11⟩, ⟨h12, k12⟩⟩

/-- A request to stop fits every sequence. -/
theorem grammatical_append_requestStop {limit : UInt64} {inputs : List ParserInput}
    {nowMs : UInt64} {send : Option Int} :
    Grammatical limit (inputs ++ [.requestStop nowMs send]) ↔ Grammatical limit inputs := by
  rw [grammatical_iff, grammatical_iff]
  simp only [frames_append, frames_requestStop, List.append_nil, Preceded.append_singleton]
  simp [ParserInput.frame?]

/-! ### One frame -/

namespace ComputeProcess

variable {p : ComputeProcess} {f : Frame}

/-- A stop request is noted, and the iterations stay. -/
theorem requestStop_kept (p : ComputeProcess) (nowMs : UInt64) (send : Option Int) :
    (p.requestStop nowMs send).observation.stopRequested = true ∧
      (p.requestStop nowMs send).iterations = p.iterations ∧
      (p.requestStop nowMs send).lastIterations = p.lastIterations := by
  unfold requestStop
  split
  next halready => exact ⟨halready, rfl, rfl⟩
  dsimp only
  split
  · exact ⟨rfl, rfl, rfl⟩
  split
  · exact ⟨rfl, rfl, rfl⟩
  · exact ⟨rfl, rfl, rfl⟩

/-- The test of `consume` for the kind of a frame. -/
def AcceptsKind (p : ComputeProcess) (f : Frame) : Prop :=
  let o := p.observation
  match f.kind with
  | .ready =>
    o.started = false ∧ f.iterations = 0 ∧ f.value = 0 ∧ f.droppedProgress = 0
  | .progress =>
    o.started = true ∧ o.stopAcknowledged = false ∧ p.lastIterations < f.iterations
  | .stopAcknowledged | .stopIgnored =>
    o.started = true ∧ o.stopRequested = true ∧ o.stopAcknowledged = false ∧
      o.stopIgnored = false ∧ o.progress ≤ f.iterations
  | .completed =>
    o.started = true ∧ o.stopAcknowledged = false ∧ f.iterations = p.iterations ∧
      o.progress ≤ f.iterations
  | .cancelled =>
    o.started = true ∧ o.stopRequested = true ∧ o.stopAcknowledged = true ∧
      o.progress ≤ f.iterations
  | .unknown _ => False

/-- The frame passes all tests of `consume`. -/
structure Accepts (p : ComputeProcess) (f : Frame) : Prop where
  known : f.magic = frameMagic ∧ f.version = frameVersion ∧ f.kind.isKnown = true
  limited : f.iterations ≤ p.iterations ∧ f.droppedProgress ≤ p.iterations
  ordered : p.lastIterations ≤ f.iterations ∧ p.observation.droppedProgress ≤ f.droppedProgress
  running : p.observation.terminal = .none
  kind : p.AcceptsKind f

/-- What `consume` observes in an accepted frame. -/
def observe (o : ProcessObservation) (f : Frame) : ProcessObservation :=
  match f.kind with
  | .ready => { o with started := true }
  | .progress => { o with progress := f.iterations }
  | .stopAcknowledged => { o with stopAcknowledged := true }
  | .stopIgnored => { o with stopIgnored := true }
  | .completed =>
    { o with
      terminal := .completed, terminalIterations := f.iterations, terminalValue := f.value }
  | .cancelled =>
    { o with
      terminal := .cancelled, terminalIterations := f.iterations, terminalValue := f.value }
  | .unknown _ => o

section Observe

variable (o : ProcessObservation) (f : Frame)

@[simp] private theorem observe_malformed : (observe o f).malformed = o.malformed := by
  unfold observe
  split <;> rfl

@[simp] private theorem observe_stopRequested : (observe o f).stopRequested = o.stopRequested := by
  unfold observe
  split <;> rfl

private theorem observe_started :
    (observe o f).started = true ↔ o.started = true ∨ f.kind = .ready := by
  unfold observe
  split <;> simp [*]

private theorem observe_stopAcknowledged :
    (observe o f).stopAcknowledged = true ↔
      o.stopAcknowledged = true ∨ f.kind = .stopAcknowledged := by
  unfold observe
  split <;> simp [*]

private theorem observe_stopIgnored :
    (observe o f).stopIgnored = true ↔ o.stopIgnored = true ∨ f.kind = .stopIgnored := by
  unfold observe
  split <;> simp [*]

private theorem observe_progress :
    (observe o f).progress = if f.kind = .progress then f.iterations else o.progress := by
  unfold observe
  split <;> simp [*]

private theorem observe_terminal :
    (observe o f).terminal =
      if f.kind = .completed then .completed
      else if f.kind = .cancelled then .cancelled else o.terminal := by
  unfold observe
  split <;> simp [*]

private theorem observe_of_isTerminal (h : f.IsTerminal) :
    (observe o f).terminalIterations = f.iterations ∧
      (observe o f).terminalValue = f.value := by
  unfold observe
  rcases h with h | h <;> rw [h] <;> exact ⟨rfl, rfl⟩

end Observe

/-- The switch records the frames of a known kind that it accepts, and no others. -/
private theorem consumeKind_cases (hknown : f.kind.isKnown = true) :
    p.AcceptsKind f ∧ p.consumeKind f = p.advance f (observe p.observation f) ∨
      ¬ p.AcceptsKind f ∧ p.consumeKind f = p.markMalformed := by
  unfold AcceptsKind consumeKind observe
  cases hk : f.kind <;> simp only [hk] at hknown ⊢
  case unknown => cases hknown
  all_goals
    split
    next hguard => exact .inr ⟨by grind, rfl⟩
    next hguard => exact .inl ⟨by grind, rfl⟩

/-- A frame is recorded, or it breaks the protocol. -/
theorem consume_cases (hopen : p.observation.malformed = false) :
    p.Accepts f ∧ p.consume f = p.advance f (observe p.observation f) ∨
      ¬ p.Accepts f ∧ p.consume f = p.markMalformed := by
  unfold consume
  rw [if_neg (by simp [hopen])]
  split
  next hguard =>
    refine .inr ⟨?_, rfl⟩
    rintro ⟨⟨hmagic, hversion, hknown⟩, hlimited, hordered, hrunning, -⟩
    grind
  next hguard =>
    push Not at hguard
    obtain ⟨hmagic, hversion, hknown, hlimit, hlast, hdropped, hlastDropped, hrunning⟩ := hguard
    rw [Bool.ne_false_iff] at hknown
    rcases consumeKind_cases (p := p) hknown with ⟨hkind, heq⟩ | ⟨hkind, heq⟩
    · exact .inl ⟨⟨⟨hmagic, hversion, hknown⟩, ⟨hlimit, hdropped⟩, ⟨hlast, hlastDropped⟩,
        hrunning, hkind⟩, heq⟩
    · exact .inr ⟨fun h ↦ hkind h.kind, heq⟩

end ComputeProcess

/-! ### What the parser knows -/

/-- The state of the parser after a grammatical sequence. -/
structure Parsed (limit : UInt64) (inputs : List ParserInput) (p : ComputeProcess) : Prop where
  limit : p.iterations = limit
  malformed : p.observation.malformed = false
  started : p.observation.started = true ↔ frames inputs ≠ []
  requested : p.observation.stopRequested = true ↔ ∃ r ∈ inputs, r.IsStop
  acknowledged : p.observation.stopAcknowledged = true ↔
    ∃ g ∈ frames inputs, g.kind = .stopAcknowledged
  ignored : p.observation.stopIgnored = true ↔ ∃ g ∈ frames inputs, g.kind = .stopIgnored
  running : p.observation.terminal = .none ↔ ∀ g ∈ frames inputs, ¬ g.IsTerminal
  iterations : p.lastIterations = lastIterationsOf (frames inputs)
  dropped : p.observation.droppedProgress = lastDroppedOf (frames inputs)
  progress : p.observation.progress = lastProgressOf (frames inputs)
  completed : ∀ f ∈ frames inputs, f.kind = .completed →
    p.observation.terminal = .completed ∧ p.observation.terminalIterations = f.iterations ∧
      p.observation.terminalValue = f.value
  cancelled : ∀ f ∈ frames inputs, f.kind = .cancelled →
    p.observation.terminal = .cancelled ∧ p.observation.terminalIterations = f.iterations ∧
      p.observation.terminalValue = f.value

/-- In a sequence that does not decrease, a bound on the last element bounds all. -/
private theorem forall_le_iff_getLast {fs : List Frame} {measure : Frame → UInt64}
    (h : fs.Pairwise fun g f ↦ measure g ≤ measure f) (bound : UInt64) :
    (∀ g ∈ fs, measure g ≤ bound) ↔ ((fs.getLast?.map measure).getD 0) ≤ bound := by
  rcases List.eq_nil_or_concat fs with rfl | ⟨fs, last, rfl⟩
  · simp
  · rw [List.concat_eq_append] at h ⊢
    rw [pairwise_append_singleton] at h
    simp only [List.getLast?_append, List.getLast?_singleton]
    refine ⟨fun hall ↦ hall last (by simp), fun hlast g hg ↦ ?_⟩
    rcases List.mem_append.mp hg with hg | hg
    · exact (h.2 g hg).trans hlast
    · rw [List.mem_singleton.mp hg]
      exact hlast

section

variable {limit : UInt64} {inputs : List ParserInput} {p : ComputeProcess} {f : Frame}

/-- The last progress is not past the last frame. -/
theorem Grammatical.lastProgress_le (h : Grammatical limit inputs) :
    lastProgressOf (frames inputs) ≤ lastIterationsOf (frames inputs) := by
  have hordered := h.ordered.imp fun {g f} hgf ↦ hgf.1
  have hall := (forall_le_iff_getLast hordered _).mpr (le_refl (lastIterationsOf (frames inputs)))
  unfold lastProgressOf lastIterationsOf
  cases hlast : ((frames inputs).filter (·.kind = .progress)).getLast? with
  | none => simp
  | some g => exact hall g (List.mem_of_mem_filter (List.mem_of_getLast? hlast))

/-- The frames that the parser's ordering tests let pass. -/
private theorem Parsed.ordered_iff (hp : Parsed limit inputs p) (h : Grammatical limit inputs) :
    (p.lastIterations ≤ f.iterations ∧ p.observation.droppedProgress ≤ f.droppedProgress) ↔
      ∀ g ∈ frames inputs,
        g.iterations ≤ f.iterations ∧ g.droppedProgress ≤ f.droppedProgress := by
  have hiterations := forall_le_iff_getLast (h.ordered.imp fun {g f} hgf ↦ hgf.1) f.iterations
  have hdropped := forall_le_iff_getLast (h.ordered.imp fun {g f} hgf ↦ hgf.2) f.droppedProgress
  rw [hp.iterations, hp.dropped, lastIterationsOf, lastDroppedOf, ← hiterations, ← hdropped]
  exact forall₂_and.symm

/-- Without an answer to a stop none of the frames answers one. -/
private theorem Parsed.unanswered_iff (hp : Parsed limit inputs p) :
    (p.observation.stopAcknowledged = false ∧ p.observation.stopIgnored = false) ↔
      ∀ g ∈ frames inputs, ¬ g.AnswersStop := by
  rw [← Bool.not_eq_true, ← Bool.not_eq_true, hp.acknowledged, hp.ignored]
  push Not
  exact ⟨fun ⟨hack, hignored⟩ g hg hanswers ↦ hanswers.elim (hack g hg) (hignored g hg),
    fun hall ↦ ⟨fun g hg hkind ↦ hall g hg (.inl hkind), fun g hg hkind ↦ hall g hg (.inr hkind)⟩⟩

/-- A stop that is answered was requested. -/
private theorem Grammatical.requested_of_answered (h : Grammatical limit inputs) {g : Frame}
    (hg : g ∈ frames inputs) (hanswers : g.AnswersStop) : ∃ r ∈ inputs, r.IsStop := by
  obtain ⟨x, hx, hframe⟩ := List.mem_filterMap.mp hg
  obtain ⟨before, after, rfl⟩ := List.append_of_mem hx
  obtain ⟨r, hr, hstop⟩ := h.requested before x after rfl g hframe hanswers
  exact ⟨r, List.mem_append_left _ hr, hstop⟩

/-- The parser accepts exactly the frames that extend the sequence. -/
theorem Parsed.accepts_iff (hp : Parsed limit inputs p) (h : Grammatical limit inputs) :
    p.Accepts f ↔ Extends limit inputs f := by
  have hprogress := h.lastProgress_le
  rw [← hp.progress, ← hp.iterations] at hprogress
  have hordered := hp.ordered_iff h (f := f)
  have hunanswered := hp.unanswered_iff
  have hlast : frames inputs ≠ [] →
      ∃ g, (frames inputs).getLast? = some g ∧ p.lastIterations = g.iterations := by
    intro hne
    refine ⟨_, List.getLast?_eq_some_getLast hne, ?_⟩
    rw [hp.iterations, lastIterationsOf, List.getLast?_eq_some_getLast hne]
    rfl
  have hfresh : p.observation.started = false ↔ frames inputs = [] := by
    rw [← Bool.not_eq_true, hp.started, not_not]
  have hack : p.observation.stopAcknowledged = false ↔
      ∀ g ∈ frames inputs, g.kind ≠ .stopAcknowledged := by
    rw [← Bool.not_eq_true, hp.acknowledged]
    push Not
    rfl
  constructor
  · rintro ⟨known, limited, ordered, running, kind⟩
    unfold ComputeProcess.AcceptsKind at kind
    refine
      { known
        limited := hp.limit ▸ limited
        ordered := hordered.mp ordered
        ready := ?_
        zero := ?_
        advancing := ?_
        stopped := ?_
        answeredOnce := ?_
        requested := ?_
        completed := ?_
        cancelled := ?_
        final := hp.running.mp running }
    -- What remains is decided by the kind of the frame.
    all_goals
      cases hk : f.kind <;> simp only [hk] at kind <;>
        grind [Frame.AnswersStop, hp.limit, hp.started, hp.requested, hp.acknowledged]
  · rintro ⟨known, limited, ordered, ready, zero, advancing, stopped, answered, requested,
      completed, cancelled, final⟩
    have hle : p.observation.progress ≤ f.iterations := hprogress.trans (hordered.mpr ordered).1
    have hstarted : f.kind ≠ .ready → p.observation.started = true :=
      fun hk ↦ hp.started.mpr fun hnone ↦ hk (ready.mpr hnone)
    have hunanswered : f.AnswersStop → p.observation.stopAcknowledged = false ∧
        p.observation.stopIgnored = false :=
      fun hanswers ↦ hunanswered.mpr fun g hg hg' ↦ answered g hg ⟨hg', hanswers⟩
    refine
      { known
        limited := hp.limit.symm ▸ limited
        ordered := hordered.mpr ordered
        running := hp.running.mpr final
        kind := ?_ }
    unfold ComputeProcess.AcceptsKind
    cases hk : f.kind with
    | ready => exact ⟨hfresh.mpr (ready.mp hk), zero hk⟩
    | progress =>
      have hstart := hstarted (by rw [hk]; nofun)
      obtain ⟨g, hg, heq⟩ := hlast (hp.started.mp hstart)
      exact ⟨hstart, hack.mpr fun g hg hstop ↦ (stopped g hg hstop).1 hk,
        heq ▸ advancing g hg hk⟩
    | stopAcknowledged =>
      obtain ⟨hnone, hnone'⟩ := hunanswered (.inl hk)
      exact ⟨hstarted (by rw [hk]; nofun), hp.requested.mpr (requested (.inl hk)), hnone, hnone',
        hle⟩
    | stopIgnored =>
      obtain ⟨hnone, hnone'⟩ := hunanswered (.inr hk)
      exact ⟨hstarted (by rw [hk]; nofun), hp.requested.mpr (requested (.inr hk)), hnone, hnone',
        hle⟩
    | completed =>
      exact ⟨hstarted (by rw [hk]; nofun), hack.mpr fun g hg hstop ↦ (stopped g hg hstop).2 hk,
        (completed hk).trans hp.limit.symm, hle⟩
    | cancelled =>
      obtain ⟨g, hg, hstop⟩ := cancelled hk
      exact ⟨hstarted (by rw [hk]; nofun),
        hp.requested.mpr (h.requested_of_answered hg (.inl hstop)),
        hp.acknowledged.mpr ⟨g, hg, hstop⟩, hle⟩
    | unknown value =>
      rw [hk] at known
      cases known.2.2

end

@[simp] private theorem lastIterationsOf_append (fs : List Frame) (f : Frame) :
    lastIterationsOf (fs ++ [f]) = f.iterations := by
  simp [lastIterationsOf]

@[simp] private theorem lastDroppedOf_append (fs : List Frame) (f : Frame) :
    lastDroppedOf (fs ++ [f]) = f.droppedProgress := by
  simp [lastDroppedOf]

private theorem lastProgressOf_append (fs : List Frame) (f : Frame) :
    lastProgressOf (fs ++ [f]) =
      if f.kind = .progress then f.iterations else lastProgressOf fs := by
  unfold lastProgressOf
  rw [List.filter_append]
  split
  next hk => simp [hk]
  next hk => simp [hk]

/-! ### Runs of the parser -/

section

variable {limit : UInt64} {inputs : List ParserInput} {p : ComputeProcess} {f : Frame}

/-- What the parser knows after a frame that extends the sequence. -/
private theorem Parsed.frame (hp : Parsed limit inputs p) (hf : Extends limit inputs f) :
    Parsed limit (inputs ++ [.frame f])
      (p.advance f (ComputeProcess.observe p.observation f)) where
  limit := hp.limit
  malformed := (ComputeProcess.observe_malformed ..).trans hp.malformed
  started := by
    have hstarted : p.observation.started = true ∨ f.kind = .ready := by
      rw [hp.started, hf.ready]
      exact ne_or_eq _ _
    exact iff_of_true ((ComputeProcess.observe_started ..).mpr hstarted) (by simp)
  requested := by
    have hframe : (∃ r ∈ inputs ++ [.frame f], r.IsStop) ↔ ∃ r ∈ inputs, r.IsStop := by
      simp [ParserInput.IsStop]
    rw [hframe, ← hp.requested]
    exact iff_of_eq (congrArg (· = true) (ComputeProcess.observe_stopRequested ..))
  acknowledged := by
    refine (ComputeProcess.observe_stopAcknowledged ..).trans ?_
    rw [hp.acknowledged]
    simp [or_and_right, exists_or]
  ignored := by
    refine (ComputeProcess.observe_stopIgnored ..).trans ?_
    rw [hp.ignored]
    simp [or_and_right, exists_or]
  running := by
    have hterminal := ComputeProcess.observe_terminal p.observation f
    rw [hp.running.mpr hf.final] at hterminal
    rw [frames_append, frames_frame, List.forall_mem_append, List.forall_mem_singleton,
      and_iff_right hf.final]
    show (ComputeProcess.observe p.observation f).terminal = .none ↔ _
    rw [hterminal, Frame.IsTerminal]
    split
    next h => simp [h]
    next h => split <;> simp [*]
  iterations := by
    rw [frames_append, frames_frame, lastIterationsOf_append]
    rfl
  dropped := by
    rw [frames_append, frames_frame, lastDroppedOf_append]
    rfl
  progress := by
    rw [frames_append, frames_frame, lastProgressOf_append, ← hp.progress]
    exact ComputeProcess.observe_progress ..
  completed := by
    rw [frames_append, frames_frame, List.forall_mem_append, List.forall_mem_singleton]
    refine ⟨fun g hg hk ↦ absurd (.inl hk) (hf.final g hg), fun hk ↦ ?_⟩
    refine ⟨?_, ComputeProcess.observe_of_isTerminal _ _ (.inl hk)⟩
    exact (ComputeProcess.observe_terminal ..).trans (if_pos hk)
  cancelled := by
    rw [frames_append, frames_frame, List.forall_mem_append, List.forall_mem_singleton]
    refine ⟨fun g hg hk ↦ absurd (.inr hk) (hf.final g hg), fun hk ↦ ?_⟩
    refine ⟨?_, ComputeProcess.observe_of_isTerminal _ _ (.inr hk)⟩
    refine (ComputeProcess.observe_terminal ..).trans ?_
    rw [if_neg (by rw [hk]; nofun), if_pos hk]

/-- What the parser knows after a request to stop. -/
private theorem Parsed.requestStop (hp : Parsed limit inputs p) (nowMs : UInt64)
    (send : Option Int) :
    Parsed limit (inputs ++ [.requestStop nowMs send]) (p.requestStop nowMs send) := by
  have hstop : ∃ r ∈ inputs ++ [.requestStop nowMs send], r.IsStop := by
    simp [ParserInput.IsStop]
  obtain ⟨hrequested, hiterations, hlast⟩ := p.requestStop_kept nowMs send
  obtain ⟨_, _, _, _, heq⟩ := p.requestStop_eq nowMs send
  have hframes : frames (inputs ++ [.requestStop nowMs send]) = frames inputs := by simp
  constructor
  case requested => exact iff_of_true hrequested hstop
  all_goals first | rw [hframes] | skip
  all_goals first | rw [hiterations] | rw [hlast] | rw [heq]
  case limit => exact hp.limit
  case malformed => exact hp.malformed
  case started => exact hp.started
  case acknowledged => exact hp.acknowledged
  case ignored => exact hp.ignored
  case running => exact hp.running
  case iterations => exact hp.iterations
  case dropped => exact hp.dropped
  case progress => exact hp.progress
  case completed => exact hp.completed
  case cancelled => exact hp.cancelled

/-- A broken protocol stays broken. -/
private theorem malformed_receive (x : ParserInput) (h : p.observation.malformed = true) :
    (p.receive x).observation.malformed = true := by
  cases x with
  | frame f =>
    show (p.consume f).observation.malformed = true
    rw [ComputeProcess.consume, if_pos h]
    exact h
  | requestStop nowMs send =>
    show (p.requestStop nowMs send).observation.malformed = true
    obtain ⟨_, _, _, _, heq⟩ := p.requestStop_eq nowMs send
    rw [heq]
    exact h

/-- The parser has broken off, or has parsed a grammatical sequence. -/
def Accounted (limit : UInt64) (inputs : List ParserInput) (p : ComputeProcess) : Prop :=
  Grammatical limit inputs ∧ Parsed limit inputs p ∨
    ¬ Grammatical limit inputs ∧ p.observation.malformed = true

private theorem Accounted.receive (h : Accounted limit inputs p) (x : ParserInput) :
    Accounted limit (inputs ++ [x]) (p.receive x) := by
  rcases h with ⟨hg, hp⟩ | ⟨hg, hbroken⟩
  · cases x with
    | requestStop nowMs send =>
      exact .inl ⟨grammatical_append_requestStop.mpr hg, hp.requestStop nowMs send⟩
    | frame f =>
      rcases p.consume_cases (f := f) hp.malformed with ⟨haccepts, heq⟩ | ⟨hrefused, heq⟩
      · have hextends := (hp.accepts_iff hg).mp haccepts
        refine .inl ⟨grammatical_append_frame.mpr ⟨hg, hextends⟩, ?_⟩
        show Parsed limit _ (p.consume f)
        rw [heq]
        exact hp.frame hextends
      · refine .inr ⟨fun h ↦ hrefused ?_, ?_⟩
        · exact (hp.accepts_iff hg).mpr (grammatical_append_frame.mp h).2
        · show (p.consume f).observation.malformed = true
          rw [heq]
          rfl
  · refine .inr ⟨fun h ↦ hg ?_, malformed_receive x hbroken⟩
    cases x with
    | frame f => exact (grammatical_append_frame.mp h).1
    | requestStop => exact grammatical_append_requestStop.mp h

/-- The empty sequence is grammatical, and the constructor has parsed it. -/
private theorem accounted_create (executable : String) (limit stopGraceMs : UInt64) :
    Accounted limit [] (.create executable limit stopGraceMs) := by
  refine .inl ⟨?_, ?_⟩
  · constructor <;> first | exact Preceded.nil | simp [frames]
  · constructor <;> simp [frames, ComputeProcess.create, lastIterationsOf, lastDroppedOf,
      lastProgressOf]

/-- Every run of the parser is accounted for. -/
theorem accounted (executable : String) (limit stopGraceMs : UInt64)
    (inputs : List ParserInput) :
    Accounted limit inputs
      ((ComputeProcess.create executable limit stopGraceMs).receiveAll inputs) := by
  induction inputs using List.reverseRecOn with
  | nil => exact accounted_create executable limit stopGraceMs
  | append_singleton inputs x ih =>
    rw [ComputeProcess.receiveAll, List.foldl_append]
    exact ih.receive x

end

/-- The parser accepts exactly the grammatical sequences, and reports the last progress and the
terminal frame of those. -/
theorem ComputeProcess.accepts_grammar (executable : String) (limit stopGraceMs : UInt64)
    (inputs : List ParserInput) :
    let o := ((create executable limit stopGraceMs).receiveAll inputs).observation
    (o.malformed = false ↔ Grammatical limit inputs) ∧
      (Grammatical limit inputs →
        o.progress = lastProgressOf (frames inputs) ∧
        (o.terminal = .none ↔ ∀ f ∈ frames inputs, ¬ f.IsTerminal) ∧
        ∀ f ∈ frames inputs,
          (f.kind = .completed → o.terminal = .completed) ∧
            (f.kind = .cancelled → o.terminal = .cancelled) ∧
            (f.IsTerminal → o.terminalIterations = f.iterations ∧ o.terminalValue = f.value)) := by
  intro o
  rcases accounted executable limit stopGraceMs inputs with ⟨hg, hp⟩ | ⟨hg, hbroken⟩
  · refine ⟨iff_of_true hp.malformed hg, fun _ ↦ ⟨hp.progress, hp.running, fun f hf ↦ ?_⟩⟩
    refine ⟨fun hk ↦ (hp.completed f hf hk).1, fun hk ↦ (hp.cancelled f hf hk).1, ?_⟩
    rintro (hk | hk)
    · exact (hp.completed f hf hk).2
    · exact (hp.cancelled f hf hk).2
  · refine ⟨iff_of_false ?_ hg, fun h ↦ absurd h hg⟩
    rw [hbroken]
    nofun

end RobotHarness.Compute
