import RobotHarness.Core.Binding

/-!
# What the operations take for granted

Some operations of `src/core/authority_gate.cpp` read an optional without testing it. The phases
of a gate, its initialization and its candidate fit together so that the optional is there
whenever an operation gets to it.
-/

namespace RobotHarness

namespace AuthorityGate

/-! ### Dereferences -/

/-- The calls that `begin_rebind` answers before it reads `*withdrawn_at`. -/
def beginStops (s : AuthorityGate) (expectedOldBinding : BindingIdentity)
    (newProviderId : String) (now : MonotonicTime) : Prop :=
  s.bindingPhase = .closed ∨ expectedOldBinding ≠ s.config.binding ∨ now < s.latestBindingTime ∨
    s.candidate.isSome ∨ s.bindingPhase ≠ .withdrawn ∨ ¬ s.oldWorkClosed ∨ newProviderId = ""
  deriving Decidable

/-- `observe_native` compares the kind of an event in the place of the last native record with
`*last_native_kind` when the records match. -/
def readsLastKind (s : AuthorityGate) (evidence : NativeEvidence) : Prop :=
  ∃ record ∈ s.lastNativeRecord, ¬ evidence.record.observedAt < record.observedAt ∧
    evidence.record.sequence = record.sequence ∧ recordsMatch evidence.record record
  deriving Decidable

/-- The optionals that a call dereferences without a test where it gets to them, in order: each
is told by whether it holds a value. -/
def dereferenced (s : AuthorityGate) : Call → List Bool
  | .beginRebind expectedOldBinding newProviderId _ now =>
    if s.beginStops expectedOldBinding newProviderId now then [] else [s.withdrawnAt.isSome]
  | .commitRebind expectedCandidate now =>
    match s.candidate with
    | none => []
    | some candidate =>
      if s.bindingPhase = .closed ∨ now < s.latestBindingTime ∨
          expectedCandidate ≠ candidate.binding ∨ ¬ s.oldWorkClosed ∨ ¬ s.canCommit now then
        []
      else (List.finRange 3).map fun index ↦ (candidate.readiness index).evidence.isSome
  | .observeNative evidence =>
    match s.matchingReceipt evidence.authority with
    | none => []
    | some receipt =>
      if evidence.nativeIdentity = "" ∨ receipt.dispatch ≠ .submitted then []
      else receipt.dispatchedAt.isSome ::
        if isRecordWellFormed evidence.record s.config.nativeEvidenceSource
            (receipt.dispatchedAt.getD 0) ∧ s.readsLastKind evidence then
          [s.lastNativeKind.isSome]
        else []
  | _ => []

/-! ### Wired gates -/

/-- What the startup facts, the capabilities and the last native record of a reachable gate have
to do with the rest of it. -/
structure Wired (s : AuthorityGate) : Prop where
  ready : s.bindingPhase = .active → (s.initializationState = .ready ↔ s.startupComplete)
  capabilities : ∀ e ∈ s.executionCapabilities, e.binding = s.config.binding
  candidateCapabilities : ∀ c ∈ s.candidate, ∀ e ∈ c.capabilities.evidence, e.binding = c.binding
  native : s.lastNativeRecord.isSome ↔ s.lastNativeKind.isSome

/-- A gate is wired when it is constructed. -/
theorem wired_initial (config : AuthorityGateConfig) : (initial config).Wired where
  ready _ := by simp [initial, startupComplete]
  capabilities := by intro e he; cases he
  candidateCapabilities := by intro c hc; cases hc
  native := by simp [initial]

/-- A recorded startup observation makes the gate ready exactly when the facts are complete. -/
theorem ready_recordStartup (s : AuthorityGate) (index : Fin 3) (e : StartupEvidence) :
    (s.recordStartup index e).initializationState = .ready ↔
      (s.recordStartup index e).startupComplete := by
  have hcomplete : (s.recordStartup index e).startupComplete ↔
      (s.setStartupFact index ⟨true, e.observed, some e.record⟩).startupComplete := Iff.rfl
  rw [hcomplete]
  by_cases h : (s.setStartupFact index ⟨true, e.observed, some e.record⟩).startupComplete
  · simp [recordStartup, h]
  · simp [recordStartup, h]

/-- A candidate that commits has been found ready. -/
theorem canCommit_readiness {s : AuthorityGate} {c : Candidate} {now : MonotonicTime}
    (present : s.candidate = some c) (h : s.canCommit now) (index : Fin 3) :
    (c.readiness index).evidence.isSome := by
  obtain ⟨-, d, hd, -, -, -, -, hready, -⟩ := h
  cases present.symm.trans hd
  obtain ⟨-, e, he, -⟩ := hready index
  exact Option.isSome_iff_exists.mpr ⟨e, he⟩

end AuthorityGate

/-- Every transition keeps a gate wired. -/
theorem Transition.wired {s s' : AuthorityGate} {c : Call} {a : Answer}
    (step : Transition s c a s') (h : s.Wired) : s'.Wired := by
  cases step with
  | noEffect | operation => exact { h with }
  | @startup e index =>
    have hready := s.ready_recordStartup index e
    obtain ⟨idle, ready, sink, initialization, -, heq⟩ := s.recordStartup_eq index e
    rw [heq] at hready ⊢
    exact { h with ready := fun _ ↦ hready }
  | capabilities _ _ binding =>
    refine { h with capabilities := ?_ }
    intro e he
    cases he
    exact binding
  | candidateCapabilities target =>
    refine { h with candidateCapabilities := ?_ }
    intro c hc e he
    cases hc
    cases he
    exact target.binding
  | capabilitiesConflict target retained =>
    refine { h with candidateCapabilities := ?_ }
    intro c hc e he
    cases hc
    cases he
    have hretained := h.candidateCapabilities _ target.candidate _ retained
    exact hretained
  | discard =>
    exact { h with
      ready := fun hphase ↦ by cases hphase
      candidateCapabilities := fun c hc ↦ by cases hc }
  | withdrawIdle | withdrawCurrent =>
    exact { h with ready := fun hphase ↦ by cases hphase }
  | begin =>
    refine
      { h with
        ready := fun hphase ↦ by cases hphase
        candidateCapabilities := ?_ }
    intro c hc e he
    cases hc
    cases he
  | readiness target | readinessConflict target =>
    refine { h with candidateCapabilities := ?_ }
    intro c hc e he
    cases hc
    exact h.candidateCapabilities _ target.candidate _ he
  | commit candidate =>
    exact
      { h with
        ready := fun _ ↦ by
          simp [AuthorityGate.committed, AuthorityGate.committedFact,
            AuthorityGate.startupComplete]
        capabilities := h.candidateCapabilities _ candidate
        candidateCapabilities := fun c hc ↦ by cases hc }
  | admission => exact { h with native := Iff.rfl }
  | native => exact { h with native := by simp }
  | close =>
    exact { h with
      ready := fun hphase ↦ by cases hphase
      candidateCapabilities := fun c hc ↦ by cases hc }

/-- Every reachable gate is wired. -/
theorem Run.wired (run : Run) : run.final.Wired :=
  gate.invariant_run (fun s c ↦ (gate_transition s c).wired)
    (AuthorityGate.wired_initial run.config) run.calls

/-- No operation of a coherent and wired gate dereferences an empty optional. -/
theorem AuthorityGate.dereferenced_present {s : AuthorityGate} (hs : s.Coherent) (hw : s.Wired)
    (c : Call) : ∀ present ∈ s.dereferenced c, present = true := by
  cases c with
  | beginRebind expectedOldBinding newProviderId e now =>
    intro present hpresent
    simp only [dereferenced] at hpresent
    split at hpresent
    · cases hpresent
    next hreached =>
      rw [List.mem_singleton.mp hpresent]
      have hphase : s.bindingPhase = .withdrawn := by
        by_contra hphase
        exact hreached (.inr (.inr (.inr (.inr (.inl hphase)))))
      exact (hs.recovering (.inl hphase)).1
  | commitRebind expectedCandidate now =>
    intro present hpresent
    simp only [dereferenced] at hpresent
    split at hpresent
    · cases hpresent
    next candidate hcandidate =>
      split at hpresent
      · cases hpresent
      next hreached =>
        obtain ⟨index, -, rfl⟩ := List.mem_map.mp hpresent
        have hcommit : s.canCommit now := by
          by_contra hcommit
          exact hreached (.inr (.inr (.inr (.inr hcommit))))
        exact canCommit_readiness hcandidate hcommit index
  | observeNative e =>
    intro present hpresent
    simp only [dereferenced] at hpresent
    split at hpresent
    · cases hpresent
    next receipt hreceipt =>
      have hcurrent : s.currentReceipt = some receipt := by
        unfold matchingReceipt at hreceipt
        split at hreceipt
        · exact hreceipt
        · cases hreceipt
      split at hpresent
      · cases hpresent
      next hreached =>
        have hsubmitted : receipt.dispatch = .submitted := by
          by_contra hdispatch
          exact hreached (.inr hdispatch)
        rcases List.mem_cons.mp hpresent with rfl | hkind
        · exact (hs.receipts receipt hcurrent).sequenced.dispatched hsubmitted
        · split at hkind
          next hreads =>
            rw [List.mem_singleton.mp hkind]
            obtain ⟨-, record, hrecord, -⟩ := hreads
            exact hw.native.mp (Option.isSome_iff_exists.mpr ⟨record, hrecord⟩)
          · cases hkind
  | _ => exact fun present hpresent ↦ by cases hpresent

/-- The phase, the initialization and the optionals of every reachable gate fit together: there
is a candidate exactly while the gate prepares a handoff, a withdrawn gate knows when and awaits
recovery, the gate is closed in both respects or in neither, an active gate is ready exactly
when its newest startup facts are observed and positive, the capabilities are of the active
binding, no generation in use is past the high-water mark, submitted work has a time of dispatch
and the last native record has its kind. So no call dereferences an empty optional. -/
theorem Run.phase_coherent (run : Run) :
    let s := run.final
    (s.candidate.isSome ↔ s.bindingPhase = .preparing) ∧
      (s.bindingPhase = .withdrawn ∨ s.bindingPhase = .preparing →
        s.withdrawnAt.isSome ∧ s.initializationState = .recoveryRequired) ∧
      (s.bindingPhase = .closed ↔ s.initializationState = .closed) ∧
      (s.bindingPhase = .active → (s.initializationState = .ready ↔
        ∀ slot, (s.startupFact slot).observed = true ∧ (s.startupFact slot).value = true)) ∧
      (∀ e ∈ s.executionCapabilities, e.binding = s.config.binding) ∧
      (∀ b, s.InUse b ∨ (∃ r ∈ s.currentReceipt, b = r.authority.binding) →
        b.providerGeneration ≤ s.generationHighWater) ∧
      (∀ r ∈ s.currentReceipt, r.dispatch = .submitted → r.dispatchedAt.isSome) ∧
      (s.lastNativeRecord.isSome ↔ s.lastNativeKind.isSome) ∧
      ∀ c, ∀ present ∈ s.dereferenced c, present = true := by
  have hs := run.coherent
  have hw := run.wired
  refine ⟨hs.candidate, hs.recovering, hs.closed, fun hphase ↦ ?_, hw.capabilities, ?_,
    fun r hr ↦ (hs.receipts r hr).sequenced.dispatched, hw.native,
    AuthorityGate.dereferenced_present hs hw⟩
  · rw [hw.ready hphase, Fin.forall_fin_succ, Fin.forall_fin_two]
    rfl
  · rintro b (hb | ⟨r, hr, rfl⟩)
    · exact hs.generation_le hb
    · rcases hs.receiptBinding r hr with heq | hlt
      · rw [heq]
        exact hs.generation
      · exact hlt.le.trans hs.generation

end RobotHarness
