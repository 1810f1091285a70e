import RobotHarness.Core.Bounds
import RobotHarness.Core.Control

/-!
# Reports that a gate accepts

A report whose record comes after all that the gate remembers meets no retained record in its
way: the gate accepts it as soon as the operation is in the stage that the report belongs to.
-/

namespace RobotHarness

/-- The record comes after everything that is bounded by the time and the sequence number. -/
structure EvidenceRecord.After (record : EvidenceRecord) (t : MonotonicTime) (n : UInt64) :
    Prop where
  time : t ≤ record.observedAt
  sequence : n < record.sequence

variable {t : MonotonicTime} {n : UInt64}

namespace EvidenceRecord.After

variable {record : EvidenceRecord}

/-- Such a record has a sequence number. -/
theorem ne_zero (h : record.After t n) : record.sequence ≠ 0 := by
  intro hzero
  have := h.sequence
  rw [hzero] at this
  exact not_lt.mpr (UInt64.zero_le) this

/-- Such a record is newer than a retained one. -/
theorem newer (h : record.After t n) {retained : Option EvidenceRecord}
    (hretained : ∀ previous ∈ retained, previous.Bounded t n) : Newer record retained :=
  fun previous hprevious ↦
    ⟨(hretained previous hprevious).2.trans_lt h.sequence,
      (hretained previous hprevious).1.trans h.time⟩

/-- Such a record of the expected source is well formed. -/
theorem formed (h : record.After t n) {source : String} {earliest : MonotonicTime}
    (hsource : record.source = source) (hconfigured : source ≠ "") (hearliest : earliest ≤ t) :
    isRecordWellFormed record source earliest :=
  ⟨hsource ▸ hconfigured, hsource, h.ne_zero, hearliest.trans h.time⟩

end EvidenceRecord.After

namespace AuthorityGate.Bounded

variable {s : AuthorityGate}

/-! ### Startup and capabilities -/

/-- The gate accepts a startup observation before its first operation. -/
theorem accepts_startup (h : s.Bounded t n) {e : StartupEvidence} {index : Fin 3}
    (phase : s.bindingPhase = .active) (opened : s.initializationState ≠ .closed)
    (unused : s.currentReceipt = none) (binding : e.binding = s.config.binding)
    (slot : s.config.startupIndex e.kind = some index)
    (source : e.record.source = s.config.readinessSource index)
    (configured : s.config.readinessSource index ≠ "") (after : e.record.After t n) :
    s.call (.observeStartup e) = (.evidence .accepted, s.recordStartup index e) := by
  have hcompare : (s.startupFact index).compare e = none := by
    unfold StartupFact.compare
    split
    · rfl
    · next record hrecord =>
      obtain ⟨hsequence, htime⟩ := after.newer (h.startup index) record hrecord
      rw [if_neg (by rintro (hlt | hlt)
                     · exact lt_asymm hlt hsequence
                     · exact not_lt.mpr htime hlt), if_neg hsequence.ne']
  simp [AuthorityGate.call, AuthorityGate.observeStartup, phase, opened, unused, binding, slot,
    after.formed source configured h.startedAt, hcompare]

/-- The gate accepts the capabilities of its binding. -/
theorem accepts_capabilities (h : s.Bounded t n) {e : ExecutionCapabilities}
    (noCandidate : s.candidate = none) (opened : s.initializationState ≠ .closed)
    (configured : s.config.executionCapabilityObserver ≠ "")
    (binding : e.binding = s.config.binding) (content : CapabilityContent s e)
    (source : e.record.source = s.config.executionCapabilityObserver)
    (after : e.record.After t n) :
    s.call (.observeExecutionCapabilities e) =
      (.evidence .accepted, { s with executionCapabilities := some e }) := by
  obtain ⟨hcapability, hprofile, hunits, hvalid⟩ := content
  have hcompare : s.compareActiveCapabilities e = none := by
    unfold AuthorityGate.compareActiveCapabilities
    split
    · rfl
    · next previous hprevious =>
      have hbounded := h.capabilities previous hprevious
      have hsequence := hbounded.2.trans_lt after.sequence
      have htime := hbounded.1.trans after.time
      rw [if_neg (by rintro (hlt | hlt)
                     · exact not_lt.mpr htime hlt
                     · exact lt_asymm hlt hsequence), if_neg hsequence.ne']
  simp [AuthorityGate.call, AuthorityGate.observeExecutionCapabilities, noCandidate,
    AuthorityGate.observeActiveCapabilities, opened, configured, binding, hcapability, hprofile,
    hunits, not_le.mpr hvalid, after.formed source configured h.startedAt, hcompare]

end AuthorityGate.Bounded

end RobotHarness
