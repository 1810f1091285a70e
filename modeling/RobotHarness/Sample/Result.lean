import Mathlib.Tactic.Linarith
import RobotHarness.Sample.Programs

/-!
# The results of the sample host

The sink stores a result before the gate records that it was accepted. The gate never refuses:
the permission was given by the same gate, after the deadline was looked at. So the stored
results are those of the operations whose output was accepted, each of its own request.
-/

namespace RobotHarness.Sample

open Relation (ReflTransGen)
open SampleProgram (operationRequest resultReference)

variable {clock : ℕ → MonotonicTime} {h t : SampleHost}

/-! ### Results of their own request -/

/-- A callback carries no result but that of the request that was admitted with its operation. -/
def Genuine (admissions : List (OperationAuthority × SampleRequest)) (callback : NativeCallback) :
    Prop :=
  ∀ result ∈ callback.result, ∃ request, (callback.authority, request) ∈ admissions ∧
    result = computeResult (workOf callback.authority request)

/-- All that the host holds of results and of work rests on admitted requests. -/
structure Authentic (h : SampleHost) : Prop where
  staged : ∀ event ∈ h.stagedEvents, Genuine h.admissions event.callback
  retained : ∀ callback ∈ h.adapter.replayResult, Genuine h.admissions callback
  pending : ∀ work ∈ h.adapter.pendingWork, (work.authority, work.request) ∈ h.admissions
  prepared : ∀ authority ∈ h.preparedAuthority, ∀ request ∈ h.preparedRequest,
    (authority, request) ∈ h.admissions

namespace Authentic

/-- Less of the same is authentic. -/
theorem of_subset (ha : Authentic h) (hadmissions : t.admissions = h.admissions)
    (hstaged : ∀ event ∈ t.stagedEvents, event ∈ h.stagedEvents)
    (hretained : ∀ callback ∈ t.adapter.replayResult, callback ∈ h.adapter.replayResult)
    (hpending : ∀ work ∈ t.adapter.pendingWork, work ∈ h.adapter.pendingWork)
    (hprepared : ∀ authority ∈ t.preparedAuthority, ∀ request ∈ t.preparedRequest,
      authority ∈ h.preparedAuthority ∧ request ∈ h.preparedRequest) : Authentic t where
  staged := fun event hevent ↦ hadmissions ▸ ha.staged event (hstaged event hevent)
  retained := fun callback hcallback ↦ hadmissions ▸ ha.retained callback
    (hretained callback hcallback)
  pending := fun work hwork ↦ hadmissions ▸ ha.pending work (hpending work hwork)
  prepared := fun authority hauthority request hrequest ↦
    have hboth := hprepared authority hauthority request hrequest
    hadmissions ▸ ha.prepared authority hboth.1 request hboth.2

/-- The events of a script keep what is authentic, when its results are those of the work. -/
theorem emittedAll (ha : Authentic h) {work : WorkItem} {script : List Emission}
    (hscript : ∀ e ∈ script, ∀ result ∈ e.result,
      (work.authority, work.request) ∈ h.admissions ∧ result = computeResult work) :
    Authentic (h.emittedAll clock work script) := by
  have hgenuine : ∀ e ∈ script, Genuine h.admissions (e.callback work) := fun e he result hresult ↦
    ⟨work.request, hscript e he result hresult⟩
  obtain ⟨hframe, ⟨events, hstaged, -, hevents⟩, hretained⟩ :=
    SampleHost.emits_emittedAll clock work script h
  have hadmissions : (h.emittedAll clock work script).admissions = h.admissions := by rw [hframe]
  constructor
  · intro event hevent
    rw [hadmissions]
    rw [hstaged] at hevent
    rcases List.mem_append.mp hevent with hevent | hevent
    · exact ha.staged event hevent
    · obtain ⟨e, he, hcallback⟩ := hevents event hevent
      exact hcallback ▸ hgenuine e he
  · intro callback hcallback
    rw [hadmissions]
    rcases hretained with hsame | ⟨e, he, -, hset⟩
    · exact ha.retained callback (hsame ▸ hcallback)
    · cases hset.symm.trans hcallback
      exact hgenuine e he
  · intro work' hwork
    rw [hadmissions]
    refine ha.pending work' ?_
    rwa [hframe] at hwork
  · intro authority hauthority request hrequest
    rw [hadmissions]
    rw [hframe] at hauthority hrequest
    exact ha.prepared authority hauthority request hrequest

private theorem finished (ha : Authentic h) {work : WorkItem}
    (hwork : (work.authority, work.request) ∈ h.admissions) :
    Authentic (h.finished clock work) := by
  have hexecuted : Authentic { h with adapter := h.adapter.executed work } := by
    refine ha.of_subset rfl (fun _ ↦ id) ?_ ?_ fun _ hauthority _ hrequest ↦
      ⟨hauthority, hrequest⟩ <;>
    · unfold SampleAdapter.executed
      split <;> exact fun _ ↦ id
  refine hexecuted.emittedAll fun e he result hresult ↦ ⟨hwork, ?_⟩
  unfold finishScript at he
  split at he
  · simp only [List.mem_cons, List.not_mem_nil, or_false] at he
    rcases he with rfl | rfl | rfl <;> cases hresult
  · split at he <;> simp only [List.mem_cons, List.not_mem_nil, or_false] at he
    · rcases he with rfl | rfl | rfl | rfl <;> cases hresult
    · rcases he with rfl | rfl | rfl | rfl
      · cases hresult
      · cases hresult
      · exact (Option.some.inj hresult).symm
      · cases hresult

/-- A script without results. -/
theorem emittedAll_plain (ha : Authentic h) (work : WorkItem) {script : List Emission}
    (hplain : script.all (·.result.isNone) = true) :
    Authentic (h.emittedAll clock work script) := by
  refine ha.emittedAll fun e he result hresult ↦ ?_
  have hnone := List.all_eq_true.mp hplain e he
  rw [Option.mem_def.mp hresult] at hnone
  cases hnone

private theorem quiet (move : Quiet clock h t) (ha : Authentic h) : Authentic t := by
  cases move with
  | read | control | refuse | count =>
    exact ha.of_subset rfl (fun _ ↦ id) (fun _ ↦ id) (fun _ ↦ id) fun _ ha _ hr ↦ ⟨ha, hr⟩
  | @stop authority =>
    refine ⟨ha.staged, ?_, ?_, ha.prepared⟩
    · have hsame : (h.adapter.requestStop authority).2.replayResult = h.adapter.replayResult := by
        unfold SampleAdapter.requestStop
        dsimp only
        split
        · rfl
        · split
          · rfl
          · split <;> rfl
      exact fun callback hcallback ↦ ha.retained callback (hsame ▸ hcallback)
    · intro work hwork
      obtain ⟨work', hwork', hauthority, hrequest⟩ : ∃ work' ∈ h.adapter.pendingWork,
          work.authority = work'.authority ∧ work.request = work'.request := by
        unfold SampleAdapter.requestStop at hwork
        dsimp only at hwork
        split at hwork
        · exact ⟨work, hwork, rfl, rfl⟩
        · next work' hpending =>
          split at hwork
          · exact ⟨work, hwork, rfl, rfl⟩
          · split at hwork
            · cases hwork
              exact ⟨work', hpending, rfl, rfl⟩
            all_goals exact ⟨work, hwork, rfl, rfl⟩
      rw [hauthority, hrequest]
      exact ha.pending work' hwork'
  | @discard work =>
    have hgone : Authentic { h with preparedRequest := none, preparedAuthority := none } :=
      ha.of_subset rfl (fun _ ↦ id) (fun _ ↦ id) (fun _ ↦ id) fun _ hnone ↦ by cases hnone
    unfold SampleHost.unsubmitted
    exact hgone.emittedAll_plain work rfl

/-- The event that is staged first may go. -/
theorem popped (ha : Authentic h) : Authentic h.popped :=
  ha.of_subset rfl (fun _ ↦ List.mem_of_mem_tail) (fun _ ↦ id) (fun _ ↦ id)
    fun _ hauthority _ hrequest ↦ ⟨hauthority, hrequest⟩

/-- What the sink accepts is no work and no event. -/
theorem delivered (ha : Authentic h) (authority : OperationAuthority) (result : SampleResult)
    (time : MonotonicTime) : Authentic (h.delivered authority result time) := by
  obtain ⟨hstaged, hprepared, hpending⟩ := delivered_kept h authority result time
  have hrest : (h.delivered authority result time).admissions = h.admissions ∧
      (h.delivered authority result time).preparedRequest = h.preparedRequest ∧
      (h.delivered authority result time).adapter.replayResult = h.adapter.replayResult := by
    have hadapter : ∀ permitted,
        (h.adapter.acceptResult authority result permitted).2.replayResult =
          h.adapter.replayResult := by
      intro permitted
      unfold SampleAdapter.acceptResult
      split
      · rfl
      · split
        · rfl
        · split <;> rfl
    unfold SampleHost.delivered SampleHost.throughAll
    dsimp only
    cases deliveryReport _ _ _ <;> exact ⟨rfl, rfl, hadapter _⟩
  obtain ⟨hadmissions, hrequested, hretained⟩ := hrest
  refine ha.of_subset hadmissions ?_ ?_ ?_ ?_
  · exact fun _ ↦ hstaged ▸ id
  · exact fun _ ↦ hretained ▸ id
  · exact fun _ ↦ hpending ▸ id
  · exact fun _ hauthority _ hrequest ↦ ⟨hprepared ▸ hauthority, hrequested ▸ hrequest⟩

private theorem pass (move : Pass clock h t) (ha : Authentic h) : Authentic t := by
  cases move with
  | quiet move => exact ha.quiet move
  | report | settle | drop => exact { ha.popped with }
  | deliver => exact ha.popped.delivered _ _ _

/-- Submitting the prepared operation. -/
theorem submitted (ha : Authentic h) {work : WorkItem}
    (hwork : (work.authority, work.request) ∈ h.admissions) :
    Authentic (h.submitted clock work) := by
  unfold SampleHost.submitted
  split
  · refine Authentic.emittedAll_plain ?_ work rfl
    exact { ha with }
  · have haccepted : Authentic (h.emittedAll clock work [⟨.accepted, 1, none⟩]) :=
      ha.emittedAll_plain work rfl
    change Authentic (h.emitted clock work ⟨.accepted, 1, none⟩) at haccepted
    have hadmissions : (h.emitted clock work ⟨.accepted, 1, none⟩).admissions = h.admissions := by
      rw [(SampleHost.emits_emitted clock work ⟨.accepted, 1, none⟩ h).frame]
    dsimp only
    split
    · exact haccepted.finished (hadmissions ▸ hwork)
    · exact
        { haccepted with
          pending := by
            intro work' hwork'
            cases hwork'
            exact hadmissions ▸ hwork }

/-- Every move keeps what is authentic. -/
theorem move (step : Move clock h t) (ha : Authentic h) : Authentic t := by
  cases step with
  | pass step => exact ha.pass step
  | adapt adapts =>
    refine ha.of_subset rfl (fun _ ↦ id) adapts.replayResult ?_ fun _ ha _ hr ↦ ⟨ha, hr⟩
    exact fun _ hwork ↦ adapts.pendingWork ▸ hwork
  | @admits request time =>
    have hlater : ∀ {callback}, Genuine h.admissions callback → Genuine (h.admissions ++
        [(h.gate.nextAuthority (operationRequest request time), request)]) callback := by
      intro callback hgenuine result hresult
      obtain ⟨request, hmem, heq⟩ := hgenuine result hresult
      exact ⟨request, List.mem_append_left _ hmem, heq⟩
    refine ⟨fun e he ↦ hlater (ha.staged e he), fun c hc ↦ hlater (ha.retained c hc),
      fun work hwork ↦ List.mem_append_left _ (ha.pending work hwork), ?_⟩
    intro authority hauthority request hrequest
    cases hauthority
    cases hrequest
    exact List.mem_append_right _ (List.mem_singleton_self _)
  | @submit authority request time prepared requested =>
    have hclaimed : Authentic (h.claimed authority time) :=
      ⟨ha.staged, ha.retained, ha.pending, fun _ hnone ↦ by cases hnone⟩
    exact hclaimed.submitted (ha.prepared authority prepared request requested)
  | @finish work pending =>
    have hidle : Authentic { h with adapter := { h.adapter with pendingWork := none } } :=
      ⟨ha.staged, ha.retained, fun _ hnone ↦ (by cases hnone), ha.prepared⟩
    exact hidle.finished (ha.pending work pending)
  | replay _ retained =>
    refine ⟨fun event hevent ↦ ?_, ha.retained, ha.pending, ha.prepared⟩
    rcases List.mem_cons.mp hevent with rfl | hevent
    · exact ha.retained _ retained
    · exact ha.staged event hevent
  | replace =>
    exact ⟨ha.staged, ha.retained, fun _ hnone ↦ (by cases hnone), ha.prepared⟩
  | close =>
    refine ha.of_subset rfl (fun _ ↦ id) ?_ ?_ fun _ ha _ hr ↦ ⟨ha, hr⟩ <;>
    · unfold SampleAdapter.close
      split
      · exact fun _ ↦ id
      · first | exact fun _ hnone ↦ by cases hnone | exact fun _ ↦ id

end Authentic

/-! ### Results and receipts -/

/-- Some gate of the host has seen the output of the operation accepted. -/
def SampleHost.Delivered (h : SampleHost) (id : OperationId) : Prop :=
  ∃ g ∈ h.gates, ∃ r ∈ g.currentReceipt, r.authority.operationId = id ∧ r.output = .accepted

/-- The stored results are those of the operations whose output was accepted. -/
structure Matched (h : SampleHost) : Prop where
  present : h.gate ∈ h.gates
  past : ∀ g ∈ h.gates, ∀ r ∈ g.currentReceipt, ∃ q ∈ h.gate.currentReceipt,
    r.authority.operationId < q.authority.operationId ∨
      r.authority.operationId = q.authority.operationId ∧
        (r.output = .accepted → q.output = .accepted)
  delivered : ∀ id, id ∈ h.adapter.results.map SampleResult.operationId ↔ h.Delivered id
  ordered : (h.adapter.results.map SampleResult.operationId).Pairwise (· < ·)
  computed : ∀ result ∈ h.adapter.results, ∃ admission ∈ h.admissions,
    result = computeResult (workOf admission.1 admission.2)
  valid : ∀ admission ∈ h.admissions, isValidRequest admission.2
  admitted : ∀ admission ∈ h.admissions, ∃ r ∈ h.gate.currentReceipt,
    admission.1.operationId ≤ r.authority.operationId
  issued : (h.admissions.map (·.1.operationId)).Pairwise (· < ·)

/-- A plain call keeps the current operation, and whether its output is accepted. -/
theorem counterpart {s s' : AuthorityGate} {c : Call} {a : Answer} (step : Transition s c a s')
    (plain : c.IsPlain) :
    (∀ q ∈ s.currentReceipt, ∃ r ∈ s'.currentReceipt, r.authority = q.authority ∧
      (r.output = .accepted ↔ q.output = .accepted)) ∧
    ∀ r ∈ s'.currentReceipt, ∃ q ∈ s.currentReceipt, r.authority = q.authority ∧
      (r.output = .accepted ↔ q.output = .accepted) := by
  cases step.receiptEffect with
  | kept hkept => rw [hkept]; exact ⟨fun q hq ↦ ⟨q, hq, rfl, .rfl⟩, fun q hq ↦ ⟨q, hq, rfl, .rfl⟩⟩
  | admitted call => subst call; cases plain
  | changed present _ change after =>
    have hsame := change.authority_eq
    have haccepted := Iff.intro (change.accepted plain) fun haccepted ↦
      (change.output_eq (by rw [haccepted]; nofun)).trans haccepted
    constructor
    · intro q hq
      cases present.symm.trans hq
      exact ⟨_, after, hsame, haccepted⟩
    · intro r hr
      cases after.symm.trans hr
      exact ⟨_, present, hsame, haccepted⟩

/-- The sink stores a result that is permitted, or nothing. -/
theorem acceptResult_cases (adapter : SampleAdapter) (authority : OperationAuthority)
    (result : SampleResult) (permitted : Bool) :
    (permitted = true ∧ (adapter.acceptResult authority result permitted).1 = .accepted ∧
      (adapter.acceptResult authority result permitted).2 =
        { adapter with results := adapter.results ++ [result] }) ∨
    ((adapter.acceptResult authority result permitted).1 ≠ .accepted ∧
      (adapter.acceptResult authority result permitted).2.results = adapter.results) := by
  unfold SampleAdapter.acceptResult
  split
  · exact .inr ⟨nofun, rfl⟩
  · split
    · exact .inr ⟨nofun, rfl⟩
    · next hpermitted =>
      split
      · exact .inr ⟨nofun, rfl⟩
      · exact .inl ⟨by simpa using hpermitted, rfl, rfl⟩

/-- The gate accepts a result that it permitted to deliver. -/
theorem Sound.accepts (hs : Sound clock h) {authority : OperationAuthority}
    {time : MonotonicTime} (looked : h.Looked time) (hdeliver : h.gate.canDeliverResult authority) :
    ∃ r, h.gate.currentReceipt = some r ∧ r.authority = authority ∧ r.output = .pending ∧
      (h.gate.call (.observeOutputAccepted ⟨authority, resultReference authority,
        ⟨resultSinkObserver, time, 1⟩⟩)).2 =
        { h.gate with
          currentReceipt := some (r.acceptOutput ⟨authority, resultReference authority,
            ⟨resultSinkObserver, time, 1⟩⟩) } := by
  obtain ⟨-, -, r, hr, hunrevoked, -, hpending⟩ := id hdeliver
  obtain ⟨present, hauthority, -⟩ := AuthorityGate.matchingReceipt_eq_some.mp hr
  have hsink : h.gate.config.resultSinkObserver = resultSinkObserver := by
    rw [hs.config]
    rfl
  have hnamed : resultReference authority ≠ "" := by
    unfold resultReference
    simp
  have hcall := hs.coherent.accepts_output
    (e := ⟨authority, resultReference authority, ⟨resultSinkObserver, time, 1⟩⟩) present
    (looked.effects r present) hdeliver hnamed (by rw [hsink]; decide) hsink.symm rfl
    (by change (1 : UInt64) ≠ 0; decide)
    fun hdue ↦ hunrevoked (looked.due r present hpending hdue)
  exact ⟨r, present, hauthority.symm, hpending, congrArg Prod.snd hcall⟩

namespace Matched

/-- What keeps the gates, the results and the admissions. -/
theorem of_eq (hm : Matched h) (hgate : t.gate = h.gate) (hgates : t.gates = h.gates)
    (hresults : t.adapter.results = h.adapter.results)
    (hadmissions : t.admissions = h.admissions) : Matched t := by
  obtain ⟨hpresent, hpast, hdelivered, hordered, hcomputed, hvalid, hadmitted, hissued⟩ := hm
  unfold SampleHost.Delivered at hdelivered
  rw [← hgate, ← hgates] at hpresent
  rw [← hgate, ← hgates] at hpast
  rw [← hgates, ← hresults] at hdelivered
  rw [← hresults] at hordered
  rw [← hresults, ← hadmissions] at hcomputed
  rw [← hadmissions] at hvalid
  rw [← hgate, ← hadmissions] at hadmitted
  rw [← hadmissions] at hissued
  exact ⟨hpresent, hpast, hdelivered, hordered, hcomputed, hvalid, hadmitted, hissued⟩

/-- A gate with the same operation, whose output is accepted when it was. -/
theorem follow (hm : Matched h) {s : AuthorityGate}
    (hafter : ∀ q ∈ h.gate.currentReceipt, ∃ r ∈ s.currentReceipt, r.authority = q.authority ∧
      (r.output = .accepted ↔ q.output = .accepted))
    (hbefore : ∀ r ∈ s.currentReceipt, ∃ q ∈ h.gate.currentReceipt, r.authority = q.authority ∧
      (r.output = .accepted ↔ q.output = .accepted)) :
    Matched { h with gate := s, gates := h.gates ++ [s] } := by
  refine
    { hm with
      present := List.mem_append_right _ (List.mem_singleton_self _)
      past := fun g hg r hr ↦ ?_
      delivered := fun id ↦ (hm.delivered id).trans ⟨?_, ?_⟩
      admitted := fun admission hadmission ↦ ?_ }
  · rcases List.mem_append.mp hg with hg | hg
    · obtain ⟨q, hq, hbehind⟩ := hm.past g hg r hr
      obtain ⟨q', hq', hauthority, haccepted⟩ := hafter q hq
      refine ⟨q', hq', ?_⟩
      rw [hauthority]
      exact hbehind.imp_right fun ⟨hsame, hkeeps⟩ ↦ ⟨hsame, fun h ↦ haccepted.mpr (hkeeps h)⟩
    · cases List.mem_singleton.mp hg
      exact ⟨r, hr, .inr ⟨rfl, id⟩⟩
  · rintro ⟨g, hg, r, hr, hdelivered⟩
    exact ⟨g, List.mem_append_left _ hg, r, hr, hdelivered⟩
  · rintro ⟨g, hg, r, hr, hid, haccepted⟩
    rcases List.mem_append.mp hg with hg | hg
    · exact ⟨g, hg, r, hr, hid, haccepted⟩
    · cases List.mem_singleton.mp hg
      obtain ⟨q, hq, hauthority, hsame⟩ := hbefore r hr
      exact ⟨h.gate, hm.present, q, hq, hauthority ▸ hid, hsame.mp haccepted⟩
  · obtain ⟨q, hq, hle⟩ := hm.admitted admission hadmission
    obtain ⟨q', hq', hauthority, -⟩ := hafter q hq
    exact ⟨q', hq', hauthority ▸ hle⟩

/-- A plain call keeps the results matched. -/
theorem through (hm : Matched h) {c : Call} (plain : c.IsPlain) : Matched (h.through c) :=
  have hsame := counterpart (gate_transition h.gate c) plain
  hm.follow hsame.1 hsame.2

/-- So does a call that the gate refuses. -/
theorem refuse (hm : Matched h) {c : Call} (refused : (h.gate.call c).2 = h.gate) :
    Matched (h.through c) := by
  unfold SampleHost.through
  rw [refused]
  exact hm.follow (fun q hq ↦ ⟨q, hq, rfl, .rfl⟩) fun q hq ↦ ⟨q, hq, rfl, .rfl⟩

/-- The events of a script are no results. -/
theorem emittedAll (hm : Matched h) (work : WorkItem) (script : List Emission) :
    Matched (h.emittedAll clock work script) := by
  have hframe := (SampleHost.emits_emittedAll clock work script h).frame
  refine hm.of_eq ?_ ?_ ?_ ?_ <;> rw [hframe]

private theorem finished (hm : Matched h) (work : WorkItem) : Matched (h.finished clock work) := by
  refine Matched.emittedAll ?_ work _
  refine hm.of_eq rfl rfl ?_ rfl
  unfold SampleAdapter.executed
  split <;> rfl

private theorem quiet (move : Quiet clock h t) (hm : Matched h) : Matched t := by
  cases move with
  | read | count => exact hm.of_eq rfl rfl rfl rfl
  | @control c kind =>
    refine hm.through ?_
    cases c with
    | admitRequest | observeOutputAccepted => exact kind
    | _ => trivial
  | refuse refused => exact hm.refuse refused
  | @stop authority =>
    refine hm.of_eq rfl rfl ?_ rfl
    unfold SampleAdapter.requestStop
    dsimp only
    split
    · rfl
    · split
      · rfl
      · split <;> rfl
  | discard =>
    refine Matched.emittedAll ?_ _ _
    exact hm.of_eq rfl rfl rfl rfl

/-- The sink stores a result together with the acceptance of its output by the gate. -/
theorem deliver (hm : Matched h) (hs : Sound clock h) {authority : OperationAuthority}
    {result : SampleResult} {time : MonotonicTime}
    (hgenuine : ∃ request, (authority, request) ∈ h.admissions ∧
      result = computeResult (workOf authority request)) (looked : h.Looked time) :
    Matched (h.delivered authority result time) := by
  obtain ⟨request, hrequest, hresult⟩ := hgenuine
  have hid : result.operationId = authority.operationId := by rw [hresult]; rfl
  unfold SampleHost.delivered SampleHost.throughAll
  dsimp only
  rcases acceptResult_cases h.adapter authority result
    (decide (h.gate.canDeliverResult authority)) with
    ⟨hpermitted, haccepted, hstored⟩ | ⟨hrefused, hkept⟩
  · obtain ⟨r, present, hauthority, hpending, hcall⟩ :=
      hs.accepts looked (of_decide_eq_true hpermitted)
    rw [haccepted, hstored]
    unfold deliveryReport Option.elim SampleHost.through
    dsimp only
    rw [hcall]
    generalize hafter : r.acceptOutput _ = after
    have hsame : after.authority = authority := by
      rw [← hafter]
      exact hauthority
    have hoff : after.output = .accepted := by
      rw [← hafter]
      rfl
    clear hafter hcall
    refine
      { present := List.mem_append_right _ (List.mem_singleton_self _)
        past := fun g hg q hq ↦ ⟨after, rfl, ?_⟩
        delivered := fun id ↦ ?_
        ordered := ?_
        computed := fun stored hmem ↦ ?_
        valid := hm.valid
        admitted := fun admission hadmission ↦ ⟨after, rfl, ?_⟩
        issued := hm.issued }
    · rw [hsame]
      rcases List.mem_append.mp hg with hg | hg
      · obtain ⟨r', hr', hbehind⟩ := hm.past g hg q hq
        cases present.symm.trans hr'
        rw [hauthority] at hbehind
        exact hbehind.imp_right fun ⟨hsame, _⟩ ↦ ⟨hsame, fun _ ↦ hoff⟩
      · cases List.mem_singleton.mp hg
        cases hq
        exact .inr ⟨by rw [hsame], id⟩
    · rw [List.map_append, List.mem_append, hm.delivered, List.map_singleton,
        List.mem_singleton, hid]
      constructor
      · rintro (⟨g, hg, hdelivered⟩ | rfl)
        · exact ⟨g, List.mem_append_left _ hg, hdelivered⟩
        · exact ⟨_, List.mem_append_right _ (List.mem_singleton_self _), after, rfl,
            by rw [hsame], hoff⟩
      · rintro ⟨g, hg, q, hq, hdelivered, hout⟩
        rcases List.mem_append.mp hg with hg | hg
        · exact .inl ⟨g, hg, q, hq, hdelivered, hout⟩
        · cases List.mem_singleton.mp hg
          cases hq
          exact .inr (by rw [← hdelivered, hsame])
    · rw [List.map_append, List.map_singleton, List.pairwise_append]
      refine ⟨hm.ordered, List.pairwise_singleton _ _, fun earlier hearlier later hlater ↦ ?_⟩
      rw [List.mem_singleton.mp hlater, hid]
      obtain ⟨g, hg, q, hq, rfl, hout⟩ := (hm.delivered earlier).mp hearlier
      obtain ⟨r', hr', hbehind⟩ := hm.past g hg q hq
      cases present.symm.trans hr'
      rw [hauthority] at hbehind
      refine hbehind.resolve_right fun ⟨_, hkeeps⟩ ↦ ?_
      rw [hkeeps hout] at hpending
      cases hpending
    · rcases List.mem_append.mp hmem with hmem | hmem
      · exact hm.computed stored hmem
      · cases List.mem_singleton.mp hmem
        exact ⟨_, hrequest, hresult⟩
    · obtain ⟨r', hr', hle⟩ := hm.admitted admission hadmission
      cases present.symm.trans hr'
      rwa [hsame, ← hauthority]
  · have hstored : Matched { h with
        adapter := (h.adapter.acceptResult authority result
          (decide (h.gate.canDeliverResult authority))).2 } := hm.of_eq rfl rfl hkept rfl
    cases hanswer : (h.adapter.acceptResult authority result
        (decide (h.gate.canDeliverResult authority))).1 with
    | accepted => exact absurd hanswer hrefused
    | invalid => exact hstored
    | sinkUnavailable | permissionDenied => exact hstored.through trivial

private theorem pass (move : Pass clock h t) (hs : Sound clock h) (ha : Authentic h)
    (hm : Matched h) : Matched t := by
  have hpopped : Matched h.popped := hm.of_eq rfl rfl rfl rfl
  cases move with
  | quiet move => exact hm.quiet move
  | @report event rest c staged reports =>
    refine hpopped.through ?_
    obtain ⟨⟨kind, authority, identity, sequence, result⟩, observedAt⟩ := event
    cases kind <;> cases reports <;> trivial
  | @deliver event rest time staged kind result carries looked =>
    exact hpopped.deliver hs.popped
      (ha.staged event (staged ▸ List.mem_cons_self) result carries) (looked.of_gate rfl le_rfl)
  | drop => exact hpopped
  | settle => exact hpopped.through trivial

private theorem submitted (hm : Matched h) (work : WorkItem) :
    Matched (h.submitted clock work) := by
  unfold SampleHost.submitted
  split
  · refine Matched.emittedAll ?_ work _
    exact hm.of_eq rfl rfl rfl rfl
  · have haccepted : Matched (h.emittedAll clock work [⟨.accepted, 1, none⟩]) :=
      hm.emittedAll work _
    change Matched (h.emitted clock work ⟨.accepted, 1, none⟩) at haccepted
    dsimp only
    split
    · exact haccepted.finished work
    · exact haccepted.of_eq rfl rfl rfl rfl

/-- A fresh operation has a later id than every other one. -/
theorem admits (hm : Matched h) (hs : Sound clock h) {request : OperationRequest}
    {sample : SampleRequest} (hvalid : isValidRequest sample) (guard : AdmitGuard h.gate request)
    (hcall : (h.gate.call (.admitRequest request)).2 = h.gate.admitted request) :
    Matched { h.through (.admitRequest request) with
      admissions := h.admissions ++ [(h.gate.nextAuthority request, sample)] } := by
  have hlater : ∀ q ∈ h.gate.currentReceipt,
      q.authority.operationId < h.gate.nextOperationId := fun q hq ↦
    ((hs.coherent.receiptIssued q hq).2).resolve_left guard.unexhausted
  have hold : ∀ g ∈ h.gates, ∀ q ∈ g.currentReceipt,
      q.authority.operationId < h.gate.nextOperationId := by
    intro g hg q hq
    obtain ⟨r, hr, hlt | ⟨heq, -⟩⟩ := hm.past g hg q hq
    · exact hlt.trans (hlater r hr)
    · exact heq ▸ hlater r hr
  unfold SampleHost.through
  rw [hcall]
  refine
    { present := List.mem_append_right _ (List.mem_singleton_self _)
      past := fun g hg q hq ↦
        ⟨AuthorityGate.newReceipt (h.gate.nextAuthority request) request, rfl, ?_⟩
      delivered := fun id ↦ (hm.delivered id).trans ⟨?_, ?_⟩
      ordered := hm.ordered
      computed := fun stored hmem ↦ ?_
      valid := fun admission hadmission ↦ ?_
      admitted := fun admission hadmission ↦
        ⟨AuthorityGate.newReceipt (h.gate.nextAuthority request) request, rfl, ?_⟩
      issued := ?_ }
  · rcases List.mem_append.mp hg with hg | hg
    · exact .inl (hold g hg q hq)
    · cases List.mem_singleton.mp hg
      cases hq
      exact .inr ⟨rfl, id⟩
  · rintro ⟨g, hg, hdelivered⟩
    exact ⟨g, List.mem_append_left _ hg, hdelivered⟩
  · rintro ⟨g, hg, q, hq, hid, hout⟩
    rcases List.mem_append.mp hg with hg | hg
    · exact ⟨g, hg, q, hq, hid, hout⟩
    · cases List.mem_singleton.mp hg
      cases hq
      cases hout
  · obtain ⟨admission, hadmission, heq⟩ := hm.computed stored hmem
    exact ⟨admission, List.mem_append_left _ hadmission, heq⟩
  · rcases List.mem_append.mp hadmission with hadmission | hadmission
    · exact hm.valid admission hadmission
    · cases List.mem_singleton.mp hadmission
      exact hvalid
  · rcases List.mem_append.mp hadmission with hadmission | hadmission
    · obtain ⟨q, hq, hle⟩ := hm.admitted admission hadmission
      exact hle.trans (hlater q hq).le
    · cases List.mem_singleton.mp hadmission
      exact le_refl h.gate.nextOperationId
  · rw [List.map_append, List.map_singleton, List.pairwise_append]
    refine ⟨hm.issued, List.pairwise_singleton _ _, fun earlier hearlier later hnew ↦ ?_⟩
    rw [List.mem_singleton.mp hnew]
    obtain ⟨admission, hadmission, rfl⟩ := List.mem_map.mp hearlier
    obtain ⟨q, hq, hle⟩ := hm.admitted admission hadmission
    exact hle.trans_lt (hlater q hq)

private theorem move (step : Move clock h t) (hs : Sound clock h) (ha : Authentic h)
    (hm : Matched h) : Matched t := by
  cases step with
  | pass step => exact hm.pass step hs ha
  | adapt adapts => exact hm.of_eq rfl rfl adapts.results rfl
  | admits valid reached guard admitted =>
    exact (hm.admits hs valid guard admitted).of_eq rfl rfl rfl rfl
  | @submit authority request time prepared requested idle reached =>
    refine Matched.submitted ?_ _
    exact (hm.through (c := .claimDispatch authority time) trivial).of_eq rfl rfl rfl rfl
  | finish =>
    refine Matched.finished ?_ _
    exact hm.of_eq rfl rfl rfl rfl
  | replay | replace => exact hm.of_eq rfl rfl rfl rfl
  | close =>
    refine hm.of_eq rfl rfl ?_ rfl
    unfold SampleAdapter.close
    split <;> rfl

end Matched

/-! ### Squares and their sum -/

/-- The values that a request may have. -/
theorem toInt_of_valid {value : Int32} (hlow : -maximumAbsoluteSampleValue ≤ value)
    (hhigh : value ≤ maximumAbsoluteSampleValue) :
    -10000 ≤ value.toInt ∧ value.toInt ≤ 10000 :=
  ⟨Int32.le_iff_toInt_le.mp hlow, Int32.le_iff_toInt_le.mp hhigh⟩

/-- The square of a value does not overflow. -/
theorem toInt_square {value : Int32} (hlow : -10000 ≤ value.toInt) (hhigh : value.toInt ≤ 10000) :
    (square value).toInt = value.toInt ^ 2 ∧ (square value).toInt ≤ 100000000 := by
  have hpositive : 0 ≤ value.toInt ^ 2 := sq_nonneg _
  have hbound : value.toInt ^ 2 ≤ 100000000 := by nlinarith
  have hsquare : (square value).toInt = value.toInt ^ 2 := by
    unfold square
    rw [Int64.toInt_mul, Int32.toInt_toInt64, ← pow_two]
    refine Int.bmod_eq_of_le ?_ ?_ <;> lia
  exact ⟨hsquare, hsquare ▸ hbound⟩

/-- The sum of squares does not overflow. -/
theorem toInt_sum (values : List Int32) (sum : Int64)
    (hvalues : ∀ value ∈ values, -10000 ≤ value.toInt ∧ value.toInt ≤ 10000)
    (hsum : 0 ≤ sum.toInt) (hroom : sum.toInt + values.length * 100000000 < 2 ^ 63) :
    (values.foldl (fun sum value ↦ sum + square value) sum).toInt =
      sum.toInt + (values.map fun value ↦ value.toInt ^ 2).sum := by
  induction values generalizing sum with
  | nil => simp
  | cons value values ih =>
    obtain ⟨hlow, hhigh⟩ := hvalues value List.mem_cons_self
    obtain ⟨hsquare, hbound⟩ := toInt_square hlow hhigh
    have hpositive : 0 ≤ (square value).toInt := hsquare ▸ sq_nonneg _
    rw [List.length_cons] at hroom
    push_cast at hroom
    have hadd : (sum + square value).toInt = sum.toInt + (square value).toInt := by
      rw [Int64.toInt_add]
      refine Int.bmod_eq_of_le ?_ ?_ <;> lia
    rw [List.foldl_cons, List.map_cons, List.sum_cons,
      ih (sum + square value) (fun v hv ↦ hvalues v (List.mem_cons_of_mem _ hv)), hadd, hsquare]
    · lia
    · rw [hadd]
      lia
    · rw [hadd]
      lia

/-- The result of a valid request holds the squares of its values and their sum. -/
theorem toInt_computeResult {request : SampleRequest} (hvalid : isValidRequest request)
    (authority : OperationAuthority) :
    (computeResult (workOf authority request)).squaredValues.map Int64.toInt =
        request.values.map (fun value ↦ value.toInt ^ 2) ∧
      (computeResult (workOf authority request)).sumOfSquares.toInt =
        (request.values.map fun value ↦ value.toInt ^ 2).sum := by
  obtain ⟨-, -, hlength, hvalues⟩ := hvalid
  have hbounds : ∀ value ∈ request.values, -10000 ≤ value.toInt ∧ value.toInt ≤ 10000 :=
    fun value hvalue ↦ toInt_of_valid (hvalues value hvalue).1 (hvalues value hvalue).2
  constructor
  · unfold computeResult workOf
    rw [List.map_map]
    refine List.map_congr_left fun value hvalue ↦ ?_
    exact (toInt_square (hbounds value hvalue).1 (hbounds value hvalue).2).1
  · have hsum := toInt_sum request.values 0 hbounds (by simp) ?_
    · rw [Int64.toInt_zero, zero_add] at hsum
      exact hsum
    · have hmaximum : (request.values.length : ℤ) ≤ 16 := by exact_mod_cast hlength
      simp only [Int64.toInt_zero]
      lia

/-! ### Whole runs -/

namespace SampleRun

/-- What is known of every host of a run. -/
structure Holds (clock : ℕ → MonotonicTime) (h : SampleHost) : Prop where
  sound : Sound clock h
  authentic : Authentic h
  matched : Matched h

/-- A move keeps what holds of the host. -/
theorem Holds.move (hclock : Monotone clock) (step : Move clock h t) (hh : Holds clock h) :
    Holds clock t :=
  ⟨hh.sound.move hclock step, hh.authentic.move step,
    hh.matched.move step hh.sound hh.authentic⟩

variable {run : SampleRun}

/-- The first reading is the start of the gate. -/
theorem sound_start (hclock : Monotone run.clock) : Sound run.clock run.start where
  timed := ⟨rfl, fun _ _ ↦ hclock (Nat.zero_le _)⟩
  config := rfl
  coherent := AuthorityGate.coherent_initial _
  bounded := AuthorityGate.bounded_initial (le_refl (run.clock 0))
  stamped := nofun
  current := rfl
  staged := nofun

/-- What holds of the host at the start. -/
theorem holds_start (hclock : Monotone run.clock) : Holds run.clock run.start where
  sound := sound_start hclock
  authentic := ⟨nofun, nofun, nofun, nofun⟩
  matched :=
    { present := List.mem_singleton_self _
      past := by
        intro g hg r hr
        cases List.mem_singleton.mp hg
        cases hr
      delivered := by
        refine fun id ↦ ⟨nofun, ?_⟩
        rintro ⟨g, hg, r, hr, -⟩
        cases List.mem_singleton.mp hg
        cases hr
      ordered := List.Pairwise.nil
      computed := nofun
      valid := nofun
      admitted := nofun
      issued := List.Pairwise.nil }

/-- Every call returns, and keeps what is known. -/
theorem holds_call (hclock : Monotone clock) (hh : Holds clock h) (call : SampleCall) :
    (∃ answer, (call.program clock h).1 = .ok answer) ∧ Holds clock (call.program clock h).2 := by
  by_cases hdisables : call = .setSettlementReportingEnabled false
  · subst hdisables
    refine ⟨⟨.done, rfl⟩, ?_⟩
    exact
      { sound := hh.sound.of_eq rfl rfl rfl rfl rfl fun _ ↦ id
        authentic := ⟨hh.authentic.staged, hh.authentic.retained, hh.authentic.pending,
          hh.authentic.prepared⟩
        matched := hh.matched.of_eq rfl rfl rfl rfl }
  · have hreaches := call.reaches hclock hh.sound hdisables
    unfold Fallible.Reaches Fallible.Meets at hreaches
    split at hreaches
    · next answer t heq =>
      rw [heq]
      exact ⟨⟨answer, rfl⟩,
        Fallible.holds_along (fun _ _ step hh ↦ hh.move hclock step) hreaches.1 hh⟩
    · exact hreaches.elim

/-- Every call of a run returns, and every host of a run is known as far as that. -/
theorem holds_final (run : SampleRun) (hclock : Monotone run.clock) :
    (∀ e ∈ run.history, ∃ answer, e.output = .ok answer) ∧ Holds run.clock run.final := by
  have hstep : ∀ h c, Holds run.clock h → Holds run.clock ((sampleHost run.clock).next h c) :=
    fun h c hh ↦ (holds_call hclock hh c).2
  refine ⟨fun e he ↦ ?_, (sampleHost run.clock).invariant_run hstep (holds_start hclock) run.calls⟩
  have hpre := (sampleHost run.clock).invariant_pre hstep (holds_start hclock) he
  have hevent := (sampleHost run.clock).eq_event_of_mem_trace he
  obtain ⟨answer, hanswer⟩ := (holds_call hclock hpre e.input).1
  refine ⟨answer, ?_⟩
  rw [hevent]
  exact hanswer

/-- The results of the host match its receipts: in every run whose clock does not go back, every
call returns; the stored results are in increasing order of their operations, one for each
operation whose output some gate of the run has seen accepted and for no other; and each holds
the squares of the one request that was admitted with its operation, and their sum. -/
theorem results_match_receipts (run : SampleRun) (hclock : Monotone run.clock) :
    (∀ e ∈ run.history, ∃ answer, e.output = .ok answer) ∧
      (run.final.adapter.results.map SampleResult.operationId).Pairwise (· < ·) ∧
      (∀ id, id ∈ run.final.adapter.results.map SampleResult.operationId ↔
        run.final.Delivered id) ∧
      (run.final.admissions.map (·.1.operationId)).Nodup ∧
      ∀ result ∈ run.final.adapter.results, ∃ admission ∈ run.final.admissions,
        result.operationId = admission.1.operationId ∧
        result.requestReference = admission.2.requestReference ∧
        result.squaredValues.map Int64.toInt =
          admission.2.values.map (fun value ↦ value.toInt ^ 2) ∧
        result.sumOfSquares.toInt =
          (admission.2.values.map fun value ↦ value.toInt ^ 2).sum := by
  obtain ⟨hreturns, hh⟩ := run.holds_final hclock
  refine ⟨hreturns, hh.matched.ordered, hh.matched.delivered,
    hh.matched.issued.imp fun hlt ↦ hlt.ne, fun result hresult ↦ ?_⟩
  obtain ⟨admission, hadmission, rfl⟩ := hh.matched.computed result hresult
  exact ⟨admission, hadmission, rfl, rfl,
    toInt_computeResult (hh.matched.valid admission hadmission) admission.1⟩

/-- One operation of a synchronous adapter, on a clock that stands still. -/
def squares : SampleRun :=
  ⟨.synchronous, fun _ ↦ 5, [.initializeHost, .submit ⟨"request", [3, -4], none⟩]⟩

/-- The result of that operation, which its gate has seen accepted. -/
theorem results_match_receipts_squares :
    squares.final.adapter.results = [⟨1, "request", [9, 16], 25⟩] ∧
      ∀ id, id ∈ squares.final.adapter.results.map SampleResult.operationId ↔
        squares.final.Delivered id :=
  ⟨by decide +kernel, (squares.results_match_receipts monotone_const).2.2.1⟩

end SampleRun

end RobotHarness.Sample
