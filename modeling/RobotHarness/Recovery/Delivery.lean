import RobotHarness.Core.Inversion
import RobotHarness.Recovery.Client

/-!
# What a result of the client rests on

The client reports a value only for its last submission, after it received a result that names the
submission and that its gate accepted as the success, the output and the settlement of the
operation.
-/

namespace RobotHarness

namespace AuthorityGate

variable {s : AuthorityGate}

/-- An output that a gate accepts is of an operation that has succeeded. -/
theorem observeOutputAccepted_accepted {e : OutputEvidence}
    (h : (s.observeOutputAccepted e).1 = .accepted) :
    ∃ r, s.currentReceipt = some r ∧ e.authority = r.authority ∧ r.nativeOutcome = .succeeded ∧
      (s.observeOutputAccepted e).2 = { s with currentReceipt := some (r.acceptOutput e) } := by
  have hstep := gate_transition s (.observeOutputAccepted e)
  have hanswer : gate.answer s (.observeOutputAccepted e) = .evidence .accepted :=
    congrArg Answer.evidence h
  have hnext : gate.next s (.observeOutputAccepted e) = (s.observeOutputAccepted e).2 := rfl
  rw [hanswer, hnext] at hstep
  generalize (s.observeOutputAccepted e).2 = s' at hstep ⊢
  cases hstep with
  | noEffect hnone => exact absurd rfl hnone
  | operation present bound step =>
    cases step with
    | acceptOutput authority phase named formed unrevoked succeeded =>
      exact ⟨_, present, authority, succeeded, rfl⟩

/-- A settlement that a gate accepts settles the receipt of its operation. -/
theorem observeSettlement_accepted {e : SettlementEvidence}
    (h : (s.observeSettlement e).1 = .accepted) :
    ∃ r, s.currentReceipt = some r ∧ e.authority = r.authority ∧
      (s.observeSettlement e).2 = { s with currentReceipt := some (r.settle e) } := by
  have hstep := gate_transition s (.observeSettlement e)
  have hanswer : gate.answer s (.observeSettlement e) = .evidence .accepted :=
    congrArg Answer.evidence h
  have hnext : gate.next s (.observeSettlement e) = (s.observeSettlement e).2 := rfl
  rw [hanswer, hnext] at hstep
  generalize (s.observeSettlement e).2 = s' at hstep ⊢
  cases hstep with
  | noEffect hnone => exact absurd rfl hnone
  | operation present bound step =>
    cases step with
    | settle authority => exact ⟨_, present, authority, rfl⟩

/-- The settlement of an output leaves the receipt of a success. -/
theorem receipt_of_settled {e : OutputEvidence} {e' : SettlementEvidence}
    (hsame : e'.authority = e.authority) (haccepted : (s.observeOutputAccepted e).1 = .accepted)
    (hsettled : ((s.observeOutputAccepted e).2.observeSettlement e').1 = .accepted) :
    ∃ r, ((s.observeOutputAccepted e).2.observeSettlement e').2.receipt e.authority = some r ∧
      r.nativeOutcome = .succeeded ∧ r.output = .accepted ∧ r.settlement = .settled := by
  obtain ⟨r, -, -, hsucceeded, houtput⟩ := observeOutputAccepted_accepted haccepted
  obtain ⟨r', hr', hauthority, hsettlement⟩ := observeSettlement_accepted hsettled
  rw [houtput] at hr'
  obtain rfl : r.acceptOutput e = r' := Option.some.inj hr'
  have hmatches : authorityMatches ((r.acceptOutput e).settle e').authority e.authority := by
    rw [authorityMatches_iff, ← hsame]
    exact hauthority.symm
  have hreceipt : ((s.observeOutputAccepted e).2.observeSettlement e').2.receipt e.authority =
      some ((r.acceptOutput e).settle e') := by
    rw [hsettlement]
    exact if_pos hmatches
  exact ⟨_, hreceipt, hsucceeded, rfl, rfl⟩

/-- An admission that is refused changes nothing. -/
theorem admitRequest_cases (s : AuthorityGate) (request : OperationRequest) :
    (s.admitRequest request).2 = s ∨ (s.admitRequest request).1 =
      { status := .admitted, authority := some (s.nextAuthority request) } := by
  have hstep := gate_transition s (.admitRequest request)
  have hanswer : gate.answer s (.admitRequest request) = .admission (s.admitRequest request).1 :=
    rfl
  have hnext : gate.next s (.admitRequest request) = (s.admitRequest request).2 := rfl
  rw [hanswer, hnext] at hstep
  generalize (s.admitRequest request).1 = decision at hstep ⊢
  generalize (s.admitRequest request).2 = s' at hstep ⊢
  cases hstep with
  | noEffect => exact .inl rfl
  | admission => exact .inr rfl
  | operation present bound step => cases step

end AuthorityGate

namespace Recovery

/-- The last submission after an event. -/
def ClientEvent.after (last : Option (UInt64 × UInt64)) : ClientEvent → Option (UInt64 × UInt64)
  | .submitted operation iterations => some (operation, iterations)
  | .sent _ => last
  | .received _ => last

/-- The operation and the iterations of the last submission. -/
def lastSubmitted (log : List ClientEvent) : Option (UInt64 × UInt64) :=
  log.foldl ClientEvent.after none

@[simp] private theorem lastSubmitted_append (log : List ClientEvent) (event : ClientEvent) :
    lastSubmitted (log ++ [event]) = event.after (lastSubmitted log) := by
  simp [lastSubmitted]

namespace Client

/-- The operation is the one of the last submission. -/
structure Asked (c : Client) (operation : OperationAuthority) : Prop where
  current : c.operation = some operation
  last : lastSubmitted c.log = some (operation.operationId, c.iterations)
  valid : c.iterations ≤ maximumIterations

/-- The message is the result of an operation that succeeded. -/
structure Reports (c : Client) (operation : OperationAuthority) (m : Message) : Prop where
  kind : m.kind = .result
  session : m.session = c.epoch
  operation : m.operation = operation.operationId
  amount : m.amount = c.iterations
  flags : m.flags = succeeded
  value : m.value = expectedSum c.iterations

/-- The client has the receipt of an operation that succeeded and is over. -/
def Receipted (c : Client) : Prop :=
  ∃ r, c.receipt = some r ∧ r.nativeOutcome = .succeeded ∧ r.output = .accepted ∧
    r.settlement = .settled

/-- The value is the result of the last submission. -/
structure Delivered (c : Client) (value : UInt64) : Prop where
  idle : c.exchange = .idle
  answered : ∃ operation m, c.Asked operation ∧ .received m ∈ c.log ∧ c.Reports operation m ∧
    m.value = value
  receipted : c.Receipted

/-- The client waits for an answer to its last submission. -/
def Waits (c : Client) : Prop := c.exchange = .acceptance ∨ c.exchange = .result

/-- The client has become ready, and may be closed since. -/
def Begun (c : Client) : Prop := c.state = .ready ∨ c.state = .closed

/-- What holds of the client in every run. -/
structure Sound (c : Client) : Prop where
  begun : c.Waits ∨ c.value.isSome → c.Begun
  waiting : c.Waits → c.value = none ∧ ∃ operation, c.Asked operation
  delivered : ∀ value, c.value = some value → c.Delivered value

variable {c c' : Client}

/-- The clients agree on what a result rests on. -/
structure Agrees (c c' : Client) : Prop where
  state : c'.state = c.state ∨ c'.state = .closed
  exchange : c'.exchange = c.exchange
  epoch : c'.epoch = c.epoch
  iterations : c'.iterations = c.iterations
  operation : c'.operation = c.operation
  receipt : c'.receipt = c.receipt
  value : c'.value = c.value
  last : lastSubmitted c'.log = lastSubmitted c.log
  received : ∀ m, .received m ∈ c.log → .received m ∈ c'.log

/-- A client that agrees with a sound one is sound. -/
theorem Sound.agree (h : c.Sound) (hagrees : Agrees c c') : c'.Sound := by
  have hasked : ∀ operation, c.Asked operation → c'.Asked operation := by
    intro operation hop
    constructor
    · exact hagrees.operation.trans hop.current
    · rw [hagrees.last, hagrees.iterations]
      exact hop.last
    · rw [hagrees.iterations]
      exact hop.valid
  constructor
  · unfold Waits
    rw [hagrees.exchange, hagrees.value]
    intro hbegun
    rcases hagrees.state with hstate | hstate
    · unfold Begun
      rw [hstate]
      exact h.begun hbegun
    · exact .inr hstate
  · unfold Waits
    intro hexchange
    rw [hagrees.exchange] at hexchange
    obtain ⟨hvalue, operation, hop⟩ := h.waiting hexchange
    exact ⟨hagrees.value.trans hvalue, operation, hasked operation hop⟩
  · intro value hvalue
    rw [hagrees.value] at hvalue
    obtain ⟨hidle, ⟨operation, m, hop, hmem, hreports, hresult⟩, r, hr, hreceipt⟩ :=
      h.delivered value hvalue
    constructor
    · exact hagrees.exchange.trans hidle
    · refine ⟨operation, m, hasked operation hop, hagrees.received m hmem, ?_, hresult⟩
      constructor
      · exact hreports.kind
      · exact hreports.session.trans hagrees.epoch.symm
      · exact hreports.operation
      · exact hreports.amount.trans hagrees.iterations.symm
      · exact hreports.flags
      · rw [hagrees.iterations]
        exact hreports.value
    · exact ⟨r, hagrees.receipt.trans hr, hreceipt⟩

/-- A client without a value that waits for no operation is sound. -/
theorem sound_of_none (hvalue : c.value = none) (hexchange : ¬ c.Waits) : c.Sound := by
  constructor
  · rintro (hwaiting | hsome)
    · exact absurd hwaiting hexchange
    · rw [hvalue] at hsome
      cases hsome
  · intro hwaiting
    exact absurd hwaiting hexchange
  · intro value hsome
    rw [hvalue] at hsome
    cases hsome

/-- Only a client that waits for nothing has a value. -/
theorem Sound.value_none (h : c.Sound) (hexchange : c.exchange ≠ .idle) : c.value = none := by
  cases hvalue : c.value with
  | none => rfl
  | some value => exact absurd (h.delivered value hvalue).idle hexchange

/-! ### Closing, the clock and the log -/

private theorem agrees_close (c : Client) : Agrees c c.close := by
  have hreceipt : c.close.receipt = c.receipt := by
    simp only [receipt, close]
    cases c.operation <;> cases c.gate <;> rfl
  exact ⟨.inr rfl, rfl, rfl, rfl, rfl, hreceipt, rfl, rfl, fun _ hm ↦ hm⟩

private theorem Sound.close (h : c.Sound) : c.close.Sound := h.agree c.agrees_close

/-- What a call of `time` leaves. -/
theorem Sound.time (h : c.Sound) {now : MonotonicTime} {open' : Bool}
    (htime : c.time now = (open', c')) : c'.Sound := by
  obtain rfl : (c.time now).2 = c' := congrArg Prod.snd htime
  unfold Client.time
  split
  · exact h
  · split
    · exact h.close
    · exact h.agree ⟨.inl rfl, rfl, rfl, rfl, rfl, rfl, rfl, rfl, fun _ hm ↦ hm⟩

/-- A message is received or sent. -/
theorem Sound.note (h : c.Sound) {event : ClientEvent}
    (hevent : event.after (lastSubmitted c.log) = lastSubmitted c.log) :
    (c.note event).Sound := by
  have hlast : lastSubmitted (c.note event).log = lastSubmitted c.log := by
    simpa [Client.note] using hevent
  exact h.agree
    ⟨.inl rfl, rfl, rfl, rfl, rfl, rfl, rfl, hlast, fun _ hm ↦ List.mem_append_left _ hm⟩

/-! ### Waiting messages and evidence -/

/-- A message that is queued changes nothing of a result. -/
theorem agrees_queue {message : Message} {now : MonotonicTime} {queued : Bool}
    (h : c.queue message now = (queued, c')) : Agrees c c' := by
  obtain rfl : (c.queue message now).2 = c' := congrArg Prod.snd h
  unfold queue
  split
  · exact c.agrees_close
  · exact ⟨.inl rfl, rfl, rfl, rfl, rfl, rfl, rfl, rfl, fun _ hm ↦ hm⟩

/-- What the judgement of an observation leaves beside the gate. -/
structure Keeps (c c' : Client) : Prop where
  state : c'.state = c.state ∨ c'.state = .closed
  exchange : c'.exchange = c.exchange
  epoch : c'.epoch = c.epoch
  iterations : c'.iterations = c.iterations
  operation : c'.operation = c.operation
  value : c'.value = c.value
  log : c'.log = c.log

/-- Evidence leaves everything beside the gate. -/
theorem keeps_evidence {source : String} {now : MonotonicTime} {accepted : Bool}
    {observe : AuthorityGate → EvidenceRecord → EvidenceDisposition × AuthorityGate}
    (h : c.evidence source now observe = (accepted, c')) : Keeps c c' := by
  obtain rfl : (c.evidence source now observe).2 = c' := congrArg Prod.snd h
  unfold evidence
  split
  · exact ⟨.inr rfl, rfl, rfl, rfl, rfl, rfl, rfl⟩
  · dsimp only
    split
    · exact ⟨.inr rfl, rfl, rfl, rfl, rfl, rfl, rfl⟩
    · exact ⟨.inl rfl, rfl, rfl, rfl, rfl, rfl, rfl⟩

/-- Evidence that is accepted is accepted by the gate. -/
theorem evidence_true {source : String} {now : MonotonicTime}
    {observe : AuthorityGate → EvidenceRecord → EvidenceDisposition × AuthorityGate}
    (h : c.evidence source now observe = (true, c')) :
    ∃ gate, c.gate = some gate ∧ (observe gate ⟨source, now, c.sequence + 1⟩).1 = .accepted ∧
      c' = { c with
        sequence := c.sequence + 1
        gate := some (observe gate ⟨source, now, c.sequence + 1⟩).2 } := by
  unfold evidence at h
  split at h
  · simp at h
  · rename_i gate hgate
    dsimp only [record] at h
    split at h
    · simp at h
    · rename_i haccepted
      simp only [Prod.mk.injEq, true_and] at h
      exact ⟨gate, hgate, not_not.mp haccepted, h.symm⟩

namespace Keeps

/-- What is left alone twice is left alone. -/
theorem trans {c'' : Client} (h : Keeps c c') (h' : Keeps c' c'') : Keeps c c'' where
  state := by
    rcases h'.state with hstate | hstate
    · rw [hstate]
      exact h.state
    · exact .inr hstate
  exchange := h'.exchange.trans h.exchange
  epoch := h'.epoch.trans h.epoch
  iterations := h'.iterations.trans h.iterations
  operation := h'.operation.trans h.operation
  value := h'.value.trans h.value
  log := h'.log.trans h.log

/-- While no value is there, a client that waits goes on to be sound. -/
theorem sound (h : Keeps c c') (hsound : c.Sound) (hvalue : c.value = none) : c'.Sound := by
  constructor
  · unfold Waits
    rw [h.exchange, h.value]
    intro hbegun
    rcases h.state with hstate | hstate
    · unfold Begun
      rw [hstate]
      exact hsound.begun hbegun
    · exact .inr hstate
  · unfold Waits
    intro hexchange
    rw [h.exchange] at hexchange
    obtain ⟨-, operation, hop⟩ := hsound.waiting hexchange
    refine ⟨h.value.trans hvalue, operation, h.operation.trans hop.current, ?_, ?_⟩
    · rw [h.log, h.iterations]
      exact hop.last
    · rw [h.iterations]
      exact hop.valid
  · intro value hsome
    rw [h.value, hvalue] at hsome
    cases hsome

end Keeps

/-! ### Messages -/

/-- Before the handover no value is there, and the hello brings none. -/
theorem Sound.handleHello (h : c.Sound) (hexchange : c.exchange = .hello) (m : Message)
    (now : MonotonicTime) : (c.handleHello m now).Sound := by
  have hvalue := h.value_none (by rw [hexchange]; decide)
  unfold Client.handleHello
  split
  · exact h.close
  · dsimp only
    split
    · apply sound_of_none
      · exact hvalue
      · simp [Waits, Client.close, hexchange]
    · split
      · apply sound_of_none
        · exact hvalue
        · simp [Waits, Client.close, hexchange]
      · apply sound_of_none
        · exact hvalue
        · simp [Waits]

/-- A snapshot brings no value. -/
theorem Sound.handleSnapshot (h : c.Sound) (hexchange : c.exchange = .snapshot) (m : Message)
    (now : MonotonicTime) : (c.handleSnapshot m now).Sound := by
  have hvalue := h.value_none (by rw [hexchange]; decide)
  unfold Client.handleSnapshot
  split
  · exact h.close
  · split
    · apply sound_of_none
      · exact hvalue
      · simp [Waits]
    · split
      · exact h.close
      · unfold Client.beginRebind
        split
        · exact h.close
        · dsimp only [record]
          split
          · apply sound_of_none
            · exact hvalue
            · simp [Waits, Client.close, hexchange]
          · split
            · apply sound_of_none
              · exact hvalue
              · simp [Waits, Client.close, hexchange]
            · split
              · rename_i c' hqueue
                have hagrees := agrees_queue hqueue
                apply sound_of_none
                · exact hagrees.value.trans hvalue
                · simp [Waits, hagrees.exchange, hexchange]
              · rename_i c' hqueue
                have hagrees := agrees_queue hqueue
                apply sound_of_none
                · exact hagrees.value.trans hvalue
                · simp [Waits]

/-- An observation of the readiness leaves everything beside the gate. -/
theorem keeps_observeReadiness {candidate : BindingIdentity} {now expires : MonotonicTime}
    {kinds : List StartupEvidenceKind} {accepted : Bool}
    (h : c.observeReadiness candidate now expires kinds = (accepted, c')) : Keeps c c' := by
  induction kinds generalizing c with
  | nil =>
    cases h
    exact ⟨.inl rfl, rfl, rfl, rfl, rfl, rfl, rfl⟩
  | cons kind kinds ih =>
    unfold observeReadiness at h
    split at h
    · rename_i c₁ hevidence
      cases h
      exact keeps_evidence hevidence
    · rename_i c₁ hevidence
      exact (keeps_evidence hevidence).trans (ih h)

/-- An activation brings no value. -/
theorem Sound.handleActivation (h : c.Sound) (hexchange : c.exchange = .activation) (m : Message)
    (now : MonotonicTime) : (c.handleActivation m now).Sound := by
  have hvalue := h.value_none (by rw [hexchange]; decide)
  unfold Client.handleActivation
  split
  · exact h.close
  · split
    · exact h.close
    · split
      · rename_i c' hobserved
        have hkeeps := keeps_observeReadiness hobserved
        exact hkeeps.sound h hvalue
      · rename_i c' hobserved
        have hkeeps := keeps_observeReadiness hobserved
        have hsound := hkeeps.sound h hvalue
        unfold Client.commitRebind
        split
        · exact hsound.close
        · dsimp only
          split
          · apply sound_of_none
            · exact hkeeps.value.trans hvalue
            · simp [Waits, Client.close, hkeeps.exchange, hexchange]
          · apply sound_of_none
            · exact hkeeps.value.trans hvalue
            · simp [Waits]

/-- The disposal of a result leaves everything beside the gate. -/
theorem keeps_dispose {operation : OperationAuthority} {m : Message} {now : MonotonicTime}
    {disposed : Bool} (h : c.dispose operation m now = (disposed, c')) : Keeps c c' := by
  unfold dispose at h
  split at h
  · split at h
    · cases h
      exact ⟨.inr rfl, rfl, rfl, rfl, rfl, rfl, rfl⟩
    · exact keeps_evidence h
  · exact keeps_evidence h

/-- The output of an operation that succeeded and its settlement leave the receipt of a result. -/
theorem receipted_of_settled {c c' c'' : Client} {operation : OperationAuthority} {m : Message}
    {now : MonotonicTime} (hcurrent : c.operation = some operation) (hflags : m.flags = succeeded)
    (hdispose : c.dispose operation m now = (true, c'))
    (hsettle : (c'.evidence owner now fun gate record ↦
      gate.observeSettlement ⟨operation, settlementScope, true, record⟩) = (true, c'')) :
    c''.Receipted := by
  unfold dispose at hdispose
  rw [if_pos hflags] at hdispose
  split at hdispose
  · simp at hdispose
  · obtain ⟨gate, -, haccepted, rfl⟩ := evidence_true hdispose
    obtain ⟨gate', hgate', hsettled, rfl⟩ := evidence_true hsettle
    obtain rfl : _ = gate' := Option.some.inj hgate'
    obtain ⟨r, hr, hreceipt⟩ := AuthorityGate.receipt_of_settled rfl haccepted hsettled
    refine ⟨r, ?_, hreceipt⟩
    simpa only [receipt, hcurrent] using hr

/-- A result brings the value of an operation that succeeded. -/
theorem Sound.conclude (h : c.Sound) {operation : OperationAuthority} {m : Message}
    {now : MonotonicTime} (hwaits : c.Waits) (hasked : c.Asked operation)
    (hreceived : .received m ∈ c.log)
    (hreports : m.flags = succeeded → c.Reports operation m) :
    (c.conclude operation m now).Sound := by
  have hvalue := (h.waiting hwaits).1
  unfold Client.conclude
  split
  · rename_i c₁ hnative
    have hkeeps := keeps_evidence hnative
    exact hkeeps.sound h hvalue
  · rename_i c₁ hnative
    have hkeeps₁ := keeps_evidence hnative
    split
    · rename_i c₂ hdispose
      have hkeeps₂ := keeps_dispose hdispose
      exact (hkeeps₁.trans hkeeps₂).sound h hvalue
    · rename_i c₂ hdispose
      have hkeeps₂ := keeps_dispose hdispose
      split
      · rename_i c₃ hsettle
        have hkeeps₃ := keeps_evidence hsettle
        exact ((hkeeps₁.trans hkeeps₂).trans hkeeps₃).sound h hvalue
      · rename_i c₃ hsettle
        have hkeeps₃ := keeps_evidence hsettle
        have hkeeps := (hkeeps₁.trans hkeeps₂).trans hkeeps₃
        constructor
        · intro _
          rcases hkeeps.state with hstate | hstate
          · unfold Begun
            dsimp only
            rw [hstate]
            exact h.begun (.inl hwaits)
          · exact .inr hstate
        · intro hexchange
          simp [Waits] at hexchange
        · intro value hsome
          dsimp only at hsome
          split at hsome
          · rename_i hflags
            have hresult := hreports hflags
            have hreceipted := receipted_of_settled
              (hkeeps₁.operation.trans hasked.current) hflags hdispose hsettle
            constructor
            · rfl
            · refine ⟨operation, m, ⟨hkeeps.operation.trans hasked.current, ?_, ?_⟩, ?_, ?_,
                Option.some.inj hsome⟩
              · dsimp only
                rw [hkeeps.log, hkeeps.iterations]
                exact hasked.last
              · dsimp only
                rw [hkeeps.iterations]
                exact hasked.valid
              · dsimp only
                rw [hkeeps.log]
                exact hreceived
              · constructor
                · exact hresult.kind
                · exact hresult.session.trans hkeeps.epoch.symm
                · exact hresult.operation
                · exact hresult.amount.trans hkeeps.iterations.symm
                · exact hflags
                · dsimp only
                  rw [hkeeps.iterations]
                  exact hresult.value
            · exact hreceipted
          · rw [hkeeps.value, hvalue] at hsome
            cases hsome

/-- An answer brings a value only as the result of the last submission. -/
theorem Sound.handleOperation (h : c.Sound) {m : Message} (now : MonotonicTime)
    (hsession : m.session = c.epoch) (hreceived : .received m ∈ c.log) :
    (c.handleOperation m now).Sound := by
  unfold Client.handleOperation
  split
  · exact h.close
  · rename_i operation hcurrent
    split
    · exact h.close
    · rename_i hnamed
      rw [not_or, not_not, not_not] at hnamed
      split
      · rename_i haccepted
        obtain ⟨hvalue, other, hasked⟩ := h.waiting (.inl haccepted.1)
        split
        · rename_i c' hnative
          have hkeeps := keeps_evidence hnative
          exact hkeeps.sound h hvalue
        · rename_i c' hnative
          have hkeeps := keeps_evidence hnative
          constructor
          · intro _
            rcases hkeeps.state with hstate | hstate
            · unfold Begun
              dsimp only
              rw [hstate]
              exact h.begun (.inl (.inl haccepted.1))
            · exact .inr hstate
          · intro _
            refine ⟨hkeeps.value.trans hvalue, other, hkeeps.operation.trans hasked.current, ?_, ?_⟩
            · dsimp only
              rw [hkeeps.log, hkeeps.iterations]
              exact hasked.last
            · dsimp only
              rw [hkeeps.iterations]
              exact hasked.valid
          · intro value hsome
            dsimp only at hsome
            rw [hkeeps.value, hvalue] at hsome
            cases hsome
      · split
        · exact h.close
        · rename_i hresult
          simp only [refuses, not_or, not_and, not_not] at hresult
          obtain ⟨hkind, hwaits, -, -, -, hvalues⟩ := hresult
          have hwaiting : c.Waits := by
            by_cases hexchange : c.exchange = .result
            · exact .inr hexchange
            · exact .inl (Classical.not_imp.mp (hwaits hexchange)).1
          obtain ⟨-, other, hasked⟩ := h.waiting hwaiting
          obtain rfl : other = operation :=
            Option.some.inj (hasked.current.symm.trans hcurrent)
          apply h.conclude hwaiting hasked hreceived
          intro hflags
          rw [if_pos hflags, not_not] at hvalues
          exact ⟨hkind, hsession, hnamed.1, hnamed.2, hflags, hvalues⟩

/-- A message that is received brings a value only as the result of the last submission. -/
theorem Sound.handle (h : c.Sound) {m : Message} (now : MonotonicTime)
    (hreceived : .received m ∈ c.log) : (c.handle m now).Sound := by
  unfold Client.handle
  split
  · exact h.handleHello (by assumption) m now
  · split
    · exact h.close
    · rename_i hnamed
      rw [not_or, not_not, not_not] at hnamed
      split
      · exact h.handleSnapshot (by assumption) m now
      · split
        · exact h.handleActivation (by assumption) m now
        · exact h.handleOperation now hnamed.1 hreceived

/-! ### Calls -/

private theorem Sound.listen (h : c.Sound) (now : MonotonicTime) (answer : ReceiveAnswer) :
    (c.listen now answer).Sound := by
  unfold Client.listen
  split
  · exact h.close
  · split
    · exact h.close
    · exact h
    · rename_i incoming _
      have hnoted : (c.note (.received incoming)).Sound := h.note rfl
      apply hnoted.handle
      simp [Client.note]

private theorem Sound.poll (h : c.Sound) (now : MonotonicTime) (answer : ClientAnswer) :
    (c.poll now answer).Sound := by
  unfold Client.poll
  split
  · exact h.time (by assumption)
  · rename_i c' htime
    have hsound := h.time htime
    split
    · exact hsound.listen now answer.receive
    · rename_i message _
      split
      · exact hsound.close
      · split
        · exact hsound.close
        · exact hsound
        · apply Sound.listen
          have hsent : ({ c' with pending := none } : Client).Sound := hsound.agree
            ⟨.inl rfl, rfl, rfl, rfl, rfl, rfl, rfl, rfl, fun _ hm ↦ hm⟩
          exact hsent.note rfl

/-- A recovery begins before the client has become ready. -/
theorem Sound.recover (h : c.Sound) (now : MonotonicTime) : (c.recover now).2.Sound := by
  unfold Client.recover
  split
  · exact h.time (by assumption)
  · rename_i c₁ htime
    have hsound := h.time htime
    split
    · exact hsound
    · rename_i hidle
      rw [not_or, not_not, not_not] at hidle
      split
      · rename_i c₂ hqueue
        exact hsound.agree (agrees_queue hqueue)
      · rename_i c₂ hqueue
        have hagrees := agrees_queue hqueue
        apply sound_of_none
        · dsimp only
          rw [hagrees.value]
          cases hvalue : c₁.value with
          | none => rfl
          | some value =>
            rcases hsound.begun (.inr (by rw [hvalue]; rfl)) with hstate | hstate
            · rw [hidle.1] at hstate
              cases hstate
            · rw [hidle.1] at hstate
              cases hstate
        · simp [Waits]

/-- A submission that is dispatched is waited for, and the value before it is gone. -/
theorem sound_dispatch (hready : c.state = .ready) (hidle : c.exchange = .idle)
    (operation : OperationAuthority) {iterations : UInt64} (hvalid : iterations ≤ maximumIterations)
    (now : MonotonicTime) : (c.dispatch operation iterations now).2.Sound := by
  unfold Client.dispatch
  dsimp only
  split
  · apply sound_of_none
    · rfl
    · simp [Waits, Client.close, hidle]
  · apply sound_of_none
    · rfl
    · simp [Waits, Client.close, hidle]
  · split
    · rename_i c' hqueue
      have hagrees := agrees_queue hqueue
      apply sound_of_none
      · exact hagrees.value
      · simp [Waits, hagrees.exchange, hidle]
    · rename_i c' hqueue
      have hagrees := agrees_queue hqueue
      constructor
      · intro _
        rcases hagrees.state with hstate | hstate
        · exact .inl (hstate.trans hready)
        · exact .inr hstate
      · intro _
        refine ⟨hagrees.value, operation, hagrees.operation, ?_, ?_⟩
        · have hiterations : c'.iterations = iterations := hagrees.iterations
          show lastSubmitted (c'.log ++ [.submitted operation.operationId iterations]) =
            some (operation.operationId, c'.iterations)
          rw [lastSubmitted_append, hiterations]
          rfl
        · exact hagrees.iterations.trans_le hvalid
      · intro value hsome
        simp only [note] at hsome
        rw [hagrees.value] at hsome
        cases hsome

/-- A submission takes the place of the one before it once it is admitted. -/
theorem Sound.submit (h : c.Sound) (iterations : UInt64) (now : MonotonicTime) :
    (c.submit iterations now).2.Sound := by
  unfold Client.submit
  split
  · exact h.time (by assumption)
  · rename_i c₁ htime
    have hsound := h.time htime
    split
    · exact hsound
    · rename_i hguard
      simp only [not_or, not_not, not_lt] at hguard
      obtain ⟨hready, hidle, -, hvalid⟩ := hguard
      split
      · exact hsound
      · rename_i decision gate hadmit
        obtain ⟨old, hold, hanswer⟩ := Option.map_eq_some_iff.mp hadmit
        have hcases := old.admitRequest_cases (c₁.request now)
        rw [hanswer] at hcases
        have hrefused : decision.status ≠ .admitted ∨ decision.authority = none →
            ({ c₁ with gate := some gate } : Client).Sound := by
          intro hnone
          rcases hcases with hsame | hadmitted
          · obtain rfl : gate = old := hsame
            apply hsound.agree
            refine ⟨.inl rfl, rfl, rfl, rfl, rfl, ?_, rfl, rfl, fun _ hm ↦ hm⟩
            simp only [receipt, hold]
          · obtain rfl : decision = _ := hadmitted
            simp at hnone
        split
        · exact hrefused (.inr (by assumption))
        · dsimp only
          split
          · exact hrefused (.inl (by assumption))
          · exact sound_dispatch (c := { c₁ with gate := some gate }) hready hidle _ hvalid now

/-- Every call keeps what a result rests on. -/
theorem Sound.step (h : c.Sound) (i : ClientInput) : (c.step i).2.Sound := by
  cases i with
  | poll now answer => exact h.poll now answer
  | recover now => exact h.recover now
  | submit iterations now => exact h.submit iterations now
  | close => exact h.close

/-- A new client is sound. -/
theorem sound_create (now : MonotonicTime) : (create now).Sound :=
  sound_of_none rfl (by simp [Waits, create])

end Client

end Recovery

end RobotHarness
