import RobotHarness.Compute.Exact
import RobotHarness.Core.Operation
import RobotHarness.Recovery.Protocol

/-!
# The client of recovery

`Client` of `src/compute/recovery_client.cpp`, without its destructor. Its descriptor is open until
the client is closed. Beside the members of the source the client keeps a log of the submissions
that it starts and of the messages that it sends and receives.
-/

namespace RobotHarness.Recovery

/-- `kOwner`. -/
def owner : String := "recovery-owner"

/-- `kSink`. -/
def sink : String := "recovery-sink"

/-- `kScope`. -/
def scope : String := "supervised-compute-domain"

/-- `kCapability`. -/
def capability : String := "compute.periodic-square-sum"

/-- The scope that the client settles. -/
def settlementScope : String := "owned-child-output-and-channels"

/-- `gate_config`. -/
def gateConfig (priorSession : UInt64) (now : MonotonicTime) : AuthorityGateConfig :=
  { binding := ⟨owner, scope, 1, priorSession⟩
    capabilityId := capability
    bindingObserver := owner
    workerObserver := owner
    resultSinkObserver := sink
    nativeEvidenceSource := owner
    settlementEvidenceSource := owner
    settlementScope := settlementScope
    readinessKind := .adapterReady
    startedAt := now }

/-- `empty_payload`. -/
def emptyPayload (m : Message) : Prop :=
  m.operation = 0 ∧ m.amount = 0 ∧ m.value = 0 ∧ m.flags = 0
  deriving Decidable

/-- The phases of a client. -/
inductive ClientState where
  | connecting | blocked | recovering | ready | closed
  deriving DecidableEq, Repr

/-- Where a client stands in the exchange with its owner. -/
inductive Exchange where
  | hello | idle | snapshot | activation | acceptance | result
  deriving DecidableEq, Repr

/-- What the client does outside. -/
inductive ClientEvent where
  | submitted (operation iterations : UInt64)
  | sent (message : Message)
  | received (message : Message)

/-- `Client::Impl`. -/
structure Client where
  state : ClientState := .connecting
  exchange : Exchange := .hello
  lastTime : MonotonicTime
  issuedAt : MonotonicTime
  queuedAt : MonotonicTime := 0
  queryAt : MonotonicTime := 0
  epoch : UInt64 := 0
  nonce : UInt64 := 0
  token : UInt64 := 0
  sequence : UInt64 := 0
  iterations : UInt64 := 0
  gate : Option AuthorityGate := none
  candidate : Option BindingIdentity := none
  operation : Option OperationAuthority := none
  pending : Option Message := none
  value : Option UInt64 := none
  /-- What the client did outside, oldest first. -/
  log : List ClientEvent := []

/-- What a poll of the client meets: the answer to its send, and the next datagram. -/
structure ClientAnswer where
  send : SendAnswer
  receive : ReceiveAnswer

/-- `native_id`. -/
def nativeId (epoch operation : UInt64) : String :=
  "session-" ++ toString epoch ++ "-op-" ++ toString operation

/-- `opaque_request_reference`. -/
def requestReference (nonce : UInt64) : String := "prototype-" ++ toString (nonce + 1)

/-- The native event that a result reports. -/
def outcome (flags : UInt64) : NativeEventKind :=
  if flags = succeeded then .terminalSucceeded
  else if flags = cancelled then .terminalCancelled
  else if flags = notLaunched then .rejected
  else .terminalFailed

/-- `fresh`. -/
def fresh (start now : MonotonicTime) : Prop := start ≤ now ∧ now - start < evidenceLifetimeMs
  deriving Decidable

namespace Client

/-- The client that the constructor leaves. -/
def create (now : MonotonicTime) : Client := { lastTime := now, issuedAt := now }

/-- An entry of the log. -/
def note (c : Client) (event : ClientEvent) : Client := { c with log := c.log ++ [event] }

/-- `close`. -/
def close (c : Client) : Client :=
  { c with
    state := .closed
    gate := c.gate.map AuthorityGate.closeAdmission
    pending := none }

/-- `time`. -/
def time (c : Client) (now : MonotonicTime) : Bool × Client :=
  if c.state = .closed then (false, c)
  else if now < c.lastTime then (false, c.close)
  else (true, { c with lastTime := now })

/-- `queue`. -/
def queue (c : Client) (message : Message) (now : MonotonicTime) : Bool × Client :=
  if c.pending.isSome ∨ c.nonce = 0xFFFFFFFFFFFFFFFF then (false, c.close)
  else
    (true,
      { c with
        nonce := c.nonce + 1
        pending := some { message with session := c.epoch, request := c.nonce + 1 }
        queuedAt := now
        issuedAt := now })

/-- `record`. -/
def record (c : Client) (source : String) (now : MonotonicTime) : EvidenceRecord × Client :=
  (⟨source, now, c.sequence + 1⟩, { c with sequence := c.sequence + 1 })

/-- `evidence`, with the observation that it judges. There is a gate once the exchange has begun. -/
def evidence (c : Client) (source : String) (now : MonotonicTime)
    (observe : AuthorityGate → EvidenceRecord → EvidenceDisposition × AuthorityGate) :
    Bool × Client :=
  match c.gate with
  | none => (false, c.close)
  | some gate =>
    let (record, c) := c.record source now
    let (disposition, gate) := observe gate record
    let c := { c with gate := some gate }
    if disposition ≠ .accepted then (false, c.close) else (true, c)

/-- `handle` of a hello. -/
def handleHello (c : Client) (m : Message) (now : MonotonicTime) : Client :=
  if m.kind ≠ .hello ∨ m.session < 2 ∨ m.request ≠ 0 ∨ ¬ emptyPayload m then c.close
  else
    let c := { c with epoch := m.session }
    let config := gateConfig (c.epoch - 1) now
    match AuthorityGate.create config with
    | .error _ => c.close
    | .ok gate =>
      let (decision, gate) := gate.withdrawBinding config.binding now
      let c := { c with gate := some gate }
      if decision.status ≠ .applied then c.close
      else { c with state := .blocked, exchange := .idle }

/-- `handle` of a snapshot that is clear. -/
def beginRebind (c : Client) (m : Message) (now : MonotonicTime) : Client :=
  match c.gate with
  | none => c.close
  | some gate =>
    let expires := c.queryAt + evidenceLifetimeMs
    let old := (gate.bindingStatus now).active
    let (record, c) := c.record owner now
    let closure : BindingReadinessEvidence := ⟨.bindingIdleAndSettled, old, record, true, expires⟩
    let (decision, gate) := gate.beginRebind old owner closure now
    let c := { c with gate := some gate }
    match decision.candidate with
    | none => c.close
    | some candidate =>
      if decision.status ≠ .applied ∨ candidate.providerGeneration ≠ c.epoch then c.close
      else
        let c := { c with candidate := some candidate, token := m.request }
        match c.queue { kind := .activate, value := m.request } now with
        | (false, c) => c
        | (true, c) => { c with exchange := .activation }

/-- `handle` of a snapshot. -/
def handleSnapshot (c : Client) (m : Message) (now : MonotonicTime) : Client :=
  if m.kind ≠ .snapshot ∨ m.operation ≠ 0 ∨ m.amount ≠ 0 ∨ m.value ≠ 0 ∨
      (m.flags ≠ 0 ∧ m.flags ≠ clearFlag) ∨ ¬ fresh c.queryAt now then
    c.close
  else if m.flags = 0 then { c with state := .blocked, exchange := .idle }
  else if 0xFFFFFFFFFFFFFFFF - evidenceLifetimeMs < c.queryAt then c.close
  else c.beginRebind m now

/-- The readiness that an activation re-observes. -/
def readinessKinds : List StartupEvidenceKind :=
  [.bindingIdleAndSettled, .adapterReady, .resultSinkReady]

/-- The loop of `handle` over the kinds of readiness. -/
def observeReadiness (c : Client) (candidate : BindingIdentity) (now expires : MonotonicTime) :
    List StartupEvidenceKind → Bool × Client
  | [] => (true, c)
  | kind :: kinds =>
    match c.evidence (if kind = .resultSinkReady then sink else owner) now fun gate record ↦
        gate.observeRebindReadiness ⟨kind, candidate, record, true, expires⟩ with
    | (false, c) => (false, c)
    | (true, c) => c.observeReadiness candidate now expires kinds

/-- `handle` of an activation: `commit_rebind`. -/
def commitRebind (c : Client) (candidate : BindingIdentity) (now : MonotonicTime) : Client :=
  match c.gate with
  | none => c.close
  | some gate =>
    let (decision, gate) := gate.commitRebind candidate now
    let c := { c with gate := some gate }
    if decision.status ≠ .applied then c.close
    else { c with state := .ready, exchange := .idle }

/-- `handle` of an activation. -/
def handleActivation (c : Client) (m : Message) (now : MonotonicTime) : Client :=
  match c.candidate with
  | none => c.close
  | some candidate =>
    if m.kind ≠ .activated ∨ m.value ≠ c.token ∨ m.operation ≠ 0 ∨ m.amount ≠ 0 ∨ m.flags ≠ 0 ∨
        ¬ fresh c.queryAt now then
      c.close
    else
      match c.observeReadiness candidate now (c.queryAt + evidenceLifetimeMs) readinessKinds with
      | (false, c) => c
      | (true, c) => c.commitRebind candidate now

/-- The output of an operation that has ended. -/
def dispose (c : Client) (operation : OperationAuthority) (m : Message) (now : MonotonicTime) :
    Bool × Client :=
  if m.flags = succeeded then
    if ¬ ∃ gate ∈ c.gate, gate.canDeliverResult operation then (false, c.close)
    else
      c.evidence sink now fun gate record ↦
        gate.observeOutputAccepted ⟨operation, nativeId c.epoch m.operation, record⟩
  else
    c.evidence owner now fun gate record ↦
      gate.observeOutputNotDelivered ⟨operation, .noOutputProduced, "", record⟩

/-- `handle` of a result that passes its checks. -/
def conclude (c : Client) (operation : OperationAuthority) (m : Message) (now : MonotonicTime) :
    Client :=
  match c.evidence owner now fun gate record ↦
      gate.observeNative ⟨operation, nativeId c.epoch m.operation, outcome m.flags, record⟩ with
  | (false, c) => c
  | (true, c) =>
    match c.dispose operation m now with
    | (false, c) => c
    | (true, c) =>
      match c.evidence owner now fun gate record ↦
          gate.observeSettlement ⟨operation, settlementScope, true, record⟩ with
      | (false, c) => c
      | (true, c) =>
        { c with
          value := if m.flags = succeeded then some m.value else c.value
          exchange := .idle }

/-- What `handle` refuses as a result. -/
def refuses (c : Client) (m : Message) : Prop :=
  m.kind ≠ .result ∨
    (c.exchange ≠ .result ∧ ¬ (c.exchange = .acceptance ∧ m.flags = notLaunched)) ∨
    m.flags < succeeded ∨ notLaunched < m.flags ∨
    (c.exchange = .result ∧ m.flags = notLaunched) ∨
    (if m.flags = succeeded then m.value ≠ expectedSum c.iterations else m.value ≠ 0)
  deriving Decidable

/-- `handle` of an answer to a submission. -/
def handleOperation (c : Client) (m : Message) (now : MonotonicTime) : Client :=
  match c.operation with
  | none => c.close
  | some operation =>
    if m.operation ≠ operation.operationId ∨ m.amount ≠ c.iterations then c.close
    else if c.exchange = .acceptance ∧ m.kind = .accepted ∧ m.flags = 0 ∧ m.value = 0 then
      match c.evidence owner now fun gate record ↦
          gate.observeNative ⟨operation, nativeId c.epoch m.operation, .accepted, record⟩ with
      | (false, c) => c
      | (true, c) => { c with exchange := .result }
    else if c.refuses m then c.close
    else c.conclude operation m now

/-- `handle`. -/
def handle (c : Client) (m : Message) (now : MonotonicTime) : Client :=
  if c.exchange = .hello then c.handleHello m now
  else if m.session ≠ c.epoch ∨ m.request ≠ c.nonce then c.close
  else if c.exchange = .snapshot then c.handleSnapshot m now
  else if c.exchange = .activation then c.handleActivation m now
  else c.handleOperation m now

/-- `poll`, after nothing waits to be sent. -/
def listen (c : Client) (now : MonotonicTime) (answer : ReceiveAnswer) : Client :=
  if c.exchange ≠ .idle ∧ c.exchange ≠ .result ∧ ¬ fresh c.issuedAt now then c.close
  else
    match receiveMessage answer with
    | (.closed, _) => c.close
    | (.again, _) => c
    | (.done, incoming) => (c.note (.received incoming)).handle incoming now

/-- `poll`. -/
def poll (c : Client) (now : MonotonicTime) (answer : ClientAnswer) : Client :=
  match c.time now with
  | (false, c) => c
  | (true, c) =>
    match c.pending with
    | none => c.listen now answer.receive
    | some message =>
      if ¬ fresh c.queuedAt now then c.close
      else
        match sendMessage answer.send with
        | .closed => c.close
        | .again => c
        | .done => ({ c with pending := none }.note (.sent message)).listen now answer.receive

/-- `recover`. -/
def recover (c : Client) (now : MonotonicTime) : Bool × Client :=
  match c.time now with
  | (false, c) => (false, c)
  | (true, c) =>
    if c.state ≠ .blocked ∨ c.exchange ≠ .idle then (false, c)
    else
      match c.queue { kind := .query } now with
      | (false, c) => (false, c)
      | (true, c) => (true, { c with queryAt := now, exchange := .snapshot, state := .recovering })

/-- The request of a submission. -/
def request (c : Client) (now : MonotonicTime) : OperationRequest :=
  { capabilityId := capability
    effectDomain := scope
    opaqueRequestReference := requestReference c.nonce
    targetReference := sink
    requestedAt := now }

/-- `submit` of an operation that was admitted. -/
def dispatch (c : Client) (operation : OperationAuthority) (iterations : UInt64)
    (now : MonotonicTime) : Bool × Client :=
  let c := { c with operation := some operation, iterations := iterations, value := none }
  match c.gate.map (·.claimDispatch operation now) with
  | none | some (false, _) => (false, c.close)
  | some (true, gate) =>
    let c := { c with gate := some gate }
    match c.queue { kind := .submit, operation := operation.operationId, amount := iterations }
        now with
    | (false, c) => (false, c)
    | (true, c) =>
      (true,
        { c with exchange := .acceptance }.note (.submitted operation.operationId iterations))

/-- `submit`. -/
def submit (c : Client) (iterations : UInt64) (now : MonotonicTime) : Bool × Client :=
  match c.time now with
  | (false, c) => (false, c)
  | (true, c) =>
    if c.state ≠ .ready ∨ c.exchange ≠ .idle ∨ iterations = 0 ∨
        maximumIterations < iterations then
      (false, c)
    else
      match c.gate.map (·.admitRequest (c.request now)) with
      | none => (false, c)
      | some (decision, gate) =>
        let c := { c with gate := some gate }
        match decision.authority with
        | none => (false, c)
        | some operation =>
          if decision.status ≠ .admitted then (false, c) else c.dispatch operation iterations now

/-- `receipt`. -/
def receipt (c : Client) : Option OperationReceipt :=
  match c.operation, c.gate with
  | some operation, some gate => gate.receipt operation
  | _, _ => none

end Client

/-- A call of the client. -/
inductive ClientInput where
  | poll (now : MonotonicTime) (answer : ClientAnswer)
  | recover (now : MonotonicTime)
  | submit (iterations : UInt64) (now : MonotonicTime)
  | close

/-- One call, and its answer. -/
def Client.step (c : Client) : ClientInput → Bool × Client
  | .poll now answer => (false, c.poll now answer)
  | .recover now => c.recover now
  | .submit iterations now => c.submit iterations now
  | .close => (false, c.close)

end RobotHarness.Recovery
