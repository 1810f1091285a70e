import RobotHarness.Recovery.System

/-!
# From a submission to its result

What a client receives was sent by the owner in the session of its channel. A value that a client
reports is therefore that of a worker which the owner launched for the submission in that session,
once, and gave up as completed before it sent the result.
-/

namespace RobotHarness.Recovery

open Compute (ComputeProcess ProcessObservation)

namespace Owner

/-! ### What a call adds to the log -/

/-- The log goes on, and what is sent is sent in the session. -/
def Extends (o o' : Owner) : Prop :=
  o'.epoch = o.epoch ∧ ∃ news, o'.log = o.log ++ news ∧
    ∀ session message, .sent session message ∈ news → session = o.epoch

variable {o o' o'' : Owner}

namespace Extends

private theorem refl (o : Owner) : Extends o o := by
  refine ⟨rfl, [], by simp, ?_⟩
  intro session message hmem
  simp at hmem

private theorem trans (h : Extends o o') (h' : Extends o' o'') : Extends o o'' := by
  obtain ⟨hepoch, news, hlog, hsent⟩ := h
  obtain ⟨hepoch', news', hlog', hsent'⟩ := h'
  refine ⟨hepoch'.trans hepoch, news ++ news', by rw [hlog', hlog, List.append_assoc], ?_⟩
  intro session message hmem
  rcases List.mem_append.mp hmem with hmem | hmem
  · exact hsent session message hmem
  · exact (hsent' session message hmem).trans hepoch

/-- A call that leaves session and log. -/
theorem of_eq (hepoch : o'.epoch = o.epoch) (hlog : o'.log = o.log) : Extends o o' := by
  refine ⟨hepoch, [], by simp [hlog], ?_⟩
  intro session message hmem
  simp at hmem

/-- An entry of the log. -/
theorem note (o : Owner) {event : OwnerEvent}
    (h : ∀ session message, event = .sent session message → session = o.epoch) :
    Extends o (o.note event) := by
  refine ⟨rfl, [event], rfl, ?_⟩
  intro session message hmem
  exact h session message (List.mem_singleton.mp hmem).symm

end Extends

private theorem extends_disconnect (o : Owner) (now : UInt64) (answer : DisconnectAnswer) :
    Extends o (o.disconnect now answer) := .of_eq rfl rfl

private theorem extends_fail (o : Owner) (now : UInt64) (answer : DisconnectAnswer) :
    Extends o (o.fail now answer) := .of_eq rfl rfl

private theorem extends_readClock (o : Owner) (now : UInt64) (answer : DisconnectAnswer) :
    Extends o (o.readClock now answer) := by
  unfold readClock
  split
  · exact o.extends_fail _ _
  · exact .of_eq rfl rfl

private theorem extends_retire (o : Owner) (process : ComputeProcess) :
    Extends o (o.retire process) := by
  have hnote : Extends o
      (({ o with lastObservation := process.observation, process := none } : Owner).note
        (.retired process)) := by
    have hended : Extends o { o with lastObservation := process.observation, process := none } :=
      .of_eq rfl rfl
    apply hended.trans
    apply Extends.note
    intro session message hevent
    cases hevent
  unfold retire
  dsimp only
  split
  · exact hnote
  · exact hnote.trans (.of_eq rfl rfl)

private theorem extends_observeNative (o : Owner) (now : UInt64) (answer : OwnerAnswer) :
    Extends o (o.observeNative now answer) := by
  unfold observeNative
  cases o.process with
  | none => exact .refl o
  | some process =>
    dsimp only
    have hchecked : ∀ (p : Prop) [Decidable p],
        Extends o (if p then
          ({ o with process := some (process.poll now answer.process) } : Owner).fail now
            answer.disconnect
        else { o with process := some (process.poll now answer.process) }) := by
      intro p _
      split
      · exact .of_eq rfl rfl
      · exact .of_eq rfl rfl
    split
    · exact hchecked _
    · split
      · exact (hchecked _).trans (.of_eq rfl rfl)
      · exact (hchecked _).trans (Extends.trans (.of_eq rfl rfl) (extends_retire _ _))

private theorem extends_queueResult (o : Owner) (now : UInt64) : Extends o (o.queueResult now) := by
  unfold queueResult
  split
  · exact .of_eq rfl rfl
  · exact .refl o

private theorem extends_flush (o : Owner) (now : UInt64) (answer : OwnerAnswer) :
    Extends o (o.flush now answer) := by
  unfold flush
  split
  · exact .refl o
  split
  · exact o.extends_disconnect _ _
  cases sendMessage answer.send with
  | closed => exact o.extends_disconnect _ _
  | again => exact .refl o
  | done =>
    have hnote : Extends o (o.note (.sent o.epoch o.pending)) := by
      apply Extends.note
      intro session message hevent
      cases hevent
      rfl
    dsimp only
    split
    · exact hnote.trans (.of_eq rfl rfl)
    · exact hnote.trans (.of_eq rfl rfl)

private theorem extends_receiveSubmit (o : Owner) (now : UInt64) (answer : OwnerAnswer)
    (message : Message) : Extends o (o.receiveSubmit now answer message) := by
  unfold receiveSubmit
  split
  · exact o.extends_fail _ _
  dsimp only
  generalize (ComputeProcess.create o.worker message.amount o.stopGraceMs).launch answer.launch =
    launched
  have hlaunched : Extends o (if launched.1 = true then
      o.note (.launched o.epoch message.operation message.amount launched.2) else o) := by
    split
    · apply Extends.note
      intro session sent hevent
      cases hevent
    · exact .refl o
  generalize (if launched.1 = true then
      o.note (.launched o.epoch message.operation message.amount launched.2) else o) = noted
    at hlaunched ⊢
  split
  · exact hlaunched.trans (.of_eq rfl rfl)
  · split
    · exact hlaunched.trans (.of_eq rfl rfl)
    · exact hlaunched.trans (.of_eq rfl rfl)

private theorem extends_receive (o : Owner) (now : UInt64) (answer : OwnerAnswer) :
    Extends o (o.receive now answer) := by
  unfold receive
  split
  · exact .refl o
  · exact o.extends_disconnect _ _
  · rename_i message _
    have hnote : Extends o (o.note (.received o.epoch now message)) := by
      apply Extends.note
      intro session sent hevent
      cases hevent
    dsimp only
    generalize o.note (.received o.epoch now message) = noted at hnote ⊢
    split
    · exact hnote.trans (noted.extends_disconnect _ _)
    split
    · refine hnote.trans ?_
      unfold receiveQuery
      dsimp only
      split
      · exact .of_eq rfl rfl
      · exact .of_eq rfl rfl
    split
    · exact hnote.trans (.of_eq rfl rfl)
    split
    · exact hnote.trans (noted.extends_receiveSubmit _ _ _)
    · exact hnote.trans (noted.extends_disconnect _ _)

private theorem extends_exchange (o : Owner) (now : UInt64) (answer : OwnerAnswer) :
    Extends o (o.exchange now answer) := by
  unfold exchange
  split
  · exact .refl o
  have hqueued := o.extends_queueResult now
  generalize o.queueResult now = queued at hqueued ⊢
  have hflushed : Extends o
      (if queued.hasPending = true then queued.flush now answer else queued) := by
    split
    · exact hqueued.trans (queued.extends_flush now answer)
    · exact hqueued
  dsimp only
  generalize (if queued.hasPending = true then queued.flush now answer else queued) = flushed
    at hflushed ⊢
  split
  · exact hflushed
  have hagain := hflushed.trans (flushed.extends_queueResult now)
  generalize flushed.queueResult now = again at hagain ⊢
  split
  · exact hagain.trans (again.extends_receive now answer)
  · exact hagain

private theorem extends_poll (o : Owner) (now : UInt64) (answer : OwnerAnswer) :
    Extends o (o.poll now answer) :=
  (o.extends_readClock now answer.disconnect).trans
    ((extends_observeNative _ _ _).trans (extends_exchange _ _ _))

/-- An attachment leaves the log. -/
theorem log_attach (o : Owner) (now : UInt64) (answer : AttachAnswer) :
    (o.attach now answer).2.log = o.log := by
  unfold attach
  split
  · dsimp only
    split
    · split <;> rfl
    · split <;> rfl
  · split
    · rfl
    · rfl

/-- An attachment that is refused leaves the session. -/
theorem epoch_attach {now : UInt64} {answer : AttachAnswer}
    (h : o.attach now answer = (false, o')) : o'.epoch = o.epoch := by
  unfold attach at h
  split at h
  · dsimp only at h
    split at h
    · split at h <;> cases h <;> rfl
    · split at h <;> cases h <;> rfl
  · split at h
    · cases h
      rfl
    · cases h

end Owner

namespace Client

variable {c c' : Client}

private theorem log_time {now : MonotonicTime} {opened : Bool} (h : c.time now = (opened, c')) :
    c'.log = c.log := by
  obtain rfl : (c.time now).2 = c' := congrArg Prod.snd h
  unfold Client.time
  split
  · rfl
  · split <;> rfl

private theorem log_queue {message : Message} {now : MonotonicTime} {queued : Bool}
    (h : c.queue message now = (queued, c')) : c'.log = c.log := by
  obtain rfl : (c.queue message now).2 = c' := congrArg Prod.snd h
  unfold queue
  split <;> rfl

private theorem log_conclude (c : Client) (operation : OperationAuthority) (m : Message)
    (now : MonotonicTime) : (c.conclude operation m now).log = c.log := by
  unfold conclude
  split
  · exact (keeps_evidence (by assumption)).log
  · rename_i c₁ hnative
    have hkeeps := keeps_evidence hnative
    split
    · exact (hkeeps.trans (keeps_dispose (by assumption))).log
    · rename_i c₂ hdispose
      have hkeeps' := hkeeps.trans (keeps_dispose hdispose)
      split
      · exact (hkeeps'.trans (keeps_evidence (by assumption))).log
      · rename_i hsettle
        exact (hkeeps'.trans (keeps_evidence hsettle)).log

/-- What a message brings is no entry of the log. -/
theorem log_handle (c : Client) (m : Message) (now : MonotonicTime) :
    (c.handle m now).log = c.log := by
  unfold handle
  split
  · unfold handleHello
    split
    · rfl
    · dsimp only
      split
      · rfl
      · split <;> rfl
  split
  · rfl
  split
  · unfold handleSnapshot
    split
    · rfl
    split
    · rfl
    split
    · rfl
    unfold beginRebind
    split
    · rfl
    dsimp only [record]
    split
    · rfl
    split
    · rfl
    split
    · rename_i hqueue
      have hlog := log_queue hqueue
      exact hlog
    · rename_i hqueue
      have hlog := log_queue hqueue
      exact hlog
  split
  · unfold handleActivation
    split
    · rfl
    split
    · rfl
    split
    · exact (keeps_observeReadiness (by assumption)).log
    · rename_i hobserved
      have hlog := (keeps_observeReadiness hobserved).log
      unfold commitRebind
      split
      · exact hlog
      · dsimp only
        split
        · exact hlog
        · exact hlog
  unfold handleOperation
  split
  · rfl
  split
  · rfl
  split
  · split
    · exact (keeps_evidence (by assumption)).log
    · rename_i hnative
      exact (keeps_evidence hnative).log
  split
  · rfl
  · exact c.log_conclude _ _ _

/-- What a call can add to the log: what is received is what the next datagram holds. -/
def Adds (c c' : Client) (input : ClientInput) : Prop :=
  ∃ news, c'.log = c.log ++ news ∧ ∀ message, .received message ∈ news →
    ∃ now answer, input = .poll now answer ∧ receiveMessage answer.receive = (.done, message)

private theorem Adds.of_eq {input : ClientInput} (h : c'.log = c.log) : Adds c c' input := by
  refine ⟨[], by simp [h], ?_⟩
  intro message hmem
  simp at hmem

private theorem adds_listen (hlog : ∃ news, c'.log = c.log ++ news ∧
      ∀ message, ClientEvent.received message ∉ news)
    (now : MonotonicTime) (answer : ClientAnswer) :
    Adds c (c'.listen now answer.receive) (.poll now answer) := by
  obtain ⟨news, hnews, hnone⟩ := hlog
  have hkept : Adds c c' (.poll now answer) :=
    ⟨news, hnews, fun message hmem ↦ absurd hmem (hnone message)⟩
  unfold listen
  split
  · exact hkept
  · split
    · exact hkept
    · exact hkept
    · rename_i incoming hreceived
      refine ⟨news ++ [.received incoming], ?_, ?_⟩
      · rw [log_handle]
        show c'.log ++ [.received incoming] = _
        rw [hnews, List.append_assoc]
      · intro message hmem
        rcases List.mem_append.mp hmem with hmem | hmem
        · exact absurd hmem (hnone message)
        · cases List.mem_singleton.mp hmem
          exact ⟨now, answer, rfl, hreceived⟩

private theorem adds_poll (c : Client) (now : MonotonicTime) (answer : ClientAnswer) :
    Adds c (c.poll now answer) (.poll now answer) := by
  unfold poll
  split
  · exact .of_eq (log_time (by assumption))
  · rename_i c₁ htime
    have hlog := log_time htime
    split
    · exact adds_listen ⟨[], by simp [hlog], by simp⟩ now answer
    · rename_i message _
      split
      · exact .of_eq hlog
      · split
        · exact .of_eq hlog
        · exact .of_eq hlog
        · apply adds_listen
          refine ⟨[.sent message], ?_, by simp⟩
          show c₁.log ++ [.sent message] = _
          rw [hlog]

private theorem adds_submit (c : Client) (iterations : UInt64) (now : MonotonicTime) :
    Adds c (c.submit iterations now).2 (.submit iterations now) := by
  unfold submit
  split
  · exact .of_eq (log_time (by assumption))
  · rename_i c₁ htime
    have hlog := log_time htime
    split
    · exact .of_eq hlog
    split
    · exact .of_eq hlog
    · dsimp only
      split
      · exact .of_eq hlog
      · rename_i operation _
        split
        · exact .of_eq hlog
        · unfold dispatch
          dsimp only
          split
          · exact .of_eq hlog
          · exact .of_eq hlog
          · split
            · rename_i hqueue
              exact .of_eq ((log_queue hqueue).trans hlog)
            · rename_i c₂ hqueue
              have hqueued := log_queue hqueue
              refine ⟨[.submitted operation.operationId iterations], ?_, by simp⟩
              show c₂.log ++ [.submitted operation.operationId iterations] = _
              rw [hqueued, hlog]

private theorem adds_step (c : Client) (input : ClientInput) : Adds c (c.step input).2 input := by
  cases input with
  | poll now answer => exact c.adds_poll now answer
  | recover now =>
    apply Adds.of_eq
    show (c.recover now).2.log = c.log
    unfold recover
    split
    · exact log_time (by assumption)
    · rename_i c₁ htime
      have hlog := log_time htime
      split
      · exact hlog
      · split
        · rename_i hqueue
          exact (log_queue hqueue).trans hlog
        · rename_i hqueue
          exact (log_queue hqueue).trans hlog
  | submit iterations now => exact c.adds_submit iterations now
  | close => exact .of_eq rfl

end Client

namespace Link

/-- The message was sent by the owner in the session of the channel. -/
def SentOn (link : Link) (log : List OwnerEvent) (message : Message) : Prop :=
  ∃ session, link.session = some session ∧ .sent session message ∈ log

/-- What holds of a channel in every run, with the log of its owner. -/
structure Sound (link : Link) (log : List OwnerEvent) : Prop where
  client : ∀ c, link.client = some c → c.Sound
  queued : ∀ message ∈ link.toClient, link.SentOn log message
  received : ∀ c, link.client = some c → ∀ message, .received message ∈ c.log →
    link.SentOn log message

variable {link : Link} {log news : List OwnerEvent}

/-- A channel that was never used is sound. -/
theorem sound_empty : ({} : Link).Sound log := by
  constructor
  · intro c hclient
    cases hclient
  · intro message hmem
    cases hmem
  · intro c hclient
    cases hclient

/-- A channel is sound as its owner goes on. -/
theorem Sound.append (h : link.Sound log) : link.Sound (log ++ news) := by
  have hsent : ∀ message, link.SentOn log message → link.SentOn (log ++ news) message := by
    rintro message ⟨session, hsession, hmem⟩
    exact ⟨session, hsession, List.mem_append_left news hmem⟩
  constructor
  · exact h.client
  · intro message hmem
    exact hsent message (h.queued message hmem)
  · intro c hclient message hmem
    exact hsent message (h.received c hclient message hmem)

/-- A channel gets a new client. -/
theorem Sound.opened (h : link.Sound log) (now : MonotonicTime) :
    ({ link with client := some (.create now) } : Link).Sound log := by
  constructor
  · intro c hclient
    obtain rfl : Client.create now = c := Option.some.inj hclient
    exact Client.sound_create now
  · exact h.queued
  · intro c hclient message hmem
    obtain rfl : Client.create now = c := Option.some.inj hclient
    cases hmem

/-- A channel that the owner is attached to for the first time. -/
theorem Sound.attached (h : link.Sound log) (hnone : link.session = none) (session : UInt64) :
    ({ link with session := some session } : Link).Sound log := by
  have hunsent : ∀ message, ¬ link.SentOn log message := by
    rintro message ⟨other, hother, -⟩
    rw [hnone] at hother
    cases hother
  constructor
  · exact h.client
  · intro message hmem
    exact absurd (h.queued message hmem) (hunsent message)
  · intro c hclient message hmem
    exact absurd (h.received c hclient message hmem) (hunsent message)

/-- A channel whose owner goes on in its session. -/
theorem Sound.served (h : link.Sound log) {session : UInt64} (hsession : link.session = some session)
    (hnews : ∀ session' message, .sent session' message ∈ news → session' = session) :
    (link.served news).Sound (log ++ news) := by
  have hkept : link.Sound (log ++ news) := h.append
  constructor
  · exact hkept.client
  · intro message hmem
    simp only [Link.served, List.mem_append, List.mem_filterMap] at hmem
    rcases hmem with hmem | ⟨event, hevent, hsent⟩
    · exact hkept.queued message hmem
    · cases event with
      | sent session' message' =>
        obtain rfl : message' = message := Option.some.inj hsent
        obtain rfl := hnews session' message' hevent
        exact ⟨session', hsession, List.mem_append_right log hevent⟩
      | received => cases hsent
      | launched => cases hsent
      | retired => cases hsent
  · exact hkept.received

/-- A channel whose client was called. -/
theorem Sound.used (h : link.Sound log) {c : Client} (hclient : link.client = some c)
    {input : ClientInput} (hinput : ∀ now answer message, input = .poll now answer →
      receiveMessage answer.receive = (.done, message) → message ∈ link.toClient) :
    (link.used (c.step input).2 ((c.step input).2.log.drop c.log.length)).Sound log := by
  obtain ⟨added, hadded, hreceived⟩ := c.adds_step input
  constructor
  · intro c' hc'
    obtain rfl : (c.step input).2 = c' := Option.some.inj hc'
    exact (h.client c hclient).step input
  · intro message hmem
    exact h.queued message (List.mem_of_mem_drop hmem)
  · intro c' hc' message hmem
    obtain rfl : (c.step input).2 = c' := Option.some.inj hc'
    rw [hadded] at hmem
    rcases List.mem_append.mp hmem with hmem | hmem
    · exact h.received c hclient message hmem
    · obtain ⟨now, answer, hpoll, hdone⟩ := hreceived message hmem
      exact h.queued message (hinput now answer message hpoll hdone)

end Link

/-- What is delivered is in the queue. -/
theorem Arrival.mem_of_done {arrival : Arrival} {queue : List Message} {message : Message}
    (h : receiveMessage (arrival.answer queue) = (.done, message)) : message ∈ queue := by
  cases arrival with
  | delivered =>
    cases queue with
    | nil => simp [Arrival.answer, receiveMessage] at h
    | cons first rest =>
      simp only [Arrival.answer, receiveMessage] at h
      obtain rfl : first = message := congrArg Prod.snd h
      exact List.mem_cons_self
  | delayed => simp [Arrival.answer, receiveMessage] at h
  | cut => simp [Arrival.answer, receiveMessage, messageBytes] at h

namespace System

/-- What holds of owner and clients in every run. -/
structure Sound (s : System) : Prop where
  owner : s.owner.Sound
  attached : ∀ link, s.attached = some link → (s.links link).session = some s.owner.epoch
  links : ∀ link, (s.links link).Sound s.owner.log

variable {s : System}

/-- A new system is sound. -/
theorem sound_initial (worker : String) (stopGraceMs : UInt64) :
    ({ owner := .create worker stopGraceMs } : System).Sound := by
  constructor
  · exact Owner.sound_create worker stopGraceMs
  · intro link hlink
    cases hlink
  · intro link
    exact Link.sound_empty

/-- One channel changes. -/
theorem sound_update {links : ℕ → Link} {log : List OwnerEvent} {link : ℕ} {changed : Link}
    (hlinks : ∀ k, (links k).Sound log) (hchanged : changed.Sound log) :
    ∀ k, (Function.update links link changed k).Sound log := by
  intro k
  by_cases hk : k = link
  · subst hk
    rwa [Function.update_self]
  · rw [Function.update_of_ne hk]
    exact hlinks k

private theorem Sound.openClient (h : s.Sound) (link : ℕ) (now : MonotonicTime) :
    (s.openClient link now).Sound := by
  unfold System.openClient
  split
  · exact h
  · constructor
    · exact h.owner
    · intro k hk
      have hsession := h.attached k hk
      by_cases hlink : k = link
      · subst hlink
        simpa using hsession
      · simpa [Function.update_of_ne hlink] using hsession
    · exact sound_update h.links ((h.links link).opened now)

private theorem Sound.attach (h : s.Sound) (link : ℕ) (now : UInt64) (answer : AttachAnswer) :
    (s.attach link now answer).2.Sound := by
  unfold System.attach
  split
  · exact h
  · rename_i hnone
    have howner := h.owner.attach now answer
    have hlog := s.owner.log_attach now answer
    split
    · rename_i o hattach
      rw [hattach] at howner hlog
      constructor
      · exact howner
      · intro k hk
        exact (h.attached k hk).trans (congrArg some (Owner.epoch_attach hattach).symm)
      · show ∀ k, (s.links k).Sound o.log
        rw [show o.log = s.owner.log from hlog]
        exact h.links
    · rename_i o hattach
      rw [hattach] at howner hlog
      constructor
      · exact howner
      · intro k hk
        obtain rfl : link = k := Option.some.inj hk
        simp
      · show ∀ k, (Function.update s.links link _ k).Sound o.log
        rw [show o.log = s.owner.log from hlog]
        exact sound_update h.links ((h.links link).attached hnone o.epoch)

private theorem Sound.pollOwner (h : s.Sound) (now : UInt64) (answer : OwnerAnswer)
    (arrival : Arrival) : (s.pollOwner now answer arrival).Sound := by
  unfold System.pollOwner
  have howner := h.owner.poll now { answer with receive := arrival.answer s.inbox }
  obtain ⟨hepoch, news, hlog, hsent⟩ :=
    s.owner.extends_poll now { answer with receive := arrival.answer s.inbox }
  generalize s.owner.poll now { answer with receive := arrival.answer s.inbox } = o
    at howner hepoch hlog
  have hlinks : ∀ k, (s.links k).Sound o.log := by
    intro k
    rw [hlog]
    exact (h.links k).append
  dsimp only
  split
  · constructor
    · exact howner
    · intro k hk
      exact (h.attached k hk).trans (congrArg some hepoch.symm)
    · exact hlinks
  · rename_i link hattached
    have hsession := h.attached link hattached
    constructor
    · exact howner
    · intro k hk
      obtain rfl : link = k := Option.some.inj (hattached.symm.trans hk)
      simpa [Link.served, hepoch] using hsession
    · apply sound_update hlinks
      have hserved := (h.links link).served hsession hsent
      rwa [hlog, List.drop_left]

private theorem Sound.call (h : s.Sound) (link : ℕ) {input : ClientInput}
    (hinput : ∀ now answer message, input = .poll now answer →
      receiveMessage answer.receive = (.done, message) → message ∈ (s.links link).toClient) :
    (s.call link input).2.Sound := by
  unfold System.call
  split
  · exact h
  · rename_i c hclient
    constructor
    · exact h.owner
    · intro k hk
      have hsession := h.attached k hk
      by_cases hlink : k = link
      · subst hlink
        simpa [Link.used] using hsession
      · simpa [Function.update_of_ne hlink] using hsession
    · exact sound_update h.links ((h.links link).used hclient hinput)

/-- Every call keeps owner and clients sound. -/
theorem Sound.step (h : s.Sound) (i : SystemInput) : (s.step i).2.Sound := by
  cases i with
  | openClient link now => exact h.openClient link now
  | attach link now answer => exact h.attach link now answer
  | pollOwner now answer arrival => exact h.pollOwner now answer arrival
  | pollClient link now send arrival =>
    apply h.call
    intro now' answer message hpoll hdone
    cases hpoll
    exact Arrival.mem_of_done hdone
  | recover link now => exact h.call link (by simp)
  | submit link iterations now => exact h.call link (by simp)
  | close link => exact h.call link (by simp)

end System

/-! ### Runs -/

/-- The event is the launch of a worker for the operation of the session. -/
def OwnerEvent.launches (session operation : UInt64) : OwnerEvent → Bool
  | .launched session' operation' _ _ => decide (session' = session ∧ operation' = operation)
  | _ => false

/-- In a fine log no operation of a session has two workers. -/
theorem launches_le_one {log : List OwnerEvent} (h : Preceded Fine log)
    (session operation : UInt64) :
    log.countP (OwnerEvent.launches session operation) ≤ 1 := by
  induction log using List.reverseRecOn with
  | nil => simp
  | append_singleton log event ih =>
    obtain ⟨hbefore, hfine⟩ := Preceded.append_singleton.mp h
    rw [List.countP_append, List.countP_singleton]
    by_cases hlaunches : event.launches session operation = true
    · cases event with
      | launched session' operation' amount process =>
        simp only [OwnerEvent.launches, decide_eq_true_eq] at hlaunches
        obtain ⟨rfl, rfl⟩ := hlaunches
        have hnone : log.countP (OwnerEvent.launches session' operation') = 0 := by
          rw [List.countP_eq_zero]
          intro other hother hsame
          cases other with
          | launched session operation amount' process' =>
            simp only [OwnerEvent.launches, decide_eq_true_eq] at hsame
            obtain ⟨rfl, rfl⟩ := hsame
            exact hfine.2.2.2 amount' process' hother
          | received => cases hsame
          | sent => cases hsame
          | retired => cases hsame
        rw [hnone]
        split <;> omega
      | received => cases hlaunches
      | sent => cases hlaunches
      | retired => cases hlaunches
    · rw [if_neg hlaunches]
      exact ih hbefore

/-- The worker of a submission ended with a value, and its result was sent after that. -/
def Worked (log : List OwnerEvent) (session operation n value : UInt64) : Prop :=
  ∃ now submit worker ended result,
    [.received session now submit, .launched session operation n worker, .retired ended,
      .sent session result].Sublist log ∧
    submit.kind = .submit ∧ submit.session = session ∧ submit.operation = operation ∧
    submit.amount = n ∧ Evolves worker ended ∧
    ended.observation.exitStatus = some (.exited 0) ∧ ended.observation.terminal = .completed ∧
    ended.observation.terminalIterations = n ∧ ended.observation.terminalValue = value ∧
    ended.observation.eventEof = true ∧ ended.observation.channelsClosed = true ∧
    result.kind = .result ∧ result.operation = operation ∧ result.flags = succeeded ∧
    result.value = value

/-- A verdict of success is on a worker that has completed. -/
theorem verdict_succeeded {observed : ProcessObservation} {amount value : UInt64}
    (h : (succeeded, value) = Owner.verdict observed amount) :
    observed.exitStatus = some (.exited 0) ∧ observed.terminal = .completed ∧
      observed.terminalIterations = amount ∧ observed.terminalValue = value := by
  unfold Owner.verdict at h
  split at h
  · rename_i code hexit
    split at h
    · rename_i hcompleted
      obtain ⟨rfl, hterminal, hiterations⟩ := hcompleted
      exact ⟨hexit, hterminal, hiterations, (congrArg Prod.snd h).symm⟩
    · split at h
      · have hflags : succeeded = cancelled := congrArg Prod.fst h
        exact absurd hflags (by decide)
      · have hflags : succeeded = failed := congrArg Prod.fst h
        exact absurd hflags (by decide)
  · have hflags : succeeded = failed := congrArg Prod.fst h
    exact absurd hflags (by decide)

/-- The result of a success that was sent is that of a worker. -/
theorem worked_of_sent {log : List OwnerEvent} (h : Preceded Fine log) {session : UInt64}
    {m : Message} (hsent : .sent session m ∈ log) (hkind : m.kind = .result)
    (hflags : m.flags = succeeded) :
    m.session = session ∧ Worked log session m.operation m.amount m.value := by
  obtain ⟨before, after, rfl⟩ := List.append_of_mem hsent
  obtain ⟨hsession, hresult⟩ := h before _ after rfl
  refine ⟨hsession, ?_⟩
  rcases hresult hkind with ⟨hnone, -⟩ |
    ⟨now, submit, worker, ended, hsublist, hanswers, hevolves, hreaped, hverdict⟩
  · rw [hflags] at hnone
    exact absurd hnone (by decide)
  · rw [hflags] at hverdict
    obtain ⟨hexit, hterminal, hiterations, hvalue⟩ := verdict_succeeded hverdict
    refine ⟨now, submit, worker, ended, m, ?_, hanswers.kind, hanswers.session,
      hanswers.operation.symm, hanswers.amount.symm, hevolves, hexit, hterminal, hiterations,
      hvalue, hreaped.2.1, hreaped.2.2, hkind, rfl, hflags, rfl⟩
    exact hsublist.append (List.singleton_sublist.mpr List.mem_cons_self)

/-- A run of owner and clients. -/
structure SystemRun where
  worker : String
  stopGraceMs : UInt64
  inputs : List SystemInput

namespace SystemRun

/-- Owner and clients at the end of a run. -/
def final (run : SystemRun) : System :=
  recoverySystem.run { owner := .create run.worker run.stopGraceMs } run.inputs

private theorem sound_final (run : SystemRun) : run.final.Sound :=
  recoverySystem.invariant_run (P := System.Sound) (fun _ i h ↦ h.step i)
    (System.sound_initial run.worker run.stopGraceMs) run.inputs

/-- In every run of owner and clients, with any interleaving of their calls, any clocks, any answers
of the operating system and workers, and channels that deliver in order until they are cut: a value
that a client reports belongs to its last submission; in the session of the client the owner
launched exactly one worker for that operation, with the iterations of the submission, collected its
exit status 0 after a stream that was completed with those iterations, met the end of the stream and
closed the channels, and only then sent the result; the value is the sum of the periodic squares;
and the receipt of the client says that the operation succeeded, that its output was accepted and
that it is settled. -/
theorem result_is_worked (run : SystemRun) (link : ℕ) (c : Client)
    (hclient : (run.final.links link).client = some c) (value : UInt64)
    (hvalue : c.value = some value) :
    ∃ operation n, lastSubmitted c.log = some (operation, n) ∧
      (run.final.links link).session = some c.epoch ∧
      Worked run.final.owner.log c.epoch operation n value ∧
      run.final.owner.log.countP (OwnerEvent.launches c.epoch operation) = 1 ∧
      value.toNat = Compute.periodicSquareSum n.toNat ∧
      ∃ receipt, c.receipt = some receipt ∧ receipt.nativeOutcome = .succeeded ∧
        receipt.output = .accepted ∧ receipt.settlement = .settled := by
  have hsound := run.sound_final
  have hlink := hsound.links link
  obtain ⟨-, ⟨operation, m, hasked, hreceived, hreports, rfl⟩, hreceipt⟩ :=
    (hlink.client c hclient).delivered value hvalue
  obtain ⟨session, hsession, hsent⟩ := hlink.received c hclient m hreceived
  obtain ⟨hsame, hworked⟩ := worked_of_sent hsound.owner.fine hsent hreports.kind hreports.flags
  obtain rfl : c.epoch = session := hreports.session.symm.trans hsame
  rw [hreports.operation, hreports.amount] at hworked
  refine ⟨operation.operationId, c.iterations, hasked.last, hsession, hworked, ?_, ?_, hreceipt⟩
  · apply le_antisymm
    · exact launches_le_one hsound.owner.fine c.epoch operation.operationId
    · obtain ⟨now, submit, worker, ended, result, hsublist, -⟩ := hworked
      apply List.countP_pos_iff.mpr
      refine ⟨.launched c.epoch operation.operationId c.iterations worker,
        hsublist.subset (by simp), ?_⟩
      simp [OwnerEvent.launches]
  · rw [hreports.value]
    exact Compute.toNat_expectedSum hasked.valid

end SystemRun

/-! ### A run in which a client gets its result -/

/-- What an owner meets whose calls all succeed and whose worker answers as stated. -/
def servingAnswer (reads : List Compute.ReadAnswer) (wait : Compute.WaitAnswer) : OwnerAnswer :=
  { process := ⟨reads, wait, none⟩
    control := none
    event := none
    disconnect := ⟨none, false⟩
    send := .sent messageBytes
    receive := .failed true
    canLaunch := true
    allocated := true
    launch := ⟨0, 0, none, 0, 42, none⟩ }

/-- A poll of an owner whose worker has nothing to say. -/
def servingPoll (now : UInt64) : SystemInput :=
  .pollOwner now (servingAnswer [] .running) .delivered

/-- A poll of the first client. -/
def clientPoll (now : UInt64) : SystemInput :=
  .pollClient 0 now (.sent messageBytes) .delivered

/-- A client recovers, and submits three iterations that its worker completes. -/
def servedRun : SystemRun where
  worker := "worker"
  stopGraceMs := 100
  inputs :=
    [.openClient 0 10, .attach 0 100 ⟨true, true, true, ⟨none, false⟩⟩, servingPoll 101,
      clientPoll 11, .recover 0 12, clientPoll 13, servingPoll 102, servingPoll 103, clientPoll 14,
      clientPoll 15, servingPoll 104, servingPoll 105, clientPoll 16, .submit 0 3 17,
      clientPoll 18, servingPoll 106, servingPoll 107,
      .pollOwner 108 (servingAnswer
        [.data 32 { kind := .ready }, .data 32 { kind := .completed, iterations := 3, value := 5 },
          .eof] (.ended (.exited 0))) .delivered,
      clientPoll 19, clientPoll 20]

/-- The client of the run has the result that the owner worked out. -/
theorem SystemRun.result_is_worked_servedRun :
    ∃ c operation n, (servedRun.final.links 0).client = some c ∧
      lastSubmitted c.log = some (operation, n) ∧
      Worked servedRun.final.owner.log c.epoch operation n 5 ∧
      (5 : UInt64).toNat = Compute.periodicSquareSum n.toNat := by
  have hvalue : ((servedRun.final.links 0).client.bind fun c ↦ c.value) = some 5 := by
    decide +kernel
  obtain ⟨c, hclient, hc⟩ := Option.bind_eq_some_iff.mp hvalue
  obtain ⟨operation, n, hlast, -, hworked, -, hsum, -⟩ :=
    servedRun.result_is_worked 0 c hclient 5 hc
  exact ⟨c, operation, n, hclient, hlast, hworked, hsum⟩

end RobotHarness.Recovery
