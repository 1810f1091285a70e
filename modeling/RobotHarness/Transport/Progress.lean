import RobotHarness.Transport.Connection

/-!
# Progress of a connection

A full buffer holds a frame, so pumps on both ends that move a byte whenever they can bring every
queued message to the other end.
-/

namespace RobotHarness.Transport

/-- A pump that sends and receives when it can. -/
def Action.Productive : Action → Prop
  | .queue .. => False
  | .pump _ sent received => 0 < sent ∧ 0 < received

/-- A pump needs no message to be admissible. -/
theorem Action.Productive.admissible {a : Action} (h : a.Productive) (binary : Side → Bool) :
    a.Admissible binary := by
  cases a with
  | queue => exact h.elim
  | pump => trivial

/-- The action is a pump of the side. -/
def Action.PumpOf (side : Side) : Action → Prop
  | .queue .. => False
  | .pump s _ _ => s = side

/-- Pumps that move bytes when they can, at least one of each end. -/
structure Round (actions : List Action) : Prop where
  productive : ∀ a ∈ actions, a.Productive
  pumps : ∀ side, ∃ a ∈ actions, a.PumpOf side

namespace Connection

variable {codec : JsonCodec} {hcodec : codec.Inverts} {binary : Side → Bool} {c : Connection}

/-- How far the bytes that a side has queued are from being parsed: each has to be sent, then
received, then taken off the buffer. -/
def backlog (c : Connection) (side : Side) : ℕ :=
  3 * (c.channel side).outgoing.length + 2 * (c.wire side).length +
    (c.channel side.other).incoming.length

/-- A frame fits into the buffer of its reader. -/
private theorem length_encode_le {limit : ℕ} {side : Side} {e : Entry}
    (he : (channelFraming codec hcodec (binary side)).valid e)
    (hlimit : limit = maxBuffer + payloadLimit (binary side)) :
    ((channelFraming codec hcodec (binary side)).encode e).length ≤ limit := by
  obtain ⟨-, hpayload, -, hdata⟩ := he
  show (frameBytes e.data e.payload).length ≤ limit
  rw [length_frameBytes, hlimit, maxBuffer]
  omega

/-- A reader that everything has reached, or whose buffer is full, has a frame to return. -/
theorem Sound.frame (h : c.Sound hcodec binary) (side : Side)
    (hne : (c.channel side.other).incoming ≠ [])
    (hfull : c.wire side ++ (c.channel side).outgoing = [] ∨
      (c.channel side.other).incoming.length = (c.channel side.other).limit) :
    ∃ message length, parseFrame codec (binary side.other) (c.channel side.other).incoming =
      .frame message length := by
  obtain ⟨entries, -, hcarries⟩ := h.carries side
  apply hcarries.frame hne
  refine hfull.imp_right fun hlength e he ↦ ?_
  rw [hlength]
  exact length_encode_le (hcarries.valid e he) (by rw [Channel.limit, h.mode])

/-- A pump of the sender brings the backlog down by what it sends. -/
private theorem backlog_sender (h : c.Sound hcodec binary) (side : Side) (sent received : ℕ) :
    (c.act codec (.pump side sent received)).backlog side + c.sentBytes side sent =
        c.backlog side ∧
      ((c.act codec (.pump side sent received)).channel side).outgoing =
        (c.channel side).outgoing.drop (c.sentBytes side sent) := by
  obtain ⟨messages, kept, hpumped⟩ := h.pumped side sent received
  rw [hpumped.after]
  refine ⟨?_, by simp⟩
  have hcount : c.sentBytes side sent ≤ (c.channel side).outgoing.length := by
    unfold sentBytes
    omega
  simp only [backlog, Function.update_self, Function.update_of_ne (Side.other_ne side),
    Function.update_of_ne (Side.other_ne side).symm, List.length_append, List.length_drop,
    List.length_take]
  omega

/-- A pump of the reader never brings the backlog up, and down when it receives or returns
anything. -/
private theorem backlog_reader (h : c.Sound hcodec binary) (side : Side) (sent received : ℕ) :
    ((c.act codec (.pump side.other sent received)).backlog side ≤ c.backlog side ∧
      ((c.act codec (.pump side.other sent received)).channel side).outgoing =
        (c.channel side).outgoing) ∧
      (0 < received → (c.channel side).outgoing = [] → c.backlog side ≠ 0 →
        (c.act codec (.pump side.other sent received)).backlog side < c.backlog side) := by
  obtain ⟨messages, kept, hpumped⟩ := h.pumped side.other sent received
  have hlength := hpumped.length
  have hshorter := hpumped.shorter
  have hread := hpumped.read
  have hbytes : (c.receivedBytes side.other received).length =
      min (c.receivable side.other received) (c.wire side).length := by
    rw [receivedBytes, List.length_take, Side.other_other]
    rfl
  have hafter : (c.act codec (.pump side.other sent received)).backlog side =
      3 * (c.channel side).outgoing.length +
        2 * ((c.wire side).length - c.receivable side.other received) + kept.length := by
    rw [hpumped.after]
    simp only [backlog, Side.other_other, Function.update_self,
      Function.update_of_ne (Side.other_ne side).symm, List.length_drop]
  rw [List.length_append, hbytes] at hlength hshorter
  rw [hafter]
  refine ⟨⟨?_, ?_⟩, fun hpositive hnone hbacklog ↦ ?_⟩
  · unfold backlog
    omega
  · rw [hpumped.after]
    simp [Function.update_of_ne (Side.other_ne side).symm]
  · simp only [backlog, hnone, List.length_nil, Nat.mul_zero, Nat.zero_add] at hbacklog ⊢
    by_cases hmove : c.receivable side.other received = 0 ∨ (c.wire side).length = 0
    · -- Nothing is received: the buffer is full or has it all, so it holds a frame.
      have hnothing : c.receivedBytes side.other received = [] := by
        rw [← List.length_eq_zero_iff, hbytes]
        omega
      have hwithin := h.incoming side.other
      have hfull : (c.wire side).length = 0 ∨
          (c.channel side.other).incoming.length = (c.channel side.other).limit := by
        have hframe : 0 < maxFrame := by decide
        unfold receivable at hmove
        omega
      have hne : (c.channel side.other).incoming ≠ [] := by
        intro hnil
        have hlimit : 0 < (c.channel side.other).limit := Nat.add_pos_left (by decide) _
        rw [hnil, List.length_nil] at hfull hbacklog
        omega
      replace hfull := hfull.imp_left fun hwire ↦ show c.wire side ++ (c.channel side).outgoing = []
        by rw [hnone, List.length_eq_zero_iff.mp hwire, List.append_nil]
      obtain ⟨message, length, hframe⟩ := h.frame _ hne hfull
      rw [hnothing, List.append_nil] at hread
      have hmessages : messages ≠ [] := by
        have hsome := (channelFraming codec hcodec (binary side.other)).readFrames_of_frame
          (n := 15) hframe
        have hread' : readFrames (channelFraming codec hcodec (binary side.other)).look 16
            (c.channel side.other).incoming = (messages, none, kept) := hread
        rw [hread'] at hsome
        exact hsome
      have := hshorter hmessages
      omega
    · push Not at hmove
      omega

/-- A pump never brings the backlog up. -/
private theorem backlog_pump (h : c.Sound hcodec binary) {a : Action} (ha : a.Productive)
    (side : Side) : (c.act codec a).backlog side ≤ c.backlog side := by
  cases a with
  | queue => exact ha.elim
  | pump s sent received =>
    rcases eq_or_eq_other s side with rfl | rfl
    · have := (backlog_sender h s sent received).1
      omega
    · exact (backlog_reader h side sent received).1.1

/-- Pumps never bring the backlog up. -/
private theorem backlog_run (h : c.Sound hcodec binary) {actions : List Action}
    (hproductive : ∀ a ∈ actions, a.Productive) (side : Side) :
    (c.run codec actions).backlog side ≤ c.backlog side := by
  induction actions generalizing c with
  | nil => exact le_refl _
  | cons a actions ih =>
    rw [List.forall_mem_cons] at hproductive
    exact (ih (h.act (hproductive.1.admissible binary)) hproductive.2).trans
      (backlog_pump h hproductive.1 side)

/-- Pumps bring a backlog down when one of the sender is among them, or of the reader once the
sender's buffer is empty. -/
private theorem backlog_lt (h : c.Sound hcodec binary) {actions : List Action} {side : Side}
    (hproductive : ∀ a ∈ actions, a.Productive) (hbacklog : c.backlog side ≠ 0)
    (hsender : (c.channel side).outgoing ≠ [] → ∃ a ∈ actions, a.PumpOf side)
    (hreader : (c.channel side).outgoing = [] → ∃ a ∈ actions, a.PumpOf side.other) :
    (c.run codec actions).backlog side < c.backlog side := by
  induction actions generalizing c with
  | nil =>
    by_cases hnone : (c.channel side).outgoing = []
    · obtain ⟨a, ha, -⟩ := hreader hnone
      cases ha
    · obtain ⟨a, ha, -⟩ := hsender hnone
      cases ha
  | cons a actions ih =>
    rw [List.forall_mem_cons] at hproductive
    obtain ⟨ha, hproductive⟩ := hproductive
    have hnext := h.act (ha.admissible binary)
    have hrest := backlog_run hnext hproductive side
    cases a with
    | queue => exact ha.elim
    | pump s sent received =>
      rcases eq_or_eq_other s side with rfl | rfl
      · obtain ⟨hsent, hleft⟩ := backlog_sender h s sent received
        by_cases hnone : (c.channel s).outgoing = []
        · -- The sender has nothing to move: the pump of the reader is still to come.
          have hzero : c.sentBytes s sent = 0 := by simp [sentBytes, hnone]
          rw [hzero, Nat.add_zero] at hsent
          rw [hnone, List.drop_nil] at hleft
          rw [← hsent] at hbacklog ⊢
          refine ih hnext hproductive hbacklog (fun hne ↦ absurd hleft hne) fun _ ↦ ?_
          obtain ⟨a, hmem, hpump⟩ := hreader hnone
          rcases List.mem_cons.mp hmem with rfl | hmem
          · exact absurd hpump.symm (Side.other_ne s)
          · exact ⟨a, hmem, hpump⟩
        · have hpositive : 0 < c.sentBytes s sent := by
            have := List.length_pos_iff.mpr hnone
            have hframe : 0 < maxFrame := by decide
            have := ha.1
            unfold sentBytes
            omega
          have hdown : (c.act codec (.pump s sent received)).backlog s < c.backlog s := by omega
          exact hrest.trans_lt hdown
      · obtain ⟨⟨hle, hleft⟩, hdown⟩ := backlog_reader h side sent received
        by_cases hnone : (c.channel side).outgoing = []
        · exact hrest.trans_lt (hdown ha.2 hnone hbacklog)
        · rcases hle.lt_or_eq with hlt | heq
          · exact hrest.trans_lt hlt
          · rw [← heq] at hbacklog ⊢
            refine ih hnext hproductive hbacklog (fun _ ↦ ?_) fun hempty ↦
              absurd (hleft ▸ hempty) hnone
            obtain ⟨a, hmem, hpump⟩ := hsender hnone
            rcases List.mem_cons.mp hmem with rfl | hmem
            · exact absurd hpump (Side.other_ne side)
            · exact ⟨a, hmem, hpump⟩

/-- Enough rounds bring every backlog to zero. -/
private theorem backlog_rounds (h : c.Sound hcodec binary) {rounds : List (List Action)}
    (hrounds : ∀ r ∈ rounds, Round r) {side : Side}
    (henough : c.backlog side ≤ rounds.length) :
    (c.run codec rounds.flatten).backlog side = 0 := by
  induction rounds generalizing c with
  | nil => exact Nat.le_zero.mp henough
  | cons r rounds ih =>
    rw [List.forall_mem_cons] at hrounds
    obtain ⟨hround, hrounds⟩ := hrounds
    have hsound : (c.run codec r).Sound hcodec binary :=
      h.run fun a ha ↦ (hround.productive a ha).admissible binary
    rw [List.flatten_cons, run_append]
    refine ih hsound hrounds ?_
    rw [List.length_cons] at henough
    have hle := backlog_run h hround.productive side
    by_cases hzero : c.backlog side = 0
    · omega
    · have hlt := backlog_lt h hround.productive hzero (fun _ ↦ hround.pumps side)
        fun _ ↦ hround.pumps side.other
      omega

/-- Nothing of a schedule of pumps queues a message. -/
private theorem queued_run {actions : List Action} (hproductive : ∀ a ∈ actions, a.Productive) :
    (c.run codec actions).queued = c.queued := by
  induction actions generalizing c with
  | nil => rfl
  | cons a actions ih =>
    rw [List.forall_mem_cons] at hproductive
    refine (ih hproductive.2).trans ?_
    cases a with
    | queue => exact hproductive.1.elim
    | pump side sent received =>
      simp only [act]
      split <;> rfl

/-- The framing loses and invents nothing. After every schedule, what the pumps of an end have
returned is a prefix of what the other end has queued, no pump has raised, all buffers are within
their limits and a full one holds a frame; and enough rounds of pumps return all that was
queued. -/
theorem framing (hcodec : codec.Inverts) (binary : Side → Bool) {schedule : List Action}
    (hschedule : ∀ a ∈ schedule, a.Admissible binary) (side : Side) :
    let c := (start binary).run codec schedule
    let channel := c.channel side
    (c.returned side <+: (c.queued side.other).map fun (message, payload) ↦
        delivered message payload) ∧
      c.raised side = false ∧
      (channel.incoming.length ≤ channel.limit ∧ channel.outgoing.length ≤ channel.limit) ∧
      (channel.incoming.length = channel.limit →
        ∃ message length, parseFrame codec channel.binary channel.incoming =
          .frame message length) ∧
      ∀ rounds : List (List Action), (∀ r ∈ rounds, Round r) →
        c.backlog side.other ≤ rounds.length →
        (c.run codec rounds.flatten).returned side = (c.queued side.other).map
          fun (message, payload) ↦ delivered message payload := by
  intro c channel
  have hsound : c.Sound hcodec binary := sound_start.run hschedule
  obtain ⟨entries, hqueued, hcarries⟩ := hsound.carries side.other
  have hdelivered : (c.queued side.other).map (fun (message, payload) ↦
      delivered message payload) =
        entries.map (channelFraming codec hcodec (binary side)).decoded := by
    rw [← hqueued, List.map_map]
    rfl
  simp only [Side.other_other] at hcarries
  refine ⟨?_, hsound.raised side, ⟨hsound.incoming side, hsound.outgoing side⟩, ?_, ?_⟩
  · rw [hdelivered]
    exact hcarries.isPrefix
  · intro hfull
    have hne : channel.incoming ≠ [] := by
      intro hnil
      have hlimit : 0 < channel.limit := Nat.add_pos_left (by decide) _
      rw [hnil, List.length_nil] at hfull
      omega
    have hframe := hsound.frame side.other
    simp only [Side.other_other] at hframe
    rw [show channel.binary = binary side from hsound.mode side]
    exact hframe hne (.inr hfull)
  · intro rounds hrounds henough
    have hproductive : ∀ a ∈ rounds.flatten, a.Productive := by
      intro a ha
      obtain ⟨r, hr, har⟩ := List.mem_flatten.mp ha
      exact (hrounds r hr).productive a har
    have hlater : (c.run codec rounds.flatten).Sound hcodec binary :=
      hsound.run fun a ha ↦ (hproductive a ha).admissible binary
    have hempty := backlog_rounds hsound hrounds henough
    obtain ⟨entries', hqueued', hcarries'⟩ := hlater.carries side.other
    rw [queued_run hproductive] at hqueued'
    simp only [backlog, Side.other_other] at hempty hcarries'
    rw [hcarries'.complete, ← hqueued', List.map_map]
    · rfl
    · rw [List.append_eq_nil_iff, List.append_eq_nil_iff, ← List.length_eq_zero_iff,
        ← List.length_eq_zero_iff, ← List.length_eq_zero_iff]
      omega

end Connection

/-! ### One message -/

/-- The text of a message with one field, in its envelope. -/
def testText : List UInt8 :=
  [123, 34, 97, 34, 58, 49, 44, 34, 118, 101, 114, 115, 105, 111, 110, 34, 58, 50, 44, 34, 95,
    112, 97, 121, 108, 111, 97, 100, 95, 115, 105, 122, 101, 34, 58, 48, 125]

/-- `json` on that message. -/
def testCodec : JsonCodec where
  dumps
    | [("a", .int 1), ("version", .int 2), ("_payload_size", .int 0)] => some testText
    | _ => none
  loads text :=
    if text = testText then
      some (.object [("a", .int 1), ("version", .int 2), ("_payload_size", .int 0)])
    else none

/-- It inverts what it writes. -/
theorem testCodec_inverts : testCodec.Inverts where
  loads_dumps := by
    intro d data _ h
    simp only [testCodec] at h ⊢
    split at h
    · cases h
      rfl
    · cases h
  loads_nil := rfl

/-- The message is queued, and its text arrives in two parts. -/
def testSchedule : List Action :=
  [.queue .parent [("a", .int 1)] [], .pump .parent 7 0, .pump .child 0 5, .pump .parent 60 0,
    .pump .child 0 60]

/-- The framing on a message that arrives in two parts. -/
theorem framing_parts :
    ((Connection.start fun _ ↦ false).run testCodec testSchedule).returned .child <+:
      (((Connection.start fun _ ↦ false).run testCodec testSchedule).queued .parent).map
        fun (message, payload) ↦ delivered message payload :=
  (Connection.framing testCodec_inverts (fun _ ↦ false)
    (by
      simp only [testSchedule, List.forall_mem_cons, Action.Admissible, true_and]
      exact ⟨⟨⟨by decide, by decide⟩, by decide⟩, nofun⟩) .child).1

example : (((Connection.start fun _ ↦ false).run testCodec testSchedule).returned
    .child).map (·.payload) = [none] := by
  decide +kernel

end RobotHarness.Transport
