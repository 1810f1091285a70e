import Mathlib.Data.List.Basic

/-!
# Frames over a byte stream

A sender encodes values one after another into a stream, which reaches the buffer of a reader in
pieces of any length. When each encoding can be told from its front, the reader returns a prefix
of what was sent, and all of it once the stream has arrived.
-/

universe u v w x

/-- What a reader makes of the front of its buffer: it is not complete, it is a value of some
length, or it is none. -/
inductive Look (β : Type v) (ε : Type w) where
  | incomplete
  | frame (value : β) (length : ℕ)
  | invalid (error : ε)

/-- The loop of a reader over at most `n` frames: the values, the error that ends it, and the
rest of the buffer. -/
def readFrames {σ : Type u} {β : Type v} {ε : Type w} (look : List σ → Look β ε) :
    ℕ → List σ → List β × Option ε × List σ
  | 0, buffer => ([], none, buffer)
  | n + 1, buffer =>
    match look buffer with
    | .incomplete => ([], none, buffer)
    | .invalid error => ([], some error, buffer)
    | .frame value length =>
      let (values, error, rest) := readFrames look n (buffer.drop length)
      (value :: values, error, rest)

/-- An encoding whose values are told from the front of a buffer. -/
structure Framing (α : Type x) (σ : Type u) (β : Type v) (ε : Type w) where
  valid : α → Prop
  encode : α → List σ
  decoded : α → β
  look : List σ → Look β ε
  look_nil : look [] = .incomplete
  look_encode : ∀ a rest, valid a →
    look (encode a ++ rest) = .frame (decoded a) (encode a).length
  look_partial : ∀ a buffer rest, valid a → rest ≠ [] → buffer ++ rest = encode a →
    look buffer = .incomplete

namespace Framing

variable {α : Type x} {σ : Type u} {β : Type v} {ε : Type w} (F : Framing α σ β ε)

/-- The stream of a sequence of values. -/
def stream (values : List α) : List σ := (values.map F.encode).flatten

/-- Nothing is written for no values. -/
@[simp] theorem stream_nil : F.stream [] = [] := rfl

/-- Values are written one after another. -/
@[simp] theorem stream_cons (a : α) (values : List α) :
    F.stream (a :: values) = F.encode a ++ F.stream values := rfl

/-- Values that follow others are written after them. -/
theorem stream_append (xs ys : List α) : F.stream (xs ++ ys) = F.stream xs ++ F.stream ys := by
  simp [stream]

/-- No value is encoded by nothing. -/
theorem encode_ne_nil {a : α} (h : F.valid a) : F.encode a ≠ [] := by
  intro hnil
  have hlook := F.look_encode a [] h
  rw [hnil, List.append_nil, F.look_nil] at hlook
  cases hlook

/-- The stream of some values is empty only when there are none. -/
theorem eq_nil_of_stream {values : List α} (hvalid : ∀ a ∈ values, F.valid a)
    (h : F.stream values = []) : values = [] := by
  cases values with
  | nil => rfl
  | cons a values =>
    rw [stream_cons, List.append_eq_nil_iff] at h
    exact absurd h.1 (F.encode_ne_nil (hvalid a (by simp)))

/-- What a reader finds at the front of its buffer, when the stream continues it: nothing
complete, or the next value. -/
theorem look_cases {values : List α} {buffer rest : List σ}
    (hvalid : ∀ a ∈ values, F.valid a) (h : buffer ++ rest = F.stream values) :
    (F.look buffer = .incomplete ∧ (values = [] ∨
        ∃ a ∈ values.head?, buffer.length < (F.encode a).length)) ∨
      ∃ a later kept, values = a :: later ∧ buffer = F.encode a ++ kept ∧
        F.look buffer = .frame (F.decoded a) (F.encode a).length ∧
        kept ++ rest = F.stream later := by
  cases values with
  | nil =>
    obtain ⟨rfl, -⟩ := List.append_eq_nil_iff.mp h
    exact .inl ⟨F.look_nil, .inl rfl⟩
  | cons a later =>
    have ha := hvalid a (by simp)
    rw [stream_cons] at h
    rcases List.append_eq_append_iff.mp h with ⟨missing, hencode, hrest⟩ | ⟨kept, hbuffer, hkept⟩
    · by_cases hmissing : missing = []
      · subst hmissing
        rw [List.append_nil] at hencode
        refine .inr ⟨a, later, [], rfl, by rw [hencode, List.append_nil], ?_, hrest⟩
        rw [← hencode, ← F.look_encode a [] ha, List.append_nil]
      · refine .inl ⟨F.look_partial a buffer missing ha hmissing hencode.symm,
          .inr ⟨a, rfl, ?_⟩⟩
        rw [hencode, List.length_append]
        have := List.length_pos_iff.mpr hmissing
        omega
    · exact .inr ⟨a, later, kept, rfl, hbuffer, by rw [hbuffer, F.look_encode a kept ha],
        hkept.symm⟩

/-- The loop of a reader returns the next values of the stream, and leaves the rest of it. -/
theorem readFrames_stream (n : ℕ) {values : List α} {buffer rest : List σ}
    (hvalid : ∀ a ∈ values, F.valid a) (h : buffer ++ rest = F.stream values) :
    ∃ taken later kept, values = taken ++ later ∧
      readFrames F.look n buffer = (taken.map F.decoded, none, kept) ∧
      buffer = F.stream taken ++ kept ∧ kept ++ rest = F.stream later := by
  induction n generalizing values buffer with
  | zero => exact ⟨[], values, buffer, rfl, rfl, rfl, h⟩
  | succ n ih =>
    rcases F.look_cases hvalid h with ⟨hlook, -⟩ | ⟨a, later, kept, rfl, rfl, hlook, hkept⟩
    · refine ⟨[], values, buffer, rfl, ?_, rfl, h⟩
      rw [readFrames, hlook]
      rfl
    · obtain ⟨taken, later, kept', rfl, hread, rfl, hrest⟩ :=
        ih (fun b hb ↦ hvalid b (List.mem_cons_of_mem a hb)) hkept
      refine ⟨a :: taken, later, kept', rfl, ?_, ?_, hrest⟩
      · rw [readFrames, hlook]
        dsimp only
        rw [List.drop_left, hread]
        rfl
      · rw [stream_cons, List.append_assoc]

/-- The number of values whose encodings end within the first `n` bytes of their stream. -/
def completed : List α → ℕ → ℕ
  | [], _ => 0
  | a :: values, n =>
    if (F.encode a).length ≤ n then completed values (n - (F.encode a).length) + 1 else 0

/-- Nothing is complete before the first byte. -/
theorem completed_zero {values : List α} (hvalid : ∀ a ∈ values, F.valid a) :
    F.completed values 0 = 0 := by
  cases values with
  | nil => rfl
  | cons a values =>
    have hpositive := List.length_pos_iff.mpr (F.encode_ne_nil (hvalid a (by simp)))
    exact if_neg (by omega)

/-- What follows some values completes after them. -/
theorem completed_append (xs ys : List α) (n : ℕ) :
    F.completed (xs ++ ys) ((F.stream xs).length + n) = xs.length + F.completed ys n := by
  induction xs with
  | nil => simp
  | cons a xs ih =>
    have hrest : (F.stream (a :: xs)).length + n - (F.encode a).length =
        (F.stream xs).length + n := by
      rw [stream_cons, List.length_append]
      omega
    rw [List.cons_append, completed, if_pos (by rw [stream_cons, List.length_append]; omega),
      hrest, ih, List.length_cons]
    omega

/-- The loop of a reader returns every value that is complete in its buffer, up to its bound. -/
theorem length_readFrames (n : ℕ) {values : List α} {buffer rest : List σ}
    (hvalid : ∀ a ∈ values, F.valid a) (h : buffer ++ rest = F.stream values) :
    (readFrames F.look n buffer).1.length = min n (F.completed values buffer.length) := by
  induction n generalizing values buffer with
  | zero => simp [readFrames]
  | succ n ih =>
    rcases F.look_cases hvalid h with ⟨hlook, hnone⟩ | ⟨a, later, kept, rfl, rfl, hlook, hkept⟩
    · have hzero : F.completed values buffer.length = 0 := by
        rcases hnone with rfl | ⟨a, ha, hshort⟩
        · rfl
        · obtain ⟨later, rfl⟩ := List.head?_eq_some_iff.mp ha
          exact if_neg (by omega)
      rw [readFrames, hlook, hzero]
      simp
    · have hlater := ih (fun b hb ↦ hvalid b (List.mem_cons_of_mem a hb)) hkept
      rw [readFrames, hlook]
      dsimp only
      rw [List.drop_left, List.length_cons, hlater, completed, List.length_append,
        if_pos (by omega), Nat.add_sub_cancel_left]
      omega

/-- A reader whose buffer starts with a value returns one. -/
theorem readFrames_of_frame {n : ℕ} {buffer : List σ} {value : β} {length : ℕ}
    (h : F.look buffer = .frame value length) : (readFrames F.look (n + 1) buffer).1 ≠ [] := by
  rw [readFrames, h]
  nofun

/-! ### A link -/

/-- What a link carries: the values that were returned, then those in the reader's buffer, on
the way and in the sender's buffer. -/
structure Carries (sent : List α) (returned : List β) (incoming wire outgoing : List σ) :
    Prop where
  valid : ∀ a ∈ sent, F.valid a
  split : ∃ done pending, sent = done ++ pending ∧ returned = done.map F.decoded ∧
    incoming ++ wire ++ outgoing = F.stream pending

namespace Carries

variable {F} {sent : List α} {returned : List β} {incoming wire outgoing : List σ}

/-- A link starts empty. -/
theorem start : F.Carries [] [] [] [] [] := ⟨nofun, [], [], rfl, rfl, rfl⟩

/-- A value is queued. -/
theorem queue (h : F.Carries sent returned incoming wire outgoing) {a : α} (ha : F.valid a) :
    F.Carries (sent ++ [a]) returned incoming wire (outgoing ++ F.encode a) := by
  obtain ⟨hvalid, done, pending, rfl, rfl, hstream⟩ := h
  refine ⟨fun b hb ↦ ?_, done, pending ++ [a], List.append_assoc .., rfl, ?_⟩
  · rcases List.mem_append.mp hb with hb | hb
    · exact hvalid b hb
    · rw [List.mem_singleton.mp hb]
      exact ha
  · rw [F.stream_append, ← hstream]
    simp [stream]

/-- The front of the sender's buffer moves on. -/
theorem send (h : F.Carries sent returned incoming wire outgoing) (n : ℕ) :
    F.Carries sent returned incoming (wire ++ outgoing.take n) (outgoing.drop n) := by
  obtain ⟨hvalid, done, pending, hsent, hreturned, hstream⟩ := h
  refine ⟨hvalid, done, pending, hsent, hreturned, ?_⟩
  rw [← hstream]
  simp

/-- The front of what is on the way arrives. -/
theorem receive (h : F.Carries sent returned incoming wire outgoing) (n : ℕ) :
    F.Carries sent returned (incoming ++ wire.take n) (wire.drop n) outgoing := by
  obtain ⟨hvalid, done, pending, hsent, hreturned, hstream⟩ := h
  refine ⟨hvalid, done, pending, hsent, hreturned, ?_⟩
  rw [← hstream]
  simp

/-- The reader takes frames off its buffer: without error, and what it takes is returned. -/
theorem read (h : F.Carries sent returned incoming wire outgoing) (n : ℕ) :
    ∃ values kept, readFrames F.look n incoming = (values, none, kept) ∧
      kept.length ≤ incoming.length ∧ (values ≠ [] → kept.length < incoming.length) ∧
      F.Carries sent (returned ++ values) kept wire outgoing := by
  obtain ⟨hvalid, done, pending, rfl, rfl, hstream⟩ := h
  have hpending : ∀ a ∈ pending, F.valid a := fun a ha ↦ hvalid a (List.mem_append_right _ ha)
  have hsplit : incoming ++ (wire ++ outgoing) = F.stream pending := by
    rw [← hstream, List.append_assoc]
  obtain ⟨taken, later, kept, rfl, hread, hbuffer, hrest⟩ :=
    F.readFrames_stream n hpending hsplit
  refine ⟨taken.map F.decoded, kept, hread, ?_, fun htaken ↦ ?_, hvalid, done ++ taken, later,
    ?_, ?_, ?_⟩
  · rw [hbuffer, List.length_append]
    omega
  · have hne : F.stream taken ≠ [] := fun hnil ↦ htaken <| by
      rw [F.eq_nil_of_stream (fun a ha ↦ hpending a (List.mem_append_left _ ha)) hnil]
      rfl
    have := List.length_pos_iff.mpr hne
    rw [hbuffer, List.length_append]
    omega
  · rw [List.append_assoc]
  · rw [List.map_append]
  · rw [← hrest, List.append_assoc]

/-- What was returned is a prefix of what was queued. -/
theorem isPrefix (h : F.Carries sent returned incoming wire outgoing) :
    returned <+: sent.map F.decoded := by
  obtain ⟨-, done, pending, rfl, rfl, -⟩ := h
  rw [List.map_append]
  exact List.prefix_append _ _

/-- All was returned once nothing is left on the link. -/
theorem complete (h : F.Carries sent returned incoming wire outgoing)
    (hempty : incoming ++ wire ++ outgoing = []) : returned = sent.map F.decoded := by
  obtain ⟨hvalid, done, pending, rfl, rfl, hstream⟩ := h
  rw [hempty] at hstream
  have hpending := F.eq_nil_of_stream (fun a ha ↦ hvalid a (List.mem_append_right _ ha))
    hstream.symm
  rw [hpending, List.append_nil]

/-- A reader that everything has reached, or whose buffer is as long as every encoding, has a
frame to return. -/
theorem frame (h : F.Carries sent returned incoming wire outgoing) (hne : incoming ≠ [])
    (hfull : wire ++ outgoing = [] ∨ ∀ a ∈ sent, (F.encode a).length ≤ incoming.length) :
    ∃ value length, F.look incoming = .frame value length := by
  obtain ⟨hvalid, done, pending, rfl, rfl, hstream⟩ := h
  have hpending : ∀ a ∈ pending, F.valid a := fun a ha ↦ hvalid a (List.mem_append_right _ ha)
  have hsplit : incoming ++ (wire ++ outgoing) = F.stream pending := by
    rw [← hstream, List.append_assoc]
  rcases F.look_cases hpending hsplit with
    ⟨-, hnone | ⟨a, ha, hshort⟩⟩ | ⟨a, later, kept, -, -, hlook, -⟩
  · rw [hnone, stream_nil, List.append_eq_nil_iff] at hsplit
    exact absurd hsplit.1 hne
  · have hmem : a ∈ pending := List.mem_of_mem_head? ha
    rcases hfull with hnil | hlong
    · obtain ⟨later, rfl⟩ := List.head?_eq_some_iff.mp ha
      rw [hnil, List.append_nil, stream_cons] at hsplit
      rw [hsplit, List.length_append] at hshort
      omega
    · exact absurd (hlong a (List.mem_append_right _ hmem)) (Nat.not_le.mpr hshort)
  · exact ⟨_, _, hlook⟩

end Carries

end Framing
