import Mathlib.Data.List.Induction
import RobotHarness.Observation.Closure

/-!
# Histories of native closure

What the calls of a history say, how an observer follows them, and when it is closed: exactly
after a history whose calls all pass their checks and that is complete. When a call passes is
said by the call and by the ones before it.
-/

namespace RobotHarness.Observation

/-! ### What an observation cannot say twice -/

namespace ClosureCall

variable {scope : Scope} {generation : UInt64} {c : ClosureCall} {i j : Fin 2}

private theorem Links.unique {id id' : String} (h : c.Links scope i id) (h' : c.Links scope j id') :
    i = j ∧ id = id' := by
  obtain ⟨wire, event, rfl, ⟨-, hparsed⟩, -, -, -, hid, -⟩ := h
  obtain ⟨wire', event', heq, ⟨-, hparsed'⟩, -, -, -, hid', -⟩ := h'
  simp only [observeChild.injEq, true_and] at heq
  obtain ⟨hindex, rfl⟩ := heq
  cases hparsed.symm.trans hparsed'
  exact ⟨Fin.ext hindex, Json.string.inj (hid.unique hid')⟩

private theorem Acknowledges.unique {id id' : String} (h : c.Acknowledges i id)
    (h' : c.Acknowledges j id') : i = j ∧ id = id' := by
  obtain ⟨wire, event, rfl, ⟨-, hparsed⟩, -, -, -, hid, -⟩ := h
  obtain ⟨wire', event', heq, ⟨-, hparsed'⟩, -, -, -, hid', -⟩ := h'
  simp only [observeChild.injEq, true_and] at heq
  obtain ⟨hindex, rfl⟩ := heq
  cases hparsed.symm.trans hparsed'
  exact ⟨Fin.ext hindex, Json.string.inj (hid.unique hid')⟩

private theorem Drives.unique {stamp stamp' : ℤ} (h : c.Drives scope generation stamp)
    (h' : c.Drives scope generation stamp') : stamp = stamp' := by
  obtain ⟨wire, requested, received, event, rfl, ⟨-, hparsed⟩, -, -, -, -, -, -, hstamp⟩ := h
  obtain ⟨wire', requested', received', event', heq, ⟨-, hparsed'⟩, -, -, -, -, -, -, hstamp'⟩ := h'
  cases heq
  cases hparsed.symm.trans hparsed'
  exact hstamp.unique hstamp'

/-- An acknowledgement of an earlier generation is none of this one. -/
theorem IsRetained.not_drives (h : c.IsRetained generation) (stamp : ℤ) :
    ¬ c.Drives scope generation stamp := by
  rintro ⟨wire, requested, received, event, rfl, ⟨-, hparsed⟩, hgeneration, -⟩
  obtain ⟨wire', requested', received', event', earlier, heq, ⟨-, hparsed'⟩, hearlier, hlt⟩ := h
  cases heq
  cases hparsed.symm.trans hparsed'
  rcases hgeneration with rfl | hgeneration
  · exact absurd hlt (UInt64.not_lt_zero)
  · cases hearlier.unique hgeneration
    exact UInt64.lt_irrefl _ hlt

end ClosureCall

/-- The workers are closed by a sequence of observations. -/
def WorkersClosed (scope : Scope) (calls : List ClosureCall) : Prop :=
  (∃ parent, ∃ c ∈ calls, c.Binds parent) ∧
    ∀ i, ∃ id, (∃ c ∈ calls, c.Links scope i id) ∧ ∃ c ∈ calls, c.Acknowledges i id

/-- The tree is closed after its workers. -/
def TreeClosed (scope : Scope) (calls : List ClosureCall) : Prop :=
  ∃ before c after, calls = before ++ c :: after ∧ c.ClosesTree scope ∧ WorkersClosed scope before

/-- The call passes its checks after earlier calls that have passed theirs: it says what its
method asks for, and no earlier call says otherwise. -/
def ClosureCall.Passes (scope : Scope) (generation : UInt64) (earlier : List ClosureCall)
    (d : ClosureCall) : Prop :=
  match d with
  | bindParent parent =>
    uuid parent = true ∧ ∀ c ∈ earlier, ∀ other, c.Binds other → other = parent
  | observeChild .. =>
    ∃ i id, (d.Links scope i id ∨ d.Acknowledges i id) ∧
      ∀ c ∈ earlier, ∀ other, c.Links scope i other ∨ c.Acknowledges i other → other = id
  | observeBt _ requested _ =>
    0 < requested ∧ d.ClosesTree scope ∧ WorkersClosed scope earlier
  | observeDrive wire requested _ =>
    d.IsRetained generation ∨ 0 < requested ∧ wire.Updates ∧
      ∃ stamp : Int64, 0 < stamp ∧ d.Drives scope generation stamp.toInt ∧
        ∀ c ∈ earlier, ∀ other, c.Drives scope generation other → other = stamp.toInt
  | reject => True

/-- Every call of a kind passes its checks after the calls before it. -/
def AllPass (scope : Scope) (generation : UInt64) (calls : List ClosureCall)
    (kind : ClosureCall → Bool) : Prop :=
  ∀ before c after, calls = before ++ c :: after → kind c = true →
    c.Passes scope generation before

/-- What an observer that has not rejected knows of the calls. -/
structure Knows (s : ClosureObservations) (calls : List ClosureCall) : Prop where
  parent : ∀ parent, s.parent = parent ∧ parent ≠ "" ↔ ∃ c ∈ calls, c.Binds parent
  link : ∀ i id, (s.children i).link = some id ↔ ∃ c ∈ calls, c.Links s.scope i id
  ack : ∀ i id, (s.children i).ack = some id ↔ ∃ c ∈ calls, c.Acknowledges i id
  agree : ∀ i id id', (s.children i).link = some id → (s.children i).ack = some id' → id = id'
  tree : s.btClosed = true ↔ TreeClosed s.scope calls

/-- What an observer that has not rejected the drive knows of it. -/
structure KnowsDrive (s : ClosureObservations) (calls : List ClosureCall) : Prop where
  unset : ¬ 0 < s.driveStamp → s.driveStamp = 0
  stamp : ∀ stamp : ℤ, s.driveStamp.toInt = stamp ∧ 0 < stamp ↔
    ∃ c ∈ calls, c.Drives s.scope s.generation stamp

/-- Workers are not closed for an observer that has rejected. -/
theorem ClosureObservations.rejected_of_workersClosed {s : ClosureObservations}
    (h : s.workersClosed = true) : s.rejected = false := by
  simp only [workersClosed, Bool.and_eq_true, Bool.not_eq_true'] at h
  exact h.1.1

/-- The workers are closed exactly when the calls say so. -/
theorem Knows.workersClosed_iff {s : ClosureObservations} {calls : List ClosureCall}
    (h : Knows s calls) (hrejected : s.rejected = false) :
    s.workersClosed = true ↔ WorkersClosed s.scope calls := by
  have hchild : ∀ i, ((s.children i).link.isSome && (s.children i).ack.isSome &&
      (s.children i).link == (s.children i).ack) = true ↔
        ∃ id, (∃ c ∈ calls, c.Links s.scope i id) ∧ ∃ c ∈ calls, c.Acknowledges i id := by
    intro i
    simp only [← h.link, ← h.ack]
    rcases hlink : (s.children i).link with _ | id
    · simp
    · rcases hack : (s.children i).ack with _ | id'
      · simp
      · simp only [Option.isSome_some, Bool.true_and, beq_iff_eq, Option.some.injEq]
        exact ⟨fun h ↦ ⟨id, rfl, h.symm⟩, fun ⟨x, h, h'⟩ ↦ h.trans h'.symm⟩
  unfold ClosureObservations.workersClosed WorkersClosed
  have hparent : s.parent ≠ "" ↔ ∃ parent, ∃ c ∈ calls, c.Binds parent := by
    simp only [← h.parent, exists_eq_left']
  rw [hrejected, Bool.not_false, Bool.true_and, Bool.and_eq_true, bne_iff_ne, hparent,
    List.all_eq_true]
  constructor
  · rintro ⟨hparent, hall⟩
    have hmem : ∀ i : Fin 2, i ∈ [0, 1] := Fin.forall_fin_two.mpr (by simp)
    exact ⟨hparent, fun i ↦ (hchild i).mp (hall i (hmem i))⟩
  · rintro ⟨hparent, hall⟩
    exact ⟨hparent, fun i _ ↦ (hchild i).mpr (hall i)⟩

section Snoc

variable {calls : List ClosureCall} {d : ClosureCall} {scope : Scope}

private theorem exists_mem_snoc {P : ClosureCall → Prop} :
    (∃ c ∈ calls ++ [d], P c) ↔ (∃ c ∈ calls, P c) ∨ P d := by
  simp [or_and_right, exists_or]

/-- A call of a longer history is the last one or one of the shorter history. -/
private theorem snoc_eq_split {before after : List ClosureCall} {c : ClosureCall} :
    calls ++ [d] = before ++ c :: after ↔ (calls = before ∧ d = c ∧ after = []) ∨
      ∃ rest, calls = before ++ c :: rest ∧ after = rest ++ [d] := by
  constructor
  · intro heq
    rcases List.eq_nil_or_concat' after with rfl | ⟨rest, last, rfl⟩
    · obtain ⟨hbefore, hlast⟩ := List.append_inj' heq rfl
      exact .inl ⟨hbefore, List.singleton_inj.mp hlast, rfl⟩
    · have heq : calls ++ [d] = (before ++ c :: rest) ++ [last] := by simpa using heq
      obtain ⟨hcalls, hlast⟩ := List.append_inj' heq rfl
      exact .inr ⟨rest, hcalls, congrArg (rest ++ ·) hlast.symm⟩
  · rintro (⟨rfl, rfl, rfl⟩ | ⟨rest, rfl, rfl⟩)
    · rfl
    · simp

private theorem treeClosed_snoc : TreeClosed scope (calls ++ [d]) ↔
    TreeClosed scope calls ∨ d.ClosesTree scope ∧ WorkersClosed scope calls := by
  unfold TreeClosed
  constructor
  · rintro ⟨before, c, after, heq, hc, hworkers⟩
    rcases snoc_eq_split.mp heq with ⟨rfl, rfl, rfl⟩ | ⟨rest, hcalls, rfl⟩
    · exact .inr ⟨hc, hworkers⟩
    · exact .inl ⟨before, c, rest, hcalls, hc, hworkers⟩
  · rintro (⟨before, c, rest, heq, hc, hworkers⟩ | ⟨hd, hworkers⟩)
    · exact ⟨before, c, _, snoc_eq_split.mpr (.inr ⟨rest, heq, rfl⟩), hc, hworkers⟩
    · exact ⟨calls, d, [], rfl, hd, hworkers⟩

private theorem allPass_snoc {generation : UInt64} {kind : ClosureCall → Bool} :
    AllPass scope generation (calls ++ [d]) kind ↔ AllPass scope generation calls kind ∧
      (kind d = true → d.Passes scope generation calls) := by
  constructor
  · intro h
    refine ⟨fun before c rest heq ↦ ?_, h calls d [] rfl⟩
    exact h before c _ (snoc_eq_split.mpr (.inr ⟨rest, heq, rfl⟩))
  · rintro ⟨h, hd⟩ before c after heq hkind
    rcases snoc_eq_split.mp heq with ⟨rfl, rfl, rfl⟩ | ⟨rest, hcalls, rfl⟩
    · exact hd hkind
    · exact h before c rest hcalls hkind

end Snoc

section Steps

variable {s t : ClosureObservations} {calls : List ClosureCall} {d : ClosureCall}

/-- What is known after a call. -/
theorem Knows.snoc (h : Knows s calls) (hscope : t.scope = s.scope)
    (hparent : ∀ parent, t.parent = parent ∧ parent ≠ "" ↔
      (s.parent = parent ∧ parent ≠ "") ∨ d.Binds parent)
    (hlink : ∀ i id, (t.children i).link = some id ↔
      (s.children i).link = some id ∨ d.Links s.scope i id)
    (hack : ∀ i id, (t.children i).ack = some id ↔
      (s.children i).ack = some id ∨ d.Acknowledges i id)
    (hagree : ∀ i id id', (t.children i).link = some id → (t.children i).ack = some id' →
      id = id')
    (htree : t.btClosed = true ↔
      s.btClosed = true ∨ d.ClosesTree s.scope ∧ WorkersClosed s.scope calls) :
    Knows t (calls ++ [d]) := by
  refine ⟨fun parent ↦ ?_, fun i id ↦ ?_, fun i id ↦ ?_, hagree, ?_⟩
  · rw [hparent, exists_mem_snoc, h.parent]
  · rw [hlink, exists_mem_snoc, h.link, hscope]
  · rw [hack, exists_mem_snoc, h.ack]
  · rw [htree, treeClosed_snoc, h.tree, hscope]

/-- What stays known after a call that changes nothing. -/
theorem Knows.same (h : Knows s calls) (hscope : t.scope = s.scope) (hparent : t.parent = s.parent)
    (hchildren : t.children = s.children) (htree : t.btClosed = s.btClosed)
    (hbinds : ∀ parent, ¬ d.Binds parent) (hlinks : ∀ i id, ¬ d.Links s.scope i id)
    (hacknowledges : ∀ i id, ¬ d.Acknowledges i id)
    (hcloses : ¬ d.ClosesTree s.scope) : Knows t (calls ++ [d]) := by
  refine h.snoc hscope (fun parent ↦ ?_) (fun i id ↦ ?_) (fun i id ↦ ?_) ?_ ?_
  · rw [hparent, or_iff_left (hbinds parent)]
  · rw [hchildren, or_iff_left (hlinks i id)]
  · rw [hchildren, or_iff_left (hacknowledges i id)]
  · rw [hchildren]
    exact h.agree
  · rw [htree, or_iff_left fun hd ↦ hcloses hd.1]

/-- What is known of the drive after a call that does not acknowledge it. -/
theorem KnowsDrive.same (h : KnowsDrive s calls) (hdrive : SameDrive s t)
    (hdrives : ∀ stamp, ¬ d.Drives s.scope s.generation stamp) : KnowsDrive t (calls ++ [d]) := by
  refine ⟨hdrive.driveStamp ▸ h.unset, fun stamp ↦ ?_⟩
  rw [hdrive.driveStamp, hdrive.scope, hdrive.generation, exists_mem_snoc,
    or_iff_left (hdrives stamp)]
  exact h.stamp stamp

end Steps

/-! ### Every call -/

private theorem ClosureCall.not_drives {scope : Scope} {generation : UInt64} {d : ClosureCall}
    (hd : d.isDrive = false) (stamp : ℤ) : ¬ d.Drives scope generation stamp := by
  rintro ⟨wire, requested, received, event, rfl, -⟩
  cases hd

private theorem ClosureCall.eq_of_isDrive {d : ClosureCall} (hd : d.isDrive = true) :
    ∃ wire requested received, d = .observeDrive wire requested received := by
  cases d with
  | observeDrive wire requested received => exact ⟨wire, requested, received, rfl⟩
  | _ => cases hd

/-- How a call changes what is known. -/
structure Follows (s : ClosureObservations) (calls : List ClosureCall) (d : ClosureCall)
    (output : Except String PUnit) (t : ClosureObservations) : Prop where
  scope : t.scope = s.scope
  generation : t.generation = s.generation
  rejected : t.rejected = false ↔ s.rejected = false ∧ output = .ok ⟨⟩ ∧ d ≠ .reject
  driveRejected : t.driveRejected = false ↔
    s.driveRejected = false ∧ (d.isDrive = true → output = .ok ⟨⟩)
  knows : s.rejected = false → output = .ok ⟨⟩ → d ≠ .reject → Knows s calls →
    Knows t (calls ++ [d])
  knowsDrive : s.driveRejected = false → (d.isDrive = true → output = .ok ⟨⟩) →
    KnowsDrive s calls → KnowsDrive t (calls ++ [d])

section Follows

variable {s t : ClosureObservations} {calls : List ClosureCall} {d : ClosureCall}

/-- A call that throws and does not observe the drive. -/
theorem Rejects.follows {error : String} (h : Rejects s error t) (hd : d.isDrive = false) :
    Follows s calls d (.error error) t where
  scope := h.2.scope
  generation := h.2.generation
  rejected := by
    rw [h.1]
    exact iff_of_false (fun heq ↦ by cases heq) fun hok ↦ by cases hok.2.1
  driveRejected := by
    rw [h.2.driveRejected, hd]
    exact (and_iff_left fun heq ↦ by cases heq).symm
  knows := fun _ hok ↦ by cases hok
  knowsDrive := fun _ _ hknows ↦ hknows.same h.2 (ClosureCall.not_drives hd)

/-- A call that returns and does not observe the drive. -/
theorem Follows.returns (hdrive : SameDrive s t) (hd : d.isDrive = false) (hreject : d ≠ .reject)
    (hrejected : t.rejected = s.rejected)
    (hknows : s.rejected = false → Knows s calls → Knows t (calls ++ [d])) :
    Follows s calls d (.ok ⟨⟩) t where
  scope := hdrive.scope
  generation := hdrive.generation
  rejected := by rw [hrejected, and_iff_left ⟨rfl, hreject⟩]
  driveRejected := by rw [hdrive.driveRejected, and_iff_left fun _ ↦ rfl]
  knows := fun h _ _ ↦ hknows h
  knowsDrive := fun _ _ hknows ↦ hknows.same hdrive (ClosureCall.not_drives hd)

private theorem follows_bindParent (parent : String) : Follows s calls (.bindParent parent)
    (bindParent parent s).1 (bindParent parent s).2 := by
  rcases (meets_bindParent parent).cases with ⟨_, t, heq, huuid, hsame, rfl⟩ |
    ⟨error, t, heq, hrejects⟩
  · rw [heq]
    refine .returns ⟨rfl, rfl, rfl, rfl⟩ rfl (fun h ↦ by cases h) rfl fun _ hknows ↦ ?_
    refine hknows.snoc rfl (fun other ↦ ?_) (fun i id ↦ ?_) (fun i id ↦ ?_) hknows.agree ?_
    · have hparent : parent ≠ "" := by
        rintro rfl
        exact absurd huuid (by decide)
      constructor
      · rintro ⟨rfl, -⟩
        exact .inr ⟨rfl, huuid⟩
      · rintro (⟨rfl, hother⟩ | ⟨heq, -⟩)
        · exact ⟨(hsame.resolve_left hother).symm, hother⟩
        · cases heq
          exact ⟨rfl, hparent⟩
    · refine (or_iff_left ?_).symm
      rintro ⟨_, _, h, -⟩
      cases h
    · refine (or_iff_left ?_).symm
      rintro ⟨_, _, h, -⟩
      cases h
    · refine (or_iff_left ?_).symm
      rintro ⟨⟨_, _, _, _, h, -⟩, -⟩
      cases h
  · rw [heq]
    exact hrejects.follows rfl

private theorem ack_update_link (children : Fin 2 → Child) (i j : Fin 2) (id : String) :
    (Function.update children i { children i with link := some id } j).ack = (children j).ack := by
  by_cases hsame : j = i
  · subst hsame
    rw [Function.update_self]
  · rw [Function.update_of_ne hsame]

private theorem link_update_ack (children : Fin 2 → Child) (i j : Fin 2) (id : String) :
    (Function.update children i { children i with ack := some id } j).link = (children j).link := by
  by_cases hsame : j = i
  · subst hsame
    rw [Function.update_self]
  · rw [Function.update_of_ne hsame]

private theorem follows_observeChild (index : ℕ) (acknowledgement : Bool) (wire : Wire) :
    Follows s calls (.observeChild index acknowledgement wire)
      (observeChild index acknowledgement wire s).1
      (observeChild index acknowledgement wire s).2 := by
  rcases (meets_observeChild index acknowledgement wire).cases with
    ⟨_, t, heq, i, id, ⟨hlinks, hearlier, hworker, rfl⟩ | ⟨hacks, hearlier, hchild, rfl⟩⟩ |
      ⟨error, t, heq, hrejects⟩
  · rw [heq]
    refine .returns ⟨rfl, rfl, rfl, rfl⟩ rfl (fun h ↦ by cases h) rfl fun _ hknows ↦ ?_
    refine hknows.snoc rfl (fun parent ↦ ?_) (fun j id' ↦ ?_) (fun j id' ↦ ?_)
      (fun j id' id'' ↦ ?_) ?_
    · refine (or_iff_left ?_).symm
      rintro ⟨h, -⟩
      cases h
    · dsimp only
      rcases eq_or_ne j i with rfl | hne
      · rw [Function.update_self]
        constructor
        · intro h
          exact .inr (Option.some.inj h ▸ hlinks)
        · rintro (h | h)
          · exact congrArg some (hearlier id' h).symm
          · exact congrArg some (hlinks.unique h).2
      · rw [Function.update_of_ne hne, or_iff_left fun h ↦ hne (h.unique hlinks).1]
    · rw [ack_update_link, or_iff_left]
      intro hacks
      obtain ⟨_, _, hlink, -⟩ := hlinks
      obtain ⟨_, _, hack, -⟩ := hacks
      cases (ClosureCall.observeChild.inj (hlink.symm.trans hack)).2.1
    · dsimp only
      rcases eq_or_ne j i with rfl | hne
      · rw [Function.update_self]
        intro hlink hack
        exact (Option.some.inj hlink).symm.trans (hworker id'' hack).symm
      · rw [Function.update_of_ne hne]
        exact hknows.agree j id' id''
    · refine (or_iff_left ?_).symm
      rintro ⟨⟨_, _, _, _, h, -⟩, -⟩
      cases h
  · rw [heq]
    refine .returns ⟨rfl, rfl, rfl, rfl⟩ rfl (fun h ↦ by cases h) rfl fun _ hknows ↦ ?_
    refine hknows.snoc rfl (fun parent ↦ ?_) (fun j id' ↦ ?_) (fun j id' ↦ ?_)
      (fun j id' id'' ↦ ?_) ?_
    · refine (or_iff_left ?_).symm
      rintro ⟨h, -⟩
      cases h
    · rw [link_update_ack, or_iff_left]
      intro hlinks
      obtain ⟨_, _, hlink, -⟩ := hlinks
      obtain ⟨_, _, hack, -⟩ := hacks
      cases (ClosureCall.observeChild.inj (hlink.symm.trans hack)).2.1
    · dsimp only
      rcases eq_or_ne j i with rfl | hne
      · rw [Function.update_self]
        constructor
        · intro h
          exact .inr (Option.some.inj h ▸ hacks)
        · rintro (h | h)
          · exact congrArg some (hearlier id' h).symm
          · exact congrArg some (hacks.unique h).2
      · rw [Function.update_of_ne hne, or_iff_left fun h ↦ hne (h.unique hacks).1]
    · dsimp only
      rcases eq_or_ne j i with rfl | hne
      · rw [Function.update_self]
        intro hlink hack
        exact (hchild id' hlink).trans (Option.some.inj hack)
      · rw [Function.update_of_ne hne]
        exact hknows.agree j id' id''
    · refine (or_iff_left ?_).symm
      rintro ⟨⟨_, _, _, _, h, -⟩, -⟩
      cases h
  · rw [heq]
    exact hrejects.follows rfl

private theorem follows_observeBt (wire : Wire) (requested received : Int64) :
    Follows s calls (.observeBt wire requested received)
      (observeBt wire requested received s).1 (observeBt wire requested received s).2 := by
  rcases (meets_observeBt wire requested received).cases with
    ⟨_, t, heq, -, hcloses, hworkers, rfl⟩ | ⟨error, t, heq, hrejects⟩
  · rw [heq]
    refine .returns ⟨rfl, rfl, rfl, rfl⟩ rfl (fun h ↦ by cases h) rfl fun hrejected hknows ↦ ?_
    refine hknows.snoc rfl (fun parent ↦ ?_) (fun i id ↦ ?_) (fun i id ↦ ?_) hknows.agree ?_
    · refine (or_iff_left ?_).symm
      rintro ⟨h, -⟩
      cases h
    · refine (or_iff_left ?_).symm
      rintro ⟨_, _, h, -⟩
      cases h
    · refine (or_iff_left ?_).symm
      rintro ⟨_, _, h, -⟩
      cases h
    · exact iff_of_true rfl (.inr ⟨hcloses, (hknows.workersClosed_iff hrejected).mp hworkers⟩)
  · rw [heq]
    exact hrejects.follows rfl

private theorem follows_observeDrive (wire : Wire) (requested received : Int64) :
    Follows s calls (.observeDrive wire requested received)
      (observeDrive wire requested received s).1 (observeDrive wire requested received s).2 := by
  have hother : ∀ {t : ClosureObservations}, t.scope = s.scope → t.parent = s.parent →
      t.children = s.children → t.btClosed = s.btClosed → Knows s calls →
        Knows t (calls ++ [.observeDrive wire requested received]) := by
    intro t hscope hparent hchildren htree hknows
    refine hknows.same hscope hparent hchildren htree (fun parent ↦ ?_) (fun i id ↦ ?_)
      (fun i id ↦ ?_) ?_
    · rintro ⟨h, -⟩
      cases h
    · rintro ⟨_, _, h, -⟩
      cases h
    · rintro ⟨_, _, h, -⟩
      cases h
    · rintro ⟨_, _, _, _, h, -⟩
      cases h
  rcases (meets_observeDrive wire requested received).cases with
    ⟨_, t, heq, ⟨hretained, rfl⟩ | ⟨-, -, stamp, hdrives, hpos, hseen, rfl⟩⟩ |
      ⟨error, t, heq, hrejects⟩
  · rw [heq]
    refine ⟨rfl, rfl, (and_iff_left ⟨rfl, fun h ↦ by cases h⟩).symm,
      (and_iff_left fun _ ↦ rfl).symm, fun _ _ _ hknows ↦ hother rfl rfl rfl rfl hknows, ?_⟩
    exact fun _ _ hknows ↦ hknows.same .refl fun stamp ↦ hretained.not_drives stamp
  · rw [heq]
    refine ⟨rfl, rfl, (and_iff_left ⟨rfl, fun h ↦ by cases h⟩).symm,
      (and_iff_left fun _ ↦ rfl).symm, fun _ _ _ hknows ↦ hother rfl rfl rfl rfl hknows, ?_⟩
    refine fun _ _ hknows ↦ ⟨fun hno ↦ absurd hpos hno, fun n ↦ ?_⟩
    rw [exists_mem_snoc]
    have hstamp : 0 < stamp.toInt := Int64.lt_iff_toInt_lt.mp hpos
    constructor
    · rintro ⟨rfl, -⟩
      exact .inr hdrives
    · rintro (h | h)
      · obtain ⟨rfl, hn⟩ := (hknows.stamp n).mpr h
        rcases hseen with hseen | hseen
        · rw [hseen] at hn
          exact absurd hn (by decide)
        · rw [hseen]
          exact ⟨rfl, hstamp⟩
      · rw [hdrives.unique h] at hstamp
        exact ⟨hdrives.unique h, hstamp⟩
  · rw [heq]
    obtain ⟨hrejected, hdriveRejected, hscope, hgeneration⟩ := hrejects
    refine ⟨hscope, hgeneration, ?_, ?_, fun _ hok ↦ ?_, fun _ hok ↦ ?_⟩
    · rw [hrejected]
      exact iff_of_false (fun h ↦ by cases h) fun h ↦ by cases h.2.1
    · rw [hdriveRejected]
      exact iff_of_false (fun h ↦ by cases h) fun h ↦ by cases h.2 rfl
    · cases hok
    · cases hok rfl

/-- What each call keeps known. -/
theorem follows (d : ClosureCall) : Follows s calls d (d.run s).1 (d.run s).2 := by
  cases d with
  | bindParent parent => exact follows_bindParent parent
  | observeChild index acknowledgement wire =>
    exact follows_observeChild index acknowledgement wire
  | observeBt wire requested received => exact follows_observeBt wire requested received
  | observeDrive wire requested received => exact follows_observeDrive wire requested received
  | reject =>
    refine ⟨rfl, rfl, ?_, ?_, fun _ _ h ↦ absurd rfl h, ?_⟩
    · exact iff_of_false (fun h ↦ by cases h) fun h ↦ h.2.2 rfl
    · exact (and_iff_left fun h ↦ by cases h).symm
    · exact fun _ _ hknows ↦ hknows.same ⟨rfl, rfl, rfl, rfl⟩ (ClosureCall.not_drives rfl)

end Follows

/-! ### Which calls pass -/

section Passes

variable {s : ClosureObservations} {calls : List ClosureCall}

/-- An observation of the drive returns exactly when it passes its checks. -/
theorem KnowsDrive.returns_iff (h : KnowsDrive s calls) (wire : Wire)
    (requested received : Int64) : (observeDrive wire requested received s).1 = .ok ⟨⟩ ↔
      (ClosureCall.observeDrive wire requested received).Passes s.scope s.generation calls := by
  constructor
  · intro hok
    rcases (meets_observeDrive wire requested received).returned hok with
      ⟨hretained, -⟩ | ⟨hrequested, hupdates, stamp, hdrives, hpos, hseen, -⟩
    · exact .inl hretained
    refine .inr ⟨hrequested, hupdates, stamp, hpos, hdrives, fun c hc other hother ↦ ?_⟩
    obtain ⟨rfl, hother⟩ := (h.stamp other).mpr ⟨c, hc, hother⟩
    rcases hseen with hzero | hseen
    · rw [hzero] at hother
      exact absurd hother (by decide)
    · rw [hseen]
  · rintro (hretained | ⟨hrequested, hupdates, stamp, hpos, hdrives, hsame⟩)
    · exact congrArg Prod.fst (run_retained hretained)
    refine congrArg Prod.fst (observeDrive_of_drives hrequested hupdates hdrives hpos ?_)
    by_cases hseen : 0 < s.driveStamp
    · obtain ⟨c, hc, hother⟩ := (h.stamp _).mp ⟨rfl, Int64.lt_iff_toInt_lt.mp hseen⟩
      exact .inr (Int64.toInt_inj.mp (hsame c hc _ hother))
    · exact .inl (h.unset hseen)

/-- A call returns exactly when it passes its checks. -/
theorem Knows.returns_iff (h : Knows s calls) (hdrive : KnowsDrive s calls)
    (hrejected : s.rejected = false) (d : ClosureCall) :
    (d.run s).1 = .ok ⟨⟩ ↔ d.Passes s.scope s.generation calls := by
  cases d with
  | bindParent parent =>
    constructor
    · intro hok
      obtain ⟨huuid, hsame, -⟩ := (meets_bindParent parent).returned hok
      refine ⟨huuid, fun c hc other hother ↦ ?_⟩
      obtain ⟨rfl, hother⟩ := (h.parent other).mpr ⟨c, hc, hother⟩
      exact hsame.resolve_left hother
    · rintro ⟨huuid, hsame⟩
      refine congrArg Prod.fst (bindParent_of_same huuid ?_)
      by_cases hempty : s.parent = ""
      · exact .inl hempty
      · obtain ⟨c, hc, hbinds⟩ := (h.parent s.parent).mp ⟨rfl, hempty⟩
        exact .inr (hsame c hc _ hbinds)
  | observeChild index acknowledgement wire =>
    constructor
    · intro hok
      obtain ⟨i, id, hsays⟩ := (meets_observeChild index acknowledgement wire).returned hok
      rcases hsays with ⟨hlinks, hearlier, hworker, -⟩ | ⟨hacks, hearlier, hchild, -⟩
      · refine ⟨i, id, .inl hlinks, fun c hc other hother ↦ ?_⟩
        rcases hother with hother | hother
        · exact hearlier other ((h.link i other).mpr ⟨c, hc, hother⟩)
        · exact hworker other ((h.ack i other).mpr ⟨c, hc, hother⟩)
      · refine ⟨i, id, .inr hacks, fun c hc other hother ↦ ?_⟩
        rcases hother with hother | hother
        · exact hchild other ((h.link i other).mpr ⟨c, hc, hother⟩)
        · exact hearlier other ((h.ack i other).mpr ⟨c, hc, hother⟩)
    · rintro ⟨i, id, hsays, hsame⟩
      have hlink : ∀ other, (s.children i).link = some other → other = id := by
        intro other hother
        obtain ⟨c, hc, hlinks⟩ := (h.link i other).mp hother
        exact hsame c hc other (.inl hlinks)
      have hack : ∀ other, (s.children i).ack = some other → other = id := by
        intro other hother
        obtain ⟨c, hc, hacks⟩ := (h.ack i other).mp hother
        exact hsame c hc other (.inr hacks)
      rcases hsays with hlinks | hacks
      · have ⟨_, _, heq, _⟩ := hlinks
        cases heq
        exact congrArg Prod.fst (observeChild_of_links hlinks hlink hack)
      · have ⟨_, _, heq, _⟩ := hacks
        cases heq
        exact congrArg Prod.fst (observeChild_of_acknowledges hacks hack hlink)
  | observeBt wire requested received =>
    have hworkers := h.workersClosed_iff hrejected
    constructor
    · intro hok
      obtain ⟨hpos, hcloses, hclosed, -⟩ :=
        (meets_observeBt wire requested received).returned hok
      exact ⟨hpos, hcloses, hworkers.mp hclosed⟩
    · rintro ⟨hpos, hcloses, hclosed⟩
      exact congrArg Prod.fst (observeBt_of_closes hpos hcloses (hworkers.mpr hclosed))
  | observeDrive wire requested received => exact hdrive.returns_iff wire requested received
  | reject => exact iff_of_true rfl trivial

end Passes

/-! ### Every history -/

/-- An observer of a scope and a generation. -/
def closureObservations (scope : Scope) (generation : UInt64) : ClosureObservations :=
  { scope, generation }

/-- The observer after a history of calls. -/
def observeAll (scope : Scope) (generation : UInt64) (calls : List ClosureCall) :
    ClosureObservations :=
  closureMachine.run (closureObservations scope generation) calls

/-- No call of a history threw. -/
def NoneFailed (scope : Scope) (generation : UInt64) (calls : List ClosureCall)
    (kind : ClosureCall → Bool) : Prop :=
  ∀ e ∈ closureMachine.trace (closureObservations scope generation) calls,
    kind e.input = true → e.output = .ok ⟨⟩

/-- What is known after a history. -/
structure Established (scope : Scope) (generation : UInt64) (calls : List ClosureCall)
    (s : ClosureObservations) : Prop where
  sameScope : s.scope = scope
  sameGeneration : s.generation = generation
  rejected : s.rejected = false ↔
    NoneFailed scope generation calls (fun _ ↦ true) ∧ .reject ∉ calls
  driveRejected : s.driveRejected = false ↔ NoneFailed scope generation calls ClosureCall.isDrive
  passed : s.rejected = false ↔
    AllPass scope generation calls (fun _ ↦ true) ∧ .reject ∉ calls
  drivePassed : s.driveRejected = false ↔ AllPass scope generation calls ClosureCall.isDrive
  knows : s.rejected = false → Knows s calls
  knowsDrive : s.driveRejected = false → KnowsDrive s calls

private theorem noneFailed_snoc {scope : Scope} {generation : UInt64} {calls : List ClosureCall}
    {d : ClosureCall} {kind : ClosureCall → Bool} :
    NoneFailed scope generation (calls ++ [d]) kind ↔ NoneFailed scope generation calls kind ∧
      (kind d = true → (d.run (observeAll scope generation calls)).1 = .ok ⟨⟩) := by
  unfold NoneFailed
  rw [Mealy.trace_append, List.forall_mem_append]
  simp only [Mealy.trace_cons, Mealy.trace_nil, List.forall_mem_singleton]
  rfl

private theorem observeAll_snoc (scope : Scope) (generation : UInt64) (calls : List ClosureCall)
    (d : ClosureCall) : observeAll scope generation (calls ++ [d]) =
      (d.run (observeAll scope generation calls)).2 := by
  unfold observeAll
  rw [Mealy.run_append]
  rfl

/-- An observer that has rejected the drive has rejected. -/
theorem Established.driveRejected_of_rejected {scope : Scope} {generation : UInt64}
    {calls : List ClosureCall} {s : ClosureObservations}
    (h : Established scope generation calls s) (hrejected : s.rejected = false) :
    s.driveRejected = false :=
  h.driveRejected.mpr fun e he _ ↦ (h.rejected.mp hrejected).1 e he rfl

private theorem established (scope : Scope) (generation : UInt64) (calls : List ClosureCall) :
    Established scope generation calls (observeAll scope generation calls) := by
  induction calls using List.reverseRecOn with
  | nil =>
    have hnil : ∀ {kind}, AllPass scope generation [] kind := by
      intro kind before c after heq
      simp at heq
    refine ⟨rfl, rfl, ?_, ?_, iff_of_true rfl ⟨hnil, List.not_mem_nil⟩, iff_of_true rfl hnil,
      fun _ ↦ ?_, fun _ ↦ ⟨fun _ ↦ rfl, fun stamp ↦ ?_⟩⟩
    · exact iff_of_true rfl ⟨fun e he ↦ (List.not_mem_nil he).elim, List.not_mem_nil⟩
    · exact iff_of_true rfl fun e he ↦ (List.not_mem_nil he).elim
    · have hnone : ∀ {P : ClosureCall → Prop}, ¬ ∃ c ∈ [], P c := by simp
      refine ⟨fun parent ↦ ?_, fun i id ↦ ?_, fun i id ↦ ?_, fun i id id' h ↦ ?_, ?_⟩
      · exact iff_of_false (fun h ↦ h.2 h.1.symm) hnone
      · exact iff_of_false (fun h ↦ by cases h) hnone
      · exact iff_of_false (fun h ↦ by cases h) hnone
      · cases h
      · refine iff_of_false (fun h ↦ by cases h) ?_
        rintro ⟨before, c, after, h, -⟩
        simp at h
    · refine iff_of_false ?_ (by simp)
      rintro ⟨rfl, hpos⟩
      exact Int.lt_irrefl 0 hpos
  | append_singleton calls d ih =>
    have hstep := @follows (observeAll scope generation calls) calls d
    rw [observeAll_snoc]
    refine ⟨hstep.scope.trans ih.sameScope, hstep.generation.trans ih.sameGeneration, ?_, ?_, ?_,
      ?_, ?_, ?_⟩
    · rw [hstep.rejected, ih.rejected, noneFailed_snoc, List.mem_append, List.mem_singleton, not_or]
      constructor
      · rintro ⟨⟨hbefore, hno⟩, hok, hd⟩
        exact ⟨⟨hbefore, fun _ ↦ hok⟩, hno, fun h ↦ hd h.symm⟩
      · rintro ⟨⟨hbefore, hok⟩, hno, hd⟩
        exact ⟨⟨hbefore, hno⟩, hok rfl, fun h ↦ hd h.symm⟩
    · rw [hstep.driveRejected, ih.driveRejected, noneFailed_snoc]
    · rw [hstep.rejected, allPass_snoc, List.mem_append, List.mem_singleton, not_or]
      have hreturns : ∀ hrejected : (observeAll scope generation calls).rejected = false,
          (d.run (observeAll scope generation calls)).1 = .ok ⟨⟩ ↔
            d.Passes scope generation calls := by
        intro hrejected
        have hdrive := ih.knowsDrive (ih.driveRejected_of_rejected hrejected)
        have hreturns := (ih.knows hrejected).returns_iff hdrive hrejected d
        rwa [ih.sameScope, ih.sameGeneration] at hreturns
      constructor
      · rintro ⟨hbefore, hok, hd⟩
        obtain ⟨hpass, hno⟩ := ih.passed.mp hbefore
        exact ⟨⟨hpass, fun _ ↦ (hreturns hbefore).mp hok⟩, hno, fun h ↦ hd h.symm⟩
      · rintro ⟨⟨hpass, hd⟩, hno, hreject⟩
        have hbefore := ih.passed.mpr ⟨hpass, hno⟩
        exact ⟨hbefore, (hreturns hbefore).mpr (hd rfl), fun h ↦ hreject h.symm⟩
    · rw [hstep.driveRejected, allPass_snoc, ← ih.drivePassed]
      refine and_congr_right fun hbefore ↦ imp_congr_right fun hd ↦ ?_
      obtain ⟨wire, requested, received, rfl⟩ := ClosureCall.eq_of_isDrive hd
      have hreturns := (ih.knowsDrive hbefore).returns_iff wire requested received
      rwa [ih.sameScope, ih.sameGeneration] at hreturns
    · intro hrejected
      obtain ⟨hbefore, hok, hreject⟩ := hstep.rejected.mp hrejected
      exact hstep.knows hbefore hok hreject (ih.knows hbefore)
    · intro hrejected
      obtain ⟨hbefore, hok⟩ := hstep.driveRejected.mp hrejected
      exact hstep.knowsDrive hbefore hok (ih.knowsDrive hbefore)

/-- A call that does not observe the drive leaves what is known of it. -/
theorem sameDrive_run (s : ClosureObservations) {d : ClosureCall} (hd : d.isDrive = false) :
    SameDrive s (d.run s).2 := by
  cases d with
  | bindParent parent =>
    rcases (meets_bindParent parent).cases with ⟨_, t, heq, -, -, rfl⟩ | ⟨e, t, heq, -, hsame⟩
    · exact (congrArg (SameDrive s ·.2) heq).mpr ⟨rfl, rfl, rfl, rfl⟩
    · exact (congrArg (SameDrive s ·.2) heq).mpr hsame
  | observeChild index acknowledgement wire =>
    rcases (meets_observeChild index acknowledgement wire).cases with
      ⟨_, t, heq, i, id, ⟨-, -, -, rfl⟩ | ⟨-, -, -, rfl⟩⟩ | ⟨e, t, heq, -, hsame⟩
    · exact (congrArg (SameDrive s ·.2) heq).mpr ⟨rfl, rfl, rfl, rfl⟩
    · exact (congrArg (SameDrive s ·.2) heq).mpr ⟨rfl, rfl, rfl, rfl⟩
    · exact (congrArg (SameDrive s ·.2) heq).mpr hsame
  | observeBt wire requested received =>
    rcases (meets_observeBt wire requested received).cases with
      ⟨_, t, heq, -, -, -, rfl⟩ | ⟨e, t, heq, -, hsame⟩
    · exact (congrArg (SameDrive s ·.2) heq).mpr ⟨rfl, rfl, rfl, rfl⟩
    · exact (congrArg (SameDrive s ·.2) heq).mpr hsame
  | observeDrive wire requested received => cases hd
  | reject => exact ⟨rfl, rfl, rfl, rfl⟩

/-- The calls of a shorter history pass. -/
theorem AllPass.of_append {scope : Scope} {generation : UInt64} {calls more : List ClosureCall}
    {kind : ClosureCall → Bool} (h : AllPass scope generation (calls ++ more) kind) :
    AllPass scope generation calls kind := by
  intro before c after heq
  exact h before c (after ++ more) (by rw [heq, List.append_assoc, List.cons_append])

/-- The drive is closed exactly when every observation of it passes and one acknowledges it. -/
theorem Established.driveClosed_iff {scope : Scope} {generation : UInt64}
    {calls : List ClosureCall} {s : ClosureObservations}
    (h : Established scope generation calls s) :
    s.driveClosed = true ↔ AllPass scope generation calls ClosureCall.isDrive ∧
      ∃ c ∈ calls, ∃ stamp, c.Drives scope generation stamp := by
  unfold ClosureObservations.driveClosed
  rw [Bool.and_eq_true, Bool.not_eq_true', decide_eq_true_eq, ← h.drivePassed,
    Int64.lt_iff_toInt_lt]
  refine and_congr_right fun hrejected ↦ ?_
  have hknows := (h.knowsDrive hrejected).stamp
  rw [h.sameScope, h.sameGeneration] at hknows
  constructor
  · intro hpos
    obtain ⟨c, hc, hdrives⟩ := (hknows s.driveStamp.toInt).mp ⟨rfl, hpos⟩
    exact ⟨c, hc, _, hdrives⟩
  · rintro ⟨c, hc, stamp, hdrives⟩
    obtain ⟨heq, hpos⟩ := (hknows stamp).mpr ⟨c, hc, hdrives⟩
    rw [heq]
    exact hpos

/-- After every history of calls the observer is closed exactly when each call passes its checks
after the ones before it, none rejects, and the history is complete: the workers, after them the
tree, and the drive, whose acknowledgements agree on their stamp. The calls that pass are the ones
that return. An acknowledgement of an earlier generation changes nothing, a history with a call
that does not pass is never closed again, and the isolation of the drive rests on the observations
of the drive alone. -/
theorem closed_iff_history (scope : Scope) (generation : UInt64) (calls : List ClosureCall) :
    ((observeAll scope generation calls).closed = true ↔
      (AllPass scope generation calls (fun _ ↦ true) ∧ .reject ∉ calls) ∧
        WorkersClosed scope calls ∧ TreeClosed scope calls ∧
        (∃ c ∈ calls, ∃ stamp, c.Drives scope generation stamp) ∧
        ∀ c ∈ calls, ∀ c' ∈ calls, ∀ stamp stamp', c.Drives scope generation stamp →
          c'.Drives scope generation stamp' → stamp = stamp') ∧
      (AllPass scope generation calls (fun _ ↦ true) ∧ .reject ∉ calls ↔
        NoneFailed scope generation calls (fun _ ↦ true) ∧ .reject ∉ calls) ∧
      (AllPass scope generation calls ClosureCall.isDrive ↔
        NoneFailed scope generation calls ClosureCall.isDrive) ∧
      (∀ d : ClosureCall, d.IsRetained generation →
        d.run (observeAll scope generation calls) = (.ok ⟨⟩, observeAll scope generation calls)) ∧
      (¬ (AllPass scope generation calls (fun _ ↦ true) ∧ .reject ∉ calls) →
        ∀ more, (observeAll scope generation (calls ++ more)).closed = false) ∧
      ((observeAll scope generation calls).driveClosed = true ↔
        AllPass scope generation calls ClosureCall.isDrive ∧
          ∃ c ∈ calls, ∃ stamp, c.Drives scope generation stamp) ∧
      ∀ d : ClosureCall, d.isDrive = false →
        (observeAll scope generation (calls ++ [d])).driveClosed =
          (observeAll scope generation calls).driveClosed := by
  have h := established scope generation calls
  refine ⟨?_, h.passed.symm.trans h.rejected, h.drivePassed.symm.trans h.driveRejected,
    fun d hd ↦ ?_, fun hno more ↦ ?_, h.driveClosed_iff, fun d hd ↦ ?_⟩
  · constructor
    · intro hclosed
      simp only [ClosureObservations.closed, Bool.and_eq_true] at hclosed
      obtain ⟨⟨hworkers, htree⟩, hdrive⟩ := hclosed
      have hrejected := ClosureObservations.rejected_of_workersClosed hworkers
      have hknows := h.knows hrejected
      have hscope := h.sameScope
      obtain ⟨hpass, hdrives⟩ := h.driveClosed_iff.mp hdrive
      have hseen := (h.knowsDrive (h.drivePassed.mpr hpass)).stamp
      rw [h.sameScope, h.sameGeneration] at hseen
      refine ⟨h.passed.mp hrejected, hscope ▸ (hknows.workersClosed_iff hrejected).mp hworkers,
        hscope ▸ hknows.tree.mp htree, hdrives, fun c hc c' hc' stamp stamp' hstamp hstamp' ↦ ?_⟩
      exact ((hseen stamp).mpr ⟨c, hc, hstamp⟩).1.symm.trans
        ((hseen stamp').mpr ⟨c', hc', hstamp'⟩).1
    · rintro ⟨hsound, hworkers, htree, hdrives, -⟩
      have hrejected := h.passed.mpr hsound
      have hknows := h.knows hrejected
      have hscope := h.sameScope
      simp only [ClosureObservations.closed, Bool.and_eq_true]
      refine ⟨⟨(hknows.workersClosed_iff hrejected).mpr (hscope.symm ▸ hworkers),
        hknows.tree.mpr (hscope.symm ▸ htree)⟩, h.driveClosed_iff.mpr ⟨?_, hdrives⟩⟩
      exact fun before c after heq _ ↦ hsound.1 before c after heq rfl
  · exact run_retained (h.sameGeneration.symm ▸ hd)
  · refine Bool.eq_false_iff.mpr fun hclosed ↦ hno ?_
    simp only [ClosureObservations.closed, Bool.and_eq_true] at hclosed
    obtain ⟨hpass, hreject⟩ := (established scope generation (calls ++ more)).passed.mp
      (ClosureObservations.rejected_of_workersClosed hclosed.1.1)
    exact ⟨hpass.of_append, fun hmem ↦ hreject (List.mem_append_left more hmem)⟩
  · rw [observeAll_snoc]
    have hsame := sameDrive_run (observeAll scope generation calls) hd
    rw [ClosureObservations.driveClosed, ClosureObservations.driveClosed, hsame.driveRejected,
      hsame.driveStamp]

/-- A scope. -/
def testScope : Scope := ⟨"aaaaaaaaaaaaaaaaaaaaaaaaaaaaaaaa", by decide⟩

/-- A history that ends closed: an acknowledgement of an earlier task, the workers before their
links, the parent, the tree, the drive, and a worker again. -/
def testHistory : List ClosureCall :=
  let planner := "cccccccccccccccccccccccccccccccc"
  let controller := "dddddddddddddddddddddddddddddddd"
  let link (action id : String) : Wire := ⟨160, .object
    [("event", .string "navigation_child_link"), ("scope_id", .string testScope.val),
      ("action", .string action), ("child_uuid", .string id)]⟩
  let ack (action id : String) : Wire := ⟨150, .object
    [("event", .string (action ++ "_worker_ack")), ("goal_uuid", .string id),
      ("worker_future_ready", .boolean true), ("endpoint_sealed", .boolean true)]⟩
  let drive (generation : UInt64) : Parsed := .object
    [("event", .string "motion_scope_applied"), ("scope_id", .string testScope.val),
      ("sealed", .boolean true), ("wheel_targets_zero", .boolean true),
      ("steady_ns", .unsigned 500), ("update_sequence", .unsigned 5), ("sim_ns", .unsigned 600),
      ("generation", .unsigned generation)]
  [.observeDrive ⟨210, drive 1⟩ 0 550,
    .observeChild 0 true (ack "compute_path_to_pose" planner),
    .observeChild 1 true (ack "follow_path" controller),
    .observeChild 0 false (link "compute_path_to_pose" planner),
    .observeChild 1 false (link "follow_path" controller),
    .bindParent "bbbbbbbbbbbbbbbbbbbbbbbbbbbbbbbb",
    .observeBt ⟨180, .object [("event", .string "navigation_bt_closed"),
      ("scope_id", .string testScope.val), ("bt_worker_joined", .boolean true),
      ("endpoint_sealed", .boolean true), ("tree_idle", .boolean true),
      ("steady_ns", .unsigned 300)]⟩ 250 350,
    .observeDrive ⟨210, drive 2⟩ 450 550,
    .observeChild 1 true (ack "follow_path" controller)]

/-- A complete history is closed, and a rejection keeps it from being closed again. -/
theorem closed_iff_history_testHistory :
    (observeAll testScope 2 testHistory).closed = true ∧
      (AllPass testScope 2 testHistory (fun _ ↦ true) ∧ .reject ∉ testHistory) ∧
      WorkersClosed testScope testHistory ∧ TreeClosed testScope testHistory ∧
      (∃ c ∈ testHistory, ∃ stamp, c.Drives testScope 2 stamp) ∧
      ∀ more, (observeAll testScope 2 (testHistory ++ [.reject] ++ more)).closed = false := by
  have hclosed : (observeAll testScope 2 testHistory).closed = true := by decide +kernel
  obtain ⟨hsound, hworkers, htree, hdrives, -⟩ :=
    (closed_iff_history testScope 2 testHistory).1.mp hclosed
  have hafter := (closed_iff_history testScope 2 (testHistory ++ [.reject])).2.2.2.2.1
  refine ⟨hclosed, hsound, hworkers, htree, hdrives, hafter fun hno ↦ hno.2 ?_⟩
  exact List.mem_append_right _ (List.mem_singleton_self _)

end RobotHarness.Observation
