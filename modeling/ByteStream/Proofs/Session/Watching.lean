/-
# ByteStream.Proofs.Session.Watching -- watching a session changes nothing

A session over a watched backend gives the same answers as the session without the watcher, and
leaves the same behind, but for the numbers and the log (`Kept.stepAll`). All along, the log stays
sound for the connections that the streams in the slots hold.

A command is about one slot, and a stream's own theorem speaks of that stream and of what others
hold. `Ordered.split` brings the two together: it takes the slots apart at one of them.
-/

import ByteStream.Proofs.Audit.Watching

namespace ByteStream

variable {σ κ : Type}

/-! ## Slots -/

namespace Slots

/-- The slots are in order, and none is there twice. -/
def Ordered (slots : Slots σ κ) : Prop := slots.Pairwise fun a b => a.1 < b.1

variable {slots before after : Slots σ κ}

theorem lookup_eq_none (slot : Nat) (h : ∀ entry ∈ slots, slot < entry.1) :
    slots.lookup slot = none := by
  rw [List.lookup_eq_none_iff]
  intro entry hentry
  have hlt := h entry hentry
  simp only [ne_eq, bne_iff_ne]
  omega

theorem clear_eq_self (slot : Nat) (h : ∀ entry ∈ slots, slot < entry.1) :
    clear slot slots = slots := by
  unfold clear
  rw [List.filter_eq_self]
  intro entry hentry
  have hlt := h entry hentry
  simp only [bne_iff_ne, ne_eq]
  omega

/-- At every slot the slots fall into those before it, the one itself if it is taken, and those
after it. -/
theorem Ordered.split (h : slots.Ordered) (slot : Nat) :
    ∃ before after : Slots σ κ, (before ++ after).Ordered ∧
      (∀ entry ∈ before, entry.1 < slot) ∧ (∀ entry ∈ after, slot < entry.1) ∧
      slots = before ++ (((slots.lookup slot).map (slot, ·)).toList ++ after) ∧
      (∀ t, put slot t slots = before ++ (slot, t) :: after) ∧
      clear slot slots = before ++ after := by
  induction slots with
  | nil => exact ⟨[], [], h, by simp, by simp, rfl, fun _ => rfl, rfl⟩
  | cons entry rest ih =>
    obtain ⟨n, t⟩ := entry
    obtain ⟨hfirst, hrest⟩ := List.pairwise_cons.1 h
    rcases Nat.lt_trichotomy slot n with hlt | rfl | hgt
    · have hall : ∀ entry ∈ (n, t) :: rest, slot < entry.1 := by
        intro entry hentry
        rcases List.mem_cons.1 hentry with rfl | hmem
        · exact hlt
        · have hlt' := hfirst entry hmem
          dsimp only at hlt'
          omega
      refine ⟨[], (n, t) :: rest, h, by simp, hall, ?_, ?_, clear_eq_self slot hall⟩
      · rw [lookup_eq_none slot hall]
        rfl
      · intro t'
        rw [put, if_pos hlt]
        rfl
    · refine ⟨[], rest, hrest, by simp, hfirst, ?_, ?_, ?_⟩
      · simp
      · intro t'
        rw [put, if_neg (by omega), if_pos rfl]
        rfl
      · rw [clear, List.filter_cons_of_neg (by simp)]
        exact clear_eq_self slot hfirst
    · obtain ⟨before, after, hordered, hbefore, hafter, hslots, hput, hclear⟩ := ih hrest
      have hne : (slot == n) = false := by
        rw [beq_eq_false_iff_ne]
        omega
      refine ⟨(n, t) :: before, after, ?_, ?_, hafter, ?_, ?_, ?_⟩
      · refine List.pairwise_cons.2 ⟨?_, hordered⟩
        intro entry hentry
        rcases List.mem_append.1 hentry with hmem | hmem
        · refine hfirst entry ?_
          rw [hslots]
          simp [hmem]
        · exact Nat.lt_trans hgt (hafter entry hmem)
      · intro entry hentry
        rcases List.mem_cons.1 hentry with rfl | hmem
        · exact hgt
        · exact hbefore entry hmem
      · rw [List.lookup_cons, hne, List.cons_append]
        exact congrArg _ hslots
      · intro t'
        rw [put, if_neg (by omega), if_neg (by omega), hput, List.cons_append]
      · have hkeep : (n != slot) = true := by
          rw [bne_iff_ne]
          omega
        unfold clear
        rw [List.filter_cons_of_pos (by exact hkeep), List.cons_append]
        exact congrArg _ hclear

/-- A stream between those before its slot and those after it is in order. -/
theorem Ordered.insert {slot : Nat} (h : (before ++ after).Ordered)
    (hbefore : ∀ entry ∈ before, entry.1 < slot) (hafter : ∀ entry ∈ after, slot < entry.1)
    (t : Stream σ κ) : Ordered (before ++ (slot, t) :: after) := by
  obtain ⟨hfirst, hsecond, hcross⟩ := List.pairwise_append.1 h
  refine List.pairwise_append.2 ⟨hfirst, List.pairwise_cons.2 ⟨hafter, hsecond⟩, ?_⟩
  intro entry hentry other hother
  rcases List.mem_cons.1 hother with rfl | hmem
  · exact hbefore entry hentry
  · exact hcross entry hentry other hmem

variable {σ' κ' : Type} (f : Stream σ κ → Stream σ' κ')

theorem map_put (slot : Nat) (t : Stream σ κ) (slots : Slots σ κ) :
    (put slot t slots).map (fun entry => (entry.1, f entry.2)) =
      put slot (f t) (slots.map fun entry => (entry.1, f entry.2)) := by
  induction slots with
  | nil => rfl
  | cons entry rest ih =>
    simp only [put, List.map_cons]
    split
    · rfl
    · split
      · rfl
      · rw [List.map_cons, ih]

theorem map_clear (slot : Nat) (slots : Slots σ κ) :
    (clear slot slots).map (fun entry => (entry.1, f entry.2)) =
      clear slot (slots.map fun entry => (entry.1, f entry.2)) := by
  unfold clear
  rw [List.filter_map]
  rfl

theorem lookup_map (slot : Nat) (slots : Slots σ κ) :
    (slots.map fun entry => (entry.1, f entry.2)).lookup slot = (slots.lookup slot).map f := by
  induction slots with
  | nil => rfl
  | cons entry rest ih =>
    rw [List.map_cons, List.lookup_cons, List.lookup_cons]
    cases slot == entry.1 with
    | true => rfl
    | false => exact ih

end Slots

/-! ## Sessions -/

open Audit

variable {B beyond : Backend σ κ} {close : κ → World σ → Except BackendError Unit × World σ}
  {Q : σ → List Event → Prop}

namespace Session

/-- The log is sound for what the streams in the slots hold, and no cookie provider knows of it. -/
structure Kept (Q : σ → List Event → Prop) (s : Session (Watched σ) (Numbered κ)) : Prop where
  ordered : s.slots.Ordered
  sound : Sound s.world.state.log (heldIn s.slots)
  tally : Q s.world.state.inner s.world.state.log
  blind : ∀ entry ∈ s.slots, entry.2.cookies = entry.2.cookies.unwatched.watched ∧
    entry.2.cookies.unwatched.Keeps Q

/-- What is done to the state from outside keeps what `Q` says. -/
def Command.Keeps (Q : σ → List Event → Prop) : Command σ → Prop
  | .openAt _ _ _ cookies => cookies.Keeps Q
  | .adjust change => ∀ state log, Q state log → Q (change state) log
  | .perform _ | .close | .signal _ | .listProtocols => True

/-- The second outcome is the first one without the watcher, and the log is as sound as before. -/
def Accords (Q : σ → List Event → Prop) (one : Answer × Session (Watched σ) (Numbered κ))
    (other : Answer × Session σ κ) : Prop :=
  one.1 = other.1 ∧ one.2.unwatched = other.2 ∧ one.2.Kept Q

variable {s : Session (Watched σ) (Numbered κ)} {slot : Nat}

theorem heldIn_append (before after : Slots (Watched σ) (Numbered κ)) :
    heldIn (before ++ after) = heldIn before ++ heldIn after := List.flatMap_append

theorem heldIn_cons (entry : Nat × Stream (Watched σ) (Numbered κ))
    (after : Slots (Watched σ) (Numbered κ)) :
    heldIn (entry :: after) = entry.2.held ++ heldIn after := List.flatMap_cons

/-- What a stream holds can be counted first. -/
theorem heldIn_perm (before after : Slots (Watched σ) (Numbered κ))
    (t : Stream (Watched σ) (Numbered κ)) :
    (heldIn (before ++ (slot, t) :: after)).Perm (t.held ++ heldIn (before ++ after)) := by
  rw [heldIn_append, heldIn_cons, heldIn_append]
  exact List.perm_append_comm_assoc _ _ _

theorem stream?_unwatched (s : Session (Watched σ) (Numbered κ)) (slot : Nat) :
    s.unwatched.stream? slot = (s.stream? slot).map Stream.unwatched :=
  Slots.lookup_map Stream.unwatched slot s.slots

/-- A stream in a slot is kept beside all others. -/
theorem Kept.taken (h : s.Kept Q) {t : Stream (Watched σ) (Numbered κ)}
    (ht : s.stream? slot = some t) :
    ∃ before after : Slots (Watched σ) (Numbered κ), (before ++ after).Ordered ∧
      (∀ entry ∈ before, entry.1 < slot) ∧ (∀ entry ∈ after, slot < entry.1) ∧
      s.slots = before ++ (slot, t) :: after ∧
      (∀ t', s.slots.put slot t' = before ++ (slot, t') :: after) ∧
      s.slots.clear slot = before ++ after ∧
      (∀ entry ∈ before ++ after, entry.2.cookies = entry.2.cookies.unwatched.watched ∧
        entry.2.cookies.unwatched.Keeps Q) ∧
      Stream.Kept Q (heldIn (before ++ after)) t s.world := by
  obtain ⟨before, after, hordered, hbefore, hafter, hslots, hput, hclear⟩ := h.ordered.split slot
  rw [show s.slots.lookup slot = some t from ht] at hslots
  have hthere : s.slots = before ++ (slot, t) :: after := hslots
  have hsound := h.sound
  rw [hthere] at hsound
  have hblind := h.blind
  rw [hthere] at hblind
  refine ⟨before, after, hordered, hbefore, hafter, hthere, hput, hclear, ?_, ?_⟩
  · intro entry hentry
    refine hblind entry ?_
    rcases List.mem_append.1 hentry with hmem | hmem
    · simp [hmem]
    · simp [hmem]
  · obtain ⟨hcookies, hkeeps⟩ := hblind (slot, t) (by simp)
    exact ⟨hsound.perm (heldIn_perm before after t), h.tally, hcookies, hkeeps⟩

/-- So it is kept, whatever is held by others. -/
theorem Kept.stream (h : s.Kept Q) {t : Stream (Watched σ) (Numbered κ)}
    (ht : s.stream? slot = some t) : ∃ others, Stream.Kept Q others t s.world := by
  obtain ⟨before, after, -, -, -, -, -, -, -, hkept⟩ := h.taken ht
  exact ⟨_, hkept⟩

/-- A stream that is kept beside all others may be put into its slot. -/
theorem kept_of_stream {before after : Slots (Watched σ) (Numbered κ)}
    {t : Stream (Watched σ) (Numbered κ)} {w : World (Watched σ)}
    (hordered : (before ++ after).Ordered) (hbefore : ∀ entry ∈ before, entry.1 < slot)
    (hafter : ∀ entry ∈ after, slot < entry.1)
    (hblind : ∀ entry ∈ before ++ after, entry.2.cookies = entry.2.cookies.unwatched.watched ∧
      entry.2.cookies.unwatched.Keeps Q)
    (h : Stream.Kept Q (heldIn (before ++ after)) t w) :
    Kept Q ⟨before ++ (slot, t) :: after, w⟩ where
  ordered := hordered.insert hbefore hafter t
  sound := h.sound.perm (heldIn_perm before after t).symm
  tally := h.tally
  blind := by
    intro entry hentry
    rcases List.mem_append.1 hentry with hmem | hmem
    · exact hblind entry (List.mem_append_left _ hmem)
    · rcases List.mem_cons.1 hmem with rfl | hmem
      · exact ⟨h.blind, h.cookies⟩
      · exact hblind entry (List.mem_append_right _ hmem)

/-! ### One command -/

theorem accords_performIn (hB : Tallies B close Q) (h : s.Kept Q) (slot : Nat)
    (c : Stream.Command) :
    Accords Q (s.performIn (B.watched beyond) slot c)
      (s.unwatched.performIn (B.closingBy close) slot c) := by
  unfold performIn
  rw [stream?_unwatched]
  cases ht : s.stream? slot with
  | none => exact ⟨rfl, rfl, h⟩
  | some t =>
    obtain ⟨before, after, hordered, hbefore, hafter, -, hput, -, hblind, hkept⟩ := h.taken ht
    obtain ⟨hresult, hstream, hworld, hnext⟩ :=
      (Stream.simulates_unwatched hB beyond (heldIn (before ++ after))).perform
        ⟨rfl, rfl, hkept⟩ c
    refine ⟨congrArg Answer.performed hresult, ?_, ?_⟩
    · show Session.mk _ _ = Session.mk _ _
      rw [Slots.map_put, ← hstream, ← hworld]
      rfl
    · show Kept Q ⟨s.slots.put slot _, _⟩
      rw [hput]
      exact kept_of_stream hordered hbefore hafter hblind hnext

theorem accords_close (hB : Tallies B close Q) (h : s.Kept Q) (slot : Nat) :
    Accords Q (s.run (B.watched beyond) slot .close)
      (s.unwatched.run (B.closingBy close) slot .close) := by
  simp only [run, release]
  rw [stream?_unwatched]
  cases ht : s.stream? slot with
  | none => exact ⟨rfl, rfl, h⟩
  | some t =>
    obtain ⟨before, after, hordered, -, -, -, -, hclear, hblind, hkept⟩ := h.taken ht
    obtain ⟨hworld, hsound, htally⟩ := Stream.close_unwatched hB beyond hkept
    refine ⟨rfl, ?_, ?_⟩
    · show Session.mk _ _ = Session.mk _ _
      rw [Slots.map_clear, hworld]
      rfl
    · show Kept Q ⟨s.slots.clear slot, _⟩
      rw [hclear]
      exact ⟨hordered, hsound, htally, hblind⟩

/-- A stream that was opened takes the place of the one in its slot, which is closed then. -/
theorem accords_replace (hB : Tallies B close Q) (h : s.Kept Q)
    {t : Stream (Watched σ) (Numbered κ)} {w : World (Watched σ)}
    (ht : Stream.Kept Q (heldIn s.slots) t w) (slot : Nat) :
    Accords Q (.opened, ⟨s.slots.put slot t, { s with world := w }.release (B.watched beyond) slot⟩)
      (.opened, ⟨s.unwatched.slots.put slot t.unwatched,
        { s.unwatched with world := w.unwatched }.release (B.closingBy close) slot⟩) := by
  have hstream : ∀ v : World (Watched σ),
      ({ s with world := v } : Session (Watched σ) (Numbered κ)).stream? slot = s.stream? slot :=
    fun _ => rfl
  have hstream' : ∀ v : World σ,
      ({ s.unwatched with world := v } : Session σ κ).stream? slot = s.unwatched.stream? slot :=
    fun _ => rfl
  unfold release
  rw [hstream, hstream', stream?_unwatched]
  cases hold : s.stream? slot with
  | none =>
    obtain ⟨before, after, hordered, hbefore, hafter, hslots, hput, -⟩ := h.ordered.split slot
    rw [show s.slots.lookup slot = none from hold] at hslots
    have hall : s.slots = before ++ after := hslots
    refine ⟨rfl, ?_, ?_⟩
    · show Session.mk _ _ = Session.mk _ _
      rw [Slots.map_put]
      rfl
    · show Kept Q ⟨s.slots.put slot t, w⟩
      have hblind := h.blind
      rw [hall] at ht hblind
      rw [hput]
      exact kept_of_stream hordered hbefore hafter hblind ht
  | some old =>
    obtain ⟨before, after, hordered, hbefore, hafter, hslots, hput, -, hblind, hkept⟩ :=
      h.taken hold
    -- The old stream is now the one that is looked at, and the new one is among the others.
    have hsound : Sound w.state.log (old.held ++ (t.held ++ heldIn (before ++ after))) := by
      refine ht.sound.perm ?_
      rw [hslots]
      exact ((heldIn_perm before after old).append_left t.held).trans
        (List.perm_append_comm_assoc _ _ _)
    have hrecords : Stream.Kept Q (t.held ++ heldIn (before ++ after)) old w :=
      ⟨hsound, ht.tally, hkept.blind, hkept.cookies⟩
    obtain ⟨hworld, hclosed, htally⟩ := Stream.close_unwatched hB beyond hrecords
    refine ⟨rfl, ?_, ?_⟩
    · show Session.mk _ _ = Session.mk _ _
      rw [Slots.map_put, hworld]
      rfl
    · show Kept Q ⟨s.slots.put slot t, _⟩
      rw [hput]
      exact kept_of_stream hordered hbefore hafter hblind ⟨hclosed, htally, ht.blind, ht.cookies⟩

theorem accords_openInto (hB : Tallies B close Q) (h : s.Kept Q) (slot : Nat) (address : String)
    (mode : Mode) (config : Config) {cookies : CookieProvider σ} (hcookies : cookies.Keeps Q) :
    Accords Q (s.openInto (B.watched beyond) slot address mode config cookies.watched)
      (s.unwatched.openInto (B.closingBy close) slot address mode config cookies) := by
  unfold openInto Stream.openAt
  cases Address.normalize address with
  | error e => exact ⟨rfl, rfl, h⟩
  | ok target =>
    cases target with
    | delegate hint => exact ⟨rfl, rfl, h⟩
    | openAt url =>
      -- Opening starts with a stream that holds nothing.
      have hfresh : Stream.Kept Q (heldIn s.slots)
          ({ config, cookies := cookies.watched, url, mode } : Stream (Watched σ) (Numbered κ))
          s.world := ⟨h.sound, h.tally, rfl, hcookies⟩
      obtain ⟨hresult, hstream, hworld, hnext⟩ :=
        Stream.accords_connect hB beyond hfresh rfl
      generalize hone : Stream.connect (B.watched beyond)
        ({ config, cookies := cookies.watched, url, mode } : Stream (Watched σ) (Numbered κ))
        s.world = one at hresult hstream hworld hnext
      generalize hother : Stream.connect (B.closingBy close) (Stream.unwatched
        ({ config, cookies := cookies.watched, url, mode } : Stream (Watched σ) (Numbered κ)))
        s.world.unwatched = other at hresult hstream hworld
      have hother' : Stream.connect (B.closingBy close)
          ({ config, cookies, url, mode } : Stream σ κ) s.unwatched.world = other := hother
      dsimp only
      rw [hone, hother', ← hresult, hstream, hworld]
      cases hanswer : one.result with
      | error e =>
        have hnone : one.stream.held = [] := by
          rw [← hone] at hanswer ⊢
          rw [Stream.stream_of_connect_error hanswer]
          rfl
        refine ⟨rfl, rfl, h.ordered, ?_, hnext.tally, h.blind⟩
        have hsound := hnext.sound
        rwa [hnone] at hsound
      | ok _ => exact accords_replace hB h hnext slot

/-- **Watching one command changes nothing.** -/
theorem Kept.run (hB : Tallies B close Q) (beyond : Backend σ κ) (h : s.Kept Q) (slot : Nat)
    {c : Command σ} (hc : c.Keeps Q) :
    Accords Q (s.run (B.watched beyond) slot c.watched)
      (s.unwatched.run (B.closingBy close) slot c) := by
  cases c with
  | openAt address mode config cookies =>
    exact accords_openInto hB h slot address mode config hc
  | perform c => exact accords_performIn hB h slot c
  | close => exact accords_close hB h slot
  | signal now => exact ⟨rfl, rfl, h.ordered, h.sound, h.tally, h.blind⟩
  | adjust change => exact ⟨rfl, rfl, h.ordered, h.sound, hc _ _ h.tally, h.blind⟩
  | listProtocols => exact ⟨rfl, rfl, h⟩

/-! ### Many commands -/

theorem Kept.step (hB : Tallies B close Q) (beyond : Backend σ κ) (h : s.Kept Q) {turn : Turn σ}
    (hturn : turn.command.Keeps Q) :
    Accords Q (s.step (B.watched beyond) turn.slot turn.command.watched turn.whileBlocked)
      (s.unwatched.step (B.closingBy close) turn.slot turn.command turn.whileBlocked) := by
  have hawaiting : (s.awaiting turn.whileBlocked).Kept Q :=
    ⟨h.ordered, h.sound, h.tally, h.blind⟩
  obtain ⟨hanswer, hsession, hnext⟩ := hawaiting.run hB beyond turn.slot hturn
  refine ⟨hanswer, ?_, hnext.ordered, hnext.sound, hnext.tally, hnext.blind⟩
  exact congrArg settled hsession

/-- **Watching a session changes nothing.** -/
theorem Kept.stepAll (hB : Tallies B close Q) (beyond : Backend σ κ) (h : s.Kept Q)
    {turns : List (Turn σ)} (hturns : ∀ turn ∈ turns, turn.command.Keeps Q) :
    let one := s.stepAll (B.watched beyond) (turns.map Turn.watched)
    let other := s.unwatched.stepAll (B.closingBy close) turns
    one.1 = other.1 ∧ one.2.unwatched = other.2 ∧ one.2.Kept Q := by
  induction turns generalizing s with
  | nil => exact ⟨rfl, rfl, h⟩
  | cons turn turns ih =>
    obtain ⟨hanswer, hsession, hnext⟩ := h.step hB beyond (hturns turn (by simp))
    obtain ⟨hanswers, hlast, hkept⟩ := ih hnext fun t ht => hturns t (List.mem_cons_of_mem _ ht)
    simp only [Session.stepAll, List.map_cons]
    rw [← hsession, ← hanswer]
    exact ⟨congrArg _ hanswers, hlast, hkept⟩

/-- Giving all streams up closes what they hold. -/
theorem Kept.finish (hB : Tallies B close Q) (beyond : Backend σ κ) (h : s.Kept Q) :
    (s.finish (B.watched beyond)).unwatched = s.unwatched.finish (B.closingBy close) ∧
      (s.finish (B.watched beyond)).Kept Q := by
  obtain ⟨slots, w⟩ := s
  have hsound : Sound w.state.log (heldIn slots) := h.sound
  have htally : Q w.state.inner w.state.log := h.tally
  have hblind := h.blind
  -- Each close finds the world as the ones before have left it, so the world is not fixed.
  suffices hall : ∀ w : World (Watched σ), Sound w.state.log (heldIn slots) →
      Q w.state.inner w.state.log →
      let final := slots.foldl (fun w entry => entry.2.close (B.watched beyond) w) w
      final.unwatched = (slots.map fun entry => (entry.1, entry.2.unwatched)).foldl
          (fun w entry => entry.2.close (B.closingBy close) w) w.unwatched ∧
        Sound final.state.log [] ∧ Q final.state.inner final.state.log by
    obtain ⟨hworld, hempty, hlast⟩ := hall w hsound htally
    refine ⟨congrArg (Session.mk []) hworld, List.Pairwise.nil, hempty, hlast, ?_⟩
    intro entry hentry
    exact absurd hentry List.not_mem_nil
  clear hsound htally h
  induction slots with
  | nil => exact fun w hsound htally => ⟨rfl, hsound, htally⟩
  | cons entry rest ih =>
    intro w hsound htally
    rw [heldIn_cons] at hsound
    obtain ⟨hcookies, hkeeps⟩ := hblind entry (by simp)
    obtain ⟨hworld, hclosed, hafter⟩ := Stream.close_unwatched hB beyond
      (⟨hsound, htally, hcookies, hkeeps⟩ : Stream.Kept Q (heldIn rest) entry.2 w)
    simp only [List.foldl_cons, List.map_cons]
    rw [← hworld]
    exact ih (fun e he => hblind e (List.mem_cons_of_mem _ he)) _ hclosed hafter

end Session

end ByteStream
