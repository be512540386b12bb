/-
# ByteStream.Proofs.Session.Independence -- streams in different slots do not meet

Several streams share a store whose settings nobody changes, with no failure due, no reads that
wait for ever and no token cancelled. Take the turns of one slot out of a session and run them
alone, over any store with the same settings: they give the answers that they gave in between the
others (`streams_independent`). What the session adds to the records of the store falls into
pieces, one for each turn, and the turns of a slot alone add their own pieces in the same order. So
the records of the session are those of its slots, merged in the order of the turns.
-/

import ByteStream.Proofs.General
import ByteStream.Proofs.Memory.Sharing
import ByteStream.Session

namespace ByteStream

/-! ## Slots -/

namespace Slots

variable {σ κ : Type}

theorem lookup_put_other {slot other : Nat} (h : other ≠ slot) (s : Stream σ κ)
    (slots : Slots σ κ) : (put slot s slots).lookup other = slots.lookup other := by
  have hslot : (other == slot) = false := beq_eq_false_iff_ne.2 h
  induction slots with
  | nil => simp only [put, List.lookup_cons, hslot]
  | cons entry rest ih =>
    obtain ⟨n, t⟩ := entry
    rw [put]
    split
    · rw [List.lookup_cons, hslot]
    · split
      · rename_i hsame
        subst hsame
        simp only [List.lookup_cons, hslot]
      · rw [List.lookup_cons, List.lookup_cons, ih]

theorem lookup_clear_same (slot : Nat) (slots : Slots σ κ) :
    (clear slot slots).lookup slot = none := by
  rw [List.lookup_eq_none_iff]
  intro entry hentry
  have hkept := (List.mem_filter.1 hentry).2
  rw [bne_iff_ne] at hkept
  exact bne_iff_ne.2 (Ne.symm hkept)

end Slots

namespace Session

open Memory

variable {T : Token → Prop} {settings : Memory.Settings} {waits slot other : Nat}

/-! ## Turns that spare the tokens -/

/-- The command cancels none of the tokens, changes nothing of the store by itself, and opens
streams only with one of the tokens or with none. -/
def Command.Spares (T : Token → Prop) : Command Store → Prop
  | .openAt _ _ config cookies =>
    (∀ token, config.cancel = some token → T token) ∧ cookies.LeavesBackendAlone ∧ cookies.Spares T
  | .signal now => now.Spares T
  | .adjust _ => False
  | .perform _ | .close | .listProtocols => True

/-- So does the turn, signals that come meanwhile included. -/
def Turn.Spares (T : Token → Prop) (turn : Turn Store) : Prop :=
  turn.command.Spares T ∧ ∀ now ∈ turn.whileBlocked, now.Spares T

/-! ## Two sessions side by side -/

/-- The streams are the same but for the number of their connection. -/
def SameButNumber (T : Token → Prop) (s t : Stream Store Connection) : Prop :=
  (∃ id, t = s.renumber id) ∧ s.Guarded T

/-- In this slot both sessions have such streams or none, and their stores serve undisturbed. -/
structure SameInSlot (T : Token → Prop) (settings : Memory.Settings) (waits slot : Nat)
    (one two : Session Store Connection) : Prop where
  here : Serves T settings waits one.world
  there : Serves T settings waits two.world
  streams : Option.Rel (SameButNumber T) (one.stream? slot) (two.stream? slot)

/-- The answers are the same, the sessions are still the same in the slot, and either store has
recorded the same; the one session has left all other slots alone. -/
structure TurnAlike (T : Token → Prop) (settings : Memory.Settings) (waits slot : Nat)
    (one two : Session Store Connection) (r r' : Answer × Session Store Connection) : Prop where
  answer : r.1 = r'.1
  sameInSlot : SameInSlot T settings waits slot r.2 r'.2
  grew : ∃ p, Grew one.world.state r.2.world.state p ∧ Grew two.world.state r'.2.world.state p
  others : ∀ other, other ≠ slot → r.2.stream? other = one.stream? other

variable {one two : Session Store Connection}

/-- Where nothing but the worlds has moved. -/
theorem SameInSlot.moved (h : SameInSlot T settings waits slot one two) (answer : Answer)
    {w v : World Store} (hhere : Serves T settings waits w) (hthere : Serves T settings waits v)
    {p : Records} (hgrew : Grew one.world.state w.state p ∧ Grew two.world.state v.state p) :
    TurnAlike T settings waits slot one two (answer, { one with world := w })
      (answer, { two with world := v }) :=
  ⟨rfl, ⟨hhere, hthere, h.streams⟩, ⟨p, hgrew⟩, fun _ _ => rfl⟩

/-- Where both sessions have put such streams into the slot. -/
theorem SameInSlot.put (answer : Answer) {s t : Stream Store Connection}
    (hstreams : SameButNumber T s t)
    {w v : World Store} (hhere : Serves T settings waits w) (hthere : Serves T settings waits v)
    {p : Records} (hgrew : Grew one.world.state w.state p ∧ Grew two.world.state v.state p) :
    TurnAlike T settings waits slot one two (answer, ⟨one.slots.put slot s, w⟩)
      (answer, ⟨two.slots.put slot t, v⟩) := by
  refine ⟨rfl, ⟨hhere, hthere, ?_⟩, ⟨p, hgrew⟩, fun _ h => Slots.lookup_put_other h ..⟩
  show Option.Rel (SameButNumber T) ((one.slots.put slot s).lookup slot)
    ((two.slots.put slot t).lookup slot)
  rw [Slots.lookup_put_same, Slots.lookup_put_same]
  exact .some hstreams

/-- At first nothing has been added to the records of either. -/
theorem SameButNumber.recordAlike {s t : Stream Store Connection} (h : SameButNumber T s t)
    {w v : World Store} (hhere : Serves T settings waits w) (hthere : Serves T settings waits v) :
    Stream.RecordAlike T settings waits w v s w t v :=
  ⟨h.1, h.2, hhere, hthere, {}, grew_of_same rfl rfl, grew_of_same rfl rfl⟩

/-! ## Commands -/

theorem turnAlike_performIn (hready : settings.blockingReads = false)
    (h : SameInSlot T settings waits slot one two) (c : Stream.Command) :
    TurnAlike T settings waits slot one two (one.performIn backend slot c)
      (two.performIn backend slot c) := by
  have hgrew : Grew one.world.state one.world.state {} ∧ Grew two.world.state two.world.state {} :=
    ⟨grew_of_same rfl rfl, grew_of_same rfl rfl⟩
  have hstreams := h.streams
  unfold performIn
  generalize hone : one.stream? slot = found at hstreams
  generalize htwo : two.stream? slot = found' at hstreams
  cases hstreams with
  | none => exact h.moved .noStream h.here h.there hgrew
  | some hsameButNumber =>
    have hstart := hsameButNumber.recordAlike h.here h.there
    obtain ⟨hanswer, hnext⟩ :=
      (Stream.simulates_recordAlike hready one.world two.world).perform hstart c
    obtain ⟨p, hgrown⟩ := hnext.grew
    dsimp only
    rw [hanswer]
    exact SameInSlot.put _ ⟨hnext.stream, hnext.guarded⟩ hnext.here hnext.there hgrown

/-- Giving up what is in the slot is no more than that. -/
theorem serves_release {s : Session Store Connection} (h : Serves T settings waits s.world)
    (slot : Nat) : Serves T settings waits (s.release backend slot) ∧
      Grew s.world.state (s.release backend slot).state {} := by
  unfold release
  cases s.stream? slot with
  | none => exact ⟨h, grew_of_same rfl rfl⟩
  | some stream => exact Stream.serves_close stream h

theorem turnAlike_close (h : SameInSlot T settings waits slot one two) :
    TurnAlike T settings waits slot one two (one.run backend slot .close)
      (two.run backend slot .close) := by
  obtain ⟨hhere, hgrew⟩ := serves_release h.here slot
  obtain ⟨hthere, hgrew'⟩ := serves_release h.there slot
  have hstreams := h.streams
  unfold run
  dsimp only
  generalize hone : one.stream? slot = found at hstreams
  generalize htwo : two.stream? slot = found' at hstreams
  cases hstreams with
  | none =>
    exact h.moved .noStream h.here h.there ⟨grew_of_same rfl rfl, grew_of_same rfl rfl⟩
  | some _ =>
    refine ⟨rfl, ⟨hhere, hthere, ?_⟩, ⟨{}, hgrew, hgrew'⟩, fun _ h => lookup_filter_ne h _⟩
    show Option.Rel (SameButNumber T) ((one.slots.clear slot).lookup slot)
      ((two.slots.clear slot).lookup slot)
    rw [Slots.lookup_clear_same, Slots.lookup_clear_same]
    exact .none

/-- Opening the address of a byte stream is connecting to its URL. -/
theorem openInto_of_url {σ κ : Type} (B : Backend σ κ) (s : Session σ κ) (slot : Nat)
    {address url : String} (hurl : Address.normalize address = .ok (.openAt url)) (mode : Mode)
    (config : Config) (cookies : CookieProvider σ) :
    let opened := Stream.connect B { config, cookies, url, mode } s.world
    s.openInto B slot address mode config cookies =
      match opened.result with
      | .ok () =>
        (.opened, ⟨s.slots.put slot opened.stream, { s with world := opened.world }.release B slot⟩)
      | .error e => (.failed e, { s with world := opened.world }) := by
  unfold openInto Stream.openAt
  rw [hurl]
  dsimp only
  cases (Stream.connect B { config, cookies, url, mode } s.world).result with
  | error e => rfl
  | ok _ => rfl

/-- Opening gives such streams, or the same hint or error. -/
theorem turnAlike_openInto (h : SameInSlot T settings waits slot one two) (address : String)
    (mode : Mode) {config : Config} {cookies : CookieProvider Store}
    (hspares : (Command.openAt address mode config cookies).Spares T) :
    TurnAlike T settings waits slot one two (one.openInto backend slot address mode config cookies)
      (two.openInto backend slot address mode config cookies) := by
  obtain ⟨hcancel, hleaves, hcookies⟩ := hspares
  have hgrew : Grew one.world.state one.world.state {} ∧ Grew two.world.state two.world.state {} :=
    ⟨grew_of_same rfl rfl, grew_of_same rfl rfl⟩
  cases hurl : Address.normalize address with
  | error e =>
    simp only [openInto, Stream.openAt, hurl]
    exact h.moved (.failed e) h.here h.there hgrew
  | ok target =>
    cases target with
    | delegate hint =>
      simp only [openInto, Stream.openAt, hurl]
      exact h.moved (.delegated hint) h.here h.there hgrew
    | openAt url =>
      -- Before it connects, a stream has no number.
      have hsameButNumber :
          SameButNumber T ({ config, cookies, url, mode } : Stream Store Connection)
          { config, cookies, url, mode } :=
        ⟨⟨0, rfl⟩, hcancel, hleaves, hcookies, fun c hc => absurd hc (by simp)⟩
      obtain ⟨hresult, hnext⟩ := (hsameButNumber.recordAlike h.here h.there).connect
      obtain ⟨p, hgrown⟩ := hnext.grew
      rw [openInto_of_url backend one slot hurl, openInto_of_url backend two slot hurl, ← hresult]
      cases (Stream.connect backend { config, cookies, url, mode } one.world).result with
      | error e => exact h.moved (.failed e) hnext.here hnext.there hgrown
      | ok _ =>
        obtain ⟨hhere, hreleased⟩ := serves_release (s := { one with world := _ }) hnext.here slot
        obtain ⟨hthere, hreleased'⟩ :=
          serves_release (s := { two with world := _ }) hnext.there slot
        exact SameInSlot.put .opened ⟨hnext.stream, hnext.guarded⟩ hhere hthere
          ⟨hgrown.1.trans hreleased, hgrown.2.trans hreleased'⟩

theorem Serves.signal {w : World Store} (h : Serves T settings waits w) {now : Signal}
    (hnow : now.Spares T) : Serves T settings waits (w.signal now) := by
  refine ⟨h.settings, h.failures, h.calm.apply hnow, ?_⟩
  show (w.signals.apply now).coming.length = waits
  rw [Signals.coming_apply, h.waits]

/-- Every such command is answered alike by sessions that are the same in the slot. -/
theorem turnAlike_run (hready : settings.blockingReads = false)
    (h : SameInSlot T settings waits slot one two) {c : Command Store} (hspares : c.Spares T) :
    TurnAlike T settings waits slot one two (one.run backend slot c) (two.run backend slot c) := by
  have hgrew : Grew one.world.state one.world.state {} ∧ Grew two.world.state two.world.state {} :=
    ⟨grew_of_same rfl rfl, grew_of_same rfl rfl⟩
  cases c with
  | openAt address mode config cookies => exact turnAlike_openInto h address mode hspares
  | perform c => exact turnAlike_performIn hready h c
  | close => exact turnAlike_close h
  | signal now =>
    exact h.moved .done (Serves.signal h.here hspares) (Serves.signal h.there hspares) hgrew
  | adjust change => exact hspares.elim
  | listProtocols => exact h.moved (.protocols backend.protocols) h.here h.there hgrew

/-! ## Turns -/

theorem Serves.awaiting {w : World Store} (h : Serves T settings waits w) {signals : List Signal}
    (hsignals : ∀ now ∈ signals, now.Spares T) :
    Serves T settings waits { w with signals := { w.signals with whileBlocked := signals } } :=
  ⟨h.settings, h.failures, h.calm.awaiting hsignals, h.waits⟩

theorem Serves.settle {w : World Store} (h : Serves T settings waits w) :
    Serves T settings waits { w with signals := w.signals.settle } := by
  refine ⟨h.settings, h.failures, h.calm.settle, ?_⟩
  show w.signals.settle.coming.length = waits
  rw [Signals.settle, Signals.coming_foldl, h.waits]

theorem turnAlike_step (hready : settings.blockingReads = false)
    (h : SameInSlot T settings waits slot one two) {turn : Turn Store} (hspares : turn.Spares T) :
    TurnAlike T settings waits slot one two (one.step backend slot turn.command turn.whileBlocked)
      (two.step backend slot turn.command turn.whileBlocked) := by
  obtain ⟨hcommand, hsignals⟩ := hspares
  have hawaiting : SameInSlot T settings waits slot (one.awaiting turn.whileBlocked)
      (two.awaiting turn.whileBlocked) :=
    ⟨Serves.awaiting h.here hsignals, Serves.awaiting h.there hsignals, h.streams⟩
  have hrun := turnAlike_run hready hawaiting hcommand
  exact ⟨hrun.answer,
    ⟨Serves.settle hrun.sameInSlot.here, Serves.settle hrun.sameInSlot.there,
      hrun.sameInSlot.streams⟩,
    hrun.grew, hrun.others⟩

/-! ## Sessions -/

/-- Of one thing for each turn, those that belong to the turns of a slot. -/
def own {α : Type} (slot : Nat) (turns : List (Turn Store)) (things : List α) : List α :=
  ((turns.zip things).filter fun pair => pair.1.slot == slot).map Prod.snd

theorem own_cons_same {α : Type} {turn : Turn Store} (h : turn.slot = slot)
    (turns : List (Turn Store)) (a : α) (things : List α) :
    own slot (turn :: turns) (a :: things) = a :: own slot turns things := by
  unfold own
  rw [List.zip_cons_cons, List.filter_cons_of_pos (by simp [h]), List.map_cons]

theorem own_cons_other {α : Type} {turn : Turn Store} (h : turn.slot ≠ slot)
    (turns : List (Turn Store)) (a : α) (things : List α) :
    own slot (turn :: turns) (a :: things) = own slot turns things := by
  unfold own
  rw [List.zip_cons_cons, List.filter_cons_of_neg (by simp [h])]

/-- The turns of a session, one after the other, and beside them those of any slot alone. -/
theorem independent_stepAll (hready : settings.blockingReads = false) {turns : List (Turn Store)}
    (hturns : ∀ turn ∈ turns, turn.Spares T) {s : Session Store Connection}
    (hs : ∀ slot, SameInSlot T settings waits slot s s) :
    ∃ pieces : List Records, pieces.length = turns.length ∧
      Grew s.world.state (s.stepAll backend turns).2.world.state (Records.join pieces) ∧
      ∀ slot alone, SameInSlot T settings waits slot s alone →
        let solo := stepAll backend alone (turns.filter fun turn => turn.slot == slot)
        solo.1 = own slot turns (s.stepAll backend turns).1 ∧
          Grew alone.world.state solo.2.world.state (Records.join (own slot turns pieces)) := by
  induction turns generalizing s with
  | nil => exact ⟨[], rfl, grew_of_same rfl rfl, fun _ _ _ => ⟨rfl, grew_of_same rfl rfl⟩⟩
  | cons turn rest ih =>
    obtain ⟨hturn, hrest⟩ := List.forall_mem_cons.1 hturns
    let now := s.step backend turn.slot turn.command turn.whileBlocked
    have hstep : TurnAlike T settings waits turn.slot s s now now :=
      turnAlike_step hready (hs turn.slot) hturn
    obtain ⟨piece, hpiece, -⟩ := hstep.grew
    -- The turn leaves the other slots alone, so the sessions are still the same in each of them.
    have hnext : ∀ slot, SameInSlot T settings waits slot now.2 now.2 := by
      intro slot
      refine ⟨hstep.sameInSlot.here, hstep.sameInSlot.here, ?_⟩
      by_cases hslot : slot = turn.slot
      · rw [hslot]
        exact hstep.sameInSlot.streams
      · rw [hstep.others slot hslot]
        exact (hs slot).streams
    obtain ⟨pieces, hlength, hgrew, halone⟩ := ih hrest hnext
    refine ⟨piece :: pieces, by simp [hlength], hpiece.trans hgrew, ?_⟩
    intro slot alone hsessions
    by_cases hslot : turn.slot = slot
    · -- The slot's own turn adds the same piece when it is taken alone.
      subst hslot
      have hboth := turnAlike_step hready hsessions hturn
      obtain ⟨piece', hpiece', halready⟩ := hboth.grew
      obtain rfl : piece' = piece := hpiece'.inj hpiece
      obtain ⟨hanswers, hgrown⟩ := halone turn.slot _ hboth.sameInSlot
      rw [List.filter_cons_of_pos (by simp)]
      refine ⟨?_, ?_⟩
      · rw [stepAll, stepAll, own_cons_same rfl]
        dsimp only
        rw [← hboth.answer, hanswers]
      · rw [own_cons_same rfl]
        exact halready.trans hgrown
    · have hlater : SameInSlot T settings waits slot now.2 alone := by
        refine ⟨hstep.sameInSlot.here, hsessions.there, ?_⟩
        rw [hstep.others slot (Ne.symm hslot)]
        exact hsessions.streams
      obtain ⟨hanswers, hgrown⟩ := halone slot alone hlater
      rw [List.filter_cons_of_neg (by simp [hslot]), stepAll, own_cons_other hslot,
        own_cons_other hslot]
      exact ⟨hanswers, hgrown⟩

/-- **Streams in different slots do not meet.** Let a session run over a store in memory with given
settings, reads that wait for ever switched off, and no failure due; let nobody change the store,
and nobody cancel a token that a stream is opened with. Then, for every slot, the turns of that slot
alone, over any store with these settings, have the answers that they have in the session. To what
is written and gone to each turn adds a piece, and what the turns of a slot add when they are alone
is their pieces, in the same order. -/
theorem streams_independent (hready : settings.blockingReads = false) {turns : List (Turn Store)}
    (hturns : ∀ turn ∈ turns, turn.Spares T) {w : World Store} (hw : Serves T settings waits w) :
    let joint := stepAll backend ⟨[], w⟩ turns
    ∃ pieces : List Records, pieces.length = turns.length ∧
      Grew w.state joint.2.world.state (Records.join pieces) ∧
      ∀ slot v, Serves T settings waits v →
        let solo := stepAll backend ⟨[], v⟩ (turns.filter fun turn => turn.slot == slot)
        solo.1 = own slot turns joint.1 ∧
          Grew v.state solo.2.world.state (Records.join (own slot turns pieces)) := by
  intro joint
  have hstart : ∀ {v}, Serves T settings waits v → ∀ slot, SameInSlot T settings waits slot
      ⟨[], w⟩ ⟨[], v⟩ := fun hv slot => ⟨hw, hv, .none⟩
  obtain ⟨pieces, hlength, hgrew, halone⟩ := independent_stepAll hready hturns (hstart hw)
  exact ⟨pieces, hlength, hgrew, fun slot v hv => halone slot ⟨[], v⟩ (hstart hv slot)⟩

/-- A store with five bytes to read, in which one can go to any position. -/
def library : World Store where
  state := { settings := { content := [104, 101, 108, 108, 111], seekable := true } }

/-- One stream reads and connects again while another is written. -/
def desks : List (Turn Store) :=
  [{ slot := 0, command := .openAt "mock://a" .read { cancel := some (.root "t") } .none },
   { slot := 1, command := .openAt "mock://b" .write {} .none },
   { slot := 0, command := .perform (.seek 1) },
   { slot := 1, command := .perform (.write [1, 2]) },
   { slot := 0, command := .perform (.read 2), whileBlocked := [.raise "f"] },
   { slot := 0, command := .perform (.control .reconnect) },
   { slot := 1, command := .perform (.write [3]) },
   { slot := 0, command := .perform (.seek 4) },
   { slot := 1, command := .close }]

theorem spares_desks : ∀ turn ∈ desks, turn.Spares (· = .root "t") := by
  intro turn hturn
  simp only [desks, List.mem_cons, List.not_mem_nil, or_false] at hturn
  have hnone : ∀ now ∈ ([] : List Signal), now.Spares (· = .root "t") := by simp
  rcases hturn with rfl | rfl | rfl | rfl | rfl | rfl | rfl | rfl | rfl
  · refine ⟨⟨?_, CookieProvider.leavesBackendAlone_none, CookieProvider.spares_none⟩, hnone⟩
    intro token htoken
    exact (Option.some.inj htoken).symm
  · refine ⟨⟨?_, CookieProvider.leavesBackendAlone_none, CookieProvider.spares_none⟩, hnone⟩
    intro token htoken
    exact absurd htoken (by simp)
  · exact ⟨trivial, hnone⟩
  · exact ⟨trivial, hnone⟩
  · exact ⟨trivial, by simp [Signal.spares_raise]⟩
  all_goals exact ⟨trivial, hnone⟩

theorem serves_library : Serves (· = .root "t") library.state.settings 0 library := by
  refine ⟨rfl, rfl, ⟨?_, by simp [library], by simp [library]⟩, rfl⟩
  rintro token rfl
  rfl

/-- The turns of either slot alone have the answers that they have together, and what is written
and gone to in the session is what they add alone. -/
theorem streams_independent_desks :
    let joint := stepAll backend ⟨[], library⟩ desks
    let reader := stepAll backend ⟨[], library⟩ (desks.filter fun turn => turn.slot == 0)
    let writer := stepAll backend ⟨[], library⟩ (desks.filter fun turn => turn.slot == 1)
    reader.1 = own 0 desks joint.1 ∧ writer.1 = own 1 desks joint.1 ∧
      joint.2.world.state.written = [1, 2, 3] ∧ writer.2.world.state.written = [1, 2, 3] ∧
      joint.2.world.state.seeks = [1, 4] ∧ reader.2.world.state.seeks = [1, 4] := by
  intro joint reader writer
  have hready : library.state.settings.blockingReads = false := rfl
  obtain ⟨_, -, -, halone⟩ := streams_independent hready spares_desks serves_library
  exact ⟨(halone 0 library serves_library).1, (halone 1 library serves_library).1,
    by decide +kernel, by decide +kernel, by decide +kernel, by decide +kernel⟩

end Session

end ByteStream
