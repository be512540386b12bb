/-
# ByteStream.Proofs.Session.Ownership -- every connection is released exactly once

Whatever a session does with its streams, every connection that the backend handed out is closed
once, or is held by one stream and still to be closed; nothing is asked of it after it was closed;
and a stream that connects again closes the old connection first, however that ends
(`connections_released_once`). When all streams have been given up, every connection has been
closed.

The backend in memory counts its connections, and subtracts one from the open ones with every
close. Its counts are those of the log, so the subtraction never meets 0: another way to close,
which would do anything at all there, makes no difference.
-/

import ByteStream.Memory
import ByteStream.Proofs.Session.Watching

namespace ByteStream

open Audit

variable {σ κ : Type} {B beyond : Backend σ κ}
  {close : κ → World σ → Except BackendError Unit × World σ} {Q : σ → List Event → Prop}

/-! ## Closing before connecting -/

namespace Stream

/-- A stream that was given up has nothing left to give up: dropping it does nothing. -/
theorem close_release (B : Backend σ κ) (s : Stream σ κ) (w w' : World σ) :
    (s.release B w).1.close B w' = w' := rfl

/-- The events of a stream that gives up what it holds. -/
def closing (B : Backend σ κ) (s : Stream (Watched σ) (Numbered κ)) (w : World σ) : List Event :=
  s.conn.toList.map fun c => .call c.id .close (B.close c.inner w).1.isOk

variable {s : Stream (Watched σ) (Numbered κ)} {w : World (Watched σ)} {others : List Nat}

theorem log_close (B beyond : Backend σ κ) (h : Kept Q others s w) :
    (s.close (B.watched beyond) w).state.log = s.closing B w.unwatched ++ w.state.log := by
  unfold Stream.close release closing
  cases hconn : s.conn with
  | none => rfl
  | some c =>
    dsimp only
    rw [watched_close (h.isOver_eq hconn)]
    rfl

/-- A stream that connects leaves one attempt in the log. -/
theorem log_connect (B beyond : Backend σ κ) (h : s.cookies = s.cookies.unwatched.watched)
    (w : World (Watched σ)) :
    ∃ made, (Stream.connect (B.watched beyond) s w).world.state.log =
      .connect made :: w.state.log := by
  rw [world_connect, request_unwatched h, watched_connect]
  exact ⟨_, rfl⟩

/-- **A stream that connects again closes first**, and then makes one attempt to connect, whether
closing succeeded or not. -/
theorem log_reconnect (B beyond : Backend σ κ) (h : Kept Q others s w) (hmode : s.mode = .read) :
    ∃ made, (s.control (B.watched beyond) .reconnect w).world.state.log =
      .connect made :: (s.closing B w.unwatched ++ w.state.log) := by
  obtain ⟨made, hlog⟩ := log_connect B beyond (s := s.emptied (B.watched beyond) w)
    h.blind (s.close (B.watched beyond) w)
  refine ⟨made, ?_⟩
  rw [← log_close B beyond h, ← hlog]
  show (s.reconnect (B.watched beyond) w).world.state.log = _
  rw [reconnect_eq hmode]
  rfl

end Stream

/-! ## The counts of the backend in memory -/

namespace Memory

/-- How many connections there have been, how many times one was closed, and how many are open. -/
def Store.counts (s : Store) : Nat × Nat × Nat := (s.opened, s.closes, s.live)

/-- The counts are those of the log. -/
def Counted (s : Store) (log : List Event) : Prop :=
  s.counts.1 = made log ∧ s.counts.2.1 = ended log ∧ s.counts.2.2 + ended log = made log

/-- Closing, but where no connection is open anything may happen. -/
def closeOr (otherwise : World Store → World Store) (c : Connection) (w : World Store) :
    Except BackendError Unit × World Store :=
  if w.state.live = 0 then (.ok (), otherwise w) else backend.close c w

variable {s t : Store} {log : List Event}

theorem Counted.congr (h : Counted s log) (hsame : t.counts = s.counts) : Counted t log := by
  unfold Counted
  rw [hsame]
  exact h

theorem Counted.refused (h : Counted s log) : Counted s (.connect none :: log) := by
  unfold Counted
  rw [made_refused, ended_connect]
  exact h

theorem Counted.called (h : Counted s log) {what : Call} (hwhat : what ≠ .close) (id : Nat)
    (ok : Bool) : Counted s (.call id what ok :: log) := by
  unfold Counted
  rw [made_call, ended_call hwhat]
  exact h

/-- A connection that is handed out is one more, and one more that is open. -/
theorem Counted.enrolled (h : Counted s log) (hnext : t.counts =
    (s.counts.1 + 1, s.counts.2.1, s.counts.2.2 + 1)) :
    Counted t (.connect (some (made log)) :: log) := by
  obtain ⟨hopened, hcloses, hlive⟩ := h
  unfold Counted
  rw [hnext, made_connect, ended_connect]
  refine ⟨by rw [hopened], hcloses, ?_⟩
  dsimp only
  omega

theorem counted_connect {w : World Store} (request : ConnectRequest) (h : Counted w.state log) :
    Counted (connect request w).world.state (attempt log (connect request w).answer :: log) := by
  unfold connect
  dsimp only
  split
  · exact (h.congr rfl).refused
  · split
    · exact (h.congr rfl).refused
    · split
      · exact h.enrolled rfl
      · exact (h.congr rfl).refused

/-- A call that does not close leaves the counts alone. -/
theorem counts_worldAfter (c : Connection) (w : World Store) {what : Call} (h : what ≠ .close) :
    (backend.worldAfter c w what).state.counts = w.state.counts := by
  cases what with
  | close => exact absurd rfl h
  | read n =>
    simp only [Backend.worldAfter, backend, read]
    split
    · rfl
    · split
      · split <;> rfl
      · rfl
  | write data =>
    simp only [Backend.worldAfter, backend, write]
    split <;> rfl
  | seek pos =>
    simp only [Backend.worldAfter, backend, seek]
    split
    · rfl
    · split <;> rfl
  | flush | size | seekTime _ | cookies _ | connect _ _ _ | request _ _ _ => rfl

theorem tallies_counted (otherwise : World Store → World Store) :
    Tallies backend (closeOr otherwise) Counted where
  connect request h := counted_connect request h
  call := by
    intro w log what c id ok hwhat h
    exact (h.congr (counts_worldAfter c w hwhat)).called hwhat id ok
  close := by
    intro w log c id ok hlt h
    obtain ⟨hopened, hcloses, hlive⟩ := h
    have hlive : w.state.live + ended log = made log := hlive
    have hopen : w.state.live ≠ 0 := by omega
    refine ⟨by rw [closeOr, if_neg hopen], ?_⟩
    unfold Counted
    rw [made_call, ended_close]
    refine ⟨hopened, congrArg (· + 1) hcloses, ?_⟩
    show w.state.live - 1 + (ended log + 1) = _
    omega

end Memory

/-! ## Whole sessions -/

namespace Session

/-- The streams that are connected are those that hold something. -/
theorem length_heldIn (slots : Slots (Watched σ) (Numbered κ)) :
    (heldIn slots).length =
      (slots.map fun entry => (entry.1, entry.2.unwatched)).countP (·.2.isConnected) := by
  induction slots with
  | nil => rfl
  | cons entry rest ih =>
    rw [heldIn_cons, List.length_append, List.map_cons, List.countP_cons, ih, Nat.add_comm]
    congr 1
    unfold Stream.held Stream.isConnected Stream.unwatched
    cases entry.2.conn with
    | none => rfl
    | some c => rfl

/-- A session without streams, in a world where nothing has been logged. -/
def fresh (w : World σ) : Session (Watched σ) (Numbered κ) := ⟨[], w.watched []⟩

theorem kept_fresh (w : World σ) (h : Q w.state []) :
    Kept Q (fresh w : Session (Watched σ) (Numbered κ)) where
  ordered := List.Pairwise.nil
  sound := sound_nil
  tally := h
  blind := by simp [fresh]

/-- Whatever is done to the state from outside, nothing is there to be kept. -/
theorem Command.keeps_trivial (c : Command σ) : c.Keeps fun _ _ => True := by
  cases c with
  | openAt address mode config cookies => exact fun _ _ _ _ => trivial
  | adjust change => exact fun _ _ _ => trivial
  | _ => trivial

/-- The session, and the same session over the watched backend, after some turns and once all
streams have been given up: what both have answered and left behind, and what the log says of the
connections. -/
structure Released (B beyond : Backend σ κ) (plain : List Answer × Session σ κ)
    (watched : List Answer × Session (Watched σ) (Numbered κ)) : Prop where
  /-- The watcher changed nothing, whatever it would have had answered for a closed connection. -/
  answers : watched.1 = plain.1
  session : watched.2.unwatched = plain.2
  finished : (watched.2.finish (B.watched beyond)).unwatched = plain.2.finish B
  /-- Every connection is held by one stream, or was closed once and then left alone. -/
  during : ReleasedOnce watched.2.world.state.log (heldIn watched.2.slots)
  /-- In the end every connection was closed once. -/
  after : ReleasedOnce (watched.2.finish (B.watched beyond)).world.state.log []
  /-- A stream that connects again closes first, whether or not that succeeds. -/
  again : ∀ slot s, watched.2.stream? slot = some s → s.mode = .read →
    ∃ made, (s.control (B.watched beyond) .reconnect watched.2.world).world.state.log =
      .connect made :: (s.closing B plain.2.world ++ watched.2.world.state.log)

theorem released_stepAll (B beyond : Backend σ κ) (w : World σ) (turns : List (Turn σ)) :
    Released B beyond (stepAll B ⟨[], w⟩ turns)
      (stepAll (B.watched beyond) (fresh w) (turns.map Turn.watched)) := by
  obtain ⟨hanswers, hsession, hkept⟩ :=
    (kept_fresh (Q := fun _ _ => True) w trivial).stepAll (tallies_trivial B) beyond
      fun turn (_ : turn ∈ turns) => turn.command.keeps_trivial
  obtain ⟨hfinish, hover⟩ := hkept.finish (tallies_trivial B) beyond
  refine ⟨hanswers, hsession, ?_, hkept.sound.releasedOnce, hover.sound.releasedOnce, ?_⟩
  · rw [hfinish, hsession]
    rfl
  · intro slot s hs hmode
    obtain ⟨_, hstream⟩ := hkept.stream hs
    have hlog := Stream.log_reconnect B beyond hstream hmode
    have hworld : (stepAll B ⟨[], w⟩ turns).2.world =
        ((fresh w).stepAll (B.watched beyond) (turns.map Turn.watched)).2.world.unwatched :=
      congrArg Session.world hsession.symm
    rw [hworld]
    exact hlog

/-- The counts of the backend in memory after some turns: they are those of the log and of the
streams. The subtraction that they are kept with never meets 0. -/
structure Tallied (otherwise : World Memory.Store → World Memory.Store) (w : World Memory.Store)
    (turns : List (Turn Memory.Store))
    (plain : List Answer × Session Memory.Store Memory.Connection) (log : List Event) : Prop where
  opened : plain.2.world.state.opened = made log
  balance : plain.2.world.state.closes + plain.2.world.state.live = made log
  live : plain.2.world.state.live = plain.2.slots.countP (·.2.isConnected)
  /-- Another way to close, which does anything at all when no connection is open, is as good. -/
  saturation : stepAll (Memory.backend.closingBy (Memory.closeOr otherwise)) ⟨[], w⟩ turns = plain
  finishing : plain.2.finish (Memory.backend.closingBy (Memory.closeOr otherwise)) =
    plain.2.finish Memory.backend
  none_live : (plain.2.finish Memory.backend).world.state.live = 0

theorem tallied_stepAll (beyond : Backend Memory.Store Memory.Connection)
    (otherwise : World Memory.Store → World Memory.Store) {w : World Memory.Store}
    (hw : w.state.counts = (0, 0, 0)) {turns : List (Turn Memory.Store)}
    (hturns : ∀ turn ∈ turns, turn.command.Keeps Memory.Counted) :
    Tallied otherwise w turns (stepAll Memory.backend ⟨[], w⟩ turns)
      (stepAll (Memory.backend.watched beyond) (fresh w)
        (turns.map Turn.watched)).2.world.state.log := by
  have hstart : Memory.Counted w.state [] := by
    unfold Memory.Counted
    rw [hw]
    exact ⟨rfl, rfl, rfl⟩
  -- The watched session stands between the plain one and the one that closes in another way.
  obtain ⟨hanswers, hsession, hkept⟩ := (kept_fresh w hstart).stepAll
    (Memory.tallies_counted otherwise) beyond hturns
  have hwatched := released_stepAll Memory.backend beyond w turns
  obtain ⟨hfinish, hover⟩ := hkept.finish (Memory.tallies_counted otherwise) beyond
  generalize hone : (fresh w).stepAll (Memory.backend.watched beyond) (turns.map Turn.watched) =
    watched at *
  generalize hother : stepAll Memory.backend ⟨[], w⟩ turns = plain at *
  have hinner : plain.2.world.state = watched.2.world.state.inner := by
    rw [← hwatched.session]
    rfl
  have hend : (plain.2.finish Memory.backend).world.state =
      (watched.2.finish (Memory.backend.watched beyond)).world.state.inner := by
    rw [← hwatched.finished]
    rfl
  obtain ⟨hopened, hcloses, hlive⟩ := hkept.tally
  have hheld : (heldIn watched.2.slots).length = plain.2.slots.countP (·.2.isConnected) := by
    rw [length_heldIn, ← hwatched.session]
    rfl
  have htotal := hkept.sound.total
  obtain ⟨-, -, hlast⟩ := hover.tally
  have hempty : 0 + ended _ = made _ := hover.sound.total
  simp only [Memory.Store.counts] at hopened hcloses hlive hlast
  refine ⟨?_, ?_, ?_, ?_, ?_, ?_⟩
  · rw [hinner, hopened]
  · rw [hinner]
    omega
  · rw [hinner]
    omega
  · refine Prod.ext ?_ ?_
    · exact hanswers.symm.trans hwatched.answers
    · exact hsession.symm.trans hwatched.session
  · rw [← hwatched.session, ← hfinish, hwatched.finished, hwatched.session]
  · rw [hend]
    omega

/-- **Connections are owned by one stream each and released exactly once**, whatever is done to any
number of streams over any backend. On the backend in memory the counts show it: what is open is
what streams are connected to, and nothing is open once all of them have been given up. -/
theorem connections_released_once :
    (∀ {σ κ : Type} (B beyond : Backend σ κ) (w : World σ) (turns : List (Turn σ)),
      Released B beyond (stepAll B ⟨[], w⟩ turns)
        (stepAll (B.watched beyond) (fresh w) (turns.map Turn.watched)) ∧
      -- Giving up what was given up before does nothing.
      ∀ (s : Stream σ κ) (v v' : World σ), (s.release B v).1.close B v' = v') ∧
    ∀ (beyond : Backend Memory.Store Memory.Connection)
      (otherwise : World Memory.Store → World Memory.Store) (w : World Memory.Store)
      (turns : List (Turn Memory.Store)), w.state.counts = (0, 0, 0) →
      (∀ turn ∈ turns, turn.command.Keeps Memory.Counted) →
      Tallied otherwise w turns (stepAll Memory.backend ⟨[], w⟩ turns)
        (stepAll (Memory.backend.watched beyond) (fresh w)
          (turns.map Turn.watched)).2.world.state.log := by
  refine ⟨?_, ?_⟩
  · intro σ κ B beyond w turns
    exact ⟨released_stepAll B beyond w turns, Stream.close_release B⟩
  · intro beyond otherwise w turns hw hturns
    exact tallied_stepAll beyond otherwise hw hturns

/-- Two streams connect again, one of them without success, and one is closed. -/
def wavering : List (Turn Memory.Store) :=
  [{ slot := 0, command := .openAt "mock://a" .read {} .none },
   { slot := 1, command := .openAt "mock://b" .read {} .none },
   { slot := 2, command := .openAt "mock://c" .write {} .none },
   { command := .adjust (·.failNext (.io "gone")) },
   { slot := 0, command := .perform (.control .reconnect) },
   { slot := 1, command := .perform (.control .reconnect) },
   { slot := 2, command := .perform (.control .reconnect) },
   { slot := 2, command := .close }]

theorem keeps_wavering : ∀ turn ∈ wavering, turn.command.Keeps Memory.Counted := by
  intro turn hturn
  simp only [wavering, List.mem_cons, List.not_mem_nil, or_false] at hturn
  rcases hturn with rfl | rfl | rfl | rfl | rfl | rfl | rfl | rfl
  · exact fun _ _ _ h => h
  · exact fun _ _ _ h => h
  · exact fun _ _ _ h => h
  · exact fun _ _ h => h.congr rfl
  all_goals trivial

theorem connections_released_once_wavering :
    let plain := stepAll Memory.backend ⟨[], { state := {} }⟩ wavering
    let log := (stepAll (Memory.backend.watched Memory.backend) (fresh { state := {} })
      (wavering.map Turn.watched)).2.world.state.log
    Tallied id { state := {} } wavering plain log ∧ plain.2.world.state.counts = (4, 3, 1) ∧
      made log = 4 := by
  intro plain log
  have htallied := connections_released_once.2 Memory.backend id { state := {} } wavering rfl
    keeps_wavering
  have hcounts : plain.2.world.state.counts = (4, 3, 1) := by decide +kernel
  refine ⟨htallied, hcounts, ?_⟩
  rw [← htallied.opened]
  exact congrArg Prod.fst hcounts

end Session

end ByteStream
