/-
# ByteStream.Proofs.Http.Likeness -- worlds that a connection cannot tell apart

A connection has two dealings with the world. It waits, and its interrupt is looked at meanwhile;
and it sends requests, to which the server reacts. Two worlds are alike for an interrupt if all
waits to come go alike, and the server has the same reactions left for any requests to come
(`Alike`). The signals, the journal, the log and the memory of the server may differ, even in its
type.

In worlds that are alike the same connection gives the same answers to reads and seeks, and is the
same afterwards (`Alike.read`, `Alike.seek`); so it is with any sequence of them
(`Alike.moveAll`).
-/

import ByteStream.Proofs.Http.Interruption

namespace ByteStream

/-! ## Waits to come -/

namespace Interrupt

variable {α : Type} {i : Interrupt} {s t : Signals}

/-- How waits to come would go, one after the other, each of them with or without an end of its
own: whether the interrupt fires before it, and whether it comes to its end. -/
def outlook (i : Interrupt) (s : Signals) : List Bool → List (Bool × Bool)
  | [] => []
  | ends :: later =>
    let waited := i.race (if ends then some () else none) s
    (i.fires s, waited.1.isOk) :: i.outlook waited.2 later

/-- All waits to come go alike. -/
def Alike (i : Interrupt) (s t : Signals) : Prop :=
  ∀ waits, i.outlook s waits = i.outlook t waits

/-- A wait comes to its end or is broken off, whatever it is for. -/
theorem race_eq (i : Interrupt) (arrival : Option α) (s : Signals) :
    i.race arrival s =
      let waited := i.race (if arrival.isSome then some () else none) s
      (if waited.1.isOk then .ok arrival else .error .interrupted, waited.2) := by
  have hcourse : s.course (if arrival.isSome then some () else none) = s.course arrival := by
    cases arrival with
    | none => rfl
    | some a => rfl
  unfold race raceBy
  rw [hcourse]
  dsimp only
  cases (i.lookAt (s.course arrival).ticks).result with
  | none => rfl
  | some now => rfl

theorem Alike.fires (h : i.Alike s t) : i.fires s = i.fires t := by
  have hfirst := h [true]
  simp only [outlook, List.cons.injEq, Prod.mk.injEq] at hfirst
  exact hfirst.1.1

/-- A wait that nobody looked before goes alike, and so do those after it. -/
theorem Alike.race (h : i.Alike s t) (arrival : Option α) :
    (i.race arrival s).1 = (i.race arrival t).1 ∧
      i.Alike (i.race arrival s).2 (i.race arrival t).2 := by
  have hnow : ∀ later, _ := fun later => h (arrival.isSome :: later)
  simp only [outlook, List.cons.injEq, Prod.mk.injEq] at hnow
  rw [race_eq i arrival s, race_eq i arrival t]
  dsimp only
  constructor
  · rw [(hnow []).1.2]
  · intro later
    exact (hnow later).2

/-- So does a wait with a look before it. -/
theorem Alike.wait (h : i.Alike s t) (arrival : Option α) :
    (i.wait arrival s).1 = (i.wait arrival t).1 ∧
      i.Alike (i.wait arrival s).2 (i.wait arrival t).2 := by
  rw [wait_eq, wait_eq, ← h.fires]
  split
  · exact ⟨rfl, h⟩
  · exact h.race arrival

end Interrupt

namespace Http

variable {τ υ α : Type}

/-! ## Reactions to come -/

namespace Server

/-- The reactions to requests, one after the other. -/
def reactions (s : Server τ) : List Request → List Reaction
  | [] => []
  | request :: later => (s.serve request).1 :: (s.serve request).2.reactions later

/-- The servers have the same reactions left for any requests. -/
def Alike (s : Server τ) (t : Server υ) : Prop :=
  ∀ requests, s.reactions requests = t.reactions requests

/-- The log makes no difference. -/
theorem Alike.of_eq {s t : Server τ} (hreact : s.react = t.react) (hmemory : s.memory = t.memory) :
    s.Alike t := by
  intro requests
  induction requests generalizing s t with
  | nil => rfl
  | cons request later ih =>
    have hserved : s.react request s.memory = t.react request t.memory := by rw [hreact, hmemory]
    have hfirst : (s.serve request).1 = (t.serve request).1 := by
      show (s.react request s.memory).1 = (t.react request t.memory).1
      rw [hserved]
    have hthen : (s.serve request).2.memory = (t.serve request).2.memory := by
      show (s.react request s.memory).2 = (t.react request t.memory).2
      rw [hserved]
    have hlater := ih (s := (s.serve request).2) (t := (t.serve request).2) hreact hthen
    rw [reactions, reactions, hfirst, hlater]

variable {s : Server τ} {t : Server υ}

theorem Alike.serve (h : s.Alike t) (request : Request) :
    (s.serve request).1 = (t.serve request).1 ∧ (s.serve request).2.Alike (t.serve request).2 := by
  have hnow : ∀ later, _ := fun later => h (request :: later)
  simp only [reactions, List.cons.injEq] at hnow
  refine ⟨(hnow []).1, ?_⟩
  intro later
  exact (hnow later).2

end Server

/-! ## Worlds -/

/-- The worlds cannot be told apart by a connection with this interrupt. -/
structure Alike (i : Interrupt) (w : World (Server τ)) (v : World (Server υ)) : Prop where
  signals : i.Alike w.signals v.signals
  server : w.state.Alike v.state

/-- The calls were answered alike and left the same connection, in worlds that are alike. -/
structure SameReply (i : Interrupt) (one : Reply (Server τ) Connection α)
    (other : Reply (Server υ) Connection α) : Prop where
  answer : one.answer = other.answer
  conn : one.conn = other.conn
  worlds : Alike i one.world other.world

variable {i : Interrupt} {w : World (Server τ)} {v : World (Server υ)}

/-- The journal and the log make no difference. -/
theorem Alike.of_eq (i : Interrupt) {w v : World (Server τ)} (hsignals : w.signals = v.signals)
    (hreact : w.state.react = v.state.react) (hmemory : w.state.memory = v.state.memory) :
    Alike i w v := by
  refine ⟨?_, Server.Alike.of_eq hreact hmemory⟩
  rw [hsignals]
  exact fun _ => rfl

/-- The worlds stay alike when other waits are over that went alike. -/
theorem Alike.waited (h : Alike i w v) {s t : Signals} (hsignals : i.Alike s t) :
    Alike i { w with signals := s } { v with signals := t } :=
  ⟨hsignals, h.server⟩

theorem Alike.transmit (h : Alike i w v) (t : Transport) (hop : Hop) :
    (Http.transmit t hop w).1 = (Http.transmit t hop v).1 ∧
      Alike i (Http.transmit t hop w).2 (Http.transmit t hop v).2 := by
  unfold Http.transmit
  split
  · obtain ⟨hreaction, hserver⟩ := h.server.serve hop.request
    exact ⟨hreaction, h.signals, hserver⟩
  · exact ⟨rfl, h⟩

/-- One request goes alike. The reactions are the same, so the waits are for the same arrival. -/
theorem Alike.exchange (h : Alike i w v) (t : Transport) (hop : Hop) :
    (Http.exchange t i hop w).1 = (Http.exchange t i hop v).1 ∧
      Alike i (Http.exchange t i hop w).2 (Http.exchange t i hop v).2 := by
  obtain ⟨hreaction, hsent⟩ := h.transmit t hop
  obtain ⟨hcame, hsignals⟩ := hsent.signals.race (Http.transmit t hop w).1.arrival
  rw [exchange_eq, exchange_eq]
  dsimp only
  rw [← hreaction]
  exact ⟨congrArg (turned t hop) hcame, hsent.waited hsignals⟩

/-- A request and those that it leads to go alike. -/
theorem Alike.fetch (h : Alike i w v) (t : Transport) (hops : Nat) (hop : Hop) :
    (Http.fetch t i hops hop w).1 = (Http.fetch t i hops hop v).1 ∧
      Alike i (Http.fetch t i hops hop w).2 (Http.fetch t i hops hop v).2 := by
  -- In the other world the same comes of the request, and the rest is in worlds that are alike.
  have hmade := h.exchange t hop
  generalize hother : Http.exchange t i hop v = other at hmade
  obtain ⟨came, v'⟩ := other
  induction hops, hop, w using fetch_induct (t := t) (i := i)
    generalizing v came v' with
  | failed hops hop w e w' hone hfetch
  | settled hops hop w r w' hone hfetch
  | limit hop w next w' hone hfetch =>
    rw [hone] at hmade
    obtain ⟨rfl, hafter⟩ := hmade
    rw [hfetch, fetch_eq, hother]
    exact ⟨rfl, hafter⟩
  | leads hops hop w next w' hone hfetch ih =>
    rw [hone] at hmade
    obtain ⟨rfl, hafter⟩ := hmade
    rw [hfetch, fetch_eq t i (hops + 1) hop v, hother]
    have hafter' : Alike i w' v' := hafter
    exact ih hafter' _ _ rfl (hafter'.exchange t next)

theorem Alike.send (h : Alike i w v) (t : Transport) (url : Url) (base : HeaderMap)
    (offset : Option Nat) :
    (Http.send t url base offset i w).1 = (Http.send t url base offset i v).1 ∧
      Alike i (Http.send t url base offset i w).2 (Http.send t url base offset i v).2 := by
  rw [send_eq, send_eq, ← h.signals.fires]
  split
  · exact ⟨rfl, h⟩
  · split
    · exact ⟨rfl, h⟩
    · obtain ⟨hanswer, hworlds⟩ := h.fetch t redirectLimit (firstHop url base offset)
      exact ⟨congrArg (Except.bind · (accept url offset)) hanswer, hworlds⟩

/-! ## Reads and seeks -/

/-- A read goes alike. Its waits go alike, and after a chunk that gives no payload it goes on in
worlds that are alike still. -/
theorem Alike.readOn {c : Connection} {w : World (Server τ)} {v : World (Server υ)}
    (h : Alike c.interrupt w v) (n : Nat) :
    SameReply c.interrupt (c.readOn n w) (c.readOn n v) := by
  by_cases hnone : (c.takePending n).1 = []
  · cases hbody : (c.takePending n).2.body with
    | none =>
      rw [Connection.readOn_of_ended hnone hbody, Connection.readOn_of_ended hnone hbody]
      exact ⟨rfl, rfl, h⟩
    | some body =>
      obtain ⟨houtcome, hsignals⟩ := h.signals.wait body.next?
      have hafter := h.waited hsignals
      rw [Connection.readOn_of_none hnone hbody, Connection.readOn_of_none hnone hbody]
      dsimp only
      rw [houtcome]
      -- Only a chunk makes the read go on; all else ends it, in worlds as the wait left them.
      split
      · exact ⟨rfl, rfl, hafter⟩
      · exact ⟨rfl, rfl, hafter⟩
      · exact ⟨rfl, rfl, hafter⟩
      · exact ⟨rfl, rfl, hafter⟩
      · rename_i bytes later _ hnext
        have hinterrupt := Connection.interrupt_takePending c n
        have hless : later.chunks.length < c.chunksLeft := by
          rw [Connection.body_takePending] at hbody
          rw [Connection.chunksLeft, hbody]
          exact Body.length_chunks_of_next? hnext
        let next : Connection := { (c.takePending n).2 with pending := bytes, body := some later }
        have hrest := Alike.readOn (c := next) (hinterrupt.symm ▸ hafter) n
        exact hinterrupt ▸ hrest
  · rw [Connection.readOn_of_some hnone, Connection.readOn_of_some hnone]
    exact ⟨rfl, rfl, h⟩
termination_by c.chunksLeft

theorem Alike.read {c : Connection} (h : Alike c.interrupt w v) (n : Nat) :
    SameReply c.interrupt (c.read n w) (c.read n v) := by
  rw [Connection.read_eq, Connection.read_eq]
  split
  · exact ⟨rfl, rfl, h⟩
  · exact h.readOn n

theorem Alike.seek {c : Connection} (h : Alike c.interrupt w v) (t : Transport) (pos : Nat) :
    SameReply c.interrupt (c.seek t pos w) (c.seek t pos v) := by
  rw [Connection.seek_eq, Connection.seek_eq]
  split
  · exact ⟨rfl, rfl, h⟩
  · split
    · exact ⟨rfl, rfl, h⟩
    · obtain ⟨houtcome, hafter⟩ := h.send t c.url c.base (some pos)
      generalize Http.send t c.url c.base (some pos) c.interrupt w = one at houtcome hafter ⊢
      generalize Http.send t c.url c.base (some pos) c.interrupt v = other at houtcome hafter ⊢
      obtain ⟨outcome, w'⟩ := one
      obtain ⟨outcome', v'⟩ := other
      obtain rfl : outcome = outcome' := houtcome
      cases outcome with
      | error e => exact ⟨rfl, rfl, hafter⟩
      | ok response => exact ⟨rfl, rfl, hafter⟩

/-! ## Sequences of reads and seeks -/

/-- A call that moves a connection on. -/
inductive Move
  | read (n : Nat)
  | seek (pos : Nat)
deriving DecidableEq, Repr

/-- What such a call gives: bytes, or a position. -/
inductive Moved
  | bytes (bytes : Bytes)
  | pos (pos : Nat)
deriving DecidableEq, Repr

namespace Connection

def move (t : Transport) (c : Connection) (w : World (Server τ)) :
    Move → Reply (Server τ) Connection Moved
  | .read n =>
    let r := c.read n w
    ⟨r.answer.map .bytes, r.conn, r.world⟩
  | .seek pos =>
    let r := c.seek t pos w
    ⟨r.answer.map .pos, r.conn, r.world⟩

/-- The answers to calls one after the other, and the connection after them. -/
def moveAll (t : Transport) (c : Connection) (w : World (Server τ)) :
    List Move → List (Except BackendError Moved) × Connection
  | [] => ([], c)
  | move :: later =>
    let r := c.move t w move
    let rest := r.conn.moveAll t r.world later
    (r.answer :: rest.1, rest.2)

theorem interrupt_read (c : Connection) (n : Nat) (w : World (Server τ)) :
    (c.read n w).conn.interrupt = c.interrupt := congrArg Terms.interrupt (terms_read c n w)

theorem interrupt_seek (t : Transport) (c : Connection) (pos : Nat) (w : World (Server τ)) :
    (c.seek t pos w).conn.interrupt = c.interrupt :=
  congrArg Terms.interrupt (terms_seek t c pos w)

theorem interrupt_move (t : Transport) (c : Connection) (w : World (Server τ)) (move : Move) :
    (c.move t w move).conn.interrupt = c.interrupt := by
  cases move with
  | read n => exact interrupt_read c n w
  | seek pos => exact interrupt_seek t c pos w

end Connection

theorem Alike.move {c : Connection} (h : Alike c.interrupt w v) (t : Transport) (move : Move) :
    SameReply c.interrupt (c.move t w move) (c.move t v move) := by
  cases move with
  | read n =>
    obtain ⟨hanswer, hconn, hworlds⟩ := h.read n
    exact ⟨congrArg (Except.map Moved.bytes) hanswer, hconn, hworlds⟩
  | seek pos =>
    obtain ⟨hanswer, hconn, hworlds⟩ := h.seek t pos
    exact ⟨congrArg (Except.map Moved.pos) hanswer, hconn, hworlds⟩

/-- **Worlds that are alike.** Any reads and seeks have the same answers in them, and leave the
same connection. -/
theorem Alike.moveAll {c : Connection} (h : Alike c.interrupt w v) (t : Transport)
    (moves : List Move) : c.moveAll t w moves = c.moveAll t v moves := by
  induction moves generalizing c w v with
  | nil => rfl
  | cons move later ih =>
    obtain ⟨hanswer, hconn, hworlds⟩ := h.move t move
    rw [← Connection.interrupt_move t c w move] at hworlds
    have hrest := ih hworlds
    rw [Connection.moveAll, Connection.moveAll, hrest, hanswer, hconn]

end Http

end ByteStream
