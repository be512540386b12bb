/-
# ByteStream.Audit -- a backend that is watched

A watched backend numbers the connections that it hands out, in order, and keeps a log of what it
was asked: every attempt to connect, and every call on a connection by its number. The log is
part of its state, so a run over a watched backend can be judged by what it leaves in the log.

What is called on a connection after it has been closed does not reach the backend that is
watched. It goes to another one, `beyond`, which may be any backend. A run that is the same
whatever `beyond` does has left closed connections alone, in calls and in looks.

A cookie provider and a change of the state from outside know nothing of the log; `watched` turns
them into ones that leave it as it is.
-/

import ByteStream.Session

namespace ByteStream

variable {σ κ α β : Type}

namespace Audit

/-! ## The log -/

/-- Something that a backend was asked. -/
inductive Event
  /-- To connect. Gives the number of the connection, if one was handed out. -/
  | connect (made : Option Nat)
  /-- For a call on a connection, which succeeded or failed. -/
  | call (id : Nat) (what : Call) (ok : Bool)
deriving DecidableEq, Repr

/-- A connection was handed out. -/
def Event.makes : Event → Bool
  | .connect made => made.isSome
  | .call _ _ _ => false

/-- A connection was closed. -/
def Event.ends : Event → Bool
  | .call _ .close _ => true
  | _ => false

/-- The connection with this number was closed. -/
def Event.endsOne (id : Nat) : Event → Bool
  | .call n .close _ => n == id
  | _ => false

/-- How many connections were handed out. -/
def made (log : List Event) : Nat := log.countP Event.makes

/-- How many times a connection was closed. -/
def ended (log : List Event) : Nat := log.countP Event.ends

/-- How many times the connection with this number was closed. -/
def endings (log : List Event) (id : Nat) : Nat := log.countP (Event.endsOne id)

/-- The connection with this number was closed. -/
def isOver (log : List Event) (id : Nat) : Bool := log.any (Event.endsOne id)

/-- The event of an attempt to connect: a connection gets the next number. -/
def attempt (log : List Event) (answer : Except BackendError κ) : Event :=
  .connect (answer.toOption.map fun _ => made log)

/-! ## The state -/

/-- The state of a backend, and the log of what it was asked, newest first. -/
structure Watched (σ : Type) where
  inner : σ
  log : List Event := []

/-- A connection with its number. -/
structure Numbered (κ : Type) where
  id : Nat
  inner : κ

end Audit

open Audit

/-- The world as the backend that is watched sees it. -/
def World.unwatched (w : World (Watched σ)) : World σ := ⟨w.signals, w.journal, w.state.inner⟩

/-- The world with a log. -/
def World.watched (w : World σ) (log : List Event) : World (Watched σ) :=
  ⟨w.signals, w.journal, ⟨w.state, log⟩⟩

@[simp] theorem World.unwatched_watched (w : World σ) (log : List Event) :
    (w.watched log).unwatched = w := rfl

@[simp] theorem World.log_watched (w : World σ) (log : List Event) :
    (w.watched log).state.log = log := rfl

/-! ## The backend -/

namespace Audit

/-- The backend that serves a connection: the one that is watched, until it has closed it. -/
def host (B beyond : Backend σ κ) (log : List Event) (id : Nat) : Backend σ κ :=
  if isOver log id then beyond else B

theorem host_of_not_isOver {B beyond : Backend σ κ} {log : List Event} {id : Nat}
    (h : isOver log id = false) : host B beyond log id = B := by
  rw [host, if_neg (by simp [h])]

/-- What a call on a connection leaves behind, with the call in the log. -/
def noted (c : Numbered κ) (what : Call) (log : List Event) (r : Reply σ κ α) :
    Reply (Watched σ) (Numbered κ) α :=
  ⟨r.answer, ⟨c.id, r.conn⟩, r.world.watched (.call c.id what r.answer.isOk :: log)⟩

end Audit

/-- The backend `B`, watched; what is asked of a closed connection goes to `beyond`. -/
def Backend.watched (B beyond : Backend σ κ) : Backend (Watched σ) (Numbered κ) where
  protocols := B.protocols
  connect request w :=
    let r := B.connect request w.unwatched
    ⟨r.answer.map fun c => ⟨made w.state.log, c⟩, r.left,
      r.world.watched (attempt w.state.log r.answer :: w.state.log)⟩
  read c n w :=
    noted c (.read n) w.state.log ((host B beyond w.state.log c.id).read c.inner n w.unwatched)
  readsLeft c w := (host B beyond w.state.log c.id).readsLeft c.inner w.unwatched
  write c data w :=
    noted c (.write data) w.state.log
      ((host B beyond w.state.log c.id).write c.inner data w.unwatched)
  flush c w :=
    noted c .flush w.state.log ((host B beyond w.state.log c.id).flush c.inner w.unwatched)
  error c w := (host B beyond w.state.log c.id).error c.inner w.unwatched
  seek c pos w :=
    noted c (.seek pos) w.state.log ((host B beyond w.state.log c.id).seek c.inner pos w.unwatched)
  size c w := noted c .size w.state.log ((host B beyond w.state.log c.id).size c.inner w.unwatched)
  seekTime c target w :=
    noted c (.seekTime target) w.state.log
      ((host B beyond w.state.log c.id).seekTime c.inner target w.unwatched)
  isSeekable c w := (host B beyond w.state.log c.id).isSeekable c.inner w.unwatched
  mimeType c w := (host B beyond w.state.log c.id).mimeType c.inner w.unwatched
  icyFields c w :=
    let shown := (host B beyond w.state.log c.id).icyFields c.inner w.unwatched
    (shown.1, ⟨c.id, shown.2⟩)
  close c w :=
    let closed := (host B beyond w.state.log c.id).close c.inner w.unwatched
    (closed.1, closed.2.watched (.call c.id .close closed.1.isOk :: w.state.log))

/-! ## Streams and sessions -/

/-- The provider in a world with a log. -/
def CookieProvider.watched (p : CookieProvider σ) : CookieProvider (Watched σ) :=
  ⟨fun file w =>
    let asked := p.ask file w.unwatched
    (asked.1, asked.2.watched w.state.log)⟩

/-- The provider in a world without a log. -/
def CookieProvider.unwatched (p : CookieProvider (Watched σ)) : CookieProvider σ :=
  ⟨fun file w =>
    let asked := p.ask file (w.watched [])
    (asked.1, asked.2.unwatched)⟩

/-- The stream as it is over the backend that is watched. -/
def Stream.unwatched (s : Stream (Watched σ) (Numbered κ)) : Stream σ κ where
  config := s.config
  cookies := s.cookies.unwatched
  url := s.url
  mode := s.mode
  conn := s.conn.map Numbered.inner
  seekable := s.seekable
  mimeType := s.mimeType
  hint := s.hint
  differ := s.differ

/-- The number of the connection that the stream holds, if there is one. -/
def Stream.held (s : Stream (Watched σ) (Numbered κ)) : List Nat := s.conn.toList.map Numbered.id

namespace Session

/-- The numbers of the connections that streams in slots hold. -/
def heldIn (slots : Slots (Watched σ) (Numbered κ)) : List Nat :=
  slots.flatMap fun entry => entry.2.held

/-- The session as it is over the backend that is watched. -/
def unwatched (s : Session (Watched σ) (Numbered κ)) : Session σ κ :=
  ⟨s.slots.map fun entry => (entry.1, entry.2.unwatched), s.world.unwatched⟩

/-- The command over a watched backend. -/
def Command.watched : Command σ → Command (Watched σ)
  | .openAt address mode config cookies => .openAt address mode config cookies.watched
  | .perform c => .perform c
  | .close => .close
  | .signal now => .signal now
  | .adjust change => .adjust fun state => { state with inner := change state.inner }
  | .listProtocols => .listProtocols

/-- The turn over a watched backend. -/
def Turn.watched (t : Turn σ) : Turn (Watched σ) :=
  { t with command := t.command.watched }

end Session

end ByteStream
