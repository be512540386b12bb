/-
# ByteStream.World -- everything outside a stream that its calls can change

A call on a stream is a function of the stream and of the world it runs in. The world holds the
signals, the state of the backend, and a journal of the calls that collaborators received, newest
first. A backend chooses the type of its state.
-/

import ByteStream.ConnectOptions
import ByteStream.Interrupt
import ByteStream.Text.Utf8

namespace ByteStream

/-- The direction that a stream is opened for. -/
inductive Mode
  | read
  | write
deriving DecidableEq, Repr

/-- The direction that is taken when none is named. -/
def Mode.default : Mode := .read

/-- A seek by time, which is passed on to the backend as it is. -/
structure TimestampSeek where
  streamIndex : Int
  timestamp : Int
  flags : Int
deriving DecidableEq, Repr

/-- A call that a collaborator of a stream received. -/
inductive Call
  | cookies (file : Option String)
  | connect (url : String) (mode : Mode) (options : ConnectOptions)
  | read (size : Nat)
  | write (data : Bytes)
  | flush
  | seek (pos : Nat)
  | size
  | seekTime (seek : TimestampSeek)
  | close
  | request (method target : String) (headers : List (String × String))
deriving DecidableEq, Repr

/-- The world of a run over a backend with states `σ`. -/
structure World (σ : Type) where
  signals : Signals := {}
  journal : List Call := []
  state : σ

namespace World

variable {σ : Type}

/-- Notes a call in the journal. -/
def note (w : World σ) (c : Call) : World σ := { w with journal := c :: w.journal }

/-- The calls noted so far, oldest first. -/
def calls (w : World σ) : List Call := w.journal.reverse

/-- The calls noted after the first `n`. -/
def callsSince (w : World σ) (n : Nat) : List Call := w.calls.drop n

/-- One signal from outside. -/
def signal (w : World σ) (s : Signal) : World σ := { w with signals := w.signals.apply s }

end World

end ByteStream
