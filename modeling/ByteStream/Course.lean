/-
# ByteStream.Course -- one way for a wait to go

While a call waits, its interrupt is looked at tick by tick, until the wait ends by itself or a look
sees the interrupt fire. How many ticks come before the end, and what has been signalled at each,
is not in the hands of the call. A `Course` is one way for this to go; there is one for every way.
The course that signals script has a tick after each signal and none besides: `race` and `wait` are
`raceBy` and `waitBy` in that course.

A wait for something that never comes, which nobody breaks off, has no end of its own; it is closed
with `none`, and the backends report that as a lost connection.
-/

import ByteStream.Interrupt

namespace ByteStream

/-- One way for a wait to go: what has been signalled at each tick that comes before the wait would
end by itself, and what has been signalled when it does. -/
structure Course where
  ticks : List Signals := []
  final : Signals

/-- What comes of a call, and what every look at the interrupt saw on the way. -/
structure Observed (α : Type) where
  result : α
  looks : List Bool

namespace Interrupt

variable {α : Type}

/-- Looks at the interrupt at one moment after the other, until a look sees it fire. The result is
the moment at which that was, if there was one. -/
def lookAt (i : Interrupt) : List Signals → Observed (Option Signals)
  | [] => ⟨none, []⟩
  | now :: later =>
    if i.fires now then ⟨some now, [true]⟩
    else
      let looked := i.lookAt later
      ⟨looked.result, false :: looked.looks⟩

/-- Waits for `arrival` against the interrupt. `ok none` stands for a wait that nothing ends. -/
def raceBy (i : Interrupt) (course : Course) (arrival : Option α) :
    Observed (Except BackendError (Option α) × Signals) :=
  let looked := i.lookAt course.ticks
  ⟨match looked.result with
    | some now => (.error .interrupted, now)
    | none => (.ok arrival, course.final),
   looked.looks⟩

/-- A waiting call: one look before it starts, then the race. -/
def waitBy (i : Interrupt) (course : Course) (arrival : Option α) (s : Signals) :
    Observed (Except BackendError (Option α) × Signals) :=
  i.raceBy { course with ticks := s :: course.ticks } arrival

end Interrupt

namespace Signals

/-- What has been signalled after each of the signals that come. -/
def moments (s : Signals) : List Signal → List Signals
  | [] => []
  | signal :: later => s.apply signal :: (s.apply signal).moments later

/-- The course of the next wait, if there is a tick after each signal that comes meanwhile and no
other. -/
def course {α : Type} (s : Signals) (arrival : Option α) : Course :=
  let coming := if arrival.isSome then s.nextWait else s.blockedWait
  ⟨coming.2.moments coming.1, coming.1.foldl apply coming.2⟩

end Signals

namespace Interrupt

variable {α : Type}

/-- Waits for `arrival` against the interrupt, in the scripted course. -/
def race (i : Interrupt) (arrival : Option α) (s : Signals) :
    Except BackendError (Option α) × Signals :=
  (i.raceBy (s.course arrival) arrival).result

/-- A waiting call, in the scripted course. -/
def wait (i : Interrupt) (arrival : Option α) (s : Signals) :
    Except BackendError (Option α) × Signals :=
  (i.waitBy (s.course arrival) arrival s).result

end Interrupt

end ByteStream
