/-
# ByteStream.Interrupt -- breaking off a call that waits

A caller may cancel a token at any time. A backend that waits looks at its interrupt again and
again and gives up with `BackendError.interrupted` once the interrupt fires. What happens outside
while a call waits is data: `Signals` holds what has been signalled so far and what will be
signalled during the coming waits, so a run is a function of its inputs.
-/

import ByteStream.Error

namespace ByteStream

/-! ## Tokens and signals -/

/-- A cancellation token: one of its own, or a child, which is cancelled with its parent. -/
inductive Token
  | root (name : String)
  | child (parent : Token)
deriving DecidableEq, Repr

/-- Something that happens outside of a call. A flag can go up and down; a token, once
cancelled, stays so. -/
inductive Signal
  | cancel (token : Token)
  | raise (flag : String)
  | lower (flag : String)
deriving DecidableEq, Repr

/-- What has been signalled, and what is still to come while calls wait: a list of signals for
each coming wait that ends by itself, and the signals that come while a call waits for something
that never arrives. -/
structure Signals where
  cancelled : List Token := []
  raised : List String := []
  coming : List (List Signal) := []
  whileBlocked : List Signal := []
deriving Repr

namespace Signals

/-- The effect of one signal. -/
def apply (s : Signals) : Signal → Signals
  | .cancel token => { s with cancelled := token :: s.cancelled }
  | .raise flag => { s with raised := flag :: s.raised }
  | .lower flag => { s with raised := s.raised.filter (· != flag) }

/-- A token is cancelled by itself or through its parent. -/
def isCancelled (s : Signals) : Token → Bool
  | .root name => s.cancelled.contains (.root name)
  | .child parent => s.cancelled.contains (.child parent) || s.isCancelled parent

/-- A flag is up. -/
def isRaised (s : Signals) (flag : String) : Bool := s.raised.contains flag

/-- Takes the signals of the next wait off the list of coming ones. -/
def nextWait (s : Signals) : List Signal × Signals :=
  match s.coming with
  | [] => ([], s)
  | now :: later => (now, { s with coming := later })

/-- Takes the signals that come while a call is blocked. -/
def blockedWait (s : Signals) : List Signal × Signals :=
  (s.whileBlocked, { s with whileBlocked := [] })

/-- The signals that no blocked call has taken come afterwards. -/
def settle (s : Signals) : Signals :=
  s.whileBlocked.foldl apply { s with whileBlocked := [] }

end Signals

/-! ## Interrupts -/

/-- The question "should I stop" that a backend asks while it waits, if there is anybody to ask. -/
structure Interrupt where
  hook : Option (Signals → Bool) := none

namespace Interrupt

/-- Never fires. -/
def never : Interrupt := {}

/-- Fires when the token is cancelled. -/
def ofToken (token : Token) : Interrupt := ⟨some fun s => s.isCancelled token⟩

/-- Fires when the token is cancelled, and never without a token. -/
def ofToken? : Option Token → Interrupt
  | none => never
  | some token => ofToken token

/-- Fires while the flag is up. -/
def ofFlag (flag : String) : Interrupt := ⟨some fun s => s.isRaised flag⟩

/-- Fires at every look. -/
def always : Interrupt := ⟨some fun _ => true⟩

/-- There is somebody to ask. -/
def isArmed (i : Interrupt) : Bool := i.hook.isSome

/-- The answer at this moment. -/
def fires (i : Interrupt) (s : Signals) : Bool :=
  match i.hook with
  | none => false
  | some ask => ask s

/-- One look at the interrupt. -/
def check (i : Interrupt) (s : Signals) : Except BackendError Unit :=
  if i.fires s then .error .interrupted else .ok ()

@[simp] theorem fires_never (s : Signals) : never.fires s = false := rfl

end Interrupt

end ByteStream
