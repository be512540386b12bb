/-
# ByteStream.Session -- many streams over one backend

A session holds streams in numbered slots and runs commands on them, one at a time. Opening into
a slot that is taken replaces the stream there only if it succeeds, and then gives the old one up
after the new one is in place. At the end all streams are given up, in the order of the slots.

A command may be given signals that come while its call waits for something that never arrives.
If no call of it waits so, they come right after it.
-/

import ByteStream.Stream.Command

namespace ByteStream

/-! ## Commands and answers -/

namespace Session

/-- What can be asked of a session. The last three are not about a slot. -/
inductive Command (σ : Type)
  | openAt (address : String) (mode : Mode) (config : Config) (cookies : CookieProvider σ)
  | perform (c : Stream.Command)
  | close
  | signal (s : Signal)
  | adjust (change : σ → σ)
  | listProtocols

/-- What a session answers. -/
inductive Answer
  | opened
  | delegated (hint : DemuxerHint)
  | failed (e : StreamError)
  | performed (a : Stream.Answer)
  | done
  | protocols (schemes : List String)
  | noStream

end Session

/-! ## Slots -/

/-- Streams by slot, in the order of the slots. -/
abbrev Slots (σ κ : Type) := List (Nat × Stream σ κ)

namespace Slots

variable {σ κ : Type}

/-- Puts a stream into a slot. -/
def put (slot : Nat) (s : Stream σ κ) : Slots σ κ → Slots σ κ
  | [] => [(slot, s)]
  | (n, t) :: rest =>
    if slot < n then (slot, s) :: (n, t) :: rest
    else if slot = n then (slot, s) :: rest
    else (n, t) :: put slot s rest

/-- Empties a slot. -/
def clear (slot : Nat) (slots : Slots σ κ) : Slots σ κ := slots.filter fun entry => entry.1 != slot

theorem lookup_put_same (slot : Nat) (s : Stream σ κ) (slots : Slots σ κ) :
    (put slot s slots).lookup slot = some s := by
  induction slots with
  | nil => simp [put]
  | cons entry rest ih =>
    obtain ⟨n, t⟩ := entry
    simp only [put]
    split
    · simp
    · split
      · simp
      · rename_i h
        have h' : (slot == n) = false := by simp [h]
        simp [List.lookup_cons, h', ih]

end Slots

/-! ## Sessions -/

/-- Streams in slots, and the world they live in. -/
structure Session (σ κ : Type) where
  slots : Slots σ κ := []
  world : World σ

namespace Session

variable {σ κ : Type}

/-- The stream in a slot. -/
def stream? (s : Session σ κ) (slot : Nat) : Option (Stream σ κ) := s.slots.lookup slot

/-- Carries a command out on the stream in a slot. -/
def performIn (B : Backend σ κ) (s : Session σ κ) (slot : Nat) (c : Stream.Command) :
    Answer × Session σ κ :=
  match s.stream? slot with
  | none => (.noStream, s)
  | some stream =>
    let r := stream.perform B s.world c
    (.performed r.result, ⟨s.slots.put slot r.stream, r.world⟩)

/-- Gives up the stream that is in a slot. -/
def release (B : Backend σ κ) (s : Session σ κ) (slot : Nat) : World σ :=
  match s.stream? slot with
  | none => s.world
  | some stream => stream.close B s.world

/-- Opens an address into a slot. -/
def openInto (B : Backend σ κ) (s : Session σ κ) (slot : Nat) (address : String) (mode : Mode)
    (config : Config) (cookies : CookieProvider σ) : Answer × Session σ κ :=
  match Stream.openAt B config cookies address mode s.world with
  | (.error e, world) => (.failed e, { s with world })
  | (.ok (.delegate hint), world) => (.delegated hint, { s with world })
  | (.ok (.stream stream), world) =>
    (.opened, ⟨s.slots.put slot stream, { s with world }.release B slot⟩)

/-- Runs a command. -/
def run (B : Backend σ κ) (s : Session σ κ) (slot : Nat) (c : Command σ) :
    Answer × Session σ κ :=
  match c with
  | .openAt address mode config cookies => s.openInto B slot address mode config cookies
  | .perform c => s.performIn B slot c
  | .close =>
    match s.stream? slot with
    | none => (.noStream, s)
    | some _ => (.done, ⟨s.slots.clear slot, s.release B slot⟩)
  | .signal now => (.done, { s with world := s.world.signal now })
  | .adjust change => (.done, { s with world := { s.world with state := change s.world.state } })
  | .listProtocols => (.protocols B.protocols, s)

/-- The session with the signals that come while the next call is blocked. -/
def awaiting (s : Session σ κ) (whileBlocked : List Signal) : Session σ κ :=
  { s with world := { s.world with signals := { s.world.signals with whileBlocked } } }

/-- The session once the signals have come that no call of it was blocked for. -/
def settled (s : Session σ κ) : Session σ κ :=
  { s with world := { s.world with signals := s.world.signals.settle } }

/-- Runs a command during whose call signals come, or after it if no call was blocked. -/
def step (B : Backend σ κ) (s : Session σ κ) (slot : Nat) (c : Command σ)
    (whileBlocked : List Signal) : Answer × Session σ κ :=
  let (answer, s) := (s.awaiting whileBlocked).run B slot c
  (answer, s.settled)

/-- A command on a slot, with the signals that come while its call is blocked. -/
structure Turn (σ : Type) where
  slot : Nat := 0
  command : Command σ
  whileBlocked : List Signal := []

/-- Takes turns one after the other and collects the answers. -/
def stepAll (B : Backend σ κ) (s : Session σ κ) : List (Turn σ) → List Answer × Session σ κ
  | [] => ([], s)
  | turn :: rest =>
    let now := s.step B turn.slot turn.command turn.whileBlocked
    let later := stepAll B now.2 rest
    (now.1 :: later.1, later.2)

/-- Gives all streams up, in the order of the slots. -/
def finish (B : Backend σ κ) (s : Session σ κ) : Session σ κ :=
  ⟨[], s.slots.foldl (fun w entry => entry.2.close B w) s.world⟩

end Session

end ByteStream
