/-
# ByteStream.Backend -- what a protocol has to offer

A backend connects to addresses of some schemes and then serves calls on the connection. It is a
record of functions, each from a connection and the world to an answer, the connection and the
world afterwards; nothing else is assumed of it. The type `κ` of its connections and the type `σ`
of its state are its own. Only connecting and reading have no default: a backend that leaves out
the rest reads, cannot write or seek, and closes without trouble.
-/

import ByteStream.World
import ByteStream.Icy.Fields

namespace ByteStream

/-! ## Requests and replies -/

/-- What a backend is given when it connects. -/
structure ConnectRequest where
  url : String
  mode : Mode
  options : ConnectOptions
  interrupt : Interrupt

/-- What connecting leaves behind. `left` holds the options that the backend did not take. -/
structure Connected (σ κ : Type) where
  answer : Except BackendError κ
  left : ConnectOptions
  world : World σ

/-- What a call on a connection leaves behind. -/
structure Reply (σ κ α : Type) where
  answer : Except BackendError α
  conn : κ
  world : World σ

namespace Reply

variable {σ κ α : Type}

/-- The call failed and changed nothing. -/
def fail (e : BackendError) (c : κ) (w : World σ) : Reply σ κ α := ⟨.error e, c, w⟩

/-- The call succeeded and changed nothing. -/
def done (a : α) (c : κ) (w : World σ) : Reply σ κ α := ⟨.ok a, c, w⟩

end Reply

/-! ## Backends -/

/-- A family of protocols. -/
structure Backend (σ κ : Type) where
  /-- The schemes that can be connected to. -/
  protocols : List String
  connect : ConnectRequest → World σ → Connected σ κ
  /-- Reads at most so many bytes; none mean that the stream has ended. -/
  read : κ → Nat → World σ → Reply σ κ Bytes
  /-- No more than so many reads in a row give bytes, as things stand. -/
  readsLeft : κ → World σ → Nat
  /-- Takes some of the bytes and says how many. -/
  write : κ → Bytes → World σ → Reply σ κ Nat := fun c _ w => .fail .unsupported c w
  flush : κ → World σ → Reply σ κ Unit := fun c w => .done () c w
  /-- The error that sticks once a write or a flush has failed. -/
  error : κ → World σ → Option BackendError := fun _ _ => none
  /-- Goes to a position, counted from the start, and gives the new one. -/
  seek : κ → Nat → World σ → Reply σ κ Nat := fun c _ w => .fail .unsupported c w
  /-- The size of the whole, if it is known. -/
  size : κ → World σ → Reply σ κ (Option Nat) := fun c w => .done none c w
  seekTime : κ → TimestampSeek → World σ → Reply σ κ Unit := fun c _ w => .fail .unsupported c w
  isSeekable : κ → World σ → Bool := fun _ _ => false
  mimeType : κ → World σ → Option String := fun _ _ => none
  /-- The in-band metadata as it is now. Looking may move a connection on that plays a script. -/
  icyFields : κ → World σ → Icy.Fields × κ := fun c _ => ({}, c)
  /-- Gives the connection up. -/
  close : κ → World σ → Except BackendError Unit × World σ := fun _ w => (.ok (), w)

namespace Backend

variable {σ κ : Type}

/-- Writes and then flushes. It succeeds with the count that the write gave, if the flush
succeeded too and no error sticks; otherwise it fails with the first of the three errors. -/
def writeThrough (B : Backend σ κ) (c : κ) (data : Bytes) (w : World σ) : Reply σ κ Nat :=
  let wrote := B.write c data w
  match wrote.answer with
  | .error e => ⟨.error e, wrote.conn, wrote.world⟩
  | .ok count =>
    let flushed := B.flush wrote.conn wrote.world
    match flushed.answer with
    | .error e => ⟨.error e, flushed.conn, flushed.world⟩
    | .ok () =>
      match B.error flushed.conn flushed.world with
      | some e => ⟨.error e, flushed.conn, flushed.world⟩
      | none => ⟨.ok count, flushed.conn, flushed.world⟩

end Backend

end ByteStream
