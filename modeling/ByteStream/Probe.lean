/-
# ByteStream.Probe -- calls on a bare connection

A probe holds at most one connection of a backend and makes calls on it, with no stream in
between. A connection that was got takes the place of the one before, which is let go of without
being closed.
-/

import ByteStream.Backend

namespace ByteStream

/-- What can be asked of a probe. -/
inductive Probing
  | connect (request : ConnectRequest)
  | read (n : Nat)
  | write (data : Bytes)
  | flush
  | error
  | seek (pos : Nat)
  | size
  | seekTime (target : TimestampSeek)
  | describe
  | icyFields
  | close

/-- What a probe answers. -/
inductive Finding
  | connected (result : Except BackendError Unit) (left : ConnectOptions)
  | bytes (b : Bytes)
  | number (n : Nat)
  | size (n : Option Nat)
  | done
  | sticking (e : Option BackendError)
  | description (seekable : Bool) (mimeType : Option String)
  | fields (f : Icy.Fields)
  | failed (e : BackendError)
  | noConnection

/-- The finding for the result of a call. -/
def Finding.ofResult {α : Type} (view : α → Finding) : Except BackendError α → Finding
  | .ok a => view a
  | .error e => .failed e

/-- A connection, perhaps, and its world. -/
structure Probe (σ κ : Type) where
  conn : Option κ := none
  world : World σ

namespace Probe

variable {σ κ : Type}

/-- Makes a call on the connection. -/
def onConnection {α : Type} (p : Probe σ κ) (view : α → Finding)
    (f : κ → World σ → Reply σ κ α) : Finding × Probe σ κ :=
  match p.conn with
  | none => (.noConnection, p)
  | some c =>
    let r := f c p.world
    (.ofResult view r.answer, ⟨some r.conn, r.world⟩)

/-- Looks at the connection. -/
def look (p : Probe σ κ) (f : κ → World σ → Finding × κ) : Finding × Probe σ κ :=
  match p.conn with
  | none => (.noConnection, p)
  | some c =>
    let (finding, c) := f c p.world
    (finding, { p with conn := some c })

/-- Asks for a connection. -/
def connect (B : Backend σ κ) (p : Probe σ κ) (request : ConnectRequest) : Finding × Probe σ κ :=
  let r := B.connect request p.world
  match r.answer with
  | .error e => (.connected (.error e) r.left, { p with world := r.world })
  | .ok c => (.connected (.ok ()) r.left, ⟨some c, r.world⟩)

/-- Gives the connection up. -/
def close (B : Backend σ κ) (p : Probe σ κ) : Finding × Probe σ κ :=
  match p.conn with
  | none => (.noConnection, p)
  | some c =>
    let (result, world) := B.close c p.world
    (.ofResult (fun () => .done) result, ⟨none, world⟩)

/-- Makes one call. -/
def run (B : Backend σ κ) (p : Probe σ κ) : Probing → Finding × Probe σ κ
  | .connect request => p.connect B request
  | .read n => p.onConnection .bytes fun c w => B.read c n w
  | .write data => p.onConnection .number fun c w => B.write c data w
  | .flush => p.onConnection (fun () => .done) B.flush
  | .error => p.look fun c w => (.sticking (B.error c w), c)
  | .seek pos => p.onConnection .number fun c w => B.seek c pos w
  | .size => p.onConnection .size B.size
  | .seekTime target => p.onConnection (fun () => .done) fun c w => B.seekTime c target w
  | .describe => p.look fun c w => (.description (B.isSeekable c w) (B.mimeType c w), c)
  | .icyFields => p.look fun c w =>
    let (fields, c) := B.icyFields c w
    (.fields fields, c)
  | .close => p.close B

/-- The probe with the signals that come while the next call is blocked. -/
def awaiting (p : Probe σ κ) (whileBlocked : List Signal) : Probe σ κ :=
  { p with world := { p.world with signals := { p.world.signals with whileBlocked } } }

/-- The probe once the signals have come that no call of it was blocked for. -/
def settled (p : Probe σ κ) : Probe σ κ :=
  { p with world := { p.world with signals := p.world.signals.settle } }

/-- Makes one call, during which signals come, or after it if it was not blocked. -/
def step (B : Backend σ κ) (p : Probe σ κ) (call : Probing) (whileBlocked : List Signal) :
    Finding × Probe σ κ :=
  let (finding, p) := (p.awaiting whileBlocked).run B call
  (finding, p.settled)

end Probe

end ByteStream
