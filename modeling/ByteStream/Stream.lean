/-
# ByteStream.Stream -- one open stream over one connection

A stream remembers how it was opened, so that it can connect again, and what its connection said
about itself when it connected: whether it can seek and what type its content has. Each operation
is a function of the stream and the world.

Reading sorts errors coarsely: nothing read, and any failure but an interruption, are the end of
the stream. Writing always flushes. Seeking asks first whether the stream can seek. Connecting
again gives the old connection up before it asks for a new one; if that fails, the stream is
left without a connection, which only a further attempt can change.
-/

import ByteStream.Address
import ByteStream.Backend
import ByteStream.ConnectOptions.Build
import ByteStream.Control
import ByteStream.Icy.Differ

namespace ByteStream

/-- An open stream. -/
structure Stream (σ κ : Type) where
  config : Config
  cookies : CookieProvider σ
  url : String
  mode : Mode
  conn : Option κ := none
  seekable : Bool := false
  mimeType : Option String := none
  hint : Option DemuxerHint := none
  differ : Icy.Differ := {}

/-- What an operation leaves behind: its result, the stream and the world. -/
structure Outcome (σ κ α : Type) where
  result : α
  stream : Stream σ κ
  world : World σ

/-- An outcome with its result read in another way. -/
def Outcome.map {σ κ α β : Type} (f : α → β) (o : Outcome σ κ α) : Outcome σ κ β :=
  ⟨f o.result, o.stream, o.world⟩

namespace Stream

variable {σ κ α β : Type}

/-! ## Connecting and giving up -/

/-- Asks the backend for a connection and takes it over. -/
def connect (B : Backend σ κ) (s : Stream σ κ) (w : World σ) :
    Outcome σ κ (Except StreamError Unit) :=
  let (options, w) := ConnectOptions.build s.config s.mode s.cookies w
  let connected := B.connect ⟨s.url, s.mode, options, Interrupt.ofToken? s.config.cancel⟩ w
  match connected.answer with
  | .error e => ⟨.error (.ofConnect s.url e), s, connected.world⟩
  | .ok c =>
    ⟨.ok (),
     { s with
       conn := some c
       seekable := B.isSeekable c connected.world
       mimeType := B.mimeType c connected.world
       hint := DemuxerHint.forOpened s.url },
     connected.world⟩

/-- Gives the connection up, if there is one. An error on the way is nobody's business. -/
def release (B : Backend σ κ) (s : Stream σ κ) (w : World σ) : Stream σ κ × World σ :=
  ({ s with conn := none, seekable := false, mimeType := none },
   match s.conn with
   | none => w
   | some c => (B.close c w).2)

/-- The end of a stream: its connection is given up. -/
def close (B : Backend σ κ) (s : Stream σ κ) (w : World σ) : World σ := (s.release B w).2

/-- There is a connection. -/
def isConnected (s : Stream σ κ) : Bool := s.conn.isSome

/-- Streams from the network should be cached by the layer above. -/
def isStreaming (_ : Stream σ κ) : Bool := true

/-! ## Calls on the connection -/

/-- Makes a call on the connection and reads its answer; `absent` is the result without one. -/
def call (s : Stream σ κ) (w : World σ) (absent : α) (f : κ → World σ → Reply σ κ β)
    (view : Except BackendError β → α) : Outcome σ κ α :=
  match s.conn with
  | none => ⟨absent, s, w⟩
  | some c =>
    let r := f c w
    ⟨view r.answer, { s with conn := some r.conn }, r.world⟩

/-- What a reader is told: bytes, an interruption, or else the end. -/
def readView : Except BackendError Bytes → Except StreamError Bytes
  | .ok [] => .error .eof
  | .ok (b :: bytes) => .ok (b :: bytes)
  | .error .interrupted => .error (.interrupted .read)
  | .error _ => .error .eof

/-- Reads at most `n` bytes. -/
def read (B : Backend σ κ) (s : Stream σ κ) (n : Nat) (w : World σ) :
    Outcome σ κ (Except StreamError Bytes) :=
  s.call w (.error (.noConnection .read)) (fun c w => B.read c n w) readView

/-- Writes and flushes; gives the number of bytes taken. -/
def write (B : Backend σ κ) (s : Stream σ κ) (data : Bytes) (w : World σ) :
    Outcome σ κ (Except StreamError Nat) :=
  s.call w (.error (.noConnection .write)) (fun c w => B.writeThrough c data w)
    (Except.mapError (StreamError.ofBackend .write))

/-- Goes to a position, if the stream can seek. -/
def seek (B : Backend σ κ) (s : Stream σ κ) (pos : Nat) (w : World σ) :
    Outcome σ κ (Except StreamError Unit) :=
  if s.seekable then
    s.call w (.error (.noConnection .seek)) (fun c w => B.seek c pos w) fun answer =>
      match answer with
      | .ok _ => .ok ()
      | .error e => .error (.ofBackend .seek e)
  else ⟨.error (.unsupported .seek), s, w⟩

/-! ## Control -/

/-- The result for the size that a backend gives. -/
def sizeView : Except BackendError (Option Nat) → ControlResult
  | .ok (some n) => .success (.size n)
  | .ok none | .error .unsupported => .unsupported
  | .error e => .failed (.ofBackend .control e)

/-- The result for a seek by time. -/
def seekTimeView : Except BackendError Unit → ControlResult
  | .ok () => .success .seeked
  | .error .unsupported => .unsupported
  | .error e => .failed (.ofBackend .control e)

/-- Polls the metadata of the connection for news. -/
def pollTags (B : Backend σ κ) (s : Stream σ κ) (w : World σ) : Outcome σ κ ControlResult :=
  match s.conn with
  | none => ⟨.unsupported, s, w⟩
  | some c =>
    let (fields, c) := B.icyFields c w
    let (news, differ) := s.differ.poll fields
    let s := { s with conn := some c, differ }
    match news with
    | some tags => ⟨.success (.tags tags), s, w⟩
    | none => ⟨.unsupported, s, w⟩

/-- Gives the connection up and connects again. Only a reader can do that. -/
def reconnect (B : Backend σ κ) (s : Stream σ κ) (w : World σ) : Outcome σ κ ControlResult :=
  if s.mode = .write then ⟨.unsupported, s, w⟩
  else
    let (s, w) := s.release B w
    let opened := Stream.connect B { s with differ := s.differ.reset } w
    match opened.result with
    | .ok () => ⟨.success (.reconnected .reopened), opened.stream, opened.world⟩
    | .error e => ⟨.failed e, opened.stream, opened.world⟩

/-- Serves a request. -/
def control (B : Backend σ κ) (s : Stream σ κ) (request : ControlRequest) (w : World σ) :
    Outcome σ κ ControlResult :=
  match request with
  | .size => s.call w .unsupported B.size sizeView
  | .seekTime seek => s.call w .unsupported (fun c w => B.seekTime c seek w) seekTimeView
  | .tags => s.pollTags B w
  | .reconnect => s.reconnect B w

end Stream

/-! ## Opening -/

/-- What opening an address gives: a stream, or a hint for an address that is none. -/
inductive Opened (σ κ : Type)
  | stream (s : Stream σ κ)
  | delegate (hint : DemuxerHint)

/-- Opens an address. An empty one, and one that is not a byte stream, do not reach the backend. -/
def Stream.openAt {σ κ : Type} (B : Backend σ κ) (config : Config) (cookies : CookieProvider σ)
    (address : String) (mode : Mode) (w : World σ) :
    Except StreamError (Opened σ κ) × World σ :=
  match Address.normalize address with
  | .error e => (.error e, w)
  | .ok (.delegate hint) => (.ok (.delegate hint), w)
  | .ok (.openAt url) =>
    let opened := Stream.connect B { config, cookies, url, mode } w
    match opened.result with
    | .ok () => (.ok (.stream opened.stream), opened.world)
    | .error e => (.error e, opened.world)

end ByteStream
