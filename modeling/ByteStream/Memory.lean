/-
# ByteStream.Memory -- a backend that serves a byte string from memory

Every connection reads the same content from a position of its own; what is written on any of
them goes to one log. The store records each attempt to connect, each close, each seek and every
byte written, and it can be told to fail: the next attempts to connect, every flush, or seeks by
time. It counts the connections that are open. Reads can be made to wait for ever, so that only an
interrupt ends them.
-/

import ByteStream.Address
import ByteStream.Backend
import ByteStream.Course

namespace ByteStream.Memory

/-! ## The store -/

/-- What the store serves and how it behaves. -/
structure Settings where
  content : Bytes := []
  seekable : Bool := false
  size : Option Nat := none
  mimeType : Option String := none
  /-- The options that connecting takes. -/
  consumed : List String := []
  /-- Reads wait until they are broken off. -/
  blockingReads : Bool := false
  /-- The error that a flush leaves on its connection. -/
  flushError : Option BackendError := none
  /-- The answer to seeks by time; without one they are unsupported. -/
  seekTime : Option (Except BackendError Unit) := none
  icy : Icy.Fields := {}

/-- An attempt to connect, with the options before any was taken. -/
structure Attempt where
  url : String
  mode : Mode
  options : ConnectOptions
deriving DecidableEq, Repr

/-- The settings and the records. -/
structure Store where
  settings : Settings := {}
  /-- The errors of the next attempts to connect. -/
  failures : List BackendError := []
  attempts : List Attempt := []
  closes : Nat := 0
  /-- How many connections are open. -/
  live : Nat := 0
  /-- How many connections there have been. -/
  opened : Nat := 0
  written : Bytes := []
  seeks : List Nat := []

/-- A connection to the store. -/
structure Connection where
  id : Nat
  interrupt : Interrupt
  pos : Nat := 0
  /-- The error that sticks. -/
  error : Option BackendError := none

/-- The schemes that the store serves, in exactly this spelling. -/
def protocols : List String := ["http", "https", "mmsh", "rtmp", "udp", "mock"]

/-- The scheme of the address is one of them. -/
def serves (url : String) : Bool := (Address.scheme? url).any fun s => protocols.contains s

namespace Store

/-- Makes a further attempt to connect fail. -/
def failNext (s : Store) (e : BackendError) : Store := { s with failures := s.failures ++ [e] }

/-- Records an attempt to connect. -/
def recordAttempt (s : Store) (request : ConnectRequest) : Store :=
  { s with attempts := s.attempts ++ [⟨request.url, request.mode, request.options⟩] }

/-- Opens one more connection. -/
def enroll (s : Store) (interrupt : Interrupt) : Connection × Store :=
  (⟨s.opened + 1, interrupt, 0, none⟩, { s with live := s.live + 1, opened := s.opened + 1 })

/-- The options after the store has taken its own. -/
def takeOptions (s : Store) (options : ConnectOptions) : ConnectOptions :=
  s.settings.consumed.foldl (fun left key => (left.take key).2) options

/-- Closes a connection. -/
def dismiss (s : Store) : Store := { s with closes := s.closes + 1, live := s.live - 1 }

end Store

/-! ## Connecting -/

/-- The attempt is recorded. Then it fails if the interrupt fires, if a failure is due, or if the
scheme is not served, in this order; a failure that is due is used up only if the interrupt was
silent. -/
def connect (request : ConnectRequest) (w : World Store) : Connected Store Connection :=
  let store := w.state.recordAttempt request
  let refuse (e : BackendError) (store : Store) : Connected Store Connection :=
    ⟨.error e, request.options, { w with state := store }⟩
  if request.interrupt.fires w.signals then refuse .interrupted store
  else
    match store.failures with
    | e :: later => refuse e { store with failures := later }
    | [] =>
      if serves request.url then
        let (c, enrolled) := store.enroll request.interrupt
        ⟨.ok c, store.takeOptions request.options, { w with state := enrolled }⟩
      else refuse .protocolNotFound store

/-! ## Calls -/

/-- What is left of the content behind the position, cut to `n` bytes. -/
def Connection.available (c : Connection) (content : Bytes) (n : Nat) : Bytes :=
  (content.drop c.pos).take n

/-- Reads on from the position. -/
def read (c : Connection) (n : Nat) (w : World Store) : Reply Store Connection Bytes :=
  if c.interrupt.fires w.signals then .fail .interrupted c w
  else if w.state.settings.blockingReads then
    match c.interrupt.race (none : Option Unit) w.signals with
    | (.error e, signals) => .fail e c { w with signals }
    | (.ok _, signals) => .fail .lost c { w with signals }
  else
    let bytes := c.available w.state.settings.content n
    .done bytes { c with pos := c.pos + bytes.length } w

/-- Puts the bytes at the end of the log, and takes them all. -/
def write (c : Connection) (data : Bytes) (w : World Store) : Reply Store Connection Nat :=
  if c.interrupt.fires w.signals then .fail .interrupted c w
  else .done data.length c { w with state := { w.state with written := w.state.written ++ data } }

/-- Succeeds, but leaves the flush error on the connection if one is set. -/
def flush (c : Connection) (w : World Store) : Reply Store Connection Unit :=
  .done () { c with error := w.state.settings.flushError.or c.error } w

/-- Goes to a position that is not behind the end of the content. -/
def seek (c : Connection) (pos : Nat) (w : World Store) : Reply Store Connection Nat :=
  if c.interrupt.fires w.signals then .fail .interrupted c w
  else if w.state.settings.content.length < pos then
    .fail (.io ("seek past end: " ++ toString pos)) c w
  else
    .done pos { c with pos }
      { w with state := { w.state with seeks := w.state.seeks ++ [pos] } }

/-- Gives the answer that is set. -/
def seekTime (c : Connection) (_ : TimestampSeek) (w : World Store) :
    Reply Store Connection Unit :=
  ⟨w.state.settings.seekTime.getD (.error .unsupported), c, w⟩

/-- The backend that serves the store. -/
def backend : Backend Store Connection where
  protocols := protocols
  connect := connect
  read := read
  readsLeft c w := w.state.settings.content.length - c.pos
  write := write
  flush := flush
  error c _ := c.error
  seek := seek
  size c w := .done w.state.settings.size c w
  seekTime := seekTime
  isSeekable _ w := w.state.settings.seekable
  mimeType _ w := w.state.settings.mimeType
  icyFields c w := (w.state.settings.icy, c)
  close _ w := (.ok (), { w with state := w.state.dismiss })

end ByteStream.Memory
