/-
# ByteStream.Scripted -- a backend that plays answers back

A script is a list of attempts to connect, and for each that succeeds lists of answers, one list
for each kind of call. Every call takes the next answer off its list; when a list is used up, or
was never there, the call does what a backend does that leaves it out. Each call is noted in the
journal, except looks at what a connection says of itself. Interrupts are not asked.
-/

import ByteStream.Backend

namespace ByteStream.Scripted

/-! ## Scripts -/

/-- The answers that one connection gives. -/
structure Script where
  /-- The options that connecting takes. -/
  taken : List String := []
  reads : List (Except BackendError Bytes) := []
  writes : List (Except BackendError Nat) := []
  flushes : List (Except BackendError Unit) := []
  seeks : List (Except BackendError Nat) := []
  sizes : List (Except BackendError (Option Nat)) := []
  seekTimes : List (Except BackendError Unit) := []
  fields : List Icy.Fields := []
  seekable : Bool := false
  mimeType : Option String := none
  /-- The error that always sticks. -/
  error : Option BackendError := none
  closing : Except BackendError Unit := .ok ()

/-- The attempts to connect that are still to come. -/
structure Playlist where
  connects : List (Except BackendError Script) := []

/-- The next answer of a list, or `absent` when it is used up, and what is left. -/
def next {α : Type} (absent : α) : List α → α × List α
  | [] => (absent, [])
  | answer :: later => (answer, later)

/-! ## Calls -/

/-- Takes the next attempt off the playlist. -/
def connect (request : ConnectRequest) (w : World Playlist) : Connected Playlist Script :=
  let w := w.note (.connect request.url request.mode request.options)
  let (attempt, later) := next (.error .protocolNotFound) w.state.connects
  let w := { w with state := { connects := later } }
  match attempt with
  | .error e => ⟨.error e, request.options, w⟩
  | .ok script =>
    ⟨.ok script, script.taken.foldl (fun left key => (left.take key).2) request.options, w⟩

/-- Gives the next bytes, cut to the room; the rest of them is lost. -/
def read (c : Script) (n : Nat) (w : World Playlist) : Reply Playlist Script Bytes :=
  let (answer, reads) := next (.ok []) c.reads
  ⟨answer.map (·.take n), { c with reads }, w.note (.read n)⟩

/-- Gives the next count, whatever the data. -/
def write (c : Script) (data : Bytes) (w : World Playlist) : Reply Playlist Script Nat :=
  let (answer, writes) := next (.error .unsupported) c.writes
  ⟨answer, { c with writes }, w.note (.write data)⟩

/-- Gives the next result of a flush. -/
def flush (c : Script) (w : World Playlist) : Reply Playlist Script Unit :=
  let (answer, flushes) := next (.ok ()) c.flushes
  ⟨answer, { c with flushes }, w.note .flush⟩

/-- Gives the next position. -/
def seek (c : Script) (pos : Nat) (w : World Playlist) : Reply Playlist Script Nat :=
  let (answer, seeks) := next (.error .unsupported) c.seeks
  ⟨answer, { c with seeks }, w.note (.seek pos)⟩

/-- Gives the next size. -/
def size (c : Script) (w : World Playlist) : Reply Playlist Script (Option Nat) :=
  let (answer, sizes) := next (.ok none) c.sizes
  ⟨answer, { c with sizes }, w.note .size⟩

/-- Gives the next result of a seek by time. -/
def seekTime (c : Script) (target : TimestampSeek) (w : World Playlist) :
    Reply Playlist Script Unit :=
  let (answer, seekTimes) := next (.error .unsupported) c.seekTimes
  ⟨answer, { c with seekTimes }, w.note (.seekTime target)⟩

/-- Shows the next fields. -/
def icyFields (c : Script) (_ : World Playlist) : Icy.Fields × Script :=
  let (shown, fields) := next {} c.fields
  (shown, { c with fields })

/-- The backend that plays a playlist. -/
def backend : Backend Playlist Script where
  protocols := ["script"]
  connect := connect
  read := read
  readsLeft c _ := c.reads.length
  write := write
  flush := flush
  error c _ := c.error
  seek := seek
  size := size
  seekTime := seekTime
  isSeekable c _ := c.seekable
  mimeType c _ := c.mimeType
  icyFields := icyFields
  close c w := (c.closing, w.note .close)

end ByteStream.Scripted
