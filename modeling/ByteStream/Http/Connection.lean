/-
# ByteStream.Http.Connection -- reading the body of an answer

A connection holds one body and the bytes of its latest chunk that have not been read yet. Reading
waits for chunks until there is a byte of payload to give; metadata is cut out on the way if the
server announced an interval and it was asked for. What a connection says about itself is settled
by the first answer: its size, its type, its metadata header lines, and whether it can seek.

Seeking asks for the part from a position on and then reads that body. The request has to succeed
before anything changes. No request can be made for the part behind the last byte, so seeking to
the size itself needs none.

How the waits go is a parameter of both, and for a seek the transport is another; `read` and `seek`
are those in the scripted order.
-/

import ByteStream.Backend
import ByteStream.Http.Request
import ByteStream.Icy.Demuxer

namespace ByteStream.Http

/-! ## What an answer says -/

/-- The value of the first field of a name, if ASCII can show it. -/
def visible? (m : HeaderMap) (name : String) : Option String := (m.get? name).filter isVisible

/-- The answer may be asked for in parts. -/
def offersParts (m : HeaderMap) : Bool :=
  (visible? m "accept-ranges").any fun v => Text.sameName (Text.trimmed v) "bytes"

/-- The type of the content. -/
def contentType? (m : HeaderMap) : Option String := (visible? m "content-type").map Text.trimmed

/-- What the names of metadata fields start with. -/
def icyMark : String := "icy-"

/-- The header line of a metadata field. -/
def icyLine? (field : String × String) : Option String :=
  if Text.startsWith icyMark.toList field.1.toList && isVisible field.2
  then some (field.1 ++ ": " ++ field.2 ++ "\n") else none

/-- The metadata fields as header lines, if there are any. -/
def icyHeaders? (m : HeaderMap) : Option String :=
  let lines := m.fields.filterMap icyLine?
  if lines.isEmpty then none else some (String.join lines)

/-- A count in decimal digits, perhaps after a plus sign. -/
def count? (cs : List Char) : Option Nat :=
  let digits := (Text.after? ['+'] cs).getD cs
  if digits.isEmpty ∨ ¬ digits.all Char.isDigit then none
  else (Text.number? 10 digits).filter (· ≤ Text.maxCount)

/-- The interval between metadata blocks that the server announces. -/
def icyInterval? (m : HeaderMap) : Option Nat :=
  (visible? m "icy-metaint").bind fun v => count? (Text.trim v.toList)

/-- The state in which metadata is cut out, if it was asked for and is announced. -/
def demuxer? (wanted : Bool) (m : HeaderMap) : Option Icy.Demuxer :=
  if wanted then (icyInterval? m).bind Icy.Demuxer.ofInterval else none

/-! ## Connections -/

/-- The reader of one body at a time. -/
structure Connection where
  url : Url
  base : HeaderMap
  interrupt : Interrupt
  /-- What is still to come; `none` once it has ended. -/
  body : Option Body
  /-- What has come and was not read. -/
  pending : Bytes := []
  demuxer : Option Icy.Demuxer
  icyHeaders : Option String
  /-- How much payload has been read, counted from the start of the resource. -/
  pos : Nat := 0
  size : Option Nat
  seekable : Bool
  mimeType : Option String

namespace Connection

variable {τ : Type}

/-- The connection that an answer opens. -/
def ofResponse (url : Url) (base : HeaderMap) (interrupt : Interrupt) (wantsIcy : Bool)
    (r : Response) : Connection :=
  let demuxer := demuxer? wantsIcy r.headers
  { url, base, interrupt, demuxer
    body := some r.body
    icyHeaders := if wantsIcy then icyHeaders? r.headers else none
    size := r.size
    seekable := offersParts r.headers && r.size.isSome && demuxer.isNone
    mimeType := contentType? r.headers }

/-- Gives payload out of the pending bytes, at most `n` bytes of it. -/
def takePending (c : Connection) (n : Nat) : Bytes × Connection :=
  match c.demuxer with
  | none => (c.pending.take n, { c with pending := c.pending.drop n })
  | some d =>
    let cut := d.demux c.pending n
    (cut.audio, { c with pending := cut.rest, demuxer := some cut.state })

/-- Counts payload that was read. -/
def advance (c : Connection) (n : Nat) : Connection := { c with pos := c.pos + n }

@[simp] theorem body_takePending (c : Connection) (n : Nat) :
    (c.takePending n).2.body = c.body := by
  unfold takePending
  split <;> rfl

/-- Without metadata to cut out, what is given and what stays pending were pending before. -/
theorem takePending_append {c : Connection} (h : c.demuxer = none) (n : Nat) :
    (c.takePending n).1 ++ (c.takePending n).2.pending = c.pending := by
  simp [takePending, h]

/-- What is given fits the room. -/
theorem length_takePending_le (c : Connection) (n : Nat) : (c.takePending n).1.length ≤ n := by
  unfold takePending
  split
  · exact List.length_take_le n c.pending
  · rename_i d _
    exact Icy.Demuxer.length_audio_le d c.pending n

/-- How many chunks are to come. -/
def chunksLeft (c : Connection) : Nat :=
  match c.body with
  | none => 0
  | some body => body.chunks.length

/-- How many bytes are pending or to come. -/
def bytesLeft (c : Connection) : Nat :=
  c.pending.length + (c.body.map fun body => body.bytes.length).getD 0

/-- The error of a broken transfer. -/
def brokenTransfer : HttpError := .transfer "error decoding response body"

/-- Reads at most `n` bytes of payload, waiting for chunks as long as there is none, in the order
given. -/
def readOnBy (o : Order τ) (c : Connection) (n : Nat) (w : World (Server τ)) :
    Observed (Reply (Server τ) Connection Bytes) :=
  let taken := c.takePending n
  if taken.1 ≠ [] then ⟨.done taken.1 (taken.2.advance taken.1.length) w, []⟩
  else
    match _hbody : taken.2.body with
    | none => ⟨.done [] taken.2 w, []⟩
    | some body =>
      let waited := c.interrupt.waitBy (o.arriving body w) body.next? w.signals
      let w := { w with signals := waited.result.2 }
      match _hwait : body.next?, waited.result.1 with
      | _, .error e => ⟨.fail e taken.2 w, waited.looks⟩
      | none, .ok _ => ⟨.fail .lost taken.2 w, waited.looks⟩
      | some (.failure, later), .ok _ =>
        ⟨.fail brokenTransfer.toBackend { taken.2 with body := some later } w, waited.looks⟩
      | some (.finish, _), .ok _ => ⟨.done [] { taken.2 with body := none } w, waited.looks⟩
      | some (.chunk bytes, later), .ok _ =>
        let rest := readOnBy o { taken.2 with pending := bytes, body := some later } n w
        ⟨rest.result, waited.looks ++ rest.looks⟩
termination_by c.chunksLeft
decreasing_by
  have hc : c.body = some body := by rw [← _hbody]; exact (body_takePending c n).symm
  simp only [chunksLeft, hc]
  exact Body.length_chunks_of_next? _hwait

/-- Reads at most `n` bytes of payload; with no room nothing happens. -/
def readBy (o : Order τ) (c : Connection) (n : Nat) (w : World (Server τ)) :
    Observed (Reply (Server τ) Connection Bytes) :=
  if n = 0 then ⟨.done [] c w, []⟩ else c.readOnBy o n w

/-- The connection turned to another body at another position. -/
def turnTo (c : Connection) (pos : Nat) (body : Option Body) : Connection :=
  { c with pos, body, pending := [] }

/-- Goes to a position, in the order given. -/
def seekBy (t : Transport) (o : Order τ) (c : Connection) (pos : Nat) (w : World (Server τ)) :
    Observed (Reply (Server τ) Connection Nat) :=
  if ¬ c.seekable then ⟨.fail .unsupported c w, []⟩
  else if c.size = some pos then ⟨.done pos (c.turnTo pos none) w, []⟩
  else
    let sent := sendBy t o c.url c.base (some pos) c.interrupt w
    ⟨match sent.result with
      | (.error e, w) => .fail e c w
      | (.ok response, w) => .done pos (c.turnTo pos (some response.body)) w,
     sent.looks⟩

/-! ### In the scripted order -/

/-- Reads at least one byte of payload and at most `n`, or tells why there is none. -/
def readOn (c : Connection) (n : Nat) (w : World (Server τ)) : Reply (Server τ) Connection Bytes :=
  (c.readOnBy .scripted n w).result

/-- Reads at most `n` bytes of payload. -/
def read (c : Connection) (n : Nat) (w : World (Server τ)) : Reply (Server τ) Connection Bytes :=
  (c.readBy .scripted n w).result

/-- Goes to a position. -/
def seek (t : Transport) (c : Connection) (pos : Nat) (w : World (Server τ)) :
    Reply (Server τ) Connection Nat :=
  (c.seekBy t .scripted pos w).result

/-- The metadata as it is now. -/
def icyFields (c : Connection) : Icy.Fields :=
  { headers := c.icyHeaders
    packet := c.demuxer.bind (·.packet)
    sequence := c.demuxer.map (·.sequence) }

end Connection

end ByteStream.Http
