/-
# ByteStream.Control -- requests beside reading and writing

A control request asks a stream for its size, for a seek by time, for new metadata, or to connect
again. A stream that cannot answer says `unsupported`, which is no failure. Two results are equal
when they say the same; tags are compared as tags.
-/

import ByteStream.Error
import ByteStream.Tags
import ByteStream.World

namespace ByteStream

/-- A request to a stream. -/
inductive ControlRequest
  | size
  | seekTime (seek : TimestampSeek)
  | tags
  | reconnect
deriving DecidableEq, Repr

/-- How a stream was connected again. -/
inductive ReconnectKind
  /-- The connection was given up and opened anew; reading starts where the backend starts. -/
  | reopened
deriving DecidableEq, Repr

/-- The answer to a request that was served. -/
inductive ControlReply
  | size (n : Nat)
  | seeked
  | tags (t : Tags)
  | reconnected (kind : ReconnectKind)

/-- The result of a request. -/
inductive ControlResult
  | success (reply : ControlReply)
  | unsupported
  | failed (e : StreamError)

/-- The replies say the same. -/
def ControlReply.sameAs : ControlReply → ControlReply → Bool
  | .size a, .size b => a == b
  | .seeked, .seeked => true
  | .tags a, .tags b => a == b
  | .reconnected a, .reconnected b => a == b
  | _, _ => false

namespace ControlResult

/-- The request was served. -/
def isSuccess : ControlResult → Bool
  | .success _ => true
  | _ => false

/-- The stream cannot answer. -/
def isUnsupported : ControlResult → Bool
  | .unsupported => true
  | _ => false

/-- The answer, if the request was served. -/
def reply? : ControlResult → Option ControlReply
  | .success reply => some reply
  | .unsupported | .failed _ => none

/-- The size, if that is the answer. -/
def size? (r : ControlResult) : Option Nat :=
  match r.reply? with
  | some (.size n) => some n
  | _ => none

/-- The tags, if they are the answer. -/
def tags? (r : ControlResult) : Option Tags :=
  match r.reply? with
  | some (.tags t) => some t
  | _ => none

/-- The results say the same. -/
def sameAs : ControlResult → ControlResult → Bool
  | .success a, .success b => a.sameAs b
  | .unsupported, .unsupported => true
  | .failed a, .failed b => a == b
  | _, _ => false

end ControlResult

end ByteStream
