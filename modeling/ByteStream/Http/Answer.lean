/-
# ByteStream.Http.Answer -- answers, as they are sent and as they arrive

An answer is sent as a status, header fields and pieces of a body, with one of three ways to make
the end of the body known. What arrives is read from what was sent and not from what was meant:
fields are found in the lines of the head, and the end of the body by the fields that were found.

An answer that cannot be understood is no better than none. A status that only announces another
answer is followed by none here.
-/

import ByteStream.Http.BodyLength
import ByteStream.Http.Head

namespace ByteStream.Http

/-- How the end of a body is made known. -/
inductive Framing
  /-- By its length, which may be declared wrongly. -/
  | length (declared : Option Nat)
  /-- By chunks; the transfer may be cut off after the last. -/
  | chunked (truncated : Bool)
  /-- By closing the connection. -/
  | untilClose
deriving DecidableEq, Repr

/-- An answer as it is sent. -/
structure Answer where
  status : Nat := 200
  headers : List (String × String) := []
  pieces : List Bytes := []
  framing : Framing := .length none
  /-- After the bytes of the body nothing more is sent. -/
  stalls : Bool := false
deriving DecidableEq, Repr

namespace Answer

/-! ## What is sent -/

/-- The fields, at the end the one that the framing adds. -/
def fields (a : Answer) : List (String × String) :=
  a.headers ++
    match a.framing with
    | .length declared =>
      [("Content-Length", toString (declared.getD a.pieces.flatten.length))]
    | .chunked _ => [("Transfer-Encoding", BodyLength.chunkedCoding)]
    | .untilClose => []

/-- The bytes behind the head. -/
def payload (a : Answer) : Bytes :=
  match a.framing with
  | .length _ | .untilClose => a.pieces.flatten
  | .chunked truncated =>
    a.pieces.flatMap Chunked.chunk ++ if truncated || a.stalls then [] else Chunked.last

/-! ## What arrives -/

/-- What comes of an answer whose head has been read, of the bytes behind the head. -/
def receivedBehind (a : Answer) (m : HeaderMap) (bytes : Bytes) : Reaction :=
  if isInterim a.status then
    if a.stalls && bytes.isEmpty then .silence else .hangUp
  else
    match BodyLength.of? a.status m with
    | none => .hangUp
    | some length => .respond ⟨a.status, m, length.size?, length.body a.stalls bytes⟩

/-- What comes of an answer. -/
def received (a : Answer) : Reaction :=
  if ¬ isStatus a.status then .hangUp
  else
    match Head.read (Head.write a.fields) with
    | none => .hangUp
    | some (m, behind) => a.receivedBehind m (Text.utf8 (String.ofList behind) ++ a.payload)

end Answer

end ByteStream.Http
