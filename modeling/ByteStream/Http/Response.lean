/-
# ByteStream.Http.Response -- answers, and bodies that arrive in chunks

A body is what is still to come of an answer: chunks, and then its end, which is regular, a broken
transfer, or silence. A broken transfer is reported once; after it the body is over.
-/

import ByteStream.Http.HeaderMap
import ByteStream.Text.Utf8

namespace ByteStream.Http

/-! ## Bodies -/

/-- How a body ends. -/
inductive Ending
  | complete
  /-- The transfer fails after the last chunk. -/
  | broken
  /-- Nothing comes after the last chunk, and the connection stays open. -/
  | silent
deriving DecidableEq, Repr

/-- The chunks that a stretch of bytes arrives in: one, unless it is empty. -/
def asChunk (bytes : Bytes) : List Bytes := if bytes.isEmpty then [] else [bytes]

/-- What is still to come of an answer. -/
structure Body where
  chunks : List Bytes := []
  ending : Ending := .complete
deriving DecidableEq, Repr

/-- What a reader of a body meets next. -/
inductive Arrival
  | chunk (bytes : Bytes)
  | failure
  | finish
deriving DecidableEq, Repr

namespace Body

/-- What comes next and what is to come then; `none` if nothing ever comes. -/
def next? : Body → Option (Arrival × Body)
  | ⟨chunk :: chunks, ending⟩ => some (.chunk chunk, ⟨chunks, ending⟩)
  | ⟨[], .complete⟩ => some (.finish, ⟨[], .complete⟩)
  | ⟨[], .broken⟩ => some (.failure, ⟨[], .complete⟩)
  | ⟨[], .silent⟩ => none

/-- All bytes that are still to come. -/
def bytes (b : Body) : Bytes := b.chunks.flatten

theorem length_chunks_of_next? {b later : Body} {bytes : Bytes}
    (h : b.next? = some (.chunk bytes, later)) : later.chunks.length < b.chunks.length := by
  obtain ⟨chunks, ending⟩ := b
  cases chunks with
  | nil => cases ending <;> simp [next?] at h
  | cons c cs =>
    simp only [next?, Option.some.injEq, Prod.mk.injEq] at h
    simp [← h.2]

/-- Taking a chunk off loses no byte. -/
theorem bytes_of_next?_chunk {b later : Body} {chunk : Bytes}
    (h : b.next? = some (.chunk chunk, later)) : b.bytes = chunk ++ later.bytes := by
  obtain ⟨chunks, ending⟩ := b
  cases chunks with
  | nil => cases ending <;> simp [next?] at h
  | cons c cs =>
    simp only [next?, Option.some.injEq, Prod.mk.injEq, Arrival.chunk.injEq] at h
    obtain ⟨rfl, rfl⟩ := h
    rfl

/-- The end comes only when every chunk has been taken off. -/
theorem bytes_of_next?_finish {b later : Body} (h : b.next? = some (.finish, later)) :
    b.bytes = [] := by
  obtain ⟨chunks, ending⟩ := b
  cases chunks with
  | nil => rfl
  | cons c cs => simp [next?] at h

end Body

/-! ## Answers -/

/-- An answer: its head, the size of its body if that is known, and the body. -/
structure Response where
  status : Nat
  headers : HeaderMap
  size : Option Nat
  body : Body
deriving DecidableEq, Repr

/-- What a server does with a request. -/
inductive Reaction
  | silence
  | hangUp
  | respond (r : Response)
deriving DecidableEq, Repr

/-- What comes of a reaction: a response, the news that there is none, or nothing at all. -/
def Reaction.arrival : Reaction → Option (Option Response)
  | .silence => none
  | .hangUp => some none
  | .respond r => some (some r)

/-! ## Statuses -/

/-- A status has three digits, the first of them not 0. -/
def isStatus (status : Nat) : Bool := 100 ≤ status && status < 1000

/-- The status of an answer that hands the connection over to another protocol. -/
def switchingProtocols : Nat := 101

/-- The status only says that an answer is to come. -/
def isInterim (status : Nat) : Bool := status < 200 && status != switchingProtocols

/-- An answer of this status has no body. -/
def isBodiless (status : Nat) : Bool :=
  status == switchingProtocols || status == 204 || status == 304

/-- The status says that all went well. -/
def isSuccess (status : Nat) : Bool := 200 ≤ status && status < 300

/-- The status of an answer to a request for a part. -/
def partialContent : Nat := 206

/-- The status that a request may be answered with. A request for the part from a position
greater than 0 has to be answered by that part. -/
def isAccepted (offset : Option Nat) (status : Nat) : Bool :=
  match offset with
  | none | some 0 => isSuccess status
  | some (_ + 1) => status == partialContent

end ByteStream.Http
