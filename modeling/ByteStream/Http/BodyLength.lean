/-
# ByteStream.Http.BodyLength -- where a body ends

Where the body of an answer ends is settled by its head. Some statuses have no body. Otherwise a
transfer coding goes before a declared length, and with neither of them the body ends with the
connection. A length that is declared in several ways at once cannot be understood, nor can one
that is out of bounds.
-/

import ByteStream.Http.Chunked
import ByteStream.Text.Split

namespace ByteStream.Http

open Text

/-- How the end of a body is found. -/
inductive BodyLength
  | exactly (n : Nat)
  | chunked
  | untilClose
deriving DecidableEq, Repr

namespace BodyLength

/-- The name of the coding in chunks. -/
def chunkedCoding : String := "chunked"

/-- The greatest length of a body; the two counts above it have another use. -/
def maxLength : Nat := maxCount - 2

/-- The last coding of a list is the one in chunks. -/
def endsChunked (value : String) : Bool :=
  isVisible value &&
    ((parts ',' value.toList).getLast?.any fun coding =>
      sameName (String.ofList (trim coding)) chunkedCoding)

/-- A length in decimal digits. -/
def length? (cs : List Char) : Option Nat :=
  if cs.isEmpty then none else (number? 10 cs).filter (· ≤ maxCount)

/-- The lengths that a value lists. -/
def lengths? (value : String) : Option (List Nat) :=
  if isVisible value then (parts ',' value.toList).mapM fun part => length? (trim part) else none

/-- The length that all values agree on. -/
def declared? (values : List String) : Option Nat :=
  match (values.mapM lengths?).map List.flatten with
  | some (n :: others) => if others.all (· == n) then some n else none
  | _ => none

/-- How the end of the body is found behind a head; `none` if the head makes no sense. -/
def of? (status : Nat) (m : HeaderMap) : Option BodyLength :=
  if isBodiless status then some (.exactly 0)
  else if m.has codingName then
    some (if (m.values codingName).getLast?.any endsChunked then .chunked else .untilClose)
  else if m.has lengthName then
    ((declared? (m.values lengthName)).filter (· ≤ maxLength)).map .exactly
  else some .untilClose

/-- The size of the body, if it is known ahead. -/
def size? : BodyLength → Option Nat
  | .exactly n => some n
  | .chunked | .untilClose => none

/-- The body that arrives of the bytes behind the head. `stalls` says that the connection stays
open after them. -/
def body (length : BodyLength) (stalls : Bool) (bytes : Bytes) : Body :=
  let unfinished : Ending := if stalls then .silent else .broken
  match length with
  | .exactly n =>
    ⟨asChunk (bytes.take n), if bytes.length < n then unfinished else .complete⟩
  | .chunked => Chunked.read unfinished bytes
  | .untilClose => ⟨asChunk bytes, if stalls then .silent else .complete⟩

end BodyLength

end ByteStream.Http
