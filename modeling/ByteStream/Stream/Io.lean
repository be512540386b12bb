/-
# ByteStream.Stream.Io -- a stream behind the generic reading and writing interface

The generic interface knows no "end of stream" error: reading gives no bytes at the end. It also
reads nothing into no room, without asking the stream. Flushing has nothing left to do, since
every write flushes. Positions are absolute: seeking from the end or from where one is, asking
where one is included, is refused.

Reading to the end fills a space that doubles when there is too little room left in it, and goes
on after an interruption. How much room a read is offered shows in what the backend is asked for.
-/

import ByteStream.Stream

namespace ByteStream

/-- Where a position is counted from. -/
inductive SeekFrom
  | start (pos : Nat)
  | current (offset : Int)
  | ending (offset : Int)
deriving DecidableEq, Repr

/-- The developer's view of a seek target. -/
def SeekFrom.shown : SeekFrom → String
  | .start pos => "Start(" ++ toString pos ++ ")"
  | .current offset => "Current(" ++ toString offset ++ ")"
  | .ending offset => "End(" ++ toString offset ++ ")"

namespace Stream

variable {σ κ : Type}

/-- What a generic reader is told. -/
def ioReadView : Except StreamError Bytes → Except IoError Bytes
  | .ok bytes => .ok bytes
  | .error .eof => .ok []
  | .error e => .error e.toIo

/-- Reads at most `n` bytes; none at the end. -/
def ioRead (B : Backend σ κ) (s : Stream σ κ) (n : Nat) (w : World σ) :
    Outcome σ κ (Except IoError Bytes) :=
  if n = 0 then ⟨.ok [], s, w⟩
  else
    let r := s.read B n w
    ⟨ioReadView r.result, r.stream, r.world⟩

/-- Writes as `Stream.write` does. -/
def ioWrite (B : Backend σ κ) (s : Stream σ κ) (data : Bytes) (w : World σ) :
    Outcome σ κ (Except IoError Nat) :=
  let r := s.write B data w
  ⟨r.result.mapError StreamError.toIo, r.stream, r.world⟩

/-- Every write has been flushed already. -/
def ioFlush (s : Stream σ κ) (w : World σ) : Outcome σ κ (Except IoError Unit) := ⟨.ok (), s, w⟩

/-- The refusal of a position that is not counted from the start. -/
def refusedSeek (target : SeekFrom) : IoError :=
  ⟨.unsupported, "only absolute seeks are supported, got " ++ target.shown⟩

/-- Goes to a position counted from the start and gives it back. -/
def ioSeek (B : Backend σ κ) (s : Stream σ κ) (target : SeekFrom) (w : World σ) :
    Outcome σ κ (Except IoError Nat) :=
  match target with
  | .start pos =>
    let r := s.seek B pos w
    match r.result with
    | .ok () => ⟨.ok pos, r.stream, r.world⟩
    | .error e => ⟨.error e.toIo, r.stream, r.world⟩
  | other => ⟨.error (refusedSeek other), s, w⟩

/-- Where the stream is: a seek by nothing from there. -/
def ioPosition (B : Backend σ κ) (s : Stream σ κ) (w : World σ) :
    Outcome σ κ (Except IoError Nat) :=
  s.ioSeek B (.current 0) w

/-! ## Reading on and on -/

/-- How many more reads can give bytes. -/
def readsLeft (B : Backend σ κ) (s : Stream σ κ) (w : World σ) : Nat :=
  match s.conn with
  | none => 0
  | some c => B.readsLeft c w

/-- Reads `n` bytes at a time until an error, in at most `limit` reads. Gives what was read and
the error, if there was one within the limit. -/
def readTimes (B : Backend σ κ) (n limit : Nat) (s : Stream σ κ) (w : World σ) :
    Outcome σ κ (Bytes × Option StreamError) :=
  match limit with
  | 0 => ⟨([], none), s, w⟩
  | limit + 1 =>
    let r := s.read B n w
    match r.result with
    | .error e => ⟨([], some e), r.stream, r.world⟩
    | .ok bytes =>
      let later := readTimes B n limit r.stream r.world
      ⟨(bytes ++ later.result.1, later.result.2), later.stream, later.world⟩

/-- Reads `n` bytes at a time until an error, which at the latest is the end. -/
def readAll (B : Backend σ κ) (s : Stream σ κ) (n : Nat) (w : World σ) :
    Outcome σ κ (Bytes × Option StreamError) :=
  readTimes B n (s.readsLeft B w + 1) s w

end Stream

/-! ## The space of a reader to the end -/

/-- The least room that a reader to the end offers for a read. -/
def leastRoom : Nat := 32

/-- The space that a reader to the end fills: how many bytes are in it, how many it has room for
in all, and the most that one read is offered. -/
structure ReadSpace where
  filled : Nat := 0
  size : Nat := 0
  most : Nat := 8192
deriving DecidableEq, Repr

namespace ReadSpace

/-- Before a read the space doubles, if it has less than the least room left. A space of no size
stays so: nothing is taken up before it is known that there is something to read. -/
def grown (s : ReadSpace) : ReadSpace :=
  if 0 < s.size ∧ s.size - s.filled < leastRoom then
    { s with size := max (2 * s.size) (s.filled + leastRoom) }
  else s

/-- The room that a read is offered. -/
def room (s : ReadSpace) : Nat :=
  if s.size = 0 then leastRoom else min (s.size - s.filled) s.most

/-- The space once a read has given `n` bytes. The first bytes make the space; a read that fills
the most that could be offered doubles that. -/
def take (s : ReadSpace) (n : Nat) : ReadSpace :=
  if s.size = 0 then { s with filled := n, size := max 8 n }
  else
    { s with
      filled := s.filled + n
      most := if s.most ≤ s.room ∧ n = s.room then 2 * s.most else s.most }

/-- No read is offered less than the least room. -/
theorem leastRoom_le_room_grown {s : ReadSpace} (h : leastRoom ≤ s.most) :
    leastRoom ≤ s.grown.room := by
  unfold grown room
  split <;> grind [leastRoom]

end ReadSpace

namespace Stream

variable {σ κ : Type}

/-- Reads into a space until nothing comes, in at most `limit` reads. An interruption is no reason
to stop; any other error is, and takes the bytes with it. The result is `none` when the reads were
not enough to come to an end. -/
def ioReadTimes (B : Backend σ κ) (limit : Nat) (space : ReadSpace) (s : Stream σ κ)
    (w : World σ) : Outcome σ κ (Option (Except IoError Bytes)) :=
  match limit with
  | 0 => ⟨none, s, w⟩
  | limit + 1 =>
    let r := s.ioRead B space.grown.room w
    match r.result with
    | .error e =>
      if e.kind = .interrupted then ioReadTimes B limit space.grown r.stream r.world
      else ⟨some (.error e), r.stream, r.world⟩
    | .ok [] => ⟨some (.ok []), r.stream, r.world⟩
    | .ok (b :: bytes) =>
      let space := space.grown.take (bytes.length + 1)
      let later := ioReadTimes B limit space r.stream r.world
      ⟨later.result.map (Except.map (b :: bytes ++ ·)), later.stream, later.world⟩

/-- Reads until nothing comes. There are as many reads as can give bytes, one that gives none, and
one for every coming wait that may be broken off; what is interrupted after that stays so. -/
def ioReadToEnd (B : Backend σ κ) (s : Stream σ κ) (w : World σ) :
    Outcome σ κ (Except IoError Bytes) :=
  let limit := s.readsLeft B w + w.signals.coming.length + 1
  let r := ioReadTimes B limit {} s w
  ⟨r.result.getD (.error (StreamError.interrupted .read).toIo), r.stream, r.world⟩

end Stream

end ByteStream
