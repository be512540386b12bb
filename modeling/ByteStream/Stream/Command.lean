/-
# ByteStream.Stream.Command -- the operations of a stream as data

What a caller can do with an open stream, short of giving it up, is one of finitely many commands.
`perform` carries a command out. A history of a stream is then a list of commands, and a property
of all histories is proved by going through the commands once.
-/

import ByteStream.Stream.Io
import ByteStream.Stream.View

namespace ByteStream.Stream

/-- What can be asked of an open stream. -/
inductive Command
  | read (n : Nat)
  | readAll (n : Nat)
  | write (data : Bytes)
  | seek (pos : Nat)
  | control (request : ControlRequest)
  | ioRead (n : Nat)
  | ioReadToEnd
  | ioWrite (data : Bytes)
  | ioFlush
  | ioSeek (target : SeekFrom)
  | ioPosition
  /-- The developer's view. -/
  | describe
  /-- Nothing; what a stream says of itself can be read at any time. -/
  | inspect
deriving DecidableEq, Repr

/-- What an open stream answers. -/
inductive Answer
  | done
  | bytes (b : Bytes)
  | bytesUntil (b : Bytes) (e : Option StreamError)
  | number (n : Nat)
  | text (s : String)
  | control (r : ControlResult)
  | failed (e : StreamError)
  | ioFailed (e : IoError)

namespace Answer

/-- The answer for the result of a stream operation. -/
def ofResult {α : Type} (view : α → Answer) : Except StreamError α → Answer
  | .ok a => view a
  | .error e => .failed e

/-- The answer for the result of a generic operation. -/
def ofIo {α : Type} (view : α → Answer) : Except IoError α → Answer
  | .ok a => view a
  | .error e => .ioFailed e

end Answer

variable {σ κ : Type}

/-- Carries a command out. -/
def perform (B : Backend σ κ) (s : Stream σ κ) (w : World σ) : Command → Outcome σ κ Answer
  | .read n => (s.read B n w).map (.ofResult .bytes)
  | .readAll n => (s.readAll B n w).map (fun r => .bytesUntil r.1 r.2)
  | .write data => (s.write B data w).map (.ofResult .number)
  | .seek pos => (s.seek B pos w).map (.ofResult fun () => .done)
  | .control request => (s.control B request w).map .control
  | .ioRead n => (s.ioRead B n w).map (.ofIo .bytes)
  | .ioReadToEnd => (s.ioReadToEnd B w).map (.ofIo .bytes)
  | .ioWrite data => (s.ioWrite B data w).map (.ofIo .number)
  | .ioFlush => (s.ioFlush w).map (.ofIo fun () => .done)
  | .ioSeek target => (s.ioSeek B target w).map (.ofIo .number)
  | .ioPosition => (s.ioPosition B w).map (.ofIo .number)
  | .describe => ⟨.text s.shown, s, w⟩
  | .inspect => ⟨.done, s, w⟩

/-- Carries commands out one after the other and collects the answers. -/
def performAll (B : Backend σ κ) (s : Stream σ κ) (w : World σ) :
    List Command → Outcome σ κ (List Answer)
  | [] => ⟨[], s, w⟩
  | c :: rest =>
    let now := s.perform B w c
    let later := performAll B now.stream now.world rest
    ⟨now.result :: later.result, later.stream, later.world⟩

end ByteStream.Stream
