/-
# ByteStream.Proofs.Stream.Reporting -- which answers tell of an interruption

What a call on a stream comes to is decided by calls on its backend, most often by one. `failureOf`
says by which error, if by any: for writing it is that of the write, else that of the flush, else
the one that sticks; for connecting again it is that of the new connection and not that of giving
up the old one. The answer tells of an interruption exactly if that error is one
(`isInterruption_perform`, `interrupts_openAt`). There are four ways for an error to the caller: it
is turned into that of an open stream or of an attempt to connect, a reader is told of interruptions
and the end and of nothing else, and the generic interface sorts what it is told into kinds.
-/

import ByteStream.Proofs.Address
import ByteStream.Proofs.Stream.Reopening
import ByteStream.Proofs.Stream.Writing

namespace ByteStream

/-! ## Views of an error -/

/-- The error, if that is what came of it. -/
def failure? {ε α : Type} : Except ε α → Option ε
  | .ok _ => none
  | .error e => some e

namespace StreamError

/-- A cause that was met on an open stream shows as an interruption exactly if it is one. -/
theorem isInterrupted_ofBackend (op : Op) (cause : BackendError) :
    (ofBackend op cause).isInterrupted = true ↔ cause = .interrupted := by
  cases cause <;> simp [ofBackend, isInterrupted]

/-- So does a cause that was met while connecting. -/
theorem isInterrupted_ofConnect (url : String) (cause : BackendError) :
    (ofConnect url cause).isInterrupted = true ↔ cause = .interrupted := by
  cases cause <;> simp [ofConnect, isInterrupted]

/-- Generic errors keep the difference. -/
theorem kind_toIo (e : StreamError) : e.toIo.kind = .interrupted ↔ e.isInterrupted = true := by
  cases e <;> simp [toIo, ioKind, isInterrupted]

end StreamError

namespace Stream

variable {σ κ α β : Type} {B : Backend σ κ} {s : Stream σ κ} {w : World σ}

/-! ## Answers -/

/-- The answer tells of an interruption. -/
def Answer.isInterruption : Answer → Bool
  | .bytesUntil _ (some e) => e.isInterrupted
  | .control (.failed e) => e.isInterrupted
  | .failed e => e.isInterrupted
  | .ioFailed e => e.kind == .interrupted
  | _ => false

/-- The command is one call on the stream. Reading on and on is many. -/
def Command.isCall : Command → Bool
  | .readAll _ | .ioReadToEnd => false
  | _ => true

/-- The result of an operation tells of an interruption. -/
def interrupts (r : Except StreamError α) : Bool := (failure? r).any StreamError.isInterrupted

theorem isInterruption_ofResult (view : α → Answer)
    (hview : ∀ a, (view a).isInterruption = false) (r : Except StreamError α) :
    (Answer.ofResult view r).isInterruption = interrupts r := by
  cases r with
  | error e => rfl
  | ok a => exact hview a

theorem isInterruption_ofIo (view : α → Answer)
    (hview : ∀ a, (view a).isInterruption = false) (r : Except StreamError α) :
    (Answer.ofIo view (r.mapError StreamError.toIo)).isInterruption = interrupts r := by
  cases r with
  | error e =>
      show (e.toIo.kind == .interrupted) = e.isInterrupted
      rw [Bool.eq_iff_iff, beq_iff_eq]
      exact e.kind_toIo
  | ok a => exact hview a

/-! ## What decides -/

/-- The error that decides a call on the connection. Without a connection there is no call. -/
def callFailure (s : Stream σ κ) (f : κ → World σ → Reply σ κ α) (w : World σ) :
    Option BackendError :=
  s.conn.bind fun c => failure? (f c w).answer

/-- The error that decides a write: that of the write, else that of the flush, else the one that
sticks. -/
def writeFailure (B : Backend σ κ) (s : Stream σ κ) (data : Bytes) (w : World σ) :
    Option BackendError :=
  s.conn.bind fun c =>
    let wrote := B.write c data w
    let flushed := B.flush wrote.conn wrote.world
    (failure? wrote.answer).or ((failure? flushed.answer).or (B.error flushed.conn flushed.world))

/-- The error that decides a seek. A stream that cannot seek does not call its backend. -/
def seekFailure (B : Backend σ κ) (s : Stream σ κ) (pos : Nat) (w : World σ) :
    Option BackendError :=
  if s.seekable then s.callFailure (fun c w => B.seek c pos w) w else none

/-- The error that decides an attempt to connect. -/
def connectFailure (B : Backend σ κ) (s : Stream σ κ) (w : World σ) : Option BackendError :=
  failure? (B.connect (s.request w).1 (s.request w).2).answer

/-- The error that decides an attempt to connect again. How the old connection was given up does
not matter. -/
def reconnectFailure (B : Backend σ κ) (s : Stream σ κ) (w : World σ) : Option BackendError :=
  match s.mode with
  | .write => none
  | .read => connectFailure B (s.emptied B w) (s.close B w)

/-- The error of the backend that decides what comes of a command, if one does. -/
def failureOf (B : Backend σ κ) (s : Stream σ κ) (w : World σ) : Command → Option BackendError
  | .read n => s.callFailure (fun c w => B.read c n w) w
  | .ioRead n => if n = 0 then none else s.callFailure (fun c w => B.read c n w) w
  | .write data | .ioWrite data => s.writeFailure B data w
  | .seek pos | .ioSeek (.start pos) => s.seekFailure B pos w
  | .control .size => s.callFailure B.size w
  | .control (.seekTime seek) => s.callFailure (fun c w => B.seekTime c seek w) w
  | .control .reconnect => s.reconnectFailure B w
  | _ => none

/-- The error of the backend that decides what comes of opening an address. Only an address of a
byte stream gets to the backend. -/
def openFailure (B : Backend σ κ) (config : Config) (cookies : CookieProvider σ) (address : String)
    (mode : Mode) (w : World σ) : Option BackendError :=
  match Address.normalize address with
  | .ok (.openAt url) => connectFailure B (Origin.stream ⟨config, cookies, url, mode⟩) w
  | _ => none

/-- A write succeeds, or fails by the error that decides it. -/
theorem callFailure_writeThrough (s : Stream σ κ) (data : Bytes) (w : World σ) :
    s.callFailure (fun c w => B.writeThrough c data w) w = s.writeFailure B data w := by
  cases hconn : s.conn with
  | none => rw [callFailure, writeFailure, hconn, Option.bind_none, Option.bind_none]
  | some c =>
    rw [callFailure, writeFailure, hconn, Option.bind_some, Option.bind_some]
    change _ = (failure? _).or ((failure? (B.flushAfter c data w).answer).or
      (B.error (B.flushAfter c data w).conn (B.flushAfter c data w).world))
    rcases B.writeThrough_cases c data w with ⟨e, htaken, heq⟩ | ⟨n, e, htaken, hflushed, heq⟩ |
      ⟨n, stuck, ⟨htaken, hflushed, herror⟩, heq⟩
    · rw [heq, htaken]
      rfl
    · rw [heq, htaken, hflushed]
      rfl
    · rw [heq, htaken, hflushed, herror]
      cases stuck <;> rfl

/-! ## The ways of an error -/

/-- What does not get to the backend tells of no interruption, and no error decides it. -/
theorem untold : false = true ↔ (none : Option BackendError) = some .interrupted := by simp

/-- What holds of the result without a connection, and of every view of an answer, holds of the
result of a call, with the error that decides it. -/
theorem result_call {P : Option BackendError → α → Prop} {absent : α}
    {view : Except BackendError β → α} (habsent : P none absent)
    (hview : ∀ answer, P (failure? answer) (view answer)) (s : Stream σ κ) (w : World σ)
    (f : κ → World σ → Reply σ κ β) : P (s.callFailure f w) (s.call w absent f view).result := by
  cases hconn : s.conn with
  | none =>
    rw [call_of_none hconn, callFailure, hconn]
    exact habsent
  | some c =>
    rw [call_of_conn hconn, callFailure, hconn]
    exact hview (f c w).answer

/-- A call without a connection is not broken off, so what counts is how the answer of the backend
is read. -/
theorem told_call {told : α → Bool} {absent : α} {view : Except BackendError β → α}
    (habsent : told absent = false)
    (hview : ∀ answer, told (view answer) = true ↔ failure? answer = some .interrupted)
    (s : Stream σ κ) (w : World σ) (f : κ → World σ → Reply σ κ β) :
    told (s.call w absent f view).result = true ↔ s.callFailure f w = some .interrupted :=
  result_call (P := fun cause a => told a = true ↔ cause = some .interrupted)
    (by rw [habsent]; exact untold) hview s w f

/-- An error that is told in another form shows as an interruption if the form keeps that. -/
theorem interrupts_mapError {wrap : BackendError → StreamError}
    (hwrap : ∀ cause, (wrap cause).isInterrupted = true ↔ cause = .interrupted)
    (answer : Except BackendError α) :
    interrupts (answer.mapError wrap) = true ↔ failure? answer = some .interrupted := by
  cases answer with
  | ok a => exact untold
  | error cause =>
    show (wrap cause).isInterrupted = true ↔ some cause = some BackendError.interrupted
    rw [hwrap, Option.some.injEq]

/-- Reading tells of nothing but interruptions and the end. -/
theorem interrupts_readView (answer : Except BackendError Bytes) :
    interrupts (readView answer) = true ↔ failure? answer = some .interrupted := by
  rcases answer with cause | _ | ⟨b, bytes⟩
  · cases cause <;> simp [readView, interrupts, failure?, StreamError.isInterrupted]
  · simp [readView, interrupts, failure?, StreamError.isInterrupted]
  · simp [readView, interrupts, failure?]

theorem interrupts_read (s : Stream σ κ) (n : Nat) (w : World σ) :
    interrupts (s.read B n w).result = true ↔
      s.callFailure (fun c w => B.read c n w) w = some .interrupted :=
  told_call rfl interrupts_readView s w _

theorem interrupts_write (s : Stream σ κ) (data : Bytes) (w : World σ) :
    interrupts (s.write B data w).result = true ↔ s.writeFailure B data w = some .interrupted := by
  rw [← callFailure_writeThrough]
  exact told_call rfl (interrupts_mapError (StreamError.isInterrupted_ofBackend .write)) s w _

theorem interrupts_seek (s : Stream σ κ) (pos : Nat) (w : World σ) :
    interrupts (s.seek B pos w).result = true ↔ s.seekFailure B pos w = some .interrupted := by
  unfold Stream.seek seekFailure
  split
  · refine told_call rfl ?_ s w _
    intro answer
    rw [← interrupts_mapError (StreamError.isInterrupted_ofBackend .seek) answer]
    cases answer with
    | ok _ => rfl
    | error e => rfl
  · simp [interrupts, failure?, StreamError.isInterrupted]

theorem interrupts_connect (s : Stream σ κ) (w : World σ) :
    interrupts (Stream.connect B s w).result = true ↔
      connectFailure B s w = some .interrupted := by
  unfold connectFailure
  cases hanswer : (B.connect (s.request w).1 (s.request w).2).answer with
  | error e =>
    rw [connect_of_refusal hanswer]
    show (StreamError.ofConnect s.url e).isInterrupted = true ↔ some e = some .interrupted
    rw [StreamError.isInterrupted_ofConnect, Option.some.injEq]
  | ok c =>
    rw [connect_of_answer hanswer]
    simp [interrupts, failure?]

/-! ## Control -/

/-- The control result tells of an interruption. -/
def interruptsControl (r : ControlResult) : Bool := (Answer.control r).isInterruption

theorem interruptsControl_sizeView (answer : Except BackendError (Option Nat)) :
    interruptsControl (sizeView answer) = true ↔ failure? answer = some .interrupted := by
  rcases answer with cause | _ | n
  · cases cause <;>
      simp [sizeView, interruptsControl, Answer.isInterruption, failure?, StreamError.ofBackend,
        StreamError.isInterrupted]
  · simp [sizeView, interruptsControl, Answer.isInterruption, failure?]
  · simp [sizeView, interruptsControl, Answer.isInterruption, failure?]

theorem interruptsControl_seekTimeView (answer : Except BackendError Unit) :
    interruptsControl (seekTimeView answer) = true ↔ failure? answer = some .interrupted := by
  rcases answer with cause | _
  · cases cause <;>
      simp [seekTimeView, interruptsControl, Answer.isInterruption, failure?,
        StreamError.ofBackend, StreamError.isInterrupted]
  · simp [seekTimeView, interruptsControl, Answer.isInterruption, failure?]

theorem interruptsControl_pollTags (s : Stream σ κ) (w : World σ) :
    interruptsControl (s.pollTags B w).result = false := by
  obtain ⟨news, hnews⟩ := exists_result_pollTags B s w
  rw [hnews]
  cases news <;> rfl

theorem interruptsControl_reconnect (s : Stream σ κ) (w : World σ) :
    interruptsControl (s.reconnect B w).result = true ↔
      s.reconnectFailure B w = some .interrupted := by
  unfold reconnectFailure
  cases hmode : s.mode with
  | write =>
    rw [reconnect_of_write hmode]
    simp [interruptsControl, Answer.isInterruption]
  | read =>
    rw [reconnect_eq hmode, ← interrupts_connect]
    dsimp only [Outcome.map]
    cases (Stream.connect B (s.emptied B w) (s.close B w)).result with
    | ok _ => rfl
    | error e => rfl

theorem interruptsControl_control (s : Stream σ κ) (request : ControlRequest) (w : World σ) :
    interruptsControl (s.control B request w).result = true ↔
      s.failureOf B w (.control request) = some .interrupted := by
  cases request with
  | size => exact told_call rfl interruptsControl_sizeView s w _
  | seekTime seek => exact told_call rfl interruptsControl_seekTimeView s w _
  | tags =>
    show interruptsControl (s.pollTags B w).result = true ↔ none = some _
    rw [interruptsControl_pollTags]
    exact untold
  | reconnect => exact interruptsControl_reconnect s w

/-! ## Every call -/

/-- An interruption shows in what a generic reader is told. The end does not, and is none. -/
theorem isInterruption_ioReadView (r : Except StreamError Bytes) :
    (Answer.ofIo .bytes (ioReadView r)).isInterruption = interrupts r := by
  cases r with
  | ok bytes => rfl
  | error e =>
    cases e with
    | eof => rfl
    | _ => exact isInterruption_ofIo Answer.bytes (fun _ => rfl) (.error _)

theorem isInterruption_ioSeek (s : Stream σ κ) (pos : Nat) (w : World σ) :
    (s.perform B w (.ioSeek (.start pos))).result.isInterruption =
      interrupts (s.seek B pos w).result := by
  show (Answer.ofIo .number (s.ioSeek B (.start pos) w).result).isInterruption = _
  unfold ioSeek
  dsimp only
  generalize s.seek B pos w = sought
  obtain ⟨result, stream, world⟩ := sought
  cases result with
  | ok _ => rfl
  | error e => exact isInterruption_ofIo Answer.number (fun _ => rfl) (.error e)

/-- **Interruptions are told, and not invented.** Whatever the backend does, and whatever state the
stream is in, a call tells of an interruption exactly if the error that decides it is one. -/
theorem isInterruption_perform (B : Backend σ κ) (s : Stream σ κ) (w : World σ) {command : Command}
    (hcall : command.isCall = true) :
    (s.perform B w command).result.isInterruption = true ↔
      s.failureOf B w command = some .interrupted := by
  cases command with
  | read n =>
    show (Answer.ofResult .bytes (s.read B n w).result).isInterruption = true ↔ _
    rw [isInterruption_ofResult _ fun _ => rfl]
    exact interrupts_read s n w
  | readAll n => exact absurd hcall Bool.false_ne_true
  | write data =>
    show (Answer.ofResult .number (s.write B data w).result).isInterruption = true ↔ _
    rw [isInterruption_ofResult _ fun _ => rfl]
    exact interrupts_write s data w
  | seek pos =>
    show (Answer.ofResult _ (s.seek B pos w).result).isInterruption = true ↔ _
    rw [isInterruption_ofResult _ fun _ => rfl]
    exact interrupts_seek s pos w
  | control request => exact interruptsControl_control s request w
  | ioRead n =>
    show (Answer.ofIo .bytes (s.ioRead B n w).result).isInterruption = true ↔
      (if n = 0 then none else _) = _
    unfold ioRead
    split
    · exact untold
    · rw [isInterruption_ioReadView]
      exact interrupts_read s n w
  | ioReadToEnd => exact absurd hcall Bool.false_ne_true
  | ioWrite data =>
    show (Answer.ofIo .number ((s.write B data w).result.mapError _)).isInterruption = true ↔ _
    rw [isInterruption_ofIo _ fun _ => rfl]
    exact interrupts_write s data w
  | ioSeek target =>
    cases target with
    | start pos =>
      rw [isInterruption_ioSeek]
      exact interrupts_seek s pos w
    | current offset => exact untold
    | ending offset => exact untold
  | ioFlush => exact untold
  | ioPosition => exact untold
  | describe => exact untold
  | inspect => exact untold

/-- So does an attempt to open an address. An address that cannot be one is refused, and that is
no interruption. -/
theorem interrupts_openAt (B : Backend σ κ) (config : Config) (cookies : CookieProvider σ)
    (address : String) (mode : Mode) (w : World σ) :
    interrupts (Stream.openAt B config cookies address mode w).1 = true ↔
      openFailure B config cookies address mode w = some .interrupted := by
  unfold Stream.openAt openFailure
  cases hnormal : Address.normalize address with
  | error e =>
    rw [(Address.normalize_eq_error_iff.1 hnormal).2]
    simp [interrupts, failure?, StreamError.isInterrupted]
  | ok target =>
    cases target with
    | delegate hint => simp [interrupts, failure?]
    | openAt url =>
      rw [← interrupts_connect]
      show interrupts (Prod.fst _) = true ↔
        interrupts (Stream.connect B (Origin.stream ⟨config, cookies, url, mode⟩) w).result = true
      unfold Origin.stream
      dsimp only
      cases (Stream.connect B ({ config, cookies, url, mode } : Stream σ κ) w).result with
      | ok _ => rfl
      | error e => rfl

end Stream

end ByteStream
