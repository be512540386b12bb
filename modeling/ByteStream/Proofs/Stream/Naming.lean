/-
# ByteStream.Proofs.Stream.Naming -- which operation an error names

An error names an operation. It is put there in one of three ways: by a call that has no connection
to be made on, by the operation's own view of what its backend reported, or, for the end of a
stream, by none at all, since the end carries no operation and is taken for that of reading.

So reading and opening are always named rightly, and so are writing, seeking and control, but for
one cause. If what decides one of these three is that the backend reports the end, the caller is
told of the end of the stream and so of reading (`names_operation`); the bytes of a write whose
flush leaves such an error behind have been taken by then (`write_names_read`).
-/

import ByteStream.Proofs.Stream.Reporting
import ByteStream.Proofs.Stream.WriteAll

namespace ByteStream

namespace StreamError

theorem op_ofConnect (url : String) (cause : BackendError) :
    (ofConnect url cause).op = .openStream := by
  cases cause <;> rfl

/-- On an open stream only the end is not told of the operation that met it. -/
theorem op_ofBackend {cause : BackendError} (h : cause ≠ .eof) (op : Op) :
    (ofBackend op cause).op = op := by
  cases cause with
  | eof => exact absurd rfl h
  | _ => rfl

end StreamError

namespace Stream

variable {σ κ α β : Type} {B : Backend σ κ}

/-! ## Commands and their errors -/

/-- The operation that a command is. Connecting again is opening. The generic interface has errors
of its own, and polling for metadata has none. -/
def Command.op? : Command → Option Op
  | .read _ | .readAll _ => some .read
  | .write _ => some .write
  | .seek _ => some .seek
  | .control .size | .control (.seekTime _) => some .control
  | .control .reconnect => some .openStream
  | _ => none

/-- The error that an answer tells of. -/
def Answer.error? : Answer → Option StreamError
  | .bytesUntil _ e => e
  | .control (.failed e) => some e
  | .failed e => some e
  | _ => none

theorem error?_ofResult (view : α → Answer) (hview : ∀ a, (view a).error? = none)
    (r : Except StreamError α) : (Answer.ofResult view r).error? = failure? r := by
  cases r with
  | error e => rfl
  | ok a => exact hview a

/-- The generic interface tells of no error of the stream. -/
theorem error?_ofIo_ne (view : α → Answer) (hview : ∀ a, (view a).error? = none)
    (r : Except IoError α) (e : StreamError) : (Answer.ofIo view r).error? ≠ some e := by
  cases r with
  | error refusal => exact nofun
  | ok a =>
    show (view a).error? ≠ some e
    rw [hview a]
    exact nofun

/-- What the error of an operation says, with the cause that decides the operation: it names the
operation, or it is the end of the stream that was met neither by reading nor by opening. -/
def Tells (op : Op) (cause : Option BackendError) (e : StreamError) : Prop :=
  if cause = some .eof ∧ op ≠ .read ∧ op ≠ .openStream then e = .eof else e.op = op

theorem tells_of_op {op : Op} {cause : Option BackendError} {e : StreamError} (hop : e.op = op)
    (h : op = .read ∨ op = .openStream ∨ cause ≠ some .eof) : Tells op cause e := by
  unfold Tells
  rw [if_neg]
  · exact hop
  · rintro ⟨hcause, hread, hopen⟩
    exact h.elim hread fun h => h.elim hopen fun h => h hcause

theorem tells_ofBackend {op : Op} (hread : op ≠ .read) (hopen : op ≠ .openStream)
    (cause : BackendError) : Tells op (some cause) (.ofBackend op cause) := by
  by_cases hcause : cause = .eof
  · unfold Tells
    rw [if_pos ⟨congrArg some hcause, hread, hopen⟩, hcause]
    rfl
  · exact tells_of_op (StreamError.op_ofBackend hcause op)
      (.inr (.inr fun h => hcause (Option.some.inj h)))

/-! ## The operations -/

section Operations

variable (s : Stream σ κ) (w : World σ) {e : StreamError}

/-- Whatever the backend reports, a reader is told of reading. -/
theorem op_read {n : Nat} (h : failure? (s.read B n w).result = some e) : e.op = .read := by
  refine result_call (P := fun _ r => failure? r = some e → e.op = .read) ?absent ?view s w
    (fun c w => B.read c n w) h
  case absent =>
    intro he
    obtain rfl := Option.some.inj he
    rfl
  case view =>
    intro answer he
    rcases answer with cause | _ | ⟨b, bytes⟩
    · cases cause <;>
      · obtain rfl := Option.some.inj he
        rfl
    · obtain rfl := Option.some.inj he
      rfl
    · cases he

/-- So is one that reads on and on. -/
theorem op_readTimes {n limit : Nat} (h : (Stream.readTimes B n limit s w).result.2 = some e) :
    e.op = .read := by
  induction limit generalizing s w with
  | zero => cases h
  | succ limit ih =>
    simp only [Stream.readTimes] at h
    cases hread : (s.read B n w).result with
    | error cause =>
      rw [hread] at h
      obtain rfl := Option.some.inj h
      exact op_read s w (congrArg failure? hread)
    | ok bytes =>
      rw [hread] at h
      exact ih _ _ h

/-- A call tells of no error, or of that of the backend in the form for an open stream, or of a
connection that is not there. -/
theorem tells_call (told : α → Option StreamError) {op : Op} (hread : op ≠ .read)
    (hopen : op ≠ .openStream) {absent : α} {view : Except BackendError β → α}
    (habsent : told absent = none ∨ told absent = some (.noConnection op))
    (hview : ∀ answer, told (view answer) = none ∨
      told (view answer) = (failure? answer).map (.ofBackend op))
    (f : κ → World σ → Reply σ κ β) (h : told (s.call w absent f view).result = some e) :
    Tells op (s.callFailure f w) e := by
  refine result_call (P := fun cause a => told a = some e → Tells op cause e) ?absent ?view s w f h
  case absent =>
    intro he
    rcases habsent with hnone | hsome
    · exact nomatch hnone.symm.trans he
    · obtain rfl := Option.some.inj (hsome.symm.trans he)
      exact tells_of_op rfl (.inr (.inr (by simp)))
  case view =>
    intro answer he
    rcases hview answer with hnone | hsome
    · exact nomatch hnone.symm.trans he
    · obtain ⟨cause, hcause, rfl⟩ := Option.map_eq_some_iff.1 (hsome.symm.trans he)
      rw [hcause]
      exact tells_ofBackend hread hopen cause

theorem tells_write {data : Bytes} (h : failure? (s.write B data w).result = some e) :
    Tells .write (s.writeFailure B data w) e := by
  rw [← callFailure_writeThrough]
  refine tells_call s w failure? (by decide) (by decide) (.inr rfl) ?_ _ h
  rintro (cause | count)
  · exact .inr rfl
  · exact .inl rfl

theorem tells_seek {pos : Nat} (h : failure? (s.seek B pos w).result = some e) :
    Tells .seek (s.seekFailure B pos w) e := by
  unfold Stream.seek at h
  unfold seekFailure
  split at h
  · rename_i hseekable
    rw [if_pos hseekable]
    refine tells_call s w failure? (by decide) (by decide) (.inr rfl) ?_ _ h
    rintro (cause | _)
    · exact .inr rfl
    · exact .inl rfl
  · rename_i hseekable
    obtain rfl := Option.some.inj h
    rw [if_neg hseekable]
    exact tells_of_op rfl (.inr (.inr (by simp)))

theorem tells_size (h : (Answer.control (s.control B .size w).result).error? = some e) :
    Tells .control (s.callFailure B.size w) e := by
  refine tells_call s w (fun r => (Answer.control r).error?) (by decide) (by decide) (.inl rfl)
    ?_ B.size h
  rintro (cause | size)
  · cases cause with
    | unsupported => exact .inl rfl
    | _ => exact .inr rfl
  · cases size <;> exact .inl rfl

theorem tells_seekTime {target : TimestampSeek}
    (h : (Answer.control (s.control B (.seekTime target) w).result).error? = some e) :
    Tells .control (s.callFailure (fun c w => B.seekTime c target w) w) e := by
  refine tells_call s w (fun r => (Answer.control r).error?) (by decide) (by decide) (.inl rfl)
    ?_ _ h
  rintro (cause | _)
  · cases cause with
    | unsupported => exact .inl rfl
    | _ => exact .inr rfl
  · exact .inl rfl

theorem op_connect (h : failure? (Stream.connect B s w).result = some e) :
    e.op = .openStream := by
  cases hanswer : (B.connect (s.request w).1 (s.request w).2).answer with
  | ok c =>
    rw [connect_of_answer hanswer] at h
    cases h
  | error cause =>
    rw [connect_of_refusal hanswer] at h
    obtain rfl := Option.some.inj h
    exact StreamError.op_ofConnect s.url cause

theorem op_reconnect (h : (Answer.control (s.reconnect B w).result).error? = some e) :
    e.op = .openStream := by
  cases hmode : s.mode with
  | write =>
    rw [reconnect_of_write hmode] at h
    cases h
  | read =>
    rw [reconnect_eq hmode] at h
    apply op_connect (B := B) (s.emptied B w) (s.close B w)
    dsimp only [Outcome.map] at h
    cases hresult : (Stream.connect B (s.emptied B w) (s.close B w)).result with
    | ok _ =>
      rw [hresult] at h
      cases h
    | error cause =>
      rw [hresult] at h
      exact h

theorem error?_pollTags : (Answer.control (s.pollTags B w).result).error? = none := by
  obtain ⟨news, hnews⟩ := exists_result_pollTags B s w
  rw [hnews]
  cases news <;> rfl

end Operations

/-- Opening an address fails with an error that names opening. -/
theorem op_openAt {config : Config} {cookies : CookieProvider σ} {address : String} {mode : Mode}
    {w : World σ} {e : StreamError}
    (h : (Stream.openAt B config cookies address mode w).1 = .error e) : e.op = .openStream := by
  unfold Stream.openAt at h
  cases hnormal : Address.normalize address with
  | error refusal =>
    rw [hnormal] at h
    obtain rfl := Except.error.inj h
    rw [(Address.normalize_eq_error_iff.1 hnormal).2]
    rfl
  | ok target =>
    rw [hnormal] at h
    cases target with
    | delegate hint => cases h
    | openAt url =>
      dsimp only at h
      cases hresult : (Stream.connect B ({ config, cookies, url, mode } : Stream σ κ) w).result with
      | ok _ =>
        rw [hresult] at h
        cases h
      | error cause =>
        rw [hresult] at h
        obtain rfl := Except.error.inj h
        exact op_connect _ w (congrArg failure? hresult)

/-! ## Every command -/

/-- A command that answers with an error of the stream is one of the five operations. -/
theorem tells_perform {s : Stream σ κ} {w : World σ} {command : Command} {e : StreamError}
    (h : (s.perform B w command).result.error? = some e) :
    ∃ op, command.op? = some op ∧ Tells op (s.failureOf B w command) e := by
  cases command with
  | read n =>
    have hread := (error?_ofResult .bytes (fun _ => rfl) _).symm.trans h
    exact ⟨.read, rfl, tells_of_op (op_read s w hread) (.inl rfl)⟩
  | readAll n => exact ⟨.read, rfl, tells_of_op (op_readTimes s w h) (.inl rfl)⟩
  | write data =>
    have hwrite := (error?_ofResult .number (fun _ => rfl) _).symm.trans h
    exact ⟨.write, rfl, tells_write s w hwrite⟩
  | seek pos =>
    have hseek := (error?_ofResult _ (fun _ => rfl) _).symm.trans h
    exact ⟨.seek, rfl, tells_seek s w hseek⟩
  | control request =>
    cases request with
    | size => exact ⟨.control, rfl, tells_size s w h⟩
    | seekTime target => exact ⟨.control, rfl, tells_seekTime s w h⟩
    | tags => exact nomatch (error?_pollTags s w).symm.trans h
    | reconnect => exact ⟨.openStream, rfl, tells_of_op (op_reconnect s w h) (.inr (.inl rfl))⟩
  | ioRead n => exact absurd h (error?_ofIo_ne .bytes (fun _ => rfl) (s.ioRead B n w).result e)
  | ioReadToEnd =>
    exact absurd h
      (error?_ofIo_ne .bytes (fun _ => rfl) (s.ioReadToEnd B w).result e)
  | ioWrite data =>
    exact absurd h (error?_ofIo_ne .number (fun _ => rfl) (s.ioWrite B data w).result e)
  | ioSeek target =>
    exact absurd h (error?_ofIo_ne .number (fun _ => rfl) (s.ioSeek B target w).result e)
  | ioPosition => exact absurd h (error?_ofIo_ne .number (fun _ => rfl) (s.ioPosition B w).result e)
  | ioFlush => cases h
  | describe => cases h
  | inspect => cases h

/-- **An error names the operation that raised it, unless it is an end that was not met by
reading.** Whatever the backend does and whatever state a stream is in: a command that answers with
an error of the stream is one of the five operations, and the error names it, unless the command is
a write, a seek or a request, and what decides it is that the backend reports the end. Then the
error is the end of the stream, which names reading. An error of opening an address names opening.
-/
theorem names_operation (B : Backend σ κ) :
    (∀ (s : Stream σ κ) (w : World σ) (command : Command) (e : StreamError),
      (s.perform B w command).result.error? = some e → ∃ op, command.op? = some op ∧
        if s.failureOf B w command = some .eof ∧ op ≠ .read ∧ op ≠ .openStream then e = .eof
        else e.op = op) ∧
    ∀ config cookies address mode w e,
      (Stream.openAt B config cookies address mode w).1 = .error e → e.op = .openStream :=
  ⟨fun _ _ _ _ h => tells_perform h, fun _ _ _ _ _ _ h => op_openAt h⟩

/-- A write whose flush leaves an error of another kind behind is told of writing. -/
theorem names_operation_note :
    let full : World Memory.Store := desk (some (.io "full"))
    (jotter.perform Memory.backend full (.write note)).result.error? =
        some (.io .write (.io "full")) ∧
      (StreamError.io .write (.io "full")).op = .write := by
  intro full
  have hfailed : (jotter.perform Memory.backend full (.write note)).result.error? =
      some (.io .write (.io "full")) := rfl
  obtain ⟨op, hop, htells⟩ := (names_operation Memory.backend).1 jotter full _ _ hfailed
  obtain rfl := Option.some.inj hop
  have hcause : jotter.failureOf Memory.backend full (.write note) = some (.io "full") := rfl
  rw [hcause, if_neg (by simp)] at htells
  exact ⟨hfailed, htells⟩

/-- **A write is told of reading.** The backend takes the bytes, and the flush leaves the end of
the stream on the connection. The error says so, and names an operation that a writer cannot ask
for. -/
theorem write_names_read :
    Reached Memory.backend {} .none "mock://x" .write jotter ∧
      let written := jotter.perform Memory.backend (desk (some .eof)) (.write note)
      written.result.error? = some .eof ∧ written.world.state.written = note ∧
        Command.op? (.write note) = some .write ∧ StreamError.eof.op ≠ .write :=
  ⟨.opened (w := desk none) rfl, rfl, rfl, rfl, by decide⟩

end Stream

end ByteStream
