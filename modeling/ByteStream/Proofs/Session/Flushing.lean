/-
# ByteStream.Proofs.Session.Flushing -- every accepted write is flushed before anything else happens

Streams write through, and nothing else that they do is a write or a flush. So whatever a session
does with its streams, the log of a watched backend is one in which writes are flushed at once, and
it stays so when all streams are given up: closing needs no flush of its own, and the flush of the
generic interface has nothing to do (`accepted_writes_flushed`). What a write tells, and what
becomes of the writes after one that an error has stuck to, is put beside it.
-/

import ByteStream.Proofs.Audit.Flushing
import ByteStream.Proofs.Session.Ownership
import ByteStream.Proofs.Stream.Sticking
import ByteStream.Proofs.Stream.WriteAll

namespace ByteStream

open Audit

variable {σ κ α β : Type} {B beyond : Backend σ κ} {Q : σ → List Event → Prop}

/-! ## Streams -/

namespace Stream

variable {s : Stream (Watched σ) (Numbered κ)} {w : World (Watched σ)}

/-- Writes have been flushed at once so far, and the cookie provider does not know of the log. -/
structure WritesThrough (s : Stream (Watched σ) (Numbered κ)) (w : World (Watched σ)) : Prop where
  blind : s.cookies = s.cookies.unwatched.watched
  flushed : Flushed w.state.log

theorem WritesThrough.call (h : WritesThrough s w) (absent : α)
    {f : Numbered κ → World (Watched σ) → Reply (Watched σ) (Numbered κ) β}
    (hf : ∀ c, Flushed (f c w).world.state.log) (view : Except BackendError β → α) :
    WritesThrough (s.call w absent f view).stream (s.call w absent f view).world := by
  cases hconn : s.conn with
  | none =>
    rw [call_of_none hconn]
    exact h
  | some c =>
    rw [call_of_conn hconn]
    exact ⟨h.blind, hf c⟩

theorem flushed_close (h : Flushed w.state.log) (s : Stream (Watched σ) (Numbered κ)) :
    Flushed (s.close (B.watched beyond) w).state.log := by
  unfold Stream.close release
  cases s.conn with
  | none => exact h
  | some c => exact h.alone rfl

theorem WritesThrough.connect (B beyond : Backend σ κ) (h : WritesThrough s w) :
    WritesThrough (Stream.connect (B.watched beyond) s w).stream
      (Stream.connect (B.watched beyond) s w).world := by
  have hcookies : (Stream.connect (B.watched beyond) s w).stream.cookies = s.cookies :=
    congrArg Origin.cookies (origin_connect s w)
  obtain ⟨made, hlog⟩ := log_connect B beyond h.blind w
  refine ⟨?_, ?_⟩
  · rw [hcookies]
    exact h.blind
  · rw [hlog]
    exact h.flushed.alone rfl

theorem WritesThrough.reconnect (h : WritesThrough s w) :
    WritesThrough (s.reconnect (B.watched beyond) w).stream
      (s.reconnect (B.watched beyond) w).world := by
  cases hmode : s.mode with
  | write =>
    rw [reconnect_of_write hmode]
    exact h
  | read =>
    have hempty : WritesThrough (s.emptied (B.watched beyond) w) (s.close (B.watched beyond) w) :=
      ⟨h.blind, flushed_close h.flushed s⟩
    rw [reconnect_eq hmode]
    exact hempty.connect B beyond

theorem WritesThrough.pollTags (h : WritesThrough s w) :
    WritesThrough (s.pollTags (B.watched beyond) w).stream
      (s.pollTags (B.watched beyond) w).world := by
  cases hconn : s.conn with
  | none =>
    rw [pollTags_of_none hconn]
    exact h
  | some c =>
    rw [pollTags_of_conn hconn]
    exact ⟨h.blind, h.flushed⟩

/-- Whatever is asked of a stream, it writes through, and flushes at no other time. -/
theorem WritesThrough.perform (B beyond : Backend σ κ) (h : WritesThrough s w)
    (command : Command) :
    WritesThrough (s.perform (B.watched beyond) w command).stream
      (s.perform (B.watched beyond) w command).world := by
  refine perform_keeps ?_ ?_ ?_ ?_ h command
  · exact fun ht n => ht.call _ (fun c => ht.flushed.alone rfl) _
  · exact fun ht data => ht.call _ (fun c => ht.flushed.writeThrough c data) _
  · exact fun ht pos => seek_keeps ht pos fun _ view =>
      ht.call _ (fun c => ht.flushed.alone rfl) view
  · intro t v ht request
    cases request with
    | size => exact ht.call _ (fun c => ht.flushed.alone rfl) _
    | seekTime target => exact ht.call _ (fun c => ht.flushed.alone rfl) _
    | tags => exact ht.pollTags
    | reconnect => exact ht.reconnect

/-- Opening makes one attempt to connect, or none. -/
theorem flushed_openAt (B beyond : Backend σ κ) (h : Flushed w.state.log) (config : Config)
    (cookies : CookieProvider σ) (address : String) (mode : Mode) :
    Flushed
      (Stream.openAt (B.watched beyond) config cookies.watched address mode w).2.state.log := by
  unfold Stream.openAt
  cases Address.normalize address with
  | error e => exact h
  | ok target =>
    cases target with
    | delegate hint => exact h
    | openAt url =>
      have hstart : WritesThrough
          ({ config, cookies := cookies.watched, url, mode } : Stream (Watched σ) (Numbered κ)) w :=
        ⟨rfl, h⟩
      have hopened := (hstart.connect B beyond).flushed
      dsimp only
      split <;> exact hopened

end Stream

/-! ## Sessions -/

namespace Session

variable {s : Session (Watched σ) (Numbered κ)}

theorem flushed_release (h : Flushed s.world.state.log) (slot : Nat) :
    Flushed (s.release (B.watched beyond) slot).state.log := by
  unfold release
  cases s.stream? slot with
  | none => exact h
  | some t => exact Stream.flushed_close h t

theorem flushed_run (B beyond : Backend σ κ) (hkept : s.Kept Q) (h : Flushed s.world.state.log)
    (slot : Nat) (c : Command σ) :
    Flushed (s.run (B.watched beyond) slot c.watched).2.world.state.log := by
  cases c with
  | openAt address mode config cookies =>
    have hopened := Stream.flushed_openAt B beyond h config cookies address mode
    show Flushed (s.openInto (B.watched beyond) slot address mode config
      cookies.watched).2.world.state.log
    unfold openInto
    split
    · rename_i heq
      rwa [heq] at hopened
    · rename_i heq
      rwa [heq] at hopened
    · rename_i heq
      rw [heq] at hopened
      exact flushed_release hopened slot
  | perform command =>
    show Flushed (s.performIn (B.watched beyond) slot command).2.world.state.log
    unfold performIn
    cases ht : s.stream? slot with
    | none => exact h
    | some t =>
      obtain ⟨_, hstream⟩ := hkept.stream ht
      exact (Stream.WritesThrough.perform B beyond ⟨hstream.blind, h⟩ command).flushed
  | close =>
    simp only [Command.watched, run]
    cases s.stream? slot with
    | none => exact h
    | some t => exact flushed_release h slot
  | signal now => exact h
  | adjust change => exact h
  | listProtocols => exact h

theorem flushed_stepAll (B beyond : Backend σ κ) (hkept : s.Kept fun _ _ => True)
    (h : Flushed s.world.state.log) (turns : List (Turn σ)) :
    Flushed (s.stepAll (B.watched beyond) (turns.map Turn.watched)).2.world.state.log := by
  induction turns generalizing s with
  | nil => exact h
  | cons turn turns ih =>
    -- Signals that come while a call is blocked change neither the slots nor the log.
    have hawaiting : (s.awaiting turn.whileBlocked).Kept fun _ _ => True :=
      ⟨hkept.ordered, hkept.sound, hkept.tally, hkept.blind⟩
    obtain ⟨-, -, hnext⟩ :=
      hkept.step (tallies_trivial B) beyond turn.command.keeps_trivial
    exact ih hnext (flushed_run B beyond hawaiting h turn.slot turn.command)

theorem flushed_finish (h : Flushed s.world.state.log) :
    Flushed (s.finish (B.watched beyond)).world.state.log := by
  obtain ⟨slots, w⟩ := s
  unfold finish
  dsimp only at h ⊢
  induction slots generalizing w with
  | nil => exact h
  | cons entry slots ih => exact ih _ (Stream.flushed_close h entry.2)

/-- The session, and the same session over the watched backend, after some turns and once all
streams have been given up. The watcher changed nothing, whatever it would have had answered for a
closed connection, and its log says that every write was flushed at once. -/
structure WrittenThrough (B beyond : Backend σ κ) (plain : List Answer × Session σ κ)
    (watched : List Answer × Session (Watched σ) (Numbered κ)) : Prop where
  answers : watched.1 = plain.1
  session : watched.2.unwatched = plain.2
  finished : (watched.2.finish (B.watched beyond)).unwatched = plain.2.finish B
  during : FlushedAtOnce watched.2.world.state.log
  after : FlushedAtOnce (watched.2.finish (B.watched beyond)).world.state.log

theorem writtenThrough_stepAll (B beyond : Backend σ κ) (w : World σ) (turns : List (Turn σ)) :
    WrittenThrough B beyond (stepAll B ⟨[], w⟩ turns)
      (stepAll (B.watched beyond) (fresh w) (turns.map Turn.watched)) := by
  have hwatched := released_stepAll B beyond w turns
  have hflushed := flushed_stepAll B beyond (kept_fresh w trivial) .nil turns
  exact ⟨hwatched.answers, hwatched.session, hwatched.finished, hflushed.flushedAtOnce,
    (flushed_finish hflushed).flushedAtOnce⟩

/-- **Every accepted write is flushed before anything else happens**, whatever is done to any number
of streams over any backend, and a flush is asked for at no other time. A write tells of a count
exactly if the backend took so many bytes, the flush after it succeeded and no error was there
then. On a connection whose errors persist all writes fail once an error is there, and so all
after the first that an error stuck to, for as long as the stream keeps the connection. Connections
to the store in memory are of this kind. -/
theorem accepted_writes_flushed :
    (∀ {σ κ : Type} (B beyond : Backend σ κ) (w : World σ) (turns : List (Turn σ)),
      WrittenThrough B beyond (stepAll B ⟨[], w⟩ turns)
        (stepAll (B.watched beyond) (fresh w) (turns.map Turn.watched))) ∧
    (∀ {σ κ : Type} (B : Backend σ κ) (s : Stream σ κ) (data : Bytes) (w : World σ) (n : Nat),
      ((s.write B data w).result = .ok n ↔
        ∃ c, s.conn = some c ∧ B.Flushes c data w n none) ∧
      ((s.ioWrite B data w).result = .ok n ↔ (s.write B data w).result = .ok n)) ∧
    (∀ {σ κ : Type} (B : Backend σ κ) (around : World σ → World σ → Prop) (s : Stream σ κ)
      (w : World σ) (c : κ), s.conn = some c → B.ErrorPersists around c w →
      ((B.error c w).isSome = true → ∀ t v, Stream.GoesOn B around s w t v →
        ∀ data, t.WriteFails B data v) ∧
      ∀ data n e, B.Flushes c data w n (some e) →
        (s.write B data w).result = .error (.ofBackend .write e) ∧
        ∀ t v, Stream.GoesOn B around (s.write B data w).stream (s.write B data w).world t v →
          ∀ later, t.WriteFails B later v) ∧
    ∀ around c w, Memory.backend.ErrorPersists around c w := by
  refine ⟨?traces, ?counts, ?sticking, Memory.errorPersists⟩
  case traces =>
    intro σ κ B beyond w turns
    exact writtenThrough_stepAll B beyond w turns
  case counts =>
    intro σ κ B s data w n
    exact ⟨Stream.write_eq_ok_iff, Stream.ioWrite_eq_ok_iff⟩
  case sticking =>
    intro σ κ B around s w c hconn hpersists
    refine ⟨?_, fun data n e => Stream.writeFails_after_stuck hconn hpersists⟩
    exact fun hthere t v => Stream.writeFails_of_stuck hconn hpersists hthere

/-- The flush of a write has left an error behind. Then the store is told to flush without one, and
still nothing can be written. -/
theorem accepted_writes_flushed_note :
    let full : World Memory.Store := Stream.desk (some (.io "full"))
    let wrote := Stream.jotter.write Memory.backend Stream.note full
    wrote.result = .error (.io .write (.io "full")) ∧
      ∀ data, wrote.stream.WriteFails Memory.backend data (Stream.desk none) := by
  intro full wrote
  let anything : World Memory.Store → World Memory.Store → Prop := fun _ _ => True
  obtain ⟨-, hafter⟩ := accepted_writes_flushed.2.2.1 Memory.backend anything Stream.jotter full _
    rfl (accepted_writes_flushed.2.2.2 anything _ full)
  obtain ⟨hfailed, hlater⟩ := hafter Stream.note 3 (.io "full") ⟨rfl, rfl, rfl⟩
  exact ⟨hfailed, hlater _ _ (.around .here trivial)⟩

end Session

end ByteStream
