/-
# ByteStream.Proofs.Stream.Sticking -- errors that stick

The errors of a connection persist if one that is there is there at every later moment: after any
calls on the connection, and after any changes of the world around it that are to be reckoned with.
Once a write on such a connection has failed because of an error that was there, every later one
fails as well, whatever else is done with the stream in between, as long as it keeps the connection
(`writeFails_after_stuck`). A writer always keeps it. The errors of connections to the store in
memory persist whatever happens around them.
-/

import ByteStream.Memory
import ByteStream.Proofs.Stream.Reopening
import ByteStream.Proofs.Stream.Writing

namespace ByteStream

variable {σ κ : Type}

/-! ## Moments of a connection -/

namespace Backend

/-- Calls on the connection, and changes of the world around it, lead from one moment to the
other. -/
inductive GoesOn (B : Backend σ κ) (around : World σ → World σ → Prop) (c : κ) (w : World σ) :
    κ → World σ → Prop
  | here : B.GoesOn around c w c w
  | read {d v} : B.GoesOn around c w d v → ∀ n,
      B.GoesOn around c w (B.read d n v).conn (B.read d n v).world
  | write {d v} : B.GoesOn around c w d v → ∀ data,
      B.GoesOn around c w (B.write d data v).conn (B.write d data v).world
  | flush {d v} : B.GoesOn around c w d v →
      B.GoesOn around c w (B.flush d v).conn (B.flush d v).world
  | seek {d v} : B.GoesOn around c w d v → ∀ pos,
      B.GoesOn around c w (B.seek d pos v).conn (B.seek d pos v).world
  | size {d v} : B.GoesOn around c w d v →
      B.GoesOn around c w (B.size d v).conn (B.size d v).world
  | seekTime {d v} : B.GoesOn around c w d v → ∀ target,
      B.GoesOn around c w (B.seekTime d target v).conn (B.seekTime d target v).world
  | icyFields {d v} : B.GoesOn around c w d v → B.GoesOn around c w (B.icyFields d v).2 v
  | around {d v v'} : B.GoesOn around c w d v → around v v' → B.GoesOn around c w d v'

/-- An error of the connection that is there once is there from then on. -/
def ErrorPersists (B : Backend σ κ) (around : World σ → World σ → Prop) (c : κ) (w : World σ) :
    Prop :=
  ∀ d v, B.GoesOn around c w d v → (B.error d v).isSome = true →
    ∀ e u, B.GoesOn around d v e u → (B.error e u).isSome = true

variable {B : Backend σ κ} {around : World σ → World σ → Prop} {c d : κ} {w v : World σ}

theorem GoesOn.trans {e : κ} {u : World σ} (h : B.GoesOn around c w d v)
    (h' : B.GoesOn around d v e u) : B.GoesOn around c w e u := by
  induction h' with
  | here => exact h
  | read _ n ih => exact ih.read n
  | write _ data ih => exact ih.write data
  | flush _ ih => exact ih.flush
  | seek _ pos ih => exact ih.seek pos
  | size _ ih => exact ih.size
  | seekTime _ target ih => exact ih.seekTime target
  | icyFields _ ih => exact ih.icyFields
  | around _ hchange ih => exact ih.around hchange

theorem ErrorPersists.goesOn (h : B.ErrorPersists around c w) (hlater : B.GoesOn around c w d v) :
    B.ErrorPersists around d v :=
  fun e u hnext => h e u (hlater.trans hnext)

theorem GoesOn.flushAfter (h : B.GoesOn around c w d v) (data : Bytes) :
    B.GoesOn around c w (B.flushAfter d data v).conn (B.flushAfter d data v).world :=
  (h.write data).flush

/-- Writing through is a write, and then a flush if that succeeded. -/
theorem GoesOn.writeThrough (h : B.GoesOn around c w d v) (data : Bytes) :
    B.GoesOn around c w (B.writeThrough d data v).conn (B.writeThrough d data v).world := by
  rcases B.writeThrough_cases d data v with ⟨_, -, heq⟩ | ⟨_, _, -, -, heq⟩ | ⟨_, _, -, heq⟩
  · rw [heq]
    exact h.write data
  · rw [heq]
    exact h.flushAfter data
  · rw [heq]
    exact h.flushAfter data

end Backend

/-! ## Streams -/

namespace Stream

variable {B : Backend σ κ} {around : World σ → World σ → Prop} {s t : Stream σ κ} {c d : κ}
  {w v : World σ} {data : Bytes} {n : Nat}

/-- Writing fails with an error of the backend, on both interfaces. -/
def WriteFails (B : Backend σ κ) (s : Stream σ κ) (data : Bytes) (w : World σ) : Prop :=
  ∃ cause, (s.write B data w).result = .error (.ofBackend .write cause) ∧
    (s.ioWrite B data w).result = .error (StreamError.ofBackend .write cause).toIo

/-! ## While a stream keeps its connection -/

/-- Commands that let the stream keep its connection, and changes of the world around it, lead from
one moment to the other. A writer keeps its connection whatever it is asked. -/
inductive GoesOn (B : Backend σ κ) (around : World σ → World σ → Prop) (s : Stream σ κ)
    (w : World σ) : Stream σ κ → World σ → Prop
  | here : GoesOn B around s w s w
  | performed {t : Stream σ κ} {v : World σ} (command : Command) : GoesOn B around s w t v →
      t.mode = .write ∨ command ≠ .control .reconnect →
      GoesOn B around s w (t.perform B v command).stream (t.perform B v command).world
  | around {t : Stream σ κ} {v v' : World σ} :
      GoesOn B around s w t v → around v v' → GoesOn B around s w t v'

/-- The connection of the stream is at a later moment of the given one. -/
def StaysWith (B : Backend σ κ) (around : World σ → World σ → Prop) (c : κ) (w : World σ)
    (t : Stream σ κ) (v : World σ) : Prop :=
  ∃ d, t.conn = some d ∧ B.GoesOn around c w d v

theorem StaysWith.call {α β : Type} (h : StaysWith B around c w t v) (absent : α)
    {f : κ → World σ → Reply σ κ β}
    (hf : ∀ {d}, B.GoesOn around c w d v → B.GoesOn around c w (f d v).conn (f d v).world)
    (view : Except BackendError β → α) :
    StaysWith B around c w (t.call v absent f view).stream (t.call v absent f view).world := by
  obtain ⟨d, hconn, hgoes⟩ := h
  rw [call_of_conn hconn]
  exact ⟨_, rfl, hf hgoes⟩

/-- What keeps the connection comes down to calls on it. -/
theorem StaysWith.perform (h : StaysWith B around c w t v) {command : Command}
    (hcommand : t.mode = .write ∨ command ≠ .control .reconnect) :
    StaysWith B around c w (t.perform B v command).stream (t.perform B v command).world := by
  refine perform_keeps_of (P := StaysWith B around c w) ?_ ?_ ?_ h ?_
  · exact fun ht n => ht.call _ (fun hgoes => hgoes.read n) _
  · exact fun ht data => ht.call _ (fun hgoes => hgoes.writeThrough data) _
  · exact fun ht pos => seek_keeps ht pos fun _ view =>
      ht.call _ (fun hgoes => hgoes.seek pos) view
  · intro request hrequest
    cases request with
    | size => exact h.call _ (fun hgoes => hgoes.size) _
    | seekTime target => exact h.call _ (fun hgoes => hgoes.seekTime target) _
    | tags =>
      obtain ⟨d, hconn, hgoes⟩ := h
      show StaysWith B around c w (t.pollTags B v).stream (t.pollTags B v).world
      rw [pollTags_of_conn hconn]
      exact ⟨_, rfl, hgoes.icyFields⟩
    | reconnect =>
      -- The stream of a reader would be given another connection.
      have hwrite : t.mode = .write := hcommand.resolve_right fun hne => hne hrequest
      show StaysWith B around c w (t.reconnect B v).stream (t.reconnect B v).world
      rw [reconnect_of_write hwrite]
      exact h

theorem GoesOn.staysWith (h : GoesOn B around s w t v) (hconn : s.conn = some c) :
    StaysWith B around c w t v := by
  induction h with
  | here => exact ⟨c, hconn, .here⟩
  | performed command _ hcommand ih => exact ih.perform hcommand
  | around _ hchange ih =>
    obtain ⟨d, hd, hgoes⟩ := ih
    exact ⟨d, hd, hgoes.around hchange⟩

/-- A write fails if an error is there after its flush. -/
theorem writeFails_of_error (hconn : t.conn = some d)
    (hthere : (B.error (B.flushAfter d data v).conn (B.flushAfter d data v).world).isSome = true) :
    t.WriteFails B data v := by
  unfold WriteFails ioWrite
  rw [write_of_conn hconn]
  cases hanswer : (B.writeThrough d data v).answer with
  | error cause => exact ⟨cause, rfl, rfl⟩
  | ok n =>
    rw [(Backend.writeThrough_eq_ok_iff.1 hanswer).error] at hthere
    cases hthere

/-- **An error that sticks fails every later write.** -/
theorem writeFails_of_stuck (hconn : s.conn = some c) (hpersists : B.ErrorPersists around c w)
    (hthere : (B.error c w).isSome = true) (hlater : GoesOn B around s w t v) (data : Bytes) :
    t.WriteFails B data v := by
  obtain ⟨d, hd, hgoes⟩ := hlater.staysWith hconn
  exact writeFails_of_error hd (hpersists c w .here hthere _ _ (hgoes.flushAfter data))

/-- A write that an error stuck to is told of it, and once there, all later writes meet it. -/
theorem writeFails_after_stuck {e : BackendError} (hconn : s.conn = some c)
    (hpersists : B.ErrorPersists around c w) (hcourse : B.Flushes c data w n (some e)) :
    (s.write B data w).result = .error (.ofBackend .write e) ∧
      ∀ t v, GoesOn B around (s.write B data w).stream (s.write B data w).world t v →
        ∀ later, t.WriteFails B later v := by
  have hflushed : B.GoesOn around c w _ _ := Backend.GoesOn.here.flushAfter data
  have hthere : (B.error (B.flushAfter c data w).conn
      (B.flushAfter c data w).world).isSome = true := by
    rw [hcourse.error]
    rfl
  rw [write_of_conn hconn, hcourse.writeThrough]
  exact ⟨rfl, fun t v hlater => writeFails_of_stuck rfl (hpersists.goesOn hflushed) hthere hlater⟩

end Stream

/-! ## The store in memory -/

namespace Memory

variable {around : World Store → World Store → Prop} {c d : Connection} {w v : World Store}

/-- Nothing takes an error off a connection. -/
theorem error_of_goesOn (h : backend.GoesOn around c w d v) (herror : c.error.isSome = true) :
    d.error.isSome = true := by
  induction h with
  | here => exact herror
  | read _ n ih =>
    simp only [backend, read]
    split
    · exact ih
    · split
      · split <;> exact ih
      · exact ih
  | write _ data ih =>
    simp only [backend, write]
    split <;> exact ih
  | @flush d v _ ih =>
    show (v.state.settings.flushError.or d.error).isSome = true
    rw [Option.isSome_or, ih, Bool.or_true]
  | seek _ pos ih =>
    simp only [backend, seek]
    split
    · exact ih
    · split <;> exact ih
  | size _ ih => exact ih
  | seekTime _ target ih => exact ih
  | icyFields _ ih => exact ih
  | around _ _ ih => exact ih

/-- The errors of a connection to the store persist, whatever is done around it. -/
theorem errorPersists (around : World Store → World Store → Prop) (c : Connection)
    (w : World Store) :
    backend.ErrorPersists around c w :=
  fun _ _ _ herror _ _ hlater => error_of_goesOn hlater herror

end Memory

end ByteStream
