/-
# ByteStream.Proofs.Stream.Idle -- streams without a connection

A stream is without a connection only if it is a reader that failed to connect again. It then says
that it cannot seek and has no type, and still has the URL, the mode and the hint that it was
opened with (`Reached.settled`). Short of connecting again, every command has the answer of
`idleAnswer`, whatever the backend, and changes nothing: no backend is called
(`performAll_of_idle`).

A writer cannot connect again, so it keeps the connection that it was opened with. Over a watched
backend this shows in the log: a writer leaves calls on that one connection and nothing else
(`Holds.perform`), and in the end the close of it.
-/

import ByteStream.Proofs.Audit.Log
import ByteStream.Proofs.Stream.Reopening
import ByteStream.Proofs.Stream.Writing

namespace ByteStream.Stream

open Audit

variable {σ κ α β : Type} {B : Backend σ κ}

/-! ## What a stream says of itself -/

/-- The stream has the hint of its URL. Without a connection it is a reader, and says neither that
it can seek nor that it has a type. -/
structure Settled (s : Stream σ κ) : Prop where
  hint : s.hint = DemuxerHint.forOpened s.url
  mode : s.conn = none → s.mode = .read
  seekable : s.conn = none → s.seekable = false
  mimeType : s.conn = none → s.mimeType = none

/-- With a connection there is only the hint to be seen to. -/
theorem settled_of_conn {s : Stream σ κ} {c : κ} (hconn : s.conn = some c)
    (hhint : s.hint = DemuxerHint.forOpened s.url) : s.Settled := by
  have hsome : s.conn ≠ none := by rw [hconn]; simp
  exact ⟨hhint, (absurd · hsome), (absurd · hsome), (absurd · hsome)⟩

variable {s : Stream σ κ}

theorem Settled.call (h : s.Settled) (w : World σ) (absent : α) (f : κ → World σ → Reply σ κ β)
    (view : Except BackendError β → α) : (s.call w absent f view).stream.Settled := by
  cases hconn : s.conn with
  | none =>
    rw [call_of_none hconn]
    exact h
  | some c =>
    rw [call_of_conn hconn]
    exact settled_of_conn rfl h.hint

theorem Settled.pollTags (h : s.Settled) (w : World σ) : (s.pollTags B w).stream.Settled := by
  cases hconn : s.conn with
  | none =>
    rw [pollTags_of_none hconn]
    exact h
  | some c =>
    rw [pollTags_of_conn hconn]
    exact settled_of_conn rfl h.hint

theorem Settled.seek (h : s.Settled) (pos : Nat) (w : World σ) :
    (s.seek B pos w).stream.Settled :=
  seek_keeps (P := fun t _ => t.Settled) h pos fun _ _ => h.call ..

theorem settled_install (s : Stream σ κ) (c : κ) (w : World σ) : (s.install B c w).Settled :=
  settled_of_conn rfl rfl

theorem Settled.connect (h : s.Settled) (w : World σ) :
    (Stream.connect B s w).stream.Settled := by
  cases hanswer : (B.connect (s.request w).1 (s.request w).2).answer with
  | error e =>
    rw [connect_of_refusal hanswer]
    exact h
  | ok c =>
    rw [connect_of_answer hanswer]
    exact settled_install ..

/-- A reader that gives its connection up forgets what that said of itself. -/
theorem Settled.emptied (h : s.Settled) (hmode : s.mode = .read) (w : World σ) :
    (s.emptied B w).Settled where
  hint := h.hint
  mode _ := hmode
  seekable _ := rfl
  mimeType _ := rfl

theorem Settled.reconnect (h : s.Settled) (w : World σ) : (s.reconnect B w).stream.Settled := by
  cases hmode : s.mode with
  | write =>
    rw [reconnect_of_write hmode]
    exact h
  | read =>
    rw [reconnect_eq hmode]
    exact (h.emptied hmode w).connect _

theorem Settled.control (h : s.Settled) (request : ControlRequest) (w : World σ) :
    (s.control B request w).stream.Settled := by
  cases request with
  | size => exact h.call ..
  | seekTime target => exact h.call ..
  | tags => exact h.pollTags w
  | reconnect => exact h.reconnect w

/-- Every command leaves a stream settled. -/
theorem Settled.perform (h : s.Settled) (w : World σ) (command : Command) :
    (s.perform B w command).stream.Settled := by
  refine perform_keeps (P := fun t _ => t.Settled) ?_ ?_ ?_ ?_ h command
  · exact fun ht _ => ht.call ..
  · exact fun ht _ => ht.call ..
  · exact fun ht pos => ht.seek pos _
  · exact fun ht request => ht.control request _

theorem Reached.settled {config : Config} {cookies : CookieProvider σ} {address : String}
    {mode : Mode} (h : Reached B config cookies address mode s) : s.Settled := by
  induction h with
  | opened hopen =>
    obtain ⟨url, -, hconnect⟩ := connected_of_openAt hopen
    obtain ⟨c, -, -, rfl⟩ := connected_of_connect hconnect
    exact settled_install ..
  | performed w command _ ih => exact ih.perform w command

/-! ## What a stream without a connection answers -/

/-- What a stream that has no connection, and cannot seek, answers to all but connecting again. -/
def idleAnswer (s : Stream σ κ) : Command → Answer
  | .read _ => .failed (.noConnection .read)
  | .readAll _ => .bytesUntil [] (some (.noConnection .read))
  | .write _ => .failed (.noConnection .write)
  | .seek _ => .failed (.unsupported .seek)
  | .control _ => .control .unsupported
  | .ioRead n => if n = 0 then .bytes [] else .ioFailed (StreamError.noConnection .read).toIo
  | .ioReadToEnd => .ioFailed (StreamError.noConnection .read).toIo
  | .ioWrite _ => .ioFailed (StreamError.noConnection .write).toIo
  | .ioFlush => .done
  | .ioSeek (.start _) => .ioFailed (StreamError.unsupported .seek).toIo
  | .ioSeek target => .ioFailed (refusedSeek target)
  | .ioPosition => .ioFailed (refusedSeek (.current 0))
  | .describe => .text s.shown
  | .inspect => .done

section Idle

variable (hconn : s.conn = none) (hseekable : s.seekable = false) (B : Backend σ κ) (w : World σ)

include hseekable in
theorem seek_of_idle (pos : Nat) : s.seek B pos w = ⟨.error (.unsupported .seek), s, w⟩ := by
  unfold Stream.seek
  rw [if_neg (by rw [hseekable]; decide)]

include hconn

theorem read_of_idle (n : Nat) : s.read B n w = ⟨.error (.noConnection .read), s, w⟩ := by
  unfold Stream.read
  rw [call_of_none hconn]

theorem write_of_idle (data : Bytes) :
    s.write B data w = ⟨.error (.noConnection .write), s, w⟩ := by
  unfold Stream.write
  rw [call_of_none hconn]

theorem control_of_idle {request : ControlRequest} (hrequest : request ≠ .reconnect) :
    s.control B request w = ⟨.unsupported, s, w⟩ := by
  cases request with
  | size => exact call_of_none hconn ..
  | seekTime target => exact call_of_none hconn ..
  | tags => exact pollTags_of_none hconn w
  | reconnect => exact absurd rfl hrequest

theorem ioRead_of_idle {n : Nat} (hn : n ≠ 0) :
    s.ioRead B n w = ⟨.error (StreamError.noConnection .read).toIo, s, w⟩ := by
  unfold Stream.ioRead
  rw [if_neg hn, read_of_idle hconn]
  rfl

/-- A reader to the end is turned away by the first read, and does not try again. -/
theorem ioReadToEnd_of_idle :
    s.ioReadToEnd B w = ⟨.error (StreamError.noConnection .read).toIo, s, w⟩ := by
  have hroom : (ReadSpace.grown {}).room ≠ 0 := by decide
  have hkind : (StreamError.noConnection .read).toIo.kind ≠ .interrupted := by decide
  unfold Stream.ioReadToEnd
  dsimp only
  rw [ioReadTimes, ioRead_of_idle hconn B w hroom]
  dsimp only
  rw [if_neg hkind]
  rfl

theorem readAll_of_idle (n : Nat) :
    s.readAll B n w = ⟨([], some (.noConnection .read)), s, w⟩ := by
  unfold Stream.readAll
  rw [readTimes, read_of_idle hconn]

include hseekable

/-- **A command on a stream without a connection changes nothing.** -/
theorem perform_of_idle {command : Command} (hcommand : command ≠ .control .reconnect) :
    s.perform B w command = ⟨s.idleAnswer command, s, w⟩ := by
  cases command with
  | read n => rw [perform, read_of_idle hconn]; rfl
  | readAll n => rw [perform, readAll_of_idle hconn]; rfl
  | write data => rw [perform, write_of_idle hconn]; rfl
  | seek pos => rw [perform, seek_of_idle hseekable]; rfl
  | control request =>
    have hrequest : request ≠ .reconnect := by
      rintro rfl
      exact hcommand rfl
    rw [perform, control_of_idle hconn B w hrequest]
    rfl
  | ioRead n =>
    rw [perform]
    by_cases hn : n = 0
    · subst hn
      rfl
    · rw [ioRead_of_idle hconn B w hn, idleAnswer, if_neg hn]
      rfl
  | ioReadToEnd => rw [perform, ioReadToEnd_of_idle hconn]; rfl
  | ioWrite data => rw [perform, ioWrite, write_of_idle hconn]; rfl
  | ioFlush => rfl
  | ioSeek target =>
    cases target with
    | start pos => rw [perform, ioSeek, seek_of_idle hseekable]; rfl
    | current offset => rfl
    | ending offset => rfl
  | ioPosition => rfl
  | describe => rfl
  | inspect => rfl

/-- Nor do many of them. -/
theorem performAll_of_idle {commands : List Command}
    (hcommands : ∀ command ∈ commands, command ≠ .control .reconnect) :
    s.performAll B w commands = ⟨commands.map s.idleAnswer, s, w⟩ := by
  induction commands with
  | nil => rfl
  | cons command later ih =>
    obtain ⟨hfirst, hlater⟩ := List.forall_mem_cons.1 hcommands
    rw [performAll, perform_of_idle hconn hseekable B w hfirst]
    dsimp only
    rw [ih hlater]
    rfl

end Idle

/-- Connecting again gives a reader a connection if it succeeds, and none if it fails. -/
theorem isConnected_reconnect (hmode : s.mode = .read) (w : World σ) :
    (s.control B .reconnect w).stream.isConnected =
      (s.control B .reconnect w).result.isSuccess := by
  show (s.reconnect B w).stream.isConnected = (s.reconnect B w).result.isSuccess
  rw [reconnect_eq hmode]
  generalize s.close B w = closed
  cases hanswer : (B.connect ((s.emptied B w).request closed).1
      ((s.emptied B w).request closed).2).answer with
  | error e =>
    rw [connect_of_refusal hanswer]
    rfl
  | ok c =>
    rw [connect_of_answer hanswer]
    rfl

/-! ## Writers -/

/-- The stream comes from another one, by any commands in any worlds. -/
inductive Later (B : Backend σ κ) (t : Stream σ κ) : Stream σ κ → Prop
  | same : Later B t t
  | performed {s : Stream σ κ} (w : World σ) (command : Command) :
      Later B t s → Later B t (s.perform B w command).stream

section Writers

variable {beyond : Backend σ κ} {n : Nat} {log : List Event}
  {t : Stream (Watched σ) (Numbered κ)} {w : World (Watched σ)}

/-- The reply is of the same connection, with calls on it added to the log. -/
structure StaysOn (c : Numbered κ) (log : List Event) (r : Reply (Watched σ) (Numbered κ) α) :
    Prop where
  conn : r.conn.id = c.id
  used : Used c.id log r.world.state.log

theorem staysOn_noted (c : Numbered κ) {what : Call} (hwhat : what ≠ .close) (log : List Event)
    (r : Reply σ κ α) : StaysOn c log (noted c what log r) :=
  ⟨rfl, .call hwhat .none⟩

theorem staysOn_writeThrough (c : Numbered κ) (data : Bytes) (w : World (Watched σ)) :
    StaysOn c w.state.log ((B.watched beyond).writeThrough c data w) := by
  have hwrote : StaysOn c w.state.log ((B.watched beyond).write c data w) :=
    staysOn_noted c (by simp) _ _
  have hflushed : StaysOn c w.state.log ((B.watched beyond).flushAfter c data w) :=
    ⟨rfl, .call (by simp) hwrote.used⟩
  rcases (B.watched beyond).writeThrough_cases c data w with ⟨_, -, heq⟩ | ⟨_, _, -, -, heq⟩ |
    ⟨_, _, -, heq⟩
  · rw [heq]
    exact ⟨hwrote.conn, hwrote.used⟩
  · rw [heq]
    exact ⟨hflushed.conn, hflushed.used⟩
  · rw [heq]
    exact ⟨hflushed.conn, hflushed.used⟩

/-- A writer holds the connection with this number, and only calls on it have been added to the
log. -/
structure Holds (n : Nat) (log : List Event) (t : Stream (Watched σ) (Numbered κ))
    (w : World (Watched σ)) : Prop where
  mode : t.mode = .write
  held : t.held = [n]
  used : Used n log w.state.log

theorem Holds.conn (h : Holds n log t w) : ∃ c, t.conn = some c ∧ c.id = n := by
  have hheld := h.held
  unfold Stream.held at hheld
  cases hconn : t.conn with
  | none =>
    rw [hconn] at hheld
    exact absurd hheld (by simp)
  | some c =>
    rw [hconn] at hheld
    exact ⟨c, rfl, by simpa using hheld⟩

theorem Holds.call (h : Holds n log t w) (absent : α)
    {f : Numbered κ → World (Watched σ) → Reply (Watched σ) (Numbered κ) β}
    (hf : ∀ c, StaysOn c w.state.log (f c w)) (view : Except BackendError β → α) :
    Holds n log (t.call w absent f view).stream (t.call w absent f view).world := by
  obtain ⟨c, hconn, rfl⟩ := h.conn
  rw [call_of_conn hconn]
  refine ⟨h.mode, ?_, h.used.append (hf c).used⟩
  exact congrArg (fun id => [id]) (hf c).conn

theorem Holds.pollTags (h : Holds n log t w) :
    Holds n log (t.pollTags (B.watched beyond) w).stream
      (t.pollTags (B.watched beyond) w).world := by
  obtain ⟨c, hconn, rfl⟩ := h.conn
  rw [pollTags_of_conn hconn]
  exact ⟨h.mode, rfl, h.used⟩

/-- **A writer keeps its connection.** -/
theorem Holds.perform (B beyond : Backend σ κ) (h : Holds n log t w) (command : Command) :
    Holds n log (t.perform (B.watched beyond) w command).stream
      (t.perform (B.watched beyond) w command).world := by
  refine perform_keeps (P := Holds n log) ?_ ?_ ?_ ?_ h command
  · exact fun ht n => ht.call _ (fun c => staysOn_noted c (by simp) _ _) _
  · exact fun ht data => ht.call _ (fun c => staysOn_writeThrough c data _) _
  · exact fun ht pos => seek_keeps ht pos fun _ view =>
      ht.call _ (fun c => staysOn_noted c (by simp) _ _) view
  · intro t w ht request
    cases request with
    | size => exact ht.call _ (fun c => staysOn_noted c (by simp) _ _) _
    | seekTime target => exact ht.call _ (fun c => staysOn_noted c (by simp) _ _) _
    | tags => exact ht.pollTags
    | reconnect =>
      show Holds n log (t.reconnect (B.watched beyond) w).stream
        (t.reconnect (B.watched beyond) w).world
      rw [reconnect_of_write ht.mode]
      exact ht

/-- Whatever a writer was asked, it holds the connection that it was opened with. -/
theorem Later.holds {s : Stream (Watched σ) (Numbered κ)} (h : Later (B.watched beyond) t s)
    (hmode : t.mode = .write) (hheld : t.held = [n]) : s.mode = .write ∧ s.held = [n] := by
  induction h with
  | same => exact ⟨hmode, hheld⟩
  | performed w command _ ih =>
    obtain ⟨hmode, hheld⟩ := ih
    have hnext := Holds.perform B beyond (w := w) ⟨hmode, hheld, .none⟩ command
    exact ⟨hnext.mode, hnext.held⟩

/-- In the end a writer closes the connection that it holds. -/
theorem log_close_of_held (hheld : t.held = [n]) (w : World (Watched σ)) :
    ∃ ok, (t.close (B.watched beyond) w).state.log = .call n .close ok :: w.state.log := by
  unfold Stream.held at hheld
  unfold Stream.close release
  cases hconn : t.conn with
  | none =>
    rw [hconn] at hheld
    exact absurd hheld (by simp)
  | some c =>
    rw [hconn] at hheld
    obtain rfl : c.id = n := by simpa using hheld
    exact ⟨_, rfl⟩

end Writers

/-! ## The whole -/

/-- **A stream without a connection is inert until it connects again.** Whatever its history, a
stream has the URL, the mode and the hint of every stream that was opened so, the last that was
opened included. If it has no connection, then it is a reader that says nothing of seeking or of a
type; over any backend, commands short of connecting again have the answers of `idleAnswer` and
leave stream and world as they are; and connecting again gives it a connection if it succeeds and
none if it fails. A writer always holds the connection it was opened with, calls no other, does not
connect again, and closes it in the end. -/
theorem inert_until_reconnected :
    (∀ {σ κ : Type} {B : Backend σ κ} {config : Config} {cookies : CookieProvider σ}
      {address : String} {mode : Mode} {s : Stream σ κ},
      Reached B config cookies address mode s →
      (∀ t : Stream σ κ, Reached B config cookies address mode t →
        s.url = t.url ∧ s.mode = t.mode ∧ s.hint = t.hint) ∧
      (s.conn = none →
        s.mode = .read ∧ s.seekable = false ∧ s.mimeType = none ∧
        (∀ (B' : Backend σ κ) (w : World σ) (commands : List Command),
          (∀ command ∈ commands, command ≠ .control .reconnect) →
          s.performAll B' w commands = ⟨commands.map s.idleAnswer, s, w⟩) ∧
        ∀ w, (s.control B .reconnect w).stream.isConnected =
          (s.control B .reconnect w).result.isSuccess)) ∧
    ∀ {σ κ : Type} (B beyond : Backend σ κ) {config : Config}
      {cookies : CookieProvider (Watched σ)} {address : String} {w w' : World (Watched σ)}
      {t : Stream (Watched σ) (Numbered κ)},
      Stream.openAt (B.watched beyond) config cookies address .write w = (.ok (.stream t), w') →
      ∃ n, ∀ s, Later (B.watched beyond) t s → ∀ v,
        s.mode = .write ∧ s.held = [n] ∧
        s.control (B.watched beyond) .reconnect v = ⟨.unsupported, s, v⟩ ∧
        (∀ command,
          Used n v.state.log (s.perform (B.watched beyond) v command).world.state.log) ∧
        ∃ ok, (s.close (B.watched beyond) v).state.log = .call n .close ok :: v.state.log := by
  refine ⟨?_, ?_⟩
  · intro σ κ B config cookies address mode s hreached
    have hsettled := hreached.settled
    refine ⟨?_, ?_⟩
    · intro t ht
      obtain ⟨url, hurl, horigin⟩ := hreached.origin
      obtain ⟨url', hurl', horigin'⟩ := ht.origin
      obtain rfl : url = url' := by
        rw [hurl] at hurl'
        exact Address.Target.openAt.inj (Except.ok.inj hurl')
      have hsame : s.origin = t.origin := horigin.trans horigin'.symm
      have hsame_url : s.url = t.url := congrArg Origin.url hsame
      refine ⟨hsame_url, congrArg Origin.mode hsame, ?_⟩
      rw [hsettled.hint, ht.settled.hint, hsame_url]
    · intro hconn
      have hmode := hsettled.mode hconn
      have hseekable := hsettled.seekable hconn
      exact ⟨hmode, hseekable, hsettled.mimeType hconn,
        fun B' w _ hcommands => performAll_of_idle hconn hseekable B' w hcommands,
        isConnected_reconnect hmode⟩
  · intro σ κ B beyond config cookies address w w' t hopen
    obtain ⟨url, -, hconnect⟩ := connected_of_openAt hopen
    obtain ⟨c, -, -, rfl⟩ := connected_of_connect hconnect
    refine ⟨c.id, ?_⟩
    intro s hlater v
    obtain ⟨hmode, hheld⟩ := hlater.holds (n := c.id) rfl rfl
    refine ⟨hmode, hheld, reconnect_of_write hmode v, ?_, log_close_of_held hheld v⟩
    intro command
    exact (Holds.perform B beyond ⟨hmode, hheld, .none⟩ command).used

/-- A reader that lost its connection, and a writer at the same address. -/
theorem inert_until_reconnected_station :
    (Reached Scripted.backend {} .none "lavf://mms://h/live" .read
        (stationStream none {}) ∧
      (stationStream none {}).performAll Scripted.backend (stationWorld [.ok station])
          [.read 4, .seek 0, .control .tags, .ioReadToEnd] =
        ⟨[.failed (.noConnection .read), .failed (.unsupported .seek), .control .unsupported,
          .ioFailed (StreamError.noConnection .read).toIo],
          stationStream none {}, stationWorld [.ok station]⟩) ∧
    ∃ (t : Stream (Watched Scripted.Playlist) (Numbered Scripted.Script)) (n : Nat),
      t.held = [n] ∧ ∀ s, Later (Scripted.backend.watched Scripted.backend) t s → s.held = [n] := by
  have hopened : Reached Scripted.backend {} .none "lavf://mms://h/live" .read
      (stationStream (some station) {}) :=
    .opened (w := stationWorld [.ok station]) rfl
  have hlost : Reached Scripted.backend {} .none "lavf://mms://h/live" .read
      (stationStream none {}) :=
    hopened.performed (stationWorld [.error (.io "gone")]) (.control .reconnect)
  obtain ⟨-, hidle⟩ := inert_until_reconnected.1 hlost
  obtain ⟨-, -, -, hanswers, -⟩ := hidle rfl
  obtain ⟨n, hwriter⟩ := inert_until_reconnected.2 Scripted.backend Scripted.backend
    (rfl : Stream.openAt (Scripted.backend.watched Scripted.backend) {} .none "lavf://mms://h/live"
      .write ((stationWorld [.ok station]).watched []) = (.ok (.stream _), _))
  have hheld := fun s hs => (hwriter s hs ((stationWorld []).watched [])).2.1
  exact ⟨⟨hlost, hanswers _ _ _ (by decide)⟩, _, n, hheld _ .same, hheld⟩

end ByteStream.Stream
