/-
# ByteStream.Proofs.Audit.Watching -- watching a stream changes nothing

A stream over a watched backend answers every command as the same stream does without the watcher,
and leaves the same behind, but for the numbers and the log (`simulates_unwatched`). That holds
whatever serves closed connections: none of them is called or looked at. The log stays sound for
the connections held: the one of this stream, if it has one, and those of others.

What else is to be known of the state and the log is a parameter: a relation `Q` of the two that
every call on the backend keeps (`Tallies`). It may be used to compare closing with another way to
close, which has to do the same as long as a connection is open.
-/

import ByteStream.Proofs.Audit.Log
import ByteStream.Proofs.Stream.Reopening

namespace ByteStream

variable {σ κ α β : Type}

/-- The backend with another way to close. -/
def Backend.closingBy (B : Backend σ κ)
    (close : κ → World σ → Except BackendError Unit × World σ) : Backend σ κ :=
  { B with close }

/-- The world after a call on a connection. -/
def Backend.worldAfter (B : Backend σ κ) (c : κ) (w : World σ) : Call → World σ
  | .read n => (B.read c n w).world
  | .write data => (B.write c data w).world
  | .flush => (B.flush c w).world
  | .seek pos => (B.seek c pos w).world
  | .size => (B.size c w).world
  | .seekTime target => (B.seekTime c target w).world
  | .close => (B.close c w).2
  | .cookies _ | .connect _ _ _ | .request _ _ _ => w

namespace Audit

/-- Every call keeps what `Q` says of the state and the log, and closing by `close` is closing as
long as a connection is open. -/
structure Tallies (B : Backend σ κ) (close : κ → World σ → Except BackendError Unit × World σ)
    (Q : σ → List Event → Prop) : Prop where
  connect : ∀ {w log} request, Q w.state log →
    Q (B.connect request w).world.state (attempt log (B.connect request w).answer :: log)
  call : ∀ {w log} what c id ok, what ≠ .close → Q w.state log →
    Q (B.worldAfter c w what).state (.call id what ok :: log)
  close : ∀ {w log} c id ok, ended log < made log → Q w.state log →
    close c w = B.close c w ∧ Q (B.close c w).2.state (.call id .close ok :: log)

/-- Where nothing else is to be known, every backend will do. -/
theorem tallies_trivial (B : Backend σ κ) : Tallies B B.close fun _ _ => True where
  connect _ _ := trivial
  call _ _ _ _ _ _ := trivial
  close _ _ _ _ _ := ⟨rfl, trivial⟩

end Audit

open Audit

/-- Asking the provider keeps what `Q` says. -/
def CookieProvider.Keeps (p : CookieProvider σ) (Q : σ → List Event → Prop) : Prop :=
  ∀ file w log, Q w.state log → Q (p.ask file w).2.state log

variable {B beyond : Backend σ κ} {close : κ → World σ → Except BackendError Unit × World σ}
  {Q : σ → List Event → Prop} {others : List Nat}

/-! ## Calls -/

namespace Audit

/-- The watched reply is the reply, with calls on the connection added to the log. -/
structure Mirrors (Q : σ → List Event → Prop) (id : Nat) (log : List Event)
    (r : Reply (Watched σ) (Numbered κ) α) (r' : Reply σ κ α) : Prop where
  answer : r.answer = r'.answer
  conn : r.conn = ⟨id, r'.conn⟩
  world : r.world.unwatched = r'.world
  used : Used id log r.world.state.log
  tally : Q r'.world.state r.world.state.log

theorem mirrors_noted {c : Numbered κ} {what : Call} {log : List Event} {r : Reply σ κ α}
    (hwhat : what ≠ .close) (htally : Q r.world.state (.call c.id what r.answer.isOk :: log)) :
    Mirrors Q c.id log (noted c what log r) r :=
  ⟨rfl, rfl, rfl, .call hwhat .none, htally⟩

/-- An attempt to connect reaches the backend. -/
theorem watched_connect (request : ConnectRequest) (w : World σ) (log : List Event) :
    (B.watched beyond).connect request (w.watched log) =
      ⟨(B.connect request w).answer.map (⟨made log, ·⟩), (B.connect request w).left,
        (B.connect request w).world.watched (attempt log (B.connect request w).answer :: log)⟩ :=
  rfl

section Open

variable {c : Numbered κ} {w : World (Watched σ)}

/-! While a connection is open, what is asked of it reaches the backend. -/

theorem watched_read (h : isOver w.state.log c.id = false) (n : Nat) :
    (B.watched beyond).read c n w =
      noted c (.read n) w.state.log (B.read c.inner n w.unwatched) := by
  simp only [Backend.watched, host_of_not_isOver h]

theorem watched_write (h : isOver w.state.log c.id = false) (data : Bytes) :
    (B.watched beyond).write c data w =
      noted c (.write data) w.state.log (B.write c.inner data w.unwatched) := by
  simp only [Backend.watched, host_of_not_isOver h]

theorem watched_flush (h : isOver w.state.log c.id = false) :
    (B.watched beyond).flush c w = noted c .flush w.state.log (B.flush c.inner w.unwatched) := by
  simp only [Backend.watched, host_of_not_isOver h]

theorem watched_error (h : isOver w.state.log c.id = false) :
    (B.watched beyond).error c w = B.error c.inner w.unwatched := by
  simp only [Backend.watched, host_of_not_isOver h]

theorem watched_seek (h : isOver w.state.log c.id = false) (pos : Nat) :
    (B.watched beyond).seek c pos w =
      noted c (.seek pos) w.state.log (B.seek c.inner pos w.unwatched) := by
  simp only [Backend.watched, host_of_not_isOver h]

theorem watched_size (h : isOver w.state.log c.id = false) :
    (B.watched beyond).size c w = noted c .size w.state.log (B.size c.inner w.unwatched) := by
  simp only [Backend.watched, host_of_not_isOver h]

theorem watched_seekTime (h : isOver w.state.log c.id = false) (target : TimestampSeek) :
    (B.watched beyond).seekTime c target w =
      noted c (.seekTime target) w.state.log (B.seekTime c.inner target w.unwatched) := by
  simp only [Backend.watched, host_of_not_isOver h]

theorem watched_icyFields (h : isOver w.state.log c.id = false) :
    (B.watched beyond).icyFields c w =
      ((B.icyFields c.inner w.unwatched).1, ⟨c.id, (B.icyFields c.inner w.unwatched).2⟩) := by
  simp only [Backend.watched, host_of_not_isOver h]

theorem watched_close (h : isOver w.state.log c.id = false) :
    (B.watched beyond).close c w =
      ((B.close c.inner w.unwatched).1, (B.close c.inner w.unwatched).2.watched
        (.call c.id .close (B.close c.inner w.unwatched).1.isOk :: w.state.log)) := by
  simp only [Backend.watched, host_of_not_isOver h]

/-- Writing through is a write and perhaps a flush; the connection stays open in between. -/
theorem mirrors_writeThrough (hB : Tallies B close Q) (h : isOver w.state.log c.id = false)
    (htally : Q w.state.inner w.state.log) (data : Bytes) :
    Mirrors Q c.id w.state.log ((B.watched beyond).writeThrough c data w)
      (B.writeThrough c.inner data w.unwatched) := by
  generalize hwrote : B.write c.inner data w.unwatched = wrote
  have hwritten : ∀ ok, Q wrote.world.state (.call c.id (.write data) ok :: w.state.log) := by
    intro ok
    rw [← hwrote]
    exact hB.call (w := w.unwatched) (.write data) c.inner c.id ok (by simp) htally
  unfold Backend.writeThrough
  rw [watched_write h, hwrote]
  dsimp only [noted]
  cases hanswer : wrote.answer with
  | error e => exact ⟨rfl, rfl, rfl, .call (by simp) .none, hwritten _⟩
  | ok count =>
    generalize hlog : Event.call c.id (.write data) (Except.ok count : Except BackendError Nat).isOk
      :: w.state.log = log
    have hused : Used c.id w.state.log log := by
      rw [← hlog]
      exact .call (by simp) .none
    have hstill : isOver log c.id = false := by
      rw [← hlog, isOver_call (by simp)]
      exact h
    have hflushed : ∀ ok, Q (B.flush wrote.conn wrote.world).world.state
        (.call c.id .flush ok :: log) := by
      intro ok
      refine hB.call (w := wrote.world) .flush wrote.conn c.id ok (by simp) ?_
      rw [← hlog]
      exact hwritten _
    dsimp only
    rw [watched_flush (c := ⟨c.id, wrote.conn⟩) (w := wrote.world.watched log) hstill]
    dsimp only [noted, World.unwatched_watched, World.log_watched]
    generalize hflush : B.flush wrote.conn wrote.world = flushed at hflushed
    cases hanswer' : flushed.answer with
    | error e => exact ⟨rfl, rfl, rfl, .call (by simp) hused, hflushed _⟩
    | ok _ =>
      have hopen : isOver (.call c.id .flush true :: log) c.id = false := by
        rw [isOver_call (by simp)]
        exact hstill
      dsimp only
      rw [watched_error (c := ⟨c.id, flushed.conn⟩) hopen]
      dsimp only [World.unwatched_watched]
      cases B.error flushed.conn flushed.world with
      | some e => exact ⟨rfl, rfl, rfl, .call (by simp) hused, hflushed _⟩
      | none => exact ⟨rfl, rfl, rfl, .call (by simp) hused, hflushed _⟩

end Open

end Audit

namespace Stream

/-! ## Streams and the same streams watched -/

/-- The log is sound for what this stream and others hold, and the cookie provider does not know
of it. -/
structure Kept (Q : σ → List Event → Prop) (others : List Nat)
    (s : Stream (Watched σ) (Numbered κ)) (w : World (Watched σ)) : Prop where
  sound : Sound w.state.log (s.held ++ others)
  tally : Q w.state.inner w.state.log
  blind : s.cookies = s.cookies.unwatched.watched
  cookies : s.cookies.unwatched.Keeps Q

/-- The second stream is the first one without the watcher. -/
def Accords (Q : σ → List Event → Prop) (others : List Nat)
    (s : Stream (Watched σ) (Numbered κ)) (w : World (Watched σ)) (t : Stream σ κ)
    (v : World σ) : Prop :=
  t = s.unwatched ∧ v = w.unwatched ∧ Kept Q others s w

variable {s : Stream (Watched σ) (Numbered κ)} {w : World (Watched σ)}

theorem held_of_conn {c : Numbered κ} (h : s.conn = some c) : s.held = [c.id] := by
  rw [held, h]
  rfl

theorem conn_unwatched {c : Numbered κ} (h : s.conn = some c) :
    s.unwatched.conn = some c.inner := by
  rw [unwatched, h]
  rfl

theorem conn_unwatched_none (h : s.conn = none) : s.unwatched.conn = none := by
  rw [unwatched, h]
  rfl

/-- The connection of a stream is open. -/
theorem Kept.isOver_eq (h : Kept Q others s w) {c : Numbered κ} (hconn : s.conn = some c) :
    isOver w.state.log c.id = false := by
  refine h.sound.isOver_eq ?_
  rw [held_of_conn hconn]
  simp

theorem accords_call (h : Kept Q others s w)
    {f : Numbered κ → World (Watched σ) → Reply (Watched σ) (Numbered κ) β}
    {f' : κ → World σ → Reply σ κ β}
    (hf : ∀ c, s.conn = some c →
      Mirrors Q c.id w.state.log (f c w) (f' c.inner w.unwatched))
    (absent : α) (view : Except BackendError β → α) :
    SameStep (Accords Q others) (s.call w absent f view)
      (s.unwatched.call w.unwatched absent f' view) := by
  cases hconn : s.conn with
  | none =>
    rw [call_of_none hconn, call_of_none (conn_unwatched_none hconn)]
    exact ⟨rfl, rfl, rfl, h⟩
  | some c =>
    have hmirror := hf c hconn
    rw [call_of_conn hconn, call_of_conn (conn_unwatched hconn)]
    refine ⟨congrArg view hmirror.answer, ?_, hmirror.world.symm, ?_⟩
    · show _ = unwatched _
      unfold unwatched
      dsimp only
      rw [hmirror.conn]
      rfl
    · have hheld : ({ s with conn := some (f c w).conn } : Stream _ _).held = s.held := by
        rw [held_of_conn hconn, held, hmirror.conn]
        rfl
      refine ⟨?_, ?_, h.blind, h.cookies⟩
      · rw [hheld]
        refine h.sound.used ?_ hmirror.used
        rw [held_of_conn hconn]
        simp
      · have htally := hmirror.tally
        rwa [← hmirror.world] at htally

/-- A poll finds the same news. -/
theorem accords_pollTags (h : Kept Q others s w) :
    SameStep (Accords Q others) (s.pollTags (B.watched beyond) w)
      (s.unwatched.pollTags (B.closingBy close) w.unwatched) := by
  cases hconn : s.conn with
  | none =>
    rw [pollTags_of_none hconn, pollTags_of_none (conn_unwatched_none hconn)]
    exact ⟨rfl, rfl, rfl, h⟩
  | some c =>
    have hsound := h.sound
    rw [held_of_conn hconn] at hsound
    rw [pollTags_of_conn hconn, pollTags_of_conn (conn_unwatched hconn),
      watched_icyFields (h.isOver_eq hconn)]
    exact ⟨rfl, rfl, rfl, hsound, h.tally, h.blind, h.cookies⟩

/-! ## Giving up and connecting -/

/-- Closing reaches the backend, and the connection is not held any more. -/
theorem close_unwatched (hB : Tallies B close Q) (beyond : Backend σ κ) (h : Kept Q others s w) :
    (s.close (B.watched beyond) w).unwatched =
        s.unwatched.close (B.closingBy close) w.unwatched ∧
      Sound (s.close (B.watched beyond) w).state.log others ∧
      Q (s.close (B.watched beyond) w).state.inner (s.close (B.watched beyond) w).state.log := by
  unfold Stream.close release
  cases hconn : s.conn with
  | none =>
    rw [conn_unwatched_none hconn]
    have hsound := h.sound
    rw [held, hconn] at hsound
    exact ⟨rfl, hsound, h.tally⟩
  | some c =>
    rw [conn_unwatched hconn]
    have hsound := h.sound
    rw [held_of_conn hconn] at hsound
    obtain ⟨hsame, htally⟩ := hB.close (w := w.unwatched) c.inner c.id
      (B.close c.inner w.unwatched).1.isOk hsound.ended_lt h.tally
    dsimp only
    rw [watched_close (h.isOver_eq hconn)]
    refine ⟨?_, hsound.closed _, htally⟩
    show (B.close c.inner w.unwatched).2 = (close c.inner w.unwatched).2
    rw [hsame]

theorem build_watched (c : Config) (mode : Mode) (p : CookieProvider σ)
    (w : World (Watched σ)) :
    ConnectOptions.build c mode p.watched w =
      ((ConnectOptions.build c mode p w.unwatched).1,
        (ConnectOptions.build c mode p w.unwatched).2.watched w.state.log) := by
  unfold ConnectOptions.build
  cases ConnectOptions.cookieQuestion c with
  | none => rfl
  | some file => rfl

theorem keeps_build {p : CookieProvider σ} (hp : p.Keeps Q) (c : Config) (mode : Mode)
    {w : World σ} {log : List Event} (h : Q w.state log) :
    Q (ConnectOptions.build c mode p w).2.state log := by
  unfold ConnectOptions.build
  cases ConnectOptions.cookieQuestion c with
  | none => exact h
  | some file => exact hp file w log h

/-- The backend gets the same request, in the same world. -/
theorem request_unwatched (h : s.cookies = s.cookies.unwatched.watched) (w : World (Watched σ)) :
    s.request w = ((s.unwatched.request w.unwatched).1,
      (s.unwatched.request w.unwatched).2.watched w.state.log) := by
  have hbuild := build_watched s.config s.mode s.cookies.unwatched w
  rw [← h] at hbuild
  rw [request_of_build hbuild]
  rfl

theorem unwatched_install (s : Stream (Watched σ) (Numbered κ)) {c : Numbered κ} {w : World σ}
    {log : List Event} (h : isOver log c.id = false) :
    (s.install (B.watched beyond) c (w.watched log)).unwatched =
      s.unwatched.install (B.closingBy close) c.inner w := by
  simp only [install, unwatched, Backend.watched, Backend.closingBy, World.log_watched,
    World.unwatched_watched, host_of_not_isOver h, Option.map_some]

/-- A stream without a connection connects as it does without the watcher. -/
theorem accords_connect (hB : Tallies B close Q) (beyond : Backend σ κ) (h : Kept Q others s w)
    (hnone : s.conn = none) :
    SameStep (Accords Q others) (Stream.connect (B.watched beyond) s w)
      (Stream.connect (B.closingBy close) s.unwatched w.unwatched) := by
  have hsound := h.sound
  have hheld : s.held = [] := by
    rw [held, hnone]
    rfl
  rw [hheld, List.nil_append] at hsound
  generalize hlog : w.state.log = log at hsound
  generalize hasked : s.unwatched.request w.unwatched = asked
  have hrequest : s.request w = (asked.1, asked.2.watched log) := by
    rw [request_unwatched h.blind, hasked, hlog]
  have hbuilt : Q asked.2.state log := by
    rw [← hasked, ← hlog]
    exact keeps_build h.cookies s.config s.mode h.tally
  have htally := hB.connect asked.1 hbuilt
  cases hanswer : (B.connect asked.1 asked.2).answer with
  | error e =>
    have hrefused : ((B.watched beyond).connect (s.request w).1 (s.request w).2).answer =
        .error e := by
      rw [hrequest, watched_connect, hanswer]
      rfl
    have hrefused' : ((B.closingBy close).connect (s.unwatched.request w.unwatched).1
        (s.unwatched.request w.unwatched).2).answer = .error e := by
      rw [hasked]
      exact hanswer
    rw [hanswer] at htally
    rw [connect_of_refusal hrefused, connect_of_refusal hrefused', hrequest, hasked,
      watched_connect, hanswer]
    refine ⟨rfl, rfl, rfl, ?_, htally, h.blind, h.cookies⟩
    rw [hheld]
    exact hsound.refused
  | ok c =>
    have hmade : ((B.watched beyond).connect (s.request w).1 (s.request w).2).answer =
        .ok ⟨made log, c⟩ := by
      rw [hrequest, watched_connect, hanswer]
      rfl
    have hmade' : ((B.closingBy close).connect (s.unwatched.request w.unwatched).1
        (s.unwatched.request w.unwatched).2).answer = .ok c := by
      rw [hasked]
      exact hanswer
    rw [hanswer] at htally
    rw [connect_of_answer hmade, connect_of_answer hmade', hrequest, hasked, watched_connect,
      hanswer]
    -- The new connection is open, so what it says of itself is what the backend says.
    have hopen : isOver (.connect (some (made log)) :: log) (made log) = false :=
      hsound.handedOut.isOver_eq List.mem_cons_self
    refine ⟨rfl, ?_, rfl, hsound.handedOut, htally, h.blind, h.cookies⟩
    exact (unwatched_install s (c := ⟨made log, c⟩) hopen).symm

theorem accords_reconnect (hB : Tallies B close Q) (h : Kept Q others s w) :
    SameStep (Accords Q others) (s.reconnect (B.watched beyond) w)
      (s.unwatched.reconnect (B.closingBy close) w.unwatched) := by
  have hmode : s.unwatched.mode = s.mode := rfl
  cases hread : s.mode with
  | write =>
    rw [reconnect_of_write hread, reconnect_of_write (hmode.trans hread)]
    exact ⟨rfl, rfl, rfl, h⟩
  | read =>
    obtain ⟨hworld, hsound, htally⟩ := close_unwatched hB beyond h
    have hempty : Kept Q others (s.emptied (B.watched beyond) w)
        (s.close (B.watched beyond) w) := ⟨hsound, htally, h.blind, h.cookies⟩
    rw [reconnect_eq hread, reconnect_eq (hmode.trans hread), ← hworld]
    exact (accords_connect hB beyond hempty rfl).map reconnectView

/-- **Watching a stream changes nothing.** -/
theorem simulates_unwatched (hB : Tallies B close Q) (beyond : Backend σ κ) (others : List Nat) :
    Simulates (B.watched beyond) (B.closingBy close) (Accords Q others) where
  read := by
    rintro s w _ _ ⟨rfl, rfl, h⟩ n
    refine accords_call h ?_ _ _
    intro c hconn
    rw [watched_read (h.isOver_eq hconn)]
    exact mirrors_noted (by simp)
      (hB.call (w := w.unwatched) (.read n) c.inner c.id _ (by simp) h.tally)
  write := by
    rintro s w _ _ ⟨rfl, rfl, h⟩ data
    refine accords_call h ?_ _ _
    intro c hconn
    exact mirrors_writeThrough hB (h.isOver_eq hconn) h.tally data
  seek := by
    rintro s w _ _ ⟨rfl, rfl, h⟩ pos
    have hseekable : s.unwatched.seekable = s.seekable := rfl
    unfold Stream.seek
    rw [hseekable]
    split
    · refine accords_call h ?_ _ _
      intro c hconn
      rw [watched_seek (h.isOver_eq hconn)]
      exact mirrors_noted (by simp)
        (hB.call (w := w.unwatched) (.seek pos) c.inner c.id _ (by simp) h.tally)
    · exact ⟨rfl, rfl, rfl, h⟩
  control := by
    rintro s w _ _ ⟨rfl, rfl, h⟩ request
    cases request with
    | size =>
      refine accords_call h ?_ _ _
      intro c hconn
      rw [watched_size (h.isOver_eq hconn)]
      exact mirrors_noted (by simp)
        (hB.call (w := w.unwatched) .size c.inner c.id _ (by simp) h.tally)
    | seekTime target =>
      refine accords_call h ?_ _ _
      intro c hconn
      rw [watched_seekTime (h.isOver_eq hconn)]
      exact mirrors_noted (by simp)
        (hB.call (w := w.unwatched) (.seekTime target) c.inner c.id _ (by simp) h.tally)
    | tags =>
      show SameStep _ (s.pollTags (B.watched beyond) w)
        (s.unwatched.pollTags (B.closingBy close) w.unwatched)
      exact accords_pollTags h
    | reconnect => exact accords_reconnect hB h
  readsLeft := by
    rintro s w _ _ ⟨rfl, rfl, h⟩
    unfold Stream.readsLeft
    cases hconn : s.conn with
    | none => rw [conn_unwatched_none hconn]
    | some c =>
      rw [conn_unwatched hconn]
      simp only [Backend.watched, host_of_not_isOver (h.isOver_eq hconn)]
      rfl
  coming := by
    rintro s w _ _ ⟨rfl, rfl, _⟩
    rfl
  shown := by
    rintro s w _ _ ⟨rfl, rfl, _⟩
    have hconnected : s.unwatched.isConnected = s.isConnected := by
      simp [isConnected, unwatched]
    unfold shown
    rw [hconnected]
    rfl

end Stream

end ByteStream
