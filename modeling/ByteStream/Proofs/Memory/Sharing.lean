/-
# ByteStream.Proofs.Memory.Sharing -- streams that share a store

Where nobody cancels a token, nothing waits and nothing is due to fail, what a call on a connection
gives depends on the settings of the store and on the connection, but not on its number and on
nothing else in the store; and all it does there is to add to the records (`Uniform`). Two streams
that are the same but for the number of their connection therefore answer every command alike over
any two stores with the same settings, and add the same to the records of either
(`simulates_recordAlike`).
-/

import ByteStream.Memory
import ByteStream.Proofs.Stream.Actions
import ByteStream.Proofs.Uncancelled

namespace ByteStream

namespace Memory

/-! ## Records -/

/-- What is written, and the positions that are gone to. -/
structure Records where
  written : Bytes := []
  seeks : List Nat := []
deriving DecidableEq, Repr

/-- The one after the other. -/
def Records.append (p q : Records) : Records := ⟨p.written ++ q.written, p.seeks ++ q.seeks⟩

/-- All of them, one after the other. -/
def Records.join (ps : List Records) : Records := ps.foldr Records.append {}

/-- The store with these at the end of its records. -/
def Store.record (s : Store) (p : Records) : Store :=
  { s with written := s.written ++ p.written, seeks := s.seeks ++ p.seeks }

/-- The records of the one store are those of the other and these. -/
def Grew (s s' : Store) (p : Records) : Prop :=
  s'.written = s.written ++ p.written ∧ s'.seeks = s.seeks ++ p.seeks

variable {s s' s'' : Store} {p q : Records}

theorem grew_record (s : Store) (p : Records) : Grew s (s.record p) p := ⟨rfl, rfl⟩

theorem grew_of_same (hwritten : s'.written = s.written) (hseeks : s'.seeks = s.seeks) :
    Grew s s' {} := by
  unfold Grew
  rw [hwritten, hseeks]
  exact ⟨(List.append_nil _).symm, (List.append_nil _).symm⟩

theorem Grew.trans (h : Grew s s' p) (h' : Grew s' s'' q) : Grew s s'' (p.append q) := by
  obtain ⟨hwritten, hseeks⟩ := h
  obtain ⟨hwritten', hseeks'⟩ := h'
  exact ⟨by rw [hwritten', hwritten, List.append_assoc]; rfl,
    by rw [hseeks', hseeks, List.append_assoc]; rfl⟩

/-- What a store has recorded in between is determined. -/
theorem Grew.inj (h : Grew s s' p) (h' : Grew s s' q) : p = q := by
  obtain ⟨written, seeks⟩ := p
  obtain ⟨written', seeks'⟩ := q
  obtain rfl : written = written' := List.append_cancel_left (h.1.symm.trans h'.1)
  obtain rfl : seeks = seeks' := List.append_cancel_left (h.2.symm.trans h'.2)
  rfl

theorem record_nil (s : Store) : s.record {} = s := by
  simp only [Store.record, List.append_nil]

/-! ## Stores that serve undisturbed -/

/-- The store has these settings and no failure is due; nobody cancels one of the tokens, and so
many waits may bring signals. -/
structure Serves (T : Token → Prop) (settings : Settings) (waits : Nat) (w : World Store) :
    Prop where
  settings : w.state.settings = settings
  failures : w.state.failures = []
  calm : w.signals.Calm T
  waits : w.signals.coming.length = waits

variable {T : Token → Prop} {settings : Settings} {waits : Nat} {w v : World Store} {α β : Type}

theorem Serves.congr (h : Serves T settings waits w)
    (hsettings : v.state.settings = w.state.settings)
    (hfailures : v.state.failures = w.state.failures) (hsignals : v.signals = w.signals) :
    Serves T settings waits v :=
  ⟨hsettings.trans h.settings, hfailures.trans h.failures, hsignals ▸ h.calm, hsignals ▸ h.waits⟩

/-- Whatever the number of the connection, and in every such world, the call gives the same, and
all it does to the store is to add to its records. -/
def Uniform (T : Token → Prop) (settings : Settings) (waits : Nat)
    (f : Connection → World Store → Reply Store Connection α) (c : Connection) : Prop :=
  ∃ (answer : Except BackendError α) (c' : Connection) (p : Records),
    c'.interrupt = c.interrupt ∧ ∀ id w, Serves T settings waits w →
      f { c with id } w = ⟨answer, { c' with id }, { w with state := w.state.record p }⟩

variable {c : Connection}

theorem fires_of_serves {i : Interrupt} (hquiet : i.Quiet T) (h : Serves T settings waits w) :
    ¬ i.fires w.signals = true := by
  simp [hquiet _ h.calm.spares]

theorem uniform_read (hready : settings.blockingReads = false) (hquiet : c.interrupt.Quiet T)
    (n : Nat) : Uniform T settings waits (fun c w => backend.read c n w) c := by
  refine ⟨.ok (c.available settings.content n),
    { c with pos := c.pos + (c.available settings.content n).length }, {}, rfl, ?_⟩
  intro id w h
  have hnow : ¬ w.state.settings.blockingReads = true := by simp [h.settings, hready]
  show read { c with id } n w = _
  unfold read
  rw [if_neg (fires_of_serves hquiet h), if_neg hnow, h.settings, record_nil]
  rfl

/-- A flush succeeds, but the error that it leaves is the answer to the write. -/
theorem uniform_writeThrough (hquiet : c.interrupt.Quiet T) (data : Bytes) :
    Uniform T settings waits (fun c w => backend.writeThrough c data w) c := by
  obtain ⟨error, herror⟩ : ∃ error, settings.flushError.or c.error = error := ⟨_, rfl⟩
  refine ⟨(error.map Except.error).getD (.ok data.length), { c with error }, ⟨data, []⟩, rfl, ?_⟩
  intro id w h
  have hwrite : backend.write { c with id } data w =
      .done data.length { c with id } { w with state := w.state.record ⟨data, []⟩ } := by
    show write { c with id } data w = _
    rw [write, if_neg (fires_of_serves hquiet h), Store.record, List.append_nil]
  have hflush : backend.flush { c with id } { w with state := w.state.record ⟨data, []⟩ } =
      .done () { c with id, error } { w with state := w.state.record ⟨data, []⟩ } := by
    show Reply.done () { c with id, error := w.state.settings.flushError.or c.error } _ = _
    rw [h.settings, herror]
  simp only [Backend.writeThrough, hwrite, Reply.done, hflush]
  cases error with
  | some e => rfl
  | none => rfl

theorem uniform_seek (hquiet : c.interrupt.Quiet T) (pos : Nat) :
    Uniform T settings waits (fun c w => backend.seek c pos w) c := by
  by_cases hbehind : settings.content.length < pos
  · refine ⟨.error (.io ("seek past end: " ++ toString pos)), c, {}, rfl, ?_⟩
    intro id w h
    show seek { c with id } pos w = _
    rw [seek, if_neg (fires_of_serves hquiet h), h.settings, if_pos hbehind, record_nil]
    rfl
  · refine ⟨.ok pos, { c with pos }, ⟨[], [pos]⟩, rfl, ?_⟩
    intro id w h
    show seek { c with id } pos w = _
    rw [seek, if_neg (fires_of_serves hquiet h), h.settings, if_neg hbehind, Store.record,
      List.append_nil]
    rfl

theorem uniform_size (c : Connection) : Uniform T settings waits backend.size c := by
  refine ⟨.ok settings.size, c, {}, rfl, ?_⟩
  intro id w h
  show Reply.done w.state.settings.size { c with id } w = _
  rw [h.settings, record_nil]
  rfl

theorem uniform_seekTime (c : Connection) (target : TimestampSeek) :
    Uniform T settings waits (fun c w => backend.seekTime c target w) c := by
  refine ⟨settings.seekTime.getD (.error .unsupported), c, {}, rfl, ?_⟩
  intro id w h
  show Reply.mk (w.state.settings.seekTime.getD (.error .unsupported)) { c with id } w = _
  rw [h.settings, record_nil]

/-- Connecting succeeds if the scheme is served. -/
theorem connect_of_serves {request : ConnectRequest} (hquiet : request.interrupt.Quiet T)
    (h : Serves T settings waits w) :
    Serves T settings waits (connect request w).world ∧
      Grew w.state (connect request w).world.state {} ∧
      (connect request w).answer =
        if serves request.url then .ok ⟨w.state.opened + 1, request.interrupt, 0, none⟩
        else .error .protocolNotFound := by
  unfold connect
  dsimp only
  rw [if_neg (fires_of_serves hquiet h)]
  have hfailures : (w.state.recordAttempt request).failures = [] := h.failures
  rw [hfailures]
  dsimp only
  split
  · exact ⟨h.congr rfl rfl rfl, grew_of_same rfl rfl, rfl⟩
  · exact ⟨h.congr rfl rfl rfl, grew_of_same rfl rfl, rfl⟩

end Memory

namespace Stream

open Memory

variable {T : Token → Prop} {settings : Settings} {waits : Nat} {w v w₀ v₀ : World Store}
  {s t : Stream Store Connection} {α β : Type}

/-! ## Streams but for the number of their connection -/

/-- The stream with another number for its connection. -/
def renumber (s : Stream Store Connection) (id : Nat) : Stream Store Connection :=
  { s with conn := s.conn.map fun c => { c with id } }

/-- The token of the stream is one of these, if it has one, and so is that of its connection; and
its provider of cookies leaves the store alone and gets none of them cancelled. -/
structure Guarded (T : Token → Prop) (s : Stream Store Connection) : Prop where
  cancel : ∀ token, s.config.cancel = some token → T token
  leavesBackendAlone : s.cookies.LeavesBackendAlone
  cookies : s.cookies.Spares T
  conn : ∀ c, s.conn = some c → c.interrupt.Quiet T

/-- Two streams that are the same but for the number of their connection, each in a world that
serves it undisturbed. Since these other worlds, the same was added to the records of both. -/
structure RecordAlike (T : Token → Prop) (settings : Settings) (waits : Nat) (w₀ v₀ : World Store)
    (s : Stream Store Connection) (w : World Store) (t : Stream Store Connection)
    (v : World Store) : Prop where
  stream : ∃ id, t = s.renumber id
  guarded : s.Guarded T
  here : Serves T settings waits w
  there : Serves T settings waits v
  grew : ∃ p, Grew w₀.state w.state p ∧ Grew v₀.state v.state p

/-- The worlds may change in the same way. -/
theorem RecordAlike.move (h : RecordAlike T settings waits w₀ v₀ s w t v) {w' v' : World Store}
    (hhere : Serves T settings waits w') (hthere : Serves T settings waits v') {p : Records}
    (hgrew : Grew w.state w'.state p ∧ Grew v.state v'.state p) :
    RecordAlike T settings waits w₀ v₀ s w' t v' := by
  obtain ⟨before, hw, hv⟩ := h.grew
  exact ⟨h.stream, h.guarded, hhere, hthere, before.append p, hw.trans hgrew.1, hv.trans hgrew.2⟩

/-- A call that gives the same whatever the number gives the same on both. -/
theorem RecordAlike.call (h : RecordAlike T settings waits w₀ v₀ s w t v) (absent : α)
    {f : Connection → World Store → Reply Store Connection β}
    (hf : ∀ c, c.interrupt.Quiet T → Uniform T settings waits f c)
    (view : Except BackendError β → α) :
    SameStep (RecordAlike T settings waits w₀ v₀) (s.call w absent f view)
      (t.call v absent f view) := by
  obtain ⟨id, rfl⟩ := h.stream
  cases hconn : s.conn with
  | none =>
    have hnone : (s.renumber id).conn = none := by rw [renumber, hconn]; rfl
    rw [call_of_none hconn, call_of_none hnone]
    exact ⟨rfl, h⟩
  | some c =>
    have hsome : (s.renumber id).conn = some { c with id } := by rw [renumber, hconn]; rfl
    obtain ⟨answer, c', p, hinterrupt, huniform⟩ := hf c (h.guarded.conn c hconn)
    have hhere : f c w = _ := huniform c.id w h.here
    have hthere := huniform id v h.there
    rw [call_of_conn hconn, call_of_conn hsome, hhere, hthere]
    obtain ⟨before, hw, hv⟩ := h.grew
    refine ⟨rfl, ⟨id, rfl⟩, ⟨h.guarded.cancel, h.guarded.leavesBackendAlone, h.guarded.cookies, ?_⟩,
      h.here.congr rfl rfl rfl, h.there.congr rfl rfl rfl, before.append p,
      hw.trans (grew_record _ p), hv.trans (grew_record _ p)⟩
    intro c'' hc''
    obtain rfl := Option.some.inj hc''
    show c'.interrupt.Quiet T
    rw [hinterrupt]
    exact h.guarded.conn c hconn

theorem RecordAlike.seek (h : RecordAlike T settings waits w₀ v₀ s w t v) (pos : Nat) :
    SameStep (RecordAlike T settings waits w₀ v₀) (s.seek backend pos w)
      (t.seek backend pos v) := by
  have hseekable : t.seekable = s.seekable := by
    obtain ⟨id, rfl⟩ := h.stream
    rfl
  unfold Stream.seek
  rw [hseekable]
  split
  · exact h.call _ (fun c hquiet => uniform_seek hquiet pos) _
  · exact ⟨rfl, h⟩

/-! ## Connecting -/

/-- Asking for cookies leaves the store as it is. -/
theorem Guarded.request (hs : s.Guarded T) (h : Serves T settings waits w) :
    Serves T settings waits (s.request w).2 ∧ Grew w.state (s.request w).2.state {} := by
  have huntouched := backendUntouched_request hs.leavesBackendAlone w
  obtain ⟨came, hcame⟩ := huntouched.signals
  refine ⟨⟨?_, ?_, ?_, ?_⟩, ?_⟩
  · rw [huntouched.state, h.settings]
  · rw [huntouched.state, h.failures]
  · unfold Stream.request ConnectOptions.build
    cases ConnectOptions.cookieQuestion s.config with
    | none => exact h.calm
    | some file => exact hs.cookies file w h.calm
  · rw [hcame, Signals.coming_foldl, h.waits]
  · rw [huntouched.state]
    exact grew_of_same rfl rfl

theorem Guarded.quiet_request (hs : s.Guarded T) (w : World Store) :
    (s.request w).1.interrupt.Quiet T :=
  Interrupt.quiet_ofToken? hs.cancel

theorem Guarded.install (hs : s.Guarded T) {c : Connection} (hquiet : c.interrupt.Quiet T)
    (w : World Store) : (s.install backend c w).Guarded T := by
  refine ⟨hs.cancel, hs.leavesBackendAlone, hs.cookies, ?_⟩
  intro c' hc'
  obtain rfl := Option.some.inj hc'
  exact hquiet

/-- What a stream remembers of a new connection is a matter of the settings. -/
theorem install_renumber (hsettings : w.state.settings = v.state.settings)
    (s : Stream Store Connection) (c : Connection) (id id' : Nat) :
    (s.renumber id).install backend { c with id := id' } v =
      (s.install backend c w).renumber id' := by
  show ({ s with
    conn := some { c with id := id' }
    seekable := v.state.settings.seekable
    mimeType := v.state.settings.mimeType
    hint := DemuxerHint.forOpened s.url } : Stream Store Connection) = _
  rw [← hsettings]
  rfl

theorem RecordAlike.connect (h : RecordAlike T settings waits w₀ v₀ s w t v) :
    SameStep (RecordAlike T settings waits w₀ v₀) (Stream.connect backend s w)
      (Stream.connect backend t v) := by
  obtain ⟨id, rfl⟩ := h.stream
  -- Both ask for cookies, and then make a request for the same URL with the same interrupt.
  have hguarded : (s.renumber id).Guarded T := by
    refine ⟨h.guarded.cancel, h.guarded.leavesBackendAlone, h.guarded.cookies, ?_⟩
    intro c hc
    obtain ⟨c', hc', rfl⟩ := Option.map_eq_some_iff.1 hc
    exact h.guarded.conn c' hc'
  obtain ⟨hhere, hgrew⟩ := h.guarded.request h.here
  obtain ⟨hthere, hgrew'⟩ := hguarded.request h.there
  obtain ⟨hhere, hgrown, hanswer⟩ := connect_of_serves (h.guarded.quiet_request w) hhere
  obtain ⟨hthere, hgrown', hanswer'⟩ := connect_of_serves (hguarded.quiet_request v) hthere
  have hmoved := h.move hhere hthere ⟨hgrew.trans hgrown, hgrew'.trans hgrown'⟩
  have hurl : ((s.renumber id).request v).1.url = (s.request w).1.url := rfl
  rw [hurl] at hanswer'
  by_cases hserves : serves (s.request w).1.url = true
  · rw [if_pos hserves] at hanswer hanswer'
    rw [connect_of_answer (B := backend) hanswer, connect_of_answer (B := backend) hanswer']
    have hsettings := hhere.settings.trans hthere.settings.symm
    have hstream := install_renumber hsettings s
      ⟨(s.request w).2.state.opened + 1, (s.request w).1.interrupt, 0, none⟩ id
      (((s.renumber id).request v).2.state.opened + 1)
    exact ⟨rfl, ⟨_, hstream⟩, h.guarded.install (h.guarded.quiet_request w) _, hmoved.here,
      hmoved.there, hmoved.grew⟩
  · rw [if_neg hserves] at hanswer hanswer'
    rw [connect_of_refusal (B := backend) hanswer, connect_of_refusal (B := backend) hanswer']
    exact ⟨rfl, hmoved⟩

/-- Giving a connection up counts as that and is no more. -/
theorem serves_close (s : Stream Store Connection) (h : Serves T settings waits w) :
    Serves T settings waits (s.close backend w) ∧ Grew w.state (s.close backend w).state {} := by
  unfold Stream.close release
  cases s.conn with
  | none => exact ⟨h, grew_of_same rfl rfl⟩
  | some c => exact ⟨h.congr rfl rfl rfl, grew_of_same rfl rfl⟩

theorem RecordAlike.reconnect (h : RecordAlike T settings waits w₀ v₀ s w t v) :
    SameStep (RecordAlike T settings waits w₀ v₀) (s.reconnect backend w)
      (t.reconnect backend v) := by
  have hmode : t.mode = s.mode := by
    obtain ⟨id, rfl⟩ := h.stream
    rfl
  cases hread : s.mode with
  | write =>
    rw [reconnect_of_write hread, reconnect_of_write (hmode.trans hread)]
    exact ⟨rfl, h⟩
  | read =>
    obtain ⟨hhere, hgrew⟩ := serves_close s h.here
    obtain ⟨hthere, hgrew'⟩ := serves_close t h.there
    have hmoved := h.move hhere hthere ⟨hgrew, hgrew'⟩
    have hempty : RecordAlike T settings waits w₀ v₀ (s.emptied backend w) (s.close backend w)
        (t.emptied backend v) (t.close backend v) := by
      refine ⟨?_, ⟨h.guarded.cancel, h.guarded.leavesBackendAlone, h.guarded.cookies, ?_⟩, hhere,
        hthere, hmoved.grew⟩
      · obtain ⟨id, rfl⟩ := h.stream
        exact ⟨id, rfl⟩
      · intro c hc
        exact absurd (show (none : Option Connection) = some c from hc) (by simp)
    rw [reconnect_eq hread, reconnect_eq (hmode.trans hread)]
    exact hempty.connect.map reconnectView

/-! ## All commands -/

theorem RecordAlike.pollTags (h : RecordAlike T settings waits w₀ v₀ s w t v) :
    SameStep (RecordAlike T settings waits w₀ v₀) (s.pollTags backend w)
      (t.pollTags backend v) := by
  obtain ⟨id, rfl⟩ := h.stream
  cases hconn : s.conn with
  | none =>
    have hnone : (s.renumber id).conn = none := by rw [renumber, hconn]; rfl
    rw [pollTags_of_none hconn, pollTags_of_none hnone]
    exact ⟨rfl, h⟩
  | some c =>
    have hsome : (s.renumber id).conn = some { c with id } := by rw [renumber, hconn]; rfl
    rw [pollTags_of_conn hconn, pollTags_of_conn hsome]
    have hfields : backend.icyFields c w = (settings.icy, c) := by
      show (w.state.settings.icy, c) = _
      rw [h.here.settings]
    have hfields' : backend.icyFields { c with id } v = (settings.icy, { c with id }) := by
      show (v.state.settings.icy, _) = _
      rw [h.there.settings]
    simp only [hfields, hfields']
    refine ⟨rfl, ⟨id, rfl⟩, ⟨h.guarded.cancel, h.guarded.leavesBackendAlone, h.guarded.cookies, ?_⟩,
      h.here, h.there, h.grew⟩
    intro c' hc'
    obtain rfl := Option.some.inj hc'
    exact h.guarded.conn c hconn

/-- Such streams answer everything alike, and add the same to the records. -/
theorem simulates_recordAlike (hready : settings.blockingReads = false) (w₀ v₀ : World Store) :
    Simulates backend backend (RecordAlike T settings waits w₀ v₀) where
  read h n := h.call _ (fun _ hquiet => uniform_read hready hquiet n) _
  write h data := h.call _ (fun _ hquiet => uniform_writeThrough hquiet data) _
  seek h pos := h.seek pos
  control h request := by
    cases request with
    | size => exact h.call _ (fun c _ => uniform_size c) _
    | seekTime target => exact h.call _ (fun c _ => uniform_seekTime c target) _
    | tags => exact h.pollTags
    | reconnect => exact h.reconnect
  readsLeft := by
    rintro s w t v h
    obtain ⟨id, rfl⟩ := h.stream
    unfold Stream.readsLeft renumber
    cases s.conn with
    | none => rfl
    | some c =>
      show w.state.settings.content.length - c.pos = v.state.settings.content.length - c.pos
      rw [h.here.settings, h.there.settings]
  coming h := h.here.waits.trans h.there.waits.symm
  shown := by
    rintro s w t v h
    obtain ⟨id, rfl⟩ := h.stream
    unfold Stream.shown Stream.isConnected renumber
    cases s.conn with
    | none => rfl
    | some c => rfl

end Stream

end ByteStream
