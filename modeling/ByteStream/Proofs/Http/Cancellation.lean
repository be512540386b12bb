/-
# ByteStream.Proofs.Http.Cancellation -- a cancelled stream over HTTP

Once the token of a stream over HTTP has been cancelled, no request is sent any more and no chunk
is taken. A reader still gets the payload that is pending, then the end of a body that has ended,
and otherwise an interruption; a seek goes to the very end, which needs no request, or is broken
off; whatever connects is broken off as soon as its arguments have been checked. One lemma for each
operation says what comes of it (`readAfterCancel`, `seekAfterCancel`, `controlAfterCancel`,
`openAfterCancel`), and of a run of actions there comes nothing but the beginning of the pending
payload (`OnlyPending`). All this is so on any transport.
-/

import ByteStream.Proofs.Http.Interruption
import ByteStream.Proofs.Stream.Actions

namespace ByteStream

namespace Http

variable {τ : Type}

/-- The request passes the checks that come before anything is sent. -/
def Passes (files : Files) (request : ConnectRequest) : Prop :=
  ∃ scheme rest url settings base, Scheme.split? request.url = some (scheme, rest) ∧
    request.mode ≠ .write ∧ Url.parse scheme rest = .ok url ∧
    (Settings.takeFrom request.options).1 = .ok settings ∧ prepare files url settings = .ok base

theorem passes_iff {files : Files} {request : ConnectRequest} :
    Passes files request ↔ ∃ found, (checked files request).1 = .ok found := by
  constructor
  · rintro ⟨scheme, rest, url, settings, base, hpasses⟩
    exact ⟨(url, settings, base), checked_eq_ok_iff.2 ⟨scheme, rest, hpasses⟩⟩
  · rintro ⟨⟨url, settings, base⟩, hchecked⟩
    obtain ⟨scheme, rest, hpasses⟩ := checked_eq_ok_iff.1 hchecked
    exact ⟨scheme, rest, url, settings, base, hpasses⟩

/-- **Connecting is broken off**, unless a check fails first. -/
theorem connect_of_fired (t : Transport) {request : ConnectRequest} {w : World (Server τ)}
    (h : request.interrupt.Fired w.signals) :
    (connect t request w).world = w ∧ ∃ e, (connect t request w).answer = .error e ∧
      (e = .interrupted ↔ Passes w.state.files request) := by
  have hother := checked_ne_interrupted w.state.files request
  rw [connect_eq, passes_iff]
  generalize checked w.state.files request = found at hother
  obtain ⟨e | ⟨url, settings, base⟩, left⟩ := found
  · -- A check that fails gives another error.
    refine ⟨rfl, e, rfl, ?_, ?_⟩
    · rintro rfl
      exact absurd rfl hother
    · rintro ⟨found, hfound⟩
      cases hfound
  · dsimp only
    rw [send_of_fired h]
    exact ⟨rfl, .interrupted, rfl, fun _ => ⟨_, rfl⟩, fun _ => rfl⟩

/-- The payload of what is pending. -/
def Connection.unread (c : Connection) : Bytes := payloadOf c.demuxer c.pending

end Http

namespace Stream

open Http

variable {τ : Type} {t : Transport} {token : Token} {s : Stream (Server τ) Connection}
  {w : World (Server τ)}

/-- What a read comes to: pending payload; the end, if the body has ended; an interruption, if it
has not; or the news that the connection was given up. -/
inductive ReadAfterCancel (s : Stream (Server τ) Connection) (w : World (Server τ)) (n : Nat) :
    Outcome (Server τ) Connection (Except StreamError Bytes) → Prop
  | pending {c c' : Connection} {bytes : Bytes} : s.conn = some c → bytes ≠ [] →
      bytes.length ≤ n → c.unread = bytes ++ c'.unread → c'.body = c.body →
      ReadAfterCancel s w n ⟨.ok bytes, { s with conn := some c' }, w⟩
  | ended {c c' : Connection} : s.conn = some c → c.body = none → c.unread = [] →
      c'.unread = [] → c'.body = none →
      ReadAfterCancel s w n ⟨.error .eof, { s with conn := some c' }, w⟩
  | interrupted {c c' : Connection} : s.conn = some c → c.body ≠ none → c.unread = [] →
      c'.unread = [] → c'.body = c.body →
      ReadAfterCancel s w n ⟨.error (.interrupted .read), { s with conn := some c' }, w⟩
  | noConnection : s.conn = none → ReadAfterCancel s w n ⟨.error (.noConnection .read), s, w⟩

/-- What a seek comes to: it goes to the very end; or it is broken off and changes nothing; or the
stream cannot seek, or has no connection. -/
inductive SeekAfterCancel (s : Stream (Server τ) Connection) (w : World (Server τ)) (pos : Nat) :
    Outcome (Server τ) Connection (Except StreamError Unit) → Prop
  | toSize {c : Connection} : s.conn = some c → c.seekable = true → c.size = some pos →
      SeekAfterCancel s w pos ⟨.ok (), { s with conn := some (c.turnTo pos none) }, w⟩
  | interrupted {c : Connection} : s.conn = some c → c.seekable = true → c.size ≠ some pos →
      SeekAfterCancel s w pos ⟨.error (.interrupted .seek), s, w⟩
  | unseekable : (s.seekable = false ∨ ∃ c, s.conn = some c ∧ c.seekable = false) →
      SeekAfterCancel s w pos ⟨.error (.unsupported .seek), s, w⟩
  | noConnection : s.conn = none → SeekAfterCancel s w pos ⟨.error (.noConnection .seek), s, w⟩

/-- What a control request comes to: an answer that costs nothing; a refusal to connect a writer
again; or a connection that was given up in vain. -/
inductive ControlAfterCancel (t : Transport) (s : Stream (Server τ) Connection)
    (w : World (Server τ)) :
    ControlRequest → Outcome (Server τ) Connection ControlResult → Prop
  | answered {request : ControlRequest} {result : ControlResult} {differ : Icy.Differ} :
      request ≠ .reconnect → ControlAfterCancel t s w request ⟨result, { s with differ }, w⟩
  | refused : s.mode = .write → ControlAfterCancel t s w .reconnect ⟨.unsupported, s, w⟩
  | disconnected {e : BackendError} : s.mode = .read →
      (e = .interrupted ↔ Passes w.state.files (s.request w).1) →
      w.BackendUntouched (s.request w).2 →
      ControlAfterCancel t s w .reconnect
        ⟨.failed (.ofConnect s.url e), s.emptied (backendOver t) w, (s.request w).2⟩

/-- What an attempt to open a stream comes to: an address that is none of a byte stream; or a
request that is not sent. -/
inductive OpenAfterCancel (w : World (Server τ)) (config : Config)
    (cookies : CookieProvider (Server τ)) (address : String) (mode : Mode) :
    Except StreamError (Opened (Server τ) Connection) × World (Server τ) → Prop
  | rejected {e : StreamError} : Address.normalize address = .error e →
      OpenAfterCancel w config cookies address mode (.error e, w)
  | delegated {hint : DemuxerHint} : Address.normalize address = .ok (.delegate hint) →
      OpenAfterCancel w config cookies address mode (.ok (.delegate hint), w)
  | failed {url : String} {e : BackendError} {request : ConnectRequest} {w' : World (Server τ)} :
      Address.normalize address = .ok (.openAt url) →
      (Origin.stream ⟨config, cookies, url, mode⟩ : Stream (Server τ) Connection).request w =
        (request, w') →
      (e = .interrupted ↔ Passes w.state.files request) → w.BackendUntouched w' →
      OpenAfterCancel w config cookies address mode (.error (.ofConnect url e), w')

theorem readAfterCancel (t : Transport) (h : Cancelled Connection.Proper token s w) {n : Nat}
    (hn : 0 < n) :
    ReadAfterCancel s w n (s.read (backendOver t) n w) := by
  cases hconn : s.conn with
  | none =>
    unfold Stream.read
    rw [call_of_none hconn]
    exact .noConnection hconn
  | some c =>
    obtain ⟨hproper, hfired⟩ := h.conn hconn
    rw [← hproper.interrupt] at hfired
    have hunread : c.unread = (c.takePending n).1 ++ (c.takePending n).2.unread := by
      have htaken := Connection.payloadOf_takePending hproper.demuxer n []
      rwa [List.append_nil, List.append_nil] at htaken
    have hread : (backendOver t).read c n w = c.readOn n w := Connection.read_of_pos hn w
    unfold Stream.read
    rw [call_of_conn hconn, hread, Connection.readOn_of_fired hfired]
    by_cases hsome : (c.takePending n).1 = []
    · have hempty : (c.takePending n).2.unread = [] := by
        unfold Connection.unread
        rw [Connection.pending_takePending hn hsome, payloadOf_nil]
      rw [hsome, List.nil_append, hempty] at hunread
      rw [if_neg (by simp [hsome])]
      by_cases hbody : c.body = none
      · rw [if_pos hbody]
        exact .ended hconn hbody hunread hempty ((Connection.body_takePending c n).trans hbody)
      · rw [if_neg hbody]
        exact .interrupted hconn hbody hunread hempty (Connection.body_takePending c n)
    · rw [if_pos hsome]
      have hview : readView (.ok (c.takePending n).1) = .ok (c.takePending n).1 := by
        obtain ⟨b, bytes, htaken⟩ := List.exists_cons_of_ne_nil hsome
        rw [htaken]
        rfl
      simp only [Reply.done, hview]
      exact .pending hconn hsome (Connection.length_takePending_le c n) hunread
        (Connection.body_takePending c n)

theorem seekAfterCancel (t : Transport) (h : Cancelled Connection.Proper token s w) (pos : Nat) :
    SeekAfterCancel s w pos (s.seek (backendOver t) pos w) := by
  unfold Stream.seek
  split
  · cases hconn : s.conn with
    | none =>
      rw [call_of_none hconn]
      exact .noConnection hconn
    | some c =>
      obtain ⟨hproper, hfired⟩ := h.conn hconn
      rw [← hproper.interrupt] at hfired
      have hseek : (backendOver t : Backend (Server τ) Connection).seek c pos w =
          if ¬ c.seekable then .fail .unsupported c w
          else if c.size = some pos then .done pos (c.turnTo pos none) w
          else .fail .interrupted c w := Connection.seek_of_fired hfired t pos
      by_cases hseekable : c.seekable = true
      · rw [if_neg (by simp [hseekable])] at hseek
        by_cases hsize : c.size = some pos
        · rw [if_pos hsize] at hseek
          rw [call_of_conn hconn, hseek]
          exact .toSize hconn hseekable hsize
        · rw [if_neg hsize] at hseek
          rw [call_of_unmoved hconn hseek]
          exact .interrupted hconn hseekable hsize
      · rw [if_pos hseekable] at hseek
        rw [call_of_unmoved hconn hseek]
        exact .unseekable (.inr ⟨c, hconn, by simpa using hseekable⟩)
  · rename_i hseekable
    exact .unseekable (.inl (by simpa using hseekable))

/-- A stream that connects is turned away by the interrupt, if it passes the checks. -/
theorem connect_of_cancelled (t : Transport) (h : Cancelled Connection.Proper token s w) :
    ∃ e, (e = .interrupted ↔ Passes w.state.files (s.request w).1) ∧
      w.BackendUntouched (s.request w).2 ∧
      Stream.connect (backendOver t) s w = ⟨.error (.ofConnect s.url e), s, (s.request w).2⟩ := by
  have huntouched := backendUntouched_request h.cookies w
  obtain ⟨hworld, e, hanswer, hpasses⟩ := connect_of_fired t h.request
  rw [huntouched.state] at hpasses
  refine ⟨e, hpasses, huntouched, ?_⟩
  rw [connect_of_refusal (B := backendOver t) hanswer]
  show Outcome.mk _ _ (Http.connect t (s.request w).1 (s.request w).2).world = _
  rw [hworld]

theorem ControlAfterCancel.unmoved {request : ControlRequest} (h : request ≠ .reconnect)
    {result : ControlResult} : ControlAfterCancel t s w request ⟨result, s, w⟩ := by
  show ControlAfterCancel t s w request ⟨result, { s with differ := s.differ }, w⟩
  exact .answered h

theorem controlAfterCancel (t : Transport) (h : Cancelled Connection.Proper token s w)
    (request : ControlRequest) :
    ControlAfterCancel t s w request (s.control (backendOver t) request w) := by
  cases request with
  | size =>
    obtain ⟨result, hcall⟩ := exists_call_eq (s := s) (w := w)
      (f := (backendOver t : Backend (Server τ) Connection).size) (fun _ _ => ⟨_, rfl⟩) .unsupported
      sizeView
    rw [Stream.control, hcall]
    exact .unmoved (by simp)
  | seekTime target =>
    obtain ⟨result, hcall⟩ := exists_call_eq (s := s) (w := w)
      (f := fun c w => (backendOver t : Backend (Server τ) Connection).seekTime c target w)
      (fun _ _ => ⟨_, rfl⟩) .unsupported seekTimeView
    rw [Stream.control, hcall]
    exact .unmoved (by simp)
  | tags =>
    show ControlAfterCancel t s w _ (s.pollTags (backendOver t) w)
    cases hconn : s.conn with
    | none =>
      rw [pollTags_of_none hconn]
      exact .unmoved (by simp)
    | some c =>
      rw [pollTags_of_conn hconn]
      show ControlAfterCancel t s w _ ⟨_, { s with conn := some c, differ := _ }, w⟩
      rw [← hconn]
      exact .answered (by simp)
  | reconnect =>
    show ControlAfterCancel t s w _ (s.reconnect (backendOver t) w)
    cases hmode : s.mode with
    | write =>
      rw [reconnect_of_write hmode]
      exact .refused hmode
    | read =>
      have hclosed : s.close (backendOver t) w = w := by
        unfold Stream.close release
        cases s.conn <;> rfl
      have hempty : Cancelled Connection.Proper token (s.emptied (backendOver t) w) w :=
        ⟨h.cancel, h.cookies, fun c hc => absurd hc (by simp [emptied, release]), h.cancelled⟩
      obtain ⟨e, hpasses, huntouched, hconnect⟩ := connect_of_cancelled t hempty
      rw [reconnect_eq hmode, hclosed, hconnect]
      exact .disconnected hmode hpasses huntouched

theorem openAfterCancel (t : Transport) {config : Config} {cookies : CookieProvider (Server τ)}
    (hcancel : config.cancel = some token) (hcookies : cookies.LeavesBackendAlone)
    (hcancelled : w.signals.isCancelled token = true) (address : String) (mode : Mode) :
    OpenAfterCancel w config cookies address mode
      (Stream.openAt (backendOver t) config cookies address mode w) := by
  cases haddress : Address.normalize address with
  | error e =>
    unfold Stream.openAt
    rw [haddress]
    exact .rejected haddress
  | ok target =>
    cases target with
    | delegate hint =>
      unfold Stream.openAt
      rw [haddress]
      exact .delegated haddress
    | openAt url =>
      have hfresh : Cancelled Connection.Proper token
          (Origin.stream ⟨config, cookies, url, mode⟩ : Stream (Server τ) Connection) w :=
        ⟨hcancel, hcookies, fun c hc => absurd hc (by simp [Origin.stream]), hcancelled⟩
      obtain ⟨e, hpasses, huntouched, hconnect⟩ := connect_of_cancelled t hfresh
      unfold Origin.stream at hconnect
      unfold Stream.openAt
      rw [haddress]
      dsimp only
      rw [hconnect]
      exact .failed haddress rfl hpasses huntouched

/-! ## A run of actions -/

/-- The payload of what is pending on the connection of a stream. -/
def unread (s : Stream (Server τ) Connection) : Bytes :=
  match s.conn with
  | none => []
  | some c => c.unread

theorem unread_of_conn {c : Connection} (h : s.conn = some c) : s.unread = c.unread := by
  rw [unread, h]

/-- No request was sent and no chunk was taken off a body, and what was given to readers is the
beginning of the payload that was pending. -/
structure OnlyPending (s : Stream (Server τ) Connection) (w : World (Server τ)) (given : Bytes)
    (s' : Stream (Server τ) Connection) (w' : World (Server τ)) : Prop where
  untouched : w.BackendUntouched w'
  body : ∀ c', s'.conn = some c' →
    ∃ c, s.conn = some c ∧ (c'.body = c.body ∨ c'.body = none)
  given : given ++ s'.unread <+: s.unread

/-- Where connection and server are left alone nothing happens. -/
theorem onlyPending_of_conn {s' : Stream (Server τ) Connection} {w' : World (Server τ)}
    (hconn : s'.conn = s.conn) (huntouched : w.BackendUntouched w') : OnlyPending s w [] s' w' where
  untouched := huntouched
  body c' hc' := ⟨c', hconn ▸ hc', .inl rfl⟩
  given := by
    unfold unread
    rw [hconn]
    exact List.prefix_refl _

/-- A connection that was given up has no bytes to give. -/
theorem onlyPending_of_none {s' : Stream (Server τ) Connection} {w' : World (Server τ)}
    (hconn : s'.conn = none) (huntouched : w.BackendUntouched w') : OnlyPending s w [] s' w' where
  untouched := huntouched
  body c' hc' := by
    rw [hconn] at hc'
    exact absurd hc' (by simp)
  given := by
    rw [unread, hconn]
    exact List.nil_prefix

theorem OnlyPending.trans {s' s'' : Stream (Server τ) Connection} {w' w'' : World (Server τ)}
    {first second : Bytes} (h : OnlyPending s w first s' w')
    (h' : OnlyPending s' w' second s'' w'') :
    OnlyPending s w (first ++ second) s'' w'' where
  untouched := h.untouched.trans h'.untouched
  body := by
    intro c'' hc''
    obtain ⟨c', hc', hlater⟩ := h'.body c'' hc''
    obtain ⟨c, hc, hearlier⟩ := h.body c' hc'
    refine ⟨c, hc, ?_⟩
    -- A body that has ended stays ended, and one that was left alone may end later.
    rcases hlater with hsame | hnone
    · rcases hearlier with hsame' | hnone
      · exact .inl (hsame.trans hsame')
      · exact .inr (hsame.trans hnone)
    · exact .inr hnone
  given := by
    rw [List.append_assoc]
    exact ((List.prefix_append_right_inj first).2 h'.given).trans h.given

/-- With no room for bytes nothing happens. -/
theorem read_zero (t : Transport) (s : Stream (Server τ) Connection) (w : World (Server τ)) :
    ∃ e, s.read (backendOver t) 0 w = ⟨.error e, s, w⟩ := by
  cases hconn : s.conn with
  | none => exact ⟨_, call_of_none hconn ..⟩
  | some c => exact ⟨.eof, call_of_unmoved hconn rfl ..⟩

/-- A connection that has nothing to give any more, and whose body was left alone or has ended. -/
theorem onlyPending_of_empty {c c' : Connection} (hconn : s.conn = some c)
    (hbody : c'.body = c.body ∨ c'.body = none) (hempty : c'.unread = []) :
    OnlyPending s w [] { s with conn := some c' } w where
  untouched := w.backendUntouched_refl
  body := by
    rintro _ ⟨rfl⟩
    exact ⟨c, hconn, hbody⟩
  given := by
    rw [unread_of_conn (c := c') rfl, hempty]
    exact List.nil_prefix

/-- A read gives pending payload or nothing. -/
theorem onlyPending_read (t : Transport) (h : Cancelled Connection.Proper token s w) (n : Nat) :
    OnlyPending s w (s.act (backendOver t) w (.read n)).result.bytes
      (s.act (backendOver t) w (.read n)).stream (s.act (backendOver t) w (.read n)).world := by
  rcases Nat.eq_zero_or_pos n with rfl | hn
  · obtain ⟨e, hread⟩ := read_zero t s w
    have hact : s.act (backendOver t) w (.read 0) = ⟨.read (.error e), s, w⟩ :=
      congrArg (Outcome.map ActionResult.read) hread
    rw [hact]
    exact onlyPending_of_conn rfl w.backendUntouched_refl
  · have hstops := readAfterCancel t h hn
    have hact : s.act (backendOver t) w (.read n) =
        (s.read (backendOver t) n w).map ActionResult.read := rfl
    generalize s.read (backendOver t) n w = read at hstops hact
    rw [hact]
    cases hstops with
    | @pending c c' bytes hconn _ _ hunread hbody =>
      refine ⟨w.backendUntouched_refl, ?_, ?_⟩
      · rintro _ ⟨rfl⟩
        exact ⟨c, hconn, .inl hbody⟩
      · rw [unread_of_conn hconn, hunread]
        exact List.prefix_refl _
    | ended hconn _ _ hempty hbody => exact onlyPending_of_empty hconn (.inr hbody) hempty
    | interrupted hconn _ _ hempty hbody => exact onlyPending_of_empty hconn (.inl hbody) hempty
    | noConnection _ => exact onlyPending_of_conn rfl w.backendUntouched_refl

theorem SeekAfterCancel.onlyPending {pos : Nat}
    {o : Outcome (Server τ) Connection (Except StreamError Unit)} (h : SeekAfterCancel s w pos o) :
    OnlyPending s w [] o.stream o.world := by
  cases h with
  | toSize hconn _ _ => exact onlyPending_of_empty hconn (.inr rfl) (payloadOf_nil _)
  | _ => exact onlyPending_of_conn rfl w.backendUntouched_refl

theorem ControlAfterCancel.onlyPending {request : ControlRequest}
    {o : Outcome (Server τ) Connection ControlResult} (h : ControlAfterCancel t s w request o) :
    OnlyPending s w [] o.stream o.world := by
  cases h with
  | answered _ => exact onlyPending_of_conn rfl w.backendUntouched_refl
  | refused _ => exact onlyPending_of_conn rfl w.backendUntouched_refl
  | disconnected _ _ huntouched => exact onlyPending_of_none rfl huntouched

/-- **Every action gives pending payload or nothing.** -/
theorem onlyPending_act (t : Transport) (h : Cancelled Connection.Proper token s w)
    {action : Action (Server τ)} (haction : action.UsesToken token) :
    OnlyPending s w (s.act (backendOver t) w action).result.bytes
      (s.act (backendOver t) w action).stream (s.act (backendOver t) w action).world := by
  cases action with
  | read n => exact onlyPending_read t h n
  | write data =>
    obtain ⟨result, hwrite⟩ := exists_call_eq (s := s) (w := w)
      (f := fun c w => (backendOver t : Backend (Server τ) Connection).writeThrough c data w)
      (fun _ _ => ⟨_, rfl⟩) (.error (.noConnection .write))
      (Except.mapError (StreamError.ofBackend .write))
    have ho : s.act (backendOver t) w (.write data) = ⟨.written result, s, w⟩ :=
      congrArg (Outcome.map ActionResult.written) hwrite
    rw [ho]
    exact onlyPending_of_conn rfl w.backendUntouched_refl
  | seek pos => exact (seekAfterCancel t h pos).onlyPending
  | control request => exact (controlAfterCancel t h request).onlyPending
  | openAt address mode config cookies =>
    have hstops := openAfterCancel t haction.1 haction.2 h.cancelled address mode
    have ho : s.act (backendOver t) w (.openAt address mode config cookies) =
        ⟨.opened (Stream.openAt (backendOver t) config cookies address mode w).1, s,
          (Stream.openAt (backendOver t) config cookies address mode w).2⟩ := rfl
    generalize Stream.openAt (backendOver t) config cookies address mode w = opened at hstops ho
    rw [ho]
    cases hstops with
    | rejected _ => exact onlyPending_of_conn rfl w.backendUntouched_refl
    | delegated _ => exact onlyPending_of_conn rfl w.backendUntouched_refl
    | failed _ _ _ huntouched => exact onlyPending_of_conn rfl huntouched
  | signal now => exact onlyPending_of_conn rfl (w.backendUntouched_signal now)

theorem onlyPending_actAll (t : Transport) (h : Cancelled Connection.Proper token s w)
    {actions : List (Action (Server τ))} (hactions : ∀ action ∈ actions, action.UsesToken token) :
    let o := actAll (backendOver t) s w actions
    Cancelled Connection.Proper token o.stream o.world ∧
      OnlyPending s w (o.result.flatMap ActionResult.bytes) o.stream o.world := by
  induction actions generalizing s w with
  | nil => exact ⟨h, onlyPending_of_conn rfl w.backendUntouched_refl⟩
  | cons action actions ih =>
    obtain ⟨haction, hlater⟩ := List.forall_mem_cons.1 hactions
    have hnow := onlyPending_act t h haction
    have hnext := h.act (Connection.upholds_proper t) action
        (hnow.untouched.isCancelled h.cancelled)
    obtain ⟨hlast, hrest⟩ := ih hnext hlater
    simp only [actAll, List.flatMap_cons]
    exact ⟨hlast, hnow.trans hrest⟩

end Stream

end ByteStream
