/-
# ByteStream.Proofs.Stream.History -- the streams that can occur

A stream occurs if it was opened at an address, or if a command was carried out on a stream that
occurs. The world may be another one each time: other streams over the same backend, signals and
servers may have changed it meanwhile.

What a stream was opened with -- its configuration, its cookies, the URL that the address turned
out to be, its mode -- never changes (`Reached.origin`).
-/

import ByteStream.Proofs.Stream.Simulation

namespace ByteStream.Stream

variable {σ κ α β : Type} {B : Backend σ κ}

/-! ## Calls and connections -/

theorem call_of_conn {s : Stream σ κ} {c : κ} (h : s.conn = some c) (w : World σ) (absent : α)
    (f : κ → World σ → Reply σ κ β) (view : Except BackendError β → α) :
    s.call w absent f view =
      ⟨view (f c w).answer, { s with conn := some (f c w).conn }, (f c w).world⟩ := by
  unfold call
  rw [h]

theorem call_of_none {s : Stream σ κ} (h : s.conn = none) (w : World σ) (absent : α)
    (f : κ → World σ → Reply σ κ β) (view : Except BackendError β → α) :
    s.call w absent f view = ⟨absent, s, w⟩ := by
  unfold call
  rw [h]

/-- A call that leaves its connection and the world alone leaves the stream alone. -/
theorem call_of_unmoved {s : Stream σ κ} {c : κ} (h : s.conn = some c) {w : World σ}
    {f : κ → World σ → Reply σ κ β} {answer : Except BackendError β}
    (hf : f c w = ⟨answer, c, w⟩) (absent : α) (view : Except BackendError β → α) :
    s.call w absent f view = ⟨view answer, s, w⟩ := by
  rw [call_of_conn h, hf, ← h]

theorem exists_call_eq {s : Stream σ κ} {w : World σ} {f : κ → World σ → Reply σ κ β}
    (hf : ∀ c, s.conn = some c → ∃ answer, f c w = ⟨answer, c, w⟩) (absent : α)
    (view : Except BackendError β → α) : ∃ result, s.call w absent f view = ⟨result, s, w⟩ := by
  cases hconn : s.conn with
  | none => exact ⟨absent, call_of_none hconn ..⟩
  | some c =>
    obtain ⟨answer, hanswer⟩ := hf c hconn
    exact ⟨view answer, call_of_unmoved hconn hanswer ..⟩

/-- The control result for what a poll of the metadata finds. -/
def newsView : Option Tags → ControlResult
  | some tags => .success (.tags tags)
  | none => .unsupported

theorem pollTags_of_conn {s : Stream σ κ} {c : κ} (h : s.conn = some c) (w : World σ) :
    s.pollTags B w =
      let shown := B.icyFields c w
      let polled := s.differ.poll shown.1
      ⟨newsView polled.1, { s with conn := some shown.2, differ := polled.2 }, w⟩ := by
  unfold pollTags
  rw [h]
  cases hpoll : s.differ.poll (B.icyFields c w).1 with
  | mk news differ =>
    cases news with
    | none => simp only [hpoll, newsView]
    | some tags => simp only [hpoll, newsView]

theorem pollTags_of_none {s : Stream σ κ} (h : s.conn = none) (w : World σ) :
    s.pollTags B w = ⟨.unsupported, s, w⟩ := by
  unfold pollTags
  rw [h]

/-- A poll finds news or is not supported. -/
theorem exists_result_pollTags (B : Backend σ κ) (s : Stream σ κ) (w : World σ) :
    ∃ news, (s.pollTags B w).result = newsView news := by
  cases hconn : s.conn with
  | none =>
    rw [pollTags_of_none hconn]
    exact ⟨none, rfl⟩
  | some c =>
    rw [pollTags_of_conn hconn]
    exact ⟨_, rfl⟩

/-- What the backend is handed when a stream connects, and the world that it is handed in. -/
def request (s : Stream σ κ) (w : World σ) : ConnectRequest × World σ :=
  let (options, w) := ConnectOptions.build s.config s.mode s.cookies w
  (⟨s.url, s.mode, options, Interrupt.ofToken? s.config.cancel⟩, w)

theorem request_of_build {s : Stream σ κ} {w v : World σ} {options : ConnectOptions}
    (h : ConnectOptions.build s.config s.mode s.cookies w = (options, v)) :
    s.request w = (⟨s.url, s.mode, options, Interrupt.ofToken? s.config.cancel⟩, v) := by
  unfold request
  rw [h]

/-- The stream with the connection it asked for. -/
def install (B : Backend σ κ) (s : Stream σ κ) (c : κ) (w : World σ) : Stream σ κ :=
  { s with
    conn := some c
    seekable := B.isSeekable c w
    mimeType := B.mimeType c w
    hint := DemuxerHint.forOpened s.url }

/-- Connecting sends that request, once, and takes over the connection that it gives. -/
theorem connect_eq (s : Stream σ κ) (w : World σ) :
    Stream.connect B s w =
      let connected := B.connect (s.request w).1 (s.request w).2
      match connected.answer with
      | .error e => ⟨.error (.ofConnect s.url e), s, connected.world⟩
      | .ok c => ⟨.ok (), s.install B c connected.world, connected.world⟩ := rfl

/-- A request that is answered by a connection leaves the stream with it. -/
theorem connect_of_answer {s : Stream σ κ} {w : World σ} {c : κ}
    (h : (B.connect (s.request w).1 (s.request w).2).answer = .ok c) :
    Stream.connect B s w =
      ⟨.ok (), s.install B c (B.connect (s.request w).1 (s.request w).2).world,
        (B.connect (s.request w).1 (s.request w).2).world⟩ := by
  rw [connect_eq]
  dsimp only
  rw [h]

/-- A request that is refused leaves the stream as it is. -/
theorem connect_of_refusal {s : Stream σ κ} {w : World σ} {e : BackendError}
    (h : (B.connect (s.request w).1 (s.request w).2).answer = .error e) :
    Stream.connect B s w =
      ⟨.error (.ofConnect s.url e), s, (B.connect (s.request w).1 (s.request w).2).world⟩ := by
  rw [connect_eq]
  dsimp only
  rw [h]

/-- A stream that failed to connect is as it was. -/
theorem stream_of_connect_error {s : Stream σ κ} {w : World σ} {e : StreamError}
    (h : (Stream.connect B s w).result = .error e) : (Stream.connect B s w).stream = s := by
  cases hanswer : (B.connect (s.request w).1 (s.request w).2).answer with
  | error cause => rw [connect_of_refusal hanswer]
  | ok c =>
    rw [connect_of_answer hanswer] at h
    exact absurd h (by simp)

/-- A stream that has connected has the connection that its request was answered with. -/
theorem connected_of_connect {s t : Stream σ κ} {w w' : World σ}
    (h : Stream.connect B s w = ⟨.ok (), t, w'⟩) :
    ∃ c, (B.connect (s.request w).1 (s.request w).2).answer = .ok c ∧
      (B.connect (s.request w).1 (s.request w).2).world = w' ∧ t = s.install B c w' := by
  rw [connect_eq] at h
  dsimp only at h
  split at h
  · exact absurd h (by simp)
  · rename_i c hanswer
    simp only [Outcome.mk.injEq, true_and] at h
    obtain ⟨hstream, hworld⟩ := h
    exact ⟨c, hanswer, hworld, by rw [← hworld, hstream]⟩

/-! ## What a stream was opened with -/

/-- All that a stream needs to connect again. -/
structure Origin (σ : Type) where
  config : Config
  cookies : CookieProvider σ
  url : String
  mode : Mode

/-- The stream that opening starts with, before it has a connection. -/
def Origin.stream (o : Origin σ) : Stream σ κ :=
  { config := o.config, cookies := o.cookies, url := o.url, mode := o.mode }

/-- What the stream was opened with. -/
def origin (s : Stream σ κ) : Origin σ := ⟨s.config, s.cookies, s.url, s.mode⟩

@[simp] theorem origin_call (s : Stream σ κ) (w : World σ) (absent : α)
    (f : κ → World σ → Reply σ κ β) (view : Except BackendError β → α) :
    (s.call w absent f view).stream.origin = s.origin := by
  unfold call
  split <;> rfl

@[simp] theorem origin_connect (s : Stream σ κ) (w : World σ) :
    (Stream.connect B s w).stream.origin = s.origin := by
  simp only [Stream.connect]
  split <;> rfl

theorem origin_pollTags (s : Stream σ κ) (w : World σ) :
    (s.pollTags B w).stream.origin = s.origin := by
  unfold pollTags
  split
  · rfl
  · dsimp only
    split <;> rfl

theorem origin_reconnect (s : Stream σ κ) (w : World σ) :
    (s.reconnect B w).stream.origin = s.origin := by
  unfold reconnect
  split
  · rfl
  · dsimp only
    split <;> exact origin_connect _ _

theorem origin_seek (s : Stream σ κ) (pos : Nat) (w : World σ) :
    (s.seek B pos w).stream.origin = s.origin := by
  unfold Stream.seek
  split
  · exact origin_call ..
  · rfl

theorem origin_control (s : Stream σ κ) (request : ControlRequest) (w : World σ) :
    (s.control B request w).stream.origin = s.origin := by
  cases request with
  | size => exact origin_call ..
  | seekTime seek => exact origin_call ..
  | tags => exact origin_pollTags s w
  | reconnect => exact origin_reconnect s w

/-- No command changes what the stream was opened with. -/
theorem origin_perform (s : Stream σ κ) (w : World σ) (command : Command) :
    (s.perform B w command).stream.origin = s.origin := by
  refine perform_keeps (P := fun t _ => t.origin = s.origin) ?_ ?_ ?_ ?_ rfl command
  · intro t v ht n
    exact (origin_call ..).trans ht
  · intro t v ht data
    exact (origin_call ..).trans ht
  · intro t v ht pos
    exact (origin_seek t pos v).trans ht
  · intro t v ht request
    exact (origin_control t request v).trans ht

/-! ## Streams that occur -/

/-- The stream was opened so, and then had any history in any worlds. -/
inductive Reached (B : Backend σ κ) (config : Config) (cookies : CookieProvider σ)
    (address : String) (mode : Mode) : Stream σ κ → Prop
  | opened {w w' : World σ} {s : Stream σ κ} :
      Stream.openAt B config cookies address mode w = (.ok (.stream s), w') →
      Reached B config cookies address mode s
  | performed {s : Stream σ κ} (w : World σ) (command : Command) :
      Reached B config cookies address mode s →
      Reached B config cookies address mode (s.perform B w command).stream

variable {config : Config} {cookies : CookieProvider σ} {address : String} {mode : Mode}
  {s : Stream σ κ}

/-- Opening the address of a byte stream is connecting to its URL. -/
theorem openAt_eq {url : String} (hurl : Address.normalize address = .ok (.openAt url))
    (w : World σ) :
    Stream.openAt B config cookies address mode w =
      let opened := Stream.connect B (Origin.stream ⟨config, cookies, url, mode⟩) w
      (opened.result.map fun _ => .stream opened.stream, opened.world) := by
  unfold Stream.openAt Origin.stream
  rw [hurl]
  dsimp only
  generalize Stream.connect B { config, cookies, url, mode } w = opened
  obtain ⟨result, stream, world⟩ := opened
  cases result with
  | ok _ => rfl
  | error e => rfl

/-- An opened stream is one that has just connected to the URL of its address. -/
theorem connected_of_openAt {w w' : World σ}
    (h : Stream.openAt B config cookies address mode w = (.ok (.stream s), w')) :
    ∃ url, Address.normalize address = .ok (.openAt url) ∧
      Stream.connect B (Origin.stream ⟨config, cookies, url, mode⟩) w = ⟨.ok (), s, w'⟩ := by
  unfold Stream.openAt at h
  split at h
  · exact absurd h (by simp)
  · exact absurd h (by simp)
  · rename_i url hurl
    refine ⟨url, hurl, ?_⟩
    dsimp only at h
    split at h
    · rename_i hok
      simp only [Prod.mk.injEq, Except.ok.injEq, Opened.stream.injEq] at h
      unfold Origin.stream
      rw [← h.1, ← h.2, ← hok]
    · exact absurd h (by simp)

/-- What connects to the URL of an address is what opening the address gives. -/
theorem openAt_of_connect {url : String} (hurl : Address.normalize address = .ok (.openAt url))
    {w w' : World σ}
    (h : Stream.connect B (Origin.stream ⟨config, cookies, url, mode⟩) w = ⟨.ok (), s, w'⟩) :
    Stream.openAt B config cookies address mode w = (.ok (.stream s), w') := by
  rw [openAt_eq hurl, h]
  rfl

/-- A stream that occurs still has what it was opened with. -/
theorem Reached.origin (h : Reached B config cookies address mode s) :
    ∃ url, Address.normalize address = .ok (.openAt url) ∧
      s.origin = ⟨config, cookies, url, mode⟩ := by
  induction h with
  | @opened w _ _ hopen =>
    obtain ⟨url, hurl, hconnect⟩ := connected_of_openAt hopen
    refine ⟨url, hurl, ?_⟩
    have horigin := origin_connect (B := B) (Origin.stream ⟨config, cookies, url, mode⟩) w
    rwa [hconnect] at horigin
  | performed w command _ ih =>
    obtain ⟨url, hurl, horigin⟩ := ih
    exact ⟨url, hurl, (origin_perform _ w command).trans horigin⟩

end ByteStream.Stream
