/-
# ByteStream.Proofs.Stream.Actions -- what may be done once a token has been cancelled

An action is an operation on a stream, an attempt to open another one, or a signal from outside.
After the token of a stream has been cancelled, actions that open streams are to use the same token
(`Action.UsesToken`), and the cookie providers that are asked on the way are to leave the state of
the backend alone and to send no requests (`CookieProvider.LeavesBackendAlone`). Where an action
does not get to the backend, the state is as it was and no request was sent
(`World.BackendUntouched`).
-/

import ByteStream.Proofs.Cancellation
import ByteStream.Proofs.Stream.Connections

namespace ByteStream

variable {σ κ : Type}

/-! ## Worlds in which the backend was left alone -/

/-- A server was sent a request. -/
def Call.isRequest : Call → Bool
  | .request _ _ _ => true
  | _ => false

namespace World

/-- The requests that were sent, newest first. -/
def requests (w : World σ) : List Call := w.journal.filter Call.isRequest

/-- The state is as it was, no request was sent, and of signals some may have come. -/
structure BackendUntouched (w w' : World σ) : Prop where
  state : w'.state = w.state
  requests : w'.requests = w.requests
  signals : ∃ came : List Signal, w'.signals = came.foldl Signals.apply w.signals

theorem backendUntouched_refl (w : World σ) : w.BackendUntouched w := ⟨rfl, rfl, [], rfl⟩

theorem backendUntouched_signal (w : World σ) (now : Signal) : w.BackendUntouched (w.signal now) :=
  ⟨rfl, rfl, [now], rfl⟩

variable {w w' w'' : World σ}

theorem BackendUntouched.trans (h : w.BackendUntouched w') (h' : w'.BackendUntouched w'') :
    w.BackendUntouched w'' := by
  obtain ⟨first, hfirst⟩ := h.signals
  obtain ⟨second, hsecond⟩ := h'.signals
  refine ⟨h'.state.trans h.state, h'.requests.trans h.requests, first ++ second, ?_⟩
  rw [hsecond, hfirst, List.foldl_append]

theorem BackendUntouched.isCancelled (h : w.BackendUntouched w') {token : Token}
    (hcancelled : w.signals.isCancelled token = true) : w'.signals.isCancelled token = true := by
  obtain ⟨came, hcame⟩ := h.signals
  rw [hcame]
  exact Signals.isCancelled_foldl hcancelled came

end World

/-- Asking the provider is no concern of the backend. -/
def CookieProvider.LeavesBackendAlone (p : CookieProvider σ) : Prop :=
  ∀ file (w : World σ), w.BackendUntouched (p.ask file w).2

theorem CookieProvider.leavesBackendAlone_none :
    (CookieProvider.none : CookieProvider σ).LeavesBackendAlone :=
  fun _ w => w.backendUntouched_refl

namespace Stream

variable {B : Backend σ κ} {K : Interrupt → κ → Prop} {s : Stream σ κ} {w : World σ}
  {token : Token}

/-- Only the provider is asked before a backend gets its request. -/
theorem backendUntouched_request (h : s.cookies.LeavesBackendAlone) (w : World σ) :
    w.BackendUntouched (s.request w).2 := by
  unfold request ConnectOptions.build
  cases ConnectOptions.cookieQuestion s.config with
  | none => exact w.backendUntouched_refl
  | some file => exact h file w

/-! ## Actions -/

/-- Something that is done with a stream or beside it. -/
inductive Action (σ : Type)
  | read (n : Nat)
  | write (data : Bytes)
  | seek (pos : Nat)
  | control (request : ControlRequest)
  | openAt (address : String) (mode : Mode) (config : Config) (cookies : CookieProvider σ)
  | signal (now : Signal)

/-- What comes of an action. -/
inductive ActionResult (σ κ : Type)
  | read (r : Except StreamError Bytes)
  | written (r : Except StreamError Nat)
  | sought (r : Except StreamError Unit)
  | controlled (r : ControlResult)
  | opened (r : Except StreamError (Opened σ κ))
  | signalled

/-- Carries an action out. A stream that is opened is another one. -/
def act (B : Backend σ κ) (s : Stream σ κ) (w : World σ) : Action σ → Outcome σ κ (ActionResult σ κ)
  | .read n => (s.read B n w).map .read
  | .write data => (s.write B data w).map .written
  | .seek pos => (s.seek B pos w).map .sought
  | .control request => (s.control B request w).map .controlled
  | .openAt address mode config cookies =>
    let opened := Stream.openAt B config cookies address mode w
    ⟨.opened opened.1, s, opened.2⟩
  | .signal now => ⟨.signalled, s, w.signal now⟩

/-- Carries actions out one after the other. -/
def actAll (B : Backend σ κ) (s : Stream σ κ) (w : World σ) :
    List (Action σ) → Outcome σ κ (List (ActionResult σ κ))
  | [] => ⟨[], s, w⟩
  | action :: actions =>
    let now := s.act B w action
    let later := actAll B now.stream now.world actions
    ⟨now.result :: later.result, later.stream, later.world⟩

/-- The bytes that a reader was given. -/
def ActionResult.bytes : ActionResult σ κ → Bytes
  | .read (.ok bytes) => bytes
  | _ => []

/-- The action opens streams only with this token, and with a provider that leaves the backend
alone. -/
def Action.UsesToken (token : Token) : Action σ → Prop
  | .openAt _ _ config cookies => config.cancel = some token ∧ cookies.LeavesBackendAlone
  | _ => True

/-! ## Streams whose token has been cancelled -/

/-- The token of the stream has been cancelled. -/
structure Cancelled (K : Interrupt → κ → Prop) (token : Token) (s : Stream σ κ) (w : World σ) :
    Prop where
  cancel : s.config.cancel = some token
  cookies : s.cookies.LeavesBackendAlone
  carries : s.Carries K
  cancelled : w.signals.isCancelled token = true

theorem Reached.cancelled (hB : B.Upholds K) {config : Config} {cookies : CookieProvider σ}
    {address : String} {mode : Mode} (h : Reached B config cookies address mode s)
    (htoken : config.cancel = some token) (hcookies : cookies.LeavesBackendAlone)
    (hcancelled : w.signals.isCancelled token = true) : Cancelled K token s w := by
  obtain ⟨url, -, horigin⟩ := h.origin
  have hconfig : s.config = config := congrArg Origin.config horigin
  have hprovider : s.cookies = cookies := congrArg Origin.cookies horigin
  exact ⟨by rw [hconfig, htoken], by rw [hprovider]; exact hcookies, h.carries hB, hcancelled⟩

/-- The interrupt of its connection has fired for good. -/
theorem Cancelled.conn (h : Cancelled K token s w) {c : κ} (hconn : s.conn = some c) :
    K (.ofToken token) c ∧ (Interrupt.ofToken token).Fired w.signals := by
  have hK := h.carries c hconn
  rw [h.cancel] at hK
  exact ⟨hK, token, rfl, h.cancelled⟩

/-- So has the interrupt of every request that it makes. -/
theorem Cancelled.request (h : Cancelled K token s w) :
    (s.request w).1.interrupt.Fired (s.request w).2.signals := by
  refine ⟨token, ?_, (backendUntouched_request h.cookies w).isCancelled h.cancelled⟩
  show Interrupt.ofToken? s.config.cancel = _
  rw [h.cancel]
  rfl

/-- An action leaves the stream so, if no signal is lost. -/
theorem Cancelled.act (hB : B.Upholds K) (h : Cancelled K token s w) (action : Action σ)
    (hsignals : (s.act B w action).world.signals.isCancelled token = true) :
    Cancelled K token (s.act B w action).stream (s.act B w action).world := by
  -- An operation leaves alone what the stream was opened with; the other actions, all of it.
  have hperformed : ∀ command : Command,
      (s.perform B w command).stream.config = s.config ∧
        (s.perform B w command).stream.cookies = s.cookies ∧
        (s.perform B w command).stream.Carries K := by
    intro command
    have horigin := origin_perform (B := B) s w command
    exact ⟨congrArg Origin.config horigin, congrArg Origin.cookies horigin,
      h.carries.perform hB w command⟩
  have hstream : (s.act B w action).stream.config = s.config ∧
      (s.act B w action).stream.cookies = s.cookies ∧ (s.act B w action).stream.Carries K := by
    cases action with
    | read n => exact hperformed (.read n)
    | write data => exact hperformed (.write data)
    | seek pos => exact hperformed (.seek pos)
    | control request => exact hperformed (.control request)
    | openAt address mode config cookies => exact ⟨rfl, rfl, h.carries⟩
    | signal now => exact ⟨rfl, rfl, h.carries⟩
  obtain ⟨hconfig, hcookies, hcarries⟩ := hstream
  exact ⟨by rw [hconfig, h.cancel], by rw [hcookies]; exact h.cookies, hcarries, hsignals⟩

end Stream

end ByteStream
