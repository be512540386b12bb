/-
# ByteStream.Proofs.Http.Requests -- which requests a stream over HTTP sends

What is sent is settled by what a stream is asked to do, and by the redirects that a server answers
with. Before anything is sent a request is checked: a check fails, for one of seven reasons
(`CheckFails`), or there is a plan, which says the URL and the base fields (`Planned`). A stream
asks for the whole when it is opened and when it connects again, for the part from a position on
when it can seek and goes there, unless that is the size, and for nothing otherwise (`asks`). Every
first request follows the one plan that opening the stream followed, and a first request for a part
has the fields of one for the whole and one more (`part_asked_with_one_more`). Each is followed
along its trail, which is one exchange where nothing is redirected.

Nobody cancels the token of the stream here, no certificate file is named, and the cookie provider
always gives the same answer.
-/

import ByteStream.Proofs.Http.Interruption
import ByteStream.Proofs.Http.Plans
import ByteStream.Proofs.Http.Redirects

namespace ByteStream

/-! ## What is asked for -/

namespace Http

open ConnectOptions

variable {τ : Type} {T : Token → Prop} {t : Transport} {p : Plan} {i : Interrupt}
  {w w' w'' : World (Server τ)}

/-- From the one world to the other these were asked for, in this order: by the plan a first request
was sent for each and followed along its trail, and no other exchange took place. -/
def Plan.AskedFor (p : Plan) (t : Transport) (offsets : List (Option Nat))
    (w w' : World (Server τ)) : Prop :=
  ∃ trails : List (List Exchange),
    List.Forall₂ (fun offset trail => t.Trail redirectLimit (p.hop offset) trail) offsets trails ∧
      w.Sent w' trails.flatten

theorem Plan.askedFor_nothing (h : w.Sent w' []) : p.AskedFor t [] w w' := ⟨[], .nil, h⟩

theorem Plan.AskedFor.trans {offsets more : List (Option Nat)} (h : p.AskedFor t offsets w w')
    (h' : p.AskedFor t more w' w'') : p.AskedFor t (offsets ++ more) w w'' := by
  obtain ⟨trails, htrails, hsent⟩ := h
  obtain ⟨others, hothers, hlater⟩ := h'
  refine ⟨trails ++ others, List.rel_append htrails hothers, ?_⟩
  rw [List.flatten_append]
  exact hsent.trans hlater

/-- A request that can be made asks for what it is for. -/
theorem Plan.askedFor_of_send (hquiet : i.Quiet T) (hcalm : w.signals.Calm T)
    (hsendable : (requested p.url).isSendable = true) (offset : Option Nat) :
    (send t p.url p.base offset i w).2.signals.Calm T ∧
      p.AskedFor t [offset] w (send t p.url p.base offset i w).2 := by
  obtain ⟨hstill, exchanges, htrail, hsent⟩ := send_of_quiet hquiet hcalm hsendable p.base offset
  refine ⟨hstill, [exchanges], .cons htrail .nil, ?_⟩
  rwa [List.flatten_singleton]

/-! ## Connecting and seeking -/

/-- The connection sends its requests by the plan. -/
structure Connection.Follows (p : Plan) (i : Interrupt) (c : Connection) : Prop where
  url : c.url = p.url
  base : c.base = p.base
  interrupt : c.interrupt = i

theorem connect_of_checkFails (t : Transport) (request : ConnectRequest)
    (hquiet : request.interrupt.Quiet T) (hcalm : w.signals.Calm T)
    (hfile : request.options.get? caFileKey = none)
    (h : CheckFails request.url request.mode request.options) :
    (connect t request w).world = w ∧ ∃ e, (connect t request w).answer = .error e := by
  have hchecked := checked_of_checkFails hfile h w.state.files
  rw [connect_eq]
  generalize checked w.state.files request = found at hchecked
  obtain ⟨result, left⟩ := found
  obtain ⟨e, rfl⟩ | ⟨u, settings, base, rfl, hunsendable⟩ := hchecked
  · exact ⟨rfl, e, rfl⟩
  · dsimp only
    rw [send_of_unsendable hquiet hcalm hunsendable]
    exact ⟨rfl, _, rfl⟩

theorem connect_of_planned (t : Transport) (request : ConnectRequest)
    (hquiet : request.interrupt.Quiet T) (hcalm : w.signals.Calm T)
    (hfile : request.options.get? caFileKey = none)
    (h : Planned request.url request.mode request.options p) :
    (connect t request w).world.signals.Calm T ∧
      p.AskedFor t [none] w (connect t request w).world ∧
      ∀ c, (connect t request w).answer = .ok c → c.Follows p request.interrupt := by
  obtain ⟨hpasses, hsendable⟩ := h
  obtain ⟨settings, hchecked⟩ := checked_of_passes hfile hpasses w.state.files
  obtain ⟨hstill, hasked⟩ := Plan.askedFor_of_send hquiet hcalm hsendable none
  refine ⟨?_, ?_, ?_⟩
  · rw [connect_of_checked hchecked]
    exact hstill
  · rw [connect_of_checked hchecked]
    exact hasked
  · intro c hc
    obtain ⟨url, settings', base, r, hsame, -, rfl⟩ := opened_of_connect hc
    obtain ⟨rfl, -, rfl⟩ : p.url = url ∧ settings = settings' ∧ p.base = base := by
      simpa using hchecked.symm.trans hsame
    exact ⟨rfl, rfl, rfl⟩

/-- What a seek asks for: the part from there on, unless the position is the size. -/
def Connection.asksFrom (c : Connection) (pos : Nat) : List (Option Nat) :=
  if c.seekable = true ∧ c.size ≠ some pos then [some pos] else []

/-- A seek asks for that, and leaves the terms of the connection as they are. -/
theorem asked_seek {c : Connection} (h : c.Follows p i) (hquiet : i.Quiet T)
    (hcalm : w.signals.Calm T) (hsendable : (requested p.url).isSendable = true) (pos : Nat) :
    (c.seek t pos w).world.signals.Calm T ∧
      p.AskedFor t (c.asksFrom pos) w (c.seek t pos w).world := by
  rw [Connection.seek_eq, Connection.asksFrom]
  by_cases hseekable : c.seekable = true
  · rw [if_neg (by simp [hseekable])]
    by_cases hend : c.size = some pos
    · rw [if_pos hend, if_neg (by simp [hend])]
      exact ⟨hcalm, Plan.askedFor_nothing (World.sent_nothing rfl rfl)⟩
    · rw [if_neg hend, if_pos ⟨hseekable, hend⟩, h.url, h.base, h.interrupt]
      have hasked := Plan.askedFor_of_send (t := t) hquiet hcalm hsendable (some pos)
      generalize send t p.url p.base (some pos) i w = sent at hasked
      obtain ⟨answer, w'⟩ := sent
      cases answer with
      | error e => exact hasked
      | ok r => exact hasked
  · rw [if_pos hseekable, if_neg (fun hboth => hseekable hboth.1)]
    exact ⟨hcalm, Plan.askedFor_nothing (World.sent_nothing rfl rfl)⟩

/-- Whether a connection follows a plan is settled by its terms. -/
theorem Connection.Follows.congr {c c' : Connection} (h : c.Follows p i)
    (hterms : c'.terms = c.terms) : c'.Follows p i :=
  ⟨(congrArg Terms.url hterms).trans h.url, (congrArg Terms.base hterms).trans h.base,
    (congrArg Terms.interrupt hterms).trans h.interrupt⟩

theorem calm_readOn {c : Connection} (hquiet : c.interrupt.Quiet T) (hcalm : w.signals.Calm T)
    (n : Nat) : (c.readOn n w).world.signals.Calm T := by
  -- Each wait ends calmly, and the induction goes along the chunks.
  have hwait {c : Connection} (hquiet : c.interrupt.Quiet T) {w : World (Server τ)}
      (hcalm : w.signals.Calm T) (body : Body) :
      (c.interrupt.wait body.next? w.signals).2.Calm T := by
    obtain ⟨signals, hwait, hstill⟩ := hquiet.wait hcalm body.next?
    rw [hwait]
    exact hstill
  induction c, w using Connection.readOn_induct (n := n) with
  | pending c w taken _ hread =>
    rw [hread]
    exact hcalm
  | ended c w taken _ _ hread =>
    rw [hread]
    exact hcalm
  | chunk c w taken _ body _ waited w' bytes later _ hread ih =>
    rw [hread]
    refine ih ?_ (hwait hquiet hcalm body)
    have hinterrupt : taken.2.interrupt = c.interrupt := Connection.interrupt_takePending c n
    rw [hinterrupt]
    exact hquiet
  | broken _ _ _ _ body _ _ _ _ _ hread
  | lost _ _ _ _ body _ _ _ _ hread
  | failure _ _ _ _ body _ _ _ _ _ hread
  | finish _ _ _ _ body _ _ _ _ _ hread =>
    rw [hread]
    exact hwait hquiet hcalm body

/-- Reading asks for nothing. -/
theorem asked_read {c : Connection} (hquiet : c.interrupt.Quiet T) (hcalm : w.signals.Calm T)
    (n : Nat) :
    (c.read n w).world.signals.Calm T ∧ p.AskedFor t [] w (c.read n w).world := by
  rw [Connection.read_eq]
  split
  · exact ⟨hcalm, Plan.askedFor_nothing (World.sent_nothing rfl rfl)⟩
  · refine ⟨calm_readOn hquiet hcalm n, Plan.askedFor_nothing ?_⟩
    rw [Connection.world_readOn]
    exact World.sent_nothing rfl rfl

end Http

namespace Stream

open Http ConnectOptions

variable {τ : Type} (t : Transport) {answer : Option String → Option String}

/-! ## What a stream is opened with -/

/-- The options of every request, if the cookie provider answers so. -/
def answeredOptions (config : Config) (mode : Mode) (answer : Option String → Option String) :
    ConnectOptions :=
  assemble config mode ((cookieQuestion config).bind answer)

/-- The request of every attempt to connect, if the cookie provider answers so. -/
def Origin.request {σ : Type} (o : Origin σ) (answer : Option String → Option String) :
    ConnectRequest :=
  ⟨o.url, o.mode, answeredOptions o.config o.mode answer, Interrupt.ofToken? o.config.cancel⟩

/-- Nothing about the requests is left open. The cookie provider always answers so; asking it is no
concern of the backend and does not get the token cancelled. No certificate file is named. -/
structure Unvarying (config : Config) (cookies : CookieProvider (Server τ))
    (answer : Option String → Option String) : Prop where
  answers : ∀ file w, (cookies.ask file w).1 = answer file
  leavesBackendAlone : cookies.LeavesBackendAlone
  spares : cookies.Spares config.HasToken
  noFile : config.tlsCaFile = none
  notRaw : caFileKey ∉ config.backendOptions.map (·.1)

section Unvarying

variable {config : Config} {cookies : CookieProvider (Server τ)}

/-- No certificate file gets into the options. -/
theorem Unvarying.caFile (h : Unvarying config cookies answer) (mode : Mode) :
    (answeredOptions config mode answer).get? caFileKey = none := by
  unfold answeredOptions
  rw [get?_assemble, effective_of_not_raw _ _ h.notRaw]
  exact h.noFile

/-- Whatever has become of the stream and of the world, it makes one and the same request. -/
theorem Unvarying.request {s : Stream (Server τ) Connection} {w : World (Server τ)}
    (h : Unvarying s.config s.cookies answer) (hcalm : w.signals.Calm s.config.HasToken) :
    ∃ v, s.request w = (s.origin.request answer, v) ∧ v.signals.Calm s.config.HasToken ∧
      w.Sent v [] := by
  have hoptions :
      (build s.config s.mode s.cookies w).1 = answeredOptions s.config s.mode answer := by
    rw [build_eq]
    unfold offered answeredOptions
    congr 2
    funext file
    exact h.answers file w
  refine ⟨(s.request w).2, ?_, ?_, ?_⟩
  · have horigin : s.origin.request answer = (s.request w).1 := by
      show ConnectRequest.mk s.url s.mode (answeredOptions s.config s.mode answer) _ = _
      rw [← hoptions]
      rfl
    rw [horigin]
  · show (build s.config s.mode s.cookies w).2.signals.Calm _
    unfold build
    cases cookieQuestion s.config with
    | none => exact hcalm
    | some file => exact h.spares file w hcalm
  · have huntouched := backendUntouched_request h.leavesBackendAlone w
    exact World.sent_nothing huntouched.state huntouched.requests

end Unvarying

/-! ## Streams that follow a plan -/

/-- The stream was opened so and its connection, if it has one, follows the plan and can seek if
the stream can; nobody is about to cancel its token. -/
structure OnPlan (o : Origin (Server τ)) (p : Plan) (s : Stream (Server τ) Connection)
    (w : World (Server τ)) : Prop where
  origin : s.origin = o
  conn : ∀ c, s.conn = some c →
    c.Follows p (Interrupt.ofToken? o.config.cancel) ∧ c.seekable = s.seekable
  unconnected : s.conn = none → s.seekable = false
  calm : w.signals.Calm o.config.HasToken

/-- The stream still follows the plan, and has asked for this. -/
def Asked (t : Transport) (o : Origin (Server τ)) (p : Plan) (offsets : List (Option Nat))
    (w : World (Server τ)) {α : Type} (r : Outcome (Server τ) Connection α) : Prop :=
  OnPlan o p r.stream r.world ∧ p.AskedFor t offsets w r.world

section OnPlan

variable {α β : Type} {o : Origin (Server τ)} {p : Plan} {s : Stream (Server τ) Connection}
  {w : World (Server τ)}

theorem OnPlan.asked_nothing (h : OnPlan o p s w) (result : α) :
    Asked t o p [] w ⟨result, s, w⟩ :=
  ⟨h, Plan.askedFor_nothing (World.sent_nothing rfl rfl)⟩

/-- A call asks for what the call on the connection asks for. -/
theorem OnPlan.call (h : OnPlan o p s w) (absent : α)
    {f : Connection → World (Server τ) → Reply (Server τ) Connection β}
    (view : Except BackendError β → α) {offsets : List (Option Nat)}
    (hf : ∀ c, s.conn = some c → c.Follows p (Interrupt.ofToken? o.config.cancel) →
      ((f c w).world.signals.Calm o.config.HasToken ∧ p.AskedFor t offsets w (f c w).world) ∧
        (f c w).conn.terms = c.terms)
    (hnone : s.conn = none → offsets = []) :
    Asked t o p offsets w (s.call w absent f view) := by
  cases hconn : s.conn with
  | none =>
    rw [call_of_none hconn, hnone hconn]
    exact h.asked_nothing t absent
  | some c =>
    obtain ⟨hfollows, hseekable⟩ := h.conn c hconn
    obtain ⟨⟨hcalm, hasked⟩, hterms⟩ := hf c hconn hfollows
    rw [call_of_conn hconn]
    refine ⟨⟨h.origin, ?_, ?_, hcalm⟩, hasked⟩
    · intro c' hc'
      obtain rfl := Option.some.inj hc'
      exact ⟨hfollows.congr hterms, (congrArg Connection.Terms.seekable hterms).trans hseekable⟩
    · intro habsent
      exact absurd habsent (by simp)

theorem OnPlan.read (h : OnPlan o p s w) (n : Nat) :
    Asked t o p [] w (s.read (backendOver t) n w) := by
  refine h.call t _ _ ?_ (fun _ => rfl)
  intro c _ hfollows
  refine ⟨asked_read ?_ h.calm n, c.terms_read n w⟩
  rw [hfollows.interrupt]
  exact Interrupt.quiet_token o.config

/-- Neither writing nor a request for the size or a time gets past the connection. -/
theorem OnPlan.unmoved (h : OnPlan o p s w) (absent : α)
    {f : Connection → World (Server τ) → Reply (Server τ) Connection β}
    (hf : ∀ c, ∃ a, f c w = ⟨a, c, w⟩) (view : Except BackendError β → α) :
    Asked t o p [] w (s.call w absent f view) := by
  obtain ⟨result, hcall⟩ := exists_call_eq (s := s) (fun c _ => hf c) absent view
  rw [hcall]
  exact h.asked_nothing t result

theorem OnPlan.write (h : OnPlan o p s w) (data : Bytes) :
    Asked t o p [] w (s.write (backendOver t) data w) :=
  h.unmoved t _ (fun _ => ⟨.error .unsupported, rfl⟩) _

/-- What a seek asks for: the part from there on, if the stream can seek and the position is not the
size. -/
def seekAsks (s : Stream (Server τ) Connection) (pos : Nat) : List (Option Nat) :=
  if s.seekable = true ∧ s.conn.bind (·.size) ≠ some pos then [some pos] else []

theorem OnPlan.seek (hsendable : (requested p.url).isSendable = true) (h : OnPlan o p s w)
    (pos : Nat) : Asked t o p (s.seekAsks pos) w (s.seek (backendOver t) pos w) := by
  unfold Stream.seek seekAsks
  by_cases hseekable : s.seekable = true
  · rw [if_pos hseekable]
    refine h.call t _ _ ?_ ?_
    · intro c hconn hfollows
      have hasks : c.asksFrom pos =
          if s.seekable = true ∧ s.conn.bind (·.size) ≠ some pos then [some pos] else [] := by
        rw [Connection.asksFrom, (h.conn c hconn).2, hconn]
        rfl
      rw [← hasks]
      exact ⟨asked_seek hfollows (Interrupt.quiet_token o.config) h.calm hsendable pos,
        Connection.terms_seek t c pos w⟩
    · intro hconn
      rw [h.unconnected hconn] at hseekable
      exact absurd hseekable (by simp)
  · rw [if_neg hseekable, if_neg (fun hboth => hseekable hboth.1)]
    exact h.asked_nothing t _

theorem OnPlan.ioSeek (hsendable : (requested p.url).isSendable = true) (h : OnPlan o p s w)
    (pos : Nat) :
    Asked t o p (s.seekAsks pos) w (s.ioSeek (backendOver t) (.start pos) w) := by
  have hseek := h.seek t hsendable pos
  unfold Stream.ioSeek
  dsimp only
  split
  · exact hseek
  · exact hseek

theorem OnPlan.pollTags (h : OnPlan o p s w) :
    Asked t o p [] w (s.pollTags (backendOver t) w) := by
  cases hconn : s.conn with
  | none =>
    rw [pollTags_of_none hconn]
    exact h.asked_nothing t _
  | some c =>
    rw [pollTags_of_conn hconn]
    -- Only the memory of what was reported is another one.
    have hstill :
        OnPlan o p { s with conn := some c, differ := (s.differ.poll c.icyFields).2 } w := by
      rw [← hconn]
      exact ⟨h.origin, h.conn, h.unconnected, h.calm⟩
    exact hstill.asked_nothing t _

/-- Connecting asks for the whole. -/
theorem asked_connect (hfixed : Unvarying s.config s.cookies answer)
    (hplan : Planned s.url s.mode (answeredOptions s.config s.mode answer) p)
    (hconn : s.conn = none) (hseekable : s.seekable = false)
    (hcalm : w.signals.Calm s.config.HasToken) :
    Asked t s.origin p [none] w (Stream.connect (backendOver t) s w) := by
  obtain ⟨v, hrequest, hquiet, hsilent⟩ := hfixed.request hcalm
  obtain ⟨hstill, hasked, hfollows⟩ := connect_of_planned t (s.origin.request answer)
    (Interrupt.quiet_token s.config) hquiet (hfixed.caFile s.mode) hplan
  have hall := (Plan.askedFor_nothing hsilent).trans hasked
  have hconnect : (backendOver t).connect (s.request w).1 (s.request w).2 =
      Http.connect t (s.origin.request answer) v := by
    rw [hrequest]
    rfl
  rw [connect_eq, hconnect]
  generalize Http.connect t (s.origin.request answer) v = connected at hstill hall hfollows ⊢
  dsimp only
  cases hanswer : connected.answer with
  | error e =>
    refine ⟨⟨rfl, ?_, fun _ => hseekable, hstill⟩, hall⟩
    intro c hc
    rw [hconn] at hc
    exact absurd hc (by simp)
  | ok c =>
    refine ⟨⟨rfl, ?_, ?_, hstill⟩, hall⟩
    · intro c' hc'
      obtain rfl := Option.some.inj hc'
      exact ⟨hfollows c hanswer, rfl⟩
    · intro habsent
      exact absurd habsent (by simp [install])

/-- A connection is given up without a word. -/
theorem close_http (s : Stream (Server τ) Connection) (w : World (Server τ)) :
    s.close (backendOver t) w = w := by
  unfold Stream.close Stream.release
  cases s.conn with
  | none => rfl
  | some c => rfl

section Planned

variable (hfixed : Unvarying o.config o.cookies answer)
  (hplan : Planned o.url o.mode (answeredOptions o.config o.mode answer) p)

include hfixed hplan

theorem OnPlan.reconnect (h : OnPlan o p s w) :
    Asked t o p [none] w (s.reconnect (backendOver t) w) := by
  obtain rfl := h.origin
  have hmode : s.mode = .read := by
    obtain ⟨⟨_, _, _, _, -, hmode, -⟩, -⟩ := hplan
    cases hs : s.mode with
    | read => rfl
    | write => exact absurd hs hmode
  rw [reconnect_eq hmode, close_http]
  exact asked_connect t (s := s.emptied (backendOver t) w) hfixed hplan rfl rfl h.calm

theorem OnPlan.control (h : OnPlan o p s w) (request : ControlRequest) :
    Asked t o p (if request = .reconnect then [none] else []) w
      (s.control (backendOver t) request w) := by
  cases request with
  | size => exact h.unmoved t _ (fun c => ⟨.ok c.size, rfl⟩) _
  | seekTime target => exact h.unmoved t _ (fun _ => ⟨.error .unsupported, rfl⟩) _
  | tags => exact h.pollTags t
  | reconnect => exact h.reconnect t hfixed hplan

/-- What a command asks for. -/
def asks (s : Stream (Server τ) Connection) : Command → List (Option Nat)
  | .seek pos => s.seekAsks pos
  | .ioSeek (.start pos) => s.seekAsks pos
  | .control request => if request = .reconnect then [none] else []
  | _ => []

/-- A command asks for what it says, and for nothing else. -/
theorem OnPlan.perform (h : OnPlan o p s w) (command : Command) :
    Asked t o p (s.asks command) w (s.perform (backendOver t) w command) := by
  have hsendable := hplan.2
  -- Reading on and on asks for nothing, since one read does not.
  have hreading (hcommand : command.isReading = true) :
      Asked t o p [] w (s.perform (backendOver t) w command) := by
    let P (s : Stream (Server τ) Connection) (v : World (Server τ)) : Prop :=
      OnPlan o p s v ∧ p.AskedFor t [] w v
    have hread : ∀ {s v}, P s v → ∀ n,
        P (s.read (backendOver t) n v).stream (s.read (backendOver t) n v).world := by
      rintro s v ⟨hs, hnothing⟩ n
      obtain ⟨hstill, hasked⟩ := hs.read t n
      exact ⟨hstill, hnothing.trans hasked⟩
    have hstart : P s w := ⟨h, Plan.askedFor_nothing (World.sent_nothing rfl rfl)⟩
    exact reading_keeps hread hstart hcommand
  cases command with
  | read n => exact hreading rfl
  | readAll n => exact hreading rfl
  | ioRead n => exact hreading rfl
  | ioReadToEnd => exact hreading rfl
  | write data => exact h.write t data
  | ioWrite data => exact h.write t data
  | seek pos => exact h.seek t hsendable pos
  | ioSeek target =>
    cases target with
    | start pos => exact h.ioSeek t hsendable pos
    | current offset => exact h.asked_nothing t _
    | ending offset => exact h.asked_nothing t _
  | control request => exact h.control t hfixed hplan request
  | ioFlush => exact h.asked_nothing t _
  | ioPosition => exact h.asked_nothing t _
  | describe => exact h.asked_nothing t _
  | inspect => exact h.asked_nothing t _

/-! ## Runs -/

/-- A command, and what becomes of the world before it. -/
structure ScheduledCommand (τ : Type) where
  meanwhile : World (Server τ) → World (Server τ)
  command : Command

/-- Meanwhile nobody sends a request or cancels the token, or is going to cancel it. -/
def ScheduledCommand.QuietBefore (config : Config) (step : ScheduledCommand τ) : Prop :=
  ∀ w, w.signals.Calm config.HasToken →
    (step.meanwhile w).signals.Calm config.HasToken ∧ w.Sent (step.meanwhile w) []

/-- Carries the commands out one after the other, and collects what they ask for. -/
def runSteps (B : Backend (Server τ) Connection) (s : Stream (Server τ) Connection)
    (w : World (Server τ)) :
    List (ScheduledCommand τ) → Outcome (Server τ) Connection (List (Option Nat))
  | [] => ⟨[], s, w⟩
  | step :: later =>
    let now := s.perform B (step.meanwhile w) step.command
    let rest := runSteps B now.stream now.world later
    ⟨s.asks step.command ++ rest.result, rest.stream, rest.world⟩

/-- A run sends what its commands ask for. -/
theorem OnPlan.runSteps (h : OnPlan o p s w) {steps : List (ScheduledCommand τ)}
    (hsteps : ∀ step ∈ steps, step.QuietBefore o.config) :
    Asked t o p (s.runSteps (backendOver t) w steps).result w
      (s.runSteps (backendOver t) w steps) := by
  induction steps generalizing s w with
  | nil => exact h.asked_nothing t _
  | cons step later ih =>
    obtain ⟨hbefore, hlater⟩ := List.forall_mem_cons.1 hsteps
    obtain ⟨hcalm, hnothing⟩ := hbefore w h.calm
    have hmeanwhile : OnPlan o p s (step.meanwhile w) :=
      ⟨h.origin, h.conn, h.unconnected, hcalm⟩
    obtain ⟨hnow, hasked⟩ := hmeanwhile.perform t hfixed hplan step.command
    obtain ⟨hend, hrest⟩ := ih hnow hlater
    exact ⟨hend, (Plan.askedFor_nothing hnothing).trans (hasked.trans hrest)⟩

end Planned

end OnPlan

/-! ## Opening -/

section Opening

variable {config : Config} {cookies : CookieProvider (Server τ)} {address url : String}
  {mode : Mode} {w : World (Server τ)} {p : Plan}

/-- A stream is not opened where a check fails, and nothing is sent. -/
theorem openAt_of_checkFails (hfixed : Unvarying config cookies answer)
    (hurl : Address.normalize address = .ok (.openAt url))
    (hcalm : w.signals.Calm config.HasToken)
    (h : CheckFails url mode (answeredOptions config mode answer)) :
    let opened := Stream.openAt (backendOver t) config cookies address mode w
    (∃ e, opened.1 = .error e) ∧ w.Sent opened.2 [] := by
  let s : Stream (Server τ) Connection := Origin.stream ⟨config, cookies, url, mode⟩
  obtain ⟨v, hrequest, hasked, hsilent⟩ := Unvarying.request (s := s) hfixed hcalm
  obtain ⟨hworld, e, hanswer⟩ := connect_of_checkFails t
    (s.origin.request answer) (Interrupt.quiet_token s.config) hasked
    (hfixed.caFile s.mode) h
  have hrefused : ((backendOver t).connect (s.request w).1 (s.request w).2).answer =
      .error e := by
    rw [hrequest]
    exact hanswer
  rw [openAt_eq hurl, connect_of_refusal hrefused]
  refine ⟨⟨_, rfl⟩, ?_⟩
  show w.Sent (Http.connect t (s.request w).1 (s.request w).2).world []
  rw [hrequest, hworld]
  exact hsilent

/-- A stream whose request is planned asks for the whole. -/
theorem openAt_of_planned (hfixed : Unvarying config cookies answer)
    (hurl : Address.normalize address = .ok (.openAt url))
    (hcalm : w.signals.Calm config.HasToken)
    (hplan : Planned url mode (answeredOptions config mode answer) p) :
    let opened := Stream.openAt (backendOver t) config cookies address mode w
    p.AskedFor t [none] w opened.2 ∧
      ∀ s, opened.1 = .ok (.stream s) → OnPlan ⟨config, cookies, url, mode⟩ p s opened.2 := by
  obtain ⟨hstill, hasked⟩ := asked_connect t (w := w)
    (s := Origin.stream ⟨config, cookies, url, mode⟩) hfixed hplan rfl rfl hcalm
  rw [openAt_eq hurl]
  refine ⟨hasked, ?_⟩
  intro s hs
  dsimp only at hs
  cases hresult : (Stream.connect (backendOver t)
      (Origin.stream ⟨config, cookies, url, mode⟩) w).result with
  | error e =>
    rw [hresult] at hs
    exact absurd hs (by simp [Except.map])
  | ok _ =>
    rw [hresult] at hs
    obtain rfl := Opened.stream.inj (Except.ok.inj hs)
    exact hstill

/-- **What is sent is settled by what a stream is asked to do.** Let nobody cancel the token of a
stream, let its cookie provider always answer alike, and let no certificate file be named. Over any
transport, opening the stream sends nothing if a check fails; otherwise it asks for the
whole. Whatever is then asked of the stream, connecting again asks for the whole, going to a
position asks for the part from there on if the stream can seek and the position is not the size,
and nothing else asks for any. All first requests follow the one plan, so they go to one place, and
one for a part has the fields of one for the whole and the field that asks for the part. Where the
URL can be reached each of them is an exchange, and the only one for what it asks if the server does
not redirect it; if it does, no more requests follow than redirects are allowed, and all of them ask
for the same part. -/
theorem requests_follow_operations
    (hfixed : Unvarying config cookies answer) (address : String) (mode : Mode)
    (hcalm : w.signals.Calm config.HasToken) :
    let opened := Stream.openAt (backendOver t) config cookies address mode w
    let options := answeredOptions config mode answer
    ((∀ url, Address.normalize address ≠ .ok (.openAt url)) → w.Sent opened.2 []) ∧
    (∀ url, Address.normalize address = .ok (.openAt url) →
      (CheckFails url mode options ∧ (∃ e, opened.1 = .error e) ∧ w.Sent opened.2 []) ∨
      ∃ p, Planned url mode options p ∧ p.base.Distinct ∧ p.AskedFor t [none] w opened.2 ∧
        ∀ s, opened.1 = .ok (.stream s) → ∀ steps : List (ScheduledCommand τ),
          (∀ step ∈ steps, step.QuietBefore config) →
          let run := s.runSteps (backendOver t) opened.2 steps
          p.AskedFor t (none :: run.result) w run.world) ∧
    (∀ (p : Plan) (offset : Option Nat), (asking p.url p.base offset).IsFor p.url) ∧
    (∀ (p : Plan) (pos : Nat), (asking p.url p.base (some pos)).fields.Perm
      (rangeField pos :: (asking p.url p.base none).fields)) ∧
    ∀ (p : Plan) (offset : Option Nat) (trail : List Exchange), p.base.Distinct →
      t.Trail redirectLimit (p.hop offset) trail →
      let request := asking p.url p.base offset
      (t.reaches (p.hop offset).url = true →
        ∃ reaction later, trail = ⟨request, reaction⟩ :: later ∧
          ((∀ r, reaction = .respond r → r.redirects = false) → later = [])) ∧
      trail.length ≤ redirectLimit + 1 ∧
      ∀ made ∈ trail, made.request.values rangeName = request.values rangeName := by
  refine ⟨?_, ?_, fun p offset => isFor_asking p.url p.base offset,
    fun p pos => part_asked_with_one_more p.url p.base pos, ?_⟩
  · intro hnone
    unfold Stream.openAt
    split
    · exact World.sent_nothing rfl rfl
    · exact World.sent_nothing rfl rfl
    · rename_i url hurl
      exact absurd hurl (hnone url)
  · intro url hurl
    obtain hcheckFails | ⟨p, hplan⟩ :=
      checkFails_or_planned url mode (answeredOptions config mode answer)
    · exact .inl ⟨hcheckFails, openAt_of_checkFails t hfixed hurl hcalm hcheckFails⟩
    · obtain ⟨hasked, hopened⟩ := openAt_of_planned t hfixed hurl hcalm hplan
      refine .inr ⟨p, hplan, hplan.1.distinct, hasked, ?_⟩
      intro s hs steps hsteps
      exact hasked.trans ((hopened s hs).runSteps t hfixed hplan hsteps).2
  · intro p offset trail hdistinct htrail
    refine ⟨?_, htrail.length_le, htrail.values (Plan.distinct_hop hdistinct offset)⟩
    intro hreaches
    obtain ⟨reaction, later, rfl⟩ := htrail.first hreaches
    exact ⟨reaction, later, rfl, htrail.eq_nil_of_stays⟩

end Opening

/-- Reaches every URL, and follows a redirect to another path on the same server. The next request
names the place it comes from. -/
def moving : Transport where
  reaches _ := true
  redirect hop r :=
    if r.redirects then
      let path := (r.headers.get? locationName).getD "/"
      some (.ok ⟨{ hop.url with path, query := none },
        hop.fields.insert "referer" hop.url.text⟩)
    else none
  redirect_of_not_redirects h := by rw [if_neg (by simp [h])]
  values_of_redirect h := by
    split at h
    · cases h
      exact HeaderMap.values_insert_other _ (by decide) _
    · cases h
  distinct_of_redirect h hdistinct := by
    split at h
    · cases h
      exact hdistinct.insert _ _
    · cases h

/-- A server that sends a first request on to another path, gives five bytes there, then the last
two of them, and then all of them again. -/
def moved : World (Server (List Reaction)) where
  state :=
    let hello : Bytes := [104, 101, 108, 108, 111]
    let elsewhere : Response := ⟨302, .ofFields [("location", "/g")], some 0, {}⟩
    let whole : Response :=
      ⟨200, .ofFields [("accept-ranges", "bytes")], some 5, ⟨[hello], .complete⟩⟩
    let part : Response := ⟨206, .empty, some 2, ⟨[hello.drop 3], .complete⟩⟩
    Server.planned [.respond elsewhere, .respond whole, .respond part, .respond whole]

/-- Reading, seeking, asking for metadata, seeking to the end, connecting again, and writing. -/
def severalSteps : List (ScheduledCommand (List Reaction)) :=
  [.read 2, .seek 3, .control .tags, .seek 5, .control .reconnect, .write [1]].map
    (ScheduledCommand.mk id)

/-- What is asked for in these steps, and the targets of all requests, if opening gave a stream to
do them with. -/
def askedOf (opened : Except StreamError (Opened (Server τ) Connection) × World (Server τ))
    (steps : List (ScheduledCommand τ)) : Option (List (Option Nat) × List String) :=
  match opened.1 with
  | .ok (.stream s) =>
    let run := s.runSteps (backendOver moving) opened.2 steps
    some (run.result, run.world.state.log.map (·.request.target))
  | _ => none

theorem unvarying_default {τ : Type} :
    Unvarying {} (.none : CookieProvider (Server τ)) fun _ => none where
  answers _ _ := rfl
  leavesBackendAlone := CookieProvider.leavesBackendAlone_none
  spares := CookieProvider.spares_none
  noFile := rfl
  notRaw := List.not_mem_nil

/-- Three times a request is made, for the whole, for a part and for the whole again; the first of
them is redirected. -/
theorem requests_follow_operations_moved :
    ∃ s p, (Stream.openAt (backendOver moving) {} .none "https://[::1]/f" .read moved).1 =
        .ok (.stream s) ∧
      Planned "https://[::1]/f" .read (answeredOptions {} .read fun _ => none) p ∧
      let run := s.runSteps (backendOver moving)
        (Stream.openAt (backendOver moving) {} .none "https://[::1]/f" .read moved).2 severalSteps
      p.AskedFor moving [none, some 3, none] moved run.world ∧
        run.world.state.log.map (·.request.target) = ["/f", "/f", "/g", "/f"] := by
  have hcalm : moved.signals.Calm (Config.HasToken {}) :=
    ⟨by intro token h; exact absurd h (by simp [Config.HasToken]),
      by intro wait h; exact absurd h List.not_mem_nil,
      by intro now h; exact absurd h List.not_mem_nil⟩
  have hbefore : ∀ step ∈ severalSteps, step.QuietBefore {} := by
    intro step hstep
    obtain ⟨command, -, rfl⟩ := List.mem_map.1 hstep
    exact fun w hw => ⟨hw, World.sent_nothing rfl rfl⟩
  have hurl : Address.normalize "https://[::1]/f" = .ok (.openAt "https://[::1]/f") := rfl
  have hasked : askedOf (Stream.openAt (backendOver moving) {} .none "https://[::1]/f" .read moved)
      severalSteps = some ([some 3, none], ["/f", "/f", "/g", "/f"]) := by
    decide +kernel
  obtain ⟨-, hopens, -⟩ := requests_follow_operations moving unvarying_default "https://[::1]/f"
    .read hcalm
  replace hopens := hopens _ hurl
  generalize Stream.openAt (backendOver moving) {} .none "https://[::1]/f" .read moved = opened
    at hasked hopens ⊢
  obtain ⟨e | s | hint, w⟩ := opened
  · exact absurd hasked (by simp [askedOf])
  · obtain ⟨-, ⟨e, hfailed⟩, -⟩ | ⟨p, hplan, -, -, hruns⟩ := hopens
    · exact absurd hfailed (by simp)
    · obtain ⟨hresult, htargets⟩ := Prod.mk.inj (Option.some.inj hasked)
      have hrun := hruns s rfl severalSteps hbefore
      dsimp only at hrun
      rw [hresult] at hrun
      exact ⟨s, p, rfl, hplan, hrun, htargets⟩
  · exact absurd hasked (by simp [askedOf])

/-- A server that gives five bytes, then the last two of them, and then all of them again. -/
def greeting : World (Server (List Reaction)) where
  state :=
    let hello : Bytes := [104, 101, 108, 108, 111]
    let whole : Response :=
      ⟨200, .ofFields [("accept-ranges", "bytes")], some 5, ⟨[hello], .complete⟩⟩
    let part : Response := ⟨206, .empty, some 2, ⟨[hello.drop 3], .complete⟩⟩
    Server.planned [.respond whole, .respond part, .respond whole]

/-- **Opening a stream does not always make one request.** A brace may stand in a host, and all
checks pass; but a request for such a URL cannot be made. And where the request is redirected,
another one is made, for another target. -/
theorem opening_asks_not_once :
    (∃ p, PassesChecks "http://h\x7b/" .read (answeredOptions {} .read fun _ => none) p ∧
      Address.normalize "http://h\x7b/" = .ok (.openAt "http://h\x7b/") ∧
      (Stream.openAt Http.backend {} .none "http://h\x7b/" .read greeting).2.requests = []) ∧
    (Stream.openAt (backendOver moving) {} .none "https://[::1]/f" .read moved).2.state.log.map
      (·.request.target) = ["/g", "/f"] := by
  let url : Url := ⟨.http, "", none, .name "h\x7b", none, "/", none, none⟩
  let options : ConnectOptions := ⟨[("tls_verify", "0"), ("icy", "1")]⟩
  have hoptions : answeredOptions {} .read (fun _ => none) = options := by decide +kernel
  have hsplit : Scheme.split? "http://h\x7b/" = some (.http, "//h\x7b/".toList) := by decide +kernel
  rw [hoptions]
  refine ⟨⟨⟨url, baseFields (.insert .empty "icy-metadata" "1") none none⟩, ?_, rfl, ?_⟩, ?_⟩
  · exact ⟨.http, "//h\x7b/".toList, { icy := true }, _, hsplit, by decide, rfl, rfl, rfl, rfl, rfl⟩
  · decide +kernel
  · decide +kernel

end Stream

end ByteStream
