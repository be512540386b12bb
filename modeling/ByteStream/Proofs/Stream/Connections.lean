/-
# ByteStream.Proofs.Stream.Connections -- what holds of the connection of a stream

Calls lead from one state of a connection to the next. Every command of a stream, short of
connecting again, comes down to calls on the connection that it has, and what the stream says of
itself stays as it is (`keepsConnection_perform`); connecting again leaves it without a connection,
or with one that was just given (`becomes_perform`). So the connection of a stream comes from one
that the backend gave it, and what the stream says of itself is what that one said
(`Reached.connectionGiven`).

A backend upholds a property of connections and the interrupts they were opened with, if each new
connection has it and each call leaves a connection that has it still. Whatever the history of a
stream over such a backend, its connection has the property, with the interrupt of the token that
the stream was opened with (`Reached.carries`).
-/

import ByteStream.Proofs.Stream.Reopening
import ByteStream.Proofs.Stream.Writing

namespace ByteStream

variable {σ κ α β : Type}

/-! ## Calls on a connection -/

/-- Calls on the one connection, in whatever worlds, lead to the other. -/
inductive Backend.Leads (B : Backend σ κ) (c : κ) : κ → Prop
  | here : B.Leads c c
  | read {d : κ} : B.Leads c d → ∀ n w, B.Leads c (B.read d n w).conn
  | write {d : κ} : B.Leads c d → ∀ data w, B.Leads c (B.write d data w).conn
  | flush {d : κ} : B.Leads c d → ∀ w, B.Leads c (B.flush d w).conn
  | seek {d : κ} : B.Leads c d → ∀ pos w, B.Leads c (B.seek d pos w).conn
  | size {d : κ} : B.Leads c d → ∀ w, B.Leads c (B.size d w).conn
  | seekTime {d : κ} : B.Leads c d → ∀ target w, B.Leads c (B.seekTime d target w).conn
  | icyFields {d : κ} : B.Leads c d → ∀ w, B.Leads c (B.icyFields d w).2

/-- Connections have the property `K` with the interrupt they were opened with, from the start and
after every call. -/
structure Backend.Upholds (B : Backend σ κ) (K : Interrupt → κ → Prop) : Prop where
  connect : ∀ {request w c}, (B.connect request w).answer = .ok c → K request.interrupt c
  read : ∀ {i c}, K i c → ∀ n w, K i (B.read c n w).conn
  write : ∀ {i c}, K i c → ∀ data w, K i (B.write c data w).conn
  flush : ∀ {i c}, K i c → ∀ w, K i (B.flush c w).conn
  seek : ∀ {i c}, K i c → ∀ pos w, K i (B.seek c pos w).conn
  size : ∀ {i c}, K i c → ∀ w, K i (B.size c w).conn
  seekTime : ∀ {i c}, K i c → ∀ target w, K i (B.seekTime c target w).conn
  icyFields : ∀ {i c}, K i c → ∀ w, K i (B.icyFields c w).2

namespace Backend

variable {B : Backend σ κ} {K : Interrupt → κ → Prop} {c d e : κ}

theorem Leads.trans (h : B.Leads c d) (h' : B.Leads d e) : B.Leads c e := by
  induction h' with
  | here => exact h
  | read _ n w ih => exact ih.read n w
  | write _ data w ih => exact ih.write data w
  | flush _ w ih => exact ih.flush w
  | seek _ pos w ih => exact ih.seek pos w
  | size _ w ih => exact ih.size w
  | seekTime _ target w ih => exact ih.seekTime target w
  | icyFields _ w ih => exact ih.icyFields w

/-- Writing through is a write, and then a flush if that succeeded. -/
theorem leads_writeThrough (c : κ) (data : Bytes) (w : World σ) :
    B.Leads c (B.writeThrough c data w).conn := by
  have hwrote := Leads.here.write (B := B) (c := c) data w
  rcases B.writeThrough_cases c data w with ⟨_, -, heq⟩ | ⟨_, _, -, -, heq⟩ | ⟨_, _, -, heq⟩
  · rw [heq]
    exact hwrote
  · rw [heq]
    exact hwrote.flush _
  · rw [heq]
    exact hwrote.flush _

theorem Upholds.leads (hB : B.Upholds K) {i : Interrupt} (h : K i c) (hleads : B.Leads c d) :
    K i d := by
  induction hleads with
  | here => exact h
  | read _ n w ih => exact hB.read ih n w
  | write _ data w ih => exact hB.write ih data w
  | flush _ w ih => exact hB.flush ih w
  | seek _ pos w ih => exact hB.seek ih pos w
  | size _ w ih => exact hB.size ih w
  | seekTime _ target w ih => exact hB.seekTime ih target w
  | icyFields _ w ih => exact hB.icyFields ih w

end Backend

namespace Stream

variable {B : Backend σ κ} {K : Interrupt → κ → Prop} {s t u : Stream σ κ}

/-! ## Streams that keep their connection -/

/-- The other stream was opened as the one was, has a connection that calls on that of the one lead
to, and says of itself what the one says. -/
structure KeepsConnection (B : Backend σ κ) (s t : Stream σ κ) : Prop where
  origin : t.origin = s.origin
  conn : Option.Rel B.Leads s.conn t.conn
  seekable : t.seekable = s.seekable
  mimeType : t.mimeType = s.mimeType

theorem keepsConnection_refl (s : Stream σ κ) : KeepsConnection B s s where
  origin := rfl
  conn := by
    cases s.conn with
    | none => exact .none
    | some c => exact .some .here
  seekable := rfl
  mimeType := rfl

theorem KeepsConnection.trans (h : KeepsConnection B s t) (h' : KeepsConnection B t u) :
    KeepsConnection B s u where
  origin := h'.origin.trans h.origin
  conn := by
    obtain ⟨-, hconn, -, -⟩ := h
    obtain ⟨-, hconn', -, -⟩ := h'
    generalize s.conn = c, t.conn = d, u.conn = e at hconn hconn'
    cases hconn with
    | none => exact hconn'
    | some hleads =>
      cases hconn' with
      | some hleads' => exact .some (hleads.trans hleads')
  seekable := h'.seekable.trans h.seekable
  mimeType := h'.mimeType.trans h.mimeType

/-- The connection of the one was led to from that of the other. -/
theorem KeepsConnection.led (h : KeepsConnection B s t) {d : κ} (hconn : t.conn = some d) :
    ∃ c, s.conn = some c ∧ B.Leads c d := by
  obtain ⟨-, hrel, -, -⟩ := h
  rw [hconn] at hrel
  generalize s.conn = before at hrel
  cases hrel with
  | some hleads => exact ⟨_, rfl, hleads⟩

theorem keepsConnection_call (s : Stream σ κ) (w : World σ) (absent : α)
    {f : κ → World σ → Reply σ κ β}
    (hf : ∀ c, B.Leads c (f c w).conn) (view : Except BackendError β → α) :
    KeepsConnection B s (s.call w absent f view).stream := by
  cases hconn : s.conn with
  | none =>
    rw [call_of_none hconn]
    exact keepsConnection_refl s
  | some c =>
    rw [call_of_conn hconn]
    exact ⟨rfl, hconn ▸ .some (hf c), rfl, rfl⟩

theorem keepsConnection_pollTags (s : Stream σ κ) (w : World σ) :
    KeepsConnection B s (s.pollTags B w).stream := by
  cases hconn : s.conn with
  | none =>
    rw [pollTags_of_none hconn]
    exact keepsConnection_refl s
  | some c =>
    rw [pollTags_of_conn hconn]
    exact ⟨rfl, hconn ▸ .some (.icyFields .here w), rfl, rfl⟩

theorem keepsConnection_seek (s : Stream σ κ) (pos : Nat) (w : World σ) :
    KeepsConnection B s (s.seek B pos w).stream :=
  seek_keeps (P := fun t _ => KeepsConnection B s t) (keepsConnection_refl s) pos fun _ view =>
    keepsConnection_call s w _ (fun _ => .seek .here pos w) view

/-- Every command but connecting again keeps the connection. -/
theorem keepsConnection_perform (s : Stream σ κ) (w : World σ) {command : Command}
    (hcommand : command ≠ .control .reconnect) :
      KeepsConnection B s (s.perform B w command).stream := by
  refine perform_keeps_of (P := fun t _ => KeepsConnection B s t) ?_ ?_ ?_
    (keepsConnection_refl s) ?_
  · exact fun ht _ => ht.trans (keepsConnection_call _ _ _ (fun _ => .read .here _ _) _)
  · exact fun ht _ =>
      ht.trans (keepsConnection_call _ _ _ (fun _ => Backend.leads_writeThrough _ _ _) _)
  · exact fun ht pos => ht.trans (keepsConnection_seek _ pos _)
  · intro request hrequest
    cases request with
    | size => exact keepsConnection_call _ _ _ (fun _ => .size .here _) _
    | seekTime target => exact keepsConnection_call _ _ _ (fun _ => .seekTime .here target _) _
    | tags => exact keepsConnection_pollTags s w
    | reconnect => exact absurd hrequest hcommand

/-- Commands other than connecting again, in whatever worlds, make the one stream the other. -/
inductive WithoutReconnect (B : Backend σ κ) (s : Stream σ κ) : Stream σ κ → Prop
  | here : WithoutReconnect B s s
  | performed {t : Stream σ κ} {command : Command} : WithoutReconnect B s t →
      command ≠ .control .reconnect → ∀ w, WithoutReconnect B s (t.perform B w command).stream

/-- Until it connects again, a stream keeps its connection and what it says of itself. -/
theorem WithoutReconnect.keepsConnection (h : WithoutReconnect B s t) : KeepsConnection B s t := by
  induction h with
  | here => exact keepsConnection_refl s
  | performed _ hcommand w ih => exact ih.trans (keepsConnection_perform _ w hcommand)

/-! ## What a command makes of a stream -/

/-- What a command can make of a stream: it keeps its connection, or it is left without one, or it
has one that it has just asked for. -/
inductive Becomes (B : Backend σ κ) (s : Stream σ κ) : Stream σ κ → Prop
  | keepsConnection {t : Stream σ κ} : KeepsConnection B s t → Becomes B s t
  | lost {t : Stream σ κ} : t.origin = s.origin → t.conn = none → Becomes B s t
  | renewed {w : World σ} {c : κ} (memory : Icy.Differ) :
      (B.connect (s.request w).1 (s.request w).2).answer = .ok c →
      Becomes B s
        ((s.install B c (B.connect (s.request w).1 (s.request w).2).world).remembering memory)

theorem becomes_reconnect (s : Stream σ κ) (w : World σ) :
    Becomes B s (s.reconnect B w).stream := by
  cases hmode : s.mode with
  | write =>
    rw [reconnect_of_write hmode]
    exact .keepsConnection (keepsConnection_refl s)
  | read =>
    -- The stream that was emptied makes the same requests: they do not look at a connection.
    rw [reconnect_eq hmode]
    show Becomes B s (Stream.connect B (s.emptied B w) (s.close B w)).stream
    cases hanswer : (B.connect ((s.emptied B w).request (s.close B w)).1
        ((s.emptied B w).request (s.close B w)).2).answer with
    | error e =>
      rw [connect_of_refusal hanswer]
      exact .lost rfl rfl
    | ok c =>
      rw [connect_of_answer hanswer]
      exact .renewed s.differ.reset hanswer

theorem becomes_perform (s : Stream σ κ) (w : World σ) (command : Command) :
    Becomes B s (s.perform B w command).stream := by
  by_cases hcommand : command = .control .reconnect
  · subst hcommand
    exact becomes_reconnect s w
  · exact .keepsConnection (keepsConnection_perform s w hcommand)

/-! ## Where the connection comes from -/

/-- The connection of the stream, if there is one, was led to from one that the backend gave it,
and what the stream says of itself is what that one said when it was given. -/
def ConnectionGiven (B : Backend σ κ) (s : Stream σ κ) : Prop :=
  ∀ d, s.conn = some d → ∃ w c, let given := B.connect (s.request w).1 (s.request w).2
    given.answer = .ok c ∧ B.Leads c d ∧ s.seekable = B.isSeekable c given.world ∧
      s.mimeType = B.mimeType c given.world

/-- A connection that has just been given comes from itself. -/
theorem connectionGiven_install {w : World σ} {c : κ}
    (hanswer : (B.connect (s.request w).1 (s.request w).2).answer = .ok c) (memory : Icy.Differ) :
    ((s.install B c (B.connect (s.request w).1 (s.request w).2).world).remembering
      memory).ConnectionGiven
      B := by
  intro d hd
  obtain rfl := Option.some.inj hd
  exact ⟨w, c, hanswer, .here, rfl, rfl⟩

theorem ConnectionGiven.becomes (h : s.ConnectionGiven B) (hbecomes : Becomes B s t) :
    t.ConnectionGiven B := by
  cases hbecomes with
  | keepsConnection hkeepsConn =>
    intro d hd
    obtain ⟨c, hc, hleads⟩ := hkeepsConn.led hd
    obtain ⟨w, given, hanswer, hled, hseekable, hmimeType⟩ := h c hc
    refine ⟨w, given, ?_⟩
    rw [request_of_origin hkeepsConn.origin w, hkeepsConn.seekable, hkeepsConn.mimeType]
    exact ⟨hanswer, hled.trans hleads, hseekable, hmimeType⟩
  | lost _ hconn =>
    intro d hd
    rw [hconn] at hd
    cases hd
  | renewed memory hanswer => exact connectionGiven_install hanswer memory

/-- Whatever its history, the connection of a stream comes from one that the backend gave it. -/
theorem Reached.connectionGiven {config : Config} {cookies : CookieProvider σ} {address : String}
    {mode : Mode} (h : Reached B config cookies address mode s) : s.ConnectionGiven B := by
  induction h with
  | opened hopen =>
    obtain ⟨url, -, hconnect⟩ := connected_of_openAt hopen
    obtain ⟨c, hanswer, rfl, rfl⟩ := connected_of_connect hconnect
    exact connectionGiven_install hanswer {}
  | performed w command _ ih => exact ih.becomes (becomes_perform _ w command)

/-! ## Properties that a backend upholds -/

/-- The connection of the stream, if there is one, has the property. -/
def Carries (K : Interrupt → κ → Prop) (s : Stream σ κ) : Prop :=
  ∀ c, s.conn = some c → K (Interrupt.ofToken? s.config.cancel) c

/-- Every command leaves a stream whose connection has the property. -/
theorem Carries.perform (hB : B.Upholds K) (h : s.Carries K) (w : World σ) (command : Command) :
    (s.perform B w command).stream.Carries K := by
  have hbecomes := becomes_perform (B := B) s w command
  generalize (s.perform B w command).stream = t at hbecomes
  intro d hd
  cases hbecomes with
  | keepsConnection hkeepsConn =>
    obtain ⟨c, hc, hleads⟩ := hkeepsConn.led hd
    rw [show t.config = s.config from congrArg Origin.config hkeepsConn.origin]
    exact hB.leads (h c hc) hleads
  | lost _ hconn =>
    rw [hconn] at hd
    cases hd
  | renewed memory hanswer =>
    obtain rfl := Option.some.inj hd
    exact hB.connect hanswer

/-- Whatever its history, the connection of a stream has the property: it was led to from one that
was given with it. -/
theorem Reached.carries (hB : B.Upholds K) {config : Config} {cookies : CookieProvider σ}
    {address : String} {mode : Mode} (h : Reached B config cookies address mode s) :
    s.Carries K := by
  intro d hd
  obtain ⟨w, c, hanswer, hleads, -, -⟩ := h.connectionGiven d hd
  exact hB.leads (hB.connect hanswer) hleads

end Stream

end ByteStream
