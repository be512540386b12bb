/-
# ByteStream.Proofs.Http.Cursor -- a stream that can be read at any position is a cursor

A server gives some content in parts: the whole at the first request, the part from a position on
when it is asked for that, and a refusal where there is no part. Over such a server a stream is a
cursor in the content. A read gives the next bytes and moves the cursor behind them, or tells the
end; a seek moves the cursor to any position up to the end, and fails behind it without moving the
cursor (`stream_is_cursor`).

The cursor is the position that the connection counts. The invariant (`Positioned`) is that the
payload of the connection is the content from that position on: a read takes its bytes off both, and
a seek puts a new body in the place of what was pending and to come. A seek to the end sends no
request, and leaves no body.
-/

import ByteStream.Proofs.Http.Delivery
import ByteStream.Proofs.Http.Exchange
import ByteStream.Proofs.Stream.History

namespace ByteStream.Http

variable {τ : Type}

/-! ## Cursors -/

/-- What a cursor in the content answers to a command, and where it stands then. -/
inductive CursorStep (content : Bytes) (pos : Nat) : Stream.Command → Stream.Answer → Nat → Prop
  | piece {n : Nat} {bytes : Bytes} :
      pos < content.length → bytes ≠ [] → bytes.length ≤ n →
      bytes = (content.drop pos).take bytes.length →
      CursorStep content pos (.read n) (.bytes bytes) (pos + bytes.length)
  | eof {n : Nat} : pos = content.length → CursorStep content pos (.read n) (.failed .eof) pos
  | seek {target : Nat} :
      target ≤ content.length → CursorStep content pos (.seek target) .done target
  | refused {target : Nat} {e : StreamError} :
      content.length < target → CursorStep content pos (.seek target) (.failed e) pos

/-- The answers of a cursor that starts at a position. -/
inductive CursorRun (content : Bytes) : Nat → List Stream.Command → List Stream.Answer → Prop
  | nil {pos : Nat} : CursorRun content pos [] []
  | cons {pos next : Nat} {command : Stream.Command} {answer : Stream.Answer}
      {commands : List Stream.Command} {answers : List Stream.Answer} :
      CursorStep content pos command answer next → CursorRun content next commands answers →
      CursorRun content pos (command :: commands) (answer :: answers)

/-- The commands of a cursor: reads with room for a byte, and seeks. -/
def MovesCursor : Stream.Command → Prop
  | .read n => 0 < n
  | .seek _ => True
  | _ => False

/-! ## Servers that give parts -/

/-- What arrives, in any chunks, is these bytes, and then the end. -/
structure Body.Carries (b : Body) (bytes : Bytes) : Prop where
  bytes : b.bytes = bytes
  ending : b.ending = .complete

/-- The server gives the content behind the URL in parts. What it remembers is its own. -/
structure ServesParts (url : Url) (content : Bytes) (react : Request → τ → Reaction × τ) :
    Prop where
  /-- A request for no part is answered by the whole, with an offer of parts. -/
  whole : ∀ (request : Request) (memory : τ), request.IsFor url →
    request.values rangeName = [] →
    ∃ r memory', react request memory = (.respond r, memory') ∧ r.status = 200 ∧
      r.headers.get? "accept-ranges" = some "bytes" ∧ r.headers.get? "icy-metaint" = none ∧
      r.size = some content.length ∧ r.body.Carries content
  /-- A request for the part from a position on is answered by that part. -/
  part : ∀ (request : Request) (memory : τ) (pos : Nat), request.IsFor url →
    request.values rangeName = ["bytes=" ++ toString pos ++ "-"] → pos < content.length →
    ∃ r memory', react request memory = (.respond r, memory') ∧ r.status = 206 ∧
      r.body.Carries (content.drop pos)
  /-- Behind the last byte there is no part. -/
  beyond : ∀ (request : Request) (memory : τ) (pos : Nat), request.IsFor url →
    request.values rangeName = ["bytes=" ++ toString pos ++ "-"] → content.length ≤ pos →
    ∃ r memory', react request memory = (.respond r, memory') ∧ r.status = 416

/-- The caller's header fields ask for no part. -/
def AsksNoPart (options : ConnectOptions) : Prop :=
  ∀ settings, (Settings.takeFrom options).1 = .ok settings →
    ∀ field ∈ settings.headers, Text.lower field.1 ≠ rangeName

/-- The base fields of a caller who asks for no part ask for none. -/
theorem values_base_of_asksNoPart {options : ConnectOptions} (h : AsksNoPart options)
    {settings : Settings} (hsettings : (Settings.takeFrom options).1 = .ok settings) {files : Files}
    {url : Url} {base : HeaderMap} (hbase : prepare files url settings = .ok base) :
    base.values rangeName = [] := by
  have hown : rangeName ∉ ownNames := by decide
  rw [(prepare_ok hbase).2 rangeName hown, Settings.callerValues, List.map_eq_nil_iff,
    List.filter_eq_nil_iff]
  intro field hfield hname
  exact h settings hsettings field hfield (by simpa using hname)

namespace Connection

/-! ## Connections with a position in the content -/

/-- The lasting part of a connection that can be read at any position of the content. -/
structure Terms.Ranged (t : Transport) (content : Bytes) (terms : Terms) : Prop where
  reachable : terms.url.Reachable t
  distinct : terms.base.Distinct
  unasked : terms.base.values rangeName = []
  whole : terms.cutsOut = false
  seekable : terms.seekable = true
  size : terms.size = some content.length

/-- The connection counts a position of the content, and what its reader is still to get is the
content from there on. -/
structure Positioned (t : Transport) (content : Bytes) (c : Connection) (w : World (Server τ)) :
    Prop where
  terms : c.terms.Ranged t content
  serves : ServesParts c.url content w.state.react
  silent : c.interrupt.Silent w.signals
  within : c.pos ≤ content.length
  payload : c.payload = content.drop c.pos
  ending : c.ending = .complete

variable {t : Transport} {content : Bytes} {c : Connection} {w : World (Server τ)}

theorem demuxer_eq_none (h : c.terms.Ranged t content) : c.demuxer = none := by
  have hwhole : c.demuxer.isSome = false := h.whole
  simpa using hwhole

theorem Positioned.readable (h : c.Positioned t content w) : c.Readable := by
  refine ⟨?_, ?_⟩
  · intro d hd
    rw [demuxer_eq_none h.terms] at hd
    exact absurd hd (by simp)
  · rw [h.ending]
    decide

/-- Without metadata to cut out, the payload is all that is pending and to come. -/
theorem payload_eq_wire (h : c.demuxer = none) : c.payload = c.wire := by
  rw [payload, h]
  rfl

theorem readView_ok {bytes : Bytes} (h : bytes ≠ []) :
    Stream.readView (.ok bytes) = .ok bytes := by
  cases bytes with
  | nil => exact absurd rfl h
  | cons b later => rfl

/-- A read keeps what lasts, and the server. -/
theorem Positioned.lasting_readOn (h : c.Positioned t content w) (n : Nat) :
    (c.readOn n w).conn.terms.Ranged t content ∧
      ServesParts (c.readOn n w).conn.url content (c.readOn n w).world.state.react := by
  have hterms := terms_readOn c n w
  have hurl : (c.readOn n w).conn.url = c.url := congrArg Terms.url hterms
  have hstate : (c.readOn n w).world.state = w.state := by rw [world_readOn c n w]
  refine ⟨?_, ?_⟩
  · rw [hterms]
    exact h.terms
  · rw [hurl, hstate]
    exact h.serves

/-- Where the payload is the content from the position on, a read gives the next bytes of the
content, or tells its end. -/
theorem Positioned.readOn (h : c.Positioned t content w) {n : Nat} (hn : 0 < n) :
    (c.readOn n w).conn.Positioned t content (c.readOn n w).world ∧
      CursorStep content c.pos (.read n)
        (.ofResult .bytes (Stream.readView (c.readOn n w).answer)) (c.readOn n w).conn.pos := by
  obtain ⟨hterms, hserves⟩ := h.lasting_readOn n
  obtain ⟨hread, hquiet⟩ := delivers_readOn h.readable hn h.silent
  have hsilent : (c.readOn n w).conn.interrupt.Silent (c.readOn n w).world.signals := by
    rw [interrupt_readOn]
    exact hquiet
  have hwithin := h.within
  cases hread with
  | piece bytes answer nonempty fits payload ending pos =>
    -- The bytes and the rest are the content from the position on, cut in two.
    have hcut : content.drop c.pos = bytes ++ (c.readOn n w).conn.payload := by
      rw [← h.payload, payload]
    have hpositive : 0 < bytes.length := List.length_pos_iff.2 nonempty
    have hroom : content.length - c.pos =
        bytes.length + (c.readOn n w).conn.payload.length := by
      rw [← List.length_drop, hcut, List.length_append]
    have hrest : (c.readOn n w).conn.payload = content.drop (c.readOn n w).conn.pos := by
      rw [pos, ← List.drop_drop, hcut, List.drop_left]
    have htaken : bytes = (content.drop c.pos).take bytes.length := by
      rw [hcut, List.take_left]
    refine ⟨⟨hterms, hserves, hsilent, ?_, hrest, ending.trans h.ending⟩, ?_⟩
    · omega
    · rw [answer, readView_ok nonempty, pos]
      exact .piece (by omega) nonempty fits htaken
  | ended answer payload nothing ending pos =>
    have hdrop : content.drop c.pos = [] := h.payload.symm.trans payload
    have hend : content.length ≤ c.pos := List.drop_eq_nil_iff.1 hdrop
    refine ⟨⟨hterms, hserves, hsilent, ?_, ?_, ending⟩, ?_⟩
    · rw [pos]
      exact hwithin
    · rw [nothing, pos, hdrop]
    · rw [answer, h.ending, pos]
      exact .eof (by omega)

/-! ## Seeking -/

/-- A connection can be turned to the content from a position on. -/
theorem Positioned.turnTo (h : c.Positioned t content w) {w' : World (Server τ)}
    (hsilent : c.interrupt.Silent w'.signals) (hreact : w'.state.react = w.state.react) {pos : Nat}
    (hpos : pos ≤ content.length) {body : Option Body}
    (hbytes : (c.turnTo pos body).wire = content.drop pos)
    (hending : (c.turnTo pos body).ending = .complete) :
    (c.turnTo pos body).Positioned t content w' := by
  refine ⟨h.terms, ?_, hsilent, hpos, ?_, hending⟩
  · rw [hreact]
    exact h.serves
  · have hwhole : (c.turnTo pos body).demuxer = none := demuxer_eq_none h.terms
    rw [payload_eq_wire hwhole, hbytes]
    rfl

/-- A request for a part is answered, and changes nothing that matters to a later one. -/
theorem Positioned.answered (h : c.Positioned t content w) (request : Request) :
    c.interrupt.Silent (answered w request).signals ∧
      (answered w request).state.react = w.state.react :=
  ⟨h.silent.afterWait, rfl⟩

/-- The request for a part asks for that part and no other. -/
theorem Positioned.values_asking (h : c.Positioned t content w) (pos : Nat) :
    (asking c.url c.base (some pos)).values rangeName = ["bytes=" ++ toString pos ++ "-"] :=
  values_rangeName h.terms.distinct h.terms.unasked c.url (some pos)

/-- In front of the end there is a part, and its status is accepted at every position. -/
theorem Positioned.send_part (h : c.Positioned t content w) {pos : Nat}
    (hpos : pos < content.length) :
    ∃ r, send t c.url c.base (some pos) c.interrupt w =
        (.ok r, Http.answered w (asking c.url c.base (some pos))) ∧
      r.body.Carries (content.drop pos) := by
  have hreachable : c.url.Reachable t := h.terms.reachable
  obtain ⟨r, memory, hreact, hstatus, hbody⟩ :=
    h.serves.part _ w.state.memory pos (isFor_asking ..) (h.values_asking pos) hpos
  have haccepted : isAccepted (some pos) r.status = true := by
    rw [hstatus]
    cases pos <;> rfl
  exact ⟨r, send_of_accepted hreachable h.silent (congrArg Prod.fst hreact) haccepted, hbody⟩

/-- Behind the end there is no part. The position is not 0, so only a part would be accepted. -/
theorem Positioned.send_beyond (h : c.Positioned t content w) {pos : Nat}
    (hpos : content.length < pos) :
    ∃ e, send t c.url c.base (some pos) c.interrupt w =
      (.error e, Http.answered w (asking c.url c.base (some pos))) := by
  have hreachable : c.url.Reachable t := h.terms.reachable
  have hbehind : content.length ≤ pos := Nat.le_of_lt hpos
  obtain ⟨r, memory, hreact, hstatus⟩ :=
    h.serves.beyond _ w.state.memory pos (isFor_asking ..) (h.values_asking pos) hbehind
  obtain ⟨before, rfl⟩ : ∃ before, pos = before + 1 := ⟨pos - 1, by omega⟩
  have hrefused : isAccepted (some (before + 1)) r.status = false := by
    rw [hstatus]
    rfl
  have hstays : r.redirects = false := by
    rw [Response.redirects, hstatus]
    rfl
  refine ⟨(HttpError.status r.status c.url.text).toBackend, ?_⟩
  rw [send_of_respond hreachable h.silent (congrArg Prod.fst hreact) hstays, accept,
    if_neg (by simp [hrefused])]

/-- A seek up to the end turns the connection there; a seek behind it is refused and leaves the
connection as it is. -/
theorem Positioned.seek (h : c.Positioned t content w) (pos : Nat) :
    (c.seek t pos w).conn.Positioned t content (c.seek t pos w).world ∧
      ((pos ≤ content.length ∧ (c.seek t pos w).answer = .ok pos ∧
          (c.seek t pos w).conn.pos = pos) ∨
        (content.length < pos ∧ (∃ e, (c.seek t pos w).answer = .error e) ∧
          (c.seek t pos w).conn = c)) := by
  have hseekable : ¬ ¬ c.seekable = true := not_not.2 h.terms.seekable
  have hsize : c.size = some content.length := h.terms.size
  rw [Connection.seek_eq, if_neg hseekable, hsize]
  -- In front of the end a part is fetched, at the end nothing is, behind it a refusal comes.
  rcases Nat.lt_trichotomy pos content.length with hpos | rfl | hpos
  · obtain ⟨r, hsend, hbody⟩ := h.send_part hpos
    obtain ⟨hsilent, hreact⟩ := h.answered (asking c.url c.base (some pos))
    rw [if_neg (by simp only [Option.some.injEq]; omega), hsend]
    have hwithin : pos ≤ content.length := Nat.le_of_lt hpos
    refine ⟨h.turnTo hsilent hreact hwithin ?_ hbody.ending, .inl ⟨hwithin, rfl, rfl⟩⟩
    exact hbody.bytes
  · rw [if_pos rfl]
    have hwithin := Nat.le_refl content.length
    refine ⟨h.turnTo h.silent rfl hwithin ?_ rfl, .inl ⟨hwithin, rfl, rfl⟩⟩
    rw [List.drop_length]
    rfl
  · obtain ⟨e, hsend⟩ := h.send_beyond hpos
    obtain ⟨hsilent, hreact⟩ := h.answered (asking c.url c.base (some pos))
    rw [if_neg (by simp only [Option.some.injEq]; omega), hsend]
    refine ⟨⟨h.terms, ?_, hsilent, h.within, h.payload, h.ending⟩, .inr ⟨hpos, ⟨e, rfl⟩, rfl⟩⟩
    show ServesParts c.url content (Http.answered w _).state.react
    rw [hreact]
    exact h.serves

/-! ## Opening -/

/-- The response of a server that gives parts opens a connection at the start. -/
theorem positioned_of_response {url : Url} {base : HeaderMap} {i : Interrupt} {wantsIcy : Bool}
    {r : Response} (hreachable : url.Reachable t) (hdistinct : base.Distinct)
    (hunasked : base.values rangeName = [])
    (hoffer : r.headers.get? "accept-ranges" = some "bytes")
    (hicy : r.headers.get? "icy-metaint" = none) (hsize : r.size = some content.length)
    (hbody : r.body.Carries content) (hserves : ServesParts url content w.state.react)
    (hsilent : i.Silent w.signals) : (ofResponse url base i wantsIcy r).Positioned t content w := by
  have hwhole : demuxer? wantsIcy r.headers = none := by
    unfold demuxer? icyInterval? visible?
    rw [hicy]
    cases wantsIcy <;> rfl
  have hoffers : offersParts r.headers = true := by
    unfold offersParts visible?
    rw [hoffer]
    decide
  have hterms : (ofResponse url base i wantsIcy r).terms.Ranged t content :=
    { reachable := hreachable
      distinct := hdistinct
      unasked := hunasked
      whole := by
        show (demuxer? wantsIcy r.headers).isSome = false
        rw [hwhole]
        rfl
      seekable := by
        show (offersParts r.headers && r.size.isSome && (demuxer? wantsIcy r.headers).isNone) = true
        rw [hoffers, hsize, hwhole]
        rfl
      size := hsize }
  refine ⟨hterms, hserves, hsilent, Nat.zero_le _, ?_, hbody.ending⟩
  rw [payload_eq_wire (demuxer_eq_none hterms)]
  exact hbody.bytes

/-- A new connection to a server that gives parts is at the start. -/
theorem positioned_of_connect {request : ConnectRequest}
    (hconnect : (connect t request w).answer = .ok c)
    (hserves : ServesParts c.url content w.state.react)
    (hsilent : request.interrupt.Silent w.signals) (hcaller : AsksNoPart request.options) :
    c.Positioned t content (connect t request w).world ∧ c.pos = 0 := by
  obtain ⟨url, settings, base, r, hchecked, hsend, rfl⟩ := opened_of_connect hconnect
  obtain ⟨_, _, -, -, -, hsettings, hbase⟩ := checked_eq_ok_iff.1 hchecked
  have hreachable : url.Reachable t := reachable_of_send (congrArg Prod.fst hsend)
  have hdistinct : base.Distinct := (prepare_ok hbase).1
  have hunasked := values_base_of_asksNoPart hcaller hsettings hbase
  -- The first request asks for no part, so it is answered by the whole.
  obtain ⟨whole, memory, hreact, hstatus, hoffer, hicy, hsize, hbody⟩ :=
    hserves.whole _ w.state.memory (isFor_asking url base none)
      (values_rangeName hdistinct hunasked url none)
  have haccepted : isAccepted none whole.status = true := by
    rw [hstatus]
    rfl
  rw [send_of_accepted hreachable hsilent (congrArg Prod.fst hreact) haccepted] at hsend
  obtain ⟨hsame, hworld⟩ := Prod.mk.inj hsend
  obtain rfl := Except.ok.inj hsame
  rw [← hworld]
  exact ⟨positioned_of_response hreachable hdistinct hunasked hoffer hicy hsize hbody hserves
    hsilent.afterWait, rfl⟩

end Connection

/-! ## Streams -/

/-- The stream reads from a connection at this position of the content. -/
def PositionedAt (t : Transport) (content : Bytes) (pos : Nat) (s : Stream (Server τ) Connection)
    (w : World (Server τ)) : Prop :=
  ∃ c, s.conn = some c ∧ s.seekable = true ∧ c.pos = pos ∧ c.Positioned t content w

variable {t : Transport} {content : Bytes} {pos : Nat} {s : Stream (Server τ) Connection}
  {w : World (Server τ)}

theorem PositionedAt.read (h : PositionedAt t content pos s w) {n : Nat} (hn : 0 < n) :
    let o := s.perform (backendOver t) w (.read n)
    ∃ next, CursorStep content pos (.read n) o.result next ∧
      PositionedAt t content next o.stream o.world := by
  intro o
  obtain ⟨c, hconn, hseekable, rfl, hpositioned⟩ := h
  have ho : o = (s.read (backendOver t) n w).map (.ofResult .bytes) := rfl
  have hread : s.read (backendOver t) n w =
      ⟨Stream.readView (c.readOn n w).answer, { s with conn := some (c.readOn n w).conn },
        (c.readOn n w).world⟩ := by
    unfold Stream.read
    rw [Stream.call_of_conn hconn]
    show (⟨Stream.readView (c.read n w).answer, { s with conn := some (c.read n w).conn },
      (c.read n w).world⟩ : Outcome _ _ _) = _
    rw [Connection.read_of_pos hn]
  obtain ⟨hnext, hstep⟩ := hpositioned.readOn hn
  rw [ho, hread]
  exact ⟨_, hstep, _, rfl, hseekable, rfl, hnext⟩

theorem PositionedAt.seek (h : PositionedAt t content pos s w) (target : Nat) :
    let o := s.perform (backendOver t) w (.seek target)
    ∃ next, CursorStep content pos (.seek target) o.result next ∧
      PositionedAt t content next o.stream o.world := by
  intro o
  obtain ⟨c, hconn, hseekable, rfl, hpositioned⟩ := h
  have ho : o = (s.seek (backendOver t) target w).map (.ofResult fun () => .done) := rfl
  unfold Stream.seek at ho
  rw [if_pos hseekable, Stream.call_of_conn hconn] at ho
  have hcall : (backendOver t).seek c target w = c.seek t target w := rfl
  obtain ⟨hnext, ⟨hwithin, hanswer, hpos⟩ | ⟨hbehind, ⟨e, hanswer⟩, hconn⟩⟩ :=
    hpositioned.seek target
  · rw [ho, hcall, hanswer]
    exact ⟨target, .seek hwithin, _, rfl, hseekable, hpos, hnext⟩
  · rw [ho, hcall, hanswer]
    exact ⟨c.pos, .refused hbehind, _, rfl, hseekable, congrArg Connection.pos hconn, hnext⟩

/-- **One command.** A stream at a position of the content answers as a cursor there does, and is
then where the cursor goes. -/
theorem PositionedAt.perform (h : PositionedAt t content pos s w) {command : Stream.Command}
    (hcommand : MovesCursor command) :
    let o := s.perform (backendOver t) w command
    ∃ next, CursorStep content pos command o.result next ∧
      PositionedAt t content next o.stream o.world := by
  cases command with
  | read n => exact h.read hcommand
  | seek target => exact h.seek target
  | _ => exact absurd hcommand id

/-- **Any commands.** The answers are the answers of a cursor. -/
theorem PositionedAt.performAll (h : PositionedAt t content pos s w)
    {commands : List Stream.Command} (hcommands : ∀ command ∈ commands, MovesCursor command) :
    CursorRun content pos commands (s.performAll (backendOver t) w commands).result := by
  induction commands generalizing pos s w with
  | nil => exact .nil
  | cons command later ih =>
    have hlater : ∀ command ∈ later, MovesCursor command :=
      fun command hin => hcommands command (List.mem_cons_of_mem _ hin)
    obtain ⟨next, hstep, hnext⟩ := h.perform (hcommands command List.mem_cons_self)
    exact .cons hstep (ih hnext hlater)

/-! ## Streams that were opened -/

/-- A server that gives parts lets a stream be opened: what address and options say is all that
could be wrong. -/
theorem openAt_of_serves {config : Config} {cookies : CookieProvider (Server τ)}
    {address text : String} {options : ConnectOptions} {v : World (Server τ)} {scheme : Scheme}
    {rest : List Char} {url : Url} {settings : Settings} {base : HeaderMap}
    (haddress : Address.normalize address = .ok (.openAt text))
    (hasked : ConnectOptions.build config .read cookies w = (options, v))
    (hsplit : Scheme.split? text = some (scheme, rest)) (hurl : Url.parse scheme rest = .ok url)
    (hreachable : url.Reachable t) (hsettings : (Settings.takeFrom options).1 = .ok settings)
    (hbase : prepare v.state.files url settings = .ok base)
    (hserves : ServesParts url content v.state.react)
    (hsilent : (Interrupt.ofToken? config.cancel).Silent v.signals)
    (hcaller : AsksNoPart options) :
    ∃ s w' c, Stream.openAt (backendOver t) config cookies address .read w = (.ok (.stream s), w') ∧
      s.conn = some c ∧ c.url = url := by
  have hunasked := values_base_of_asksNoPart hcaller hsettings hbase
  obtain ⟨r, memory, hreact, hstatus, -⟩ := hserves.whole _ v.state.memory
    (isFor_asking url base none) (values_rangeName (prepare_ok hbase).1 hunasked url none)
  have haccepted : isAccepted none r.status = true := by
    rw [hstatus]
    rfl
  let request : ConnectRequest := ⟨text, .read, options, Interrupt.ofToken? config.cancel⟩
  have hchecked : (checked v.state.files request).1 = .ok (url, settings, base) :=
    checked_eq_ok_iff.2 ⟨scheme, rest, hsplit, by simp [request], hurl, hsettings, hbase⟩
  have hsend := send_of_accepted hreachable hsilent (congrArg Prod.fst hreact) haccepted
  obtain ⟨hanswer, -⟩ := connect_of_opened hchecked hsend
  let start : Stream (Server τ) Connection := Stream.Origin.stream ⟨config, cookies, text, .read⟩
  have hrequest : start.request w = _ := Stream.request_of_build hasked
  have hconnect := Stream.connect_of_answer (B := backendOver t) (s := start) (w := w)
    (by rw [hrequest]; exact hanswer)
  exact ⟨_, _, _, Stream.openAt_of_connect haddress hconnect, rfl, rfl⟩

/-- A stream that was opened at a server that gives parts is at the start. -/
theorem positionedAt_of_open {config : Config} {cookies : CookieProvider (Server τ)}
    {address : String}
    {w' : World (Server τ)} {c : Connection} {options : ConnectOptions} {v : World (Server τ)}
    (hopen : Stream.openAt (backendOver t) config cookies address .read w = (.ok (.stream s), w'))
    (hconn : s.conn = some c)
    (hasked : ConnectOptions.build config .read cookies w = (options, v))
    (hserves : ServesParts c.url content v.state.react)
    (hsilent : (Interrupt.ofToken? config.cancel).Silent v.signals)
    (hcaller : AsksNoPart options) : PositionedAt t content 0 s w' := by
  obtain ⟨url, -, hconnect⟩ := Stream.connected_of_openAt hopen
  obtain ⟨c', hanswer, hworld, rfl⟩ := Stream.connected_of_connect hconnect
  obtain rfl : c' = c := Option.some.inj hconn
  rw [Stream.request_of_build hasked] at hanswer hworld
  obtain ⟨hpositioned, hpos⟩ := Connection.positioned_of_connect hanswer hserves hsilent hcaller
  have hworld : (connect t _ v).world = w' := hworld
  rw [hworld] at hpositioned
  exact ⟨c', rfl, hpositioned.terms.seekable, hpos, hpositioned⟩

/-- **A stream over a server that gives parts is a cursor.** Let a stream be opened for reading at a
server that gives some content in parts, whatever chunks they come in, by a caller who asks for no
part and whom nobody breaks off. Then the stream answers any reads and seeks as a cursor in the
content does that starts at the first byte. -/
theorem stream_is_cursor (t : Transport) {config : Config} {cookies : CookieProvider (Server τ)}
    {address : String}
    {w' : World (Server τ)} {c : Connection} {options : ConnectOptions} {v : World (Server τ)}
    (hopen : Stream.openAt (backendOver t) config cookies address .read w = (.ok (.stream s), w'))
    (hconn : s.conn = some c)
    (hasked : ConnectOptions.build config .read cookies w = (options, v))
    (hserves : ServesParts c.url content v.state.react)
    (hsilent : (Interrupt.ofToken? config.cancel).Silent v.signals)
    (hcaller : AsksNoPart options) {commands : List Stream.Command}
    (hcommands : ∀ command ∈ commands, MovesCursor command) :
    CursorRun content 0 commands (s.performAll (backendOver t) w' commands).result := by
  have hpositioned := positionedAt_of_open hopen hconn hasked hserves hsilent hcaller
  exact hpositioned.performAll hcommands

/-- The position from which a value asks for a part, if there are bytes behind it. -/
def partAsked? (length : Nat) (value : String) : Option Nat :=
  (List.range length).find? fun pos => (rangeField pos).2 == value

theorem partAsked?_rangeField (length pos : Nat) :
    partAsked? length (rangeField pos).2 = if pos < length then some pos else none := by
  cases hasked : partAsked? length (rangeField pos).2 with
  | none =>
    have hnot := List.find?_eq_none.1 hasked
    rw [if_neg]
    intro hlt
    exact hnot pos (List.mem_range.2 hlt) (by simp)
  | some found =>
    have hsame : found = pos := rangeField_inj (by simpa using List.find?_some hasked)
    have hmem : found < length := List.mem_range.1 (List.mem_of_find?_eq_some hasked)
    rw [if_pos (hsame ▸ hmem), hsame]

/-- What such a server makes of the values that ask for a part. -/
def partsOf (content : Bytes) : List String → Response
  | [] => ⟨200, .ofFields [("accept-ranges", "bytes")], some content.length, ⟨[content], .complete⟩⟩
  | value :: _ =>
    match partAsked? content.length value with
    | some pos => ⟨206, .empty, some (content.length - pos), ⟨[[], content.drop pos], .complete⟩⟩
    | none => ⟨416, .empty, some 0, {}⟩

/-- A server that gives parts of some content, each with an empty chunk in front. -/
def givesParts (content : Bytes) (request : Request) (memory : Unit) : Reaction × Unit :=
  (.respond (partsOf content (request.values rangeName)), memory)

theorem servesParts_givesParts (url : Url) (content : Bytes) :
    ServesParts url content (givesParts content) where
  whole := by
    intro request memory _ hvalues
    refine ⟨partsOf content [], memory, ?_, rfl, rfl, rfl, rfl, ?_, rfl⟩
    · rw [givesParts, hvalues]
    · simp [partsOf, Body.bytes]
  part := by
    intro request memory pos _ hvalues hpos
    have hasked := partAsked?_rangeField content.length pos
    rw [if_pos hpos] at hasked
    refine ⟨partsOf content [(rangeField pos).2], memory, ?_, ?_, ?_⟩
    · rw [givesParts, hvalues]
      rfl
    · rw [partsOf, hasked]
    · rw [partsOf, hasked]
      exact ⟨by simp [Body.bytes], rfl⟩
  beyond := by
    intro request memory pos _ hvalues hpos
    have hasked := partAsked?_rangeField content.length pos
    rw [if_neg (by omega)] at hasked
    refine ⟨partsOf content [(rangeField pos).2], memory, ?_, ?_⟩
    · rw [givesParts, hvalues]
      rfl
    · rw [partsOf, hasked]

/-- A file of five bytes on a server that gives parts. -/
def helloServer : World (Server Unit) where
  state := { react := givesParts [104, 101, 108, 108, 111], memory := () }

/-- Reading on, seeking back and to the end, seeking behind it, and reading after that. -/
theorem stream_is_cursor_hello :
    ∃ s w' c, Stream.openAt (backendOver .direct) {} .none "https://[::1]/f" .read helloServer =
        (.ok (.stream s), w') ∧ s.conn = some c ∧
      CursorRun [104, 101, 108, 108, 111] 0
        [.read 2, .seek 5, .read 1, .seek 9, .read 4, .seek 1, .read 9]
        (s.performAll (backendOver .direct) w'
          [.read 2, .seek 5, .read 1, .seek 9, .read 4, .seek 1, .read 9]).result := by
  let url : Url := ⟨.https, "", none, .ipv6 [0, 0, 0, 0, 0, 0, 0, 1], none, "/f", none, none⟩
  let options : ConnectOptions := ⟨[("tls_verify", "0"), ("icy", "1")]⟩
  have hsplit : Scheme.split? "https://[::1]/f" = some (.https, "//[::1]/f".toList) := by
    decide +kernel
  have hurl : Url.parse .https "//[::1]/f".toList = .ok url := rfl
  have hreachable : url.Reachable .direct := ⟨rfl, by decide +kernel⟩
  have hasked : ConnectOptions.build {} .read .none helloServer = (options, helloServer) := by
    have hoptions : ConnectOptions.assemble {} .read none = options := by decide +kernel
    rw [← hoptions]
    rfl
  have hsettings : (Settings.takeFrom options).1 = .ok { icy := true } := rfl
  have hcaller : AsksNoPart options := by
    intro settings h field hfield
    rw [hsettings] at h
    rw [← Except.ok.inj h] at hfield
    exact absurd hfield (by simp)
  have hsilent := Interrupt.silent_never helloServer.signals
  have haddress : Address.normalize "https://[::1]/f" = .ok (.openAt "https://[::1]/f") := rfl
  obtain ⟨s, w', c, hopen, hconn, -⟩ := openAt_of_serves haddress hasked hsplit hurl hreachable
    hsettings rfl (servesParts_givesParts _ _) hsilent hcaller
  refine ⟨s, w', c, hopen, hconn, ?_⟩
  refine stream_is_cursor .direct hopen hconn hasked (servesParts_givesParts _ _) hsilent hcaller ?_
  simp [MovesCursor]

end ByteStream.Http
