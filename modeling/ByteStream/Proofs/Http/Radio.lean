/-
# ByteStream.Proofs.Http.Radio -- what a radio says is reported when it is new

A stream that cuts metadata out of its wire has used up the beginning of the wire, byte by byte,
and shows the packets that are complete in what it has used up (`Receiving`). Reads use up more,
polls look, and nothing else that is done with the stream or beside it matters, as long as it does
not connect again. So the first poll reports, and a later one reports exactly if a packet was
completed since the poll before it (`tags_reported_when_new`).
-/

import ByteStream.Proofs.Http.Delivery
import ByteStream.Proofs.Http.Exchange
import ByteStream.Proofs.Http.IcyHeaders
import ByteStream.Proofs.Icy.News
import ByteStream.Proofs.Icy.Packets
import ByteStream.Proofs.Stream.Actions

namespace ByteStream.Http

variable {τ : Type}

/-! ## Using up the wire -/

namespace Connection

/-- The bytes of a wire that are used up: those that are neither pending nor to come. -/
def consumed (wire : Bytes) (c : Connection) : Bytes := wire.take (wire.length - c.wire.length)

theorem consumed_of_eq {wire used : Bytes} {c : Connection} (h : wire = used ++ c.wire) :
    c.consumed wire = used := by
  rw [consumed, h, List.length_append, Nat.add_sub_cancel, List.take_left]

/-- The demuxer, if there is one, after some bytes of the wire. -/
def demuxed (c : Connection) (used : Bytes) : Option Icy.Demuxer :=
  c.demuxer.map fun d => (d.onBytes used).2

theorem exists_used_takePending {c : Connection} (h : ∀ d, c.demuxer = some d → d.Sound)
    (n : Nat) :
    ∃ used, c.wire = used ++ (c.takePending n).2.wire ∧
      (c.takePending n).2.demuxer = c.demuxed used := by
  have hwire {used : Bytes} (hpending : c.pending = used ++ (c.takePending n).2.pending) :
      c.wire = used ++ (c.takePending n).2.wire := by
    rw [wire, wire, body_takePending, ← List.append_assoc, ← hpending]
  cases hd : c.demuxer with
  | none =>
    refine ⟨c.pending.take n, hwire ?_, ?_⟩
    · simp only [takePending, hd, List.take_append_drop]
    · simp only [takePending, demuxed, hd, Option.map_none]
  | some d =>
    obtain ⟨used, hused, hrun⟩ := Icy.Demuxer.exists_used_demux (h d hd) c.pending n
    refine ⟨used, hwire ?_, ?_⟩
    · simpa only [takePending, hd] using hused
    · simp only [takePending, demuxed, hd, hrun, Option.map_some]

/-- A read moves the demuxer over the bytes that it uses up, and over no others. -/
theorem exists_used_readOn {c : Connection} (h : ∀ d, c.demuxer = some d → d.Sound) {n : Nat}
    (hn : 0 < n) (w : World (Server τ)) :
    ∃ used, c.wire = used ++ (c.readOn n w).conn.wire ∧
      (c.readOn n w).conn.demuxer = c.demuxed used := by
  induction c, w using readOn_induct (n := n) with
  | failure c w taken _ body hbody waited w' later hnext hread =>
    rw [hread]
    -- The end of a body, of either kind, has no bytes.
    obtain ⟨rfl, rfl⟩ := Body.eq_of_next?_failure hnext
    obtain ⟨used, hused, hdemuxer⟩ := exists_used_takePending h n
    have hend : taken.2.wire = wire { taken.2 with body := some ⟨[], .complete⟩ } := by
      rw [wire_of_body hbody, wire_of_body rfl]
      rfl
    exact ⟨used, hused.trans (congrArg (used ++ ·) hend), hdemuxer⟩
  | finish c w taken _ body hbody waited w' later hnext hread =>
    rw [hread]
    obtain ⟨used, hused, hdemuxer⟩ := exists_used_takePending h n
    have hend : taken.2.wire = wire { taken.2 with body := none } := by
      rw [wire_of_body hbody, Body.bytes_of_next?_finish hnext]
      rfl
    exact ⟨used, hused.trans (congrArg (used ++ ·) hend), hdemuxer⟩
  | chunk c w taken hnone body hbody waited w' bytes later hnext hread ih =>
    rw [hread]
    obtain ⟨used, hused, hdemuxer⟩ := exists_used_takePending h n
    obtain ⟨more, hmore, hlater⟩ := ih (sound_takePending h n)
    have hwire : taken.2.wire = wire { taken.2 with pending := bytes, body := some later } := by
      rw [wire_of_body hbody, pending_takePending hn hnone, List.nil_append,
        Body.bytes_of_next?_chunk hnext, wire_of_body rfl]
    refine ⟨used ++ more, ?_, ?_⟩
    · rw [hused, hwire, hmore, List.append_assoc]
    · rw [hlater, demuxed, demuxed, hdemuxer, demuxed, Option.map_map]
      congr 1
      funext d
      rw [Icy.Demuxer.onBytes_append]
      rfl
  | _ =>
    rename_i hread
    rw [hread]
    exact exists_used_takePending h n

/-- So does a read with no room, which uses up nothing. -/
theorem exists_used_read {c : Connection} (h : ∀ d, c.demuxer = some d → d.Sound) (n : Nat)
    (w : World (Server τ)) :
    ∃ used, c.wire = used ++ (c.read n w).conn.wire ∧
      (c.read n w).conn.demuxer = c.demuxed used := by
  rw [read_eq]
  split
  · exact ⟨[], rfl, by simp [demuxed, Reply.done, Icy.Demuxer.onBytes]⟩
  · rename_i hn
    exact exists_used_readOn h (Nat.pos_of_ne_zero hn) w

theorem icyHeaders_read (c : Connection) (n : Nat) (w : World (Server τ)) :
    (c.read n w).conn.icyHeaders = c.icyHeaders := by
  rw [read_eq]
  split
  · rfl
  · exact congrArg Terms.icyHeaders (terms_readOn c n w)

end Connection

end ByteStream.Http

namespace ByteStream.Stream

open Http

variable {τ : Type}

/-! ## What is shown and what is reported -/

/-- What is shown of a list of packets. -/
def shownOf (headers : Option String) (packets : List String) : Icy.Fields :=
  ⟨headers, packets.getLast?, some packets.length⟩

theorem isEmpty_shownOf {headers : Option String} (hheaders : headers.getD "" ≠ "")
    (packets : List String) : (shownOf headers packets).isEmpty = false := by
  simp [Icy.Fields.isEmpty, Icy.Fields.headerText, shownOf, hheaders]

/-- The tags of an answer and of the packets read: those of the metadata fields, and the title
of the latest packet, if it has one. -/
def announced (headers : HeaderMap) (packets : List String) : Tags :=
  match packets.getLast?.bind Icy.title? with
  | none => Tags.ofList (icyFields headers)
  | some title => (Tags.ofList (icyFields headers)).set Icy.titleTag title

theorem parse_shownOf {headers : HeaderMap} (h : headers.Named) (packets : List String) :
    Icy.parse (shownOf (icyHeaders? headers) packets).headerText
      (shownOf (icyHeaders? headers) packets).packetText = announced headers packets := by
  have htitle : Icy.title? (packets.getLast?.getD "") = packets.getLast?.bind Icy.title? := by
    cases packets.getLast? with
    | none => decide
    | some packet => rfl
  simp only [Icy.parse, Icy.Fields.headerText, Icy.Fields.packetText, shownOf,
    headerFields_headerText h, htitle]
  rfl

/-! ## Streams that hear packets -/

/-- The stream reads a wire whose packets are counted: it has used up the beginning of the wire,
its demuxer, which started as `start`, has gone over these bytes and no others, and the header
lines are as they were. It cannot seek. Its differ, if it has reported, knows the number that it
reported. -/
structure Receiving (start : Icy.Demuxer) (wire : Bytes) (headers : Option String) (used : Bytes)
    (s : Stream (Server τ) Connection) : Prop where
  conn : ∃ c, s.conn = some c ∧ wire = used ++ c.wire ∧
    c.demuxer = some (start.onBytes used).2 ∧ c.icyHeaders = headers
  seekable : s.seekable = false
  counted : s.differ.last = none ∨ s.differ.mark?.isSome = true

section Receiving

variable {t : Transport} {m : Nat} {start : Icy.Demuxer} {wire used : Bytes}
  {headers : Option String} {s : Stream (Server τ) Connection}

/-- The packets that a stream has read off a wire. -/
def packetsRead (m : Nat) (wire : Bytes) (s : Stream (Server τ) Connection) : List String :=
  match s.conn with
  | none => []
  | some c => Icy.packets m (c.consumed wire)

theorem Receiving.heard_eq (h : Receiving start wire headers used s) :
    s.packetsRead m wire = Icy.packets m used := by
  obtain ⟨c, hconn, hwire, -, -⟩ := h.conn
  rw [packetsRead, hconn]
  dsimp only
  rw [Connection.consumed_of_eq hwire]

/-- The stream shows the packets that it has read. -/
theorem Receiving.pollTags (hstart : Icy.Demuxer.ofInterval m = some start)
    (h : Receiving start wire headers used s) (w : World (Server τ)) :
    s.pollTags (backendOver t) w =
      let polled := s.differ.poll (shownOf headers (s.packetsRead m wire))
      ⟨newsView polled.1, { s with differ := polled.2 }, w⟩ := by
  obtain ⟨c, hconn, hwire, hdemuxer, hheaders⟩ := h.conn
  have hshown : c.icyFields = shownOf headers (s.packetsRead m wire) := by
    obtain ⟨hpacket, hsequence⟩ := Icy.Demuxer.packets_onBytes hstart used
    rw [h.heard_eq, shownOf, ← hpacket, ← hsequence, ← hheaders]
    simp only [Connection.icyFields, hdemuxer, Option.bind_some, Option.map_some]
  rw [pollTags_of_conn hconn]
  show (⟨newsView (s.differ.poll c.icyFields).1,
    { s with conn := some c, differ := (s.differ.poll c.icyFields).2 }, w⟩ : Outcome _ _ _) = _
  rw [hshown, ← hconn]

theorem Receiving.read (hsound : start.Sound) (h : Receiving start wire headers used s) (n : Nat)
    (w : World (Server τ)) :
    ∃ more, Receiving start wire headers (used ++ more) (s.read (backendOver t) n w).stream ∧
      (s.read (backendOver t) n w).stream.differ = s.differ := by
  obtain ⟨c, hconn, hwire, hdemuxer, hheaders⟩ := h.conn
  have hsounds : ∀ d, c.demuxer = some d → d.Sound := by
    intro d hd
    rw [hdemuxer] at hd
    exact Option.some.inj hd ▸ hsound.onBytes used
  obtain ⟨more, hmore, hlater⟩ := Connection.exists_used_read hsounds n w
  have hread : s.read (backendOver t) n w = _ := call_of_conn hconn w _ _ _
  rw [hread]
  refine ⟨more, ⟨⟨(c.read n w).conn, rfl, ?_, ?_, ?_⟩, h.seekable, h.counted⟩, rfl⟩
  · rw [hwire, hmore, List.append_assoc]
  · rw [hlater, Connection.demuxed, hdemuxer, Option.map_some, Icy.Demuxer.onBytes_append]
  · rw [Connection.icyHeaders_read, hheaders]

/-- A poll remembers the number of the packets that were read. -/
theorem Receiving.act_tags (hstart : Icy.Demuxer.ofInterval m = some start)
    (hheaders : headers.getD "" ≠ "") (h : Receiving start wire headers used s)
    (w : World (Server τ)) :
    Receiving start wire headers used (s.act (backendOver t) w (.control .tags)).stream ∧
      (s.act (backendOver t) w (.control .tags)).stream.differ.mark? =
        some (s.packetsRead m wire).length := by
  have hact : (s.act (backendOver t) w (.control .tags)).stream =
      (s.pollTags (backendOver t) w).stream := rfl
  rw [hact, h.pollTags hstart]
  have hmark := Icy.Differ.mark?_poll h.counted (f := shownOf headers (s.packetsRead m wire)) rfl
    (isEmpty_shownOf hheaders _)
  exact ⟨⟨h.conn, h.seekable, .inr (by rw [hmark]; rfl)⟩, hmark⟩

/-- Whatever else is done, short of connecting again, leaves the differ alone and may use up more
of the wire. -/
theorem Receiving.act_other (hsound : start.Sound) (h : Receiving start wire headers used s)
    (w : World (Server τ)) {action : Action (Server τ)} (hreconnect : action ≠ .control .reconnect)
    (htags : action ≠ .control .tags) :
    ∃ more, Receiving start wire headers (used ++ more) (s.act (backendOver t) w action).stream ∧
      (s.act (backendOver t) w action).stream.differ = s.differ := by
  have hunmoved {s' : Stream (Server τ) Connection} (hs : s' = s) :
      ∃ more, Receiving start wire headers (used ++ more) s' ∧ s'.differ = s.differ :=
    ⟨[], by rw [hs, List.append_nil]; exact h, by rw [hs]⟩
  have hcall {α β : Type} {f : Connection → World (Server τ) → Reply (Server τ) Connection β}
      (hf : ∀ c, ∃ answer, f c w = ⟨answer, c, w⟩) (absent : α)
      (view : Except BackendError β → α) : (s.call w absent f view).stream = s := by
    obtain ⟨result, hresult⟩ := exists_call_eq (s := s) (fun c _ => hf c) absent view
    rw [hresult]
  cases action with
  | read n => exact h.read hsound n w
  | write data =>
    exact hunmoved
      (hcall (f := fun c w => (backendOver t).writeThrough c data w) (fun c => ⟨_, rfl⟩)
      (Except.error (StreamError.noConnection .write))
      (Except.mapError (StreamError.ofBackend .write)))
  | seek pos =>
    have hrefused : s.seek (backendOver t) pos w = ⟨.error (.unsupported .seek), s, w⟩ := by
      rw [Stream.seek, if_neg (by simp [h.seekable])]
    exact hunmoved (congrArg Outcome.stream hrefused)
  | control request =>
    cases request with
    | size => exact hunmoved (hcall (f := (backendOver t).size) (fun c => ⟨_, rfl⟩)
        ControlResult.unsupported sizeView)
    | seekTime seek =>
      exact hunmoved (hcall (f := fun c w => (backendOver t).seekTime c seek w) (fun c => ⟨_, rfl⟩)
        ControlResult.unsupported seekTimeView)
    | tags => exact absurd rfl htags
    | reconnect => exact absurd rfl hreconnect
  | openAt address mode config cookies => exact hunmoved rfl
  | signal now => exact hunmoved rfl

/-- Whatever is done, a stream goes on receiving the wire, and what it has used up stays so. -/
theorem Receiving.actAll (hstart : Icy.Demuxer.ofInterval m = some start)
    (hheaders : headers.getD "" ≠ "") (h : Receiving start wire headers used s)
    (w : World (Server τ)) {actions : List (Action (Server τ))}
    (hreconnect : .control .reconnect ∉ actions) :
    ∃ more, Receiving start wire headers (used ++ more)
      (actAll (backendOver t) s w actions).stream ∧
      (.control .tags ∉ actions →
        (actAll (backendOver t) s w actions).stream.differ = s.differ) := by
  induction actions generalizing s w used with
  | nil => exact ⟨[], by rw [List.append_nil]; exact h, fun _ => rfl⟩
  | cons action later ih =>
    rw [List.mem_cons, not_or] at hreconnect
    by_cases htags : action = .control .tags
    · subst htags
      have hnow := (h.act_tags (t := t) hstart hheaders w).1
      obtain ⟨more, hmore, -⟩ := ih hnow _ hreconnect.2
      exact ⟨more, hmore, fun hnone => absurd List.mem_cons_self hnone⟩
    · obtain ⟨first, hfirst, hdiffer⟩ := h.act_other (Icy.Demuxer.sound_ofInterval hstart) w
        (Ne.symm hreconnect.1) htags
      obtain ⟨more, hmore, hsame⟩ := ih hfirst _ hreconnect.2
      refine ⟨first ++ more, by rw [← List.append_assoc]; exact hmore, ?_⟩
      intro hnone
      rw [List.mem_cons, not_or] at hnone
      exact (hsame hnone.2).trans hdiffer

/-- A stream that has not been polled since it connected reports at the first poll. -/
theorem Receiving.first_poll {headers : HeaderMap} {interval : Nat}
    (hm : icyInterval? headers = some interval) (hnamed : headers.Named)
    (hstart : Icy.Demuxer.ofInterval m = some start)
    (h : Receiving start wire (icyHeaders? headers) used s) (hlast : s.differ.last = none)
    (w : World (Server τ)) :
    (s.control (backendOver t) .tags w).result =
      .success (.tags (announced headers (s.packetsRead m wire))) := by
  have hpoll := Icy.Differ.poll_of_last_none hlast
    (isEmpty_shownOf (headerText_ne_empty hm) (s.packetsRead m wire))
  show (s.pollTags (backendOver t) w).result = _
  rw [h.pollTags hstart]
  dsimp only
  rw [hpoll, parse_shownOf hnamed, newsView]

/-- A stream that has been polled reports exactly if it has read a packet since. -/
theorem Receiving.next_poll {headers : HeaderMap} {interval : Nat}
    (hm : icyInterval? headers = some interval) (hnamed : headers.Named)
    (hstart : Icy.Demuxer.ofInterval m = some start)
    (h : Receiving start wire (icyHeaders? headers) used s) (w : World (Server τ))
    {between : List (Action (Server τ))} (hreconnect : .control .reconnect ∉ between)
    (htags : .control .tags ∉ between) :
    let now := Stream.actAll (backendOver t) s w (.control .tags :: between)
    ∃ new, now.stream.packetsRead m wire = s.packetsRead m wire ++ new ∧
      (now.stream.control (backendOver t) .tags now.world).result =
        if new = [] then .unsupported
        else .success (.tags (announced headers (now.stream.packetsRead m wire))) := by
  intro now
  have hheaders := headerText_ne_empty hm
  obtain ⟨hpolled, hmark⟩ := h.act_tags hstart hheaders w
  obtain ⟨more, hreceiving, hsame⟩ := hpolled.actAll hstart hheaders
    (s.act (backendOver t) w (.control .tags)).world hreconnect
  have hnow : Receiving start wire (icyHeaders? headers) (used ++ more) now.stream := hreceiving
  have hmarked : now.stream.differ.mark? = some (s.packetsRead m wire).length := by
    rw [← hmark]
    exact congrArg Icy.Differ.mark? (hsame htags)
  obtain ⟨new, hnew⟩ : s.packetsRead m wire <+: now.stream.packetsRead m wire := by
    rw [h.heard_eq, hnow.heard_eq]
    exact Icy.packets_append m _ _
  have hcount : (now.stream.packetsRead m wire).length = (s.packetsRead m wire).length ↔
      new = [] := by
    rw [← hnew, List.length_append, ← List.length_eq_zero_iff]
    omega
  have hpoll := Icy.Differ.poll_of_mark hmarked rfl
    (isEmpty_shownOf hheaders (now.stream.packetsRead m wire))
  refine ⟨new, hnew.symm, ?_⟩
  show (now.stream.pollTags (backendOver t) now.world).result = _
  rw [hnow.pollTags hstart]
  dsimp only
  rw [hpoll, parse_shownOf hnamed]
  by_cases hnone : new = []
  · rw [if_pos (hcount.2 hnone), if_pos hnone, newsView]
  · rw [if_neg (mt hcount.1 hnone), if_neg hnone, newsView]

end Receiving

/-! ## Streams that were opened on an answer -/

variable {t : Transport} {config : Config} {cookies : CookieProvider (Server τ)} {address : String}
  {mode : Mode} {s : Stream (Server τ) Connection} {w w' : World (Server τ)}

/-- A stream is opened on the answer to its first request, with the settings of its options. -/
theorem openedOn_of_openAt
    (hopen : Stream.openAt (backendOver t) config cookies address mode w = (.ok (.stream s), w')) :
    ∃ url base settings r,
      (Settings.takeFrom (ConnectOptions.build config mode cookies w).1).1 = .ok settings ∧
      send t url base none (Interrupt.ofToken? config.cancel)
        (ConnectOptions.build config mode cookies w).2 = (.ok r, w') ∧
      s.conn = some
        (.ofResponse url base (Interrupt.ofToken? config.cancel) settings.icy r) ∧
      s.seekable = (Connection.ofResponse url base (Interrupt.ofToken? config.cancel)
        settings.icy r).seekable ∧
      s.differ = {} := by
  obtain ⟨target, -, hconnect⟩ := connected_of_openAt hopen
  obtain ⟨c, hanswer, hworld, rfl⟩ := connected_of_connect hconnect
  obtain ⟨url, settings, base, r, hchecked, hsend, rfl⟩ := opened_of_connect hanswer
  obtain ⟨_, _, -, -, -, hsettings, -⟩ := checked_eq_ok_iff.1 hchecked
  have hafter : (Http.connect t _ _).world = w' := hworld
  rw [hafter] at hsend
  exact ⟨url, base, settings, r, hsettings, hsend, rfl, rfl, rfl⟩

/-- An answer that announces an interval, to a caller who wants metadata, is received from its
first byte on. -/
theorem receiving_of_opened {url : Url} {base : HeaderMap} {interrupt : Interrupt} {r : Response}
    {m : Nat} {start : Icy.Demuxer} (hm : icyInterval? r.headers = some m)
    (hstart : Icy.Demuxer.ofInterval m = some start)
    (hconn : s.conn = some (.ofResponse url base interrupt true r))
    (hseekable : s.seekable = (Connection.ofResponse url base interrupt true r).seekable)
    (hdiffer : s.differ = {}) :
    Receiving start r.body.bytes (icyHeaders? r.headers) [] s := by
  have hdemuxer : demuxer? true r.headers = some start := by
    rw [demuxer?, if_pos rfl, hm]
    exact hstart
  refine ⟨⟨_, hconn, rfl, hdemuxer, rfl⟩, ?_, .inl (by rw [hdiffer])⟩
  rw [hseekable]
  show (_ && (demuxer? true r.headers).isNone) = false
  rw [hdemuxer]
  exact Bool.and_false _

/-- **What a radio says is reported when it is new.** On any transport, a stream was opened on an
answer that announces an interval, by a caller who wants metadata. Then, whatever is done short of
connecting again: the first poll reports; and a poll after another one reports exactly if packets
were completed in between. What is reported are the tags of the metadata fields, and the title of
the latest packet if it has one. -/
theorem tags_reported_when_new (t : Transport)
    (hopen : Stream.openAt (backendOver t) config cookies address mode w = (.ok (.stream s), w')) :
    ∃ url base settings r,
      (Settings.takeFrom (ConnectOptions.build config mode cookies w).1).1 = .ok settings ∧
      send t url base none (Interrupt.ofToken? config.cancel)
        (ConnectOptions.build config mode cookies w).2 = (.ok r, w') ∧
      s.conn = some
        (.ofResponse url base (Interrupt.ofToken? config.cancel) settings.icy r) ∧
      ∀ m, settings.icy = true → icyInterval? r.headers = some m → 0 < m → r.headers.Named →
        (∀ actions, .control .reconnect ∉ actions → .control .tags ∉ actions →
          let now := actAll (backendOver t) s w' actions
          (now.stream.control (backendOver t) .tags now.world).result =
            .success (.tags (announced r.headers (now.stream.packetsRead m r.body.bytes)))) ∧
        ∀ before between, .control .reconnect ∉ before → .control .reconnect ∉ between →
          .control .tags ∉ between →
          let last := actAll (backendOver t) s w' before
          let now := actAll (backendOver t) last.stream last.world (.control .tags :: between)
          ∃ new, now.stream.packetsRead m r.body.bytes =
            last.stream.packetsRead m r.body.bytes ++ new ∧
            (now.stream.control (backendOver t) .tags now.world).result =
              if new = [] then .unsupported
              else
                .success (.tags (announced r.headers (now.stream.packetsRead m r.body.bytes))) := by
  obtain ⟨url, base, settings, r, hsettings, hsend, hconn, hseekable, hdiffer⟩ :=
    openedOn_of_openAt hopen
  refine ⟨url, base, settings, r, hsettings, hsend, hconn, ?_⟩
  intro m hicy hm hpos hnamed
  rw [hicy] at hconn hseekable
  obtain ⟨start, hstart⟩ : ∃ start, Icy.Demuxer.ofInterval m = some start := by
    rw [Icy.Demuxer.ofInterval, if_neg (by omega)]
    exact ⟨_, rfl⟩
  have hreceiving := receiving_of_opened hm hstart hconn hseekable hdiffer
  have hheaders := headerText_ne_empty hm
  constructor
  · intro actions hreconnect htags now
    obtain ⟨used, hnow, hsame⟩ := hreceiving.actAll hstart hheaders w' hreconnect
    exact hnow.first_poll hm hnamed hstart (by rw [hsame htags, hdiffer]) now.world
  · intro before between hbefore hreconnect htags last
    obtain ⟨used, hlast, -⟩ := hreceiving.actAll hstart hheaders w' hbefore
    exact hlast.next_poll hm hnamed hstart last.world hreconnect htags

/-! ### Two radios -/

/-- A server that answers every request alike. -/
def answering (r : Response) : World (Server Unit) where
  state := { react := fun _ memory => (.respond r, memory), memory := () }

/-- The options of a caller who wants nothing in particular. -/
def bareOptions : ConnectOptions := ⟨[("tls_verify", "0"), ("icy", "1")]⟩

theorem build_bare {σ : Type} (w : World σ) :
    ConnectOptions.build {} .read .none w = (bareOptions, w) := by
  have hoptions : ConnectOptions.assemble {} .read none = bareOptions := by decide +kernel
  rw [← hoptions]
  rfl

theorem openAt_answering {r : Response} (h : isAccepted none r.status = true) :
    ∃ s w', Stream.openAt (backendOver .direct) {} .none "https://[::1]/f" .read (answering r) =
      (.ok (.stream s), w') := by
  let url : Url := ⟨.https, "", none, .ipv6 [0, 0, 0, 0, 0, 0, 0, 1], none, "/f", none, none⟩
  let request : ConnectRequest := ⟨"https://[::1]/f", .read, bareOptions, .never⟩
  have haddress : Address.normalize "https://[::1]/f" = .ok (.openAt "https://[::1]/f") := rfl
  have hsplit : Scheme.split? request.url = some (.https, "//[::1]/f".toList) := by decide +kernel
  have hurl : Url.parse .https "//[::1]/f".toList = .ok url := rfl
  have hreachable : url.Reachable .direct := ⟨rfl, by decide +kernel⟩
  have hsettings : (Settings.takeFrom request.options).1 = .ok { icy := true } := rfl
  have hchecked : (checked (answering r).state.files request).1 = .ok (url, { icy := true }, _) :=
    checked_eq_ok_iff.2 ⟨_, _, hsplit, by simp [request], hurl, hsettings, rfl⟩
  obtain ⟨hanswer, -⟩ := connect_of_opened hchecked
    (send_of_accepted hreachable (Interrupt.silent_never _) rfl h)
  let start : Stream (Server Unit) Connection :=
    Origin.stream ⟨{}, .none, "https://[::1]/f", .read⟩
  have hrequest : start.request (answering r) = (request, answering r) :=
    request_of_build (build_bare _)
  have hconnect := connect_of_answer (B := backendOver .direct) (s := start) (w := answering r)
    (by rw [hrequest]; exact hanswer)
  exact ⟨_, _, openAt_of_connect haddress hconnect⟩

/-- A stream that was opened at such a server was opened on that answer, by a caller who wants
metadata. -/
theorem openedOn_answering {r r' : Response} (h : isAccepted none r.status = true) {url : Url}
    {base : HeaderMap} {settings : Settings} {w' : World (Server Unit)}
    (hsettings : (Settings.takeFrom
      (ConnectOptions.build {} .read .none (answering r)).1).1 = .ok settings)
    (hsend : send t url base none (Interrupt.ofToken? none)
      (ConnectOptions.build {} .read .none (answering r)).2 = (.ok r', w')) :
    settings.icy = true ∧ r' = r := by
  have hread : (Settings.takeFrom
      (ConnectOptions.build {} .read .none (answering r)).1).1 = .ok { icy := true } := by
    rw [build_bare]
    rfl
  refine ⟨?_, ?_⟩
  · rw [← Except.ok.inj (hread.symm.trans hsettings)]
  · rw [build_bare] at hsend
    have hreachable : url.Reachable t := reachable_of_send (congrArg Prod.fst hsend)
    have hanswered : send t url base none .never (answering r) = (.ok r, _) :=
      send_of_accepted hreachable (Interrupt.silent_never _) rfl h
    exact (Except.ok.inj (Prod.mk.inj (hanswered.symm.trans hsend)).1).symm

/-- A radio that says the same title twice, each time behind two bytes of audio. -/
def titledRadio : Response where
  status := 200
  headers := .ofFields [("icy-metaint", "2"), ("icy-name", "R")]
  size := none
  body := ⟨[[97, 98, 1] ++ Text.utf8 "StreamTitle=\x27a\x27;",
    [99, 100, 1] ++ Text.utf8 "StreamTitle=\x27a\x27;"], .silent⟩

theorem tags_reported_when_new_titled :
    ∃ s w', Stream.openAt (backendOver .direct) {} .none "https://[::1]/f" .read
      (answering titledRadio) =
        (.ok (.stream s), w') ∧
      icyInterval? titledRadio.headers = some 2 ∧ titledRadio.headers.Named ∧
      (s.control (backendOver .direct) .tags w').result =
        .success (.tags (announced titledRadio.headers (s.packetsRead 2 titledRadio.body.bytes))) ∧
      let now := actAll (backendOver .direct) s w' [.control .tags, .read 3, .read 3]
      ∃ new, now.stream.packetsRead 2 titledRadio.body.bytes =
          s.packetsRead 2 titledRadio.body.bytes ++ new ∧
        (now.stream.control (backendOver .direct) .tags now.world).result =
          if new = [] then .unsupported
          else .success (.tags (announced titledRadio.headers
            (now.stream.packetsRead 2 titledRadio.body.bytes))) := by
  have hm : icyInterval? titledRadio.headers = some 2 := by decide +kernel
  have hnamed : titledRadio.headers.Named := by unfold HeaderMap.Named; decide +kernel
  have haccepted : isAccepted none titledRadio.status = true := by decide
  obtain ⟨s, w', hopen⟩ := openAt_answering haccepted
  obtain ⟨url, base, settings, r, hsettings, hsend, -, hpolls⟩ :=
    tags_reported_when_new .direct hopen
  obtain ⟨hicy, rfl⟩ := openedOn_answering haccepted hsettings hsend
  obtain ⟨hfirst, hnext⟩ := hpolls 2 hicy hm (by decide) hnamed
  exact ⟨s, w', hopen, hm, hnamed, hfirst [] (by simp) (by simp),
    hnext [] [.read 3, .read 3] (by simp) (by simp) (by simp)⟩

/-- A radio with a name that ASCII cannot show. -/
def accentedRadio : Response where
  status := 200
  headers := .ofFields [("icy-metaint", "2"), ("icy-name", "Caf\u00e9")]
  size := none
  body := ⟨[], .silent⟩

/-- The first poll reports, and leaves that name out. -/
theorem accented_name_not_reported :
    ∃ s w' tags, Stream.openAt (backendOver .direct) {} .none "https://[::1]/f" .read
      (answering accentedRadio) =
        (.ok (.stream s), w') ∧
      icyInterval? accentedRadio.headers = some 2 ∧
      ("icy-name", "Caf\u00e9") ∈ accentedRadio.headers.fields ∧
      (s.control (backendOver .direct) .tags w').result = .success (.tags tags) ∧
      tags.get? "icy-name" = none := by
  have hm : icyInterval? accentedRadio.headers = some 2 := by decide +kernel
  have hnamed : accentedRadio.headers.Named := by unfold HeaderMap.Named; decide +kernel
  have haccepted : isAccepted none accentedRadio.status = true := by decide
  obtain ⟨s, w', hopen⟩ := openAt_answering haccepted
  obtain ⟨url, base, settings, r, hsettings, hsend, hconn, hseekable, hdiffer⟩ :=
    openedOn_of_openAt hopen
  obtain ⟨hicy, rfl⟩ := openedOn_answering haccepted hsettings hsend
  rw [hicy] at hconn hseekable
  have hstart : Icy.Demuxer.ofInterval 2 = some ⟨2, .audio 2, [], none, 0⟩ := rfl
  have hreceiving := receiving_of_opened hm hstart hconn hseekable hdiffer
  have hpoll := hreceiving.first_poll (t := .direct) hm hnamed hstart (by rw [hdiffer]) w'
  have hheard : s.packetsRead 2 accentedRadio.body.bytes = [] := by
    rw [hreceiving.heard_eq, Icy.packets_nil]
  rw [hheard] at hpoll
  exact ⟨s, w', _, hopen, hm, by decide, hpoll, by decide +kernel⟩

end ByteStream.Stream
