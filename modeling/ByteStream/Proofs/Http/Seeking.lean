/-
# ByteStream.Proofs.Http.Seeking -- what a seek asks for, and when it succeeds

A seek of a stream over HTTP makes at most one request, and others only where it is redirected. The
request is made of the base fields, which hold what the caller wrote, and of one field more, which
is put behind what the caller wrote under its name. So the part that is sought is the only one that
is asked for exactly if no header field of the caller's asks for one (`seek_asks_behind_caller`); a
caller who does has each request for a part ask for two (`seek_asks_twice`).

Whether a seek succeeds is up to the server: the size that the connection knows is looked at only to
tell whether a request is needed at all. A seek past the end fails, and leaves the stream where it
is, unless a response with the status of a part gets through (`seek_past_end`); with such a response
it succeeds, and the stream reads on in that (`seek_past_end_succeeds`).
-/

import ByteStream.Proofs.Http.Requests
import ByteStream.Proofs.Stream.Idle

namespace ByteStream

namespace Http

open ConnectOptions

variable {τ : Type} {t : Transport}

/-! ## Seeks of a connection -/

namespace Connection

variable {c : Connection} {pos : Nat} {w : World (Server τ)}

/-- A response to the request for the part from the position on gets through, and its status is
accepted. -/
def Gets (t : Transport) (c : Connection) (pos : Nat) (w : World (Server τ))
    (r : Response) : Prop :=
  GetsThrough t c.url c.base (some pos) c.interrupt w r ∧
    isAccepted (some pos) r.status = true

/-- With a response the connection turns to its body. -/
theorem seek_of_gets (hseekable : c.seekable = true) (hsize : c.size ≠ some pos) {r : Response}
    (h : c.Gets t pos w r) :
    c.seek t pos w = ⟨.ok pos, c.turnTo pos (some r.body),
      (send t c.url c.base (some pos) c.interrupt w).2⟩ := by
  have hanswer := send_ok_iff.2 h
  rw [seek_eq, if_neg (by simp [hseekable]), if_neg hsize]
  generalize send t c.url c.base (some pos) c.interrupt w = sent at hanswer
  obtain ⟨answer, w'⟩ := sent
  obtain rfl : answer = .ok r := hanswer
  rfl

/-- Without one it stays as it is. -/
theorem seek_of_gets_none (hseekable : c.seekable = true) (hsize : c.size ≠ some pos)
    (h : ∀ r, ¬ c.Gets t pos w r) :
    ∃ e, c.seek t pos w =
      ⟨.error e, c, (send t c.url c.base (some pos) c.interrupt w).2⟩ := by
  cases hanswer : (send t c.url c.base (some pos) c.interrupt w).1 with
  | ok r => exact absurd (send_ok_iff.1 hanswer) (h r)
  | error e =>
    refine ⟨e, ?_⟩
    rw [seek_eq, if_neg (by simp [hseekable]), if_neg hsize]
    generalize send t c.url c.base (some pos) c.interrupt w = sent at hanswer
    obtain ⟨answer, w'⟩ := sent
    obtain rfl : answer = .error e := hanswer
    rfl

end Connection

/-! ## The fields of the caller -/

/-- The header fields that a configuration gives: those of the header block that the options end up
with. -/
def callerFields (config : Config) : Except HttpError (List (String × String)) :=
  ((effective config .read none headersKey).map Settings.parseHeaders).getD (.ok [])

/-- The mode and the cookies have no say in them. -/
theorem callerFields_of_takeFrom {σ : Type} {config : Config} {mode : Mode}
    {cookies : CookieProvider σ} {w : World σ} {settings : Settings}
    (h : (Settings.takeFrom (build config mode cookies w).1).1 = .ok settings) :
    callerFields config = .ok settings.headers := by
  have hblock : Settings.blockFields (build config mode cookies w).1 = callerFields config := by
    rw [build_eq, Settings.blockFields, get?_assemble]
    rfl
  rw [← hblock]
  cases hfields : Settings.blockFields (build config mode cookies w).1 with
  | error e =>
    rw [Settings.takeFrom_of_error hfields] at h
    cases h
  | ok fields =>
    rw [Settings.takeFrom_of_ok hfields] at h
    cases h
    rfl

/-- The parts that header fields ask for, in order. -/
def askedParts (fields : List (String × String)) : List String :=
  (fields.filter fun field => Text.lower field.1 == rangeName).map fun field => stripped field.2

theorem askedParts_eq_nil_iff {fields : List (String × String)} :
    askedParts fields = [] ↔ ∀ field ∈ fields, Text.lower field.1 ≠ rangeName := by
  simp [askedParts]

end Http

namespace Stream

open Http

variable {τ : Type} {t : Transport} {config : Config}
  {cookies : CookieProvider (Server τ)} {address : String} {mode : Mode}
  {s : Stream (Server τ) Connection} {c : Connection}

/-- Under the names that the backend does not look after, every request of a stream carries what
the caller wrote. -/
theorem base_of_reached (h : Reached (backendOver t) config cookies address mode s)
    (hconn : s.conn = some c) :
    ∃ fields, callerFields config = .ok fields ∧ c.base.Distinct ∧
      ∀ name, name ∉ ownNames → c.base.values name =
        (fields.filter fun field => Text.lower field.1 == name).map Prod.snd := by
  -- The base fields were made of the options of the attempt that gave the connection; no call
  -- has changed them since.
  obtain ⟨w, given, hanswer, hleads, -, -⟩ := h.connectionGiven c hconn
  obtain ⟨url, settings, base, r, hchecked, -, rfl⟩ := opened_of_connect hanswer
  obtain ⟨-, -, -, -, -, hsettings, hbase⟩ := checked_eq_ok_iff.1 hchecked
  obtain ⟨hdistinct, hvalues⟩ := prepare_ok hbase
  obtain ⟨_, -, horigin⟩ := h.origin
  have hconfig : s.config = config := congrArg Origin.config horigin
  have hfields : callerFields s.config = .ok settings.headers := callerFields_of_takeFrom hsettings
  have hsame : c.base = base := congrArg Connection.Terms.base (Connection.terms_of_leads hleads)
  rw [hconfig] at hfields
  rw [hsame]
  exact ⟨settings.headers, hfields, hdistinct, hvalues⟩

/-- A stream shows whether its connection can seek. -/
theorem seekable_of_reached (h : Reached (backendOver t) config cookies address mode s)
    (hconn : s.conn = some c) : s.seekable = c.seekable := by
  obtain ⟨w, given, -, hleads, hseekable, -⟩ := h.connectionGiven c hconn
  exact hseekable.trans (congrArg Connection.Terms.seekable (Connection.terms_of_leads hleads)).symm

/-- A request for a part asks for the parts that the caller asks for, and then for that part. -/
theorem values_of_reached (h : Reached (backendOver t) config cookies address mode s)
    (hconn : s.conn = some c) (pos : Nat) :
    ∃ fields, callerFields config = .ok fields ∧ c.base.Distinct ∧
      (asking c.url c.base (some pos)).values rangeName =
        askedParts fields ++ [(rangeField pos).2] := by
  obtain ⟨fields, hfields, hdistinct, hbase⟩ := base_of_reached h hconn
  refine ⟨fields, hfields, hdistinct, ?_⟩
  rw [values_rangeName_part hdistinct, hbase rangeName (by decide), List.map_map]
  rfl

/-! ## Seeks of a stream -/

/-- A seek of a stream that can seek is one of its connection. -/
theorem seek_of_conn_seek {pos : Nat} {w w' : World (Server τ)} (hseekable : s.seekable = true)
    (hconn : s.conn = some c) {answer : Except BackendError Nat} {d : Connection}
    (hseek : c.seek t pos w = ⟨answer, d, w'⟩) :
    s.seek (backendOver t) pos w =
      ⟨(answer.map fun _ => ()).mapError (.ofBackend .seek), { s with conn := some d }, w'⟩ := by
  have hcall : (backendOver t).seek c pos w = ⟨answer, d, w'⟩ := hseek
  unfold Stream.seek
  rw [if_pos hseekable, call_of_conn hconn, hcall]
  cases answer with
  | error e => rfl
  | ok _ => rfl

/-- The stream has this connection, which can seek and needs a request to go to the position. -/
structure Seeks (s : Stream (Server τ) Connection) (pos : Nat) (c : Connection) : Prop where
  shown : s.seekable = true
  conn : s.conn = some c
  seekable : c.seekable = true
  size : c.size ≠ some pos

/-- If a response to the request gets through, the stream reads on in its body. -/
theorem Seeks.seek_of_gets {pos : Nat} {w : World (Server τ)} (h : s.Seeks pos c) {r : Response}
    (hgets : c.Gets t pos w r) :
    s.seek (backendOver t) pos w =
      ⟨.ok (), { s with conn := some (c.turnTo pos (some r.body)) },
        (send t c.url c.base (some pos) c.interrupt w).2⟩ :=
  seek_of_conn_seek h.shown h.conn (Connection.seek_of_gets h.seekable h.size hgets)

/-- If none does, the seek fails and the stream stays as it is. -/
theorem Seeks.seek_of_gets_none {pos : Nat} {w : World (Server τ)} (h : s.Seeks pos c)
    (hgets : ∀ r, ¬ c.Gets t pos w r) :
    ∃ e, s.seek (backendOver t) pos w =
      ⟨.error e, s, (send t c.url c.base (some pos) c.interrupt w).2⟩ := by
  obtain ⟨e, hseek⟩ := Connection.seek_of_gets_none h.seekable h.size hgets
  refine ⟨.ofBackend .seek e, ?_⟩
  rw [seek_of_conn_seek h.shown h.conn hseek, ← h.conn]
  rfl

/-- What is left behind by a seek is what is left behind by its request. -/
theorem Seeks.sent {pos : Nat} (h : s.Seeks pos c) (w : World (Server τ)) :
    let hop := firstHop c.url c.base (some pos)
    w.Sent (s.seek (backendOver t) pos w).world [] ∨
      ∃ exchanges, exchanges ≠ [] ∧ Fetched t redirectLimit hop w
        ((fetch t c.interrupt redirectLimit hop w).1, (s.seek (backendOver t) pos w).world)
        exchanges := by
  have hworld : (s.seek (backendOver t) pos w).world =
      (send t c.url c.base (some pos) c.interrupt w).2 := by
    by_cases hgets : ∃ r, c.Gets t pos w r
    · obtain ⟨r, hr⟩ := hgets
      rw [h.seek_of_gets hr]
    · obtain ⟨e, hseek⟩ := h.seek_of_gets_none fun r hr => hgets ⟨r, hr⟩
      rw [hseek]
  dsimp only
  rw [hworld]
  exact send_sent t c.url c.base (some pos) c.interrupt w

/-- A seek that succeeds reads on in a response. -/
theorem Seeks.gets_of_ok {pos : Nat} {w : World (Server τ)} (h : s.Seeks pos c)
    (hok : (s.seek (backendOver t) pos w).result = .ok ()) : ∃ r, c.Gets t pos w r := by
  by_contra hnone
  obtain ⟨e, hseek⟩ := h.seek_of_gets_none fun r hr => hnone ⟨r, hr⟩
  rw [hseek] at hok
  cases hok

/-- A stream whose connection needs no request, or that cannot seek, sends nothing. -/
theorem seeks_or_sent_nothing (h : Reached (backendOver t) config cookies address mode s)
    (pos : Nat) (w : World (Server τ)) :
    (∃ c, s.Seeks pos c) ∨ w.Sent (s.seek (backendOver t) pos w).world [] := by
  by_cases hshown : s.seekable = true
  · cases hconn : s.conn with
    | none =>
      have hnot := h.settled.seekable hconn
      rw [hshown] at hnot
      cases hnot
    | some c =>
      have hseekable : c.seekable = true := (seekable_of_reached h hconn).symm.trans hshown
      by_cases hsize : c.size = some pos
      · have hseek : c.seek t pos w = ⟨.ok pos, c.turnTo pos none, w⟩ := by
          rw [Connection.seek_eq, if_neg (by simp [hseekable]), if_pos hsize]
          rfl
        rw [seek_of_conn_seek hshown hconn hseek]
        exact .inr (World.sent_nothing rfl rfl)
      · exact .inl ⟨c, hshown, hconn, hseekable, hsize⟩
  · unfold Stream.seek
    rw [if_neg hshown]
    exact .inr (World.sent_nothing rfl rfl)

/-! ### Streams to try -/

/-- What is seen of a stream, and of the world, once a file is open. -/
def afterOpening {α : Type} (config : Config) (w : World (Server (List Reaction)))
    (look : Stream (Server (List Reaction)) Connection → World (Server (List Reaction)) → α) :
    Option α :=
  match Stream.openAt Http.backend config .none "http://[::1]/f" .read w with
  | (.ok (.stream s), w') => some (look s w')
  | _ => none

theorem exists_of_afterOpening {α : Type} {config : Config} {w : World (Server (List Reaction))}
    {look : Stream (Server (List Reaction)) Connection → World (Server (List Reaction)) → α}
    {seen : α} (h : afterOpening config w look = some seen) :
    ∃ s w', Stream.openAt Http.backend config .none "http://[::1]/f" .read w =
      (.ok (.stream s), w') ∧ look s w' = seen := by
  unfold afterOpening at h
  split at h
  · rename_i s w' hopen
    exact ⟨s, w', hopen, Option.some.inj h⟩
  · cases h

/-! ### What is asked for -/

/-- **The part that is sought is asked for behind the caller's.** A seek of a stream, whatever its
history and over any transport, sends nothing, or makes one request, and others only where that one
is redirected. Each of them asks for the parts that the caller's header fields ask for, and then for
the part from the position on; so it asks for the latter and no other exactly if no header field of
the caller's asks for one. If the seek succeeds, what is read then is the body of the response to
the last of them. -/
theorem seek_asks_behind_caller (t : Transport) (config : Config)
    (h : Reached (backendOver t) config cookies address mode s) (pos : Nat)
    (w : World (Server τ)) :
    let sought := s.seek (backendOver t) pos w
    w.Sent sought.world [] ∨ ∃ c fields later, s.conn = some c ∧ callerFields config = .ok fields ∧
      let request := asking c.url c.base (some pos)
      let exchanges := ⟨request, (w.state.react request w.state.memory).1⟩ :: later
      w.Sent sought.world exchanges ∧
      (∀ made ∈ exchanges.dropLast, ∃ r, made.reaction = .respond r ∧ r.redirects = true) ∧
      (∀ made ∈ exchanges,
        made.request.values rangeName = askedParts fields ++ [(rangeField pos).2] ∧
        (made.request.values rangeName = [(rangeField pos).2] ↔
          ∀ field ∈ fields, Text.lower field.1 ≠ rangeName)) ∧
      (sought.result = .ok () → ∃ made r, exchanges.getLast? = some made ∧
        made.reaction = .respond r ∧ sought.stream.conn = some (c.turnTo pos (some r.body))) := by
  obtain ⟨c, hseeks⟩ | hnothing := seeks_or_sent_nothing h pos w
  · obtain ⟨fields, hfields, hdistinct, hvalues⟩ := values_of_reached h hseeks.conn pos
    obtain hnothing | ⟨exchanges, hsome, hfetched⟩ := hseeks.sent w
    · exact .inl hnothing
    · obtain ⟨later, rfl⟩ := hfetched.first hsome
      refine .inr ⟨c, fields, later, hseeks.conn, hfields, hfetched.sent,
        hfetched.begins.redirects, ?_, ?_⟩
      · intro made hmade
        have hasks : made.request.values rangeName = askedParts fields ++ [(rangeField pos).2] :=
          (hfetched.begins.values (hdistinct.append _ _) made hmade).trans hvalues
        rw [hasks, ← askedParts_eq_nil_iff]
        simp
      · intro hok
        obtain ⟨r, hgets⟩ := hseeks.gets_of_ok hok
        obtain ⟨made, hlast, hreaction⟩ := hfetched.answered r (fetch_ok_iff.2 hgets.1.arrives)
        rw [hseeks.seek_of_gets hgets]
        exact ⟨made, r, hlast, hreaction, rfl⟩
  · exact .inl hnothing

/-- A caller who asks for no part. -/
theorem seek_asks_behind_caller_greeting :
    ∃ s w' made, Stream.openAt Http.backend {} .none "http://[::1]/f" .read greeting =
        (.ok (.stream s), w') ∧
      w'.Sent (s.seek Http.backend 3 w').world [made] ∧
      made.request.values rangeName = ["bytes=3-"] := by
  have hlook : afterOpening {} greeting (fun s w =>
      ((s.seek Http.backend 3 w).world.state.log.length, w.state.log.length)) = some (2, 1) := by
    decide +kernel
  obtain ⟨s, w', hopen, hseen⟩ := exists_of_afterOpening hlook
  obtain ⟨hafter, hbefore⟩ := Prod.mk.inj hseen
  have hfields : callerFields {} = .ok [] := by decide +kernel
  have hgrown {exchanges : List Exchange}
      (hsent : w'.Sent (s.seek Http.backend 3 w').world exchanges) : exchanges.length = 1 := by
    have hlength := hafter.symm.trans hsent.length
    omega
  obtain hnothing | ⟨c, fields, later, -, hcaller, hsent, -, honly, -⟩ :=
    seek_asks_behind_caller .plain {} (.opened hopen) 3 w'
  · exact absurd (hgrown hnothing) (by decide)
  · obtain rfl := List.length_eq_zero_iff.1 (Nat.succ.inj (hgrown hsent))
    obtain rfl := Except.ok.inj (hfields.symm.trans hcaller)
    exact ⟨s, w', _, hopen, hsent, (honly _ List.mem_cons_self).1⟩

/-- **A caller's own range is asked for too.** The caller has every request ask for the first two
bytes; a seek then asks for those and for the part from the position on. -/
theorem seek_asks_twice :
    ∃ s w' made, Stream.openAt Http.backend { headerFields := ["Range: bytes=0-1"] } .none
        "http://[::1]/f" .read greeting = (.ok (.stream s), w') ∧
      w'.Sent (s.seek Http.backend 3 w').world [made] ∧
      (s.seek Http.backend 3 w').result = .ok () ∧
      made.request.values rangeName = ["bytes=0-1", "bytes=3-"] := by
  let config : Config := { headerFields := ["Range: bytes=0-1"] }
  have hlook : afterOpening config greeting (fun s w =>
      let sought := s.seek Http.backend 3 w
      (sought.world.state.log.length, w.state.log.length, sought.result)) =
      some (2, 1, .ok ()) := by
    decide +kernel
  obtain ⟨s, w', hopen, hseen⟩ := exists_of_afterOpening hlook
  obtain ⟨hafter, hseen⟩ := Prod.mk.inj hseen
  obtain ⟨hbefore, hdone⟩ := Prod.mk.inj hseen
  have hreached : Reached (backendOver .plain) config .none "http://[::1]/f" .read s :=
    .opened hopen
  have hfields : callerFields config = .ok [("Range", "bytes=0-1")] := by decide +kernel
  have hgrown {exchanges : List Exchange}
      (hsent : w'.Sent (s.seek Http.backend 3 w').world exchanges) : exchanges.length = 1 := by
    have hlength := hafter.symm.trans hsent.length
    omega
  obtain ⟨c, hseeks⟩ | hnothing := seeks_or_sent_nothing hreached 3 w'
  · obtain ⟨fields, hcaller, -, hvalues⟩ := values_of_reached hreached hseeks.conn 3
    obtain rfl := Except.ok.inj (hfields.symm.trans hcaller)
    obtain hnothing | ⟨exchanges, hsome, hfetched⟩ := hseeks.sent w'
    · exact absurd (hgrown hnothing) (by decide)
    · obtain ⟨later, rfl⟩ := hfetched.first hsome
      obtain rfl := List.length_eq_zero_iff.1 (Nat.succ.inj (hgrown hfetched.sent))
      exact ⟨s, w', _, hopen, hfetched.sent, hdone, hvalues.trans (by decide +kernel)⟩
  · exact absurd (hgrown hnothing) (by decide)

/-! ### Behind the end -/

/-- **A seek past the end is for the server to refuse.** Whatever the history of a stream, let its
connection be able to seek and know its size, and let a position lie behind that. Going there
succeeds exactly if a response with the status of a part gets through; the stream then reads on in
its body. In all other cases going there fails, and the stream is as it was. -/
theorem seek_past_end (t : Transport)
    (h : Reached (backendOver t) config cookies address mode s) (hconn : s.conn = some c)
    (hseekable : c.seekable = true) {size pos : Nat} (hsize : c.size = some size)
    (hpos : size < pos) (w : World (Server τ)) :
    let sought := s.seek (backendOver t) pos w
    let Comes (r : Response) :=
      GetsThrough t c.url c.base (some pos) c.interrupt w r ∧ r.status = partialContent
    (sought.result = .ok () ↔ ∃ r, Comes r) ∧
      (∀ r, Comes r → sought.stream = { s with conn := some (c.turnTo pos (some r.body)) }) ∧
      ∀ e, sought.result = .error e → sought.stream = s := by
  have hseeks : s.Seeks pos c := by
    refine ⟨(seekable_of_reached h hconn).trans hseekable, hconn, hseekable, ?_⟩
    rw [hsize]
    intro hsame
    obtain rfl := Option.some.inj hsame
    exact absurd hpos (Nat.lt_irrefl size)
  -- A position behind the size is not the start, so only the status of a part is accepted.
  have haccepted : ∀ status, isAccepted (some pos) status = true ↔ status = partialContent := by
    intro status
    obtain ⟨before, rfl⟩ := Nat.exists_eq_succ_of_ne_zero (Nat.ne_of_gt (Nat.zero_lt_of_lt hpos))
    exact beq_iff_eq
  have hcomes : ∀ r, c.Gets t pos w r ↔
      GetsThrough t c.url c.base (some pos) c.interrupt w r ∧ r.status = partialContent :=
    fun r => and_congr_right fun _ => haccepted r.status
  simp only [← hcomes]
  by_cases hgets : ∃ r, c.Gets t pos w r
  · refine ⟨iff_of_true ?_ hgets, ?_, ?_⟩
    · obtain ⟨r, hr⟩ := hgets
      rw [hseeks.seek_of_gets hr]
    · intro r hr
      rw [hseeks.seek_of_gets hr]
    · obtain ⟨r, hr⟩ := hgets
      rw [hseeks.seek_of_gets hr]
      intro e he
      cases he
  · obtain ⟨e, hseek⟩ := hseeks.seek_of_gets_none fun r hr => hgets ⟨r, hr⟩
    rw [hseek]
    refine ⟨iff_of_false (by simp) hgets, fun r hr => absurd ⟨r, hr⟩ hgets, fun _ _ => rfl⟩

/-- A server that gives five bytes, and refuses to give a part of them. -/
def refusing : World (Server (List Reaction)) where
  state :=
    let hello : Bytes := [104, 101, 108, 108, 111]
    let whole : Response :=
      ⟨200, .ofFields [("accept-ranges", "bytes")], some 5, ⟨[hello], .complete⟩⟩
    Server.planned [.respond whole, .respond ⟨416, .empty, some 0, {}⟩]

theorem seek_past_end_refusing :
    ∃ s w' c, Stream.openAt Http.backend {} .none "http://[::1]/f" .read refusing =
        (.ok (.stream s), w') ∧ s.conn = some c ∧ c.seekable = true ∧ c.size = some 5 ∧
      ∃ e, (s.seek Http.backend 6 w').result = .error e ∧
        (s.seek Http.backend 6 w').stream = s := by
  have hlook : afterOpening {} refusing (fun s w =>
      (s.conn.map fun c => (c.seekable, c.size), (s.seek Http.backend 6 w).result)) =
      some (some (true, some 5),
        .error (.ofBackend .seek (.io "HTTP 416 for URL: http://[::1]/f"))) := by
    decide +kernel
  obtain ⟨s, w', hopen, hseen⟩ := exists_of_afterOpening hlook
  obtain ⟨hterms, hfailed⟩ := Prod.mk.inj hseen
  obtain ⟨c, hconn, hc⟩ := Option.map_eq_some_iff.1 hterms
  obtain ⟨hseekable, hsize⟩ := Prod.mk.inj hc
  obtain ⟨-, -, hstays⟩ := seek_past_end .plain (.opened hopen) hconn hseekable hsize
    (show 5 < 6 by decide) w'
  exact ⟨s, w', c, hopen, hconn, hseekable, hsize, _, hfailed, hstays _ hfailed⟩

/-- **A server can have a seek past the end succeed.** It has five bytes and answers a request for
the part behind the sixth by some part; the seek succeeds, and what is read then is that part. -/
theorem seek_past_end_succeeds :
    ∃ s w' c, Stream.openAt Http.backend {} .none "http://[::1]/f" .read greeting =
        (.ok (.stream s), w') ∧ s.conn = some c ∧ c.seekable = true ∧ c.size = some 5 ∧
      let sought := s.seek Http.backend 6 w'
      sought.result = .ok () ∧
        (sought.stream.read Http.backend 4 sought.world).result = .ok [108, 111] := by
  have hlook : afterOpening {} greeting (fun s w =>
      let sought := s.seek Http.backend 6 w
      (s.conn.map fun c => (c.seekable, c.size), sought.result,
        (sought.stream.read Http.backend 4 sought.world).result)) =
      some (some (true, some 5), .ok (), .ok [108, 111]) := by
    decide +kernel
  obtain ⟨s, w', hopen, hseen⟩ := exists_of_afterOpening hlook
  obtain ⟨hterms, hseen⟩ := Prod.mk.inj hseen
  obtain ⟨hdone, hread⟩ := Prod.mk.inj hseen
  obtain ⟨c, hconn, hc⟩ := Option.map_eq_some_iff.1 hterms
  obtain ⟨hseekable, hsize⟩ := Prod.mk.inj hc
  exact ⟨s, w', c, hopen, hconn, hseekable, hsize, hdone, hread⟩

end Stream

end ByteStream
