/-
# ByteStream.Proofs.Http.Exchange -- one request and its answer

When nobody breaks a request off, it gets an answer only from a server that it reached
(`reachable_of_send`), and the answer is what the server made of the request: a response that is no
redirect is taken over if its status is accepted, and is an error otherwise (`send_of_respond`).
After a redirect another request may be made; `fetch_induct` is the induction along these.

A request for the part from a position on names that part and no other (`values_rangeName`), as
long as the caller named none; otherwise it names that part behind the others
(`values_rangeName_part`). Connecting and seeking are the checks of their arguments, and then such
a request (`connect_eq`, `Connection.seek_eq`).
-/

import ByteStream.Proofs.Http.Fields
import ByteStream.Proofs.Silence

namespace ByteStream.Http

variable {τ : Type}

/-! ## The field that asks for a part -/

/-- A value that starts and ends with other characters than blanks is read as it is. -/
theorem stripped_of_edges {value : String} {first last : Char} {before behind : List Char}
    (hfirst : value.toList = first :: behind) (hlast : value.toList = before ++ [last])
    (hedges : ∀ c ∈ [first, last], c ≠ ' ' ∧ c ≠ '\t') : stripped value = value := by
  have hedge : ∀ c ∈ [first, last], (c == ' ' || c == '\t') = false := by
    intro c hc
    obtain ⟨hspace, htab⟩ := hedges c hc
    simp [hspace, htab]
  have hlead : value.toList.dropWhile (fun c => c == ' ' || c == '\t') = value.toList := by
    rw [hfirst, List.dropWhile_cons_of_neg (by simp [hedge first (by simp)])]
  have htail : Text.trimEnd (fun c => c == ' ' || c == '\t') value.toList = value.toList := by
    unfold Text.trimEnd
    rw [hlast, List.reverse_append, List.reverse_singleton, List.singleton_append,
      List.dropWhile_cons_of_neg (by simp [hedge last (by simp)]), List.reverse_cons,
      List.reverse_reverse]
  unfold stripped
  dsimp only
  rw [hlead, htail, String.ofList_toList]

theorem stripped_rangeField (pos : Nat) : stripped (rangeField pos).2 = (rangeField pos).2 := by
  have hfirst : (rangeField pos).2.toList =
      'b' :: ("ytes=".toList ++ (toString pos).toList ++ ['-']) := by
    simp [rangeField]
  have hlast : (rangeField pos).2.toList =
      ('b' :: ("ytes=".toList ++ (toString pos).toList)) ++ ['-'] := hfirst
  refine stripped_of_edges hfirst hlast ?_
  intro c hc
  simp only [List.mem_cons, List.not_mem_nil, or_false] at hc
  rcases hc with rfl | rfl
  · decide
  · decide

/-- Different positions are asked for differently. -/
theorem rangeField_inj {pos other : Nat} (h : (rangeField pos).2 = (rangeField other).2) :
    pos = other := by
  have hdigits : Nat.repr pos = Nat.repr other := by simpa [rangeField] using h
  have hvalue := congrArg (fun digits : String => Nat.ofDigitChars 10 digits.toList 0) hdigits
  simpa using hvalue

/-- What the first request for a URL is to the server. -/
def asking (url : Url) (base : HeaderMap) (offset : Option Nat) : Request :=
  (firstHop url base offset).request

/-- The request is meant for the place that the URL names. -/
structure Request.IsFor (r : Request) (url : Url) : Prop where
  scheme : r.scheme = url.scheme
  host : r.host = url.host
  port : r.port = url.port
  target : r.target = url.target

/-- Credentials make no difference to the place that a request is meant for. -/
theorem isFor_asking (url : Url) (base : HeaderMap) (offset : Option Nat) :
    (asking url base offset).IsFor url := by
  have hplace : (Request.ofFields (requested url) (requestFields base offset)).IsFor url := by
    unfold requested
    split
    · exact ⟨rfl, rfl, rfl, rfl⟩
    · exact ⟨rfl, rfl, rfl, rfl⟩
  exact hplace

/-- A request for a part asks for it behind whatever parts the base fields ask for. -/
theorem values_rangeName_part {base : HeaderMap} (h : base.Distinct) (url : Url) (pos : Nat) :
    (asking url base (some pos)).values rangeName =
      (base.values rangeName).map stripped ++ [(rangeField pos).2] := by
  show (Request.ofFields _ (base.append rangeName (rangeField pos).2)).values rangeName = _
  rw [values_ofFields_other (h.append _ _) _ (by decide), HeaderMap.values_append_same,
    List.map_append, List.map_singleton, stripped_rangeField]

/-- Where the base fields ask for no part, a request asks for the part that it is for, if any. -/
theorem values_rangeName {base : HeaderMap} (h : base.Distinct) (hbase : base.values rangeName = [])
    (url : Url) (offset : Option Nat) :
    (asking url base offset).values rangeName =
      (offset.map fun pos => (rangeField pos).2).toList := by
  cases offset with
  | none =>
    show (Request.ofFields _ base).values rangeName = []
    rw [values_ofFields_other h _ (by decide), hbase]
    rfl
  | some pos =>
    rw [values_rangeName_part h, hbase]
    rfl

/-! ## Sending -/

theorem Reaction.eq_of_arrival {reaction : Reaction} {r : Response}
    (h : reaction.arrival = some (some r)) : reaction = .respond r := by
  cases reaction with
  | silence => cases h
  | hangUp => cases h
  | respond answer =>
    simp only [arrival, Option.some.injEq] at h
    rw [h]

/-- A response with an accepted status is taken as it is. -/
theorem accept_eq_ok_iff {url : Url} {offset : Option Nat} {r r' : Response} :
    accept url offset r = .ok r' ↔ r = r' ∧ isAccepted offset r.status = true := by
  unfold accept
  split
  · rename_i haccepted
    simp [haccepted]
  · rename_i hrefused
    simp [hrefused]

variable {t : Transport} {hop : Hop} {url : Url} {base : HeaderMap} {offset : Option Nat}
  {i : Interrupt} {w w' : World (Server τ)} {r : Response}

/-- A request is settled by a response that came and does not lead elsewhere. -/
theorem turned_eq_inl {came : Except BackendError (Option (Option Response))}
    (h : turned t hop came = .ok (.inl r)) :
    came = .ok (some (some r)) ∧ t.redirect hop r = none := by
  rcases came with e | _ | _ | answer
  · cases h
  · cases h
  · cases h
  · dsimp only [turned] at h
    split at h
    · rename_i hstays
      cases h
      exact ⟨rfl, hstays⟩
    · cases h
    · cases h

/-- Another request comes of a response that leads there. -/
theorem turned_eq_inr {came : Except BackendError (Option (Option Response))} {next : Hop}
    (h : turned t hop came = .ok (.inr next)) :
    ∃ r, came = .ok (some (some r)) ∧ t.redirect hop r = some (.ok next) := by
  rcases came with e | _ | _ | answer
  · cases h
  · cases h
  · cases h
  · dsimp only [turned] at h
    split at h
    · cases h
    · cases h
    · rename_i hleads
      cases h
      exact ⟨answer, rfl, hleads⟩

/-- What came of a wait that was not broken off comes to no interruption. -/
theorem turned_ne_interrupted (t : Transport) (hop : Hop) (came : Option (Option Response)) :
    turned t hop (.ok came) ≠ .error .interrupted := by
  rcases came with _ | _ | r
  · simp [turned, BackendError.lost]
  · exact fun h => HttpError.toBackend_ne_interrupted _ (Except.error.inj h)
  · dsimp only [turned]
    split
    · simp
    · exact fun h => HttpError.toBackend_ne_interrupted _ (Except.error.inj h)
    · simp

/-- The steps of one request. -/
theorem exchange_eq (t : Transport) (i : Interrupt) (hop : Hop) (w : World (Server τ)) :
    exchange t i hop w =
      let sent := transmit t hop w
      let waited := i.race sent.1.arrival sent.2.signals
      (turned t hop waited.1, { sent.2 with signals := waited.2 }) := rfl

/-- The steps of a request and of those that it leads to. -/
theorem fetch_eq (t : Transport) (i : Interrupt) (hops : Nat) (hop : Hop) (w : World (Server τ)) :
    fetch t i hops hop w =
      match exchange t i hop w, hops with
      | (.error e, w), _ => (.error e, w)
      | (.ok (.inl r), w), _ => (.ok r, w)
      | (.ok (.inr _), w), 0 => (.error (lostTrack hop.url).toBackend, w)
      | (.ok (.inr next), w), hops + 1 => fetch t i hops next w := by
  unfold fetch exchange
  rw [fetchBy.eq_def]
  dsimp only
  rcases (exchangeBy t .scripted i hop w).result with ⟨e | r | next, w'⟩
  · rfl
  · rfl
  · cases hops with
    | zero => rfl
    | succ hops => rfl

/-- Induction along the requests that lead from one to the other. Each case says what a request
comes to there. -/
theorem fetch_induct {motive : Nat → Hop → World (Server τ) → Prop}
    (failed : ∀ hops hop w e w', exchange t i hop w = (.error e, w') →
      fetch t i hops hop w = (.error e, w') → motive hops hop w)
    (settled : ∀ hops hop w r w', exchange t i hop w = (.ok (.inl r), w') →
      fetch t i hops hop w = (.ok r, w') → motive hops hop w)
    (limit : ∀ hop w next w', exchange t i hop w = (.ok (.inr next), w') →
      fetch t i 0 hop w = (.error (lostTrack hop.url).toBackend, w') → motive 0 hop w)
    (leads : ∀ hops hop w next w', exchange t i hop w = (.ok (.inr next), w') →
      fetch t i (hops + 1) hop w = fetch t i hops next w' → motive hops next w' →
      motive (hops + 1) hop w)
    (hops : Nat) (hop : Hop) (w : World (Server τ)) : motive hops hop w := by
  have hfetch := fetch_eq t i hops hop w
  cases hmade : exchange t i hop w with
  | mk came w' =>
    rw [hmade] at hfetch
    rcases came with e | r | next
    · exact failed hops hop w e w' hmade hfetch
    · exact settled hops hop w r w' hmade hfetch
    · cases hops with
      | zero => exact limit hop w next w' hmade hfetch
      | succ hops =>
        exact leads hops hop w next w' hmade hfetch
          (fetch_induct failed settled limit leads hops next w')

/-- A request goes out only while the interrupt is silent, and if one can be made. -/
theorem send_eq (t : Transport) (url : Url) (base : HeaderMap) (offset : Option Nat) (i : Interrupt)
    (w : World (Server τ)) :
    send t url base offset i w =
      if i.fires w.signals then (.error .interrupted, w)
      else if ¬ (requested url).isSendable then
        (.error (unsendable (requested url)).toBackend, w)
      else
        let fetched := fetch t i redirectLimit (firstHop url base offset) w
        (fetched.1.bind (accept url offset), fetched.2) := by
  unfold send sendBy fetch
  by_cases hfires : i.fires w.signals = true
  · simp only [Interrupt.waitBy, Interrupt.raceBy, Interrupt.lookAt, hfires, if_true]
  · have hleft : i.waitBy ((Order.scripted : Order τ).leaving w) (some ()) w.signals =
        ⟨(.ok (some ()), w.signals), [false]⟩ := by
      simp [Interrupt.waitBy, Interrupt.raceBy, Interrupt.lookAt, Order.scripted, hfires]
    rw [hleft, if_neg hfires]
    dsimp only
    split
    · rfl
    · rfl

/-! ### When nobody breaks off -/

/-- A request for the URL can be made, and gets to the server. -/
structure Url.Reachable (t : Transport) (u : Url) : Prop where
  reaches : t.reaches (requested u) = true
  sendable : (requested u).isSendable = true

/-- The world in which a server has got a request. -/
def handed (w : World (Server τ)) (request : Request) : World (Server τ) :=
  { w.note request.call with state := (w.state.serve request).2 }

/-- The world once the answer to that request is there. -/
def answered (w : World (Server τ)) (request : Request) : World (Server τ) :=
  { handed w request with signals := w.signals.afterWait }

theorem transmit_of_reaches (h : t.reaches hop.url = true) (w : World (Server τ)) :
    transmit t hop w = ((w.state.react hop.request w.state.memory).1, handed w hop.request) := by
  rw [transmit, if_pos h]
  rfl

/-- A request changes nothing of the world but what the server and the journal know. -/
theorem signals_transmit (t : Transport) (hop : Hop) (w : World (Server τ)) :
    (transmit t hop w).2.signals = w.signals := by
  unfold transmit
  split
  · rfl
  · rfl

/-- Only a request that gets to the server is answered by a response. -/
theorem reaches_of_respond (h : (transmit t hop w).1 = .respond r) : t.reaches hop.url = true := by
  by_contra hnot
  rw [transmit, if_neg hnot] at h
  cases h

/-- A response comes back, and leads nowhere else. -/
theorem fetch_of_respond {hops : Nat} (hreaches : t.reaches hop.url = true)
    (hsilent : i.Silent w.signals)
    (hreact : (w.state.react hop.request w.state.memory).1 = .respond r)
    (hstays : t.redirect hop r = none) :
    fetch t i hops hop w = (.ok r, answered w hop.request) := by
  have hrace : i.race (Reaction.respond r).arrival (handed w hop.request).signals =
      (.ok (some (some r)), w.signals.afterWait) := hsilent.race _
  have hturned : turned t hop (.ok (some (some r))) = .ok (.inl r) := by
    rw [turned, hstays]
  have hmade : exchange t i hop w = (.ok (.inl r), answered w hop.request) := by
    rw [exchange_eq, transmit_of_reaches hreaches, hreact]
    dsimp only
    rw [hrace, hturned]
    rfl
  rw [fetch_eq, hmade]

/-- A response comes back that is no redirect, and its status decides. -/
theorem send_of_respond (hreachable : url.Reachable t) (hsilent : i.Silent w.signals)
    (hreact : (w.state.react (asking url base offset) w.state.memory).1 = .respond r)
    (hstays : r.redirects = false) :
    send t url base offset i w = (accept url offset r, answered w (asking url base offset)) := by
  have hfetch : fetch t i redirectLimit (firstHop url base offset) w =
      (.ok r, answered w (asking url base offset)) :=
    fetch_of_respond hreachable.reaches hsilent hreact (t.redirect_of_not_redirects hstays)
  rw [send_eq, if_neg (by simp [hsilent.fires]), if_neg (by simp [hreachable.sendable])]
  dsimp only
  rw [hfetch]
  rfl

/-- An accepted status is none of those of a redirect. -/
theorem redirects_of_isAccepted (h : isAccepted offset r.status = true) : r.redirects = false := by
  have hbelow : r.status < 300 := by
    unfold isAccepted at h
    split at h
    · exact of_decide_eq_true (Bool.and_eq_true_iff.1 h).2
    · exact of_decide_eq_true (Bool.and_eq_true_iff.1 h).2
    · rw [beq_iff_eq] at h
      rw [h]
      decide
  have hstatus : redirectStatuses.contains r.status = false := by
    rw [← Bool.not_eq_true, List.contains_iff_mem]
    simp only [redirectStatuses, List.mem_cons, List.not_mem_nil, or_false]
    omega
  rw [Response.redirects, hstatus]
  rfl

/-- A response of an accepted status is taken over. -/
theorem send_of_accepted (hreachable : url.Reachable t) (hsilent : i.Silent w.signals)
    (hreact : (w.state.react (asking url base offset) w.state.memory).1 = .respond r)
    (haccepted : isAccepted offset r.status = true) :
    send t url base offset i w = (.ok r, answered w (asking url base offset)) := by
  rw [send_of_respond hreachable hsilent hreact (redirects_of_isAccepted haccepted), accept,
    if_pos haccepted]

/-- Where the URL cannot be reached, nobody responds. -/
theorem exchange_of_not_reaches (h : ¬ t.reaches hop.url = true) :
    ∃ e w', exchange t i hop w = (.error e, w') := by
  have hsent : transmit t hop w = (.hangUp, w) := if_neg h
  rw [exchange_eq, hsent]
  dsimp only
  cases hcame : (i.race Reaction.hangUp.arrival w.signals).1 with
  | error e => exact ⟨e, _, rfl⟩
  | ok came =>
    obtain rfl : Reaction.hangUp.arrival = came := (i.race_ok hcame).symm
    exact ⟨_, _, rfl⟩

/-- Only a request that gets to the server succeeds. -/
theorem reachable_of_send (h : (send t url base offset i w).1 = .ok r) : url.Reachable t := by
  rw [send_eq] at h
  split at h
  · cases h
  · split at h
    · cases h
    · rename_i hsendable
      refine ⟨?_, not_not.1 hsendable⟩
      by_contra hnot
      obtain ⟨e, w', hmade⟩ :
          ∃ e w', exchange t i (firstHop url base offset) w = (.error e, w') :=
        exchange_of_not_reaches hnot
      rw [fetch_eq, hmade] at h
      cases h

/-! ## Seeking -/

/-- The steps of a seek. -/
theorem Connection.seek_eq (t : Transport) (c : Connection) (pos : Nat) (w : World (Server τ)) :
    c.seek t pos w =
      if ¬ c.seekable then .fail .unsupported c w
      else if c.size = some pos then .done pos (c.turnTo pos none) w
      else
        match send t c.url c.base (some pos) c.interrupt w with
        | (.error e, w) => .fail e c w
        | (.ok response, w) => .done pos (c.turnTo pos (some response.body)) w := by
  unfold seek seekBy send
  split
  · rfl
  · split
    · rfl
    · rfl

/-! ## Connecting -/

/-- No check breaks off. -/
theorem checked_ne_interrupted (files : Files) (request : ConnectRequest) :
    (checked files request).1 ≠ .error .interrupted := by
  unfold checked
  split
  · simp
  · split
    · simp
    · split
      · simp [HttpError.toBackend]
      · dsimp only
        split
        · simp [HttpError.toBackend]
        · split
          · simp [HttpError.toBackend]
          · simp

/-- The checks pass if the address and the options are good, and give what these said. -/
theorem checked_eq_ok_iff {files : Files} {request : ConnectRequest} {url : Url}
    {settings : Settings} {base : HeaderMap} :
    (checked files request).1 = .ok (url, settings, base) ↔
      ∃ scheme rest, Scheme.split? request.url = some (scheme, rest) ∧ request.mode ≠ .write ∧
        Url.parse scheme rest = .ok url ∧ (Settings.takeFrom request.options).1 = .ok settings ∧
        prepare files url settings = .ok base := by
  constructor
  · intro h
    unfold checked at h
    split at h
    · cases h
    · rename_i scheme rest hsplit
      split at h
      · cases h
      · rename_i hmode
        split at h
        · cases h
        · rename_i url' hurl
          dsimp only at h
          split at h
          · cases h
          · rename_i settings' hsettings
            split at h
            · cases h
            · rename_i base' hbase
              cases h
              exact ⟨scheme, rest, hsplit, hmode, hurl, hsettings, hbase⟩
  · rintro ⟨scheme, rest, hsplit, hmode, hurl, hsettings, hbase⟩
    simp only [checked, hsplit, if_neg hmode, hurl, hsettings, hbase]

/-- Connecting is checking, and then sending a request. -/
theorem connect_eq (t : Transport) (request : ConnectRequest) (w : World (Server τ)) :
    connect t request w =
      match checked w.state.files request with
      | (.error e, left) => ⟨.error e, left, w⟩
      | (.ok (url, settings, base), left) =>
        let sent := send t url base none request.interrupt w
        ⟨sent.1.map (Connection.ofResponse url base request.interrupt settings.icy), left,
          sent.2⟩ := by
  unfold connect connectBy
  generalize checked w.state.files request = found
  obtain ⟨e | ⟨url, settings, base⟩, left⟩ := found
  · rfl
  · rfl

theorem connect_of_checked {request : ConnectRequest} {settings : Settings}
    (h : (checked w.state.files request).1 = .ok (url, settings, base)) (t : Transport) :
    connect t request w =
      ⟨(send t url base none request.interrupt w).1.map
          (Connection.ofResponse url base request.interrupt settings.icy),
        (checked w.state.files request).2, (send t url base none request.interrupt w).2⟩ := by
  rw [connect_eq]
  generalize checked w.state.files request = found at h
  obtain ⟨result, left⟩ := found
  obtain rfl : result = _ := h
  rfl

/-- A connection that was opened is made of what the checks gave, and of a response to a request
for the whole. -/
theorem opened_of_connect {request : ConnectRequest} {c : Connection}
    (h : (connect t request w).answer = .ok c) :
    ∃ url settings base r, (checked w.state.files request).1 = .ok (url, settings, base) ∧
      send t url base none request.interrupt w = (.ok r, (connect t request w).world) ∧
      c = Connection.ofResponse url base request.interrupt settings.icy r := by
  cases hchecked : (checked w.state.files request).1 with
  | error e =>
    rw [connect_eq, show checked w.state.files request =
      (.error e, (checked w.state.files request).2) from Prod.ext hchecked rfl] at h
    cases h
  | ok found =>
    obtain ⟨url, settings, base⟩ := found
    rw [connect_of_checked hchecked] at h ⊢
    dsimp only at h ⊢
    cases hanswer : (send t url base none request.interrupt w).1 with
    | error e =>
      rw [hanswer] at h
      cases h
    | ok r =>
      rw [hanswer] at h
      exact ⟨url, settings, base, r, rfl, Prod.ext hanswer rfl, (Except.ok.inj h).symm⟩

/-- Where every check passes and the request is answered, a connection is opened. -/
theorem connect_of_opened {request : ConnectRequest} {settings : Settings}
    (hchecked : (checked w.state.files request).1 = .ok (url, settings, base))
    (hsend : send t url base none request.interrupt w = (.ok r, w')) :
    (connect t request w).answer =
        .ok (Connection.ofResponse url base request.interrupt settings.icy r) ∧
      (connect t request w).world = w' := by
  rw [connect_of_checked hchecked, hsend]
  exact ⟨rfl, rfl⟩

end ByteStream.Http
