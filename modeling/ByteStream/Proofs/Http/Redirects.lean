/-
# ByteStream.Proofs.Http.Redirects -- the exchanges that a request leads to

A request that gets to a server is one exchange, and if it is answered by a redirect that the
transport follows, the next request is another. The exchanges from the first request on make up a
`Trail`: each is answered by a redirect to the one behind it, until one leads nowhere, or to a place
that cannot be reached, or no further redirect is followed. Which requests these are is settled by
the first one and by the reactions to them. They all ask for the part that the first one asks for
(`Trail.values`), there are not many of them (`Trail.length_le`), and where nothing is redirected
there is one (`Trail.eq_nil_of_stays`).

`fetch_sent` says what a request comes to in these terms: what is sent is the beginning of a trail,
and a whole one unless the wait for an answer was broken off; a response that comes back is what the
last of the exchanges ended with. `GetsThrough` tells when one does, and `send_ok_iff` that a
request succeeds by nothing else.
-/

import ByteStream.Proofs.Http.Exchange
import ByteStream.Proofs.Stream.Actions
import ByteStream.Proofs.Uncancelled

namespace ByteStream

open Http in
/-- From the one world to the other these exchanges took place, in this order: the log of the server
grew by them, and the journal by their requests. -/
structure World.Sent {τ : Type} (w w' : World (Server τ)) (exchanges : List Exchange) : Prop where
  log : w'.state.log = exchanges.reverse ++ w.state.log
  requests : w'.requests = (exchanges.map fun made => made.request.call).reverse ++ w.requests

theorem World.Sent.trans {τ : Type} {w w' w'' : World (Http.Server τ)}
    {exchanges more : List Http.Exchange} (h : w.Sent w' exchanges) (h' : w'.Sent w'' more) :
    w.Sent w'' (exchanges ++ more) := by
  constructor
  · rw [h'.log, h.log, List.reverse_append, List.append_assoc]
  · rw [h'.requests, h.requests, List.map_append, List.reverse_append, List.append_assoc]

theorem World.sent_nothing {τ : Type} {w w' : World (Http.Server τ)}
    (hstate : w'.state = w.state) (hrequests : w'.requests = w.requests) : w.Sent w' [] :=
  ⟨congrArg Http.Server.log hstate, hrequests⟩

/-- The log grew by so many. -/
theorem World.Sent.length {τ : Type} {w w' : World (Http.Server τ)}
    {exchanges : List Http.Exchange} (h : w.Sent w' exchanges) :
    w'.state.log.length = exchanges.length + w.state.log.length := by
  rw [h.log, List.length_append, List.length_reverse]

namespace Http

variable {τ : Type} {t : Transport}

/-! ## Trails -/

namespace Transport

/-- The request that a reaction leads to. -/
def next? (t : Transport) (hop : Hop) : Reaction → Option Hop
  | .respond r =>
    match t.redirect hop r with
    | some (.ok next) => some next
    | some (.error _) => none
    | none => none
  | .silence => none
  | .hangUp => none

/-- These are the exchanges of a request and of those that it leads to, of which there may be so
many. -/
inductive Trail (t : Transport) : Nat → Hop → List Exchange → Prop
  | unreached {hops : Nat} {hop : Hop} : t.reaches hop.url = false → Trail t hops hop []
  | last {hops : Nat} {hop : Hop} {reaction : Reaction} :
      t.reaches hop.url = true → hops = 0 ∨ t.next? hop reaction = none →
      Trail t hops hop [⟨hop.request, reaction⟩]
  | leads {hops : Nat} {hop next : Hop} {reaction : Reaction} {later : List Exchange} :
      t.reaches hop.url = true → t.next? hop reaction = some next → Trail t hops next later →
      Trail t (hops + 1) hop (⟨hop.request, reaction⟩ :: later)

/-- These are the first of such exchanges, or all of them. -/
def TrailBegins (t : Transport) (hops : Nat) (hop : Hop) (exchanges : List Exchange) : Prop :=
  ∃ later, t.Trail hops hop (exchanges ++ later)

variable {hops : Nat} {hop next : Hop} {reaction : Reaction} {exchanges : List Exchange}

/-- A redirect that is followed leads to another request, and nothing else does. -/
theorem next?_eq_some_iff :
    t.next? hop reaction = some next ↔
      ∃ r, reaction = .respond r ∧ t.redirect hop r = some (.ok next) := by
  cases reaction with
  | silence => simp [next?]
  | hangUp => simp [next?]
  | respond r =>
    simp only [next?, Reaction.respond.injEq, exists_eq_left']
    rcases t.redirect hop r with _ | _ | found
    · simp
    · simp
    · simp

/-- Only a redirect leads to another request. -/
theorem redirects_of_next? (h : t.next? hop reaction = some next) :
    ∃ r, reaction = .respond r ∧ r.redirects = true := by
  obtain ⟨r, hreaction, hleads⟩ := next?_eq_some_iff.1 h
  refine ⟨r, hreaction, ?_⟩
  by_contra hnot
  rw [t.redirect_of_not_redirects (by simpa using hnot)] at hleads
  cases hleads

/-- Every request has a trail: the server may hang up. -/
theorem exists_trail (t : Transport) (hops : Nat) (hop : Hop) :
    ∃ exchanges, t.Trail hops hop exchanges := by
  cases hreaches : t.reaches hop.url with
  | false => exact ⟨[], .unreached hreaches⟩
  | true => exact ⟨[⟨hop.request, .hangUp⟩], .last hreaches (.inr rfl)⟩

/-- There is one exchange more than there are redirects, of which so many may be followed. -/
theorem Trail.length_le (h : t.Trail hops hop exchanges) : exchanges.length ≤ hops + 1 := by
  induction h with
  | unreached => exact Nat.zero_le _
  | last => exact Nat.succ_le_succ (Nat.zero_le _)
  | leads _ _ _ ih => exact Nat.succ_le_succ ih

/-- The first exchange is that of the request itself. -/
theorem Trail.first (h : t.Trail hops hop exchanges) (hreaches : t.reaches hop.url = true) :
    ∃ reaction later, exchanges = ⟨hop.request, reaction⟩ :: later := by
  cases h with
  | unreached hnot =>
    rw [hreaches] at hnot
    cases hnot
  | last => exact ⟨_, _, rfl⟩
  | leads => exact ⟨_, _, rfl⟩

/-- Where the first exchange did not end with a redirect, it is the only one. -/
theorem Trail.eq_nil_of_stays {made : Exchange} {later : List Exchange}
    (h : t.Trail hops hop (made :: later))
    (hstays : ∀ r, made.reaction = .respond r → r.redirects = false) : later = [] := by
  cases h with
  | last => rfl
  | leads _ hnext _ =>
    obtain ⟨r, hreaction, hredirects⟩ := redirects_of_next? hnext
    rw [hstays r hreaction] at hredirects
    cases hredirects

/-- A redirect makes no difference to the part that is asked for. -/
theorem values_of_next? (h : t.next? hop reaction = some next) (hdistinct : hop.fields.Distinct) :
    next.request.values rangeName = hop.request.values rangeName := by
  obtain ⟨r, -, hleads⟩ := next?_eq_some_iff.1 h
  have hname : rangeName ≠ hostName := by decide
  have hthen := values_ofFields_other (t.distinct_of_redirect hleads hdistinct) next.url hname
  have hfirst := values_ofFields_other hdistinct hop.url hname
  rw [t.values_of_redirect hleads] at hthen
  exact hthen.trans hfirst.symm

/-- All requests of a trail ask for the part that the first one asks for. -/
theorem Trail.values (h : t.Trail hops hop exchanges) (hdistinct : hop.fields.Distinct) :
    ∀ made ∈ exchanges, made.request.values rangeName = hop.request.values rangeName := by
  induction h with
  | unreached => exact fun _ hmade => absurd hmade List.not_mem_nil
  | last =>
    intro made hmade
    obtain rfl := List.mem_singleton.1 hmade
    rfl
  | leads _ hnext _ ih =>
    obtain ⟨r, -, hleads⟩ := next?_eq_some_iff.1 hnext
    rw [List.forall_mem_cons]
    refine ⟨rfl, ?_⟩
    rw [← values_of_next? hnext hdistinct]
    exact ih (t.distinct_of_redirect hleads hdistinct)

/-- All exchanges but the last ended with a redirect. -/
theorem Trail.redirects (h : t.Trail hops hop exchanges) :
    ∀ made ∈ exchanges.dropLast, ∃ r, made.reaction = .respond r ∧ r.redirects = true := by
  induction h with
  | unreached => exact fun _ hmade => absurd hmade List.not_mem_nil
  | last => exact fun _ hmade => absurd hmade List.not_mem_nil
  | @leads _ _ _ _ later _ hnext _ ih =>
    cases later with
    | nil => exact fun _ hmade => absurd hmade List.not_mem_nil
    | cons second more =>
      rw [List.dropLast_cons_of_ne_nil (by simp), List.forall_mem_cons]
      exact ⟨redirects_of_next? hnext, ih⟩

theorem Trail.begins (h : t.Trail hops hop exchanges) : t.TrailBegins hops hop exchanges :=
  ⟨[], by rwa [List.append_nil]⟩

/-- Nothing is the beginning of every trail. -/
theorem trailBegins_nil (t : Transport) (hops : Nat) (hop : Hop) : t.TrailBegins hops hop [] :=
  t.exists_trail hops hop

theorem TrailBegins.values (h : t.TrailBegins hops hop exchanges)
    (hdistinct : hop.fields.Distinct) :
    ∀ made ∈ exchanges, made.request.values rangeName = hop.request.values rangeName := by
  obtain ⟨later, htrail⟩ := h
  exact fun made hmade => htrail.values hdistinct made (List.mem_append_left later hmade)

theorem TrailBegins.redirects (h : t.TrailBegins hops hop exchanges) :
    ∀ made ∈ exchanges.dropLast, ∃ r, made.reaction = .respond r ∧ r.redirects = true := by
  obtain ⟨later, htrail⟩ := h
  intro made hmade
  refine htrail.redirects made ?_
  cases later with
  | nil => rwa [List.append_nil]
  | cons other more =>
    rw [List.dropLast_append_cons]
    exact List.mem_append_left _ (List.dropLast_subset _ hmade)

end Transport

/-! ## One exchange -/

variable {i : Interrupt} {hops : Nat} {hop next : Hop} {w w' : World (Server τ)} {r : Response}

/-- The request gets to the server, which answers it by the response, and the wait for that is not
broken off; this is the world then. -/
structure Answers (t : Transport) (i : Interrupt) (hop : Hop) (w : World (Server τ)) (r : Response)
    (w' : World (Server τ)) : Prop where
  reaches : t.reaches hop.url = true
  responds : (w.state.react hop.request w.state.memory).1 = .respond r
  awaited : (i.race (some (some r)) w.signals).1 = .ok (some (some r))
  world : w' = { handed w hop.request with signals := (i.race (some (some r)) w.signals).2 }

theorem Answers.sent (h : Answers t i hop w r w') : w.Sent w' [⟨hop.request, .respond r⟩] := by
  rw [h.world, ← h.responds]
  exact ⟨rfl, rfl⟩

/-- Something else than an error comes of a request exactly if there is an answer. -/
theorem exchange_eq_ok_iff {came : Response ⊕ Hop} :
    exchange t i hop w = (.ok came, w') ↔
      ∃ r, Answers t i hop w r w' ∧ turned t hop (.ok (some (some r))) = .ok came := by
  rw [exchange_eq]
  dsimp only
  constructor
  · intro h
    obtain ⟨hturned, hworld⟩ := Prod.mk.inj h
    -- Nothing but a response is turned into something else than an error.
    obtain ⟨r, hcame⟩ : ∃ r, (i.race (transmit t hop w).1.arrival (transmit t hop w).2.signals).1 =
        .ok (some (some r)) := by
      rcases came with r | next
      · exact ⟨r, (turned_eq_inl hturned).1⟩
      · obtain ⟨r, hcame, -⟩ := turned_eq_inr hturned
        exact ⟨r, hcame⟩
    have hreact := Reaction.eq_of_arrival (i.race_ok hcame).symm
    have hreaches := reaches_of_respond hreact
    rw [hcame] at hturned
    rw [hreact, signals_transmit] at hcame hworld
    rw [transmit_of_reaches hreaches] at hreact hworld
    exact ⟨r, ⟨hreaches, hreact, hcame, hworld.symm⟩, hturned⟩
  · rintro ⟨r, hanswers, hturned⟩
    rw [transmit_of_reaches hanswers.reaches, hanswers.responds]
    show (turned t hop (i.race (some (some r)) w.signals).1, _) = _
    rw [hanswers.awaited, hturned, hanswers.world]
    rfl

/-- An error comes of a request that did not get to the server, or that was an exchange there and
leads nowhere, unless the wait was broken off. -/
theorem exchange_sent_of_error {e : BackendError} (h : exchange t i hop w = (.error e, w')) :
    (t.reaches hop.url = false ∧ w.Sent w' []) ∨
      (t.reaches hop.url = true ∧
        let reaction := (w.state.react hop.request w.state.memory).1
        w.Sent w' [⟨hop.request, reaction⟩] ∧
          (e = .interrupted ∨ t.next? hop reaction = none)) := by
  rw [exchange_eq] at h
  dsimp only at h
  obtain ⟨hturned, rfl⟩ := Prod.mk.inj h
  cases hreaches : t.reaches hop.url with
  | false =>
    refine .inl ⟨rfl, ?_⟩
    rw [transmit, if_neg (by simp [hreaches])]
    exact World.sent_nothing rfl rfl
  | true =>
    rw [transmit_of_reaches hreaches] at hturned ⊢
    refine .inr ⟨rfl, ⟨rfl, rfl⟩, ?_⟩
    dsimp only at hturned
    rcases i.race_cases (w.state.react hop.request w.state.memory).1.arrival
      (handed w hop.request).signals with ⟨now, hbroken, -⟩ | hcame
    · rw [hbroken] at hturned
      exact .inl (Except.error.inj hturned).symm
    · rw [hcame] at hturned
      right
      -- A reaction that leads to another request is turned into that.
      by_contra hnone
      obtain ⟨next, hnext⟩ := Option.ne_none_iff_exists'.1 hnone
      obtain ⟨r, hreaction, hleads⟩ := Transport.next?_eq_some_iff.1 hnext
      rw [hreaction, Reaction.arrival, turned, hleads] at hturned
      cases hturned

/-! ## What is sent for a request -/

/-- What is left behind by a request and those that it leads to, if these were the exchanges. -/
structure Fetched (t : Transport) (hops : Nat) (hop : Hop) (w : World (Server τ))
    (fetched : Except BackendError Response × World (Server τ)) (exchanges : List Exchange) :
    Prop where
  sent : w.Sent fetched.2 exchanges
  /-- They are a trail as far as they went. -/
  begins : t.TrailBegins hops hop exchanges
  /-- They went to its end unless a wait was broken off. -/
  whole : fetched.1 ≠ .error .interrupted → t.Trail hops hop exchanges
  first : exchanges ≠ [] → ∃ later,
    exchanges = ⟨hop.request, (w.state.react hop.request w.state.memory).1⟩ :: later
  /-- A response that comes back is what the last of them ended with. -/
  answered : ∀ r, fetched.1 = .ok r →
    ∃ made, exchanges.getLast? = some made ∧ made.reaction = .respond r

/-- A single exchange begins a trail, wherever it leads. -/
theorem Transport.trailBegins_singleton (hreaches : t.reaches hop.url = true)
    (reaction : Reaction) : t.TrailBegins hops hop [⟨hop.request, reaction⟩] := by
  cases hnext : t.next? hop reaction with
  | none => exact (Trail.last hreaches (.inr hnext)).begins
  | some next =>
    cases hops with
    | zero => exact (Trail.last hreaches (.inl rfl)).begins
    | succ hops =>
      obtain ⟨later, hlater⟩ := t.exists_trail hops next
      exact ⟨later, .leads hreaches hnext hlater⟩

/-- **A request is followed along its trail.** The induction goes along the requests that lead from
one to the other; the exchanges of the later ones come behind that of the first. -/
theorem fetch_sent (t : Transport) (i : Interrupt) (hops : Nat) (hop : Hop)
    (w : World (Server τ)) :
    ∃ exchanges, Fetched t hops hop w (fetch t i hops hop w) exchanges := by
  induction hops, hop, w using fetch_induct (t := t) (i := i) with
  | failed hops hop w e w' hmade hfetch =>
    rw [hfetch]
    obtain ⟨hreaches, hsent⟩ | ⟨hreaches, hsent, hnone⟩ := exchange_sent_of_error hmade
    · refine ⟨[], hsent, t.trailBegins_nil hops hop, fun _ => .unreached hreaches, ?_, ?_⟩
      · exact fun hsome => absurd rfl hsome
      · exact fun r hr => nomatch hr
    · refine ⟨_, hsent, Transport.trailBegins_singleton hreaches _, ?_, fun _ => ⟨[], rfl⟩, ?_⟩
      · intro hbroken
        refine .last hreaches (.inr (hnone.resolve_left ?_))
        rintro rfl
        exact hbroken rfl
      · exact fun r hr => nomatch hr
  | settled hops hop w r w' hmade hfetch =>
    rw [hfetch]
    obtain ⟨r', hanswers, hturned⟩ := exchange_eq_ok_iff.1 hmade
    obtain ⟨hcame, hstays⟩ := turned_eq_inl hturned
    cases hcame
    have htrail : t.Trail hops hop [⟨hop.request, .respond r⟩] := by
      refine .last hanswers.reaches (.inr ?_)
      rw [Transport.next?, hstays]
    refine ⟨_, hanswers.sent, htrail.begins, fun _ => htrail, fun _ => ⟨[], ?_⟩, ?_⟩
    · rw [hanswers.responds]
    · exact fun _ hr => ⟨_, rfl, congrArg Reaction.respond (Except.ok.inj hr)⟩
  | limit hop w next w' hmade hfetch =>
    rw [hfetch]
    obtain ⟨r, hanswers, -⟩ := exchange_eq_ok_iff.1 hmade
    have htrail : t.Trail 0 hop [⟨hop.request, .respond r⟩] := .last hanswers.reaches (.inl rfl)
    refine ⟨_, hanswers.sent, htrail.begins, fun _ => htrail, fun _ => ⟨[], ?_⟩, ?_⟩
    · rw [hanswers.responds]
    · exact fun r hr => nomatch hr
  | leads hops hop w next w' hmade hfetch ih =>
    rw [hfetch]
    obtain ⟨exchanges, hlater⟩ := ih
    obtain ⟨r', hanswers, hturned⟩ := exchange_eq_ok_iff.1 hmade
    obtain ⟨r, hcame, hleads⟩ := turned_eq_inr hturned
    cases hcame
    have hnext : t.next? hop (.respond r') = some next := by rw [Transport.next?, hleads]
    refine ⟨_ :: exchanges, hanswers.sent.trans hlater.sent, ?_, ?_, fun _ => ⟨exchanges, ?_⟩, ?_⟩
    · obtain ⟨rest, hrest⟩ := hlater.begins
      exact ⟨rest, .leads hanswers.reaches hnext hrest⟩
    · exact fun hbroken => .leads hanswers.reaches hnext (hlater.whole hbroken)
    · rw [hanswers.responds]
    · intro r hr
      obtain ⟨made, hlast, hreaction⟩ := hlater.answered r hr
      exact ⟨made, by rw [List.getLast?_cons, hlast]; rfl, hreaction⟩

/-- For the first request of a URL, or for that of a part of it, an attempt to send it leaves this
behind. Nothing is sent if the interrupt fires or no request can be made. -/
theorem send_sent (t : Transport) (url : Url) (base : HeaderMap) (offset : Option Nat)
    (i : Interrupt) (w : World (Server τ)) :
    w.Sent (send t url base offset i w).2 [] ∨
      ∃ exchanges, exchanges ≠ [] ∧ Fetched t redirectLimit (firstHop url base offset) w
        ((fetch t i redirectLimit (firstHop url base offset) w).1,
          (send t url base offset i w).2) exchanges := by
  rw [send_eq]
  split
  · exact .inl (World.sent_nothing rfl rfl)
  · split
    · exact .inl (World.sent_nothing rfl rfl)
    · obtain ⟨exchanges, h⟩ := fetch_sent t i redirectLimit (firstHop url base offset) w
      cases exchanges with
      | nil => exact .inl h.sent
      | cons made later => exact .inr ⟨made :: later, by simp, h⟩

/-! ## What gets through -/

/-- The response comes back to the request, or to one that it leads to. -/
inductive Arrives (t : Transport) (i : Interrupt) (r : Response) :
    Nat → Hop → World (Server τ) → Prop
  | settled {hops : Nat} {hop : Hop} {w w' : World (Server τ)} :
      Answers t i hop w r w' → t.redirect hop r = none → Arrives t i r hops hop w
  | leads {hops : Nat} {hop next : Hop} {w w' : World (Server τ)} {elsewhere : Response} :
      Answers t i hop w elsewhere w' → t.redirect hop elsewhere = some (.ok next) →
      Arrives t i r hops next w' → Arrives t i r (hops + 1) hop w

/-- A request comes to a response exactly if that arrives. -/
theorem fetch_ok_iff : (fetch t i hops hop w).1 = .ok r ↔ Arrives t i r hops hop w := by
  constructor
  · intro h
    induction hops, hop, w using fetch_induct (t := t) (i := i) with
    | failed hops hop w e w' hmade hfetch =>
      rw [hfetch] at h
      cases h
    | settled hops hop w r' w' hmade hfetch =>
      rw [hfetch] at h
      cases h
      obtain ⟨r', hanswers, hturned⟩ := exchange_eq_ok_iff.1 hmade
      obtain ⟨hcame, hstays⟩ := turned_eq_inl hturned
      cases hcame
      exact .settled hanswers hstays
    | limit hop w next w' hmade hfetch =>
      rw [hfetch] at h
      cases h
    | leads hops hop w next w' hmade hfetch ih =>
      rw [hfetch] at h
      obtain ⟨elsewhere, hanswers, hturned⟩ := exchange_eq_ok_iff.1 hmade
      obtain ⟨r', hcame, hleads⟩ := turned_eq_inr hturned
      cases hcame
      exact .leads hanswers hleads (ih h)
  · intro h
    induction h with
    | @settled _ hop _ _ hanswers hstays =>
      have hturned : turned t hop (.ok (some (some r))) = .ok (.inl r) := by rw [turned, hstays]
      rw [fetch_eq, exchange_eq_ok_iff.2 ⟨r, hanswers, hturned⟩]
    | @leads _ hop next _ _ elsewhere hanswers hleads _ ih =>
      have hturned : turned t hop (.ok (some (some elsewhere))) = .ok (.inr next) := by
        rw [turned, hleads]
      rw [fetch_eq, exchange_eq_ok_iff.2 ⟨elsewhere, hanswers, hturned⟩]
      exact ih

/-- The request goes out, and the response arrives. -/
structure GetsThrough (t : Transport) (url : Url) (base : HeaderMap) (offset : Option Nat)
    (i : Interrupt) (w : World (Server τ)) (r : Response) : Prop where
  fires : i.fires w.signals = false
  sendable : (requested url).isSendable = true
  arrives : Arrives t i r redirectLimit (firstHop url base offset) w

/-- A request succeeds exactly if a response of an accepted status gets through. -/
theorem send_ok_iff {url : Url} {base : HeaderMap} {offset : Option Nat} :
    (send t url base offset i w).1 = .ok r ↔
      GetsThrough t url base offset i w r ∧ isAccepted offset r.status = true := by
  rw [send_eq]
  by_cases hfires : i.fires w.signals = true
  · rw [if_pos hfires]
    refine ⟨fun h => (nomatch h), fun h => ?_⟩
    exact absurd (hfires.symm.trans h.1.fires) (by simp)
  · rw [if_neg hfires]
    by_cases hsendable : (requested url).isSendable = true
    · rw [if_neg (by simp [hsendable])]
      dsimp only
      constructor
      · intro h
        cases hfetched : (fetch t i redirectLimit (firstHop url base offset) w).1 with
        | error e =>
          rw [hfetched] at h
          cases h
        | ok came =>
          rw [hfetched] at h
          obtain ⟨rfl, haccepted⟩ := accept_eq_ok_iff.1 h
          exact ⟨⟨by simpa using hfires, hsendable, fetch_ok_iff.1 hfetched⟩, haccepted⟩
      · rintro ⟨hthrough, haccepted⟩
        rw [fetch_ok_iff.2 hthrough.arrives]
        exact accept_eq_ok_iff.2 ⟨rfl, haccepted⟩
    · rw [if_pos hsendable]
      exact ⟨fun h => (nomatch h), fun h => absurd h.1.sendable hsendable⟩

/-! ## When nobody cancels -/

variable {T : Token → Prop}

/-- Nobody breaks one request off. -/
theorem exchange_of_quiet (hquiet : i.Quiet T) (hcalm : w.signals.Calm T)
    {came : Except BackendError (Response ⊕ Hop)} (h : exchange t i hop w = (came, w')) :
    w'.signals.Calm T ∧ came ≠ .error .interrupted := by
  rw [← signals_transmit t hop w] at hcalm
  obtain ⟨signals, hrace, hstill⟩ := hquiet.race hcalm (transmit t hop w).1.arrival
  rw [exchange_eq] at h
  dsimp only at h
  rw [hrace] at h
  obtain ⟨rfl, rfl⟩ := Prod.mk.inj h
  exact ⟨hstill, turned_ne_interrupted t hop _⟩

/-- Nobody breaks a request off, or the others that it leads to. -/
theorem fetch_of_quiet (hquiet : i.Quiet T) (hcalm : w.signals.Calm T) (t : Transport)
    (hops : Nat) (hop : Hop) :
    (fetch t i hops hop w).2.signals.Calm T ∧
      (fetch t i hops hop w).1 ≠ .error .interrupted := by
  induction hops, hop, w using fetch_induct (t := t) (i := i) with
  | failed hops hop w e w' hmade hfetch =>
    obtain ⟨hstill, hnot⟩ := exchange_of_quiet hquiet hcalm hmade
    rw [hfetch]
    exact ⟨hstill, fun h => hnot (congrArg Except.error (Except.error.inj h))⟩
  | settled hops hop w r w' hmade hfetch =>
    obtain ⟨hstill, -⟩ := exchange_of_quiet hquiet hcalm hmade
    rw [hfetch]
    exact ⟨hstill, fun h => nomatch h⟩
  | limit hop w next w' hmade hfetch =>
    obtain ⟨hstill, -⟩ := exchange_of_quiet hquiet hcalm hmade
    rw [hfetch]
    exact ⟨hstill, fun h => HttpError.toBackend_ne_interrupted _ (Except.error.inj h)⟩
  | leads hops hop w next w' hmade hfetch ih =>
    rw [hfetch]
    exact ih (exchange_of_quiet hquiet hcalm hmade).1

/-- A request that can be made is sent, and followed to the end of its trail. -/
theorem send_of_quiet (hquiet : i.Quiet T) (hcalm : w.signals.Calm T) {url : Url}
    (hsendable : (requested url).isSendable = true) (base : HeaderMap) (offset : Option Nat) :
    (send t url base offset i w).2.signals.Calm T ∧
      ∃ exchanges, t.Trail redirectLimit (firstHop url base offset) exchanges ∧
        w.Sent (send t url base offset i w).2 exchanges := by
  obtain ⟨hstill, hwhole⟩ :=
    fetch_of_quiet hquiet hcalm t redirectLimit (firstHop url base offset)
  obtain ⟨exchanges, h⟩ := fetch_sent t i redirectLimit (firstHop url base offset) w
  rw [send_eq, if_neg (by simp [hquiet _ hcalm.spares]), if_neg (by simp [hsendable])]
  exact ⟨hstill, exchanges, h.whole hwhole, h.sent⟩

/-- Nothing is sent if no request can be made. -/
theorem send_of_unsendable (hquiet : i.Quiet T) (hcalm : w.signals.Calm T) {url : Url}
    (hunsendable : (requested url).isSendable = false) (base : HeaderMap) (offset : Option Nat) :
    send t url base offset i w = (.error (unsendable (requested url)).toBackend, w) := by
  rw [send_eq, if_neg (by simp [hquiet _ hcalm.spares]), if_pos (by simp [hunsendable])]

end Http

end ByteStream
