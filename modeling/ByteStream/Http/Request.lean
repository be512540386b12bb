/-
# ByteStream.Http.Request -- sending a request and waiting for its answer

A request goes out only while the interrupt is silent, and the wait for its answer can be broken
off. A request carries its base fields, which are the same for every request of a connection, and
for a part of the resource one field more. If it is answered by a redirect that the transport
follows, another request is made in its place; a response that is handed out in the end counts only
if its status is accepted.

What a request comes to depends on the transport and on the order of its waits (`sendBy`); there is
one definition for all of them, and `send` is the one in the scripted order.

Left out are bodies of requests, time limits, and the making of a redirected request out of what the
server wrote, which is up to the transport.
-/

import ByteStream.Http.Transport
import ByteStream.Text.Base64

namespace ByteStream.Http

/-! ## Fields -/

/-- The field that carries credentials. -/
def credentialsField (user : String) (password : Option String) : String × String :=
  ("authorization", "Basic " ++ Text.Base64.encode (Text.utf8 (user ++ ":" ++ password.getD "")))

/-- The field by which any kind of content is accepted. -/
def acceptField : String × String := ("accept", "*/*")

/-- The name of the field that names the user agent. -/
def agentName : String := "user-agent"

/-- The fields of every request of a connection. The caller's fields go first; credentials from
the URL, a wish for any kind of content and the user agent are added where the caller has none.
There is no body, and so no coding of its transfer. -/
def baseFields (m : HeaderMap) (credentials : Option (String × Option String))
    (agent : Option String) : HeaderMap :=
  let offer (m : HeaderMap) (field : Option (String × String)) : HeaderMap :=
    match field with
    | none => m
    | some (name, value) => m.offer name value
  let m := offer m (credentials.map fun (user, password) => credentialsField user password)
  let m := offer m (some acceptField)
  let m := offer m (agent.map fun a => (agentName, a))
  m.erase codingName

/-- The fields of one request. -/
def requestFields (base : HeaderMap) (offset : Option Nat) : HeaderMap :=
  match offset with
  | none => base
  | some pos => base.append (rangeField pos).1 (rangeField pos).2

/-- The request as the journal has it, without the field that names the server. -/
def Request.call (r : Request) : Call :=
  .request "GET" r.target (r.fields.filter fun field => field.1 != hostName)

/-! ## One request -/

variable {τ : Type}

/-- Hands a request over, if its URL can be reached. -/
def transmit (t : Transport) (hop : Hop) (w : World (Server τ)) : Reaction × World (Server τ) :=
  if t.reaches hop.url then
    let (reaction, server) := w.state.serve hop.request
    (reaction, { w.note hop.request.call with state := server })
  else (.hangUp, w)

/-- The URL that a request names: credentials that a field carries are not part of it. -/
def requested (url : Url) : Url := if url.credentials?.isSome then url.withoutCredentials else url

/-- The error of a request that cannot be made. -/
def unsendable (url : Url) : HttpError :=
  .transfer ("builder error for url (" ++ url.text ++ ")")

/-- The error of a request without an answer. -/
def unanswered (url : Url) : HttpError :=
  .transfer ("error sending request for url (" ++ url.text ++ ")")

/-- The error of a request that was sent elsewhere too often. -/
def lostTrack (url : Url) : HttpError :=
  .transfer ("error following redirect for url (" ++ url.text ++ ")")

/-- What comes of a request, after the wait for its answer: a response, or another request. -/
def turned (t : Transport) (hop : Hop) :
    Except BackendError (Option (Option Response)) → Except BackendError (Response ⊕ Hop)
  | .error e => .error e
  | .ok none => .error .lost
  | .ok (some none) => .error (unanswered hop.url).toBackend
  | .ok (some (some r)) =>
    match t.redirect hop r with
    | none => .ok (.inl r)
    | some (.error e) => .error e.toBackend
    | some (.ok next) => .ok (.inr next)

/-- Makes one request and waits for what comes of it. -/
def exchangeBy (t : Transport) (o : Order τ) (i : Interrupt) (hop : Hop) (w : World (Server τ)) :
    Observed (Except BackendError (Response ⊕ Hop) × World (Server τ)) :=
  let sent := transmit t hop w
  let waited := i.raceBy (o.answering sent.1 sent.2) sent.1.arrival
  ⟨(turned t hop waited.result.1, { sent.2 with signals := waited.result.2 }), waited.looks⟩

/-! ## Requests that lead to others -/

/-- Makes a request, and others in its place as often as is allowed, until there is a response. -/
def fetchBy (t : Transport) (o : Order τ) (i : Interrupt) :
    Nat → Hop → World (Server τ) →
      Observed (Except BackendError Response × World (Server τ))
  | hops, hop, w =>
    let made := exchangeBy t o i hop w
    match made.result, hops with
    | (.error e, w), _ => ⟨(.error e, w), made.looks⟩
    | (.ok (.inl r), w), _ => ⟨(.ok r, w), made.looks⟩
    | (.ok (.inr _), w), 0 => ⟨(.error (lostTrack hop.url).toBackend, w), made.looks⟩
    | (.ok (.inr next), w), hops + 1 =>
      let rest := fetchBy t o i hops next w
      ⟨rest.result, made.looks ++ rest.looks⟩

/-- The first request for a URL, or for the part of it from a position on. -/
def firstHop (url : Url) (base : HeaderMap) (offset : Option Nat) : Hop :=
  ⟨requested url, requestFields base offset⟩

/-- Takes a response if its status is accepted. -/
def accept (url : Url) (offset : Option Nat) (r : Response) : Except BackendError Response :=
  if isAccepted offset r.status then .ok r
  else .error (HttpError.status r.status url.text).toBackend

/-- Sends a request, if one can be made for the URL, and waits for an answer with an accepted
status, in the order given. -/
def sendBy (t : Transport) (o : Order τ) (url : Url) (base : HeaderMap) (offset : Option Nat)
    (i : Interrupt) (w : World (Server τ)) :
    Observed (Except BackendError Response × World (Server τ)) :=
  let left := i.waitBy (o.leaving w) (some ()) w.signals
  let w := { w with signals := left.result.2 }
  match left.result.1 with
  | .error e => ⟨(.error e, w), left.looks⟩
  | .ok _ =>
    if ¬ (requested url).isSendable then
      ⟨(.error (unsendable (requested url)).toBackend, w), left.looks⟩
    else
      let fetched := fetchBy t o i redirectLimit (firstHop url base offset) w
      ⟨(fetched.result.1.bind (accept url offset), fetched.result.2),
       left.looks ++ fetched.looks⟩

/-! ## In the scripted order -/

/-- Makes one request. -/
def exchange (t : Transport) (i : Interrupt) (hop : Hop) (w : World (Server τ)) :
    Except BackendError (Response ⊕ Hop) × World (Server τ) :=
  (exchangeBy t .scripted i hop w).result

/-- Makes a request, and others in its place. -/
def fetch (t : Transport) (i : Interrupt) (hops : Nat) (hop : Hop) (w : World (Server τ)) :
    Except BackendError Response × World (Server τ) :=
  (fetchBy t .scripted i hops hop w).result

/-- Sends a request and waits for an answer with an accepted status. -/
def send (t : Transport) (url : Url) (base : HeaderMap) (offset : Option Nat) (i : Interrupt)
    (w : World (Server τ)) : Except BackendError Response × World (Server τ) :=
  (sendBy t .scripted url base offset i w).result

end ByteStream.Http
