/-
# ByteStream.Http.Transport -- what a connection leaves to others

A connection over HTTP leaves three things to the library that speaks HTTP for it and to the
network. Which URLs can be reached: a name may be unknown, and a certificate may be refused. What
becomes of a response that names another place: the library may make a second request there before
it hands a response out, and which one is its own affair. And how each wait goes, tick by tick.

So none of these is settled here, and what is proved of connections holds for each way that they can
be. Only what is documented is asked of a transport: it goes elsewhere for a redirect alone, which
has one of five statuses and a field that names the place, and it carries the fields of the first
request on, but for some that the next server must not see. How often it goes elsewhere for one
request is bounded.

`Transport.plain` is the one that runs: it reaches plain HTTP, and follows no redirect. It stands
for the library where no answer names another place and no certificate is in play.
-/

import ByteStream.Course
import ByteStream.Http.Error
import ByteStream.Http.Server
import ByteStream.World

namespace ByteStream.Http

/-! ## Redirects -/

/-- The name of the field that names another place. -/
def locationName : String := "location"

/-- The statuses by which a server sends a request to another place. -/
def redirectStatuses : List Nat := [301, 302, 303, 307, 308]

/-- The response sends the request to another place. -/
def Response.redirects (r : Response) : Bool :=
  redirectStatuses.contains r.status && r.headers.has locationName

/-- How many redirects are followed for one request. -/
def redirectLimit : Nat := 10

/-- A request that is to be made: the URL, and the fields of the map. -/
structure Hop where
  url : Url
  fields : HeaderMap
deriving DecidableEq, Repr

/-- What it is to a server. -/
def Hop.request (hop : Hop) : Request := .ofFields hop.url hop.fields

/-! ## Parts of the resource -/

/-- The field that asks for the part from a position on. -/
def rangeField (pos : Nat) : String × String := ("range", "bytes=" ++ toString pos ++ "-")

/-- The name of the field that asks for a part. -/
def rangeName : String := (rangeField 0).1

/-! ## Transports -/

/-- The library that speaks HTTP, and the network. -/
structure Transport where
  /-- A request for the URL gets to the server. -/
  reaches : Url → Bool
  /-- The request that a response is answered by, if it is; or the reason why it cannot be. -/
  redirect : Hop → Response → Option (Except HttpError Hop)
  /-- Other responses are handed out. -/
  redirect_of_not_redirects : ∀ {hop : Hop} {r : Response},
    r.redirects = false → redirect hop r = none
  /-- The next request asks for the part that the one before it asked for. -/
  values_of_redirect : ∀ {hop next : Hop} {r : Response}, redirect hop r = some (.ok next) →
    next.fields.values rangeName = hop.fields.values rangeName
  /-- Each name stands once in the next request, if it did in the one before it. -/
  distinct_of_redirect : ∀ {hop next : Hop} {r : Response}, redirect hop r = some (.ok next) →
    hop.fields.Distinct → next.fields.Distinct

/-- Plain HTTP, without redirects. -/
def Transport.plain : Transport where
  reaches url := url.scheme == .http
  redirect _ _ := none
  redirect_of_not_redirects _ := rfl
  values_of_redirect h := nomatch h
  distinct_of_redirect h := nomatch h

/-- Every URL is reached, as where all names are known and all certificates good, and no redirect is
followed. -/
def Transport.direct : Transport := { Transport.plain with reaches := fun _ => true }

/-! ## Orders -/

/-- How the waits of a connection go. -/
structure Order (τ : Type) where
  /-- Until a request goes out. -/
  leaving : World (Server τ) → Course
  /-- Until there is an answer to the request, or none will come. -/
  answering : Reaction → World (Server τ) → Course
  /-- Until the next chunk of a body, or its end. -/
  arriving : Body → World (Server τ) → Course

/-- A request goes out at once, and of later waits each has a tick after each signal. -/
def Order.scripted {τ : Type} : Order τ where
  leaving w := ⟨[], w.signals⟩
  answering reaction w := w.signals.course reaction.arrival
  arriving body w := w.signals.course body.next?

end ByteStream.Http
