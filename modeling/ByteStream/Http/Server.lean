/-
# ByteStream.Http.Server -- servers and their reactions

One server stands for all that can be reached: a request says which host it is meant for, and the
server reacts to it with a response, with silence, or by hanging up. It may remember what it was
asked, and keeps a log of the requests that got to it and of what it did about each. A server that
reacts as planned has a list of reactions, one for each request to come, and hangs up when it is
used up.

There is one method, and one version of the protocol. Left out is whatever goes on between a client
and a server before a request is read: names are not looked up and certificates not exchanged. Which
URLs get to the server at all is said by a `Transport`, not here. Nor are there proxies, cookies of
the server's, or connections that several requests share.
-/

import ByteStream.Http.Files
import ByteStream.Http.Response
import ByteStream.Http.Url

namespace ByteStream.Http

/-! ## Requests -/

/-- The name of the field that says which server is meant. -/
def hostName : String := "host"

/-- A request as a server reads it: the place it is meant for, and the fields by name. -/
structure Request where
  scheme : Scheme
  host : Host
  /-- The port, unless it is the one of the scheme. -/
  port : Option Nat
  target : String
  fields : List (String × String)
deriving DecidableEq, Repr

/-- The request for a URL with the fields of a map. The field that names the server is added where
there is none, and blanks around a value are not part of it. -/
def Request.ofFields (url : Url) (fields : HeaderMap) : Request :=
  { scheme := url.scheme
    host := url.host
    port := url.port
    target := url.target
    fields := (fields.offer hostName url.authority).sorted.map fun (name, value) =>
      (name, stripped value) }

/-! ## Servers -/

/-- A request that got to a server, and what the server did about it. -/
structure Exchange where
  request : Request
  reaction : Reaction
deriving DecidableEq, Repr

/-- What can be reached, with a memory of type `τ`, and the files at hand. -/
structure Server (τ : Type) where
  files : Files := .bare
  /-- The reaction to a request, and what the server remembers then. -/
  react : Request → τ → Reaction × τ
  memory : τ
  /-- The exchanges so far, the latest first. -/
  log : List Exchange := []

namespace Server

/-- Hands a request to the server. -/
def serve {τ : Type} (s : Server τ) (r : Request) : Reaction × Server τ :=
  let (reaction, memory) := s.react r s.memory
  (reaction, { s with memory, log := ⟨r, reaction⟩ :: s.log })

/-- The next of the planned reactions, whatever the request; hanging up when none is left. -/
def nextPlanned (_ : Request) : List Reaction → Reaction × List Reaction
  | [] => (.hangUp, [])
  | now :: later => (now, later)

/-- A server that reacts as planned. -/
def planned (reactions : List Reaction) : Server (List Reaction) :=
  { react := nextPlanned, memory := reactions }

end Server

end ByteStream.Http
