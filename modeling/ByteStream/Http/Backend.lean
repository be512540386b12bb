/-
# ByteStream.Http.Backend -- the backend for `http` and `https`

Connecting checks its arguments in a fixed order and sends the first request only when all are
good: the scheme, the mode, the URL, the options, the certificate file, the user agent, the header
fields. An option that was understood is taken even if a later check fails.

There is a backend for each transport and each order of waits; the one that runs is `backend`. What
the settings say of certificates has no effect but that their file is looked at: which servers are
trusted is up to the transport.
-/

import ByteStream.Http.Connection
import ByteStream.Http.Settings

namespace ByteStream.Http

/-- The times and limits of the HTTP machinery. -/
structure Limits where
  /-- How long opening a connection to a server may take, in milliseconds. -/
  connectTimeout : Nat := 30000
  /-- How often a waiting call looks at its interrupt, in milliseconds. -/
  interruptPoll : Nat := 50
  /-- How many idle connections to one server are kept. -/
  idlePerHost : Nat := 0
deriving DecidableEq, Repr

/-- The certificate file can be loaded, if one is named, and the user agent can be sent. -/
def checkClient (files : Files) (s : Settings) : Except HttpError Unit :=
  match s.caFile.bind fun path => (files.trouble path).map fun reason => (path, reason) with
  | some (path, reason) => .error (.caFile path reason)
  | none =>
    if s.userAgent.all isFieldValue then .ok () else .error (.transfer "builder error")

/-- The fields of every request, if all settings are good. -/
def prepare (files : Files) (url : Url) (s : Settings) : Except HttpError HeaderMap :=
  match checkClient files s with
  | .error e => .error e
  | .ok () =>
    match s.headerMap with
    | .error e => .error e
    | .ok m => .ok (baseFields m url.credentials? s.userAgent)

/-- The checks before the first request: they give what it is made of, or the error of the first
that fails, and in any case the options that were not taken. -/
def checked (files : Files) (request : ConnectRequest) :
    Except BackendError (Url × Settings × HeaderMap) × ConnectOptions :=
  match Scheme.split? request.url with
  | none => (.error .protocolNotFound, request.options)
  | some (scheme, rest) =>
    if request.mode = .write then (.error .unsupported, request.options)
    else
      match Url.parse scheme rest with
      | .error e => (.error (HttpError.invalidUrl e.message).toBackend, request.options)
      | .ok url =>
        let taken := Settings.takeFrom request.options
        match taken.1 with
        | .error e => (.error e.toBackend, taken.2)
        | .ok settings =>
          match prepare files url settings with
          | .error e => (.error e.toBackend, taken.2)
          | .ok base => (.ok (url, settings, base), taken.2)

variable {τ : Type}

/-- Connects to a URL, in the order given. -/
def connectBy (t : Transport) (o : Order τ) (request : ConnectRequest) (w : World (Server τ)) :
    Observed (Connected (Server τ) Connection) :=
  match checked w.state.files request with
  | (.error e, left) => ⟨⟨.error e, left, w⟩, []⟩
  | (.ok (url, settings, base), left) =>
    let sent := sendBy t o url base none request.interrupt w
    ⟨⟨sent.result.1.map (Connection.ofResponse url base request.interrupt settings.icy), left,
        sent.result.2⟩,
      sent.looks⟩

/-- Connects to a URL. -/
def connect (t : Transport) (request : ConnectRequest) (w : World (Server τ)) :
    Connected (Server τ) Connection :=
  (connectBy t .scripted request w).result

/-- The backend for the two schemes, over a transport and in an order. It cannot write or seek by
time, and gives a connection up without a word. -/
def backendBy (t : Transport) (o : Order τ) : Backend (Server τ) Connection where
  protocols := Scheme.all.map Scheme.name
  connect request w := (connectBy t o request w).result
  read c n w := (c.readBy o n w).result
  readsLeft c _ := c.bytesLeft
  seek c pos w := (c.seekBy t o pos w).result
  size c w := .done c.size c w
  isSeekable c _ := c.seekable
  mimeType c _ := c.mimeType
  icyFields c _ := (c.icyFields, c)

/-- The backend over a transport, in the scripted order. -/
def backendOver (t : Transport) : Backend (Server τ) Connection := backendBy t .scripted

/-- The backend that runs. -/
def backend : Backend (Server τ) Connection := backendOver .plain

end ByteStream.Http
