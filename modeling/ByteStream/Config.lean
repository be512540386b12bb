/-
# ByteStream.Config -- what a caller wants of the network

A configuration is a value: it is handed over when a stream is opened, and nothing is read from
anywhere else. The `with...` functions change one field each; header fields and backend options
are lists to which they append.
-/

import ByteStream.Interrupt
import ByteStream.Entries
import ByteStream.Text.Quoted

namespace ByteStream

/-- Network settings of a caller. -/
structure Config where
  /-- User agent for protocols that name one; the empty text counts as none. -/
  userAgent : Option String := none
  /-- Whether cookies are looked up at all. -/
  cookiesEnabled : Bool := false
  /-- The file that the cookie provider is asked about. -/
  cookiesFile : Option String := none
  /-- Whether the peer's certificates are checked. -/
  tlsVerify : Bool := false
  /-- The file of trusted certificates. -/
  tlsCaFile : Option String := none
  /-- The value of the `Referer` header line. -/
  referrer : Option String := none
  /-- Raw header lines, sent in order. -/
  headerFields : List String := []
  /-- Raw backend options, which are applied after every computed one. -/
  backendOptions : Entries := []
  /-- The token that breaks off waiting calls. -/
  cancel : Option Token := none

namespace Config

/-- Names a user agent. -/
def withUserAgent (c : Config) (agent : String) : Config := { c with userAgent := some agent }

/-- Has cookies looked up, in a file if one is named. -/
def withCookies (c : Config) (file : Option String) : Config :=
  { c with cookiesEnabled := true, cookiesFile := file }

/-- Has certificates checked or not. -/
def withTlsVerify (c : Config) (verify : Bool) : Config := { c with tlsVerify := verify }

/-- Names a file of trusted certificates. -/
def withTlsCaFile (c : Config) (path : String) : Config := { c with tlsCaFile := some path }

/-- Names a referrer. -/
def withReferrer (c : Config) (referrer : String) : Config := { c with referrer := some referrer }

/-- Appends a raw header line. -/
def withHeaderField (c : Config) (line : String) : Config :=
  { c with headerFields := c.headerFields ++ [line] }

/-- Appends a raw backend option. -/
def withBackendOption (c : Config) (key value : String) : Config :=
  { c with backendOptions := c.backendOptions ++ [(key, value)] }

/-- Gives the token that breaks off waiting calls. -/
def withCancel (c : Config) (token : Token) : Config := { c with cancel := some token }

open Text in
/-- The developer's view of a configuration, with the token as it stands. -/
def shown (c : Config) (s : Signals) : String :=
  shownRecord "NetConfig"
    [("user_agent", shownOption quoted c.userAgent),
     ("cookies_enabled", shownBool c.cookiesEnabled),
     ("cookies_file", shownOption quoted c.cookiesFile),
     ("tls_verify", shownBool c.tlsVerify),
     ("tls_ca_file", shownOption quoted c.tlsCaFile),
     ("referrer", shownOption quoted c.referrer),
     ("http_header_fields", shownList quoted c.headerFields),
     ("backend_options", shownList shownPair c.backendOptions),
     ("cancel", shownOption (fun token => shownRecord "CancellationToken"
        [("is_cancelled", shownBool (s.isCancelled token))] false) c.cancel)]
    false

end Config

end ByteStream
