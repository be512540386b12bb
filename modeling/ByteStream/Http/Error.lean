/-
# ByteStream.Http.Error -- what can go wrong over HTTP

A request may fail on the way, be answered by a status that is not accepted, or never be sent
because its URL, its header lines or its certificate file are no good. A stream sees each of them
as an input/output error with the text given here.
-/

import ByteStream.Error

namespace ByteStream.Http

/-- Why an HTTP connection failed. -/
inductive HttpError
  /-- The request or the transfer of its answer failed. -/
  | transfer (text : String)
  | status (code : Nat) (url : String)
  | invalidUrl (text : String)
  | invalidHeader (text : String)
  | caFile (path reason : String)
  /-- The machinery that drives requests did not start. -/
  | runtime (text : String)
deriving DecidableEq, Repr

namespace HttpError

/-- The text of an error. -/
def message : HttpError → String
  | .transfer text => "HTTP request failed: " ++ text
  | .status code url => "HTTP " ++ toString code ++ " for URL: " ++ url
  | .invalidUrl text => "invalid URL: " ++ text
  | .invalidHeader text => "invalid header line: " ++ text
  | .caFile path reason => "failed to load CA file " ++ path ++ ": " ++ reason
  | .runtime text => "failed to start runtime: " ++ text

/-- The status, if that is what was wrong. -/
def code? : HttpError → Option Nat
  | .status code _ => some code
  | _ => none

/-- What a backend reports. -/
def toBackend (e : HttpError) : BackendError := .io e.message

/-- No HTTP error is an interruption. -/
theorem toBackend_ne_interrupted (e : HttpError) : e.toBackend ≠ .interrupted := by
  simp [toBackend]

end HttpError

end ByteStream.Http
