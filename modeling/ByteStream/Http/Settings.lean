/-
# ByteStream.Http.Settings -- what the HTTP backend takes from the options

The backend understands six options and takes them out: the header block first, since an
unreadable one fails the request and leaves the other options where they are. The settings then
give the header map of every request: the caller's fields in order, with one cookie field and one
field that asks for in-band metadata in the place of the caller's own.
-/

import ByteStream.ConnectOptions
import ByteStream.HeaderBlock
import ByteStream.Http.Error
import ByteStream.Http.HeaderMap

namespace ByteStream.Http

/-- What a caller wants of a request. -/
structure Settings where
  userAgent : Option String := none
  cookies : Option String := none
  headers : List (String × String) := []
  tlsVerify : Bool := false
  caFile : Option String := none
  /-- Whether in-band metadata is asked for. -/
  icy : Bool := false
deriving DecidableEq, Repr

/-- The texts that switch an option off. -/
def offTexts : List String := ["", "0", "false", "no"]

/-- An option is on unless its text, without blanks around it, says otherwise. -/
def parseFlag (value : String) : Bool := !offTexts.contains (Text.trimmed value)

namespace Settings

/-- The header fields of a block; the line without a colon is the error. -/
def parseHeaders (block : String) : Except HttpError (List (String × String)) :=
  (HeaderBlock.parse block).mapError .invalidHeader

/-- The settings with all options but the header block taken, and the options that are left. -/
def takeRest (headers : List (String × String)) (o : ConnectOptions) : Settings × ConnectOptions :=
  let (userAgent, o) := o.take ConnectOptions.userAgentKey
  let (cookies, o) := o.take ConnectOptions.cookiesKey
  let (tlsVerify, o) := o.take ConnectOptions.tlsVerifyKey
  let (caFile, o) := o.take ConnectOptions.caFileKey
  let (icy, o) := o.take ConnectOptions.icyKey
  ({ userAgent, cookies, headers, caFile
     tlsVerify := tlsVerify.all parseFlag
     icy := icy.any parseFlag }, o)

/-- Takes the six options out. Certificates are checked unless the option says no; metadata is
asked for only if the option says so. -/
def takeFrom (o : ConnectOptions) : Except HttpError Settings × ConnectOptions :=
  let (block, o) := o.take ConnectOptions.headersKey
  match (block.map parseHeaders).getD (.ok []) with
  | .error e => (.error e, o)
  | .ok headers =>
    let (settings, o) := takeRest headers o
    (.ok settings, o)

/-! ## The header map -/

/-- The name under which cookies are sent. -/
def cookieName : String := "cookie"

/-- The field that asks for in-band metadata. -/
def icyRequest : String × String := ("icy-metadata", "1")

/-- Appends a field if its name and its value are legal; the name is looked at first. -/
def appendField (m : HeaderMap) (field : String × String) : Except HttpError HeaderMap :=
  if ¬ isFieldName field.1 then .error (.invalidHeader field.1)
  else if ¬ isFieldValue field.2 then .error (.invalidHeader field.2)
  else .ok (m.append (Text.lower field.1) field.2)

/-- Appends fields up to the first that is not legal. -/
def appendFields (m : HeaderMap) : List (String × String) → Except HttpError HeaderMap
  | [] => .ok m
  | field :: rest =>
    match appendField m field with
    | .error e => .error e
    | .ok m => appendFields m rest

/-- Puts the cookies in their place, if there are any. -/
def withCookies (m : HeaderMap) : Option String → Except HttpError HeaderMap
  | none => .ok m
  | some cookies =>
    if isFieldValue cookies then .ok (m.insert cookieName cookies)
    else .error (.invalidHeader cookies)

/-- The header map of every request. -/
def headerMap (s : Settings) : Except HttpError HeaderMap :=
  match appendFields .empty s.headers with
  | .error e => .error e
  | .ok m =>
    match withCookies m s.cookies with
    | .error e => .error e
    | .ok m => .ok (if s.icy then m.insert icyRequest.1 icyRequest.2 else m)

end Settings

end ByteStream.Http
