/-
# ByteStream.Http.Url -- URLs of the two HTTP schemes

A URL is read leniently. Blanks at its end and line ends within it do not count, a backslash is a
slash, any number of slashes may follow the scheme, and the path is resolved: dot segments take
back what stands before them. Characters that may not stand in a part are percent-encoded there.
What remains wrong is the host or the port.
-/

import ByteStream.Http.Host
import ByteStream.Text.AsciiCase
import ByteStream.Text.Blank

namespace ByteStream.Http

open Text

/-! ## Schemes and errors -/

/-- The schemes that the backend serves. -/
inductive Scheme
  | http
  | https
deriving DecidableEq, Repr

namespace Scheme

/-- The name of a scheme. -/
def name : Scheme → String
  | .http => "http"
  | .https => "https"

/-- The port that is meant if none is named. -/
def defaultPort : Scheme → Nat
  | .http => 80
  | .https => 443

/-- All of them. -/
def all : List Scheme := [.http, .https]

/-- The scheme that a URL starts with, in any case, and what follows its colon. -/
def split? (url : String) : Option (Scheme × List Char) :=
  (cutAt ':' url.toList).bind fun (before, rest) =>
    (all.find? fun s => sameName s.name (String.ofList before)).map fun s => (s, rest)

end Scheme

/-- Why a text is no URL. -/
inductive UrlError
  | host (e : HostError)
  | port
deriving DecidableEq, Repr

/-- The text of the error. -/
def UrlError.message : UrlError → String
  | .host e => e.message
  | .port => "invalid port number"

/-! ## URLs -/

/-- A URL in parts, each as it is written. -/
structure Url where
  scheme : Scheme
  user : String
  password : Option String
  host : Host
  /-- The port, unless it is the one that is meant anyway. -/
  port : Option Nat
  path : String
  query : Option String
  fragment : Option String
deriving DecidableEq, Repr

namespace Url

/-! ### Writing -/

/-- The credentials in front of the host. -/
def credentialsText (u : Url) : String :=
  match u.password with
  | some password => u.user ++ ":" ++ password ++ "@"
  | none => if u.user = "" then "" else u.user ++ "@"

/-- The host and the port. -/
def authority (u : Url) : String :=
  u.host.text ++ (u.port.map fun p => ":" ++ toString p).getD ""

/-- What a request asks a server for. -/
def target (u : Url) : String := u.path ++ (u.query.map ("?" ++ ·)).getD ""

/-- The whole URL. -/
def text (u : Url) : String :=
  u.scheme.name ++ "://" ++ u.credentialsText ++ u.authority ++ u.target
    ++ (u.fragment.map ("#" ++ ·)).getD ""

/-! ### Sending -/

/-- A character of a host that may stand in a request. -/
def isSentChar (c : Char) : Bool := !"\"\x60\x7b\x7d".toList.contains c

/-- How many bytes long a URL may be in a request. -/
def maxSentLength : Nat := 65534

/-- A request can be made for the URL. -/
def isSendable (u : Url) : Bool :=
  u.host.text.toList.all isSentChar && u.text.utf8ByteSize ≤ maxSentLength

/-! ### Characters that stand for themselves -/

/-- In a fragment: what ASCII can show, but no space, quotation mark, angle or grave accent. -/
def inFragment (c : Char) : Bool :=
  '!' ≤ c && c ≤ '~' && !"\"<>\x60".toList.contains c

/-- In a path, the marks that end it and braces are excluded too. -/
def inPath (c : Char) : Bool := inFragment c && !"#?\x7b\x7d".toList.contains c

/-- In credentials, all marks that structure a URL are excluded. -/
def inCredentials (c : Char) : Bool := inPath c && !"/:;=@[\\]^|".toList.contains c

/-- In a query. -/
def inQuery (c : Char) : Bool := '!' ≤ c && c ≤ '~' && !"\"#<>\x27".toList.contains c

/-! ### Reading -/

/-- A slash, either way. -/
def isSlash (c : Char) : Bool := c == '/' || c == '\\'

/-- What ends the host and the port. -/
def endsAuthority (c : Char) : Bool := isSlash c || c == '?' || c == '#'

/-- What ends the path. -/
def endsPath (c : Char) : Bool := c == '?' || c == '#'

/-- Characters that do not count anywhere. -/
def isSkipped (c : Char) : Bool := c == '\t' || c == '\n' || c == '\r'

/-- The user and the password of the credentials. The password follows the first colon; an empty
one is none. -/
def credentials (cs : List Char) : String × Option String :=
  let written (part : List Char) : String := String.ofList (escape inCredentials part)
  match cutAt ':' cs with
  | none => (written cs, none)
  | some (user, password) =>
    (written user, if password.isEmpty then none else some (written password))

/-- What stands before the last `@`, and what stands behind it. -/
def cutCredentials (cs : List Char) : List Char × List Char :=
  let behind := (cs.reverse.takeWhile (· != '@')).reverse
  (cs.take (cs.length - behind.length - 1), behind)

/-- The host and what follows it from the first colon on that is not in brackets. -/
def cutPort (inBrackets : Bool) : List Char → List Char × List Char
  | [] => ([], [])
  | c :: cs =>
    if c = ':' ∧ ¬ inBrackets then ([], c :: cs)
    else
      let (host, rest) := cutPort (c == '[' || (inBrackets && c != ']')) cs
      (c :: host, rest)

/-- The greatest port. -/
def maxPort : Nat := 65535

/-- The port behind a colon. None is named if no digits follow, and the port that is meant anyway
need not be. -/
def port? (s : Scheme) : List Char → Except UrlError (Option Nat)
  | [] => .ok none
  | _ :: digits =>
    if ¬ digits.all Char.isDigit then .error .port
    else
      match (number? 10 digits).filter (· ≤ maxPort) with
      | none => .error .port
      | some port => .ok (if digits.isEmpty ∨ port = s.defaultPort then none else some port)

/-- The segment stands for the one before it. -/
def isDoubleDot (segment : List Char) : Bool :=
  ["..", "%2e.", ".%2e", "%2e%2e"].contains (lower (String.ofList segment))

/-- The segment stands for itself. -/
def isSingleDot (segment : List Char) : Bool :=
  [".", "%2e"].contains (lower (String.ofList segment))

/-- A letter and a colon or bar, as some systems name a drive. -/
def isDrive : List Char → Bool
  | [letter, mark] => letter.isAlpha && (mark == ':' || mark == '|')
  | _ => false

/-- Takes the last directory back; the first is the last here. A drive stays. -/
def dropLastDirectory : List (List Char) → List (List Char)
  | [] => []
  | last :: before => if isDrive last then last :: before else before

/-- Resolves segments behind directories, the last directory first. -/
def resolve (directories : List (List Char)) : List (List Char) → List Char
  | [] => written directories []
  | [last] =>
    if isDoubleDot last then written (dropLastDirectory directories) []
    else if isSingleDot last then written directories []
    else written directories last
  | segment :: rest =>
    if isDoubleDot segment then resolve (dropLastDirectory directories) rest
    else if isSingleDot segment then resolve directories rest
    else resolve (segment :: directories) rest
where
  /-- The path of a segment in its directories. -/
  written (directories : List (List Char)) (last : List Char) : List Char :=
    '/' :: (directories.reverse.flatMap fun d => d ++ ['/']) ++ last

/-- The path that a text asks for; the slash in front of it may be missing. -/
def pathOf (cs : List Char) : String :=
  let cs := cs.map fun c => if isSlash c then '/' else c
  let cs := (after? ['/'] cs).getD cs
  String.ofList (resolve [] ((parts '/' cs).map (escape inPath)))

/-- The query and the fragment behind a path. -/
def queryAndFragment (cs : List Char) : Option String × Option String :=
  let fragment (cs : List Char) : String := String.ofList (escape inFragment cs)
  match cs with
  | '?' :: rest =>
    let query := rest.takeWhile (· != '#')
    (some (String.ofList (escape inQuery query)),
     (after? ['#'] (rest.drop query.length)).map fragment)
  | '#' :: rest => (none, some (fragment rest))
  | _ => (none, none)

/-- Reads what follows the colon of a scheme. -/
def parse (scheme : Scheme) (rest : List Char) : Except UrlError Url :=
  let cs := ((trimEnd (· ≤ ' ') rest).filter fun c => !isSkipped c).dropWhile isSlash
  let before := cs.takeWhile fun c => !endsAuthority c
  let behind := cs.drop before.length
  let (signed, place) := if before.contains '@' then cutCredentials before else ([], before)
  let (hostText, portText) := cutPort false place
  match Host.parse hostText with
  | .error e => .error (.host e)
  | .ok host =>
    match port? scheme portText with
    | .error e => .error e
    | .ok port =>
      let (user, password) := credentials signed
      let path := behind.takeWhile fun c => !endsPath c
      let (query, fragment) := queryAndFragment (behind.drop path.length)
      .ok ⟨scheme, user, password, host, port, pathOf path, query, fragment⟩

/-! ### Credentials -/

/-- What percent signs in credentials stand for, if that is well-formed. -/
def decoded? (part : String) : Option String :=
  String.fromUTF8? (unescape part.toList).toByteArray

/-- The credentials that a request carries: a user and perhaps a password. -/
def credentials? (u : Url) : Option (String × Option String) :=
  (decoded? u.user).bind fun user =>
    let password := u.password.bind decoded?
    if user = "" ∧ password = none then none else some (user, password)

/-- The URL without its credentials. -/
def withoutCredentials (u : Url) : Url := { u with user := "", password := none }

end Url

end ByteStream.Http
