/-
# ByteStream.ConnectOptions.Build -- the options of one attempt to connect

Options are assembled anew for each attempt. Computed ones come first, in a fixed order: user
agent, cookies, certificate check, certificate file, header block, in-band metadata. The caller's
raw options are set after them, one by one, so the last word on a key is the caller's. The cookie
provider is asked at most once, and only if cookies are enabled.
-/

import ByteStream.Config
import ByteStream.HeaderBlock
import ByteStream.World

namespace ByteStream

/-- Yields the cookies for a file, or those for no file. Asking may change the world. -/
structure CookieProvider (σ : Type) where
  ask : Option String → World σ → Option String × World σ

/-- The provider that never has cookies and leaves no trace. -/
def CookieProvider.none {σ : Type} : CookieProvider σ := ⟨fun _ w => (Option.none, w)⟩

/-- A provider with an answer for no file and answers for some files, which notes each question
in the journal. -/
def CookieProvider.ofTable {σ : Type} (noFile : Option String)
    (files : List (String × Option String)) : CookieProvider σ :=
  ⟨fun file w =>
    (match file with
      | Option.none => noFile
      | some path => (files.lookup path).join,
     w.note (.cookies file))⟩

namespace ConnectOptions

/-- A text that is there and not empty. -/
def nonempty? (s : Option String) : Option String := s.filter fun text => text != ""

/-- What the cookie provider is asked, if it is asked: the file, unless its name is empty. -/
def cookieQuestion (c : Config) : Option (Option String) :=
  if c.cookiesEnabled then some (nonempty? c.cookiesFile) else none

/-- How a truth value is written. -/
def flagText : Bool → String
  | true => "1"
  | false => "0"

/-- The computed options, before the caller's raw ones. -/
def computed (c : Config) (mode : Mode) (cookies : Option String) : Entries :=
  let one (key : String) (value : Option String) : Entries :=
    (value.map fun v => (key, v)).toList
  one userAgentKey (nonempty? c.userAgent) ++
  one cookiesKey (nonempty? cookies) ++
  one tlsVerifyKey (some (flagText c.tlsVerify)) ++
  one caFileKey c.tlsCaFile ++
  one headersKey (nonempty? (some (HeaderBlock.compose c.referrer c.headerFields))) ++
  one icyKey (if mode = .read then some (flagText true) else none)

/-- All options, with the answer of the cookie provider. -/
def assemble (c : Config) (mode : Mode) (cookies : Option String) : ConnectOptions :=
  empty.setAll (computed c mode cookies ++ c.backendOptions)

/-- The options for one attempt; asks the provider if cookies are enabled. -/
def build {σ : Type} (c : Config) (mode : Mode) (provider : CookieProvider σ) (w : World σ) :
    ConnectOptions × World σ :=
  match cookieQuestion c with
  | none => (assemble c mode none, w)
  | some file =>
    let (cookies, w) := provider.ask file w
    (assemble c mode cookies, w)

end ConnectOptions

end ByteStream
