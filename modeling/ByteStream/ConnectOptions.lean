/-
# ByteStream.ConnectOptions -- what a backend is told when it connects

Options are texts under exact keys, in the order in which the keys first came. A backend takes
out every option that it applies; what is left is what nobody understood.
-/

import ByteStream.Entries

namespace ByteStream

/-- Options in order. Setting a present key replaces its value in place. -/
structure ConnectOptions where
  entries : Entries := []
deriving DecidableEq, Repr

namespace ConnectOptions

/-- No options. -/
def empty : ConnectOptions := {}

/-- The value of a key. -/
def get? (o : ConnectOptions) (key : String) : Option String := Entries.get? id key o.entries

/-- Sets a key. -/
def set (o : ConnectOptions) (key value : String) : ConnectOptions :=
  ⟨Entries.set id key value o.entries⟩

/-- Removes a key and gives the value that it had. -/
def take (o : ConnectOptions) (key : String) : Option String × ConnectOptions :=
  (o.get? key, ⟨Entries.erase id key o.entries⟩)

/-- Sets every pair, from the first to the last. -/
def setAll (o : ConnectOptions) (pairs : Entries) : ConnectOptions :=
  ⟨Entries.setAll id pairs o.entries⟩

/-- How many options there are. -/
def size (o : ConnectOptions) : Nat := o.entries.length

/-- There are no options. -/
def isEmpty (o : ConnectOptions) : Bool := o.entries.isEmpty

/-! ## Well-known keys -/

/-- The user agent that requests name. -/
def userAgentKey : String := "user-agent"

/-- The cookies that requests carry. -/
def cookiesKey : String := "cookies"

/-- Whether certificates are checked. -/
def tlsVerifyKey : String := "tls_verify"

/-- The file of trusted certificates. -/
def caFileKey : String := "ca_file"

/-- The block of extra header lines. -/
def headersKey : String := "headers"

/-- Whether in-band metadata is asked for. -/
def icyKey : String := "icy"

/-- The keys above, in the order in which they are set. -/
def knownKeys : List String :=
  [userAgentKey, cookiesKey, tlsVerifyKey, caFileKey, headersKey, icyKey]

end ConnectOptions

end ByteStream
