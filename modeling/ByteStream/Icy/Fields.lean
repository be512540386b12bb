/-
# ByteStream.Icy.Fields -- in-band metadata as a connection shows it

A radio stream over HTTP describes itself twice: by `icy-` header lines when it opens, and by
packets between stretches of audio. A connection shows the header lines as one text, the latest
packet, and, if it counts them, the number of packets so far.
-/

namespace ByteStream.Icy

/-- The metadata that a connection shows at one moment. -/
structure Fields where
  /-- Header lines, `name: value`. -/
  headers : Option String := none
  /-- The latest packet. -/
  packet : Option String := none
  /-- How many packets there have been, if that is counted. -/
  sequence : Option Nat := none
deriving DecidableEq, Repr

namespace Fields

/-- The header text; the empty one stands for none. -/
def headerText (f : Fields) : String := f.headers.getD ""

/-- The packet text; the empty one stands for none. -/
def packetText (f : Fields) : String := f.packet.getD ""

/-- There is nothing to report: neither header lines nor a packet. -/
def isEmpty (f : Fields) : Bool := f.headerText == "" && f.packetText == ""

end Fields

end ByteStream.Icy
