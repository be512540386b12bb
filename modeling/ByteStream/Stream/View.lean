/-
# ByteStream.Stream.View -- how interrupts, openers and streams are shown to a developer
-/

import ByteStream.Stream
import ByteStream.Text.Quoted

namespace ByteStream

open Text

/-- The developer's view of an interrupt at one moment. -/
def Interrupt.shown (i : Interrupt) (s : Signals) : String :=
  shownRecord "Interrupt"
    [("armed", shownBool i.isArmed), ("aborting", shownBool (i.fires s))]
    false

/-- The developer's view of a mode. -/
def Mode.shown : Mode → String
  | .read => "Read"
  | .write => "Write"

/-- The developer's view of a stream. -/
def Stream.shown {σ κ : Type} (s : Stream σ κ) : String :=
  shownRecord "NetStream"
    [("url", quoted s.url),
     ("mode", s.mode.shown),
     ("connected", shownBool s.isConnected),
     ("seekable", shownBool s.seekable),
     ("mime_type", shownOption quoted s.mimeType)]
    true

/-- The developer's view of a backend together with a configuration, ready to open streams. -/
def Backend.shownOpener {σ κ : Type} (B : Backend σ κ) (c : Config) (s : Signals) : String :=
  shownRecord "Opener" [("protocols", shownList quoted B.protocols), ("config", c.shown s)] true

end ByteStream
