/-
# ByteStream.Icy.Title -- reading metadata texts into tags

The title of a packet is what stands between the first `StreamTitle='` and the next quote, or the
end of the packet if no quote follows. Header lines give a tag each, cut at the first colon that a
space follows; other lines give none. The title comes last, under a name of its own, so it wins
over a header line of that name.
-/

import ByteStream.Icy.Fields
import ByteStream.Tags
import ByteStream.Text.Blank
import ByteStream.Text.Split

namespace ByteStream.Icy

open Text

/-- The tag that holds the title. -/
def titleTag : String := "icy-title"

/-- What stands in front of a title. -/
def titleMark : String := "StreamTitle='"

/-- What ends a title. -/
def quoteMark : Char := '\x27'

/-- What separates name and value of a header line. -/
def fieldMark : String := ": "

/-- The title of a packet, on characters. -/
def titleChars (packet : List Char) : Option (List Char) :=
  (cutAtText titleMark.toList packet).map fun (_, rest) => rest.takeWhile (· != quoteMark)

/-- The title of a packet, if there is one. -/
def title? (packet : String) : Option String := (titleChars packet.toList).map String.ofList

/-- A line without the carriage returns at its end. -/
def bareLine (line : List Char) : List Char := trimEnd (· == '\r') line

/-- The name and value of a header line, if it has both. -/
def field? (line : List Char) : Option (String × String) :=
  (cutAtText fieldMark.toList (bareLine line)).map fun (name, value) =>
    (String.ofList name, String.ofList value)

/-- The fields of a header text, in order. -/
def headerFields (headers : String) : Entries := (pieces headers.toList).filterMap field?

/-- The tags of a header text and a packet. -/
def parse (headers packet : String) : Tags :=
  let tags := Tags.ofList (headerFields headers)
  match title? packet with
  | none => tags
  | some title => tags.set titleTag title

end ByteStream.Icy
