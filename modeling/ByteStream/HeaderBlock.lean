/-
# ByteStream.HeaderBlock -- header lines as one text

A header block is a text of lines, each a name, a colon and a value. `compose` writes one from a
referrer and raw lines, each ended by a carriage return and a line feed. `parse` reads any block:
lines end at a line feed, with or without the carriage return, blank lines do not count, and
blanks around names and values are cut off. A line without a colon makes the block unreadable,
and the first such line is the answer.
-/

import ByteStream.Text.Blank
import ByteStream.Text.Split

namespace ByteStream.HeaderBlock

open Text

/-- What ends a composed line. -/
def lineEnd : String := "\r\n"

/-- The referrer line, if there is a referrer, and the raw lines, each with its line end. -/
def compose (referrer : Option String) (fields : List String) : String :=
  let lines := (referrer.map ("Referer: " ++ ·)).toList ++ fields
  String.join (lines.map (· ++ lineEnd))

/-- The name and value of one line; the line itself if it has no colon. -/
def parseLine (line : List Char) : Except String (String × String) :=
  match cutAt ':' line with
  | some (name, value) => .ok (String.ofList (trim name), String.ofList (trim value))
  | none => .error (String.ofList line)

/-- Reads lines one by one, up to the first that is unreadable. Blank lines do not count. -/
def parseLines : List (List Char) → Except String (List (String × String))
  | [] => .ok []
  | line :: rest =>
    if allBlank line then parseLines rest
    else
      match parseLine line with
      | .error bad => .error bad
      | .ok field =>
        match parseLines rest with
        | .error bad => .error bad
        | .ok fields => .ok (field :: fields)

/-- The fields of a block, in order, or its first line without a colon. -/
def parse (block : String) : Except String (List (String × String)) :=
  parseLines (pieces block.toList)

theorem parseLines_blank {line : List Char} (h : allBlank line = true) (rest : List (List Char)) :
    parseLines (line :: rest) = parseLines rest := by simp [parseLines, h]

end ByteStream.HeaderBlock
