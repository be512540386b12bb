/-
# ByteStream.Domain.Name -- domain names in ASCII

A name is made of labels with dots between them. It is written in ASCII by mapping its characters,
composing marks, and writing every label that is still outside ASCII in digits behind the mark
`xn--`. A label that has the mark already must be what this writing gives: it is read, and must
hold only characters that mapping leaves alone.

A name that cannot be written so is refused, whatever the reason. Empty labels and hyphens
anywhere are let pass, and so is any length that can still be handled.
-/

import ByteStream.Domain.Direction
import ByteStream.Domain.Joining
import ByteStream.Domain.Punycode
import ByteStream.Text.Split

namespace ByteStream.Domain

open Text

/-! ## Labels -/

/-- What a label begins with that is written in digits. -/
def codedMark : List Char := ['x', 'n', '-', '-']

/-- A label with more characters than this is not written in digits. -/
def longestWide : Nat := 1000

/-- More digits than this are not read. -/
def longestCoded : Nat := 2000

/-- The characters of a label that is written in digits behind its mark. -/
def readCoded? (digits : List Char) : Option (List Char) :=
  if ¬ digits.all isAscii ∨ longestCoded < digits.length then none
  else
    (Punycode.decode? digits).filter fun label =>
      label.all isStable && composed label == label

/-- A label that was mapped, in the characters that it stands for. -/
def readLabel? (label : List Char) : Option (List Char) :=
  match after? codedMark label with
  | some digits => readCoded? digits
  | none => some label

/-- The label may stand in a name. -/
def isLabel (label : List Char) : Bool :=
  label.all isAscii || (isWellJoined label && label.length ≤ longestWide)

/-- A label in ASCII. -/
def written (label : List Char) : List Char :=
  if label.all isAscii then label else codedMark ++ Punycode.encode label

/-! ## Names -/

/-- Text that needs no table to be written in ASCII: it is there already, and none of its labels
is written in digits. -/
def isPlain (name : List Char) : Bool :=
  name.all isAscii && !((parts '.' (name.map Char.toLower)).any (startsWith codedMark))

/-- The labels of a name, in the characters that they stand for. -/
def labels? (name : List Char) : Option (List (List Char)) :=
  (name.mapM mapped?).bind fun mapped =>
    ((parts '.' (composed mapped.flatten)).mapM readLabel?).filter fun labels =>
      labels.all isLabel && isOneWayName labels

/-- The name in ASCII and small letters. -/
def toAscii? (name : List Char) : Option (List Char) :=
  if isPlain name then some (name.map Char.toLower)
  else (labels? name).map fun labels => ['.'].intercalate (labels.map written)

end ByteStream.Domain
