/-
# ByteStream.Text.Percent -- percent-encoding

A text that may not hold some characters writes each of their bytes as a percent sign and two
hexadecimal digits. `escape` does so for every character outside a set to keep; `unescape` reads
any text and leaves a percent sign alone that two digits do not follow.
-/

import ByteStream.Text.Digits
import ByteStream.Text.Utf8

namespace ByteStream.Text

/-- A byte as a percent sign and two digits. -/
def escapeByte (b : UInt8) : List Char := ['%', hexDigit (b.toNat / 16), hexDigit (b.toNat % 16)]

/-- Writes the characters outside `keep` byte by byte. -/
def escape (keep : Char → Bool) (cs : List Char) : List Char :=
  cs.flatMap fun c => if keep c then [c] else (String.utf8EncodeChar c).flatMap escapeByte

/-- The bytes of a text in which some were written by percent signs. -/
def unescape : List Char → Bytes
  | [] => []
  | '%' :: h :: l :: rest =>
    match hexValue? h, hexValue? l with
    | some high, some low => UInt8.ofNat (high * 16 + low) :: unescape rest
    | _, _ => String.utf8EncodeChar '%' ++ unescape (h :: l :: rest)
  | c :: rest => String.utf8EncodeChar c ++ unescape rest

end ByteStream.Text
