/-
# ByteStream.Text.Base64 -- bytes in letters, digits, plus and slash

Three bytes are written as four characters of six bits each; a shorter last group is filled up
with equals signs.
-/

import ByteStream.Text.Utf8

namespace ByteStream.Text.Base64

/-- The character for six bits. -/
def digit (n : Nat) : Char :=
  if n < 26 then Char.ofNat (65 + n)
  else if n < 52 then Char.ofNat (71 + n)
  else if n < 62 then Char.ofNat (n - 4)
  else if n = 62 then '+'
  else '/'

/-- What fills a group up. -/
def filler : Char := '='

/-- The characters of a byte string. -/
def encodeChars : Bytes → List Char
  | [] => []
  | [a] => [digit (a.toNat / 4), digit (a.toNat % 4 * 16), filler, filler]
  | [a, b] =>
    [digit (a.toNat / 4), digit (a.toNat % 4 * 16 + b.toNat / 16), digit (b.toNat % 16 * 4), filler]
  | a :: b :: c :: rest =>
    digit (a.toNat / 4) :: digit (a.toNat % 4 * 16 + b.toNat / 16)
      :: digit (b.toNat % 16 * 4 + c.toNat / 64) :: digit (c.toNat % 64) :: encodeChars rest

/-- A byte string as text. -/
def encode (bytes : Bytes) : String := String.ofList (encodeChars bytes)

end ByteStream.Text.Base64
