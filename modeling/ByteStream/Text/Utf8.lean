/-
# ByteStream.Text.Utf8 -- reading bytes as UTF-8, with a mark for what is none

`decodeLossy` reads any byte string. A well-formed sequence gives its character; every maximal
start of a sequence that goes wrong, and every byte that starts none, gives one replacement
character U+FFFD. Which second bytes may follow a first one is the table of well-formed sequences
in the Unicode standard: it excludes overlong forms, surrogates and code points past U+10FFFF.
-/

namespace ByteStream

/-- A byte string. -/
abbrev Bytes := List UInt8

namespace Text

/-- U+FFFD, which stands for bytes that are no UTF-8. -/
def replacement : Char := '\uFFFD'

/-- A byte that can only continue a sequence. -/
def continues (b : UInt8) : Bool := 0x80 ≤ b && b ≤ 0xBF

/-- How many bytes a sequence has that starts with `b`; 0 if none starts so. -/
def sequenceLength (b : UInt8) : Nat :=
  if b < 0x80 then 1
  else if 0xC2 ≤ b && b ≤ 0xDF then 2
  else if 0xE0 ≤ b && b ≤ 0xEF then 3
  else if 0xF0 ≤ b && b ≤ 0xF4 then 4
  else 0

/-- A second byte that may follow the first byte `b` of a longer sequence. -/
def mayFollow (b second : UInt8) : Bool :=
  if b == 0xE0 then 0xA0 ≤ second && second ≤ 0xBF
  else if b == 0xED then 0x80 ≤ second && second ≤ 0x9F
  else if b == 0xF0 then 0x90 ≤ second && second ≤ 0xBF
  else if b == 0xF4 then 0x80 ≤ second && second ≤ 0x8F
  else continues second

/-- The six bits that a continuing byte carries. -/
def payload (b : UInt8) : Nat := b.toNat % 64

/-- Reads bytes as UTF-8, with a replacement character for every maximal ill-formed part. -/
def decodeLossy : Bytes → List Char
  | [] => []
  | a :: rest =>
    match sequenceLength a with
    | 0 => replacement :: decodeLossy rest
    | 1 => Char.ofNat a.toNat :: decodeLossy rest
    | n =>
      match rest with
      | [] => [replacement]
      | b :: rest₂ =>
        if ¬ mayFollow a b then replacement :: decodeLossy (b :: rest₂)
        else if n = 2 then Char.ofNat (a.toNat % 32 * 64 + payload b) :: decodeLossy rest₂
        else
          match rest₂ with
          | [] => [replacement]
          | c :: rest₃ =>
            if ¬ continues c then replacement :: decodeLossy (c :: rest₃)
            else if n = 3 then
              Char.ofNat (a.toNat % 16 * 4096 + payload b * 64 + payload c) :: decodeLossy rest₃
            else
              match rest₃ with
              | [] => [replacement]
              | d :: rest₄ =>
                if ¬ continues d then replacement :: decodeLossy (d :: rest₄)
                else
                  Char.ofNat (a.toNat % 8 * 262144 + payload b * 4096 + payload c * 64 + payload d)
                    :: decodeLossy rest₄

/-- The bytes of a text in UTF-8. -/
def utf8 (s : String) : Bytes := s.toList.flatMap String.utf8EncodeChar

end Text

end ByteStream
