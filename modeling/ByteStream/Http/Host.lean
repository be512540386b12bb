/-
# ByteStream.Http.Host -- the host of a URL

A host is an IPv6 address in brackets, an IPv4 address, or a name. What ends in a number is an
IPv4 address or nothing: four parts or fewer, each decimal, octal after a 0, or hexadecimal after
0x, where the last part fills all the bytes that are left. A name is written in ASCII and small
letters, and it may not hold the characters that structure a URL.
-/

import ByteStream.Domain.Name
import ByteStream.Text.Percent

namespace ByteStream.Http

open Text

/-- Why a text is no host. -/
inductive HostError
  | empty
  | name
  | ipv4
  | ipv6
deriving DecidableEq, Repr

/-- The text of the error. -/
def HostError.message : HostError → String
  | .empty => "empty host"
  | .name => "invalid international domain name"
  | .ipv4 => "invalid IPv4 address"
  | .ipv6 => "invalid IPv6 address"

/-- The host of a URL. -/
inductive Host
  | name (name : String)
  | ipv4 (address : Nat)
  /-- Eight pieces of sixteen bits. -/
  | ipv6 (pieces : List Nat)
deriving DecidableEq, Repr

namespace Host

/-! ## IPv4 -/

/-- The number that one part of an IPv4 address writes. -/
def ipv4Number? : List Char → Option Nat
  | [] => none
  | '0' :: 'x' :: cs | '0' :: 'X' :: cs => number? 16 cs
  | '0' :: c :: cs => number? 8 (c :: cs)
  | cs => number? 10 cs

/-- The parts of a name, without the empty one behind a dot at the end. -/
def labels (cs : List Char) : List (List Char) :=
  let all := parts '.' cs
  if 1 < all.length ∧ all.getLast? = some [] then all.dropLast else all

/-- The last label is a number, so that the whole has to be an address. -/
def endsInNumber (cs : List Char) : Bool :=
  match (labels cs).getLast? with
  | none | some [] => false
  | some last => last.all Char.isDigit || (ipv4Number? last).isSome

/-- The address that numbers make: one byte each, and the rest of the four bytes for the last. -/
def ipv4Address? : List Nat → Option Nat
  | [] => none
  | numbers@(_ :: _) =>
    let lead := numbers.dropLast
    let last := numbers.getLast?.getD 0
    let room := Nat.pow 256 (4 - lead.length)
    if 3 < lead.length ∨ lead.any (255 < ·) ∨ room ≤ last then none
    else some (lead.foldl (fun n byte => n * 256 + byte) 0 * room + last)

/-- Reads an IPv4 address. -/
def ipv4? (cs : List Char) : Option Nat := ((labels cs).mapM ipv4Number?).bind ipv4Address?

/-- An IPv4 address in four decimal parts. -/
def ipv4Text (address : Nat) : String :=
  ".".intercalate ([3, 2, 1, 0].map fun i => toString (address / Nat.pow 256 i % 256))

/-! ## IPv6 -/

/-- A piece of one to four hexadecimal digits. -/
def piece? (cs : List Char) : Option Nat :=
  if cs.isEmpty ∨ 4 < cs.length then none else number? 16 cs

/-- A decimal byte without leading zeros. -/
def byte? (cs : List Char) : Option Nat :=
  if cs.isEmpty ∨ (1 < cs.length ∧ cs.head? = some '0') then none
  else (number? 10 cs).filter (· ≤ 255)

/-- The two pieces that a dotted address at the end stands for. -/
def dottedPieces? (cs : List Char) : Option (List Nat) :=
  match (parts '.' cs).mapM byte? with
  | some [a, b, c, d] => some [a * 256 + b, c * 256 + d]
  | _ => none

/-- The pieces between colons, the last of which may be dotted if `dotted` says so. -/
def pieces? (dotted : Bool) : List (List Char) → Option (List Nat)
  | [] => some []
  | [last] => if dotted && last.contains '.' then dottedPieces? last else (piece? last).map ([·])
  | p :: rest => (piece? p).bind fun n => (pieces? dotted rest).map (n :: ·)

/-- The pieces of a stretch that may be empty. -/
def stretch? (dotted : Bool) (cs : List Char) : Option (List Nat) :=
  if cs.isEmpty then some [] else pieces? dotted (parts ':' cs)

/-- Reads an IPv6 address: eight pieces, or fewer with a double colon for the zeros between. -/
def ipv6? (cs : List Char) : Option (List Nat) :=
  match cutAtText [':', ':'] cs with
  | none => (pieces? true (parts ':' cs)).filter (·.length = 8)
  | some (left, right) =>
    (stretch? false left).bind fun before =>
      (stretch? true right).bind fun after =>
        if before.length + after.length ≤ 7 then
          some (before ++ List.replicate (8 - before.length - after.length) 0 ++ after)
        else none

/-- How many zeros a list of pieces starts with. -/
def zeros (pieces : List Nat) : Nat := (pieces.takeWhile (· == 0)).length

/-- Where the longest run of zeros starts, and its length; the first of equal ones. -/
def longestRun (pieces : List Nat) : Nat × Nat :=
  (List.range pieces.length).foldl
    (fun best i => if best.2 < zeros (pieces.drop i) then (i, zeros (pieces.drop i)) else best)
    (0, 0)

/-- Pieces in hexadecimal with colons between them. -/
def piecesText (pieces : List Nat) : String :=
  ":".intercalate (pieces.map fun n => String.ofList (Nat.toDigits 16 n))

/-- An IPv6 address; the longest run of two or more zeros is left out. -/
def ipv6Text (pieces : List Nat) : String :=
  let (start, run) := longestRun pieces
  if run < 2 then piecesText pieces
  else piecesText (pieces.take start) ++ "::" ++ piecesText (pieces.drop (start + run))

/-! ## Hosts -/

/-- A character that a name may not hold. -/
def isForbidden (c : Char) : Bool :=
  c ≤ ' ' || c == '\x7f' || c == replacement || "%#/:<>?@[\\]^|".toList.contains c

/-- Reads the host of a URL. -/
def parse (cs : List Char) : Except HostError Host :=
  match cs with
  | [] => .error .empty
  | '[' :: rest =>
    match (if rest.getLast? = some ']' then ipv6? rest.dropLast else none) with
    | some pieces => .ok (.ipv6 pieces)
    | none => .error .ipv6
  | cs =>
    match Domain.toAscii? (decodeLossy (unescape cs)) with
    | none => .error .name
    | some [] => .error .empty
    | some (c :: cs) =>
      let name := c :: cs
      if name.any isForbidden then .error .name
      else if endsInNumber name then
        match ipv4? name with
        | some address => .ok (.ipv4 address)
        | none => .error .ipv4
      else .ok (.name (String.ofList name))

/-- The host as a URL holds it. -/
def text : Host → String
  | .name domain => domain
  | .ipv4 address => ipv4Text address
  | .ipv6 pieces => "[" ++ ipv6Text pieces ++ "]"

end Host

end ByteStream.Http
