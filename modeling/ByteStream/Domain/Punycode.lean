/-
# ByteStream.Domain.Punycode -- labels outside ASCII, written in ASCII

A label is written as its ASCII characters, a hyphen if there are any, and then digits to the base
36 that say which other characters are inserted where, in ascending order. A number ends with the
first digit below a threshold, and the thresholds follow the numbers that were written before: the
`bias` is high after large numbers.

Reading stops by itself, since every number uses up a digit, and writing, since every digit makes
the number smaller. Numbers of more than 32 bits are refused.
-/

import ByteStream.Domain.Mapping

namespace ByteStream.Domain.Punycode

/-! ## Digits and thresholds -/

/-- How many digits there are. -/
def base : Nat := 36

/-- The least threshold and the greatest one. -/
def leastThreshold : Nat := 1

@[inherit_doc leastThreshold]
def greatestThreshold : Nat := 26

/-- The bias before the first number. -/
def firstBias : Nat := 72

/-- The first code point outside ASCII. -/
def firstWide : Nat := 128

/-- Numbers stay below this. -/
def numberLimit : Nat := 4294967296

/-- The character of a digit: letters first. -/
def digit (d : Nat) : Char := if d < 26 then Char.ofNat (97 + d) else Char.ofNat (22 + d)

/-- The digit that a small letter or a decimal digit stands for. -/
def digitValue? (c : Char) : Option Nat :=
  if 'a' ≤ c ∧ c ≤ 'z' then some (c.toNat - 97)
  else if '0' ≤ c ∧ c ≤ '9' then some (c.toNat - 22)
  else none

/-- A digit at position `k`, in steps of the base, that is smaller than this is the last one. -/
def threshold (bias k : Nat) : Nat := max leastThreshold (min greatestThreshold (k - bias))

theorem threshold_pos (bias k : Nat) : 0 < threshold bias k := by
  simp only [threshold, leastThreshold]; omega

/-- The bias that a reduced number leads to, after `k` steps. -/
def biasOf (delta k : Nat) : Nat :=
  if 455 < delta then biasOf (delta / (base - leastThreshold)) (k + base)
  else k + base * delta / (delta + 38)
termination_by delta
decreasing_by exact Nat.div_lt_self (by omega) (by decide)

/-- The bias after a number, when the label has `length` characters. -/
def adapt (number length : Nat) (isFirst : Bool) : Nat :=
  let delta := number / (if isFirst then 700 else 2)
  biasOf (delta + delta / length) 0

/-! ## Writing -/

/-- The digits of a number. -/
def writeNumber (bias k n : Nat) : List Char :=
  let t := threshold bias k
  if n < t then [digit n]
  else digit (t + (n - t) % (base - t)) :: writeNumber bias (k + base) ((n - t) / (base - t))
termination_by n
decreasing_by
  have := threshold_pos bias k
  exact Nat.lt_of_le_of_lt (Nat.div_le_self _ _) (by omega)

/-- What has been written, and what the next number depends on. -/
structure Writing where
  digits : List Char := []
  /-- The distance since the last insertion. -/
  delta : Nat := 0
  bias : Nat := firstBias
  /-- How many characters have been written. -/
  length : Nat

/-- Passes a character of the label while the code point `n` is being inserted. -/
def Writing.pass (ascii n : Nat) (w : Writing) (c : Char) : Writing :=
  if c.toNat < n then { w with delta := w.delta + 1 }
  else if c.toNat = n then
    { digits := w.digits ++ writeNumber w.bias base w.delta
      delta := 0
      bias := adapt w.delta (w.length + 1) (w.length == ascii)
      length := w.length + 1 }
  else w

/-- Inserts code points in ascending order; those below `from` have been passed. -/
def Writing.insertAll (label : List Char) (ascii : Nat) :
    List Nat → Nat → Writing → Writing
  | [], _, w => w
  | n :: later, start, w =>
    let w := { w with delta := w.delta + (n - start) * (w.length + 1) }
    let w := label.foldl (Writing.pass ascii n) w
    insertAll label ascii later (n + 1) { w with delta := w.delta + 1 }

/-- The numbers of a list in ascending order, each once. -/
def ascending (ns : List Nat) : List Nat := ns.foldr insert []
where
  /-- Puts a number in its place. -/
  insert (n : Nat) : List Nat → List Nat
    | [] => [n]
    | m :: ms => if n < m then n :: m :: ms else if n = m then m :: ms else m :: insert n ms

/-- Writes a label in ASCII. -/
def encode (label : List Char) : List Char :=
  let ascii := label.filter isAscii
  let wide := (label.filter fun c => !isAscii c).map Char.toNat
  let start : Writing := { length := ascii.length }
  let w := Writing.insertAll label ascii.length (ascending wide) firstWide start
  (if ascii.isEmpty then [] else ascii ++ ['-']) ++ w.digits

/-! ## Reading -/

/-- Reads a number, adding it to `n`; `weight` is what the next digit counts. Gives the sum and
the characters behind it. -/
def readNumber? (bias k weight n : Nat) : List Char → Option (Nat × List Char)
  | [] => none
  | c :: cs =>
    match digitValue? c with
    | none => none
    | some d =>
      let n := n + d * weight
      let t := threshold bias k
      if numberLimit ≤ n then none
      else if d < t then some (n, cs)
      else if numberLimit ≤ weight * (base - t) then none
      else readNumber? bias (k + base) (weight * (base - t)) n cs

theorem length_of_readNumber? {bias k weight n sum : Nat} {cs rest : List Char}
    (h : readNumber? bias k weight n cs = some (sum, rest)) : rest.length < cs.length := by
  induction cs generalizing k weight n with
  | nil => simp [readNumber?] at h
  | cons c cs ih =>
    simp only [readNumber?] at h
    split at h
    · simp at h
    · split at h
      · simp at h
      · split at h
        · simp only [Option.some.injEq, Prod.mk.injEq] at h
          simp [← h.2]
        · split at h
          · simp at h
          · have := ih h
            simp only [List.length_cons]
            omega

/-- The character of a code point, if there is one. -/
def charOf? (n : Nat) : Option Char := if n.isValidChar then some (Char.ofNat n) else none

/-- Inserts the characters that digits describe, from the code point `n` and the place `i` on. -/
def insertRead? (label : List Char) (bias n i : Nat) (cs : List Char) : Option (List Char) :=
  match cs with
  | [] => some label
  | c :: cs =>
    match _h : readNumber? bias base 1 i (c :: cs) with
    | none => none
    | some (sum, rest) =>
      let length := label.length + 1
      match charOf? (n + sum / length) with
      | none => none
      | some inserted =>
        insertRead? (label.insertIdx (sum % length) inserted) (adapt (sum - i) length (i == 0))
          (n + sum / length) (sum % length + 1) rest
termination_by cs.length
decreasing_by exact length_of_readNumber? _h

/-- The characters before the last hyphen, and those behind it. Without a hyphen there are none
before it. -/
def cutLastHyphen (cs : List Char) : List Char × List Char :=
  let behind := (cs.reverse.takeWhile (· != '-')).reverse
  (cs.take (cs.length - behind.length - 1), behind)

/-- Reads a label that is written in ASCII with small letters. A hyphen stands behind something
and before something. -/
def decode? (cs : List Char) : Option (List Char) :=
  let (ascii, digits) := cutLastHyphen cs
  if digits.isEmpty ∨ cs.head? = some '-' ∧ ascii.isEmpty then none
  else insertRead? ascii firstBias firstWide 0 digits

end ByteStream.Domain.Punycode
