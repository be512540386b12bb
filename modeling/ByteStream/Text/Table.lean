/-
# ByteStream.Text.Table -- tables of numbers, and finding a number in them

Properties of characters are data. A table is written as a text: numbers in hexadecimal with
blanks between them, and rows with semicolons between them. Rows are sorted by their first number,
so that a row is found by halving.

A set of numbers is kept as the edges of its runs: where a run starts, where the next gap starts,
and so on in turn. A number is in the set when an odd number of edges lies at or below it.
-/

import ByteStream.Text.Digits

namespace ByteStream.Text

/-! ## Reading a table -/

/-- A row of a table. -/
abbrev Row := Array Nat

/-- What has been read of a table: whole rows, the row that is being read, and the number that is
being read. -/
structure Reading where
  rows : Array Row := #[]
  row : Row := #[]
  number : Option Nat := none

namespace Reading

/-- A number is over. -/
def endNumber (r : Reading) : Reading :=
  match r.number with
  | none => r
  | some n => { r with row := r.row.push n, number := none }

/-- A row is over. -/
def endRow (r : Reading) : Reading :=
  let r := r.endNumber
  { r with rows := r.rows.push r.row, row := #[] }

/-- One more character: a digit goes on with a number, a semicolon ends a row, and anything else
ends a number. -/
def next (r : Reading) (c : Char) : Reading :=
  match hexValue? c with
  | some d => { r with number := some (r.number.getD 0 * 16 + d) }
  | none => if c = ';' then r.endRow else r.endNumber

end Reading

/-- The rows that a text writes. -/
def rows (text : String) : Array Row := (text.toList.foldl Reading.next {}).endRow.rows

/-- The numbers that a text writes in one row. -/
def numbers (text : String) : Row := (rows text).getD 0 #[]

/-! ## Finding a number -/

/-- How many of the positions below `hi` have a key of at most `n`, given that those below `lo`
have one. Keys ascend, so every step halves the gap. -/
def rankFrom (key : Nat → Nat) (n lo hi : Nat) : Nat :=
  if _h : lo < hi then
    let mid := (lo + hi) / 2
    if key mid ≤ n then rankFrom key n (mid + 1) hi else rankFrom key n lo mid
  else lo
termination_by hi - lo

/-- How many numbers of an ascending list are at most `n`. -/
def rank (edges : Row) (n : Nat) : Nat := rankFrom (fun i => edges.getD i 0) n 0 edges.size

/-- The number is in the set whose runs have these edges. -/
def inRuns (edges : Row) (n : Nat) : Bool := rank edges n % 2 == 1

/-- The last row that starts with `n` or less. -/
def row? (table : Array Row) (n : Nat) : Option Row :=
  match rankFrom (fun i => (table.getD i #[]).getD 0 0) n 0 table.size with
  | 0 => none
  | i + 1 => table[i]?

/-- The row that starts with `n`. -/
def rowOf? (table : Array Row) (n : Nat) : Option Row :=
  (row? table n).filter fun row => row.getD 0 0 == n

/-- The value that `n` has in a table of steps: every row says where a step starts and what value
holds from there on. -/
def stepValue (table : Array Row) (n : Nat) : Nat := ((row? table n).getD #[]).getD 1 0

end ByteStream.Text
