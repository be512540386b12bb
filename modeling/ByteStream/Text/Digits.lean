/-
# ByteStream.Text.Digits -- numbers written in digits

A number is written in the digits of a base, the most significant first. Sixteen digits have a
character, the last six of them in either case when they are read. `hexText` writes a number in
base 16, and reading it gives the number again.
-/

namespace ByteStream.Text

/-! ## Digits -/

/-- A digit of base 16, with capital letters. -/
def hexDigit (n : Nat) : Char := if n < 10 then Char.ofNat (48 + n) else Char.ofNat (55 + n)

/-- The value of a digit of base 16, in either case. -/
def hexValue? (c : Char) : Option Nat :=
  if '0' ≤ c ∧ c ≤ '9' then some (c.toNat - 48)
  else if 'A' ≤ c ∧ c ≤ 'F' then some (c.toNat - 55)
  else if 'a' ≤ c ∧ c ≤ 'f' then some (c.toNat - 87)
  else none

theorem hexValue?_hexDigit {n : Nat} (h : n < 16) : hexValue? (hexDigit n) = some n := by
  have all : ∀ m ∈ List.range 16, hexValue? (hexDigit m) = some m := by decide
  exact all n (List.mem_range.2 h)

/-! ## Numbers -/

/-- The greatest number that eight bytes hold. -/
def maxCount : Nat := 18446744073709551615

/-- The number so far and one more digit, if it is a digit of the base. -/
def pushDigit? (base n : Nat) (c : Char) : Option Nat :=
  (hexValue? c).bind fun d => if d < base then some (n * base + d) else none

/-- The number that digits of a base write, if all are such digits. -/
def number? (base : Nat) (cs : List Char) : Option Nat := cs.foldlM (pushDigit? base) 0

/-- A number in base 16. -/
def hexText (n : Nat) : List Char :=
  if n < 16 then [hexDigit n] else hexText (n / 16) ++ [hexDigit (n % 16)]

/-- Reading what was written gives the number. -/
theorem number?_hexText (n : Nat) : number? 16 (hexText n) = some n := by
  fun_induction hexText n with
  | case1 n h => simp [number?, pushDigit?, hexValue?_hexDigit h, h]
  | case2 n h ih =>
    have hlt : n % 16 < 16 := Nat.mod_lt n (by decide)
    have hlead : (hexText (n / 16)).foldlM (pushDigit? 16) 0 = some (n / 16) := ih
    rw [number?, List.foldlM_append, hlead]
    simp [pushDigit?, hexValue?_hexDigit hlt, hlt, Nat.div_add_mod']

theorem hexText_ne_nil (n : Nat) : hexText n ≠ [] := by
  unfold hexText
  split <;> simp

end ByteStream.Text
