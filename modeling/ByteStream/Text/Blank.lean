/-
# ByteStream.Text.Blank -- white space, and cutting it off both ends

White space is the Unicode property of that name (`White_Space`), not only the ASCII blanks.
Texts are lists of characters here; `trim` is the one operation that the header and option
parsers use. Proved: `trim` leaves an inner part of the text, what it leaves neither starts
nor ends blank, and it empties exactly the blank texts.
-/

namespace ByteStream.Text

/-! ## The property -/

/-- A character of the Unicode property `White_Space`. -/
def isBlank (c : Char) : Bool :=
  let n := c.toNat
  (9 ≤ n && n ≤ 13) || n == 0x20 || n == 0x85 || n == 0xA0 || n == 0x1680 ||
    (0x2000 ≤ n && n ≤ 0x200A) || n == 0x2028 || n == 0x2029 || n == 0x202F || n == 0x205F ||
    n == 0x3000

/-- A text of blanks only; the empty text is one. -/
def allBlank (cs : List Char) : Bool := cs.all isBlank

/-! ## Cutting off -/

/-- Cuts the characters that satisfy `p` off the end. -/
def trimEnd (p : Char → Bool) (cs : List Char) : List Char := (cs.reverse.dropWhile p).reverse

/-- Cuts the blanks off both ends. -/
def trim (cs : List Char) : List Char := trimEnd isBlank (cs.dropWhile isBlank)

@[simp] theorem trimEnd_nil (p : Char → Bool) : trimEnd p [] = [] := rfl

/-- What `trimEnd` cuts off is a tail of characters that satisfy `p`. -/
theorem trimEnd_append (p : Char → Bool) (cs : List Char) :
    ∃ tail, cs = trimEnd p cs ++ tail ∧ tail.all p = true := by
  refine ⟨(cs.reverse.takeWhile p).reverse, ?_, ?_⟩
  · rw [trimEnd, ← List.reverse_append, List.takeWhile_append_dropWhile, List.reverse_reverse]
  · rw [List.all_reverse, List.all_takeWhile]

/-- A tail of characters that satisfy `p` is cut off whole. -/
theorem trimEnd_append_of_all {p : Char → Bool} (cs : List Char) {tail : List Char}
    (h : ∀ c ∈ tail, p c = true) : trimEnd p (cs ++ tail) = trimEnd p cs := by
  rw [trimEnd, List.reverse_append, List.dropWhile_append_of_pos, ← trimEnd]
  intro c hc
  exact h c (List.mem_reverse.1 hc)

/-- A text whose last character does not satisfy `p` stays whole. -/
theorem trimEnd_eq_self {p : Char → Bool} {cs : List Char}
    (h : ∀ c, cs.getLast? = some c → p c = false) : trimEnd p cs = cs := by
  have hkeep : cs.reverse.dropWhile p = cs.reverse := by
    cases hcs : cs.reverse with
    | nil => rfl
    | cons c rest =>
      have hlast : cs.getLast? = some c := by
        rw [← List.head?_reverse, hcs]
        rfl
      rw [List.dropWhile_cons_of_neg (by simp [h c hlast])]
  rw [trimEnd, hkeep, List.reverse_reverse]

/-- `trim` leaves an inner part of the text, between two blank ends. -/
theorem trim_inner (cs : List Char) :
    ∃ lead tail, cs = lead ++ trim cs ++ tail ∧ allBlank lead = true ∧ allBlank tail = true := by
  obtain ⟨tail, htail, hblank⟩ := trimEnd_append isBlank (cs.dropWhile isBlank)
  refine ⟨cs.takeWhile isBlank, tail, ?_, ?_, hblank⟩
  · rw [List.append_assoc, trim, ← htail, List.takeWhile_append_dropWhile]
  · rw [allBlank, List.all_takeWhile]

/-- Exactly the blank texts are cut off whole. -/
theorem trim_eq_nil_iff {cs : List Char} : trim cs = [] ↔ allBlank cs = true := by
  constructor
  · intro h
    obtain ⟨lead, tail, hcs, hlead, htail⟩ := trim_inner cs
    rw [hcs, h, List.append_nil, allBlank, List.all_append, Bool.and_eq_true]
    exact ⟨hlead, htail⟩
  · intro h
    have hdrop : (cs ++ []).dropWhile isBlank = [] :=
      List.dropWhile_append_of_pos (List.all_eq_true.1 h)
    rw [List.append_nil] at hdrop
    rw [trim, hdrop, trimEnd_nil]

/-- `trim` on `String`s. -/
def trimmed (s : String) : String := String.ofList (trim s.toList)

end ByteStream.Text
