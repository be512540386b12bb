/-
# ByteStream.Text.AsciiCase -- names that differ only in the case of ASCII letters

Scheme names, tag names and header names are compared up to the case of `A`-`Z`; no other letter
has a case here. Each name has one lower-case form, and two names are the same exactly when
those forms agree, so "same name" is an equivalence by construction.
-/

namespace ByteStream.Text

/-- The name with `A`-`Z` lowered and every other character as it is. -/
def lower (s : String) : String := String.ofList (s.toList.map Char.toLower)

/-- Equality of names up to ASCII case. -/
def sameName (a b : String) : Bool := lower a == lower b

theorem sameName_iff (a b : String) : sameName a b = true ↔ lower a = lower b := by
  simp [sameName]

theorem sameName_comm (a b : String) : sameName a b = sameName b a := by
  simp only [sameName, Bool.beq_comm]

@[simp] theorem toList_lower (s : String) : (lower s).toList = s.toList.map Char.toLower := by
  simp [lower]

end ByteStream.Text
