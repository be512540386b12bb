/-
# ByteStream.Proofs.Text.Utf8 -- a text written in UTF-8 is read back

The lossy reading puts a replacement character for what is no UTF-8. A text that was written in
UTF-8 has nothing of the kind: each of its characters is read back from the one to four bytes that
it was written in (`decodeLossy_utf8_append`), whatever bytes come after it.

The bytes of ASCII stand for their characters only. So where the bytes of an ASCII text are found
among those of a text, the text holds it, and what stands in front of them and behind them are
whole characters (`exists_of_ascii`).
-/

import ByteStream.Text.Utf8
import Mathlib.Tactic.SplitIfs

namespace ByteStream.Text

/-! ## Bytes -/

theorem toNat_byte {n : Nat} (h : n < 256) : (UInt8.ofNat n).toNat = n :=
  UInt8.toNat_ofNat_of_lt h

/-- A byte that continues a character, with the six lowest bits of `n`. -/
def tailByte (n : Nat) : UInt8 := UInt8.ofNat (n % 64 + 128)

theorem toNat_tailByte (n : Nat) : (tailByte n).toNat = n % 64 + 128 :=
  toNat_byte (by omega)

theorem continues_tailByte (n : Nat) : continues (tailByte n) = true := by
  simp only [continues, Bool.and_eq_true, decide_eq_true_eq, UInt8.le_iff_toNat_le,
    toNat_tailByte]
  refine ⟨?_, ?_⟩
  · show 128 ≤ n % 64 + 128
    omega
  · show n % 64 + 128 ≤ 191
    omega

theorem payload_tailByte (n : Nat) : payload (tailByte n) = n % 64 := by
  rw [payload, toNat_tailByte]
  omega

/-- How long a sequence is can be told from the number that its first byte is. -/
theorem sequenceLength_eq (b : UInt8) :
    sequenceLength b =
      if b.toNat < 128 then 1
      else if 194 ≤ b.toNat ∧ b.toNat ≤ 223 then 2
      else if 224 ≤ b.toNat ∧ b.toNat ≤ 239 then 3
      else if 240 ≤ b.toNat ∧ b.toNat ≤ 244 then 4
      else 0 := by
  simp only [sequenceLength, Bool.and_eq_true, decide_eq_true_eq, UInt8.le_iff_toNat_le,
    UInt8.lt_iff_toNat_lt]
  rfl

/-- Which second bytes may follow can be told from the numbers that the two bytes are. -/
theorem mayFollow_iff {a b : UInt8} :
    mayFollow a b = true ↔
      if a.toNat = 224 then 160 ≤ b.toNat ∧ b.toNat ≤ 191
      else if a.toNat = 237 then 128 ≤ b.toNat ∧ b.toNat ≤ 159
      else if a.toNat = 240 then 144 ≤ b.toNat ∧ b.toNat ≤ 191
      else if a.toNat = 244 then 128 ≤ b.toNat ∧ b.toNat ≤ 143
      else 128 ≤ b.toNat ∧ b.toNat ≤ 191 := by
  simp only [mayFollow, continues, beq_iff_eq, ← UInt8.toNat_inj, UInt8.le_iff_toNat_le,
    UInt8.toNat_ofNat]
  split_ifs <;> simp

/-- A second byte may follow if it continues, and if it does not make an overlong form, a
surrogate, or a code point that is too large. -/
theorem mayFollow_tailByte {a : UInt8} {n : Nat} (hshort : a.toNat = 224 → 32 ≤ n % 64)
    (hsurrogate : a.toNat = 237 → n % 64 < 32) (hoverlong : a.toNat = 240 → 16 ≤ n % 64)
    (hlarge : a.toNat = 244 → n % 64 < 16) : mayFollow a (tailByte n) = true := by
  rw [mayFollow_iff, toNat_tailByte]
  split_ifs <;> omega

/-! ## One character -/

/-- The bytes of a character, by its number. -/
theorem encodeChar_eq (c : Char) :
    String.utf8EncodeChar c =
      if c.toNat ≤ 127 then [UInt8.ofNat c.toNat]
      else if c.toNat ≤ 2047 then [UInt8.ofNat (c.toNat / 64 % 32 + 192), tailByte c.toNat]
      else if c.toNat ≤ 65535 then
        [UInt8.ofNat (c.toNat / 4096 % 16 + 224), tailByte (c.toNat / 64), tailByte c.toNat]
      else
        [UInt8.ofNat (c.toNat / 262144 % 8 + 240), tailByte (c.toNat / 4096),
          tailByte (c.toNat / 64), tailByte c.toNat] := rfl

theorem decodeLossy_one {a : UInt8} (ha : sequenceLength a = 1) (rest : Bytes) :
    decodeLossy (a :: rest) = Char.ofNat a.toNat :: decodeLossy rest := by
  rw [decodeLossy, ha]
  rfl

theorem decodeLossy_two {a b : UInt8} (ha : sequenceLength a = 2) (hb : mayFollow a b = true)
    (rest : Bytes) :
    decodeLossy (a :: b :: rest) =
      Char.ofNat (a.toNat % 32 * 64 + payload b) :: decodeLossy rest := by
  rw [decodeLossy, ha]
  simp [hb]

theorem decodeLossy_three {a b c : UInt8} (ha : sequenceLength a = 3) (hb : mayFollow a b = true)
    (hc : continues c = true) (rest : Bytes) :
    decodeLossy (a :: b :: c :: rest) =
      Char.ofNat (a.toNat % 16 * 4096 + payload b * 64 + payload c) :: decodeLossy rest := by
  rw [decodeLossy, ha]
  simp [hb, hc]

theorem decodeLossy_four {a b c d : UInt8} (ha : sequenceLength a = 4)
    (hb : mayFollow a b = true) (hc : continues c = true) (hd : continues d = true)
    (rest : Bytes) :
    decodeLossy (a :: b :: c :: d :: rest) =
      Char.ofNat (a.toNat % 8 * 262144 + payload b * 4096 + payload c * 64 + payload d) ::
        decodeLossy rest := by
  rw [decodeLossy, ha]
  simp [hb, hc, hd]

/-- A character is read back from its bytes. -/
theorem decodeLossy_encodeChar_append (c : Char) (rest : Bytes) :
    decodeLossy (String.utf8EncodeChar c ++ rest) = c :: decodeLossy rest := by
  have hvalid : c.toNat < 55296 ∨ 57343 < c.toNat ∧ c.toNat < 1114112 := c.valid
  have hread : ∀ n, n = c.toNat → Char.ofNat n :: decodeLossy rest = c :: decodeLossy rest := by
    rintro n rfl
    rw [Char.ofNat_toNat]
  rw [encodeChar_eq]
  -- One case for each number of bytes; the first byte tells the number, and the bits add up.
  generalize c.toNat = n at hvalid hread
  split
  · have hfirst : (UInt8.ofNat n).toNat = n := toNat_byte (by omega)
    have hlength : sequenceLength (UInt8.ofNat n) = 1 := by
      rw [sequenceLength_eq, hfirst, if_pos (by omega)]
    show decodeLossy (UInt8.ofNat n :: rest) = _
    rw [decodeLossy_one hlength, hfirst]
    exact hread n rfl
  · split
    · have hfirst : (UInt8.ofNat (n / 64 % 32 + 192)).toNat = n / 64 % 32 + 192 :=
        toNat_byte (by omega)
      have hlength : sequenceLength (UInt8.ofNat (n / 64 % 32 + 192)) = 2 := by
        rw [sequenceLength_eq, hfirst, if_neg (by omega), if_pos (by omega)]
      have hsecond : mayFollow (UInt8.ofNat (n / 64 % 32 + 192)) (tailByte n) = true := by
        apply mayFollow_tailByte <;> omega
      show decodeLossy (_ :: tailByte n :: rest) = _
      rw [decodeLossy_two hlength hsecond, hfirst, payload_tailByte]
      apply hread
      omega
    · split
      · have hfirst : (UInt8.ofNat (n / 4096 % 16 + 224)).toNat = n / 4096 % 16 + 224 :=
          toNat_byte (by omega)
        have hlength : sequenceLength (UInt8.ofNat (n / 4096 % 16 + 224)) = 3 := by
          rw [sequenceLength_eq, hfirst, if_neg (by omega), if_neg (by omega), if_pos (by omega)]
        have hsecond :
            mayFollow (UInt8.ofNat (n / 4096 % 16 + 224)) (tailByte (n / 64)) = true := by
          apply mayFollow_tailByte <;> omega
        show decodeLossy (_ :: tailByte (n / 64) :: tailByte n :: rest) = _
        rw [decodeLossy_three hlength hsecond (continues_tailByte n), hfirst, payload_tailByte,
          payload_tailByte]
        apply hread
        omega
      · have hfirst : (UInt8.ofNat (n / 262144 % 8 + 240)).toNat = n / 262144 % 8 + 240 :=
          toNat_byte (by omega)
        have hlength : sequenceLength (UInt8.ofNat (n / 262144 % 8 + 240)) = 4 := by
          rw [sequenceLength_eq, hfirst, if_neg (by omega), if_neg (by omega), if_neg (by omega),
            if_pos (by omega)]
        have hsecond :
            mayFollow (UInt8.ofNat (n / 262144 % 8 + 240)) (tailByte (n / 4096)) = true := by
          apply mayFollow_tailByte <;> omega
        show decodeLossy (_ :: tailByte (n / 4096) :: tailByte (n / 64) :: tailByte n :: rest) = _
        rw [decodeLossy_four hlength hsecond (continues_tailByte _) (continues_tailByte _), hfirst,
          payload_tailByte, payload_tailByte, payload_tailByte]
        apply hread
        omega

/-! ## Texts -/

/-- Written characters are read back, and what comes after them is read as if it stood alone. -/
theorem decodeLossy_flatMap_append (cs : List Char) (rest : Bytes) :
    decodeLossy (cs.flatMap String.utf8EncodeChar ++ rest) = cs ++ decodeLossy rest := by
  induction cs with
  | nil => rfl
  | cons c cs ih =>
    rw [List.flatMap_cons, List.append_assoc, decodeLossy_encodeChar_append, ih, List.cons_append]

/-- A written text is read back. -/
theorem decodeLossy_utf8_append (s : String) (rest : Bytes) :
    decodeLossy (utf8 s ++ rest) = s.toList ++ decodeLossy rest :=
  decodeLossy_flatMap_append s.toList rest

/-! ## ASCII among the bytes of a text -/

theorem encodeChar_of_ascii {c : Char} (h : c.toNat < 128) :
    String.utf8EncodeChar c = [UInt8.ofNat c.toNat] := by
  rw [encodeChar_eq, if_pos (by omega)]

/-- No byte of a character outside ASCII is one of ASCII. -/
theorem le_of_mem_encodeChar {c : Char} (h : 128 ≤ c.toNat) {b : UInt8}
    (hb : b ∈ String.utf8EncodeChar c) : 128 ≤ b.toNat := by
  have htail (n : Nat) : 128 ≤ (tailByte n).toNat := by
    rw [toNat_tailByte]
    omega
  have hfirst (n : Nat) (hn : 128 ≤ n) (hlt : n < 256) : 128 ≤ (UInt8.ofNat n).toNat := by
    rwa [toNat_byte hlt]
  rw [encodeChar_eq, if_neg (by omega)] at hb
  split_ifs at hb <;> simp only [List.mem_cons, List.not_mem_nil, or_false] at hb
  · rcases hb with rfl | rfl
    · exact hfirst _ (by omega) (by omega)
    · exact htail _
  · rcases hb with rfl | rfl | rfl
    · exact hfirst _ (by omega) (by omega)
    · exact htail _
    · exact htail _
  · rcases hb with rfl | rfl | rfl | rfl
    · exact hfirst _ (by omega) (by omega)
    · exact htail _
    · exact htail _
    · exact htail _

theorem eq_nil_of_encode {cs : List Char} (h : cs.flatMap String.utf8EncodeChar = []) :
    cs = [] := by
  cases cs with
  | nil => rfl
  | cons c cs =>
    have hlength := congrArg List.length h
    have hpos := c.utf8Size_pos
    rw [List.flatMap_cons, List.length_append, String.length_utf8EncodeChar,
      List.length_nil] at hlength
    omega

/-- A character with a byte of ASCII has no other byte and is the character of that byte. -/
theorem encodeChar_of_mem_ascii {c : Char} {b : UInt8} (hb : b.toNat < 128) {front more : Bytes}
    (h : String.utf8EncodeChar c = front ++ b :: more) :
    front = [] ∧ more = [] ∧ c.toNat = b.toNat := by
  have hascii : c.toNat < 128 := by
    apply Nat.lt_of_not_le
    intro hle
    have hbyte := le_of_mem_encodeChar (b := b) hle (by simp [h])
    omega
  rw [encodeChar_of_ascii hascii] at h
  cases front with
  | nil =>
    obtain ⟨hbyte, hnone⟩ := List.cons.inj h
    refine ⟨rfl, hnone.symm, ?_⟩
    rw [← hbyte, toNat_byte (by omega)]
  | cons a front => exact absurd (congrArg List.length h) (by simp)

/-- A byte of ASCII in a written text is a character of it, between whole characters. -/
theorem exists_of_ascii_byte {cs : List Char} {front rest : Bytes} {b : UInt8}
    (hb : b.toNat < 128) (h : cs.flatMap String.utf8EncodeChar = front ++ b :: rest) :
    ∃ before c behind, cs = before ++ c :: behind ∧ c.toNat = b.toNat ∧
      before.flatMap String.utf8EncodeChar = front ∧
      behind.flatMap String.utf8EncodeChar = rest := by
  -- along the characters: the byte is behind the first one, or it is the first one
  induction cs generalizing front with
  | nil => exact absurd h (by simp)
  | cons c cs ih =>
    have hbehind (more : Bytes) (hfront : front = String.utf8EncodeChar c ++ more)
        (hmore : cs.flatMap String.utf8EncodeChar = more ++ b :: rest) :
        ∃ before d behind, c :: cs = before ++ d :: behind ∧ d.toNat = b.toNat ∧
          before.flatMap String.utf8EncodeChar = front ∧
          behind.flatMap String.utf8EncodeChar = rest := by
      obtain ⟨before, d, behind, hcs, hd, hbefore, hrest⟩ := ih hmore
      refine ⟨c :: before, d, behind, by rw [hcs, List.cons_append], hd, ?_, hrest⟩
      rw [List.flatMap_cons, hbefore, hfront]
    rw [List.flatMap_cons] at h
    rcases List.append_eq_append_iff.1 h with ⟨more, hfront, hmore⟩ | ⟨more, hchar, hmore⟩
    · exact hbehind more hfront hmore
    · cases more with
      | nil =>
        rw [List.append_nil] at hchar
        exact hbehind [] (by rw [hchar, List.append_nil]) hmore.symm
      | cons b' more =>
        obtain ⟨rfl, hrest⟩ := List.cons.inj hmore
        obtain ⟨rfl, rfl, hc⟩ := encodeChar_of_mem_ascii hb hchar
        exact ⟨[], c, cs, rfl, hc, rfl, hrest.symm⟩

/-- Where the bytes of a written text begin with those of an ASCII text, the text begins with it. -/
theorem exists_of_ascii_prefix {mark cs : List Char} (hmark : ∀ c ∈ mark, c.toNat < 128)
    {rest : Bytes}
    (h : cs.flatMap String.utf8EncodeChar = mark.flatMap String.utf8EncodeChar ++ rest) :
    ∃ behind, cs = mark ++ behind ∧ behind.flatMap String.utf8EncodeChar = rest := by
  induction mark generalizing cs with
  | nil => exact ⟨cs, rfl, h⟩
  | cons m mark ih =>
    have hm : m.toNat < 128 := hmark m List.mem_cons_self
    have hbyte : (UInt8.ofNat m.toNat).toNat = m.toNat := toNat_byte (by omega)
    rw [List.flatMap_cons, encodeChar_of_ascii hm, List.append_assoc,
      ← List.nil_append (_ ++ _)] at h
    obtain ⟨before, c, behind, rfl, hc, hbefore, hbehind⟩ := exists_of_ascii_byte (by omega) h
    obtain rfl := eq_nil_of_encode hbefore
    obtain rfl := Char.toNat_inj.1 (hc.trans hbyte)
    obtain ⟨rest, rfl, hrest⟩ := ih (fun c hc => hmark c (List.mem_cons_of_mem _ hc)) hbehind
    exact ⟨rest, rfl, hrest⟩

/-- Where the bytes of an ASCII text stand in a written text, the text holds it there, between
whole characters. -/
theorem exists_of_ascii {mark cs : List Char} (hne : mark ≠ [])
    (hmark : ∀ c ∈ mark, c.toNat < 128) {front rest : Bytes}
    (h : cs.flatMap String.utf8EncodeChar =
      front ++ mark.flatMap String.utf8EncodeChar ++ rest) :
    ∃ before behind, cs = before ++ mark ++ behind ∧
      before.flatMap String.utf8EncodeChar = front ∧
      behind.flatMap String.utf8EncodeChar = rest := by
  obtain ⟨m, mark, rfl⟩ := List.exists_cons_of_ne_nil hne
  have hm : m.toNat < 128 := hmark m List.mem_cons_self
  have hbyte : (UInt8.ofNat m.toNat).toNat = m.toNat := toNat_byte (by omega)
  rw [List.flatMap_cons, encodeChar_of_ascii hm, List.append_assoc] at h
  obtain ⟨before, c, later, rfl, hc, hbefore, hlater⟩ := exists_of_ascii_byte (by omega) h
  obtain rfl := Char.toNat_inj.1 (hc.trans hbyte)
  obtain ⟨behind, rfl, hbehind⟩ :=
    exists_of_ascii_prefix (fun c hc => hmark c (List.mem_cons_of_mem _ hc)) hlater
  exact ⟨before, behind, by simp, hbefore, hbehind⟩

end ByteStream.Text
