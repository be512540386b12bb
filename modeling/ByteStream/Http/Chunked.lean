/-
# ByteStream.Http.Chunked -- bodies in chunks

A body whose length is not known ahead is sent in chunks. Each is its size in base 16, a line end,
its bytes and a line end; a chunk of no bytes is the last. Behind a size there may be blanks and a
note after a semicolon, and behind the last size there may be lines until an empty one.

`read` gives what arrives of any bytes: the chunks as far as they can be read, and how that ends.
When the bytes are used up too early, it is the caller who knows what comes of that. What is
written reads back as it is, whatever follows the last chunk.
-/

import ByteStream.Http.Response
import ByteStream.Text.Digits

namespace ByteStream.Http.Chunked

open Text

/-! ## Writing -/

/-- The byte of an ASCII character. -/
def ascii (c : Char) : UInt8 := UInt8.ofNat c.toNat

/-- The end of a line. -/
def lineEnd : Bytes := [13, 10]

/-- The line that tells the size of a chunk. -/
def sizeLine (n : Nat) : Bytes := (hexText n).map ascii ++ lineEnd

/-- A chunk as it is sent. -/
def chunk (bytes : Bytes) : Bytes := sizeLine bytes.length ++ bytes ++ lineEnd

/-- The chunk that ends a body. -/
def last : Bytes := chunk []

/-! ## Reading the lines -/

/-- What comes of reading a part of the bytes. -/
inductive Part
  /-- There are not enough bytes. -/
  | unfinished
  | malformed
  /-- The size that was read, and the bytes behind it. -/
  | size (n : Nat) (rest : Bytes)
deriving DecidableEq, Repr

/-- The value of a byte that is a digit. -/
def digit? (b : UInt8) : Option Nat := hexValue? (Char.ofNat b.toNat)

/-- A line has to end here. -/
def endLine (n : Nat) : Bytes → Part
  | [] | [13] => .unfinished
  | 13 :: 10 :: rest => .size n rest
  | _ => .malformed

/-- A byte between a size and what follows it. -/
def isGap (b : UInt8) : Bool := b == 9 || b == 32

/-- A byte of a note. -/
def inNote (b : UInt8) : Bool := b != 13 && b != 10

/-- What stands between a size and the end of its line. -/
def skipNote (bytes : Bytes) : Bytes :=
  match bytes.dropWhile isGap with
  | 59 :: note => note.dropWhile inNote
  | bytes => bytes

/-- Goes on with the digits of a size. Sizes have to fit eight bytes. -/
def moreDigits (n : Nat) : Bytes → Part
  | [] => .unfinished
  | b :: bytes =>
    match digit? b with
    | none => endLine n (skipNote (b :: bytes))
    | some d => if maxCount < n * 16 + d then .malformed else moreDigits (n * 16 + d) bytes

/-- Reads the line that tells a size, which has at least one digit. -/
def readSize : Bytes → Part
  | [] => .unfinished
  | b :: bytes =>
    match digit? b with
    | none => .malformed
    | some d => moreDigits d bytes

theorem length_skipNote_le (bytes : Bytes) : (skipNote bytes).length ≤ bytes.length := by
  have hgap : (bytes.dropWhile isGap).length ≤ bytes.length :=
    (List.dropWhile_suffix isGap).length_le
  unfold skipNote
  split
  · rename_i note h
    have := (List.dropWhile_suffix inNote (l := note)).length_le
    simp only [h, List.length_cons] at hgap
    omega
  · exact hgap

theorem length_of_endLine {n m : Nat} {bytes rest : Bytes} (h : endLine n bytes = .size m rest) :
    rest.length < bytes.length := by
  unfold endLine at h
  split at h
  · simp at h
  · simp at h
  · simp only [Part.size.injEq] at h
    simp only [← h.2, List.length_cons]
    omega
  · simp at h

theorem length_of_moreDigits {n m : Nat} {bytes rest : Bytes}
    (h : moreDigits n bytes = .size m rest) : rest.length < bytes.length := by
  fun_induction moreDigits n bytes with
  | case1 => simp at h
  | case2 n b bytes hd =>
    exact Nat.lt_of_lt_of_le (length_of_endLine h) (length_skipNote_le _)
  | case3 => simp at h
  | case4 n b bytes d hd hle ih => exact Nat.lt_succ_of_lt (ih h)

/-- Reading a size takes bytes off. -/
theorem length_of_readSize {m : Nat} {bytes rest : Bytes} (h : readSize bytes = .size m rest) :
    rest.length < bytes.length := by
  unfold readSize at h
  split at h
  · simp at h
  · split at h
    · simp at h
    · exact Nat.lt_succ_of_lt (length_of_moreDigits h)

/-! ## Reading a body -/

/-- How the lines behind the last size end. `fresh` says that a line starts here. -/
def trailer (unfinished : Ending) (fresh : Bool) : Bytes → Ending
  | [] => unfinished
  | 13 :: rest =>
    match rest with
    | [] => unfinished
    | 10 :: rest => if fresh then .complete else trailer unfinished true rest
    | _ => .broken
  | _ :: rest => trailer unfinished false rest

/-- A chunk in front of what comes later. -/
def cons (bytes : Bytes) (later : Body) : Body := { later with chunks := bytes :: later.chunks }

/-- Reads a body; `unfinished` is how it ends when the bytes are used up too early. The bytes of a
chunk that is not whole arrive all the same. -/
def read (unfinished : Ending) (bytes : Bytes) : Body :=
  match _h : readSize bytes with
  | .unfinished => ⟨[], unfinished⟩
  | .malformed => ⟨[], .broken⟩
  | .size 0 rest => ⟨[], trailer unfinished true rest⟩
  | .size (n + 1) rest =>
    match rest.drop (n + 1) with
    | 13 :: 10 :: _ => cons (rest.take (n + 1)) (read unfinished (rest.drop (n + 3)))
    | [] | [13] => ⟨asChunk (rest.take (n + 1)), unfinished⟩
    | _ => ⟨[rest.take (n + 1)], .broken⟩
termination_by bytes.length
decreasing_by
  have := length_of_readSize _h
  simp only [List.length_drop]
  omega

/-! ## What was written reads back -/

theorem digit?_ascii {c : Char} {d : Nat} (h : hexValue? c = some d) :
    digit? (ascii c) = some d := by
  have hlt : c.toNat < 128 := by
    unfold hexValue? at h
    split at h
    · rename_i hc; exact Nat.lt_of_le_of_lt (Char.le_def.1 hc.2) (by decide)
    · split at h
      · rename_i hc; exact Nat.lt_of_le_of_lt (Char.le_def.1 hc.2) (by decide)
      · split at h
        · rename_i hc; exact Nat.lt_of_le_of_lt (Char.le_def.1 hc.2) (by decide)
        · simp at h
  have hbyte : (UInt8.ofNat c.toNat).toNat = c.toNat := by
    simp only [UInt8.toNat_ofNat']
    exact Nat.mod_eq_of_lt (by omega)
  rw [digit?, ascii, hbyte, Char.ofNat_toNat, h]

theorem le_of_pushDigits {cs : List Char} {m n : Nat}
    (h : cs.foldlM (pushDigit? 16) m = some n) : m ≤ n := by
  induction cs generalizing m with
  | nil => simp at h; omega
  | cons c cs ih =>
    simp only [List.foldlM_cons, Option.bind_eq_bind, Option.bind_eq_some_iff] at h
    obtain ⟨k, hk, hn⟩ := h
    simp only [pushDigit?, Option.bind_eq_some_iff] at hk
    obtain ⟨d, _, hd⟩ := hk
    have := ih hn
    grind

theorem moreDigits_append {cs : List Char} {m n : Nat}
    (h : cs.foldlM (pushDigit? 16) m = some n) (hn : n ≤ maxCount) (bytes : Bytes) :
    moreDigits m (cs.map ascii ++ bytes) = moreDigits n bytes := by
  induction cs generalizing m with
  | nil => simp at h; simp [h]
  | cons c cs ih =>
    simp only [List.foldlM_cons, Option.bind_eq_bind, Option.bind_eq_some_iff] at h
    obtain ⟨k, hk, hfold⟩ := h
    simp only [pushDigit?, Option.bind_eq_some_iff] at hk
    obtain ⟨d, hd, hk⟩ := hk
    have hle := le_of_pushDigits hfold
    split at hk
    · simp only [Option.some.injEq] at hk
      subst hk
      rw [List.map_cons, List.cons_append, moreDigits, digit?_ascii hd]
      simp only [if_neg (Nat.not_lt.2 (Nat.le_trans hle hn))]
      exact ih hfold
    · simp at hk

/-- The line of a size reads back as that size. -/
theorem readSize_sizeLine {n : Nat} (hn : n ≤ maxCount) (rest : Bytes) :
    readSize (sizeLine n ++ rest) = .size n rest := by
  have hend : moreDigits n (lineEnd ++ rest) = .size n rest := by
    simp [lineEnd, moreDigits, show digit? 13 = none by decide, skipNote, isGap, endLine]
  have hnum : (hexText n).foldlM (pushDigit? 16) 0 = some n := number?_hexText n
  rw [sizeLine]
  match hcs : hexText n, hexText_ne_nil n with
  | c :: cs, _ =>
    rw [hcs] at hnum
    simp only [List.foldlM_cons, Option.bind_eq_bind, Option.bind_eq_some_iff] at hnum
    obtain ⟨d, hd, hfold⟩ := hnum
    simp only [pushDigit?, Option.bind_eq_some_iff, Nat.zero_mul, Nat.zero_add] at hd
    obtain ⟨d', hd', hlt⟩ := hd
    split at hlt
    · simp only [Option.some.injEq] at hlt
      subst hlt
      rw [List.map_cons, List.cons_append, List.cons_append, readSize, digit?_ascii hd']
      rw [List.append_assoc]
      show moreDigits d' _ = _
      rw [moreDigits_append hfold hn, hend]
    · simp at hlt

/-- A chunk that is not empty is the first of what arrives. -/
theorem read_chunk_append (unfinished : Ending) {piece : Bytes} (hne : piece ≠ [])
    (hlength : piece.length ≤ maxCount) (rest : Bytes) :
    read unfinished (chunk piece ++ rest) = cons piece (read unfinished rest) := by
  obtain ⟨n, hn⟩ : ∃ n, piece.length = n + 1 :=
    ⟨piece.length - 1, by have := List.length_pos_iff.2 hne; omega⟩
  have hsize : readSize (chunk piece ++ rest) = .size (n + 1) (piece ++ lineEnd ++ rest) := by
    rw [chunk, hn, List.append_assoc, List.append_assoc, readSize_sizeLine (by omega)]
    simp
  have hdrop : (piece ++ lineEnd ++ rest).drop (n + 1) = 13 :: 10 :: rest := by
    rw [← hn]; simp [lineEnd]
  have htake : (piece ++ lineEnd ++ rest).take (n + 1) = piece := by
    rw [← hn]; simp
  have hlater : (piece ++ lineEnd ++ rest).drop (n + 3) = rest := by
    rw [show n + 3 = (n + 1) + 2 from rfl, ← List.drop_drop, hdrop]; rfl
  rw [read]
  split <;> simp_all

/-- Chunks arrive as they were sent, up to the last, whatever follows that. -/
theorem read_append (unfinished : Ending) {pieces : List Bytes}
    (h : ∀ p ∈ pieces, p ≠ [] ∧ p.length ≤ maxCount) (rest : Bytes) :
    read unfinished (pieces.flatMap chunk ++ last ++ rest) = ⟨pieces, .complete⟩ := by
  induction pieces with
  | nil =>
    have hsize : readSize (last ++ rest) = .size 0 (lineEnd ++ rest) := by
      rw [last, chunk, List.append_assoc, List.append_assoc]
      exact readSize_sizeLine (by decide) _
    rw [List.flatMap_nil, List.nil_append, read]
    split <;> simp_all [trailer, lineEnd]
  | cons p pieces ih =>
    obtain ⟨⟨hne, hlength⟩, hrest⟩ := List.forall_mem_cons.1 h
    rw [List.flatMap_cons, List.append_assoc, List.append_assoc, read_chunk_append _ hne hlength,
      ← List.append_assoc, ih hrest]
    rfl

end ByteStream.Http.Chunked
