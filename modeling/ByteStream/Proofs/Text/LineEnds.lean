/-
# ByteStream.Proofs.Text.LineEnds -- the pieces of a text that was put together

Cutting at line ends undoes putting lines together. A carriage return and a line feed between two
texts always make a cut (`pieces_append_lineEnd`), also where the first text ends with carriage
returns of its own. A line feed alone may take such a return with it, so there the law holds for
the parts between line feeds (`parts_append_sep`), and for the pieces once the returns at their
ends are left aside (`map_trimEnd_pieces`).
-/

import ByteStream.Text.Blank
import ByteStream.Text.Split

namespace ByteStream.Text

/-! ## The first piece -/

theorem growFirst_append (c : Char) {ps : List (List Char)} (h : ps ≠ []) (qs : List (List Char)) :
    growFirst c (ps ++ qs) = growFirst c ps ++ qs := by
  cases ps with
  | nil => exact absurd rfl h
  | cons p ps => rfl

/-- A character that is no line feed, and no return in front of one, is part of the first piece. -/
theorem pieces_cons {c : Char} {cs : List Char} (hfeed : c ≠ '\n')
    (hreturn : c = '\r' → cs.head? ≠ some '\n') : pieces (c :: cs) = growFirst c (pieces cs) := by
  refine pieces.eq_4 c cs ?_ hfeed
  rintro rest rfl rfl
  exact hreturn rfl rfl

/-- A text without line ends in front of another is a part of its first piece. -/
theorem pieces_plain_append {lead : List Char} (hfeed : '\n' ∉ lead) (hreturn : '\r' ∉ lead)
    {cs first : List Char} {more : List (List Char)} (h : pieces cs = first :: more) :
    pieces (lead ++ cs) = (lead ++ first) :: more := by
  induction lead with
  | nil => exact h
  | cons c lead ih =>
      rw [List.mem_cons, not_or] at hfeed hreturn
      have hgrow : pieces (c :: (lead ++ cs)) = growFirst c (pieces (lead ++ cs)) :=
        pieces_cons (Ne.symm hfeed.1) fun hc => absurd hc.symm hreturn.1
      rw [List.cons_append, hgrow, ih hfeed.2 hreturn.2]
      rfl

/-- A text without line feeds is one piece; a return alone ends no line. -/
theorem pieces_of_not_mem {line : List Char} (h : '\n' ∉ line) : pieces line = [line] := by
  induction line with
  | nil => rfl
  | cons c cs ih =>
      rw [List.mem_cons, not_or] at h
      have hgrow : pieces (c :: cs) = growFirst c (pieces cs) := by
        refine pieces_cons (Ne.symm h.1) fun _ hhead => ?_
        exact h.2 (List.mem_of_mem_head? hhead)
      rw [hgrow, ih h.2]
      rfl

/-! ## Cuts where texts were put together -/

/-- A return and a line feed between two texts cut them apart, whatever the texts are. -/
theorem pieces_append_lineEnd (a b : List Char) :
    pieces (a ++ '\r' :: '\n' :: b) = pieces a ++ pieces b := by
  fun_induction pieces a with
  | case1 => simp [pieces]
  | case2 cs ih =>
      rw [List.cons_append, List.cons_append, pieces, ih]
      rfl
  | case3 cs ih =>
      rw [List.cons_append, pieces, ih]
      rfl
  | case4 c cs hreturn hfeed ih =>
      -- what comes behind `c` starts as `cs` does, or with the return that was put there
      have hgrow : pieces (c :: (cs ++ '\r' :: '\n' :: b)) =
          growFirst c (pieces (cs ++ '\r' :: '\n' :: b)) := by
        refine pieces_cons hfeed fun hc hhead => ?_
        cases cs with
        | nil => exact absurd hhead (by simp)
        | cons d ds => exact hreturn ds hc (by simpa using hhead)
      rw [List.cons_append, hgrow, ih, growFirst_append c (pieces_ne_nil cs)]

/-- Lines that end with a return and a line feed each: their pieces in order, and nothing behind
the last. -/
theorem pieces_flatMap_lineEnd (lines : List (List Char)) :
    pieces (lines.flatMap (· ++ ['\r', '\n'])) = lines.flatMap pieces ++ [[]] := by
  induction lines with
  | nil => rfl
  | cons line rest ih =>
      rw [List.flatMap_cons, List.append_assoc, List.cons_append, List.cons_append,
        List.nil_append, pieces_append_lineEnd, ih, List.flatMap_cons, List.append_assoc]

/-- A separator between two texts cuts them apart. -/
theorem parts_append_sep (sep : Char) (a b : List Char) :
    parts sep (a ++ sep :: b) = parts sep a ++ parts sep b := by
  fun_induction parts sep a with
  | case1 => simp [parts]
  | case2 cs ih =>
      rw [List.cons_append, parts, if_pos rfl, ih]
      rfl
  | case3 c cs hne ih =>
      rw [List.cons_append, parts, if_neg hne, ih, growFirst_append c (parts_ne_nil sep cs)]

/-! ## Returns at the ends -/

/-- Cutting the end of a text off can begin with the end of its second half. -/
theorem trimEnd_append_trimEnd (p : Char → Bool) (lead cs : List Char) :
    trimEnd p (lead ++ trimEnd p cs) = trimEnd p (lead ++ cs) := by
  obtain ⟨tail, hcs, htail⟩ := trimEnd_append p cs
  rw [List.all_eq_true] at htail
  have hwhole : lead ++ cs = lead ++ trimEnd p cs ++ tail := by
    rw [List.append_assoc, ← hcs]
  rw [hwhole, trimEnd_append_of_all _ htail]

theorem trimEnd_trimEnd (p : Char → Bool) (cs : List Char) :
    trimEnd p (trimEnd p cs) = trimEnd p cs := trimEnd_append_trimEnd p [] cs

/-- The last character that stays does not satisfy `p`. -/
theorem getLast?_trimEnd {p : Char → Bool} {cs : List Char} {c : Char}
    (h : (trimEnd p cs).getLast? = some c) : p c = false := by
  rw [trimEnd, List.getLast?_reverse] at h
  exact Bool.eq_false_iff.2 fun hp => by
    have hnot := List.head?_dropWhile_not p cs.reverse
    rw [h] at hnot
    simp [hp] at hnot

theorem map_trimEnd_growFirst (p : Char → Bool) (c : Char) (ps : List (List Char)) :
    (growFirst c (ps.map (trimEnd p))).map (trimEnd p) = (growFirst c ps).map (trimEnd p) := by
  cases ps with
  | nil => rfl
  | cons line rest =>
      show trimEnd p ([c] ++ trimEnd p line) :: _ = trimEnd p ([c] ++ line) :: _
      rw [trimEnd_append_trimEnd, List.map_map]
      congr 1
      exact List.map_congr_left fun line _ => trimEnd_trimEnd p line

/-- The returns at their ends apart, the pieces are the parts between line feeds. -/
theorem map_trimEnd_pieces (cs : List Char) :
    (pieces cs).map (trimEnd (· == '\r')) = (parts '\n' cs).map (trimEnd (· == '\r')) := by
  fun_induction pieces cs with
  | case1 => rfl
  | case2 cs ih =>
      rw [List.map_cons, ih]
      rfl
  | case3 cs ih =>
      rw [List.map_cons, ih]
      rfl
  | case4 c cs _ hfeed ih =>
      rw [parts, if_neg hfeed, ← map_trimEnd_growFirst, ih, map_trimEnd_growFirst]

end ByteStream.Text
