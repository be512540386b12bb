/-
# ByteStream.Text.Split -- cutting a text at a separator, a mark or its line ends

`cutAt` cuts at the first character equal to a separator, `parts` at every one, `cutAtText` at the
first occurrence of a text, and `pieces` at every line end, where a line ends with a line feed or
with a carriage return and a line feed.
-/

namespace ByteStream.Text

/-! ## A leading text -/

/-- What follows `lead` in `cs`, if `cs` starts with it. -/
def after? (lead cs : List Char) : Option (List Char) :=
  match lead, cs with
  | [], cs => some cs
  | _ :: _, [] => none
  | a :: lead, c :: cs => if a = c then after? lead cs else none

theorem after?_eq_some_iff {lead cs rest : List Char} :
    after? lead cs = some rest ↔ cs = lead ++ rest := by
  induction lead generalizing cs with
  | nil => simp [after?, eq_comm]
  | cons a lead ih =>
    cases cs with
    | nil => simp [after?]
    | cons c cs =>
      simp only [after?, List.cons_append, List.cons.injEq]
      split
      · rename_i h; simp [ih, h]
      · rename_i h; simp [Ne.symm h]

@[simp] theorem after?_append (lead rest : List Char) : after? lead (lead ++ rest) = some rest :=
  after?_eq_some_iff.2 rfl

theorem after?_eq_none_iff {lead cs : List Char} : after? lead cs = none ↔ ¬ lead <+: cs := by
  constructor
  · rintro hnone ⟨rest, rfl⟩
    rw [after?_append] at hnone
    exact absurd hnone (by simp)
  · intro h
    cases hafter : after? lead cs with
    | none => rfl
    | some rest => exact absurd ⟨rest, (after?_eq_some_iff.1 hafter).symm⟩ h

/-- `cs` starts with `lead`. -/
def startsWith (lead cs : List Char) : Bool := (after? lead cs).isSome

theorem startsWith_iff {lead cs : List Char} :
    startsWith lead cs = true ↔ ∃ rest, cs = lead ++ rest := by
  simp [startsWith, Option.isSome_iff_exists, after?_eq_some_iff]

/-! ## The first separator -/

/-- The parts before and after the first `sep`, if there is one. -/
def cutAt (sep : Char) : List Char → Option (List Char × List Char)
  | [] => none
  | c :: cs =>
    if c = sep then some ([], cs)
    else (cutAt sep cs).map fun (before, rest) => (c :: before, rest)

theorem cutAt_eq_none_iff {sep : Char} {cs : List Char} : cutAt sep cs = none ↔ sep ∉ cs := by
  induction cs with
  | nil => simp [cutAt]
  | cons c cs ih =>
    simp only [cutAt]
    split
    · rename_i h; simp [h]
    · rename_i h; simp [ih, Ne.symm h]

theorem cutAt_eq_some_iff {sep : Char} {cs before rest : List Char} :
    cutAt sep cs = some (before, rest) ↔ cs = before ++ sep :: rest ∧ sep ∉ before := by
  induction cs generalizing before with
  | nil => simp [cutAt]
  | cons c cs ih =>
    simp only [cutAt]
    split
    · rename_i h
      subst h
      cases before with
      | nil => simp [eq_comm]
      | cons b before => simp; rintro rfl; simp
    · rename_i h
      cases before with
      | nil => simp [h]
      | cons b before =>
        simp only [Option.map_eq_some_iff, Prod.mk.injEq, List.cons.injEq, List.cons_append,
          List.mem_cons, not_or, Prod.exists]
        constructor
        · rintro ⟨x, y, hxy, ⟨rfl, rfl⟩, rfl⟩
          have := ih.1 hxy
          exact ⟨⟨rfl, this.1⟩, Ne.symm h, this.2⟩
        · rintro ⟨⟨rfl, hcs⟩, _, hnot⟩
          exact ⟨before, rest, ih.2 ⟨hcs, hnot⟩, ⟨rfl, rfl⟩, rfl⟩

/-! ## The first occurrence of a text -/

/-- The parts before and after the first occurrence of `mark`, if there is one. -/
def cutAtText (mark : List Char) : List Char → Option (List Char × List Char)
  | [] => if mark = [] then some ([], []) else none
  | c :: cs =>
    match after? mark (c :: cs) with
    | some rest => some ([], rest)
    | none => (cutAtText mark cs).map fun (before, rest) => (c :: before, rest)

/-- The mark is found where it was put, if what stands in front does not hold its first
character. -/
theorem cutAtText_append {first : Char} {mark before : List Char} (h : first ∉ before)
    (rest : List Char) :
    cutAtText (first :: mark) (before ++ (first :: mark) ++ rest) = some (before, rest) := by
  induction before with
  | nil =>
    show cutAtText (first :: mark) (first :: (mark ++ rest)) = _
    rw [cutAtText, ← List.cons_append, after?_append]
  | cons c cs ih =>
    rw [List.mem_cons, not_or] at h
    show cutAtText (first :: mark) (c :: (cs ++ (first :: mark) ++ rest)) = _
    rw [cutAtText, after?, if_neg h.1, ih h.2]
    rfl

/-- An occurrence of the mark that begins in front of another reaches into it at most with all but
its last character. -/
theorem mark_prefix_iff {mark before : List Char} (h : before ≠ []) (rest : List Char) :
    mark <+: before ++ mark ++ rest ↔ mark <+: before ++ mark.dropLast := by
  have hstart : before ++ mark.dropLast <+: before ++ mark ++ rest := by
    rw [List.append_assoc, List.prefix_append_right_inj]
    exact (List.dropLast_prefix mark).trans (List.prefix_append mark rest)
  refine ⟨fun hmark => List.prefix_of_prefix_length_le hmark hstart ?_, fun hmark =>
    hmark.trans hstart⟩
  have hpos := List.length_pos_iff.2 h
  rw [List.length_append, List.length_dropLast]
  omega

/-- The cut is made at the first occurrence of the mark: none begins further in front. -/
theorem cutAtText_eq_some_iff {mark cs before rest : List Char} (hmark : mark ≠ []) :
    cutAtText mark cs = some (before, rest) ↔
      cs = before ++ mark ++ rest ∧ ¬ mark <:+: before ++ mark.dropLast := by
  induction cs generalizing before with
  | nil => simp [cutAtText, hmark]
  | cons c cs ih =>
      rw [cutAtText]
      cases hafter : after? mark (c :: cs) with
      | some later =>
          have hcs : c :: cs = mark ++ later := after?_eq_some_iff.1 hafter
          constructor
          · intro h
            obtain ⟨rfl, rfl⟩ := Prod.mk.inj (Option.some.inj h)
            refine ⟨hcs, fun hinfix => ?_⟩
            have hlength := hinfix.length_le
            have hpos := List.length_pos_iff.2 hmark
            rw [List.nil_append, List.length_dropLast] at hlength
            omega
          · rintro ⟨hcut, hfirst⟩
            cases before with
            | nil =>
                rw [hcut, List.nil_append, List.append_right_inj] at hcs
                rw [hcs]
            | cons b before =>
                have hearly : mark <+: b :: before ++ mark ++ rest := hcut ▸ ⟨later, hcs.symm⟩
                rw [mark_prefix_iff (List.cons_ne_nil b before)] at hearly
                exact absurd hearly.isInfix hfirst
      | none =>
          have hnot := after?_eq_none_iff.1 hafter
          cases before with
          | nil =>
              constructor
              · intro h
                obtain ⟨parts, -, heq⟩ := Option.map_eq_some_iff.1 h
                exact absurd (Prod.mk.inj heq).1 (by simp)
              · rintro ⟨hcut, -⟩
                exact absurd ⟨rest, hcut.symm⟩ hnot
          | cons b before =>
              simp only [Option.map_eq_some_iff, Prod.mk.injEq, List.cons.injEq, Prod.exists]
              rw [List.cons_append, List.cons_append, List.cons_append, List.infix_cons_iff, not_or]
              constructor
              · rintro ⟨front, behind, hcut, ⟨rfl, rfl⟩, rfl⟩
                obtain ⟨rfl, hfirst⟩ := ih.1 hcut
                refine ⟨rfl, fun hearly => hnot ?_, hfirst⟩
                exact (mark_prefix_iff (List.cons_ne_nil c front) behind).2 hearly
              · rintro ⟨hcut, -, hfirst⟩
                obtain ⟨rfl, hrest⟩ := List.cons.inj hcut
                exact ⟨before, rest, ih.2 ⟨hrest, hfirst⟩, ⟨rfl, rfl⟩, rfl⟩

theorem cutAtText_eq_none_iff {mark cs : List Char} :
    cutAtText mark cs = none ↔ ¬ mark <:+: cs := by
  induction cs with
  | nil => simp [cutAtText]
  | cons c cs ih =>
      rw [cutAtText, List.infix_cons_iff, not_or]
      cases hafter : after? mark (c :: cs) with
      | some later =>
          have hstart : mark <+: c :: cs := ⟨later, (after?_eq_some_iff.1 hafter).symm⟩
          simp [hstart]
      | none => simp [ih, after?_eq_none_iff.1 hafter]

/-- A mark stands first where it stands exactly if no other begins there or reaches into it. -/
theorem first_iff {mark cs before rest : List Char} (hmark : mark ≠ [])
    (hcs : cs = before ++ mark ++ rest) :
    ¬ mark <:+: before ++ mark.dropLast ↔
      ∀ front behind, cs = front ++ mark ++ behind → before.length ≤ front.length := by
  have hlast := List.dropLast_concat_getLast hmark
  have hpos := List.length_pos_iff.2 hmark
  have hshort : mark.dropLast.length = mark.length - 1 := List.length_dropLast
  constructor
  · intro hnot front behind hfront
    apply Nat.le_of_not_lt
    intro hlt
    have hstart : before ++ mark.dropLast <+: cs := by
      rw [hcs, List.append_assoc, List.prefix_append_right_inj]
      exact (List.dropLast_prefix mark).trans (List.prefix_append mark rest)
    have hearly : front ++ mark <+: before ++ mark.dropLast := by
      refine List.prefix_of_prefix_length_le ⟨behind, hfront.symm⟩ hstart ?_
      rw [List.length_append, List.length_append]
      omega
    obtain ⟨more, hmore⟩ := hearly
    exact hnot ⟨front, more, hmore⟩
  · rintro hall ⟨front, more, hmore⟩
    have hfront : cs = front ++ mark ++ (more ++ ([mark.getLast hmark] ++ rest)) := by
      rw [← List.append_assoc, hmore, List.append_assoc, ← List.append_assoc mark.dropLast, hlast,
        ← List.append_assoc, hcs]
    have hbefore := hall front _ hfront
    have hlength := congrArg List.length hmore
    rw [List.length_append, List.length_append, List.length_append] at hlength
    omega

/-- The cut is made at the occurrence of the mark that has the least in front of it. -/
theorem cutAtText_eq_some_iff_first {mark cs before rest : List Char} (hmark : mark ≠ []) :
    cutAtText mark cs = some (before, rest) ↔
      cs = before ++ mark ++ rest ∧
        ∀ front behind, cs = front ++ mark ++ behind → before.length ≤ front.length := by
  rw [cutAtText_eq_some_iff hmark]
  exact and_congr_right fun hcs => first_iff hmark hcs

/-! ## All separators -/

/-- Puts `c` in front of the first piece. -/
def growFirst (c : Char) : List (List Char) → List (List Char)
  | [] => [[c]]
  | piece :: rest => (c :: piece) :: rest

/-- The parts between the occurrences of a character. There is always at least one. -/
def parts (sep : Char) : List Char → List (List Char)
  | [] => [[]]
  | c :: cs => if c = sep then [] :: parts sep cs else growFirst c (parts sep cs)

theorem growFirst_ne_nil (c : Char) (ps : List (List Char)) : growFirst c ps ≠ [] := by
  cases ps <;> simp [growFirst]

theorem parts_ne_nil (sep : Char) (cs : List Char) : parts sep cs ≠ [] := by
  fun_induction parts sep cs <;> simp [growFirst_ne_nil]

/-! ## Line ends -/

/-- The pieces between line ends. There is always at least one, and a text that ends with a line
end has an empty last piece. -/
def pieces : List Char → List (List Char)
  | [] => [[]]
  | '\r' :: '\n' :: cs => [] :: pieces cs
  | '\n' :: cs => [] :: pieces cs
  | c :: cs => growFirst c (pieces cs)

theorem pieces_ne_nil (cs : List Char) : pieces cs ≠ [] := by
  fun_induction pieces cs <;> simp [growFirst_ne_nil]

/-- A line that was ended by a line feed is the first piece. -/
theorem pieces_line_append {line : List Char} (hfeed : '\n' ∉ line) (hreturn : '\r' ∉ line)
    (rest : List Char) : pieces (line ++ '\n' :: rest) = line :: pieces rest := by
  induction line with
  | nil => simp [pieces]
  | cons c cs ih =>
    rw [List.mem_cons, not_or] at hfeed hreturn
    have hgrow : pieces (c :: (cs ++ '\n' :: rest)) = growFirst c (pieces (cs ++ '\n' :: rest)) :=
      pieces.eq_4 c _ (fun _ h _ => hreturn.1 h.symm) (fun h => hfeed.1 h.symm)
    rw [List.cons_append, hgrow, ih hfeed.2 hreturn.2]
    rfl

end ByteStream.Text
