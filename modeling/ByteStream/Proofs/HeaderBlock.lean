/-
# ByteStream.Proofs.HeaderBlock -- what a block of header lines says

A block is readable exactly when each of its lines that is not blank has a colon, and it then
says one field for each of these lines, in order: the name is what stands before the first colon
of the line and the value what stands after it, both without the blanks around them.
-/

import ByteStream.HeaderBlock
import Mathlib.Data.List.Forall2

namespace ByteStream.HeaderBlock

open Text

/-- The lines that count: those that are not blank. -/
def lines (block : String) : List (List Char) :=
  (pieces block.toList).filter fun line => !allBlank line

/-- The line says the field. -/
def Says (line : List Char) (field : String × String) : Prop :=
  ∃ name value, line = name ++ ':' :: value ∧ ':' ∉ name ∧
    field = (String.ofList (trim name), String.ofList (trim value))

theorem parseLine_eq_ok_iff {line : List Char} {field : String × String} :
    parseLine line = .ok field ↔ Says line field := by
  unfold parseLine
  constructor
  · intro h
    split at h
    · rename_i name value hcut
      obtain ⟨hline, hname⟩ := cutAt_eq_some_iff.1 hcut
      exact ⟨name, value, hline, hname, (Except.ok.inj h).symm⟩
    · exact absurd h (by simp)
  · rintro ⟨name, value, hline, hname, rfl⟩
    rw [cutAt_eq_some_iff.2 ⟨hline, hname⟩]

/-- A line says something exactly if it has a colon. -/
theorem exists_says_iff {line : List Char} : (∃ field, Says line field) ↔ ':' ∈ line := by
  constructor
  · rintro ⟨_, name, value, rfl, -, -⟩
    exact List.mem_append_right _ List.mem_cons_self
  · intro h
    cases hcut : cutAt ':' line with
    | none => exact absurd h (cutAt_eq_none_iff.1 hcut)
    | some parts =>
        obtain ⟨hline, hname⟩ := cutAt_eq_some_iff.1 hcut
        exact ⟨_, parts.1, parts.2, hline, hname, rfl⟩

theorem parseLines_eq_ok_iff {all : List (List Char)} {fields : List (String × String)} :
    parseLines all = .ok fields ↔
      List.Forall₂ Says (all.filter fun line => !allBlank line) fields := by
  induction all generalizing fields with
  | nil => simp [parseLines, eq_comm]
  | cons line rest ih =>
      cases hblank : allBlank line with
      | true =>
          rw [parseLines_blank hblank, List.filter_cons_of_neg (by simp [hblank])]
          exact ih
      | false =>
          rw [List.filter_cons_of_pos (by simp [hblank]), List.forall₂_cons_left_iff]
          simp only [parseLines, hblank, Bool.false_eq_true, if_false]
          constructor
          · intro h
            split at h
            · exact absurd h (by simp)
            · rename_i field hline
              split at h
              · exact absurd h (by simp)
              · rename_i more hrest
                exact ⟨field, more, parseLine_eq_ok_iff.1 hline, ih.1 hrest,
                  (Except.ok.inj h).symm⟩
          · rintro ⟨field, more, hline, hrest, rfl⟩
            rw [parseLine_eq_ok_iff.2 hline, ih.2 hrest]

/-- A block reads as a list of fields exactly if its lines say them, one each. -/
theorem parse_eq_ok_iff {block : String} {fields : List (String × String)} :
    parse block = .ok fields ↔ List.Forall₂ Says (lines block) fields :=
  parseLines_eq_ok_iff

/-- A block is readable exactly if each line that counts has a colon. -/
theorem exists_parse_iff (block : String) :
    (∃ fields, parse block = .ok fields) ↔ ∀ line ∈ lines block, ':' ∈ line := by
  simp only [parse_eq_ok_iff]
  induction lines block with
  | nil => simp
  | cons line rest ih =>
      rw [List.forall_mem_cons, ← ih, ← exists_says_iff]
      simp only [List.forall₂_cons_left_iff]
      constructor
      · rintro ⟨_, field, more, hline, hrest, rfl⟩
        exact ⟨⟨field, hline⟩, more, hrest⟩
      · rintro ⟨⟨field, hline⟩, more, hrest⟩
        exact ⟨field :: more, field, more, hline, hrest, rfl⟩

end ByteStream.HeaderBlock
