/-
# ByteStream.Http.Head -- the head of an answer

Behind its status an answer has a head: a line for every field, and an empty line. `write` makes
one of fields as they are, `read` reads any text. What a field is depends on the lines alone, so
a colon in a name, or a line end in a value, makes other fields than those that were written.
-/

import ByteStream.Http.HeaderMap
import ByteStream.Text.Split

namespace ByteStream.Http.Head

open Text

/-! ## Writing -/

/-- The end of a line. -/
def lineEnd : List Char := ['\r', '\n']

/-- The line of a field, without its end. -/
def line (field : String × String) : List Char := field.1.toList ++ ':' :: ' ' :: field.2.toList

/-- The head that has these fields. -/
def write (fields : List (String × String)) : List Char :=
  (fields.map line).flatMap (· ++ lineEnd) ++ lineEnd

/-! ## Reading -/

/-- A line without the carriage return at its end. -/
def withoutReturn (line : List Char) : List Char :=
  if line.getLast? = some '\r' then line.dropLast else line

/-- The lines before the first empty one and what stands behind it, if there is an empty one. -/
def cutLines (cs : List Char) : Option (List (List Char) × List Char) :=
  match _h : cutAt '\n' cs with
  | none => none
  | some (line, rest) =>
    if (withoutReturn line).isEmpty then some ([], rest)
    else (cutLines rest).map fun (lines, behind) => (withoutReturn line :: lines, behind)
termination_by cs.length
decreasing_by
  have := (cutAt_eq_some_iff.1 _h).1
  simp only [this, List.length_append, List.length_cons]
  omega

/-- The field that a line writes, if it is legal. Blanks around the value are not part of it. -/
def field? (line : List Char) : Option (String × String) :=
  match cutAt ':' line with
  | none => none
  | some (name, value) =>
    let name := String.ofList name
    let value := stripped (String.ofList value)
    if isFieldName name && isFieldValue value then some (lower name, value) else none

/-- How many fields a head may have. -/
def maxFields : Nat := 100

/-- The fields of a head and what stands behind it. A head that has too many fields, or an illegal
one, cannot be understood. -/
def read (cs : List Char) : Option (HeaderMap × List Char) :=
  match cutLines cs with
  | none => none
  | some (lines, behind) =>
    if maxFields < lines.length then none
    else (lines.mapM field?).map fun fields => (.ofFields fields, behind)

/-! ## What was written reads back -/

theorem withoutReturn_append (line : List Char) : withoutReturn (line ++ ['\r']) = line := by
  simp [withoutReturn]

theorem cutLines_of_cutAt {cs line rest : List Char} (h : cutAt '\n' cs = some (line, rest)) :
    cutLines cs =
      if (withoutReturn line).isEmpty then some ([], rest)
      else (cutLines rest).map fun (lines, behind) => (withoutReturn line :: lines, behind) := by
  rw [cutLines]
  split <;> simp_all

/-- The first line that was put together is the first that is cut off. -/
theorem cutLines_line_append {line : List Char} (h : '\n' ∉ line) (rest : List Char) :
    cutLines (line ++ lineEnd ++ rest) =
      if line.isEmpty then some ([], rest)
      else (cutLines rest).map fun (lines, behind) => (line :: lines, behind) := by
  have hcut : cutAt '\n' (line ++ lineEnd ++ rest) = some (line ++ ['\r'], rest) := by
    simp [cutAt_eq_some_iff, lineEnd, h]
  rw [cutLines_of_cutAt hcut, withoutReturn_append]

/-- Lines without line ends are cut as they were put together. -/
theorem cutLines_append {lines : List (List Char)} (h : ∀ l ∈ lines, l ≠ [] ∧ '\n' ∉ l)
    (behind : List Char) :
    cutLines (lines.flatMap (· ++ lineEnd) ++ lineEnd ++ behind) = some (lines, behind) := by
  induction lines with
  | nil =>
    show cutLines ([] ++ lineEnd ++ behind) = _
    rw [cutLines_line_append (by simp)]
    simp
  | cons l lines ih =>
    obtain ⟨⟨hne, hnl⟩, hlines⟩ := List.forall_mem_cons.1 h
    rw [List.flatMap_cons, List.append_assoc, List.append_assoc, cutLines_line_append hnl,
      ← List.append_assoc, ih hlines]
    simp [hne]

/-- A field that can be sent as it is. -/
def IsLegal (field : String × String) : Prop :=
  isFieldName field.1 = true ∧ isFieldValue field.2 = true ∧ stripped field.2 = field.2

theorem not_mem_name {name : String} (h : isFieldName name = true) {c : Char}
    (hc : isTokenChar c = false) : c ∉ name.toList := by
  intro hmem
  simp only [isFieldName, Bool.and_eq_true, List.all_eq_true] at h
  simp [h.2 c hmem] at hc

theorem not_mem_value {value : String} (h : isFieldValue value = true) :
    '\n' ∉ value.toList := by
  intro hmem
  simp only [isFieldValue, List.all_eq_true] at h
  exact absurd (h _ hmem) (by decide)

theorem stripped_blank_append (value : String) :
    stripped (String.ofList (' ' :: value.toList)) = stripped value := by
  simp [stripped]

/-- The line of a legal field writes that field. -/
theorem field?_line {field : String × String} (h : IsLegal field) :
    field? (line field) = some (lower field.1, field.2) := by
  obtain ⟨hname, hvalue, hstripped⟩ := h
  have hcut : cutAt ':' (line field) = some (field.1.toList, ' ' :: field.2.toList) := by
    simp [cutAt_eq_some_iff, line, not_mem_name hname (c := ':') (by decide)]
  simp only [field?, hcut, stripped_blank_append, hstripped]
  simp [hname, hvalue]

/-- Legal fields read back as they were written, whatever stands behind the head. -/
theorem read_write {fields : List (String × String)} (hlegal : ∀ f ∈ fields, IsLegal f)
    (hcount : fields.length ≤ maxFields) (behind : List Char) :
    read (write fields ++ behind)
      = some (.ofFields (fields.map fun f => (lower f.1, f.2)), behind) := by
  have hlines : ∀ l ∈ fields.map line, l ≠ [] ∧ '\n' ∉ l := by
    simp only [List.forall_mem_map]
    intro f hf
    obtain ⟨hname, hvalue, _⟩ := hlegal f hf
    simp [line, not_mem_name hname (c := '\n') (by decide), not_mem_value hvalue]
  have hfields : (fields.map line).mapM field? = some (fields.map fun f => (lower f.1, f.2)) := by
    clear hcount hlines
    induction fields with
    | nil => rfl
    | cons f fields ih =>
      obtain ⟨hf, hrest⟩ := List.forall_mem_cons.1 hlegal
      simp [field?_line hf, ih hrest]
  rw [read, write, cutLines_append hlines]
  simp [hfields, Nat.not_lt.2 hcount]

end ByteStream.Http.Head
