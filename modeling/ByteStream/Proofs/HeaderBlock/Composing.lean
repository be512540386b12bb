/-
# ByteStream.Proofs.HeaderBlock.Composing -- a composed block reads as the lines it was made of

A block is written as one text and cut into lines again where it is read. What it tells can be
said without that detour, of the list of lines itself (`told`): blank lines do not count, the
first line that counts and has no colon is the error, and if there is none, each line that counts
is one field. For lines without line feeds the two agree (`parseHeaders_compose`), whatever
returns, colons and blanks the lines hold, and however many there are.
-/

import ByteStream.Http.Settings
import ByteStream.Proofs.Text.LineEnds
import Mathlib.Data.List.Basic

namespace ByteStream

open Text

namespace HeaderBlock

/-! ## What lines tell -/

/-- The lines that count: those of which trimming leaves something. -/
def counted (lines : List String) : List String := lines.filter fun line => trimmed line != ""

/-- The line has a colon. -/
def hasColon (line : String) : Bool := line.toList.contains ':'

/-- The texts in front of the first colon and behind it, both trimmed. -/
def fieldOf (line : String) : String × String :=
  (trimmed (String.ofList (line.toList.takeWhile (· != ':'))),
    trimmed (String.ofList ((line.toList.dropWhile (· != ':')).drop 1)))

/-- What a list of lines tells: the fields of the lines that count, or the first of these lines
that has no colon. -/
def told (lines : List String) : Except String (List (String × String)) :=
  match (counted lines).find? fun line => !hasColon line with
  | some bad => .error bad
  | none => .ok ((counted lines).map fieldOf)

theorem told_append_blank (lines : List String) : told (lines ++ [""]) = told lines := by
  have hcounted : counted (lines ++ [""]) = counted lines := by
    rw [counted, List.filter_append]
    exact List.append_nil _
  rw [told, hcounted, told]

theorem told_eq_ok_iff {lines : List String} {fields : List (String × String)} :
    told lines = .ok fields ↔
      (∀ line ∈ counted lines, hasColon line = true) ∧ fields = (counted lines).map fieldOf := by
  unfold told
  split
  · rename_i bad hbad
    have hmem : bad ∈ counted lines := List.mem_of_find?_eq_some hbad
    have hnone : hasColon bad = false := by simpa using List.find?_some hbad
    constructor
    · intro h
      exact absurd h (by simp)
    · rintro ⟨hall, -⟩
      exact absurd (hall bad hmem) (by simp [hnone])
  · rename_i hall
    simp only [List.find?_eq_none, Bool.not_eq_true', Bool.not_eq_false] at hall
    rw [Except.ok.injEq]
    exact ⟨fun h => ⟨hall, h.symm⟩, fun h => h.2.symm⟩

/-! ## Reading lines one by one -/

theorem trimmed_ofList_eq_empty_iff (line : List Char) :
    trimmed (String.ofList line) = "" ↔ allBlank line = true := by
  rw [trimmed, String.toList_ofList, ← trim_eq_nil_iff, String.ofList_eq_empty_iff]

theorem parseLine_eq (line : List Char) :
    parseLine line =
      if hasColon (String.ofList line) then .ok (fieldOf (String.ofList line))
      else .error (String.ofList line) := by
  unfold parseLine
  split
  · rename_i name value hcut
    obtain ⟨rfl, hname⟩ := cutAt_eq_some_iff.1 hcut
    have hkept : ∀ c ∈ name, (c != ':') = true := by
      intro c hc
      rw [bne_iff_ne]
      rintro rfl
      exact hname hc
    have hcolon : hasColon (String.ofList (name ++ ':' :: value)) = true := by simp [hasColon]
    rw [if_pos hcolon, fieldOf, String.toList_ofList, List.takeWhile_append_of_pos hkept,
      List.dropWhile_append_of_pos hkept]
    simp [trimmed]
  · rename_i hcut
    have hcolon : hasColon (String.ofList line) = false := by
      simpa [hasColon] using cutAt_eq_none_iff.1 hcut
    rw [hcolon]
    rfl

theorem parseLines_eq (all : List (List Char)) :
    parseLines all = told (all.map String.ofList) := by
  induction all with
  | nil => rfl
  | cons line rest ih =>
      cases hblank : allBlank line with
      | true =>
          have hdropped : counted ((line :: rest).map String.ofList) =
              counted (rest.map String.ofList) :=
            List.filter_cons_of_neg (by simp [(trimmed_ofList_eq_empty_iff line).2 hblank])
          rw [parseLines_blank hblank, ih, told, told, hdropped]
      | false =>
          have hkept : counted ((line :: rest).map String.ofList) =
              String.ofList line :: counted (rest.map String.ofList) :=
            List.filter_cons_of_pos (by simp [trimmed_ofList_eq_empty_iff, hblank])
          rw [parseLines, hblank, if_neg Bool.false_ne_true, parseLine_eq, ih, told, told, hkept]
          cases hcolon : hasColon (String.ofList line) with
          | true =>
              rw [if_pos rfl, List.find?_cons_of_neg (by simp [hcolon])]
              cases (counted (rest.map String.ofList)).find? fun line => !hasColon line <;> rfl
          | false =>
              rw [if_neg Bool.false_ne_true, List.find?_cons_of_pos (by simp [hcolon])]

/-- The lines of a text. -/
def linesOf (text : String) : List String := (pieces text.toList).map String.ofList

/-- A block tells what the list of its lines tells. -/
theorem parse_eq (block : String) : parse block = told (linesOf block) := parseLines_eq _

theorem linesOf_of_not_mem {line : String} (h : '\n' ∉ line.toList) : linesOf line = [line] := by
  rw [linesOf, pieces_of_not_mem h, List.map_singleton, String.ofList_toList]

/-! ## Composing -/

/-- The texts of which a block is composed. -/
def composed (referrer : Option String) (fields : List String) : List String :=
  (referrer.map ("Referer: " ++ ·)).toList ++ fields

/-- The lines of a composed block are the lines of its texts, and nothing behind them. -/
theorem linesOf_compose (referrer : Option String) (fields : List String) :
    linesOf (compose referrer fields) = (composed referrer fields).flatMap linesOf ++ [""] := by
  have htext (texts : List String) : (String.join (texts.map (· ++ lineEnd))).toList =
      (texts.map String.toList).flatMap (· ++ ['\r', '\n']) := by
    rw [String.toList_join, List.flatMap_map, List.flatMap_map]
    congr 1
    funext text
    rw [String.toList_append]
    rfl
  show (pieces (String.join ((composed referrer fields).map (· ++ lineEnd))).toList).map _ = _
  rw [htext, pieces_flatMap_lineEnd, List.flatMap_map, List.map_append, List.map_flatMap]
  rfl

/-- A composed block tells what the lines of its texts tell. -/
theorem parse_compose (referrer : Option String) (fields : List String) :
    parse (compose referrer fields) = told ((composed referrer fields).flatMap linesOf) := by
  rw [parse_eq, linesOf_compose, told_append_blank]

/-- Texts without line feeds are lines. -/
theorem flatMap_linesOf {texts : List String} (h : ∀ text ∈ texts, '\n' ∉ text.toList) :
    texts.flatMap linesOf = texts := by
  rw [List.flatMap_congr fun text htext => linesOf_of_not_mem (h text htext),
    List.flatMap_singleton']

end HeaderBlock

namespace Http.Settings

open HeaderBlock

/-- **A composed block reads field by field.** Let neither the referrer nor a line hold a line
feed. Then the block that is composed of them tells exactly what their list tells: a line that is
blank is left out, each other line is one field, cut at its first colon and trimmed, in the order
of the lines, and the first that has no colon is the error, with its text as it is. -/
theorem parseHeaders_compose {referrer : Option String} {fields : List String}
    (hreferrer : ∀ text ∈ referrer, '\n' ∉ text.toList)
    (hfields : ∀ line ∈ fields, '\n' ∉ line.toList) :
    parseHeaders (compose referrer fields) =
      (told (composed referrer fields)).mapError .invalidHeader := by
  have hlines : ∀ line ∈ composed referrer fields, '\n' ∉ line.toList := by
    intro line hline
    rcases List.mem_append.1 hline with hline | hline
    · obtain ⟨text, htext, rfl⟩ := Option.map_eq_some_iff.1 (Option.mem_toList.1 hline)
      rw [String.toList_append, List.mem_append, not_or]
      exact ⟨by decide, hreferrer text htext⟩
    · exact hfields line hline
  rw [parseHeaders, parse_compose, flatMap_linesOf hlines]

/-- A referrer that ends with a return, a line of a blank and a return, an empty one, a value with
a colon and returns, and a line without a colon, which is the error: all as they were put in. -/
theorem parseHeaders_compose_returns :
    let good := ["\r", " \r", "", "A : b:c\rd\r"]
    let bad := good ++ ["x\r ", "B: 1", "y"]
    (∀ text ∈ some "R\r", '\n' ∉ text.toList) ∧ (∀ line ∈ bad, '\n' ∉ line.toList) ∧
      parseHeaders (compose (some "R\r") good) = .ok [("Referer", "R"), ("A", "b:c\rd")] ∧
      parseHeaders (compose (some "R\r") bad) = .error (.invalidHeader "x\r ") := by
  intro good bad
  have hreferrer : ∀ text ∈ some "R\r", '\n' ∉ text.toList := by decide
  have hbad : ∀ line ∈ bad, '\n' ∉ line.toList := by decide
  have hgood : ∀ line ∈ good, '\n' ∉ line.toList := fun line hline =>
    hbad line (List.mem_append_left _ hline)
  refine ⟨hreferrer, hbad, ?_, ?_⟩
  · rw [parseHeaders_compose hreferrer hgood]
    rfl
  · rw [parseHeaders_compose hreferrer hbad]
    rfl

end Http.Settings

end ByteStream
