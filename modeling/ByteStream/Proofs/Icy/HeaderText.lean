/-
# ByteStream.Proofs.Icy.HeaderText -- tags of header texts that are put together

The tags of a header text are set line by line. So a text that is made of two gives the tags of the
first, with those of the second on top, entry for entry; a line that says nothing makes no
difference wherever it stands; and a line may end with a line feed or with a return and a line
feed (`parse_compositional`). Line ends are cut in two ways: a return in front of a line feed
belongs to the line end, and returns are cut off the end of each line once more. What carries the
proofs is that only the second cut counts: the fields of a text are those of its parts between
line feeds (`headerFields_eq`).
-/

import ByteStream.Icy.Title
import ByteStream.Proofs.Entries.Contents
import ByteStream.Proofs.Entries.Merging
import ByteStream.Proofs.Text.LineEnds

namespace ByteStream.Icy

open Text

/-! ## What a line says -/

/-- The line says the field: name and value stand in front of the first mark and behind it. The
returns at the end of the line are not part of the value. -/
def Says (line : List Char) (field : String × String) : Prop :=
  ∃ returns, line = field.1.toList ++ fieldMark.toList ++ field.2.toList ++ returns ∧
    (∀ c ∈ returns, c = '\r') ∧ ¬ fieldMark.toList <:+: field.1.toList ∧
    field.2.toList.getLast? ≠ some '\r'

/-- A mark that is not in a text does not begin at its end either, in front of a colon. -/
theorem fieldMark_infix_colon {name : List Char} :
    fieldMark.toList <:+: name ++ fieldMark.toList.dropLast ↔ fieldMark.toList <:+: name := by
  show [':', ' '] <:+: name ++ [':'] ↔ [':', ' '] <:+: name
  rw [List.infix_concat_iff]
  constructor
  · rintro (⟨front, hfront⟩ | hinfix)
    · have hlast := congrArg List.getLast? hfront
      simp at hlast
    · exact hinfix
  · exact .inr

/-- What a line gives is what it says. -/
theorem field?_eq_some_iff {line : List Char} {field : String × String} :
    field? line = some field ↔ Says line field := by
  obtain ⟨name, value⟩ := field
  have hmark : fieldMark.toList ≠ [] := by decide
  unfold field?
  constructor
  · intro h
    obtain ⟨⟨front, behind⟩, hcut, heq⟩ := Option.map_eq_some_iff.1 h
    obtain ⟨rfl, rfl⟩ := Prod.mk.inj heq
    obtain ⟨hline, hfirst⟩ := (cutAtText_eq_some_iff hmark).1 hcut
    obtain ⟨returns, hreturns, hall⟩ := trimEnd_append (· == '\r') line
    rw [fieldMark_infix_colon] at hfirst
    refine ⟨returns, ?_, ?_, ?_, ?_⟩
    · rw [String.toList_ofList, String.toList_ofList, ← hline]
      exact hreturns
    · simpa using hall
    · rwa [String.toList_ofList]
    · -- a return at the end of the value would be one at the end of the bare line
      rw [String.toList_ofList]
      intro hlast
      have hbare : (bareLine line).getLast? = some '\r' := by
        rw [hline, List.getLast?_append, hlast]
        rfl
      exact absurd (getLast?_trimEnd hbare) (by decide)
  · rintro ⟨returns, hline, hreturns, hfirst, hlast⟩
    have hbare : bareLine line = name.toList ++ fieldMark.toList ++ value.toList := by
      have hall : ∀ c ∈ returns, (c == '\r') = true := by simpa using hreturns
      rw [bareLine, hline, trimEnd_append_of_all _ hall]
      apply trimEnd_eq_self
      intro c hc
      rw [List.getLast?_append] at hc
      rw [beq_eq_false_iff_ne]
      rintro rfl
      cases hvalue : value.toList.getLast? with
      | none =>
          have hspace : fieldMark.toList.getLast? = some ' ' := rfl
          rw [hvalue, Option.none_or, List.getLast?_append, hspace, Option.some_or] at hc
          exact absurd hc (by decide)
      | some d =>
          rw [hvalue, Option.some_or] at hc
          exact hlast (hvalue.trans hc)
    have hcut : cutAtText fieldMark.toList (bareLine line) = some (name.toList, value.toList) :=
      (cutAtText_eq_some_iff hmark).2 ⟨hbare, by rwa [fieldMark_infix_colon]⟩
    rw [hcut, Option.map_some]
    dsimp only
    rw [String.ofList_toList, String.ofList_toList]

/-- A line without the mark gives nothing. -/
theorem field?_of_no_mark {line : List Char} (h : ¬ fieldMark.toList <:+: line) :
    field? line = none := by
  cases hfield : field? line with
  | none => rfl
  | some field =>
      obtain ⟨returns, hline, -⟩ := field?_eq_some_iff.1 hfield
      refine absurd ⟨field.1.toList, field.2.toList ++ returns, ?_⟩ h
      rw [hline]
      simp

/-! ## The fields of a text -/

/-- Lines that differ in the returns at their ends only give the same fields. -/
theorem filterMap_field?_congr {lines others : List (List Char)}
    (h : lines.map bareLine = others.map bareLine) :
    lines.filterMap field? = others.filterMap field? := by
  have hbare (line : List Char) : field? (bareLine line) = field? line := by
    rw [field?, field?, bareLine, bareLine, trimEnd_trimEnd]
  have hfield : field? = field? ∘ bareLine := funext fun line => (hbare line).symm
  rw [hfield, ← List.filterMap_map, ← List.filterMap_map, h]

/-- The fields of a text are those of its parts between line feeds. -/
theorem headerFields_eq (headers : String) :
    headerFields headers = (parts '\n' headers.toList).filterMap field? :=
  filterMap_field?_congr (map_trimEnd_pieces _)

theorem headerFields_append (a b : String) :
    headerFields (a ++ "\n" ++ b) = headerFields a ++ headerFields b := by
  have htext : (a ++ "\n" ++ b).toList = a.toList ++ '\n' :: b.toList := by
    rw [String.toList_append, String.toList_append, List.append_assoc]
    rfl
  rw [headerFields_eq, htext, parts_append_sep, List.filterMap_append, headerFields_eq,
    headerFields_eq]

theorem headerFields_of_no_mark {line : String} (hline : '\n' ∉ line.toList)
    (hmark : ¬ fieldMark.toList <:+: line.toList) : headerFields line = [] := by
  rw [headerFields, pieces_of_not_mem hline, List.filterMap_cons_none (field?_of_no_mark hmark)]
  rfl

/-! ## Putting lines in -/

/-- A line may begin where the text ends: the text is empty or its last line is ended. -/
def AtLineStart (text : String) : Prop := text = "" ∨ ∃ lines, text = lines ++ "\n"

/-- The second text is the first with the line put in at a line boundary: between its lines or in
front of them, behind a last line that is ended, or behind one that is not. -/
inductive PutIn (line : String) : String → String → Prop
  | between {before : String} (after : String) (h : AtLineStart before) :
      PutIn line (before ++ after) (before ++ line ++ "\n" ++ after)
  | behind {text : String} (h : AtLineStart text) : PutIn line text (text ++ line)
  | behindUnended (text : String) : PutIn line text (text ++ "\n" ++ line)

/-- In front of where a line may begin, a text and what follows it have fields of their own. -/
theorem headerFields_lineStart_append {before : String} (h : AtLineStart before) (after : String) :
    headerFields (before ++ after) = headerFields before ++ headerFields after := by
  rcases h with rfl | ⟨lines, rfl⟩
  · rw [String.empty_append]
    rfl
  · have hended : headerFields (lines ++ "\n") = headerFields lines := by
      have happend := headerFields_append lines ""
      rw [String.append_empty] at happend
      rw [happend]
      exact List.append_nil _
    rw [headerFields_append, hended]

theorem headerFields_putIn {line text longer : String} (hline : '\n' ∉ line.toList)
    (hmark : ¬ fieldMark.toList <:+: line.toList) (h : PutIn line text longer) :
    headerFields longer = headerFields text := by
  have hnone := headerFields_of_no_mark hline hmark
  cases h with
  | @between before after hstart =>
      rw [String.append_assoc, String.append_assoc, headerFields_lineStart_append hstart,
        headerFields_lineStart_append hstart, ← String.append_assoc, headerFields_append, hnone,
        List.nil_append]
  | behind hstart => rw [headerFields_lineStart_append hstart, hnone, List.append_nil]
  | behindUnended => rw [headerFields_append, hnone, List.append_nil]

/-! ## Other line ends -/

/-- The second text is the first with a return put in front of some of the line feeds. -/
inductive Returned : List Char → List Char → Prop
  | nil : Returned [] []
  | keep (c : Char) {cs ds : List Char} : Returned cs ds → Returned (c :: cs) (c :: ds)
  | feed {cs ds : List Char} : Returned cs ds → Returned ('\n' :: cs) ('\r' :: '\n' :: ds)

theorem bareLine_parts_returned {cs ds : List Char} (h : Returned cs ds) :
    (parts '\n' ds).map bareLine = (parts '\n' cs).map bareLine := by
  induction h with
  | nil => rfl
  | keep c _ ih =>
      by_cases hc : c = '\n'
      · rw [parts, parts, if_pos hc, if_pos hc, List.map_cons, List.map_cons, ih]
      · rw [parts, parts, if_neg hc, if_neg hc]
        unfold bareLine at ih ⊢
        rw [← map_trimEnd_growFirst, ih, map_trimEnd_growFirst]
  | feed _ ih =>
      -- the return stands alone behind what came in front of it, and is cut off
      show bareLine ['\r'] :: _ = bareLine [] :: _
      rw [ih]
      rfl

theorem headerFields_returned {text other : String} (h : Returned text.toList other.toList) :
    headerFields other = headerFields text := by
  rw [headerFields_eq, headerFields_eq]
  exact filterMap_field?_congr (bareLine_parts_returned h)

/-! ## Tags -/

/-- The title of a packet as a field. -/
def titleFields (packet : String) : Entries :=
  ((title? packet).map fun title => (titleTag, title)).toList

/-- The fields of the text are set one after the other, and then the title. -/
theorem parse_eq (headers packet : String) :
    parse headers packet = Tags.ofList (headerFields headers ++ titleFields packet) := by
  unfold parse titleFields Tags.ofList Entries.setAll
  rw [List.foldl_append]
  cases title? packet <;> rfl

/-- The tags of two texts, one on top of the other, are the tags of the fields of both. -/
theorem merge_ofList (fields more : Entries) :
    (Tags.ofList fields).merge (Tags.ofList more) = Tags.ofList (fields ++ more) := by
  unfold Tags.merge Tags.ofList
  rw [Entries.setAll_setAll, Entries.setAll, Entries.setAll, Entries.setAll, List.foldl_append]

/-- Of the lines that say a field of this name, up to case, the last has this value. -/
def LastSays (lines : List (List Char)) (name value : String) : Prop :=
  ∃ before line after, lines = before ++ line :: after ∧
    (∃ spelled, Says line (spelled, value) ∧ sameName spelled name = true) ∧
    ∀ l ∈ after, ∀ field, Says l field → sameName field.1 name = false

/-- The last line decides, unless it says nothing under the name. -/
theorem lastSays_concat {lines : List (List Char)} {line : List Char} {name value : String} :
    LastSays (lines ++ [line]) name value ↔
      (∃ spelled, Says line (spelled, value) ∧ sameName spelled name = true) ∨
        (∀ field, Says line field → sameName field.1 name = false) ∧ LastSays lines name value := by
  constructor
  · rintro ⟨before, l, after, hlines, hsaid, hlater⟩
    rcases List.eq_nil_or_concat' after with rfl | ⟨after, last, rfl⟩
    · obtain rfl := (List.cons.inj (List.append_inj' hlines rfl).2).1
      exact .inl hsaid
    · rw [← List.cons_append, ← List.append_assoc] at hlines
      obtain ⟨rfl, hlast⟩ := List.append_inj' hlines rfl
      obtain rfl := (List.cons.inj hlast).1
      refine .inr ⟨hlater line (by simp), before, l, after, rfl, hsaid, ?_⟩
      exact fun m hm => hlater m (List.mem_append_left _ hm)
  · rintro (hsaid | ⟨hother, before, l, after, rfl, hsaid, hlater⟩)
    · exact ⟨lines, line, [], rfl, hsaid, by simp⟩
    · refine ⟨before, l, after ++ [line], by simp, hsaid, ?_⟩
      intro m hm
      rcases List.mem_append.1 hm with hm | hm
      · exact hlater m hm
      · rwa [List.mem_singleton.1 hm]

/-- The last pair under a name is what the last line of that name says. -/
theorem lastValue_fields_iff {lines : List (List Char)} {name value : String} :
    Entries.lastValue lower name (lines.filterMap field?) = some value ↔
      LastSays lines name value := by
  -- from the last line on, since that is the one that decides
  induction lines using List.reverseRecOn with
  | nil => simp [LastSays]
  | append_singleton lines line ih =>
      rw [List.filterMap_append, Entries.lastValue_append, lastSays_concat]
      simp only [← field?_eq_some_iff]
      cases hline : field? line with
      | none =>
          rw [List.filterMap_cons_none hline, List.filterMap_nil, Entries.lastValue_nil,
            Option.none_or, ih]
          simp
      | some field =>
          have hone : Entries.lastValue lower name [field] =
              if lower field.1 = lower name then some field.2 else none := rfl
          rw [List.filterMap_cons_some hline, List.filterMap_nil, hone]
          by_cases hsame : lower field.1 = lower name
          · rw [if_pos hsame, Option.some_or]
            constructor
            · rintro ⟨rfl⟩
              exact .inl ⟨field.1, rfl, (sameName_iff ..).2 hsame⟩
            · rintro (⟨spelled, heq, -⟩ | ⟨hother, -⟩)
              · rw [Option.some.inj heq]
              · exact absurd ((sameName_iff ..).2 hsame) (by simp [hother field rfl])
          · have hother : sameName field.1 name = false := by
              rwa [Bool.eq_false_iff, ne_eq, sameName_iff]
            rw [if_neg hsame, Option.none_or, ih]
            constructor
            · intro hlast
              refine .inr ⟨fun f heq => ?_, hlast⟩
              rwa [← Option.some.inj heq]
            · rintro (⟨spelled, heq, hsaid⟩ | ⟨-, hlast⟩)
              · rw [Option.some.inj heq, hsaid] at hother
                exact absurd hother (by simp)
              · exact hlast

/-- Under a name other than that of the title, a text has what the last line of the name says. -/
theorem get?_parse_iff {name : String} (hname : sameName name titleTag = false)
    (headers packet value : String) :
    (parse headers packet).get? name = some value ↔
      LastSays (pieces headers.toList) name value := by
  have htitle : Entries.lastValue lower name (titleFields packet) = none := by
    have hother : lower titleTag ≠ lower name := by
      rw [ne_eq, ← sameName_iff, sameName_comm, hname]
      exact Bool.false_ne_true
    unfold titleFields
    cases title? packet with
    | none => rfl
    | some title => exact if_neg hother
  have hfields : (parse headers packet).get? name =
      Entries.lastValue lower name (headerFields headers) := by
    rw [parse_eq]
    show Entries.get? lower name (Entries.setAll lower _ []) = _
    rw [Entries.get?_setAll, Entries.get?_nil, Option.or_none, Entries.lastValue_append, htitle,
      Option.none_or]
  rw [hfields, headerFields, lastValue_fields_iff]

/-- **Header texts are read line by line.** Two texts, one on top of the other, give the tags of
the first with those of the second merged in, entry for entry. A line without the mark changes
nothing wherever it is put in, and neither does a return in front of any of the line feeds. So
every name but that of the title has the value that the last line of the name says, up to case. -/
theorem parse_compositional (packet : String) :
    (∀ a b, parse (a ++ "\n" ++ b) packet = (parse a "").merge (parse b packet)) ∧
      (∀ line text longer, '\n' ∉ line.toList → ¬ fieldMark.toList <:+: line.toList →
        PutIn line text longer → parse longer packet = parse text packet) ∧
      (∀ text other : String, Returned text.toList other.toList →
        parse other packet = parse text packet) ∧
      ∀ name, sameName name titleTag = false → ∀ text value,
        (parse text packet).get? name = some value ↔
          LastSays (pieces text.toList) name value := by
  refine ⟨?_, ?_, ?_, ?_⟩
  · intro a b
    have hnone : titleFields "" = [] := by decide
    rw [parse_eq, parse_eq, parse_eq, merge_ofList, headerFields_append, hnone, List.append_nil,
      List.append_assoc]
  · intro line text longer hline hmark hput
    rw [parse_eq, parse_eq, headerFields_putIn hline hmark hput]
  · intro text other hreturned
    rw [parse_eq, parse_eq, headerFields_returned hreturned]
  · intro name hname text value
    exact get?_parse_iff hname text packet value

/-- Two lines of one name in two spellings; between them a line that ends with a colon, and the
first line ended with a return and a line feed. -/
theorem parse_compositional_spelled :
    let text := "a: 1\nA: 2: 3"
    let longer := "a: 1\nb:\nA: 2: 3"
    let other := "a: 1\r\nA: 2: 3"
    let packet := "StreamTitle='T';"
    '\n' ∉ "b:".toList ∧ ¬ fieldMark.toList <:+: "b:".toList ∧ PutIn "b:" text longer ∧
      Returned text.toList other.toList ∧ sameName "a" titleTag = false ∧
      parse text packet = (parse "a: 1" "").merge (parse "A: 2: 3" packet) ∧
      parse longer packet = parse text packet ∧ parse other packet = parse text packet ∧
      (parse text packet).entries = [("A", "2: 3"), ("icy-title", "T")] ∧
      LastSays (pieces text.toList) "a" "2: 3" := by
  intro text longer other packet
  have hfeed : '\n' ∉ "b:".toList := by decide
  have hmark : ¬ fieldMark.toList <:+: "b:".toList := by decide
  have hput : PutIn "b:" text longer := .between "A: 2: 3" (.inr ⟨"a: 1", rfl⟩)
  have hreturned : Returned text.toList other.toList := by
    have htext : text.toList = ['a', ':', ' ', '1', '\n', 'A', ':', ' ', '2', ':', ' ', '3'] := by
      decide
    have hother : other.toList =
        ['a', ':', ' ', '1', '\r', '\n', 'A', ':', ' ', '2', ':', ' ', '3'] := by
      decide
    rw [htext, hother]
    repeat' constructor
  have hname : sameName "a" titleTag = false := by decide +kernel
  obtain ⟨happend, hputIn, hreturns, hlast⟩ := parse_compositional packet
  refine ⟨hfeed, hmark, hput, hreturned, hname, happend "a: 1" "A: 2: 3",
    hputIn _ _ _ hfeed hmark hput, hreturns _ _ hreturned, by decide +kernel, ?_⟩
  exact (hlast "a" hname text "2: 3").1 (by decide +kernel)

end ByteStream.Icy
