/-
# ByteStream.Proofs.Http.IcyHeaders -- the header lines of a radio, written and read back

The metadata fields of an answer are handed on as one text of lines and are read out of that text
again. Where the names are names of fields, which those of every answer that was received are
(`canonical_of_received`), what is read is what the answer had, field for field
(`headerFields_headerText`). Fields with a value that ASCII cannot show are no metadata fields:
they are left out before anything is written.
-/

import ByteStream.Http.Answer
import ByteStream.Http.Connection
import ByteStream.Icy.Title
import ByteStream.Proofs.Http.Fields

namespace ByteStream.Http

open Text

/-! ## Maps as answers have them -/

namespace HeaderMap

/-- Every name can be the name of a field. -/
def Named (m : HeaderMap) : Prop := ∀ group ∈ m.groups, isFieldName group.1 = true

/-- Every name can be the name of a field, is in lower case and stands once. -/
structure Canonical (m : HeaderMap) : Prop where
  distinct : m.Distinct
  named : m.Named
  lowered : ∀ group ∈ m.groups, lower group.1 = group.1

/-- What holds of the names of a map and of one more name holds of all names with it. -/
theorem forall_modifyGroup {holds : String → Prop} {name : String} (hname : holds name)
    (f : List String → List String) {gs : List (String × List String)}
    (h : ∀ group ∈ gs, holds group.1) : ∀ group ∈ modifyGroup name f gs, holds group.1 := by
  induction gs with
  | nil => simpa [modifyGroup] using hname
  | cons g rest ih =>
    obtain ⟨hg, hrest⟩ := List.forall_mem_cons.1 h
    unfold modifyGroup
    split
    · exact List.forall_mem_cons.2 ⟨hg, hrest⟩
    · exact List.forall_mem_cons.2 ⟨hg, ih hrest⟩

theorem forall_foldl {holds : String → Prop} {fields : List (String × String)}
    (hfields : ∀ field ∈ fields, holds field.1) {m : HeaderMap}
    (h : ∀ group ∈ m.groups, holds group.1) :
    ∀ group ∈ (fields.foldl (fun m (name, value) => m.append name value) m).groups,
      holds group.1 := by
  induction fields generalizing m with
  | nil => exact h
  | cons field rest ih =>
    obtain ⟨hfield, hrest⟩ := List.forall_mem_cons.1 hfields
    exact ih hrest (forall_modifyGroup hfield _ h)

theorem forall_ofFields (holds : String → Prop) {fields : List (String × String)}
    (hfields : ∀ field ∈ fields, holds field.1) :
    ∀ group ∈ (ofFields fields).groups, holds group.1 :=
  forall_foldl hfields (by simp [empty])

theorem distinct_foldl (fields : List (String × String)) {m : HeaderMap} (h : m.Distinct) :
    (fields.foldl (fun m (name, value) => m.append name value) m).Distinct := by
  induction fields generalizing m with
  | nil => exact h
  | cons field rest ih => exact ih (h.append field.1 field.2)

theorem canonical_ofFields {fields : List (String × String)}
    (h : ∀ field ∈ fields, isFieldName field.1 = true ∧ lower field.1 = field.1) :
    (ofFields fields).Canonical where
  distinct := distinct_foldl fields distinct_empty
  named := forall_ofFields (isFieldName · = true) fun field hfield => (h field hfield).1
  lowered := forall_ofFields (fun name => lower name = name) fun field hfield => (h field hfield).2

theorem Named.of_mem_fields {m : HeaderMap} (h : m.Named) {field : String × String}
    (hfield : field ∈ m.fields) : isFieldName field.1 = true := by
  unfold fields at hfield
  obtain ⟨group, hgroup, hvalue⟩ := List.mem_flatMap.1 hfield
  obtain ⟨value, -, rfl⟩ := List.mem_map.1 hvalue
  exact h group hgroup

end HeaderMap

theorem isTokenChar_toLower {c : Char} (h : isTokenChar c = true) :
    isTokenChar c.toLower = true := by
  by_cases hupper : c.val ≥ 'A'.val ∧ c.val ≤ 'Z'.val
  · show ((_ || c.toLower.isLower || _) || _) = true
    rw [isLower_toLower hupper, Bool.or_true, Bool.true_or, Bool.true_or]
  · unfold Char.toLower
    rwa [dif_neg hupper]

theorem isFieldName_lower {name : String} (h : isFieldName name = true) :
    isFieldName (lower name) = true := by
  simp only [isFieldName, toList_lower, Bool.and_eq_true, List.isEmpty_map, List.length_map,
    List.all_map] at h ⊢
  refine ⟨h.1, ?_⟩
  rw [List.all_eq_true] at h ⊢
  exact fun c hc => isTokenChar_toLower (h.2 c hc)

theorem lower_lower (name : String) : lower (lower name) = lower name := by
  rw [lower, toList_lower, List.map_map, lower]
  congr 1
  exact List.map_congr_left fun c _ => toLower_toLower c

/-- The name that is read of a line is the name of a field, in lower case. -/
theorem legal_of_field? {line : List Char} {field : String × String}
    (h : Head.field? line = some field) :
    isFieldName field.1 = true ∧ lower field.1 = field.1 := by
  unfold Head.field? at h
  split at h
  · exact absurd h (by simp)
  · dsimp only at h
    split at h
    · rename_i hlegal
      rw [Bool.and_eq_true] at hlegal
      rw [← Option.some.inj h]
      exact ⟨isFieldName_lower hlegal.1, lower_lower _⟩
    · exact absurd h (by simp)

theorem legal_of_mapM {lines : List (List Char)} {fields : List (String × String)}
    (h : lines.mapM Head.field? = some fields) :
    ∀ field ∈ fields, isFieldName field.1 = true ∧ lower field.1 = field.1 := by
  induction lines generalizing fields with
  | nil =>
    rw [List.mapM_nil] at h
    rw [← Option.some.inj h]
    simp
  | cons line rest ih =>
    simp only [List.mapM_cons, Option.bind_eq_bind, Option.bind_eq_some_iff, Option.pure_def,
      Option.some.injEq] at h
    obtain ⟨field, hfield, more, hmore, rfl⟩ := h
    exact List.forall_mem_cons.2 ⟨legal_of_field? hfield, ih hmore⟩

/-- The fields that are read from a head have names of fields, in lower case and once each. -/
theorem canonical_of_read {cs behind : List Char} {m : HeaderMap}
    (h : Head.read cs = some (m, behind)) : m.Canonical := by
  unfold Head.read at h
  split at h
  · exact absurd h (by simp)
  · rename_i lines _ _
    split at h
    · exact absurd h (by simp)
    · obtain ⟨fields, hfields, hm⟩ := Option.map_eq_some_iff.1 h
      rw [← (Prod.mk.inj hm).1]
      exact HeaderMap.canonical_ofFields (legal_of_mapM hfields)

/-- So do those of every answer that is received. -/
theorem canonical_of_received {a : Answer} {r : Response} (h : a.received = .respond r) :
    r.headers.Canonical := by
  unfold Answer.received at h
  split at h
  · exact absurd h (by simp)
  · split at h
    · exact absurd h (by simp)
    · rename_i m behind hread
      have hheaders : r.headers = m := by
        unfold Answer.receivedBehind at h
        split at h
        · split at h <;> exact absurd h (by simp)
        · split at h
          · exact absurd h (by simp)
          · rw [← Reaction.respond.inj h]
      rw [hheaders]
      exact canonical_of_read hread

/-! ## Metadata fields -/

/-- A metadata field: the name has the mark, and ASCII can show the value. -/
def isIcyField (field : String × String) : Bool :=
  startsWith icyMark.toList field.1.toList && isVisible field.2

/-- The metadata fields of an answer, equal names together. -/
def icyFields (m : HeaderMap) : List (String × String) := m.fields.filter isIcyField

/-- The characters of the line of a field, without the line end. -/
def icyLine (field : String × String) : List Char :=
  field.1.toList ++ Icy.fieldMark.toList ++ field.2.toList

theorem toList_icyLine? {field : String × String} (h : isIcyField field = true) :
    ∃ text, icyLine? field = some text ∧ text.toList = icyLine field ++ ['\n'] := by
  refine ⟨field.1 ++ ": " ++ field.2 ++ "\n", if_pos h, ?_⟩
  simp only [String.toList_append, icyLine]
  rfl

/-- The text that is handed on is the lines of the metadata fields. -/
theorem headerText_eq (m : HeaderMap) :
    ((icyHeaders? m).getD "").toList =
      (icyFields m).flatMap fun field => icyLine field ++ ['\n'] := by
  have hlines (fields : List (String × String)) :
      (fields.filterMap icyLine?).flatMap String.toList =
        (fields.filter isIcyField).flatMap fun field => icyLine field ++ ['\n'] := by
    induction fields with
    | nil => rfl
    | cons field rest ih =>
      cases hicy : isIcyField field with
      | true =>
        obtain ⟨text, hsome, htext⟩ := toList_icyLine? hicy
        rw [List.filterMap_cons_some hsome, List.filter_cons_of_pos hicy, List.flatMap_cons,
          List.flatMap_cons, htext, ih]
      | false =>
        have hnone : icyLine? field = none := if_neg (by simpa [isIcyField] using hicy)
        rw [List.filterMap_cons_none hnone, List.filter_cons_of_neg (by simp [hicy]), ih]
  rw [icyFields, ← hlines]
  unfold icyHeaders?
  dsimp only
  cases m.fields.filterMap icyLine? with
  | nil => rfl
  | cons text rest => exact String.toList_join

/-- A line of a metadata field holds no line end. -/
theorem not_mem_icyLine {field : String × String} (hname : isFieldName field.1 = true)
    (hvalue : isVisible field.2 = true) {c : Char} (hc : c = '\n' ∨ c = '\r') :
    c ∉ icyLine field := by
  have htoken : isTokenChar c = false := by rcases hc with rfl | rfl <;> decide
  have hmark : c ∉ Icy.fieldMark.toList := by rcases hc with rfl | rfl <;> decide
  have hhidden : (c == '\t' || (' ' ≤ c && c ≤ '~')) = false := by
    rcases hc with rfl | rfl <;> decide
  simp only [icyLine, List.mem_append, not_or]
  refine ⟨⟨Head.not_mem_name hname htoken, hmark⟩, ?_⟩
  intro hmem
  rw [isVisible, List.all_eq_true] at hvalue
  exact absurd ((hvalue c hmem).symm.trans hhidden) (by simp)

/-- It reads as the field. -/
theorem field?_icyLine {field : String × String} (hname : isFieldName field.1 = true)
    (hvalue : isVisible field.2 = true) : Icy.field? (icyLine field) = some field := by
  have hbare : Icy.bareLine (icyLine field) = icyLine field := by
    apply trimEnd_eq_self
    intro c hlast
    have hmem : c ∈ icyLine field := List.mem_of_getLast? hlast
    rw [beq_eq_false_iff_ne]
    rintro rfl
    exact not_mem_icyLine hname hvalue (.inr rfl) hmem
  have hcut : cutAtText Icy.fieldMark.toList (icyLine field) =
      some (field.1.toList, field.2.toList) :=
    @cutAtText_append ':' [' '] _ (Head.not_mem_name hname (by decide)) _
  rw [Icy.field?, hbare, hcut, Option.map_some]
  dsimp only
  rw [String.ofList_toList, String.ofList_toList]

/-- What is read out of the text are the metadata fields. -/
theorem headerFields_headerText {m : HeaderMap} (h : m.Named) :
    Icy.headerFields ((icyHeaders? m).getD "") = icyFields m := by
  have hlegal : ∀ field ∈ icyFields m,
      isFieldName field.1 = true ∧ isVisible field.2 = true := by
    intro field hfield
    obtain ⟨hmem, hicy⟩ := List.mem_filter.1 hfield
    rw [isIcyField, Bool.and_eq_true] at hicy
    exact ⟨h.of_mem_fields hmem, hicy.2⟩
  rw [Icy.headerFields, headerText_eq]
  generalize icyFields m = fields at hlegal
  induction fields with
  | nil => rfl
  | cons field rest ih =>
    obtain ⟨⟨hname, hvalue⟩, hrest⟩ := List.forall_mem_cons.1 hlegal
    rw [List.flatMap_cons, List.append_assoc, List.singleton_append,
      pieces_line_append (not_mem_icyLine hname hvalue (.inl rfl))
        (not_mem_icyLine hname hvalue (.inr rfl)),
      List.filterMap_cons_some (field?_icyLine hname hvalue), ih hrest]

theorem mem_fields_of_get? {m : HeaderMap} {name value : String} (h : m.get? name = some value) :
    (name, value) ∈ m.fields := by
  rw [HeaderMap.get?, HeaderMap.values, List.head?_eq_some_iff] at h
  obtain ⟨rest, hvalues⟩ := h
  cases hlookup : m.groups.lookup name with
  | none =>
    rw [hlookup] at hvalues
    exact absurd hvalues (by simp)
  | some values =>
    rw [hlookup] at hvalues
    obtain ⟨before, behind, hgroups, -⟩ := List.lookup_eq_some_iff.1 hlookup
    refine List.mem_flatMap.2 ⟨(name, values), by rw [hgroups]; simp, ?_⟩
    exact List.mem_map.2 ⟨value, by rw [show values = value :: rest from hvalues]; simp, rfl⟩

/-- The field that announces an interval is a metadata field itself. -/
theorem headerText_ne_empty {m : HeaderMap} {interval : Nat} (h : icyInterval? m = some interval) :
    (icyHeaders? m).getD "" ≠ "" := by
  obtain ⟨value, hvalue, -⟩ := Option.bind_eq_some_iff.1 h
  obtain ⟨hfirst, hvisible⟩ := Option.filter_eq_some_iff.1 hvalue
  have hmark : startsWith icyMark.toList "icy-metaint".toList = true := by decide
  have hmem : ("icy-metaint", value) ∈ icyFields m := by
    refine List.mem_filter.2 ⟨mem_fields_of_get? hfirst, ?_⟩
    rw [isIcyField, Bool.and_eq_true]
    exact ⟨hmark, hvisible⟩
  intro hempty
  have htext := headerText_eq m
  rw [hempty] at htext
  have hline := List.flatMap_eq_nil_iff.1 htext.symm _ hmem
  exact absurd hline (by simp)

end ByteStream.Http
