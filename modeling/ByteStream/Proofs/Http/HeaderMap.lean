/-
# ByteStream.Proofs.Http.HeaderMap -- what the header map of a request is made of

The settings give the header map texts that it has to take: the name and the value of each field of
the caller, then the cookies. They are looked at in this order, and the first that is not legal is
the error. If all are, the map is the caller's fields in order, with the cookies and the wish for
in-band metadata put in the place of whatever the caller wrote under these two names, in whatever
case and at whatever place (`headerMap_carries`).

The names of the map are lower-case names of fields, each once, so a value of the caller's is met
under the lower-case form of its name and under no other.
-/

import ByteStream.Proofs.Http.IcyHeaders

namespace ByteStream.Http

namespace HeaderMap

theorem Canonical.insert {m : HeaderMap} (h : m.Canonical) {name : String}
    (hname : isFieldName name = true) (hlower : Text.lower name = name) (value : String) :
    (m.insert name value).Canonical where
  distinct := h.distinct.insert name value
  named := @forall_modifyGroup (isFieldName · = true) name hname _ _ h.named
  lowered := @forall_modifyGroup (fun name => Text.lower name = name) name hlower _ _ h.lowered

end HeaderMap

namespace Settings

/-! ## Errors -/

theorem refusal_eq_none_iff {parts : List Part} :
    refusal parts = none ↔ ∀ part ∈ parts, part.isLegal = true := by
  simp [refusal]

theorem refusal_eq_some_iff {parts : List Part} {e : HttpError} :
    refusal parts = some e ↔ ∃ before part after, parts = before ++ part :: after ∧
      (∀ earlier ∈ before, earlier.isLegal = true) ∧ part.isLegal = false ∧
      e = .invalidHeader part.text := by
  unfold refusal
  rw [Option.map_eq_some_iff]
  constructor
  · rintro ⟨part, hfind, rfl⟩
    obtain ⟨hpart, before, after, hparts, hbefore⟩ := List.find?_eq_some_iff_append.1 hfind
    exact ⟨before, part, after, hparts, by simpa using hbefore, by simpa using hpart, rfl⟩
  · rintro ⟨before, part, after, hparts, hbefore, hpart, rfl⟩
    refine ⟨part, List.find?_eq_some_iff_append.2 ⟨by simp [hpart], before, after, hparts, ?_⟩, rfl⟩
    simpa using hbefore

theorem forall_parts_iff (s : Settings) :
    (∀ part ∈ s.parts, part.isLegal = true) ↔
      (∀ field ∈ s.headers, isFieldName field.1 = true ∧ isFieldValue field.2 = true) ∧
        ∀ cookies, s.cookies = some cookies → isFieldValue cookies = true := by
  unfold parts
  rw [List.forall_mem_append, List.forall_mem_flatMap]
  refine and_congr ?_ ?_
  · exact forall₂_congr fun field _ => by simp [fieldParts, Part.isLegal]
  · simp [Part.isLegal]

theorem headerMap_error_iff {s : Settings} {e : HttpError} :
    s.headerMap = .error e ↔ refusal s.parts = some e := by
  rw [headerMap_eq]
  cases refusal s.parts with
  | some e' => simp
  | none => simp

/-! ## Names and values -/

variable {s : Settings}

/-- The names of the caller's fields are names in lower case, and so are the two of the backend. -/
theorem canonical_carried (h : ∀ field ∈ s.headers, isFieldName field.1 = true) :
    s.carried.Canonical := by
  have hcaller : (appendAll .empty s.headers).Canonical := by
    have hfields : appendAll .empty s.headers =
        HeaderMap.ofFields (s.headers.map fun field => (Text.lower field.1, field.2)) := by
      unfold appendAll HeaderMap.ofFields
      rw [List.foldl_map]
    rw [hfields]
    refine HeaderMap.canonical_ofFields fun field hfield => ?_
    obtain ⟨written, hwritten, rfl⟩ := List.mem_map.1 hfield
    exact ⟨isFieldName_lower (h written hwritten), lower_lower _⟩
  have hcookies : (putCookies (appendAll .empty s.headers) s.cookies).Canonical := by
    cases s.cookies with
    | none => exact hcaller
    | some value => exact hcaller.insert (by decide) (by decide) value
  unfold carried
  split
  · exact hcookies.insert (by decide) (by decide) _
  · exact hcookies

/-- **The header map is the caller's, but for cookies and metadata.** There is one exactly if every
name, every value and the cookies are legal; else the error names the first text that is not, the
name of a field before its value and the fields before the cookies. In the map, names are in lower
case and stand once. Under a name stand the values that the caller gave it in any case, in order;
but cookies that are set, and the wish for metadata if there is one, are the only values of their
names. -/
theorem headerMap_carries (s : Settings) :
    ((∃ m, s.headerMap = .ok m) ↔
      (∀ field ∈ s.headers, isFieldName field.1 = true ∧ isFieldValue field.2 = true) ∧
        ∀ cookies, s.cookies = some cookies → isFieldValue cookies = true) ∧
    (∀ e, s.headerMap = .error e ↔ ∃ before part after, s.parts = before ++ part :: after ∧
      (∀ earlier ∈ before, earlier.isLegal = true) ∧ part.isLegal = false ∧
      e = .invalidHeader part.text) ∧
    ∀ m, s.headerMap = .ok m → m.Canonical ∧
      (∀ name, name ≠ cookieName → name ≠ icyRequest.1 → m.values name = s.callerValues name) ∧
      m.values cookieName = s.cookies.elim (s.callerValues cookieName) (fun value => [value]) ∧
      m.values icyRequest.1 =
        if s.icy then [icyRequest.2] else s.callerValues icyRequest.1 := by
  refine ⟨?_, fun e => headerMap_error_iff.trans refusal_eq_some_iff, ?_⟩
  · rw [← forall_parts_iff, ← refusal_eq_none_iff]
    simp only [headerMap_ok_iff, exists_and_left, exists_eq, and_true]
  · intro m hm
    obtain ⟨hlegal, rfl⟩ := headerMap_ok_iff.1 hm
    have hfields := ((forall_parts_iff s).1 (refusal_eq_none_iff.1 hlegal)).1
    have hdifferent : cookieName ≠ icyRequest.1 := by decide
    refine ⟨canonical_carried fun field hfield => (hfields field hfield).1, ?_, ?_, ?_⟩
    · intro name hcookie hicy
      rw [values_carried, if_neg fun hboth => hicy hboth.2, if_neg hcookie]
    · rw [values_carried, if_neg fun hboth => hdifferent hboth.2, if_pos rfl]
    · rw [values_carried, if_neg hdifferent.symm]
      simp only [and_true]

/-- Fields of the caller that collide with one another and with those of the backend. -/
def colliding : Settings where
  cookies := some "a=1"
  headers := [("X-Tag", "1"), ("COOKIE", "b=2"), ("Icy-MetaData", "0"), ("x-tag", "2")]
  icy := true

/-- A value that is not legal, before a name that is not. -/
def illegal : Settings where
  headers := [("X-Tag", "1"), ("X-Lines", "one\ntwo"), ("two words", "")]

theorem headerMap_carries_colliding :
    (∃ m, colliding.headerMap = .ok m ∧ m.values "x-tag" = ["1", "2"] ∧
      m.values "cookie" = ["a=1"] ∧ m.values "icy-metadata" = ["1"]) ∧
    illegal.headerMap = .error (.invalidHeader "one\ntwo") := by
  constructor
  · obtain ⟨hsome, -, hcarried⟩ := headerMap_carries colliding
    obtain ⟨m, hm⟩ := hsome.2 ⟨by decide, by decide⟩
    obtain ⟨-, hcaller, hcookie, hicy⟩ := hcarried m hm
    have htags : colliding.callerValues "x-tag" = ["1", "2"] := by decide
    exact ⟨m, hm, (hcaller _ (by decide) (by decide)).trans htags, hcookie, hicy⟩
  · refine ((headerMap_carries illegal).2.1 _).2 ?_
    exact ⟨[.name "X-Tag", .value "1", .name "X-Lines"], .value "one\ntwo",
      [.name "two words", .value ""], rfl, by decide, by decide, rfl⟩

end Settings

end ByteStream.Http
