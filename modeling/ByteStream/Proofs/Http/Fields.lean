/-
# ByteStream.Proofs.Http.Fields -- the fields of a request, by name

A header map that was built up field by field has each name once. What a request carries under a
name is then what the map has under it, in order: a server reads the values with the blanks around
them cut off, and it does not matter that the names were sorted on the way (`values_ofFields`).

The map of a connection starts from the fields of the caller. The texts that it has to take are
looked at in order, and if all are legal it is the map of all of them (`headerMap_eq`). Six names
are looked after by the backend itself; under every other name the map has what the caller wrote
(`prepare_ok`).
-/

import ByteStream.Http.Backend
import ByteStream.Proofs.General

namespace ByteStream.Http

namespace HeaderMap

/-! ## Each name once -/

theorem distinct_empty : empty.Distinct := List.nodup_nil

theorem names_modifyGroup (name : String) (f : List String → List String)
    (gs : List (String × List String)) :
    (modifyGroup name f gs).map Prod.fst =
      if name ∈ gs.map Prod.fst then gs.map Prod.fst else gs.map Prod.fst ++ [name] := by
  -- The name is met in front, or whether it is met is decided by the rest.
  induction gs with
  | nil => rfl
  | cons g rest ih =>
    obtain ⟨n, vs⟩ := g
    by_cases hn : n = name
    · subst hn
      simp [modifyGroup]
    · rw [modifyGroup, if_neg hn, List.map_cons, ih]
      by_cases hmem : name ∈ rest.map Prod.fst
      · rw [if_pos hmem, List.map_cons, if_pos (List.mem_cons_of_mem _ hmem)]
      · have hnot : name ∉ (((n, vs) :: rest).map Prod.fst) := by
          rw [List.map_cons, List.mem_cons]
          rintro (heq | hin)
          · exact hn heq.symm
          · exact hmem hin
        rw [if_neg hmem, if_neg hnot]
        rfl

theorem nodup_names_modifyGroup {gs : List (String × List String)} (h : (gs.map Prod.fst).Nodup)
    (name : String) (f : List String → List String) :
    ((modifyGroup name f gs).map Prod.fst).Nodup := by
  rw [names_modifyGroup]
  split
  · exact h
  · rename_i hname
    rw [List.nodup_append]
    refine ⟨h, List.pairwise_singleton _ name, ?_⟩
    intro a ha b hb heq
    rw [List.mem_singleton] at hb
    exact hname (hb ▸ heq ▸ ha)

variable {m : HeaderMap}

theorem Distinct.append (h : m.Distinct) (name value : String) : (m.append name value).Distinct :=
  nodup_names_modifyGroup h name _

theorem Distinct.insert (h : m.Distinct) (name value : String) : (m.insert name value).Distinct :=
  nodup_names_modifyGroup h name _

theorem Distinct.offer (h : m.Distinct) (name value : String) : (m.offer name value).Distinct := by
  unfold HeaderMap.offer
  split
  · exact h
  · exact h.append name value

theorem Distinct.erase (h : m.Distinct) (name : String) : (m.erase name).Distinct :=
  h.sublist (List.filter_sublist.map _)

/-! ## Values by name -/

theorem values_offer_other {name other : String} (h : other ≠ name) (value : String) :
    (m.offer name value).values other = m.values other := by
  unfold offer
  split
  · rfl
  · exact values_append_other m h value

theorem values_erase_other {name other : String} (h : other ≠ name) :
    (m.erase name).values other = m.values other := by
  unfold values erase
  rw [lookup_filter_ne h]

end HeaderMap

/-! ## What the server reads -/

/-- The values of the fields of a name, in order. -/
def Request.values (r : Request) (name : String) : List String :=
  (r.fields.filter fun field => field.1 == name).map Prod.snd

/-- The values of the fields of a name are those of its groups, whatever is done to them. -/
theorem filter_fields_of_groups (f : String → String) (name : String)
    (gs : List (String × List String)) :
    (((gs.flatMap fun (n, vs) => vs.map fun value => (n, value)).map fun (n, value) =>
        (n, f value)).filter fun field => field.1 == name).map Prod.snd =
      (gs.filter fun g => g.1 == name).flatMap fun g => g.2.map f := by
  induction gs with
  | nil => rfl
  | cons g rest ih =>
    obtain ⟨n, vs⟩ := g
    simp only [List.flatMap_cons, List.map_append, List.filter_append, ih, List.map_map]
    by_cases hn : n = name
    · rw [List.filter_cons_of_pos (by simp [hn]), List.flatMap_cons]
      congr 1
      rw [List.filter_eq_self.2 (by simp [hn]), List.map_map]
      rfl
    · rw [List.filter_cons_of_neg (by simp [hn])]
      have hnone : ((vs.map ((fun field : String × String => (field.1, f field.2)) ∘
          fun value => (n, value))).filter fun field => field.1 == name) = [] := by
        rw [List.filter_eq_nil_iff]
        intro field hfield
        obtain ⟨value, -, rfl⟩ := List.mem_map.1 hfield
        simp [hn]
      exact congrArg (· ++ _) (congrArg (List.map Prod.snd) hnone)

/-- A server reads under a name what the map has under it, once the server is named. -/
theorem values_ofFields {m : HeaderMap} (h : m.Distinct) (url : Url) (name : String) :
    (Request.ofFields url m).values name =
      ((m.offer hostName url.authority).values name).map stripped := by
  have hoffered := h.offer hostName url.authority
  show (((HeaderMap.sorted _).map fun (n, value) => (n, stripped value)).filter _).map _ = _
  rw [HeaderMap.sorted, filter_fields_of_groups, filter_fst_mergeSort hoffered,
    filter_fst_eq_lookup hoffered, HeaderMap.values]
  cases (m.offer hostName url.authority).groups.lookup name with
  | none => rfl
  | some vs => simp

/-- Under other names it is what the map had before. -/
theorem values_ofFields_other {m : HeaderMap} (h : m.Distinct) (url : Url) {name : String}
    (hname : name ≠ hostName) :
    (Request.ofFields url m).values name = (m.values name).map stripped := by
  rw [values_ofFields h, HeaderMap.values_offer_other hname]

/-! ## The map of a connection -/

namespace Settings

/-- The values that the caller's fields give a name, in order. -/
def callerValues (s : Settings) (name : String) : List String :=
  (s.headers.filter fun field => Text.lower field.1 == name).map Prod.snd

/-! ### The texts that are looked at -/

/-- A text that the header map has to take, and what it has to be. -/
inductive Part
  | name (text : String)
  | value (text : String)
deriving DecidableEq, Repr

namespace Part

def text : Part → String
  | .name text => text
  | .value text => text

def isLegal : Part → Bool
  | .name text => isFieldName text
  | .value text => isFieldValue text

end Part

/-- The name of a field comes before its value. -/
def fieldParts (field : String × String) : List Part := [.name field.1, .value field.2]

/-- The texts in the order in which they are looked at. -/
def parts (s : Settings) : List Part :=
  s.headers.flatMap fieldParts ++ s.cookies.toList.map .value

/-- The error that texts give: it names the first that is not legal. -/
def refusal (parts : List Part) : Option HttpError :=
  (parts.find? fun part => !part.isLegal).map fun part => .invalidHeader part.text

theorem refusal_append (before after : List Part) :
    refusal (before ++ after) = (refusal before).or (refusal after) := by
  unfold refusal
  rw [List.find?_append, Option.map_or]

/-! ### The map that comes of them -/

/-- The fields under lower-case names, behind those of a map. -/
def appendAll (m : HeaderMap) (fields : List (String × String)) : HeaderMap :=
  fields.foldl (fun m field => m.append (Text.lower field.1) field.2) m

/-- The map with the cookies in their place, if there are any. -/
def putCookies (m : HeaderMap) (cookies : Option String) : HeaderMap :=
  cookies.elim m (m.insert cookieName)

/-- The map with the two fields of the backend in place of the caller's. -/
def carried (s : Settings) : HeaderMap :=
  let m := putCookies (appendAll .empty s.headers) s.cookies
  if s.icy then m.insert icyRequest.1 icyRequest.2 else m

theorem appendField_eq (m : HeaderMap) (field : String × String) :
    appendField m field = (refusal (fieldParts field)).elim
      (.ok (m.append (Text.lower field.1) field.2)) .error := by
  unfold appendField refusal fieldParts
  cases hname : isFieldName field.1 with
  | false => simp [Part.isLegal, Part.text, hname]
  | true => cases hvalue : isFieldValue field.2 <;> simp [Part.isLegal, Part.text, hname, hvalue]

/-- The first field that is not legal decides, and its own first text. -/
theorem appendFields_eq (m : HeaderMap) (fields : List (String × String)) :
    appendFields m fields = (refusal (fields.flatMap fieldParts)).elim
      (.ok (appendAll m fields)) .error := by
  induction fields generalizing m with
  | nil => rfl
  | cons field rest ih =>
    rw [appendFields, appendField_eq, List.flatMap_cons, refusal_append]
    cases refusal (fieldParts field) with
    | some e => rfl
    | none => exact ih _

theorem withCookies_eq (m : HeaderMap) (cookies : Option String) :
    withCookies m cookies = (refusal (cookies.toList.map .value)).elim
      (.ok (putCookies m cookies)) .error := by
  cases cookies with
  | none => rfl
  | some value =>
    unfold withCookies refusal
    cases hvalue : isFieldValue value <;> simp [Part.isLegal, Part.text, hvalue, putCookies]

/-- The texts are looked at in order, and the map is that of all of them. -/
theorem headerMap_eq (s : Settings) :
    s.headerMap = (refusal s.parts).elim (.ok s.carried) .error := by
  rw [headerMap, appendFields_eq, parts, refusal_append]
  cases refusal (s.headers.flatMap fieldParts) with
  | some e => rfl
  | none =>
    dsimp only [Option.elim]
    rw [withCookies_eq]
    cases refusal (s.cookies.toList.map .value) with
    | some e => rfl
    | none => rfl

theorem headerMap_ok_iff {s : Settings} {m : HeaderMap} :
    s.headerMap = .ok m ↔ refusal s.parts = none ∧ m = s.carried := by
  rw [headerMap_eq]
  cases refusal s.parts with
  | some e => simp
  | none => simp [eq_comm]

/-! ### Its names and values -/

/-- Fields that are appended come, name by name, behind the ones that are there. -/
theorem values_appendAll (m : HeaderMap) (fields : List (String × String)) (name : String) :
    (appendAll m fields).values name = m.values name ++
      (fields.filter fun field => Text.lower field.1 == name).map Prod.snd := by
  induction fields generalizing m with
  | nil => exact (List.append_nil _).symm
  | cons field rest ih =>
    show (appendAll (m.append (Text.lower field.1) field.2) rest).values name = _
    rw [ih]
    by_cases hname : Text.lower field.1 = name
    · rw [List.filter_cons_of_pos (by simp [hname]), hname, HeaderMap.values_append_same,
        List.map_cons, List.append_assoc]
      rfl
    · rw [List.filter_cons_of_neg (by simp [hname]),
        HeaderMap.values_append_other _ (Ne.symm hname)]

theorem distinct_appendAll {m : HeaderMap} (h : m.Distinct) (fields : List (String × String)) :
    (appendAll m fields).Distinct := by
  induction fields generalizing m with
  | nil => exact h
  | cons field rest ih => exact ih (h.append _ _)

/-- What stands under a name: the wish for metadata and the cookies if they are there, else what
the caller wrote. -/
theorem values_carried (s : Settings) (name : String) :
    s.carried.values name =
      if s.icy = true ∧ name = icyRequest.1 then [icyRequest.2]
      else if name = cookieName then s.cookies.elim (s.callerValues name) fun value => [value]
      else s.callerValues name := by
  have hcaller : (appendAll .empty s.headers).values name = s.callerValues name :=
    values_appendAll .empty s.headers name
  have hcookies : (putCookies (appendAll .empty s.headers) s.cookies).values name =
      if name = cookieName then s.cookies.elim (s.callerValues name) fun value => [value]
      else s.callerValues name := by
    cases s.cookies with
    | none => simpa [putCookies] using hcaller
    | some value =>
      by_cases hname : name = cookieName
      · rw [if_pos hname, hname]
        exact HeaderMap.values_insert_same _ _ _
      · rw [if_neg hname, ← hcaller]
        exact HeaderMap.values_insert_other _ hname _
  unfold carried
  dsimp only
  by_cases hicy : s.icy = true
  · rw [if_pos hicy]
    by_cases hname : name = icyRequest.1
    · rw [if_pos ⟨hicy, hname⟩, hname]
      exact HeaderMap.values_insert_same _ _ _
    · rw [if_neg fun hboth => hname hboth.2, ← hcookies]
      exact HeaderMap.values_insert_other _ hname _
  · rw [if_neg hicy, if_neg fun hboth => hicy hboth.1]
    exact hcookies

theorem distinct_carried (s : Settings) : s.carried.Distinct := by
  have hcaller := distinct_appendAll HeaderMap.distinct_empty s.headers
  have hcookies : (putCookies (appendAll .empty s.headers) s.cookies).Distinct := by
    cases s.cookies with
    | none => exact hcaller
    | some value => exact hcaller.insert _ value
  unfold carried
  split
  · exact hcookies.insert _ _
  · exact hcookies

/-- Under names other than the two that are put in place, the map has what the caller wrote. -/
theorem headerMap_ok {s : Settings} {m : HeaderMap} (h : s.headerMap = .ok m) :
    m.Distinct ∧ ∀ name, name ≠ cookieName → name ≠ icyRequest.1 →
      m.values name = s.callerValues name := by
  obtain ⟨-, rfl⟩ := headerMap_ok_iff.1 h
  refine ⟨s.distinct_carried, fun name hcookie hicy => ?_⟩
  rw [values_carried, if_neg fun hboth => hicy hboth.2, if_neg hcookie]

end Settings

/-- The names that the backend looks after by itself. -/
def ownNames : List String :=
  [Settings.cookieName, Settings.icyRequest.1, (credentialsField "" none).1, acceptField.1,
    agentName, codingName]

theorem distinct_baseFields {m : HeaderMap} (h : m.Distinct)
    (credentials : Option (String × Option String)) (agent : Option String) :
    (baseFields m credentials agent).Distinct := by
  refine HeaderMap.Distinct.erase ?_ codingName
  cases agent with
  | none =>
    cases credentials with
    | none => exact h.offer ..
    | some _ => exact (h.offer ..).offer ..
  | some _ =>
    cases credentials with
    | none => exact (h.offer ..).offer ..
    | some _ => exact ((h.offer ..).offer ..).offer ..

theorem values_baseFields (m : HeaderMap) (credentials : Option (String × Option String))
    (agent : Option String) {name : String} (hname : name ∉ ownNames) :
    (baseFields m credentials agent).values name = m.values name := by
  simp only [ownNames, List.mem_cons, List.not_mem_nil, or_false, not_or] at hname
  obtain ⟨-, -, hcredentials, haccept, hagent, hcoding⟩ := hname
  unfold baseFields
  rw [HeaderMap.values_erase_other hcoding]
  have haccepted : ∀ m : HeaderMap, (m.offer acceptField.1 acceptField.2).values name =
      m.values name := fun _ => HeaderMap.values_offer_other haccept _
  have hsigned : ∀ (m : HeaderMap) (user : String) (password : Option String),
      (m.offer (credentialsField user password).1 (credentialsField user password).2).values name =
        m.values name := fun _ _ _ => HeaderMap.values_offer_other hcredentials _
  have hnamed : ∀ (m : HeaderMap) (value : String),
      (m.offer agentName value).values name = m.values name :=
    fun _ _ => HeaderMap.values_offer_other hagent _
  cases agent with
  | none =>
    cases credentials with
    | none => exact haccepted m
    | some signed => exact (haccepted _).trans (hsigned m signed.1 signed.2)
  | some value =>
    cases credentials with
    | none => exact (hnamed _ value).trans (haccepted m)
    | some signed =>
      exact ((hnamed _ value).trans (haccepted _)).trans (hsigned m signed.1 signed.2)

/-- The fields of every request have each name once, and under a name that the backend does not
look after they have what the caller wrote. -/
theorem prepare_ok {files : Files} {url : Url} {s : Settings} {base : HeaderMap}
    (h : prepare files url s = .ok base) :
    base.Distinct ∧ ∀ name, name ∉ ownNames → base.values name = s.callerValues name := by
  unfold prepare at h
  split at h
  · exact absurd h (by simp)
  · split at h
    · exact absurd h (by simp)
    · rename_i m hmap
      obtain ⟨hdistinct, hvalues⟩ := Settings.headerMap_ok hmap
      obtain rfl := Except.ok.inj h
      refine ⟨distinct_baseFields hdistinct _ _, fun name hname => ?_⟩
      have hcookie : name ≠ Settings.cookieName := fun heq => hname (by simp [ownNames, heq])
      have hicy : name ≠ Settings.icyRequest.1 := fun heq => hname (by simp [ownNames, heq])
      rw [values_baseFields m _ _ hname, hvalues name hcookie hicy]

end ByteStream.Http
