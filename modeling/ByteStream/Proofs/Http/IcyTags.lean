/-
# ByteStream.Proofs.Http.IcyTags -- the tags that the header fields of a radio make

The metadata fields of an answer are written as lines and read back as tags. Fields of one name
come together, and a tag holds what was set last, so under each name that has the mark a radio's
tag is the last of its values that ASCII can show; a title comes on top. Which of two names came
first makes no difference (`tags_of_header_fields`). The names of an answer are lower-case and
stand once each (`canonical_of_received`), so no two of them meet in one tag.
-/

import ByteStream.Proofs.Http.Fields
import ByteStream.Proofs.Http.IcyHeaders
import ByteStream.Proofs.Icy.HeaderText
import ByteStream.Proofs.Tags.Equality

namespace ByteStream.Http

open Text

/-! ## Values by name -/

namespace HeaderMap

variable {m : HeaderMap}

theorem Canonical.lowered_of_mem (h : m.Canonical) {name value : String}
    (hfield : (name, value) ∈ m.fields) : lower name = name := by
  obtain ⟨group, hgroup, hvalue⟩ := List.mem_flatMap.1 hfield
  obtain ⟨_, -, heq⟩ := List.mem_map.1 hvalue
  rw [← (Prod.mk.inj heq).1, h.lowered group hgroup]

/-- The fields of a name have the values that the map has under it. -/
theorem map_snd_filter_fields (h : m.Distinct) (name : String) :
    (m.fields.filter fun field => field.1 == name).map (·.2) = m.values name := by
  have hvalues := filter_fields_of_groups id name m.groups
  rw [show (fun field : String × String => (field.1, id field.2)) = id from rfl, List.map_id,
    filter_fst_eq_lookup h] at hvalues
  rw [fields, hvalues, values]
  cases m.groups.lookup name with
  | none => rfl
  | some vs => simp

/-- The order of the groups makes no difference to the values. -/
theorem values_of_perm {other : HeaderMap} (hother : other.Distinct) (h : m.Distinct)
    (hperm : other.groups.Perm m.groups) (name : String) : other.values name = m.values name := by
  -- there is at most one group of a name, so that there is nothing to rearrange
  have hgroup := hperm.filter fun group => group.1 == name
  rw [filter_fst_eq_lookup hother, filter_fst_eq_lookup h] at hgroup
  cases ho : other.groups.lookup name with
  | none =>
      cases hm : m.groups.lookup name with
      | none => rw [values, values, ho, hm]
      | some vs => exact absurd hgroup.length_eq (by simp [ho, hm])
  | some ws =>
      cases hm : m.groups.lookup name with
      | none => exact absurd hgroup.length_eq (by simp [ho, hm])
      | some vs =>
          rw [ho, hm] at hgroup
          have hsame : (name, ws) = (name, vs) :=
            (List.cons.inj (List.perm_singleton.1 hgroup)).1
          rw [values, values, ho, hm, (Prod.mk.inj hsame).2]

theorem Canonical.of_perm {other : HeaderMap} (h : m.Canonical)
    (hperm : other.groups.Perm m.groups) : other.Canonical where
  distinct := (hperm.map Prod.fst).nodup_iff.2 h.distinct
  named group hgroup := h.named group (hperm.mem_iff.1 hgroup)
  lowered group hgroup := h.lowered group (hperm.mem_iff.1 hgroup)

end HeaderMap

/-! ## Tags by name -/

/-- What a map announces under a name: if the name has the mark, the last of its values that ASCII
can show. -/
def announced (m : HeaderMap) (name : String) : Option String :=
  if startsWith icyMark.toList name.toList then ((m.values name).filter isVisible).getLast?
  else none

/-- What a listener is told under a name: the title of the packet under its own name, else what
the map announces. -/
def toldOf (m : HeaderMap) (packet name : String) : Option String :=
  (if name = Icy.titleTag then Icy.title? packet else none).or (announced m name)

variable {m : HeaderMap}

theorem lastValue_icyFields (h : m.Canonical) (name : String) :
    Entries.lastValue lower name (icyFields m) = announced m (lower name) := by
  have hname : (m.fields.filter fun field => lower field.1 == lower name) =
      m.fields.filter fun field => field.1 == lower name := by
    apply List.filter_congr
    intro field hfield
    rw [h.lowered_of_mem hfield]
  -- of the fields of one name, all have the mark or none has
  have hicy : ((m.fields.filter fun field => field.1 == lower name).filter isIcyField) =
      (m.fields.filter fun field => field.1 == lower name).filter
        fun field => startsWith icyMark.toList (lower name).toList && isVisible field.2 := by
    apply List.filter_congr
    intro field hfield
    have heq : field.1 = lower name := by simpa using (List.mem_filter.1 hfield).2
    rw [isIcyField, heq]
  have hvalues : ((icyFields m).filter fun field => lower field.1 == lower name).map (·.2) =
      (m.values (lower name)).filter
        fun value => startsWith icyMark.toList (lower name).toList && isVisible value := by
    rw [icyFields, List.filter_comm, hname, hicy, ← HeaderMap.map_snd_filter_fields h.distinct,
      List.filter_map, Function.comp_def]
  rw [Entries.lastValue_eq_getLast?, hvalues, announced]
  cases startsWith icyMark.toList (lower name).toList with
  | true => simp
  | false => simp

theorem lower_titleTag : lower Icy.titleTag = Icy.titleTag := by decide +kernel

/-- The tag of a name, in whatever case it is asked for. -/
theorem get?_parse (h : m.Canonical) (packet name : String) :
    (Icy.parse ((icyHeaders? m).getD "") packet).get? name = toldOf m packet (lower name) := by
  have htitle : Entries.lastValue lower name (Icy.titleFields packet) =
      if lower name = Icy.titleTag then Icy.title? packet else none := by
    unfold Icy.titleFields
    cases Icy.title? packet with
    | none => rw [ite_self]; rfl
    | some title =>
        show (if lower Icy.titleTag = lower name then some title else none) = _
        rw [lower_titleTag]
        simp only [eq_comm]
  rw [Icy.parse_eq, headerFields_headerText h.named]
  show Entries.get? lower name (Entries.setAll lower _ []) = _
  rw [Entries.get?_setAll, Entries.get?_nil, Option.or_none, Entries.lastValue_append, htitle,
    lastValue_icyFields h, toldOf]

/-- Nothing is told under a name that is not in lower case. -/
theorem lowered_of_told (h : m.Canonical) {packet name value : String}
    (htold : toldOf m packet name = some value) : lower name = name := by
  unfold toldOf at htold
  split at htold
  · rename_i htitle
    rw [htitle, lower_titleTag]
  · rw [Option.none_or, announced] at htold
    split at htold
    · have hvalue : value ∈ m.values name := (List.mem_filter.1 (List.mem_of_getLast? htold)).1
      rw [← HeaderMap.map_snd_filter_fields h.distinct] at hvalue
      obtain ⟨field, hfield, -⟩ := List.mem_map.1 hvalue
      obtain ⟨hmem, hname⟩ := List.mem_filter.1 hfield
      have heq : field.1 = name := by simpa using hname
      rw [← heq, h.lowered_of_mem hmem]
    · exact absurd htold (by simp)

/-- Every tag stands under a name in lower case. -/
theorem lowered_of_mem_parse (h : m.Canonical) {packet name value : String}
    (htag : (name, value) ∈ (Icy.parse ((icyHeaders? m).getD "") packet).entries) :
    lower name = name := by
  rw [Icy.parse_eq, headerFields_headerText h.named] at htag
  rcases Entries.mem_of_mem_setAll htag with hset | hset
  · rcases List.mem_append.1 hset with hfield | htitle
    · exact h.lowered_of_mem (List.mem_filter.1 hfield).1
    · obtain ⟨title, -, heq⟩ := Option.map_eq_some_iff.1 (Option.mem_toList.1 htitle)
      rw [← (Prod.mk.inj heq).1, lower_titleTag]
  · exact absurd hset (by simp)

theorem built_parse (headers packet : String) : (Icy.parse headers packet).Built := by
  rw [Icy.parse_eq]
  exact .ofList _

theorem mem_entries_parse_iff (h : m.Canonical) (packet name value : String) :
    (name, value) ∈ (Icy.parse ((icyHeaders? m).getD "") packet).entries ↔
      toldOf m packet name = some value := by
  have hdistinct := (built_parse ((icyHeaders? m).getD "") packet).distinct
  constructor
  · intro hmem
    have hlower : lower name = name := lowered_of_mem_parse h hmem
    rw [← hlower, ← get?_parse h]
    exact hdistinct.get?_of_mem hmem
  · intro htold
    have hlower : lower name = name := lowered_of_told h htold
    rw [← hlower, ← get?_parse h] at htold
    obtain ⟨⟨key, old⟩, htag, heq⟩ := List.mem_map.1 (Entries.mem_contents_of_get? htold)
    obtain ⟨hname, hvalue⟩ := Prod.mk.inj heq
    rw [lowered_of_mem_parse h htag, hlower] at hname
    rwa [← hname, ← hvalue]

/-- **What a radio's header fields announce is read back as tags.** Let the names of a map be
names of fields in lower case, once each; the values may be any texts. The map is written as lines
of metadata fields, and these are read together with a packet. There is then a tag under a name
exactly if something is told under it: the title of the packet under the name of the title, and
else the last visible value of the name, if the name has the mark. No two tags have one name up to
case, and each is found in any case. Maps that have the names in another order give equal tags. -/
theorem tags_of_header_fields (h : m.Canonical) (packet : String) :
    let tags (m : HeaderMap) := Icy.parse ((icyHeaders? m).getD "") packet
    ((tags m).entries.Pairwise fun p q => sameName p.1 q.1 = false) ∧
      (∀ name value, (name, value) ∈ (tags m).entries ↔ toldOf m packet name = some value) ∧
      (∀ name, (tags m).get? name = toldOf m packet (lower name)) ∧
      ∀ other : HeaderMap, other.groups.Perm m.groups →
        (tags other == tags m) = true ∧ (tags m == tags other) = true := by
  intro tags
  have hdistinct (m : HeaderMap) : Entries.Distinct lower (tags m).entries :=
    (built_parse ((icyHeaders? m).getD "") packet).distinct
  refine ⟨Tags.pairwise_of_distinct (hdistinct m), mem_entries_parse_iff h packet,
    get?_parse h packet, ?_⟩
  intro other hperm
  have hother : other.Canonical := h.of_perm hperm
  have hsame (name : String) : (tags other).get? name = (tags m).get? name := by
    have hvalues := HeaderMap.values_of_perm hother.distinct h.distinct hperm
    rw [get?_parse hother, get?_parse h, toldOf, toldOf, announced, announced, hvalues]
  have hcontents := (Entries.get?_eq_iff_perm (hdistinct other) (hdistinct m)).1 hsame
  exact ⟨(Tags.sameAs_iff_perm (hdistinct other) (hdistinct m)).2 hcontents,
    (Tags.sameAs_iff_perm (hdistinct m) (hdistinct other)).2 hcontents.symm⟩

/-- A radio that announces a name twice, an empty genre, a rate that ASCII cannot show, and a
title of its own. -/
def announcing : HeaderMap :=
  ⟨[("icy-name", ["A", "B: c"]), ("server", ["s"]), ("icy-br", ["½"]), ("icy-title", ["none"]),
    ("icy-genre", [""])]⟩

theorem tags_of_header_fields_announcing :
    let tags (m : HeaderMap) := Icy.parse ((icyHeaders? m).getD "") "StreamTitle='T';"
    let turned : HeaderMap := ⟨announcing.groups.reverse⟩
    announcing.Canonical ∧ turned.groups.Perm announcing.groups ∧
      ("icy-name", "B: c") ∈ (tags announcing).entries ∧
      ("icy-genre", "") ∈ (tags announcing).entries ∧
      (tags announcing).get? "ICY-Title" = some "T" ∧ (tags announcing).get? "icy-br" = none ∧
      (tags announcing).get? "server" = none ∧ (tags turned == tags announcing) = true := by
  intro tags turned
  have hcanonical : announcing.Canonical :=
    { distinct := by unfold HeaderMap.Distinct; decide +kernel
      named := by unfold HeaderMap.Named; decide +kernel
      lowered := by decide +kernel }
  have hperm : turned.groups.Perm announcing.groups := List.reverse_perm _
  obtain ⟨-, hmem, hget, hturned⟩ := tags_of_header_fields hcanonical "StreamTitle='T';"
  refine ⟨hcanonical, hperm, (hmem _ _).2 ?_, (hmem _ _).2 ?_, (hget _).trans ?_,
    (hget _).trans ?_, (hget _).trans ?_, (hturned turned hperm).1⟩
  all_goals decide +kernel

end ByteStream.Http
