/-
# ByteStream.Proofs.Http.Plans -- what the requests of a stream are made of

Before anything is sent a request is checked. A check fails, for one of seven reasons
(`CheckFails`), or there is a plan for it, which says the URL and the base fields (`Planned`); the
plan is made of the URL, the mode and the options, and of nothing else. By the plan a request can be
made for the whole and for the part from any position on. The latter has the fields of the former
and one more (`part_asked_with_one_more`).

No certificate file is named here.
-/

import ByteStream.Proofs.Http.Exchange
import ByteStream.Proofs.Http.Settings

namespace ByteStream.Http

open ConnectOptions

/-! ## Plans -/

/-- What all requests of a stream are made of. -/
structure Plan where
  url : Url
  base : HeaderMap

/-- The first request for the whole, or for the part from a position on. -/
def Plan.hop (p : Plan) (offset : Option Nat) : Hop := firstHop p.url p.base offset

theorem Plan.distinct_hop {p : Plan} (h : p.base.Distinct) (offset : Option Nat) :
    (p.hop offset).fields.Distinct := by
  cases offset with
  | none => exact h
  | some pos => exact h.append _ _

/-- The checks pass, and this comes of them: the base fields are those of the header map, and what
the backend adds to it. -/
def PassesChecks (url : String) (mode : Mode) (o : ConnectOptions) (p : Plan) : Prop :=
  ∃ scheme rest settings m, Scheme.split? url = some (scheme, rest) ∧ mode ≠ .write ∧
    Url.parse scheme rest = .ok p.url ∧ (Settings.takeFrom o).1 = .ok settings ∧
    settings.userAgent.all isFieldValue = true ∧ settings.headerMap = .ok m ∧
    p.base = baseFields m p.url.credentials? settings.userAgent

/-- The base fields of a plan have each name once. -/
theorem PassesChecks.distinct {url : String} {mode : Mode} {o : ConnectOptions} {p : Plan}
    (h : PassesChecks url mode o p) : p.base.Distinct := by
  obtain ⟨_, _, _, _, -, -, -, -, -, hheaders, hbase⟩ := h
  rw [hbase]
  exact distinct_baseFields (Settings.headerMap_ok hheaders).1 _ _

/-- The checks pass, and a request can be made for the URL. -/
def Planned (url : String) (mode : Mode) (o : ConnectOptions) (p : Plan) : Prop :=
  PassesChecks url mode o p ∧ (requested p.url).isSendable = true

/-- A check fails: the scheme, the mode, the URL, the header block, the user agent or the header
map, or no request can be made for the URL. -/
inductive CheckFails (url : String) (mode : Mode) (o : ConnectOptions) : Prop
  | scheme : Scheme.split? url = none → CheckFails url mode o
  | mode : mode = .write → CheckFails url mode o
  | url {scheme : Scheme} {rest : List Char} {e : UrlError} :
      Scheme.split? url = some (scheme, rest) → Url.parse scheme rest = .error e →
      CheckFails url mode o
  | block {e : HttpError} : (Settings.takeFrom o).1 = .error e → CheckFails url mode o
  | agent {settings : Settings} : (Settings.takeFrom o).1 = .ok settings →
      settings.userAgent.all isFieldValue = false → CheckFails url mode o
  | headers {settings : Settings} {e : HttpError} : (Settings.takeFrom o).1 = .ok settings →
      settings.headerMap = .error e → CheckFails url mode o
  | unsendable {scheme : Scheme} {rest : List Char} {u : Url} :
      Scheme.split? url = some (scheme, rest) → Url.parse scheme rest = .ok u →
      (requested u).isSendable = false → CheckFails url mode o

/-- A check fails, or the attempt is planned. -/
theorem checkFails_or_planned (url : String) (mode : Mode) (o : ConnectOptions) :
    CheckFails url mode o ∨ ∃ p, Planned url mode o p := by
  cases hsplit : Scheme.split? url with
  | none => exact .inl (.scheme hsplit)
  | some found =>
    obtain ⟨scheme, rest⟩ := found
    by_cases hmode : mode = .write
    · exact .inl (.mode hmode)
    · cases hurl : Url.parse scheme rest with
      | error e => exact .inl (.url hsplit hurl)
      | ok u =>
        cases hsettings : (Settings.takeFrom o).1 with
        | error e => exact .inl (.block hsettings)
        | ok settings =>
          cases hagent : settings.userAgent.all isFieldValue with
          | false => exact .inl (.agent hsettings hagent)
          | true =>
            cases hheaders : settings.headerMap with
            | error e => exact .inl (.headers hsettings hheaders)
            | ok m =>
              cases hsendable : (requested u).isSendable with
              | false => exact .inl (.unsendable hsplit hurl hsendable)
              | true =>
                exact .inr ⟨⟨u, baseFields m u.credentials? settings.userAgent⟩,
                  ⟨scheme, rest, settings, m, hsplit, hmode, hurl, hsettings, hagent, hheaders,
                    rfl⟩, hsendable⟩

/-! ## The checks -/

/-- Without a certificate file, what is checked of the settings are the user agent and the header
map. -/
theorem prepare_of_no_file {settings : Settings} (h : settings.caFile = none) (files : Files)
    (url : Url) :
    prepare files url settings =
      if settings.userAgent.all isFieldValue then
        settings.headerMap.map fun m => baseFields m url.credentials? settings.userAgent
      else .error (.transfer "builder error") := by
  unfold prepare checkClient
  rw [h]
  dsimp only [Option.bind_none]
  by_cases hagent : settings.userAgent.all isFieldValue = true
  · rw [if_pos hagent, if_pos hagent]
    cases settings.headerMap with
    | error e => rfl
    | ok m => rfl
  · rw [if_neg hagent, if_neg hagent]

theorem caFile_of_takeFrom {o : ConnectOptions} (h : o.get? caFileKey = none) {settings : Settings}
    (hsettings : (Settings.takeFrom o).1 = .ok settings) : settings.caFile = none := by
  obtain ⟨_, -, rfl⟩ := Settings.takeFrom_eq_ok_iff.1 hsettings
  exact h

/-- These are the checks that a request goes through before it is made. -/
theorem checked_of_passes {request : ConnectRequest} {p : Plan}
    (hfile : request.options.get? caFileKey = none)
    (h : PassesChecks request.url request.mode request.options p) (files : Files) :
    ∃ settings, (checked files request).1 = .ok (p.url, settings, p.base) := by
  obtain ⟨scheme, rest, settings, m, hsplit, hmode, hurl, hsettings, hagent, hheaders, hbase⟩ := h
  refine ⟨settings, ?_⟩
  unfold checked
  rw [hsplit]
  dsimp only
  rw [if_neg hmode, hurl]
  dsimp only
  rw [hsettings]
  dsimp only
  rw [prepare_of_no_file (caFile_of_takeFrom hfile hsettings), if_pos hagent, hheaders, hbase]
  rfl

/-- A request that goes through has passed them. -/
theorem passes_of_checked {request : ConnectRequest} {u : Url} {settings : Settings}
    {base : HeaderMap} (hfile : request.options.get? caFileKey = none) {files : Files}
    (h : (checked files request).1 = .ok (u, settings, base)) :
    PassesChecks request.url request.mode request.options ⟨u, base⟩ := by
  obtain ⟨scheme, rest, hsplit, hmode, hurl, hsettings, hbase⟩ := checked_eq_ok_iff.1 h
  rw [prepare_of_no_file (caFile_of_takeFrom hfile hsettings)] at hbase
  by_cases hagent : settings.userAgent.all isFieldValue = true
  · rw [if_pos hagent] at hbase
    cases hheaders : settings.headerMap with
    | error e =>
      rw [hheaders] at hbase
      cases hbase
    | ok m =>
      rw [hheaders] at hbase
      cases hbase
      exact ⟨scheme, rest, settings, m, hsplit, hmode, hurl, hsettings, hagent, hheaders, rfl⟩
  · rw [if_neg hagent] at hbase
    cases hbase

/-- Where all checks before it pass, the last of the reasons is left. -/
theorem CheckFails.unsendable_of_passes {url : String} {mode : Mode} {o : ConnectOptions} {p : Plan}
    (h : CheckFails url mode o) (hpasses : PassesChecks url mode o p) :
    (requested p.url).isSendable = false := by
  obtain ⟨scheme, rest, settings, m, hsplit, hmode, hurl, hsettings, hagent, hheaders, -⟩ := hpasses
  cases h with
  | scheme hnone =>
    rw [hsplit] at hnone
    cases hnone
  | mode hwrite => exact absurd hwrite hmode
  | url hsame herror =>
    rw [hsplit] at hsame
    cases hsame
    rw [hurl] at herror
    cases herror
  | block herror =>
    rw [hsettings] at herror
    cases herror
  | agent hsame hbad =>
    rw [hsettings] at hsame
    cases hsame
    rw [hagent] at hbad
    cases hbad
  | headers hsame herror =>
    rw [hsettings] at hsame
    cases hsame
    rw [hheaders] at herror
    cases herror
  | unsendable hsame hparsed hunsendable =>
    rw [hsplit] at hsame
    cases hsame
    rw [hurl] at hparsed
    cases hparsed
    exact hunsendable

/-- Where a check fails, the request does not go through, or none can be made for its URL. -/
theorem checked_of_checkFails {request : ConnectRequest}
    (hfile : request.options.get? caFileKey = none)
    (h : CheckFails request.url request.mode request.options) (files : Files) :
    (∃ e, (checked files request).1 = .error e) ∨
      ∃ u settings base, (checked files request).1 = .ok (u, settings, base) ∧
        (requested u).isSendable = false := by
  cases hresult : (checked files request).1 with
  | error e => exact .inl ⟨e, rfl⟩
  | ok found =>
    obtain ⟨u, settings, base⟩ := found
    have hpasses := passes_of_checked hfile hresult
    exact .inr ⟨u, settings, base, rfl, h.unsendable_of_passes (p := ⟨u, base⟩) hpasses⟩

/-! ## Parts and the whole -/

namespace HeaderMap

/-- Sorting by name keeps the fields. -/
theorem perm_sorted (m : HeaderMap) : m.sorted.Perm m.fields :=
  (List.mergeSort_perm _ _).flatMap_right _

/-- Appending a field adds it to the others. -/
theorem perm_fields_append (m : HeaderMap) (name value : String) :
    (m.append name value).fields.Perm ((name, value) :: m.fields) := by
  obtain ⟨groups⟩ := m
  show ((modifyGroup name (· ++ [value]) groups).flatMap fun g => g.2.map fun v => (g.1, v)).Perm
    ((name, value) :: groups.flatMap fun g => g.2.map fun v => (g.1, v))
  -- The name is met in front, or the field goes behind the first group.
  induction groups with
  | nil => exact List.Perm.refl _
  | cons g rest ih =>
    obtain ⟨n, vs⟩ := g
    by_cases hn : n = name
    · subst hn
      rw [modifyGroup, if_pos rfl, List.flatMap_cons, List.flatMap_cons, List.map_append,
        List.map_singleton, List.append_assoc, List.singleton_append]
      exact List.perm_middle
    · rw [modifyGroup, if_neg hn, List.flatMap_cons, List.flatMap_cons]
      exact (ih.append_left _).trans List.perm_middle

/-- A field of another name makes no difference to whether a name is added. -/
theorem perm_fields_append_offer (m : HeaderMap) {name other : String} (h : name ≠ other)
    (value offered : String) :
    ((m.append name value).offer other offered).fields.Perm
      ((name, value) :: (m.offer other offered).fields) := by
  have hsame : (m.append name value).has other = m.has other := by
    unfold has get?
    rw [values_append_other m h.symm]
  by_cases hthere : m.has other = true
  · rw [offer, offer, if_pos (hsame.trans hthere), if_pos hthere]
    exact m.perm_fields_append name value
  · rw [offer, offer, if_neg (by rw [hsame]; exact hthere), if_neg hthere]
    -- Both fields come behind the others, in the one order and in the other.
    have hone := ((m.append name value).perm_fields_append other offered).trans
      ((m.perm_fields_append name value).cons (other, offered))
    have hother := (m.perm_fields_append other offered).cons (name, value)
    exact (hone.trans (.swap ..)).trans hother.symm

end HeaderMap

/-- A field as a server reads it. -/
def received (field : String × String) : String × String := (field.1, stripped field.2)

/-- A request carries the fields of its map, and the one that names the server. -/
theorem perm_fields_ofFields (url : Url) (m : HeaderMap) :
    (Request.ofFields url m).fields.Perm
      ((m.offer hostName url.authority).fields.map received) :=
  (HeaderMap.perm_sorted _).map received

/-- **A part is asked for with one field more**, and otherwise as the whole is. -/
theorem part_asked_with_one_more (url : Url) (base : HeaderMap) (pos : Nat) :
    (asking url base (some pos)).fields.Perm
      (rangeField pos :: (asking url base none).fields) := by
  have hhost : rangeName ≠ hostName := by decide
  have hpart : (asking url base (some pos)).fields.Perm _ :=
    perm_fields_ofFields (requested url) (base.append rangeName (rangeField pos).2)
  have hwhole : (asking url base none).fields.Perm _ := perm_fields_ofFields (requested url) base
  have hmore := ((base.perm_fields_append_offer hhost (rangeField pos).2
    (requested url).authority).map received)
  rw [List.map_cons, received, stripped_rangeField] at hmore
  exact (hpart.trans hmore).trans (hwhole.symm.cons (rangeField pos))

end ByteStream.Http
