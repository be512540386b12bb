/-
# ByteStream.Proofs.Http.Settings -- what the backend reads is what the builder wrote

The options of a request are written key by key and read key by key; only the texts of the keys
and the spelling of the values tie the two ends together. What is read is told here by the value
that each key ends up with: the texts as they are, the header block line by line, the flags by
their spelling. What is left is the caller's raw options under keys that mean nothing here.
-/

import ByteStream.Http.Settings
import ByteStream.Proofs.ConnectOptions.Effective
import ByteStream.Proofs.HeaderBlock

namespace ByteStream

namespace ConnectOptions

/-- The options without some keys, taken out one after the other. -/
def without (o : ConnectOptions) (keys : List String) : ConnectOptions :=
  keys.foldl (fun o key => (o.take key).2) o

theorem get?_take_other {key other : String} (h : other ≠ key) (o : ConnectOptions) :
    (o.take key).2.get? other = o.get? other :=
  @Entries.get?_erase_other id key other h o.entries

theorem get?_without {key : String} {keys : List String} (h : key ∉ keys) (o : ConnectOptions) :
    (o.without keys).get? key = o.get? key := by
  induction keys generalizing o with
  | nil => rfl
  | cons k rest ih =>
      rw [List.mem_cons, not_or] at h
      show ((o.take k).2.without rest).get? key = _
      rw [ih h.2, get?_take_other h.1]

/-- Of distinct keys, those that are not taken out stay, in order. -/
theorem names_without (keys : List String) {o : ConnectOptions}
    (h : Entries.Distinct id o.entries) :
    Entries.Distinct id (o.without keys).entries ∧
      Entries.foldedNames id (o.without keys).entries =
        (Entries.foldedNames id o.entries).filter (· ∉ keys) := by
  induction keys generalizing o with
  | nil => exact ⟨h, by simp [without]⟩
  | cons k rest ih =>
      have htake : Entries.Distinct id (o.take k).2.entries := h.erase k
      refine ⟨(ih htake).1, (ih htake).2.trans ?_⟩
      show (Entries.foldedNames id (Entries.erase id k o.entries)).filter _ = _
      rw [Entries.foldedNames_erase, List.Nodup.erase_eq_filter h, List.filter_filter]
      apply List.filter_congr
      intro name _
      by_cases hname : name = k <;> simp [hname]

end ConnectOptions

namespace Http.Settings

open ConnectOptions HeaderBlock

/-! ## Reading -/

/-- The keys in the order in which they are taken. -/
def takenKeys : List String :=
  [headersKey, userAgentKey, cookiesKey, tlsVerifyKey, caFileKey, icyKey]

/-- The settings that options hold, with the fields of their header block. -/
def held (o : ConnectOptions) (headers : List (String × String)) : Settings where
  userAgent := o.get? userAgentKey
  cookies := o.get? cookiesKey
  headers := headers
  tlsVerify := (o.get? tlsVerifyKey).all parseFlag
  caFile := o.get? caFileKey
  icy := (o.get? icyKey).any parseFlag

/-- Each key is taken after others, which leave its value as it is. -/
theorem takeRest_eq (headers : List (String × String)) (o : ConnectOptions) :
    takeRest headers (o.take headersKey).2 = (held o headers, o.without takenKeys) := by
  have hkept (key : String) (keys : List String) (h : key ∉ keys) :
      (o.without keys).get? key = o.get? key := get?_without h o
  have hagent := hkept userAgentKey [headersKey] (by decide)
  have hcookies := hkept cookiesKey [headersKey, userAgentKey] (by decide)
  have htls := hkept tlsVerifyKey [headersKey, userAgentKey, cookiesKey] (by decide)
  have hca := hkept caFileKey [headersKey, userAgentKey, cookiesKey, tlsVerifyKey] (by decide)
  have hicy := hkept icyKey [headersKey, userAgentKey, cookiesKey, tlsVerifyKey, caFileKey]
    (by decide)
  rw [held, ← hagent, ← hcookies, ← htls, ← hca, ← hicy]
  rfl

/-- What the header block reads as, if there is one. -/
def blockFields (o : ConnectOptions) : Except HttpError (List (String × String)) :=
  ((o.get? headersKey).map parseHeaders).getD (.ok [])

theorem takeFrom_of_error {o : ConnectOptions} {e : HttpError} (h : blockFields o = .error e) :
    (takeFrom o).1 = .error e := by
  have hblock : (((o.take headersKey).1).map parseHeaders).getD (.ok []) = .error e := h
  unfold takeFrom
  dsimp only
  rw [hblock]

theorem takeFrom_of_ok {o : ConnectOptions} {fields : List (String × String)}
    (h : blockFields o = .ok fields) : takeFrom o = (.ok (held o fields), o.without takenKeys) := by
  have hblock : (((o.take headersKey).1).map parseHeaders).getD (.ok []) = .ok fields := h
  unfold takeFrom
  dsimp only
  rw [hblock]
  dsimp only
  rw [takeRest_eq]

theorem blockFields_eq_ok_iff {o : ConnectOptions} {fields : List (String × String)} :
    blockFields o = .ok fields ↔ List.Forall₂ Says ((o.get? headersKey).elim [] lines) fields := by
  unfold blockFields
  cases o.get? headersKey with
  | none => simp [eq_comm]
  | some block =>
      simp only [Option.map_some, Option.getD_some, Option.elim_some, parseHeaders,
        ← parse_eq_ok_iff]
      cases parse block with
      | error bad => simp [Except.mapError]
      | ok fields => simp [Except.mapError]

/-- Reading succeeds with the fields that the lines of the header block say. -/
theorem takeFrom_eq_ok_iff {o : ConnectOptions} {s : Settings} :
    (takeFrom o).1 = .ok s ↔
      ∃ fields, List.Forall₂ Says ((o.get? headersKey).elim [] lines) fields ∧
        s = held o fields := by
  simp only [← blockFields_eq_ok_iff]
  cases hfields : blockFields o with
  | error e =>
      rw [takeFrom_of_error hfields]
      simp
  | ok fields =>
      rw [takeFrom_of_ok hfields]
      simp [eq_comm]

theorem takeFrom_left {o : ConnectOptions} {s : Settings} (h : (takeFrom o).1 = .ok s) :
    (takeFrom o).2 = o.without takenKeys := by
  cases hfields : blockFields o with
  | error e =>
      rw [takeFrom_of_error hfields] at h
      exact absurd h (by simp)
  | ok fields => rw [takeFrom_of_ok hfields]

theorem mem_takenKeys {key : String} : key ∈ takenKeys ↔ key ∈ knownKeys := by
  simp only [takenKeys, knownKeys, List.mem_cons, List.not_mem_nil, or_false]
  tauto

/-! ## Writing, then reading -/

/-- What is written for a truth value is read as that truth value. -/
theorem parseFlag_flagText (b : Bool) : parseFlag (flagText b) = b := by cases b <;> decide

/-- The settings say what the keys of the options end up with. -/
structure Decodes (eff : String → Option String) (s : Settings) : Prop where
  userAgent : s.userAgent = eff userAgentKey
  cookies : s.cookies = eff cookiesKey
  caFile : s.caFile = eff caFileKey
  headers : List.Forall₂ Says ((eff headersKey).elim [] lines) s.headers
  tlsVerify : ∃ text, eff tlsVerifyKey = some text ∧ s.tlsVerify = parseFlag text
  icy : ∃ text, eff icyKey = some text ∧ s.icy = parseFlag text

section Assembled

variable (c : Config) (cookies : Option String)

theorem exists_takeFrom_iff :
    (∃ s, (takeFrom (assemble c .read cookies)).1 = .ok s) ↔
      ∀ block, effective c .read cookies headersKey = some block →
        ∀ line ∈ lines block, ':' ∈ line := by
  simp only [takeFrom_eq_ok_iff, get?_assemble]
  cases effective c .read cookies headersKey with
  | none => exact ⟨fun _ _ h => absurd h (by simp), fun _ => ⟨_, [], .nil, rfl⟩⟩
  | some block =>
      simp only [Option.elim_some, Option.some.injEq, forall_eq', ← exists_parse_iff,
        parse_eq_ok_iff]
      constructor
      · rintro ⟨_, fields, hsays, -⟩
        exact ⟨fields, hsays⟩
      · rintro ⟨fields, hsays⟩
        exact ⟨_, fields, hsays, rfl⟩

variable {c cookies}

theorem decodes_of_takeFrom {s : Settings}
    (h : (takeFrom (assemble c .read cookies)).1 = .ok s) :
    Decodes (effective c .read cookies) s := by
  obtain ⟨fields, hsays, rfl⟩ := takeFrom_eq_ok_iff.1 h
  obtain ⟨tls, htls⟩ : ∃ text, effective c .read cookies tlsVerifyKey = some text :=
    exists_effective rfl
  obtain ⟨icy, hicy⟩ : ∃ text, effective c .read cookies icyKey = some text :=
    exists_effective rfl
  constructor
  case userAgent => exact get?_assemble ..
  case cookies => exact get?_assemble ..
  case caFile => exact get?_assemble ..
  case headers => exact get?_assemble c .read cookies headersKey ▸ hsays
  case tlsVerify =>
      refine ⟨tls, htls, ?_⟩
      simp only [held, get?_assemble, htls, Option.all_some]
  case icy =>
      refine ⟨icy, hicy, ?_⟩
      simp only [held, get?_assemble, hicy, Option.any_some]

/-- A flag is what the configuration says, unless a raw option says otherwise. -/
theorem flag_of_not_raw {key : String} {computed read : Bool}
    (hcomputed : computedValue c .read cookies key = some (flagText computed))
    (hread : ∃ text, effective c .read cookies key = some text ∧ read = parseFlag text)
    (hraw : key ∉ c.backendOptions.map (·.1)) : read = computed := by
  obtain ⟨text, htext, hflag⟩ := hread
  have hwritten := effective_of_not_raw .read cookies hraw
  rw [htext, hcomputed] at hwritten
  rw [hflag, Option.some.inj hwritten, parseFlag_flagText]

/-- What is left are the raw options that mean nothing here. -/
theorem left_of_takeFrom {s : Settings}
    (h : (takeFrom (assemble c .read cookies)).1 = .ok s) :
    (takeFrom (assemble c .read cookies)).2.entries.map (·.1) =
        ((c.backendOptions.map (·.1)).filter (· ∉ knownKeys)).eraseDups ∧
      ∀ p ∈ (takeFrom (assemble c .read cookies)).2.entries,
        Entries.lastValue id p.1 c.backendOptions = some p.2 := by
  rw [takeFrom_left h]
  obtain ⟨hdistinct, hnames⟩ := names_without takenKeys (distinct_assemble c .read cookies)
  constructor
  · refine hnames.trans ?_
    simp only [mem_takenKeys]
    exact rawKeys_assemble c .read cookies
  intro p hp
  have hname : p.1 ∉ takenKeys := by
    have hmem : p.1 ∈ Entries.foldedNames id (without _ takenKeys).entries :=
      List.mem_map.2 ⟨p, hp, rfl⟩
    rw [hnames, List.mem_filter] at hmem
    simpa using hmem.2
  have hvalue : (assemble c .read cookies).get? p.1 = some p.2 := by
    rw [← get?_without hname]
    exact hdistinct.get?_of_mem hp
  rw [get?_assemble, effective, computedValue_of_unknown (mt mem_takenKeys.2 hname),
    Option.or_none] at hvalue
  exact hvalue

end Assembled

/-- Reading the options of a configuration succeeds exactly if each line that counts of the header
block they end up with has a colon. It gives what the keys end up with; the certificate check is
that of the configuration and in-band metadata is asked for, unless a raw option says otherwise;
and it leaves the raw options under other keys, once each, with their last values. -/
theorem takeFrom_build {σ : Type} (c : Config) (provider : CookieProvider σ) (w : World σ) :
    let eff := effective c .read (offered c provider w)
    let taken := takeFrom (build c .read provider w).1
    ((∃ s, taken.1 = .ok s) ↔
        ∀ block, eff headersKey = some block → ∀ line ∈ lines block, ':' ∈ line) ∧
      ∀ s, taken.1 = .ok s →
        Decodes eff s ∧
        (tlsVerifyKey ∉ c.backendOptions.map (·.1) → s.tlsVerify = c.tlsVerify) ∧
        (icyKey ∉ c.backendOptions.map (·.1) → s.icy = true) ∧
        taken.2.entries.map (·.1) =
          ((c.backendOptions.map (·.1)).filter (· ∉ knownKeys)).eraseDups ∧
        ∀ p ∈ taken.2.entries, Entries.lastValue id p.1 c.backendOptions = some p.2 := by
  rw [build_eq]
  intro eff taken
  refine ⟨exists_takeFrom_iff c _, ?_⟩
  intro s hs
  have hdecodes : Decodes eff s := decodes_of_takeFrom hs
  exact ⟨hdecodes, flag_of_not_raw rfl hdecodes.tlsVerify, flag_of_not_raw rfl hdecodes.icy,
    left_of_takeFrom hs⟩

/-- A caller who names headers, switches the certificate check off in a spelling of its own and
sets two options that mean nothing here, one of them twice. -/
def particular : Config where
  userAgent := some "radio/1"
  tlsVerify := true
  backendOptions :=
    [("timeout", "5"), ("tls_verify", " no "), ("headers", "A: b\n \nC:d:e"), ("timeout", "9"),
      ("proxy", "")]

/-- What is read of it. -/
def particularSettings : Settings where
  userAgent := some "radio/1"
  headers := [("A", "b"), ("C", "d:e")]
  icy := true

theorem takeFrom_build_particular :
    let taken := takeFrom (build particular .read .none ({ state := () } : World Unit)).1
    taken.1 = .ok particularSettings ∧
      Decodes (effective particular .read none) particularSettings ∧
      icyKey ∉ particular.backendOptions.map (·.1) ∧ particularSettings.icy = true ∧
      taken.2.entries.map (·.1) = ["timeout", "proxy"] ∧
      ∀ p ∈ taken.2.entries, Entries.lastValue id p.1 particular.backendOptions = some p.2 := by
  intro taken
  have hs : taken.1 = .ok particularSettings := by decide +kernel
  have hicy : icyKey ∉ particular.backendOptions.map (·.1) := by decide
  obtain ⟨-, hdecoded⟩ := takeFrom_build particular .none ({ state := () } : World Unit)
  obtain ⟨hdecodes, -, hon, hkeys, hvalues⟩ := hdecoded particularSettings hs
  have hraw : ((particular.backendOptions.map (·.1)).filter (· ∉ knownKeys)).eraseDups =
      ["timeout", "proxy"] := by decide +kernel
  exact ⟨hs, hdecodes, hicy, hon hicy, hkeys.trans hraw, hvalues⟩

end Http.Settings

end ByteStream
