/-
# ByteStream.Proofs.ConnectOptions.Effective -- the value that each key ends up with

Options are assembled by setting one pair after the other, so a key holds the value of the last
pair that names it, and the keys stand in the order in which they were first named. The
caller's raw options come behind the computed ones: what a key ends up with is the last raw value
under it, and where there is none, the value that the configuration gives.
-/

import ByteStream.ConnectOptions.Build
import ByteStream.Proofs.Entries.Contents
import ByteStream.Proofs.General

namespace ByteStream

namespace ConnectOptions

/-! ## What the configuration gives -/

/-- The computed value of a key, with the answer of the cookie provider. -/
def computedValue (c : Config) (mode : Mode) (cookies : Option String) (key : String) :
    Option String :=
  if key = userAgentKey then nonempty? c.userAgent
  else if key = cookiesKey then nonempty? cookies
  else if key = tlsVerifyKey then some (flagText c.tlsVerify)
  else if key = caFileKey then c.tlsCaFile
  else if key = headersKey then nonempty? (some (HeaderBlock.compose c.referrer c.headerFields))
  else if key = icyKey then if mode = .read then some (flagText true) else none
  else none

theorem lastValue_optional (key name : String) (value : Option String) :
    Entries.lastValue id key (value.map fun v => (name, v)).toList =
      if key = name then value else none := by
  cases value with
  | none => split <;> rfl
  | some v =>
      show (if id name = id key then some v else none) = _
      simp only [id, eq_comm]

theorem lastValue_computed (c : Config) (mode : Mode) (cookies : Option String) (key : String) :
    Entries.lastValue id key (computed c mode cookies) = computedValue c mode cookies key := by
  simp only [computed, Entries.lastValue_append, lastValue_optional, computedValue]
  -- the six keys differ, so at most one of the six values counts
  by_cases hkey : key ∈ knownKeys
  · simp only [knownKeys, List.mem_cons, List.not_mem_nil, or_false] at hkey
    rcases hkey with rfl | rfl | rfl | rfl | rfl | rfl <;>
      simp [userAgentKey, cookiesKey, tlsVerifyKey, caFileKey, headersKey, icyKey]
  · simp only [knownKeys, List.mem_cons, List.not_mem_nil, or_false, not_or] at hkey
    obtain ⟨hagent, hcookies, htls, hca, hheaders, hicy⟩ := hkey
    simp only [if_neg hagent, if_neg hcookies, if_neg htls, if_neg hca, if_neg hheaders,
      if_neg hicy, Option.or_none]

/-- Nothing is computed for a key that is not well known. -/
theorem computedValue_of_unknown {key : String} (h : key ∉ knownKeys) (c : Config) (mode : Mode)
    (cookies : Option String) : computedValue c mode cookies key = none := by
  simp only [knownKeys, List.mem_cons, List.not_mem_nil, or_false, not_or] at h
  simp only [computedValue, h, if_false]

theorem keys_computed (c : Config) (mode : Mode) (cookies : Option String) :
    ∀ key ∈ Entries.foldedNames id (computed c mode cookies), key ∈ knownKeys := by
  intro key hkey
  by_contra hnot
  have hnone : Entries.get? id key (computed c mode cookies).reverse = none := by
    show Entries.lastValue id key (computed c mode cookies) = none
    rw [lastValue_computed, computedValue_of_unknown hnot]
  rw [Entries.get?_eq_none_iff] at hnone
  apply hnone
  rw [Entries.foldedNames, List.map_reverse]
  exact List.mem_reverse.2 hkey

/-! ## What a key ends up with -/

/-- The value that a key ends up with: the last raw one, else the computed one. -/
def effective (c : Config) (mode : Mode) (cookies : Option String) (key : String) :
    Option String :=
  (Entries.lastValue id key c.backendOptions).or (computedValue c mode cookies key)

theorem get?_assemble (c : Config) (mode : Mode) (cookies : Option String) (key : String) :
    (assemble c mode cookies).get? key = effective c mode cookies key := by
  show Entries.get? id key (Entries.setAll id _ []) = _
  rw [Entries.get?_setAll, Entries.lastValue_append, lastValue_computed, Entries.get?_nil,
    Option.or_none]
  rfl

/-- Without a raw value under the key, the computed one counts. -/
theorem effective_of_not_raw {c : Config} {key : String} (mode : Mode) (cookies : Option String)
    (h : key ∉ c.backendOptions.map (·.1)) :
    effective c mode cookies key = computedValue c mode cookies key := by
  have hnone : Entries.lastValue id key c.backendOptions = none := by
    apply Entries.get?_eq_none_iff.2
    rw [Entries.foldedNames, List.map_reverse, List.mem_reverse]
    exact h
  rw [effective, hnone, Option.none_or]

/-- A key that is computed ends up with a value, its own or a raw one. -/
theorem exists_effective {c : Config} {mode : Mode} {cookies : Option String} {key value : String}
    (h : computedValue c mode cookies key = some value) :
    ∃ text, effective c mode cookies key = some text := by
  unfold effective
  cases Entries.lastValue id key c.backendOptions with
  | none => exact ⟨value, h⟩
  | some text => exact ⟨text, rfl⟩

theorem distinct_assemble (c : Config) (mode : Mode) (cookies : Option String) :
    Entries.Distinct id (assemble c mode cookies).entries :=
  Entries.distinct_nil.setAll _

/-- The keys that are not well known are the raw ones, once each, as they were first named. -/
theorem rawKeys_assemble (c : Config) (mode : Mode) (cookies : Option String) :
    (Entries.foldedNames id (assemble c mode cookies).entries).filter (· ∉ knownKeys) =
      ((c.backendOptions.map (·.1)).filter (· ∉ knownKeys)).eraseDups := by
  have hnames : Entries.foldedNames id (assemble c mode cookies).entries =
      (Entries.foldedNames id (computed c mode cookies ++ c.backendOptions)).eraseDups :=
    Entries.foldedNames_setAll _
  have hcomputed : (Entries.foldedNames id (computed c mode cookies)).filter (· ∉ knownKeys) =
      [] := by
    rw [List.filter_eq_nil_iff]
    intro key hkey
    simp [keys_computed c mode cookies key hkey]
  rw [hnames, filter_eraseDups, Entries.foldedNames, List.map_append, List.filter_append]
  rw [Entries.foldedNames] at hcomputed
  rw [hcomputed, List.nil_append]
  rfl

/-- The answer of the cookie provider; none if it is not asked. -/
def offered {σ : Type} (c : Config) (provider : CookieProvider σ) (w : World σ) : Option String :=
  (cookieQuestion c).bind fun file => (provider.ask file w).1

theorem build_eq {σ : Type} (c : Config) (mode : Mode) (provider : CookieProvider σ)
    (w : World σ) : (build c mode provider w).1 = assemble c mode (offered c provider w) := by
  unfold build offered
  cases cookieQuestion c <;> rfl

end ConnectOptions

end ByteStream
