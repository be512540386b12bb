/-
# ByteStream.Proofs.ConnectOptions.Building -- the options of an attempt, key by key and in order

The options of an attempt to connect are a list of keys with their values. What a key holds is the
last word on it: the caller's last raw value, else the computed one. The keys stand in the order in
which they were first set, so the computed ones come first, in their own fixed order and whether or
not a raw value replaces theirs; a key that could have been computed but was not is like any other
raw one. The cookie provider is asked once if cookies are enabled, and not at all otherwise
(`last_word_wins`).

How often a provider is asked does not show in what it answers. A provider can be made to keep
every question, and does for the rest what it did before (`build_withQuestions`).
-/

import ByteStream.Proofs.ConnectOptions.Effective

namespace ByteStream

variable {σ : Type}

/-! ## Keeping the questions -/

/-- A state, and the questions that a cookie provider was asked, oldest first. -/
structure WithQuestions (σ : Type) where
  inner : σ
  questions : List (Option String)

/-- The world with questions beside its state. -/
def World.withQuestions (w : World σ) (questions : List (Option String)) :
    World (WithQuestions σ) :=
  ⟨w.signals, w.journal, ⟨w.state, questions⟩⟩

/-- The provider, with every question kept. -/
def CookieProvider.withQuestions (p : CookieProvider σ) : CookieProvider (WithQuestions σ) :=
  ⟨fun file w =>
    let asked := p.ask file ⟨w.signals, w.journal, w.state.inner⟩
    (asked.1, asked.2.withQuestions (w.state.questions ++ [file]))⟩

namespace ConnectOptions

/-- Keeping the questions changes nothing, and one is kept if there is one to be asked. -/
theorem build_withQuestions (c : Config) (mode : Mode) (p : CookieProvider σ) (w : World σ)
    (before : List (Option String)) :
    build c mode p.withQuestions (w.withQuestions before) =
      ((build c mode p w).1,
        (build c mode p w).2.withQuestions (before ++ (cookieQuestion c).toList)) := by
  unfold build
  cases cookieQuestion c with
  | none =>
    rw [Option.toList_none, List.append_nil]
  | some file => rfl

/-! ## The keys in order -/

/-- The keys that are computed, in their fixed order. -/
def computedKeys (c : Config) (mode : Mode) (cookies : Option String) : List String :=
  knownKeys.filter fun key => (computedValue c mode cookies key).isSome

/-- The computed options are those keys with their values. -/
theorem map_fst_computed (c : Config) (mode : Mode) (cookies : Option String) :
    (computed c mode cookies).map Prod.fst = computedKeys c mode cookies := by
  have hvalues : knownKeys.map (computedValue c mode cookies) =
      [nonempty? c.userAgent, nonempty? cookies, some (flagText c.tlsVerify), c.tlsCaFile,
        nonempty? (some (HeaderBlock.compose c.referrer c.headerFields)),
        if mode = .read then some (flagText true) else none] := by
    simp [knownKeys, computedValue, userAgentKey, cookiesKey, tlsVerifyKey, caFileKey, headersKey,
      icyKey]
  simp only [knownKeys, List.map_cons, List.map_nil, List.cons.injEq, and_true] at hvalues
  obtain ⟨hagent, hcookies, htls, hca, hheaders, hicy⟩ := hvalues
  simp only [computed, List.map_append, map_fst_optional, ← hagent, ← hcookies, ← htls, ← hca,
    ← hheaders, ← hicy]
  -- a filter of one key only looks at this key
  show _ = (([userAgentKey] ++ [cookiesKey] ++ [tlsVerifyKey] ++ [caFileKey] ++ [headersKey] ++
    [icyKey]).filter fun key => (computedValue c mode cookies key).isSome)
  simp only [List.filter_append]
  rfl

theorem eraseDups_computedKeys (c : Config) (mode : Mode) (cookies : Option String) :
    (computedKeys c mode cookies).eraseDups = computedKeys c mode cookies := by
  have hknown : knownKeys.eraseDups = knownKeys := by decide
  rw [computedKeys, ← filter_eraseDups, hknown]

/-- Computed keys come first, and raw ones that are not among them follow as they first came. -/
theorem keys_assemble (c : Config) (mode : Mode) (cookies : Option String) :
    (assemble c mode cookies).entries.map Prod.fst =
      computedKeys c mode cookies ++
        ((c.backendOptions.map Prod.fst).filter
          (· ∉ computedKeys c mode cookies)).eraseDups := by
  have hfirst : (assemble c mode cookies).entries.map Prod.fst =
      ((computed c mode cookies ++ c.backendOptions).map Prod.fst).eraseDups :=
    @Entries.foldedNames_setAll id _
  rw [hfirst, List.map_append, map_fst_computed, List.eraseDups_append, eraseDups_computedKeys]
  congr 2
  apply List.filter_congr
  intro key _
  simp

-- a raw value in the place of a computed one, and one for a key that is not computed this time
example : (assemble
    { backendOptions := [("cookies", "a=1"), ("tls_verify", "2"), ("cookies", "b=2")] }
    .read none).entries = [("tls_verify", "2"), ("icy", "1"), ("cookies", "b=2")] := by
  decide

/-! ## The last word -/

/-- What an attempt to connect is told, and what it asks.

No key is there twice. Each holds the last raw value under it, and where there is none, what is
computed for it: the user agent and the cookies unless they are empty, the certificate check
always, the file of certificates if one is named, the header block unless it is empty, and in-band
metadata if the stream is to be read. The keys that are computed come first and in this order,
whatever values they end up with; the other raw keys follow, in the order in which they first came.
The cookie provider is asked one question if cookies are enabled, about their file if that has a
name, and otherwise none. -/
theorem last_word_wins (c : Config) (mode : Mode) (p : CookieProvider σ) (w : World σ) :
    let cookies := offered c p w
    let options := (build c mode p w).1
    (options.entries.map Prod.fst).Nodup ∧
    (∀ key, options.get? key =
      (((c.backendOptions.filter fun raw => raw.1 == key).map Prod.snd).getLast?).or
        (computedValue c mode cookies key)) ∧
    options.entries.map Prod.fst =
      computedKeys c mode cookies ++
        ((c.backendOptions.map Prod.fst).filter
          (· ∉ computedKeys c mode cookies)).eraseDups ∧
    ∀ before, build c mode p.withQuestions (w.withQuestions before) =
      (options, (build c mode p w).2.withQuestions
        (before ++ if c.cookiesEnabled then [nonempty? c.cookiesFile] else [])) := by
  intro cookies options
  have hoptions : options = assemble c mode cookies := build_eq c mode p w
  refine ⟨?distinct, ?values, ?order, ?asked⟩
  case distinct =>
    rw [hoptions]
    exact distinct_assemble c mode cookies
  case values =>
    intro key
    rw [hoptions, get?_assemble, effective, Entries.lastValue_eq_getLast?]
    rfl
  case order =>
    rw [hoptions]
    exact keys_assemble c mode cookies
  case asked =>
    intro before
    have hquestion : (cookieQuestion c).toList =
        if c.cookiesEnabled then [nonempty? c.cookiesFile] else [] := by
      unfold cookieQuestion
      split <;> rfl
    rw [build_withQuestions, hquestion]

end ConnectOptions

end ByteStream
