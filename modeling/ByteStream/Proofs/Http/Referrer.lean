/-
# ByteStream.Proofs.Http.Referrer -- what a referrer adds to a request

The referrer is written into the header block as it is, and the block is cut into lines again
where it is read. So the first line of the referrer becomes the value of one `Referer` field, and
each further line of it stands in the block like a line of the caller's own: if it counts, it is a
field (`readWith_eq_ok_iff`). A referrer of one line adds the `Referer` field and nothing else; of
a referrer of several lines this holds exactly if the further ones are blank
(`further_lines_decide`). What is read of the other options does not depend on the referrer.
-/

import ByteStream.Proofs.HeaderBlock.Composing
import ByteStream.Proofs.Http.Settings

namespace ByteStream

open Text

namespace HeaderBlock

/-! ## The lines of a referrer -/

/-- The first line of a text. -/
def firstLine (text : String) : String := (linesOf text).headD ""

/-- The lines behind the first. -/
def furtherLines (text : String) : List String := (linesOf text).tail

/-- The fields of the lines that count. -/
def fieldsOf (lines : List String) : List (String × String) := (counted lines).map fieldOf

theorem furtherLines_of_not_mem {text : String} (h : '\n' ∉ text.toList) :
    furtherLines text = [] := by
  rw [furtherLines, linesOf_of_not_mem h]
  rfl

/-- Only the first line of a referrer stands behind the name of its field. -/
theorem linesOf_referer (referrer : String) :
    linesOf ("Referer: " ++ referrer) =
      ("Referer: " ++ firstLine referrer) :: furtherLines referrer := by
  cases hpieces : pieces referrer.toList with
  | nil => exact absurd hpieces (pieces_ne_nil _)
  | cons first more =>
      have hcut : pieces ("Referer: ".toList ++ referrer.toList) =
          ("Referer: ".toList ++ first) :: more :=
        pieces_plain_append (by decide) (by decide) hpieces
      rw [linesOf, String.toList_append, hcut, firstLine, furtherLines, linesOf, hpieces,
        List.map_cons, List.map_cons, List.headD_cons, List.tail_cons, String.ofList_append,
        String.ofList_toList]

theorem counted_referer (value : String) (lines : List String) :
    counted (("Referer: " ++ value) :: lines) = ("Referer: " ++ value) :: counted lines := by
  have hname : allBlank ("Referer: ".toList ++ value.toList) = false := by
    rw [allBlank, List.all_append]
    rfl
  apply List.filter_cons_of_pos
  rw [bne_iff_ne, ne_eq, ← String.ofList_toList (s := "Referer: " ++ value),
    trimmed_ofList_eq_empty_iff, String.toList_append, hname]
  exact Bool.false_ne_true

theorem hasColon_referer (value : String) : hasColon ("Referer: " ++ value) = true := by
  rw [hasColon, String.toList_append, List.contains_iff_mem, List.mem_append]
  exact .inl (by decide)

theorem fieldOf_referer (value : String) :
    fieldOf ("Referer: " ++ value) = ("Referer", trimmed value) := by
  have hname : ("Referer: " ++ value).toList = "Referer".toList ++ ':' :: ' ' :: value.toList := by
    rw [String.toList_append]
    rfl
  have hkept : ∀ c ∈ "Referer".toList, (c != ':') = true :=
    List.all_eq_true.1 (by decide)
  have htrim : trimmed (String.ofList (' ' :: value.toList)) = trimmed value := by
    rw [trimmed, String.toList_ofList]
    rfl
  have hbefore : "Referer".toList ++ (':' :: ' ' :: value.toList).takeWhile (· != ':') =
      "Referer".toList := List.append_nil _
  rw [fieldOf, hname, List.takeWhile_append_of_pos hkept, List.dropWhile_append_of_pos hkept,
    hbefore, ← htrim]
  rfl

/-- The lines that the referrer and the caller's lines make tell one `Referer` field, and what the
further lines tell. -/
theorem told_referer (value : String) (lines : List String) :
    told (("Referer: " ++ value) :: lines) =
      (told lines).map fun fields => ("Referer", trimmed value) :: fields := by
  rw [told, counted_referer, List.find?_cons_of_neg (by simp [hasColon_referer]), told]
  cases (counted lines).find? fun line => !hasColon line with
  | some bad => rfl
  | none => rw [List.map_cons, fieldOf_referer]; rfl

theorem fieldsOf_append (lines more : List String) :
    fieldsOf (lines ++ more) = fieldsOf lines ++ fieldsOf more := by
  rw [fieldsOf, counted, List.filter_append, List.map_append]
  rfl

end HeaderBlock

namespace Http.Settings

open ConnectOptions HeaderBlock

/-! ## Reading what was built -/

section Built

variable {σ : Type} (c : Config) (mode : Mode) (provider : CookieProvider σ) (w : World σ)

/-- What is read of the options that a configuration gives with a referrer. -/
def readWith (referrer : String) : Except HttpError Settings :=
  (takeFrom (build (c.withReferrer referrer) mode provider w).1).1

variable {c mode provider w}

/-- The header block of the options is the composed one, unless a raw option says otherwise. -/
theorem block_of_build (hraw : headersKey ∉ c.backendOptions.map (·.1)) (referrer : String) :
    (build (c.withReferrer referrer) mode provider w).1.get? headersKey =
      some (compose (some referrer) c.headerFields) := by
  have hwritten : compose (some referrer) c.headerFields ≠ "" := by
    intro hempty
    have htext := congrArg String.toList hempty
    simp [compose, String.toList_join] at htext
  have hraw : headersKey ∉ (c.withReferrer referrer).backendOptions.map (·.1) := hraw
  rw [build_eq, get?_assemble, effective_of_not_raw mode _ hraw]
  show nonempty? (some (compose (some referrer) c.headerFields)) = _
  rw [nonempty?, Option.filter_some, if_pos (by simpa using hwritten)]

/-- What the header block tells: the field of the referrer's first line, and what its further
lines and those of the caller tell. -/
theorem blockFields_of_build (hraw : headersKey ∉ c.backendOptions.map (·.1))
    (hfields : ∀ line ∈ c.headerFields, '\n' ∉ line.toList) (referrer : String) :
    blockFields (build (c.withReferrer referrer) mode provider w).1 =
      ((told (furtherLines referrer ++ c.headerFields)).map
        fun fields => ("Referer", trimmed (firstLine referrer)) :: fields).mapError
          .invalidHeader := by
  rw [blockFields, block_of_build hraw, Option.map_some, Option.getD_some, parseHeaders,
    parse_compose]
  show Except.mapError _ (told ((("Referer: " ++ referrer) :: c.headerFields).flatMap linesOf)) = _
  rw [List.flatMap_cons, linesOf_referer, flatMap_linesOf hfields, List.cons_append, told_referer]

/-- Reading succeeds exactly if each line that counts has a colon, those of the referrer behind
its first and those of the caller. -/
theorem readWith_eq_ok_iff (hraw : headersKey ∉ c.backendOptions.map (·.1))
    (hfields : ∀ line ∈ c.headerFields, '\n' ∉ line.toList) {referrer : String} {s : Settings} :
    readWith c mode provider w referrer = .ok s ↔
      (∀ line ∈ counted (furtherLines referrer ++ c.headerFields), hasColon line = true) ∧
        s = held (build (c.withReferrer referrer) mode provider w).1
          (("Referer", trimmed (firstLine referrer)) ::
            fieldsOf (furtherLines referrer ++ c.headerFields)) := by
  rw [readWith, takeFrom_eq_ok_iff]
  simp only [← blockFields_eq_ok_iff, blockFields_of_build hraw hfields]
  cases htold : told (furtherLines referrer ++ c.headerFields) with
  | error bad =>
      have hnot (fields : List (String × String)) :
          told (furtherLines referrer ++ c.headerFields) ≠ .ok fields := by
        simp [htold]
      constructor
      · rintro ⟨fields, hfields, -⟩
        exact absurd hfields (by simp [Except.map, Except.mapError])
      · rintro ⟨hall, -⟩
        exact absurd (told_eq_ok_iff.2 ⟨hall, rfl⟩) (hnot _)
  | ok more =>
      obtain ⟨hall, hmore⟩ := told_eq_ok_iff.1 htold
      constructor
      · rintro ⟨fields, hfields, rfl⟩
        refine ⟨hall, ?_⟩
        rw [← Except.ok.inj hfields, hmore]
        rfl
      · rintro ⟨-, rfl⟩
        exact ⟨_, rfl, by rw [hmore]; rfl⟩

/-- What is read of the other options does not depend on the referrer. -/
theorem held_of_build (r₁ r₂ : String) (fields : List (String × String)) :
    held (build (c.withReferrer r₁) mode provider w).1 fields =
      held (build (c.withReferrer r₂) mode provider w).1 fields := by
  have hkey (key : String) (hother : key ≠ headersKey) :
      (build (c.withReferrer r₁) mode provider w).1.get? key =
        (build (c.withReferrer r₂) mode provider w).1.get? key := by
    have hcomputed (cookies : Option String) :
        computedValue (c.withReferrer r₁) mode cookies key =
          computedValue (c.withReferrer r₂) mode cookies key := by
      simp only [computedValue, if_neg hother, Config.withReferrer]
    rw [build_eq, build_eq, get?_assemble, get?_assemble, effective, effective, hcomputed]
    rfl
  rw [held, held, hkey userAgentKey (by decide), hkey cookiesKey (by decide),
    hkey tlsVerifyKey (by decide), hkey caFileKey (by decide), hkey icyKey (by decide)]

end Built

/-- **A referrer adds the lines that it has.** Let no line of the caller hold a line feed and no
raw option stand in the place of the header block. The options that are built with a referrer are
read exactly if each line that counts has a colon, those of the referrer behind its first among
them. The header fields are then one `Referer`, the fields of the further lines of the referrer,
and the fields of the caller. Hence there is one field more than there are lines of the caller
that count exactly if no further line of the referrer counts, which is so if it has only one; two
referrers make the same fields behind the first exactly if their further lines do; and whatever
else is read is the same for both. -/
theorem further_lines_decide {σ : Type} {c : Config}
    (hraw : headersKey ∉ c.backendOptions.map (·.1))
    (hfields : ∀ line ∈ c.headerFields, '\n' ∉ line.toList) (mode : Mode)
    (provider : CookieProvider σ) (w : World σ) (r₁ r₂ : String) :
    ((∃ s, readWith c mode provider w r₁ = .ok s) ↔
        ∀ line ∈ counted (furtherLines r₁ ++ c.headerFields), hasColon line = true) ∧
      ('\n' ∉ r₁.toList → furtherLines r₁ = []) ∧
      ∀ s₁ s₂, readWith c mode provider w r₁ = .ok s₁ → readWith c mode provider w r₂ = .ok s₂ →
        s₁.headers = ("Referer", trimmed (firstLine r₁)) ::
          (fieldsOf (furtherLines r₁) ++ fieldsOf c.headerFields) ∧
        (s₁.headers.length = (counted c.headerFields).length + 1 ↔
          counted (furtherLines r₁) = []) ∧
        (s₁.headers.tail = s₂.headers.tail ↔
          fieldsOf (furtherLines r₁) = fieldsOf (furtherLines r₂)) ∧
        { s₁ with headers := s₂.headers } = s₂ := by
  refine ⟨?_, furtherLines_of_not_mem, ?_⟩
  · simp only [readWith_eq_ok_iff hraw hfields]
    exact ⟨fun ⟨_, hall, _⟩ => hall, fun hall => ⟨_, hall, rfl⟩⟩
  intro s₁ s₂ h₁ h₂
  have hheaders {r : String} {s : Settings} (h : readWith c mode provider w r = .ok s) :
      s.headers = ("Referer", trimmed (firstLine r)) ::
        (fieldsOf (furtherLines r) ++ fieldsOf c.headerFields) := by
    obtain ⟨-, rfl⟩ := (readWith_eq_ok_iff hraw hfields).1 h
    rw [← fieldsOf_append]
    rfl
  refine ⟨hheaders h₁, ?_, ?_, ?_⟩
  · rw [hheaders h₁, List.length_cons, List.length_append, fieldsOf, fieldsOf, List.length_map,
      List.length_map, ← List.length_eq_zero_iff]
    omega
  · rw [hheaders h₁, hheaders h₂, List.tail_cons, List.tail_cons, List.append_left_inj]
  · obtain ⟨-, rfl⟩ := (readWith_eq_ok_iff hraw hfields).1 h₁
    obtain ⟨-, rfl⟩ := (readWith_eq_ok_iff hraw hfields).1 h₂
    exact held_of_build r₁ r₂ _

/-- A caller with a line of its own, which names a referrer of one line or of three, of which the
second is blank. -/
def linked : Config where
  headerFields := ["A: 1"]
  backendOptions := [("timeout", "5")]

theorem further_lines_decide_linked :
    let read := readWith linked .read .none ({ state := () } : World Unit)
    ∃ s₁ s₂, read "home\r\n \nB:2" = .ok s₁ ∧ read "home" = .ok s₂ ∧
      s₁.headers = [("Referer", "home"), ("B", "2"), ("A", "1")] ∧
      s₁.headers.tail ≠ s₂.headers.tail ∧
      furtherLines "home" = [] ∧ s₂.headers.length = 2 ∧
      { s₁ with headers := s₂.headers } = s₂ := by
  intro read
  have hraw : headersKey ∉ linked.backendOptions.map (·.1) := by decide
  have hfields : ∀ line ∈ linked.headerFields, '\n' ∉ line.toList := by decide
  have hdecide := further_lines_decide hraw hfields .read .none ({ state := () } : World Unit)
  obtain ⟨s₁, h₁⟩ : ∃ s, read "home\r\n \nB:2" = .ok s := (hdecide _ "home").1.2 (by decide +kernel)
  obtain ⟨s₂, h₂⟩ : ∃ s, read "home" = .ok s := (hdecide _ "home").1.2 (by decide +kernel)
  obtain ⟨hheaders, -, htail, hrest⟩ := (hdecide _ _).2.2 s₁ s₂ h₁ h₂
  obtain ⟨-, hone, hadded⟩ := hdecide "home" "home"
  refine ⟨s₁, s₂, h₁, h₂, ?_, ?_, hone (by decide), ?_, hrest⟩
  · rw [hheaders]
    decide +kernel
  · rw [Ne, htail]
    decide +kernel
  · exact (hadded s₂ s₂ h₂ h₂).2.1.2 (by decide +kernel)

/-- A line feed in a referrer is enough for a second field: nothing but the referrer was named. -/
theorem second_line_is_field :
    let read := readWith {} .read .none ({ state := () } : World Unit)
    ∃ s₁ s₂, read "home" = .ok s₁ ∧ read "home\r\nX-Injected: 1" = .ok s₂ ∧
      s₁.headers = [("Referer", "home")] ∧
      s₂.headers = [("Referer", "home"), ("X-Injected", "1")] ∧
      s₁.headers.tail ≠ s₂.headers.tail ∧
      s₂.headers.length ≠ (counted ({} : Config).headerFields).length + 1 :=
  ⟨_, _, rfl, rfl, by decide +kernel⟩

end Http.Settings

end ByteStream
