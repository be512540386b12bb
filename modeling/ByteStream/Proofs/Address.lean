/-
# ByteStream.Proofs.Address -- which marks of an address are seen through

The marks in front of an address are cut off once each and in order, so a mark in front of an
address makes no difference exactly if the address is not empty and cutting it off leaves no mark
that would have been cut off by itself (`marks_transparent`). Behind `lavf://` that is a second
`lavf://`; behind `ffmpeg://`, which comes last in the order, it is either mark.

Where the address is a byte stream, its URL is what stands behind the marks, character for
character, with the new name of streaming over HTTP for an old one; it never starts with an old
name or with that of a camera. No other address reaches a backend.
-/

import ByteStream.Memory
import ByteStream.Stream
import Mathlib.Data.List.Sublists

namespace ByteStream.Address

/-! ## Cutting marks off -/

theorem dropMark_append (mark : String) (cs : List Char) :
    dropMark mark (mark.toList ++ cs) = cs := by
  rw [dropMark, Text.after?_append, Option.getD_some]

theorem dropMark_of_unmarked {mark : String} {cs : List Char} (h : ¬ mark.toList <+: cs) :
    dropMark mark cs = cs := by
  rw [dropMark, Text.after?_eq_none_iff.2 h, Option.getD_none]

/-- What is cut off stood in front. -/
theorem eq_or_eq_append_dropMark (mark : String) (cs : List Char) :
    cs = dropMark mark cs ∨ cs = mark.toList ++ dropMark mark cs := by
  by_cases h : mark.toList <+: cs
  · obtain ⟨rest, rfl⟩ := h
    rw [dropMark_append]
    exact .inr rfl
  · exact .inl (dropMark_of_unmarked h).symm

theorem length_dropMark_le (mark : String) (cs : List Char) :
    (dropMark mark cs).length ≤ cs.length := by
  rcases eq_or_eq_append_dropMark mark cs with h | h
  · exact Nat.le_of_eq (congrArg List.length h).symm
  · have hlength := congrArg List.length h
    rw [List.length_append] at hlength
    omega

theorem dropMarks_eq (cs : List Char) :
    dropMarks cs = dropMark "ffmpeg://" (dropMark "lavf://" cs) := rfl

/-- Each of the marks was cut off once or not at all, in their order. -/
theorem exists_cut (names : List String) (cs : List Char) :
    ∃ cut, cut.Sublist names ∧
      cs = (String.join cut).toList ++ names.foldl (fun cs mark => dropMark mark cs) cs := by
  induction names generalizing cs with
  | nil => exact ⟨[], .slnil, rfl⟩
  | cons mark names ih =>
    obtain ⟨cut, hcut, hrest⟩ := ih (dropMark mark cs)
    rcases eq_or_eq_append_dropMark mark cs with h | h
    · refine ⟨cut, hcut.cons mark, ?_⟩
      rw [List.foldl_cons, ← hrest]
      exact h
    · refine ⟨mark :: cut, hcut.cons_cons mark, ?_⟩
      rw [List.foldl_cons, String.join_cons, String.toList_append, List.append_assoc, ← hrest]
      exact h

/-- A mark in front is cut off, so at least the shorter one is gone. -/
theorem length_dropMarks_lt {mark : String} (hmark : mark ∈ marks) {cs : List Char}
    (h : mark.toList <+: cs) : (dropMarks cs).length + 7 ≤ cs.length := by
  obtain ⟨rest, rfl⟩ := h
  rw [dropMarks_eq]
  simp only [marks, List.mem_cons, List.not_mem_nil, or_false] at hmark
  rcases hmark with rfl | rfl
  · have hle := length_dropMark_le "ffmpeg://" rest
    rw [dropMark_append, List.length_append]
    change _ ≤ 7 + rest.length
    omega
  · have hother : ¬ "lavf://".toList <+: "ffmpeg://".toList ++ rest := by simp
    rw [dropMark_of_unmarked hother, dropMark_append, List.length_append]
    change _ ≤ 9 + rest.length
    omega

/-! ## What is left -/

/-- No delegated and no old name starts the name that old ones are replaced by. -/
theorem not_prefix_streamingOverHttp {old : String} (h : old ∈ delegated :: legacy)
    (tail : List Char) : ¬ old.toList <+: streamingOverHttp.toList ++ tail := by
  simp only [legacy, List.mem_cons, List.not_mem_nil, or_false] at h
  rcases h with rfl | rfl | rfl
  · simp [delegated, streamingOverHttp]
  · simp [streamingOverHttp]
  · simp [streamingOverHttp]

theorem afterLegacy?_eq_some {cs tail : List Char} (h : afterLegacy? cs = some tail) :
    ∃ old ∈ legacy, cs = old.toList ++ tail := by
  obtain ⟨old, hold, hafter⟩ := List.exists_of_findSome?_eq_some h
  exact ⟨old, hold, Text.after?_eq_some_iff.1 hafter⟩

theorem afterLegacy?_eq_none {cs : List Char} (h : afterLegacy? cs = none) :
    ∀ old ∈ legacy, ¬ old.toList <+: cs := by
  intro old hold
  exact Text.after?_eq_none_iff.1 (List.findSome?_eq_none_iff.1 h old hold)

/-- A byte stream is opened as it is, or under the new name for an old one. -/
theorem of_classify_openAt {cs : List Char} {url : String} (h : classify cs = .openAt url) :
    (∀ old ∈ delegated :: legacy, ¬ old.toList <+: url.toList) ∧
      (cs = url.toList ∨
        ∃ old ∈ legacy, ∃ tail, cs = old.toList ++ tail ∧
          url.toList = streamingOverHttp.toList ++ tail) := by
  unfold classify at h
  split at h
  · exact absurd h (by simp)
  · rename_i hdelegated
    cases hafter : afterLegacy? cs with
    | some tail =>
      rw [hafter] at h
      obtain rfl := Target.openAt.inj h
      obtain ⟨old, hold, hcs⟩ := afterLegacy?_eq_some hafter
      rw [String.toList_ofList]
      exact ⟨fun name hname => not_prefix_streamingOverHttp hname tail,
        .inr ⟨old, hold, tail, hcs, rfl⟩⟩
    | none =>
      rw [hafter] at h
      obtain rfl := Target.openAt.inj h
      rw [String.toList_ofList]
      refine ⟨List.forall_mem_cons.2 ⟨?_, afterLegacy?_eq_none hafter⟩, .inl rfl⟩
      rintro ⟨rest, hrest⟩
      exact hdelegated (Text.startsWith_iff.2 ⟨rest, hrest.symm⟩)

/-- A new name is longer than the old one by one character at most. -/
theorem length_of_classify_openAt {cs : List Char} {url : String} (h : classify cs = .openAt url) :
    url.toList.length ≤ cs.length + 1 := by
  rcases (of_classify_openAt h).2 with rfl | ⟨old, hold, tail, rfl, hurl⟩
  · omega
  · rw [hurl, List.length_append, List.length_append]
    have hname : streamingOverHttp.toList.length ≤ old.toList.length + 1 := by
      simp only [legacy, List.mem_cons, List.not_mem_nil, or_false] at hold
      rcases hold with rfl | rfl <;> decide
    omega

/-- A mark that is left in front is part of the URL. -/
theorem classify_of_mark {mark : String} (hmark : mark ∈ marks) {cs : List Char}
    (h : mark.toList <+: cs) : classify cs = .openAt (String.ofList cs) := by
  obtain ⟨rest, rfl⟩ := h
  simp only [marks, List.mem_cons, List.not_mem_nil, or_false] at hmark
  rcases hmark with rfl | rfl <;> rfl

/-! ## Whole addresses -/

theorem normalize_of_ne {address : String} (h : address ≠ "") :
    normalize address = .ok (classify (dropMarks address.toList)) := if_neg h

/-- The only address that is refused is the empty one. -/
theorem normalize_eq_error_iff {address : String} {e : StreamError} :
    normalize address = .error e ↔ address = "" ∧ e = .input "no URL" := by
  unfold normalize
  split
  · rename_i h
    rw [Except.error.injEq]
    exact ⟨fun he => ⟨h, he.symm⟩, fun he => he.2.symm⟩
  · rename_i h
    exact ⟨fun he => absurd he (by simp), fun he => absurd he.1 h⟩

/-- Behind `lavf://` only the other mark is still looked for. -/
theorem normalize_lavf (rest : String) :
    normalize ("lavf://" ++ rest) = .ok (classify (dropMark "ffmpeg://" rest.toList)) := by
  have hne : "lavf://" ++ rest ≠ "" := by simp
  rw [normalize_of_ne hne, String.toList_append, dropMarks_eq, dropMark_append]

/-- Behind `ffmpeg://` no mark is looked for. -/
theorem normalize_ffmpeg (rest : String) :
    normalize ("ffmpeg://" ++ rest) = .ok (classify rest.toList) := by
  have hne : "ffmpeg://" ++ rest ≠ "" := by simp
  have hother : ¬ "lavf://".toList <+: "ffmpeg://".toList ++ rest.toList := by simp
  rw [normalize_of_ne hne, String.toList_append, dropMarks_eq, dropMark_of_unmarked hother,
    dropMark_append]

/-- An address with a mark in front is not its own URL. -/
theorem normalize_ne_self {mark : String} (hmark : mark ∈ marks) {address : String}
    (h : mark.toList <+: address.toList) : normalize address ≠ .ok (.openAt address) := by
  intro hself
  have hshorter := length_dropMarks_lt hmark h
  have hne : address ≠ "" := by
    rintro rfl
    exact absurd hshorter (by simp)
  rw [normalize_of_ne hne] at hself
  have hlength := length_of_classify_openAt (Except.ok.inj hself)
  omega

theorem normalize_empty_ne (target : Target) : normalize "" ≠ .ok target := by
  simp [normalize]

/-- Behind `lavf://` an address is seen as it is by itself, unless it is empty or starts with that
mark again. -/
theorem normalize_lavf_eq_iff (rest : String) :
    normalize ("lavf://" ++ rest) = normalize rest ↔
      rest ≠ "" ∧ ¬ "lavf://".toList <+: rest.toList := by
  rw [normalize_lavf]
  constructor
  · intro hsame
    refine ⟨?_, ?_⟩
    · rintro rfl
      exact normalize_empty_ne _ hsame.symm
    · intro hmark
      -- the second mark stays where it is, while by itself it would be cut off
      have hother : ¬ "ffmpeg://".toList <+: rest.toList := by
        obtain ⟨tail, htail⟩ := hmark
        rw [← htail]
        simp
      rw [dropMark_of_unmarked hother, classify_of_mark (by simp [marks]) hmark,
        String.ofList_toList] at hsame
      exact normalize_ne_self (by simp [marks]) hmark hsame.symm
  · rintro ⟨hne, hmark⟩
    rw [normalize_of_ne hne, dropMarks_eq, dropMark_of_unmarked hmark]

/-- Behind `ffmpeg://` it is, unless it is empty or starts with either mark. -/
theorem normalize_ffmpeg_eq_iff (rest : String) :
    normalize ("ffmpeg://" ++ rest) = normalize rest ↔
      rest ≠ "" ∧ ∀ mark ∈ marks, ¬ mark.toList <+: rest.toList := by
  rw [normalize_ffmpeg]
  constructor
  · intro hsame
    refine ⟨?_, ?_⟩
    · rintro rfl
      exact normalize_empty_ne _ hsame.symm
    · intro mark hmark hprefix
      rw [classify_of_mark hmark hprefix, String.ofList_toList] at hsame
      exact normalize_ne_self hmark hprefix hsame.symm
  · rintro ⟨hne, hmarks⟩
    rw [normalize_of_ne hne, dropMarks_eq, dropMark_of_unmarked (hmarks _ (by simp [marks])),
      dropMark_of_unmarked (hmarks _ (by simp [marks]))]

/-- The URL of a byte stream is the address without some of the marks, an old name replaced. -/
theorem url_of_normalize {address url : String} (h : normalize address = .ok (.openAt url)) :
    (∀ old ∈ delegated :: legacy, ¬ old.toList <+: url.toList) ∧
      ∃ cut rest, cut.Sublist marks ∧ address = String.join cut ++ rest ∧
        (url = rest ∨
          ∃ old ∈ legacy, ∃ tail, rest = old ++ tail ∧ url = streamingOverHttp ++ tail) := by
  have hne : address ≠ "" := by
    rintro rfl
    exact normalize_empty_ne _ h
  rw [normalize_of_ne hne] at h
  obtain ⟨hnames, hurl⟩ := of_classify_openAt (Except.ok.inj h)
  obtain ⟨cut, hcut, haddress⟩ := exists_cut marks address.toList
  refine ⟨hnames, cut, String.ofList (dropMarks address.toList), hcut, ?_, ?_⟩
  · rw [← String.toList_inj, String.toList_append, String.toList_ofList]
    exact haddress
  · rcases hurl with hsame | ⟨old, hold, tail, hrest, hurl⟩
    · left
      rw [hsame, String.ofList_toList]
    · refine .inr ⟨old, hold, String.ofList tail, ?_, ?_⟩
      · rw [hrest, String.ofList_append, String.ofList_toList]
      · rw [← String.toList_inj, hurl, String.toList_append, String.toList_ofList]

/-! ## The whole -/

/-- **Marks are seen through, except in front of nothing and of marks that would be cut off by
themselves.** The URL of a byte stream starts with no name that is delegated or replaced; it is the
address with none, one or both of the marks cut off, and at most an old name replaced by the new
one. An address that is refused or delegated is answered without the backend, whatever that is:
nothing happens to the world. -/
theorem marks_transparent :
    (∀ rest, normalize ("lavf://" ++ rest) = normalize rest ↔
      rest ≠ "" ∧ ¬ "lavf://".toList <+: rest.toList) ∧
    (∀ rest, normalize ("ffmpeg://" ++ rest) = normalize rest ↔
      rest ≠ "" ∧ ¬ "lavf://".toList <+: rest.toList ∧ ¬ "ffmpeg://".toList <+: rest.toList) ∧
    (∀ address url, normalize address = .ok (.openAt url) →
      (∀ old ∈ ["rtsp:", "mms://", "mmshttp://"], ¬ old.toList <+: url.toList) ∧
      ∃ cut rest, cut ∈ ["", "lavf://", "ffmpeg://", "lavf://ffmpeg://"] ∧ address = cut ++ rest ∧
        (url = rest ∨
          ∃ old ∈ ["mms://", "mmshttp://"], ∃ tail, rest = old ++ tail ∧ url = "mmsh://" ++ tail)) ∧
    ∀ {σ κ : Type} (B : Backend σ κ) (config : Config) (cookies : CookieProvider σ)
      (address : String) (mode : Mode) (w : World σ),
      (∀ e, normalize address = .error e →
        Stream.openAt B config cookies address mode w = (.error e, w)) ∧
      ∀ hint, normalize address = .ok (.delegate hint) →
        Stream.openAt B config cookies address mode w = (.ok (.delegate hint), w) := by
  refine ⟨normalize_lavf_eq_iff, ?_, ?_, ?_⟩
  · intro rest
    rw [normalize_ffmpeg_eq_iff]
    simp only [marks, List.forall_mem_cons, List.not_mem_nil, false_imp_iff, implies_true, and_true]
  · intro address url h
    obtain ⟨hnames, cut, rest, hcut, haddress, hurl⟩ := url_of_normalize h
    refine ⟨hnames, String.join cut, rest, ?_, haddress, hurl⟩
    have hsome : cut ∈ marks.sublists := List.mem_sublists.2 hcut
    exact List.mem_map_of_mem (f := String.join) hsome
  · intro σ κ B config cookies address mode w
    refine ⟨?_, ?_⟩
    · intro e h
      simp only [Stream.openAt, h]
    · intro hint h
      simp only [Stream.openAt, h]

/-- Both marks are cut off and an old name is replaced; a camera and the empty address get to no
backend. -/
theorem marks_transparent_live :
    normalize "lavf://ffmpeg://mms://h/live?a=%20" = .ok (.openAt "mmsh://h/live?a=%20") ∧
      (∀ old ∈ ["rtsp:", "mms://", "mmshttp://"], ¬ old.toList <+: "mmsh://h/live?a=%20".toList) ∧
      (∀ w, Stream.openAt Memory.backend {} .none "ffmpeg://rtsp://camera/1" .read w =
        (.ok (.delegate .rtsp), w)) ∧
      ∀ w, Stream.openAt Memory.backend {} .none "" .read w = (.error (.input "no URL"), w) := by
  obtain ⟨-, -, hurl, hopen⟩ := marks_transparent
  have hlive : normalize "lavf://ffmpeg://mms://h/live?a=%20" =
      .ok (.openAt "mmsh://h/live?a=%20") := rfl
  have hcamera : normalize "ffmpeg://rtsp://camera/1" = .ok (.delegate .rtsp) := rfl
  refine ⟨hlive, (hurl _ _ hlive).1, ?_, ?_⟩
  · intro w
    exact (hopen Memory.backend {} .none "ffmpeg://rtsp://camera/1" .read w).2 _ hcamera
  · intro w
    exact (hopen Memory.backend {} .none "" .read w).1 _ rfl

end ByteStream.Address
