/-
# ByteStream.Proofs.Icy.Title -- the grammar of a title

A packet has a title if it holds the mark. It is then cut in three places: in front of the first
mark, behind it, and in front of the next quote, or at the end if no quote follows. `TitleCut.Cuts`
says so in terms of the texts alone. Proved here: this grammar has one reading for each packet that
holds the mark and none for any other, and the title is that of the reading (`title_by_grammar`).

The mark may come in front in parts, as in `StreamTitStreamTitle='`, and it may come again behind;
what decides is the occurrence that has the least in front of it. Cutting bytes and cutting
characters come to the same, since neither the mark nor the quote can begin inside a character.
-/

import ByteStream.Icy.Title
import ByteStream.Proofs.Text.Utf8

namespace ByteStream.Icy

open Text

/-! ## The grammar -/

/-- What a packet is cut into, apart from the mark. -/
structure TitleCut where
  /-- What stands in front of the mark. -/
  before : String
  title : String
  /-- What stands behind the title, from the quote on. -/
  behind : String

/-- The packet is cut at its first mark and at the quote behind it, if there is one. -/
structure TitleCut.Cuts (c : TitleCut) (packet : String) : Prop where
  whole : packet = c.before ++ titleMark ++ c.title ++ c.behind
  first : ∀ front rest, packet = front ++ titleMark ++ rest → c.before.length ≤ front.length
  unquoted : quoteMark ∉ c.title.toList
  closed : c.behind = "" ∨ ∃ rest, c.behind = String.singleton quoteMark ++ rest

/-! ## Up to the quote -/

theorem takeWhile_of_closed {title behind : List Char} (htitle : quoteMark ∉ title)
    (hbehind : behind = [] ∨ ∃ rest, behind = quoteMark :: rest) :
    (title ++ behind).takeWhile (· != quoteMark) = title := by
  have hall : ∀ c ∈ title, (c != quoteMark) = true := by
    intro c hc
    rw [bne_iff_ne]
    rintro rfl
    exact htitle hc
  rw [List.takeWhile_append_of_pos hall]
  rcases hbehind with rfl | ⟨rest, rfl⟩
  · simp
  · simp

theorem closed_dropWhile (cs : List Char) :
    cs.dropWhile (· != quoteMark) = [] ∨
      ∃ rest, cs.dropWhile (· != quoteMark) = quoteMark :: rest := by
  cases hdrop : cs.dropWhile (· != quoteMark) with
  | nil => exact .inl rfl
  | cons c rest =>
    have hhead := List.head?_dropWhile_not (· != quoteMark) cs
    rw [hdrop] at hhead
    obtain rfl : c = quoteMark := by simpa using hhead
    exact .inr ⟨rest, rfl⟩

/-! ## The title is that of the cut -/

theorem titleMark_ne_nil : titleMark.toList ≠ [] := by decide

/-- The cut in characters. -/
theorem TitleCut.Cuts.cutAtText {c : TitleCut} {packet : String} (h : c.Cuts packet) :
    cutAtText titleMark.toList packet.toList =
      some (c.before.toList, c.title.toList ++ c.behind.toList) := by
  rw [cutAtText_eq_some_iff_first titleMark_ne_nil]
  refine ⟨by rw [h.whole]; simp, ?_⟩
  intro front rest hfront
  have hpacket : packet = String.ofList front ++ titleMark ++ String.ofList rest := by
    rw [← String.toList_inj, hfront]
    simp
  simpa [← String.length_toList] using h.first _ _ hpacket

theorem TitleCut.Cuts.title?_eq {c : TitleCut} {packet : String} (h : c.Cuts packet) :
    title? packet = some c.title := by
  have hbehind : c.behind.toList = [] ∨ ∃ rest, c.behind.toList = quoteMark :: rest := by
    rcases h.closed with hnone | ⟨rest, hrest⟩
    · exact .inl (by rw [hnone]; rfl)
    · exact .inr ⟨rest.toList, by rw [hrest]; simp⟩
  simp only [title?, titleChars, h.cutAtText, Option.map_some,
    takeWhile_of_closed h.unquoted hbehind, String.ofList_toList]

/-- A packet that holds the mark is cut somehow. -/
theorem exists_cuts {packet front rest : String} (h : packet = front ++ titleMark ++ rest) :
    ∃ c : TitleCut, c.Cuts packet := by
  have hinfix : titleMark.toList <:+: packet.toList :=
    ⟨front.toList, rest.toList, by rw [h]; simp⟩
  cases hcut : cutAtText titleMark.toList packet.toList with
  | none => exact absurd hinfix (cutAtText_eq_none_iff.1 hcut)
  | some parts =>
    obtain ⟨before, later⟩ := parts
    obtain ⟨hwhole, hfirst⟩ := (cutAtText_eq_some_iff_first titleMark_ne_nil).1 hcut
    refine ⟨⟨String.ofList before, String.ofList (later.takeWhile (· != quoteMark)),
      String.ofList (later.dropWhile (· != quoteMark))⟩, ?_, ?_, ?_, ?_⟩
    · rw [← String.toList_inj, hwhole]
      simp
    · intro front rest hfront
      have hearly := hfirst front.toList rest.toList (by rw [hfront]; simp)
      simpa [← String.length_toList] using hearly
    · simp only [String.toList_ofList]
      intro hmem
      have hkept := List.all_takeWhile (p := (· != quoteMark)) (l := later)
      rw [List.all_eq_true] at hkept
      exact absurd (hkept _ hmem) (by simp)
    · rcases closed_dropWhile later with hnone | ⟨rest, hrest⟩
      · exact .inl (by rw [hnone])
      · refine .inr ⟨String.ofList rest, ?_⟩
        rw [hrest, ← String.toList_inj]
        simp

/-- No packet is cut in two ways. -/
theorem TitleCut.Cuts.unique {c other : TitleCut} {packet : String} (h : c.Cuts packet)
    (hother : other.Cuts packet) : other = c := by
  have htitle : other.title = c.title :=
    Option.some.inj (hother.title?_eq.symm.trans h.title?_eq)
  have hcut := hother.cutAtText.symm.trans h.cutAtText
  obtain ⟨hbefore, hlater⟩ := Prod.mk.inj (Option.some.inj hcut)
  rw [htitle, List.append_cancel_left_eq] at hlater
  cases c
  cases other
  simp only [TitleCut.mk.injEq]
  exact ⟨String.toList_inj.1 hbefore, htitle, String.toList_inj.1 hlater⟩

/-- The mark occurs in `before ++ titleMark` at the end only, if no other reaches into it. -/
theorem only_mark_iff {before : String} :
    (∀ front rest, before ++ titleMark = front ++ titleMark ++ rest → rest = "") ↔
      ¬ titleMark.toList <:+: before.toList ++ titleMark.toList.dropLast := by
  rw [first_iff titleMark_ne_nil (List.append_nil _).symm]
  constructor
  · intro honly front rest hfront
    have hrest := honly (String.ofList front) (String.ofList rest) (by
      rw [← String.toList_inj]
      simpa using hfront)
    have hempty : rest = [] := by simpa using congrArg String.toList hrest
    have hlength := congrArg List.length hfront
    rw [hempty] at hlength
    simp only [List.length_append, List.length_nil] at hlength
    omega
  · intro hfirst front rest hfront
    have hchars : before.toList ++ titleMark.toList =
        front.toList ++ titleMark.toList ++ rest.toList := by
      rw [← String.toList_append, hfront]
      simp
    have hearly := hfirst _ _ hchars
    have hlength := congrArg List.length hchars
    simp only [List.length_append] at hlength
    rw [← String.toList_inj]
    exact List.length_eq_zero_iff.1 (by omega)

/-- What stands in front of such a mark is cut off there, whatever follows. -/
theorem cuts_of_only_mark {before title behind : String}
    (honly : ∀ front rest, before ++ titleMark = front ++ titleMark ++ rest → rest = "")
    (htitle : quoteMark ∉ title.toList)
    (hbehind : behind = "" ∨ ∃ rest, behind = String.singleton quoteMark ++ rest) :
    (⟨before, title, behind⟩ : TitleCut).Cuts (before ++ titleMark ++ title ++ behind) := by
  refine ⟨rfl, ?_, htitle, hbehind⟩
  intro front rest hfront
  have hchars : (before ++ titleMark ++ title ++ behind).toList =
      before.toList ++ titleMark.toList ++ (title.toList ++ behind.toList) := by simp
  have hearly := (first_iff titleMark_ne_nil hchars).1 (only_mark_iff.1 honly)
    front.toList rest.toList (by rw [hfront]; simp)
  simpa [← String.length_toList] using hearly

/-! ## The same cut in bytes -/

theorem ascii_titleMark : ∀ c ∈ titleMark.toList, c.toNat < 128 := by
  -- over the characters of the mark, and not over all that there are
  have hall : titleMark.toList.all (fun c => decide (c.toNat < 128)) = true := by decide
  simpa only [List.all_eq_true, decide_eq_true_eq] using hall

/-- The bytes of the mark do not begin further in front than those of the first mark, neither
between characters nor inside one. -/
theorem TitleCut.Cuts.first_utf8 {c : TitleCut} {packet : String} (h : c.Cuts packet)
    {front rest : Bytes} (hfront : utf8 packet = front ++ utf8 titleMark ++ rest) :
    (utf8 c.before).length ≤ front.length := by
  obtain ⟨before, behind, hpacket, hbefore, -⟩ :=
    exists_of_ascii titleMark_ne_nil ascii_titleMark hfront
  have hlength : c.before.toList.length ≤ before.length := by
    have hearly := h.first (String.ofList before) (String.ofList behind) (by
      rw [← String.toList_inj, hpacket]
      simp)
    simpa [← String.length_toList] using hearly
  have hstart : c.before.toList <+: before := by
    have hfirst : c.before.toList <+: packet.toList :=
      ⟨titleMark.toList ++ c.title.toList ++ c.behind.toList, by rw [h.whole]; simp⟩
    have hlater : before <+: packet.toList :=
      ⟨titleMark.toList ++ behind, by rw [hpacket, List.append_assoc]⟩
    exact List.prefix_of_prefix_length_le hfirst hlater hlength
  obtain ⟨more, hmore⟩ := hstart
  rw [← hbefore, ← hmore, List.flatMap_append, List.length_append]
  exact Nat.le_add_right ..

/-- Nor is the byte of the quote among those of the title. -/
theorem TitleCut.Cuts.unquoted_utf8 {c : TitleCut} {packet : String} (h : c.Cuts packet) :
    UInt8.ofNat quoteMark.toNat ∉ utf8 c.title := by
  intro hmem
  obtain ⟨front, rest, hbytes⟩ := List.append_of_mem hmem
  obtain ⟨before, q, behind, htitle, hq, -⟩ := exists_of_ascii_byte (by decide) hbytes
  obtain rfl : q = quoteMark := Char.toNat_inj.1 (hq.trans (by decide))
  exact h.unquoted (by rw [htitle]; simp)

/-! ## Exactly the grammar -/

/-- **The title of a packet is what its grammar says.** A packet has no title exactly if it does not
hold the mark. If it does, there is one way to cut it at its first mark and at the quote behind it,
and the title is what is cut out; the bytes of the packet are cut in the same places, at the first
bytes of the mark and the next byte of a quote. So a title without a quote is read back, whatever
stands in front of the mark and does not make an earlier one, and whatever stands behind the closing
quote, or if there is none. -/
theorem title_by_grammar (packet : String) :
    (title? packet = none ↔ ∀ front rest, packet ≠ front ++ titleMark ++ rest) ∧
      (∀ front rest, packet = front ++ titleMark ++ rest →
        ∃ c : TitleCut, c.Cuts packet ∧ title? packet = some c.title ∧
          (∀ other : TitleCut, other.Cuts packet → other = c) ∧
          (∀ front rest, utf8 packet = front ++ utf8 titleMark ++ rest →
            (utf8 c.before).length ≤ front.length) ∧
          UInt8.ofNat quoteMark.toNat ∉ utf8 c.title) ∧
      ∀ before title rest,
        (∀ front behind, before ++ titleMark = front ++ titleMark ++ behind → behind = "") →
        quoteMark ∉ title.toList →
          title? (before ++ titleMark ++ title ++ String.singleton quoteMark ++ rest) =
            some title ∧
          title? (before ++ titleMark ++ title) = some title := by
  refine ⟨⟨?absent, ?none⟩, ?cut, ?readBack⟩
  case absent =>
    intro hnone front rest hpacket
    obtain ⟨c, hc⟩ := exists_cuts hpacket
    rw [hc.title?_eq] at hnone
    exact absurd hnone (by simp)
  case none =>
    intro habsent
    have hinfix : ¬ titleMark.toList <:+: packet.toList := by
      rintro ⟨front, rest, hpacket⟩
      refine habsent (String.ofList front) (String.ofList rest) ?_
      rw [← String.toList_inj, ← hpacket]
      simp
    rw [title?, titleChars, cutAtText_eq_none_iff.2 hinfix]
    rfl
  case cut =>
    intro front rest hpacket
    obtain ⟨c, hc⟩ := exists_cuts hpacket
    exact ⟨c, hc, hc.title?_eq, fun other hother => hc.unique hother,
      fun front rest hfront => hc.first_utf8 hfront, hc.unquoted_utf8⟩
  case readBack =>
    intro before title rest honly htitle
    constructor
    · have hcuts := cuts_of_only_mark honly htitle (.inr ⟨rest, rfl⟩)
      rw [← String.append_assoc] at hcuts
      exact hcuts.title?_eq
    · have hcuts := cuts_of_only_mark honly htitle (.inl rfl)
      rw [String.append_empty] at hcuts
      exact hcuts.title?_eq

/-- Half a mark in front of the mark, letters of two and of three bytes in the title, and a second
mark behind the quote. -/
theorem title_by_grammar_twice :
    quoteMark ∉ "Füße 音".toList ∧
      title? "StreamTitStreamTitle='Füße 音';StreamTitle='x';" = some "Füße 音" ∧
      title? "StreamTitStreamTitle='Füße 音" = some "Füße 音" ∧
      ∃ c : TitleCut, c.Cuts "StreamTitStreamTitle='Füße 音';StreamTitle='x';" ∧
        c.title = "Füße 音" := by
  have hpacket : "StreamTitStreamTitle='Füße 音';StreamTitle='x';" =
      "StreamTit" ++ titleMark ++ "Füße 音" ++ String.singleton quoteMark ++
        ";StreamTitle='x';" := by
    decide +kernel
  have htitle : quoteMark ∉ "Füße 音".toList := by decide +kernel
  obtain ⟨-, hcut, hread⟩ := title_by_grammar "StreamTitStreamTitle='Füße 音';StreamTitle='x';"
  obtain ⟨hclosed, hopen⟩ :=
    hread "StreamTit" "Füße 音" ";StreamTitle='x';" (only_mark_iff.2 (by decide +kernel)) htitle
  obtain ⟨c, hc, hgives, -⟩ := hcut "StreamTit" "Füße 音';StreamTitle='x';" (by decide +kernel)
  rw [← hpacket] at hclosed
  exact ⟨htitle, hclosed, hopen, c, hc, Option.some.inj (hgives.symm.trans hclosed)⟩

end ByteStream.Icy
