/-
# ByteStream.Proofs.Icy.Encoding -- writing a stream with metadata, and reading it back

A writer of the format sends segments: an interval of audio, the length byte, and a text in UTF-8,
filled up with NULs to a whole number of units. `encode` is that writer. A text may be as long as
the length byte can say, may hold NULs, but may not end with one, since the padding is cut off; the
empty text takes no block at all. `Segment` has only segments that can be written.

Proved here: however the encoding arrives, and in whatever portions it is drained, the demuxer gives
back the audio and the texts (`decode_encode`). A call with room for at least one byte uses at least
one of the bytes that wait (`length_pending_drain`), so draining comes to an end.
-/

import ByteStream.Proofs.Icy.Packets
import ByteStream.Proofs.Icy.Schedule
import ByteStream.Proofs.Text.Utf8

namespace ByteStream.Icy

open Text

/-! ## The writer -/

/-- The most bytes that a text can have: as many units as the length byte can say. -/
def maxTextLength : Nat := blockUnit * 255

/-- An interval of audio and the text that is sent after it. -/
structure Segment (interval : Nat) where
  audio : Bytes
  text : String
  full : audio.length = interval
  fits : (utf8 text).length ≤ maxTextLength
  /-- A NUL at the end would be taken for padding. -/
  unpadded : text.toList.getLast? ≠ some '\x00'

/-- How many units a text takes. -/
def textUnits (text : String) : Nat := ((utf8 text).length + (blockUnit - 1)) / blockUnit

/-- The block of a text: its bytes, and NULs up to a whole number of units. -/
def textBlock (text : String) : Bytes :=
  utf8 text ++ List.replicate (blockUnit * textUnits text - (utf8 text).length) 0

/-- The bytes of a segment. -/
def Segment.encode {interval : Nat} (s : Segment interval) : Bytes :=
  s.audio ++ UInt8.ofNat (textUnits s.text) :: textBlock s.text

/-- The bytes of segments, and behind them the beginning of an interval of audio. -/
def encode {interval : Nat} (segments : List (Segment interval)) (last : Bytes) : Bytes :=
  segments.flatMap Segment.encode ++ last

/-! ## Blocks read back -/

theorem length_textBlock (text : String) : (textBlock text).length =
    blockUnit * textUnits text := by
  have hroom : (utf8 text).length ≤ blockUnit * textUnits text := by
    unfold textUnits blockUnit
    omega
  rw [textBlock, List.length_append, List.length_replicate]
  omega

/-- NULs are read as NULs. -/
theorem decodeLossy_zeros (n : Nat) :
    decodeLossy (List.replicate n 0) = List.replicate n '\x00' := by
  induction n with
  | zero => rfl
  | succ n ih =>
    rw [List.replicate_succ, decodeLossy_one rfl, ih, List.replicate_succ]
    rfl

/-- The text of a block is the text that was written, without a NUL of the padding. -/
theorem blockText_textBlock {text : String} (h : text.toList.getLast? ≠ some '\x00') :
    Demuxer.blockText (textBlock text) = text := by
  have hlast : ∀ c, text.toList.getLast? = some c → (c == '\x00') = false := by
    intro c hc
    rw [beq_eq_false_iff_ne]
    rintro rfl
    exact h hc
  rw [Demuxer.blockText, textBlock, decodeLossy_utf8_append, decodeLossy_zeros,
    trimEnd_append_of_all _ (by simp), trimEnd_eq_self hlast, String.ofList_toList]

/-- The length byte of a segment says how long its block is. -/
theorem Segment.toNat_units {m : Nat} (s : Segment m) :
    (UInt8.ofNat (textUnits s.text)).toNat = textUnits s.text := by
  have hfits : (utf8 s.text).length ≤ 16 * 255 := s.fits
  apply toNat_byte
  unfold textUnits blockUnit
  omega

/-! ## Segments read back -/

/-- The texts that are sent, without the empty ones. -/
def sentTexts {m : Nat} (segments : List (Segment m)) : List String :=
  nonempty (segments.map Segment.text)

namespace Demuxer

/-- A segment gives its audio, and its text is noted. -/
theorem onBytes_encode_segment {m : Nat} {d : Demuxer} (h : d.Sound)
    (hphase : d.phase = .audio d.interval) (hm : d.interval = m) (s : Segment m) :
    d.onBytes s.encode = (s.audio, d.noteText s.text) := by
  have hblock : (textBlock s.text).length =
      blockUnit * (UInt8.ofNat (textUnits s.text)).toNat := by
    rw [length_textBlock, s.toNat_units]
  rw [Segment.encode, onBytes_turn h hphase (s.full.trans hm.symm) hblock,
    blockText_textBlock s.unpadded]

/-- Segments give their audio, and their texts are noted one after the other. -/
theorem onBytes_encode_segments {m : Nat} {d : Demuxer} (h : d.Sound)
    (hphase : d.phase = .audio d.interval) (hm : d.interval = m) (segments : List (Segment m))
    (last : Bytes) :
    d.onBytes (encode segments last) =
      (segments.flatMap Segment.audio ++
          (((segments.map Segment.text).foldl noteText d).onBytes last).1,
        (((segments.map Segment.text).foldl noteText d).onBytes last).2) := by
  induction segments generalizing d with
  | nil => rfl
  | cons s later ih =>
    have hnext := ih (h.noteText s.text) (by rw [phase_noteText, interval_noteText, hphase])
      (by rw [interval_noteText, hm])
    have hsplit : encode (s :: later) last = s.encode ++ encode later last := by
      rw [encode, List.flatMap_cons, List.append_assoc]
      rfl
    rw [hsplit, onBytes_append, onBytes_encode_segment h hphase hm s, hnext, List.flatMap_cons,
      List.append_assoc, List.map_cons, List.foldl_cons]

variable {m : Nat} {start : Demuxer}

/-- **The machine undoes the writer.** -/
theorem onBytes_encode (h : ofInterval m = some start) (segments : List (Segment m)) {last : Bytes}
    (hlast : last.length < m) :
    (start.onBytes (encode segments last)).1 = segments.flatMap Segment.audio ++ last ∧
      (start.onBytes (encode segments last)).2.packet = (sentTexts segments).getLast? ∧
      (start.onBytes (encode segments last)).2.sequence = (sentTexts segments).length := by
  have hsound := sound_ofInterval h
  have hpos := hsound.interval_pos
  unfold ofInterval at h
  split at h
  · exact absurd h (by simp)
  · obtain rfl := Option.some.inj h
    rw [onBytes_encode_segments hsound rfl rfl, foldl_noteText,
      onBytes_audio rfl hpos (Nat.le_of_lt hlast)]
    exact ⟨rfl, Option.or_none, Nat.zero_add _⟩

end Demuxer

/-! ## Draining comes to an end -/

namespace Reading

theorem run_append (r : Reading) (before after : List Event) :
    r.run (before ++ after) = (r.run before).run after := List.foldl_append

/-- With room for a byte, at least one of the bytes that wait is used. -/
theorem length_pending_drain {r : Reading} (h : r.demuxer.Sound) (hpending : r.pending ≠ [])
    {room : Nat} (hroom : 0 < room) :
    (r.next (.drain room)).pending.length < r.pending.length := by
  -- If nothing were used, no audio would be given, and the call would have no reason to end.
  obtain ⟨used, hused, hrun⟩ := Demuxer.exists_used_demux h r.pending room
  have hsome : used ≠ [] := by
    rintro rfl
    rw [Demuxer.onBytes_nil] at hrun
    obtain ⟨haudio, -⟩ := Prod.mk.inj hrun
    rcases Demuxer.demux_stops r.demuxer r.pending room with hrest | ⟨hfull, -⟩
    · rw [hrest] at hused
      exact hpending hused
    · rw [← haudio, List.length_nil] at hfull
      omega
  have hlength := congrArg List.length hused
  rw [List.length_append] at hlength
  have hpos := List.length_pos_iff.2 hsome
  show (r.demuxer.demux r.pending room).rest.length < r.pending.length
  omega

/-- As many calls with room as there are bytes that wait use them all. -/
theorem pending_run_drains {r : Reading} (h : r.demuxer.Sound) {rooms : List Nat}
    (hrooms : ∀ room ∈ rooms, 0 < room) (henough : r.pending.length ≤ rooms.length) :
    (r.run (rooms.map .drain)).pending = [] := by
  induction rooms generalizing r with
  | nil => exact List.length_eq_zero_iff.1 (Nat.le_zero.1 henough)
  | cons room later ih =>
    rw [List.length_cons] at henough
    apply ih (h.demux r.pending room)
    · intro n hn
      exact hrooms n (List.mem_cons_of_mem _ hn)
    · by_cases hpending : r.pending = []
      · show (r.demuxer.demux r.pending room).rest.length ≤ later.length
        rw [hpending, Demuxer.demux_nil]
        exact Nat.zero_le _
      · have hless := length_pending_drain h hpending (hrooms room (List.mem_cons_self ..))
        omega

end Reading

/-! ## Reading undoes writing -/

theorem fed_drains (rooms : List Nat) : fed (rooms.map .drain) = [] := by
  induction rooms with
  | nil => rfl
  | cons room later ih => exact ih

/-- **Reading undoes writing.** Let the bytes of segments arrive in any chunks, with any calls
between them, and be drained by calls with room for any positive numbers of bytes. As many calls
as there are bytes left use them all, and then the demuxer has given the audio of the segments,
shows the last text that is not empty, exactly as it was sent, and has counted those texts. -/
theorem decode_encode {m : Nat} (hm : 0 < m) (segments : List (Segment m)) {last : Bytes}
    (hlast : last.length < m) :
    ∃ start, Demuxer.ofInterval m = some start ∧
      ∀ events, fed events = encode segments last → ∀ rooms : List Nat,
        (∀ room ∈ rooms, 0 < room) →
        (({ demuxer := start } : Reading).run events).pending.length ≤ rooms.length →
        let final := ({ demuxer := start } : Reading).run (events ++ rooms.map .drain)
        final.pending = [] ∧ final.audio = segments.flatMap Segment.audio ++ last ∧
          final.demuxer.packet = (sentTexts segments).getLast? ∧
          final.demuxer.sequence = (sentTexts segments).length := by
  have hstart : Demuxer.ofInterval m = some ⟨m, .audio m, [], none, 0⟩ := by
    rw [Demuxer.ofInterval, if_neg (by omega)]
  have hsound := Demuxer.sound_ofInterval hstart
  refine ⟨_, hstart, ?_⟩
  intro events hfed rooms hrooms henough
  dsimp only
  obtain ⟨used, -, hrun⟩ := Reading.tracks_run hsound events
  have hdemuxer := hsound.onBytes used
  rw [hrun] at hdemuxer
  have hpending := Reading.pending_run_drains hdemuxer hrooms henough
  rw [← Reading.run_append] at hpending
  have hall := (Reading.tracks_run hsound (events ++ rooms.map .drain)).onBytes_eq hpending
  rw [fed_append, fed_drains, List.append_nil, hfed] at hall
  obtain ⟨haudio, hpacket, hsequence⟩ := Demuxer.onBytes_encode hstart segments hlast
  rw [hall] at haudio hpacket hsequence
  exact ⟨hpending, haudio, hpacket, hsequence⟩

/-- Two intervals that nothing is said after, and between them one with a text of two umlauts and
a NUL. -/
def umlauts : List (Segment 2) :=
  [⟨[97, 98], "", rfl, by decide, by decide⟩,
    ⟨[99, 100], "\u00e4\x00\u00f6", rfl, by decide, by decide⟩,
    ⟨[101, 102], "", rfl, by decide, by decide⟩]

/-- Its encoding, with one more byte of audio, cut inside the first umlaut. -/
def umlautEvents : List Event :=
  [.feed [97, 98, 0, 99], .drain 1, .feed [100, 1, 195], .drain 4, .feed [164, 0, 195, 182],
    .feed (List.replicate 11 0 ++ [101, 102, 0, 103])]

theorem decode_encode_umlauts :
    0 < 2 ∧ ([103] : Bytes).length < 2 ∧ fed umlautEvents = encode umlauts [103] ∧
      (∀ room ∈ List.replicate 26 1, 0 < room) ∧
      ∃ start, Demuxer.ofInterval 2 = some start ∧
        let final := ({ demuxer := start } : Reading).run
          (umlautEvents ++ (List.replicate 26 1).map .drain)
        final.audio = [97, 98, 99, 100, 101, 102, 103] ∧
          final.demuxer.packet = some "\u00e4\x00\u00f6" ∧ final.demuxer.sequence = 1 := by
  have hlast : ([103] : Bytes).length < 2 := by decide
  have hfed : fed umlautEvents = encode umlauts [103] := by decide
  have hrooms : ∀ room ∈ List.replicate 26 1, 0 < room := by decide
  obtain ⟨start, hstart, hdecoded⟩ := decode_encode (by decide : 0 < 2) umlauts hlast
  -- No more bytes wait than have come.
  obtain ⟨used, hused, -⟩ := Reading.tracks_run (Demuxer.sound_ofInterval hstart) umlautEvents
  have hlength := congrArg List.length hused
  rw [List.length_append] at hlength
  have hcame : (fed umlautEvents).length = 26 := by decide
  obtain ⟨-, haudio, hpacket, hsequence⟩ :=
    hdecoded umlautEvents hfed (List.replicate 26 1) hrooms (by rw [List.length_replicate]; omega)
  exact ⟨by decide, hlast, hfed, hrooms, start, hstart, haudio, hpacket, hsequence⟩

end ByteStream.Icy
