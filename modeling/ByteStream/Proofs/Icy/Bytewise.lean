/-
# ByteStream.Proofs.Icy.Bytewise -- in-band metadata, one byte at a time

The plainest reader of a stream with metadata looks at one byte of the wire and then at the next.
`Demuxer.onByte` is that machine: a byte of audio is given out, a length byte opens a block, a
byte of metadata joins the block, and the last byte of a block turns its text into the packet.
It has no chunks, no room and no limits to compare, so it can be held against the format at sight.

`demux` moves whole stretches of bytes. Proved here: it does to the bytes it uses what the machine
does to them one by one (`exists_used_demux`), and it stops only when the input is used up or the
room is full and more audio is due (`demux_stops`). `onBytes_segment` says what the machine makes
of one turn of the format: the interval of audio, the length byte, and the block.
-/

import ByteStream.Icy.Demuxer

namespace ByteStream.Icy.Demuxer

/-! ## The machine -/

/-- One byte of the wire: the audio it gives, and the state afterwards. -/
def onByte (d : Demuxer) (b : UInt8) : Bytes × Demuxer :=
  match d.phase with
  | .audio left => ([b], { d with phase := if left = 1 then .length else .audio (left - 1) })
  | .length =>
    ([], { d with
      phase := if b = 0 then .audio d.interval else .metadata (16 * b.toNat)
      block := [] })
  | .metadata left =>
    if left = 1 then
      let text := blockText (d.block ++ [b])
      ([], { d with
        phase := .audio d.interval
        block := []
        packet := if text = "" then d.packet else some text
        sequence := if text = "" then d.sequence else d.sequence + 1 })
    else ([], { d with phase := .metadata (left - 1), block := d.block ++ [b] })

/-- Bytes of the wire one after the other: all audio they give, and the state afterwards. -/
def onBytes (d : Demuxer) : Bytes → Bytes × Demuxer
  | [] => ([], d)
  | b :: rest =>
    let now := d.onByte b
    let later := now.2.onBytes rest
    (now.1 ++ later.1, later.2)

@[simp] theorem onBytes_nil (d : Demuxer) : d.onBytes [] = ([], d) := rfl

theorem onBytes_cons (d : Demuxer) (b : UInt8) (rest : Bytes) :
    d.onBytes (b :: rest) =
      ((d.onByte b).1 ++ ((d.onByte b).2.onBytes rest).1, ((d.onByte b).2.onBytes rest).2) := rfl

/-- The state carries everything across a cut of the wire. -/
theorem onBytes_append (d : Demuxer) (first second : Bytes) :
    d.onBytes (first ++ second) =
      ((d.onBytes first).1 ++ ((d.onBytes first).2.onBytes second).1,
       ((d.onBytes first).2.onBytes second).2) := by
  induction first generalizing d with
  | nil => simp
  | cons b rest ih => simp only [List.cons_append, onBytes_cons, ih, List.append_assoc]

/-! ## States that occur -/

/-- A phase fits an interval and the block received so far: what counts down has at least one byte
to come, no more audio is due than an interval, and a block is on its way to a multiple of the
unit. -/
def Fits (interval : Nat) (block : Bytes) : Phase → Prop
  | .audio left => 0 < left ∧ left ≤ interval ∧ block = []
  | .length => block = []
  | .metadata left =>
    0 < left ∧ ∃ units, 0 < units ∧ units < 256 ∧ block.length + left = blockUnit * units

/-- What holds of every state that a stream with metadata can be in. -/
structure Sound (d : Demuxer) : Prop where
  interval_pos : 0 < d.interval
  fits : Fits d.interval d.block d.phase

theorem sound_ofInterval {m : Nat} {d : Demuxer} (h : ofInterval m = some d) : d.Sound := by
  unfold ofInterval at h
  split at h
  · exact absurd h (by simp)
  · rename_i hm
    have hpos : 0 < m := Nat.pos_of_ne_zero hm
    rw [← Option.some.inj h]
    exact ⟨hpos, hpos, Nat.le_refl m, rfl⟩

theorem Sound.of_audio {d : Demuxer} (h : d.Sound) {left : Nat} (hphase : d.phase = .audio left) :
    0 < left ∧ left ≤ d.interval ∧ d.block = [] := by
  have hfits := h.fits
  rwa [hphase] at hfits

theorem Sound.of_metadata {d : Demuxer} (h : d.Sound) {left : Nat}
    (hphase : d.phase = .metadata left) :
    0 < left ∧ ∃ units, 0 < units ∧ units < 256 ∧ d.block.length + left = blockUnit * units := by
  have hfits := h.fits
  rwa [hphase] at hfits

@[simp] theorem interval_onByte (d : Demuxer) (b : UInt8) :
    (d.onByte b).2.interval = d.interval := by
  unfold onByte
  split
  · rfl
  · rfl
  · split <;> rfl

@[simp] theorem interval_onBytes (d : Demuxer) (bytes : Bytes) :
    (d.onBytes bytes).2.interval = d.interval := by
  induction bytes generalizing d with
  | nil => rfl
  | cons b rest ih => rw [onBytes_cons, ih, interval_onByte]

/-- A byte takes a state that can occur to one that can occur. -/
theorem Sound.onByte {d : Demuxer} (h : d.Sound) (b : UInt8) : (d.onByte b).2.Sound := by
  refine ⟨by simpa using h.interval_pos, ?_⟩
  obtain ⟨hpos, hfits⟩ := h
  unfold Demuxer.onByte
  split
  · rename_i left hphase
    rw [hphase] at hfits
    obtain ⟨hleft, hle, hblock⟩ := hfits
    by_cases hone : left = 1
    · simp only [if_pos hone]
      exact hblock
    · simp only [if_neg hone]
      exact ⟨by omega, by omega, hblock⟩
  · by_cases hzero : b = 0
    · simp only [if_pos hzero]
      exact ⟨hpos, Nat.le_refl _, rfl⟩
    · have hb : b.toNat ≠ 0 := fun hb => hzero (UInt8.toNat_inj.1 hb)
      simp only [if_neg hzero]
      exact ⟨by omega, b.toNat, by omega, b.toNat_lt, by simp [blockUnit]⟩
  · rename_i left hphase
    rw [hphase] at hfits
    obtain ⟨hleft, units, hunits, hlt, hlength⟩ := hfits
    by_cases hone : left = 1
    · simp only [if_pos hone]
      exact ⟨hpos, Nat.le_refl _, rfl⟩
    · simp only [if_neg hone]
      refine ⟨by omega, units, hunits, hlt, ?_⟩
      rw [List.length_append, List.length_singleton]
      omega

theorem Sound.onBytes {d : Demuxer} (h : d.Sound) (bytes : Bytes) : (d.onBytes bytes).2.Sound := by
  induction bytes generalizing d with
  | nil => exact h
  | cons b rest ih => exact ih (h.onByte b)

/-! ## Stretches of bytes -/

/-- A stretch of audio that is due passes as it is. -/
theorem onBytes_audio {d : Demuxer} {left : Nat} {part : Bytes} (hphase : d.phase = .audio left)
    (hleft : 0 < left) (hpart : part.length ≤ left) :
    d.onBytes part = (part, d.passAudio left part.length) := by
  -- The first byte either ends the interval, and then it is the whole part, or leaves one byte
  -- less of the interval to the rest.
  induction part generalizing d left with
  | nil =>
    have hkeep : d.passAudio left 0 = d := by
      rw [passAudio, if_neg (by omega), Nat.sub_zero, ← hphase]
    rw [onBytes_nil, List.length_nil, hkeep]
  | cons b rest ih =>
    rw [List.length_cons] at hpart ⊢
    by_cases hone : left = 1
    · have hrest : rest = [] := List.length_eq_zero_iff.1 (by omega)
      subst hone hrest
      simp [onBytes_cons, Demuxer.onByte, hphase, passAudio]
    · have hstep : d.onByte b = ([b], { d with phase := .audio (left - 1) }) := by
        simp only [Demuxer.onByte, hphase, if_neg hone]
      rw [onBytes_cons, hstep, ih rfl (by omega) (by omega)]
      simp only [passAudio, List.cons_append, List.nil_append, Prod.mk.injEq, true_and]
      by_cases hall : left = rest.length + 1
      · rw [if_pos (by omega), if_pos hall]
      · rw [if_neg (by omega), if_neg hall, show left - 1 - rest.length = left - (rest.length + 1)
          from by omega]

/-- A stretch of the block under way joins it and gives no audio. -/
theorem onBytes_metadata {d : Demuxer} {left : Nat} {part : Bytes}
    (hphase : d.phase = .metadata left) (hleft : 0 < left) (hpart : part.length ≤ left) :
    d.onBytes part = ([], d.takeMetadata left part) := by
  -- As for audio, but the bytes pile up in the block, and the last one closes it.
  induction part generalizing d left with
  | nil =>
    have hkeep : d.takeMetadata left [] = d := by
      rw [takeMetadata, if_neg (by rw [List.length_nil]; omega), List.append_nil, List.length_nil,
        Nat.sub_zero, ← hphase]
    rw [onBytes_nil, hkeep]
  | cons b rest ih =>
    rw [List.length_cons] at hpart
    by_cases hone : left = 1
    · have hrest : rest = [] := List.length_eq_zero_iff.1 (by omega)
      subst hone hrest
      simp only [onBytes_cons, Demuxer.onByte, hphase, takeMetadata, finishBlock, onBytes_nil,
        List.length_singleton, if_true, List.append_nil]
      split <;> rfl
    · have hstep : d.onByte b =
          ([], { d with phase := .metadata (left - 1), block := d.block ++ [b] }) := by
        simp only [Demuxer.onByte, hphase, if_neg hone]
      rw [onBytes_cons, hstep, ih rfl (by omega) (by omega)]
      simp only [takeMetadata, List.nil_append, List.length_cons, List.append_assoc,
        List.cons_append, Prod.mk.injEq, true_and]
      by_cases hall : left = rest.length + 1
      · rw [if_pos (by omega), if_pos hall]
        rfl
      · rw [if_neg (by omega), if_neg hall, show left - 1 - rest.length = left - (rest.length + 1)
          from by omega]

/-- The length byte opens the block it announces. -/
theorem onByte_length {d : Demuxer} (hphase : d.phase = .length) (b : UInt8) :
    d.onByte b = ([], d.startBlock b) := by
  have hlen : b.toNat * blockUnit = 0 ↔ b = 0 := by
    rw [Nat.mul_eq_zero, or_iff_left (by decide)]
    exact UInt8.toNat_inj (b := 0)
  simp only [Demuxer.onByte, hphase, startBlock, hlen]
  simp only [blockUnit, Nat.mul_comm]

/-! ## What a turn of the loop keeps -/

/-- A stretch of audio within the interval leaves a state that can occur. -/
theorem Sound.passAudio {d : Demuxer} (h : d.Sound) {left : Nat} {part : Bytes}
    (hphase : d.phase = .audio left) (hpart : part.length ≤ left) :
    (d.passAudio left part.length).Sound := by
  have hafter := h.onBytes part
  rwa [onBytes_audio hphase (h.of_audio hphase).1 hpart] at hafter

/-- So does a length byte, -/
theorem Sound.startBlock {d : Demuxer} (h : d.Sound) (hphase : d.phase = .length) (b : UInt8) :
    (d.startBlock b).Sound := by
  have hafter := h.onByte b
  rwa [onByte_length hphase] at hafter

/-- and a stretch of metadata within the block. -/
theorem Sound.takeMetadata {d : Demuxer} (h : d.Sound) {left : Nat} {part : Bytes}
    (hphase : d.phase = .metadata left) (hpart : part.length ≤ left) :
    (d.takeMetadata left part).Sound := by
  have hafter := h.onBytes part
  rwa [onBytes_metadata hphase (h.of_metadata hphase).1 hpart] at hafter

/-! ## Cutting out is going byte by byte -/

/-- A call does to the bytes it uses what the machine does to them one by one. -/
theorem exists_used_demux {d : Demuxer} (h : d.Sound) (input : Bytes) (room : Nat) :
    ∃ used, input = used ++ (d.demux input room).rest ∧
      d.onBytes used = ((d.demux input room).audio, (d.demux input room).state) := by
  -- The induction follows the loop. Each turn hands the machine one stretch; that it stays within
  -- the phase is what `Sound` is for.
  fun_induction demux d input room with
  | case1 => exact ⟨[], rfl, rfl⟩
  | case2 => exact ⟨[], rfl, rfl⟩
  | case3 d room b rest left hphase hroom n after ih =>
    have hpart : ((b :: rest).take n).length = n := by
      rw [List.length_take]
      omega
    have hle : ((b :: rest).take n).length ≤ left := by omega
    have hpass : d.onBytes ((b :: rest).take n) = ((b :: rest).take n, d.passAudio left n) := by
      have hbulk := onBytes_audio hphase (h.of_audio hphase).1 hle
      rwa [hpart] at hbulk
    have hsound : (d.passAudio left n).Sound := by
      have hafter := h.passAudio hphase hle
      rwa [hpart] at hafter
    obtain ⟨used, hused, hrun⟩ := ih hsound
    refine ⟨(b :: rest).take n ++ used, ?_, ?_⟩
    · rw [List.append_assoc, ← hused, List.take_append_drop]
    · rw [onBytes_append, hpass, hrun]
  | case4 d room b rest hphase ih =>
    obtain ⟨used, hused, hrun⟩ := ih (h.startBlock hphase b)
    refine ⟨b :: used, ?_, ?_⟩
    · rw [List.cons_append, ← hused]
    · rw [onBytes_cons, onByte_length hphase, hrun, List.nil_append]
  | case5 d room b rest left hphase n ih =>
    have hpart : ((b :: rest).take n).length ≤ left := by
      rw [List.length_take]
      omega
    have hjoin := onBytes_metadata hphase (h.of_metadata hphase).1 hpart
    obtain ⟨used, hused, hrun⟩ := ih (h.takeMetadata hphase hpart)
    refine ⟨(b :: rest).take n ++ used, ?_, ?_⟩
    · rw [List.append_assoc, ← hused, List.take_append_drop]
    · rw [onBytes_append, hjoin, hrun, List.nil_append]

theorem Sound.demux {d : Demuxer} (h : d.Sound) (input : Bytes) (room : Nat) :
    (d.demux input room).state.Sound := by
  obtain ⟨used, -, hrun⟩ := exists_used_demux h input room
  have hafter := h.onBytes used
  rwa [hrun] at hafter

theorem Sound.interval_demux {d : Demuxer} (h : d.Sound) (input : Bytes) (room : Nat) :
    (d.demux input room).state.interval = d.interval := by
  obtain ⟨used, -, hrun⟩ := exists_used_demux h input room
  have hafter := interval_onBytes d used
  rwa [hrun] at hafter

/-- A call ends because the input is used up, or because the room is full and audio is next. -/
theorem demux_stops (d : Demuxer) (input : Bytes) (room : Nat) :
    (d.demux input room).rest = [] ∨
      (d.demux input room).audio.length = room ∧
        ∃ left, (d.demux input room).state.phase = .audio left := by
  -- Only a turn in the audio phase looks at the room, so only there can input be left over.
  fun_induction demux d input room with
  | case1 => exact .inl rfl
  | case2 d b rest left hphase => exact .inr ⟨rfl, left, hphase⟩
  | case3 d room b rest left hphase hroom n after ih =>
    rcases ih with hrest | ⟨hfull, hnext⟩
    · exact .inl hrest
    · refine .inr ⟨?_, hnext⟩
      have hafter : after.audio.length = room - n := hfull
      rw [List.length_append, List.length_take, hafter]
      omega
  | case4 d room b rest hphase ih => exact ih
  | case5 d room b rest left hphase n ih => exact ih

/-! ## One turn of the format -/

/-- What a whole block does to the packet and its number. -/
def noteBlock (d : Demuxer) (block : Bytes) : Demuxer :=
  if blockText block = "" then d
  else { d with packet := some (blockText block), sequence := d.sequence + 1 }

/-- At the start of an interval, a turn of the format -- as much audio as the interval says, the
length byte, a block of so many units -- gives its audio, notes its block, and ends at the start
of an interval. -/
theorem onBytes_segment {d : Demuxer} (h : d.Sound) (hphase : d.phase = .audio d.interval)
    {audio block : Bytes} {units : UInt8} (haudio : audio.length = d.interval)
    (hblock : block.length = 16 * units.toNat) :
    d.onBytes (audio ++ units :: block) =
      (audio, if units = 0 then d else d.noteBlock block) := by
  have hclear : d.block = [] := (h.of_audio hphase).2.2
  have hpass : d.onBytes audio = (audio, { d with phase := .length }) := by
    rw [onBytes_audio hphase h.interval_pos (Nat.le_of_eq haudio), passAudio,
      if_pos haudio.symm]
  rw [onBytes_append, hpass, onBytes_cons]
  by_cases hzero : units = 0
  · subst hzero
    have hnone : block = [] := List.length_eq_zero_iff.1 hblock
    have hkeep : { d with phase := .audio d.interval, block := [] } = d := by
      rw [← hphase, ← hclear]
    simp [Demuxer.onByte, hnone, hkeep]
  · have hpos : 0 < 16 * units.toNat := by
      have hne : units.toNat ≠ 0 := fun hb => hzero (UInt8.toNat_inj.1 hb)
      omega
    have hopen : ({ d with phase := .length } : Demuxer).onByte units =
        ([], { d with phase := .metadata (16 * units.toNat), block := [] }) := by
      simp only [Demuxer.onByte, if_neg hzero]
    rw [hopen, onBytes_metadata rfl hpos (Nat.le_of_eq hblock), if_neg hzero]
    simp only [takeMetadata, if_pos hblock.symm, finishBlock, noteBlock, List.nil_append,
      List.append_nil, Prod.mk.injEq, true_and]
    split
    · rw [← hphase, ← hclear]
    · rw [← hphase, ← hclear]

end ByteStream.Icy.Demuxer
