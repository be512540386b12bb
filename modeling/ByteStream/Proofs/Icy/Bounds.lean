/-
# ByteStream.Proofs.Icy.Bounds -- cutting metadata out within bounds

`demux` is written over lists, and lists forgive much: of more bytes than there are one gets fewer,
and a difference is never below zero. A loop over a buffer is not forgiven anything. `Loop.turn` is
one turn of that loop, with a place in a buffer of fixed size and with numbers up to a largest one:
a difference below zero, a sum or product above the largest number, a slice that is not inside its
bytes and a copy between slices of different lengths each make the turn fail. Only the number of
packets is left to grow without end.

Proved here: from every state that calls lead to, the loop comes to its end, no turn fails, and what
it has done is what `demux` says (`exists_ends_demux`). Each turn uses a byte at least, so there are
no more turns than bytes that are used. Both rest on `Demuxer.Sound`: what counts down in a phase
has a byte to come.
-/

import ByteStream.Proofs.Icy.Bytewise

namespace ByteStream.Icy

/-! ## Steps that can fail -/

/-- A number, unless it is above the largest one. -/
def upTo? (top n : Nat) : Option Nat := if n ≤ top then some n else none

/-- The difference, unless it is below zero. -/
def minus? (a b : Nat) : Option Nat := if b ≤ a then some (a - b) else none

/-- The first `n` bytes and those behind them, unless there are fewer. -/
def cut? (n : Nat) (bytes : Bytes) : Option (Bytes × Bytes) :=
  if n ≤ bytes.length then some (bytes.take n, bytes.drop n) else none

/-- Copies `part` over the bytes from `start` up to `stop`, unless these are not all in the buffer
or are not as many as the part has. -/
def copyOver? (buffer : Bytes) (start stop : Nat) (part : Bytes) : Option Bytes :=
  if start ≤ stop ∧ stop ≤ buffer.length ∧ part.length = stop - start then
    some (buffer.take start ++ part ++ buffer.drop stop)
  else none

theorem upTo?_of_le {top n : Nat} (h : n ≤ top) : upTo? top n = some n := if_pos h

theorem minus?_of_le {a b : Nat} (h : b ≤ a) : minus? a b = some (a - b) := if_pos h

theorem cut?_of_le {n : Nat} {bytes : Bytes} (h : n ≤ bytes.length) :
    cut? n bytes = some (bytes.take n, bytes.drop n) := if_pos h

theorem copyOver?_append {part free : Bytes} (h : part.length ≤ free.length) (done : Bytes) :
    copyOver? (done ++ free) done.length (done.length + part.length) part =
      some (done ++ part ++ free.drop part.length) := by
  have hinside : done.length ≤ done.length + part.length ∧
      done.length + part.length ≤ (done ++ free).length ∧
        part.length = done.length + part.length - done.length := by
    rw [List.length_append]
    omega
  rw [copyOver?, if_pos hinside, List.take_left, List.drop_append]
  simp

/-! ## The loop -/

/-- The loop between two turns. -/
structure Loop where
  demuxer : Demuxer
  /-- The bytes that have arrived and are not used. -/
  input : Bytes
  buffer : Bytes
  /-- How many bytes of the buffer hold audio. -/
  written : Nat
deriving DecidableEq, Repr

/-- What a turn comes to. -/
inductive Turn
  /-- There is nothing more to do. -/
  | ends
  | goesOn (l : Loop)
  /-- A step of the turn cannot be done. -/
  | fails

/-- A turn goes on if each of its steps can be done. -/
def Turn.ofSteps : Option Loop → Turn
  | some l => .goesOn l
  | none => .fails

namespace Loop

/-- The audio that is due, is there and fits goes from the input to the buffer. -/
def copyAudio (top : Nat) (l : Loop) (left : Nat) : Option Loop := do
  let free ← minus? l.buffer.length l.written
  let n := min left (min l.input.length free)
  let stop ← upTo? top (l.written + n)
  let (part, rest) ← cut? n l.input
  let buffer ← copyOver? l.buffer l.written stop part
  let phase ← if left = n then some .length else (minus? left n).map .audio
  some ⟨{ l.demuxer with phase }, rest, buffer, stop⟩

/-- The length byte says how much metadata follows. -/
def readLength (top : Nat) (l : Loop) (b : UInt8) (rest : Bytes) : Option Loop := do
  let len ← upTo? top (b.toNat * blockUnit)
  let phase : Phase := if len = 0 then .audio l.demuxer.interval else .metadata len
  some { l with demuxer := { l.demuxer with block := [], phase }, input := rest }

/-- The metadata that is due and is there goes from the input to the block. -/
def joinBlock (l : Loop) (left : Nat) : Option Loop := do
  let n := min left l.input.length
  let (part, rest) ← cut? n l.input
  let block := l.demuxer.block ++ part
  let demuxer ←
    if left = n then some (l.demuxer.finishBlock block)
    else (minus? left n).map fun left => { l.demuxer with block, phase := .metadata left }
  some { l with demuxer, input := rest }

/-- One turn: it ends when the input is used up, or when audio is due and the buffer is full. -/
def turn (top : Nat) (l : Loop) : Turn :=
  match l.input with
  | [] => .ends
  | b :: rest =>
    match l.demuxer.phase with
    | .audio left =>
      if l.written = l.buffer.length then .ends else .ofSteps (l.copyAudio top left)
    | .length => .ofSteps (l.readLength top b rest)
    | .metadata left => .ofSteps (l.joinBlock left)

/-- The loop comes to its end in so many turns, and none of them fails. -/
inductive Ends (top : Nat) : Loop → Nat → Loop → Prop
  | here {l : Loop} (h : l.turn top = .ends) : Ends top l 0 l
  | later {l next last : Loop} {turns : Nat} (h : l.turn top = .goesOn next)
      (hnext : Ends top next turns last) : Ends top l (turns + 1) last

/-! ## Turns that go on -/

variable {top : Nat} {d : Demuxer} {input done free : Bytes}

theorem turn_audio {left n : Nat} (hphase : d.phase = .audio left) (hinput : input ≠ [])
    (hfree : free ≠ []) (htop : (done ++ free).length ≤ top)
    (hn : n = min left (min input.length free.length)) :
    turn top ⟨d, input, done ++ free, done.length⟩ =
      .goesOn ⟨d.passAudio left n, input.drop n, done ++ input.take n ++ free.drop n,
        (done ++ input.take n).length⟩ := by
  have hroom : (done ++ free).length = done.length + free.length := List.length_append
  have hpos : 0 < free.length := List.length_pos_iff.2 hfree
  have hpart : (input.take n).length = n := by
    rw [List.length_take]
    omega
  have hcopy : copyOver? (done ++ free) done.length (done.length + n) (input.take n) =
      some (done ++ input.take n ++ free.drop n) := by
    have h := copyOver?_append (by omega : (input.take n).length ≤ free.length) done
    rwa [hpart] at h
  have hsteps : copyAudio top ⟨d, input, done ++ free, done.length⟩ left =
      some ⟨d.passAudio left n, input.drop n, done ++ input.take n ++ free.drop n,
        (done ++ input.take n).length⟩ := by
    have hleft : minus? (done ++ free).length done.length = some free.length := by
      rw [minus?_of_le (by omega), hroom, Nat.add_sub_cancel_left]
    simp only [copyAudio, hleft, Option.bind_eq_bind, Option.bind_some, ← hn,
      upTo?_of_le (show done.length + n ≤ top by omega),
      cut?_of_le (show n ≤ input.length by omega), hcopy]
    rw [List.length_append, hpart]
    by_cases hall : left = n
    · simp only [if_pos hall, Demuxer.passAudio]
    · simp only [if_neg hall, Demuxer.passAudio, minus?_of_le (show n ≤ left by omega),
        Option.map_some, Option.bind_some]
  obtain ⟨b, rest, rfl⟩ := List.exists_cons_of_ne_nil hinput
  have hnotFull : done.length ≠ (done ++ free).length := by omega
  simp only [turn, hphase, if_neg hnotFull, hsteps, Turn.ofSteps]

variable {buffer : Bytes} {written : Nat}

theorem turn_length {b : UInt8} {rest : Bytes} (hphase : d.phase = .length)
    (hunits : blockUnit * 255 ≤ top) :
    turn top ⟨d, b :: rest, buffer, written⟩ = .goesOn ⟨d.startBlock b, rest, buffer, written⟩ := by
  have hlen : b.toNat * blockUnit ≤ top := by
    have hb := b.toNat_lt
    simp only [blockUnit] at hunits ⊢
    omega
  simp only [turn, hphase, readLength, upTo?_of_le hlen, Option.bind_eq_bind, Option.bind_some,
    Turn.ofSteps, Demuxer.startBlock]

theorem turn_metadata {left n : Nat} (hphase : d.phase = .metadata left) (hinput : input ≠ [])
    (hn : n = min left input.length) :
    turn top ⟨d, input, buffer, written⟩ =
      .goesOn ⟨d.takeMetadata left (input.take n), input.drop n, buffer, written⟩ := by
  have hpart : (input.take n).length = n := by
    rw [List.length_take]
    omega
  have hsteps : joinBlock ⟨d, input, buffer, written⟩ left =
      some ⟨d.takeMetadata left (input.take n), input.drop n, buffer, written⟩ := by
    simp only [joinBlock, ← hn, cut?_of_le (show n ≤ input.length by omega), Option.bind_eq_bind,
      Option.bind_some, Demuxer.takeMetadata, hpart]
    by_cases hall : left = n
    · simp only [if_pos hall]
    · simp only [if_neg hall, minus?_of_le (show n ≤ left by omega), Option.map_some,
        Option.bind_some]
  obtain ⟨b, rest, rfl⟩ := List.exists_cons_of_ne_nil hinput
  simp only [turn, hphase, hsteps, Turn.ofSteps]

/-! ## The whole loop -/

/-- Where the loop stands when it has written the audio of a call behind what was done before, over
the first of the free bytes. -/
def after (out : Demuxer.Demuxed) (done free : Bytes) : Loop :=
  ⟨out.state, out.rest, done ++ out.audio ++ free.drop out.audio.length,
    (done ++ out.audio).length⟩

theorem after_of_no_audio (d : Demuxer) (rest done free : Bytes) :
    after ⟨[], rest, d⟩ done free = ⟨d, rest, done ++ free, done.length⟩ := by
  simp [after]

/-- Audio can be written in two stretches. -/
theorem after_append (out : Demuxer.Demuxed) (part done free : Bytes) :
    after { out with audio := part ++ out.audio } done free =
      after out (done ++ part) (free.drop part.length) := by
  simp only [after, List.drop_drop, List.length_append, List.append_assoc]

/-- From a sound state the loop over the free part of a buffer ends without failure, in no more
turns than bytes that it uses, and leaves what `demux` says. -/
theorem exists_ends_demux (h : d.Sound) (hunits : blockUnit * 255 ≤ top) (input : Bytes)
    (room : Nat) : ∀ done free : Bytes, free.length = room → (done ++ free).length ≤ top →
      ∃ turns, turns + (d.demux input room).rest.length ≤ input.length ∧
        Ends top ⟨d, input, done ++ free, done.length⟩ turns
          (after (d.demux input room) done free) := by
  -- The induction follows `demux`. Each of its turns is one of the loop; that a turn moves at least
  -- one byte is where the phase must have a byte to come.
  fun_induction Demuxer.demux d input room with
  | case1 d room =>
    intro done free hroom htop
    rw [after_of_no_audio]
    exact ⟨0, Nat.le_refl _, .here rfl⟩
  | case2 d b rest left hphase =>
    intro done free hroom htop
    have hfull : done.length = (done ++ free).length := by
      rw [List.length_append, hroom, Nat.add_zero]
    have hend : turn top ⟨d, b :: rest, done ++ free, done.length⟩ = .ends := by
      simp only [turn, hphase, if_pos hfull]
    rw [after_of_no_audio]
    exact ⟨0, Nat.le_of_eq (Nat.zero_add _), .here hend⟩
  | case3 d room b rest left hphase hne n out ih =>
    intro done free hroom htop
    have hleft := (h.of_audio hphase).1
    have hlength : (b :: rest).length = rest.length + 1 := rfl
    have hpart : ((b :: rest).take n).length = n := by
      rw [List.length_take]
      omega
    have hsound : (d.passAudio left n).Sound := by
      rw [← hpart]
      exact h.passAudio hphase (by omega)
    have hfree : free ≠ [] := List.length_pos_iff.1 (by omega)
    have hturn := turn_audio hphase (List.cons_ne_nil b rest) hfree htop (n := n) (by omega)
    have hsize : (done ++ (b :: rest).take n ++ free.drop n).length = (done ++ free).length := by
      simp only [List.length_append, List.length_drop, hpart]
      omega
    obtain ⟨turns, hturns, hends⟩ := ih hsound (done ++ (b :: rest).take n) (free.drop n)
      (by rw [List.length_drop, hroom]) (hsize ▸ htop)
    refine ⟨turns + 1, ?_, ?_⟩
    · rw [List.length_drop] at hturns
      show turns + 1 + out.rest.length ≤ _
      have hout : turns + out.rest.length ≤ (b :: rest).length - n := hturns
      omega
    · rw [after_append, hpart]
      exact .later hturn hends
  | case4 d room b rest hphase ih =>
    intro done free hroom htop
    obtain ⟨turns, hturns, hends⟩ := ih (h.startBlock hphase b) done free hroom htop
    refine ⟨turns + 1, ?_, .later (turn_length hphase hunits) hends⟩
    rw [List.length_cons]
    omega
  | case5 d room b rest left hphase n ih =>
    intro done free hroom htop
    have hleft := (h.of_metadata hphase).1
    have hlength : (b :: rest).length = rest.length + 1 := rfl
    have hpart : ((b :: rest).take n).length ≤ left := by
      rw [List.length_take]
      omega
    have hturn : turn top ⟨d, b :: rest, done ++ free, done.length⟩ =
        .goesOn ⟨d.takeMetadata left ((b :: rest).take n), (b :: rest).drop n, done ++ free,
          done.length⟩ := turn_metadata hphase (List.cons_ne_nil b rest) rfl
    obtain ⟨turns, hturns, hends⟩ := ih (h.takeMetadata hphase hpart) done free hroom htop
    refine ⟨turns + 1, ?_, .later hturn hends⟩
    rw [List.length_drop] at hturns
    omega

end Loop

/-! ## States that calls lead to -/

namespace Demuxer

/-- The states that calls lead to from the start of a stream with the interval. -/
inductive Reached (m : Nat) : Demuxer → Prop
  | start {d : Demuxer} (h : ofInterval m = some d) : Reached m d
  | call {d : Demuxer} (h : Reached m d) (input : Bytes) (room : Nat) :
      Reached m (d.demux input room).state

theorem Reached.sound {m : Nat} {d : Demuxer} (h : Reached m d) : d.Sound := by
  induction h with
  | start h => exact sound_ofInterval h
  | call _ input room ih => exact ih.demux input room

theorem interval_ofInterval {m : Nat} {d : Demuxer} (h : ofInterval m = some d) :
    d.interval = m := by
  unfold ofInterval at h
  split at h
  · exact absurd h (by simp)
  · rw [← Option.some.inj h]

theorem Reached.interval_eq {m : Nat} {d : Demuxer} (h : Reached m d) : d.interval = m := by
  induction h with
  | start h => exact interval_ofInterval h
  | call h input room ih => rw [h.sound.interval_demux, ih]

/-- What waits after a call begins with audio: no first part of it, however short, is metadata
only. -/
theorem eq_nil_of_no_audio {d : Demuxer} {input part : Bytes} {room : Nat}
    (hpart : part <+: (d.demux input room).rest)
    (hnone : ((d.demux input room).state.onBytes part).1 = []) : part = [] := by
  cases part with
  | nil => rfl
  | cons b more =>
    rcases demux_stops d input room with hrest | ⟨-, left, hphase⟩
    · rw [hrest] at hpart
      exact absurd hpart (by simp)
    · rw [onBytes_cons, Demuxer.onByte, hphase] at hnone
      exact absurd hnone (by simp)

/-- **The demuxer stays within bounds.** Let the interval be any positive number, and let a call be
made, with any input and any buffer, in any state that calls have led to. The state is well-formed:
in the audio at least one byte and no more than an interval is due, and no block is held; nor is
one held before a length byte; in the metadata at least one byte is due, which with those held makes
a block of 1 to 255 units. The call ends, with no more turns than it uses bytes, and no turn takes a
slice that is not there, goes below zero or goes above the largest number. It uses a first part of
the input and writes a first part of the buffer, and leaves bytes over only when the buffer is full
and audio is due: all metadata that had come behind the last byte of audio is taken in. -/
theorem demux_within_bounds {m top : Nat} (hm : 0 < m) (hunits : blockUnit * 255 ≤ top) :
    (∃ start, ofInterval m = some start) ∧
      ∀ d, Reached m d → Fits m d.block d.phase ∧
        ∀ input buffer : Bytes, buffer.length ≤ top →
          let out := d.demux input buffer.length
          ∃ used turns, input = used ++ out.rest ∧ turns ≤ used.length ∧
            Loop.Ends top ⟨d, input, buffer, 0⟩ turns
              ⟨out.state, out.rest, out.audio ++ buffer.drop out.audio.length,
                out.audio.length⟩ ∧
            out.audio.length ≤ buffer.length ∧
            (out.rest = [] ∨
              out.audio.length = buffer.length ∧ ∃ left, out.state.phase = .audio left) ∧
            ∀ part, part <+: out.rest → (out.state.onBytes part).1 = [] → part = [] := by
  refine ⟨⟨_, if_neg (Nat.ne_of_gt hm)⟩, ?_⟩
  intro d hd
  refine ⟨hd.interval_eq ▸ hd.sound.fits, ?_⟩
  intro input buffer hbuffer out
  obtain ⟨used, hused, -⟩ := exists_used_demux hd.sound input buffer.length
  obtain ⟨turns, hturns, hends⟩ :=
    Loop.exists_ends_demux hd.sound hunits input buffer.length [] buffer rfl hbuffer
  refine ⟨used, turns, hused, ?_, hends, length_audio_le d input buffer.length,
    demux_stops d input buffer.length, fun part => eq_nil_of_no_audio⟩
  have hlength := congrArg List.length hused
  rw [List.length_append] at hlength
  omega

/-- A block of one unit is half received when the rest of it comes, and behind it two bytes of audio
and a length byte. With room for three bytes, the length byte is taken in as well. -/
theorem demux_within_bounds_midway :
    0 < 2 ∧ blockUnit * 255 ≤ 65535 ∧ [7, 7, 7].length ≤ 65535 ∧
      ∃ d, Reached 2 d ∧ d.phase = .metadata 14 ∧ Fits 2 d.block d.phase ∧
        ∃ turns last, turns ≤ 17 ∧
          Loop.Ends 65535 ⟨d, List.replicate 14 0 ++ [99, 100, 1], [7, 7, 7], 0⟩ turns last ∧
          last.demuxer = ⟨2, .metadata 16, [], some "hi", 1⟩ ∧ last.input = [] ∧
          last.buffer = [99, 100, 7] := by
  have hd : Reached 2 (demux ⟨2, .audio 2, [], none, 0⟩ [97, 98, 1, 104, 105] 2).state :=
    .call (.start rfl) _ _
  have hblock : finishBlock ⟨2, .metadata 14, [104, 105], none, 0⟩
      [104, 105, 0, 0, 0, 0, 0, 0, 0, 0, 0, 0, 0, 0, 0, 0] =
        ⟨2, .audio 2, [], some "hi", 1⟩ := by
    simp only [finishBlock]
    decide +kernel
  have hfirst : demux ⟨2, .audio 2, [], none, 0⟩ [97, 98, 1, 104, 105] 2 =
      ⟨[97, 98], [], ⟨2, .metadata 14, [104, 105], none, 0⟩⟩ := by
    simp [demux, startBlock, passAudio, takeMetadata, blockUnit]
  have hsecond : demux ⟨2, .metadata 14, [104, 105], none, 0⟩
      (List.replicate 14 0 ++ [99, 100, 1]) 3 =
        ⟨[99, 100], [], ⟨2, .metadata 16, [], some "hi", 1⟩⟩ := by
    simp [demux, startBlock, passAudio, takeMetadata, blockUnit, List.replicate, hblock]
  rw [hfirst] at hd
  obtain ⟨-, hbounds⟩ :=
    demux_within_bounds (by decide : 0 < 2) (by decide : blockUnit * 255 ≤ 65535)
  obtain ⟨hfits, hcalls⟩ := hbounds _ hd
  obtain ⟨used, turns, hused, hturns, hends, -⟩ :=
    hcalls (List.replicate 14 0 ++ [99, 100, 1]) [7, 7, 7] (by decide)
  have hlength := congrArg List.length hused
  rw [List.length_append] at hlength
  refine ⟨by decide, by decide, by decide, _, hd, rfl, hfits, turns, _, ?_, hends, ?_, ?_, ?_⟩
  · simp at hlength
    omega
  · exact congrArg Demuxed.state hsecond
  · exact congrArg Demuxed.rest hsecond
  · show (demux _ _ 3).audio ++ List.drop (demux _ _ 3).audio.length [7, 7, 7] = _
    rw [hsecond]
    rfl

end Demuxer

end ByteStream.Icy
