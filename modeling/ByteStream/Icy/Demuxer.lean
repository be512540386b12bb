/-
# ByteStream.Icy.Demuxer -- cutting metadata out of audio

A server that announces the interval `m` sends `m` bytes of audio, one length byte `L`, `16 * L`
bytes of metadata, and so on from the start. Metadata is text, filled up with NUL characters; a
block of none but NULs says that nothing has changed.

`demux` takes bytes that have arrived and room for audio, and gives the audio, the bytes it has
not used, and its new state. It stops when the bytes are used up or the room is; metadata that
follows the last byte of audio is taken in at once, so a packet shows as soon as the audio before
it has been read. Proved beside it: the audio fits the room.
-/

import ByteStream.Text.Utf8
import ByteStream.Text.Blank

namespace ByteStream.Icy

/-- What the next byte is. `left` counts the bytes to come before the next change. -/
inductive Phase
  | audio (left : Nat)
  | length
  | metadata (left : Nat)
deriving DecidableEq, Repr

/-- Bytes of metadata for each unit of the length byte. -/
def blockUnit : Nat := 16

/-- The state of a stream with in-band metadata. -/
structure Demuxer where
  interval : Nat
  phase : Phase
  /-- The metadata of the block that is being received. -/
  block : Bytes
  /-- The latest packet that was not empty. -/
  packet : Option String
  /-- How many packets were not empty. -/
  sequence : Nat
deriving DecidableEq, Repr

namespace Demuxer

/-- The start of a stream. An interval of 0 is none. -/
def ofInterval (interval : Nat) : Option Demuxer :=
  if interval = 0 then none else some ⟨interval, .audio interval, [], none, 0⟩

/-- The text of a block: its characters up to the NULs at the end. -/
def blockText (block : Bytes) : String :=
  String.ofList (Text.trimEnd (· == '\x00') (Text.decodeLossy block))

/-- The end of a block: its text, unless it is empty, is the new packet, and audio follows. -/
def finishBlock (d : Demuxer) (block : Bytes) : Demuxer :=
  let text := blockText block
  let d := { d with block := [], phase := .audio d.interval }
  if text = "" then d else { d with packet := some text, sequence := d.sequence + 1 }

/-- The length byte `b`: a block of that many units follows, or audio at once if there are none. -/
def startBlock (d : Demuxer) (b : UInt8) : Demuxer :=
  let len := b.toNat * blockUnit
  { d with block := [], phase := if len = 0 then .audio d.interval else .metadata len }

/-- `n` bytes of audio have passed, of the `left` that were to come. -/
def passAudio (d : Demuxer) (left n : Nat) : Demuxer :=
  { d with phase := if left = n then .length else .audio (left - n) }

/-- The bytes `part` of a block have come, of the `left` that were to come. -/
def takeMetadata (d : Demuxer) (left : Nat) (part : Bytes) : Demuxer :=
  if left = part.length then d.finishBlock (d.block ++ part)
  else { d with block := d.block ++ part, phase := .metadata (left - part.length) }

/-- How many changes of phase can come before a byte is used. -/
def Phase.changes : Phase → Nat
  | .length => 0
  | .audio _ => 1
  | .metadata _ => 2

@[simp] theorem phase_finishBlock (d : Demuxer) (block : Bytes) :
    (d.finishBlock block).phase = .audio d.interval := by
  simp only [finishBlock]
  split <;> rfl

/-- What comes of a call: the audio, the bytes that were not used, and the state afterwards. -/
structure Demuxed where
  audio : Bytes
  rest : Bytes
  state : Demuxer
deriving DecidableEq, Repr

/-- Copies audio out of `input` until `input` or `room` is used up, taking in metadata on the
way. -/
def demux (d : Demuxer) (input : Bytes) (room : Nat) : Demuxed :=
  match input with
  | [] => ⟨[], [], d⟩
  | b :: rest =>
    match _hphase : d.phase with
    | .audio left =>
      if room = 0 then ⟨[], b :: rest, d⟩
      else
        let n := min left (min (b :: rest).length room)
        let after := demux (d.passAudio left n) ((b :: rest).drop n) (room - n)
        { after with audio := (b :: rest).take n ++ after.audio }
    | .length => demux (d.startBlock b) rest room
    | .metadata left =>
      let n := min left (b :: rest).length
      demux (d.takeMetadata left ((b :: rest).take n)) ((b :: rest).drop n) room
termination_by (input.length, Phase.changes d.phase)
decreasing_by
  all_goals simp only [Prod.lex_def, List.length_drop, List.length_cons, _hphase]
  · by_cases h : left = 0
    · right
      subst h
      simp [passAudio, Phase.changes]
    · left; omega
  · left; omega
  · by_cases h : left = 0
    · right
      subst h
      simp [takeMetadata, Phase.changes]
    · left; omega

/-! ## What a call leaves and gives -/

theorem demux_nil (d : Demuxer) (room : Nat) : d.demux [] room = ⟨[], [], d⟩ := by
  rw [demux]

/-- The audio fits the room. -/
theorem length_audio_le (d : Demuxer) (input : Bytes) (room : Nat) :
    (d.demux input room).audio.length ≤ room := by
  fun_induction demux d input room with
  | case1 => simp
  | case2 => simp
  | case3 d room b rest left h hroom n after ih =>
    have hn : n ≤ room := by simp only [n]; omega
    have hafter : after.audio.length ≤ room - n := ih
    simp only [List.length_append, List.length_take]
    omega
  | case4 d room b rest h ih => exact ih
  | case5 d room b rest left h n ih => exact ih

end Demuxer

end ByteStream.Icy
