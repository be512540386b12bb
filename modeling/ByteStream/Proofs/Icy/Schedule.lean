/-
# ByteStream.Proofs.Icy.Schedule -- however the wire is cut and read

A stream with metadata is read while it arrives: chunks come in, and between them audio is asked
for, with room for more or less of it or for none. `Reading` is what there is at one moment: the
state of the demuxer, the bytes that have arrived and wait, and the audio given out so far.

After any such schedule the bytes that do not wait have been treated as the machine of
`ByteStream.Proofs.Icy.Bytewise` treats them (`tracks_run`), so neither the cuts of the wire nor
the sizes of the rooms leave a trace in the audio or in the state.
-/

import ByteStream.Proofs.Icy.Bytewise

namespace ByteStream.Icy

/-! ## Schedules -/

/-- One event of a schedule. -/
inductive Event
  /-- A chunk of the wire arrives. -/
  | feed (chunk : Bytes)
  /-- Audio is asked for; there is room for so many bytes. -/
  | drain (room : Nat)
deriving DecidableEq, Repr

/-- All bytes that arrive in a schedule. -/
def fed : List Event → Bytes
  | [] => []
  | .feed chunk :: later => chunk ++ fed later
  | .drain _ :: later => fed later

theorem fed_append (before after : List Event) :
    fed (before ++ after) = fed before ++ fed after := by
  induction before with
  | nil => rfl
  | cons e later ih =>
    cases e with
    | feed chunk => rw [List.cons_append, fed, fed, ih, List.append_assoc]
    | drain room => rw [List.cons_append, fed, fed, ih]

/-- A stream with metadata that is being read. -/
structure Reading where
  demuxer : Demuxer
  /-- What has arrived and was not used. -/
  pending : Bytes := []
  /-- All audio so far. -/
  audio : Bytes := []
deriving DecidableEq, Repr

namespace Reading

/-- What an event does. -/
def next (r : Reading) : Event → Reading
  | .feed chunk => { r with pending := r.pending ++ chunk }
  | .drain room =>
    let cut := r.demuxer.demux r.pending room
    ⟨cut.state, cut.rest, r.audio ++ cut.audio⟩

/-- Events one after the other. -/
def run (r : Reading) (events : List Event) : Reading := events.foldl next r

/-! ## The machine keeps up -/

/-- Of the bytes that have arrived, all but the pending ones went through the machine that starts
in `start`, and it has given the audio and reached the state that the reading shows. -/
def Tracks (start : Demuxer) (arrived : Bytes) (r : Reading) : Prop :=
  ∃ used, arrived = used ++ r.pending ∧ start.onBytes used = (r.audio, r.demuxer)

/-- An event keeps the machine on track. -/
theorem Tracks.next {start : Demuxer} (hstart : start.Sound) {arrived : Bytes} {r : Reading}
    (h : Tracks start arrived r) (e : Event) : Tracks start (arrived ++ fed [e]) (r.next e) := by
  -- A chunk waits with the rest; a call lets the machine use some of what waits.
  obtain ⟨used, harrived, hrun⟩ := h
  cases e with
  | feed chunk =>
    refine ⟨used, ?_, hrun⟩
    simp only [fed, Reading.next, harrived, List.append_nil, List.append_assoc]
  | drain room =>
    have hsound : r.demuxer.Sound := by
      have hafter := hstart.onBytes used
      rwa [hrun] at hafter
    obtain ⟨more, hmore, hcut⟩ := Demuxer.exists_used_demux hsound r.pending room
    refine ⟨used ++ more, ?_, ?_⟩
    · rw [fed, fed, List.append_nil, List.append_assoc, harrived]
      exact congrArg (used ++ ·) hmore
    · rw [Demuxer.onBytes_append, hrun, hcut]
      rfl

/-- A schedule keeps the machine on track. -/
theorem Tracks.run {start : Demuxer} (hstart : start.Sound) {arrived : Bytes} {r : Reading}
    (h : Tracks start arrived r) (events : List Event) :
    Tracks start (arrived ++ fed events) (r.run events) := by
  induction events generalizing arrived r with
  | nil => simpa [fed, Reading.run] using h
  | cons e later ih =>
    have hnow := h.next hstart e
    have hlater := ih hnow
    rw [List.append_assoc, ← fed_append, List.singleton_append] at hlater
    exact hlater

/-- From the start, the machine is on track after any schedule. -/
theorem tracks_run {start : Demuxer} (hstart : start.Sound) (events : List Event) :
    Tracks start (fed events) (({ demuxer := start } : Reading).run events) := by
  have hbegin : Tracks start [] { demuxer := start } := ⟨[], rfl, rfl⟩
  exact hbegin.run hstart events

/-- When nothing waits, everything that has arrived went through the machine. -/
theorem Tracks.onBytes_eq {start : Demuxer} {arrived : Bytes} {r : Reading}
    (h : Tracks start arrived r) (hpending : r.pending = []) :
    start.onBytes arrived = (r.audio, r.demuxer) := by
  obtain ⟨used, harrived, hrun⟩ := h
  rw [hpending, List.append_nil] at harrived
  rwa [harrived]

end Reading

/-! ## The schedule leaves no trace -/

/-- **Any schedule of arrivals and calls is the machine.** Let `wire` arrive in any chunks, with
any calls between them. At every moment the wire is what has been used, what waits, and what is
still to arrive, and audio and state are those of the machine on what has been used. So two
schedules that use the wire up agree in their audio, their packet and its number. -/
theorem bytewise_of_schedule {m : Nat} (hm : 0 < m) (wire : Bytes) :
    ∃ start, Demuxer.ofInterval m = some start ∧
      (∀ before after, fed (before ++ after) = wire →
        let now := ({ demuxer := start } : Reading).run before
        ∃ used, wire = used ++ now.pending ++ fed after ∧
          start.onBytes used = (now.audio, now.demuxer)) ∧
      (∀ one other, fed one = wire → fed other = wire →
        let first := ({ demuxer := start } : Reading).run one
        let second := ({ demuxer := start } : Reading).run other
        first.pending = [] → second.pending = [] →
          first.audio = second.audio ∧ first.demuxer.packet = second.demuxer.packet ∧
            first.demuxer.sequence = second.demuxer.sequence) := by
  have hstart : Demuxer.ofInterval m = some ⟨m, .audio m, [], none, 0⟩ := by
    rw [Demuxer.ofInterval, if_neg (by omega)]
  have hsound := Demuxer.sound_ofInterval hstart
  refine ⟨_, hstart, ?_, ?_⟩
  · intro before after hwire
    obtain ⟨used, hused, hrun⟩ := Reading.tracks_run hsound before
    refine ⟨used, ?_, hrun⟩
    rw [← hwire, fed_append, hused]
  · intro one other hone hother first second hfirst hsecond
    have hall : (first.audio, first.demuxer) = (second.audio, second.demuxer) := by
      rw [← (Reading.tracks_run hsound one).onBytes_eq hfirst,
        ← (Reading.tracks_run hsound other).onBytes_eq hsecond, hone, hother]
    obtain ⟨haudio, hstate⟩ := Prod.mk.inj hall
    exact ⟨haudio, congrArg _ hstate, congrArg _ hstate⟩

/-- The wire `ab`, a block of one unit with the text `hi`, and `c`. -/
def shortWire : Bytes := [97, 98, 1, 104, 105] ++ List.replicate 14 0 ++ [99]

/-- The short wire, cut inside the interval, inside the block and behind it, with calls that have
no room and calls that have too much. -/
def cutSchedule : List Event :=
  [.feed [97], .drain 0, .drain 4, .feed [98, 1, 104], .drain 1, .feed (105 :: List.replicate 14 0),
    .drain 0, .feed [99], .drain 0, .drain 3]

theorem bytewise_of_schedule_short :
    0 < 2 ∧ ∃ start, Demuxer.ofInterval 2 = some start ∧
      let first := ({ demuxer := start } : Reading).run cutSchedule
      let second := ({ demuxer := start } : Reading).run [.feed shortWire, .drain 8]
      first.audio = second.audio ∧ first.demuxer.packet = second.demuxer.packet ∧
        first.demuxer.sequence = second.demuxer.sequence := by
  refine ⟨by decide, ?_⟩
  obtain ⟨start, hstart, -, hagree⟩ := bytewise_of_schedule (by decide : 0 < 2) shortWire
  refine ⟨start, hstart, ?_⟩
  have hcut : fed cutSchedule = shortWire := by decide
  have hwhole : fed [.feed shortWire, .drain 8] = shortWire := by decide
  cases hstart
  have hblock (phase : Phase) (block : Bytes) : Demuxer.finishBlock ⟨2, phase, block, none, 0⟩
      [104, 105, 0, 0, 0, 0, 0, 0, 0, 0, 0, 0, 0, 0, 0, 0] =
        ⟨2, .audio 2, [], some "hi", 1⟩ := by
    simp only [Demuxer.finishBlock]
    decide +kernel
  refine hagree cutSchedule [.feed shortWire, .drain 8] hcut hwhole ?_ ?_
  · simp [cutSchedule, Reading.run, Reading.next, Demuxer.demux, Demuxer.startBlock,
      Demuxer.passAudio, Demuxer.takeMetadata, blockUnit, hblock]
  · simp [shortWire, Reading.run, Reading.next, Demuxer.demux, Demuxer.startBlock,
      Demuxer.passAudio, Demuxer.takeMetadata, blockUnit, hblock]

end ByteStream.Icy
