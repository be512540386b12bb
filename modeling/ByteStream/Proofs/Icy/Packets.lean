/-
# ByteStream.Proofs.Icy.Packets -- the packets in a stretch of the wire

The format says where the metadata of a wire stands: behind each interval of audio there is a
length byte, and behind it a block of so many units. `blocks` finds the blocks that have come whole
by counting bytes, and `packets` reads their texts and leaves out the empty ones.

The machine of `ByteStream.Proofs.Icy.Bytewise` shows the last of these packets and has counted
them all (`packets_onBytes`), whatever it has received of the block after them.
-/

import ByteStream.Proofs.Icy.Bytewise

namespace ByteStream.Icy

/-! ## Blocks by counting -/

/-- The blocks that are complete in the beginning of a wire, with `interval` bytes of audio in
front of each length byte. -/
def blocks (interval : Nat) (wire : Bytes) : List Bytes :=
  match _h : wire.drop interval with
  | [] => []
  | units :: rest =>
    if rest.length < blockUnit * units.toNat then []
    else
      rest.take (blockUnit * units.toNat) :: blocks interval (rest.drop (blockUnit * units.toNat))
termination_by wire.length
decreasing_by
  have hdrop := congrArg List.length _h
  simp only [List.length_drop, List.length_cons] at hdrop ⊢
  omega

/-- Where there is a length byte, a whole interval of audio stands in front of it. -/
theorem interval_before {interval : Nat} {wire rest : Bytes} {units : UInt8}
    (h : wire.drop interval = units :: rest) :
    wire = wire.take interval ++ units :: rest ∧ (wire.take interval).length = interval := by
  refine ⟨by rw [← h, List.take_append_drop], ?_⟩
  have hlength := congrArg List.length h
  rw [List.length_drop, List.length_cons] at hlength
  rw [List.length_take]
  omega

/-- The texts that are not empty. -/
def nonempty (texts : List String) : List String := texts.filter (· ≠ "")

/-- The packets that are complete in the beginning of a wire. -/
def packets (interval : Nat) (wire : Bytes) : List String :=
  nonempty ((blocks interval wire).map Demuxer.blockText)

/-- Nothing has come at the start. -/
theorem packets_nil (interval : Nat) : packets interval [] = [] := by
  have hblocks : blocks interval [] = [] := by
    rw [blocks]
    split
    · rfl
    · rename_i hcons
      rw [List.drop_nil] at hcons
      exact absurd hcons (by simp)
  rw [packets, hblocks]
  rfl

/-- Blocks that have come stay, whatever comes after them. -/
theorem blocks_append (interval : Nat) (wire later : Bytes) :
    blocks interval wire <+: blocks interval (wire ++ later) := by
  fun_induction blocks interval wire with
  | case1 wire hdrop => exact List.nil_prefix
  | case2 wire units rest hdrop hpart => exact List.nil_prefix
  | case3 wire units rest hdrop hwhole ih =>
    have hlong : interval ≤ wire.length := by
      have htaken := (interval_before hdrop).2
      rw [List.length_take] at htaken
      omega
    have hmore : (wire ++ later).drop interval = units :: (rest ++ later) := by
      rw [List.drop_append_of_le_length hlong, hdrop, List.cons_append]
    have hfits : blockUnit * units.toNat ≤ rest.length := by omega
    have hunfold : blocks interval (wire ++ later) =
        rest.take (blockUnit * units.toNat) ::
          blocks interval (rest.drop (blockUnit * units.toNat) ++ later) := by
      rw [blocks]
      split
      · rename_i hnil
        exact absurd (hmore.symm.trans hnil) (by simp)
      · rename_i units' rest' hcons
        obtain ⟨rfl, rfl⟩ := List.cons.inj (hmore.symm.trans hcons)
        rw [if_neg (by rw [List.length_append]; omega), List.take_append_of_le_length hfits,
          List.drop_append_of_le_length hfits]
    rw [hunfold]
    exact (List.prefix_cons_inj _).2 ih

/-- So do packets. -/
theorem packets_append (interval : Nat) (wire later : Bytes) :
    packets interval wire <+: packets interval (wire ++ later) :=
  ((blocks_append interval wire later).map _).filter _

namespace Demuxer

/-! ## Noting texts -/

/-- What the text of a block does to the packet and its number. -/
def noteText (d : Demuxer) (text : String) : Demuxer :=
  if text = "" then d else { d with packet := some text, sequence := d.sequence + 1 }

/-- Of texts that are noted one after the other, the last that is not empty stays, and all that
are not empty count. -/
theorem foldl_noteText (d : Demuxer) (texts : List String) :
    texts.foldl noteText d =
      { d with
        packet := (nonempty texts).getLast?.or d.packet
        sequence := d.sequence + (nonempty texts).length } := by
  induction texts generalizing d with
  | nil => rfl
  | cons text later ih =>
    rw [List.foldl_cons, ih]
    by_cases htext : text = ""
    · simp [noteText, nonempty, htext]
    · have hcons : nonempty (text :: later) = text :: nonempty later := by
        simp [nonempty, htext]
      rw [hcons, noteText, if_neg htext, List.getLast?_cons, List.length_cons]
      simp only [Demuxer.mk.injEq, true_and]
      refine ⟨?_, by omega⟩
      cases (nonempty later).getLast? with
      | none => rfl
      | some last => rfl

/-- An empty block says nothing. -/
theorem blockText_nil : blockText [] = "" := rfl

/-- A turn of the format notes its block, the empty one included. -/
theorem onBytes_turn {d : Demuxer} (h : d.Sound) (hphase : d.phase = .audio d.interval)
    {audio block : Bytes} {units : UInt8} (haudio : audio.length = d.interval)
    (hblock : block.length = blockUnit * units.toNat) :
    d.onBytes (audio ++ units :: block) = (audio, d.noteText (blockText block)) := by
  rw [onBytes_segment h hphase haudio hblock]
  split
  · rename_i hzero
    subst hzero
    have hnone : block = [] := List.length_eq_zero_iff.1 hblock
    rw [hnone, blockText_nil, noteText, if_pos rfl]
  · rfl

theorem interval_noteText (d : Demuxer) (text : String) :
    (d.noteText text).interval = d.interval := by
  unfold noteText
  split <;> rfl

theorem phase_noteText (d : Demuxer) (text : String) : (d.noteText text).phase = d.phase := by
  unfold noteText
  split <;> rfl

theorem Sound.noteText {d : Demuxer} (h : d.Sound) (text : String) : (d.noteText text).Sound := by
  unfold Demuxer.noteText
  split
  · exact h
  · exact ⟨h.interval_pos, h.fits⟩

/-! ## The machine finds the packets -/

/-- Less than a turn of the format notes nothing. -/
theorem onBytes_partial {d : Demuxer} (h : d.Sound) (hphase : d.phase = .audio d.interval)
    {audio part : Bytes} {units : UInt8} (haudio : audio.length = d.interval)
    (hpart : part.length < blockUnit * units.toNat) :
    (d.onBytes (audio ++ units :: part)).2.packet = d.packet ∧
      (d.onBytes (audio ++ units :: part)).2.sequence = d.sequence := by
  have hpass : d.onBytes audio = (audio, { d with phase := .length }) := by
    rw [onBytes_audio hphase h.interval_pos (Nat.le_of_eq haudio), passAudio, if_pos haudio.symm]
  have hunits : ¬ units.toNat * blockUnit = 0 := by
    rw [Nat.mul_comm]
    omega
  rw [onBytes_append, hpass, onBytes_cons, onByte_length rfl, startBlock, if_neg hunits]
  rw [onBytes_metadata rfl (Nat.pos_of_ne_zero hunits) (by rw [Nat.mul_comm]; omega), takeMetadata,
    if_neg (by rw [Nat.mul_comm]; omega)]
  exact ⟨rfl, rfl⟩

/-- From the start of an interval on, the machine notes the texts of the blocks. -/
theorem noted_onBytes {d : Demuxer} (h : d.Sound) (hphase : d.phase = .audio d.interval)
    (wire : Bytes) :
    let noted := ((blocks d.interval wire).map blockText).foldl noteText d
    (d.onBytes wire).2.packet = noted.packet ∧ (d.onBytes wire).2.sequence = noted.sequence := by
  -- The induction goes from one length byte to the next.
  generalize hm : d.interval = m
  fun_induction blocks m wire generalizing d with
  | case1 wire hdrop =>
    have hshort : wire.length ≤ d.interval := hm ▸ List.drop_eq_nil_iff.1 hdrop
    rw [onBytes_audio hphase h.interval_pos hshort]
    exact ⟨rfl, rfl⟩
  | case2 wire units rest hdrop hpart =>
    obtain ⟨hwire, haudio⟩ := interval_before hdrop
    rw [hwire]
    exact onBytes_partial h hphase (haudio.trans hm.symm) hpart
  | case3 wire units rest hdrop hwhole ih =>
    let size := blockUnit * units.toNat
    obtain ⟨hsplit, haudio⟩ := interval_before hdrop
    have hwire : wire = (wire.take m ++ units :: rest.take size) ++ rest.drop size := by
      rw [List.append_assoc, List.cons_append, List.take_append_drop, ← hsplit]
    have hblock : (rest.take size).length = blockUnit * units.toNat := by
      rw [List.length_take]
      omega
    have hturn := onBytes_turn h hphase (haudio.trans hm.symm) hblock
    have hrest := ih (h.noteText (blockText (rest.take size)))
      (by rw [phase_noteText, interval_noteText, hphase])
      (by rw [interval_noteText, hm])
    rw [hwire, onBytes_append, hturn, List.map_cons, List.foldl_cons]
    exact hrest

variable {m : Nat} {start : Demuxer}

/-- From the start of the wire on, the machine shows the last packet and has counted them all. -/
theorem packets_onBytes (h : ofInterval m = some start) (wire : Bytes) :
    (start.onBytes wire).2.packet = (packets m wire).getLast? ∧
      (start.onBytes wire).2.sequence = (packets m wire).length := by
  have hsound := sound_ofInterval h
  unfold ofInterval at h
  split at h
  · exact absurd h (by simp)
  · obtain rfl := Option.some.inj h
    have hnoted := noted_onBytes hsound rfl wire
    rw [foldl_noteText] at hnoted
    obtain ⟨hpacket, hsequence⟩ := hnoted
    rw [hpacket, hsequence]
    exact ⟨Option.or_none, Nat.zero_add _⟩

end Demuxer

end ByteStream.Icy
