/-
# ByteStream.Proofs.Http.Interruption -- reads and requests that are broken off

The connection of a stream has the interrupt of the stream's token, whatever its history, and its
demuxer is in a state that occurs (`upholds_proper`). What it said of itself when it was opened
stays so (`terms_of_leads`).

A read is broken off only by its interrupt, and only where nothing is pending and the body has not
ended (`broken_readOn`). Once the token has been cancelled, a read gives pending payload or the
end, or is broken off, and takes no chunk (`readOn_of_fired`); and no request is sent
(`send_of_fired`).
-/

import ByteStream.Http.Backend
import ByteStream.Proofs.Cancellation
import ByteStream.Proofs.Http.Delivery
import ByteStream.Proofs.Http.Exchange
import ByteStream.Proofs.Stream.Connections

namespace ByteStream.Http

variable {τ : Type}

/-- Nothing is sent once the token has been cancelled. -/
theorem send_of_fired {i : Interrupt} {w : World (Server τ)} (h : i.Fired w.signals)
    (t : Transport) (url : Url) (base : HeaderMap) (offset : Option Nat) :
    send t url base offset i w = (.error .interrupted, w) := by
  rw [send_eq, if_pos h.fires]

namespace Connection

variable {c : Connection} {i : Interrupt} {n : Nat} {w : World (Server τ)}

/-! ## What holds of every connection -/

/-- The connection has this interrupt, and its demuxer is in a state that occurs. -/
structure Proper (i : Interrupt) (c : Connection) : Prop where
  interrupt : c.interrupt = i
  demuxer : ∀ d, c.demuxer = some d → d.Sound

theorem Proper.takePending (h : c.Proper i) (n : Nat) : (c.takePending n).2.Proper i :=
  ⟨(interrupt_takePending c n).trans h.interrupt, sound_takePending h.demuxer n⟩

theorem Proper.readOn (h : c.Proper i) (n : Nat) (w : World (Server τ)) :
    (c.readOn n w).conn.Proper i := by
  induction c, w using readOn_induct (n := n) with
  | chunk c w _ _ _ _ _ _ _ _ _ hread ih =>
    rw [hread]
    exact ih ⟨(h.takePending n).interrupt, (h.takePending n).demuxer⟩
  | _ =>
    rename_i hread
    rw [hread]
    exact ⟨(h.takePending n).interrupt, (h.takePending n).demuxer⟩

theorem Proper.read (h : c.Proper i) (n : Nat) (w : World (Server τ)) :
    (c.read n w).conn.Proper i := by
  rw [read_eq]
  split
  · exact h
  · exact h.readOn n w

theorem Proper.seek (h : c.Proper i) (t : Transport) (pos : Nat) (w : World (Server τ)) :
    (c.seek t pos w).conn.Proper i := by
  rw [seek_eq]
  split
  · exact h
  · split
    · exact ⟨h.interrupt, h.demuxer⟩
    · split
      · exact h
      · exact ⟨h.interrupt, h.demuxer⟩

theorem upholds_proper (t : Transport) :
    (backendOver t : Backend (Server τ) Connection).Upholds Proper where
  connect := by
    intro request w c hanswer
    obtain ⟨url, settings, base, r, -, -, rfl⟩ := opened_of_connect hanswer
    exact ⟨rfl, sound_ofResponse url base request.interrupt settings.icy r⟩
  read h n w := h.read n w
  write h _ _ := h
  flush h _ := h
  seek h pos w := h.seek t pos w
  size h _ := h
  seekTime h _ _ := h
  icyFields h _ := h

/-! ## What lasts -/

theorem terms_read (c : Connection) (n : Nat) (w : World (Server τ)) :
    (c.read n w).conn.terms = c.terms := by
  rw [read_eq]
  split
  · rfl
  · exact terms_readOn c n w

theorem terms_seek (t : Transport) (c : Connection) (pos : Nat) (w : World (Server τ)) :
    (c.seek t pos w).conn.terms = c.terms := by
  rw [seek_eq]
  split
  · rfl
  · split
    · rfl
    · split
      · rfl
      · rfl

/-- Calls do not change the terms of a connection. -/
theorem terms_of_leads {t : Transport} {d : Connection}
    (h : (backendOver t : Backend (Server τ) Connection).Leads c d) : d.terms = c.terms := by
  induction h with
  | here => rfl
  | read _ n w ih => exact (terms_read _ n w).trans ih
  | write _ data w ih => exact ih
  | flush _ w ih => exact ih
  | seek _ pos w ih => exact (terms_seek t _ pos w).trans ih
  | size _ w ih => exact ih
  | seekTime _ target w ih => exact ih
  | icyFields _ w ih => exact ih

/-! ## Reads that give bytes -/

/-- Payload is made of pending bytes. -/
theorem length_pending_takePending (h : ∀ d, c.demuxer = some d → d.Sound) (n : Nat) :
    (c.takePending n).2.pending.length ≤ c.pending.length ∧
      ((c.takePending n).1 ≠ [] → (c.takePending n).2.pending.length < c.pending.length) := by
  cases hd : c.demuxer with
  | none =>
    have hall := congrArg List.length (takePending_append hd n)
    rw [List.length_append] at hall
    refine ⟨by omega, ?_⟩
    intro hsome
    have hpos := List.length_pos_iff.2 hsome
    omega
  | some d =>
    obtain ⟨used, hused, hrun⟩ := Icy.Demuxer.exists_used_demux (h d hd) c.pending n
    have hall := congrArg List.length hused
    rw [List.length_append] at hall
    simp only [Connection.takePending, hd]
    refine ⟨by omega, ?_⟩
    intro hsome
    have hpos : 0 < used.length := by
      rw [List.length_pos_iff]
      rintro rfl
      rw [Icy.Demuxer.onBytes_nil] at hrun
      exact hsome (Prod.mk.inj hrun).1.symm
    omega

theorem bytesLeft_takePending (h : ∀ d, c.demuxer = some d → d.Sound) (n : Nat) :
    (c.takePending n).2.bytesLeft ≤ c.bytesLeft ∧
      ((c.takePending n).1 ≠ [] → (c.takePending n).2.bytesLeft < c.bytesLeft) := by
  obtain ⟨hle, hlt⟩ := length_pending_takePending h n
  unfold bytesLeft
  rw [body_takePending]
  refine ⟨by omega, ?_⟩
  intro hsome
  have hless := hlt hsome
  omega

/-- A read that gives bytes leaves fewer of them. -/
theorem bytesLeft_readOn (h : c.Proper i) {bytes : Bytes}
    (hanswer : (c.readOn n w).answer = .ok bytes) (hbytes : bytes ≠ []) :
    (c.readOn n w).conn.bytesLeft < c.bytesLeft := by
  induction c, w using readOn_induct (n := n) with
  | pending c w taken hsome hread =>
    rw [hread]
    exact (bytesLeft_takePending h.demuxer n).2 hsome
  | chunk c w taken _ body hbody waited w' chunk later hnext hread ih =>
    rw [hread] at hanswer ⊢
    have hproper := h.takePending n
    have hless := ih ⟨hproper.interrupt, hproper.demuxer⟩ hanswer
    -- The chunk was to come before, and is pending now.
    have hchunk : bytesLeft { taken.2 with pending := chunk, body := some later } ≤
        taken.2.bytesLeft := by
      have hlength := congrArg List.length (Body.bytes_of_next?_chunk hnext)
      rw [List.length_append] at hlength
      simp only [bytesLeft, hbody, Option.map_some, Option.getD_some]
      omega
    exact Nat.lt_of_lt_of_le hless (Nat.le_trans hchunk (bytesLeft_takePending h.demuxer n).1)
  | ended c w _ _ _ hread
  | finish c w _ _ _ _ _ _ _ _ hread =>
    rw [hread] at hanswer
    exact absurd (Except.ok.inj hanswer).symm hbytes
  | _ =>
    rename_i hread
    rw [hread] at hanswer
    cases hanswer

/-! ## Reads that are broken off -/

/-- A read is broken off by the interrupt, where nothing is pending and the body has not ended. -/
theorem broken_readOn (hn : 0 < n) (hanswer : (c.readOn n w).answer = .error .interrupted) :
    c.interrupt.fires (c.readOn n w).world.signals = true ∧
      (c.readOn n w).conn.pending = [] ∧ (c.readOn n w).conn.body.isSome = true := by
  induction c, w using readOn_induct (n := n) with
  | broken c w taken hnone body hbody waited w' e hwait hread =>
    rw [hread]
    obtain ⟨-, hfires⟩ := Interrupt.fires_of_wait_interrupted (Prod.ext hwait rfl)
    refine ⟨hfires, pending_takePending hn hnone, ?_⟩
    show taken.2.body.isSome = true
    rw [hbody]
    rfl
  | chunk c w taken _ body _ waited w' bytes later _ hread ih =>
    rw [hread] at hanswer ⊢
    -- The chunk gave no payload, so the read goes on, with the interrupt that it had.
    have hinterrupt : taken.2.interrupt = c.interrupt := interrupt_takePending c n
    have hbroken := ih hanswer
    rwa [show Connection.interrupt { taken.2 with pending := bytes, body := some later } =
      c.interrupt from hinterrupt] at hbroken
  | _ =>
    rename_i hread
    rw [hread] at hanswer
    cases hanswer

/-- Once the token has been cancelled, a read gives what is pending. Without any, it tells the end
of a body that has ended, and is broken off before it waits for one that has not. -/
theorem readOn_of_fired (h : c.interrupt.Fired w.signals) (n : Nat) :
    c.readOn n w =
      if (c.takePending n).1 ≠ [] then
        .done (c.takePending n).1
          ((c.takePending n).2.advance (c.takePending n).1.length) w
      else if c.body = none then .done [] (c.takePending n).2 w
      else .fail .interrupted (c.takePending n).2 w := by
  by_cases hnone : (c.takePending n).1 = []
  · rw [if_neg (by simp [hnone]), ← body_takePending c n]
    cases hbody : (c.takePending n).2.body with
    | none => rw [readOn_of_ended hnone hbody, if_pos rfl]
    | some body =>
      rw [readOn_of_none hnone hbody, if_neg (by simp)]
      simp only [h.wait]
  · rw [readOn_of_some hnone, if_pos hnone]

/-- Once the token has been cancelled, a seek goes to the very end or is broken off. -/
theorem seek_of_fired (h : c.interrupt.Fired w.signals) (t : Transport) (pos : Nat) :
    c.seek t pos w =
      if ¬ c.seekable then .fail .unsupported c w
      else if c.size = some pos then .done pos (c.turnTo pos none) w
      else .fail .interrupted c w := by
  rw [seek_eq, send_of_fired h]

/-- Taking from nothing gives nothing. -/
theorem takePending_of_nil (h : c.pending = []) (n : Nat) : c.takePending n = ([], c) := by
  obtain ⟨url, base, interrupt, body, pending, demuxer, icyHeaders, pos, size, seekable,
    mimeType⟩ := c
  obtain rfl : pending = [] := h
  cases demuxer with
  | none => simp [Connection.takePending]
  | some d => simp [Connection.takePending, Icy.Demuxer.demux_nil]

end Connection

end ByteStream.Http
