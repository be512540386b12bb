/-
# ByteStream.Proofs.Memory.Interruption -- calls in memory that are broken off

A connection to the store keeps the interrupt that it was opened with (`upholds_interrupt`). Once
the token of it has been cancelled, reads, writes and seeks are broken off at once, and so are
attempts to connect: the interrupt is the first that each of them looks at.
-/

import ByteStream.Memory
import ByteStream.Proofs.Cancellation
import ByteStream.Proofs.Stream.Connections

namespace ByteStream.Memory

/-! ## The interrupt of a connection -/

theorem interrupt_read (c : Connection) (n : Nat) (w : World Store) :
    (read c n w).conn.interrupt = c.interrupt := by
  unfold read
  split
  · rfl
  · split
    · split <;> rfl
    · rfl

theorem interrupt_seek (c : Connection) (pos : Nat) (w : World Store) :
    (seek c pos w).conn.interrupt = c.interrupt := by
  unfold seek
  split
  · rfl
  · split <;> rfl

theorem interrupt_write (c : Connection) (data : Bytes) (w : World Store) :
    (write c data w).conn.interrupt = c.interrupt := by
  unfold write
  split <;> rfl

/-- A connection has the interrupt that it was opened with. -/
theorem upholds_interrupt : backend.Upholds fun i c => c.interrupt = i where
  connect := by
    intro request w c hanswer
    change (connect request w).answer = .ok c at hanswer
    unfold connect at hanswer
    dsimp only at hanswer
    split at hanswer
    · exact absurd hanswer (by simp)
    · split at hanswer
      · exact absurd hanswer (by simp)
      · split at hanswer
        · rw [← Except.ok.inj hanswer]
          rfl
        · exact absurd hanswer (by simp)
  read h n w := (interrupt_read _ n w).trans h
  write h data w := (interrupt_write _ data w).trans h
  flush h _ := h
  seek h pos w := (interrupt_seek _ pos w).trans h
  size h _ := h
  seekTime h _ _ := h
  icyFields h _ := h

/-! ## Calls that are broken off -/

variable {c : Connection} {w : World Store}

theorem read_of_fired (h : c.interrupt.Fired w.signals) (n : Nat) :
    read c n w = .fail .interrupted c w := by
  rw [read, if_pos h.fires]

theorem write_of_fired (h : c.interrupt.Fired w.signals) (data : Bytes) :
    write c data w = .fail .interrupted c w := by
  rw [write, if_pos h.fires]

theorem seek_of_fired (h : c.interrupt.Fired w.signals) (pos : Nat) :
    seek c pos w = .fail .interrupted c w := by
  rw [seek, if_pos h.fires]

/-- A write that is broken off is not flushed. -/
theorem writeThrough_of_fired (h : c.interrupt.Fired w.signals) (data : Bytes) :
    backend.writeThrough c data w = .fail .interrupted c w := by
  have hwrite : backend.write c data w = .fail .interrupted c w := write_of_fired h data
  unfold Backend.writeThrough
  rw [hwrite]
  rfl

/-- The attempt to connect is recorded, and that is all. -/
theorem connect_of_fired {request : ConnectRequest} (h : request.interrupt.Fired w.signals) :
    connect request w =
      ⟨.error .interrupted, request.options,
        { w with state := w.state.recordAttempt request }⟩ := by
  unfold connect
  dsimp only
  rw [if_pos h.fires]

end ByteStream.Memory
