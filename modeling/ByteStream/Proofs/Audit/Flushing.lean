/-
# ByteStream.Proofs.Audit.Flushing -- logs in which every write is flushed at once

A flush belongs to a write that succeeded: the two come in pairs, the flush right after the write
and on the same connection, and every other event stands alone (`Flushed`). A stream that writes
through adds such a pair, or a write that failed (`Flushed.writeThrough`).

From the pairs it follows what stands beside an event wherever it is found in the log
(`Flushed.flushedAtOnce`). Nothing comes between a write and its flush, and so no connection is
closed in between.
-/

import ByteStream.Proofs.Audit.Watching
import ByteStream.Proofs.Stream.Writing

namespace ByteStream

namespace Audit

variable {log newer older : List Event} {id : Nat} {ok : Bool}

/-! ## Pairs of a write and a flush -/

/-- The event is neither a flush nor a write that succeeded. -/
def Event.standsAlone : Event → Bool
  | .call _ .flush _ => false
  | .call _ (.write _) ok => !ok
  | _ => true

/-- Flushes and writes that succeeded come in pairs on one connection, the flush right after the
write. The log has the newest event first. -/
inductive Flushed : List Event → Prop
  | nil : Flushed []
  | alone {log : List Event} {event : Event} :
      event.standsAlone = true → Flushed log → Flushed (event :: log)
  | pair {log : List Event} (id : Nat) (data : Bytes) (ok : Bool) :
      Flushed log → Flushed (.call id .flush ok :: .call id (.write data) true :: log)

/-- The next event after a write that succeeded is a flush of its connection. -/
theorem Flushed.flush_of_write {data : Bytes}
    (h : Flushed (newer ++ .call id (.write data) true :: older)) :
    ∃ later ok, newer = later ++ [.call id .flush ok] := by
  generalize hlog : newer ++ .call id (.write data) true :: older = log at h
  induction h generalizing newer with
  | nil => exact absurd hlog (by simp)
  | alone halone _ ih =>
    cases newer with
    | nil =>
      obtain ⟨rfl, -⟩ := List.cons.inj hlog
      cases halone
    | cons event newer =>
      obtain ⟨later, ok, rfl⟩ := ih (List.cons.inj hlog).2
      exact ⟨event :: later, ok, rfl⟩
  | pair n written ok _ ih =>
    match newer, hlog with
    | [], hlog => exact absurd hlog (by simp)
    | [event], hlog =>
      -- The write is that of the pair.
      obtain ⟨rfl, hrest⟩ := List.cons.inj hlog
      obtain ⟨hwrite, -⟩ := List.cons.inj hrest
      obtain ⟨rfl, -, -⟩ := Event.call.inj hwrite
      exact ⟨[], ok, rfl⟩
    | event :: before :: newer, hlog =>
      obtain ⟨-, hrest⟩ := List.cons.inj hlog
      obtain ⟨later, ok, rfl⟩ := ih (List.cons.inj hrest).2
      exact ⟨event :: before :: later, ok, rfl⟩

/-- The event before a flush is a write on its connection that succeeded. -/
theorem Flushed.write_of_flush (h : Flushed (newer ++ .call id .flush ok :: older)) :
    ∃ data before, older = .call id (.write data) true :: before := by
  generalize hlog : newer ++ .call id .flush ok :: older = log at h
  induction h generalizing newer with
  | nil => exact absurd hlog (by simp)
  | alone halone _ ih =>
    cases newer with
    | nil =>
      obtain ⟨rfl, -⟩ := List.cons.inj hlog
      cases halone
    | cons event newer => exact ih (List.cons.inj hlog).2
  | pair n written fine _ ih =>
    match newer, hlog with
    | [], hlog =>
      -- The flush is that of the pair.
      obtain ⟨hflush, rfl⟩ := List.cons.inj hlog
      obtain ⟨rfl, -, -⟩ := Event.call.inj hflush
      exact ⟨written, _, rfl⟩
    | [event], hlog =>
      obtain ⟨-, hrest⟩ := List.cons.inj hlog
      exact absurd (List.cons.inj hrest).1 (by simp)
    | event :: before :: newer, hlog =>
      obtain ⟨-, hrest⟩ := List.cons.inj hlog
      exact ih (List.cons.inj hrest).2

/-- Between a write that succeeded and a later event of another kind stands the flush. -/
theorem Flushed.flush_between {data : Bytes} {event : Event} {mid : List Event}
    (h : Flushed (newer ++ event :: mid ++ .call id (.write data) true :: older))
    (hevent : ∀ ok, event ≠ .call id .flush ok) : ∃ ok, .call id .flush ok ∈ mid := by
  obtain ⟨later, ok, hsplit⟩ := h.flush_of_write
  have hlast : (event :: mid).getLast? = some (.call id .flush ok) := by
    have hends := congrArg List.getLast? hsplit
    rwa [List.getLast?_append_of_ne_nil _ (List.cons_ne_nil event mid), List.getLast?_concat]
      at hends
  rcases List.mem_cons.1 (List.mem_of_getLast? hlast) with heq | hmem
  · exact absurd heq.symm (hevent ok)
  · exact ⟨ok, hmem⟩

/-- What stands beside the events of a log. -/
structure FlushedAtOnce (log : List Event) : Prop where
  /-- A write that succeeds is flushed before anything else is asked. -/
  written : ∀ newer id data older, log = newer ++ .call id (.write data) true :: older →
    ∃ later ok, newer = later ++ [.call id .flush ok]
  /-- A flush is asked for at no other time, and so never after a write that failed. -/
  flushes : ∀ newer id ok older, log = newer ++ .call id .flush ok :: older →
    ∃ data before, older = .call id (.write data) true :: before
  /-- When a connection is closed, what was written on it has been flushed. -/
  closed : ∀ newer id fine mid data older,
    log = newer ++ .call id .close fine :: mid ++ .call id (.write data) true :: older →
      ∃ ok, .call id .flush ok ∈ mid

theorem Flushed.flushedAtOnce (h : Flushed log) : FlushedAtOnce log where
  written := by
    rintro newer id data older rfl
    exact h.flush_of_write
  flushes := by
    rintro newer id ok older rfl
    exact h.write_of_flush
  closed := by
    rintro newer id fine mid data older rfl
    exact h.flush_between (by simp)

/-! ## Writing through -/

variable {σ κ : Type} {B beyond : Backend σ κ}

/-- Writing through adds a write that failed, or one that succeeded and its flush. -/
theorem Flushed.writeThrough {w : World (Watched σ)} (h : Flushed w.state.log) (c : Numbered κ)
    (data : Bytes) : Flushed ((B.watched beyond).writeThrough c data w).world.state.log := by
  have hwrote : ((B.watched beyond).write c data w).world.state.log =
      .call c.id (.write data) ((B.watched beyond).write c data w).answer.isOk :: w.state.log := rfl
  have hflushed : ((B.watched beyond).flushAfter c data w).world.state.log =
      .call c.id .flush ((B.watched beyond).flushAfter c data w).answer.isOk ::
        ((B.watched beyond).write c data w).world.state.log := rfl
  rcases (B.watched beyond).writeThrough_cases c data w with ⟨e, htaken, heq⟩ |
    ⟨n, e, htaken, -, heq⟩ | ⟨n, stuck, hcourse, heq⟩
  · rw [heq, hwrote, htaken]
    exact h.alone rfl
  · rw [heq, hflushed, hwrote, htaken]
    exact h.pair c.id data _
  · rw [heq, hflushed, hwrote, hcourse.taken]
    exact h.pair c.id data _

end Audit

end ByteStream
