/-
# ByteStream.Proofs.Stream.Writing -- the course of a write

A write takes one of three courses. The backend refuses the bytes, and nothing is flushed; it takes
them, and the flush fails; or the flush succeeds, and then an error is looked for that sticks
(`Backend.writeThrough_cases`). The stream tells of a count exactly if the backend gave it, the
flush went well and no error was there (`write_eq_ok_iff`).
-/

import ByteStream.Proofs.General
import ByteStream.Proofs.Stream.History

namespace ByteStream

variable {σ κ : Type}

/-! ## Writing through -/

namespace Backend

variable {B : Backend σ κ} {c : κ} {w : World σ} {data : Bytes} {n : Nat}

/-- What the flush leaves behind that follows a write. -/
def flushAfter (B : Backend σ κ) (c : κ) (data : Bytes) (w : World σ) : Reply σ κ Unit :=
  B.flush (B.write c data w).conn (B.write c data w).world

/-- The backend takes `n` bytes, the flush succeeds, and `stuck` is the error that is there then. -/
structure Flushes (B : Backend σ κ) (c : κ) (data : Bytes) (w : World σ) (n : Nat)
    (stuck : Option BackendError) : Prop where
  taken : (B.write c data w).answer = .ok n
  flushed : (B.flushAfter c data w).answer = .ok ()
  error : B.error (B.flushAfter c data w).conn (B.flushAfter c data w).world = stuck

/-- A write that is refused is not flushed; one that is not refused is, and then the error is looked
for. -/
theorem writeThrough_cases (B : Backend σ κ) (c : κ) (data : Bytes) (w : World σ) :
    (∃ e, (B.write c data w).answer = .error e ∧ B.writeThrough c data w =
      ⟨.error e, (B.write c data w).conn, (B.write c data w).world⟩) ∨
    (∃ n e, (B.write c data w).answer = .ok n ∧ (B.flushAfter c data w).answer = .error e ∧
      B.writeThrough c data w =
        ⟨.error e, (B.flushAfter c data w).conn, (B.flushAfter c data w).world⟩) ∨
    ∃ n stuck, B.Flushes c data w n stuck ∧ B.writeThrough c data w =
      ⟨(stuck.map Except.error).getD (.ok n), (B.flushAfter c data w).conn,
        (B.flushAfter c data w).world⟩ := by
  unfold Backend.writeThrough
  dsimp only
  cases htaken : (B.write c data w).answer with
  | error e => exact .inl ⟨e, rfl, rfl⟩
  | ok n =>
    cases hflushed : (B.flushAfter c data w).answer with
    | error e =>
      refine .inr (.inl ⟨n, e, rfl, rfl, ?_⟩)
      unfold flushAfter at hflushed
      simp only [hflushed]
      rfl
    | ok _ =>
      refine .inr (.inr ⟨n, _, ⟨htaken, hflushed, rfl⟩, ?_⟩)
      unfold flushAfter at hflushed ⊢
      simp only [hflushed]
      split
      · rename_i e herror
        rw [herror]
        rfl
      · rename_i herror
        rw [herror]
        rfl

/-- Writing through gives a count exactly if all went well. -/
theorem writeThrough_eq_ok_iff :
    (B.writeThrough c data w).answer = .ok n ↔ B.Flushes c data w n none := by
  rcases B.writeThrough_cases c data w with ⟨e, htaken, heq⟩ | ⟨m, e, htaken, hflushed, heq⟩ |
    ⟨m, stuck, hcourse, heq⟩
  · rw [heq]
    exact ⟨nofun, fun h => nomatch htaken.symm.trans h.taken⟩
  · rw [heq]
    exact ⟨nofun, fun h => nomatch hflushed.symm.trans h.flushed⟩
  · rw [heq]
    constructor
    · intro h
      cases stuck with
      | some e => cases h
      | none =>
        obtain rfl := Except.ok.inj h
        exact hcourse
    · intro h
      obtain rfl : stuck = none := hcourse.error.symm.trans h.error
      exact hcourse.taken.symm.trans h.taken

/-- An error that is there after a flush fails the write. -/
theorem Flushes.writeThrough {e : BackendError} (h : B.Flushes c data w n (some e)) :
    B.writeThrough c data w =
      ⟨.error e, (B.flushAfter c data w).conn, (B.flushAfter c data w).world⟩ := by
  rcases B.writeThrough_cases c data w with ⟨_, htaken, -⟩ | ⟨_, _, -, hflushed, -⟩ |
    ⟨m, stuck, hcourse, heq⟩
  · exact nomatch htaken.symm.trans h.taken
  · exact nomatch hflushed.symm.trans h.flushed
  · obtain rfl : stuck = some e := hcourse.error.symm.trans h.error
    exact heq

end Backend

/-! ## Streams -/

namespace Stream

variable {B : Backend σ κ} {s : Stream σ κ} {c : κ} {w : World σ} {data : Bytes} {n : Nat}

theorem write_of_conn (hconn : s.conn = some c) (data : Bytes) (w : World σ) :
    s.write B data w = ⟨(B.writeThrough c data w).answer.mapError (.ofBackend .write),
      { s with conn := some (B.writeThrough c data w).conn }, (B.writeThrough c data w).world⟩ :=
  call_of_conn hconn ..

/-- A write tells of a count exactly if all went well. -/
theorem write_eq_ok_iff : (s.write B data w).result = .ok n ↔
    ∃ c, s.conn = some c ∧ B.Flushes c data w n none := by
  cases hconn : s.conn with
  | none =>
    unfold Stream.write
    rw [call_of_none hconn]
    simp
  | some c =>
    rw [write_of_conn hconn, mapError_eq_ok_iff, Backend.writeThrough_eq_ok_iff]
    simp

/-- So does a write of the generic interface. -/
theorem ioWrite_eq_ok_iff :
    (s.ioWrite B data w).result = .ok n ↔ (s.write B data w).result = .ok n :=
  mapError_eq_ok_iff

end Stream

end ByteStream
