/-
# ByteStream.Proofs.Cancellation -- a token that was cancelled stays so

No signal takes a cancellation back (`isCancelled_foldl`), so the interrupt of a cancelled token
fires ever after, and every wait on it is broken off before it starts (`Fired.wait`): no signal is
let in and nothing is waited for.
-/

import ByteStream.Backend
import ByteStream.Proofs.Racing

namespace ByteStream

namespace Signals

theorem isCancelled_cancel (s : Signals) (token : Token) :
    (s.apply (.cancel token)).isCancelled token = true := by
  cases token with
  | root name => simp [apply, isCancelled]
  | child parent => simp [apply, isCancelled]

/-- No signal takes a cancellation back. -/
theorem isCancelled_apply {s : Signals} {token : Token} (h : s.isCancelled token = true)
    (signal : Signal) : (s.apply signal).isCancelled token = true := by
  induction token with
  | root name =>
    cases signal with
    | cancel other =>
      simp only [apply, isCancelled, List.contains_cons, Bool.or_eq_true]
      exact .inr h
    | raise flag => exact h
    | lower flag => exact h
  | child parent ih =>
    simp only [isCancelled, Bool.or_eq_true] at h ⊢
    rcases h with hself | hparent
    · left
      cases signal with
      | cancel other =>
        simp only [apply, List.contains_cons, Bool.or_eq_true]
        exact .inr hself
      | raise flag => exact hself
      | lower flag => exact hself
    · exact .inr (ih hparent)

theorem isCancelled_foldl {s : Signals} {token : Token} (h : s.isCancelled token = true)
    (signals : List Signal) : (signals.foldl apply s).isCancelled token = true := by
  induction signals generalizing s with
  | nil => exact h
  | cons signal later ih => exact ih (isCancelled_apply h signal)

end Signals

/-- The world once these signals have come. -/
def World.hear {σ : Type} (w : World σ) (signals : List Signal) : World σ :=
  { w with signals := signals.foldl Signals.apply w.signals }

namespace Interrupt

variable {i : Interrupt} {s : Signals} {α : Type}

/-- The interrupt is that of a token which has been cancelled. -/
def Fired (i : Interrupt) (s : Signals) : Prop :=
  ∃ token, i = ofToken token ∧ s.isCancelled token = true

theorem Fired.fires (h : i.Fired s) : i.fires s = true := by
  obtain ⟨token, rfl, hcancelled⟩ := h
  exact hcancelled

/-- Nothing is waited for any more. -/
theorem Fired.wait (h : i.Fired s) (arrival : Option α) :
    i.wait arrival s = (.error .interrupted, s) := by
  rw [wait_eq, if_pos h.fires]

/-- The interrupt of a stream fires only if the stream has a token, and that was cancelled. -/
theorem fired_of_fires {token? : Option Token} (h : (ofToken? token?).fires s = true) :
    (∃ token, token? = some token ∧ s.isCancelled token = true) ∧ (ofToken? token?).Fired s := by
  cases token? with
  | none => exact absurd h (by simp [ofToken?])
  | some token => exact ⟨⟨token, rfl, h⟩, token, rfl, h⟩

end Interrupt

end ByteStream
