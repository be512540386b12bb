/-
# ByteStream.Proofs.Silence -- waiting when nobody breaks off

An interrupt is silent from a moment on if it does not fire at that moment and at no look of any
coming wait, whatever signals come in meanwhile. A token that nobody cancels is silent, and so is
the interrupt of a stream without a token. A wait that ends by itself then ends with what it
waited for (`Silent.wait`), and the interrupt is as silent afterwards (`Silent.afterWait`).
-/

import ByteStream.Proofs.Racing
import Mathlib.Logic.Function.Iterate

namespace ByteStream

/-- What has been signalled once the next wait is over, if it is not broken off. -/
def Signals.afterWait (s : Signals) : Signals := (s.course (some ())).final

namespace Interrupt

/-- The interrupt does not fire now, nor at any look of any wait to come. -/
def Silent (i : Interrupt) (s : Signals) : Prop :=
  ∀ waits : Nat,
    let later := Signals.afterWait^[waits] s
    i.fires later = false ∧ (i.lookAt (later.course (some ())).ticks).result = none

variable {i : Interrupt} {s : Signals} {α : Type}

theorem Silent.fires (h : i.Silent s) : i.fires s = false := (h 0).1

theorem Silent.afterWait (h : i.Silent s) : i.Silent s.afterWait := by
  intro waits
  rw [← Function.iterate_succ_apply]
  exact h (waits + 1)

/-- An interrupt that never fires is silent at every moment. -/
theorem silent_of_forall (h : ∀ s, i.fires s = false) (s : Signals) : i.Silent s := by
  have hlooks (moments : List Signals) : (i.lookAt moments).result = none := by
    induction moments with
    | nil => rfl
    | cons now later ih =>
      rw [lookAt, if_neg (by simp [h])]
      exact ih
  exact fun _ => ⟨h _, hlooks _⟩

theorem silent_never (s : Signals) : never.Silent s := silent_of_forall fires_never s

/-- An interrupt that does not fire stays silent when nothing comes in during any wait. -/
theorem silent_of_still (hfires : i.fires s = false) (hcoming : s.coming = []) : i.Silent s := by
  have hcourse : s.course (some ()) = ⟨[], s⟩ := by
    unfold Signals.course Signals.nextWait
    rw [hcoming]
    rfl
  have hfixed : s.afterWait = s := congrArg Course.final hcourse
  intro waits
  dsimp only
  rw [Function.iterate_fixed hfixed, hcourse]
  exact ⟨hfires, rfl⟩

/-- Nobody cancels the token in a wait when nothing comes in during any. -/
theorem silent_ofToken {token : Token} (hcancelled : s.isCancelled token = false)
    (hcoming : s.coming = []) : (ofToken token).Silent s := silent_of_still hcancelled hcoming

/-- A race for something that comes is won by it. -/
theorem Silent.race (h : i.Silent s) (a : α) : i.race (some a) s = (.ok (some a), s.afterWait) :=
  race_of_unseen (h 0).2

/-- A wait for something that comes ends with it. -/
theorem Silent.wait (h : i.Silent s) (a : α) : i.wait (some a) s = (.ok (some a), s.afterWait) := by
  rw [wait_eq, if_neg (by simp [h.fires]), h.race]

/-- The interrupt is as silent after such a wait. -/
theorem Silent.wait_snd (h : i.Silent s) {arrival : Option α} {a : α} (ha : arrival = some a) :
    i.Silent (i.wait arrival s).2 := by
  rw [ha, h.wait]
  exact h.afterWait

end Interrupt

end ByteStream
