/-
# ByteStream.Proofs.Uncancelled -- tokens that nobody cancels

Some tokens are never cancelled: no signal that has come or is to come cancels one of them, whatever
else it does (`Signals.Calm`). The interrupt of such a token never fires, so every wait on it ends
with what it waited for, and a wait for what never comes with that (`Quiet.race`, `Quiet.wait`).
-/

import ByteStream.ConnectOptions.Build
import ByteStream.Proofs.Racing

namespace ByteStream

variable {T : Token → Prop}

/-! ## Signals -/

namespace Signals

/-- None of the tokens has been cancelled. -/
def Spares (T : Token → Prop) (s : Signals) : Prop := ∀ token, T token → s.isCancelled token = false

/-- What has been cancelled decides what counts as cancelled. -/
theorem isCancelled_congr {s s' : Signals} (h : s.cancelled = s'.cancelled) (token : Token) :
    s.isCancelled token = s'.isCancelled token := by
  induction token with
  | root name => simp only [isCancelled, h]
  | child parent ih => simp only [isCancelled, h, ih]

theorem Spares.congr {s s' : Signals} (h : s.Spares T) (hsame : s.cancelled = s'.cancelled) :
    s'.Spares T := by
  intro token ht
  rw [← isCancelled_congr hsame]
  exact h token ht

end Signals

/-- The signal cancels none of the tokens. -/
def Signal.Spares (T : Token → Prop) (now : Signal) : Prop :=
  ∀ s : Signals, s.Spares T → (s.apply now).Spares T

/-- No flag cancels a token. -/
theorem Signal.spares_raise (flag : String) : (Signal.raise flag).Spares T :=
  fun _ h => h.congr rfl

namespace Signals

/-- None of the tokens has been cancelled, and no signal to come cancels one. -/
structure Calm (T : Token → Prop) (s : Signals) : Prop where
  spares : s.Spares T
  coming : ∀ wait ∈ s.coming, ∀ now ∈ wait, now.Spares T
  blocked : ∀ now ∈ s.whileBlocked, now.Spares T

variable {s : Signals}

theorem coming_apply (s : Signals) (now : Signal) : (s.apply now).coming = s.coming := by
  cases now with
  | cancel token => rfl
  | raise flag => rfl
  | lower flag => rfl

theorem whileBlocked_apply (s : Signals) (now : Signal) :
    (s.apply now).whileBlocked = s.whileBlocked := by
  cases now with
  | cancel token => rfl
  | raise flag => rfl
  | lower flag => rfl

theorem coming_foldl (s : Signals) (signals : List Signal) :
    (signals.foldl apply s).coming = s.coming := by
  induction signals generalizing s with
  | nil => rfl
  | cons now later ih => exact (ih _).trans (coming_apply s now)

theorem Calm.apply (h : s.Calm T) {now : Signal} (hnow : now.Spares T) : (s.apply now).Calm T where
  spares := hnow s h.spares
  coming := by
    rw [coming_apply]
    exact h.coming
  blocked := by
    rw [whileBlocked_apply]
    exact h.blocked

theorem Calm.foldl (h : s.Calm T) {signals : List Signal}
    (hsignals : ∀ now ∈ signals, now.Spares T) : (signals.foldl Signals.apply s).Calm T := by
  induction signals generalizing s with
  | nil => exact h
  | cons now later ih =>
    obtain ⟨hnow, hlater⟩ := List.forall_mem_cons.1 hsignals
    exact ih (h.apply hnow) hlater

/-- Other signals may come while a call is blocked, if they spare the tokens too. -/
theorem Calm.awaiting (h : s.Calm T) {signals : List Signal}
    (hsignals : ∀ now ∈ signals, now.Spares T) :
    ({ s with whileBlocked := signals } : Signals).Calm T :=
  ⟨h.spares.congr rfl, h.coming, hsignals⟩

theorem Calm.settle (h : s.Calm T) : s.settle.Calm T :=
  Calm.foldl (h.awaiting (by simp)) h.blocked

theorem Calm.nextWait (h : s.Calm T) :
    (∀ now ∈ s.nextWait.1, now.Spares T) ∧ s.nextWait.2.Calm T := by
  unfold Signals.nextWait
  split
  · exact ⟨fun now hnow => absurd hnow List.not_mem_nil, h⟩
  · rename_i now later hcoming
    have hall := h.coming
    rw [hcoming] at hall
    obtain ⟨hnow, hlater⟩ := List.forall_mem_cons.1 hall
    exact ⟨hnow, h.spares.congr rfl, hlater, h.blocked⟩

theorem Calm.blockedWait (h : s.Calm T) :
    (∀ now ∈ s.blockedWait.1, now.Spares T) ∧ s.blockedWait.2.Calm T :=
  ⟨h.blocked, h.awaiting (by simp)⟩

end Signals

/-- The token of a stream that is opened so. -/
def Config.HasToken (config : Config) (token : Token) : Prop := config.cancel = some token

/-! ## Waiting -/

namespace Interrupt

variable {i : Interrupt} {s : Signals} {α : Type}

/-- The interrupt does not fire as long as the tokens are spared. -/
def Quiet (T : Token → Prop) (i : Interrupt) : Prop := ∀ s : Signals, s.Spares T → i.fires s = false

/-- The interrupt of such a token, and that of a stream without a token. -/
theorem quiet_ofToken? {cancel : Option Token} (h : ∀ token, cancel = some token → T token) :
    (ofToken? cancel).Quiet T := by
  intro s hs
  cases cancel with
  | none => rfl
  | some token => exact hs token (h token rfl)

theorem quiet_token (config : Config) : (ofToken? config.cancel).Quiet config.HasToken :=
  quiet_ofToken? fun _ h => h

theorem Quiet.lookAt (h : i.Quiet T) (hs : s.Calm T) {signals : List Signal}
    (hsignals : ∀ now ∈ signals, now.Spares T) :
    (i.lookAt (s.moments signals)).result = none := by
  induction signals generalizing s with
  | nil => rfl
  | cons now later ih =>
    obtain ⟨hnow, hlater⟩ := List.forall_mem_cons.1 hsignals
    have hcalm := hs.apply hnow
    rw [Signals.moments, Interrupt.lookAt, if_neg (by simp [h _ hcalm.spares])]
    exact ih hcalm hlater

/-- A race that cannot be broken off ends with what came, and leaves all as calm as before. -/
theorem Quiet.race (h : i.Quiet T) (hs : s.Calm T) (arrival : Option α) :
    ∃ s' : Signals, i.race arrival s = (.ok arrival, s') ∧ s'.Calm T := by
  have hcome : (∀ now ∈ (if arrival.isSome then s.nextWait else s.blockedWait).1, now.Spares T) ∧
      (if arrival.isSome then s.nextWait else s.blockedWait).2.Calm T := by
    split
    · exact hs.nextWait
    · exact hs.blockedWait
  obtain ⟨hsignals, hcalm⟩ := hcome
  exact ⟨_, race_of_unseen (h.lookAt hcalm hsignals), hcalm.foldl hsignals⟩

theorem Quiet.wait (h : i.Quiet T) (hs : s.Calm T) (arrival : Option α) :
    ∃ s' : Signals, i.wait arrival s = (.ok arrival, s') ∧ s'.Calm T := by
  rw [wait_eq, if_neg (by simp [h s hs.spares])]
  exact h.race hs arrival

end Interrupt

/-! ## Providers of cookies -/

/-- Asking the provider does not get one of the tokens cancelled. -/
def CookieProvider.Spares {σ : Type} (T : Token → Prop) (p : CookieProvider σ) : Prop :=
  ∀ file (w : World σ), w.signals.Calm T → (p.ask file w).2.signals.Calm T

theorem CookieProvider.spares_none {σ : Type} : (CookieProvider.none : CookieProvider σ).Spares T :=
  fun _ _ h => h

end ByteStream
