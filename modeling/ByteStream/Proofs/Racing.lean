/-
# ByteStream.Proofs.Racing -- waits in every order of ticks and arrival

A wait is broken off exactly if a look sees the interrupt fire, and otherwise ends with what it
waited for, whatever its course (`raceBy_cases`). So it is in the scripted course (`race_cases`);
a waiting call there looks once, and races if it saw nothing (`wait_eq`).
-/

import ByteStream.Course

namespace ByteStream

namespace Interrupt

variable {α : Type} {i : Interrupt} {course : Course} {arrival : Option α}

/-! ## Waiting -/

/-- The looks end at a moment exactly if one of them saw the interrupt fire. -/
theorem isSome_lookAt (i : Interrupt) (moments : List Signals) :
    (i.lookAt moments).result.isSome = true ↔ true ∈ (i.lookAt moments).looks := by
  induction moments with
  | nil => simp [lookAt]
  | cons now later ih =>
    rw [lookAt]
    split
    · simp
    · simpa using ih

/-- A wait is broken off by a look that saw the interrupt fire. If none did, it ends by itself. -/
theorem raceBy_cases (i : Interrupt) (course : Course) (arrival : Option α) :
    (∃ now, (i.raceBy course arrival).result = (.error .interrupted, now) ∧
      true ∈ (i.raceBy course arrival).looks) ∨
    ((i.raceBy course arrival).result = (.ok arrival, course.final) ∧
      true ∉ (i.raceBy course arrival).looks) := by
  have hsome := isSome_lookAt i course.ticks
  unfold raceBy
  dsimp only
  cases hlooked : (i.lookAt course.ticks).result with
  | some now =>
    rw [hlooked] at hsome
    exact .inl ⟨now, rfl, hsome.1 rfl⟩
  | none =>
    rw [hlooked] at hsome
    exact .inr ⟨rfl, fun hseen => absurd (hsome.2 hseen) (by simp)⟩

theorem seen_of_error {e : BackendError} (h : (i.raceBy course arrival).result.1 = .error e) :
    e = .interrupted ∧ true ∈ (i.raceBy course arrival).looks := by
  rcases i.raceBy_cases course arrival with ⟨now, hresult, hseen⟩ | ⟨hresult, -⟩
  · rw [hresult] at h
    exact ⟨(Except.error.inj h).symm, hseen⟩
  · rw [hresult] at h
    exact absurd h (by simp)

theorem unseen_of_ok {came : Option α} (h : (i.raceBy course arrival).result.1 = .ok came) :
    came = arrival ∧ true ∉ (i.raceBy course arrival).looks := by
  rcases i.raceBy_cases course arrival with ⟨now, hresult, -⟩ | ⟨hresult, hunseen⟩
  · rw [hresult] at h
    exact absurd h (by simp)
  · rw [hresult] at h
    exact ⟨(Except.ok.inj h).symm, hunseen⟩

end Interrupt

/-! ## In the scripted course -/

namespace Interrupt

variable {α : Type}

/-- The looks end where one of them sees the interrupt fire. -/
theorem fires_of_lookAt {i : Interrupt} {moments : List Signals} {now : Signals}
    (h : (i.lookAt moments).result = some now) : i.fires now = true := by
  induction moments with
  | nil => cases h
  | cons first later ih =>
    rw [lookAt] at h
    split at h
    · rename_i hfires
      rwa [← Option.some.inj h]
    · exact ih h

/-- A race in which no look sees the interrupt fire ends with what came. -/
theorem race_of_unseen {i : Interrupt} {arrival : Option α} {s : Signals}
    (h : (i.lookAt (s.course arrival).ticks).result = none) :
    i.race arrival s = (.ok arrival, (s.course arrival).final) := by
  unfold race raceBy
  dsimp only
  rw [h]

/-- A race is broken off where the interrupt fires, or it ends with what came. -/
theorem race_cases (i : Interrupt) (arrival : Option α) (s : Signals) :
    (∃ now, i.race arrival s = (.error .interrupted, now) ∧ i.fires now = true) ∨
      i.race arrival s = (.ok arrival, (s.course arrival).final) := by
  cases hlooked : (i.lookAt (s.course arrival).ticks).result with
  | some now =>
    refine .inl ⟨now, ?_, fires_of_lookAt hlooked⟩
    unfold race raceBy
    dsimp only
    rw [hlooked]
  | none => exact .inr (race_of_unseen hlooked)

/-- A race that is not broken off ends with what came. -/
theorem race_ok (i : Interrupt) {arrival came : Option α} {s : Signals}
    (h : (i.race arrival s).1 = .ok came) : came = arrival := (unseen_of_ok h).1

/-- A waiting call looks once before it starts. -/
theorem wait_eq (i : Interrupt) (arrival : Option α) (s : Signals) :
    i.wait arrival s =
      if i.fires s then (.error .interrupted, s) else i.race arrival s := by
  unfold wait waitBy race raceBy
  dsimp only [lookAt]
  by_cases hfires : i.fires s = true
  · rw [if_pos hfires, if_pos hfires]
  · rw [if_neg hfires, if_neg hfires]

/-- A wait that is broken off was seen to be so: the interrupt fires where it stopped. -/
theorem fires_of_wait_interrupted {i : Interrupt} {arrival : Option α} {s s' : Signals}
    {e : BackendError} (h : i.wait arrival s = (.error e, s')) :
    e = .interrupted ∧ i.fires s' = true := by
  rw [wait_eq] at h
  split at h
  · rename_i hfires
    cases h
    exact ⟨rfl, hfires⟩
  · obtain ⟨now, hrace, hfires⟩ | hrace := i.race_cases arrival s
    · rw [hrace] at h
      cases h
      exact ⟨rfl, hfires⟩
    · rw [hrace] at h
      cases h

end Interrupt

end ByteStream
