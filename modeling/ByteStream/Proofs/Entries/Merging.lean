/-
# ByteStream.Proofs.Entries.Merging -- setting pairs at once or collecting them first

Pairs can be set one by one on top of other entries, or be collected into entries of their own
that are then set on top. The outcome is the same, entry for entry: in the same order and with the
same spelling of the names (`setAll_setAll`). What is collected has each name once, at the place of
its first mention and as it was mentioned last, and this is what is left of the pairs in the end.
-/

import ByteStream.Entries
import Mathlib.Data.List.Basic

namespace ByteStream.Entries

variable {fold : String → String}

/-! ## Setting two names -/

/-- Of two pairs under one name, only the second counts. -/
theorem set_set_same {key name : String} (h : fold key = fold name) (old value : String)
    (es : Entries) : set fold name value (set fold key old es) = set fold name value es := by
  induction es with
  | nil => simp [set, h]
  | cons p rest ih =>
      obtain ⟨k, v⟩ := p
      by_cases hk : fold k = fold name
      · simp [set, hk, h]
      · have hkey : fold k ≠ fold key := h ▸ hk
        simp only [set, if_neg hk, if_neg hkey, ih]

/-- A name that is there can be set before or after another one: it keeps its place. -/
theorem set_comm {key name : String} (h : fold key ≠ fold name) {es : Entries}
    (hname : fold name ∈ foldedNames fold es) (old value : String) :
    set fold name value (set fold key old es) = set fold key old (set fold name value es) := by
  induction es with
  | nil => exact absurd hname (by simp [foldedNames])
  | cons p rest ih =>
      obtain ⟨k, v⟩ := p
      by_cases hk : fold k = fold name
      · have hkey : fold k ≠ fold key := fun heq => h (heq.symm.trans hk)
        simp only [set, if_pos hk, if_neg hkey, if_neg (Ne.symm h)]
      · have hrest : fold name ∈ foldedNames fold rest := by
          rcases List.mem_cons.1 hname with heq | hmem
          · exact absurd heq.symm hk
          · exact hmem
        by_cases hkey : fold k = fold key
        · simp only [set, if_pos hkey, if_neg hk, if_neg h]
        · simp only [set, if_neg hkey, if_neg hk, ih hrest]

theorem mem_foldedNames_set {name : String} {es : Entries} (h : fold name ∈ foldedNames fold es)
    (key old : String) : fold name ∈ foldedNames fold (set fold key old es) := by
  rw [foldedNames_set]
  split
  · exact h
  · exact List.mem_append_left _ h

/-- So it can be set before or after pairs that do not name it. -/
theorem set_setAll {name : String} {pairs es : Entries}
    (hother : fold name ∉ foldedNames fold pairs) (hname : fold name ∈ foldedNames fold es)
    (value : String) :
    set fold name value (setAll fold pairs es) = setAll fold pairs (set fold name value es) := by
  induction pairs generalizing es with
  | nil => rfl
  | cons p rest ih =>
      rw [foldedNames, List.map_cons, List.mem_cons, not_or] at hother
      show set fold name value (setAll fold rest (set fold p.1 p.2 es)) =
        setAll fold rest (set fold p.1 p.2 (set fold name value es))
      rw [ih hother.2 (mem_foldedNames_set hname ..), set_comm (Ne.symm hother.1) hname]

/-! ## Collecting first -/

/-- A pair that is collected last is set last. -/
theorem setAll_set {pairs : Entries} (h : Distinct fold pairs) (name value : String)
    (es : Entries) :
    setAll fold (set fold name value pairs) es = set fold name value (setAll fold pairs es) := by
  induction pairs generalizing es with
  | nil => rfl
  | cons p rest ih =>
      obtain ⟨k, v⟩ := p
      have hnodup := List.nodup_cons.1 h
      by_cases hk : fold k = fold name
      · -- the new pair has taken the place of `k`, and behind it the name does not come again
        have hplaced : fold name ∈ foldedNames fold (set fold k v es) := by
          by_contra hnot
          rw [← hk, ← get?_eq_none_iff, get?_set_same] at hnot
          exact absurd hnot (by simp)
        rw [set, if_pos hk]
        show setAll fold rest (set fold name value es) =
          set fold name value (setAll fold rest (set fold k v es))
        rw [set_setAll (hk ▸ hnodup.1) hplaced, set_set_same hk]
      · rw [set, if_neg hk]
        exact ih hnodup.2 _

/-- Collecting pairs on top of entries, and setting what comes of it: as if all had been set one
after the other. -/
theorem setAll_collected {collected : Entries} (h : Distinct fold collected) (pairs es : Entries) :
    setAll fold (setAll fold pairs collected) es =
      setAll fold pairs (setAll fold collected es) := by
  induction pairs generalizing collected with
  | nil => rfl
  | cons p rest ih =>
      show setAll fold (setAll fold rest (set fold p.1 p.2 collected)) es =
        setAll fold rest (set fold p.1 p.2 (setAll fold collected es))
      rw [ih (h.set p.1 p.2), setAll_set h]

theorem setAll_setAll (pairs es : Entries) :
    setAll fold (setAll fold pairs []) es = setAll fold pairs es :=
  setAll_collected distinct_nil pairs es

end ByteStream.Entries
