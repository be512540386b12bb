/-
# ByteStream.Entries -- named values in order

A list of `(name, value)` pairs that holds each name at most once. Names are compared through a
form `fold : String → String`, so that one definition serves exact names (`fold = id`) and names
up to case. Setting a present name replaces its pair in place, spelling included; setting an
absent one appends; erasing closes the gap. Proved here: the lookup equations of each operation,
and that every operation keeps the folded names distinct.
-/

namespace ByteStream

/-- Pairs of a name and a value, in order. -/
abbrev Entries := List (String × String)

namespace Entries

variable (fold : String → String)

/-! ## Operations -/

/-- The value under `name`. -/
def get? (name : String) : Entries → Option String
  | [] => none
  | (k, v) :: rest => if fold k = fold name then some v else get? name rest

/-- Puts `value` under `name`: in place if the name is there, else at the end. -/
def set (name value : String) : Entries → Entries
  | [] => [(name, value)]
  | (k, v) :: rest =>
    if fold k = fold name then (name, value) :: rest else (k, v) :: set name value rest

/-- Removes the entry under `name`. -/
def erase (name : String) : Entries → Entries
  | [] => []
  | (k, v) :: rest => if fold k = fold name then rest else (k, v) :: erase name rest

/-- Sets every pair of `pairs`, from the first to the last. -/
def setAll (pairs : Entries) (es : Entries) : Entries :=
  pairs.foldl (fun acc p => set fold p.1 p.2 acc) es

/-- The names as they are compared. -/
def foldedNames (es : Entries) : List String := es.map fun p => fold p.1

/-- Each name is there once. -/
def Distinct (es : Entries) : Prop := (foldedNames fold es).Nodup

/-! ## Looking up -/

variable {fold}

@[simp] theorem get?_nil (name : String) : get? fold name [] = none := rfl

theorem get?_congr {a b : String} (h : fold a = fold b) (es : Entries) :
    get? fold a es = get? fold b es := by
  induction es with
  | nil => rfl
  | cons p rest ih => obtain ⟨k, v⟩ := p; simp only [get?, h, ih]

theorem get?_eq_none_iff {name : String} {es : Entries} :
    get? fold name es = none ↔ fold name ∉ foldedNames fold es := by
  induction es with
  | nil => simp [foldedNames]
  | cons p rest ih =>
    obtain ⟨k, v⟩ := p
    simp only [foldedNames, List.map_cons, List.mem_cons, not_or] at ih ⊢
    simp only [get?]
    split
    · rename_i h; simp [h]
    · rename_i h; simp [ih, Ne.symm h]

theorem get?_set_same (name value : String) (es : Entries) :
    get? fold name (set fold name value es) = some value := by
  induction es with
  | nil => simp [set, get?]
  | cons p rest ih =>
    obtain ⟨k, v⟩ := p
    simp only [set]
    split
    · simp [get?]
    · rename_i h; simp [get?, h, ih]

theorem get?_set_other {name other : String} (h : fold other ≠ fold name) (value : String)
    (es : Entries) : get? fold other (set fold name value es) = get? fold other es := by
  induction es with
  | nil => simp [set, get?, Ne.symm h]
  | cons p rest ih =>
    obtain ⟨k, v⟩ := p
    simp only [set]
    split
    · rename_i hk; simp [get?, hk, Ne.symm h]
    · simp only [get?, ih]

theorem get?_erase_other {name other : String} (h : fold other ≠ fold name) (es : Entries) :
    get? fold other (erase fold name es) = get? fold other es := by
  induction es with
  | nil => rfl
  | cons p rest ih =>
    obtain ⟨k, v⟩ := p
    simp only [erase]
    split
    · rename_i hk; simp [get?, hk, Ne.symm h]
    · simp only [get?, ih]

/-! ## Names -/

theorem foldedNames_set (name value : String) (es : Entries) :
    foldedNames fold (set fold name value es) =
      if fold name ∈ foldedNames fold es then foldedNames fold es
      else foldedNames fold es ++ [fold name] := by
  induction es with
  | nil => simp [set, foldedNames]
  | cons p rest ih =>
    obtain ⟨k, v⟩ := p
    simp only [foldedNames, set, List.map_cons, List.mem_cons] at ih ⊢
    by_cases h : fold k = fold name
    · simp [h]
    · simp only [if_neg h, List.map_cons, ih, Ne.symm h, false_or]
      by_cases hm : fold name ∈ rest.map fun p => fold p.1 <;> simp [hm]

theorem foldedNames_erase (name : String) (es : Entries) :
    foldedNames fold (erase fold name es) = (foldedNames fold es).erase (fold name) := by
  induction es with
  | nil => rfl
  | cons p rest ih =>
    obtain ⟨k, v⟩ := p
    simp only [foldedNames, erase, List.map_cons] at ih ⊢
    by_cases h : fold k = fold name
    · simp [h]
    · simp [h, ih]

theorem distinct_nil : Distinct fold [] := List.nodup_nil

theorem Distinct.set {es : Entries} (h : Distinct fold es) (name value : String) :
    Distinct fold (Entries.set fold name value es) := by
  unfold Distinct at *
  rw [foldedNames_set]
  split
  · exact h
  · rename_i hn
    rw [List.nodup_append]
    refine ⟨h, by simp, ?_⟩
    intro a ha b hb
    simp only [List.mem_singleton] at hb
    subst hb
    rintro rfl
    exact hn ha

theorem Distinct.erase {es : Entries} (h : Distinct fold es) (name : String) :
    Distinct fold (Entries.erase fold name es) := by
  unfold Distinct at *
  rw [foldedNames_erase]
  exact h.erase _

theorem Distinct.setAll {es : Entries} (h : Distinct fold es) (pairs : Entries) :
    Distinct fold (Entries.setAll fold pairs es) := by
  induction pairs generalizing es with
  | nil => exact h
  | cons p rest ih => exact ih (h.set p.1 p.2)

end Entries

end ByteStream
