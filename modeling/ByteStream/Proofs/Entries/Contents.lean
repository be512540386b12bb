/-
# ByteStream.Proofs.Entries.Contents -- what a list of entries holds

Setting pairs one after the other leaves each name with the last value that it was given
(`get?_setAll`), and the names in the order in which they were first mentioned
(`foldedNames_setAll`).

Entries of distinct names are a finite map that is written down in some order. What they hold, up
to order and to how names are spelled, is their `contents`, and looking a name up finds just that
(`get?_eq_some_iff`). Two lists that give the same value for every name have the same contents up
to order (`get?_eq_iff_perm`). To see that, it is enough to compare their lengths and to look up
every entry of one list in the other (`included_iff_perm`): the names of the first list are
distinct, so they leave no room in the second for a name of its own.
-/

import ByteStream.Entries
import Mathlib.Data.List.Basic
import Mathlib.Data.List.Induction
import Mathlib.Data.List.Nodup
import Mathlib.Data.List.Perm.Subperm

namespace ByteStream

namespace Entries

variable {fold : String → String}

/-! ## One value after the other -/

/-- The value of the last pair under `name`. -/
def lastValue (fold : String → String) (name : String) (pairs : Entries) : Option String :=
  get? fold name pairs.reverse

theorem get?_append (name : String) (xs ys : Entries) :
    get? fold name (xs ++ ys) = (get? fold name xs).or (get? fold name ys) := by
  induction xs with
  | nil => rfl
  | cons p xs ih =>
      obtain ⟨k, v⟩ := p
      simp only [List.cons_append, get?]
      split
      · rfl
      · exact ih

@[simp] theorem lastValue_nil (name : String) : lastValue fold name [] = none := rfl

/-- A later value wins over an earlier one. -/
theorem lastValue_append (name : String) (xs ys : Entries) :
    lastValue fold name (xs ++ ys) = (lastValue fold name ys).or (lastValue fold name xs) := by
  rw [lastValue, List.reverse_append, get?_append]
  rfl

theorem get?_set (name other value : String) (es : Entries) :
    get? fold other (set fold name value es) =
      if fold other = fold name then some value else get? fold other es := by
  split
  · rename_i h
    rw [get?_congr h, get?_set_same]
  · rename_i h
    exact get?_set_other h value es

/-- Setting pairs leaves each name with the last value that they give it. -/
theorem get?_setAll (name : String) (pairs es : Entries) :
    get? fold name (setAll fold pairs es) =
      (lastValue fold name pairs).or (get? fold name es) := by
  induction pairs generalizing es with
  | nil => rfl
  | cons p rest ih =>
      have hone : lastValue fold name [p] = if fold name = fold p.1 then some p.2 else none := by
        simp only [lastValue, List.reverse_singleton, get?, eq_comm]
      show get? fold name (setAll fold rest (set fold p.1 p.2 es)) = _
      rw [ih, get?_set, ← List.singleton_append, lastValue_append, Option.or_assoc, hone]
      split <;> rfl

theorem get?_eq_head? (name : String) (es : Entries) :
    get? fold name es = ((es.filter fun p => fold p.1 == fold name).map (·.2)).head? := by
  induction es with
  | nil => rfl
  | cons p rest ih =>
      obtain ⟨k, v⟩ := p
      simp only [get?]
      by_cases h : fold k = fold name
      · rw [if_pos h, List.filter_cons_of_pos (by simpa using h)]
        rfl
      · rw [if_neg h, List.filter_cons_of_neg (by simpa using h), ih]

theorem lastValue_eq_getLast? (name : String) (pairs : Entries) :
    lastValue fold name pairs =
      ((pairs.filter fun p => fold p.1 == fold name).map (·.2)).getLast? := by
  rw [lastValue, get?_eq_head?, List.filter_reverse, List.map_reverse, List.head?_reverse]

/-- Every entry is one of the pairs that were set. -/
theorem mem_of_mem_set {name value : String} {es : Entries} {p : String × String}
    (h : p ∈ set fold name value es) : p = (name, value) ∨ p ∈ es := by
  induction es with
  | nil => exact .inl (List.mem_singleton.1 h)
  | cons q rest ih =>
      simp only [set] at h
      split at h
      · rcases List.mem_cons.1 h with h | h
        · exact .inl h
        · exact .inr (List.mem_cons_of_mem _ h)
      · rcases List.mem_cons.1 h with h | h
        · exact .inr (List.mem_cons.2 (.inl h))
        · exact (ih h).imp_right (List.mem_cons_of_mem _)

theorem mem_of_mem_setAll {pairs es : Entries} {p : String × String}
    (h : p ∈ setAll fold pairs es) : p ∈ pairs ∨ p ∈ es := by
  induction pairs generalizing es with
  | nil => exact .inr h
  | cons q rest ih =>
      rcases ih h with h | h
      · exact .inl (List.mem_cons_of_mem _ h)
      · exact (mem_of_mem_set h).imp_left fun heq => List.mem_cons.2 (.inl heq)

/-- Setting pairs from nothing names each of them once, in the order of the first mention. -/
theorem foldedNames_setAll (pairs : Entries) :
    foldedNames fold (setAll fold pairs []) = (foldedNames fold pairs).eraseDups := by
  -- from the last pair on, since that is the one that is set on top of the others
  induction pairs using List.reverseRecOn with
  | nil => rfl
  | append_singleton pairs p ih =>
      have hset : setAll fold (pairs ++ [p]) [] = set fold p.1 p.2 (setAll fold pairs []) := by
        rw [setAll, List.foldl_append]
        rfl
      have hnames : foldedNames fold (pairs ++ [p]) = foldedNames fold pairs ++ [fold p.1] := by
        rw [foldedNames, List.map_append]
        rfl
      rw [hset, foldedNames_set, ih, hnames, List.eraseDups_append]
      by_cases h : fold p.1 ∈ foldedNames fold pairs <;>
        simp [List.removeAll, List.eraseDups_cons, h]

/-- An entry of distinct names is what looking its name up gives. -/
theorem Distinct.get?_of_mem {es : Entries} (h : Distinct fold es) {p : String × String}
    (hp : p ∈ es) : get? fold p.1 es = some p.2 := by
  induction es with
  | nil => exact absurd hp (List.not_mem_nil)
  | cons q rest ih =>
      have hnodup := List.nodup_cons.1 h
      simp only [get?]
      rcases List.mem_cons.1 hp with rfl | hp
      · rw [if_pos rfl]
      · have hne : fold q.1 ≠ fold p.1 := by
          intro heq
          exact hnodup.1 (List.mem_map.2 ⟨p, hp, heq.symm⟩)
        rw [if_neg hne]
        exact ih hnodup.2 hp

/-! ## Contents -/

/-- What the entries hold: the names as they are compared, and their values. -/
def contents (fold : String → String) (es : Entries) : Entries := es.map fun p => (fold p.1, p.2)

/-- As many entries, and each of them is found in the other list. -/
def Included (fold : String → String) (es fs : Entries) : Prop :=
  es.length = fs.length ∧ ∀ p ∈ es, get? fold p.1 fs = some p.2

theorem map_fst_contents (es : Entries) : (contents fold es).map (·.1) = foldedNames fold es := by
  simp [contents, foldedNames]

theorem length_contents (es : Entries) : (contents fold es).length = es.length := List.length_map _

theorem Distinct.nodup_contents {es : Entries} (h : Distinct fold es) :
    (contents fold es).Nodup := by
  apply List.Nodup.of_map (·.1)
  rw [map_fst_contents]
  exact h

theorem mem_contents_of_get? {name value : String} {es : Entries}
    (h : get? fold name es = some value) : (fold name, value) ∈ contents fold es := by
  induction es with
  | nil => exact absurd h (by simp)
  | cons p rest ih =>
      obtain ⟨k, v⟩ := p
      simp only [get?] at h
      split at h
      · rename_i hk
        obtain rfl := Option.some.inj h
        rw [← hk]
        exact List.mem_cons_self
      · exact List.mem_cons_of_mem _ (ih h)

/-- Looking a name up finds what the entries hold. -/
theorem Distinct.get?_eq_some_iff {es : Entries} (h : Distinct fold es) {name value : String} :
    get? fold name es = some value ↔ (fold name, value) ∈ contents fold es := by
  constructor
  · exact mem_contents_of_get?
  · intro hmem
    obtain ⟨p, hp, heq⟩ := List.mem_map.1 hmem
    obtain ⟨hname, rfl⟩ := Prod.mk.inj heq
    rw [get?_congr hname.symm]
    exact h.get?_of_mem hp

/-- Contents in another order belong to distinct names as well. -/
theorem Distinct.of_perm {es fs : Entries} (h : Distinct fold es)
    (hperm : (contents fold es).Perm (contents fold fs)) : Distinct fold fs := by
  have hnames := hperm.map (·.1)
  rw [map_fst_contents, map_fst_contents] at hnames
  exact hnames.nodup h

variable {es fs : Entries}

/-- The same values under all names are the same contents in some order. -/
theorem get?_eq_iff_perm (hes : Distinct fold es) (hfs : Distinct fold fs) :
    (∀ name, get? fold name es = get? fold name fs) ↔
      (contents fold es).Perm (contents fold fs) := by
  constructor
  · intro h
    rw [List.perm_ext_iff_of_nodup hes.nodup_contents hfs.nodup_contents]
    rintro ⟨k, v⟩
    constructor
    · intro hmem
      obtain ⟨p, -, heq⟩ := List.mem_map.1 hmem
      obtain rfl := (Prod.mk.inj heq).1
      rw [← hfs.get?_eq_some_iff, ← h, hes.get?_eq_some_iff]
      exact hmem
    · intro hmem
      obtain ⟨p, -, heq⟩ := List.mem_map.1 hmem
      obtain rfl := (Prod.mk.inj heq).1
      rw [← hes.get?_eq_some_iff, h, hfs.get?_eq_some_iff]
      exact hmem
  · intro hperm name
    apply Option.ext
    intro value
    rw [hes.get?_eq_some_iff, hfs.get?_eq_some_iff]
    exact hperm.mem_iff

/-- Equal lengths and one inclusion are enough: the contents of the first list are all different,
and as many as there are in the second. -/
theorem included_iff_perm (hes : Distinct fold es) (hfs : Distinct fold fs) :
    Included fold es fs ↔ (contents fold es).Perm (contents fold fs) := by
  constructor
  · rintro ⟨hlength, hfound⟩
    have hsubset : contents fold es ⊆ contents fold fs := by
      intro q hq
      obtain ⟨p, hp, rfl⟩ := List.mem_map.1 hq
      exact mem_contents_of_get? (hfound p hp)
    have hsub := List.subperm_of_subset hes.nodup_contents hsubset
    apply hsub.perm_of_length_le
    rw [length_contents, length_contents]
    omega
  · intro hperm
    have hlength := hperm.length_eq
    rw [length_contents, length_contents] at hlength
    refine ⟨hlength, ?_⟩
    intro p hp
    rw [← (get?_eq_iff_perm hes hfs).2 hperm]
    exact hes.get?_of_mem hp

end Entries

end ByteStream
