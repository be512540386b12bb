/-
# ByteStream.Proofs.General -- lists, characters and results

Facts that are about no stream: what `List`, `Char` and `Except` have to say where the library does
not say it. A list of pairs is looked up by its first entries, which are names, numbers of slots or
keys elsewhere.
-/

import Mathlib.Data.List.Basic

namespace ByteStream

/-! ## Lists -/

section Lists

variable {α β : Type}

/-- Only the answers about the elements of the list matter. -/
theorem dropWhile_congr {p q : α → Bool} {xs : List α} (h : ∀ x ∈ xs, p x = q x) :
    xs.dropWhile p = xs.dropWhile q := by
  induction xs with
  | nil => rfl
  | cons x rest ih =>
    obtain ⟨hx, hrest⟩ := List.forall_mem_cons.1 h
    rw [List.dropWhile_cons, List.dropWhile_cons, hx, ih hrest]

theorem map_fst_optional (a : α) (value : Option β) :
    ((value.map fun v => (a, v)).toList).map Prod.fst = [a].filter fun _ => value.isSome := by
  cases value <;> rfl

variable [BEq α] [LawfulBEq α]

/-- Leaving elements out and leaving repetitions out can be done in either order. -/
theorem filter_eraseDups (p : α → Bool) :
    ∀ xs : List α, xs.eraseDups.filter p = (xs.filter p).eraseDups
  | [] => rfl
  | x :: xs => by
      have ih := filter_eraseDups p (xs.filter fun y => !y == x)
      rw [List.eraseDups_cons]
      cases hx : p x with
      | true =>
          rw [List.filter_cons_of_pos hx, List.filter_cons_of_pos hx, List.eraseDups_cons, ih,
            List.filter_comm]
      | false =>
          have hdrop : (xs.filter fun y => !y == x).filter p = xs.filter p := by
            rw [List.filter_filter]
            apply List.filter_congr
            intro y _
            by_cases hy : y = x
            · simp [hy, hx]
            · simp [hy]
          rw [List.filter_cons_of_neg (by simp [hx]), List.filter_cons_of_neg (by simp [hx]), ih,
            hdrop]
termination_by xs => xs.length
decreasing_by
  exact Nat.lt_succ_of_le (List.length_filter_le _ xs)

/-- Leaving out one key leaves all others. -/
theorem lookup_filter_ne {a other : α} (h : other ≠ a) (xs : List (α × β)) :
    (xs.filter fun x => x.1 != a).lookup other = xs.lookup other := by
  induction xs with
  | nil => rfl
  | cons x rest ih =>
    obtain ⟨b, value⟩ := x
    by_cases hb : b = a
    · have hother : (other == b) = false := by simp [hb, h]
      rw [List.filter_cons_of_neg (by simp [hb]), ih, List.lookup_cons, hother]
    · rw [List.filter_cons_of_pos (by simp [hb]), List.lookup_cons, List.lookup_cons, ih]

/-- Where each key stands once, there is at most one pair with a key. -/
theorem filter_fst_eq_lookup {xs : List (α × β)} (h : (xs.map Prod.fst).Nodup) (a : α) :
    xs.filter (fun x => x.1 == a) = ((xs.lookup a).map fun value => (a, value)).toList := by
  induction xs with
  | nil => rfl
  | cons x rest ih =>
    obtain ⟨b, value⟩ := x
    rw [List.map_cons, List.nodup_cons] at h
    by_cases hb : b = a
    · subst hb
      have hrest : rest.filter (fun x => x.1 == b) = [] := by
        rw [List.filter_eq_nil_iff]
        intro x hx heq
        exact h.1 (List.mem_map.2 ⟨x, hx, by simpa using heq⟩)
      rw [List.filter_cons_of_pos (by simp), hrest, List.lookup_cons_self]
      rfl
    · have hother : (a == b) = false := by simp [Ne.symm hb]
      rw [List.filter_cons_of_neg (by simp [hb]), ih h.2, List.lookup_cons, hother]

/-- The pairs with a key are the same before and after sorting. -/
theorem filter_fst_mergeSort {xs : List (α × β)} (h : (xs.map Prod.fst).Nodup)
    (le : α × β → α × β → Bool) (a : α) :
    (xs.mergeSort le).filter (fun x => x.1 == a) = xs.filter fun x => x.1 == a := by
  -- Sorting moves pairs, but a list of at most one pair has only one order.
  have hperm := (List.mergeSort_perm xs le).filter fun x => x.1 == a
  rw [filter_fst_eq_lookup h] at hperm ⊢
  cases hlookup : xs.lookup a with
  | none =>
    rw [hlookup] at hperm
    exact List.perm_nil.1 hperm
  | some value =>
    rw [hlookup] at hperm
    exact List.perm_singleton.1 hperm

end Lists

/-! ## Characters -/

theorem isLower_toLower {c : Char} (h : c.val ≥ 'A'.val ∧ c.val ≤ 'Z'.val) :
    c.toLower.isLower = true := by
  have hval : c.toLower.val = c.val + 32 := by
    unfold Char.toLower
    rw [dif_pos h]
    rfl
  obtain ⟨hfirst, hlast⟩ := h
  rw [ge_iff_le, UInt32.le_iff_toNat_le] at hfirst
  rw [UInt32.le_iff_toNat_le] at hlast
  have hA : 'A'.val.toNat = 65 := rfl
  have hZ : 'Z'.val.toNat = 90 := rfl
  have ha : 'a'.val.toNat = 97 := rfl
  have hz : 'z'.val.toNat = 122 := rfl
  have hsum : (c.val + 32).toNat = c.val.toNat + 32 := by
    rw [UInt32.toNat_add]
    exact Nat.mod_eq_of_lt (by have : (32 : UInt32).toNat = 32 := rfl; omega)
  show (decide ('a'.val ≤ c.toLower.val) && decide (c.toLower.val ≤ 'z'.val)) = true
  rw [Bool.and_eq_true, decide_eq_true_eq, decide_eq_true_eq, UInt32.le_iff_toNat_le,
    UInt32.le_iff_toNat_le, hval, hsum]
  omega

theorem toLower_toLower (c : Char) : c.toLower.toLower = c.toLower := by
  by_cases hupper : c.val ≥ 'A'.val ∧ c.val ≤ 'Z'.val
  · have hlower := isLower_toLower hupper
    generalize c.toLower = d at hlower
    have hfirst : 'a'.val ≤ d.val := of_decide_eq_true (Bool.and_eq_true_iff.1 hlower).1
    have hlast : ¬ (d.val ≥ 'A'.val ∧ d.val ≤ 'Z'.val) := by
      rintro ⟨-, hlast⟩
      exact absurd (UInt32.le_trans hfirst hlast) (by decide)
    unfold Char.toLower
    rw [dif_neg hlast]
  · have hsame : c.toLower = c := by
      unfold Char.toLower
      rw [dif_neg hupper]
    rw [hsame, hsame]

/-! ## Results -/

theorem mapError_eq_ok_iff {ε ε' α : Type} {f : ε → ε'} {r : Except ε α} {a : α} :
    r.mapError f = .ok a ↔ r = .ok a := by
  cases r with
  | error e => exact ⟨nofun, nofun⟩
  | ok b => exact ⟨fun h => congrArg _ (Except.ok.inj h), fun h => congrArg _ (Except.ok.inj h)⟩

end ByteStream
