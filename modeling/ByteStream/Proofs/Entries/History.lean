/-
# ByteStream.Proofs.Entries.History -- entries as the record of a history

Entries that were built from nothing by setting and removing names are a record of what was done.
Three questions can be put to the history itself, without the entries: which set was the last word
on a name (`LastSet`), whether the name is there at all (`Present`), and which set made it present
for as long as it has been (`PresentSince`). Setting a name that is there is no such moment.

The record answers all three. It holds exactly the last words (`mem_replay_iff`), so one entry for
each name that is present (`encard_present`), and it holds them in the order in which the names
became present (`pairwise_replay`). Each proof goes from the end of the history backwards: the last
change is the one that was made on top of the others.
-/

import ByteStream.Proofs.Entries.Contents
import Mathlib.Data.Set.Card

namespace ByteStream.Entries

/-! ## Histories -/

/-- What is done to entries. -/
inductive Change
  | set (name value : String)
  | remove (name : String)
deriving DecidableEq, Repr

/-- The name that a change is about. -/
def Change.name : Change → String
  | .set name _ => name
  | .remove name => name

/-- The entries after a change. -/
def after (fold : String → String) (es : Entries) : Change → Entries
  | .set name value => set fold name value es
  | .remove name => erase fold name es

/-- The entries that a history leaves, from nothing on. -/
def replay (fold : String → String) (history : List Change) : Entries :=
  history.foldl (after fold) []

/-- The last word on the key is a set: nothing that is done later is about it. -/
def LastSet (fold : String → String) (key : String) (history : List Change)
    (name value : String) : Prop :=
  ∃ early late, history = early ++ .set name value :: late ∧ fold name = key ∧
    ∀ change ∈ late, fold change.name ≠ key

/-- The last word on the key is a set, and not a removal. -/
def Present (fold : String → String) (key : String) (history : List Change) : Prop :=
  ∃ name value, LastSet fold key history name value

/-- The change at this time set the key when it was not there, and it was not removed since. -/
def PresentSince (fold : String → String) (key : String) (history : List Change) (time : Nat) :
    Prop :=
  ∃ early name value late, history = early ++ .set name value :: late ∧ early.length = time ∧
    fold name = key ∧ ¬ Present fold key early ∧
    ∀ name, .remove name ∈ late → fold name ≠ key

variable {fold : String → String}

/-! ## One change more -/

theorem replay_concat (history : List Change) (change : Change) :
    replay fold (history ++ [change]) = after fold (replay fold history) change := by
  rw [replay, List.foldl_append]
  rfl

/-- A change of a longer history is its last one, or is one of the history before. -/
theorem cut_concat_iff {early late history : List Change} {change last : Change} :
    history ++ [last] = early ++ change :: late ↔
      late = [] ∧ change = last ∧ early = history ∨
        ∃ more, late = more ++ [last] ∧ history = early ++ change :: more := by
  cases late using List.reverseRecOn with
  | nil =>
    constructor
    · intro h
      obtain ⟨rfl, hlast⟩ := List.append_inj' h rfl
      exact .inl ⟨rfl, (List.cons.inj hlast).1.symm, rfl⟩
    · rintro (⟨-, rfl, rfl⟩ | ⟨more, hmore, -⟩)
      · rfl
      · exact absurd hmore (by simp)
  | append_singleton more last' =>
    rw [← List.cons_append, ← List.append_assoc]
    constructor
    · intro h
      obtain ⟨hhistory, hlast⟩ := List.append_inj' h rfl
      obtain rfl := (List.cons.inj hlast).1
      exact .inr ⟨more, rfl, hhistory⟩
    · rintro (⟨hnone, -⟩ | ⟨more', hmore, rfl⟩)
      · exact absurd hnone (by simp)
      · obtain ⟨rfl, hlast⟩ := List.append_inj' hmore rfl
        rw [hlast]

variable {key name value : String} {history : List Change} {last : Change} {time : Nat}

theorem lastSet_concat :
    LastSet fold key (history ++ [last]) name value ↔
      last = .set name value ∧ fold name = key ∨
        fold last.name ≠ key ∧ LastSet fold key history name value := by
  constructor
  · rintro ⟨early, late, hcut, hname, hlate⟩
    rcases cut_concat_iff.1 hcut with ⟨-, rfl, -⟩ | ⟨more, rfl, rfl⟩
    · exact .inl ⟨rfl, hname⟩
    · refine .inr ⟨hlate last (by simp), early, more, rfl, hname, ?_⟩
      intro change hchange
      exact hlate change (List.mem_append_left _ hchange)
  · rintro (⟨rfl, hname⟩ | ⟨hother, early, late, rfl, hname, hlate⟩)
    · exact ⟨history, [], rfl, hname, by simp⟩
    · refine ⟨early, late ++ [last], by simp, hname, ?_⟩
      intro change hchange
      rcases List.mem_append.1 hchange with hchange | hchange
      · exact hlate change hchange
      · rw [List.mem_singleton.1 hchange]
        exact hother

theorem LastSet.fold_eq (h : LastSet fold key history name value) : fold name = key := by
  obtain ⟨early, late, -, hname, -⟩ := h
  exact hname

theorem not_present_nil : ¬ Present fold key [] := by
  rintro ⟨name, value, early, late, hcut, -⟩
  exact absurd hcut (by simp)

theorem present_concat_set :
    Present fold key (history ++ [.set name value]) ↔
      fold name = key ∨ Present fold key history := by
  simp only [Present, lastSet_concat, Change.name, Change.set.injEq]
  constructor
  · rintro ⟨name', value', ⟨⟨rfl, rfl⟩, h⟩ | ⟨-, h⟩⟩
    · exact .inl h
    · exact .inr ⟨name', value', h⟩
  · intro h
    by_cases hname : fold name = key
    · exact ⟨name, value, .inl ⟨⟨rfl, rfl⟩, hname⟩⟩
    · obtain ⟨name', value', h⟩ := h.resolve_left hname
      exact ⟨name', value', .inr ⟨hname, h⟩⟩

theorem present_concat_remove :
    Present fold key (history ++ [.remove name]) ↔ fold name ≠ key ∧ Present fold key history := by
  simp [Present, lastSet_concat, Change.name]

/-- With one change more, a key is present since that change, or since when it was, unless the
change removes it. -/
theorem presentSince_concat :
    PresentSince fold key (history ++ [last]) time ↔
      (∃ name value, last = .set name value ∧ fold name = key ∧ ¬ Present fold key history ∧
        time = history.length) ∨
      (∀ name, last = .remove name → fold name ≠ key) ∧ PresentSince fold key history time := by
  constructor
  · rintro ⟨early, name, value, late, hcut, htime, hname, habsent, hlate⟩
    rcases cut_concat_iff.1 hcut with ⟨-, hlast, rfl⟩ | ⟨more, rfl, rfl⟩
    · exact .inl ⟨name, value, hlast.symm, hname, habsent, htime.symm⟩
    · refine .inr ⟨?_, early, name, value, more, rfl, htime, hname, habsent, ?_⟩
      · rintro removed rfl
        exact hlate removed (by simp)
      · intro removed hremoved
        exact hlate removed (List.mem_append_left _ hremoved)
  · rintro (⟨name, value, rfl, hname, habsent, rfl⟩ |
      ⟨hlast, early, name, value, late, rfl, htime, hname, habsent, hlate⟩)
    · exact ⟨history, name, value, [], rfl, rfl, hname, habsent, by simp⟩
    · refine ⟨early, name, value, late ++ [last], by simp, htime, hname, habsent, ?_⟩
      intro removed hremoved
      rcases List.mem_append.1 hremoved with hremoved | hremoved
      · exact hlate removed hremoved
      · exact hlast removed (List.mem_singleton.1 hremoved).symm

theorem PresentSince.lt (h : PresentSince fold key history time) : time < history.length := by
  obtain ⟨early, name, value, late, rfl, rfl, -⟩ := h
  rw [List.length_append, List.length_cons]
  omega

/-- What is present since some time is present. -/
theorem PresentSince.present (h : PresentSince fold key history time) :
    Present fold key history := by
  induction history using List.reverseRecOn with
  | nil => exact absurd h.lt (by simp)
  | append_singleton history last ih =>
    rcases presentSince_concat.1 h with ⟨name, value, rfl, hname, -⟩ | ⟨hlast, hbefore⟩
    · exact present_concat_set.2 (.inl hname)
    · cases last with
      | set name value => exact present_concat_set.2 (.inr (ih hbefore))
      | remove name => exact present_concat_remove.2 ⟨hlast name rfl, ih hbefore⟩

/-- What is present is present since some time. -/
theorem Present.exists_since (h : Present fold key history) :
    ∃ time, PresentSince fold key history time := by
  induction history using List.reverseRecOn with
  | nil => exact absurd h not_present_nil
  | append_singleton history last ih =>
    cases last with
    | set name value =>
      by_cases hbefore : Present fold key history
      · obtain ⟨time, htime⟩ := ih hbefore
        exact ⟨time, presentSince_concat.2 (.inr ⟨by simp, htime⟩)⟩
      · have hname := (present_concat_set.1 h).resolve_right hbefore
        exact ⟨_, presentSince_concat.2 (.inl ⟨name, value, rfl, hname, hbefore, rfl⟩)⟩
    | remove name =>
      obtain ⟨hname, hbefore⟩ := present_concat_remove.1 h
      obtain ⟨time, htime⟩ := ih hbefore
      refine ⟨time, presentSince_concat.2 (.inr ⟨?_, htime⟩)⟩
      rintro removed heq
      rwa [← Change.remove.inj heq]

/-! ## One change of the entries -/

/-- The entries whose names, as they are compared, are among the keys. -/
def among (fold : String → String) (keys : String → Bool) (es : Entries) : Entries :=
  es.filter fun p => keys (fold p.1)

@[simp] theorem among_cons (keys : String → Bool) (p : String × String) (es : Entries) :
    among fold keys (p :: es) =
      if keys (fold p.1) then p :: among fold keys es else among fold keys es := List.filter_cons

/-- A change leaves the entries of other names as they are, in their order. -/
theorem among_after {keys : String → Bool} {change : Change}
    (hother : keys (fold change.name) = false) (es : Entries) :
    among fold keys (after fold es change) = among fold keys es := by
  cases change with
  | set name value =>
    rw [Change.name] at hother
    show among fold keys (set fold name value es) = _
    induction es with
    | nil => simp [set, hother]
    | cons p rest ih =>
      obtain ⟨k, v⟩ := p
      by_cases hk : fold k = fold name
      · simp [set, hk, hother]
      · simp [set, hk, ih]
  | remove name =>
    rw [Change.name] at hother
    show among fold keys (erase fold name es) = _
    induction es with
    | nil => rfl
    | cons p rest ih =>
      obtain ⟨k, v⟩ := p
      by_cases hk : fold k = fold name
      · simp [erase, hk, hother]
      · simp [erase, hk, ih]

theorem among_foldl_after {keys : String → Bool} {changes : List Change}
    (hother : ∀ change ∈ changes, keys (fold change.name) = false) (es : Entries) :
    among fold keys (changes.foldl (after fold) es) = among fold keys es := by
  induction changes generalizing es with
  | nil => rfl
  | cons change changes ih =>
    rw [List.foldl_cons, ih fun change hchange => hother change (List.mem_cons_of_mem _ hchange)]
    exact among_after (hother change List.mem_cons_self) es

theorem Distinct.after {es : Entries} (h : Distinct fold es) (change : Change) :
    Distinct fold (Entries.after fold es change) := by
  cases change with
  | set name value => exact h.set name value
  | remove name => exact h.erase name

theorem Distinct.eq_of_mem {es : Entries} (h : Distinct fold es) {p q : String × String}
    (hp : p ∈ es) (hq : q ∈ es) (hname : fold p.1 = fold q.1) : p = q :=
  List.inj_on_of_nodup_map h hp hq hname

theorem mem_set_self (name value : String) (es : Entries) :
    (name, value) ∈ set fold name value es := by
  induction es with
  | nil => exact List.mem_singleton_self _
  | cons p rest ih =>
    rw [set]
    split
    · exact List.mem_cons_self
    · exact List.mem_cons_of_mem _ ih

/-- An entry is there after a change if the change has set it, spelling and value, or if it was
there before and the change is about another name. -/
theorem Distinct.mem_after_iff {es : Entries} (h : Distinct fold es) {change : Change}
    {p : String × String} :
    p ∈ Entries.after fold es change ↔
      change = .set p.1 p.2 ∨ fold change.name ≠ fold p.1 ∧ p ∈ es := by
  by_cases hname : fold change.name = fold p.1
  · simp only [hname, ne_eq, not_true_eq_false, false_and, or_false]
    cases change with
    | set name value =>
      constructor
      · intro hp
        rw [(h.set name value).eq_of_mem hp (mem_set_self ..) hname.symm]
      · intro heq
        obtain ⟨rfl, rfl⟩ := Change.set.inj heq
        exact mem_set_self ..
    | remove name =>
      constructor
      · intro hp
        have hkept : fold p.1 ∈ foldedNames fold (Entries.erase fold name es) :=
          List.mem_map_of_mem hp
        rw [foldedNames_erase, ← hname] at hkept
        exact absurd hkept h.not_mem_erase
      · intro heq
        exact absurd heq (by simp)
  · have hset : change ≠ .set p.1 p.2 := by
      rintro rfl
      exact hname rfl
    have hmem (fs : Entries) : p ∈ among fold (· != fold change.name) fs ↔ p ∈ fs := by
      simp [among, Ne.symm hname]
    rw [← hmem, among_after (by simp), hmem]
    simp [hset, hname]

/-! ## The record -/

theorem distinct_replay (history : List Change) : Distinct fold (replay fold history) := by
  induction history using List.reverseRecOn with
  | nil => exact distinct_nil
  | append_singleton history last ih =>
    rw [replay_concat]
    exact ih.after last

/-- The entries are the last words on their names, as they were spelled then. -/
theorem mem_replay_iff {p : String × String} :
    p ∈ replay fold history ↔ LastSet fold (fold p.1) history p.1 p.2 := by
  induction history using List.reverseRecOn with
  | nil => simp [replay, LastSet]
  | append_singleton history last ih =>
    rw [replay_concat, (distinct_replay history).mem_after_iff, lastSet_concat, ih]
    simp only [and_true]

theorem mem_foldedNames_replay_iff :
    key ∈ foldedNames fold (replay fold history) ↔ Present fold key history := by
  constructor
  · intro h
    obtain ⟨p, hp, rfl⟩ := List.mem_map.1 h
    exact ⟨p.1, p.2, mem_replay_iff.1 hp⟩
  · rintro ⟨name, value, h⟩
    obtain rfl := h.fold_eq
    exact List.mem_map.2 ⟨(name, value), mem_replay_iff.2 h, rfl⟩

/-- Looking a name up finds the value of the last word on it, if that is a set. -/
theorem get?_replay_eq_some_iff :
    get? fold name (replay fold history) = some value ↔
      ∃ spelled, LastSet fold (fold name) history spelled value := by
  rw [(distinct_replay history).get?_eq_some_iff]
  constructor
  · intro h
    obtain ⟨p, hp, heq⟩ := List.mem_map.1 h
    obtain ⟨hname, rfl⟩ := Prod.mk.inj heq
    exact ⟨p.1, hname ▸ mem_replay_iff.1 hp⟩
  · rintro ⟨spelled, h⟩
    have hname := h.fold_eq
    rw [← hname] at h ⊢
    exact List.mem_map.2 ⟨(spelled, value), mem_replay_iff.2 h, rfl⟩

/-- There is one entry for each name that is present. -/
theorem encard_present (history : List Change) :
    {key | Present fold key history}.encard = (replay fold history).length := by
  have hkeys : {key | Present fold key history} =
      ((foldedNames fold (replay fold history)).toFinset : Set String) := by
    ext key
    simp [mem_foldedNames_replay_iff]
  rw [hkeys, Set.encard_coe_eq_coe_finsetCard,
    List.toFinset_card_of_nodup (distinct_replay history), foldedNames, List.length_map]

theorem replay_eq_nil_iff :
    replay fold history = [] ↔ ∀ key, ¬ Present fold key history := by
  rw [← List.map_eq_nil_iff (f := fun p => fold p.1), List.eq_nil_iff_forall_not_mem]
  simp only [← mem_foldedNames_replay_iff, foldedNames]

/-! ## The order -/

/-- The one key has been present for longer than the other. -/
def Earlier (fold : String → String) (history : List Change) (key other : String) : Prop :=
  ∀ i j, PresentSince fold key history i → PresentSince fold other history j → i < j

theorem presentSince_of_concat (hpresent : Present fold key history)
    (h : PresentSince fold key (history ++ [last]) time) : PresentSince fold key history time := by
  rcases presentSince_concat.1 h with ⟨-, -, -, -, habsent, -⟩ | ⟨-, hbefore⟩
  · exact absurd hpresent habsent
  · exact hbefore

/-- Between keys that are present, one change more leaves the order as it is. -/
theorem Earlier.concat {other : String} (h : Earlier fold history key other)
    (hkey : Present fold key history) (hother : Present fold other history) :
    Earlier fold (history ++ [last]) key other := by
  intro i j hi hj
  exact h i j (presentSince_of_concat hkey hi) (presentSince_of_concat hother hj)

/-- The names stand in the order in which they became present. -/
theorem pairwise_replay (history : List Change) :
    (foldedNames fold (replay fold history)).Pairwise (Earlier fold history) := by
  induction history using List.reverseRecOn with
  | nil => exact List.Pairwise.nil
  | append_singleton history last ih =>
    have hkept : (foldedNames fold (replay fold history)).Pairwise
        (Earlier fold (history ++ [last])) := by
      refine ih.imp_of_mem ?_
      intro key other hkey hother h
      exact h.concat (mem_foldedNames_replay_iff.1 hkey) (mem_foldedNames_replay_iff.1 hother)
    rw [replay_concat]
    cases last with
    | set name value =>
      show (foldedNames fold (set fold name value (replay fold history))).Pairwise _
      rw [foldedNames_set]
      split
      · exact hkept
      · -- the new name came later than all that are there, since it came last
        rename_i hnew
        refine List.pairwise_append.2 ⟨hkept, List.pairwise_singleton .., ?_⟩
        rintro key hkey other hother i j hi hj
        obtain rfl := List.mem_singleton.1 hother
        have hi' := presentSince_of_concat (mem_foldedNames_replay_iff.1 hkey) hi
        rcases presentSince_concat.1 hj with ⟨-, -, -, -, -, rfl⟩ | ⟨-, hj'⟩
        · exact hi'.lt
        · exact absurd (mem_foldedNames_replay_iff.2 hj'.present) hnew
    | remove name =>
      show (foldedNames fold (erase fold name (replay fold history))).Pairwise _
      rw [foldedNames_erase]
      exact hkept.sublist (List.erase_sublist ..)

end ByteStream.Entries
