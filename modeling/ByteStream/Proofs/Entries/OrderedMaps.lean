/-
# ByteStream.Proofs.Entries.OrderedMaps -- options and tags are ordered maps

Options and tags offer the same operations; what differs is how they compare names (`Collection`).
A sequence of operations is a history of changes, in which a merge counts as the sets of the other
collection's entries, one after the other, and looking up counts as nothing.

After every sequence of operations the collection is the ordered map that its history describes
(`Collection.IsRecord`): a name is there if its last word is a set, with the value and the spelling
of that set, at the place that it took when it last became present. Both collections do to their
entries what the operations of entries do (`Collection.KeepsEntries`), and what comes of those is
known from the history (`entries_run`).
-/

import ByteStream.ConnectOptions
import ByteStream.Tags
import ByteStream.Proofs.Entries.History

namespace ByteStream

open Entries (Change LastSet Present PresentSince Earlier after among replay)

/-! ## Collections -/

/-- A type of named values in order, with what can be done to them. -/
structure Collection (α : Type) where
  /-- The form in which names are compared. -/
  fold : String → String
  empty : α
  entries : α → Entries
  get? : α → String → Option String
  set : α → String → String → α
  /-- The value that the name had, and what is left. -/
  remove : α → String → Option String × α
  merge : α → α → α
  size : α → Nat
  isEmpty : α → Bool

/-- Options, under exact keys. -/
def ConnectOptions.collection : Collection ConnectOptions where
  fold := id
  empty := empty
  entries := entries
  get? := get?
  set := set
  remove := take
  merge options other := options.setAll other.entries
  size := size
  isEmpty := isEmpty

/-- Tags, under names up to ASCII case. -/
def Tags.collection : Collection Tags where
  fold := Text.lower
  empty := empty
  entries := entries
  get? := get?
  set := set
  remove := remove
  merge := merge
  size := size
  isEmpty := isEmpty

namespace Collection

/-- One use of a collection. -/
inductive Operation (α : Type)
  | get (name : String)
  | set (name value : String)
  | remove (name : String)
  | merge (other : α)

variable {α : Type} (c : Collection α)

/-- The collection after an operation. -/
def perform (s : α) : Operation α → α
  | .get _ => s
  | .set name value => c.set s name value
  | .remove name => (c.remove s name).2
  | .merge other => c.merge s other

/-- The collection after a sequence of operations, from the empty one on. -/
def run (operations : List (Operation α)) : α := operations.foldl c.perform c.empty

/-- What an operation changes, in this order. -/
def changes : Operation α → List Change
  | .get _ => []
  | .set name value => [.set name value]
  | .remove name => [.remove name]
  | .merge other => (c.entries other).map fun p => .set p.1 p.2

/-- What a sequence of operations changes. -/
def history (operations : List (Operation α)) : List Change := operations.flatMap c.changes

/-- The names that an operation is about, as they are compared. -/
def touched (operation : Operation α) : List String :=
  (c.changes operation).map fun change => c.fold change.name

/-- The collection is an ordered map, and what the history says is what it holds. -/
structure IsRecord (s : α) (history : List Change) : Prop where
  /-- No name is there twice. -/
  distinct : Entries.Distinct c.fold (c.entries s)
  /-- Looking a name up finds the value of its last set, if it was not removed after that. -/
  get?_iff : ∀ name value, c.get? s name = some value ↔
    ∃ spelled, LastSet c.fold (c.fold name) history spelled value
  /-- Removing a name gives the same value. -/
  removed_iff : ∀ name value, (c.remove s name).1 = some value ↔
    ∃ spelled, LastSet c.fold (c.fold name) history spelled value
  /-- An entry is such a last set, with the name as it was spelled there. -/
  mem_iff : ∀ p, p ∈ c.entries s ↔ LastSet c.fold (c.fold p.1) history p.1 p.2
  /-- The name of an entry became present at some time, and was not removed after that. -/
  since : ∀ p ∈ c.entries s, ∃ time, PresentSince c.fold (c.fold p.1) history time
  /-- The entries stand in the order of these times. -/
  ordered : (c.entries s).Pairwise fun p q => Earlier c.fold history (c.fold p.1) (c.fold q.1)
  /-- The size is the number of names that are present. -/
  size_eq : (c.size s : ℕ∞) = {key | Present c.fold key history}.encard
  /-- A collection is empty if no name is present. -/
  isEmpty_iff : c.isEmpty s = true ↔ ∀ key, ¬ Present c.fold key history
  /-- An operation leaves the entries of the names that it is not about as they are, in their
  order. -/
  others : ∀ operation, among c.fold (· ∉ c.touched operation) (c.entries (c.perform s operation)) =
    among c.fold (· ∉ c.touched operation) (c.entries s)

/-- After every sequence of operations the collection is the ordered map of what was done. -/
def IsOrderedMap : Prop := ∀ operations, c.IsRecord (c.run operations) (c.history operations)

/-! ## Keeping entries -/

/-- Every operation does to the entries what the operation of entries does. -/
structure KeepsEntries : Prop where
  empty : c.entries c.empty = []
  get? : ∀ s name, c.get? s name = Entries.get? c.fold name (c.entries s)
  set : ∀ s name value, c.entries (c.set s name value) = Entries.set c.fold name value (c.entries s)
  removed : ∀ s name, (c.remove s name).1 = Entries.get? c.fold name (c.entries s)
  remove : ∀ s name, c.entries (c.remove s name).2 = Entries.erase c.fold name (c.entries s)
  merge : ∀ s other,
    c.entries (c.merge s other) = Entries.setAll c.fold (c.entries other) (c.entries s)
  size : ∀ s, c.size s = (c.entries s).length
  isEmpty : ∀ s, c.isEmpty s = (c.entries s).isEmpty

theorem keepsEntries_options : ConnectOptions.collection.KeepsEntries where
  empty := rfl
  get? _ _ := rfl
  set _ _ _ := rfl
  removed _ _ := rfl
  remove _ _ := rfl
  merge _ _ := rfl
  size _ := rfl
  isEmpty _ := rfl

theorem keepsEntries_tags : Tags.collection.KeepsEntries where
  empty := rfl
  get? _ _ := rfl
  set _ _ _ := rfl
  removed _ _ := rfl
  remove _ _ := rfl
  merge _ _ := rfl
  size _ := rfl
  isEmpty _ := rfl

namespace KeepsEntries

variable {c}

theorem entries_perform (h : c.KeepsEntries) (s : α) (operation : Operation α) :
    c.entries (c.perform s operation) =
      (c.changes operation).foldl (after c.fold) (c.entries s) := by
  cases operation with
  | get name => rfl
  | set name value => exact h.set s name value
  | remove name => exact h.remove s name
  | merge other =>
    rw [perform, h.merge, changes, List.foldl_map]
    rfl

theorem entries_foldl_perform (h : c.KeepsEntries) (operations : List (Operation α)) (s : α) :
    c.entries (operations.foldl c.perform s) =
      (c.history operations).foldl (after c.fold) (c.entries s) := by
  induction operations generalizing s with
  | nil => rfl
  | cons operation operations ih =>
    rw [List.foldl_cons, ih, h.entries_perform, history, history, List.flatMap_cons,
      List.foldl_append]

/-- A sequence of operations leaves the entries that its history leaves. -/
theorem entries_run (h : c.KeepsEntries) (operations : List (Operation α)) :
    c.entries (c.run operations) = replay c.fold (c.history operations) := by
  rw [run, h.entries_foldl_perform, h.empty]
  rfl

theorem others (h : c.KeepsEntries) (s : α) (operation : Operation α) :
    among c.fold (· ∉ c.touched operation) (c.entries (c.perform s operation)) =
      among c.fold (· ∉ c.touched operation) (c.entries s) := by
  rw [h.entries_perform]
  apply Entries.among_foldl_after
  intro change hchange
  have htouched : c.fold change.name ∈ c.touched operation :=
    List.mem_map.2 ⟨change, hchange, rfl⟩
  simp [htouched]

theorem isOrderedMap (h : c.KeepsEntries) : c.IsOrderedMap := by
  intro operations
  have hentries := h.entries_run operations
  refine ⟨?distinct, ?get, ?removed, ?mem, ?since, ?ordered, ?size, ?isEmpty, h.others _⟩
  case distinct =>
    rw [hentries]
    exact Entries.distinct_replay _
  case get =>
    intro name value
    rw [h.get?, hentries, Entries.get?_replay_eq_some_iff]
  case removed =>
    intro name value
    rw [h.removed, hentries, Entries.get?_replay_eq_some_iff]
  case mem =>
    intro p
    rw [hentries, Entries.mem_replay_iff]
  case since =>
    intro p hp
    rw [hentries] at hp
    exact Present.exists_since ⟨p.1, p.2, Entries.mem_replay_iff.1 hp⟩
  case ordered =>
    rw [hentries]
    exact List.pairwise_map.1 (Entries.pairwise_replay _)
  case size => rw [h.size, hentries, Entries.encard_present]
  case isEmpty => rw [h.isEmpty, hentries, List.isEmpty_iff, Entries.replay_eq_nil_iff]

end KeepsEntries

end Collection

/-- **Options and tags are ordered maps.** Let any operations be done, one after the other, to
options or tags that are empty at first. No name comes to be there twice, as names are compared:
exactly for options, up to ASCII case for tags. Looking a name up, or removing it, gives the value
of its last set, unless it was removed after that, and the entry spells the name as that set did.
The entries stand in the order in which their names last became present, so setting a name again
leaves it in its place, and removing and setting it moves it to the end. The size counts the names
that are present. An operation leaves the entries of all names that it is not about as they are, in
their order. -/
theorem options_and_tags_ordered :
    ConnectOptions.collection.IsOrderedMap ∧ Tags.collection.IsOrderedMap :=
  ⟨Collection.keepsEntries_options.isOrderedMap, Collection.keepsEntries_tags.isOrderedMap⟩

-- setting a tag again respells it where it stands; removing it first moves it to the end
example :
    (Tags.collection.run
      [.set "title" "a", .set "genre" "b", .set "url" "c", .set "Title" "d", .remove "GENRE",
        .set "genre" "e"]).entries = [("Title", "d"), ("url", "c"), ("genre", "e")] := by
  decide +kernel

end ByteStream
