/-
# ByteStream.Icy.Differ -- reporting metadata only when it is news

A differ is polled with what a connection shows and reports tags only for a packet that it has
not reported yet. It remembers the last packet. Two packets are told apart by their numbers when
both have one, and by their texts otherwise. Empty fields are never news.
-/

import ByteStream.Icy.Title

namespace ByteStream.Icy

/-- What was reported last. -/
structure Reported where
  packet : String
  sequence : Option Nat
deriving DecidableEq, Repr

/-- The memory of what was reported, and the number of reports so far. -/
structure Differ where
  last : Option Reported := none
  generation : Nat := 0
deriving DecidableEq, Repr

namespace Differ

/-- The fields show the packet that `last` names. -/
def Shows (f : Fields) (last : Reported) : Prop :=
  match f.sequence, last.sequence with
  | some now, some before => now = before
  | _, _ => last.packet = f.packetText

instance (f : Fields) (last : Reported) : Decidable (Shows f last) := by
  unfold Shows
  split <;> infer_instance

/-- There is something to report, and it was not reported last. -/
def isNews (d : Differ) (f : Fields) : Bool :=
  !f.isEmpty && d.last.all fun last => ¬ Shows f last

/-- The tags of the fields if they are news, and the differ afterwards. -/
def poll (d : Differ) (f : Fields) : Option Tags × Differ :=
  if d.isNews f then
    (some (parse f.headerText f.packetText),
     { last := some ⟨f.packetText, f.sequence⟩, generation := d.generation + 1 })
  else (none, d)

/-- Forgets the last packet, as after a change of connection. -/
def reset (d : Differ) : Differ := { d with last := none }

theorem poll_of_not_isNews {d : Differ} {f : Fields} (h : d.isNews f = false) :
    d.poll f = (none, d) := by simp [poll, h]

theorem isNews_of_isEmpty {d : Differ} {f : Fields} (h : f.isEmpty = true) :
    d.isNews f = false := by simp [isNews, h]

end Differ

end ByteStream.Icy
