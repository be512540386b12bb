/-
# ByteStream.Tags -- stream metadata by name

Tags are texts under names that are compared up to ASCII case. A later value for a name replaces
the earlier one and its spelling, and keeps its place. Two collections are equal when they have
the same number of tags and every tag of the first has its value in the second, so neither order
nor spelling counts.
-/

import ByteStream.Entries
import ByteStream.Text.AsciiCase

namespace ByteStream

/-- Tags in the order in which their names first came. -/
structure Tags where
  entries : Entries := []

namespace Tags

/-- No tags. -/
def empty : Tags := {}

/-- The value of a tag. -/
def get? (t : Tags) (name : String) : Option String := Entries.get? Text.lower name t.entries

/-- Sets a tag; a tag whose name differs only in case gives way, name and value. -/
def set (t : Tags) (name value : String) : Tags := ⟨Entries.set Text.lower name value t.entries⟩

/-- Removes a tag. -/
def erase (t : Tags) (name : String) : Tags := ⟨Entries.erase Text.lower name t.entries⟩

/-- Removes a tag and gives the value that it had. -/
def remove (t : Tags) (name : String) : Option String × Tags := (t.get? name, t.erase name)

/-- Sets every tag of `other`, in its order. -/
def merge (t other : Tags) : Tags := ⟨Entries.setAll Text.lower other.entries t.entries⟩

/-- The tags that the pairs give when they are set one after the other. -/
def ofList (pairs : Entries) : Tags := ⟨Entries.setAll Text.lower pairs []⟩

/-- How many tags there are. -/
def size (t : Tags) : Nat := t.entries.length

/-- There are no tags. -/
def isEmpty (t : Tags) : Bool := t.entries.isEmpty

/-- As many tags, and each with its value in the other collection. -/
def sameAs (t other : Tags) : Bool :=
  t.size == other.size && t.entries.all fun p => other.get? p.1 == some p.2

instance : BEq Tags := ⟨sameAs⟩

end Tags

end ByteStream
