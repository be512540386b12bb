/-
# ByteStream.Http.HeaderMap -- header fields by name

A header map holds lower-case names in the order of their first appearance, each with its values
in order. A field may be appended, which keeps the values that are there, or put in the place of
all of them. Names are tokens; values are texts without control characters other than the tab.

A map may hold any number of names. The container that real maps are kept in has room for 24576 of
them, and gives up when it is asked to hold more; that is left out.
-/

import ByteStream.Text.AsciiCase
import ByteStream.Text.Blank

namespace ByteStream.Http

/-! ## Names and values -/

/-- The characters other than letters and digits that a name may hold. -/
def tokenMarks : List Char := "!#$%&\x27*+-.^_\x60|~".toList

/-- A character of a name. -/
def isTokenChar (c : Char) : Bool := c.isAlphanum || tokenMarks.contains c

/-- How long a name may be. -/
def maxNameLength : Nat := 65535

/-- A text that can be the name of a field. -/
def isFieldName (name : String) : Bool :=
  let cs := name.toList
  !cs.isEmpty && cs.length ≤ maxNameLength && cs.all isTokenChar

/-- A text that can be the value of a field. -/
def isFieldValue (value : String) : Bool :=
  value.toList.all fun c => c == '\t' || (' ' ≤ c && c != '\x7f')

/-- The value holds only tabs and characters that ASCII can show. -/
def isVisible (value : String) : Bool :=
  value.toList.all fun c => c == '\t' || (' ' ≤ c && c ≤ '~')

/-- Cuts spaces and tabs off both ends. -/
def stripped (value : String) : String :=
  let edge (c : Char) : Bool := c == ' ' || c == '\t'
  String.ofList (Text.trimEnd edge (value.toList.dropWhile edge))

/-- The name of the field that declares the length of a body. -/
def lengthName : String := "content-length"

/-- The name of the field that names the codings of a transfer. -/
def codingName : String := "transfer-encoding"

/-! ## Maps -/

/-- Names in the order of their first appearance, each with its values. -/
structure HeaderMap where
  groups : List (String × List String) := []
deriving DecidableEq, Repr

namespace HeaderMap

/-- No fields. -/
def empty : HeaderMap := {}

/-- No name stands in the map twice. -/
def Distinct (m : HeaderMap) : Prop := (m.groups.map Prod.fst).Nodup

/-- The values of a name, in order. -/
def values (m : HeaderMap) (name : String) : List String := (m.groups.lookup name).getD []

/-- The first value of a name. -/
def get? (m : HeaderMap) (name : String) : Option String := (m.values name).head?

/-- The name has a value. -/
def has (m : HeaderMap) (name : String) : Bool := (m.get? name).isSome

/-- Changes the values of a name, which is put at the end if it is not there. -/
def modifyGroup (name : String) (f : List String → List String) :
    List (String × List String) → List (String × List String)
  | [] => [(name, f [])]
  | (n, vs) :: rest => if n = name then (n, f vs) :: rest else (n, vs) :: modifyGroup name f rest

/-- Adds a value behind the ones of its name. -/
def append (m : HeaderMap) (name value : String) : HeaderMap :=
  ⟨modifyGroup name (· ++ [value]) m.groups⟩

/-- The map of fields that come one after the other. -/
def ofFields (fields : List (String × String)) : HeaderMap :=
  fields.foldl (fun m (name, value) => m.append name value) empty

/-- Puts one value in the place of all values of its name. -/
def insert (m : HeaderMap) (name value : String) : HeaderMap :=
  ⟨modifyGroup name (fun _ => [value]) m.groups⟩

/-- Adds a value unless its name has one. -/
def offer (m : HeaderMap) (name value : String) : HeaderMap :=
  if m.has name then m else m.append name value

/-- Removes a name. -/
def erase (m : HeaderMap) (name : String) : HeaderMap :=
  ⟨m.groups.filter fun group => group.1 != name⟩

/-- The fields, equal names together. -/
def fields (m : HeaderMap) : List (String × String) :=
  m.groups.flatMap fun (name, values) => values.map fun value => (name, value)

/-- The fields by name; equal names keep their order. -/
def sorted (m : HeaderMap) : List (String × String) :=
  (m.groups.mergeSort fun a b => a.1 ≤ b.1).flatMap fun (name, values) =>
    values.map fun value => (name, value)

/-! ## Lookups -/

theorem lookup_modifyGroup_same (name : String) (f : List String → List String)
    (gs : List (String × List String)) :
    (modifyGroup name f gs).lookup name = some (f ((gs.lookup name).getD [])) := by
  induction gs with
  | nil => simp [modifyGroup]
  | cons g rest ih =>
    obtain ⟨n, vs⟩ := g
    by_cases h : n = name
    · simp [modifyGroup, h]
    · have h' : (name == n) = false := by simp [Ne.symm h]
      simp [modifyGroup, h, List.lookup_cons, h', ih]

theorem lookup_modifyGroup_other {name other : String} (h : other ≠ name)
    (f : List String → List String) (gs : List (String × List String)) :
    (modifyGroup name f gs).lookup other = gs.lookup other := by
  have h' : (other == name) = false := by simp [h]
  induction gs with
  | nil => simp [modifyGroup, List.lookup_cons, h']
  | cons g rest ih =>
    obtain ⟨n, vs⟩ := g
    by_cases hn : n = name
    · subst hn; simp [modifyGroup, List.lookup_cons, h']
    · simp only [modifyGroup, if_neg hn, List.lookup_cons, ih]

theorem values_append_same (m : HeaderMap) (name value : String) :
    (m.append name value).values name = m.values name ++ [value] := by
  simp [values, append, lookup_modifyGroup_same]

theorem values_append_other (m : HeaderMap) {name other : String} (h : other ≠ name)
    (value : String) : (m.append name value).values other = m.values other := by
  simp [values, append, lookup_modifyGroup_other h]

theorem values_insert_same (m : HeaderMap) (name value : String) :
    (m.insert name value).values name = [value] := by
  simp [values, insert, lookup_modifyGroup_same]

theorem values_insert_other (m : HeaderMap) {name other : String} (h : other ≠ name)
    (value : String) : (m.insert name value).values other = m.values other := by
  simp [values, insert, lookup_modifyGroup_other h]

end HeaderMap

end ByteStream.Http
