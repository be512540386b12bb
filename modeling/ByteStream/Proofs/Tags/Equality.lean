/-
# ByteStream.Proofs.Tags.Equality -- equal tags are equal finite maps

Two collections of tags are compared by their sizes and by looking up the tags of one in the
other. Only one inclusion is looked at, so it takes an argument that this is symmetric. It rests
on an invariant: in every collection that the operations can make, no two names differ only in
case (`Built.distinct`). Then a collection is a finite map from names up to case, and the
comparison says that two such maps have the same contents (`sameAs_iff_perm`), in whatever order
and spelling they are written down.
-/

import ByteStream.Proofs.Entries.Contents
import ByteStream.Tags

namespace ByteStream.Tags

/-! ## Collections that occur -/

/-- The collections that the operations make, from nothing or by collecting pairs. -/
inductive Built : Tags → Prop
  | empty : Built .empty
  | ofList (pairs : Entries) : Built (.ofList pairs)
  | set {t : Tags} (name value : String) : Built t → Built (t.set name value)
  | erase {t : Tags} (name : String) : Built t → Built (t.erase name)
  | merge {t other : Tags} : Built t → Built other → Built (t.merge other)

/-- Every operation keeps the names distinct up to case. -/
theorem Built.distinct {t : Tags} (h : t.Built) : Entries.Distinct Text.lower t.entries := by
  induction h with
  | empty => exact Entries.distinct_nil
  | ofList pairs => exact Entries.distinct_nil.setAll pairs
  | set name value _ ih => exact ih.set name value
  | erase name _ ih => exact ih.erase name
  | merge _ _ ih _ => exact ih.setAll _

/-- Distinct names are different names for every two tags. -/
theorem pairwise_of_distinct {t : Tags} (h : Entries.Distinct Text.lower t.entries) :
    t.entries.Pairwise fun p q => Text.sameName p.1 q.1 = false := by
  have hne := List.pairwise_map.1 h
  apply hne.imp
  intro p q hpq
  rw [Bool.eq_false_iff, ne_eq, Text.sameName_iff]
  exact hpq

/-! ## Comparing -/

/-- The same tags, perhaps in another order and with their names spelled in another case. -/
def Rearranges (t other : Tags) : Prop :=
  (Entries.contents Text.lower t.entries).Perm (Entries.contents Text.lower other.entries)

theorem Rearranges.distinct {t other : Tags} (h : t.Rearranges other)
    (hother : Entries.Distinct Text.lower other.entries) :
    Entries.Distinct Text.lower t.entries := hother.of_perm h.symm

theorem sameAs_iff_included (t other : Tags) :
    (t == other) = true ↔ Entries.Included Text.lower t.entries other.entries := by
  show t.sameAs other = true ↔ _
  simp [sameAs, size, Entries.Included, get?]

variable {a b : Tags}

/-- Tags are equal exactly if one collection is a rearrangement of the other. -/
theorem sameAs_iff_perm (ha : Entries.Distinct Text.lower a.entries)
    (hb : Entries.Distinct Text.lower b.entries) : (a == b) = true ↔ a.Rearranges b := by
  rw [sameAs_iff_included, Entries.included_iff_perm ha hb]
  rfl

/-- With a name that is there twice, the comparison would have a direction: both of these tags are
found among the others, and not the other way round. -/
example :
    let twice : Tags := ⟨[("x", "1"), ("X", "1")]⟩
    let once : Tags := ⟨[("x", "1"), ("y", "2")]⟩
    (twice == once) = true ∧ (once == twice) = false := by
  decide +kernel

/-- A comparison of rearrangements comes out as that of the collections. -/
theorem sameAs_of_rearranges {a' b' : Tags} (ha : Entries.Distinct Text.lower a.entries)
    (hb : Entries.Distinct Text.lower b.entries) (ha' : a'.Rearranges a) (hb' : b'.Rearranges b) :
    (a' == b') = (a == b) := by
  rw [Bool.eq_iff_iff, sameAs_iff_perm (ha'.distinct ha) (hb'.distinct hb), sameAs_iff_perm ha hb]
  constructor
  · intro h
    exact ha'.symm.trans (h.trans hb')
  · intro h
    exact ha'.trans (h.trans hb'.symm)

/-- **Equality of tags is equality of finite maps.** Let three collections be made by any
operations. Their names are distinct up to case. Two of them are equal exactly if they give the
same value for every name; so equality is reflexive, symmetric and transitive, and neither the
order of the tags nor the case of their names counts. -/
theorem equal_iff_same_values {c : Tags} (ha : a.Built) (hb : b.Built) (hc : c.Built) :
    (a.entries.Pairwise fun p q => Text.sameName p.1 q.1 = false) ∧
      ((a == b) = true ↔ ∀ name, a.get? name = b.get? name) ∧
      (a == a) = true ∧ (a == b) = (b == a) ∧
      ((a == b) = true → (b == c) = true → (a == c) = true) ∧
      ∀ a' b' : Tags, a'.Rearranges a → b'.Rearranges b → (a' == b') = (a == b) := by
  have hperm := sameAs_iff_perm ha.distinct hb.distinct
  refine ⟨pairwise_of_distinct ha.distinct, ?_, ?_, ?_, ?_, ?_⟩
  · rw [hperm]
    exact (Entries.get?_eq_iff_perm ha.distinct hb.distinct).symm
  · rw [sameAs_iff_perm ha.distinct ha.distinct]
    exact List.Perm.refl _
  · rw [Bool.eq_iff_iff, hperm, sameAs_iff_perm hb.distinct ha.distinct]
    exact List.perm_comm
  · intro hab hbc
    rw [hperm] at hab
    rw [sameAs_iff_perm hb.distinct hc.distinct] at hbc
    rw [sameAs_iff_perm ha.distinct hc.distinct]
    exact hab.trans hbc
  · intro a' b'
    exact sameAs_of_rearranges ha.distinct hb.distinct

/-- Merged tags and the same tags collected in another order: they are equal both ways round, and
`Y` is found under `y`. -/
theorem equal_iff_same_values_merged :
    let a := (ofList [("x", "1"), ("y", "2")]).merge (ofList [("Y", "3"), ("z", "4")])
    let b := ofList [("z", "4"), ("y", "3"), ("x", "1")]
    a.Built ∧ b.Built ∧ (a == b) = true ∧ (b == a) = true ∧ (∀ name, a.get? name = b.get? name) ∧
      a.get? "y" = some "3" := by
  intro a b
  have ha : a.Built := .merge (.ofList _) (.ofList _)
  have hb : b.Built := .ofList _
  have hequal : (a == b) = true := by decide +kernel
  obtain ⟨-, hvalues, -, hsymm, -⟩ := equal_iff_same_values ha hb ha
  refine ⟨ha, hb, hequal, hsymm ▸ hequal, hvalues.1 hequal, ?_⟩
  decide +kernel

end ByteStream.Tags
