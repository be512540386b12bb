/-
# ByteStream.Proofs.Icy.News -- a differ over counted packets

A connection that counts its packets shows a number with each. A differ that is polled with such
fields reports them exactly if the number is not the one it saw last, whatever the texts are: the
first poll reports, and a later one reports if and only if a packet has come in between.
-/

import ByteStream.Icy.Differ

namespace ByteStream.Icy.Differ

variable {d : Differ} {f : Fields}

/-- The number that the last report came with. -/
def mark? (d : Differ) : Option Nat := d.last.bind (·.sequence)

/-- The first poll reports whatever there is. -/
theorem poll_of_last_none (hlast : d.last = none) (hf : f.isEmpty = false) :
    (d.poll f).1 = some (parse f.headerText f.packetText) := by
  have hnews : d.isNews f = true := by simp [isNews, hlast, hf]
  rw [poll, if_pos hnews]

/-- A number is news if it is not the one of the last report. -/
theorem isNews_of_mark {before now : Nat} (hmark : d.mark? = some before)
    (hnow : f.sequence = some now) (hf : f.isEmpty = false) :
    d.isNews f = true ↔ now ≠ before := by
  obtain ⟨last, hlast, hsequence⟩ := Option.bind_eq_some_iff.1 hmark
  have hshows : Shows f last ↔ now = before := by simp only [Shows, hnow, hsequence]
  simp [isNews, hf, hlast, hshows]

theorem poll_of_mark {before now : Nat} (hmark : d.mark? = some before)
    (hnow : f.sequence = some now) (hf : f.isEmpty = false) :
    (d.poll f).1 = if now = before then none else some (parse f.headerText f.packetText) := by
  have hnews := isNews_of_mark hmark hnow hf
  unfold poll
  by_cases hsame : now = before
  · rw [if_pos hsame, if_neg (by simp [hnews, hsame])]
  · rw [if_neg hsame, if_pos (hnews.2 hsame)]

/-- After a poll the number that it saw is that of the last report, whether or not it reported. -/
theorem mark?_poll {now : Nat} (hmark : d.last = none ∨ d.mark?.isSome = true)
    (hnow : f.sequence = some now) (hf : f.isEmpty = false) :
    (d.poll f).2.mark? = some now := by
  unfold poll
  split
  · exact hnow
  · rename_i hold
    rcases hmark with hnone | hsome
    · exact absurd (by simp [isNews, hnone, hf]) hold
    · obtain ⟨before, hbefore⟩ := Option.isSome_iff_exists.1 hsome
      rw [isNews_of_mark hbefore hnow hf, ne_eq, Decidable.not_not] at hold
      rw [hbefore, hold]

end ByteStream.Icy.Differ
