/-
# ByteStream.Proofs.Icy.Polling -- runs of polls and resets

A differ is polled again and again, and reset when the connection is replaced. All that it
remembers of a run is the latest report since the last reset, and how many reports there were
(`last_after`, `generation_after`).

A poll leaves nothing to report of the fields that it saw (`isNews_poll`), whether it reported them
or had reported something before that passes for them. So a poll that repeats the one before it
changes nothing, nor does a poll of empty fields, and a run can do without either
(`stutter_free`).

Two polls in a row that both carry a number are told apart by their numbers if the packet that was
reported last carried one as well. If it did not, they are told apart by their texts
(`consecutive_numbers_decide`), although both of them have numbers
(`numbers_overruled`).
-/

import ByteStream.Icy.Differ
import Mathlib.Data.List.Basic

namespace ByteStream.Icy.Differ

/-! ## Runs -/

/-- What is done with a differ. -/
inductive Step
  | poll (f : Fields)
  | reset
deriving DecidableEq, Repr

/-- One step: what it reports, and the differ afterwards. -/
def step (d : Differ) : Step → Option Tags × Differ
  | .poll f => d.poll f
  | .reset => (none, d.reset)

/-- The steps of a run, each with what it reported. -/
def trace (d : Differ) : List Step → List (Step × Option Tags)
  | [] => []
  | s :: later => (s, (d.step s).1) :: (d.step s).2.trace later

/-- The differ after a run. -/
def after (d : Differ) : List Step → Differ
  | [] => d
  | s :: later => (d.step s).2.after later

/-- The fields that the latest report of a run came from, `before` being those of the latest one
before the run. A reset forgets the report. -/
def latest (before : Option Fields) : List (Step × Option Tags) → Option Fields
  | [] => before
  | (.reset, _) :: later => latest none later
  | (.poll f, some _) :: later => latest (some f) later
  | (.poll _, none) :: later => latest before later

/-- What a differ keeps of the fields that it reports. -/
def kept (f : Fields) : Reported := ⟨f.packetText, f.sequence⟩

theorem after_append (d : Differ) (steps later : List Step) :
    d.after (steps ++ later) = (d.after steps).after later := by
  induction steps generalizing d with
  | nil => rfl
  | cons s steps ih => exact ih (d.step s).2

/-! ## One poll -/

variable {d : Differ} {f g : Fields}

theorem poll_of_isNews (h : d.isNews f = true) :
    d.poll f = (some (parse f.headerText f.packetText), ⟨some (kept f), d.generation + 1⟩) := by
  rw [poll, if_pos h]
  rfl

/-- Fields always show the packet that was kept of them. -/
theorem shows_kept (f : Fields) : Shows f (kept f) := by
  unfold Shows kept
  cases f.sequence with
  | none => rfl
  | some n => rfl

/-- A poll that reports nothing changes nothing. -/
theorem poll_of_none (h : (d.poll f).1 = none) : d.poll f = (none, d) := by
  by_cases hnews : d.isNews f = true
  · rw [poll_of_isNews hnews] at h
    exact absurd h (by simp)
  · exact poll_of_not_isNews (by simpa using hnews)

/-- What is polled once is not news the next time. -/
theorem isNews_poll (d : Differ) (f : Fields) : (d.poll f).2.isNews f = false := by
  by_cases hnews : d.isNews f = true
  · rw [poll_of_isNews hnews]
    simp [isNews, shows_kept]
  · have hold : d.isNews f = false := by simpa using hnews
    rw [poll_of_not_isNews hold]
    exact hold

/-- Fields that are no news are empty, or the packet that is remembered passes for theirs. -/
theorem isNews_eq_false_iff :
    d.isNews f = false ↔ f.isEmpty = true ∨ ∃ last, d.last = some last ∧ Shows f last := by
  unfold isNews
  cases d.last with
  | none => simp
  | some last => cases f.isEmpty <;> simp

/-- After a poll of fields that are not empty there is a packet that passes for theirs. -/
theorem shows_of_poll (d : Differ) (hf : f.isEmpty = false) :
    ∃ last, (d.poll f).2.last = some last ∧ Shows f last := by
  rcases isNews_eq_false_iff.1 (isNews_poll d f) with hempty | hshown
  · rw [hf] at hempty
    exact absurd hempty (by decide)
  · exact hshown

theorem isSome_poll_iff (hf : f.isEmpty = false) {last : Reported} (hlast : d.last = some last) :
    (d.poll f).1.isSome = true ↔ ¬ Shows f last := by
  have hnews : d.isNews f = true ↔ ¬ Shows f last := by
    simp [isNews, hf, hlast]
  rw [← hnews]
  by_cases h : d.isNews f = true
  · simp [poll_of_isNews h, h]
  · have hold : d.isNews f = false := by simpa using h
    simp [poll_of_not_isNews hold, hold]

/-! ## What a run leaves behind -/

/-- A differ remembers the latest report and nothing else. -/
theorem last_after {before : Option Fields} (h : d.last = before.map kept) (steps : List Step) :
    (d.after steps).last = (latest before (d.trace steps)).map kept := by
  induction steps generalizing d before with
  | nil => exact h
  | cons s steps ih =>
    cases s with
    | reset =>
      have hforgotten : d.reset.last = (none : Option Fields).map kept := rfl
      exact ih hforgotten
    | poll f =>
      show ((d.poll f).2.after steps).last =
        (latest before ((.poll f, (d.poll f).1) :: (d.poll f).2.trace steps)).map kept
      by_cases hnews : d.isNews f = true
      · have hreported : some (kept f) = (some f).map kept := rfl
        rw [poll_of_isNews hnews]
        exact ih hreported
      · rw [poll_of_not_isNews (by simpa using hnews)]
        exact ih h

/-- The generation counts the reports, and a reset does not set it back. -/
theorem generation_after (d : Differ) (steps : List Step) :
    (d.after steps).generation =
      d.generation + (d.trace steps).countP fun made => made.2.isSome := by
  induction steps generalizing d with
  | nil => rfl
  | cons s steps ih =>
    cases s with
    | reset => exact ih d.reset
    | poll f =>
      show ((d.poll f).2.after steps).generation = d.generation +
        ((Step.poll f, (d.poll f).1) :: (d.poll f).2.trace steps).countP fun made => made.2.isSome
      rw [ih, List.countP_cons]
      by_cases hnews : d.isNews f = true
      · rw [poll_of_isNews hnews]
        simp only [Option.isSome_some, if_true]
        omega
      · rw [poll_of_not_isNews (by simpa using hnews)]
        simp only [Option.isSome_none, Bool.false_eq_true, if_false]
        omega

/-! ## Numbers -/

/-- If the fields carry a number, it is compared with a number, and otherwise the texts are. -/
theorem shows_of_numbered {n : Nat} (hn : f.sequence = some n) (last : Reported) :
    Shows f last ↔
      match last.sequence with
      | some before => n = before
      | none => last.packet = f.packetText := by
  unfold Shows
  rw [hn]
  cases last.sequence with
  | some before => rfl
  | none => rfl

/-- **What decides between two numbered polls in a row.** Let a differ be polled and reset in any
way, and then be polled twice with fields that are not empty and carry a number. Some packet has
been reported by then. If the packet that was reported last carried a number, the second poll
reports exactly if the two numbers differ. If it carried none, the second poll reports exactly if
the two packets differ in their texts. -/
theorem consecutive_numbers_decide (history : List Step) {m n : Nat} (hf : f.isEmpty = false)
    (hg : g.isEmpty = false) (hm : f.sequence = some m) (hn : g.sequence = some n) :
    let d : Differ := after {} (history ++ [.poll f])
    ∃ reported, latest none (trace {} (history ++ [.poll f])) = some reported ∧
      (reported.sequence.isSome = true → ((d.poll g).1.isSome = true ↔ m ≠ n)) ∧
      (reported.sequence = none → ((d.poll g).1.isSome = true ↔ f.packetText ≠ g.packetText)) := by
  intro d
  have hpolled : d = ((after {} history).poll f).2 := after_append {} history [.poll f]
  obtain ⟨last, hlast, hshows⟩ := shows_of_poll (after {} history) hf
  rw [← hpolled] at hlast
  have hrun : d.last = (latest none (trace {} (history ++ [.poll f]))).map kept := last_after rfl _
  rw [hlast] at hrun
  obtain ⟨reported, hreported, rfl⟩ := Option.map_eq_some_iff.1 hrun.symm
  rw [shows_of_numbered hm] at hshows
  refine ⟨reported, hreported, ?_, ?_⟩
  · intro hnumbered
    obtain ⟨before, hbefore⟩ := Option.isSome_iff_exists.1 hnumbered
    have hsequence : (kept reported).sequence = some before := hbefore
    rw [hsequence] at hshows
    rw [isSome_poll_iff hg hlast, shows_of_numbered hn, hsequence]
    obtain rfl : m = before := hshows
    exact not_congr eq_comm
  · intro hunnumbered
    have hsequence : (kept reported).sequence = none := hunnumbered
    rw [hsequence] at hshows
    rw [isSome_poll_iff hg hlast, shows_of_numbered hn, hsequence, ← hshows]

/-- What a radio shows while it plays a title. -/
def playing (title : String) (number : Option Nat) : Fields where
  packet := some (titleMark ++ title ++ "';")
  sequence := number

/-- The same title under a new number, after a report that carried a number. -/
theorem consecutive_numbers_decide_repeated :
    let history : List Step := [.poll (playing "A" (some 1))]
    let again := playing "A" (some 2)
    (after {} (history ++ [.poll again])).generation = 2 ∧
      ((after {} (history ++ [.poll again])).poll (playing "A" (some 3))).1.isSome = true ∧
      ((after {} (history ++ [.poll again])).poll (playing "B" (some 2))).1.isSome = false := by
  intro history again
  have hagain : again.isEmpty = false := by decide +kernel
  have hlater : (playing "A" (some 3)).isEmpty = false := by decide +kernel
  have hsame : (playing "B" (some 2)).isEmpty = false := by decide +kernel
  have hreported : latest none (trace {} (history ++ [.poll again])) = some again := by
    decide +kernel
  refine ⟨by decide +kernel, ?_, ?_⟩
  · obtain ⟨reported, hlatest, hnumbered, -⟩ :=
      consecutive_numbers_decide history hagain hlater rfl rfl
    obtain rfl := Option.some.inj (hreported.symm.trans hlatest)
    exact (hnumbered rfl).2 (by decide)
  · obtain ⟨reported, hlatest, hnumbered, -⟩ :=
      consecutive_numbers_decide history hagain hsame rfl rfl
    obtain rfl := Option.some.inj (hreported.symm.trans hlatest)
    rw [Bool.eq_false_iff, ne_eq, hnumbered rfl]
    decide

/-- After a report without a number, numbers do not count: the same title is not reported under a
new number, and another title is reported under the number of the poll before. -/
theorem numbers_overruled :
    let history : List Step := [.poll (playing "A" none), .poll (playing "A" (some 1))]
    let renumbered := playing "A" (some 2)
    let retitled := playing "B" (some 2)
    (playing "A" (some 1)).isEmpty = false ∧ renumbered.isEmpty = false ∧
      retitled.isEmpty = false ∧ ((after {} history).poll renumbered).1 = none ∧
      ((after {} (history ++ [.poll renumbered])).poll retitled).1.isSome = true := by
  decide +kernel

/-! ## Stuttering -/

/-- A step that can be left out: a poll of empty fields, or of the fields of the poll before. -/
def isIdle (before : Option Step) : Step → Bool
  | .poll f => f.isEmpty || before == some (.poll f)
  | .reset => false

/-- What is left of a run without its idle steps, `before` being the step before the run. -/
def thinned (before : Option Step) : List (Step × Option Tags) → List (Step × Option Tags)
  | [] => []
  | made :: later =>
    if isIdle before made.1 then thinned (some made.1) later
    else made :: thinned (some made.1) later

/-- An idle step reports nothing and changes nothing. -/
theorem step_of_isIdle {before : Option Step}
    (hbefore : ∀ f, before = some (.poll f) → d.isNews f = false) {s : Step}
    (h : isIdle before s = true) : d.step s = (none, d) := by
  cases s with
  | reset => exact absurd h (by simp [isIdle])
  | poll f =>
    simp only [isIdle, Bool.or_eq_true, beq_iff_eq] at h
    rcases h with hempty | hrepeated
    · exact poll_of_not_isNews (isNews_of_isEmpty hempty)
    · exact poll_of_not_isNews (hbefore f hrepeated)

/-- A run does as well without its idle steps. The invariant is that the fields of the poll before
are no news any more; every step brings it about anew. -/
theorem run_thinned {before : Option Step}
    (hbefore : ∀ f, before = some (.poll f) → d.isNews f = false) (steps : List Step) :
    d.trace ((thinned before (d.trace steps)).map (·.1)) = thinned before (d.trace steps) ∧
      d.after ((thinned before (d.trace steps)).map (·.1)) = d.after steps := by
  induction steps generalizing d before with
  | nil => exact ⟨rfl, rfl⟩
  | cons s steps ih =>
    have hnext : ∀ f, some s = some (.poll f) → (d.step s).2.isNews f = false := by
      intro f hs
      obtain rfl := Option.some.inj hs
      exact isNews_poll d f
    obtain ⟨htrace, hafter⟩ := ih hnext
    simp only [trace, after, thinned]
    by_cases hidle : isIdle before s = true
    · have hstep := step_of_isIdle hbefore hidle
      rw [hstep] at htrace hafter ⊢
      rw [if_pos hidle]
      exact ⟨htrace, hafter⟩
    · rw [if_neg hidle]
      simp only [List.map_cons, trace, after]
      exact ⟨congrArg _ htrace, hafter⟩

/-- **Polling does not stutter.** Let a differ be polled and reset in any way. Another poll of
fields that were just polled reports nothing and changes nothing; a poll that reports nothing
leaves the differ as it was; fields with neither header lines nor a packet are never reported,
whatever their number; and the generation is the number of reports. So a run comes to the same
without its polls of empty fields and those that repeat the poll before them: the other steps
report what they did, and the differ ends up the same. -/
theorem stutter_free (steps : List Step) :
    let d : Differ := after {} steps
    (∀ f, (d.poll f).2.poll f = (none, (d.poll f).2)) ∧
      (∀ f, (d.poll f).1 = none → (d.poll f).2 = d) ∧
      (∀ f : Fields, f.headers ∈ [none, some ""] → f.packet ∈ [none, some ""] →
        (d.poll f).1 = none) ∧
      d.generation = (trace {} steps).countP (fun made => made.2.isSome) ∧
      let rest := thinned none (trace {} steps)
      trace {} (rest.map (·.1)) = rest ∧ after {} (rest.map (·.1)) = d := by
  intro d
  refine ⟨?_, ?_, ?_, ?_, ?_⟩
  · intro f
    exact poll_of_not_isNews (isNews_poll d f)
  · intro f hnone
    rw [poll_of_none hnone]
  · intro f hheaders hpacket
    have hempty : f.isEmpty = true := by
      simp only [List.mem_cons, List.not_mem_nil, or_false] at hheaders hpacket
      rcases hheaders with hheaders | hheaders <;> rcases hpacket with hpacket | hpacket <;>
        simp [Fields.isEmpty, Fields.headerText, Fields.packetText, hheaders, hpacket]
    rw [poll_of_not_isNews (isNews_of_isEmpty hempty)]
  · have hcount := generation_after {} steps
    rw [Nat.zero_add] at hcount
    exact hcount
  · exact run_thinned (by simp) steps

/-- The polls that repeat the one before them go, and so does the poll of empty fields. What comes
after it or after the reset stays. -/
example :
    let a := Step.poll (playing "A" (some 1))
    (thinned none (trace {} [a, a, .poll {}, a, .reset, a, a])).map (·.1) = [a, a, .reset, a] := by
  decide +kernel

end ByteStream.Icy.Differ
