/-
# ByteStream.Proofs.Audit.Log -- what a log says about connections

A log is proper if connections were numbered as they were handed out, and calls were made on
connections that were there: handed out and not closed. `Sound` ties a proper log to the numbers of
the connections that are held: these are the ones handed out and not closed, each once. One lemma
for each kind of event says how it goes on.

A sound log says that every connection was closed once or is held once, and that a closed
connection was left alone (`Sound.releasedOnce`).
-/

import ByteStream.Audit
import Mathlib.Data.List.Nodup

namespace ByteStream.Audit

variable {log later : List Event} {held : List Nat} {id : Nat} {what : Call} {ok : Bool}

/-! ## Counting -/

@[simp] theorem made_refused : made (.connect none :: log) = made log := by
  simp [made, Event.makes]

@[simp] theorem made_connect (n : Nat) : made (.connect (some n) :: log) = made log + 1 := by
  simp [made, Event.makes, List.countP_cons]

@[simp] theorem made_call : made (.call id what ok :: log) = made log := by
  simp [made, Event.makes]

@[simp] theorem ended_connect (n : Option Nat) : ended (.connect n :: log) = ended log := by
  simp [ended, Event.ends]

@[simp] theorem ended_close : ended (.call id .close ok :: log) = ended log + 1 := by
  simp [ended, Event.ends, List.countP_cons]

theorem ended_call (h : what ≠ .close) : ended (.call id what ok :: log) = ended log := by
  cases what with
  | close => exact absurd rfl h
  | _ => simp [ended, Event.ends]

@[simp] theorem isOver_connect (n : Option Nat) (id : Nat) :
    isOver (.connect n :: log) id = isOver log id := by
  simp [isOver, Event.endsOne]

@[simp] theorem isOver_close (n : Nat) :
    isOver (.call n .close ok :: log) id = (n == id || isOver log id) := by
  simp [isOver, Event.endsOne]

theorem isOver_call (h : what ≠ .close) (n : Nat) :
    isOver (.call n what ok :: log) id = isOver log id := by
  cases what with
  | close => exact absurd rfl h
  | _ => simp [isOver, Event.endsOne]

@[simp] theorem endings_connect (n : Option Nat) (id : Nat) :
    endings (.connect n :: log) id = endings log id := by
  simp [endings, Event.endsOne]

@[simp] theorem endings_close (n : Nat) :
    endings (.call n .close ok :: log) id = endings log id + if n = id then 1 else 0 := by
  simp [endings, Event.endsOne, List.countP_cons]

theorem endings_call (h : what ≠ .close) (n : Nat) :
    endings (.call n what ok :: log) id = endings log id := by
  cases what with
  | close => exact absurd rfl h
  | _ => simp [endings, Event.endsOne]

/-! ## Proper logs -/

/-- Each connection got the next number, and calls were made on connections that were there. -/
inductive Proper : List Event → Prop
  | nil : Proper []
  | refused {log : List Event} : Proper log → Proper (.connect none :: log)
  | handedOut {log : List Event} : Proper log → Proper (.connect (some (made log)) :: log)
  | called {log : List Event} {id : Nat} {what : Call} {ok : Bool} :
      id < made log → isOver log id = false → Proper log → Proper (.call id what ok :: log)

/-- Only what was handed out can have been closed. -/
theorem Proper.lt_made (h : Proper log) (hover : isOver log id = true) : id < made log := by
  induction h with
  | nil => exact absurd hover (by simp [isOver])
  | refused _ ih => simpa using ih (by simpa using hover)
  | @handedOut log _ ih =>
    have hlt := ih (by simpa using hover)
    rw [made_connect]
    omega
  | @called log n what ok hlt _ _ ih =>
    rw [made_call]
    by_cases hwhat : what = .close
    · subst hwhat
      rw [isOver_close, Bool.or_eq_true, beq_iff_eq] at hover
      rcases hover with rfl | hbefore
      · exact hlt
      · exact ih hbefore
    · rw [isOver_call hwhat] at hover
      exact ih hover

/-- A connection is closed once, or not at all. -/
theorem Proper.endings_eq (h : Proper log) (id : Nat) :
    endings log id = if isOver log id then 1 else 0 := by
  induction h with
  | nil => rfl
  | refused _ ih => simpa using ih
  | handedOut _ ih => simpa using ih
  | @called log n what ok _ hopen _ ih =>
    by_cases hwhat : what = .close
    · -- The connection was open before, so this is the first close of it.
      subst hwhat
      rw [endings_close, isOver_close, ih]
      by_cases hn : n = id
      · subst hn
        simp [hopen]
      · simp [hn]
    · rw [endings_call hwhat, isOver_call hwhat, ih]

/-- Nothing is asked of a connection after it was closed. -/
theorem Proper.untouched {newer older : List Event}
    (h : Proper (newer ++ .call id .close ok :: older)) (what : Call) (fine : Bool) :
    .call id what fine ∉ newer := by
  induction newer with
  | nil => simp
  | cons event newer ih =>
    have hover : isOver (newer ++ .call id .close ok :: older) id = true := by
      simp [isOver, Event.endsOne]
    rw [List.mem_cons]
    rintro (rfl | hmem)
    · -- The newest event would be a call on a connection that is over.
      cases h with
      | called _ hopen _ => exact absurd (hover.symm.trans hopen) (by decide)
    · cases h with
      | refused h => exact ih h hmem
      | handedOut h => exact ih h hmem
      | called _ _ h => exact ih h hmem

/-! ## Connections that are held -/

/-- The log is proper, and the connections that are held are those it leaves open. -/
structure Sound (log : List Event) (held : List Nat) : Prop where
  proper : Proper log
  nodup : held.Nodup
  mem_held : ∀ id, id ∈ held ↔ id < made log ∧ isOver log id = false
  total : held.length + ended log = made log

theorem sound_nil : Sound [] [] where
  proper := .nil
  nodup := List.nodup_nil
  mem_held := by simp [made]
  total := rfl

theorem Sound.perm {held' : List Nat} (h : Sound log held) (hperm : held.Perm held') :
    Sound log held' where
  proper := h.proper
  nodup := hperm.nodup_iff.1 h.nodup
  mem_held := by
    intro id
    rw [← hperm.mem_iff]
    exact h.mem_held id
  total := by
    rw [← hperm.length_eq]
    exact h.total

/-- What is held is still open. -/
theorem Sound.isOver_eq (h : Sound log held) (hid : id ∈ held) : isOver log id = false :=
  ((h.mem_held id).1 hid).2

theorem Sound.refused (h : Sound log held) : Sound (.connect none :: log) held where
  proper := h.proper.refused
  nodup := h.nodup
  mem_held := by simpa using h.mem_held
  total := by simpa using h.total

/-- A connection that is handed out is held. -/
theorem Sound.handedOut (h : Sound log held) :
    Sound (.connect (some (made log)) :: log) (made log :: held) where
  proper := h.proper.handedOut
  nodup := by
    rw [List.nodup_cons]
    refine ⟨?_, h.nodup⟩
    intro hmem
    have hlt := ((h.mem_held _).1 hmem).1
    omega
  mem_held := by
    intro id
    rw [List.mem_cons, h.mem_held, made_connect, isOver_connect]
    constructor
    · rintro (rfl | ⟨hlt, hopen⟩)
      · refine ⟨by omega, ?_⟩
        cases hover : isOver log (made log) with
        | false => rfl
        | true => exact absurd (h.proper.lt_made hover) (by omega)
      · exact ⟨by omega, hopen⟩
    · rintro ⟨hlt, hopen⟩
      rcases Nat.lt_succ_iff_lt_or_eq.1 hlt with hbefore | hnew
      · exact .inr ⟨hbefore, hopen⟩
      · exact .inl hnew
  total := by
    have htotal := h.total
    simp only [List.length_cons, ended_connect, made_connect]
    omega

/-- A call that does not close leaves open what was open. -/
theorem Sound.called (h : Sound log held) (hid : id ∈ held) (hwhat : what ≠ .close) (ok : Bool) :
    Sound (.call id what ok :: log) held where
  proper := .called ((h.mem_held id).1 hid).1 (h.isOver_eq hid) h.proper
  nodup := h.nodup
  mem_held := by
    intro n
    rw [made_call, isOver_call hwhat]
    exact h.mem_held n
  total := by
    rw [ended_call hwhat, made_call]
    exact h.total

/-- A connection that is closed is not held any more. -/
theorem Sound.closed (h : Sound log (id :: held)) (ok : Bool) :
    Sound (.call id .close ok :: log) held where
  proper := .called ((h.mem_held id).1 List.mem_cons_self).1 (h.isOver_eq List.mem_cons_self)
    h.proper
  nodup := h.nodup.of_cons
  mem_held := by
    intro n
    have hmem := h.mem_held n
    rw [List.mem_cons] at hmem
    rw [made_call, isOver_close, Bool.or_eq_false_iff, beq_eq_false_iff_ne]
    constructor
    · intro hn
      have hopen := hmem.1 (.inr hn)
      refine ⟨hopen.1, ?_, hopen.2⟩
      rintro rfl
      exact (List.nodup_cons.1 h.nodup).1 hn
    · rintro ⟨hlt, hne, hopen⟩
      rcases hmem.2 ⟨hlt, hopen⟩ with heq | hn
      · exact absurd heq.symm hne
      · exact hn
  total := by
    have htotal := h.total
    simp only [List.length_cons] at htotal
    rw [ended_close, made_call]
    omega

/-- Of what was handed out, some is held, and that is not closed yet. -/
theorem Sound.ended_lt (h : Sound log (id :: held)) : ended log < made log := by
  have htotal := h.total
  simp only [List.length_cons] at htotal
  omega

/-- Calls on one connection have been added, none of which closes it. -/
inductive Used (id : Nat) (log : List Event) : List Event → Prop
  | none : Used id log log
  | call {later : List Event} {what : Call} {ok : Bool} :
      what ≠ .close → Used id log later → Used id log (.call id what ok :: later)

theorem Sound.used (h : Sound log held) (hid : id ∈ held) (hused : Used id log later) :
    Sound later held := by
  induction hused with
  | none => exact h
  | call hwhat _ ih => exact ih.called hid hwhat _

theorem Used.append {mid : List Event} (h : Used id log mid) (h' : Used id mid later) :
    Used id log later := by
  induction h' with
  | none => exact h
  | call hwhat _ ih => exact ih.call hwhat

/-! ## What a sound log says -/

/-- Every connection that was handed out was closed once and is not held, or was never closed and
is held once. After it was closed, nothing was asked of it. -/
structure ReleasedOnce (log : List Event) (held : List Nat) : Prop where
  once : ∀ id < made log,
    (endings log id = 1 ∧ held.count id = 0) ∨ (endings log id = 0 ∧ held.count id = 1)
  untouched : ∀ newer id ok older, log = newer ++ .call id .close ok :: older →
    ∀ what fine, .call id what fine ∉ newer
  known : ∀ id ∈ held, id < made log

theorem Sound.releasedOnce (h : Sound log held) : ReleasedOnce log held where
  once := by
    intro id hlt
    rw [h.proper.endings_eq, h.nodup.count]
    cases hover : isOver log id with
    | true =>
      have hnot : id ∉ held := by
        intro hid
        exact absurd (h.isOver_eq hid) (by simp [hover])
      simp [hnot]
    | false => simp [(h.mem_held id).2 ⟨hlt, hover⟩]
  untouched := by
    rintro newer id ok older rfl what fine
    exact h.proper.untouched what fine
  known := by
    intro id hid
    exact ((h.mem_held id).1 hid).1

end ByteStream.Audit
