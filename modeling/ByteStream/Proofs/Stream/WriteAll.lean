/-
# ByteStream.Proofs.Stream.WriteAll -- what writing all of the data hands over

A writer of all the data offers what is left of it again and again: it goes on behind the bytes
that were taken, offers the same once more after an interruption, and stops at any other error and
when nothing is taken. Before each offer the world may change as it likes.

A write fails although its bytes have been taken, if the flush fails or an error sticks. If that
error is an interruption, the bytes are lost to the writer (`Offer.Lost`), which offers them once
more. That is the only way for bytes to be taken twice: what was taken lies end to end in the data
exactly if no offer but the last was lost (`follows_stop_iff`), and then it is a beginning of the
data (`prefix_of_follows`).
-/

import ByteStream.Memory
import ByteStream.Proofs.Stream.Reporting

namespace ByteStream

variable {σ κ : Type}

/-- A write takes no more than it is offered. -/
def Backend.TakesNoMoreThanOffered (B : Backend σ κ) : Prop :=
  ∀ c data w n, (B.write c data w).answer = .ok n → n ≤ data.length

namespace Stream

variable {B : Backend σ κ}

/-! ## Offers -/

/-- One offer of what is left of the data: where that starts, how much of it the backend took, and
the error of the backend that decided the write, if one did. -/
structure Offer where
  start : Nat
  taken : Nat
  cause : Option BackendError
deriving DecidableEq, Repr

namespace Offer

/-- Where the bytes that were taken end. -/
def stop (o : Offer) : Nat := o.start + o.taken

/-- Where the writer goes on. -/
def next (o : Offer) : Nat := if o.cause = some .interrupted then o.start else o.stop

/-- Bytes were taken, but the writer was told of an interruption. -/
def Lost (o : Offer) : Prop := 0 < o.taken ∧ o.cause = some .interrupted

instance (o : Offer) : Decidable o.Lost := by
  unfold Lost
  infer_instance

/-- The bytes that were taken. -/
def bytes (data : Bytes) (o : Offer) : Bytes := (data.drop o.start).take o.taken

theorem next_of_interrupted {o : Offer} (h : o.cause = some .interrupted) : o.next = o.start :=
  if_pos h

theorem next_of_told {o : Offer} (h : o.cause = none) : o.next = o.stop :=
  if_neg (by simp [h])

theorem next_eq_stop_iff (o : Offer) : o.next = o.stop ↔ ¬ o.Lost := by
  unfold next stop Lost
  split
  · rename_i hcause
    simp only [hcause, and_true]
    omega
  · rename_i hcause
    simp only [hcause, and_false, not_false_eq_true]

end Offer

/-- How many bytes of the data the backend takes in a write. -/
def accepted (B : Backend σ κ) (s : Stream σ κ) (data : Bytes) (w : World σ) : Nat :=
  match s.conn with
  | none => 0
  | some c => (B.write c data w).answer.toOption.getD 0

/-- The offer of the data from a position on. -/
def offer (B : Backend σ κ) (s : Stream σ κ) (data : Bytes) (start : Nat) (w : World σ) :
    Offer where
  start := start
  taken := s.accepted B (data.drop start) w
  cause := s.writeFailure B (data.drop start) w

/-! ## Writers -/

/-- How a writer of all the data comes to an end. -/
inductive WriteEnd
  | done
  /-- Nothing was taken. -/
  | stalled
  | failed (e : IoError)
  /-- There were no rounds left. -/
  | unfinished
deriving DecidableEq, Repr

/-- Writes the data from a position on, with at most one offer for each round. A round is what
happens to the world before its offer. -/
def writeAll (B : Backend σ κ) (data : Bytes) (start : Nat) (s : Stream σ κ) (w : World σ) :
    List (World σ → World σ) → Outcome σ κ (List Offer × WriteEnd)
  | [] => ⟨([], if data.length ≤ start then .done else .unfinished), s, w⟩
  | change :: rounds =>
    if data.length ≤ start then ⟨([], .done), s, w⟩
    else
      let offered := s.offer B data start (change w)
      let r := s.ioWrite B (data.drop start) (change w)
      let goOn (start : Nat) : Outcome σ κ (List Offer × WriteEnd) :=
        let rest := writeAll B data start r.stream r.world rounds
        ⟨(offered :: rest.result.1, rest.result.2), rest.stream, rest.world⟩
      match r.result with
      | .error e =>
        if e.kind = .interrupted then goOn start else ⟨([offered], .failed e), r.stream, r.world⟩
      | .ok 0 => ⟨([offered], .stalled), r.stream, r.world⟩
      | .ok (n + 1) => goOn (start + (n + 1))

/-! ## One offer -/

variable {s : Stream σ κ} {w : World σ} {data : Bytes}

theorem accepted_le (hB : B.TakesNoMoreThanOffered) (s : Stream σ κ) (data : Bytes) (w : World σ) :
    s.accepted B data w ≤ data.length := by
  unfold accepted
  cases s.conn with
  | none => exact Nat.zero_le _
  | some c =>
    dsimp only
    cases hanswer : (B.write c data w).answer with
    | error e => exact Nat.zero_le _
    | ok n => exact hB c data w n hanswer

/-- A write that succeeds tells how many bytes were taken, and no error decided it. -/
theorem offer_of_ioWrite_ok {n : Nat} (h : (s.ioWrite B data w).result = .ok n) :
    s.accepted B data w = n ∧ s.writeFailure B data w = none := by
  obtain ⟨c, hconn, hcourse⟩ := write_eq_ok_iff.1 (ioWrite_eq_ok_iff.1 h)
  refine ⟨?_, ?_⟩
  · unfold accepted
    rw [hconn]
    dsimp only
    rw [hcourse.taken]
    rfl
  · rw [← callFailure_writeThrough, callFailure, hconn, Option.bind_some,
      Backend.writeThrough_eq_ok_iff.2 hcourse]
    rfl

/-- A write that fails tells of an interruption exactly if one decided it. -/
theorem kind_of_ioWrite_error {e : IoError} (h : (s.ioWrite B data w).result = .error e) :
    e.kind = .interrupted ↔ s.writeFailure B data w = some .interrupted := by
  rw [← interrupts_write]
  change (s.write B data w).result.mapError StreamError.toIo = .error e at h
  cases hresult : (s.write B data w).result with
  | ok n =>
    rw [hresult] at h
    cases h
  | error cause =>
    rw [hresult] at h
    obtain rfl : cause.toIo = e := Except.error.inj h
    exact cause.kind_toIo

/-- Bytes are lost only where the flush or the error that sticks is an interruption. -/
theorem not_lost_of_steady
    (hsteady : ∀ c v, (B.flush c v).answer ≠ .error .interrupted ∧ B.error c v ≠ some .interrupted)
    (s : Stream σ κ) (data : Bytes) (start : Nat) (w : World σ) :
    ¬ (s.offer B data start w).Lost := by
  rintro ⟨htaken, hcause⟩
  dsimp only [offer] at htaken hcause
  unfold accepted at htaken
  unfold writeFailure at hcause
  cases hconn : s.conn with
  | none =>
    rw [hconn] at htaken
    exact absurd htaken (by simp)
  | some c =>
    rw [hconn] at htaken hcause
    simp only [Option.bind_some] at htaken hcause
    generalize B.write c (data.drop start) w = wrote at htaken hcause
    cases hanswer : wrote.answer with
    | error e => exact absurd htaken (by simp [hanswer, Except.toOption])
    | ok n =>
      obtain ⟨hflush, hstuck⟩ := hsteady wrote.conn wrote.world
      simp only [hanswer, failure?, Option.none_or] at hcause
      cases hflushed : (B.flush wrote.conn wrote.world).answer with
      | error e =>
        simp only [hflushed, Option.some_or, Option.some.injEq] at hcause
        exact hflush (hflushed.trans (congrArg Except.error hcause))
      | ok _ =>
        simp only [hflushed, Option.none_or] at hcause
        exact (hsteady _ _).2 hcause

/-! ## Offers in a row -/

/-- The first offer starts at the position, and each further one where the one before it says. -/
def Follows (after : Offer → Nat) : Nat → List Offer → Prop
  | _, [] => True
  | start, o :: later => o.start = start ∧ Follows after (after o) later

/-- The writer offers what it has not been told to be taken. -/
theorem follows_writeAll (B : Backend σ κ) (data : Bytes) (start : Nat) (s : Stream σ κ)
    (w : World σ) (rounds : List (World σ → World σ)) :
    Follows Offer.next start (s.writeAll B data start w rounds).result.1 := by
  induction rounds generalizing start s w with
  | nil => exact trivial
  | cons change rounds ih =>
    unfold writeAll
    split
    · exact trivial
    · dsimp only
      split
      · rename_i e hresult
        split
        · rename_i hkind
          have hcause : (s.offer B data start (change w)).cause = some .interrupted :=
            (kind_of_ioWrite_error hresult).1 hkind
          refine ⟨rfl, ?_⟩
          rw [Offer.next_of_interrupted hcause]
          exact ih ..
        · exact ⟨rfl, trivial⟩
      · exact ⟨rfl, trivial⟩
      · rename_i n hresult
        obtain ⟨htaken, hcause⟩ := offer_of_ioWrite_ok hresult
        have hstop : (s.offer B data start (change w)).stop = start + (n + 1) :=
          congrArg (start + ·) htaken
        refine ⟨rfl, ?_⟩
        rw [Offer.next_of_told (o := s.offer B data start (change w)) hcause, hstop]
        exact ih ..

/-- Each offer of a writer is one that it makes in some round, of data that is left. -/
theorem exists_offer_of_mem {start : Nat} {rounds : List (World σ → World σ)} {o : Offer}
    (ho : o ∈ (s.writeAll B data start w rounds).result.1) :
    ∃ (t : Stream σ κ) (v : World σ) (pos : Nat), pos < data.length ∧
      o = t.offer B data pos v := by
  induction rounds generalizing start s w with
  | nil => exact absurd ho List.not_mem_nil
  | cons change rounds ih =>
    unfold writeAll at ho
    split at ho
    · exact absurd ho List.not_mem_nil
    · rename_i hleft
      have hfirst : ∃ (t : Stream σ κ) (v : World σ) (pos : Nat), pos < data.length ∧
          s.offer B data start (change w) = t.offer B data pos v :=
        ⟨s, change w, start, Nat.lt_of_not_le hleft, rfl⟩
      dsimp only at ho
      split at ho
      · split at ho
        · rcases List.mem_cons.1 ho with rfl | hlater
          · exact hfirst
          · exact ih hlater
        · obtain rfl := List.mem_singleton.1 ho
          exact hfirst
      · obtain rfl := List.mem_singleton.1 ho
        exact hfirst
      · rcases List.mem_cons.1 ho with rfl | hlater
        · exact hfirst
        · exact ih hlater

/-- What was taken lies end to end exactly if no offer but the last was lost. -/
theorem follows_stop_iff {start : Nat} {offers : List Offer}
    (h : Follows Offer.next start offers) :
    Follows Offer.stop start offers ↔ ∀ o ∈ offers.dropLast, ¬ o.Lost := by
  induction offers generalizing start with
  | nil => simp [Follows]
  | cons o later ih =>
    obtain ⟨hstart, hlater⟩ := h
    cases later with
    | nil => simp [Follows, hstart]
    | cons o' later =>
      rw [List.dropLast_cons_of_ne_nil (by simp), List.forall_mem_cons, ← o.next_eq_stop_iff]
      constructor
      · rintro ⟨-, hstop⟩
        -- The next offer starts both where the writer went on and where the bytes end.
        have hsame : o.next = o.stop := hlater.1.symm.trans hstop.1
        rw [← hsame] at hstop
        exact ⟨hsame, (ih hlater).1 hstop⟩
      · rintro ⟨hsame, hrest⟩
        refine ⟨hstart, ?_⟩
        rw [← hsame]
        exact (ih hlater).2 hrest

/-- What was taken end to end is a beginning of the data. -/
theorem prefix_of_follows (data : Bytes) {start : Nat} {offers : List Offer}
    (h : Follows Offer.stop start offers) :
    offers.flatMap (Offer.bytes data) <+: data.drop start := by
  induction offers generalizing start with
  | nil => exact List.nil_prefix
  | cons o later ih =>
    obtain ⟨rfl, hlater⟩ := h
    have hrest : later.flatMap (Offer.bytes data) <+: (data.drop o.start).drop o.taken := by
      rw [List.drop_drop]
      exact ih hlater
    calc (o :: later).flatMap (Offer.bytes data)
        = (data.drop o.start).take o.taken ++ later.flatMap (Offer.bytes data) := rfl
      _ <+: (data.drop o.start).take o.taken ++ (data.drop o.start).drop o.taken :=
          (List.prefix_append_right_inj _).2 hrest
      _ = data.drop o.start := List.take_append_drop ..

/-! ## All of the data -/

/-- **Bytes are taken twice only after they were lost.** Let a backend take no more than it is
offered, and let a writer of all the data make as many offers as it likes, in whatever worlds. What
was taken of each offer lies in the data. Each offer starts behind the bytes that were taken
before, unless the writer was told of an interruption; so what was taken lies end to end exactly if
no offer but the last was lost, and then all of it together is a beginning of the data. Where the
backend never reports an interruption after it took bytes, no offer is lost. -/
theorem written_once_unless_lost (hB : B.TakesNoMoreThanOffered) (data : Bytes) (s : Stream σ κ)
    (w : World σ) (rounds : List (World σ → World σ)) :
    let offers := (s.writeAll B data 0 w rounds).result.1
    (∀ o ∈ offers, o.stop ≤ data.length) ∧
      Follows Offer.next 0 offers ∧
      (Follows Offer.stop 0 offers ↔ ∀ o ∈ offers.dropLast, ¬ o.Lost) ∧
      ((∀ o ∈ offers.dropLast, ¬ o.Lost) → offers.flatMap (Offer.bytes data) <+: data) ∧
      ((∀ c v, (B.flush c v).answer ≠ .error .interrupted ∧ B.error c v ≠ some .interrupted) →
        ∀ o ∈ offers, ¬ o.Lost) := by
  intro offers
  have hnext : Follows Offer.next 0 offers := follows_writeAll B data 0 s w rounds
  refine ⟨?_, hnext, follows_stop_iff hnext, ?_, ?_⟩
  · intro o ho
    obtain ⟨t, v, start, hstart, rfl⟩ := exists_offer_of_mem ho
    have htaken := accepted_le hB t (data.drop start) v
    rw [List.length_drop] at htaken
    show start + t.accepted B (data.drop start) v ≤ data.length
    omega
  · intro hkept
    have hprefix := prefix_of_follows data ((follows_stop_iff hnext).2 hkept)
    rwa [List.drop_zero] at hprefix
  · intro hsteady o ho
    obtain ⟨t, v, start, -, rfl⟩ := exists_offer_of_mem ho
    exact not_lost_of_steady hsteady t data start v

/-- A backend that takes no more than two bytes of a write, or refuses it where a refusal is due.
Its state is what is due for the writes to come. -/
def pairs : Backend (List (Option BackendError)) Unit where
  protocols := ["pairs"]
  connect request w := ⟨.ok (), request.options, w⟩
  read c _ w := .done [] c w
  readsLeft _ _ := 0
  write c data w :=
    match w.state with
    | some e :: later => .fail e c { w with state := later }
    | none :: later => .done (min 2 data.length) c { w with state := later }
    | [] => .done (min 2 data.length) c w

theorem takesNoMoreThanOffered_pairs : pairs.TakesNoMoreThanOffered := by
  intro c data w n hanswer
  dsimp only [pairs] at hanswer
  split at hanswer
  · exact absurd hanswer (by simp [Reply.fail])
  · exact Except.ok.inj hanswer ▸ Nat.min_le_right 2 data.length
  · exact Except.ok.inj hanswer ▸ Nat.min_le_right 2 data.length

/-- A stream that was opened over it, to be written. -/
def pairsWriter : Stream (List (Option BackendError)) Unit where
  config := {}
  cookies := .none
  url := "pairs://x"
  mode := .write
  conn := some ()
  hint := DemuxerHint.forOpened "pairs://x"

/-- Five bytes, of which two are taken, none, two, and one: the second offer is broken off before
any are, and made once more. -/
theorem written_once_unless_lost_pairs :
    let due : World (List (Option BackendError)) := { state := [none, some .interrupted] }
    let data : Bytes := [97, 98, 99, 100, 101]
    let run := pairsWriter.writeAll pairs data 0 due [id, id, id, id]
    run.result =
        ([⟨0, 2, none⟩, ⟨2, 0, some .interrupted⟩, ⟨2, 2, none⟩, ⟨4, 1, none⟩], .done) ∧
      run.result.1.flatMap (Offer.bytes data) <+: data := by
  intro due data run
  have hrun : run.result =
      ([⟨0, 2, none⟩, ⟨2, 0, some .interrupted⟩, ⟨2, 2, none⟩, ⟨4, 1, none⟩], .done) := rfl
  obtain ⟨-, -, -, hprefix, -⟩ := written_once_unless_lost takesNoMoreThanOffered_pairs data
    pairsWriter due [id, id, id, id]
  refine ⟨hrun, hprefix ?_⟩
  show ∀ o ∈ run.result.1.dropLast, ¬ o.Lost
  rw [hrun]
  decide

/-- A world that takes what is written, and then has this error on every flush. -/
def desk (flushError : Option BackendError) : World Memory.Store where
  state := { settings := { flushError } }

/-- A stream that was opened over such a world, to be written. -/
def jotter : Stream Memory.Store Memory.Connection where
  config := {}
  cookies := .none
  url := "mock://x"
  mode := .write
  conn := some ⟨1, .never, 0, none⟩
  hint := DemuxerHint.forOpened "mock://x"

/-- Three bytes. -/
def note : Bytes := [97, 98, 99]

/-- **Bytes are taken twice.** The flush that follows the first offer leaves an interruption on the
connection. The writer is told of it, offers the same bytes once more, and they are taken again. -/
theorem lost_bytes_taken_again :
    Reached Memory.backend {} .none "mock://x" .write jotter ∧
      let run := jotter.writeAll Memory.backend note 0 (desk (some .interrupted)) [id, id]
      run.result.1 = [⟨0, 3, some .interrupted⟩, ⟨0, 3, some .interrupted⟩] ∧
        run.world.state.written = note ++ note ∧
        ¬ run.result.1.flatMap (Offer.bytes note) <+: note := by
  refine ⟨.opened (w := desk none) rfl, rfl, rfl, ?_⟩
  show ¬ note ++ note <+: note
  intro hprefix
  exact absurd hprefix.length_le (by decide)

end Stream

end ByteStream
