/-
# ByteStream.Proofs.Http.Reading -- one read, case by case

A read in the scripted order gives payload out of the pending bytes, or tells the end of a body that
has ended, or waits for what comes next of the body; and after a chunk that gives no payload it goes
on (`readOn_of_some`, `readOn_of_ended`, `readOn_of_none`). `readOn_induct` is the induction along
the chunks to come, with a case for each of its endings.
-/

import ByteStream.Http.Connection
import ByteStream.Proofs.Racing

namespace ByteStream.Http.Connection

variable {τ : Type} {c : Connection} {n : Nat}

/-- With no room nothing happens. -/
theorem read_eq (c : Connection) (n : Nat) (w : World (Server τ)) :
    c.read n w = if n = 0 then .done [] c w else c.readOn n w := by
  unfold read readBy readOn
  split
  · rfl
  · rfl

theorem read_of_pos (hn : 0 < n) (w : World (Server τ)) : c.read n w = c.readOn n w := by
  rw [read_eq, if_neg (Nat.pos_iff_ne_zero.1 hn)]

/-- Pending bytes that give payload are enough. -/
theorem readOn_of_some (hsome : (c.takePending n).1 ≠ []) (w : World (Server τ)) :
    c.readOn n w =
      .done (c.takePending n).1 ((c.takePending n).2.advance (c.takePending n).1.length) w := by
  rw [readOn, readOnBy, if_pos hsome]

/-- A read that finds nothing pending, of a body that has ended, tells the end. -/
theorem readOn_of_ended (hnone : (c.takePending n).1 = [])
    (hbody : (c.takePending n).2.body = none) (w : World (Server τ)) :
    c.readOn n w = .done [] (c.takePending n).2 w := by
  rw [readOn, readOnBy, if_neg (by simpa using hnone)]
  split
  · rfl
  · rename_i hsome
    rw [hbody] at hsome
    cases hsome

/-- A read that finds nothing pending waits for what is next of the body. -/
theorem readOn_of_none (hnone : (c.takePending n).1 = []) {body : Body}
    (hbody : (c.takePending n).2.body = some body) (w : World (Server τ)) :
    c.readOn n w =
      let taken := (c.takePending n).2
      let waited := c.interrupt.wait body.next? w.signals
      let w := { w with signals := waited.2 }
      match waited.1, body.next? with
      | .error e, _ => .fail e taken w
      | .ok _, none => .fail .lost taken w
      | .ok _, some (.failure, later) =>
        .fail brokenTransfer.toBackend { taken with body := some later } w
      | .ok _, some (.finish, _) => .done [] { taken with body := none } w
      | .ok _, some (.chunk bytes, later) =>
        readOn { taken with pending := bytes, body := some later } n w := by
  have hwait : (c.interrupt.waitBy ((Order.scripted : Order τ).arriving body w) body.next?
      w.signals).result = c.interrupt.wait body.next? w.signals := rfl
  rw [readOn, readOnBy, if_neg (by simpa using hnone)]
  dsimp only
  split
  · rename_i hover
    rw [hbody] at hover
    cases hover
  · rename_i body' hbody'
    obtain rfl : body = body' := Option.some.inj (hbody.symm.trans hbody')
    rw [← hwait]
    split <;> simp_all [readOn]

/-- Induction along the chunks that a read takes. Each case says what the read comes to there. -/
theorem readOn_induct {motive : Connection → World (Server τ) → Prop}
    (pending : ∀ (c : Connection) (w : World (Server τ)),
      let taken := c.takePending n
      taken.1 ≠ [] → c.readOn n w = .done taken.1 (taken.2.advance taken.1.length) w → motive c w)
    (ended : ∀ (c : Connection) (w : World (Server τ)),
      let taken := c.takePending n
      taken.1 = [] → taken.2.body = none → c.readOn n w = .done [] taken.2 w → motive c w)
    (broken : ∀ (c : Connection) (w : World (Server τ)),
      let taken := c.takePending n
      taken.1 = [] → ∀ body, taken.2.body = some body →
      let waited := c.interrupt.wait body.next? w.signals
      let w' := { w with signals := waited.2 }
      ∀ e, waited.1 = .error e → c.readOn n w = .fail e taken.2 w' → motive c w)
    (lost : ∀ (c : Connection) (w : World (Server τ)),
      let taken := c.takePending n
      taken.1 = [] → ∀ body, taken.2.body = some body →
      let waited := c.interrupt.wait body.next? w.signals
      let w' := { w with signals := waited.2 }
      body.next? = none → c.readOn n w = .fail .lost taken.2 w' → motive c w)
    (failure : ∀ (c : Connection) (w : World (Server τ)),
      let taken := c.takePending n
      taken.1 = [] → ∀ body, taken.2.body = some body →
      let waited := c.interrupt.wait body.next? w.signals
      let w' := { w with signals := waited.2 }
      ∀ later, body.next? = some (.failure, later) →
      c.readOn n w = .fail brokenTransfer.toBackend { taken.2 with body := some later } w' →
      motive c w)
    (finish : ∀ (c : Connection) (w : World (Server τ)),
      let taken := c.takePending n
      taken.1 = [] → ∀ body, taken.2.body = some body →
      let waited := c.interrupt.wait body.next? w.signals
      let w' := { w with signals := waited.2 }
      ∀ later, body.next? = some (.finish, later) →
      c.readOn n w = .done [] { taken.2 with body := none } w' → motive c w)
    (chunk : ∀ (c : Connection) (w : World (Server τ)),
      let taken := c.takePending n
      taken.1 = [] → ∀ body, taken.2.body = some body →
      let waited := c.interrupt.wait body.next? w.signals
      let w' := { w with signals := waited.2 }
      ∀ bytes later, body.next? = some (.chunk bytes, later) →
      c.readOn n w = readOn { taken.2 with pending := bytes, body := some later } n w' →
      motive { taken.2 with pending := bytes, body := some later } w' → motive c w)
    (c : Connection) (w : World (Server τ)) : motive c w := by
  by_cases hsome : (c.takePending n).1 = []
  · cases hbody : (c.takePending n).2.body with
    | none => exact ended c w hsome hbody (readOn_of_ended hsome hbody w)
    | some body =>
      have hread := readOn_of_none hsome hbody w
      dsimp only at hread
      split at hread
      · rename_i e hwait
        exact broken c w hsome body hbody e hwait hread
      · rename_i hnext
        exact lost c w hsome body hbody hnext hread
      · rename_i later _ hnext
        exact failure c w hsome body hbody later hnext hread
      · rename_i later _ hnext
        exact finish c w hsome body hbody later hnext hread
      · rename_i bytes later _ hnext
        have hless : later.chunks.length < c.chunksLeft := by
          rw [body_takePending] at hbody
          rw [chunksLeft, hbody]
          exact Body.length_chunks_of_next? hnext
        exact chunk c w hsome body hbody bytes later hnext hread
          (readOn_induct pending ended broken lost failure finish chunk _ _)
  · exact pending c w hsome (readOn_of_some hsome w)
termination_by c.chunksLeft

end ByteStream.Http.Connection
