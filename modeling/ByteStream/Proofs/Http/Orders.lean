/-
# ByteStream.Proofs.Http.Orders -- connections in every order of ticks and arrivals

An `Order` settles how each wait of a connection goes: the one until a request goes out, the one
for the reaction to it, and the one for the next chunk of a body. No two waits of one call wait for
the same, so its waits can go in any way at all, and each call of a run may have another order.
Connecting, reading and seeking give beside their answer what every look at the interrupt saw.

The answer of a call is an interruption exactly if a look saw the interrupt fire (`tells_connectBy`,
`tells_readBy`, `tells_seekBy`), over any transport and in any order: no status, header, redirect or
broken transfer passes for one.
-/

import ByteStream.Http.Backend
import ByteStream.Proofs.Http.Exchange
import ByteStream.Proofs.Racing
import ByteStream.Proofs.Stream.Reporting

namespace ByteStream.Http

variable {τ α β : Type}

/-! ## Telling -/

/-- The answer is an interruption exactly if a look saw the interrupt fire. -/
def Tells (answer : Except BackendError α) (looks : List Bool) : Prop :=
  failure? answer = some .interrupted ↔ true ∈ looks

theorem tells_ok (a : α) {looks : List Bool} (h : true ∉ looks) :
    Tells (.ok a : Except BackendError α) looks := by
  simp [Tells, failure?, h]

theorem tells_error {e : BackendError} (he : e ≠ .interrupted) {looks : List Bool}
    (h : true ∉ looks) : Tells (.error e : Except BackendError α) looks := by
  simp [Tells, failure?, he, h]

theorem tells_interrupted {looks : List Bool} (h : true ∈ looks) :
    Tells (.error .interrupted : Except BackendError α) looks := by
  simp [Tells, failure?, h]

theorem Tells.map {answer : Except BackendError α} {looks : List Bool} (h : Tells answer looks)
    (f : α → β) : Tells (answer.map f) looks := by
  cases answer with
  | ok _ => exact h
  | error _ => exact h

/-- Looks that saw nothing may go before. -/
theorem Tells.after {answer : Except BackendError α} {before looks : List Bool}
    (h : Tells answer looks) (hbefore : true ∉ before) : Tells answer (before ++ looks) := by
  unfold Tells
  rw [List.mem_append, or_iff_right hbefore]
  exact h

/-! ## Sending -/

/-- One request is told of as it came out. -/
theorem tells_exchangeBy (t : Transport) (o : Order τ) (i : Interrupt) (hop : Hop)
    (w : World (Server τ)) :
    Tells (exchangeBy t o i hop w).result.1 (exchangeBy t o i hop w).looks := by
  unfold exchangeBy
  dsimp only
  generalize hraced : i.raceBy _ (transmit t hop w).1.arrival = raced
  cases hwaited : raced.result.1 with
  | error e =>
    obtain ⟨rfl, hseen⟩ := Interrupt.seen_of_error (hraced ▸ hwaited)
    exact tells_interrupted (hraced ▸ hseen)
  | ok came =>
    have hunseen := (Interrupt.unseen_of_ok (hraced ▸ hwaited)).2
    rw [hraced] at hunseen
    cases hturned : turned t hop (.ok came) with
    | error e =>
      exact tells_error (fun hsame => turned_ne_interrupted t hop came (hsame ▸ hturned)) hunseen
    | ok next => exact tells_ok next hunseen

theorem Tells.unseen {a : α} {looks : List Bool} (h : Tells (.ok a : Except BackendError α) looks) :
    true ∉ looks := fun hseen => nomatch h.2 hseen

theorem tells_fetchBy (t : Transport) (o : Order τ) (i : Interrupt) (hops : Nat) (hop : Hop)
    (w : World (Server τ)) :
    Tells (fetchBy t o i hops hop w).result.1 (fetchBy t o i hops hop w).looks := by
  fun_induction fetchBy t o i hops hop w with
  | case1 hops hop w made e w' hmade =>
    have htold : Tells made.result.1 made.looks := tells_exchangeBy t o i hop w
    rw [hmade] at htold
    exact htold
  | case2 hops hop w made r w' hmade =>
    have htold : Tells made.result.1 made.looks := tells_exchangeBy t o i hop w
    rw [hmade] at htold
    exact tells_ok r htold.unseen
  | case3 hop w made next w' hmade =>
    have htold : Tells made.result.1 made.looks := tells_exchangeBy t o i hop w
    rw [hmade] at htold
    exact tells_error (HttpError.toBackend_ne_interrupted _) htold.unseen
  | case4 hop w made next w' hops hmade rest ih =>
    have htold : Tells made.result.1 made.looks := tells_exchangeBy t o i hop w
    rw [hmade] at htold
    exact ih.after htold.unseen

/-- Whether a response is accepted makes no difference to that. -/
theorem Tells.accept {answer : Except BackendError Response} {looks : List Bool}
    (h : Tells answer looks) (url : Url) (offset : Option Nat) :
    Tells (answer.bind (accept url offset)) looks := by
  cases answer with
  | error e => exact h
  | ok r =>
    show Tells (Http.accept url offset r) looks
    unfold Http.accept
    split
    · exact h
    · exact tells_error (HttpError.toBackend_ne_interrupted _) h.unseen

theorem tells_sendBy (t : Transport) (o : Order τ) (url : Url) (base : HeaderMap)
    (offset : Option Nat) (i : Interrupt) (w : World (Server τ)) :
    Tells (sendBy t o url base offset i w).result.1 (sendBy t o url base offset i w).looks := by
  unfold sendBy
  dsimp only
  split
  · rename_i e hleft
    obtain ⟨rfl, hseen⟩ := Interrupt.seen_of_error hleft
    exact tells_interrupted hseen
  · rename_i hleft
    have hunseen := (Interrupt.unseen_of_ok hleft).2
    split
    · exact tells_error (HttpError.toBackend_ne_interrupted _) hunseen
    · exact ((tells_fetchBy t o i _ _ _).accept url offset).after hunseen

/-! ## Reading and seeking -/

namespace Connection

theorem tells_readOnBy (o : Order τ) (c : Connection) (n : Nat) (w : World (Server τ)) :
    Tells (c.readOnBy o n w).result.answer (c.readOnBy o n w).looks := by
  fun_induction Connection.readOnBy o c n w with
  | case1 => exact tells_ok _ List.not_mem_nil
  | case2 => exact tells_ok _ List.not_mem_nil
  | case3 c w taken _ body _ waited w' e hwaited =>
    obtain ⟨rfl, hseen⟩ := Interrupt.seen_of_error hwaited
    exact tells_interrupted hseen
  | case4 c w taken _ body _ waited w' _ _ hwaited =>
    exact tells_error (by simp [BackendError.lost]) (Interrupt.unseen_of_ok hwaited).2
  | case5 c w taken _ body _ waited w' _ _ _ hwaited =>
    exact tells_error brokenTransfer.toBackend_ne_interrupted (Interrupt.unseen_of_ok hwaited).2
  | case6 c w taken _ body _ waited w' _ _ _ hwaited =>
    exact tells_ok _ (Interrupt.unseen_of_ok hwaited).2
  | case7 c w taken _ body _ waited w' bytes later _ _ hwaited rest ih =>
    exact ih.after (Interrupt.unseen_of_ok hwaited).2

theorem tells_readBy (o : Order τ) (c : Connection) (n : Nat) (w : World (Server τ)) :
    Tells (c.readBy o n w).result.answer (c.readBy o n w).looks := by
  unfold readBy
  split
  · exact tells_ok _ List.not_mem_nil
  · exact tells_readOnBy o c n w

theorem tells_seekBy (t : Transport) (o : Order τ) (c : Connection) (pos : Nat)
    (w : World (Server τ)) :
    Tells (c.seekBy t o pos w).result.answer (c.seekBy t o pos w).looks := by
  unfold seekBy
  split
  · exact tells_error (by simp) List.not_mem_nil
  · split
    · exact tells_ok _ List.not_mem_nil
    · have hsent := tells_sendBy t o c.url c.base (some pos) c.interrupt w
      dsimp only
      split
      · rename_i hresult
        rw [hresult] at hsent
        exact hsent
      · rename_i hresult
        rw [hresult] at hsent
        exact hsent

end Connection

/-! ## Connecting -/

theorem tells_connectBy (t : Transport) (o : Order τ) (request : ConnectRequest)
    (w : World (Server τ)) :
    Tells (connectBy t o request w).result.answer (connectBy t o request w).looks := by
  have hchecked := checked_ne_interrupted w.state.files request
  unfold connectBy
  split
  · rename_i e left hfailed
    rw [hfailed] at hchecked
    exact tells_error (fun he => hchecked (congrArg Except.error he)) List.not_mem_nil
  · exact (tells_sendBy t o _ _ none request.interrupt w).map _

end ByteStream.Http
