/-
# ByteStream.Proofs.Http.Observing -- what streams over HTTP tell, and what was seen

A stream over HTTP looks at its interrupt only in those calls on its backend that wait. `looks`
gathers what these looks saw in one call, and a `visit` is an address that is opened and then used,
with what each step told and what was seen in it; each of its calls may have an order of its own. A
step tells of an interruption exactly if one of its looks saw the interrupt fire (`told_perform`,
`told_visit`), whatever the server sent. What holds over any backend stands beside that in
`interruptions_told`.
-/

import ByteStream.Proofs.Http.Orders

namespace ByteStream.Http

open ByteStream.Stream

variable {τ α : Type}

/-! ## One call -/

/-- What the looks saw in a call on the connection, if there is a connection. -/
def looksOf (s : Stream (Server τ) Connection) (f : Connection → List Bool) : List Bool :=
  (s.conn.map f).getD []

/-- What the looks saw in an attempt to connect. -/
def looksConnecting (t : Transport) (o : Order τ) (s : Stream (Server τ) Connection)
    (w : World (Server τ)) : List Bool :=
  (connectBy t o (s.request w).1 (s.request w).2).looks

/-- What the looks saw in a seek. -/
def looksSeeking (t : Transport) (o : Order τ) (s : Stream (Server τ) Connection) (pos : Nat)
    (w : World (Server τ)) : List Bool :=
  if s.seekable then looksOf s fun c => (c.seekBy t o pos w).looks else []

/-- What the looks saw in an attempt to connect again. -/
def looksReconnecting (t : Transport) (o : Order τ) (s : Stream (Server τ) Connection)
    (w : World (Server τ)) : List Bool :=
  match s.mode with
  | .write => []
  | .read => looksConnecting t o (s.emptied (backendBy t o) w) (s.close (backendBy t o) w)

/-- What the looks at the interrupt saw in a call. -/
def looks (t : Transport) (o : Order τ) (s : Stream (Server τ) Connection)
    (w : World (Server τ)) : Command → List Bool
  | .read n => looksOf s fun c => (c.readBy o n w).looks
  | .ioRead n => if n = 0 then [] else looksOf s fun c => (c.readBy o n w).looks
  | .seek pos | .ioSeek (.start pos) => looksSeeking t o s pos w
  | .control .reconnect => looksReconnecting t o s w
  | _ => []

/-- What the looks saw while an address was opened. -/
def looksOpening (t : Transport) (o : Order τ) (config : Config)
    (cookies : CookieProvider (Server τ)) (address : String) (mode : Mode)
    (w : World (Server τ)) : List Bool :=
  match Address.normalize address with
  | .ok (.openAt url) => looksConnecting t o (Origin.stream ⟨config, cookies, url, mode⟩) w
  | _ => []

variable (t : Transport) (o : Order τ) (s : Stream (Server τ) Connection) (w : World (Server τ))

theorem callFailure_iff {f : Connection → World (Server τ) → Reply (Server τ) Connection α}
    {seen : Connection → List Bool} (h : ∀ c, Tells (f c w).answer (seen c)) :
    s.callFailure f w = some .interrupted ↔ true ∈ looksOf s seen := by
  unfold callFailure looksOf
  cases s.conn with
  | none => simp
  | some c => exact h c

theorem seekFailure_iff (pos : Nat) :
    s.seekFailure (backendBy t o) pos w = some .interrupted ↔ true ∈ looksSeeking t o s pos w := by
  unfold seekFailure looksSeeking
  split
  · exact callFailure_iff s w fun c => c.tells_seekBy t o pos w
  · simp

theorem connectFailure_iff :
    connectFailure (backendBy t o) s w = some .interrupted ↔ true ∈ looksConnecting t o s w :=
  tells_connectBy t o (s.request w).1 (s.request w).2

theorem reconnectFailure_iff :
    s.reconnectFailure (backendBy t o) w = some .interrupted ↔
      true ∈ looksReconnecting t o s w := by
  unfold reconnectFailure looksReconnecting
  cases s.mode with
  | write => simp
  | read => exact connectFailure_iff t o _ _

/-- There is no writing over HTTP, and that is said at once. -/
theorem writeFailure_iff (data : Bytes) :
    s.writeFailure (backendBy t o) data w = some .interrupted ↔ true ∈ ([] : List Bool) := by
  unfold writeFailure
  cases s.conn with
  | none => simp
  | some c =>
    show some BackendError.unsupported = some .interrupted ↔ _
    simp

/-- A call that waits for nothing does not look at the interrupt. -/
theorem callFailure_of_prompt {f : Connection → World (Server τ) → Reply (Server τ) Connection α}
    (h : ∀ c, failure? (f c w).answer ≠ some .interrupted) :
    s.callFailure f w = some .interrupted ↔ true ∈ ([] : List Bool) := by
  unfold callFailure
  cases s.conn with
  | none => simp
  | some c => simp [h c]

theorem failureOf_iff (command : Command) :
    s.failureOf (backendBy t o) w command = some .interrupted ↔ true ∈ looks t o s w command := by
  cases command with
  | read n => exact callFailure_iff s w fun c => c.tells_readBy o n w
  | ioRead n =>
    show (if n = 0 then none else _) = _ ↔ true ∈ if n = 0 then [] else _
    split
    · simp
    · exact callFailure_iff s w fun c => c.tells_readBy o n w
  | write data => exact writeFailure_iff t o s w data
  | ioWrite data => exact writeFailure_iff t o s w data
  | seek pos => exact seekFailure_iff t o s w pos
  | ioSeek target =>
    cases target with
    | start pos => exact seekFailure_iff t o s w pos
    | current offset => simp [failureOf, looks]
    | ending offset => simp [failureOf, looks]
  | control request =>
    cases request with
    | size => exact callFailure_of_prompt s w fun c => (Option.some_ne_none _).symm
    | seekTime seek =>
      exact callFailure_of_prompt s w fun c hsame => absurd (Option.some.inj hsame) (by decide)
    | tags => simp [failureOf, looks]
    | reconnect => exact reconnectFailure_iff t o s w
  | readAll n => simp [failureOf, looks]
  | ioReadToEnd => simp [failureOf, looks]
  | ioFlush => simp [failureOf, looks]
  | ioPosition => simp [failureOf, looks]
  | describe => simp [failureOf, looks]
  | inspect => simp [failureOf, looks]

/-- A call tells of an interruption exactly if a look saw the interrupt fire during it. -/
theorem told_perform {command : Command} (hcall : command.isCall = true) :
    (s.perform (backendBy t o) w command).result.isInterruption = true ↔
      true ∈ looks t o s w command := by
  rw [isInterruption_perform (backendBy t o) s w hcall]
  exact failureOf_iff t o s w command

/-- So does an attempt to open an address. -/
theorem told_openAt (config : Config) (cookies : CookieProvider (Server τ)) (address : String)
    (mode : Mode) :
    interrupts (Stream.openAt (backendBy t o) config cookies address mode w).1 = true ↔
      true ∈ looksOpening t o config cookies address mode w := by
  rw [interrupts_openAt]
  unfold openFailure looksOpening
  cases Address.normalize address with
  | error e => simp
  | ok target =>
    cases target with
    | openAt url => exact connectFailure_iff t o _ w
    | delegate hint => simp

/-! ## Visits -/

/-- A call on a stream: what has been signalled by the time it is made, the order in which its waits
go, and what is called for. -/
structure Turn (τ : Type) where
  signals : Signals
  order : Order τ
  command : Command
  isCall : command.isCall = true

/-- Makes the calls one after the other. Gives, for each, whether it told of an interruption, and
what the looks saw. -/
def takeTurns (t : Transport) (s : Stream (Server τ) Connection) (w : World (Server τ)) :
    List (Turn τ) → List (Observed Bool)
  | [] => []
  | turn :: later =>
    let before := { w with signals := turn.signals }
    let now := s.perform (backendBy t turn.order) before turn.command
    ⟨now.result.isInterruption, looks t turn.order s before turn.command⟩ ::
      takeTurns t now.stream now.world later

/-- Opens an address and, if that gives a stream, makes the calls on it. -/
def visit (t : Transport) (o : Order τ) (config : Config) (cookies : CookieProvider (Server τ))
    (address : String) (mode : Mode) (w : World (Server τ)) (turns : List (Turn τ)) :
    List (Observed Bool) :=
  let opened := Stream.openAt (backendBy t o) config cookies address mode w
  ⟨interrupts opened.1, looksOpening t o config cookies address mode w⟩ ::
    match opened.1 with
    | .ok (.stream s) => takeTurns t s opened.2 turns
    | _ => []

theorem told_takeTurns (turns : List (Turn τ)) :
    ∀ step ∈ takeTurns t s w turns, step.result = true ↔ true ∈ step.looks := by
  induction turns generalizing s w with
  | nil => simp [takeTurns]
  | cons turn later ih =>
    intro step hstep
    rcases List.mem_cons.1 hstep with rfl | hlater
    · exact told_perform t turn.order s _ turn.isCall
    · exact ih _ _ step hlater

/-- What a step of a visit tells is what was seen in it. -/
theorem told_visit (config : Config) (cookies : CookieProvider (Server τ)) (address : String)
    (mode : Mode) (turns : List (Turn τ)) :
    ∀ step ∈ visit t o config cookies address mode w turns,
      step.result = true ↔ true ∈ step.looks := by
  intro step hstep
  rcases List.mem_cons.1 hstep with rfl | hlater
  · exact told_openAt t o w config cookies address mode
  · split at hlater
    · exact told_takeTurns t _ _ turns step hlater
    · exact absurd hlater List.not_mem_nil

/-! ## Over any backend, and over HTTP -/

/-- **Interruptions are told, and neither swallowed nor invented.** Whatever a backend does and
whatever state a stream is in, a call tells of an interruption exactly if the error of the backend
that decides it is one, and so does an attempt to open an address. Over HTTP, over any transport, in
any order of ticks and arrivals and from any server, that is the case exactly if a look saw the
interrupt fire during the call; so in a visit where no look sees that, no step tells of an
interruption. The backend that runs is the one over plain HTTP in the scripted order. -/
theorem interruptions_told :
    (∀ {σ κ : Type} (B : Backend σ κ) (s : Stream σ κ) (w : World σ) (command : Command),
      command.isCall = true →
      ((s.perform B w command).result.isInterruption = true ↔
        s.failureOf B w command = some .interrupted)) ∧
    (∀ {σ κ : Type} (B : Backend σ κ) (config : Config) (cookies : CookieProvider σ)
      (address : String) (mode : Mode) (w : World σ),
      interrupts (Stream.openAt B config cookies address mode w).1 = true ↔
        openFailure B config cookies address mode w = some .interrupted) ∧
    (∀ {τ : Type} (t : Transport) (o : Order τ) (s : Stream (Server τ) Connection)
      (w : World (Server τ)) (command : Command), command.isCall = true →
      ((s.perform (backendBy t o) w command).result.isInterruption = true ↔
        true ∈ looks t o s w command)) ∧
    (∀ {τ : Type} (t : Transport) (o : Order τ) (config : Config)
      (cookies : CookieProvider (Server τ)) (address : String) (mode : Mode) (w : World (Server τ))
      (turns : List (Turn τ)),
      let steps := visit t o config cookies address mode w turns
      (∀ step ∈ steps, step.result = true ↔ true ∈ step.looks) ∧
      ((∀ step ∈ steps, true ∉ step.looks) → ∀ step ∈ steps, step.result = false)) ∧
    ∀ {τ : Type}, backendBy .plain (.scripted : Order τ) = backend := by
  refine ⟨?_, ?_, ?_, ?_, rfl⟩
  · intro σ κ B s w command hcall
    exact isInterruption_perform B s w hcall
  · intro σ κ B config cookies address mode w
    exact interrupts_openAt B config cookies address mode w
  · intro τ t o s w command hcall
    exact told_perform t o s w hcall
  · intro τ t o config cookies address mode w turns steps
    have htold := told_visit t o w config cookies address mode turns
    refine ⟨htold, ?_⟩
    intro hunseen step hstep
    rw [← Bool.not_eq_true, htold step hstep]
    exact hunseen step hstep

/-- An order in which these ticks come before each answer and each chunk. -/
def ticking (ticks : List Signals) : Order (List Reaction) where
  leaving w := ⟨[], w.signals⟩
  answering _ w := ⟨ticks, w.signals⟩
  arriving _ w := ⟨ticks, w.signals⟩

/-- A server that sends two bytes, and then nothing more. -/
def stalling : World (Server (List Reaction)) where
  state := .planned [.respond ⟨200, .empty, none, ⟨[[104, 105]], .silent⟩⟩]

/-- A visit to it by somebody with a token. -/
def stallingVisit (turns : List (Turn (List Reaction))) : List (Observed Bool) :=
  visit .plain (ticking [{}]) { cancel := some (.root "t") } .none "http://[::1]/f" .read stalling
    turns

/-- A read with these ticks before each chunk. -/
def readTurn (ticks : List Signals) : Turn (List Reaction) := ⟨{}, ticking ticks, .read 2, rfl⟩

/-- A write whose flush is broken off; and a read of what the server sends, and another one in
which the token is cancelled between two ticks. -/
theorem interruptions_told_stalling :
    let flushing := stationStream (some { writes := [.ok 2], flushes := [.error .interrupted] }) {}
    let cancelled : Signals := { cancelled := [.root "t"] }
    (Command.ioWrite [104, 105]).isCall = true ∧
      (flushing.perform Scripted.backend (stationWorld [])
        (.ioWrite [104, 105])).result.isInterruption = true ∧
      (∀ step ∈ stallingVisit [readTurn [{}]], true ∉ step.looks) ∧
      (∀ step ∈ stallingVisit [readTurn [{}]], step.result = false) ∧
      ∃ step ∈ stallingVisit [readTurn [{}], readTurn [{}, cancelled]],
        true ∈ step.looks ∧ step.result = true := by
  intro flushing cancelled
  obtain ⟨hcalls, -, -, hvisits, -⟩ := interruptions_told
  have hunseen : ∀ step ∈ stallingVisit [readTurn [{}]], true ∉ step.looks := by decide +kernel
  have hseen : ∃ step ∈ stallingVisit [readTurn [{}], readTurn [{}, cancelled]],
      true ∈ step.looks := by
    decide +kernel
  obtain ⟨step, hstep, hlook⟩ := hseen
  refine ⟨rfl, (hcalls _ flushing _ _ rfl).2 rfl, hunseen, ?_, step, hstep, hlook, ?_⟩
  · exact (hvisits _ _ _ _ _ _ _ _).2 hunseen
  · exact ((hvisits _ _ _ _ _ _ _ _).1 step hstep).2 hlook

end ByteStream.Http
