/-
# ByteStream.Proofs.Stream.Simulation -- two runs that answer alike

Every command of a stream comes down to reading, writing, seeking and control requests, some of
them many times. A relation between two running streams that these four keep, with equal results,
is therefore kept by every command (`Simulates.perform`) and by every history
(`Simulates.performAll`), with equal answers. The two may run over different backends. Where only
some control requests are answered alike, the commands that make no other are
(`MovesAlike.perform`).

A property of one running stream is the case of a stream and itself: what the four operations
keep, every command keeps (`perform_keeps`), and what reading keeps, the commands that read
(`reading_keeps`).
-/

import ByteStream.Stream.Command

namespace ByteStream.Stream

variable {σ κ σ' κ' α β : Type}

/-! ## Relations that the operations keep -/

/-- The outcomes have the same result, and what they leave behind is related. -/
def SameStep (R : Stream σ κ → World σ → Stream σ' κ' → World σ' → Prop)
    (one : Outcome σ κ α) (other : Outcome σ' κ' α) : Prop :=
  one.result = other.result ∧ R one.stream one.world other.stream other.world

/-- Related streams read, write and seek alike and stay related; they look alike, and readers to
the end give them the same number of reads. -/
structure MovesAlike (B : Backend σ κ) (B' : Backend σ' κ')
    (R : Stream σ κ → World σ → Stream σ' κ' → World σ' → Prop) : Prop where
  read : ∀ {s w t v}, R s w t v → ∀ n, SameStep R (s.read B n w) (t.read B' n v)
  write : ∀ {s w t v}, R s w t v → ∀ data, SameStep R (s.write B data w) (t.write B' data v)
  seek : ∀ {s w t v}, R s w t v → ∀ pos, SameStep R (s.seek B pos w) (t.seek B' pos v)
  readsLeft : ∀ {s w t v}, R s w t v → s.readsLeft B w = t.readsLeft B' v
  coming : ∀ {s w t v}, R s w t v → w.signals.coming.length = v.signals.coming.length
  shown : ∀ {s w t v}, R s w t v → s.shown = t.shown

/-- Related streams answer each of the four operations alike and stay related. -/
structure Simulates (B : Backend σ κ) (B' : Backend σ' κ')
    (R : Stream σ κ → World σ → Stream σ' κ' → World σ' → Prop) : Prop
    extends MovesAlike B B' R where
  control : ∀ {s w t v}, R s w t v → ∀ request,
    SameStep R (s.control B request w) (t.control B' request v)

variable {B : Backend σ κ} {B' : Backend σ' κ'}
  {R : Stream σ κ → World σ → Stream σ' κ' → World σ' → Prop}

theorem SameStep.map {one : Outcome σ κ α} {other : Outcome σ' κ' α} (h : SameStep R one other)
    (f : α → β) : SameStep R (one.map f) (other.map f) :=
  ⟨congrArg f h.1, h.2⟩

/-! ## Reading on and on -/

section Reading

variable (hread : ∀ {s w t v}, R s w t v → ∀ n, SameStep R (s.read B n w) (t.read B' n v))

include hread

theorem readTimes_alike {s w t v} (hr : R s w t v) (n limit : Nat) :
    SameStep R (Stream.readTimes B n limit s w) (Stream.readTimes B' n limit t v) := by
  -- Both runs go on or stop together, since the results they look at are equal.
  induction limit generalizing s w t v with
  | zero => exact ⟨rfl, hr⟩
  | succ limit ih =>
    obtain ⟨hresult, hnext⟩ := hread hr n
    simp only [Stream.readTimes, ← hresult]
    cases hread : (s.read B n w).result with
    | error e => exact ⟨rfl, hnext⟩
    | ok bytes =>
      obtain ⟨hlater, hrest⟩ := ih hnext
      exact ⟨by simp only [hlater], hrest⟩

theorem ioRead_alike {s w t v} (hr : R s w t v) (n : Nat) :
    SameStep R (s.ioRead B n w) (t.ioRead B' n v) := by
  unfold Stream.ioRead
  split
  · exact ⟨rfl, hr⟩
  · obtain ⟨hresult, hnext⟩ := hread hr n
    exact ⟨congrArg ioReadView hresult, hnext⟩

theorem ioReadTimes_alike {s w t v} (hr : R s w t v) (limit : Nat)
    (space : ReadSpace) :
    SameStep R (Stream.ioReadTimes B limit space s w) (Stream.ioReadTimes B' limit space t v) := by
  induction limit generalizing space s w t v with
  | zero => exact ⟨rfl, hr⟩
  | succ limit ih =>
    obtain ⟨hresult, hnext⟩ := ioRead_alike hread hr space.grown.room
    simp only [Stream.ioReadTimes, ← hresult]
    cases hread : (s.ioRead B space.grown.room w).result with
    | error e =>
      by_cases hkind : e.kind = .interrupted
      · simp only [if_pos hkind]
        exact ih hnext _
      · simp only [if_neg hkind]
        exact ⟨rfl, hnext⟩
    | ok bytes =>
      cases bytes with
      | nil => exact ⟨rfl, hnext⟩
      | cons b bytes =>
        obtain ⟨hlater, hrest⟩ := ih hnext (space.grown.take (bytes.length + 1))
        exact ⟨by simp only [hlater], hrest⟩

end Reading

/-! ## Commands and histories -/

theorem MovesAlike.ioSeek (h : MovesAlike B B' R) {s w t v} (hr : R s w t v) (target : SeekFrom) :
    SameStep R (s.ioSeek B target w) (t.ioSeek B' target v) := by
  cases target with
  | start pos =>
    obtain ⟨hresult, hnext⟩ := h.seek hr pos
    simp only [Stream.ioSeek, ← hresult]
    cases hseek : (s.seek B pos w).result with
    | error e => exact ⟨rfl, hnext⟩
    | ok _ => exact ⟨rfl, hnext⟩
  | current offset => exact ⟨rfl, hr⟩
  | ending offset => exact ⟨rfl, hr⟩

/-- Every command is answered alike, if a control request is. -/
theorem MovesAlike.perform (h : MovesAlike B B' R) {s w t v} (hr : R s w t v) {command : Command}
    (hcontrol : ∀ request, command = .control request →
      SameStep R (s.control B request w) (t.control B' request v)) :
    SameStep R (s.perform B w command) (t.perform B' v command) := by
  cases command with
  | read n => exact (h.read hr n).map _
  | readAll n =>
    -- The two readers are granted equally many reads.
    simp only [Stream.perform, Stream.readAll, h.readsLeft hr]
    exact (readTimes_alike h.read hr n _).map _
  | write data => exact (h.write hr data).map _
  | seek pos => exact (h.seek hr pos).map _
  | control request => exact (hcontrol request rfl).map _
  | ioRead n => exact (ioRead_alike h.read hr n).map _
  | ioReadToEnd =>
    simp only [Stream.perform, Stream.ioReadToEnd, h.readsLeft hr, h.coming hr]
    obtain ⟨hresult, hnext⟩ := ioReadTimes_alike h.read hr
      (t.readsLeft B' v + v.signals.coming.length + 1) {}
    exact ⟨by simp only [Outcome.map, hresult], hnext⟩
  | ioWrite data =>
    obtain ⟨hresult, hnext⟩ := h.write hr data
    exact ⟨by simp only [Stream.perform, Stream.ioWrite, Outcome.map, hresult], hnext⟩
  | ioFlush => exact ⟨rfl, hr⟩
  | ioSeek target => exact (h.ioSeek hr target).map _
  | ioPosition => exact (h.ioSeek hr (.current 0)).map _
  | describe => exact ⟨congrArg Answer.text (h.shown hr), hr⟩
  | inspect => exact ⟨rfl, hr⟩

/-- Every command is answered alike. -/
theorem Simulates.perform (h : Simulates B B' R) {s w t v} (hr : R s w t v) (command : Command) :
    SameStep R (s.perform B w command) (t.perform B' v command) :=
  h.toMovesAlike.perform hr fun request _ => h.control hr request

/-- Every history is answered alike. -/
theorem Simulates.performAll (h : Simulates B B' R) {s w t v} (hr : R s w t v)
    (commands : List Command) :
    SameStep R (s.performAll B w commands) (t.performAll B' v commands) := by
  induction commands generalizing s w t v with
  | nil => exact ⟨rfl, hr⟩
  | cons command later ih =>
    obtain ⟨hanswer, hnext⟩ := h.perform hr command
    obtain ⟨hanswers, hlast⟩ := ih hnext
    exact ⟨by simp only [Stream.performAll, hanswer, hanswers], hlast⟩

/-! ## One stream -/

/-- The streams are equal, the worlds are, and they have the property. -/
def EqualWith (P : Stream σ κ → World σ → Prop) (s : Stream σ κ) (w : World σ) (t : Stream σ κ)
    (v : World σ) : Prop :=
  s = t ∧ w = v ∧ P s w

section Keeping

variable {P : Stream σ κ → World σ → Prop}
  (read : ∀ {s w}, P s w → ∀ n, P (s.read B n w).stream (s.read B n w).world)
  (write : ∀ {s w}, P s w → ∀ data, P (s.write B data w).stream (s.write B data w).world)
  (seek : ∀ {s w}, P s w → ∀ pos, P (s.seek B pos w).stream (s.seek B pos w).world)

include read write seek

/-- What reading, writing and seeking keep, every command keeps, if a control request does. -/
theorem perform_keeps_of {s : Stream σ κ} {w : World σ} (h : P s w) {command : Command}
    (control : ∀ request, command = .control request →
      P (s.control B request w).stream (s.control B request w).world) :
    P (s.perform B w command).stream (s.perform B w command).world := by
  have hself : MovesAlike B B (EqualWith P) :=
    { read := by rintro s w _ _ ⟨rfl, rfl, hs⟩ n; exact ⟨rfl, rfl, rfl, read hs n⟩
      write := by rintro s w _ _ ⟨rfl, rfl, hs⟩ data; exact ⟨rfl, rfl, rfl, write hs data⟩
      seek := by rintro s w _ _ ⟨rfl, rfl, hs⟩ pos; exact ⟨rfl, rfl, rfl, seek hs pos⟩
      readsLeft := by rintro s w _ _ ⟨rfl, rfl, _⟩; rfl
      coming := by rintro s w _ _ ⟨rfl, rfl, _⟩; rfl
      shown := by rintro s w _ _ ⟨rfl, rfl, _⟩; rfl }
  have hstart : EqualWith P s w s w := ⟨rfl, rfl, h⟩
  have hcontrol : ∀ request, command = .control request →
      SameStep (EqualWith P) (s.control B request w) (s.control B request w) :=
    fun request hrequest => ⟨rfl, rfl, rfl, control request hrequest⟩
  exact (hself.perform hstart hcontrol).2.2.2

/-- What reading, writing, seeking and control requests keep, every command keeps. -/
theorem perform_keeps
    (control : ∀ {s w}, P s w → ∀ request,
      P (s.control B request w).stream (s.control B request w).world)
    {s : Stream σ κ} {w : World σ} (h : P s w) (command : Command) :
    P (s.perform B w command).stream (s.perform B w command).world :=
  perform_keeps_of read write seek h fun request _ => control h request

end Keeping

/-- Seeking keeps what the call that seeks keeps: where it is refused, nothing happens. -/
theorem seek_keeps {P : Stream σ κ → World σ → Prop} {s : Stream σ κ} {w : World σ} (h : P s w)
    (pos : Nat) (hcall : ∀ (absent : Except StreamError Unit)
      (view : Except BackendError Nat → Except StreamError Unit),
      P (s.call w absent (fun c w => B.seek c pos w) view).stream
        (s.call w absent (fun c w => B.seek c pos w) view).world) :
    P (s.seek B pos w).stream (s.seek B pos w).world := by
  unfold Stream.seek
  split
  · exact hcall _ _
  · exact h

/-- The command reads, once or on and on. -/
def Command.isReading : Command → Bool
  | .read _ | .readAll _ | .ioRead _ | .ioReadToEnd => true
  | _ => false

/-- What reading keeps, the commands keep that read. -/
theorem reading_keeps {P : Stream σ κ → World σ → Prop}
    (read : ∀ {s w}, P s w → ∀ n, P (s.read B n w).stream (s.read B n w).world)
    {s : Stream σ κ} {w : World σ} (h : P s w) {command : Command}
    (hreading : command.isReading = true) :
    P (s.perform B w command).stream (s.perform B w command).world := by
  have hself : ∀ {s w t v}, EqualWith P s w t v → ∀ n,
      SameStep (EqualWith P) (s.read B n w) (t.read B n v) := by
    rintro s w _ _ ⟨rfl, rfl, hs⟩ n
    exact ⟨rfl, rfl, rfl, read hs n⟩
  have hstart : EqualWith P s w s w := ⟨rfl, rfl, h⟩
  cases command with
  | read n => exact read h n
  | readAll n => exact (readTimes_alike hself hstart n _).2.2.2
  | ioRead n => exact (ioRead_alike hself hstart n).2.2.2
  | ioReadToEnd => exact (ioReadTimes_alike hself hstart _ _).2.2.2
  | _ => exact absurd hreading (by simp [Command.isReading])

end ByteStream.Stream
