/-
# ByteStream.Proofs.Stream.ReadToEnd -- when reading to the end comes to an end

A reader to the end offers room for one read after the other. It stops at a read that gives
nothing and at an error, but goes on after an interruption. Signals may come in before each read.

Over the two backends, as many reads as can give bytes and one more bring such a reader to its end,
unless one of them is broken off (`EndsUnlessBrokenOff.ends`). A read is broken off only once the
token has been cancelled, and no cancellation is taken back: every later read is broken off as
well, and the reader never stops (`EndsUnlessBrokenOff.endless`). Its error is one that a reader to
the end takes for a reason to try again.

A read that waits for ever counts as an end here, so nothing is said of it.
-/

import ByteStream.Proofs.Http.Interruption
import ByteStream.Proofs.Memory.Interruption

namespace ByteStream

namespace Stream

variable {σ κ : Type} {B : Backend σ κ}

/-! ## Readers to the end -/

/-- A read of a reader to the end: the signals that come before it, and the room that it is
offered. -/
structure Round where
  arriving : List Signal := []
  room : Nat
  room_pos : 0 < room

/-- Reads until nothing comes or an error does that is no interruption; `none` when the rounds were
not enough for that. -/
def readRounds (B : Backend σ κ) :
    List Round → Stream σ κ → World σ → Outcome σ κ (Option (Except IoError Bytes))
  | [], s, w => ⟨none, s, w⟩
  | round :: rounds, s, w =>
    let r := s.ioRead B round.room (w.hear round.arriving)
    match r.result with
    | .error e =>
      if e.kind = .interrupted then readRounds B rounds r.stream r.world
      else ⟨some (.error e), r.stream, r.world⟩
    | .ok [] => ⟨some (.ok []), r.stream, r.world⟩
    | .ok (b :: bytes) =>
      let later := readRounds B rounds r.stream r.world
      ⟨later.result.map (Except.map (b :: bytes ++ ·)), later.stream, later.world⟩

/-- The rooms that a space offers are those of some rounds, in which no signals come. -/
theorem ioReadTimes_eq_readRounds (B : Backend σ κ) (limit : Nat) {space : ReadSpace}
    (hspace : leastRoom ≤ space.most) (s : Stream σ κ) (w : World σ) :
    ∃ rounds : List Round, rounds.length = limit ∧ (∀ round ∈ rounds, round.arriving = []) ∧
      ioReadTimes B limit space s w = readRounds B rounds s w := by
  -- How much room is offered next depends on what came, so the space is not fixed.
  induction limit generalizing space s w with
  | zero => exact ⟨[], rfl, by simp, rfl⟩
  | succ limit ih =>
    have hroom : 0 < space.grown.room :=
      Nat.lt_of_lt_of_le (by decide) (ReadSpace.leastRoom_le_room_grown hspace)
    have hgrown : leastRoom ≤ space.grown.most := by
      unfold ReadSpace.grown
      split
      · exact hspace
      · exact hspace
    cases hread : (s.ioRead B space.grown.room w).result with
    | error e =>
      obtain ⟨rounds, hlength, hquiet, hrest⟩ := ih hgrown
        (s.ioRead B space.grown.room w).stream (s.ioRead B space.grown.room w).world
      refine ⟨⟨[], space.grown.room, hroom⟩ :: rounds, by simp [hlength], by simpa using hquiet, ?_⟩
      rw [ioReadTimes, readRounds]
      simp only [World.hear, List.foldl_nil, hread, hrest]
    | ok bytes =>
      have htaken : leastRoom ≤ (space.grown.take bytes.length).most := by
        unfold ReadSpace.take
        split
        · exact hgrown
        · dsimp only
          split <;> omega
      obtain ⟨rounds, hlength, hquiet, hrest⟩ := ih htaken
        (s.ioRead B space.grown.room w).stream (s.ioRead B space.grown.room w).world
      refine ⟨⟨[], space.grown.room, hroom⟩ :: rounds, by simp [hlength], by simpa using hquiet, ?_⟩
      rw [ioReadTimes, readRounds]
      cases bytes with
      | nil => simp only [World.hear, List.foldl_nil, hread]
      | cons b bytes =>
        rw [List.length_cons] at hrest
        simp only [World.hear, List.foldl_nil, hread, hrest]

/-- All reads of these rounds give bytes but the last, which is broken off, in the world `v`. -/
inductive BrokenOff (B : Backend σ κ) : List Round → Stream σ κ → World σ → World σ → Prop
  | here {round : Round} {s : Stream σ κ} {w : World σ} {e : IoError} :
      (s.ioRead B round.room (w.hear round.arriving)).result = .error e →
      e.kind = .interrupted →
      BrokenOff B [round] s w (s.ioRead B round.room (w.hear round.arriving)).world
  | later {round : Round} {rounds : List Round} {s : Stream σ κ} {w v : World σ} {bytes : Bytes} :
      (s.ioRead B round.room (w.hear round.arriving)).result = .ok bytes → bytes ≠ [] →
      BrokenOff B rounds (s.ioRead B round.room (w.hear round.arriving)).stream
        (s.ioRead B round.room (w.hear round.arriving)).world v →
      BrokenOff B (round :: rounds) s w v

/-- A reader to the end of this stream stops, unless one of its reads is broken off. Then the token
of the stream has been cancelled, and the reader does not stop, however often it reads. -/
structure EndsUnlessBrokenOff (B : Backend σ κ) (s : Stream σ κ) : Prop where
  ends : ∀ w rounds, s.readsLeft B w < rounds.length →
    (∀ early v, early <+: rounds → ¬ BrokenOff B early s w v) →
    (readRounds B rounds s w).result.isSome = true
  endless : ∀ w early v more, BrokenOff B early s w v →
    (readRounds B (early ++ more) s w).result = none
  cancelled : ∀ w early v, BrokenOff B early s w v →
    ∃ token, s.config.cancel = some token ∧ v.signals.isCancelled token = true

/-! ## One read -/

section Views

variable {s : Stream σ κ} {c : κ} {answer : Except BackendError Bytes}

theorem ioRead_of_conn (hconn : s.conn = some c) {n : Nat} (hn : 0 < n) (w : World σ) :
    s.ioRead B n w =
      ⟨ioReadView (readView (B.read c n w).answer), { s with conn := some (B.read c n w).conn },
        (B.read c n w).world⟩ := by
  unfold Stream.ioRead Stream.read
  rw [if_neg (Nat.pos_iff_ne_zero.1 hn), call_of_conn hconn]

/-- The bytes that a reader gets are those that the backend gave. -/
theorem answer_of_ioReadView_ok {bytes : Bytes} (h : ioReadView (readView answer) = .ok bytes)
    (hbytes : bytes ≠ []) : answer = .ok bytes := by
  rcases answer with e | _ | ⟨b, rest⟩
  · cases e with
    | interrupted => exact absurd h (by simp [readView, ioReadView])
    | _ => exact absurd (Except.ok.inj h).symm hbytes
  · exact absurd (Except.ok.inj h).symm hbytes
  · exact congrArg Except.ok (Except.ok.inj h)

/-- The only error of a read on a connection is that it was broken off. -/
theorem answer_of_ioReadView_error {e : IoError} (h : ioReadView (readView answer) = .error e) :
    answer = .error .interrupted := by
  rcases answer with cause | _ | ⟨b, rest⟩
  · cases cause with
    | interrupted => rfl
    | _ => exact absurd h (by simp [readView, ioReadView])
  · exact absurd h (by simp [readView, ioReadView])
  · exact absurd h (by simp [readView, ioReadView])

end Views

/-! ## What is asked of a backend -/

/-- Connections with the property `K` give bytes in fewer and fewer reads. One that was broken off
by its interrupt is `Stuck`: while the token is cancelled, it does nothing but be broken off. -/
structure ReadsRunOut (B : Backend σ κ) (K : Interrupt → κ → Prop) (Stuck : κ → Prop) : Prop where
  upholds : B.Upholds K
  hear : ∀ (c : κ) (w : World σ) signals, B.readsLeft c (w.hear signals) = B.readsLeft c w
  gives : ∀ {i c n w bytes}, K i c → (B.read c n w).answer = .ok bytes → bytes ≠ [] → 0 < n →
    B.readsLeft (B.read c n w).conn (B.read c n w).world < B.readsLeft c w
  breaks : ∀ {i c n w}, K i c → (B.read c n w).answer = .error .interrupted → 0 < n →
    i.fires (B.read c n w).world.signals = true ∧ Stuck (B.read c n w).conn
  stuck : ∀ {i c n w}, K i c → Stuck c → i.Fired w.signals → 0 < n →
    B.read c n w = .fail .interrupted c w

section ReadsRunOut

variable {K : Interrupt → κ → Prop} {Stuck : κ → Prop} {s : Stream σ κ} {w : World σ}

/-- The stream is stuck: its token has been cancelled, and that broke a read off. -/
def StuckCancelled (K : Interrupt → κ → Prop) (Stuck : κ → Prop) (s : Stream σ κ) (w : World σ) :
    Prop :=
  ∃ c token, s.conn = some c ∧ s.config.cancel = some token ∧
    w.signals.isCancelled token = true ∧ K (.ofToken token) c ∧ Stuck c

/-- A broken stream is broken off again and again. -/
theorem StuckCancelled.readRounds (hB : ReadsRunOut B K Stuck) (h : StuckCancelled K Stuck s w)
    (rounds : List Round) :
    (Stream.readRounds B rounds s w).result = none := by
  induction rounds generalizing w with
  | nil => rfl
  | cons round rounds ih =>
    obtain ⟨c, token, hconn, htoken, hcancelled, hK, hstuck⟩ := h
    have hstill := Signals.isCancelled_foldl hcancelled round.arriving
    have hread : s.ioRead B round.room (w.hear round.arriving) =
        ⟨.error (StreamError.interrupted .read).toIo, s, w.hear round.arriving⟩ := by
      rw [ioRead_of_conn hconn round.room_pos,
        hB.stuck hK hstuck ⟨token, rfl, hstill⟩ round.room_pos]
      dsimp only [Reply.fail]
      rw [← hconn]
      rfl
    rw [Stream.readRounds, hread]
    exact ih ⟨c, token, hconn, htoken, hstill, hK, hstuck⟩

/-- A read that gives bytes leaves fewer of them, and a connection with the property. -/
theorem given_of_ioRead (hB : ReadsRunOut B K Stuck) (h : s.Carries K) {n : Nat} (hn : 0 < n)
    {bytes : Bytes} (hread : (s.ioRead B n w).result = .ok bytes) (hbytes : bytes ≠ []) :
    (s.ioRead B n w).stream.Carries K ∧ (s.ioRead B n w).stream.config = s.config ∧
      (s.ioRead B n w).stream.readsLeft B (s.ioRead B n w).world < s.readsLeft B w := by
  cases hconn : s.conn with
  | none =>
    unfold Stream.ioRead Stream.read at hread
    rw [if_neg (Nat.pos_iff_ne_zero.1 hn), call_of_none hconn] at hread
    exact absurd hread (by simp [ioReadView])
  | some c =>
    rw [ioRead_of_conn hconn hn] at hread ⊢
    have hK := h c hconn
    refine ⟨?_, rfl, ?_⟩
    · intro c' hc'
      obtain rfl := Option.some.inj hc'
      exact hB.upholds.read hK n w
    · unfold Stream.readsLeft
      rw [hconn]
      exact hB.gives hK (answer_of_ioReadView_ok hread hbytes) hbytes hn

/-- A read that is broken off leaves a broken stream. -/
theorem broken_of_ioRead (hB : ReadsRunOut B K Stuck) (h : s.Carries K) {n : Nat} (hn : 0 < n)
    {e : IoError} (hread : (s.ioRead B n w).result = .error e) (hkind : e.kind = .interrupted) :
    StuckCancelled K Stuck (s.ioRead B n w).stream (s.ioRead B n w).world ∧
      (s.ioRead B n w).stream.config = s.config := by
  cases hconn : s.conn with
  | none =>
    unfold Stream.ioRead Stream.read at hread
    rw [if_neg (Nat.pos_iff_ne_zero.1 hn), call_of_none hconn] at hread
    obtain rfl : (StreamError.noConnection .read).toIo = e := Except.error.inj hread
    exact absurd hkind (by decide)
  | some c =>
    rw [ioRead_of_conn hconn hn] at hread ⊢
    have hK := h c hconn
    obtain ⟨hfires, hstuck⟩ := hB.breaks hK (answer_of_ioReadView_error hread) hn
    obtain ⟨⟨token, htoken, hcancelled⟩, -⟩ := Interrupt.fired_of_fires hfires
    have hnext := hB.upholds.read hK n w
    rw [htoken] at hnext
    exact ⟨⟨_, token, rfl, htoken, hcancelled, hnext, hstuck⟩, rfl⟩

/-! ## Many reads -/

/-- Where a read was broken off, the reader is left with a broken stream. -/
theorem BrokenOff.broken (hB : ReadsRunOut B K Stuck) {early : List Round} {v : World σ}
    (hoff : BrokenOff B early s w v) (h : s.Carries K) :
    ∃ t, StuckCancelled K Stuck t v ∧ t.config = s.config ∧
      ∀ more, (Stream.readRounds B more t v).result = none →
        (Stream.readRounds B (early ++ more) s w).result = none := by
  induction hoff with
  | @here round s w e hread hkind =>
    obtain ⟨hbroken, hconfig⟩ := broken_of_ioRead hB h round.room_pos hread hkind
    refine ⟨_, hbroken, hconfig, ?_⟩
    intro more hmore
    rw [List.cons_append, List.nil_append, Stream.readRounds]
    dsimp only
    rw [hread]
    dsimp only
    rw [if_pos hkind]
    exact hmore
  | @later round rounds s w v bytes hread hbytes _ ih =>
    obtain ⟨hcarries, hconfig, -⟩ := given_of_ioRead hB h round.room_pos hread hbytes
    obtain ⟨t, hbroken, hsame, hrest⟩ := ih hcarries
    refine ⟨t, hbroken, hsame.trans hconfig, ?_⟩
    intro more hmore
    -- Bytes that came earlier are put before a result, and there is none.
    have hnone := hrest more hmore
    rw [List.cons_append, Stream.readRounds]
    dsimp only
    rw [hread]
    cases bytes with
    | nil => exact absurd rfl hbytes
    | cons b bytes =>
      dsimp only
      rw [hnone]
      rfl

/-- With more rounds than reads that can give bytes, a reader stops or is broken off. -/
theorem isSome_readRounds (hB : ReadsRunOut B K Stuck) (h : s.Carries K) {rounds : List Round}
    (hrounds : s.readsLeft B w < rounds.length)
    (hoff : ∀ early v, early <+: rounds → ¬ BrokenOff B early s w v) :
    (Stream.readRounds B rounds s w).result.isSome = true := by
  induction rounds generalizing s w with
  | nil => exact absurd hrounds (by simp)
  | cons round rounds ih =>
    have hheard : s.readsLeft B (w.hear round.arriving) = s.readsLeft B w := by
      unfold Stream.readsLeft
      cases s.conn with
      | none => rfl
      | some c => exact hB.hear c w round.arriving
    rw [Stream.readRounds]
    dsimp only
    cases hread : (s.ioRead B round.room (w.hear round.arriving)).result with
    | error e =>
      dsimp only
      rw [if_neg ?_]
      · rfl
      · intro hkind
        exact hoff [round] _ (List.cons_prefix_cons.2 ⟨rfl, List.nil_prefix⟩) (.here hread hkind)
    | ok bytes =>
      cases bytes with
      | nil => rfl
      | cons b bytes =>
        -- One round is used up, and at least one read fewer can give bytes.
        have hbytes : b :: bytes ≠ [] := by simp
        obtain ⟨hcarries, -, hless⟩ := given_of_ioRead hB h round.room_pos hread hbytes
        have hfewer : (s.ioRead B round.room (w.hear round.arriving)).stream.readsLeft B
            (s.ioRead B round.room (w.hear round.arriving)).world < rounds.length := by
          rw [List.length_cons] at hrounds
          omega
        have hlater := ih hcarries hfewer (fun early v hprefix hbroken =>
          hoff (round :: early) v (List.cons_prefix_cons.2 ⟨rfl, hprefix⟩)
            (.later hread hbytes hbroken))
        dsimp only
        rw [Option.isSome_map]
        exact hlater

theorem endsUnlessBrokenOff (hB : ReadsRunOut B K Stuck) (h : s.Carries K) :
    EndsUnlessBrokenOff B s where
  ends _ _ hrounds hoff := isSome_readRounds hB h hrounds hoff
  endless := by
    intro w early v more hoff
    obtain ⟨t, hbroken, -, hrest⟩ := hoff.broken hB h
    exact hrest more (hbroken.readRounds hB more)
  cancelled := by
    intro w early v hoff
    obtain ⟨t, ⟨_, token, -, htoken, hcancelled, -, -⟩, hconfig, -⟩ := hoff.broken hB h
    exact ⟨token, hconfig ▸ htoken, hcancelled⟩

end ReadsRunOut

end Stream

/-! ## The two backends -/

namespace Memory

/-- The interrupt breaks a read off at any place. -/
theorem readsRunOut : Stream.ReadsRunOut backend (fun i c => c.interrupt = i) fun _ => True where
  upholds := upholds_interrupt
  hear _ _ _ := rfl
  gives := by
    intro i c n w bytes _ hanswer hbytes _
    change (read c n w).answer = .ok bytes at hanswer
    show (read c n w).world.state.settings.content.length - (read c n w).conn.pos < _
    unfold read at hanswer ⊢
    split at hanswer
    · exact absurd hanswer (by simp [Reply.fail])
    · split at hanswer
      · split at hanswer
        · exact absurd hanswer (by simp [Reply.fail])
        · exact absurd hanswer (by simp [Reply.fail])
      · rename_i hfires hblocking
        rw [if_neg hfires, if_neg hblocking]
        obtain rfl : c.available w.state.settings.content n = bytes := Except.ok.inj hanswer
        have hpos := List.length_pos_iff.2 hbytes
        have hlength : (c.available w.state.settings.content n).length ≤
            w.state.settings.content.length - c.pos := by
          unfold Connection.available
          rw [List.length_take, List.length_drop]
          omega
        show w.state.settings.content.length -
            (c.pos + (c.available w.state.settings.content n).length) <
          w.state.settings.content.length - c.pos
        omega
  breaks := by
    rintro _ c n w rfl hanswer _
    refine ⟨?_, trivial⟩
    change (read c n w).answer = .error .interrupted at hanswer
    show c.interrupt.fires (read c n w).world.signals = true
    unfold read at hanswer ⊢
    split
    · assumption
    · rename_i hfires
      rw [if_neg hfires] at hanswer
      split
      · rename_i hblocking
        rw [if_pos hblocking] at hanswer
        split
        · rename_i e signals hrace
          obtain ⟨now, hbroken, hthen⟩ | hcame := c.interrupt.race_cases none w.signals
          · rw [hbroken] at hrace
            cases hrace
            exact hthen
          · rw [hcame] at hrace
            cases hrace
        · rename_i hrace
          rw [hrace] at hanswer
          exact absurd hanswer (by simp [Reply.fail, BackendError.lost])
      · rename_i hblocking
        rw [if_neg hblocking] at hanswer
        exact absurd hanswer (by simp [Reply.done])
  stuck := by
    rintro _ c n w rfl _ hfired _
    exact read_of_fired hfired n

end Memory

namespace Http

/-- The interrupt breaks a read off where nothing is pending and the body has not ended. -/
theorem readsRunOut {τ : Type} (t : Transport) :
    Stream.ReadsRunOut (backendOver t : Backend (Server τ) Connection) Connection.Proper
      fun c => c.pending = [] ∧ c.body.isSome = true where
  upholds := Connection.upholds_proper t
  hear _ _ _ := rfl
  gives := by
    intro i c n w bytes h hanswer hbytes hn
    change (c.read n w).answer = .ok bytes at hanswer
    show (c.read n w).conn.bytesLeft < c.bytesLeft
    rw [Connection.read_of_pos hn] at hanswer ⊢
    exact Connection.bytesLeft_readOn h hanswer hbytes
  breaks := by
    intro i c n w h hanswer hn
    change (c.read n w).answer = .error .interrupted at hanswer
    show i.fires (c.read n w).world.signals = true ∧ (c.read n w).conn.pending = [] ∧
      (c.read n w).conn.body.isSome = true
    rw [Connection.read_of_pos hn] at hanswer ⊢
    rw [← h.interrupt]
    exact Connection.broken_readOn hn hanswer
  stuck := by
    rintro i c n w h ⟨hpending, hbody⟩ hfired hn
    show c.read n w = _
    have htaken := Connection.takePending_of_nil hpending n
    have hsome : c.body ≠ none := by
      rw [← Option.isSome_iff_ne_none]
      exact hbody
    rw [← h.interrupt] at hfired
    rw [Connection.read_of_pos hn, Connection.readOn_of_fired hfired, htaken,
      if_neg (by simp), if_neg hsome]

end Http

namespace Stream

/-- **A reader to the end stops, unless a read of it is broken off.** On either backend, for HTTP
over any transport, and after any history of the stream, a reader that offers room for enough reads
stops, whatever signals come before them, if none of the reads is broken off. If one is, the token
of the stream has been cancelled, and the reader goes on for ever. This is so of the generic reader
too, which is a reader without signals in between. -/
theorem readToEnd_ends_unless_broken_off (τ : Type) {config : Config} {address : String}
    {mode : Mode} :
    (∀ {cookies : CookieProvider Memory.Store} {s : Stream Memory.Store Memory.Connection},
      Reached Memory.backend config cookies address mode s →
      EndsUnlessBrokenOff Memory.backend s) ∧
    (∀ (t : Http.Transport) {cookies : CookieProvider (Http.Server τ)}
      {s : Stream (Http.Server τ) Http.Connection},
      Reached (Http.backendOver t) config cookies address mode s →
      EndsUnlessBrokenOff (Http.backendOver t) s) ∧
    ∀ {σ κ : Type} (B : Backend σ κ) (limit : Nat) (s : Stream σ κ) (w : World σ),
      ∃ rounds : List Round, rounds.length = limit ∧ (∀ round ∈ rounds, round.arriving = []) ∧
        ioReadTimes B limit {} s w = readRounds B rounds s w := by
  refine ⟨?_, ?_, ?_⟩
  · intro cookies s h
    exact endsUnlessBrokenOff Memory.readsRunOut (h.carries Memory.upholds_interrupt)
  · intro t cookies s h
    exact endsUnlessBrokenOff (Http.readsRunOut t) (h.carries (Http.Connection.upholds_proper t))
  · intro σ κ B limit s w
    exact ioReadTimes_eq_readRounds B limit (by decide) s w

/-- A world that serves five bytes from memory. -/
def shelf (signals : Signals) : World Memory.Store where
  signals
  state := { settings := { content := [104, 101, 108, 108, 111] } }

/-- A stream with a token over that world. -/
def borrowed : Stream Memory.Store Memory.Connection where
  config := { cancel := some (.root "t") }
  cookies := .none
  url := "mock://x"
  mode := .read
  conn := some ⟨1, .ofToken (.root "t"), 0, none⟩
  hint := DemuxerHint.forOpened "mock://x"

theorem reached_borrowed : Reached Memory.backend { cancel := some (.root "t") } .none "mock://x"
    .read borrowed :=
  .opened (w := shelf {}) rfl

/-- Nobody cancels the token, and the reader stops. -/
theorem readToEnd_ends_unless_broken_off_borrowed :
    (readRounds Memory.backend (List.replicate 6 ⟨[], 32, by decide⟩) borrowed
      (shelf {})).result.isSome = true := by
  have hends := (readToEnd_ends_unless_broken_off Unit).1 reached_borrowed
  refine hends.ends _ _ (by decide) ?_
  -- The first read gives all five bytes and the second none, so neither is broken off.
  have hfirst : (borrowed.ioRead Memory.backend 32 (shelf {})).result =
      .ok [104, 101, 108, 108, 111] := rfl
  have hsecond : ((borrowed.ioRead Memory.backend 32 (shelf {})).stream.ioRead Memory.backend 32
      (borrowed.ioRead Memory.backend 32 (shelf {})).world).result = .ok [] := rfl
  intro early v hprefix hoff
  cases hoff with
  | here hread _ =>
    obtain ⟨rfl, -⟩ := List.cons_prefix_cons.1 hprefix
    exact absurd (hfirst.symm.trans hread) (by simp)
  | later _ _ hlater =>
    obtain ⟨rfl, hrest⟩ := List.cons_prefix_cons.1 hprefix
    cases hlater with
    | here hread _ =>
      obtain ⟨rfl, -⟩ := List.cons_prefix_cons.1 hrest
      exact absurd (hsecond.symm.trans hread) (by simp)
    | later hread hbytes _ =>
      obtain ⟨rfl, -⟩ := List.cons_prefix_cons.1 hrest
      exact hbytes (Except.ok.inj (hsecond.symm.trans hread)).symm

/-- **A reader to the end spins on a stream that was cancelled.** Five bytes are left, and every
call returns; but the token has been cancelled, and no number of reads brings the reader to its
end. -/
theorem readToEnd_spins :
    Reached Memory.backend { cancel := some (.root "t") } .none "mock://x" .read borrowed ∧
      borrowed.readsLeft Memory.backend (shelf { cancelled := [.root "t"] }) = 5 ∧
      ∀ limit, (ioReadTimes Memory.backend limit {} borrowed
        (shelf { cancelled := [.root "t"] })).result = none := by
  refine ⟨reached_borrowed, rfl, ?_⟩
  intro limit
  obtain ⟨rounds, -, -, hrun⟩ := ioReadTimes_eq_readRounds Memory.backend limit
    (by decide : leastRoom ≤ ({} : ReadSpace).most) borrowed (shelf { cancelled := [.root "t"] })
  have hbroken : StuckCancelled (fun i c => c.interrupt = i) (fun _ => True) borrowed
      (shelf { cancelled := [.root "t"] }) := ⟨_, .root "t", rfl, rfl, by decide, rfl, trivial⟩
  rw [hrun]
  exact hbroken.readRounds Memory.readsRunOut rounds

end Stream

end ByteStream
