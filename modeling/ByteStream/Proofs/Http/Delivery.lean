/-
# ByteStream.Proofs.Http.Delivery -- no byte of the payload is lost on the way to the reader

The payload of a connection is what its reader is still to get: the bytes that are pending and to
come, or the audio among them if metadata is cut out. A read gives the next bytes of the payload,
or else the payload is used up and the read says how the body ended: regularly, by no bytes, or by
the error of a broken transfer. `Delivery` is that rule for a whole sequence of reads.

The loop of a read is one induction on the chunks to come (`delivers_readOn`). What carries it is
that a look at the pending bytes that gives no payload leaves none of them behind
(`pending_takePending`), so the next chunk replaces nothing. The answer `lost`, which stands for a
wait without an end, is not among the answers.
-/

import ByteStream.Proofs.Http.Reading
import ByteStream.Proofs.Icy.Bytewise
import ByteStream.Proofs.Silence

namespace ByteStream.Http

/-! ## What is to be delivered -/

/-- The payload in bytes of the wire: all of them, or the audio among them. -/
def payloadOf (demuxer : Option Icy.Demuxer) (wire : Bytes) : Bytes :=
  match demuxer with
  | none => wire
  | some d => (d.onBytes wire).1

/-- What a read says once the payload is used up. -/
def Ending.answer : Ending → Except BackendError Bytes
  | .broken => .error Connection.brokenTransfer.toBackend
  | .complete | .silent => .ok []

/-- The answers to reads of given sizes, one by one, over a payload with a given ending: each
answer is the next bytes of the payload, at least one and at most as many as asked for; or the
payload is used up, the answer tells the ending, and all later answers are no bytes. -/
inductive Delivery : Ending → Bytes → List Nat → List (Except BackendError Bytes) → Prop
  | none {ending : Ending} {payload : Bytes} : Delivery ending payload [] []
  | piece {ending : Ending} {bytes rest : Bytes} {n : Nat} {sizes : List Nat}
      {answers : List (Except BackendError Bytes)} :
      bytes ≠ [] → bytes.length ≤ n → Delivery ending rest sizes answers →
      Delivery ending (bytes ++ rest) (n :: sizes) (.ok bytes :: answers)
  | ended {ending : Ending} {n : Nat} {sizes : List Nat} :
      Delivery ending [] (n :: sizes) (ending.answer :: List.replicate sizes.length (.ok []))

theorem payloadOf_nil (demuxer : Option Icy.Demuxer) : payloadOf demuxer [] = [] := by
  cases demuxer <;> rfl

namespace Body

theorem ending_of_next?_chunk {b later : Body} {chunk : Bytes}
    (h : b.next? = some (.chunk chunk, later)) : later.ending = b.ending := by
  obtain ⟨chunks, ending⟩ := b
  cases chunks with
  | nil => cases ending <;> simp [next?] at h
  | cons c cs =>
    simp only [next?, Option.some.injEq, Prod.mk.injEq] at h
    rw [← h.2]

/-- A failure comes at the end of a broken body, and a regular end after it. -/
theorem eq_of_next?_failure {b later : Body} (h : b.next? = some (.failure, later)) :
    b = ⟨[], .broken⟩ ∧ later = ⟨[], .complete⟩ := by
  obtain ⟨chunks, ending⟩ := b
  cases chunks with
  | nil => cases ending <;> simp_all [next?]
  | cons c cs => simp [next?] at h

/-- The end comes at the end of a complete body. -/
theorem eq_of_next?_finish {b later : Body} (h : b.next? = some (.finish, later)) :
    b = ⟨[], .complete⟩ := by
  obtain ⟨chunks, ending⟩ := b
  cases chunks with
  | nil => cases ending <;> simp_all [next?]
  | cons c cs => simp [next?] at h

/-- A body that does not fall silent always has something to come. -/
theorem exists_next? {b : Body} (h : b.ending ≠ .silent) : ∃ next, b.next? = some next := by
  obtain ⟨chunks, ending⟩ := b
  cases chunks with
  | nil => cases ending <;> simp_all [next?]
  | cons c cs => exact ⟨_, rfl⟩

end Body

namespace Connection

variable {τ : Type}

/-- What is pending and to come. -/
def wire (c : Connection) : Bytes :=
  c.pending ++ match c.body with
    | none => []
    | some body => body.bytes

/-- What the reader is still to get. -/
def payload (c : Connection) : Bytes := payloadOf c.demuxer c.wire

/-- How the body will end; one that has ended did so regularly. -/
def ending (c : Connection) : Ending :=
  match c.body with
  | none => .complete
  | some body => body.ending

/-- What stays as it is for as long as a connection lasts. -/
structure Terms where
  url : Url
  base : HeaderMap
  interrupt : Interrupt
  /-- Metadata is cut out. -/
  cutsOut : Bool
  icyHeaders : Option String
  size : Option Nat
  seekable : Bool
  mimeType : Option String

/-- The lasting part of a connection. -/
def terms (c : Connection) : Terms :=
  ⟨c.url, c.base, c.interrupt, c.demuxer.isSome, c.icyHeaders, c.size, c.seekable, c.mimeType⟩

theorem wire_of_body {c : Connection} {body : Body} (h : c.body = some body) :
    c.wire = c.pending ++ body.bytes := by
  rw [wire, h]

theorem ending_of_body {c : Connection} {body : Body} (h : c.body = some body) :
    c.ending = body.ending := by
  rw [ending, h]

/-- The connection can be read to an end: its demuxer is in a state that occurs, and its body does
not fall silent. -/
structure Readable (c : Connection) : Prop where
  demuxer : ∀ d, c.demuxer = some d → d.Sound
  ends : c.ending ≠ .silent

/-- There is always something to wait for. -/
theorem Readable.exists_next? {c : Connection} (h : c.Readable) {body : Body}
    (hbody : c.body = some body) : ∃ next, body.next? = some next := by
  have hends := h.ends
  rw [ending_of_body hbody] at hends
  exact Body.exists_next? hends

/-! ## Taking from the pending bytes -/

theorem ending_takePending (c : Connection) (n : Nat) : (c.takePending n).2.ending = c.ending := by
  simp only [ending, body_takePending]

theorem sound_takePending {c : Connection} (h : ∀ d, c.demuxer = some d → d.Sound) (n : Nat) :
    ∀ d, (c.takePending n).2.demuxer = some d → d.Sound := by
  intro d hd
  unfold Connection.takePending at hd
  split at hd
  · exact h d hd
  · rename_i before hbefore
    rw [← Option.some.inj hd]
    exact (h before hbefore).demux c.pending n

theorem Readable.takePending {c : Connection} (h : c.Readable) (n : Nat) :
    (c.takePending n).2.Readable :=
  ⟨sound_takePending h.demuxer n, by rw [ending_takePending]; exact h.ends⟩

/-- What is taken is the next part of the payload, whatever comes after the pending bytes. -/
theorem payloadOf_takePending {c : Connection} (h : ∀ d, c.demuxer = some d → d.Sound) (n : Nat)
    (later : Bytes) :
    payloadOf c.demuxer (c.pending ++ later) = (c.takePending n).1 ++
      payloadOf (c.takePending n).2.demuxer ((c.takePending n).2.pending ++ later) := by
  cases hd : c.demuxer with
  | none =>
    simp only [payloadOf, Connection.takePending, hd]
    rw [← List.append_assoc, List.take_append_drop]
  | some d =>
    obtain ⟨used, hused, hrun⟩ := Icy.Demuxer.exists_used_demux (h d hd) c.pending n
    simp only [payloadOf, Connection.takePending, hd]
    conv => lhs; rw [hused]
    rw [List.append_assoc, Icy.Demuxer.onBytes_append, hrun]

theorem payload_takePending {c : Connection} (h : ∀ d, c.demuxer = some d → d.Sound) (n : Nat) :
    c.payload = (c.takePending n).1 ++ (c.takePending n).2.payload := by
  unfold payload wire
  rw [body_takePending]
  exact payloadOf_takePending h n _

/-- If there was room and nothing came, nothing is pending any more. -/
theorem pending_takePending {c : Connection} {n : Nat} (hn : 0 < n)
    (h : (c.takePending n).1 = []) : (c.takePending n).2.pending = [] := by
  cases hd : c.demuxer with
  | none =>
    simp only [Connection.takePending, hd] at h ⊢
    rcases List.take_eq_nil_iff.1 h with hzero | hnone
    · exact absurd hzero (by omega)
    · rw [hnone, List.drop_nil]
  | some d =>
    simp only [Connection.takePending, hd] at h ⊢
    rcases Icy.Demuxer.demux_stops d c.pending n with hrest | ⟨hfull, -⟩
    · exact hrest
    · rw [h, List.length_nil] at hfull
      exact absurd hfull (by omega)

/-- Nothing is left for the reader of a connection with nothing pending or to come. -/
theorem payload_eq_nil {c : Connection} (hpending : c.pending = [])
    (hbody : ∀ body, c.body = some body → body.bytes = []) : c.payload = [] := by
  have hwire : c.wire = [] := by
    unfold wire
    rw [hpending, List.nil_append]
    split
    · rfl
    · rename_i body hsome
      exact hbody body hsome
  rw [payload, hwire, payloadOf_nil]

/-- If there was room and nothing came, and nothing is to come, the payload was used up. -/
theorem payload_eq_nil_of_taken {c : Connection} (h : ∀ d, c.demuxer = some d → d.Sound)
    {n : Nat} (hn : 0 < n)
    (hnone : (c.takePending n).1 = [])
    (hbody : ∀ body, (c.takePending n).2.body = some body → body.bytes = []) : c.payload = [] := by
  rw [payload_takePending h n, hnone, List.nil_append]
  exact payload_eq_nil (pending_takePending hn hnone) hbody

/-- If there was room and nothing came, the next chunk stands where the used-up bytes stood. -/
theorem payload_of_chunk {c : Connection} (h : ∀ d, c.demuxer = some d → d.Sound) {n : Nat}
    (hn : 0 < n) (hnone : (c.takePending n).1 = []) {body later : Body} {bytes : Bytes}
    (hbody : (c.takePending n).2.body = some body)
    (hnext : body.next? = some (.chunk bytes, later)) :
    c.payload = payload { (c.takePending n).2 with pending := bytes, body := some later } := by
  have hpending := pending_takePending hn hnone
  have hwire : (c.takePending n).2.wire = bytes ++ later.bytes := by
    rw [wire_of_body hbody, hpending, List.nil_append, Body.bytes_of_next?_chunk hnext]
  rw [payload_takePending h n, hnone, List.nil_append]
  exact congrArg (payloadOf (c.takePending n).2.demuxer) hwire

/-- Taking gives payload, so it settles nothing else. -/
@[simp] theorem terms_takePending (c : Connection) (n : Nat) :
    (c.takePending n).2.terms = c.terms := by
  cases hd : c.demuxer with
  | none => simp only [terms, Connection.takePending, hd]
  | some d => simp only [terms, Connection.takePending, hd, Option.isSome_some]

theorem interrupt_takePending (c : Connection) (n : Nat) :
    (c.takePending n).2.interrupt = c.interrupt := congrArg Terms.interrupt (terms_takePending c n)

@[simp] theorem pos_takePending (c : Connection) (n : Nat) : (c.takePending n).2.pos = c.pos := by
  cases hd : c.demuxer with
  | none => simp only [Connection.takePending, hd]
  | some d => simp only [Connection.takePending, hd]

/-! ## One read -/

/-- What a read of at most `n` bytes comes to: it gives the next bytes of the payload and leaves
the rest; or the payload was used up, and the answer tells the ending. -/
inductive Delivers (c : Connection) (n : Nat) (r : Reply (Server τ) Connection Bytes) : Prop
  | piece (bytes : Bytes) (answer : r.answer = .ok bytes) (nonempty : bytes ≠ [])
      (fits : bytes.length ≤ n) (payload : c.payload = bytes ++ r.conn.payload)
      (ending : r.conn.ending = c.ending) (pos : r.conn.pos = c.pos + bytes.length)
  | ended (answer : r.answer = c.ending.answer) (payload : c.payload = [])
      (nothing : r.conn.payload = []) (ending : r.conn.ending = .complete)
      (pos : r.conn.pos = c.pos)

/-- What a read comes to depends on the payload, its ending and the position. -/
theorem Delivers.congr {c c' : Connection} {n : Nat} {r : Reply (Server τ) Connection Bytes}
    (hpayload : c.payload = c'.payload) (hending : c.ending = c'.ending) (hpos : c.pos = c'.pos)
    (h : Delivers c' n r) : Delivers c n r := by
  cases h with
  | piece bytes answer nonempty fits payload ending pos =>
    exact .piece bytes answer nonempty fits (hpayload.trans payload) (ending.trans hending.symm)
      (by rw [pos, hpos])
  | ended answer payload nothing ending pos =>
    exact .ended (by rw [answer, hending]) (hpayload.trans payload) nothing ending
      (pos.trans hpos.symm)

/-- If there was room and nothing came, and nothing is to come, it is the ending that is told; the
body that is left is over. -/
theorem Delivers.of_nothing {c : Connection} (h : c.Readable) {n : Nat} (hn : 0 < n)
    (hnone : (c.takePending n).1 = [])
    (hover : ∀ body, (c.takePending n).2.body = some body → body.bytes = []) {body : Option Body}
    (hbody : ∀ b, body = some b → b = ⟨[], .complete⟩) {r : Reply (Server τ) Connection Bytes}
    (hconn : r.conn = { (c.takePending n).2 with body }) (hanswer : r.answer = c.ending.answer) :
    Delivers c n r := by
  have hpending : r.conn.pending = [] := by
    rw [hconn]
    exact pending_takePending hn hnone
  have hleft : r.conn.body = body := by rw [hconn]
  have hbytes : ∀ b, r.conn.body = some b → b.bytes = [] := by
    intro b hb
    rw [hbody b (hleft ▸ hb)]
    rfl
  have hending : r.conn.ending = .complete := by
    unfold ending
    rw [hleft]
    cases body with
    | none => rfl
    | some b => rw [hbody b rfl]
  have hpos : r.conn.pos = c.pos := by
    rw [hconn]
    exact pos_takePending c n
  exact .ended hanswer (payload_eq_nil_of_taken h.demuxer hn hnone hover)
    (payload_eq_nil hpending hbytes)
    hending hpos

theorem terms_readOn (c : Connection) (n : Nat) (w : World (Server τ)) :
    (c.readOn n w).conn.terms = c.terms := by
  induction c, w using readOn_induct (n := n) with
  | chunk c w taken _ _ _ _ w' _ _ _ hread ih =>
    rw [hread]
    exact ih.trans (terms_takePending c n)
  | _ =>
    rename_i hread
    rw [hread]
    exact terms_takePending _ n

theorem interrupt_readOn (c : Connection) (n : Nat) (w : World (Server τ)) :
    (c.readOn n w).conn.interrupt = c.interrupt := congrArg Terms.interrupt (terms_readOn c n w)

/-- A read changes nothing of the world but what has been signalled. -/
theorem world_readOn (c : Connection) (n : Nat) (w : World (Server τ)) :
    (c.readOn n w).world = { w with signals := (c.readOn n w).world.signals } := by
  induction c, w using readOn_induct (n := n) with
  | chunk c w _ _ _ _ _ _ _ _ _ hread ih =>
    rw [hread]
    exact ih
  | _ =>
    rename_i hread
    rw [hread]
    rfl

/-- A read leaves a connection that can be read to an end. -/
theorem Readable.readOn {c : Connection} (h : c.Readable) (n : Nat) (w : World (Server τ)) :
    (c.readOn n w).conn.Readable := by
  induction c, w using readOn_induct (n := n) with
  | failure c w _ _ _ _ _ _ later hnext hread =>
    rw [hread]
    obtain ⟨-, rfl⟩ := Body.eq_of_next?_failure hnext
    refine ⟨(h.takePending n).demuxer, ?_⟩
    show Ending.complete ≠ .silent
    decide
  | finish c w _ _ _ _ _ _ _ _ hread =>
    rw [hread]
    refine ⟨(h.takePending n).demuxer, ?_⟩
    show Ending.complete ≠ .silent
    decide
  | chunk c w taken _ body hbody _ _ bytes later hnext hread ih =>
    rw [hread]
    refine ih ⟨(h.takePending n).demuxer, ?_⟩
    show later.ending ≠ .silent
    rw [Body.ending_of_next?_chunk hnext, ← ending_of_body hbody]
    exact (h.takePending n).ends
  | _ =>
    rename_i hread
    rw [hread]
    exact ⟨(h.takePending n).demuxer, (h.takePending n).ends⟩

/-- **One read delivers.** The induction goes along the chunks to come: a chunk that gives no
payload has been used up, and the next one is read as if it had come first. -/
theorem delivers_readOn {c : Connection} (h : c.Readable) {n : Nat} (hn : 0 < n)
    {w : World (Server τ)} (hsilent : c.interrupt.Silent w.signals) :
    Delivers c n (c.readOn n w) ∧ c.interrupt.Silent (c.readOn n w).world.signals := by
  induction c, w using readOn_induct (n := n) with
  | pending c w taken hsome hread =>
    rw [hread]
    refine ⟨.piece taken.1 rfl hsome (length_takePending_le c n)
      (payload_takePending h.demuxer n) (ending_takePending c n) ?_, hsilent⟩
    exact congrArg (· + taken.1.length) (pos_takePending c n)
  | ended c w taken hnone hbody hread =>
    rw [hread]
    have hover : ∀ body, taken.2.body = some body → body.bytes = [] := by simp [hbody]
    have hanswer : .ok [] = c.ending.answer := by
      rw [← ending_takePending c n, ending, hbody]
      rfl
    have hconn : taken.2 = { taken.2 with body := none } := by rw [← hbody]
    exact ⟨.of_nothing h hn hnone hover (by simp) hconn hanswer, hsilent⟩
  | broken c w taken hnone body hbody waited w' e hwait _ =>
    -- The wait is for something that comes, and nobody breaks it off.
    obtain ⟨next, hnext⟩ := (h.takePending n).exists_next? hbody
    simp only [waited, hnext, hsilent.wait] at hwait
    exact absurd hwait (by simp)
  | lost c w taken hnone body hbody waited w' hnext _ =>
    -- A body that does not fall silent always has something to come.
    obtain ⟨next, hsome⟩ := (h.takePending n).exists_next? hbody
    rw [hnext] at hsome
    exact absurd hsome (by simp)
  | failure c w taken hnone body hbody waited w' later hnext hread =>
    rw [hread]
    obtain ⟨rfl, rfl⟩ := Body.eq_of_next?_failure hnext
    have hover : ∀ body, taken.2.body = some body → body.bytes = [] := by simp [hbody, Body.bytes]
    have hanswer : .error brokenTransfer.toBackend = c.ending.answer := by
      rw [← ending_takePending c n, ending_of_body hbody]
      rfl
    exact ⟨.of_nothing h hn hnone hover (by simp) rfl hanswer, hsilent.wait_snd hnext⟩
  | finish c w taken hnone body hbody waited w' later hnext hread =>
    rw [hread]
    obtain rfl := Body.eq_of_next?_finish hnext
    have hover : ∀ body, taken.2.body = some body → body.bytes = [] := by simp [hbody, Body.bytes]
    have hanswer : .ok [] = c.ending.answer := by
      rw [← ending_takePending c n, ending_of_body hbody]
      rfl
    exact ⟨.of_nothing h hn hnone hover (by simp) rfl hanswer, hsilent.wait_snd hnext⟩
  | chunk c w taken hnone body hbody waited w' bytes later hnext hread ih =>
    rw [hread]
    have hinterrupt : taken.2.interrupt = c.interrupt := interrupt_takePending c n
    have hending : later.ending = taken.2.ending := by
      rw [Body.ending_of_next?_chunk hnext, ending_of_body hbody]
    have hreadable : Readable { taken.2 with pending := bytes, body := some later } := by
      refine ⟨(h.takePending n).demuxer, ?_⟩
      show later.ending ≠ .silent
      rw [hending]
      exact (h.takePending n).ends
    have hlater : taken.2.interrupt.Silent w'.signals := by
      rw [hinterrupt]
      exact hsilent.wait_snd hnext
    have hpayload := payload_of_chunk h.demuxer hn hnone hbody hnext
    obtain ⟨hread, hquiet⟩ := ih hreadable hlater
    refine ⟨hread.congr hpayload ?_ (pos_takePending c n).symm, hinterrupt ▸ hquiet⟩
    exact (ending_takePending c n).symm.trans hending.symm

/-! ## A sequence of reads -/

/-- The answers to reads of the given sizes, one after the other. -/
def reads (c : Connection) (w : World (Server τ)) : List Nat → List (Except BackendError Bytes)
  | [] => []
  | n :: later =>
    let r := c.read n w
    r.answer :: reads r.conn r.world later

/-- Once the payload is used up and its ending told, reads give no bytes. -/
theorem reads_of_ended {c : Connection} (h : c.Readable) (hpayload : c.payload = [])
    (hending : c.ending = .complete) {sizes : List Nat} (hsizes : ∀ n ∈ sizes, 0 < n)
    {w : World (Server τ)} (hsilent : c.interrupt.Silent w.signals) :
    c.reads w sizes = List.replicate sizes.length (.ok []) := by
  induction sizes generalizing c w with
  | nil => rfl
  | cons n later ih =>
    have hn : 0 < n := hsizes n (by simp)
    have hlater : ∀ m ∈ later, 0 < m := fun m hm => hsizes m (by simp [hm])
    obtain ⟨hread, hquiet⟩ := delivers_readOn h hn hsilent
    have hinterrupt := interrupt_readOn c n w
    rw [reads, read_of_pos hn, List.length_cons, List.replicate_succ]
    cases hread with
    | piece bytes _ nonempty _ rest _ _ =>
      rw [hpayload] at rest
      exact absurd (List.append_eq_nil_iff.1 rest.symm).1 nonempty
    | ended answer _ nothing ending _ =>
      have hanswer : (c.readOn n w).answer = .ok [] := by
        rw [answer, hending]
        rfl
      rw [hanswer, ih (h.readOn n w) nothing ending hlater (by rwa [hinterrupt])]

/-- A sequence of reads delivers the payload of a connection. -/
theorem delivery_reads {c : Connection} (h : c.Readable) {sizes : List Nat}
    (hsizes : ∀ n ∈ sizes, 0 < n) {w : World (Server τ)}
    (hsilent : c.interrupt.Silent w.signals) :
    Delivery c.ending c.payload sizes (c.reads w sizes) := by
  induction sizes generalizing c w with
  | nil => exact .none
  | cons n later ih =>
    have hn : 0 < n := hsizes n (by simp)
    have hlater : ∀ m ∈ later, 0 < m := fun m hm => hsizes m (by simp [hm])
    obtain ⟨hread, hquiet⟩ := delivers_readOn h hn hsilent
    have hinterrupt := interrupt_readOn c n w
    have hnext : (c.readOn n w).conn.interrupt.Silent (c.readOn n w).world.signals := by
      rwa [hinterrupt]
    rw [reads, read_of_pos hn]
    cases hread with
    | piece bytes answer nonempty fits rest ending _ =>
      rw [answer, rest, ← ending]
      exact .piece nonempty fits (ih (h.readOn n w) hlater hnext)
    | ended answer payload nothing ending _ =>
      rw [answer, payload, reads_of_ended (h.readOn n w) nothing ending hlater hnext]
      exact .ended

/-- A connection starts with a demuxer as it is made for an interval. -/
theorem sound_ofResponse (url : Url) (base : HeaderMap) (interrupt : Interrupt) (wantsIcy : Bool)
    (r : Response) :
    ∀ d, (ofResponse url base interrupt wantsIcy r).demuxer = some d → d.Sound := by
  intro d hd
  have hdemuxer : demuxer? wantsIcy r.headers = some d := hd
  unfold demuxer? at hdemuxer
  split at hdemuxer
  · obtain ⟨m, -, hm⟩ := Option.bind_eq_some_iff.1 hdemuxer
    exact Icy.Demuxer.sound_ofInterval hm
  · exact absurd hdemuxer (by simp)

theorem readable_ofResponse (url : Url) (base : HeaderMap) (interrupt : Interrupt)
    (wantsIcy : Bool) {r : Response} (hends : r.body.ending ≠ .silent) :
    (ofResponse url base interrupt wantsIcy r).Readable :=
  ⟨sound_ofResponse url base interrupt wantsIcy r, hends⟩

/-- **The reader of an answer gets its payload, whole and in order.** The answer's body comes in
any chunks and ends regularly or by a broken transfer; metadata is cut out of it or not; nobody
breaks the reads off. Then the reads give the payload piece by piece, tell the ending once it is
used up and not before, and give no bytes after that. -/
theorem payload_delivered (url : Url) (base : HeaderMap) (interrupt : Interrupt) (wantsIcy : Bool)
    {r : Response} (hends : r.body.ending ≠ .silent) {w : World (Server τ)}
    (hsilent : interrupt.Silent w.signals) {sizes : List Nat} (hsizes : ∀ n ∈ sizes, 0 < n) :
    Delivery r.body.ending (payloadOf (demuxer? wantsIcy r.headers) r.body.bytes) sizes
      ((ofResponse url base interrupt wantsIcy r).reads w sizes) :=
  delivery_reads (readable_ofResponse url base interrupt wantsIcy hends) hsizes hsilent

/-- Two bytes of audio, a block that says `h`, and one byte of audio, in chunks that are empty,
that cut the block, and that hold metadata only. The transfer breaks at the end. -/
def choppedRadio : Response where
  status := 200
  headers := .ofFields [("icy-metaint", "2")]
  size := none
  body := ⟨[[97], [], [98, 1, 104], List.replicate 15 0, [99]], .broken⟩

theorem payload_delivered_chopped :
    let url : Url := ⟨.http, "", none, .name "radio", none, "/", none, none⟩
    let w : World (Server (List Reaction)) := { state := .planned [] }
    choppedRadio.body.ending ≠ .silent ∧ Interrupt.never.Silent w.signals ∧
      (∀ n ∈ [1, 4, 4, 4, 4], 0 < n) ∧
      payloadOf (demuxer? true choppedRadio.headers) choppedRadio.body.bytes = [97, 98, 99] ∧
      Delivery .broken [97, 98, 99] [1, 4, 4, 4, 4]
        ((ofResponse url .empty .never true choppedRadio).reads w [1, 4, 4, 4, 4]) := by
  intro url w
  have hends : choppedRadio.body.ending ≠ .silent := by decide
  have hsizes : ∀ n ∈ [1, 4, 4, 4, 4], 0 < n := by decide
  have hpayload :
      payloadOf (demuxer? true choppedRadio.headers) choppedRadio.body.bytes = [97, 98, 99] := by
    decide +kernel
  have hsilent := Interrupt.silent_never w.signals
  refine ⟨hends, hsilent, hsizes, hpayload, ?_⟩
  rw [← hpayload]
  exact payload_delivered url .empty .never true hends hsilent hsizes

end Connection

end ByteStream.Http
