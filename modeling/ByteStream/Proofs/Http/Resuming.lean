/-
# ByteStream.Proofs.Http.Resuming -- what failed calls leave behind

A call that fails may be followed by others. A seek that fails leaves the connection as it was, so
in a world that the connection cannot tell apart from the one it is in, all that follows goes as if
that seek had not been made (`Alike.moveAll`). A read that is broken off may have cut out metadata,
and may have dropped chunks that held nothing else; what its reader is still to get is the same as
before it (`payload_readOn`), and later reads hand it over (`handsOver_reads`).

The bytes that a read gives are cut off from the front of the payload, whatever the read comes to.
That holds for a body that falls silent as well: then only what came before is handed over.
-/

import ByteStream.Proofs.Http.Likeness

namespace ByteStream.Http

variable {τ υ : Type}

/-- If no chunk is next, there is none to come. -/
theorem Body.bytes_of_no_chunk {b : Body}
    (h : ∀ chunk later, b.next? ≠ some (.chunk chunk, later)) :
    b.bytes = [] := by
  obtain ⟨chunks, ending⟩ := b
  cases chunks with
  | nil => rfl
  | cons chunk later => exact absurd rfl (h chunk ⟨later, ending⟩)

namespace Connection

variable {t : Transport} {c : Connection} {i : Interrupt} {n : Nat} {w : World (Server τ)}

/-! ## Seeks that fail -/

/-- A seek turns the connection to another body only when it has one. -/
theorem conn_seek_of_error {pos : Nat} {e : BackendError} (h : (c.seek t pos w).answer = .error e) :
    (c.seek t pos w).conn = c := by
  rw [seek_eq] at h ⊢
  split
  · rfl
  · rename_i hseekable
    rw [if_neg hseekable] at h
    split
    · rename_i hsize
      rw [if_pos hsize] at h
      cases h
    · rename_i hsize
      rw [if_neg hsize] at h
      split
      · rfl
      · rename_i hsent
        rw [hsent] at h
        cases h

/-! ## Reads that fail -/

/-- The bytes that came with an answer. -/
def given : Except BackendError Bytes → Bytes
  | .ok bytes => bytes
  | .error _ => []

/-- If there was room and nothing came, and no chunk is next, the payload was used up. -/
theorem payload_eq_nil_of_last (h : ∀ d, c.demuxer = some d → d.Sound) (hn : 0 < n)
    (hnone : (c.takePending n).1 = []) {body : Body} (hbody : (c.takePending n).2.body = some body)
    (hlast : ∀ chunk later, body.next? ≠ some (.chunk chunk, later)) : c.payload = [] := by
  refine payload_eq_nil_of_taken h hn hnone ?_
  intro b hb
  obtain rfl : body = b := Option.some.inj (hbody.symm.trans hb)
  exact Body.bytes_of_no_chunk hlast

/-- Then what is left of the body makes no difference, if it has no bytes. -/
theorem payload_of_last (h : ∀ d, c.demuxer = some d → d.Sound) (hn : 0 < n)
    (hnone : (c.takePending n).1 = []) {body : Body} (hbody : (c.takePending n).2.body = some body)
    (hlast : ∀ chunk later, body.next? ≠ some (.chunk chunk, later)) {left : Option Body}
    (hleft : ∀ b, left = some b → b.bytes = []) :
    c.payload = payload { (c.takePending n).2 with body := left } := by
  have hpending := pending_takePending hn hnone
  rw [payload_eq_nil_of_last h hn hnone hbody hlast, payload_eq_nil]
  · exact hpending
  · exact hleft

/-- **Nothing is lost in a read.** The bytes that it gives are the next of the payload, and the
rest is still to come, even if the read gave up. The induction goes along the chunks that it
waited for. -/
theorem payload_readOn (h : ∀ d, c.demuxer = some d → d.Sound) (hn : 0 < n)
    (w : World (Server τ)) :
    c.payload = given (c.readOn n w).answer ++ (c.readOn n w).conn.payload := by
  induction c, w using readOn_induct (n := n) with
  | pending c w taken _ hread =>
    rw [hread]
    exact payload_takePending h n
  | ended c w taken hnone _ hread
  | broken c w taken hnone _ _ _ _ _ _ hread
  | lost c w taken hnone _ _ _ _ _ hread =>
    rw [hread]
    have htaken := payload_takePending h n
    rwa [show (c.takePending n).1 = [] from hnone] at htaken
  -- The two ends of a body change it, but where no chunk is next there are no bytes to lose.
  | failure c w taken hnone body hbody waited w' later hnext hread =>
    rw [hread]
    obtain ⟨-, rfl⟩ := Body.eq_of_next?_failure hnext
    exact payload_of_last h hn hnone hbody (by simp [hnext]) (by simp [Body.bytes])
  | finish c w taken hnone body hbody waited w' later hnext hread =>
    rw [hread]
    exact payload_of_last h hn hnone hbody (by simp [hnext]) (by simp)
  | chunk c w taken hnone body hbody waited w' bytes later hnext hread ih =>
    rw [hread, payload_of_chunk h hn hnone hbody hnext]
    exact ih (sound_takePending h n)

theorem length_given_readOn (c : Connection) (n : Nat) (w : World (Server τ)) :
    (given (c.readOn n w).answer).length ≤ n := by
  induction c, w using readOn_induct (n := n) with
  | pending c w taken _ hread =>
    rw [hread]
    exact length_takePending_le c n
  | chunk c w taken _ _ _ _ _ _ _ _ hread ih =>
    rw [hread]
    exact ih
  | _ =>
    rename_i hread
    rw [hread]
    exact Nat.zero_le n

/-- A read that nobody breaks off gives bytes, and nobody breaks off the next one; or nothing was
left to give. -/
theorem given_readOn (h : ∀ d, c.demuxer = some d → d.Sound) (hn : 0 < n)
    (hsilent : c.interrupt.Silent w.signals) :
    c.payload = [] ∨ ∃ bytes, bytes ≠ [] ∧ (c.readOn n w).answer = .ok bytes ∧
      c.interrupt.Silent (c.readOn n w).world.signals := by
  induction c, w using readOn_induct (n := n) with
  | pending c w taken hsome hread =>
    rw [hread]
    exact .inr ⟨taken.1, hsome, rfl, hsilent⟩
  | ended c w taken hnone hbody _ =>
    have hover : ∀ body, taken.2.body = some body → body.bytes = [] := by simp [hbody]
    exact .inl (payload_eq_nil_of_taken h hn hnone hover)
  | broken c w taken hnone body hbody waited w' e hwait _ =>
    -- A wait that nobody breaks off and that has no good end is for something that never comes.
    have hnever : body.next? = none := by
      cases hnext : body.next? with
      | none => rfl
      | some next =>
        simp only [waited, hnext, hsilent.wait] at hwait
        exact absurd hwait (by simp)
    exact .inl (payload_eq_nil_of_last h hn hnone hbody (by simp [hnever]))
  | lost c w taken hnone body hbody waited w' hnext _ =>
    exact .inl (payload_eq_nil_of_last h hn hnone hbody (by simp [hnext]))
  | failure c w taken hnone body hbody waited w' later hnext _
  | finish c w taken hnone body hbody waited w' later hnext _ =>
    exact .inl (payload_eq_nil_of_last h hn hnone hbody (by simp [hnext]))
  | chunk c w taken hnone body hbody waited w' bytes later hnext hread ih =>
    have hinterrupt : taken.2.interrupt = c.interrupt := interrupt_takePending c n
    have hlater : taken.2.interrupt.Silent w'.signals := by
      rw [hinterrupt]
      exact hsilent.wait_snd hnext
    rw [hread, payload_of_chunk h hn hnone hbody hnext, ← hinterrupt]
    exact ih (sound_takePending h n) hlater

/-! ## Sequences of reads -/

/-- Reads one after the other, each in a world of its own: the bytes that they gave, and the
connection after them. -/
def readAll (c : Connection) : List (Nat × World (Server τ)) → Bytes × Connection
  | [] => ([], c)
  | (n, w) :: later =>
    let r := c.read n w
    let rest := r.conn.readAll later
    (given r.answer ++ rest.1, rest.2)

theorem payload_read (h : c.Proper i) (n : Nat) (w : World (Server τ)) :
    c.payload = given (c.read n w).answer ++ (c.read n w).conn.payload := by
  rw [read_eq]
  split
  · rfl
  · rename_i hn
    exact payload_readOn h.demuxer (Nat.pos_of_ne_zero hn) w

/-- **Nothing is lost in any reads.** What they gave and what is still to come is the payload. -/
theorem payload_readAll (h : c.Proper i) (past : List (Nat × World (Server τ))) :
    c.payload = (c.readAll past).1 ++ (c.readAll past).2.payload ∧ (c.readAll past).2.Proper i := by
  induction past generalizing c with
  | nil => exact ⟨rfl, h⟩
  | cons turn later ih =>
    obtain ⟨n, w⟩ := turn
    obtain ⟨hrest, hproper⟩ := ih (h.read n w)
    refine ⟨?_, hproper⟩
    rw [readAll, payload_read h n w, hrest, List.append_assoc]

/-- The answers to reads of given sizes, one by one, over a payload: each answer is the next bytes
of it, at least one and at most as many as asked for; or nothing is left, and nothing is given. -/
inductive HandsOver : Bytes → List Nat → List (Except BackendError Bytes) → Prop
  | none {payload : Bytes} : HandsOver payload [] []
  | piece {bytes rest : Bytes} {n : Nat} {sizes : List Nat}
      {answers : List (Except BackendError Bytes)} :
      bytes ≠ [] → bytes.length ≤ n → HandsOver rest sizes answers →
      HandsOver (bytes ++ rest) (n :: sizes) (.ok bytes :: answers)
  | spent {n : Nat} {sizes : List Nat} {answer : Except BackendError Bytes}
      {answers : List (Except BackendError Bytes)} :
      given answer = [] → HandsOver [] sizes answers →
      HandsOver [] (n :: sizes) (answer :: answers)

/-- As many reads as there are bytes get them all. -/
theorem HandsOver.all {payload : Bytes} {sizes : List Nat}
    {answers : List (Except BackendError Bytes)} (h : HandsOver payload sizes answers)
    (hmany : payload.length ≤ sizes.length) : answers.flatMap given = payload := by
  induction h with
  | none =>
    obtain rfl := List.length_eq_zero_iff.1 (Nat.le_zero.1 hmany)
    rfl
  | piece nonempty _ _ ih =>
    have hpositive := List.length_pos_iff.2 nonempty
    rw [List.length_append, List.length_cons] at hmany
    rw [List.flatMap_cons, ih (by omega)]
    rfl
  | spent hnothing _ ih => rw [List.flatMap_cons, hnothing, ih (Nat.zero_le _), List.nil_append]

/-- Where nothing is left, reads give nothing. -/
theorem handsOver_of_nothing (h : c.Proper i) (hnothing : c.payload = []) (w : World (Server τ))
    (sizes : List Nat) : HandsOver [] sizes (c.reads w sizes) := by
  induction sizes generalizing c w with
  | nil => exact .none
  | cons n later ih =>
    have hread := payload_read h n w
    rw [hnothing] at hread
    obtain ⟨hgiven, hrest⟩ := List.append_eq_nil_iff.1 hread.symm
    exact .spent hgiven (ih (h.read n w) hrest _)

/-- **Reads that nobody breaks off hand the payload over.** -/
theorem handsOver_reads (h : c.Proper i) (hsilent : i.Silent w.signals) {sizes : List Nat}
    (hsizes : ∀ n ∈ sizes, 0 < n) : HandsOver c.payload sizes (c.reads w sizes) := by
  induction sizes generalizing c w with
  | nil => exact .none
  | cons n later ih =>
    have hn : 0 < n := hsizes n List.mem_cons_self
    have hlater : ∀ m ∈ later, 0 < m := fun m hm => hsizes m (List.mem_cons_of_mem n hm)
    rw [← h.interrupt] at hsilent
    rcases given_readOn h.demuxer hn hsilent with hnothing | ⟨bytes, hbytes, hanswer, hquiet⟩
    · rw [hnothing]
      exact handsOver_of_nothing h hnothing w _
    · have hread := payload_readOn h.demuxer hn w
      have hfits := length_given_readOn c n w
      rw [hanswer] at hread hfits
      rw [reads, read_of_pos hn, hanswer, hread]
      exact .piece hbytes hfits (ih (h.readOn n w) (h.interrupt ▸ hquiet) hlater)

/-! ## Connections that are reached -/

/-- The connection was opened, and then read and sought in, in whatever worlds and over whatever
transports. -/
inductive Reached : Connection → Prop
  | opened {σ : Type} {t : Transport} {request : ConnectRequest} {w : World (Server σ)}
      {c : Connection} : (connect t request w).answer = .ok c → Reached c
  | read {σ : Type} {c : Connection} :
      Reached c → ∀ (n : Nat) (w : World (Server σ)), Reached (c.read n w).conn
  | seek {σ : Type} {c : Connection} :
      Reached c → ∀ (t : Transport) (pos : Nat) (w : World (Server σ)),
        Reached (c.seek t pos w).conn

/-- Its demuxer is in a state that occurs. -/
theorem Reached.proper (h : c.Reached) : c.Proper c.interrupt := by
  have hproper : ∃ i, c.Proper i := by
    induction h with
    | @opened _ t _ _ _ hanswer => exact ⟨_, (upholds_proper t).connect hanswer⟩
    | read _ n w ih =>
      obtain ⟨i, hi⟩ := ih
      exact ⟨i, hi.read n w⟩
    | seek _ t pos w ih =>
      obtain ⟨i, hi⟩ := ih
      exact ⟨i, hi.seek t pos w⟩
  obtain ⟨i, hi⟩ := hproper
  exact ⟨rfl, hi.demuxer⟩

/-- **A call that fails loses nothing.** Let a connection be in any state that it can be in, over
any transport.

A seek that fails, for whatever reason, leaves it as it was. What is read and sought afterwards, in
the world that the seek left, goes as it would have gone without that seek, in any world that is
alike.

A read that is broken off leaves what no earlier read has given. When nobody breaks off any more,
reads give just that: the next bytes each time, all of them in the end, and no others. -/
theorem failure_loses_nothing (t : Transport) (hc : c.Reached) :
    (∀ {w : World (Server τ)} {pos : Nat} {e : BackendError},
      (c.seek t pos w).answer = .error e → (c.seek t pos w).conn = c ∧
        ∀ v : World (Server υ), Alike c.interrupt (c.seek t pos w).world v → ∀ moves : List Move,
          (c.seek t pos w).conn.moveAll t (c.seek t pos w).world moves = c.moveAll t v moves) ∧
    (∀ (past : List (Nat × World (Server τ))) (n : Nat) (w : World (Server τ)),
      let before := c.readAll past
      let broken := before.2.read n w
      broken.answer = .error .interrupted →
      ∃ rest, c.payload = before.1 ++ rest ∧
        ∀ v : World (Server υ), c.interrupt.Silent v.signals →
        ∀ sizes : List Nat, (∀ n ∈ sizes, 0 < n) →
          HandsOver rest sizes (broken.conn.reads v sizes) ∧
            (rest.length ≤ sizes.length →
              (broken.conn.reads v sizes).flatMap given = rest)) := by
  constructor
  · intro w pos e hfailed
    have hconn := conn_seek_of_error hfailed
    refine ⟨hconn, ?_⟩
    intro v halike moves
    rw [hconn]
    exact halike.moveAll t moves
  · intro past n w before broken hbroken
    obtain ⟨hpast, hproper⟩ := payload_readAll hc.proper past
    have hread := payload_read hproper n w
    rw [show (before.2.read n w).answer = _ from hbroken] at hread
    refine ⟨broken.conn.payload, ?_, ?_⟩
    · rw [hpast, hread]
      rfl
    · intro v hsilent sizes hsizes
      have hover := handsOver_reads (hproper.read n w) hsilent hsizes
      exact ⟨hover, hover.all⟩

/-- The URL that is asked for, and the fields of every request for it. -/
def fileUrl : Url := ⟨.https, "", none, .ipv6 [0, 0, 0, 0, 0, 0, 0, 1], none, "/f", none, none⟩

def fileBase : HeaderMap := (prepare .bare fileUrl { icy := true }).toOption.getD .empty

/-- Opens the URL; a flag breaks off. -/
def fileRequest : ConnectRequest :=
  ⟨"https://[::1]/f", .read, ⟨[("tls_verify", "0"), ("icy", "1")]⟩, .ofFlag "stop"⟩

/-- A server with these reactions left. -/
def leftToServe (reactions : List Reaction) : World (Server (List Reaction)) :=
  { state := .planned reactions }

/-- A file of five bytes that may be asked for in parts. -/
def storedResponse : Response where
  status := 200
  headers := .ofFields [("accept-ranges", "bytes")]
  size := some 5
  body := ⟨[[104, 101], [108, 108, 111]], .complete⟩

/-- The connection to the file. -/
def storedFile : Connection where
  url := fileUrl
  base := fileBase
  interrupt := .ofFlag "stop"
  body := some storedResponse.body
  demuxer := none
  icyHeaders := none
  size := some 5
  seekable := true
  mimeType := none

/-- Two bytes of audio and the start of a block, the rest of the block, and one byte of audio. -/
def splitBody : Body := ⟨[[97, 98, 1, 104], List.replicate 15 0, [99]], .broken⟩

def splitResponse : Response where
  status := 200
  headers := .ofFields [("icy-metaint", "2")]
  size := none
  body := splitBody

/-- The connection to a radio. -/
def splitRadio : Connection where
  url := fileUrl
  base := fileBase
  interrupt := .ofFlag "stop"
  body := some splitBody
  demuxer := Icy.Demuxer.ofInterval 2
  icyHeaders := some "icy-metaint: 2\n"
  size := none
  seekable := false
  mimeType := none

/-- The connection in the middle of the block. -/
def splitRadioMidway : Connection :=
  { splitRadio with
    body := some ⟨[List.replicate 15 0, [99]], .broken⟩
    demuxer := some ⟨2, .metadata 15, [104], none, 0⟩
    pos := 2 }

/-- The connection that a response to such a request opens is one that is reached. -/
theorem reached_ofResponse {r : Response} (h : isAccepted none r.status = true) :
    (ofResponse fileUrl fileBase (.ofFlag "stop") true r).Reached := by
  let w := leftToServe [.respond r]
  have hsplit : Scheme.split? fileRequest.url = some (.https, "//[::1]/f".toList) := by
    decide +kernel
  have hurl : Url.parse .https "//[::1]/f".toList = .ok fileUrl := rfl
  have hsettings : (Settings.takeFrom fileRequest.options).1 = .ok { icy := true } := rfl
  have hbase : prepare w.state.files fileUrl { icy := true } = .ok fileBase := rfl
  have hchecked : (checked w.state.files fileRequest).1 =
      .ok (fileUrl, { icy := true }, fileBase) :=
    checked_eq_ok_iff.2 ⟨_, _, hsplit, by simp [fileRequest], hurl, hsettings, hbase⟩
  have hreachable : fileUrl.Reachable .direct := ⟨rfl, by decide +kernel⟩
  have hsilent : fileRequest.interrupt.Silent w.signals := Interrupt.silent_of_still rfl rfl
  exact .opened (connect_of_opened hchecked (send_of_accepted hreachable hsilent rfl h)).1

/-- A read of the first chunk gives its audio, and takes in what there is of the block. -/
theorem read_splitRadio {w : World (Server τ)} (h : splitRadio.interrupt.Silent w.signals) :
    splitRadio.read 4 w =
      .done [97, 98] splitRadioMidway { w with signals := w.signals.afterWait } := by
  have hempty : splitRadio.takePending 4 = ([], splitRadio) := takePending_of_nil rfl 4
  have hnone : (splitRadio.takePending 4).1 = [] := by rw [hempty]
  have hbody : (splitRadio.takePending 4).2.body = some splitBody := by rw [hempty]; rfl
  have hnext : splitBody.next? =
      some (.chunk [97, 98, 1, 104], ⟨[List.replicate 15 0, [99]], .broken⟩) := rfl
  have htaken : takePending { splitRadio with
      pending := [97, 98, 1, 104], body := some ⟨[List.replicate 15 0, [99]], .broken⟩ } 4 =
        ([97, 98], { splitRadioMidway with pos := 0 }) := by
    simp [takePending, splitRadio, splitRadioMidway, Icy.Demuxer.ofInterval, Icy.Demuxer.demux,
      Icy.Demuxer.passAudio, Icy.Demuxer.startBlock, Icy.Demuxer.takeMetadata, Icy.blockUnit]
  have hsome : ∀ taken, taken = ([97, 98], { splitRadioMidway with pos := 0 }) →
      taken.1 ≠ ([] : Bytes) := by
    rintro _ rfl
    decide
  rw [read_of_pos (by decide), readOn_of_none hnone hbody, hempty, hnext, h.wait]
  dsimp only
  rw [readOn_of_some (hsome _ htaken), htaken]
  rfl

/-- The flag goes up while a read waits for the rest of the block. -/
theorem read_splitRadioMidway {w : World (Server τ)}
    (h : w.signals = { coming := [[.raise "stop"]] }) :
    (splitRadioMidway.read 4 w).answer = .error .interrupted := by
  have hempty : splitRadioMidway.takePending 4 = ([], splitRadioMidway) := takePending_of_nil rfl 4
  have hnone : (splitRadioMidway.takePending 4).1 = [] := by rw [hempty]
  have hbody : (splitRadioMidway.takePending 4).2.body =
      some ⟨[List.replicate 15 0, [99]], .broken⟩ := by rw [hempty]; rfl
  rw [read_of_pos (by decide), readOn_of_none hnone hbody, h]
  rfl

/-- A seek behind the end of a file is refused, and reading and seeking go on as if it had not been
made. A read of a radio is broken off in the middle of a block, and the audio behind the block is
read later. -/
theorem failure_loses_nothing_file :
    let part : Response := ⟨206, .empty, some 4, ⟨[[101, 108, 108, 111]], .complete⟩⟩
    let w := leftToServe [.respond ⟨416, .empty, some 0, {}⟩, .respond part]
    let v := leftToServe [.respond part]
    let moves : List Move := [.read 1, .seek 1, .read 9]
    let before := splitRadio.readAll [(4, v)]
    let broken := before.2.read 4 { v with signals := { coming := [[.raise "stop"]] } }
    storedFile.Reached ∧ splitRadio.Reached ∧
      (∃ e, (storedFile.seek .direct 9 w).answer = .error e) ∧
      storedFile.moveAll .direct (storedFile.seek .direct 9 w).world moves =
        storedFile.moveAll .direct v moves ∧
      before.1 = [97, 98] ∧ broken.answer = .error .interrupted ∧
      HandsOver [99] [4, 4] (broken.conn.reads v [4, 4]) := by
  intro part w v moves before broken
  have hstored : storedFile.Reached := reached_ofResponse (r := storedResponse) (by decide)
  have hradio : splitRadio.Reached := reached_ofResponse (r := splitResponse) (by decide)
  have hreachable : storedFile.url.Reachable .direct := ⟨rfl, by decide +kernel⟩
  have hanswered : send .direct storedFile.url storedFile.base
      (some 9) storedFile.interrupt w = _ :=
    send_of_respond hreachable (Interrupt.silent_of_still rfl rfl) rfl rfl
  have hrefused : (storedFile.seek .direct 9 w).answer =
      .error (HttpError.status 416 fileUrl.text).toBackend := by
    rw [seek_eq, hanswered]
    rfl
  have hquiet : splitRadio.interrupt.Silent v.signals := Interrupt.silent_of_still rfl rfl
  have hbefore : before = ([97, 98], splitRadioMidway) := by
    show splitRadio.readAll [(4, v)] = _
    rw [readAll, read_splitRadio hquiet]
    rfl
  have hbroken : broken.answer = .error .interrupted := by
    show (before.2.read 4 _).answer = _
    rw [hbefore]
    exact read_splitRadioMidway rfl
  refine ⟨hstored, hradio, ⟨_, hrefused⟩, ?_, congrArg Prod.fst hbefore, hbroken, ?_⟩
  · obtain ⟨hconn, hlater⟩ := (failure_loses_nothing .direct hstored).1 hrefused
    have halike : Alike storedFile.interrupt (storedFile.seek .direct 9 w).world v := by
      rw [seek_eq, hanswered]
      exact .of_eq _ rfl rfl rfl
    rw [← hlater v halike moves, hconn]
  · obtain ⟨rest, hpayload, hlater⟩ := (failure_loses_nothing .direct hradio).2 _ _ _ hbroken
    have hwhole : splitRadio.payload = [97, 98, 99] := by decide +kernel
    rw [hwhole, show splitRadio.readAll _ = _ from hbefore] at hpayload
    obtain rfl : rest = [99] := by simpa using hpayload.symm
    exact (hlater v hquiet [4, 4] (by simp)).1

end Connection

end ByteStream.Http
