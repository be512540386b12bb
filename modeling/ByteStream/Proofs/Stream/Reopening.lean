/-
# ByteStream.Proofs.Stream.Reopening -- connecting again is closing and opening afresh

A stream that connects again gives its connection up and asks for a new one with what it was
opened with. Closing it instead, and opening the address it came from, sends the backend the same
request in the same world, and leaves the same stream; only the count of metadata reports goes on
in one and starts at 0 in the other. Nothing reads the count, so no later command tells the two
apart, and the backend is called alike ever after.

The URL that a stream keeps is the one its address turned out to be. Connecting again does not
look at the address a second time, and that matters: two marks in front of one another would be
cut off one by one.
-/

import ByteStream.Proofs.Stream.History
import ByteStream.Scripted

namespace ByteStream.Stream

variable {σ κ α β : Type} {B : Backend σ κ}

/-! ## Streams but for what they remember -/

/-- The stream with another memory of the metadata it has reported. -/
def remembering (s : Stream σ κ) (memory : Icy.Differ) : Stream σ κ := { s with differ := memory }

/-- The streams are the same but for their memories, which are related. -/
def SameButMemory (D : Icy.Differ → Icy.Differ → Prop) (s t : Stream σ κ) : Prop :=
  ∃ memory, D s.differ memory ∧ t = s.remembering memory

section Memories

variable {D : Icy.Differ → Icy.Differ → Prop} {s : Stream σ κ} {memory : Icy.Differ}

/-- The outcomes are the same but for the memories. -/
abbrev AlikeButMemory (D : Icy.Differ → Icy.Differ → Prop) (one other : Outcome σ κ α) : Prop :=
  SameStep (fun s w t v => SameButMemory D s t ∧ w = v) one other

theorem alike_call (h : D s.differ memory) (w : World σ) (absent : α)
    (f : κ → World σ → Reply σ κ β) (view : Except BackendError β → α) :
    AlikeButMemory D (s.call w absent f view) ((s.remembering memory).call w absent f view) := by
  cases hconn : s.conn with
  | none =>
    rw [call_of_none hconn, call_of_none (s := s.remembering memory) hconn]
    exact ⟨rfl, ⟨memory, h, rfl⟩, rfl⟩
  | some c =>
    rw [call_of_conn hconn, call_of_conn (s := s.remembering memory) hconn]
    exact ⟨rfl, ⟨memory, h, rfl⟩, rfl⟩

theorem alike_seek (h : D s.differ memory) (w : World σ) (pos : Nat) :
    AlikeButMemory D (s.seek B pos w) ((s.remembering memory).seek B pos w) := by
  have hseekable : (s.remembering memory).seekable = s.seekable := rfl
  unfold Stream.seek
  rw [hseekable]
  split
  · exact alike_call h w _ _ _
  · exact ⟨rfl, ⟨memory, h, rfl⟩, rfl⟩

theorem alike_connect (h : D s.differ memory) (w : World σ) :
    AlikeButMemory D (Stream.connect B s w) (Stream.connect B (s.remembering memory) w) := by
  have hrequest : (s.remembering memory).request w = s.request w := rfl
  simp only [connect_eq, hrequest]
  cases (B.connect (s.request w).1 (s.request w).2).answer with
  | error e => exact ⟨rfl, ⟨memory, h, rfl⟩, rfl⟩
  | ok c => exact ⟨rfl, ⟨memory, h, rfl⟩, rfl⟩

/-- Reading, writing and seeking do not look at the memory. -/
theorem movesAlike_memory (B : Backend σ κ) (D : Icy.Differ → Icy.Differ → Prop) :
    MovesAlike B B fun s w t v => SameButMemory D s t ∧ w = v where
  read := by
    rintro s w _ _ ⟨⟨memory, h, rfl⟩, rfl⟩ n
    exact alike_call h w _ _ _
  write := by
    rintro s w _ _ ⟨⟨memory, h, rfl⟩, rfl⟩ data
    exact alike_call h w _ _ _
  seek := by
    rintro s w _ _ ⟨⟨memory, h, rfl⟩, rfl⟩ pos
    exact alike_seek h w pos
  readsLeft := by
    rintro s w _ _ ⟨⟨memory, -, rfl⟩, rfl⟩
    rfl
  coming := by
    rintro s w _ _ ⟨⟨memory, -, rfl⟩, rfl⟩
    rfl
  shown := by
    rintro s w _ _ ⟨⟨memory, -, rfl⟩, rfl⟩
    rfl

end Memories

/-- The stream with another count of reports. -/
def recount (s : Stream σ κ) (count : Nat) : Stream σ κ :=
  { s with differ := { s.differ with generation := count } }

/-- The streams are the same but for the count of reports. -/
def SameButCount (s t : Stream σ κ) : Prop := ∃ count, t = s.recount count

/-- The outcomes are the same but for the count of reports. -/
abbrev SameOutcome (one other : Outcome σ κ α) : Prop :=
  SameStep (fun s w t v => SameButCount s t ∧ w = v) one other

/-- The count is what memories of the same last report may differ in. -/
theorem sameButCount_eq :
    (SameButCount : Stream σ κ → Stream σ κ → Prop) =
      SameButMemory fun memory other => memory.last = other.last := by
  funext s t
  apply propext
  constructor
  · rintro ⟨count, rfl⟩
    exact ⟨{ s.differ with generation := count }, rfl, rfl⟩
  · rintro ⟨⟨last, count⟩, hlast, rfl⟩
    obtain rfl : s.differ.last = last := hlast
    exact ⟨count, rfl⟩

/-- Both polls find news or both find none, and a report raises either count by one. -/
theorem sameOutcome_pollTags (s : Stream σ κ) (count : Nat) (w : World σ) :
    SameOutcome (s.pollTags B w) ((s.recount count).pollTags B w) := by
  obtain ⟨config, cookies, url, mode, conn, seekable, mimeType, hint, differ⟩ := s
  cases conn with
  | none => exact ⟨rfl, ⟨count, rfl⟩, rfl⟩
  | some c =>
    have hsame : Icy.Differ.isNews ⟨differ.last, count⟩ (B.icyFields c w).1 =
        differ.isNews (B.icyFields c w).1 := rfl
    simp only [pollTags, recount, Icy.Differ.poll, hsame]
    cases differ.isNews (B.icyFields c w).1 with
    | true => exact ⟨rfl, ⟨count + 1, rfl⟩, rfl⟩
    | false => exact ⟨rfl, ⟨count, rfl⟩, rfl⟩

/-! ## Connecting with what a stream was opened with -/

theorem request_of_origin {s t : Stream σ κ} (h : s.origin = t.origin) (w : World σ) :
    s.request w = t.request w := by
  obtain ⟨config, cookies, url, mode⟩ := s
  obtain ⟨config', cookies', url', mode'⟩ := t
  simp only [origin, Origin.mk.injEq] at h
  obtain ⟨rfl, rfl, rfl, rfl⟩ := h
  rfl

/-- A connection overwrites all that a stream remembers, but what it was opened with and the
metadata it has reported. -/
theorem install_of_origin {s t : Stream σ κ} (h : s.origin = t.origin) (c : κ) (w : World σ) :
    s.install B c w = { t.install B c w with differ := s.differ } := by
  obtain ⟨config, cookies, url, mode⟩ := s
  obtain ⟨config', cookies', url', mode'⟩ := t
  simp only [origin, Origin.mk.injEq] at h
  obtain ⟨rfl, rfl, rfl, rfl⟩ := h
  rfl

/-! ## Connecting again -/

/-- What is left of a stream that gives its connection up to connect again. -/
def emptied (B : Backend σ κ) (s : Stream σ κ) (w : World σ) : Stream σ κ :=
  { (s.release B w).1 with differ := s.differ.reset }

/-- The control result for an attempt to connect again. -/
def reconnectView : Except StreamError Unit → ControlResult
  | .ok () => .success (.reconnected .reopened)
  | .error e => .failed e

/-- A writer is refused a new connection. -/
theorem reconnect_of_write {s : Stream σ κ} (hmode : s.mode = .write) (w : World σ) :
    s.reconnect B w = ⟨.unsupported, s, w⟩ := by
  unfold reconnect
  rw [if_pos hmode]

/-- A reader that connects again closes, and then connects as it did when it was opened. -/
theorem reconnect_eq {s : Stream σ κ} (hmode : s.mode = .read) (w : World σ) :
    s.reconnect B w =
      (Stream.connect B (s.emptied B w) (s.close B w)).map reconnectView := by
  unfold reconnect
  rw [if_neg (by rw [hmode]; decide)]
  show (match (Stream.connect B (s.emptied B w) (s.close B w)).result with
    | .ok () => _
    | .error e => _) = _
  cases hresult : (Stream.connect B (s.emptied B w) (s.close B w)).result with
  | ok _ => rw [Outcome.map, hresult]; rfl
  | error e => rw [Outcome.map, hresult]; rfl

/-- Connecting again resets the memory, and looks at it no more than connecting does. -/
theorem alike_reconnect {D : Icy.Differ → Icy.Differ → Prop}
    (hD : ∀ memory other, D memory other → D memory.reset other.reset)
    {s : Stream σ κ} {memory : Icy.Differ} (h : D s.differ memory) (w : World σ) :
    AlikeButMemory D (s.reconnect B w) ((s.remembering memory).reconnect B w) := by
  have hmode : (s.remembering memory).mode = s.mode := rfl
  cases hread : s.mode with
  | write =>
    rw [reconnect_of_write hread, reconnect_of_write (hmode.trans hread)]
    exact ⟨rfl, ⟨memory, h, rfl⟩, rfl⟩
  | read =>
    rw [reconnect_eq hread, reconnect_eq (hmode.trans hread)]
    exact (alike_connect (s := s.emptied B w) (hD _ _ h) (s.close B w)).map reconnectView

/-- Only requests for metadata look at the memory. -/
theorem alike_control {D : Icy.Differ → Icy.Differ → Prop}
    (hD : ∀ memory other, D memory other → D memory.reset other.reset)
    {s t : Stream σ κ} (h : SameButMemory D s t) (w : World σ) {request : ControlRequest}
    (hrequest : request ≠ .tags) :
    AlikeButMemory D (s.control B request w) (t.control B request w) := by
  obtain ⟨memory, hmemory, rfl⟩ := h
  cases request with
  | size => exact alike_call hmemory w _ _ _
  | seekTime target => exact alike_call hmemory w _ _ _
  | tags => exact absurd rfl hrequest
  | reconnect => exact alike_reconnect hD hmemory w

/-- No operation reads the count. -/
theorem simulates_recount (B : Backend σ κ) :
    Simulates B B fun s w t v => SameButCount s t ∧ w = v where
  toMovesAlike := by
    rw [sameButCount_eq]
    exact movesAlike_memory B _
  control := by
    rintro s w t _ ⟨hsame, rfl⟩ request
    by_cases hrequest : request = .tags
    · obtain ⟨count, rfl⟩ := hsame
      rw [hrequest]
      exact sameOutcome_pollTags s count w
    · rw [sameButCount_eq] at hsame ⊢
      exact alike_control (fun _ _ _ => rfl) hsame w hrequest

/-- Streams that are the same but for the count answer every history alike, leave the same world,
and close alike. -/
theorem SameButCount.performAll {s t : Stream σ κ} (h : SameButCount s t) (w : World σ)
    (commands : List Command) :
    let one := s.performAll B w commands
    let other := t.performAll B w commands
    one.result = other.result ∧ one.world = other.world ∧
      one.stream.close B one.world = other.stream.close B other.world := by
  intro one other
  obtain ⟨hresults, ⟨count, hlast⟩, hworlds⟩ := (simulates_recount B).performAll ⟨h, rfl⟩ commands
  refine ⟨hresults, hworlds, ?_⟩
  show (one.stream.release B one.world).2 = (other.stream.release B other.world).2
  rw [hlast, ← hworlds]
  rfl

/-- A reader that connects again with success has connected. -/
theorem connected_of_reconnect {s : Stream σ κ} (hmode : s.mode = .read) {w : World σ}
    (hsuccess : (s.control B .reconnect w).result.isSuccess = true) :
    (Stream.connect B (s.emptied B w) (s.close B w)).result = .ok () := by
  cases hresult : (Stream.connect B (s.emptied B w) (s.close B w)).result with
  | ok _ => rfl
  | error e =>
    have hfailed : (s.control B .reconnect w).result = .failed e := by
      show (s.reconnect B w).result = _
      rw [reconnect_eq hmode, Outcome.map, hresult]
      rfl
    rw [hfailed] at hsuccess
    exact absurd hsuccess (by simp [ControlResult.isSuccess])

/-! ## Connecting again and opening afresh -/

/-- Connecting, when it succeeds, leaves nothing of what a stream was before but what it was opened
with and the metadata it has reported. -/
theorem sameOutcome_connect_of_origin {s t : Stream σ κ} (h : s.origin = t.origin)
    (hlast : s.differ.last = t.differ.last) {w : World σ}
    (hok : (Stream.connect B s w).result = .ok ()) :
    SameOutcome (Stream.connect B s w) (Stream.connect B t w) := by
  simp only [connect_eq] at hok
  simp only [connect_eq, ← request_of_origin h]
  cases hanswer : (B.connect (s.request w).1 (s.request w).2).answer with
  | error e =>
    rw [hanswer] at hok
    exact absurd hok (by simp)
  | ok c =>
    refine ⟨rfl, ⟨t.differ.generation, ?_⟩, rfl⟩
    have hdiffer : t.differ = ⟨s.differ.last, t.differ.generation⟩ := by rw [hlast]
    show t.install B c _ = (s.install B c _).recount t.differ.generation
    rw [install_of_origin h.symm, hdiffer]
    rfl

/-- The world after connecting is the one in which the backend's answer came. -/
theorem world_connect (s : Stream σ κ) (w : World σ) :
    (Stream.connect B s w).world = (B.connect (s.request w).1 (s.request w).2).world := by
  rw [connect_eq]
  dsimp only
  split <;> rfl

/-- **Connecting again is closing and opening afresh.** Let a reader occur, with any history in any
worlds, and let it connect again with success. Then, in the world that closing it leaves, opening
its address anew succeeds as well, after the same request to the backend, and leaves the same
world and, but for the count of reports, the same stream. From there on both answer every history
alike, leave the same world -- what the backend was called for included -- and close alike. -/
theorem reconnect_is_reopening {config : Config} {cookies : CookieProvider σ} {address : String}
    {s : Stream σ κ} (hreached : Reached B config cookies address .read s) {w : World σ}
    (hsuccess : (s.control B .reconnect w).result.isSuccess = true) :
    let again := s.control B .reconnect w
    let closed := s.close B w
    let asked := s.request closed
    ∃ url fresh, Address.normalize address = .ok (.openAt url) ∧
      asked = (Origin.stream ⟨config, cookies, url, .read⟩ : Stream σ κ).request closed ∧
      asked.1.url = url ∧ asked.1.mode = .read ∧
      again.world = (B.connect asked.1 asked.2).world ∧
      Stream.openAt B config cookies address .read closed = (.ok (.stream fresh), again.world) ∧
      SameButCount again.stream fresh ∧
      ∀ commands,
        let one := again.stream.performAll B again.world commands
        let other := fresh.performAll B again.world commands
        one.result = other.result ∧ one.world = other.world ∧
          one.stream.close B one.world = other.stream.close B other.world := by
  intro again closed asked
  -- Whatever its history, the stream has what it was opened with: it starts where opening starts.
  obtain ⟨url, hurl, horigin⟩ := hreached.origin
  have hmode : s.mode = .read := congrArg Origin.mode horigin
  have hstart : s.origin = (Origin.stream ⟨config, cookies, url, .read⟩ : Stream σ κ).origin :=
    horigin
  -- Connecting again is closing, and then connecting once, with success.
  have hagain : again = (Stream.connect B (s.emptied B w) closed).map reconnectView :=
    reconnect_eq hmode w
  have hok : (Stream.connect B (s.emptied B w) closed).result = .ok () :=
    connected_of_reconnect hmode hsuccess
  -- Opening connects once too, with the same request in the same world.
  obtain ⟨hresult, hsame, hworld⟩ := sameOutcome_connect_of_origin
    (t := Origin.stream ⟨config, cookies, url, .read⟩) (show (s.emptied B w).origin = _ from hstart)
    rfl hok
  have hfresh : Stream.connect B (Origin.stream ⟨config, cookies, url, .read⟩) closed =
      ⟨.ok (), (Stream.connect B (Origin.stream ⟨config, cookies, url, .read⟩) closed).stream,
        (Stream.connect B (Origin.stream ⟨config, cookies, url, .read⟩) closed).world⟩ := by
    rw [← hok, hresult]
  have hopen := openAt_of_connect hurl hfresh
  have hafter : again.world = (Stream.connect B (s.emptied B w) closed).world := by rw [hagain]; rfl
  have hstream : again.stream = (Stream.connect B (s.emptied B w) closed).stream := by
    rw [hagain]
    rfl
  rw [← hstream] at hsame
  refine ⟨url, _, hurl, request_of_origin hstart closed, congrArg Origin.url horigin, hmode, ?_,
    ?_, hsame, ?_⟩
  · rw [hafter, world_connect]
    rfl
  · rw [hopen, hafter, hworld]
  · -- From there on the two runs differ in the count, and nothing reads it.
    intro commands
    exact hsame.performAll again.world commands

/-- A station with a packet to report. -/
def station : Scripted.Script where
  fields := [{ packet := some "StreamTitle='A';", sequence := some 7 }]

/-- A world in which the next attempts to connect end so. -/
def stationWorld (connects : List (Except BackendError Scripted.Script)) :
    World Scripted.Playlist where
  state := { connects }

/-- A stream that was opened at the station. -/
def stationStream (conn : Option Scripted.Script) (differ : Icy.Differ) :
    Stream Scripted.Playlist Scripted.Script where
  config := {}
  cookies := .none
  url := "mmsh://h/live"
  mode := .read
  conn
  hint := DemuxerHint.forOpened "mmsh://h/live"
  differ

/-- A stream that reported a packet, and then lost its connection when it first connected again. -/
theorem reconnect_is_reopening_stranded :
    Reached Scripted.backend {} .none "lavf://mms://h/live" .read
        (stationStream none ⟨none, 1⟩) ∧
      ((stationStream none ⟨none, 1⟩).control Scripted.backend .reconnect
        (stationWorld [.ok station])).result.isSuccess = true ∧
      ∃ fresh w, Stream.openAt Scripted.backend {} .none "lavf://mms://h/live" .read
          (stationWorld [.ok station]) = (.ok (.stream fresh), w) ∧
        SameButCount
          ((stationStream none ⟨none, 1⟩).control Scripted.backend .reconnect
            (stationWorld [.ok station])).stream fresh := by
  have hopened : Reached Scripted.backend {} .none "lavf://mms://h/live" .read
      (stationStream (some station) {}) :=
    .opened (w := stationWorld [.ok station]) rfl
  have hpolled : Reached Scripted.backend {} .none "lavf://mms://h/live" .read
      (stationStream (some { station with fields := [] })
        ⟨some ⟨"StreamTitle='A';", some 7⟩, 1⟩) :=
    hopened.performed (stationWorld []) (.control .tags)
  have hstranded : Reached Scripted.backend {} .none "lavf://mms://h/live" .read
      (stationStream none ⟨none, 1⟩) :=
    hpolled.performed (stationWorld [.error (.io "gone")]) (.control .reconnect)
  have hsuccess : ((stationStream none ⟨none, 1⟩).control Scripted.backend .reconnect
      (stationWorld [.ok station])).result.isSuccess = true := rfl
  obtain ⟨_, fresh, -, -, -, -, -, hopen, hsame, -⟩ := reconnect_is_reopening hstranded hsuccess
  exact ⟨hstranded, hsuccess, fresh, _, hopen, hsame⟩

end ByteStream.Stream
