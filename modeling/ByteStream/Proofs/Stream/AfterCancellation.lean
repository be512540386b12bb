/-
# ByteStream.Proofs.Stream.AfterCancellation -- a cancelled stream stops

Once its token has been cancelled, a stream over HTTP gives what is pending and sends nothing, and
one over the backend in memory has no effect. Both are said here of any stream, whatever its
history, and any run of actions; the first on any transport.
-/

import ByteStream.Proofs.Http.Cursor
import ByteStream.Proofs.Http.Cancellation
import ByteStream.Proofs.Memory.Cancellation

namespace ByteStream.Stream

open Http

/-- **Cancellation stops all further work.** Take a stream after any history, in any world in which
its token has been cancelled, and then any actions, where streams are opened with the same token.
Over HTTP, on any transport, no request is sent, no chunk is taken, and what readers are given is
the beginning of the payload that was pending. At that moment, and so at every one after the
cancellation, reads, seeks, control requests and attempts to open or to connect come to what
`ReadAfterCancel`, `SeekAfterCancel`, `ControlAfterCancel` and `OpenAfterCancel` say. Over
the backend in memory nothing is opened, written or sought, connections stay as they are, and
everything is broken off. -/
theorem cancellation_stops_io :
    (∀ {τ : Type} (t : Transport) {config : Config} {cookies : CookieProvider (Server τ)}
      {address : String} {mode : Mode} {s : Stream (Server τ) Connection} {token : Token}
      {w : World (Server τ)} {actions : List (Action (Server τ))},
      Reached (backendOver t) config cookies address mode s → config.cancel = some token →
      cookies.LeavesBackendAlone → w.signals.isCancelled token = true →
      (∀ action ∈ actions, action.UsesToken token) →
      let o := actAll (backendOver t) s w actions
      OnlyPending s w (o.result.flatMap ActionResult.bytes) o.stream o.world ∧
      (∀ n, 0 < n →
        ReadAfterCancel o.stream o.world n (o.stream.read (backendOver t) n o.world)) ∧
      (∀ pos, SeekAfterCancel o.stream o.world pos (o.stream.seek (backendOver t) pos o.world)) ∧
      (∀ request,
        ControlAfterCancel t o.stream o.world request
          (o.stream.control (backendOver t) request o.world)) ∧
      (∀ config cookies address mode, config.cancel = some token → cookies.LeavesBackendAlone →
        OpenAfterCancel o.world config cookies address mode
          (Stream.openAt (backendOver t) config cookies address mode o.world)) ∧
      ∀ request, request.interrupt = .ofToken token →
        (Http.connect t request o.world).world = o.world ∧
          ∃ e, (Http.connect t request o.world).answer = .error e ∧
            (e = .interrupted ↔ Passes o.world.state.files request)) ∧
    ∀ {config : Config} {cookies : CookieProvider Memory.Store} {address : String} {mode : Mode}
      {s : Stream Memory.Store Memory.Connection} {token : Token} {w : World Memory.Store}
      {actions : List (Action Memory.Store)},
      Reached Memory.backend config cookies address mode s → config.cancel = some token →
      cookies.LeavesBackendAlone → w.signals.isCancelled token = true →
      (∀ action ∈ actions, action.UsesToken token) →
      let o := actAll Memory.backend s w actions
      Memory.NoEffect w o.world ∧ (∀ c, o.stream.conn = some c → s.conn = some c) ∧
      (∀ n, o.stream.read Memory.backend n o.world =
        ⟨.error (o.stream.brokenOff .read), o.stream, o.world⟩) ∧
      (∀ data, o.stream.write Memory.backend data o.world =
        ⟨.error (o.stream.brokenOff .write), o.stream, o.world⟩) ∧
      (∀ pos, o.stream.seek Memory.backend pos o.world =
        ⟨.error (if o.stream.seekable then o.stream.brokenOff .seek else .unsupported .seek),
          o.stream, o.world⟩) ∧
      (o.stream.mode = .read → ∃ w', o.stream.control Memory.backend .reconnect o.world =
        ⟨.failed (.interrupted .openStream), o.stream.emptied Memory.backend o.world, w'⟩) ∧
      (∀ config cookies address mode url, config.cancel = some token → cookies.LeavesBackendAlone →
        Address.normalize address = .ok (.openAt url) →
        (Stream.openAt Memory.backend config cookies address mode o.world).1 =
          .error (.interrupted .openStream)) ∧
      ∀ request, request.interrupt = .ofToken token →
        (Memory.connect request o.world).answer = .error .interrupted := by
  refine ⟨?_, ?_⟩
  · intro τ t config cookies address mode s token w actions hreached hcancel hcookies hcancelled
      hactions
    obtain ⟨hcut, hpending⟩ := onlyPending_actAll t
      (hreached.cancelled (Connection.upholds_proper t) hcancel hcookies hcancelled) hactions
    refine ⟨hpending, fun _ hn => readAfterCancel t hcut hn, seekAfterCancel t hcut,
      controlAfterCancel t hcut, ?_, ?_⟩
    · intro config cookies address mode hcancel hcookies
      exact openAfterCancel t hcancel hcookies hcut.cancelled address mode
    · intro request hrequest
      exact Http.connect_of_fired t ⟨token, hrequest, hcut.cancelled⟩
  · intro config cookies address mode s token w actions hreached hcancel hcookies hcancelled
      hactions
    obtain ⟨hcut, hnoEffect, hconn⟩ := noEffect_actAll
      (hreached.cancelled Memory.upholds_interrupt hcancel hcookies hcancelled) hactions
    refine ⟨hnoEffect, hconn, read_of_cancelled hcut, write_of_cancelled hcut,
      seek_of_cancelled hcut, ?_, ?_, ?_⟩
    · intro hmode
      obtain ⟨w', hreconnect, -⟩ := reconnectMemory_of_cancelled hcut hmode
      exact ⟨w', hreconnect⟩
    · intro config cookies address mode url hcancel hcookies hurl
      exact (openMemory_of_cancelled hcancel hcookies hcut.cancelled address mode).2 url hurl
    · intro request hrequest
      rw [Memory.connect_of_fired ⟨token, hrequest, hcut.cancelled⟩]

/-- A configuration with a token. -/
def guarded : Config := { cancel := some (.root "t") }

/-- A writer that was opened with it. -/
def guardedWriter : Stream Memory.Store Memory.Connection where
  config := guarded
  cookies := .none
  url := "mock://x"
  mode := .write
  conn := some ⟨1, .ofToken (.root "t"), 0, none⟩
  hint := DemuxerHint.forOpened "mock://x"

/-- A file on a server and a writer in memory, and what is tried once the token is cancelled. -/
theorem cancellation_stops_io_guarded :
    (∃ s w', Stream.openAt (backendOver .direct) guarded .none "https://[::1]/f" .read helloServer =
        (.ok (.stream s), w') ∧
      let o := actAll (backendOver .direct) s (w'.signal (.cancel (.root "t")))
        [.read 2, .seek 1, .control .reconnect, .openAt "https://[::1]/f" .read guarded .none]
      o.world.requests = w'.requests ∧
        o.result.flatMap ActionResult.bytes ++ o.stream.unread <+: s.unread) ∧
    ∃ w', Stream.openAt Memory.backend guarded .none "mock://x" .write { state := {} } =
        (.ok (.stream guardedWriter), w') ∧
      let o := actAll Memory.backend guardedWriter (w'.signal (.cancel (.root "t")))
        [.write [1], .control .reconnect, .openAt "mock://x" .write guarded .none]
      o.world.state.written = [] ∧ o.world.state.opened = 1 := by
  refine ⟨?_, ?_⟩
  · let url : Url := ⟨.https, "", none, .ipv6 [0, 0, 0, 0, 0, 0, 0, 1], none, "/f", none, none⟩
    let options : ConnectOptions := ⟨[("tls_verify", "0"), ("icy", "1")]⟩
    have haddress : Address.normalize "https://[::1]/f" = .ok (.openAt "https://[::1]/f") := rfl
    have hsplit : Scheme.split? "https://[::1]/f" = some (.https, "//[::1]/f".toList) := by
      decide +kernel
    have hurl : Url.parse .https "//[::1]/f".toList = .ok url := rfl
    have hreachable : url.Reachable .direct := ⟨rfl, by decide +kernel⟩
    have hasked :
        ConnectOptions.build guarded .read .none helloServer = (options, helloServer) := by
      have hoptions : ConnectOptions.assemble guarded .read none = options := by decide +kernel
      rw [← hoptions]
      rfl
    have hsettings : (Settings.takeFrom options).1 = .ok { icy := true } := rfl
    have hcaller : AsksNoPart options := by
      intro settings h field hfield
      rw [hsettings] at h
      rw [← Except.ok.inj h] at hfield
      exact absurd hfield (by simp)
    have hsilent : (Interrupt.ofToken (.root "t")).Silent helloServer.signals :=
      Interrupt.silent_ofToken rfl rfl
    obtain ⟨s, w', c, hopen, -⟩ := openAt_of_serves haddress hasked hsplit hurl hreachable
      hsettings rfl (servesParts_givesParts _ _) hsilent hcaller
    have hcancelled := Signals.isCancelled_cancel w'.signals (.root "t")
    have huses : ∀ action ∈ ([.read 2, .seek 1, .control .reconnect,
        .openAt "https://[::1]/f" .read guarded .none] : List (Action (Server Unit))),
        action.UsesToken (.root "t") := by
      simp [Action.UsesToken, guarded, CookieProvider.leavesBackendAlone_none]
    obtain ⟨hpending, -⟩ := cancellation_stops_io.1 .direct (w := w'.signal (.cancel (.root "t")))
      (.opened hopen) rfl CookieProvider.leavesBackendAlone_none hcancelled huses
    exact ⟨s, w', hopen, hpending.untouched.requests, hpending.given⟩
  · let w' := (Stream.openAt Memory.backend guarded .none "mock://x" .write { state := {} }).2
    have hopen : Stream.openAt Memory.backend guarded .none "mock://x" .write { state := {} } =
        (.ok (.stream guardedWriter), w') := rfl
    have hcancelled := Signals.isCancelled_cancel w'.signals (.root "t")
    have huses : ∀ action ∈ ([.write [1], .control .reconnect,
        .openAt "mock://x" .write guarded .none] : List (Action Memory.Store)),
        action.UsesToken (.root "t") := by
      simp [Action.UsesToken, guarded, CookieProvider.leavesBackendAlone_none]
    obtain ⟨hnoEffect, -⟩ := cancellation_stops_io.2 (w := w'.signal (.cancel (.root "t")))
      (.opened hopen) rfl CookieProvider.leavesBackendAlone_none hcancelled huses
    exact ⟨w', hopen, hnoEffect.written, hnoEffect.opened⟩

end ByteStream.Stream
