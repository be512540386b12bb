/-
# ByteStream.Proofs.Memory.Cancellation -- a cancelled stream over the backend in memory

Over the backend in memory there is nothing pending. Once the token of a stream has been cancelled,
its reads, writes, seeks and attempts to connect are broken off at once (`call_of_cancelled`,
`connectMemory_of_cancelled`), and a run of actions opens, writes and seeks nothing (`NoEffect`).
-/

import ByteStream.Proofs.Memory.Interruption
import ByteStream.Proofs.Stream.Actions

namespace ByteStream

namespace Memory

/-- Signals may have come, and attempts to connect and closes been recorded, but nothing was opened,
written or sought. -/
structure NoEffect (w w' : World Store) : Prop where
  settings : w'.state.settings = w.state.settings
  opened : w'.state.opened = w.state.opened
  written : w'.state.written = w.state.written
  seeks : w'.state.seeks = w.state.seeks
  signals : ∃ came : List Signal, w'.signals = came.foldl Signals.apply w.signals

variable {w w' w'' : World Store}

theorem noEffect_of_backendUntouched (h : w.BackendUntouched w') : NoEffect w w' := by
  obtain ⟨hstate, -, hsignals⟩ := h
  exact ⟨by rw [hstate], by rw [hstate], by rw [hstate], by rw [hstate], hsignals⟩

theorem NoEffect.trans (h : NoEffect w w') (h' : NoEffect w' w'') : NoEffect w w'' := by
  obtain ⟨first, hfirst⟩ := h.signals
  obtain ⟨second, hsecond⟩ := h'.signals
  refine ⟨h'.settings.trans h.settings, h'.opened.trans h.opened, h'.written.trans h.written,
    h'.seeks.trans h.seeks, first ++ second, ?_⟩
  rw [hsecond, hfirst, List.foldl_append]

end Memory

namespace Stream

open Memory

/-- The connection has the interrupt that it was opened with. -/
abbrev HasInterrupt (i : Interrupt) (c : Memory.Connection) : Prop := c.interrupt = i

variable {token : Token} {s : Stream Store Memory.Connection} {w : World Store}

/-- A call on a connection that is broken off, or that there is no connection for. -/
def brokenOff (s : Stream Store Memory.Connection) (op : Op) : StreamError :=
  if s.isConnected then .interrupted op else .noConnection op

theorem call_of_cancelled (h : Cancelled HasInterrupt token s w) (op : Op) {α β : Type}
    {f : Memory.Connection → World Store → Reply Store Memory.Connection β}
    {view : Except BackendError β → Except StreamError α}
    (hf : ∀ c, s.conn = some c → c.interrupt.Fired w.signals → f c w = .fail .interrupted c w)
    (hview : view (.error .interrupted) = .error (.interrupted op)) :
    s.call w (.error (.noConnection op)) f view = ⟨.error (s.brokenOff op), s, w⟩ := by
  unfold brokenOff isConnected
  cases hconn : s.conn with
  | none => exact call_of_none hconn ..
  | some c =>
    obtain ⟨hkey, hfired⟩ := h.conn hconn
    rw [← hkey] at hfired
    rw [call_of_unmoved hconn (hf c hconn hfired), hview]
    rfl

theorem read_of_cancelled (h : Cancelled HasInterrupt token s w) (n : Nat) :
    s.read Memory.backend n w = ⟨.error (s.brokenOff .read), s, w⟩ :=
  call_of_cancelled h .read (fun _ _ hfired => Memory.read_of_fired hfired n) rfl

theorem write_of_cancelled (h : Cancelled HasInterrupt token s w) (data : Bytes) :
    s.write Memory.backend data w = ⟨.error (s.brokenOff .write), s, w⟩ :=
  call_of_cancelled h .write (fun _ _ hfired => Memory.writeThrough_of_fired hfired data) rfl

theorem seek_of_cancelled (h : Cancelled HasInterrupt token s w) (pos : Nat) :
    s.seek Memory.backend pos w =
      ⟨.error (if s.seekable then s.brokenOff .seek else .unsupported .seek), s, w⟩ := by
  unfold Stream.seek
  split
  · exact call_of_cancelled h .seek (fun _ _ hfired => Memory.seek_of_fired hfired pos) rfl
  · rfl

theorem connectMemory_of_cancelled (h : Cancelled HasInterrupt token s w) :
    ∃ w', Stream.connect Memory.backend s w = ⟨.error (.interrupted .openStream), s, w'⟩ ∧
      NoEffect w w' := by
  have hconnect := Memory.connect_of_fired h.request
  refine ⟨_, connect_of_refusal (B := Memory.backend) (congrArg Connected.answer hconnect), ?_⟩
  refine (noEffect_of_backendUntouched (backendUntouched_request h.cookies w)).trans ?_
  show NoEffect _ (Memory.connect (s.request w).1 (s.request w).2).world
  rw [hconnect]
  exact ⟨rfl, rfl, rfl, rfl, [], rfl⟩

theorem reconnectMemory_of_cancelled (h : Cancelled HasInterrupt token s w)
    (hmode : s.mode = .read) :
    ∃ w', s.reconnect Memory.backend w =
        ⟨.failed (.interrupted .openStream), s.emptied Memory.backend w, w'⟩ ∧ NoEffect w w' := by
  have hclosed : NoEffect w (s.close Memory.backend w) := by
    unfold Stream.close release
    cases s.conn with
    | none => exact noEffect_of_backendUntouched w.backendUntouched_refl
    | some c => exact ⟨rfl, rfl, rfl, rfl, [], rfl⟩
  obtain ⟨came, hcame⟩ := hclosed.signals
  have hempty : Cancelled HasInterrupt token (s.emptied Memory.backend w)
      (s.close Memory.backend w) := by
    refine ⟨h.cancel, h.cookies, fun c hc => absurd hc (by simp [emptied, release]), ?_⟩
    rw [hcame]
    exact Signals.isCancelled_foldl h.cancelled came
  obtain ⟨w', hconnect, hnoEffect⟩ := connectMemory_of_cancelled hempty
  refine ⟨w', ?_, hclosed.trans hnoEffect⟩
  rw [reconnect_eq hmode, hconnect]
  rfl

theorem openMemory_of_cancelled {config : Config} {cookies : CookieProvider Store}
    (hcancel : config.cancel = some token) (hcookies : cookies.LeavesBackendAlone)
    (hcancelled : w.signals.isCancelled token = true) (address : String) (mode : Mode) :
    NoEffect w (Stream.openAt Memory.backend config cookies address mode w).2 ∧
      ∀ url, Address.normalize address = .ok (.openAt url) →
        (Stream.openAt Memory.backend config cookies address mode w).1 =
          .error (.interrupted .openStream) := by
  unfold Stream.openAt
  cases Address.normalize address with
  | error e => exact ⟨noEffect_of_backendUntouched w.backendUntouched_refl, by simp⟩
  | ok target =>
    cases target with
    | delegate hint => exact ⟨noEffect_of_backendUntouched w.backendUntouched_refl, by simp⟩
    | openAt url =>
      have hfresh : Cancelled HasInterrupt token
          ({ config, cookies, url, mode } : Stream Store Memory.Connection) w :=
        ⟨hcancel, hcookies, fun c hc => absurd hc (by simp), hcancelled⟩
      obtain ⟨w', hconnect, hnoEffect⟩ := connectMemory_of_cancelled hfresh
      dsimp only
      rw [hconnect]
      exact ⟨hnoEffect, fun _ _ => rfl⟩

/-- An action leaves a connection as it is, or gives it up. -/
theorem noEffect_act (h : Cancelled HasInterrupt token s w) {action : Action Store}
    (haction : action.UsesToken token) :
    NoEffect w (s.act Memory.backend w action).world ∧
      ∀ c, (s.act Memory.backend w action).stream.conn = some c → s.conn = some c := by
  have hsame : NoEffect w w := noEffect_of_backendUntouched w.backendUntouched_refl
  cases action with
  | read n =>
    show NoEffect w (s.read Memory.backend n w).world ∧
      ∀ c, (s.read Memory.backend n w).stream.conn = some c → s.conn = some c
    rw [read_of_cancelled h]
    exact ⟨hsame, fun _ hc => hc⟩
  | write data =>
    show NoEffect w (s.write Memory.backend data w).world ∧
      ∀ c, (s.write Memory.backend data w).stream.conn = some c → s.conn = some c
    rw [write_of_cancelled h]
    exact ⟨hsame, fun _ hc => hc⟩
  | seek pos =>
    show NoEffect w (s.seek Memory.backend pos w).world ∧
      ∀ c, (s.seek Memory.backend pos w).stream.conn = some c → s.conn = some c
    rw [seek_of_cancelled h]
    exact ⟨hsame, fun _ hc => hc⟩
  | control request =>
    show NoEffect w (s.control Memory.backend request w).world ∧
      ∀ c, (s.control Memory.backend request w).stream.conn = some c → s.conn = some c
    cases request with
    | size =>
      obtain ⟨result, hcall⟩ := exists_call_eq (s := s) (w := w) (f := Memory.backend.size)
        (fun _ _ => ⟨_, rfl⟩) .unsupported sizeView
      rw [Stream.control, hcall]
      exact ⟨hsame, fun _ hc => hc⟩
    | seekTime target =>
      obtain ⟨result, hcall⟩ := exists_call_eq (s := s) (w := w)
        (f := fun c w => Memory.backend.seekTime c target w) (fun _ _ => ⟨_, rfl⟩) .unsupported
        seekTimeView
      rw [Stream.control, hcall]
      exact ⟨hsame, fun _ hc => hc⟩
    | tags =>
      rw [Stream.control]
      cases hconn : s.conn with
      | none =>
        rw [pollTags_of_none hconn]
        exact ⟨hsame, fun _ hc => hconn ▸ hc⟩
      | some c =>
        rw [pollTags_of_conn hconn]
        exact ⟨hsame, fun _ hc => hc⟩
    | reconnect =>
      rw [Stream.control]
      cases hmode : s.mode with
      | write =>
        rw [reconnect_of_write hmode]
        exact ⟨hsame, fun _ hc => hc⟩
      | read =>
        obtain ⟨w', hreconnect, hnoEffect⟩ := reconnectMemory_of_cancelled h hmode
        rw [hreconnect]
        exact ⟨hnoEffect, fun _ hc => absurd hc (by simp [emptied, release])⟩
  | openAt address mode config cookies =>
    exact ⟨(openMemory_of_cancelled haction.1 haction.2 h.cancelled address mode).1, fun _ hc => hc⟩
  | signal now =>
    exact ⟨noEffect_of_backendUntouched (w.backendUntouched_signal now), fun _ hc => hc⟩

theorem noEffect_actAll (h : Cancelled HasInterrupt token s w) {actions : List (Action Store)}
    (hactions : ∀ action ∈ actions, action.UsesToken token) :
    let o := actAll Memory.backend s w actions
    Cancelled HasInterrupt token o.stream o.world ∧ NoEffect w o.world ∧
      ∀ c, o.stream.conn = some c → s.conn = some c := by
  induction actions generalizing s w with
  | nil => exact ⟨h, noEffect_of_backendUntouched w.backendUntouched_refl, fun _ hc => hc⟩
  | cons action actions ih =>
    obtain ⟨haction, hlater⟩ := List.forall_mem_cons.1 hactions
    obtain ⟨hnoEffect, hconn⟩ := noEffect_act h haction
    obtain ⟨came, hcame⟩ := hnoEffect.signals
    have hnext := h.act Memory.upholds_interrupt action
      (by rw [hcame]; exact Signals.isCancelled_foldl h.cancelled came)
    obtain ⟨hlast, hrest, hkept⟩ := ih hnext hlater
    simp only [actAll]
    exact ⟨hlast, hnoEffect.trans hrest, fun c hc => hconn c (hkept c hc)⟩

end Stream

end ByteStream
