/-
# ByteStream.Proofs.Stream.Queries -- asking changes nothing

A caller may ask a stream for its size, and for metadata that it has not reported yet. Over a
backend where that moves nothing (`Backend.QueriesMoveNothing`), neither leaves a trace but in the
stream's memory of what it has reported. No operation reads that memory but another request for
metadata, so every other command is answered alike by streams that differ in it
(`alike_perform`).

A run with such requests anywhere in it is therefore, but for the answers to requests for metadata,
the run without them: the same answers, the same stream as it shows itself after each command, and
the same world, which holds all that the backend was ever told (`follow_own`).
-/

import ByteStream.Http.Backend
import ByteStream.Memory
import ByteStream.Proofs.Stream.Reopening

namespace ByteStream

variable {σ κ : Type}

/-- Asking a connection for its size or its metadata moves neither it nor the world. -/
structure Backend.QueriesMoveNothing (B : Backend σ κ) : Prop where
  size : ∀ c w, ∃ answer, B.size c w = ⟨answer, c, w⟩
  icyFields : ∀ c w, ∃ fields, B.icyFields c w = (fields, c)

namespace Stream

variable {B : Backend σ κ}

/-! ## Streams but for what they have reported -/

/-- The streams are the same but for the metadata they have reported. -/
def SameButReports : Stream σ κ → Stream σ κ → Prop := SameButMemory fun _ _ => True

theorem SameButReports.refl (s : Stream σ κ) : s.SameButReports s := ⟨s.differ, trivial, rfl⟩

theorem SameButReports.symm {s t : Stream σ κ} (h : s.SameButReports t) : t.SameButReports s := by
  obtain ⟨_, -, rfl⟩ := h
  exact ⟨s.differ, trivial, rfl⟩

theorem SameButReports.trans {s t u : Stream σ κ} (h : s.SameButReports t)
    (h' : t.SameButReports u) : s.SameButReports u := by
  obtain ⟨_, -, rfl⟩ := h
  obtain ⟨memory, -, rfl⟩ := h'
  exact ⟨memory, trivial, rfl⟩

/-- Only requests for metadata depend on what was reported. -/
theorem alike_perform {s t : Stream σ κ} (h : s.SameButReports t) (w : World σ) {command : Command}
    (hcommand : command ≠ .control .tags) :
    SameStep (fun s w t v => SameButReports s t ∧ w = v) (s.perform B w command)
      (t.perform B w command) := by
  refine (movesAlike_memory B _).perform ⟨h, rfl⟩ ?_
  rintro request rfl
  exact alike_control (fun _ _ _ => trivial) h w (by rintro rfl; exact hcommand rfl)

/-! ## Requests that only ask -/

/-- What a stream can be asked without being told to do anything. -/
inductive Query
  | size
  | tags
deriving DecidableEq, Repr

/-- The request that asks it. -/
def Query.request : Query → ControlRequest
  | .size => .size
  | .tags => .tags

/-- Being asked, a stream changes only what it has reported, and the world not at all. -/
theorem unmoved_query (hB : B.QueriesMoveNothing) (s : Stream σ κ) (query : Query) (w : World σ) :
    s.SameButReports (s.control B query.request w).stream ∧
      (s.control B query.request w).world = w := by
  cases query with
  | size =>
    obtain ⟨result, hasked⟩ := exists_call_eq (s := s) (w := w) (fun c _ => hB.size c w)
      ControlResult.unsupported sizeView
    show s.SameButReports (s.call w _ B.size sizeView).stream ∧
      (s.call w _ B.size sizeView).world = w
    rw [hasked]
    exact ⟨.refl s, rfl⟩
  | tags =>
    show s.SameButReports (s.pollTags B w).stream ∧ (s.pollTags B w).world = w
    cases hconn : s.conn with
    | none =>
      rw [pollTags_of_none hconn]
      exact ⟨.refl s, rfl⟩
    | some c =>
      obtain ⟨fields, hfields⟩ := hB.icyFields c w
      rw [pollTags_of_conn hconn]
      simp only [hfields, ← hconn, and_true]
      exact ⟨_, trivial, rfl⟩

/-! ## Runs -/

/-- What happens to a stream: a command of its caller, a request that only asks, or a change of the
world around it. -/
inductive RunStep (σ : Type)
  | perform (command : Command)
  | ask (query : Query)
  | change (f : World σ → World σ)

/-- It is not a request that only asks. -/
def RunStep.isOwn : RunStep σ → Bool
  | .ask _ => false
  | _ => true

/-- What a stream says of itself. -/
structure Appearance where
  connected : Bool
  seekable : Bool
  mimeType : Option String
  hint : Option DemuxerHint
  url : String
  mode : Mode
deriving DecidableEq, Repr

/-- The stream as it shows itself. -/
def appearance (s : Stream σ κ) : Appearance :=
  { connected := s.isConnected
    seekable := s.seekable
    mimeType := s.mimeType
    hint := s.hint
    url := s.url
    mode := s.mode }

/-- What there is to see after a command: its answer, unless it was a request for metadata, the
stream as it shows itself, and the world. -/
structure Observation (σ : Type) where
  answer : Option Answer
  appearance : Appearance
  world : World σ

/-- What there is to see after a command. -/
def observation (command : Command) (o : Outcome σ κ Answer) : Observation σ :=
  { answer := if command = .control .tags then none else some o.result
    appearance := o.stream.appearance
    world := o.world }

/-- Lets it all happen, one after the other, and collects what there is to see after each
command. -/
def follow (B : Backend σ κ) (s : Stream σ κ) (w : World σ) :
    List (RunStep σ) → Outcome σ κ (List (Observation σ))
  | [] => ⟨[], s, w⟩
  | .perform command :: later =>
    let now := s.perform B w command
    let rest := follow B now.stream now.world later
    ⟨observation command now :: rest.result, rest.stream, rest.world⟩
  | .ask query :: later =>
    let asked := s.control B query.request w
    follow B asked.stream asked.world later
  | .change f :: later => follow B s (f w) later

theorem SameButReports.appearance {s t : Stream σ κ} (h : s.SameButReports t) :
    s.appearance = t.appearance := by
  obtain ⟨_, -, rfl⟩ := h
  rfl

/-- A command shows the same, and leaves streams that are the same but for their reports. -/
theorem observation_perform (hB : B.QueriesMoveNothing) {s t : Stream σ κ} (h : s.SameButReports t)
    (w : World σ) (command : Command) :
    observation command (s.perform B w command) = observation command (t.perform B w command) ∧
      (s.perform B w command).stream.SameButReports (t.perform B w command).stream ∧
      (s.perform B w command).world = (t.perform B w command).world := by
  by_cases hcommand : command = .control .tags
  · -- Both runs ask for metadata, and either stream is left as it was but for its reports.
    subst hcommand
    obtain ⟨hone, hworld⟩ := unmoved_query hB s .tags w
    obtain ⟨hother, hworld'⟩ := unmoved_query hB t .tags w
    have hsame : (s.perform B w (.control .tags)).stream.SameButReports
        (t.perform B w (.control .tags)).stream := (hone.symm.trans h).trans hother
    have hworlds : (s.perform B w (.control .tags)).world =
        (t.perform B w (.control .tags)).world := hworld.trans hworld'.symm
    exact ⟨by simp only [observation, if_true, hsame.appearance, hworlds], hsame, hworlds⟩
  · obtain ⟨hresult, hsame, hworlds⟩ := alike_perform h w hcommand (B := B)
    exact ⟨by simp only [observation, hresult, hsame.appearance, hworlds], hsame, hworlds⟩

/-- A run with requests that only ask is the run without them. -/
theorem follow_own (hB : B.QueriesMoveNothing) {s t : Stream σ κ} (h : s.SameButReports t)
    (w : World σ) (steps : List (RunStep σ)) :
    let one := s.follow B w steps
    let other := t.follow B w (steps.filter RunStep.isOwn)
    one.result = other.result ∧ one.stream.SameButReports other.stream ∧
      one.world = other.world := by
  induction steps generalizing s t w with
  | nil => exact ⟨rfl, h, rfl⟩
  | cons now later ih =>
    cases now with
    | perform command =>
      obtain ⟨hsight, hnext, hworld⟩ := observation_perform hB h w command
      obtain ⟨hrest, hlast⟩ := ih hnext (t.perform B w command).world
      simp only [List.filter_cons_of_pos (show (RunStep.perform command).isOwn = true from rfl),
        follow, hworld]
      exact ⟨by rw [hsight, hrest], hlast⟩
    | ask query =>
      obtain ⟨hsame, hworld⟩ := unmoved_query hB s query w
      simp only [List.filter_cons_of_neg (show ¬ (RunStep.ask query).isOwn = true by
        simp [RunStep.isOwn]), follow, hworld]
      exact ih (hsame.symm.trans h) w
    | change f => exact ih h (f w)

/-! ## The two backends -/

theorem queriesMoveNothing_http {τ : Type} (t : Http.Transport) (o : Http.Order τ) :
    (Http.backendBy t o).QueriesMoveNothing where
  size c _ := ⟨.ok c.size, rfl⟩
  icyFields c _ := ⟨c.icyFields, rfl⟩

theorem queriesMoveNothing_memory : Memory.backend.QueriesMoveNothing where
  size _ w := ⟨.ok w.state.settings.size, rfl⟩
  icyFields _ w := ⟨w.state.settings.icy, rfl⟩

/-- The requests that only ask leave no trace in the run: every other command has the answer that
it has without them, what the stream shows of itself and the world are the same after each command
and at the end, and so is the world once the stream has been given up. -/
def UnaffectedByQueries (B : Backend σ κ) (s : Stream σ κ) (w : World σ)
    (steps : List (RunStep σ)) :
    Prop :=
  let one := s.follow B w steps
  let other := s.follow B w (steps.filter RunStep.isOwn)
  one.result = other.result ∧ one.stream.appearance = other.stream.appearance ∧
    one.world = other.world ∧
    one.stream.close B one.world = other.stream.close B other.world

theorem unaffected_of_queriesMoveNothing (hB : B.QueriesMoveNothing) (s : Stream σ κ) (w : World σ)
    (steps : List (RunStep σ)) : UnaffectedByQueries B s w steps := by
  obtain ⟨hsights, hsame, hworld⟩ := follow_own hB (.refl s) w steps
  refine ⟨hsights, hsame.appearance, hworld, ?_⟩
  obtain ⟨_, -, hstream⟩ := hsame
  show (Stream.release B _ _).2 = (Stream.release B _ _).2
  rw [hstream, ← hworld]
  rfl

/-- **Asking changes nothing**, over HTTP, on any transport and however the waits go, and from
memory: for every stream, whatever has happened to it, and every run, with requests for the size and
for metadata put in anywhere. -/
theorem queries_leave_no_trace {τ : Type} :
    (∀ (t : Http.Transport) (o : Http.Order τ) (s : Stream (Http.Server τ) Http.Connection) w
      steps, UnaffectedByQueries (Http.backendBy t o) s w steps) ∧
    (∀ (s : Stream Memory.Store Memory.Connection) w steps,
      UnaffectedByQueries Memory.backend s w steps) :=
  ⟨fun t o => unaffected_of_queriesMoveNothing (queriesMoveNothing_http t o),
    unaffected_of_queriesMoveNothing queriesMoveNothing_memory⟩

end Stream

end ByteStream
