/-
# ByteStream.Proofs.Http.Capabilities -- what a connection can do is settled when it is opened

Whether a connection can seek, whether it cuts metadata out, its size, its type and its metadata
header lines are all read off the response that opened it, and no call changes them, whatever the
responses to later requests say (`settled_of_leads`). A connection that can seek knows its size and
cuts nothing out. A stream shows what its connection can do, and shows the same until it connects
again; so a seek of it never gets to a connection that cuts metadata out
(`capabilities_settled_at_open`).

A value of a field counts only if ASCII can show it. That needs no mention: the blanks around the
value of a field are spaces and tabs, and between these a text that is `bytes` in any case, or a
count, holds nothing that ASCII cannot show.
-/

import ByteStream.Proofs.General
import ByteStream.Proofs.Http.IcyHeaders
import ByteStream.Proofs.Http.Seeking

namespace ByteStream.Http

open Text

/-! ## Blanks around a value -/

/-- A space or a tab: what may stand around the value of a field. -/
def isEdge (c : Char) : Bool := c == ' ' || c == '\t'

/-- A character that ASCII can show, or a tab. -/
def isShown (c : Char) : Bool := c == '\t' || (' ' ≤ c && c ≤ '~')

theorem isShown_of_isEdge {c : Char} (h : isEdge c = true) : isShown c = true := by
  rw [isEdge, Bool.or_eq_true, beq_iff_eq, beq_iff_eq] at h
  rcases h with rfl | rfl
  · decide
  · decide

/-- Of the blanks, ASCII can show those that may stand around a value. -/
theorem isBlank_of_isShown {c : Char} (h : isShown c = true) : isBlank c = isEdge c := by
  have hspace : c = ' ' ↔ c.toNat = 32 := (Char.toNat_inj (d := ' ')).symm
  have htab : c = '\t' ↔ c.toNat = 9 := (Char.toNat_inj (d := '\t')).symm
  have hrange : c.toNat = 9 ∨ 32 ≤ c.toNat ∧ c.toNat ≤ 126 := by
    rw [isShown, Bool.or_eq_true, beq_iff_eq, htab, Bool.and_eq_true, decide_eq_true_eq,
      decide_eq_true_eq] at h
    exact h.imp id fun hbounds => ⟨hbounds.1, hbounds.2⟩
  rw [Bool.eq_iff_iff]
  simp only [isBlank, isEdge, Bool.or_eq_true, Bool.and_eq_true, decide_eq_true_eq, beq_iff_eq,
    hspace, htab]
  omega

/-- A value that ASCII can show has no other blanks around it. -/
theorem trimmed_of_isVisible {value : String} (h : isVisible value = true) :
    trimmed value = stripped value := by
  have hsame : ∀ c ∈ value.toList, isBlank c = isEdge c :=
    fun c hc => isBlank_of_isShown (List.all_eq_true.1 h c hc)
  have hrest : ∀ c ∈ (value.toList.dropWhile isEdge).reverse, isBlank c = isEdge c :=
    fun c hc => hsame c ((List.dropWhile_sublist _).subset (List.mem_reverse.1 hc))
  show String.ofList (trim value.toList) = String.ofList (trimEnd isEdge _)
  rw [trim, dropWhile_congr hsame, trimEnd, dropWhile_congr hrest]
  rfl

/-- ASCII can show a value if it can show what is left without the blanks. -/
theorem isVisible_of_stripped {value : String} (h : isVisible (stripped value) = true) :
    isVisible value = true := by
  obtain ⟨tail, hrest, htail⟩ := trimEnd_append isEdge (value.toList.dropWhile isEdge)
  have hedge : ∀ cs : List Char, cs.all isEdge = true → cs.all isShown = true := by
    intro cs hcs
    rw [List.all_eq_true] at hcs ⊢
    exact fun c hc => isShown_of_isEdge (hcs c hc)
  have hinner : (trimEnd isEdge (value.toList.dropWhile isEdge)).all isShown = true := by
    rw [← h, isVisible, stripped, String.toList_ofList]
    rfl
  show value.toList.all isShown = true
  rw [← List.takeWhile_append_dropWhile (p := isEdge) (l := value.toList), hrest, List.all_append,
    List.all_append, hinner, hedge _ htail, hedge _ List.all_takeWhile]
  rfl

/-! ## Values that count -/

theorem isShown_of_toLower {c : Char} (h : isShown c.toLower = true) : isShown c = true := by
  by_cases hupper : c.val ≥ 'A'.val ∧ c.val ≤ 'Z'.val
  · -- Capital letters stand between the space and the tilde.
    have hspace : ' '.val ≤ c.val := UInt32.le_trans (by decide) hupper.1
    have htilde : c.val ≤ '~'.val := UInt32.le_trans hupper.2 (by decide)
    rw [isShown, Bool.or_eq_true, Bool.and_eq_true, decide_eq_true_eq, decide_eq_true_eq]
    exact .inr ⟨hspace, htilde⟩
  · unfold Char.toLower at h
    rwa [dif_neg hupper] at h

/-- ASCII can show a text if it can show its lower-case form. -/
theorem isVisible_of_sameName {text other : String} (h : sameName text other = true)
    (hother : isVisible (lower other) = true) : isVisible text = true := by
  rw [sameName_iff] at h
  rw [← h, isVisible, toList_lower, List.all_map, List.all_eq_true] at hother
  rw [isVisible, List.all_eq_true]
  exact fun c hc => isShown_of_toLower (hother c hc)

/-- A count is written in digits, perhaps after a plus sign. -/
theorem isShown_of_count? {cs : List Char} {n : Nat} (h : count? cs = some n) :
    cs.all isShown = true := by
  have hdigit : ∀ c : Char, c.isDigit = true → isShown c = true := by
    intro c hc
    have hzero : '0'.val ≤ c.val := of_decide_eq_true (Bool.and_eq_true_iff.1 hc).1
    have hnine : c.val ≤ '9'.val := of_decide_eq_true (Bool.and_eq_true_iff.1 hc).2
    rw [isShown, Bool.or_eq_true, Bool.and_eq_true, decide_eq_true_eq, decide_eq_true_eq]
    exact .inr ⟨UInt32.le_trans (by decide) hzero, UInt32.le_trans hnine (by decide)⟩
  have hdigits : ((after? ['+'] cs).getD cs).all Char.isDigit = true := by
    unfold count? at h
    by_contra hnot
    rw [if_pos (.inr hnot)] at h
    cases h
  have hshown : ((after? ['+'] cs).getD cs).all isShown = true := by
    rw [List.all_eq_true] at hdigits ⊢
    exact fun c hc => hdigit c (hdigits c hc)
  cases hplus : after? ['+'] cs with
  | none => simpa [hplus] using hshown
  | some rest =>
    rw [hplus] at hshown
    rw [after?_eq_some_iff.1 hplus, List.all_append, show rest.all isShown = true from hshown]
    rfl

/-- A value that ASCII can show but for its blanks counts, and has no other blanks around it. -/
theorem visible?_of_stripped {m : HeaderMap} {name value : String}
    (hfirst : m.get? name = some value) (h : isVisible (stripped value) = true) :
    visible? m name = some value ∧ trimmed value = stripped value := by
  have hvisible := isVisible_of_stripped h
  exact ⟨Option.filter_eq_some_iff.2 ⟨hfirst, hvisible⟩, trimmed_of_isVisible hvisible⟩

/-- Parts are offered if the first value of the field is `bytes`, in any case. -/
theorem offersParts_iff {m : HeaderMap} :
    offersParts m = true ↔
      ∃ value, m.get? "accept-ranges" = some value ∧ sameName (stripped value) "bytes" = true := by
  unfold offersParts
  rw [Option.any_eq_true]
  constructor
  · rintro ⟨value, hvalue, hbytes⟩
    obtain ⟨hfirst, hvisible⟩ := Option.filter_eq_some_iff.1 hvalue
    rw [trimmed_of_isVisible hvisible] at hbytes
    exact ⟨value, hfirst, hbytes⟩
  · rintro ⟨value, hfirst, hbytes⟩
    obtain ⟨hvalue, hblanks⟩ := visible?_of_stripped hfirst
      (isVisible_of_sameName hbytes (by decide))
    exact ⟨value, hvalue, by rw [hblanks]; exact hbytes⟩

/-- An interval is announced if the first value of the field is a count. -/
theorem icyInterval?_eq_some_iff {m : HeaderMap} {n : Nat} :
    icyInterval? m = some n ↔
      ∃ value, m.get? "icy-metaint" = some value ∧ count? (stripped value).toList = some n := by
  have htrim : ∀ value : String, trim value.toList = (trimmed value).toList :=
    fun value => String.toList_ofList.symm
  unfold icyInterval?
  rw [Option.bind_eq_some_iff]
  constructor
  · rintro ⟨value, hvalue, hcount⟩
    obtain ⟨hfirst, hvisible⟩ := Option.filter_eq_some_iff.1 hvalue
    rw [htrim, trimmed_of_isVisible hvisible] at hcount
    exact ⟨value, hfirst, hcount⟩
  · rintro ⟨value, hfirst, hcount⟩
    obtain ⟨hvalue, hblanks⟩ := visible?_of_stripped hfirst (isShown_of_count? hcount)
    exact ⟨value, hvalue, by rw [htrim, hblanks]; exact hcount⟩

/-- Metadata is cut out if it was asked for and the interval is positive. -/
theorem isSome_demuxer?_iff {wanted : Bool} {m : HeaderMap} :
    (demuxer? wanted m).isSome = true ↔
      wanted = true ∧ ∃ n, icyInterval? m = some n ∧ 0 < n := by
  unfold demuxer?
  cases wanted with
  | false => simp
  | true =>
    rw [if_pos rfl]
    cases icyInterval? m with
    | none => simp
    | some n =>
      rw [Option.bind_some, Icy.Demuxer.ofInterval]
      by_cases hn : n = 0
      · simp [hn]
      · simp [hn, Nat.pos_of_ne_zero hn]

/-! ## What is settled -/

namespace Connection

/-- What the connection can do is what the response says, given whether metadata was asked for. -/
structure SettledBy (wantsIcy : Bool) (r : Response) (c : Connection) : Prop where
  /-- It can seek if it knows its size, cuts nothing out, and parts are offered. -/
  seekable : c.seekable = true ↔ c.size.isSome = true ∧ c.demuxer = none ∧
    ∃ value, r.headers.get? "accept-ranges" = some value ∧
      sameName (stripped value) "bytes" = true
  /-- It cuts metadata out if that was asked for and a positive interval is announced. -/
  demuxer : c.demuxer.isSome = true ↔ wantsIcy = true ∧
    ∃ value n, r.headers.get? "icy-metaint" = some value ∧
      count? (stripped value).toList = some n ∧ 0 < n
  size : c.size = r.size
  mimeType : c.mimeType = contentType? r.headers
  icyHeaders : c.icyHeaders = if wantsIcy then icyHeaders? r.headers else none

theorem settledBy_ofResponse (url : Url) (base : HeaderMap) (interrupt : Interrupt)
    (wantsIcy : Bool) (r : Response) :
    (ofResponse url base interrupt wantsIcy r).SettledBy wantsIcy r where
  seekable := by
    have hseekable : (ofResponse url base interrupt wantsIcy r).seekable =
        (offersParts r.headers && r.size.isSome && (demuxer? wantsIcy r.headers).isNone) := rfl
    have hsize : (ofResponse url base interrupt wantsIcy r).size = r.size := rfl
    have hdemuxer : (ofResponse url base interrupt wantsIcy r).demuxer =
        demuxer? wantsIcy r.headers := rfl
    rw [hseekable, hsize, hdemuxer, ← offersParts_iff, Bool.and_eq_true, Bool.and_eq_true,
      Option.isNone_iff_eq_none]
    constructor
    · rintro ⟨⟨hoffers, hknown⟩, hwhole⟩
      exact ⟨hknown, hwhole, hoffers⟩
    · rintro ⟨hknown, hwhole, hoffers⟩
      exact ⟨⟨hoffers, hknown⟩, hwhole⟩
  demuxer := by
    have hdemuxer : (ofResponse url base interrupt wantsIcy r).demuxer =
        demuxer? wantsIcy r.headers := rfl
    rw [hdemuxer, isSome_demuxer?_iff]
    simp only [icyInterval?_eq_some_iff]
    refine and_congr_right fun _ => ⟨?_, ?_⟩
    · rintro ⟨n, ⟨value, hfirst, hcount⟩, hn⟩
      exact ⟨value, n, hfirst, hcount, hn⟩
    · rintro ⟨value, n, hfirst, hcount, hn⟩
      exact ⟨n, ⟨value, hfirst, hcount⟩, hn⟩
  size := rfl
  mimeType := rfl
  icyHeaders := rfl

/-- What is settled shows in the terms of a connection. -/
theorem SettledBy.congr {wantsIcy : Bool} {r : Response} {c d : Connection}
    (h : c.SettledBy wantsIcy r) (hterms : d.terms = c.terms) : d.SettledBy wantsIcy r := by
  have hsize : d.size = c.size := congrArg Terms.size hterms
  have hcuts : d.demuxer.isSome = c.demuxer.isSome := congrArg Terms.cutsOut hterms
  have hseekable : d.seekable = c.seekable := congrArg Terms.seekable hterms
  have hnone : d.demuxer = none ↔ c.demuxer = none := by
    rw [← Option.not_isSome_iff_eq_none, ← Option.not_isSome_iff_eq_none, hcuts]
  refine ⟨?_, ?_, hsize.trans h.size, (congrArg Terms.mimeType hterms).trans h.mimeType,
    (congrArg Terms.icyHeaders hterms).trans h.icyHeaders⟩
  · rw [hseekable, hsize, hnone]
    exact h.seekable
  · rw [hcuts]
    exact h.demuxer

end Connection

variable {τ : Type} {t : Transport}

/-- No call changes it. -/
theorem settled_of_leads {url : Url} {base : HeaderMap} {interrupt : Interrupt} {wantsIcy : Bool}
    {r : Response} {c : Connection}
    (h : (backendOver t : Backend (Server τ) Connection).Leads
      (Connection.ofResponse url base interrupt wantsIcy r) c) : c.SettledBy wantsIcy r :=
  (Connection.settledBy_ofResponse url base interrupt wantsIcy r).congr
    (Connection.terms_of_leads h)

end ByteStream.Http

namespace ByteStream.Stream

open Http

variable {τ : Type} {t : Transport} {config : Config}
  {cookies : CookieProvider (Server τ)} {address : String} {mode : Mode}
  {s : Stream (Server τ) Connection} {c : Connection}

theorem mimeType_of_reached (h : Reached (backendOver t) config cookies address mode s)
    (hconn : s.conn = some c) : s.mimeType = c.mimeType := by
  obtain ⟨w, given, -, hleads, -, hmimeType⟩ := h.connectionGiven c hconn
  exact hmimeType.trans (congrArg Connection.Terms.mimeType (Connection.terms_of_leads hleads)).symm

/-- The connection of a stream was opened by a response. -/
theorem opened_of_reached (h : Reached (backendOver t) config cookies address mode s)
    (hconn : s.conn = some c) :
    ∃ url base interrupt wantsIcy r, (backendOver t : Backend (Server τ) Connection).Leads
      (Connection.ofResponse url base interrupt wantsIcy r) c := by
  obtain ⟨w, given, hanswer, hleads, -, -⟩ := h.connectionGiven c hconn
  obtain ⟨url, settings, base, r, -, -, rfl⟩ := opened_of_connect hanswer
  exact ⟨url, base, _, settings.icy, r, hleads⟩

/-- A stream whose connection cuts metadata out does not hand a seek on to it. -/
theorem seek_of_demuxer (h : Reached (backendOver t) config cookies address mode s)
    (hconn : s.conn = some c) (hcuts : c.demuxer.isSome = true)
    (B : Backend (Server τ) Connection) (pos : Nat) (w : World (Server τ)) :
    s.seek B pos w = ⟨.error (.unsupported .seek), s, w⟩ := by
  have hseekable : s.seekable = false := by
    obtain ⟨url, base, interrupt, wantsIcy, r, hleads⟩ := opened_of_reached h hconn
    rw [seekable_of_reached h hconn, ← Bool.not_eq_true]
    intro hseeks
    rw [((settled_of_leads hleads).seekable.1 hseeks).2.1] at hcuts
    cases hcuts
  unfold Stream.seek
  rw [if_neg (by simp [hseekable])]

/-- **What a connection can do is settled when it is opened.** Take any response, whatever its
fields and its body, and the connection that it opens, after any calls in any worlds. It can seek
exactly if it knows its size, cuts no metadata out, and the first value that offers parts is `bytes`
in any case; it cuts metadata out exactly if that was asked for and the first value that announces
an interval is a positive count; and its size, its type and its metadata header lines are those of
the response. The connection of a stream is such a one, whatever the history of the stream, which
shows whether it can seek and its type; if it cuts metadata out, no seek of the stream calls any
backend. Until it connects again, a stream shows the same. -/
theorem capabilities_settled_at_open (t : Transport) :
    (∀ (url : Url) (base : HeaderMap) (interrupt : Interrupt) (wantsIcy : Bool) (r : Response)
      (c : Connection), (backendOver t : Backend (Server τ) Connection).Leads
        (Connection.ofResponse url base interrupt wantsIcy r) c → c.SettledBy wantsIcy r) ∧
    ∀ (config : Config) (cookies : CookieProvider (Server τ)) (address : String) (mode : Mode)
      (s : Stream (Server τ) Connection),
      Reached (backendOver t) config cookies address mode s →
      (∀ c, s.conn = some c → s.seekable = c.seekable ∧ s.mimeType = c.mimeType ∧
        (∃ url base interrupt wantsIcy r, (backendOver t : Backend (Server τ) Connection).Leads
          (Connection.ofResponse url base interrupt wantsIcy r) c) ∧
        (c.demuxer.isSome = true → ∀ (B : Backend (Server τ) Connection) (pos : Nat)
          (w : World (Server τ)), s.seek B pos w = ⟨.error (.unsupported .seek), s, w⟩)) ∧
      ∀ s', WithoutReconnect (backendOver t) s s' →
        s'.seekable = s.seekable ∧ s'.mimeType = s.mimeType := by
  refine ⟨fun url base interrupt wantsIcy r c h => settled_of_leads h, ?_⟩
  intro config cookies address mode s h
  refine ⟨?_, fun s' hs' => ⟨hs'.keepsConnection.seekable, hs'.keepsConnection.mimeType⟩⟩
  intro c hconn
  exact ⟨seekable_of_reached h hconn, mimeType_of_reached h hconn, opened_of_reached h hconn,
    fun hcuts B pos w => seek_of_demuxer h hconn hcuts B pos w⟩

/-- A response that offers parts, in two ways, and announces an interval. -/
def offering : Response where
  status := 200
  headers := .ofFields
    [("accept-ranges", "\tBYTES "), ("accept-ranges", "none"), ("icy-metaint", " +3")]
  size := some 5
  body := ⟨[[104, 101, 108, 108, 111]], .complete⟩

theorem capabilities_settled_at_open_offering :
    let url : Url := ⟨.http, "", none, .ipv6 [0, 0, 0, 0, 0, 0, 0, 1], none, "/f", none, none⟩
    let file := (Connection.ofResponse url .empty .never false offering).read 2 greeting
    let radio := (Connection.ofResponse url .empty .never true offering).read 2 greeting
    (file.conn.seek .plain 3 greeting).conn.seekable = true ∧
      (radio.conn.demuxer.isSome = true ∧ radio.conn.seekable = false) ∧
      ∃ s w', Stream.openAt Http.backend {} .none "http://[::1]/f" .read greeting =
          (.ok (.stream s), w') ∧ s.seekable = true ∧
        (s.perform Http.backend w' (.seek 3)).stream.seekable = true := by
  intro url file radio
  obtain ⟨hsettled, hstreams⟩ := @capabilities_settled_at_open (List Reaction) .plain
  have hinterval : count? (stripped " +3").toList = some 3 := by decide +kernel
  refine ⟨?_, ?_, ?_⟩
  · have hfile := hsettled url .empty .never false offering _
      ((Backend.Leads.here.read 2 greeting).seek 3 greeting)
    have hwhole := mt hfile.demuxer.1 fun hboth => Bool.false_ne_true hboth.1
    refine hfile.seekable.2 ⟨by rw [hfile.size]; rfl, Option.not_isSome_iff_eq_none.1 hwhole, ?_⟩
    exact ⟨"\tBYTES ", rfl, by decide +kernel⟩
  · have hradio := hsettled url .empty .never true offering _
      (Backend.Leads.here.read 2 greeting)
    have hcuts := hradio.demuxer.2 ⟨rfl, " +3", 3, rfl, hinterval, by decide⟩
    refine ⟨hcuts, ?_⟩
    rw [← Bool.not_eq_true]
    intro hseekable
    rw [(hradio.seekable.1 hseekable).2.1] at hcuts
    cases hcuts
  · have hlook : afterOpening {} greeting (fun s _ => s.seekable) = some true := by decide +kernel
    obtain ⟨s, w', hopen, hshown⟩ := exists_of_afterOpening hlook
    refine ⟨s, w', hopen, hshown, ?_⟩
    have hlast := (hstreams {} _ _ _ s (.opened hopen)).2 _
      (.performed .here (show Command.seek 3 ≠ .control .reconnect by simp) w')
    exact hlast.1.trans hshown

end ByteStream.Stream
