import SensorHost.Acquisition.Controller
import SensorHost.Lib.Crc32
import SensorHost.Lib.Marked
import SensorHost.Ota.Separation
import SensorHost.Protocol.Valid

/-!
# Arming the OTA bridge

While OTA is armed, the bytes of a session go through the demultiplexer before they reach the parser.
Each of the two may hold a partial frame. Disarming hands the demultiplexer's residue over to the
parser (`parseChunk_idle`); arming hands nothing over, and a re-arming throws the residue away.

`bridge_transparent` shows that this is the only leak: over any stream of valid frames and reply
lines, any chunks and any schedule of `start_ota` and `end_ota`, if no arming takes effect while a
partial frame or line is held, then exactly the frames and exactly the lines come out.
`bridge_claims_frame_text` is a run that arms inside a CLI frame.

The stream is marked: every byte says whether it belongs to a reply line, and the events of a run
have their marked bytes. `Bridged` states where the bytes are that were read and not yet passed on;
an event passes some of them on (`Passed`), and `bridge_step` is the step for each kind of event. A
re-arming throws away what is held, and an arming leaves it in the parser, which is why nothing may
be held then.
-/

namespace SensorHost.Acquisition
open SensorHost.Lib SensorHost.Protocol SensorHost.Ota

/-- One item of the stream: a valid frame, or a bare reply line. -/
inductive BridgeItem (crc32 : Bytes → UInt32) (maxLine : Nat) where
  | frame (f : ValidFrame crc32)
  | line (l : ReplyLine maxLine)

variable {crc32 : Bytes → UInt32} {maxLine : Nat}

namespace BridgeItem

/-- The item on the wire. -/
def bytes : BridgeItem crc32 maxLine → Bytes
  | .frame f => f.bytes
  | .line l => l.bytes

/-- Whether the item is a reply line. -/
def isLine : BridgeItem crc32 maxLine → Bool
  | .frame _ => false
  | .line _ => true

/-- The frame, if the item is one. -/
def frame? : BridgeItem crc32 maxLine → Option (ValidFrame crc32)
  | .frame f => some f
  | .line _ => none

/-- The stripped line, if the item is one. -/
def line? : BridgeItem crc32 maxLine → Option Bytes
  | .frame _ => none
  | .line l => some (stripBytes l.bytes)

end BridgeItem

/-- A valid frame, as the demultiplexer sees it. -/
def sdfFrame (f : ValidFrame crc32) : SdfFrame where
  bytes := f.bytes
  magic := f.good.magic
  headerSize_range := f.good.rules.size
  payloadSize_le := f.good.rules.payload
  length_eq := f.takes.size_eq

/-- The item, as the demultiplexer sees it. -/
def BridgeItem.mixed : BridgeItem crc32 maxLine → MixedItem maxLine
  | .frame f => .frame (sdfFrame f)
  | .line l => .line l

/-- What happens to the bridge: a read, whose bytes carry the mark of a reply line, or a call. -/
inductive BridgeEvent where
  | chunk (data : List (UInt8 × Bool))
  | startOta
  | endOta

/-- The marked bytes of the event. -/
def BridgeEvent.data : BridgeEvent → List (UInt8 × Bool)
  | .chunk data => data
  | _ => []

/-- One event, with the frames that the parser emits and the lines put in the reply queue. `run`
never parses an empty read. -/
def AcquisitionController.bridge (crc32 : Bytes → UInt32) (c : AcquisitionController) :
    BridgeEvent → AcquisitionController × List Frame × List Bytes
  | .chunk data => if data = [] then (c, [], []) else c.parseChunk crc32 (unmark data)
  | .startOta => (c.startOta, [], [])
  | .endOta => (c.endOta, [], [])

/-- A sequence of events. -/
def bridgeRun (crc32 : Bytes → UInt32) (c : AcquisitionController) :
    List BridgeEvent → AcquisitionController × List Frame × List Bytes
  | [] => (c, [], [])
  | e :: es =>
    let now := c.bridge crc32 e
    let later := bridgeRun crc32 now.1 es
    (later.1, now.2.1 ++ later.2.1, now.2.2 ++ later.2.2)

/-- The condition holds at every event of the run. -/
def AlongRun (crc32 : Bytes → UInt32) (P : AcquisitionController → BridgeEvent → Prop)
    (c : AcquisitionController) : List BridgeEvent → Prop
  | [] => True
  | e :: es => P c e ∧ AlongRun crc32 P (c.bridge crc32 e).1 es

/-- Bytes of reply lines arrive only while OTA is armed. -/
def LinesWhileArmed (c : AcquisitionController) (e : BridgeEvent) : Prop :=
  c.otaActive = false → ∀ x ∈ e.data, x.2 = false

/-- An arming takes effect, at the first read behind it, only while nothing is held. -/
def ArmsAtBoundary (c : AcquisitionController) (e : BridgeEvent) : Prop :=
  e.data ≠ [] → c.otaActive = true → c.otaResetPending = true →
    c.parser.buffer = [] ∧ c.otaDemux.pending = []

instance (c : AcquisitionController) (e : BridgeEvent) : Decidable (LinesWhileArmed c e) :=
  inferInstanceAs (Decidable (_ → _))

instance (c : AcquisitionController) (e : BridgeEvent) : Decidable (ArmsAtBoundary c e) :=
  inferInstanceAs (Decidable (_ → _))

instance AlongRun.decidable {P : AcquisitionController → BridgeEvent → Prop}
    [∀ c e, Decidable (P c e)] :
    (c : AcquisitionController) → (events : List BridgeEvent) → Decidable (AlongRun crc32 P c events)
  | _, [] => inferInstanceAs (Decidable True)
  | c, e :: es =>
    @instDecidableAnd _ _ (inferInstanceAs (Decidable (P c e)))
      (AlongRun.decidable (c.bridge crc32 e).1 es)

/-- The bytes read and not yet passed on are in the demultiplexer, or, unless OTA is armed, in the
parser. -/
def Bridged (c : AcquisitionController) (held : Bytes) : Prop :=
  (c.parser.buffer = [] ∧ c.otaDemux.pending = held) ∨
    (c.otaDemux.pending = [] ∧ c.parser.buffer = held ∧
      (c.otaActive = true → c.otaResetPending = true))

/-- The result of one event: the items `done` have come out, and `held` is held. -/
structure Passed (c : AcquisitionController) (done : List (BridgeItem crc32 maxLine)) (held : Bytes)
    (result : AcquisitionController × List Frame × List Bytes) : Prop where
  out : result.2 = ((c.parser.toDecoder.frames (done.filterMap BridgeItem.frame?)).2,
    done.filterMap BridgeItem.line?)
  decoder : result.1.parser.toDecoder =
    (c.parser.toDecoder.frames (done.filterMap BridgeItem.frame?)).1
  line : result.1.otaDemux.maxLine = maxLine
  held : Bridged result.1 held

/-- An item is not empty. -/
lemma BridgeItem.ne_nil (it : BridgeItem crc32 maxLine) : it.bytes ≠ [] := by
  cases it with
  | frame f => exact f.ne_nil
  | line l => simp [BridgeItem.bytes, ReplyLine.bytes]

/-- An item has the bytes that the demultiplexer sees. -/
lemma bytes_mixed (it : BridgeItem crc32 maxLine) : it.mixed.bytes = it.bytes := by
  cases it <;> rfl

/-- Its lines are the reply lines. -/
lemma linesOf_mixed (items : List (BridgeItem crc32 maxLine)) :
    linesOf (items.map BridgeItem.mixed) = items.filterMap BridgeItem.line? := by
  rw [linesOf, List.filterMap_map]
  congr 1
  funext it
  cases it <;> rfl

/-- Its frames are the valid frames. -/
lemma framesOf_mixed (items : List (BridgeItem crc32 maxLine)) :
    Ota.framesOf (items.map BridgeItem.mixed) = bytesOf (items.filterMap BridgeItem.frame?) := by
  rw [Ota.framesOf, bytesOf, List.filterMap_map, List.map_filterMap]
  congr 2
  funext it
  cases it <;> rfl

/-- Without reply lines, a stream is the stream of its frames. -/
lemma bytesOf_frames {items : List (BridgeItem crc32 maxLine)} (h : ∀ it ∈ items, it.isLine = false) :
    (items.map BridgeItem.bytes).flatten = bytesOf (items.filterMap BridgeItem.frame?) ∧
      items.filterMap BridgeItem.line? = [] := by
  induction items with
  | nil => exact ⟨rfl, rfl⟩
  | cons it items ih =>
    obtain ⟨hbytes, hlines⟩ := ih fun it' hit => h it' (List.mem_cons_of_mem _ hit)
    cases it with
    | frame f =>
      refine ⟨?_, hlines⟩
      rw [List.map_cons, List.flatten_cons, hbytes]
      rfl
    | line l => exact absurd (h _ List.mem_cons_self) (by simp [BridgeItem.isLine])

/-- Only no frames have no bytes. -/
lemma bytesOf_eq_nil {frames : List (ValidFrame crc32)} (h : bytesOf frames = []) : frames = [] := by
  cases frames with
  | nil => rfl
  | cons f frames =>
    rw [bytesOf, List.map_cons, List.flatten_cons, List.append_eq_nil_iff] at h
    exact absurd h.1 f.ne_nil

variable {c : AcquisitionController} {done rest : List (BridgeItem crc32 maxLine)}
  {p q chunk : Bytes}

/-- The bytes of some items and of a part of the next are a mixed stream. -/
lemma flatten_mixed (items : List (BridgeItem crc32 maxLine)) :
    (items.map BridgeItem.bytes).flatten = Ota.streamOf (items.map BridgeItem.mixed) := by
  rw [Ota.streamOf, List.map_map]
  congr 2
  funext it
  exact (bytes_mixed it).symm

/-- The parser gets whole frames only, so it holds nothing. -/
lemma feedParser_frames {data : Bytes} {frames : List (ValidFrame crc32)}
    (h : c.parser.buffer ++ data = bytesOf frames ++ q) (hq : (sdf1 crc32).look q = .wait) :
    c.feedParser crc32 data =
      ({ c with parser.toDecoder := (c.parser.toDecoder.frames frames).1, parser.buffer := q },
        (c.parser.toDecoder.frames frames).2) := by
  rw [AcquisitionController.feedParser, c.parser.feed_frames data q frames h hq]

/-- A read while OTA is armed and synchronised. -/
lemma parseChunk_armed (hactive : c.otaActive = true) (hbuffer : c.parser.buffer = [])
    (hpending : c.otaDemux.pending = p) (hreset : c.otaResetPending = true → p = [])
    (hline : c.otaDemux.maxLine = maxLine)
    (hcut : p ++ chunk = (done.map BridgeItem.bytes).flatten ++ q)
    (hq : Partial q (rest.map BridgeItem.bytes)) :
    Passed c done q (c.parseChunk crc32 chunk) := by
  subst hline
  have hfeed : c.otaDemux.feed chunk = ({ c.otaDemux with pending := q },
      done.filterMap BridgeItem.line?, bytesOf (done.filterMap BridgeItem.frame?)) := by
    rw [← linesOf_mixed, ← framesOf_mixed]
    have hmap : (rest.map BridgeItem.mixed).map MixedItem.bytes = rest.map BridgeItem.bytes := by
      rw [List.map_map]
      exact List.map_congr_left fun it _ => bytes_mixed it
    refine c.otaDemux.feed_of_cut ?_ (hmap ▸ hq)
    rw [hpending, hcut, flatten_mixed]
  generalize hframes : done.filterMap BridgeItem.frame? = frames at *
  -- a pending reset finds nothing to throw away
  have hsync : ∃ c₀ : AcquisitionController, c₀.otaDemux = c.otaDemux ∧ c₀.parser = c.parser ∧
      (if c.otaResetPending then
        { c with otaDemux := c.otaDemux.reset, otaReplies := [], otaResetPending := false }
      else c) = c₀ := by
    refine ⟨_, ?_, ?_, rfl⟩
    · split
      · rename_i hr
        rw [StreamDemultiplexer.reset, ← hreset hr, ← hpending]
      · rfl
    · split <;> rfl
  obtain ⟨c₀, hdemux, hparser, hc₀⟩ := hsync
  simp only [AcquisitionController.parseChunk, if_pos hactive, hc₀, hdemux, hfeed]
  by_cases hnil : frames = []
  · subst hnil
    rw [if_pos (show bytesOf ([] : List (ValidFrame crc32)) = [] from rfl)]
    exact ⟨by rw [hframes]; rfl, by rw [hframes]; exact congrArg _ hparser, rfl,
      .inl ⟨(congrArg _ hparser).trans hbuffer, rfl⟩⟩
  · have hparse := feedParser_frames (q := [])
      (c := { c₀ with
        otaDemux := { c.otaDemux with pending := q }
        otaReplies := c₀.otaReplies ++ done.filterMap BridgeItem.line? })
      (show c₀.parser.buffer ++ bytesOf frames = bytesOf frames ++ [] by simp [hparser, hbuffer])
      rfl
    rw [if_neg fun h => hnil (bytesOf_eq_nil h), hparse]
    exact ⟨by rw [hframes, ← hparser], by rw [hframes, ← hparser], rfl, .inl ⟨rfl, rfl⟩⟩

/-- A read while OTA is not armed: a residue of the demultiplexer goes ahead of it. -/
lemma parseChunk_idle (hactive : c.otaActive = false) (h : Bridged c p)
    (hline : c.otaDemux.maxLine = maxLine)
    (hcut : p ++ chunk = (done.map BridgeItem.bytes).flatten ++ q)
    (hframes : ∀ it ∈ done, it.isLine = false) (hq : (sdf1 crc32).look q = .wait) :
    Passed c done q (c.parseChunk crc32 chunk) := by
  obtain ⟨hbytes, hlines⟩ := bytesOf_frames hframes
  rw [hbytes] at hcut
  have hidle : ¬ c.otaActive = true := by simp [hactive]
  have hnever : c.otaActive = true → c.otaResetPending = true := fun h => absurd h hidle
  rw [AcquisitionController.parseChunk, if_neg hidle]
  by_cases hpending : c.otaDemux.pending = []
  · have hdata : c.parser.buffer ++ chunk =
        bytesOf (done.filterMap BridgeItem.frame?) ++ q := by
      rcases h with ⟨hbuffer, hp⟩ | ⟨-, hbuffer, -⟩
      · rw [hbuffer, ← hcut, ← hp, hpending]
      · rw [hbuffer, hcut]
    rw [if_neg (not_not.mpr hpending), feedParser_frames hdata hq]
    exact ⟨by rw [hlines], rfl, hline, .inr ⟨hpending, rfl, hnever⟩⟩
  · obtain ⟨hbuffer, hp⟩ : c.parser.buffer = [] ∧ c.otaDemux.pending = p := by
      rcases h with h | ⟨hnil, -⟩
      · exact h
      · exact absurd hnil hpending
    have hdata : c.parser.buffer ++ (c.otaDemux.pending ++ chunk) =
        bytesOf (done.filterMap BridgeItem.frame?) ++ q := by
      rw [hbuffer, hp, ← hcut, List.nil_append]
    rw [if_pos hpending]
    simp only [StreamDemultiplexer.flush]
    rw [feedParser_frames (c := { c with otaDemux := c.otaDemux.reset }) hdata hq]
    exact ⟨by rw [hlines], rfl, hline, .inr ⟨rfl, rfl, hnever⟩⟩

/-- A call, or an empty read, moves nothing. -/
lemma passed_nil {c' : AcquisitionController} (hparser : c'.parser = c.parser)
    (hdemux : c'.otaDemux = c.otaDemux) (hline : c.otaDemux.maxLine = maxLine)
    (hheld : Bridged c' p) :
    Passed c ([] : List (BridgeItem crc32 maxLine)) p (c', [], []) :=
  ⟨rfl, congrArg _ hparser, hdemux ▸ hline, hheld⟩

/-- Whether the arming takes effect now or did before, the parser holds nothing. -/
lemma Bridged.synchronised (h : Bridged c p) (hactive : c.otaActive = true)
    (harms : c.otaResetPending = true → c.parser.buffer = [] ∧ c.otaDemux.pending = []) :
    c.parser.buffer = [] ∧ c.otaDemux.pending = p ∧ (c.otaResetPending = true → p = []) := by
  by_cases hreset : c.otaResetPending = true
  · obtain ⟨hbuffer, hpending⟩ := harms hreset
    have hnil : p = [] := by
      rcases h with ⟨-, hd⟩ | ⟨-, hb, -⟩
      · exact hd.symm.trans hpending
      · exact hb.symm.trans hbuffer
    exact ⟨hbuffer, hpending.trans hnil.symm, fun _ => hnil⟩
  · rcases h with ⟨hb, hd⟩ | ⟨-, -, hr⟩
    · exact ⟨hb, hd, fun h => absurd h hreset⟩
    · exact absurd (hr hactive) hreset

/-- At a part of an unmarked item the parser waits. -/
lemma look_of_unmarked {q : List (UInt8 × Bool)}
    (hq : Partial q (rest.map (markItem BridgeItem.bytes BridgeItem.isLine)))
    (hmarks : ∀ x ∈ q, x.2 = false) : (sdf1 crc32).look (unmark q) = .wait := by
  have hunmark := hq.unmark
  rcases hq with rfl | ⟨it', rest', hrest, hpre, -⟩
  · rfl
  · obtain ⟨it, its, rfl, rfl, rfl⟩ := List.map_eq_cons_iff.mp hrest
    rcases hunmark with hnil | ⟨b, bs, hb, hprefix, hlt⟩
    · rw [hnil]
      rfl
    · obtain ⟨rfl, -⟩ := List.cons.inj hb
      cases it with
      | frame f => exact f.item.look_prefix hprefix hlt
      | line l =>
        by_cases hnil : q = []
        · rw [hnil]
          rfl
        · obtain ⟨x, hx⟩ := List.exists_mem_of_ne_nil _ hnil
          have hmark : true = x.2 := (mark_of_mem (hpre.subset hx)).symm
          rw [hmarks x hx] at hmark
          cases hmark

/-- One event: the items it completes come out, and a part of the next one is held. -/
lemma bridge_step {todo : List (BridgeItem crc32 maxLine)} {p later : List (UInt8 × Bool)}
    {e : BridgeEvent} (hheld : Bridged c (unmark p)) (hline : c.otaDemux.maxLine = maxLine)
    (hp : Partial p (todo.map (markItem BridgeItem.bytes BridgeItem.isLine)))
    (hstream : p ++ e.data ++ later = markStream BridgeItem.bytes BridgeItem.isLine todo)
    (hlines : LinesWhileArmed c e) (harms : ArmsAtBoundary c e) :
    ∃ (done rest : List (BridgeItem crc32 maxLine)) (q : List (UInt8 × Bool)),
      todo = done ++ rest ∧ Passed c done (unmark q) (c.bridge crc32 e) ∧
      Partial q (rest.map (markItem BridgeItem.bytes BridgeItem.isLine)) ∧
      q ++ later = markStream BridgeItem.bytes BridgeItem.isLine rest := by
  cases e with
  | startOta =>
    have harmed : Bridged c.startOta (unmark p) :=
      hheld.imp_right fun ⟨hd, hb, _⟩ => ⟨hd, hb, fun _ => rfl⟩
    exact ⟨[], todo, p, rfl, passed_nil rfl rfl hline harmed, hp, by simpa [BridgeEvent.data] using hstream⟩
  | endOta =>
    have hended : Bridged c.endOta (unmark p) :=
      hheld.imp_right fun ⟨hd, hb, _⟩ => ⟨hd, hb, fun h => Bool.noConfusion h⟩
    exact ⟨[], todo, p, rfl, passed_nil rfl rfl hline hended, hp, by simpa [BridgeEvent.data] using hstream⟩
  | chunk data =>
    simp only [BridgeEvent.data] at hstream
    by_cases hne : data = []
    · subst hne
      rw [List.append_nil] at hstream
      exact ⟨[], todo, p, rfl, passed_nil rfl rfl hline hheld, hp, hstream⟩
    · obtain ⟨done, rest, q, hsplit, hcut, hlater, hq⟩ := cut_markStream hstream
      have hcut' : unmark p ++ unmark data =
          (done.map BridgeItem.bytes).flatten ++ unmark q := by
        rw [← unmark_append, hcut, unmark_append, unmark_markStream]
      refine ⟨done, rest, q, hsplit, ?_, hq, hlater⟩
      rw [AcquisitionController.bridge, if_neg hne]
      cases hactive : c.otaActive with
      | true =>
        obtain ⟨hbuffer, hpending, hreset⟩ := hheld.synchronised hactive (harms hne hactive)
        exact parseChunk_armed hactive hbuffer hpending hreset hline hcut' hq.unmark
      | false =>
        -- only frames arrive, so the items completed and the part held are frames
        have hunmarked := marks_of_chunk hp hstream hne (hlines hactive)
        rw [hcut] at hunmarked
        have hframes : ∀ it ∈ done, it.isLine = false :=
          unmarked_of_markStream BridgeItem.ne_nil fun x hx =>
            hunmarked x (List.mem_append_left _ hx)
        exact parseChunk_idle hactive hheld hline hcut' hframes
          (look_of_unmarked hq fun x hx => hunmarked x (List.mem_append_right _ hx))

/-- A run from any point inside an item. -/
lemma bridgeRun_of_held {todo : List (BridgeItem crc32 maxLine)} {p : List (UInt8 × Bool)}
    {events : List BridgeEvent} (hheld : Bridged c (unmark p))
    (hline : c.otaDemux.maxLine = maxLine)
    (hp : Partial p (todo.map (markItem BridgeItem.bytes BridgeItem.isLine)))
    (hstream : p ++ (events.map BridgeEvent.data).flatten =
      markStream BridgeItem.bytes BridgeItem.isLine todo)
    (hlines : AlongRun crc32 LinesWhileArmed c events)
    (harms : AlongRun crc32 ArmsAtBoundary c events) :
    (bridgeRun crc32 c events).2 = ((c.parser.toDecoder.frames (todo.filterMap BridgeItem.frame?)).2,
      todo.filterMap BridgeItem.line?) := by
  induction events generalizing c p todo with
  | nil =>
    rw [List.map_nil, List.flatten_nil, List.append_nil] at hstream
    obtain ⟨rfl, -⟩ := hp.complete BridgeItem.ne_nil hstream
    rfl
  | cons e events ih =>
    rw [List.map_cons, List.flatten_cons, ← List.append_assoc] at hstream
    obtain ⟨done, rest, q, rfl, hpassed, hq, hlater⟩ :=
      bridge_step hheld hline hp hstream hlines.1 harms.1
    have hrun := ih hpassed.held hpassed.line hq hlater hlines.2 harms.2
    simp only [bridgeRun, hpassed.out, hrun, hpassed.decoder, List.filterMap_append,
      Decoder.frames_append]

/-- Over any stream of valid frames and reply lines, any chunks and any schedule of calls, the frames
are emitted and the lines put in the reply queue, each once and in order, if no arming takes effect
inside an item. -/
theorem bridge_transparent (items : List (BridgeItem crc32 defaultMaxLine))
    (events : List BridgeEvent)
    (hstream : (events.map BridgeEvent.data).flatten =
      markStream BridgeItem.bytes BridgeItem.isLine items)
    (hlines : AlongRun crc32 LinesWhileArmed {} events)
    (harms : AlongRun crc32 ArmsAtBoundary {} events) :
    (bridgeRun crc32 {} events).2.1 =
        (Decoder.frames {} (items.filterMap BridgeItem.frame?)).2 ∧
      (bridgeRun crc32 {} events).2.1.map Frame.rawBytes =
        (items.filterMap BridgeItem.frame?).map ValidFrame.bytes ∧
      (bridgeRun crc32 {} events).2.2 = items.filterMap BridgeItem.line? := by
  have hrun := bridgeRun_of_held (c := {}) (p := []) (.inl ⟨rfl, rfl⟩) rfl (.inl rfl) hstream
    hlines harms
  rw [hrun]
  exact ⟨rfl, Decoder.frames_rawBytes _ _, rfl⟩

/-- A CLI frame with an `OK` line in its text. -/
def textFrame : ValidFrame zlibCrc32 :=
  .cli zlibCrc32 0 (asciiBytes "A\nOK\r\n".toList) (by decide) (by decide)

/-- The reads of one item, cut at `n`. -/
def cutAt (n : Nat) (bytes : Bytes) (mark : Bool) : List BridgeEvent :=
  [.chunk ((bytes.take n).map (·, mark)), .chunk ((bytes.drop n).map (·, mark))]

/-- The frame and a reply line, each cut in two, with the arming between them. -/
theorem bridge_transparent_between :
    (bridgeRun zlibCrc32 {}
      (cutAt 30 textFrame.bytes false ++ .startOta :: cutAt 1 okReply.bytes true)).2.2 =
        [okLine] :=
  (bridge_transparent [.frame textFrame, .line okReply] _ (by decide +kernel) (by decide +kernel)
    (by decide +kernel)).2.2

/-- Arming inside a CLI frame puts the `OK` of its text in the reply queue. -/
theorem bridge_claims_frame_text :
    ¬ ∀ (items : List (BridgeItem zlibCrc32 defaultMaxLine)) (events : List BridgeEvent),
      (events.map BridgeEvent.data).flatten =
        markStream BridgeItem.bytes BridgeItem.isLine items →
      AlongRun zlibCrc32 LinesWhileArmed {} events →
      (bridgeRun zlibCrc32 {} events).2.2 = items.filterMap BridgeItem.line? := by
  intro h
  have hrun := h [.frame textFrame] [.chunk ((textFrame.bytes.take 30).map (·, false)), .startOta,
    .chunk ((textFrame.bytes.drop 30).map (·, false))] (by decide +kernel) (by decide +kernel)
  revert hrun
  decide +kernel

end SensorHost.Acquisition
