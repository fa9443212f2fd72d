import SensorHost.Acquisition.Handling
import SensorHost.Acquisition.UuidReply
import SensorHost.Transport.FakeStream

/-!
# What the replies of the virtual transport tell

The host takes in every reply of the simulator, whatever it knows already (`heard_ok`). A state
reply and the end of an export tell it all that they report (`Tells`), and while the device exports
the host knows of a running export (`replies_heard`). What the host hears in a session are these
replies, however the reads cut the stream (`session_heard`).

`heard_reply` is one case for each kind of reply, put together from what the reply says by itself.
`Known` is the invariant of the device that the run needs: its numbers are in range, and while it
exports the last phase that was sent is the one of a running export. A frame that the parser emits
for a reply has the text of the reply (`spoken_decodeFrame`, `hear_frame`), since the replies are
ASCII, so that hearing the frames is hearing the packets (`hear_frames`).
-/

namespace SensorHost.Transport
open SensorHost.Lib SensorHost.Protocol SensorHost.Ota SensorHost.Acquisition

/-- The numbers of a status are unsigned 64-bit numbers, and its words are ASCII. -/
structure Bounded (status : FakeState) : Prop where
  state : IsAscii status.state.text
  target : IsAscii status.exportTarget.text
  used : status.sdUsed ≤ maximumUnsignedValue
  capacity : status.sdCapacity ≤ maximumUnsignedValue
  chunks : status.retainedChunks ≤ maximumUnsignedValue
  frames : status.retainedFrames ≤ maximumUnsignedValue
  overwritten : status.overwrittenFrames ≤ maximumUnsignedValue
  index : status.exportFrameIndex ≤ maximumUnsignedValue

/-- The control state knows what the status reports. -/
structure Tells (s : FirmwareControlState) (status : FakeState) : Prop where
  state : s.acquisitionState = some status.state.text
  used : s.sdUsed = some status.sdUsed
  capacity : s.sdCapacity = some status.sdCapacity
  pending : s.sdPendingFrames = some 0
  chunks : s.sdRetainedChunks = some status.retainedChunks
  frames : s.sdRetainedFrames = some status.retainedFrames
  overwrittenChunks : s.sdOverwrittenChunks = some 0
  overwritten : s.sdOverwrittenFrames = some status.overwrittenFrames
  ready : s.sdReady = some true
  format : s.sdFormatRequired = some false
  target : s.exportTarget = some status.exportTarget.text
  chunk : s.exportChunk = some status.exportFrameIndex
  frame : s.exportFrame = some status.exportFrameIndex
  ota : s.otaState = some "OFF".toList
  received : s.otaReceived = some 0
  total : s.otaTotal = some 0
  error : s.otaError = some 0

variable {status : FakeState} {s t : FirmwareControlState}

/-- A state reply has each section once. -/
lemma labels_nodup (status : FakeState) :
    (status.reply.sections.map ReplySection.label).Nodup := by
  have hlabels : status.reply.sections.map ReplySection.label =
      ["+STATE".toList, "+SD".toList, "+EXPORT".toList, "+OTA".toList] := rfl
  rw [hlabels]
  decide

/-- The sections of a state reply can be read. -/
lemma fits_sections (h : Bounded status) : ∀ sec ∈ status.reply.sections, sec.Fits := by
  have hsections : status.reply.sections = [.state status.state, status.sdSection,
      status.exportStatusSection, FakeState.otaSection] := rfl
  rw [hsections]
  simp only [List.forall_mem_cons]
  refine ⟨⟨fun n hn => ?_, ?_⟩, ⟨fun n hn => ?_, ?_⟩, ⟨fun n hn => ?_, ?_⟩, ⟨fun n hn => ?_, ?_⟩,
    fun sec hsec => (List.not_mem_nil hsec).elim⟩
  · exact (List.not_mem_nil hn).elim
  · exact List.nodup_nil
  · have hnumbers : status.sdSection.numbers = [status.sdUsed, status.sdCapacity, 0,
        status.retainedChunks, status.retainedFrames, 0, status.overwrittenFrames] := rfl
    rw [hnumbers] at hn
    simp only [List.mem_cons, List.not_mem_nil, or_false] at hn
    obtain rfl | rfl | rfl | rfl | rfl | rfl | rfl := hn
    · exact h.used
    · exact h.capacity
    · exact Nat.zero_le _
    · exact h.chunks
    · exact h.frames
    · exact Nat.zero_le _
    · exact h.overwritten
  · exact (by decide : ["USED".toList, "CAPACITY".toList, "PENDING_FRAMES".toList,
      "RETAINED_CHUNKS".toList, "RETAINED_FRAMES".toList, "OVERWRITTEN_CHUNKS".toList,
      "OVERWRITTEN_FRAMES".toList, "READY".toList, "FORMAT_REQUIRED".toList].Nodup)
  · have hnumbers : status.exportStatusSection.numbers =
        [status.exportFrameIndex, status.exportFrameIndex] := rfl
    rw [hnumbers] at hn
    simp only [List.mem_cons, List.not_mem_nil, or_false] at hn
    obtain rfl | rfl := hn
    · exact h.index
    · exact h.index
  · exact (by decide : ["TARGET".toList, "CHUNK".toList, "FRAME".toList].Nodup)
  · have hnumbers : FakeState.otaSection.numbers = [0, 0, 0] := rfl
    rw [hnumbers] at hn
    simp only [List.mem_cons, List.not_mem_nil, or_false] at hn
    obtain rfl | rfl | rfl := hn
    · exact Nat.zero_le _
    · exact Nat.zero_le _
    · exact Nat.zero_le _
  · exact (by decide : ["STATE".toList, "RECEIVED".toList, "TOTAL".toList, "ERROR".toList].Nodup)

/-- Its lines are its sections. -/
lemma saidLines_state (status : FakeState) :
    saidLines status.stateReply = status.reply.sections.map ReplySection.line := by
  rw [← status.text_reply, status.reply.saidLines_text]

/-- They are these four. -/
lemma sectionNames_state (status : FakeState) : sectionNames status.stateReply =
    ["+STATE".toList, "+SD".toList, "+EXPORT".toList, "+OTA".toList] := by
  rw [← status.text_reply, status.reply.sectionNames_text]
  rfl

/-- A state reply says what its sections assign, and each field once. -/
lemma replySays_state (h : Bounded status) :
    ∃ as, ReplySays status.stateReply as false ∧ (∀ a ∈ status.reply.assignments, a ∈ as) ∧
      (as.map Sigma.fst).Nodup ∧ ControlField.exportPhase ∉ as.map Sigma.fst := by
  obtain ⟨as, has, hmem⟩ := linesAssignments_lines (fits_sections h)
  have hfields := linesAssignments_fields has
  rw [← saidLines_state] at has hfields
  have hnamed : as.map Sigma.fst = namedFields status.reply.text := by
    rw [hfields, status.text_reply, namedFields]
  refine ⟨as, ⟨?_, has, ?_⟩, hmem, ?_, ?_⟩
  · rw [sectionNames_state]
    decide
  · rw [← status.text_reply]
    exact status.reply.hasExportLine_text
  · rw [hnamed]
    exact status.reply.nodup_namedFields (labels_nodup status)
  · rw [hnamed, status.reply.namedFields_text, List.mem_flatMap]
    rintro ⟨sec, hsec, hphase⟩
    have hwritten : ControlField.exportPhase ∈ status.reply.assignments.map Sigma.fst := by
      rw [Reply.assignments, List.map_flatMap, List.mem_flatMap]
      exact ⟨sec, hsec, sec.lineFields_line _ hphase⟩
    have hassigned : status.reply.assignments.map Sigma.fst =
        [.acquisitionState, .sdUsed, .sdCapacity, .sdPendingFrames, .sdRetainedChunks,
          .sdRetainedFrames, .sdOverwrittenChunks, .sdOverwrittenFrames, .sdReady,
          .sdFormatRequired, .exportTarget, .exportChunk, .exportFrame, .otaState, .otaReceived,
          .otaTotal, .otaError] := rfl
    rw [hassigned] at hwritten
    revert hwritten
    decide

/-- What a state reply assigns tells its status. -/
lemma tells_assign {as : List Assignment} (hmem : ∀ a ∈ status.reply.assignments, a ∈ as)
    (hnodup : (as.map Sigma.fst).Nodup) (s : FirmwareControlState) :
    Tells (s.assign as) status := by
  have hvalue : ∀ a ∈ status.reply.assignments, (s.assign as).get a.1 = some a.2 :=
    fun a ha => s.get_assign hnodup (hmem a ha)
  have hassignments : status.reply.assignments =
      [⟨.acquisitionState, status.state.text⟩, ⟨.sdUsed, status.sdUsed⟩,
        ⟨.sdCapacity, status.sdCapacity⟩, ⟨.sdPendingFrames, (0 : Nat)⟩,
        ⟨.sdRetainedChunks, status.retainedChunks⟩, ⟨.sdRetainedFrames, status.retainedFrames⟩,
        ⟨.sdOverwrittenChunks, (0 : Nat)⟩, ⟨.sdOverwrittenFrames, status.overwrittenFrames⟩,
        ⟨.sdReady, true⟩, ⟨.sdFormatRequired, false⟩, ⟨.exportTarget, status.exportTarget.text⟩,
        ⟨.exportChunk, status.exportFrameIndex⟩, ⟨.exportFrame, status.exportFrameIndex⟩,
        ⟨.otaState, "OFF".toList⟩, ⟨.otaReceived, (0 : Nat)⟩, ⟨.otaTotal, (0 : Nat)⟩,
        ⟨.otaError, (0 : Nat)⟩] := rfl
  rw [hassignments] at hvalue
  simp only [List.forall_mem_cons] at hvalue
  obtain ⟨state, used, capacity, pending, chunks, frames, overwrittenChunks, overwritten, ready,
    format, target, chunk, frame, ota, received, total, error, -⟩ := hvalue
  exact { state, used, capacity, pending, chunks, frames, overwrittenChunks, overwritten, ready,
          format, target, chunk, frame, ota, received, total, error }

/-- A reply with an export event is one revision more. -/
lemma taken_event (s : FirmwareControlState) (as : List Assignment) :
    s.taken as true = { s.assign as with exportRevision := s.exportRevision + 1 } := if_pos rfl

/-- Two replies in one text, the first a full line, say what both say. -/
lemma replySays_append {front b : Text} {as bs : List Assignment} {e e' : Bool}
    (h : ReplySays (front ++ ['\n']) as e) (h' : ReplySays b bs e')
    (disjoint : ∀ name ∈ sectionNames (front ++ ['\n']), name ∉ sectionNames b) :
    ReplySays (front ++ ['\n'] ++ b) (as ++ bs) (e || e') where
  sections := by
    unfold sectionNames
    rw [saidLines_append, List.filterMap_append]
    exact List.nodup_append'.mpr ⟨h.sections, h'.sections, disjoint⟩
  lines := by
    rw [saidLines_append, linesAssignments_append, h.lines, h'.lines]
    rfl
  event := by
    rw [hasExportLine_eq, saidLines_append, List.any_append, ← hasExportLine_eq, ← hasExportLine_eq,
      h.event, h'.event]

/-- A reply with no line that is read says nothing. -/
lemma replySays_nothing {response : Text} (said : saidLines response = []) :
    ReplySays response [] false where
  sections := by
    unfold sectionNames
    rw [said]
    exact List.nodup_nil
  lines := by
    rw [said]
    rfl
  event := by
    rw [hasExportLine_eq, said]
    rfl

/-- A reply of one line says what the line says. -/
lemma replySays_line {response line : Text} {as : List Assignment}
    (said : saidLines response = [line]) (assigns : lineAssignments line = .ok as) :
    ReplySays response as (isExportLine line) where
  sections := by
    unfold sectionNames
    rw [said]
    cases hname : sectionName line with
    | none =>
      rw [List.filterMap_cons_none hname]
      exact List.nodup_nil
    | some name =>
      rw [List.filterMap_cons_some hname]
      exact List.nodup_singleton name
  lines := by
    rw [said, linesAssignments, assigns]
    exact congrArg Except.ok (List.append_nil as)
  event := by
    rw [hasExportLine_eq, said]
    exact Bool.or_false _

/-- A number in range is read back. -/
lemma unsigned_bounded (n : Nat) (name : Text) (h : n ≤ maximumUnsignedValue) :
    unsigned (renderNat n) name = .ok n := by
  obtain ⟨-, hok⟩ | ⟨hlt, -⟩ := unsigned_renderNat n name
  · exact hok
  · exact absurd h (not_le.mpr hlt)

/-- What the end of an export assigns. -/
def endAssignments : List Assignment :=
  [⟨.exportPhase, "COMPLETE".toList⟩, ⟨.exportChunks, (1 : Nat)⟩, ⟨.exportFrames, (24 : Nat)⟩]

/-- The end of an export assigns the phase and the counts. -/
lemma lineAssignments_end :
    lineAssignments "EXPORT_END:CHUNKS=1,FRAMES=24".toList = .ok endAssignments := by
  let values : List (Text × Text) :=
    [("FRAMES".toList, "24".toList), ("CHUNKS".toList, "1".toList)]
  have hvalues : keyValues "CHUNKS=1,FRAMES=24".toList = .ok values := rfl
  have hchunks : unsigned "1".toList "CHUNKS".toList = .ok 1 := unsigned_bounded 1 _ (by decide)
  have hframes : unsigned "24".toList "FRAMES".toList = .ok 24 := unsigned_bounded 24 _ (by decide)
  have hread : readKeys values exportEndKeys =
      .ok [⟨.exportChunks, (1 : Nat)⟩, ⟨.exportFrames, (24 : Nat)⟩] := by
    have hform : readKeys values exportEndKeys = do
        let chunks ← unsigned "1".toList "CHUNKS".toList
        let later ← unsigned "24".toList "FRAMES".toList >>= fun frames =>
          .ok [⟨.exportFrames, frames⟩]
        return ⟨.exportChunks, chunks⟩ :: later := rfl
    rw [hform, hchunks, hframes]
    rfl
  have hline : lineAssignments "EXPORT_END:CHUNKS=1,FRAMES=24".toList = do
      let values ← keyValues "CHUNKS=1,FRAMES=24".toList
      let later ← readKeys values exportEndKeys
      return ⟨.exportPhase, "COMPLETE".toList⟩ :: later := rfl
  rw [hline, hvalues]
  dsimp only [bind, Except.bind]
  rw [hread]
  rfl

/-- The first line of the reply at the end of an export. -/
def endLine : Text := "EXPORT_END:CHUNKS=1,FRAMES=24\r".toList

/-- Its first line says nothing else. -/
lemma saidLines_end : saidLines (endLine ++ ['\n']) = ["EXPORT_END:CHUNKS=1,FRAMES=24".toList] := by
  decide +kernel

/-- It is of the export section. -/
lemma sectionNames_end : sectionNames (endLine ++ ['\n']) = [exportSection] := by
  unfold sectionNames
  rw [saidLines_end]
  rfl

/-- The reply at the end is this line and a state reply. -/
lemma text_exportEnd (status : FakeState) :
    (FakeReply.exportEnd status).text = endLine ++ ['\n'] ++ status.stateReply := rfl

/-- The reply at the end of an export says that it is complete, and what the state reply says. -/
lemma replySays_end {as : List Assignment} (h : ReplySays status.stateReply as false) :
    ReplySays (FakeReply.exportEnd status).text (endAssignments ++ as) true := by
  rw [text_exportEnd]
  refine replySays_append (replySays_line saidLines_end lineAssignments_end) h fun name hname => ?_
  rw [sectionNames_end, List.mem_singleton] at hname
  rw [hname, sectionNames_state]
  decide

namespace FakeReply

/-- The status that a reply reports. -/
def reported : FakeReply → Option FakeState
  | .state status => some status
  | .exportEnd status => some status
  | _ => none

/-- The phase of the export that a reply sets. -/
def phase : FakeReply → Option Text
  | .exportEmpty => some "EMPTY".toList
  | .exportBegin _ => some "IN_PROGRESS".toList
  | .exportEnd _ => some "COMPLETE".toList
  | _ => none

/-- What the host knows behind a reply, where it knew `s` before. -/
structure Heard (reply : FakeReply) (s t : FirmwareControlState) : Prop where
  phase : t.exportPhase = reply.phase.or s.exportPhase
  reported : ∀ status ∈ reply.reported, Tells t status

variable {reply : FakeReply}

/-- A reply of one line, without a status. -/
lemma heard_line {line : Text} {as : List Assignment} (said : saidLines reply.text = [line])
    (assigns : lineAssignments line = .ok as)
    (phase : (s.taken as (isExportLine line)).exportPhase = reply.phase.or s.exportPhase)
    (reported : reply.reported = none) :
    ∃ t, s.updatedFromCli reply.text = .ok t ∧ Heard reply s t := by
  refine ⟨_, (replySays_line said assigns).updatedFromCli s, phase, ?_⟩
  rw [reported]
  exact fun status hstatus => (Option.not_mem_none _ hstatus).elim

/-- The host takes in every reply, whatever it knows. -/
lemma heard_reply (reply : FakeReply) (h : ∀ status ∈ reply.reported, Bounded status)
    (s : FirmwareControlState) :
    ∃ t, s.updatedFromCli reply.text = .ok t ∧ Heard reply s t := by
  cases reply with
  | uuid =>
    have htext : FakeReply.uuid.text =
        uuidReply fakeDeviceUuid ⟨"FAKE".toList, by decide, by decide⟩ := by
      decide +kernel
    exact heard_line (htext ▸ saidLines_uuidReply _ _) (lineAssignments_uuidLine _ _) rfl rfl
  | state status =>
    obtain ⟨as, hsays, hmem, hnodup, hphase⟩ := replySays_state (h status rfl)
    refine ⟨_, hsays.updatedFromCli s, s.get_assign_other hphase, ?_⟩
    rintro _ ⟨⟩
    exact tells_assign hmem hnodup s
  | livestream target =>
    cases target with
    | uart =>
      have hsaid : saidLines (FakeReply.livestream .uart).text = ["+LIVESTREAM:UART".toList] := by
        decide +kernel
      exact heard_line hsaid rfl rfl rfl
    | cdc =>
      have hsaid : saidLines (FakeReply.livestream .cdc).text = ["+LIVESTREAM:CDC".toList] := by
        decide +kernel
      exact heard_line hsaid rfl rfl rfl
  | ok =>
    have hsays : ReplySays FakeReply.ok.text [] false := replySays_nothing (by decide +kernel)
    exact ⟨_, hsays.updatedFromCli s, rfl, fun status hstatus =>
      (Option.not_mem_none _ hstatus).elim⟩
  | errorState =>
    have hsaid : saidLines FakeReply.errorState.text = ["ERROR:STATE".toList] := by decide +kernel
    exact heard_line hsaid rfl rfl rfl
  | errorUnknown =>
    have hsaid : saidLines FakeReply.errorUnknown.text = ["ERROR:UNKNOWN".toList] := by
      decide +kernel
    exact heard_line hsaid rfl rfl rfl
  | acquiring =>
    have hsaid : saidLines FakeReply.acquiring.text = ["+STATE:ACQUIRE".toList] := by decide +kernel
    exact heard_line hsaid rfl rfl rfl
  | exportEmpty =>
    have hsaid : saidLines FakeReply.exportEmpty.text = ["EXPORT_EMPTY".toList] := by decide +kernel
    exact heard_line hsaid rfl rfl rfl
  | exportBegin target =>
    cases target with
    | uart =>
      have hsaid : saidLines (FakeReply.exportBegin .uart).text = ["EXPORT_BEGIN:UART".toList] := by
        decide +kernel
      exact heard_line hsaid rfl rfl rfl
    | cdc =>
      have hsaid : saidLines (FakeReply.exportBegin .cdc).text = ["EXPORT_BEGIN:CDC".toList] := by
        decide +kernel
      exact heard_line hsaid rfl rfl rfl
  | exportEnd status =>
    obtain ⟨as, hsays, hmem, hnodup, hphase⟩ := replySays_state (h status rfl)
    -- no state line touches the phase that the COMPLETE before them has set
    have hkept : ((s.assign endAssignments).assign as).exportPhase = some "COMPLETE".toList :=
      FirmwareControlState.get_assign_other _ hphase
    have htells := tells_assign hmem hnodup (s.assign endAssignments)
    rw [← s.assign_append] at hkept htells
    refine ⟨_, (replySays_end hsays).updatedFromCli s, ?_, ?_⟩
    · rw [taken_event]
      exact hkept
    · rintro _ ⟨⟩
      rw [taken_event]
      exact { htells with }

end FakeReply

/-- Two texts are ASCII if both are. -/
lemma isAscii_append {a b : Text} : IsAscii (a ++ b) ↔ IsAscii a ∧ IsAscii b :=
  List.forall_mem_append

/-- A number is ASCII. -/
lemma isAscii_renderNat (n : Nat) : IsAscii (renderNat n) := by
  intro c hc
  obtain ⟨-, -, -, -, -, hascii, -⟩ := numeralChars_plain c (toDigits_mem c hc)
  exact hascii

/-- So is a mode. -/
lemma isAscii_mode (mode : FakeMode) : IsAscii mode.word.text := by
  unfold IsAscii
  cases mode <;> decide

/-- So is a target. -/
lemma isAscii_exportTarget (target : Option StreamTarget) :
    IsAscii (exportTargetWord target).text := by
  unfold IsAscii
  cases target with
  | none => decide
  | some target => cases target <;> decide

/-- So is a state reply. -/
lemma isAscii_stateReply (h : Bounded status) : IsAscii status.stateReply := by
  unfold FakeState.stateReply
  simp only [List.flatten_cons, List.flatten_nil, isAscii_append, isAscii_renderNat, h.state,
    h.target, and_true]
  unfold IsAscii
  decide +kernel

/-- The replies are ASCII. -/
lemma FakeReply.isAscii (reply : FakeReply) (h : ∀ status ∈ reply.reported, Bounded status) :
    IsAscii reply.text := by
  cases reply with
  | state status => exact isAscii_stateReply (h status rfl)
  | exportEnd status =>
    rw [text_exportEnd]
    refine isAscii_append.mpr ⟨?_, isAscii_stateReply (h status rfl)⟩
    unfold IsAscii
    decide +kernel
  | livestream target =>
    unfold IsAscii
    cases target <;> decide +kernel
  | exportBegin target =>
    unfold IsAscii
    cases target <;> decide +kernel
  | _ =>
    unfold IsAscii
    decide +kernel

/-- A text in ASCII is decoded to itself. -/
lemma decodeUtf8Replace_asciiBytes {text : Text} (h : IsAscii text) :
    decodeUtf8Replace (asciiBytes text) = text := by
  induction text with
  | nil => rfl
  | cons c text ih =>
    obtain ⟨hc, htext⟩ := List.forall_mem_cons.mp h
    have hbyte : (UInt8.ofNat c.toNat).toNat = c.toNat := by
      rw [UInt8.toNat_ofNat', Nat.mod_eq_of_lt (by omega)]
    have hlow : UInt8.ofNat c.toNat < 0x80 := by
      rw [UInt8.lt_iff_toNat_lt, hbyte]
      exact hc
    have hbytes : asciiBytes (c :: text) = UInt8.ofNat c.toNat :: asciiBytes text := rfl
    rw [hbytes, decodeUtf8Replace, if_pos hlow, ih htext, hbyte, Char.ofNat_toNat]

/-- What the host knows behind a packet; a frame of the sensors tells it nothing of the control. -/
def Emission.tell (s : FirmwareControlState) :
    Emission → Except ControlStateError FirmwareControlState
  | .cli reply _ => s.updatedFromCli reply.text
  | _ => .ok s

/-- What the host knows behind packets. -/
def heard (s : FirmwareControlState) (sent : List Emission) :
    Except ControlStateError FirmwareControlState :=
  sent.foldlM Emission.tell s

/-- The phase that a packet sets. -/
def Emission.phase : Emission → Option Text
  | .cli reply _ => reply.phase
  | _ => none

/-- The status that a packet reports. -/
def Emission.reported : Emission → Option FakeState
  | .cli reply _ => reply.reported
  | _ => none

/-- The phase that packets leave behind. -/
def lastPhase (sent : List Emission) : Option Text := (sent.filterMap Emission.phase).getLast?

/-- The last phase is that of the last packet, if it sets one. -/
lemma lastPhase_snoc (sent : List Emission) (e : Emission) :
    lastPhase (sent ++ [e]) = e.phase.or (lastPhase sent) := by
  unfold lastPhase
  rw [List.filterMap_append, List.getLast?_append]
  cases hphase : e.phase with
  | none =>
    rw [List.filterMap_cons_none hphase]
    rfl
  | some phase =>
    rw [List.filterMap_cons_some hphase]
    rfl

/-- The numbers of every status in the packets fit. -/
def Modest (sent : List Emission) : Prop := ∀ e ∈ sent, ∀ status ∈ e.reported, Bounded status

/-- One more packet with numbers in range. -/
lemma Modest.snoc {sent : List Emission} {e : Emission} (h : Modest sent)
    (he : ∀ status ∈ e.reported, Bounded status) : Modest (sent ++ [e]) :=
  List.forall_mem_append.mpr ⟨h, List.forall_mem_singleton.mpr he⟩

/-- Every such packet is taken in, and tells its phase and its status. -/
lemma tell_ok (e : Emission) (h : ∀ status ∈ e.reported, Bounded status)
    (s : FirmwareControlState) :
    ∃ t, e.tell s = .ok t ∧ t.exportPhase = e.phase.or s.exportPhase ∧
      ∀ status ∈ e.reported, Tells t status := by
  cases e with
  | cli reply sequence =>
    obtain ⟨t, ht, hheard⟩ := reply.heard_reply h s
    exact ⟨t, ht, hheard.phase, hheard.reported⟩
  | _ => exact ⟨s, rfl, rfl, fun status hstatus => (Option.not_mem_none _ hstatus).elim⟩

/-- The host takes in what modest packets say: the phase is that of the last export event, and a
status in the last packet is what the host knows. -/
lemma heard_ok {sent : List Emission} (h : Modest sent) (s : FirmwareControlState) :
    ∃ t, heard s sent = .ok t ∧ t.exportPhase = (lastPhase sent).or s.exportPhase ∧
      ∀ e ∈ sent.getLast?, ∀ status ∈ e.reported, Tells t status := by
  induction sent using List.reverseRecOn with
  | nil => exact ⟨s, rfl, rfl, fun e he => (Option.not_mem_none _ he).elim⟩
  | append_singleton sent e ih =>
    obtain ⟨hsent, he⟩ := List.forall_mem_append.mp h
    obtain ⟨t, ht, hphase, -⟩ := ih hsent
    obtain ⟨u, hu, hnext, htells⟩ := tell_ok e (List.forall_mem_singleton.mp he) t
    refine ⟨u, ?_, ?_, ?_⟩
    · unfold heard at ht ⊢
      rw [List.foldlM_append, ht]
      change (e.tell t >>= pure) = _
      rw [hu]
      rfl
    · rw [hnext, hphase, lastPhase_snoc, Option.or_assoc]
    · rw [List.getLast?_concat]
      rintro _ ⟨⟩
      exact htells

namespace FakeTransport

/-- What the host can tell of the device by its replies. -/
structure Known (d : FakeTransport) : Prop where
  stored : Stored d
  lawful : Lawful d
  modest : Modest d.sent
  phase : d.exportActive = true → lastPhase d.sent = some "IN_PROGRESS".toList

variable {waves : Waves} {crc32 : Bytes → UInt32} {d d₁ : FakeTransport} {new : List Emission}

/-- A device within its bounds reports numbers that fit. -/
lemma Stored.bounded (h : Stored d) (index : d.exportFrameIndex ≤ sdFrameCount) :
    Bounded d.status where
  state := isAscii_mode d.mode
  target := isAscii_exportTarget d.exportTarget
  used := h.used.trans (by decide)
  capacity := (by decide : sdCapacityBytes ≤ maximumUnsignedValue)
  chunks := h.chunks.trans (by decide)
  frames := h.frames.trans (by decide)
  overwritten := h.overwritten.trans_le (Nat.zero_le _)
  index := index.trans (by decide)

/-- Every move sends statuses that fit. -/
lemma modest_moves (h : Stored d) (hmodest : Modest d.sent) (roomy : d.Roomy)
    {g : Bool} (hmoves : Moves d g d₁ new) : Modest (d.sent ++ new) := by
  have hquiet {e : Emission} (he : e.reported = none) : Modest (d.sent ++ [e]) :=
    hmodest.snoc (he ▸ fun status hstatus => (Option.not_mem_none _ hstatus).elim)
  cases hmoves with
  | reads hreads =>
    cases hreads with
    | still => exact (List.append_nil d.sent).symm ▸ hmodest
    | live x free inactive frame =>
      obtain rfl | rfl := frame
      · exact hquiet rfl
      · exact hquiet rfl
    | archives free active left => exact hquiet rfl
    | finishes free active done =>
      refine hmodest.snoc ?_
      rintro _ ⟨⟩
      have hexported : Stored d.exported :=
        ⟨Nat.zero_le _, Nat.zero_le _, Nat.zero_le _, h.overwritten, h.sound⟩
      exact hexported.bounded roomy.archive
  | closes => exact (List.append_nil d.sent).symm ▸ hmodest
  | answers reply true =>
    refine hmodest.snoc ?_
    cases true with
    | state =>
      rintro _ ⟨⟩
      exact h.bounded roomy.archive
    | _ => exact fun status hstatus => (Option.not_mem_none _ hstatus).elim
  | _ => exact hquiet rfl

/-- While the device exports, the last export event is the begin of an export. -/
lemma phase_moves {sent : List Emission} (h : Lawful d)
    (hphase : d.exportActive = true → lastPhase sent = some "IN_PROGRESS".toList)
    {g : Bool} (hmoves : Moves d g d₁ new) (hactive : d₁.exportActive = true) :
    lastPhase (sent ++ new) = some "IN_PROGRESS".toList := by
  have hquiet {e : Emission} (he : e.phase = none) (hd : d.exportActive = true) :
      lastPhase (sent ++ [e]) = some "IN_PROGRESS".toList := by
    rw [lastPhase_snoc, he, Option.none_or]
    exact hphase hd
  cases hmoves with
  | reads hreads =>
    cases hreads with
    | still =>
      rw [List.append_nil]
      exact hphase hactive
    | live x free inactive frame =>
      obtain rfl | rfl := frame
      · exact hquiet rfl hactive
      · exact hquiet rfl hactive
    | archives free active left => exact hquiet rfl hactive
    | finishes free active done => cases hactive
  | closes => cases hactive
  | answers reply true =>
    cases true with
    | exportEmpty empty => exact absurd empty (h.frames hactive)
    | _ => exact hquiet rfl hactive
  | stops =>
    have hhalted : d.halted.exportActive = true := hactive
    unfold halted at hhalted
    split at hhalted
    · cases hhalted
    · exact hquiet rfl hhalted
  | begins target can frames =>
    rw [lastPhase_snoc]
    rfl
  | _ => exact hquiet rfl hactive

/-- A step of the device keeps what is known of it. -/
lemma Known.moves {g : Bool} (h : Known d) (roomy : d.Roomy) (hmoves : Moves d g d₁ new) :
    Known { d₁ with sent := d.sent ++ new } where
  stored := h.stored.moves roomy hmoves
  lawful := h.lawful.moves hmoves
  modest := modest_moves h.stored h.modest roomy hmoves
  phase hactive := phase_moves h.lawful h.phase hmoves hactive

/-- It is so at first. -/
lemma known_new : Known ({} : FakeTransport) :=
  ⟨stored_new, lawful_new, fun _ h => (List.not_mem_nil h).elim, fun h => by cases h⟩

/-- It is about what is seen of the device. -/
lemma known_seen (d : FakeTransport) : Known d ↔ Known d.seen :=
  ⟨fun h => ⟨(stored_seen d).mp h.stored, (lawful_seen d).mp h.lawful, h.modest, h.phase⟩,
    fun h => ⟨(stored_seen d).mpr h.stored, (lawful_seen d).mpr h.lawful, h.modest, h.phase⟩⟩

/-- So it is behind every run. -/
lemma known_run (waves : Waves) (crc32 : Bytes → UInt32) {calls : List FakeCall}
    (hlength : calls.length < 2 ^ 32) : Known (runFrom (step waves crc32) {} calls) :=
  run_invariant waves crc32 Known.moves known_seen known_new hlength

/-- The query of the state, as the host sends it. -/
def stateQuery (now : ℚ) : FakeCall := .writeControl (asciiBytes "AT+STATE?\r\n".toList) now

variable (waves crc32) in
/-- An open device answers the query with its status. -/
lemma sent_stateQuery (roomy : d.Roomy) (hopen : d.opened = true) (now : ℚ) :
    (d.step waves crc32 (stateQuery now)).sent =
      d.sent ++ [.cli (.state d.status) (d.cliSequence + 1)] := by
  have hcontent : controlContent (asciiBytes "AT+STATE?\r\n".toList) =
      .ok (asciiBytes "AT+STATE?".toList) := by decide +kernel
  have hnormal : normalize (asciiBytes "AT+STATE?".toList) = "AT+STATE?".toList := by decide +kernel
  have hcall : d.step waves crc32 (stateQuery now) =
      (d.writeControl waves crc32 (asciiBytes "AT+STATE?\r\n".toList) now).1 := rfl
  rw [hcall, writeControl, hopen, Bool.not_true, if_neg Bool.false_ne_true, hcontent]
  dsimp only
  rw [hnormal, command, if_neg (by decide), if_pos rfl, queueCli_roomy _ roomy.cli]

/-- Whatever the host calls, and whatever it knew before, it takes in every reply of the device;
while the device exports, the export that it knows of is in progress; and once an open device has
answered the query of its state, the host knows that state. -/
theorem replies_heard (waves : Waves) (crc32 : Bytes → UInt32) (calls : List FakeCall)
    (hlength : calls.length + 1 < 2 ^ 32) (s : FirmwareControlState) :
    let d := runFrom (step waves crc32) {} calls
    (∃ t, heard s d.sent = .ok t ∧
      (d.exportActive = true → t.exportPhase = some "IN_PROGRESS".toList) ∧
      ∀ e ∈ d.sent.getLast?, ∀ status ∈ e.reported, Tells t status) ∧
    (d.opened = true → ∀ now,
      ∃ t, heard s (d.step waves crc32 (stateQuery now)).sent = .ok t ∧ Tells t d.status) := by
  intro d
  have hknown : Known d := known_run waves crc32 (by omega)
  constructor
  · obtain ⟨t, ht, hphase, htells⟩ := heard_ok hknown.modest s
    refine ⟨t, ht, fun hactive => ?_, htells⟩
    rw [hphase, hknown.phase hactive]
    rfl
  · intro hopen now
    obtain ⟨hcounted, -⟩ := counted_run waves crc32 counted_new
      (show 0 + calls.length < 2 ^ 32 by omega)
    have hroomy : d.Roomy := hcounted.roomy (by omega)
    have hstatus := hknown.stored.bounded hroomy.archive
    have hsent := sent_stateQuery waves crc32 hroomy hopen now
    have hmodest : Modest (d.step waves crc32 (stateQuery now)).sent := by
      rw [hsent]
      refine hknown.modest.snoc ?_
      rintro _ ⟨⟩
      exact hstatus
    obtain ⟨t, ht, -, htells⟩ := heard_ok hmodest s
    rw [hsent, List.getLast?_concat] at htells
    exact ⟨t, ht, htells _ rfl d.status rfl⟩

/-- What a host knows that has exported another device. -/
def otherDevice : FirmwareControlState :=
  { acquisitionState := some "IDLE".toList, sdUsed := some 0, exportTarget := some "NONE".toList
    exportPhase := some "COMPLETE".toList, exportRevision := 2, otaState := some "READY".toList }

/-- An export that has begun. -/
def beginExport : List FakeCall :=
  [.openEndpoint fakeDeviceId 0, .writeControl (asciiBytes "AT+EXPORT=CDC\r\n".toList) 0]

/-- Behind the begin of an export the host knows it, whatever it knew of another device. -/
theorem replies_heard_state :
    let d := runFrom (step Waves.still zlibCrc32) {} beginExport
    (∃ t, heard otherDevice d.sent = .ok t ∧ t.exportPhase = some "IN_PROGRESS".toList) ∧
    ∃ t, heard otherDevice (d.step Waves.still zlibCrc32 (stateQuery 0)).sent = .ok t ∧
      t.acquisitionState = some "EXPORT".toList ∧ t.exportTarget = some "CDC".toList ∧
      t.otaState = some "OFF".toList := by
  intro d
  have hstate : d.status.state.text = "EXPORT".toList := by decide +kernel
  have htarget : d.status.exportTarget.text = "CDC".toList := by decide +kernel
  obtain ⟨⟨t, ht, hphase, -⟩, hasked⟩ :=
    replies_heard Waves.still zlibCrc32 beginExport (by decide) otherDevice
  obtain ⟨u, hu, htells⟩ := hasked (by decide +kernel) 0
  exact ⟨⟨t, ht, hphase (by decide +kernel)⟩, u, hu, htells.state.trans (congrArg some hstate),
    htells.target.trans (congrArg some htarget), htells.ota⟩

end FakeTransport

/-- The text of a reply that the parser emits is its payload. -/
def Spoken (frame : Frame) : Prop :=
  frame.messageType = .cliResponse → frame.cliText = some (decodeUtf8Replace frame.payload)

/-- A reply that is decoded has its text. -/
lemma spoken_decodeFrame {d d' : Decoder} {common frame : Frame}
    (h : d.decodeFrame common = (d', some frame)) : Spoken frame := by
  unfold Decoder.decodeFrame Decoder.payloadError at h
  intro hcli
  split at h
  · rename_i htype
    split at h
    · cases h
    · split at h
      · cases h
        cases htype.symm.trans hcli
      · cases h
        cases htype.symm.trans hcli
  · rename_i htype
    split at h
    · cases h
    · cases h
      cases htype.symm.trans hcli
  · rename_i htype
    split at h
    · cases h
    · cases h
      cases htype.symm.trans hcli
  · cases h
    rfl

/-- `_handle_frame`, as far as the control state goes. -/
def hear (s : FirmwareControlState) (frame : Frame) :
    Except ControlStateError FirmwareControlState :=
  match frame.messageType, frame.cliText with
  | .cliResponse, some text => s.updatedFromCli text
  | _, _ => .ok s

/-- The controller's control state is what it hears, frame by frame: of a live frame from a device
that it does not refuse, with a recorder that runs if there is one. -/
theorem handleFrame_hear {c : AcquisitionController} {recorders : Storage.Recorders} {frame : Frame}
    (known : AcquisitionController.Accepts c.deviceUuid frame.deviceUuid)
    (live : frame.archiveExport = false)
    (active : ∀ id, c.recorder = some id → (recorders id).isActive = true)
    (h : hear c.controlState frame = .ok t) :
    (c.handleFrame recorders frame).1.controlState = t := by
  unfold hear at h
  split at h
  · rename_i htype htext
    exact congrArg Prod.fst
      (AcquisitionController.handleFrame_reply known live htype htext h active)
  · rename_i hother
    cases h
    have hreads := c.handleFrame_reads recorders frame
    generalize (c.handleFrame recorders frame).1.controlState = state at hreads ⊢
    generalize (c.handleFrame recorders frame).1.store.firmwareControlState = shown at hreads
    cases hreads with
    | same => rfl
    | reply accepted live cli isText updated => exact (hother _ cli isText).elim

variable (waves : Waves) (crc32 : Bytes → UInt32)

/-- The frame of a packet tells what the packet tells. -/
lemma hear_frame {e : Emission} {frame : Frame} (hframe : e.frame waves crc32 = some frame.fields)
    (spoken : Spoken frame) (he : ∀ status ∈ e.reported, Bounded status)
    (s : FirmwareControlState) : hear s frame = e.tell s := by
  have hquiet (hne : frame.messageType ≠ .cliResponse) : hear s frame = .ok s := by
    unfold hear
    split
    · rename_i htype _
      exact absurd htype hne
    · rfl
  cases e with
  | cli reply sequence =>
    have hfields := Option.some.inj hframe
    have htype : frame.messageType = .cliResponse := (congrArg Frame.messageType hfields).symm
    have hpayload : frame.payload = asciiBytes reply.text := (congrArg Frame.payload hfields).symm
    have htext := spoken htype
    rw [hpayload, decodeUtf8Replace_asciiBytes (reply.isAscii he)] at htext
    unfold hear
    rw [htype, htext]
    rfl
  | iis frameIndex sequence =>
    have htype : MessageType.iis3dwbFifo = frame.messageType :=
      congrArg Frame.messageType (Option.some.inj hframe)
    exact hquiet fun hcli => by cases htype.trans hcli
  | jy frameIndex sequence =>
    have htype : MessageType.jy61plSample = frame.messageType :=
      congrArg Frame.messageType (Option.some.inj hframe)
    exact hquiet fun hcli => by cases htype.trans hcli
  | archive frameIndex sequence =>
    have htype : MessageType.jy61plSample = frame.messageType :=
      congrArg Frame.messageType (Option.some.inj hframe)
    exact hquiet fun hcli => by cases htype.trans hcli
  | ota lines => cases hframe

/-- The frames of packets tell what the packets tell. -/
lemma hear_frames {sent : List Emission} {frames : List Frame} (hmodest : Modest sent)
    (hspoken : ∀ frame ∈ frames, Spoken frame)
    (h : frames.map Frame.fields = sent.filterMap (Emission.frame waves crc32))
    (s : FirmwareControlState) : frames.foldlM hear s = heard s sent := by
  induction sent generalizing frames s with
  | nil =>
    rw [List.map_eq_nil_iff.mp h]
    rfl
  | cons e sent ih =>
    obtain ⟨he, hrest⟩ := List.forall_mem_cons.mp hmodest
    unfold heard
    cases hframe : e.frame waves crc32 with
    | none =>
      rw [List.filterMap_cons_none hframe] at h
      have htell : e.tell s = .ok s := by
        cases e with
        | ota lines => rfl
        | _ => cases hframe
      rw [List.foldlM_cons, htell]
      exact ih hrest hspoken h s
    | some fields =>
      rw [List.filterMap_cons_some hframe] at h
      obtain ⟨frame, later, rfl, rfl, hlater⟩ := List.map_eq_cons_iff.mp h
      obtain ⟨hfirst, hspoken⟩ := List.forall_mem_cons.mp hspoken
      rw [List.foldlM_cons, List.foldlM_cons, hear_frame waves crc32 hframe hfirst he s]
      exact congrArg (e.tell s >>= ·) (funext (ih hrest hspoken hlater))

namespace FakeTransport

/-- An export that runs in a session has begun in it. -/
lemma session_phase {before calls : List FakeCall}
    (hlength : before.length + calls.length + 1 < 2 ^ 32)
    (hnew : (runFrom (step waves crc32) (atRest waves crc32 before) calls).sent =
        (atRest waves crc32 before).sent ++ new)
    (hactive :
      (runFrom (step waves crc32) (atRest waves crc32 before) calls).exportActive = true) :
    lastPhase new = some "IN_PROGRESS".toList := by
  let d := atRest waves crc32 before
  let I (e : FakeTransport) : Prop := Lawful e ∧ ∃ later, e.sent = d.sent ++ later ∧
    (e.exportActive = true → lastPhase later = some "IN_PROGRESS".toList)
  have hmoves {e e₁ : FakeTransport} {g : Bool} {more : List Emission} (he : I e) (_ : e.Roomy)
      (hm : Moves e g e₁ more) : I { e₁ with sent := e.sent ++ more } := by
    obtain ⟨hlawful, later, hsent, hphase⟩ := he
    refine ⟨hlawful.moves hm, later ++ more, ?_,
      fun hactive => phase_moves hlawful hphase hm hactive⟩
    rw [← List.append_assoc, ← hsent]
  have hseen (e : FakeTransport) : I e ↔ I e.seen :=
    ⟨fun he => ⟨(lawful_seen e).mp he.1, he.2⟩, fun he => ⟨(lawful_seen e).mpr he.1, he.2⟩⟩
  obtain ⟨-, hroomy⟩ := counted_run waves crc32 counted_new
    ((Nat.zero_add _).trans_lt (length_atRest hlength))
  have hrest : Lawful d := by
    have hbefore := lawful_run waves crc32 (show before.length < 2 ^ 32 by omega)
    have hclosed := hbefore.moves Moves.closes
    rw [List.append_nil] at hclosed
    exact hclosed
  have hstart : I d :=
    ⟨hrest, [], (List.append_nil d.sent).symm, fun h => by cases h⟩
  obtain ⟨-, later, hsent, hphase⟩ :=
    along_invariant hmoves hseen ((along_append _ _).mp hroomy).2.2 hstart
  rw [List.append_cancel_left (hnew.symm.trans hsent)]
  exact hphase hactive

/-- In every session the host takes in every reply that it reads, whatever it knew before and
however the reads cut the stream. Where nothing is held back, the phase that it knows is that of the
last export event of the session, in progress while the device exports, and a status in the last
packet is what it knows. -/
theorem session_heard (waves : Waves) (crc32 : Bytes → UInt32) (before calls : List FakeCall)
    (hlength : before.length + calls.length + 1 < 2 ^ 32) (hclose : FakeCall.close ∉ calls)
    (s : FirmwareControlState) :
    let d := atRest waves crc32 before
    let d' := runFrom (step waves crc32) d calls
    let fed := StreamParser.feedAll crc32 {} (chunks waves crc32 d calls)
    ∃ new t, d'.sent = d.sent ++ new ∧ fed.2.foldlM hear s = .ok t ∧
      (d'.backlog = [] → t.exportPhase = (lastPhase new).or s.exportPhase ∧
        (d'.exportActive = true → t.exportPhase = some "IN_PROGRESS".toList) ∧
        ∀ e ∈ new.getLast?, ∀ status ∈ e.reported, Tells t status) := by
  intro d d' fed
  obtain ⟨new, hsent, hemitted, -, hall, -⟩ :=
    session_delivered waves crc32 before calls hlength hclose
  have hknown := known_run waves crc32 (length_atRest hlength)
  rw [runFrom_atRest] at hknown
  have hmodest : Modest new := fun e he =>
    hknown.modest e (hsent ▸ List.mem_append_right d.sent he)
  have hspoken : ∀ frame ∈ fed.2, Spoken frame :=
    StreamParser.feedAll_forall crc32 (fun hdecode => spoken_decodeFrame hdecode) {} _
  obtain ⟨read, hread, hframes⟩ := List.prefix_filterMap_iff.mp hemitted
  have hreadModest : Modest read := fun e he => hmodest e (hread.subset he)
  obtain ⟨t, ht, -⟩ := heard_ok hreadModest s
  have hfold := hear_frames waves crc32 hreadModest hspoken hframes s
  refine ⟨new, t, hsent, hfold.trans ht, fun hempty => ?_⟩
  have hwhole := hear_frames waves crc32 hmodest hspoken (hall hempty) s
  obtain ⟨u, hu, hphase, htells⟩ := heard_ok hmodest s
  have hsame : Except.ok t = (Except.ok u : Except ControlStateError FirmwareControlState) :=
    (ht.symm.trans hfold.symm).trans (hwhole.trans hu)
  cases hsame
  refine ⟨hphase, fun hactive => ?_, htells⟩
  rw [hphase, session_phase waves crc32 hlength hsent hactive]
  rfl

/-- A session in which an export begins and the state is asked for, read in three parts. -/
def readExport : List FakeCall :=
  beginExport ++ [stateQuery 0, .read 40 0 [0], .read 40 0 [0], .read 4096 0 [0]]

/-- It also knows it from what it reads, in parts. -/
theorem session_heard_state :
    let d := atRest Waves.still zlibCrc32 []
    ∃ t, (StreamParser.feedAll zlibCrc32 {} (chunks Waves.still zlibCrc32 d readExport)).2.foldlM
        hear otherDevice = .ok t ∧
      t.exportPhase = some "IN_PROGRESS".toList ∧ t.acquisitionState = some "EXPORT".toList := by
  intro d
  obtain ⟨new, t, hsent, ht, htold⟩ := session_heard Waves.still zlibCrc32 [] readExport (by decide)
    (by simp [readExport, beginExport, stateQuery]) otherDevice
  obtain ⟨-, hphase, htells⟩ := htold (by decide +kernel)
  have hlast : (new.getLast?.bind Emission.reported).map (fun status => status.state.text) =
      some "EXPORT".toList := by
    have hnew : new = (runFrom (step Waves.still zlibCrc32) d readExport).sent := hsent.symm
    rw [hnew]
    decide +kernel
  obtain ⟨status, hreported, hstate⟩ := Option.map_eq_some_iff.mp hlast
  obtain ⟨e, he, hstatus⟩ := Option.bind_eq_some_iff.mp hreported
  have hknows := (htells e he status hstatus).state
  rw [hstate] at hknows
  exact ⟨t, ht, hphase (by decide +kernel), hknows⟩

end FakeTransport

end SensorHost.Transport
