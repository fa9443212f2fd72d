import SensorHost.Lib.Crc32
import SensorHost.Transport.FakeExport

/-!
# The stream of the virtual transport

What the simulator sends comes out of the host's parser: the frames that a session hands over are
emitted once, in order and with their fields, however the reads cut them, and nothing else is emitted
or refused (`session_delivered`). The numbers of the live frames go up by one, so the parser counts no
gap in a session without an export (`session_gapless`).

Every packet is the bytes of a frame that the parser takes and decodes to the fields of the packet
(`Emission.Sound.encodes`), with the lengths of the replies bounded by what the numbers in them can
be (`Stored`). The bytes of a session are what its reads hand out (`session_flow`), so they are a
beginning of the packets that it sent. The rest is the round trip of `Protocol.RoundTrip`, and for
the gaps the invariant `Numbered` with the ledger of the parser.
-/

namespace SensorHost.Transport
open SensorHost.Lib SensorHost.Protocol SensorHost.Ota SensorHost.Acquisition

variable (waves : Waves) (crc32 : Bytes → UInt32)

namespace Emission

/-- The frame in a packet, before its payload is decoded; the lines of an update are in no frame. -/
def frame (e : Emission) : Option Frame :=
  let sensor (messageType : MessageType) (payload : Bytes) (itemCount sequence timestampUs : Nat)
      (flags : Nat) : Frame :=
    { messageType := messageType
      flags := flags
      sequence := sequence
      timestampUs := timestampUs
      itemCount := itemCount
      payload := payload
      rawBytes := e.bytes waves crc32
      deviceUuid := some fakeDeviceUuid }
  match e with
  | .iis frameIndex sequence =>
    some (sensor .iis3dwbFifo (waves.iisPayload frameIndex) 9 sequence
      (timestampStartUs + frameIndex * jySamplePeriodUs) 0)
  | .jy frameIndex sequence =>
    some (sensor .jy61plSample (waves.jyPayload frameIndex) 1 sequence (jyTimestampUs frameIndex) 0)
  | .archive frameIndex sequence =>
    some (sensor .jy61plSample (waves.jyPayload frameIndex) 1 sequence (jyTimestampUs frameIndex)
      archiveFlag)
  | .cli reply sequence =>
    some
      { messageType := .cliResponse
        flags := 0
        sequence := sequence
        timestampUs := timestampStartUs + sequence
        itemCount := 1
        payload := asciiBytes reply.text
        rawBytes := e.bytes waves crc32
        deviceUuid := none }
  | .ota _ => none

/-- The number of a live frame. -/
def liveNumber : Emission → Option Nat
  | .iis _ sequence => some sequence
  | .jy _ sequence => some sequence
  | _ => none

/-- The number of a reply. -/
def replyNumber : Emission → Option Nat
  | .cli _ sequence => some sequence
  | _ => none

/-- The packet can be read: its numbers and its text fit, and no magic begins in lines of an update. -/
structure Sound (e : Emission) : Prop where
  packs : e.Packs
  fits : ∀ {reply sequence}, e = .cli reply sequence → reply.text.length ≤ Sdf1.maxPayloadSize
  inert : ∀ {lines}, e = .ota lines → ∀ line ∈ lines, Inert line

end Emission

/-- An IIS payload has 63 bytes. -/
lemma length_iisPayload (frameIndex : Nat) : (waves.iisPayload frameIndex).length = 63 := by
  unfold Waves.iisPayload packInt16
  rw [List.length_append, List.length_flatMap]
  simp [length_leBytes]

/-- A JY payload has 14. -/
lemma length_jyPayload (frameIndex : Nat) : (waves.jyPayload frameIndex).length = 14 := by
  unfold Waves.jyPayload Waves.jyRaw packInt16
  simp [length_leBytes]

/-- A packet that can be read is a frame of the encoders, or inert. -/
lemma Emission.Sound.encodes {e : Emission} (h : e.Sound) :
    (∃ f : SentFrame, e.bytes waves crc32 = f.encode crc32 ∧
      e.frame waves crc32 = some (f.fields crc32)) ∨
    Inert (e.bytes waves crc32) ∧ e.frame waves crc32 = none := by
  have hpacks := h.packs
  cases e with
  | iis frameIndex sequence =>
    -- the sequence and the time fit their fields, so packing takes nothing off them
    obtain ⟨hsequence, htime⟩ := hpacks
    refine .inl ⟨{
      flags := 0
      sequence := UInt32.ofNat sequence
      timestampUs := UInt64.ofNat (timestampStartUs + frameIndex * jySamplePeriodUs)
      body := .iis fakeDeviceUuid 9 (waves.iisPayload frameIndex)
        (length_iisPayload waves frameIndex) (by rw [length_iisPayload]; decide) }, ?_⟩
    unfold SentFrame.encode SentFrame.fields SentFrame.encode Emission.frame Emission.bytes
    dsimp only
    rw [UInt32.toNat_ofNat_of_lt' hsequence, UInt64.toNat_ofNat_of_lt' htime]
    exact ⟨rfl, rfl⟩
  | jy frameIndex sequence =>
    obtain ⟨hsequence, htime⟩ := hpacks
    refine .inl ⟨{
      flags := 0
      sequence := UInt32.ofNat sequence
      timestampUs := UInt64.ofNat (jyTimestampUs frameIndex)
      body := .jy fakeDeviceUuid (waves.jyPayload frameIndex) (length_jyPayload waves frameIndex) },
      ?_⟩
    unfold SentFrame.encode SentFrame.fields SentFrame.encode Emission.frame Emission.bytes
    dsimp only
    rw [UInt32.toNat_ofNat_of_lt' hsequence, UInt64.toNat_ofNat_of_lt' htime]
    exact ⟨rfl, rfl⟩
  | archive frameIndex sequence =>
    obtain ⟨hsequence, htime⟩ := hpacks
    refine .inl ⟨{
      flags := UInt16.ofNat archiveFlag
      sequence := UInt32.ofNat sequence
      timestampUs := UInt64.ofNat (jyTimestampUs frameIndex)
      body := .jy fakeDeviceUuid (waves.jyPayload frameIndex) (length_jyPayload waves frameIndex) },
      ?_⟩
    unfold SentFrame.encode SentFrame.fields SentFrame.encode Emission.frame Emission.bytes
    dsimp only
    rw [UInt32.toNat_ofNat_of_lt' hsequence, UInt64.toNat_ofNat_of_lt' htime]
    exact ⟨rfl, rfl⟩
  | cli reply sequence =>
    obtain ⟨hsequence, htime⟩ := hpacks
    have hfits : (asciiBytes reply.text).length ≤ Sdf1.maxPayloadSize := by
      unfold asciiBytes
      rw [List.length_map]
      exact h.fits rfl
    refine .inl ⟨{
      flags := 0
      sequence := UInt32.ofNat sequence
      timestampUs := UInt64.ofNat (timestampStartUs + sequence)
      body := .cli (asciiBytes reply.text) hfits }, ?_⟩
    unfold SentFrame.encode SentFrame.fields SentFrame.encode Emission.frame Emission.bytes
    dsimp only
    rw [UInt32.toNat_ofNat_of_lt' hsequence, UInt64.toNat_ofNat_of_lt' htime]
    exact ⟨rfl, rfl⟩
  -- an OTA line is no frame, and the parser finds none in it
  | ota lines => exact .inr ⟨inert_flatten (h.inert rfl), rfl⟩

/-- Packets that can be read are a stream of frames with inert bytes between them. -/
lemma exists_stream {sent : List Emission} (h : ∀ e ∈ sent, e.Sound) {before : Bytes}
    (hbefore : Inert before) :
    ∃ (frames : List (Bytes × SentFrame)) (after : Bytes),
      before ++ (sent.map (Emission.bytes waves crc32)).flatten = stream crc32 frames after ∧
        (∀ s ∈ frames, ¬ Sdf1.magic <:+: s.1) ∧ (¬ Sdf1.magic <:+: after) ∧
        frames.map (fun s => s.2.fields crc32) = sent.filterMap (Emission.frame waves crc32) := by
  induction sent generalizing before with
  | nil =>
    refine ⟨[], before, ?_, fun s hs => (List.not_mem_nil hs).elim, hbefore.no_magic, rfl⟩
    rw [List.map_nil, List.flatten_nil, List.append_nil]
    rfl
  | cons e sent ih =>
    have hrest : ∀ x ∈ sent, x.Sound := fun x hx => h x (List.mem_cons_of_mem _ hx)
    obtain ⟨f, hbytes, hframe⟩ | ⟨hinert, hframe⟩ :=
      (h e List.mem_cons_self).encodes waves crc32
    · obtain ⟨frames, after, hstream, hfree, hafter, hfields⟩ := ih hrest inert_nil
      refine ⟨(before, f) :: frames, after, ?_, ?_, hafter, ?_⟩
      · rw [List.map_cons, List.flatten_cons, hbytes]
        rw [List.nil_append] at hstream
        rw [hstream]
        unfold stream
        rw [List.map_cons, List.flatten_cons, List.append_assoc, List.append_assoc]
      · exact List.forall_mem_cons.mpr ⟨hbefore.no_magic, hfree⟩
      · rw [List.map_cons, List.filterMap_cons, hframe, hfields]
    · obtain ⟨frames, after, hstream, hfree, hafter, hfields⟩ := ih hrest (hbefore.append hinert)
      refine ⟨frames, after, ?_, hfree, hafter, ?_⟩
      · rw [List.map_cons, List.flatten_cons, ← List.append_assoc]
        exact hstream
      · rw [List.filterMap_cons, hframe, hfields]

/-- The parser emits the frames of packets that can be read, and counts no error. -/
lemma feed_packets {sent : List Emission} (h : ∀ e ∈ sent, e.Sound) :
    let fed := StreamParser.feed crc32 {} (sent.map (Emission.bytes waves crc32)).flatten
    fed.2.map Frame.fields = sent.filterMap (Emission.frame waves crc32) ∧
      fed.1.stats.crcErrors = 0 ∧ fed.1.stats.headerErrors = 0 ∧ fed.1.stats.lengthErrors = 0 := by
  obtain ⟨frames, after, hstream, hfree, hafter, hfields⟩ :=
    exists_stream waves crc32 h inert_nil
  rw [List.nil_append] at hstream
  have htrip := round_trip crc32 true frames after hfree hafter
    [(sent.map (Emission.bytes waves crc32)).flatten] (List.flatten_singleton.trans hstream)
  rw [feedAll_eq_feed, List.flatten_singleton, hfields] at htrip
  exact ⟨htrip.1, htrip.2.1, htrip.2.2.1, htrip.2.2.2.1⟩

/-- A number below 100000 has five digits at most. -/
lemma length_renderNat {n : Nat} (h : n < 10 ^ 5) : (renderNat n).length ≤ 5 :=
  (Nat.length_toDigits_le_iff (by decide) (by decide)).mpr h

namespace FakeTransport

/-- The store is within its bounds, and what was sent can be read. -/
structure Stored (d : FakeTransport) : Prop where
  used : d.sdUsed ≤ sdCapacityBytes
  frames : d.sdRetainedFrames ≤ sdFrameCount
  chunks : d.sdRetainedChunks ≤ 1
  overwritten : d.sdOverwrittenFrames = 0
  sound : ∀ e ∈ d.sent, e.Sound

variable {waves crc32} {d d₁ d' : FakeTransport} {new : List Emission}

/-- A mode has seven letters at most. -/
lemma length_modeWord (mode : FakeMode) : mode.word.text.length ≤ 7 := by
  cases mode <;> decide

/-- So has a target. -/
lemma length_exportTargetWord (target : Option StreamTarget) :
    (exportTargetWord target).text.length ≤ 7 := by
  cases target with
  | none => decide
  | some target => cases target <;> decide

/-- A state reply is far shorter than the longest payload. -/
lemma length_stateReply (used : d.sdUsed ≤ sdCapacityBytes)
    (frames : d.sdRetainedFrames ≤ sdFrameCount) (chunks : d.sdRetainedChunks ≤ 1)
    (overwritten : d.sdOverwrittenFrames = 0) (index : d.exportFrameIndex ≤ sdFrameCount) :
    d.status.stateReply.length ≤ 400 := by
  unfold sdCapacityBytes at used
  unfold sdFrameCount at frames index
  have hmode := length_modeWord d.mode
  have htarget := length_exportTargetWord d.exportTarget
  have hused := length_renderNat (show d.sdUsed < 10 ^ 5 by omega)
  have hcapacity := length_renderNat (show sdCapacityBytes < 10 ^ 5 by decide)
  have hchunks := length_renderNat (show d.sdRetainedChunks < 10 ^ 5 by omega)
  have hframes := length_renderNat (show d.sdRetainedFrames < 10 ^ 5 by omega)
  have hoverwritten := length_renderNat (show d.sdOverwrittenFrames < 10 ^ 5 by omega)
  have hindex := length_renderNat (show d.exportFrameIndex < 10 ^ 5 by omega)
  have hwords : "+STATE:".toList.length + "\r\n".toList.length + "+SD:USED=".toList.length +
      ",CAPACITY=".toList.length + ",PENDING_FRAMES=0,RETAINED_CHUNKS=".toList.length +
      ",RETAINED_FRAMES=".toList.length + ",OVERWRITTEN_CHUNKS=0,".toList.length +
      "OVERWRITTEN_FRAMES=".toList.length + ",READY=1,".toList.length +
      "FORMAT_REQUIRED=0\r\n".toList.length + "+EXPORT:TARGET=".toList.length +
      ",CHUNK=".toList.length + ",FRAME=".toList.length + "\r\n".toList.length +
      "+OTA:STATE=OFF,RECEIVED=0,TOTAL=0,ERROR=0\r\n".toList.length + "OK\r\n".toList.length ≤
      300 := by decide
  unfold status FakeState.stateReply
  simp only [List.flatten_cons, List.flatten_nil, List.length_append, List.length_nil]
  omega

namespace Stored

/-- What is stored is in these fields. -/
lemma of_eq (h : Stored d) (used : d'.sdUsed = d.sdUsed)
    (frames : d'.sdRetainedFrames = d.sdRetainedFrames)
    (chunks : d'.sdRetainedChunks = d.sdRetainedChunks)
    (overwritten : d'.sdOverwrittenFrames = d.sdOverwrittenFrames)
    (sound : ∀ e ∈ d'.sent, e.Sound) : Stored d' where
  used := used.trans_le h.used
  frames := frames.trans_le h.frames
  chunks := chunks.trans_le h.chunks
  overwritten := overwritten.trans h.overwritten
  sound := sound

/-- A packet more. -/
lemma snoc (h : Stored d) {e : Emission} (he : e.Sound) : ∀ x ∈ d.sent ++ [e], x.Sound :=
  List.forall_mem_append.mpr ⟨h.sound, List.forall_mem_singleton.mpr he⟩

/-- A reply that is short. -/
lemma cli (h : Stored d) (roomy : d.Roomy) {reply : FakeReply} (fits : reply.text.length ≤ 3577) :
    ∀ x ∈ d.sent ++ [.cli reply (d.cliSequence + 1)], x.Sound := by
  refine h.snoc ⟨packs_cli roomy.cli, ?_, fun heq => by cases heq⟩
  intro reply' sequence' heq
  cases heq
  exact fits

/-- A frame of the sensors. -/
lemma sensor {e : Emission} (packs : e.Packs) (cli : ∀ reply sequence, e ≠ .cli reply sequence)
    (ota : ∀ lines, e ≠ .ota lines) : e.Sound :=
  ⟨packs, fun heq => absurd heq (cli _ _), fun heq => absurd heq (ota _)⟩

/-- The replies that tell of the device are short. -/
lemma answers (h : Stored d) (roomy : d.Roomy) {reply : FakeReply} (answers : d.Answers reply) :
    reply.text.length ≤ 3577 := by
  cases answers with
  | uuid => decide +kernel
  | state =>
    exact (length_stateReply h.used h.frames h.chunks h.overwritten roomy.archive).trans (by decide)
  | livestream => cases d.liveTarget <;> decide
  | _ => decide

/-- Every move keeps the bounds, and sends what can be read. -/
theorem moves {g : Bool} (h : Stored d) (roomy : d.Roomy) (hmoves : Moves d g d₁ new) :
    Stored { d₁ with sent := d.sent ++ new } := by
  have hframe := roomy.frame
  have harchive := roomy.archive
  unfold sdFrameCount at harchive
  cases hmoves with
  | reads hreads =>
    cases hreads with
    | still => exact h.of_eq rfl rfl rfl rfl (by rw [List.append_nil]; exact h.sound)
    | live x free inactive frame =>
      refine h.of_eq rfl rfl rfl rfl (h.snoc ?_)
      obtain rfl | rfl := frame
      · refine sensor ⟨roomy.sensor, ?_⟩ (fun _ _ heq => by cases heq) (fun _ heq => by cases heq)
        unfold timestampStartUs jySamplePeriodUs
        omega
      · exact sensor ⟨roomy.sensor, jyTimestampUs_lt (by omega)⟩ (fun _ _ heq => by cases heq)
          (fun _ heq => by cases heq)
    | archives free active left =>
      refine h.of_eq rfl rfl rfl rfl (h.snoc ?_)
      exact sensor ⟨by omega, jyTimestampUs_lt (by omega)⟩ (fun _ _ heq => by cases heq)
        (fun _ heq => by cases heq)
    | finishes free active done =>
      have hstatus : d.exported.status.stateReply.length ≤ 400 :=
        length_stateReply (Nat.zero_le _) (Nat.zero_le _) (Nat.zero_le _) h.overwritten roomy.archive
      have htext : (FakeReply.exportEnd d.exported.status).text.length ≤ 3577 := by
        unfold FakeReply.text
        rw [List.length_append]
        have hhead : "EXPORT_END:CHUNKS=1,FRAMES=24\r\n".toList.length ≤ 40 := by decide
        omega
      exact ⟨Nat.zero_le _, Nat.zero_le _, Nat.zero_le _, h.overwritten, h.cli roomy htext⟩
  | closes => exact h.of_eq rfl rfl rfl rfl (by rw [List.append_nil]; exact h.sound)
  | answers reply true => exact h.of_eq rfl rfl rfl rfl (h.cli roomy (h.answers roomy true))
  | targets target can => exact h.of_eq rfl rfl rfl rfl (h.cli roomy (by decide))
  | starts can => exact h.of_eq rfl rfl rfl rfl (h.cli roomy (by decide))
  | stops =>
    have hcli := h.cli roomy (show FakeReply.ok.text.length ≤ 3577 by decide)
    unfold halted
    split
    · exact h.of_eq rfl rfl rfl rfl hcli
    · exact h.of_eq rfl rfl rfl rfl hcli
  | begins target can frames =>
    exact h.of_eq rfl rfl rfl rfl (h.cli roomy (by cases target <;> decide))
  | clears can =>
    exact ⟨Nat.zero_le _, Nat.zero_le _, Nat.zero_le _, rfl, h.cli roomy (by decide)⟩
  | updates active lines inert =>
    refine h.of_eq rfl rfl rfl rfl (h.snoc ⟨trivial, fun heq => (by cases heq), ?_⟩)
    intro lines' heq
    cases heq
    exact inert

end Stored

/-- A new device has its store. -/
lemma stored_new : Stored ({} : FakeTransport) :=
  ⟨by decide, le_rfl, le_rfl, rfl, fun _ h => (List.not_mem_nil h).elim⟩

/-- It is about what is seen of the device. -/
lemma stored_seen (d : FakeTransport) : Stored d ↔ Stored d.seen :=
  ⟨fun h => h.of_eq rfl rfl rfl rfl h.sound, fun h => h.of_eq rfl rfl rfl rfl h.sound⟩

/-- Whatever the host calls, what the device sends can be read. -/
lemma stored_run (waves : Waves) (crc32 : Bytes → UInt32) {calls : List FakeCall}
    (hlength : calls.length < 2 ^ 32) : Stored (runFrom (step waves crc32) {} calls) :=
  run_invariant waves crc32 Stored.moves stored_seen stored_new hlength

/-- What the device holds back and sends is what the calls hand over and what it still holds back. -/
lemma flow_run {calls : List FakeCall}
    (hroomy : Along (step waves crc32) (fun d _ => d.Roomy) d calls) (hclose : FakeCall.close ∉ calls) :
    ∃ new, (runFrom (step waves crc32) d calls).sent = d.sent ++ new ∧
      d.backlog ++ (new.map (Emission.bytes waves crc32)).flatten =
        (chunks waves crc32 d calls).flatten ++ (runFrom (step waves crc32) d calls).backlog := by
  induction calls generalizing d with
  | nil =>
    refine ⟨[], (List.append_nil _).symm, ?_⟩
    rw [List.map_nil, List.flatten_nil, List.append_nil]
    rfl
  | cons c calls ih =>
    rw [List.mem_cons, not_or] at hclose
    obtain ⟨d₁, sent, -, hsends⟩ := call_spec waves crc32 hroomy.1 (Ne.symm hclose.1)
    obtain ⟨later, hsent, hflow⟩ := ih hroomy.2 hclose.2
    refine ⟨sent ++ later, ?_, ?_⟩
    · rw [runFrom_cons, hsent, hsends.sent, List.append_assoc]
    · rw [List.map_append, List.flatten_append, ← List.append_assoc, hsends.flow, List.append_assoc,
        hflow, runFrom_cons, chunks, List.flatten_cons, List.append_assoc]

/-- The device when a session begins: closed behind any run. -/
def atRest (waves : Waves) (crc32 : Bytes → UInt32) (before : List FakeCall) : FakeTransport :=
  (runFrom (step waves crc32) {} before).close

variable {before calls : List FakeCall}

/-- A session is the end of a run. -/
lemma runFrom_atRest (waves : Waves) (crc32 : Bytes → UInt32) (before calls : List FakeCall) :
    runFrom (step waves crc32) {} (before ++ .close :: calls) =
      runFrom (step waves crc32) (atRest waves crc32 before) calls := by
  rw [runFrom_append, runFrom_cons]
  rfl

/-- The calls of both parts are below 2^32. -/
lemma length_atRest (hlength : before.length + calls.length + 1 < 2 ^ 32) :
    (before ++ FakeCall.close :: calls).length < 2 ^ 32 := by
  rw [List.length_append, List.length_cons]
  omega

/-- A session that begins at rest hands over what the device sends in it, which can be read. -/
lemma session_flow (waves : Waves) (crc32 : Bytes → UInt32)
    (hlength : before.length + calls.length + 1 < 2 ^ 32) (hclose : FakeCall.close ∉ calls) :
    let d := atRest waves crc32 before
    ∃ new, (runFrom (step waves crc32) d calls).sent = d.sent ++ new ∧ (∀ e ∈ new, e.Sound) ∧
      (new.map (Emission.bytes waves crc32)).flatten =
        (chunks waves crc32 d calls).flatten ++ (runFrom (step waves crc32) d calls).backlog := by
  have hall := length_atRest hlength
  obtain ⟨-, hroomy⟩ := counted_run waves crc32 counted_new ((Nat.zero_add _).trans_lt hall)
  obtain ⟨new, hsent, hflow⟩ := flow_run ((along_append _ _).mp hroomy).2.2 hclose
  refine ⟨new, hsent, ?_, hflow⟩
  have hsound := (stored_run waves crc32 hall).sound
  rw [runFrom_atRest] at hsound
  exact fun e he => hsound e (hsent ▸ List.mem_append_right _ he)

/-- What the simulator sends in a session comes out of the host's parser: its frames are emitted once,
in order and with their fields; those handed over whole are emitted at once, all of them where nothing
is held back; and no CRC, header or length error is counted, whatever lines of an update stand
between. -/
theorem session_delivered (waves : Waves) (crc32 : Bytes → UInt32) (before calls : List FakeCall)
    (hlength : before.length + calls.length + 1 < 2 ^ 32) (hclose : FakeCall.close ∉ calls) :
    let d := atRest waves crc32 before
    let d' := runFrom (step waves crc32) d calls
    let out := chunks waves crc32 d calls
    let fed := StreamParser.feedAll crc32 {} out
    let emitted := fed.2.map Frame.fields
    ∃ new, d'.sent = d.sent ++ new ∧
      emitted <+: new.filterMap (Emission.frame waves crc32) ∧
      (∀ whole, whole <+: new → (whole.map (Emission.bytes waves crc32)).flatten <+: out.flatten →
        whole.filterMap (Emission.frame waves crc32) <+: emitted) ∧
      (d'.backlog = [] → emitted = new.filterMap (Emission.frame waves crc32)) ∧
      fed.1.stats.crcErrors = 0 ∧ fed.1.stats.headerErrors = 0 ∧ fed.1.stats.lengthErrors = 0 := by
  intro d d' out fed emitted
  obtain ⟨new, hsent, hsound, hflow⟩ := session_flow waves crc32 hlength hclose
  have hfed : fed = StreamParser.feed crc32 {} out.flatten := feedAll_eq_feed _ _ _
  obtain ⟨hframes, hcrc, hheader, hsize⟩ := feed_packets waves crc32 hsound
  obtain ⟨hbegins, hbelow⟩ := feed_stays crc32 {} out.flatten d'.backlog
  rw [← hflow, ← hfed] at hbegins hbelow
  have hemitted : emitted <+: new.filterMap (Emission.frame waves crc32) := by
    rw [← hframes]
    exact hbegins.map _
  have hwhole (whole : List Emission) (hnew : whole <+: new)
      (hout : (whole.map (Emission.bytes waves crc32)).flatten <+: out.flatten) :
      whole.filterMap (Emission.frame waves crc32) <+: emitted := by
    obtain ⟨hfields, -⟩ := feed_packets waves crc32 fun e he => hsound e (hnew.subset he)
    obtain ⟨rest, hrest⟩ := hout
    obtain ⟨hstays, -⟩ := feed_stays crc32 {} (whole.map (Emission.bytes waves crc32)).flatten rest
    rw [hrest, ← hfed] at hstays
    rw [← hfields]
    exact hstays.map _
  refine ⟨new, hsent, hemitted, hwhole, ?_, ?_, ?_, ?_⟩
  · intro hempty
    rw [hempty, List.append_nil] at hflow
    have hall := hwhole new (List.prefix_refl _) (hflow ▸ List.prefix_refl _)
    exact hemitted.eq_of_length_le hall.length_le
  · exact Nat.le_zero.mp (hcrc ▸ hbelow.crcErrors)
  · exact Nat.le_zero.mp (hheader ▸ hbelow.headerErrors)
  · exact Nat.le_zero.mp (hsize ▸ hbelow.lengthErrors)

/-- A session that asks for the state, reads the reply in two parts, and a live frame. -/
def askState : List FakeCall :=
  [.openEndpoint fakeDeviceId 0, .writeControl (asciiBytes "AT+STATE?\r\n".toList) 0,
    .read 40 0 [0], .read 4096 0 [0], .read 4096 0 [0, 1]]

/-- Behind a reply and a live frame nothing is held back, and all is delivered. -/
theorem session_delivered_state :
    let d := atRest Waves.still zlibCrc32 []
    let fed := StreamParser.feedAll zlibCrc32 {} (chunks Waves.still zlibCrc32 d askState)
    fed.2.map Frame.fields =
        (runFrom (step Waves.still zlibCrc32) d askState).sent.filterMap
          (Emission.frame Waves.still zlibCrc32) ∧
      fed.1.stats.crcErrors = 0 := by
  dsimp only
  obtain ⟨new, hsent, -, -, hall, hcrc, -⟩ :=
    session_delivered Waves.still zlibCrc32 [] askState (by decide) (by simp [askState])
  have hempty : (runFrom (step Waves.still zlibCrc32) (atRest Waves.still zlibCrc32 [])
      askState).backlog = [] := by decide +kernel
  have hnothing : (atRest Waves.still zlibCrc32 []).sent = [] := rfl
  rw [hnothing, List.nil_append] at hsent
  rw [hsent]
  exact ⟨hall hempty, hcrc⟩

/-- The live frames are numbered from one on without a gap, and so are the replies. -/
structure Numbered (d : FakeTransport) : Prop where
  live : d.sent.filterMap Emission.liveNumber = List.range' 1 d.sensorSequence
  replies : d.sent.filterMap Emission.replyNumber = List.range' 1 d.cliSequence

namespace Numbered

/-- A packet with neither number. -/
lemma other (h : Numbered d) {e : Emission} (live : e.liveNumber = none)
    (reply : e.replyNumber = none) : Numbered { d with sent := d.sent ++ [e] } where
  live := by rw [List.filterMap_append, h.live, List.filterMap_cons, live]; exact List.append_nil _
  replies := by
    rw [List.filterMap_append, h.replies, List.filterMap_cons, reply]
    exact List.append_nil _

/-- One more number. -/
lemma range_succ (n : Nat) : List.range' 1 n ++ [n + 1] = List.range' 1 (n + 1) := by
  rw [List.range'_concat, Nat.one_mul, Nat.add_comm 1 n]

/-- A reply with the next number. -/
lemma reply (h : Numbered d) (reply : FakeReply) :
    Numbered { d.replied with sent := d.sent ++ [.cli reply (d.cliSequence + 1)] } where
  live := by
    rw [List.filterMap_append, h.live]
    exact List.append_nil _
  replies := by
    rw [List.filterMap_append, h.replies]
    exact range_succ _

/-- The numbers are in these fields. -/
lemma of_eq (h : Numbered d) (sensor : d'.sensorSequence = d.sensorSequence)
    (cli : d'.cliSequence = d.cliSequence) (sent : d'.sent = d.sent) : Numbered d' where
  live := by rw [sent, sensor, h.live]
  replies := by rw [sent, cli, h.replies]

/-- Every move numbers what it sends. -/
theorem moves {g : Bool} (h : Numbered d) (hmoves : Moves d g d₁ new) :
    Numbered { d₁ with sent := d.sent ++ new } := by
  cases hmoves with
  | reads hreads =>
    cases hreads with
    | still => exact h.of_eq rfl rfl (List.append_nil _)
    | live x free inactive frame =>
      refine ⟨?_, ?_⟩
      · rw [List.filterMap_append, h.live]
        obtain rfl | rfl := frame
        · exact range_succ _
        · exact range_succ _
      · rw [List.filterMap_append, h.replies]
        obtain rfl | rfl := frame
        · exact List.append_nil _
        · exact List.append_nil _
    | archives free active left => exact (h.other rfl rfl).of_eq rfl rfl rfl
    | finishes free active done => exact (h.reply _).of_eq rfl rfl rfl
  | closes => exact h.of_eq rfl rfl (List.append_nil _)
  | stops =>
    have hreply := h.reply .ok
    unfold halted
    split
    · exact hreply.of_eq rfl rfl rfl
    · exact hreply.of_eq rfl rfl rfl
  | updates active lines inert => exact (h.other rfl rfl).of_eq rfl rfl rfl
  | _ => exact (h.reply _).of_eq rfl rfl rfl

end Numbered

/-- Whatever the host calls, the live frames are numbered 1, 2, 3, … and the replies as well. -/
lemma numbered_run (waves : Waves) (crc32 : Bytes → UInt32) {calls : List FakeCall}
    (hlength : calls.length < 2 ^ 32) : Numbered (runFrom (step waves crc32) {} calls) :=
  run_invariant waves crc32 (fun h _ => h.moves)
    (fun _ => ⟨fun h => h.of_eq rfl rfl rfl, fun h => h.of_eq rfl rfl rfl⟩) ⟨rfl, rfl⟩ hlength

end FakeTransport

/-- What begins a row of numbers is one. -/
lemma eq_range'_of_prefix {numbers : List Nat} {first count : Nat}
    (h : numbers <+: List.range' first count) :
    ∃ n ≤ count, numbers = List.range' first n := by
  have htake := List.prefix_iff_eq_take.mp h
  obtain hle | hge := le_total count numbers.length
  · rw [List.take_range'_of_length_le hle] at htake
    exact ⟨count, le_rfl, htake⟩
  · rw [List.take_range'_of_length_ge hge] at htake
    exact ⟨numbers.length, hge, htake⟩

/-- Numbers that go up by one have no gap. -/
lemma countedGaps_range' {first count : Nat} (h : first + count ≤ 2 ^ 32) :
    countedGaps (List.range' first count) = 0 := by
  induction count generalizing first with
  | zero => rfl
  | succ count ih =>
    cases count with
    | zero => rfl
    | succ count =>
      have hgap : countedGap first (first + 1) = 0 := by
        unfold countedGap Decoder.sequenceGap
        rw [Nat.mod_eq_of_lt (by omega), Int.sub_self]
        rfl
      have hrest := ih (show first + 1 + (count + 1) ≤ 2 ^ 32 by omega)
      rw [List.range'_succ] at hrest ⊢
      rw [List.range'_succ, countedGaps, hgap, Nat.zero_add]
      exact hrest

/-- The numbers of the sensor frames among packets without an archive frame are those of the live
frames. -/
lemma sensorSequences_live {sent : List Emission} (h : ∀ e ∈ sent, e.archiveNumber = none) :
    sensorSequences (sent.filterMap (Emission.frame waves crc32)) =
      sent.filterMap Emission.liveNumber := by
  induction sent with
  | nil => rfl
  | cons e sent ih =>
    have hrest := ih fun x hx => h x (List.mem_cons_of_mem _ hx)
    cases e with
    | iis frameIndex sequence => exact congrArg (sequence :: ·) hrest
    | jy frameIndex sequence => exact congrArg (sequence :: ·) hrest
    | archive frameIndex sequence => cases h _ List.mem_cons_self
    | cli reply sequence => exact hrest
    | ota lines => exact hrest

/-- What begins with frames begins with their numbers. -/
lemma sensorSequences_prefix {frames all : List Frame} (h : frames <+: all) :
    sensorSequences frames <+: sensorSequences all := (h.filter _).map _

namespace FakeTransport

/-- The parser counts no gap in a session in which no archive frame is sent, however the reads cut the
stream and wherever the session ends. -/
theorem session_gapless (waves : Waves) (crc32 : Bytes → UInt32) (before calls : List FakeCall)
    (hlength : before.length + calls.length + 1 < 2 ^ 32) (hclose : FakeCall.close ∉ calls) :
    let d := atRest waves crc32 before
    let d' := runFrom (step waves crc32) d calls
    (∀ e ∈ d'.sent.drop d.sent.length, e.archiveNumber = none) →
      (StreamParser.feedAll crc32 {} (chunks waves crc32 d calls)).1.stats.sequenceGaps = 0 := by
  intro d d' harchive
  obtain ⟨new, hsent, hemitted, -⟩ := session_delivered waves crc32 before calls hlength hclose
  have hnew : d'.sent.drop d.sent.length = new := by
    rw [show d'.sent = d.sent ++ new from hsent, List.drop_left]
  rw [hnew] at harchive
  -- the numbers sent in the session go on behind those sent before it
  have hall := length_atRest hlength
  have hbefore : Numbered d :=
    (numbered_run waves crc32 (show before.length < 2 ^ 32 by omega)).of_eq rfl rfl rfl
  have hbehind := numbered_run waves crc32 hall
  have hcount := (counted_run waves crc32 counted_new ((Nat.zero_add _).trans_lt hall)).1.sensor
  rw [runFrom_atRest] at hbehind hcount
  have hnumbers : new.filterMap Emission.liveNumber =
      List.range' (1 + d.sensorSequence) (d'.sensorSequence - d.sensorSequence) := by
    have hlive := hbehind.live
    rw [hsent, List.filterMap_append, hbefore.live] at hlive
    have hdrop := congrArg (List.drop d.sensorSequence) hlive
    rw [List.drop_left' List.length_range', List.drop_range', Nat.mul_one] at hdrop
    exact hdrop
  obtain ⟨-, -, hgaps⟩ := feedAll_ledger crc32 true (chunks waves crc32 d calls)
  have hfirst := sensorSequences_prefix hemitted
  rw [sensorSequences_fields, sensorSequences_live waves crc32 harchive, hnumbers] at hfirst
  obtain ⟨n, hn, hreceived⟩ := eq_range'_of_prefix hfirst
  rw [hgaps, hreceived]
  refine countedGaps_range' ?_
  have hfirst : d.sensorSequence ≤ 0 + before.length :=
    (counted_run waves crc32 counted_new (show 0 + before.length < 2 ^ 32 by omega)).1.sensor
  have hlast : d'.sensorSequence ≤ 0 + (before ++ FakeCall.close :: calls).length := hcount
  omega

/-- A session with a live frame of each kind, the second behind a reply and cut by the reads. -/
def readLive : List FakeCall :=
  [.openEndpoint fakeDeviceId 0, .read 4096 0 [0, 1],
    .writeControl (asciiBytes "AT+STATE?\r\n".toList) 1, .read 4096 0 [1], .read 20 0 [1, 2],
    .read 4096 0 [2]]

/-- Both frames are read to their end. -/
theorem session_gapless_state :
    let d := runFrom (step Waves.still zlibCrc32) (atRest Waves.still zlibCrc32 []) readLive
    (StreamParser.feedAll zlibCrc32 {}
        (chunks Waves.still zlibCrc32 (atRest Waves.still zlibCrc32 []) readLive)
      ).1.stats.sequenceGaps = 0 ∧
      d.sent.filterMap Emission.liveNumber = [1, 2] ∧ d.backlog = [] :=
  ⟨session_gapless Waves.still zlibCrc32 [] readLive (by decide) (by simp [readLive])
    (by decide +kernel), by decide +kernel, by decide +kernel⟩

end FakeTransport

end SensorHost.Transport
