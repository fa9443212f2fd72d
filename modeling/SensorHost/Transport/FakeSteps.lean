import SensorHost.Lib.Runs
import SensorHost.Protocol.Delivery
import SensorHost.Transport.Fake

/-!
# The steps of the virtual transport

What one call makes of the device, with the packets it sends (`Moves`), and what becomes of the
bytes (`Sends`). `call_spec` brings every call under both, as long as no number of a header has
reached the end of its field (`Roomy`); the first 2³² calls have not.

The calls are described once, and the properties of runs are proved about moves. `Moves` has a
constructor for each thing that the device does of itself or at a command: answers, a stop, the
begin of an export, live and archive frames, the end of an export, a close. `Sends` is about the
bytes: what is pending before, with what the move adds, is what the call hands out and what is
pending behind. `run_invariant` is the induction rule: what every move keeps holds behind every run,
as long as there are fewer than 2³² calls.
-/

namespace SensorHost.Transport
open SensorHost.Lib SensorHost.Protocol SensorHost.Ota SensorHost.Acquisition

/-- Two texts are encoded one after the other. -/
lemma asciiBytes_append (a b : Text) : asciiBytes (a ++ b) = asciiBytes a ++ asciiBytes b :=
  List.map_append

/-- A numeral has no `S`. -/
lemma not_mem_asciiBytes {text : Text} (h : ∀ c ∈ text, c ∈ numeralChars) :
    0x53 ∉ asciiBytes text := by
  intro hmem
  obtain ⟨c, hc, heq⟩ := List.mem_map.mp hmem
  exact (by decide : ∀ c ∈ numeralChars, UInt8.ofNat c.toNat ≠ 0x53) c (h c hc) heq

/-- There is no `S` in a number. -/
lemma not_mem_renderNat (n : Nat) : 0x53 ∉ asciiBytes (renderNat n) :=
  not_mem_asciiBytes toDigits_mem

/-- Nor is there in an integer. -/
lemma not_mem_renderInt (i : Int) : 0x53 ∉ asciiBytes (renderInt i) := by
  unfold renderInt
  split
  · intro hmem
    cases List.mem_cons.mp hmem with
    | inl heq => exact absurd heq (by decide)
    | inr hmem => exact not_mem_renderNat _ hmem
  · exact not_mem_renderNat _

/-- A field whose name and value are inert. -/
structure InertField (field : Text × Text) : Prop where
  name : Inert (asciiBytes (field.1 ++ ['=']))
  value : 0x53 ∉ asciiBytes field.2

/-- A field from its name and its value. -/
lemma inertField {name value : Text} (hname : Inert (asciiBytes (name ++ ['='])))
    (hvalue : 0x53 ∉ asciiBytes value) : InertField (name, value) := ⟨hname, hvalue⟩

/-- So is its text. -/
lemma InertField.item {field : Text × Text} (h : InertField field) :
    Inert (asciiBytes (fieldItem field)) := by
  have hitem : fieldItem field = field.1 ++ ['='] ++ field.2 := by
    unfold fieldItem
    rw [List.append_assoc, List.singleton_append]
  rw [hitem, asciiBytes_append]
  exact h.name.append (inert_of_not_mem h.value)

/-- So are fields that are joined. -/
lemma inert_joinFields {fields : List (Text × Text)} (h : ∀ f ∈ fields, InertField f) :
    Inert (asciiBytes (joinFields fields)) := by
  induction fields using joinFields.induct with
  | case1 => exact inert_nil
  | case2 field => exact (h field List.mem_cons_self).item
  | case3 field next fields ih =>
    rw [joinFields, ← List.singleton_append, asciiBytes_append, asciiBytes_append]
    have hcomma : Inert (asciiBytes [',']) := by decide
    exact (h field List.mem_cons_self).item.append
      (hcomma.append (ih fun f hf => h f (List.mem_cons_of_mem _ hf)))

/-- So is a reply line of them. -/
lemma inert_replyLine {kind : Text} {fields : List (Text × Text)} (hkind : Inert (asciiBytes kind))
    (h : ∀ f ∈ fields, InertField f) : Inert (replyLine kind fields) := by
  unfold replyLine replyHead
  rw [asciiBytes_append, asciiBytes_append, asciiBytes_append, asciiBytes_append]
  have hhead : Inert (asciiBytes "+OTA:".toList) := by decide
  have hcomma : Inert (asciiBytes ",".toList) := by decide
  have hend : Inert (asciiBytes "\r\n".toList) := by decide
  exact (((hhead.append hkind).append hcomma).append (inert_joinFields h)).append hend

/-- An acknowledgement is inert. -/
lemma inert_ackLine (sequence : Int) (next : Nat) : Inert (ackLine sequence next) := by
  refine inert_replyLine (by decide)
    (List.forall_mem_cons.mpr ⟨?_, List.forall_mem_singleton.mpr ?_⟩)
  · exact inertField (by decide) (not_mem_renderInt sequence)
  · exact inertField (by decide) (not_mem_renderNat next)

/-- So is a refusal. -/
lemma inert_nackLine (next : Nat) : Inert (nackLine next) := by
  refine inert_replyLine (by decide) (List.forall_mem_cons.mpr ⟨?_, List.forall_mem_cons.mpr
    ⟨?_, List.forall_mem_singleton.mpr ?_⟩⟩)
  · exact inertField (by decide) (by decide)
  · exact inertField (by decide) (by decide)
  · exact inertField (by decide) (not_mem_renderNat next)

/-- So is the reply to the commit. -/
lemma inert_stagedLine (crc : Nat) : Inert (stagedLine crc) := by
  refine inert_replyLine (by decide)
    (List.forall_mem_cons.mpr ⟨?_, List.forall_mem_singleton.mpr ?_⟩)
  · exact inertField (by decide) (by decide)
  · exact inertField (by decide) (not_mem_asciiBytes renderHex8_mem)

/-- So is the reply to the begin. -/
lemma inert_readyLine (maxImage chunk : Nat) : Inert (readyLine maxImage chunk) := by
  refine inert_replyLine (by decide) (List.forall_mem_cons.mpr ⟨?_, List.forall_mem_cons.mpr
    ⟨?_, List.forall_mem_singleton.mpr ?_⟩⟩)
  · exact inertField (by decide) (by decide)
  · exact inertField (by decide) (not_mem_renderNat maxImage)
  · exact inertField (by decide) (not_mem_renderNat chunk)

/-- So is OK. -/
lemma inert_okReplyLine : Inert okReplyLine := by decide

/-- No line of an update is taken for the beginning of a frame. -/
lemma inert_writeRaw (crc32 : Bytes → UInt32) (limits : DeviceLimits) (ota : OtaDevice)
    (data : Bytes) : ∀ line ∈ (ota.writeRaw crc32 limits data).2, Inert line := by
  unfold OtaDevice.writeRaw
  split
  · exact fun line h => (List.not_mem_nil h).elim
  split
  · exact List.forall_mem_cons.mpr
      ⟨inert_readyLine _ _, List.forall_mem_singleton.mpr inert_okReplyLine⟩
  unfold OtaDevice.handleFrame
  split
  · exact List.forall_mem_singleton.mpr (inert_nackLine _)
  split
  · exact List.forall_mem_singleton.mpr (inert_ackLine _ _)
  · exact List.forall_mem_singleton.mpr (inert_ackLine _ _)
  · exact List.forall_mem_cons.mpr
      ⟨inert_stagedLine _, List.forall_mem_singleton.mpr inert_okReplyLine⟩
  · exact List.forall_mem_singleton.mpr (inert_ackLine _ _)

namespace FakeTransport

/-- The bytes that are queued. -/
def backlog (d : FakeTransport) : Bytes := d.pendingBytes ++ d.pendingPackets.flatten

/-- The device apart from its buffers and its clock. -/
def core (d : FakeTransport) : FakeTransport :=
  { d with
    opened := false
    nextLiveAt := 0
    nextExportAt := 0
    pendingPackets := []
    pendingBytes := []
    rawWrites := []
    ota := { active := d.ota.active }
    sent := [] }

/-- What is told by the core is the same where the core is. -/
lemma core_field {β : Type} {d e : FakeTransport} (get : FakeTransport → β)
    (hget : ∀ d, get d.core = get d) (h : d.core = e.core) : get d = get e := by
  rw [← hget d, h, hget]

/-- The next number of every counter fits its field. -/
structure Roomy (d : FakeTransport) : Prop where
  cli : d.cliSequence + 1 < 2 ^ 32
  sensor : d.sensorSequence + 1 < 2 ^ 32
  frame : d.sensorFrameIndex + 1 < 2 ^ 32
  archive : d.exportFrameIndex ≤ sdFrameCount

/-- The replies that tell of the device and change nothing. -/
inductive Answers (d : FakeTransport) : FakeReply → Prop
  | uuid : Answers d .uuid
  | state : Answers d (.state d.status)
  | livestream : Answers d (.livestream d.liveTarget)
  | ok : Answers d .ok
  | errorState : Answers d .errorState
  | errorUnknown : Answers d .errorUnknown
  | exportEmpty (empty : d.sdRetainedFrames = 0) : Answers d .exportEmpty

/-- The device with its export given up. -/
def halted (d : FakeTransport) : FakeTransport :=
  if d.exportActive then
    { d with exportActive := false, exportTarget := none, exportFrameIndex := 0 }
  else d

/-- The device with its export done. -/
def exported (d : FakeTransport) : FakeTransport :=
  { d with
    exportActive := false
    mode := .idle
    exportTarget := none
    sdUsed := 0
    sdRetainedFrames := 0
    sdRetainedChunks := 0 }

/-- The device that has sent one more reply. -/
def replied (d : FakeTransport) : FakeTransport := { d with cliSequence := d.cliSequence + 1 }

/-- What a read makes of the device, with what it sends. -/
inductive Reads (d : FakeTransport) : FakeTransport → List Emission → Prop
  | still : Reads d d []
  | live (e : Emission) (free : d.ota.active = false) (inactive : d.exportActive = false)
      (frame : e = .iis (d.sensorFrameIndex + 1) (d.sensorSequence + 1) ∨
        e = .jy (d.sensorFrameIndex + 1 + d.exportFrameIndex) (d.sensorSequence + 1)) :
      Reads d
        { d with
          sensorFrameIndex := d.sensorFrameIndex + 1
          sensorSequence := d.sensorSequence + 1 }
        [e]
  | archives (free : d.ota.active = false) (active : d.exportActive = true)
      (left : d.exportFrameIndex < sdFrameCount) :
      Reads d { d with exportFrameIndex := d.exportFrameIndex + 1 }
        [.archive (d.sensorFrameIndex + d.exportFrameIndex) (d.exportFrameIndex + 1)]
  | finishes (free : d.ota.active = false) (active : d.exportActive = true)
      (done : sdFrameCount ≤ d.exportFrameIndex) :
      Reads d d.exported.replied [.cli (.exportEnd d.exported.status) (d.cliSequence + 1)]

/-- What a call makes of the device, with what it sends. The flag says that the host gives up what the
device does. -/
inductive Moves (d : FakeTransport) : Bool → FakeTransport → List Emission → Prop
  | reads {d₁ : FakeTransport} {new : List Emission} (h : d.Reads d₁ new) : Moves d false d₁ new
  | closes : Moves d true d.close []
  | answers (reply : FakeReply) (true : d.Answers reply) :
      Moves d false d.replied [.cli reply (d.cliSequence + 1)]
  | targets (target : StreamTarget) (can : d.CanStart) :
      Moves d false { d with liveTarget := target }.replied [.cli .ok (d.cliSequence + 1)]
  | starts (can : d.CanStart) :
      Moves d false { d with mode := .acquire }.replied [.cli .acquiring (d.cliSequence + 1)]
  | stops : Moves d true { d.halted with mode := .idle }.replied [.cli .ok (d.cliSequence + 1)]
  | begins (target : StreamTarget) (can : d.CanStart) (frames : d.sdRetainedFrames ≠ 0) :
      Moves d false
        { d with
          mode := .exporting
          exportTarget := some target
          exportActive := true
          exportFrameIndex := 0 }.replied
        [.cli (.exportBegin target) (d.cliSequence + 1)]
  | clears (can : d.CanStart) :
      Moves d false
        { d with
          sdUsed := 0
          sdRetainedFrames := 0
          sdRetainedChunks := 0
          sdOverwrittenFrames := 0 }.replied
        [.cli .ok (d.cliSequence + 1)]
  | updates (active : Bool) (lines : List Bytes) (inert : ∀ line ∈ lines, Inert line) :
      Moves d false { d with ota := { active } } [.ota lines]

/-- The call gives up what the device does: it closes the endpoint, or is an `AT+STOP` that the device
takes. -/
def givesUp (d : FakeTransport) : FakeCall → Bool
  | .close => true
  | .writeControl command _ =>
    match controlContent command with
    | .error _ => false
    | .ok content => d.opened && normalize content == "AT+STOP".toList
  | _ => false

variable (waves : Waves) (crc32 : Bytes → UInt32)

/-- The packets `new` are sent, the bytes `out` are handed over, and the device is `d₁` apart from
its buffers and its clock. -/
structure Sends (d d₁ d' : FakeTransport) (new : List Emission) (out : Bytes) : Prop where
  core : d'.core = d₁.core
  sent : d'.sent = d.sent ++ new
  flow : d.backlog ++ (new.map (Emission.bytes waves crc32)).flatten = out ++ d'.backlog

variable {waves crc32} {d e : FakeTransport}

/-- Nothing done sends nothing. -/
lemma Sends.refl (h : e.core = d.core) (sent : e.sent = d.sent) (flow : e.backlog = d.backlog) :
    Sends waves crc32 d d e [] [] where
  core := h
  sent := by rw [sent, List.append_nil]
  flow := by rw [flow, List.map_nil, List.flatten_nil, List.append_nil, List.nil_append]

/-- A packet that can be packed is sent. -/
lemma emit_packs {x : Emission} (h : x.Packs) :
    d.emit waves crc32 x = ({ d with sent := d.sent ++ [x] }, .ok (x.bytes waves crc32)) := by
  unfold emit
  rw [if_pos h]

/-- It is queued behind the others. -/
lemma queue_packs {x : Emission} (h : x.Packs) :
    d.queue waves crc32 x =
      ({ d with
        pendingPackets := d.pendingPackets ++ [x.bytes waves crc32]
        sent := d.sent ++ [x] }, .ok ()) := by
  unfold queue
  rw [emit_packs h]

/-- A reply has room for its number. -/
lemma packs_cli {reply : FakeReply} {sequence : Nat} (h : sequence < 2 ^ 32) :
    (Emission.cli reply sequence).Packs := by
  refine ⟨h, ?_⟩
  unfold timestampStartUs
  omega

/-- A reply is queued while its number fits. -/
lemma queueCli_roomy (reply : FakeReply) (h : d.cliSequence + 1 < 2 ^ 32) :
    d.queueCli waves crc32 reply =
      ({ d.replied with
        pendingPackets := d.pendingPackets ++
          [(Emission.cli reply (d.cliSequence + 1)).bytes waves crc32]
        sent := d.sent ++ [.cli reply (d.cliSequence + 1)] }, .ok ()) := by
  unfold queueCli
  rw [queue_packs (packs_cli h)]
  rfl

/-- What is queued is held back. -/
lemma backlog_queue (d : FakeTransport) (packet : Bytes) :
    { d with pendingPackets := d.pendingPackets ++ [packet] }.backlog = d.backlog ++ packet := by
  simp [backlog]

variable (waves crc32) in
/-- A reply is queued behind what is pending. -/
lemma sends_queueCli (reply : FakeReply) (h : e.cliSequence + 1 < 2 ^ 32) (sent : e.sent = d.sent)
    (flow : e.backlog = d.backlog) :
    Sends waves crc32 d e.replied (e.queueCli waves crc32 reply).1
      [.cli reply (e.cliSequence + 1)] [] := by
  rw [queueCli_roomy reply h]
  refine ⟨rfl, ?_, ?_⟩
  · rw [← sent]
  · rw [← flow, List.map_singleton, List.flatten_singleton, List.nil_append]
    exact (backlog_queue e _).symm

variable (waves crc32) in
/-- A call that makes `d'` of the device and hands `out` over. -/
def Calls (d : FakeTransport) (givesUp : Bool) (d' : FakeTransport) (out : Bytes) : Prop :=
  ∃ d₁ new, Moves d givesUp d₁ new ∧ Sends waves crc32 d d₁ d' new out

/-- A call that does nothing. -/
lemma Calls.still (h : e.core = d.core) (sent : e.sent = d.sent) (flow : e.backlog = d.backlog) :
    Calls waves crc32 d false e [] := ⟨d, [], .reads .still, .refl h sent flow⟩

/-- A reply that changes nothing. -/
lemma calls_answer {reply : FakeReply} (h : d.Roomy) (answers : d.Answers reply) :
    Calls waves crc32 d false (d.queueCli waves crc32 reply).1 [] :=
  ⟨_, _, .answers reply answers, sends_queueCli waves crc32 reply h.cli rfl rfl⟩

/-- An acquisition starts from IDLE or ERROR. -/
lemma calls_start (h : d.Roomy) :
    Calls waves crc32 d false
      (d.handleAcquisitionCommand waves crc32 "AT+START".toList).1 [] := by
  unfold handleAcquisitionCommand
  rw [if_pos rfl]
  split
  · rename_i can
    exact ⟨_, _, .starts can, sends_queueCli waves crc32 _ h.cli rfl rfl⟩
  · exact calls_answer h .errorState

/-- A stop is taken in every state, and gives an export up. -/
lemma calls_stop (h : d.Roomy) :
    Calls waves crc32 d true
      (d.handleAcquisitionCommand waves crc32 "AT+STOP".toList).1 [] := by
  have hhalted : (if d.exportActive then
      { d with exportActive := false, exportTarget := none, exportFrameIndex := 0 }
    else d) = d.halted := rfl
  have hcli : d.halted.cliSequence = d.cliSequence := by
    unfold halted
    split <;> rfl
  have hsent : d.halted.sent = d.sent := by
    unfold halted
    split <;> rfl
  have hflow : d.halted.backlog = d.backlog := by
    unfold halted
    split <;> rfl
  unfold handleAcquisitionCommand
  rw [if_neg (by decide), hhalted]
  dsimp only
  rw [if_pos]
  · have hstops := sends_queueCli waves crc32 (d := d)
      (e := { d.halted with mode := .idle }) .ok (by rw [hcli]; exact h.cli) hsent hflow
    refine ⟨_, _, .stops, ?_⟩
    rw [← hcli]
    exact hstops
  · cases hmode : d.halted.mode with
    | idle => exact .inr (.inr (.inl hmode))
    | acquire => exact .inl rfl
    | exporting => exact .inr (.inl rfl)
    | error => exact .inr (.inr (.inr hmode))

/-- A command for an export. -/
lemma calls_startExport (h : d.Roomy) (target : Text) (now : ℚ) :
    Calls waves crc32 d false (d.startExport waves crc32 target now).1 [] := by
  unfold startExport
  split
  · exact calls_answer h .errorState
  · split
    · exact calls_answer h .errorState
    · rename_i target _ hcan
      split
      · rename_i hempty
        exact calls_answer h (.exportEmpty hempty)
      · rename_i hframes
        refine ⟨_, _, .begins target (not_not.mp hcan) hframes, ?_⟩
        have hsends := sends_queueCli waves crc32 (d := d)
          (e := { d with
            mode := .exporting
            exportTarget := some target
            exportActive := true
            exportFrameIndex := 0
            nextExportAt := now + exportInterval }) (.exportBegin target) h.cli rfl rfl
        exact ⟨hsends.core, hsends.sent, hsends.flow⟩

/-- A command to clear the store. -/
lemma calls_clearSd (h : d.Roomy) : Calls waves crc32 d false (d.clearSd waves crc32).1 [] := by
  unfold clearSd
  split
  · exact calls_answer h .errorState
  · rename_i hcan
    exact ⟨_, _, .clears (not_not.mp hcan), sends_queueCli waves crc32 _ h.cli rfl rfl⟩

/-- A command for the live stream. -/
lemma calls_setLivestream (h : d.Roomy) (target : Text) :
    Calls waves crc32 d false (d.setLivestream waves crc32 target).1 [] := by
  unfold setLivestream
  split
  · exact calls_answer h .errorState
  · split
    · exact calls_answer h .errorState
    · rename_i target _ hcan
      exact ⟨_, _, .targets target (not_not.mp hcan), sends_queueCli waves crc32 _ h.cli rfl rfl⟩

/-- A command that is neither a start nor a stop has one reply. -/
lemma calls_other (h : d.Roomy) (text : Text) (now : ℚ) :
    Calls waves crc32 d false (d.command waves crc32 text now).1 [] ∨
      text = "AT+START".toList ∨ text = "AT+STOP".toList := by
  unfold command
  split
  · exact .inl (calls_answer h .uuid)
  split
  · exact .inl (calls_answer h .state)
  split
  · exact .inl (calls_answer h .livestream)
  split
  · exact .inl (calls_setLivestream h _)
  split
  · rename_i hverb
    exact .inr hverb
  split
  · exact .inl (calls_startExport h _ now)
  split
  · exact .inl (calls_clearSd h)
  split
  · exact .inl (calls_answer h .ok)
  · exact .inl (calls_answer h .errorUnknown)

/-- A start and a stop go to the acquisition. -/
lemma command_acquisition (d : FakeTransport) {text : Text} (now : ℚ)
    (hverb : text = "AT+START".toList ∨ text = "AT+STOP".toList) :
    d.command waves crc32 text now = d.handleAcquisitionCommand waves crc32 text := by
  have hnames : text ≠ "AT+UUID?".toList ∧ text ≠ "AT+STATE?".toList ∧
      text ≠ "AT+LIVESTREAM?".toList ∧ ¬ startsWith text "AT+LIVESTREAM=".toList = true := by
    obtain heq | heq := hverb
    · rw [heq]
      decide
    · rw [heq]
      decide
  unfold command
  rw [if_neg hnames.1, if_neg hnames.2.1, if_neg hnames.2.2.1, if_neg hnames.2.2.2, if_pos hverb]

/-- A command has one reply, and only a stop gives anything up. -/
lemma calls_command (h : d.Roomy) (text : Text) (now : ℚ) :
    Calls waves crc32 d (text == "AT+STOP".toList) (d.command waves crc32 text now).1 [] := by
  by_cases hstop : text = "AT+STOP".toList
  · rw [command_acquisition d now (.inr hstop), hstop]
    exact calls_stop h
  · rw [beq_eq_false_iff_ne.mpr hstop]
    obtain hother | hverb := calls_other h text now
    · exact hother
    · rw [command_acquisition d now hverb, hverb.resolve_right hstop]
      exact calls_start h

/-- Every command. -/
lemma calls_writeControl (h : d.Roomy) (bytes : Bytes) (now : ℚ) :
    Calls waves crc32 d (d.givesUp (.writeControl bytes now))
      (d.writeControl waves crc32 bytes now).1 [] := by
  unfold writeControl givesUp
  dsimp only
  cases d.opened with
  | false =>
    cases controlContent bytes with
    | error error => exact .still rfl rfl rfl
    | ok content => exact .still rfl rfl rfl
  | true =>
    cases controlContent bytes with
    | error error => exact .still rfl rfl rfl
    | ok content => exact calls_command h _ now

/-- Bytes of an upload. -/
lemma calls_writeRaw (d : FakeTransport) (data : Bytes) :
    Calls waves crc32 d false (d.writeRaw waves crc32 data).1 [] := by
  unfold writeRaw
  split
  · exact .still rfl rfl rfl
  · split
    · exact .still rfl rfl rfl
    · have hinert := inert_writeRaw crc32 {} d.ota data
      cases hwrite : d.ota.writeRaw crc32 {} data with
      | mk ota lines =>
        rw [hwrite] at hinert
        dsimp only
        rw [queue_packs (x := .ota lines) trivial]
        refine ⟨_, _, .updates ota.active lines hinert, rfl, rfl, ?_⟩
        rw [List.map_singleton, List.flatten_singleton, List.nil_append]
        exact (backlog_queue d _).symm

/-- The pending packet goes first. -/
lemma takePendingPacket_cases (d : FakeTransport) :
    (∃ e packet, d.takePendingPacket = (e, some packet) ∧ e.core = d.core ∧ e.sent = d.sent ∧
      e.pendingBytes = [] ∧ d.backlog = packet ++ e.backlog) ∨
    (d.takePendingPacket = (d, none) ∧ d.pendingBytes = [] ∧ d.pendingPackets = []) := by
  unfold takePendingPacket
  split
  · exact .inl ⟨_, _, rfl, rfl, rfl, rfl, rfl⟩
  · rename_i hbytes
    have hnone : d.pendingBytes = [] := not_not.mp hbytes
    cases hpackets : d.pendingPackets with
    | nil => exact .inr ⟨rfl, hnone, rfl⟩
    | cons packet packets =>
      refine .inl ⟨_, _, rfl, rfl, rfl, hnone, ?_⟩
      unfold backlog
      rw [hnone, hpackets]
      rfl

/-- What does not fit stays pending. -/
lemma takeBytes_spec (packet : Bytes) (maxBytes : Nat) (h : d.pendingBytes = []) :
    (d.takeBytes packet maxBytes).1.core = d.core ∧
      (d.takeBytes packet maxBytes).1.sent = d.sent ∧
      packet ++ d.backlog =
        (d.takeBytes packet maxBytes).2 ++ (d.takeBytes packet maxBytes).1.backlog := by
  unfold takeBytes
  split
  · exact ⟨rfl, rfl, rfl⟩
  · refine ⟨rfl, rfl, ?_⟩
    unfold backlog
    dsimp only
    rw [h, List.nil_append, ← List.append_assoc, List.take_append_drop]

/-- A frame has room for its numbers. -/
lemma jyTimestampUs_lt {frameIndex : Nat} (h : frameIndex < 2 ^ 33) :
    jyTimestampUs frameIndex < 2 ^ 64 := by
  unfold jyTimestampUs timestampStartUs jySamplePeriodUs
  omega

variable (waves crc32) in
/-- A live frame is made with the next numbers. -/
lemma makeLiveFrame_roomy (h : d.Roomy) :
    ∃ x, (x = .iis (d.sensorFrameIndex + 1) (d.sensorSequence + 1) ∨
        x = .jy (d.sensorFrameIndex + 1 + d.exportFrameIndex) (d.sensorSequence + 1)) ∧
      d.makeLiveFrame waves crc32 =
        ({ d with
          sensorFrameIndex := d.sensorFrameIndex + 1
          sensorSequence := d.sensorSequence + 1
          sent := d.sent ++ [x] }, .ok (x.bytes waves crc32)) := by
  have harchive := h.archive
  have hframe := h.frame
  unfold sdFrameCount at harchive
  unfold makeLiveFrame
  dsimp only
  split
  · refine ⟨_, .inl rfl, ?_⟩
    unfold makeIisFrame
    refine emit_packs ⟨h.sensor, ?_⟩
    dsimp only
    unfold timestampStartUs jySamplePeriodUs
    omega
  · refine ⟨_, .inr rfl, ?_⟩
    unfold makeJyFrame
    refine emit_packs ⟨h.sensor, jyTimestampUs_lt ?_⟩
    dsimp only
    omega

variable (waves crc32) in
/-- An archive frame is made with the next number. -/
lemma makeArchiveFrame_roomy (h : d.Roomy) (left : d.exportFrameIndex < sdFrameCount) :
    let x := Emission.archive (d.sensorFrameIndex + d.exportFrameIndex) (d.exportFrameIndex + 1)
    d.makeArchiveFrame waves crc32 (d.exportFrameIndex + 1) =
      ({ d with sent := d.sent ++ [x] }, .ok (x.bytes waves crc32)) := by
  have hframe := h.frame
  unfold sdFrameCount at left
  unfold makeArchiveFrame
  exact emit_packs ⟨by omega, jyTimestampUs_lt (by omega)⟩

variable (waves crc32) in
/-- The frame that is due is made with the next numbers, and goes past the queue. -/
lemma dueFrame_cases (h : d.Roomy) (free : d.ota.active = false)
    (left : ¬ (d.exportActive = true ∧ sdFrameCount ≤ d.exportFrameIndex)) (now : ℚ) :
    d.dueFrame waves crc32 now = none ∨
      ∃ e x d₁, d.dueFrame waves crc32 now = some (e, .ok (x.bytes waves crc32)) ∧
        Reads d d₁ [x] ∧ e.core = d₁.core ∧ e.sent = d.sent ++ [x] ∧
        e.pendingBytes = d.pendingBytes ∧ e.backlog = d.backlog := by
  unfold dueFrame
  cases hactive : d.exportActive with
  | true =>
    have hleft : d.exportFrameIndex < sdFrameCount := by
      rw [hactive] at left
      exact not_le.mp fun hle => left ⟨rfl, hle⟩
    rw [if_pos rfl]
    split
    · have hmake := makeArchiveFrame_roomy waves crc32 h hleft
      rw [hmake]
      exact .inr ⟨_, _, _, rfl, .archives free hactive hleft, rfl, rfl, rfl, rfl⟩
    · exact .inl rfl
  | false =>
    rw [if_neg Bool.false_ne_true]
    split
    · obtain ⟨x, hx, hmake⟩ := makeLiveFrame_roomy waves crc32 h
      rw [hmake]
      exact .inr ⟨_, x, _, rfl, .live x free hactive hx, rfl, rfl, rfl, rfl⟩
    · exact .inl rfl

variable {deadline : ℚ} {maxBytes : Nat}

/-- A pending packet is handed over at once. -/
lemma readLoop_pending {packet : Bytes} (clock : List ℚ)
    (h : d.takePendingPacket = (e, some packet)) :
    readLoop waves crc32 deadline maxBytes clock d = takeFrame maxBytes (e, .ok packet) := by
  cases clock <;> rw [readLoop, h]

variable (waves crc32) in
/-- A read that makes `d'` of the device and hands `out` over. -/
def ReadCalls (d d' : FakeTransport) (out : Bytes) : Prop :=
  ∃ d₁ new, Reads d d₁ new ∧ Sends waves crc32 d d₁ d' new out

/-- A read that changes nothing. -/
lemma ReadCalls.still (h : e.core = d.core) (sent : e.sent = d.sent) (flow : e.backlog = d.backlog) :
    ReadCalls waves crc32 d e [] := ⟨d, [], .still, .refl h sent flow⟩

/-- `read` hands over what is pending, or else what is due. -/
lemma calls_readLoop (h : d.Roomy) (clock : List ℚ) :
    ReadCalls waves crc32 d (readLoop waves crc32 deadline maxBytes clock d).1
      (handed (readLoop waves crc32 deadline maxBytes clock d).2) := by
  obtain ⟨e, packet, htake, hcore, hsent, hbytes, hflow⟩ | ⟨htake, hbytes, hpackets⟩ :=
    d.takePendingPacket_cases
  · rw [readLoop_pending clock htake]
    obtain ⟨hcore', hsent', hflow'⟩ := takeBytes_spec packet maxBytes hbytes
    refine ⟨d, [], .still, hcore'.trans hcore, ?_, ?_⟩
    · rw [List.append_nil]
      exact hsent'.trans hsent
    · rw [List.map_nil, List.flatten_nil, List.append_nil, hflow]
      exact hflow'
  · have hempty : d.backlog = [] := by
      unfold backlog
      rw [hbytes, hpackets]
      rfl
    induction clock with
    | nil =>
      rw [readLoop, htake]
      exact .still rfl rfl rfl
    | cons now clock ih =>
      rw [readLoop, htake]
      dsimp only
      have hwait : ReadCalls waves crc32 d
          (if deadline ≤ now then (d, some (.ok []))
            else readLoop waves crc32 deadline maxBytes clock d).1
          (handed (if deadline ≤ now then (d, some (.ok []))
            else readLoop waves crc32 deadline maxBytes clock d).2) := by
        split
        · exact .still rfl rfl rfl
        · exact ih
      cases hota : d.ota.active with
      | true => exact hwait
      | false =>
        rw [if_neg Bool.false_ne_true]
        split
        · rename_i hdone
          -- the reply that ends the export is pending on the next pass
          have hfinish : d.finishExport waves crc32 = d.exported.queueCli waves crc32
              (.exportEnd d.exported.status) := rfl
          rw [hfinish, queueCli_roomy _ (by exact h.cli)]
          dsimp only
          generalize hx : Emission.cli (.exportEnd d.exported.status) (d.exported.cliSequence + 1) =
            x
          generalize he : { d.exported.replied with
            pendingPackets := d.exported.pendingPackets ++ [x.bytes waves crc32]
            sent := d.exported.sent ++ [x] } = e
          have hpending : e.pendingBytes = [] := by
            rw [← he]
            exact hbytes
          have htake' : e.takePendingPacket =
              ({ e with pendingPackets := [] }, some (x.bytes waves crc32)) := by
            have hqueued : e.pendingPackets = [x.bytes waves crc32] := by
              rw [← he]
              exact congrArg (· ++ [x.bytes waves crc32]) hpackets
            unfold takePendingPacket
            rw [if_neg (not_not.mpr hpending), hqueued]
          rw [readLoop_pending clock htake']
          obtain ⟨hcore', hsent', hflow'⟩ := takeBytes_spec
            (d := { e with pendingPackets := [] }) (x.bytes waves crc32) maxBytes hpending
          refine ⟨_, _, .finishes hota hdone.1 hdone.2, ?_, ?_, ?_⟩
          · refine hcore'.trans ?_
            rw [← he]
            rfl
          · refine hsent'.trans ?_
            rw [← he, ← hx]
            rfl
          · rw [hempty, List.nil_append, List.map_singleton, List.flatten_singleton]
            have hlast : { e with pendingPackets := [] }.backlog = [] := by
              unfold backlog
              dsimp only
              rw [hpending]
              rfl
            rw [hlast, List.append_nil] at hflow'
            subst hx
            exact hflow'
        · rename_i hleft
          obtain hnone | ⟨e, x, d₁, hdue, hmoves, hcore, hsent, hpending, hflow⟩ :=
            dueFrame_cases waves crc32 h hota hleft now
          · rw [hnone]
            exact hwait
          · rw [hdue]
            obtain ⟨hcore', hsent', hflow'⟩ := takeBytes_spec (d := e) (x.bytes waves crc32)
              maxBytes (hpending.trans hbytes)
            refine ⟨d₁, [x], hmoves, hcore'.trans hcore, hsent'.trans hsent, ?_⟩
            rw [hempty, List.nil_append, List.map_singleton, List.flatten_singleton]
            rw [hflow, hempty, List.append_nil] at hflow'
            exact hflow'

/-- Every read. -/
lemma calls_read (h : d.Roomy) (maxBytes : Int) (timeout : ℚ) (clock : List ℚ) :
    ReadCalls waves crc32 d (d.read waves crc32 maxBytes timeout clock).1
      (handed (d.read waves crc32 maxBytes timeout clock).2) := by
  unfold read
  split
  · exact .still rfl rfl rfl
  split
  · exact .still rfl rfl rfl
  split
  · exact .still rfl rfl rfl
  · cases clock with
    | nil => exact .still rfl rfl rfl
    | cons start clock => exact calls_readLoop h clock

/-- A call that returns nothing hands nothing out. -/
lemma handed_silent (r : FakeTransport × Except FakeError Unit) : handed (silent r).2 = [] := by
  obtain ⟨d, result⟩ := r
  cases result with
  | error error => rfl
  | ok u => rfl

variable (waves crc32) in
/-- What every call makes of the device and of the bytes; a `close` forgets what is pending. -/
theorem call_spec (h : d.Roomy) {c : FakeCall} (hc : c ≠ .close) :
    Calls waves crc32 d (d.givesUp c) (d.step waves crc32 c) (d.delivered waves crc32 c) := by
  cases c with
  | close => exact absurd rfl hc
  | read maxBytes timeout clock =>
    obtain ⟨d₁, new, hreads, hsends⟩ := calls_read h maxBytes timeout clock
    exact ⟨d₁, new, .reads hreads, hsends⟩
  | openEndpoint deviceId now =>
    have hout : d.delivered waves crc32 (.openEndpoint deviceId now) = [] := handed_silent _
    rw [hout]
    show Calls waves crc32 d false (d.openEndpoint deviceId now).1 []
    unfold openEndpoint
    split
    · exact .still rfl rfl rfl
    · split
      · exact .still rfl rfl rfl
      · exact .still rfl rfl rfl
  | writeControl bytes now =>
    have hout : d.delivered waves crc32 (.writeControl bytes now) = [] := handed_silent _
    rw [hout]
    exact calls_writeControl h bytes now
  | writeRaw data =>
    have hout : d.delivered waves crc32 (.writeRaw data) = [] := handed_silent _
    rw [hout]
    exact calls_writeRaw d data

/-- Every call is one of the moves. -/
lemma step_moves (waves : Waves) (crc32 : Bytes → UInt32) (h : d.Roomy) (c : FakeCall) :
    ∃ d₁ new, Moves d (d.givesUp c) d₁ new ∧ (d.step waves crc32 c).core = d₁.core ∧
      (d.step waves crc32 c).sent = d.sent ++ new := by
  by_cases hc : c = .close
  · rw [hc]
    exact ⟨d.close, [], .closes, rfl, (List.append_nil _).symm⟩
  · obtain ⟨d₁, new, hmoves, hsends⟩ := call_spec waves crc32 h hc
    exact ⟨d₁, new, hmoves, hsends.core, hsends.sent⟩

/-- The counters of a device behind `n` calls. -/
structure Counted (n : Nat) (d : FakeTransport) : Prop where
  cli : d.cliSequence ≤ n
  sensor : d.sensorSequence ≤ n
  frame : d.sensorFrameIndex ≤ n
  archive : d.exportFrameIndex ≤ sdFrameCount

/-- While the calls are below 2^32 the numbers fit. -/
lemma Counted.roomy {n : Nat} (h : Counted n d) (hn : n + 1 < 2 ^ 32) : d.Roomy where
  cli := (Nat.succ_le_succ h.cli).trans_lt hn
  sensor := (Nat.succ_le_succ h.sensor).trans_lt hn
  frame := (Nat.succ_le_succ h.frame).trans_lt hn
  archive := h.archive

/-- The numbers are in the core. -/
lemma Counted.core {n : Nat} (h : Counted n e) (heq : d.core = e.core) : Counted n d where
  cli := (core_field cliSequence (fun _ => rfl) heq).trans_le h.cli
  sensor := (core_field sensorSequence (fun _ => rfl) heq).trans_le h.sensor
  frame := (core_field sensorFrameIndex (fun _ => rfl) heq).trans_le h.frame
  archive := (core_field exportFrameIndex (fun _ => rfl) heq).trans_le h.archive

/-- An export that is given up takes no number. -/
lemma halted_counted {n : Nat} (h : Counted n d) : Counted n d.halted := by
  unfold halted
  split
  · exact ⟨h.cli, h.sensor, h.frame, Nat.zero_le _⟩
  · exact h

/-- A move raises each counter by one at most. -/
lemma Moves.counted {n : Nat} {g : Bool} {new : List Emission} (hmoves : Moves d g e new) (h : Counted n d) :
    Counted (n + 1) e := by
  have hcli := Nat.succ_le_succ h.cli
  have hsensor := h.sensor.trans (Nat.le_succ n)
  have hframe := h.frame.trans (Nat.le_succ n)
  cases hmoves with
  | reads hreads =>
    cases hreads with
    | still => exact ⟨h.cli.trans (Nat.le_succ n), hsensor, hframe, h.archive⟩
    | live x free inactive frame =>
      exact ⟨h.cli.trans (Nat.le_succ n), Nat.succ_le_succ h.sensor, Nat.succ_le_succ h.frame,
        h.archive⟩
    | archives free active left => exact ⟨h.cli.trans (Nat.le_succ n), hsensor, hframe, left⟩
    | finishes free active done => exact ⟨hcli, hsensor, hframe, h.archive⟩
  | closes => exact ⟨h.cli.trans (Nat.le_succ n), hsensor, hframe, h.archive⟩
  | stops =>
    have hhalted := halted_counted h
    exact ⟨Nat.succ_le_succ hhalted.cli, hhalted.sensor.trans (Nat.le_succ n),
      hhalted.frame.trans (Nat.le_succ n), hhalted.archive⟩
  | begins target can frames => exact ⟨hcli, hsensor, hframe, Nat.zero_le _⟩
  | updates active lines inert => exact ⟨h.cli.trans (Nat.le_succ n), hsensor, hframe, h.archive⟩
  | _ => exact ⟨hcli, hsensor, hframe, h.archive⟩

/-- Nothing is numbered at first. -/
lemma counted_new : Counted 0 ({} : FakeTransport) :=
  ⟨le_rfl, le_rfl, le_rfl, Nat.zero_le _⟩

variable (waves crc32) in
/-- A call takes one number of each kind at most. -/
lemma counted_step {n : Nat} (h : Counted n d) (hn : n + 1 < 2 ^ 32) (c : FakeCall) :
    Counted (n + 1) (d.step waves crc32 c) := by
  obtain ⟨d₁, new, hmoves, hcore, -⟩ := step_moves waves crc32 (h.roomy hn) c
  exact (hmoves.counted h).core hcore

variable (waves crc32) in
/-- So a run takes as many as it has calls, and the numbers fit all along. -/
lemma counted_run {n : Nat} {calls : List FakeCall} (h : Counted n d)
    (hlength : n + calls.length < 2 ^ 32) :
    Counted (n + calls.length) (runFrom (step waves crc32) d calls) ∧
      Along (step waves crc32) (fun d _ => d.Roomy) d calls := by
  induction calls generalizing n d with
  | nil => exact ⟨h, trivial⟩
  | cons c calls ih =>
    rw [List.length_cons] at hlength ⊢
    have hn : n + 1 < 2 ^ 32 := by omega
    obtain ⟨hcounted, hroomy⟩ := ih (counted_step waves crc32 h hn c)
      (by omega)
    rw [show n + (calls.length + 1) = n + 1 + calls.length by omega]
    exact ⟨hcounted, h.roomy hn, hroomy⟩

/-- The core of the device, with what it has sent. -/
def seen (d : FakeTransport) : FakeTransport := { d.core with sent := d.sent }

/-- What every move keeps holds behind a run in which no number reaches its end. -/
theorem along_invariant {I : FakeTransport → Prop}
    (hmoves : ∀ {d d₁ : FakeTransport} {g : Bool} {new : List Emission}, I d → d.Roomy →
      Moves d g d₁ new → I { d₁ with sent := d.sent ++ new })
    (hseen : ∀ d, I d ↔ I d.seen) {calls : List FakeCall}
    (hroomy : Along (step waves crc32) (fun d _ => d.Roomy) d calls) (hd : I d) :
    I (runFrom (step waves crc32) d calls) := by
  refine Along.invariant ?_ hroomy hd
  intro d c hd hroom
  obtain ⟨d₁, new, hm, hcore, hsent⟩ := step_moves waves crc32 hroom c
  have hnext := (hseen _).mp (hmoves hd hroom hm)
  have hsame : (d.step waves crc32 c).seen = { d₁ with sent := d.sent ++ new }.seen := by
    unfold seen
    rw [hcore, hsent]
    rfl
  exact (hseen _).mpr (hsame ▸ hnext)

/-- What every move keeps holds behind every run of fewer than 2³² calls. -/
theorem run_invariant (waves : Waves) (crc32 : Bytes → UInt32) {I : FakeTransport → Prop}
    (hmoves : ∀ {d d₁ : FakeTransport} {g : Bool} {new : List Emission}, I d → d.Roomy →
      Moves d g d₁ new → I { d₁ with sent := d.sent ++ new })
    (hseen : ∀ d, I d ↔ I d.seen) (hnew : I {}) {calls : List FakeCall}
    (hlength : calls.length < 2 ^ 32) : I (runFrom (step waves crc32) {} calls) := by
  obtain ⟨-, hroomy⟩ := counted_run waves crc32 counted_new
    (show 0 + calls.length < 2 ^ 32 by omega)
  exact along_invariant hmoves hseen hroomy hnew

end FakeTransport

end SensorHost.Transport
