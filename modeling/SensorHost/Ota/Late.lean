import SensorHost.Ota.Safety

/-!
# Late replies

A reply that comes after the uploader's read has timed out makes the uploader send its frame again,
so the device answers that frame twice and one answer stays in the queue (`Surplus`). The uploader
never skips it: it is taken for the answer to the next frame. `upload_late_iff` draws the line. On a
link that only delays replies, an upload succeeds exactly if no reply to BEGIN or to a DATA frame is
late; a late reply to COMMIT does no harm, since nothing is sent after it.

The proof follows the program with the state of the deterministic link beside it. A frame is
answered by the same lines each time it comes (`Answers`), so an exchange whose answer is late
leaves copies of these lines behind (`run_exchange`). Between two exchanges `Surplus` says how many
there are. With none, the next exchange reads its own answer; with some, it reads an old one, which
the checks behind it refuse, be it at another offset or because it is no STAGED.
-/

namespace SensorHost.Ota
open SensorHost.Lib

variable {crc32 : Bytes → UInt32} {limits : DeviceLimits} {late : Bytes → Nat} {image : Bytes}

/-- A program of the uploader over the lossless link. -/
def LosslessLink.run {α : Type} (crc32 : Bytes → UInt32) (limits : DeviceLimits)
    (late : Bytes → Nat) (p : Upload α) (s : LosslessLink) : Except UploadError α × LosslessLink :=
  Fallible.interp (LosslessLink.handle crc32 limits late) p s

open LosslessLink (run)

section Operations

variable {α β : Type} {s s' : LosslessLink}

/-- A step that returns hands its value to the rest. -/
lemma run_bind_ok {p : Upload α} {f : α → Upload β} {a : α}
    (h : run crc32 limits late p s = (.ok a, s')) :
    run crc32 limits late (p >>= f) s = run crc32 limits late (f a) s' :=
  Fallible.interp_bind_ok _ h

/-- A step that raises is all that is run. -/
lemma run_bind_error {p : Upload α} {f : α → Upload β} {e : UploadError}
    (h : run crc32 limits late p s = (.error e, s')) :
    run crc32 limits late (p >>= f) s = (.error e, s') :=
  Fallible.interp_bind_error _ h

/-- A value alone changes nothing on the link. -/
lemma run_pure (a : α) : run crc32 limits late (pure a : Upload α) s = (.ok a, s) := rfl

/-- A report of progress changes nothing on the link. -/
lemma run_notify (sent total : Nat) (phase : Phase) :
    run crc32 limits late (notify sent total phase) s = (.ok (), s) := rfl

/-- No one cancels. -/
lemma run_checkCancelled (sequence offset : Int) :
    run crc32 limits late (checkCancelled crc32 sequence offset) s = (.ok (), s) := rfl

/-- The state after a burst. -/
def LosslessLink.sent (crc32 : Bytes → UInt32) (limits : DeviceLimits) (s : LosslessLink)
    (data : Bytes) : LosslessLink :=
  { device := (s.device.writeRaw crc32 limits data).1
    toHost := s.toHost ++ (s.device.writeRaw crc32 limits data).2
    last := data
    timeouts := if data = s.last then s.timeouts else 0 }

/-- What is sent is on the link. -/
lemma run_send (data : Bytes) :
    run crc32 limits late (send data) s = (.ok (), s.sent crc32 limits data) := rfl

/-- Where nothing is bad, nothing is refused. -/
lemma run_refuseIf {bad : Prop} [Decidable bad] {error : UploadError} (h : ¬ bad) :
    run crc32 limits late (refuseIf bad error) s = (.ok (), s) := by
  rw [refuseIf, if_neg h]
  rfl

/-- What is bad is refused with its error. -/
lemma run_refuseIf_error {bad : Prop} [Decidable bad] {error : UploadError} (h : bad) :
    run crc32 limits late (refuseIf bad error) s = (.error error, s) := by
  rw [refuseIf, if_pos h]
  rfl

/-- A late answer times out. -/
lemma run_readline_late {timeout : ℚ} (h : s.timeouts < s.lateness late) :
    run crc32 limits late (readline timeout) s =
      (.ok none, { s with timeouts := s.timeouts + 1 }) := by
  change (Except.ok _, _) = _
  simp only [LosslessLink.handle, if_pos h]

/-- An answer that is due is read. -/
lemma run_readline_head {timeout : ℚ} {l : Bytes} {ls : List Bytes}
    (h : s.lateness late ≤ s.timeouts) (hl : s.toHost = l :: ls) :
    run crc32 limits late (readline timeout) s = (.ok (some l), { s with toHost := ls }) := by
  change (Except.ok _, _) = _
  simp only [LosslessLink.handle, if_neg (Nat.not_lt.mpr h), hl]

end Operations

/-- A frame whose every copy the device answers with the same lines, so that its copies after the
first one leave only surplus answers. -/
structure Answers (crc32 : Bytes → UInt32) (limits : DeviceLimits) (encoded : Bytes)
    (lines : List Bytes) (before after : OtaDevice → Prop) : Prop where
  frame : encoded ≠ beginCommand
  answer : ∀ d, before d → (d.writeRaw crc32 limits encoded).2 = lines ∧
    after (d.writeRaw crc32 limits encoded).1
  again : ∀ d, after d → before d

section Exchange

variable {encoded : Bytes} {lines : List Bytes} {before after : OtaDevice → Prop}

/-- All reads time out until the reply arrives; then the oldest line is the answer, even one that
was left by an earlier frame. -/
lemma run_attempts (h : Answers crc32 limits encoded lines before after) {frame : UploadFrame}
    {timeout : ℚ} {r : DeviceResponse} {l : Bytes} {ls : List Bytes} (hr : parseResponse l = .ok r)
    (hack : r.acknowledged = true) {n left : Nat} {s : LosslessLink} (hleft : n < left)
    (hn : (if encoded = s.last then s.timeouts else 0) + n = late encoded)
    (hs : before s.device)
    (hl : s.toHost ++ (List.replicate (n + 1) lines).flatten = l :: ls) :
    ∃ device, after device ∧
      run crc32 limits late (OtaUploader.attempts crc32 encoded frame timeout left) s =
        (.ok r, { device, toHost := ls, last := encoded, timeouts := late encoded }) := by
  induction n generalizing s left with
  | zero =>
    -- the reply is there
    obtain ⟨left, rfl⟩ := Nat.exists_eq_succ_of_ne_zero (Nat.ne_zero_of_lt hleft)
    obtain ⟨hlines, hafter⟩ := h.answer _ hs
    have htime : (s.sent crc32 limits encoded).timeouts = late encoded := hn
    have hlate : (s.sent crc32 limits encoded).lateness late = late encoded := if_neg h.frame
    have hhead : (s.sent crc32 limits encoded).toHost = l :: ls := by
      rw [← hl, LosslessLink.sent, hlines]
      simp
    rw [OtaUploader.attempts, run_bind_ok (run_checkCancelled _ _), run_bind_ok (run_send _),
      run_bind_ok (run_readline_head (by omega) hhead)]
    simp only [hr, hack, if_true, run_pure]
    refine ⟨_, hafter, ?_⟩
    rw [← htime]
    rfl
  | succ n ih =>
    -- the read times out, and the frame is sent once more
    obtain ⟨left, rfl⟩ := Nat.exists_eq_succ_of_ne_zero (Nat.ne_zero_of_lt hleft)
    obtain ⟨hlines, hafter⟩ := h.answer _ hs
    have htime : (s.sent crc32 limits encoded).timeouts + (n + 1) = late encoded := hn
    have hlate : (s.sent crc32 limits encoded).lateness late = late encoded := if_neg h.frame
    rw [OtaUploader.attempts, run_bind_ok (run_checkCancelled _ _), run_bind_ok (run_send _),
      run_bind_ok (run_readline_late (by omega))]
    refine ih (by omega) ?_ (h.again _ hafter) ?_
    · rw [if_pos (by rfl)]
      dsimp only
      omega
    · rw [← hl, LosslessLink.sent, hlines]
      simp [List.replicate_succ]

/-- A frame whose answer is late at most as often as it may be sent is answered with its first line;
each copy leaves the same lines behind. -/
lemma run_exchange (h : Answers crc32 limits encoded lines before after) {u : OtaUploader}
    {frame : UploadFrame} {timeout : ℚ} {r : DeviceResponse} {l : Bytes} {ls : List Bytes}
    {s : LosslessLink} (henc : encodeFrame crc32 frame = .ok encoded) (hnew : encoded ≠ s.last)
    (hlate : late encoded ≤ u.maxRetries) (hs : before s.device)
    (hl : s.toHost ++ (List.replicate (late encoded + 1) lines).flatten = l :: ls)
    (hr : parseResponse l = .ok r) (hack : r.acknowledged = true) :
    ∃ device, after device ∧
      run crc32 limits late (u.exchange crc32 frame timeout) s =
        (.ok r, { device, toHost := ls, last := encoded, timeouts := late encoded }) := by
  have hn : (if encoded = s.last then s.timeouts else 0) + late encoded = late encoded := by
    rw [if_neg hnew, Nat.zero_add]
  rw [OtaUploader.exchange, henc]
  exact run_attempts h hr hack (Nat.lt_succ_of_le hlate) hn hs hl

end Exchange

/-- The device holds the first bytes of the image. -/
structure Holds (image : Bytes) (offset : Nat) (d : OtaDevice) : Prop where
  next : d.nextOffset = offset
  held : d.image = image.take offset

/-- The device answers the BEGIN frame with its offset, however often it comes. -/
lemma answers_begin {frame : UploadFrame} {encoded : Bytes} (hf : frame.frameType = .begin)
    (henc : encodeFrame crc32 frame = .ok encoded) :
    Answers crc32 limits encoded [ackLine 0 0] (Holds image 0) (Holds image 0) := by
  refine ⟨encoded_ne_beginCommand henc, fun d hd => ?_, fun _ hd => hd⟩
  rw [writeRaw_encoded _ henc, OtaDevice.handleFrame, decodeFrame_encodeFrame henc]
  simp only [hf]
  exact ⟨trivial, hd⟩

/-- It answers the next data with the offset behind them, however often they come. -/
lemma answers_data {frame : UploadFrame} {encoded : Bytes} {offset : Nat}
    (hf : frame.frameType = .data) (hoffset : frame.offset = offset)
    (hslice : frame.payload = (image.drop offset).take frame.payload.length)
    (hpos : 0 < frame.payload.length) (henc : encodeFrame crc32 frame = .ok encoded) :
    Answers crc32 limits encoded [ackLine frame.sequence (offset + frame.payload.length)]
      (fun d => Holds image offset d ∨ Holds image (offset + frame.payload.length) d)
      (Holds image (offset + frame.payload.length)) := by
  refine ⟨encoded_ne_beginCommand henc, fun d hd => ?_, fun _ hd => .inr hd⟩
  rw [writeRaw_encoded _ henc, OtaDevice.handleFrame, decodeFrame_encodeFrame henc]
  simp only [hf, hoffset]
  rcases hd with hd | hd
  · -- the first copy moves the device on
    rw [if_pos (by rw [hd.next])]
    refine ⟨by simp [hd.next], by simp [hd.next], ?_⟩
    dsimp only
    rw [List.take_add, hd.held, ← hslice]
  · -- any other one is a duplicate
    rw [if_neg (by rw [hd.next]; omega)]
    exact ⟨by simp [hd.next], hd⟩

/-- It stages the whole image, however often it is asked to. -/
lemma answers_commit {frame : UploadFrame} {encoded : Bytes} (hf : frame.frameType = .commit)
    (henc : encodeFrame crc32 frame = .ok encoded) :
    Answers crc32 limits encoded [stagedLine (crc32 image).toNat, okReplyLine]
      (fun d => d.image = image) fun d => d.image = image := by
  refine ⟨encoded_ne_beginCommand henc, fun d hd => ?_, fun _ hd => hd⟩
  rw [writeRaw_encoded _ henc, OtaDevice.handleFrame, decodeFrame_encodeFrame henc]
  simp only [hf, hd]
  exact ⟨trivial, trivial⟩

/-- A frame sent before the frames from `offset` on. -/
def Earlier (crc32 : Bytes → UInt32) (offset : Nat) (data : Bytes) : Prop :=
  ∃ f, encodeFrame crc32 f = .ok data ∧
    (f.frameType = .begin ∨ f.frameType = .data ∧ f.offset < offset)

/-- Between two exchanges: the device holds the image up to `offset`, and of the answers to the last
frame `count` too many are queued, all announcing `offset`. -/
structure Surplus (crc32 : Bytes → UInt32) (image : Bytes) (count offset : Nat)
    (s : LosslessLink) : Prop where
  holds : Holds image offset s.device
  queue : ∃ l r, s.toHost = List.replicate count l ∧ parseResponse l = .ok r ∧
    r.acknowledged = true ∧ r.staged = false ∧ r.nextOffset = offset
  earlier : Earlier crc32 offset s.last

/-- The frames still to be sent differ from those sent before. -/
lemma Earlier.ne {offset : Nat} {last encoded : Bytes} {frame : UploadFrame}
    (h : Earlier crc32 offset last) (henc : encodeFrame crc32 frame = .ok encoded)
    (hf : frame.frameType = .data ∧ frame.offset = offset ∨ frame.frameType = .commit) :
    encoded ≠ last := by
  rintro rfl
  obtain ⟨f, hlast, hbefore⟩ := h
  have hsame := decodeFrame_encodeFrame hlast
  rw [decodeFrame_encodeFrame henc] at hsame
  cases hsame
  rcases hf with ⟨hdata, hoffset⟩ | hcommit
  · rcases hbefore with hbegin | ⟨-, hlt⟩
    · rw [hdata] at hbegin
      cases hbegin
    · omega
  · rcases hbefore with hbegin | ⟨hdata, -⟩
    · rw [hcommit] at hbegin
      cases hbegin
    · rw [hcommit] at hdata
      cases hdata

/-- No reply to the frame is late. -/
def Prompt (crc32 : Bytes → UInt32) (late : Bytes → Nat) (frame : UploadFrame) : Prop :=
  ∀ encoded, encodeFrame crc32 frame = .ok encoded → late encoded = 0

/-- The DATA frames that `OtaUploader.dataLoop` sends. -/
def dataFrames (image : Bytes) (limit : Nat) : Nat → Nat → Nat → List UploadFrame
  | 0, _, _ => []
  | fuel + 1, sequence, offset =>
    if offset < image.length then
      let frame := OtaUploader.dataFrame image limit sequence offset
      frame :: dataFrames image limit fuel ((sequence + 1) % 2 ^ 32) (offset + frame.payload.length)
    else []

/-- Every DATA frame of a small image can be encoded. -/
lemma exists_encodeFrame_data (small : image.length < 2 ^ 32) {limit sequence offset : Nat}
    (hlimit : limit ≤ frameMaxPayload) (hsequence : sequence < 2 ^ 32)
    (hlt : offset < image.length) :
    ∃ encoded, encodeFrame crc32 (OtaUploader.dataFrame image limit sequence offset) =
      .ok encoded := by
  refine ⟨_, encodeFrame_eq_ok_iff.mpr ⟨⟨?_, ?_, ?_, ?_, ?_⟩, rfl⟩⟩
  · exact (List.length_take_le _ _).trans hlimit
  · rintro ⟨⟩
  · rintro (⟨⟨⟩⟩ | ⟨⟨⟩⟩)
  · simp only [OtaUploader.dataFrame]
    omega
  · simp only [OtaUploader.dataFrame]
    omega

section Phases

variable {u : OtaUploader} {s : LosslessLink}
  (small : image.length < 2 ^ 32) (hlate : ∀ data, late data ≤ u.maxRetries)

include small hlate in
/-- A DATA frame without surplus answers is answered with its own acknowledgement, and each of its
reads that times out leaves one more. -/
lemma run_exchange_data {timeout : ℚ} {offset : Nat} {frame : UploadFrame} {encoded : Bytes}
    (hf : frame.frameType = .data) (hoffset : frame.offset = offset)
    (hslice : frame.payload = (image.drop offset).take frame.payload.length)
    (hpos : 0 < frame.payload.length) (hend : offset + frame.payload.length ≤ image.length)
    (henc : encodeFrame crc32 frame = .ok encoded) (hs : Surplus crc32 image 0 offset s) :
    ∃ r s', run crc32 limits late (u.exchange crc32 frame timeout) s = (.ok r, s') ∧
      r.nextOffset = ((offset + frame.payload.length : Nat) : Int) ∧
      Surplus crc32 image (late encoded) (offset + frame.payload.length) s' := by
  obtain ⟨_, _, hqueue, -⟩ := hs.queue
  have hparse : ∃ r, parseResponse (ackLine frame.sequence (offset + frame.payload.length)) = .ok r ∧
      r.acknowledged = true ∧ r.staged = false ∧
      r.nextOffset = ((offset + frame.payload.length : Nat) : Int) := by
    obtain ⟨hnonneg, hfits⟩ := (encodeFrame_eq_ok_iff.mp henc).1.sequence_fits
    obtain ⟨sequence, hsequence⟩ := Int.eq_ofNat_of_zero_le hnonneg
    rw [hsequence] at hfits ⊢
    exact ⟨_, parseResponse_ackLine (lt_maxStr (by omega)) (lt_maxStr (hend.trans_lt small)), rfl,
      rfl, rfl⟩
  obtain ⟨r, hr, hack, hstaged, hnext⟩ := hparse
  have hhead : s.toHost ++ (List.replicate (late encoded + 1)
      [ackLine frame.sequence (offset + frame.payload.length)]).flatten =
      ackLine frame.sequence (offset + frame.payload.length) ::
        List.replicate (late encoded) (ackLine frame.sequence (offset + frame.payload.length)) := by
    rw [hqueue, List.replicate_succ, List.flatten_cons, List.flatten_replicate_singleton]
    rfl
  obtain ⟨device, hdevice, hrun⟩ :=
    run_exchange (answers_data hf hoffset hslice hpos henc) henc
      (hs.earlier.ne henc (.inl ⟨hf, hoffset⟩)) (hlate encoded) (.inl hs.holds) hhead hr hack
  refine ⟨r, _, hrun, hnext, hdevice, ⟨_, r, rfl, hr, hack, hstaged, hnext⟩, ?_⟩
  refine ⟨frame, henc, .inr ⟨hf, ?_⟩⟩
  rw [hoffset]
  exact_mod_cast Nat.lt_add_of_pos_right hpos

include hlate in
/-- A surplus answer is taken for the answer to the next frame. -/
lemma run_exchange_surplus {timeout : ℚ} {count offset : Nat} {frame : UploadFrame}
    {encoded : Bytes} {lines : List Bytes} {before after : OtaDevice → Prop}
    (h : Answers crc32 limits encoded lines before after)
    (henc : encodeFrame crc32 frame = .ok encoded) (hnew : encoded ≠ s.last)
    (hbefore : before s.device) (hs : Surplus crc32 image (count + 1) offset s) :
    ∃ r s', run crc32 limits late (u.exchange crc32 frame timeout) s = (.ok r, s') ∧
      r.staged = false ∧ r.nextOffset = offset := by
  obtain ⟨l, r, hqueue, hr, hack, hstaged, hnext⟩ := hs.queue
  obtain ⟨device, -, hrun⟩ := run_exchange h henc hnew (hlate encoded) hbefore
    (l := l) (by rw [hqueue, List.replicate_succ, List.cons_append]) hr hack
  exact ⟨r, _, hrun, hstaged, hnext⟩

/-- How the DATA loop ends: with `count` surplus answers queued, or in an error if there are any. -/
def Ended (crc32 : Bytes → UInt32) (image : Bytes) (count : Nat)
    (result : Except UploadError (Nat × Nat) × LosslessLink) : Prop :=
  (∃ sequence s', result = (.ok (sequence, image.length), s') ∧ sequence < 2 ^ 32 ∧
    Surplus crc32 image count image.length s') ∨
  (count ≠ 0 ∧ ∃ error s', result = (.error error, s'))

/-- The loop ends where the image does. -/
lemma ended_pure {sequence offset count : Nat} (hsequence : sequence < 2 ^ 32)
    (heq : offset = image.length) (hs : Surplus crc32 image count offset s) :
    Ended crc32 image count
      (run crc32 limits late (pure (sequence, offset) : Upload (Nat × Nat)) s) := by
  subst heq
  exact .inl ⟨sequence, s, rfl, hsequence, hs⟩

variable {limit : Nat} (hpos : 0 < limit) (hlimit : limit ≤ frameMaxPayload)

include small hlate hpos hlimit in
/-- The loop comes to an end, and behind it no answers are in surplus exactly if none were before
and no data are late. -/
lemma run_dataLoop {fuel sequence offset count : Nat} (hsequence : sequence < 2 ^ 32)
    (hle : offset ≤ image.length) (hfuel : image.length ≤ offset + fuel)
    (hs : Surplus crc32 image count offset s) :
    ∃ count', Ended crc32 image count'
        (run crc32 limits late (u.dataLoop crc32 image limit fuel sequence offset) s) ∧
      (count' = 0 ↔ count = 0 ∧
        ∀ frame ∈ dataFrames image limit fuel sequence offset, Prompt crc32 late frame) := by
  induction fuel generalizing sequence offset count s with
  | zero => exact ⟨count, ended_pure hsequence (by omega) hs, by simp [dataFrames]⟩
  | succ fuel ih =>
    rw [OtaUploader.dataLoop, dataFrames]
    split
    · rename_i hlt
      obtain ⟨encoded, henc⟩ : ∃ encoded, encodeFrame crc32
          (OtaUploader.dataFrame image limit sequence offset) = .ok encoded :=
        exists_encodeFrame_data small hlimit hsequence hlt
      obtain ⟨hsize, -, hbound⟩ := OtaUploader.dataFrame_length sequence hpos hlt
      have hslice := OtaUploader.dataFrame_slice image limit sequence offset
      dsimp only at hsize hbound hslice ⊢
      generalize hframe : OtaUploader.dataFrame image limit sequence offset = frame at *
      have hf : frame.frameType = .data := by rw [← hframe]; rfl
      have hoffset : frame.offset = offset := by rw [← hframe]; rfl
      rw [run_bind_ok (run_checkCancelled _ _)]
      cases count with
      | succ count =>
        -- the surplus answer announces the wrong offset
        obtain ⟨r, s', hrun, -, hnext⟩ : ∃ r s', run crc32 limits late
            (u.exchange crc32 frame u.ackTimeout) s = (.ok r, s') ∧ r.staged = false ∧
            r.nextOffset = offset :=
          run_exchange_surplus hlate (answers_data hf hoffset hslice hsize henc) henc
            (hs.earlier.ne henc (.inl ⟨hf, hoffset⟩)) (.inl hs.holds) hs
        have hbad : r.nextOffset ≠ ((offset + frame.payload.length : Nat) : Int) := by omega
        rw [run_bind_ok hrun, run_bind_error (run_refuseIf_error hbad)]
        exact ⟨count + 1, .inr ⟨by omega, _, _, rfl⟩, by simp⟩
      | zero =>
        obtain ⟨r, s', hrun, hnext, hs'⟩ :=
          run_exchange_data small hlate hf hoffset hslice hsize hbound henc hs
        rw [run_bind_ok hrun, run_bind_ok (run_refuseIf (not_not.mpr hnext)),
          run_bind_ok (run_notify _ _ _)]
        obtain ⟨count', hended, hiff⟩ := ih (Nat.mod_lt _ (by decide)) hbound (by omega) hs'
        refine ⟨count', hended, hiff.trans ?_⟩
        have hprompt : late encoded = 0 ↔ Prompt crc32 late frame :=
          ⟨fun h e he => by rw [henc] at he; cases he; exact h, fun h => h encoded henc⟩
        rw [hprompt, List.forall_mem_cons]
        simp
    · exact ⟨count, ended_pure hsequence (by omega) hs, by simp⟩

include hlate in
/-- A BEGIN frame is answered with its own acknowledgement. -/
lemma run_exchange_begin {timeout : ℚ} {frame : UploadFrame} {encoded : Bytes}
    (hf : frame.frameType = .begin) (henc : encodeFrame crc32 frame = .ok encoded)
    (hnew : encoded ≠ s.last) (hqueue : s.toHost = []) (hs : Holds image 0 s.device) :
    ∃ r s', run crc32 limits late (u.exchange crc32 frame timeout) s = (.ok r, s') ∧
      r.nextOffset = 0 ∧ Surplus crc32 image (late encoded) 0 s' := by
  have hparse := parseResponse_ackLine (lt_maxStr (n := 0) (by decide))
    (lt_maxStr (n := 0) (by decide))
  have hhead : s.toHost ++ (List.replicate (late encoded + 1) [ackLine 0 0]).flatten =
      ackLine 0 0 :: List.replicate (late encoded) (ackLine 0 0) := by
    rw [hqueue, List.replicate_succ, List.flatten_cons, List.flatten_replicate_singleton]
    rfl
  obtain ⟨device, hdevice, hrun⟩ :=
    run_exchange (answers_begin hf henc) henc hnew (hlate encoded) hs hhead hparse rfl
  exact ⟨_, _, hrun, rfl, hdevice, ⟨_, _, rfl, hparse, rfl, rfl, rfl⟩, frame, henc, .inl hf⟩

include hlate in
/-- A COMMIT frame without surplus answers is answered with STAGED, however late. -/
lemma run_exchange_commit {timeout : ℚ} {offset : Nat} {frame : UploadFrame} {encoded : Bytes}
    (hf : frame.frameType = .commit) (henc : encodeFrame crc32 frame = .ok encoded)
    (hwhole : image.length ≤ offset) (hs : Surplus crc32 image 0 offset s) :
    ∃ r s', run crc32 limits late (u.exchange crc32 frame timeout) s = (.ok r, s') ∧
      r.staged = true ∧ r.version = some "1.0.0".toList ∧
      r.crc = some ((crc32 image).toNat : Int) := by
  obtain ⟨_, _, hqueue, -⟩ := hs.queue
  have hheld : s.device.image = image := by
    rw [hs.holds.held, List.take_of_length_le hwhole]
  have hhead : s.toHost ++ (List.replicate (late encoded + 1)
      [stagedLine (crc32 image).toNat, okReplyLine]).flatten =
      stagedLine (crc32 image).toNat :: okReplyLine :: (List.replicate (late encoded)
        [stagedLine (crc32 image).toNat, okReplyLine]).flatten := by
    rw [hqueue, List.replicate_succ]
    rfl
  obtain ⟨device, -, hrun⟩ :=
    run_exchange (answers_commit hf henc) henc (hs.earlier.ne henc (.inr hf)) (hlate encoded) hheld
      hhead (parseResponse_stagedLine _) rfl
  exact ⟨_, _, hrun, rfl, rfl, rfl⟩

end Phases

/-- The device takes an image of this size, and its limits are numerals the host can read. -/
structure DeviceLimits.Admits (limits : DeviceLimits) (size : Nat) : Prop where
  size_le : size ≤ limits.maxImage
  maxImage_lt : limits.maxImage < 10 ^ maxStrDigits
  chunk_lt : limits.chunk < 10 ^ maxStrDigits

/-- The simulator admits every image of a valid package. -/
lemma admits_default {package : Bytes} {manifest : Manifest}
    (h : validatePackage crc32 package = .ok manifest) :
    ({} : DeviceLimits).Admits (package.drop manifestBlockSize).length := by
  obtain ⟨-, himage, -, hle, -⟩ := validatePackage_length h
  exact ⟨by rw [himage]; exact hle, lt_maxStr (by decide), lt_maxStr (by decide)⟩

/-- The link after the handshake. -/
def LosslessLink.ready (device : OtaDevice) : LosslessLink :=
  { device := { device with active := true, nextOffset := 0, image := [] }, last := beginCommand }

/-- The READY reply begins as such. -/
lemma prefix_stripBytes_readyLine (maxImage chunk : Nat) :
    asciiBytes "+OTA:READY,".toList <+: stripBytes (readyLine maxImage chunk) := by
  have hline : ∃ tail, readyLine maxImage chunk = asciiBytes "+OTA:READY,".toList ++ tail :=
    ⟨_, by rw [readyLine, replyLine, List.append_assoc, asciiBytes, List.map_append]; rfl⟩
  obtain ⟨tail, hline⟩ := hline
  rw [hline, stripBytes, stripBy_append (by decide) (by decide) (by decide)]
  exact List.prefix_append _ _

/-- The handshake gets the limits of the device. -/
lemma run_handshake {u : OtaUploader} {size : Nat} (hadmits : limits.Admits size)
    (device : OtaDevice) :
    run crc32 limits late (u.handshake crc32) { device } =
      (.ok ((limits.maxImage : Int), (limits.chunk : Int)), .ready device) := by
  have hsent : LosslessLink.sent crc32 limits { device } beginCommand =
      { LosslessLink.ready device with
        toHost := [readyLine limits.maxImage limits.chunk, okReplyLine] } := by
    rw [LosslessLink.sent, writeRaw_beginCommand]
    rfl
  have hlate : (LosslessLink.ready device).lateness late = 0 := if_pos rfl
  have hfields : run crc32 limits late
      (readyFields (readyLine limits.maxImage limits.chunk))
        { LosslessLink.ready device with toHost := [okReplyLine] } =
      (.ok ((limits.maxImage : Int), (limits.chunk : Int)),
        { LosslessLink.ready device with toHost := [okReplyLine] }) := by
    rw [readyFields, parseReady_readyLine hadmits.maxImage_lt hadmits.chunk_lt]
    rfl
  have hok : ¬ (some okReplyLine).map stripBytes ≠ some (asciiBytes "OK".toList) := by decide
  rw [OtaUploader.handshake, run_bind_ok (run_checkCancelled _ _), run_bind_ok (run_send _), hsent,
    run_bind_ok (run_readline_head (by exact hlate.le) rfl)]
  dsimp only
  rw [run_bind_ok (run_refuseIf (not_not.mpr (prefix_stripBytes_readyLine _ _))),
    run_bind_ok hfields, run_bind_ok (run_readline_head (by exact hlate.le) rfl),
    run_bind_ok (run_refuseIf hok)]
  rfl

/-- The frames before COMMIT, whose replies must not be late. -/
def framesBeforeCommit (limits : DeviceLimits) (package : Bytes) : List UploadFrame :=
  OtaUploader.beginFrame package ::
    dataFrames (package.drop manifestBlockSize) (OtaUploader.payloadLimit limits.chunk).toNat
      (package.drop manifestBlockSize).length 1 0

/-- The STAGED result that a device with this image gives. -/
def Staged (crc32 : Bytes → UInt32) (image : Bytes)
    (result : Except UploadError StagedSummary × LosslessLink) : Prop :=
  ∃ summary s, result = (.ok summary, s) ∧ summary.stagedVersion = some "1.0.0".toList ∧
    summary.stagedCrc = some ((crc32 image).toNat : Int)

/-- An upload that has raised has staged nothing. -/
lemma not_staged_error {e : UploadError} {s : LosslessLink} : ¬ Staged crc32 image (.error e, s) := by
  rintro ⟨summary, s', h, -⟩
  cases h

/-- The BEGIN frame can be encoded. -/
lemma exists_encodeFrame_begin {package : Bytes} (h : manifestBlockSize ≤ package.length) :
    ∃ encoded, encodeFrame crc32 (OtaUploader.beginFrame package) = .ok encoded := by
  have hlen : (OtaUploader.beginFrame package).payload.length = beginPayloadSize := by
    simp only [OtaUploader.beginFrame, List.length_take]
    simp only [manifestBlockSize, beginPayloadSize] at h ⊢
    omega
  refine ⟨_, encodeFrame_eq_ok_iff.mpr ⟨⟨?_, ?_, ?_, ?_, ?_⟩, rfl⟩⟩
  · rw [hlen]
    decide
  · exact fun _ => ⟨rfl, rfl, hlen⟩
  · rintro (⟨⟨⟩⟩ | ⟨⟨⟩⟩)
  · exact ⟨le_rfl, by simp [OtaUploader.beginFrame]⟩
  · exact ⟨le_rfl, by simp [OtaUploader.beginFrame]⟩

/-- The COMMIT frame can be encoded. -/
lemma exists_encodeFrame_commit {sequence offset : Nat} (hs : sequence < 2 ^ 32)
    (ho : offset < 2 ^ 32) :
    ∃ encoded, encodeFrame crc32 (OtaUploader.commitFrame sequence offset) = .ok encoded := by
  refine ⟨_, encodeFrame_eq_ok_iff.mpr ⟨⟨?_, ?_, ?_, ?_, ?_⟩, rfl⟩⟩
  · exact Nat.zero_le _
  · rintro ⟨⟩
  · exact fun _ => rfl
  · simp only [OtaUploader.commitFrame]
    omega
  · simp only [OtaUploader.commitFrame]
    omega

/-- The OK line behind STAGED may be missing. -/
lemma run_readline (timeout : ℚ) (s : LosslessLink) :
    ∃ line s', run crc32 limits late (readline timeout) s = (.ok line, s') := ⟨_, _, rfl⟩

/-- On a link that loses nothing and keeps order, an upload ends with the STAGED result exactly if
no reply to a frame before COMMIT is late. -/
theorem upload_late_iff (crc32 : Bytes → UInt32) (limits : DeviceLimits) (late : Bytes → Nat)
    (u : OtaUploader) {package : Bytes} {manifest : Manifest}
    (valid : validatePackage crc32 package = .ok manifest)
    (admits : limits.Admits (package.drop manifestBlockSize).length)
    (bounded : ∀ data, late data ≤ u.maxRetries) (device : OtaDevice) :
    Staged crc32 (package.drop manifestBlockSize)
        (run crc32 limits late (u.upload crc32 package) { device }) ↔
      ∀ frame ∈ framesBeforeCommit limits package, Prompt crc32 late frame := by
  have small := small_of_valid valid
  obtain ⟨hlen, -, -, -, htarget⟩ := validatePackage_length valid
  have hcheck : run crc32 limits late (OtaUploader.checkPackage crc32 package) { device } =
      (.ok manifest, { device }) := by
    rw [OtaUploader.checkPackage, valid]
    rfl
  have hfits : ¬ (((package.drop manifestBlockSize).length : Int) > (limits.maxImage : Int)) := by
    have := admits.size_le
    omega
  have hpayload : 0 < OtaUploader.payloadLimit limits.chunk ∧
      OtaUploader.payloadLimit limits.chunk ≤ frameMaxPayload := by
    simp only [OtaUploader.payloadLimit, frameMaxPayload]
    split <;> omega
  rw [OtaUploader.upload, run_bind_ok hcheck, run_bind_ok (run_refuseIf (not_not.mpr htarget)),
    run_bind_ok (run_notify _ _ _), run_bind_ok (run_handshake admits device)]
  dsimp only
  rw [run_bind_ok (run_refuseIf hfits), run_bind_ok (run_refuseIf (by omega)),
    run_bind_ok (run_notify _ _ _), framesBeforeCommit, List.forall_mem_cons]
  generalize package.drop manifestBlockSize = image at *
  -- BEGIN
  obtain ⟨encoded, henc⟩ : ∃ encoded, encodeFrame crc32 (OtaUploader.beginFrame package) =
    .ok encoded := exists_encodeFrame_begin hlen
  have hprompt : Prompt crc32 late (OtaUploader.beginFrame package) ↔ late encoded = 0 :=
    ⟨fun h => h encoded henc, fun h e he => by rw [henc] at he; cases he; exact h⟩
  obtain ⟨r, s, hbegin, hzero, hs⟩ : ∃ r s, run crc32 limits late
      (u.exchange crc32 (OtaUploader.beginFrame package) u.ackTimeout) (.ready device) =
        (.ok r, s) ∧ r.nextOffset = 0 ∧ Surplus crc32 image (late encoded) 0 s :=
    run_exchange_begin bounded rfl henc (encoded_ne_beginCommand henc) rfl ⟨rfl, rfl⟩
  rw [run_bind_ok hbegin, run_bind_ok (run_refuseIf (not_not.mpr hzero)),
    run_bind_ok (run_notify _ _ _)]
  -- DATA
  have hlimit : 0 < (OtaUploader.payloadLimit limits.chunk).toNat ∧
      (OtaUploader.payloadLimit limits.chunk).toNat ≤ frameMaxPayload := by omega
  obtain ⟨count, hended, hiff⟩ := run_dataLoop small bounded hlimit.1 hlimit.2
    (Nat.one_lt_two_pow (by decide)) (Nat.zero_le _) (Nat.le_add_left _ _) hs
  rw [hprompt, ← hiff]
  rcases hended with ⟨sequence, s, hloop, hsequence, hs⟩ | ⟨hcount, e, s, hloop⟩
  · rw [run_bind_ok hloop]
    dsimp only
    rw [run_bind_ok (run_notify _ _ _), run_bind_ok (run_checkCancelled _ _)]
    -- COMMIT
    obtain ⟨encoded, henc⟩ : ∃ encoded, encodeFrame crc32
      (OtaUploader.commitFrame sequence image.length) = .ok encoded :=
      exists_encodeFrame_commit hsequence small
    cases count with
    | zero =>
      obtain ⟨r, s, hcommit, hstaged, hversion, hcrc⟩ :=
        run_exchange_commit bounded rfl henc le_rfl hs
      obtain ⟨line, s', hline⟩ := run_readline u.ackTimeout s
      rw [run_bind_ok hcommit, run_bind_ok (run_refuseIf (by simp [hstaged])), run_bind_ok hline,
        run_bind_ok (run_notify _ _ _)]
      exact ⟨fun _ => rfl, fun _ => ⟨_, _, rfl, hversion, hcrc⟩⟩
    | succ count =>
      obtain ⟨r, s, hcommit, hstaged, -⟩ := run_exchange_surplus bounded (answers_commit rfl henc)
        henc (hs.earlier.ne henc (.inr rfl))
        (by rw [hs.holds.held, List.take_length]) hs
      rw [run_bind_ok hcommit, run_bind_error (run_refuseIf_error hstaged)]
      exact iff_of_false not_staged_error (by omega)
  · rw [run_bind_error hloop]
    exact iff_of_false not_staged_error hcount

/-- A late reply to COMMIT: of all frames of the upload only COMMIT has 24 bytes. -/
def lateCommit (data : Bytes) : Nat := if data.length = 24 then 1 else 0

set_option maxRecDepth 4000 in
/-- An upload whose COMMIT is answered late is staged. -/
theorem upload_late_iff_commit :
    Staged zlibCrc32 ((packageOf smallImage).drop manifestBlockSize)
      (run zlibCrc32 {} lateCommit (OtaUploader.upload zlibCrc32 {} (packageOf smallImage))
        { device := {} }) ∧
      ∃ commit, encodeFrame zlibCrc32 (OtaUploader.commitFrame 3 smallImage.length) = .ok commit ∧
        lateCommit commit = 1 := by
  have hok : (validatePackage zlibCrc32 (packageOf smallImage)).isOk = true := by decide +kernel
  have hlate : (match encodeFrame zlibCrc32 (OtaUploader.commitFrame 3 smallImage.length) with
      | .ok commit => lateCommit commit == 1
      | .error _ => false) = true := by
    decide +kernel
  -- of the frames before COMMIT none is late
  have hprompt : ((framesBeforeCommit {} (packageOf smallImage)).all fun frame =>
      match encodeFrame zlibCrc32 frame with
      | .ok encoded => lateCommit encoded == 0
      | .error _ => true) = true := by
    decide +kernel
  refine ⟨?_, ?_⟩
  · cases hv : validatePackage zlibCrc32 (packageOf smallImage) with
    | error e =>
      rw [hv] at hok
      cases hok
    | ok manifest =>
      refine (upload_late_iff zlibCrc32 {} lateCommit {} hv (admits_default hv) ?_ {}).mpr ?_
      · intro data
        unfold lateCommit
        split
        · decide
        · decide
      · intro frame hframe encoded henc
        have hzero := List.all_eq_true.mp hprompt frame hframe
        rw [henc] at hzero
        exact beq_iff_eq.mp hzero
  · cases hc : encodeFrame zlibCrc32 (OtaUploader.commitFrame 3 smallImage.length) with
    | error e =>
      rw [hc] at hlate
      cases hlate
    | ok commit =>
      rw [hc] at hlate
      exact ⟨commit, rfl, beq_iff_eq.mp hlate⟩

/-- One late reply to BEGIN: of all frames of the upload only BEGIN has 104 bytes. -/
def lateBegin (data : Bytes) : Nat := if data.length = 104 then 1 else 0

set_option maxRecDepth 4000 in
/-- The duplicate ACK of BEGIN is taken for the answer to the first DATA frame. -/
theorem upload_fails_late_begin :
    (validatePackage zlibCrc32 (packageOf smallImage)).isOk = true ∧
      (∀ data, lateBegin data ≤ ({} : OtaUploader).maxRetries) ∧
      (run zlibCrc32 {} lateBegin (OtaUploader.upload zlibCrc32 {} (packageOf smallImage))
        { device := {} }).1 =
          .error (uploadError "device acknowledged unexpected offset 0") := by
  refine ⟨by decide +kernel, fun data => ?_, by decide +kernel⟩
  unfold lateBegin
  split <;> decide

end SensorHost.Ota
