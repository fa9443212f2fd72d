import SensorHost.Lib.Crc32
import SensorHost.Ota.Lossless

/-!
# A returned upload is a committed image

The uploader's program is followed operation by operation with the assertions of the channel
invariant: `Handshaking` until the READY line is read, `Exchanging lo hi` while frames are
exchanged. One exchange never moves `lo`; only the check of the acknowledged offset does
(`Heard.raise`), and after the DATA loop `lo` is the whole image.

Every operation of the program has one triple (`send_ok`, `readline_ok` and the like), stable under
what the link does meanwhile. `attempts_ok` is an induction over the attempts, `dataLoop_ok` one
over the fuel of the DATA loop, and `upload_ok` puts the phases together. The witness runs an upload
on the deterministic link, which is one of the behaviours of the link with faults.
-/

namespace SensorHost.Ota
open SensorHost.Lib

variable {crc32 : Bytes → UInt32} {limits : DeviceLimits} {image : Bytes}

section Operations

variable {P : Link → Prop}

/-- Behind a check what is bad is not so. -/
lemma refuseIf_ok {bad : Prop} [Decidable bad] {error : UploadError}
    (hs : Stable (otaWorld crc32 limits) P) :
    TripleOk (otaWorld crc32 limits) P (refuseIf bad error) fun _ s => ¬ bad ∧ P s := by
  unfold refuseIf
  split
  · exact TripleOk.throw
  · rename_i hgood
    exact TripleOk.pure hs fun s hP => ⟨hgood, hP⟩

/-- A report of progress keeps what is stable. -/
lemma notify_ok {sent total : Nat} {phase : Phase} (hs : Stable (otaWorld crc32 limits) P) :
    TripleOk (otaWorld crc32 limits) P (notify sent total phase) fun _ => P := by
  refine TripleOk.perform hs ?_ fun _ => hs
  rintro s r s' hP hstep
  cases hstep
  exact hP

/-- A look whether to cancel keeps what is stable. -/
lemma checkCancelled_ok {sequence offset : Int} (hs : Stable (otaWorld crc32 limits) P) :
    TripleOk (otaWorld crc32 limits) P (checkCancelled crc32 sequence offset) fun _ => P := by
  refine TripleOk.bind (R := fun _ => P) (TripleOk.perform hs ?_ fun _ => hs) fun requested => ?_
  · rintro s r s' hP hstep
    cases hstep
    exact hP
  · cases requested with
    | true =>
      -- a cancelled upload does not return, whatever the CANCEL frame does
      exact TripleOk.bind (R := fun _ _ => True) (fun _ _ _ _ _ _ _ => trivial) fun _ =>
        TripleOk.throw
    | false => exact TripleOk.pure hs fun s hP => hP

/-- What holds with the data on the way holds behind `send`. -/
lemma send_ok {Q : Link → Prop} {data : Bytes} (hP : Stable (otaWorld crc32 limits) P)
    (hQ : Stable (otaWorld crc32 limits) Q)
    (h : ∀ s, P s → Q { s with toDevice := s.toDevice ++ [data] }) :
    TripleOk (otaWorld crc32 limits) P (send data) fun _ => Q := by
  have hR : ∀ sent : Bool, Stable (otaWorld crc32 limits) fun s => sent = true → Q s :=
    fun sent s s' hs step hsent => hQ s s' (hs hsent) step
  refine TripleOk.bind (TripleOk.perform (Q := fun sent s => sent = true → Q s) hP ?_ hR)
    fun sent => ?_
  · rintro s r s' hs (rfl | ⟨rfl, rfl⟩)
    · exact fun _ => h s hs
    · exact fun hfalse => absurd hfalse (by decide)
  · refine (refuseIf_ok (hR sent)).weaken (fun _ h => h) ?_
    rintro _ s ⟨hsent, hs⟩
    exact hs (by simpa using hsent)

/-- What holds with the first line taken holds behind `readline`. -/
lemma readline_ok {Q : Bytes → Link → Prop} {timeout : ℚ} (hP : Stable (otaWorld crc32 limits) P)
    (hQ : ∀ l, Stable (otaWorld crc32 limits) (Q l))
    (h : ∀ s l ls, P s → s.toHost = l :: ls → Q l { s with toHost := ls }) :
    TripleOk (otaWorld crc32 limits) P (readline timeout) fun line s =>
      (line = none → P s) ∧ ∀ l, line = some l → Q l s := by
  refine TripleOk.perform hP ?_ ?_
  · rintro s r s' hs (⟨rfl, rfl⟩ | ⟨l, ls, hl, rfl, rfl⟩)
    · refine ⟨fun _ => hs, fun l hl => ?_⟩
      cases hl
    · refine ⟨fun hnone => ?_, fun l' hl' => ?_⟩
      · cases hnone
      · cases hl'
        exact h s l ls hs hl
  · rintro r s s' ⟨hnone, hsome⟩ step
    exact ⟨fun hr => hP s s' (hnone hr) step, fun l hl => hQ l s s' (hsome l hl) step⟩

/-- Reading a line keeps an assertion that does not depend on it. -/
lemma readline_keep {timeout : ℚ} (hP : Stable (otaWorld crc32 limits) P)
    (h : ∀ s l ls, P s → s.toHost = l :: ls → P { s with toHost := ls }) :
    TripleOk (otaWorld crc32 limits) P (readline timeout) fun _ => P := by
  refine (readline_ok hP (fun _ => hP) h).weaken (fun _ h => h) fun line s hs => ?_
  cases line with
  | none => exact hs.1 rfl
  | some l => exact hs.2 l rfl

end Operations

/-- A reply was heard: what it announces the device holds, or the image is committed. -/
def Heard (crc32 : Bytes → UInt32) (image : Bytes) (lo hi : Nat) (committing : Prop)
    (r : DeviceResponse) (s : Link) : Prop :=
  Committed image s ∨
    Live crc32 image lo hi committing s ∧ r.staged = false ∧ r.nextOffset ≤ s.device.nextOffset

section Exchange

variable (small : image.length < 2 ^ 32) {lo hi : Nat} {committing : Prop}

include small in
/-- Whatever the link and the device do meanwhile keeps the upload in its place. -/
lemma Exchanging.stable :
    Stable (otaWorld crc32 limits) (Exchanging crc32 image lo hi committing) := by
  rintro s s' (h | h) step
  · exact .inl (Committed.stable s s' h step)
  · exact .inr (h.step small step).1

include small in
/-- It also keeps what an answer says. -/
lemma Heard.stable (r : DeviceResponse) :
    Stable (otaWorld crc32 limits) (Heard crc32 image lo hi committing r) := by
  rintro s s' (h | ⟨h, hr, hn⟩) step
  · exact .inl (Committed.stable s s' h step)
  · obtain ⟨h', hmono⟩ := h.step small step
    exact .inr ⟨h', hr, by omega⟩

/-- A frame that may be sent is sent. -/
lemma Exchanging.push {s : Link} {f : UploadFrame} {d : Bytes}
    (h : Exchanging crc32 image lo hi committing s) (hd : encodeFrame crc32 f = .ok d)
    (hf : Sent image hi committing f) :
    Exchanging crc32 image lo hi committing { s with toDevice := s.toDevice ++ [d] } := by
  refine h.imp id fun h => ?_
  obtain ⟨commands, frames, hsplit, hcmd, hzero, hsent⟩ := h.pending
  refine ⟨⟨commands, frames ++ [d], by simp [hsplit], hcmd, hzero, ?_⟩, h.held, h.lo_le, h.le_hi,
    h.hi_le, h.honest, h.whole⟩
  intro e he
  rcases List.mem_append.mp he with he | he
  · exact hsent e he
  · rw [List.mem_singleton.mp he]
    exact ⟨f, hd, hf⟩

/-- The oldest line is read. -/
lemma Exchanging.pop {s : Link} {l : Bytes} {ls : List Bytes}
    (h : Exchanging crc32 image lo hi committing s) (hl : s.toHost = l :: ls) :
    Exchanging crc32 image lo hi committing { s with toHost := ls } ∧
      ∀ r, parseResponse l = .ok r →
        Heard crc32 image lo hi committing r { s with toHost := ls } := by
  rcases h with h | h
  · exact ⟨.inl h, fun r _ => .inl h⟩
  · have hpop : Live crc32 image lo hi committing { s with toHost := ls } :=
      ⟨h.pending, h.held, h.lo_le, h.le_hi, h.hi_le,
        fun l' hl' => h.honest l' (by rw [hl]; exact List.mem_cons_of_mem _ hl'), h.whole⟩
    refine ⟨.inr hpop, fun r hr => ?_⟩
    rcases h.honest l (by rw [hl]; exact List.mem_cons_self) r hr with ⟨hs, hn⟩ | hc
    · exact .inr ⟨hpop, hs, hn⟩
    · exact .inl hc

include small in
/-- However often a frame is sent, the answer that is taken was given to a frame of this upload. -/
lemma attempts_ok {frame : UploadFrame} {encoded : Bytes} {timeout : ℚ}
    (hd : encodeFrame crc32 frame = .ok encoded) (hf : Sent image hi committing frame)
    (left : Nat) :
    TripleOk (otaWorld crc32 limits) (Exchanging crc32 image lo hi committing)
      (OtaUploader.attempts crc32 encoded frame timeout left)
      (Heard crc32 image lo hi committing) := by
  have hs : Stable (otaWorld crc32 limits) (Exchanging crc32 image lo hi committing) :=
    Exchanging.stable small
  induction left with
  | zero => exact TripleOk.throw
  | succ left ih =>
    refine TripleOk.bind (checkCancelled_ok hs) fun _ => ?_
    refine TripleOk.bind (send_ok hs hs fun s h => h.push hd hf) fun _ => ?_
    refine TripleOk.bind (readline_ok (Q := fun l s =>
      Exchanging crc32 image lo hi committing s ∧
        ∀ r, parseResponse l = .ok r → Heard crc32 image lo hi committing r s) hs ?_ ?_)
      fun line => ?_
    · rintro l s s' ⟨h, hr⟩ step
      exact ⟨hs s s' h step, fun r hl => Heard.stable small r s s' (hr r hl) step⟩
    · exact fun s l ls h hl => h.pop hl
    · cases line with
      | none => exact ih.weaken (fun s h => h.1 rfl) fun _ _ h => h
      | some l =>
        cases hp : parseResponse l with
        | error e =>
          cases e <;> simp only [hp] <;> exact TripleOk.throw
        | ok r =>
          simp only [hp]
          split
          · refine (TripleOk.pure (P := Heard crc32 image lo hi committing r)
              (Heard.stable small r) fun s h => h).weaken (fun s h => ?_) fun _ _ h => h
            exact (h.2 l rfl).2 r hp
          · split
            · exact ih.weaken (fun s h => (h.2 l rfl).1) fun _ _ h => h
            · exact TripleOk.throw

include small in
/-- So it is with the answer that an exchange returns. -/
lemma exchange_ok {u : OtaUploader} {frame : UploadFrame} {timeout : ℚ}
    (hf : Sent image hi committing frame) :
    TripleOk (otaWorld crc32 limits) (Exchanging crc32 image lo hi committing)
      (u.exchange crc32 frame timeout) (Heard crc32 image lo hi committing) := by
  unfold OtaUploader.exchange
  cases hd : encodeFrame crc32 frame with
  | error e => exact TripleOk.throw
  | ok encoded => exact attempts_ok small hd hf _

end Exchange

/-- More may be sent than before. -/
lemma Exchanging.widen {lo hi hi' : Nat} {c c' : Prop} {s : Link}
    (h : Exchanging crc32 image lo hi c s) (hle : hi ≤ hi') (hlen : hi' ≤ image.length)
    (hc : c → c') (hwhole : c' → lo = image.length) : Exchanging crc32 image lo hi' c' s := by
  refine h.imp id fun h => ?_
  obtain ⟨commands, frames, hsplit, hcmd, hzero, hsent⟩ := h.pending
  refine ⟨⟨commands, frames, hsplit, hcmd, hzero, fun d hd => ?_⟩, h.held, h.lo_le,
    h.le_hi.trans hle, hlen, h.honest, hwhole⟩
  obtain ⟨f, hf, hmay⟩ := hsent d hd
  refine ⟨f, hf, ?_⟩
  cases hmay with
  | begin type => exact .begin type
  | data type start slice le => exact .data type start slice (le.trans hle)
  | commit type when => exact .commit type (hc when)

/-- An announced offset is one the device holds. -/
lemma Heard.raise {lo hi m : Nat} {r : DeviceResponse} {s : Link}
    (h : Heard crc32 image lo hi False r s) (hr : r.nextOffset = m) :
    Exchanging crc32 image m hi False s := by
  rcases h with h | ⟨h, -, hn⟩
  · exact .inl h
  · exact .inr ⟨h.pending, h.held, by omega, h.le_hi, h.hi_le, h.honest, fun hf => hf.elim⟩

/-- The check of the acknowledged offset. -/
lemma raise_ok (small : image.length < 2 ^ 32) {lo hi : Nat} {r : DeviceResponse}
    {error : UploadError} (m : Nat) :
    TripleOk (otaWorld crc32 limits) (Heard crc32 image lo hi False r)
      (refuseIf (r.nextOffset ≠ m) error) fun _ => Exchanging crc32 image m hi False :=
  (refuseIf_ok (Heard.stable small r)).weaken (fun _ h => h) fun _ _ h =>
    h.2.raise (not_not.mp h.1)

/-- The first line of the handshake is the sign of a reset device. -/
lemma Handshaking.pop {s : Link} {l : Bytes} {ls : List Bytes} (h : Handshaking s)
    (hl : s.toHost = l :: ls) : Exchanging crc32 image 0 0 False { s with toHost := ls } := by
  obtain ⟨hnext, himage⟩ := h.reset (by simp [hl])
  refine .inr ⟨⟨s.toDevice, [], by simp, h.commands, fun _ => hnext, by simp⟩, ?_, Nat.zero_le _,
    hnext.le, Nat.zero_le _, ?_, fun hf => hf.elim⟩
  · rw [himage, hnext, List.take_zero]
  · intro line hline r hr
    exact absurd hr (h.silent line (by rw [hl]; exact List.mem_cons_of_mem _ hline) r)

section Phases

variable (small : image.length < 2 ^ 32) {u : OtaUploader}

include small in
/-- Behind the handshake nothing of the image is sent yet. -/
lemma handshake_ok :
    TripleOk (otaWorld crc32 limits) Handshaking (u.handshake crc32)
      fun _ => Exchanging crc32 image 0 0 False := by
  have hh : Stable (otaWorld crc32 limits) Handshaking := Handshaking.stable
  have hs : Stable (otaWorld crc32 limits) (Exchanging crc32 image 0 0 False) :=
    Exchanging.stable small
  refine TripleOk.bind (checkCancelled_ok hh) fun _ => ?_
  refine TripleOk.bind (send_ok hh hh fun s h => ?_) fun _ => ?_
  · refine ⟨fun c hc => ?_, h.reset, h.silent⟩
    rcases List.mem_append.mp hc with hc | hc
    · exact h.commands c hc
    · exact List.mem_singleton.mp hc
  · refine TripleOk.bind (readline_ok (Q := fun _ => Exchanging crc32 image 0 0 False) hh
      (fun _ => hs) fun s l ls h hl => h.pop hl) fun line => ?_
    cases line with
    | none => exact TripleOk.throw
    | some l =>
      refine TripleOk.bind ((refuseIf_ok hs).weaken (fun s h => h.2 l rfl) fun _ _ h => h.2)
        fun _ => ?_
      refine TripleOk.bind (R := fun _ => Exchanging crc32 image 0 0 False) ?_ fun fields => ?_
      · unfold readyFields
        split
        · exact TripleOk.pure hs fun s h => h
        · exact TripleOk.throw
        · exact TripleOk.throw
      · refine TripleOk.bind (readline_keep hs fun s l ls h hl => (h.pop hl).1) fun okLine => ?_
        exact TripleOk.bind (refuseIf_ok hs) fun _ =>
          TripleOk.weaken (TripleOk.pure hs fun s h => h) (fun s h => h.2) fun _ _ h => h

include small in
/-- The loop ends with the whole image acknowledged. -/
lemma loopExit_ok {sequence offset : Nat} (hle : offset ≤ image.length)
    (hge : ¬ offset < image.length) :
    TripleOk (otaWorld crc32 limits) (Exchanging crc32 image offset offset False)
      (pure (sequence, offset) : Upload (Nat × Nat))
      fun _ => Exchanging crc32 image image.length image.length False := by
  have heq : offset = image.length := by omega
  subst heq
  exact TripleOk.pure (Exchanging.stable small) fun s h => h

include small in
/-- The DATA loop ends with the whole image held. -/
lemma dataLoop_ok {limit : Nat} (hlimit : 0 < limit) {fuel sequence offset : Nat}
    (hle : offset ≤ image.length) (hfuel : image.length ≤ offset + fuel) :
    TripleOk (otaWorld crc32 limits) (Exchanging crc32 image offset offset False)
      (u.dataLoop crc32 image limit fuel sequence offset)
      fun _ => Exchanging crc32 image image.length image.length False := by
  have hs (lo hi : Nat) : Stable (otaWorld crc32 limits) (Exchanging crc32 image lo hi False) :=
    Exchanging.stable small
  induction fuel generalizing sequence offset with
  | zero => exact loopExit_ok small hle (by omega)
  | succ fuel ih =>
    rw [OtaUploader.dataLoop]
    split
    · rename_i hlt
      obtain ⟨hpos, -, hend⟩ :=
        OtaUploader.dataFrame_length sequence hlimit hlt
      have hslice : Sent image (offset + (OtaUploader.dataFrame image limit sequence
          offset).payload.length) False (OtaUploader.dataFrame image limit sequence offset) :=
        .data rfl rfl (OtaUploader.dataFrame_slice image limit sequence offset) le_rfl
      refine TripleOk.bind (checkCancelled_ok (hs _ _)) fun _ => ?_
      refine TripleOk.bind ((exchange_ok small hslice).weaken
        (fun s h => h.widen (Nat.le_add_right _ _) hend id fun hf => hf.elim)
        fun _ _ h => h) fun r => ?_
      refine TripleOk.bind (raise_ok small _) fun _ => ?_
      refine TripleOk.bind (notify_ok (hs _ _)) fun _ => ?_
      exact ih hend (by omega)
    · exact loopExit_ok small hle ‹_›

end Phases

/-- Behind the check the package is valid. -/
lemma checkPackage_ok {P : Link → Prop} {package : Bytes}
    (hs : Stable (otaWorld crc32 limits) P) :
    TripleOk (otaWorld crc32 limits) P (OtaUploader.checkPackage crc32 package)
      fun manifest s => validatePackage crc32 package = .ok manifest ∧ P s := by
  unfold OtaUploader.checkPackage
  cases hv : validatePackage crc32 package with
  | error e => exact TripleOk.throw
  | ok manifest => exact TripleOk.pure hs fun s h => ⟨rfl, h⟩

/-- The image of a valid package has a size that fits in 32 bits. -/
lemma small_of_valid {package : Bytes} {manifest : Manifest}
    (h : validatePackage crc32 package = .ok manifest) :
    (package.drop manifestBlockSize).length < 2 ^ 32 := by
  obtain ⟨-, himage, -, hle, -⟩ := validatePackage_length h
  rw [himage]
  exact hle.trans_lt (by decide)

/-- A response that is staged was heard after a COMMIT on the whole image. -/
lemma Heard.committed {lo hi : Nat} {committing : Prop} {r : DeviceResponse} {s : Link}
    (h : Heard crc32 image lo hi committing r s) (hr : ¬ r.staged = false) : Committed image s := by
  rcases h with h | ⟨-, hs, -⟩
  · exact h
  · exact absurd hs hr

/-- Behind an upload that returns the image is committed. -/
lemma upload_ok (package : Bytes) (u : OtaUploader) (expectedTargetId : Bytes) :
    TripleOk (otaWorld crc32 limits) Handshaking (u.upload crc32 package expectedTargetId)
      fun _ => Committed (package.drop manifestBlockSize) := by
  have hh : Stable (otaWorld crc32 limits) Handshaking := Handshaking.stable
  have hc : Stable (otaWorld crc32 limits) (Committed (package.drop manifestBlockSize)) :=
    Committed.stable
  refine TripleOk.bind (checkPackage_ok hh) fun manifest => TripleOk.assume fun hvalid => ?_
  have small := small_of_valid hvalid
  have hs (lo hi : Nat) (c : Prop) : Stable (otaWorld crc32 limits)
      (Exchanging crc32 (package.drop manifestBlockSize) lo hi c) := Exchanging.stable small
  refine TripleOk.bind ((refuseIf_ok hh).weaken (fun _ h => h) fun _ _ h => h.2) fun _ => ?_
  refine TripleOk.bind (notify_ok hh) fun _ => ?_
  refine TripleOk.bind (handshake_ok small) fun fields => ?_
  obtain ⟨maxImage, chunk⟩ := fields
  refine TripleOk.bind ((refuseIf_ok (hs 0 0 False)).weaken (fun _ h => h) fun _ _ h => h.2)
    fun _ => ?_
  refine TripleOk.bind (refuseIf_ok (hs 0 0 False)) fun _ => TripleOk.assume fun hlimit => ?_
  refine TripleOk.bind (notify_ok (hs 0 0 False)) fun _ => ?_
  refine TripleOk.bind (exchange_ok small (.begin rfl)) fun response => ?_
  refine TripleOk.bind (raise_ok small 0) fun _ => ?_
  refine TripleOk.bind (notify_ok (hs 0 0 False)) fun _ => ?_
  refine TripleOk.bind (dataLoop_ok small (by omega) (Nat.zero_le _) (by omega)) fun last => ?_
  obtain ⟨sequence, offset⟩ := last
  refine TripleOk.bind (notify_ok (hs _ _ False)) fun _ => ?_
  refine TripleOk.bind (checkCancelled_ok (hs _ _ False)) fun _ => ?_
  refine TripleOk.bind ((exchange_ok small (.commit rfl trivial)).weaken
    (fun s h => h.widen le_rfl le_rfl (fun _ => trivial) fun _ => rfl) fun _ _ h => h)
    fun response => ?_
  refine TripleOk.bind ((refuseIf_ok (Heard.stable small response)).weaken (fun _ h => h)
    fun _ s h => h.2.committed h.1) fun _ => ?_
  refine TripleOk.bind (readline_keep hc fun s l ls h _ => h) fun _ => ?_
  exact TripleOk.bind (notify_ok hc) fun _ => TripleOk.pure hc fun s h => h

/-- An upload over lossy, delaying and duplicating channels that returns has seen the device process
a COMMIT on exactly the package's image. -/
theorem upload_safe (crc32 : Bytes → UInt32) (limits : DeviceLimits) (u : OtaUploader)
    (package expectedTargetId : Bytes) (device : OtaDevice) {summary : StagedSummary} {s : Link}
    (run : Run (otaWorld crc32 limits) (u.upload crc32 package expectedTargetId).run
      { device := { device with commits := [] } } (.ok summary) s) :
    package.drop manifestBlockSize ∈ s.device.commits := by
  have hstart : Handshaking { device := { device with commits := [] } } :=
    ⟨by simp, by simp, by simp⟩
  exact upload_ok package u expectedTargetId _ _ _ hstart run summary rfl

/-- The smallest image. -/
def smallImage : Bytes := [1, 2, 3, 4, 5, 6, 7, 8]

/-- The package of an image for version 0.0.1. -/
def packageOf (image : Bytes) : Bytes :=
  match packOta zlibCrc32 image (.int 1) (.int 0x01000000) 0 (List.replicate packageIdSize 0) with
  | .ok package => package
  | .error _ => []

/-- What an upload of the smallest image returns. -/
def smallSummary : StagedSummary :=
  { stagedVersion := some "1.0.0".toList
    stagedCrc := some 0x3FCA88C5
    appVersion := 1
    appVersionText := "0.0.1".toList
    imageCrc32 := 0x3FCA88C5
    imageCrcText := "3FCA88C5".toList
    imageSize := 8
    packageId := List.replicate packageIdSize 0 }

set_option maxRecDepth 4000 in
/-- A small image is uploaded over a link that loses nothing. -/
theorem upload_safe_small :
    ∃ s, Run (otaWorld zlibCrc32 {}) (OtaUploader.upload zlibCrc32 {} (packageOf smallImage)).run
        { device := {} } (.ok smallSummary) s ∧
      (packageOf smallImage).drop manifestBlockSize ∈ s.device.commits := by
  have hrun := LosslessLink.run_lossless zlibCrc32 {} (fun _ => 0)
    (OtaUploader.upload zlibCrc32 {} (packageOf smallImage)) {}
  have hok : (Fallible.interp (LosslessLink.handle zlibCrc32 {} fun _ => 0)
      (OtaUploader.upload zlibCrc32 {} (packageOf smallImage)) {}).1 = .ok smallSummary := by
    decide +kernel
  rw [hok] at hrun
  exact ⟨_, hrun, upload_safe zlibCrc32 {} {} (packageOf smallImage) targetId {} hrun⟩

end SensorHost.Ota
