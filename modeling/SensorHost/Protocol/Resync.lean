import SensorHost.Protocol.Scan

/-!
# Resynchronisation

The naive leftmost scanner of the protocol, as a relation on positions of a stream (`Scans`): where
a complete candidate with magic, header rules and CRC starts it takes the candidate and jumps past
it, where the candidate is not yet complete it stops, and anywhere else it advances by one byte.

`resync` shows that the parser consumes exactly the candidates of this scanner over any chunking,
and that no complete good candidate is lost: it lies inside an earlier consumed one, or past the
retained cursor, or is consumed exactly once.

`GoodCandidate` and `NotYetComplete` restate the header rules in the words of the protocol, and
`goodCandidate_iff` and `notYetComplete_iff` connect them to what the parser tests. `scans_scan`
gives a derivation of `Scans` for what the parser did, and `Scans.unique` says that there is only
one.
-/

namespace SensorHost.Protocol
open SensorHost.Lib

/-- The header rules of the protocol. -/
structure HeaderRules (h : Header) : Prop where
  size : 28 ≤ h.headerSize ∧ h.headerSize ≤ 256
  v1 : h.version = 1 → h.headerSize = 28
  v2 : h.version = 2 → h.headerSize = 44
  payload : h.payloadSize ≤ 3577

variable (crc32 : Bytes → UInt32)

/-- A complete candidate with magic, header rules and CRC starts at the head of the view. -/
structure GoodCandidate (view : Bytes) : Prop where
  magic : Sdf1.magic <+: view
  header : 28 ≤ view.length
  rules : HeaderRules (Header.unpack view)
  complete : (Header.unpack view).frameSize ≤ view.length
  crc : (crc32 (view.take ((Header.unpack view).frameSize - 4))).toNat =
    leField view ((Header.unpack view).frameSize - 4) 4

/-- More bytes are needed: for the magic, for the header or for the announced body. -/
def NotYetComplete (view : Bytes) : Prop :=
  view.length < 4 ∨ Sdf1.magic <+: view ∧
    (view.length < 28 ∨
      HeaderRules (Header.unpack view) ∧ view.length < (Header.unpack view).frameSize)

/-- The candidate at the head of the view. -/
def candidateAt (view : Bytes) : Bytes := view.take (Header.unpack view).frameSize

/-- From position `p` the naive scanner chooses the candidates `cs` and stops at `q`. -/
inductive Scans (stream : Bytes) : Nat → List (Nat × Bytes) → Nat → Prop where
  | stop {p} (wait : NotYetComplete (stream.drop p)) : Scans stream p [] p
  | take {p cs q} (good : GoodCandidate crc32 (stream.drop p))
      (rest : Scans stream (p + (candidateAt (stream.drop p)).length) cs q) :
      Scans stream p ((p, candidateAt (stream.drop p)) :: cs) q
  | advance {p cs q} (wait : ¬ NotYetComplete (stream.drop p))
      (bad : ¬ GoodCandidate crc32 (stream.drop p)) (rest : Scans stream (p + 1) cs q) :
      Scans stream p cs q

variable {crc32}

/-- A header keeps the rules if `_validate_header` finds no fault. -/
lemma headerRules_iff {h : Header} : HeaderRules h ↔ h.fault = none := by
  unfold Header.fault
  constructor
  · rintro ⟨hsize, hv1, hv2, hp⟩
    have hsize' : ¬(h.headerSize < Sdf1.headerSize ∨ Sdf1.maxHeaderSize < h.headerSize) := by
      simp only [Sdf1.headerSize, Sdf1.maxHeaderSize]
      omega
    have hv1' : ¬(h.version = Sdf1.version ∧ h.headerSize ≠ Sdf1.headerSize) :=
      fun ⟨hv, hne⟩ => hne (hv1 hv)
    have hv2' : ¬(h.version = Sdf1.dataVersion ∧ h.headerSize ≠ Sdf1.dataHeaderSize) :=
      fun ⟨hv, hne⟩ => hne (hv2 hv)
    have hp' : ¬ Sdf1.maxPayloadSize < h.payloadSize := not_lt.mpr hp
    rw [if_neg hsize', if_neg hv1', if_neg hv2', if_neg hp']
  · intro hf
    split at hf
    · cases hf
    · rename_i hsize
      split at hf
      · cases hf
      · rename_i hv1
        split at hf
        · cases hf
        · rename_i hv2
          split at hf
          · cases hf
          · rename_i hp
            rw [not_or, not_lt, not_lt] at hsize
            exact ⟨hsize, fun hv => not_not.mp fun hne => hv1 ⟨hv, hne⟩,
              fun hv => not_not.mp fun hne => hv2 ⟨hv, hne⟩, not_lt.mp hp⟩

/-- A frame is not complete yet exactly if the scanner waits. -/
lemma notYetComplete_iff {view : Bytes} : NotYetComplete view ↔ Waits view := by
  constructor
  · rintro (hlen | ⟨hm, hlen | ⟨hr, hlen⟩⟩)
    · exact .short hlen
    · exact .header hm hlen
    · by_cases hh : view.length < 28
      · exact .header hm hh
      · exact .body hm (by simpa using hh) (headerRules_iff.mp hr) hlen
  · intro h
    cases h with
    | short hlen => exact .inl hlen
    | header hm hlen => exact .inr ⟨hm, .inl hlen⟩
    | body hm _ hf hlen => exact .inr ⟨hm, .inr ⟨headerRules_iff.mpr hf, hlen⟩⟩

/-- The CRC field of a candidate is read the same in the candidate and in the view. -/
lemma crcHolds_candidate {view : Bytes} {size : Nat} (hsize : 4 ≤ size) (h : size ≤ view.length) :
    crcHolds crc32 (view.take size) size = true ↔
      (crc32 (view.take (size - 4))).toNat = leField view (size - 4) 4 := by
  have hlen : (view.take size).length = size := by
    rw [List.length_take]
    omega
  have hfield : leField (view.take size) (size - 4) 4 = leField view (size - 4) 4 := by
    conv_rhs => rw [← List.take_append_drop size view]
    exact (leField_append (by omega) _).symm
  unfold crcHolds
  simp only [Sdf1.crcSize, beq_iff_eq, List.take_take, hfield]
  rw [Nat.min_eq_left (by omega)]

/-- A candidate is good exactly if the scanner takes it. -/
lemma goodCandidate_iff {view : Bytes} :
    GoodCandidate crc32 view ↔
      Takes crc32 view (Header.unpack view).frameSize .candidate := by
  constructor
  · rintro ⟨hm, hh, hr, hlen, hcrc⟩
    have hf := headerRules_iff.mp hr
    have hge := Header.frameSize_ge hf
    simp only [Sdf1.headerSize, Sdf1.crcSize] at hge
    exact .candidate rfl hm hf hh hlen ((crcHolds_candidate (by omega) hlen).mpr hcrc)
  · intro h
    cases h with
    | candidate _ hm hf hh hlen hcrc =>
      have hge := Header.frameSize_ge hf
      simp only [Sdf1.headerSize, Sdf1.crcSize] at hge
      exact ⟨hm, hh, headerRules_iff.mpr hf, hlen, (crcHolds_candidate (by omega) hlen).mp hcrc⟩

/-- A candidate has the size of its header. -/
lemma Takes.size_eq {bs : Bytes} {n : Nat} (h : Takes crc32 bs n .candidate) :
    n = (Header.unpack bs).frameSize := by
  cases h with
  | candidate hsize _ _ _ _ _ => exact hsize

/-- What is no candidate is passed byte by byte. -/
lemma Takes.eq_one {bs : Bytes} {n : Nat} {e : Event} (h : Takes crc32 bs n e)
    (he : e ≠ .candidate) : n = 1 := by
  cases h with
  | candidate => exact absurd rfl he
  | _ => rfl

/-- What a position is for the naive scanner decides what the parser's scanner does there. -/
lemma lookSdf1_cases (crc32 : Bytes → UInt32) (view : Bytes) :
    (NotYetComplete view ∧ lookSdf1 crc32 view = .wait) ∨
    (GoodCandidate crc32 view ∧
      lookSdf1 crc32 view = .take (candidateAt view).length .candidate) ∨
    (¬ NotYetComplete view ∧ ¬ GoodCandidate crc32 view ∧
      ∃ e, e ≠ .candidate ∧ lookSdf1 crc32 view = .take 1 e) := by
  cases hl : lookSdf1 crc32 view with
  | wait => exact .inl ⟨notYetComplete_iff.mpr (lookSdf1_wait_iff.mp hl), rfl⟩
  | take n e =>
    have ht := lookSdf1_take_iff.mp hl
    have hwait : ¬ NotYetComplete view := by
      intro hn
      rw [lookSdf1_wait_iff.mpr (notYetComplete_iff.mp hn)] at hl
      cases hl
    by_cases he : e = .candidate
    · subst he
      have hn := ht.size_eq
      subst hn
      have hlen : (candidateAt view).length = (Header.unpack view).frameSize := by
        rw [candidateAt, List.length_take, Nat.min_eq_left ht.le_length]
      exact .inr (.inl ⟨goodCandidate_iff.mpr ht, by rw [hlen]⟩)
    · have hn := ht.eq_one he
      subst hn
      refine .inr (.inr ⟨hwait, fun hg => ?_, e, he, rfl⟩)
      rw [lookSdf1_take_iff.mpr (goodCandidate_iff.mp hg)] at hl
      cases hl

/-- A good candidate is not empty. -/
lemma GoodCandidate.length_pos {view : Bytes} (h : GoodCandidate crc32 view) :
    0 < (candidateAt view).length := by
  have ht := goodCandidate_iff.mp h
  rw [candidateAt, List.length_take]
  exact lt_min ht.pos (ht.pos.trans_le ht.le_length)

/-- Garbage only moves the position. -/
lemma candidatesFrom_garbage (pos : Nat) (segment : Bytes) {e : Event} (he : e ≠ .candidate)
    (rest : List (Bytes × Event)) :
    candidatesFrom pos ((segment, e) :: rest) = candidatesFrom (pos + segment.length) rest := by
  cases e with
  | candidate => exact absurd rfl he
  | _ => rfl

/-- The naive scanner chooses the candidates among the segments of the parser's scanner. -/
lemma scans_scan (crc32 : Bytes → UInt32) (stream : Bytes) (p : Nat) :
    Scans crc32 stream p (candidatesFrom p ((sdf1 crc32).scan (stream.drop p)).1)
      (p + bytesTaken ((sdf1 crc32).scan (stream.drop p)).1) := by
  generalize hv : stream.drop p = view
  induction view using (sdf1 crc32).scan_induction generalizing p with
  | wait view h =>
    subst hv
    rw [Scanner.scan_wait _ h]
    exact .stop (notYetComplete_iff.mpr (lookSdf1_wait_iff.mp h))
  | take view n e h ih =>
    subst hv
    have hrest := ih (p + n) (by rw [List.drop_drop])
    have htake : ((stream.drop p).take n).length = n := by
      rw [List.length_take, Nat.min_eq_left ((sdf1 crc32).le_length h)]
    rw [Scanner.scan_take _ h]
    simp only [bytesTaken, List.map_cons, List.sum_cons, htake, ← Nat.add_assoc] at hrest ⊢
    rcases lookSdf1_cases crc32 (stream.drop p) with
      ⟨-, hl⟩ | ⟨hg, hl⟩ | ⟨hw, hg, e', he', hl⟩ <;> cases h.symm.trans hl
    · rw [candidatesFrom, htake]
      have hc : (stream.drop p).take (candidateAt (stream.drop p)).length =
          candidateAt (stream.drop p) := by
        simp [candidateAt]
      rw [hc]
      exact .take hg hrest
    · rw [candidatesFrom_garbage _ _ he', htake]
      exact .advance hw hg hrest

/-- The naive scanner is deterministic. -/
lemma Scans.unique {stream : Bytes} {p q q' : Nat} {cs cs' : List (Nat × Bytes)}
    (h : Scans crc32 stream p cs q) (h' : Scans crc32 stream p cs' q') : cs = cs' ∧ q = q' := by
  have hexcl : ∀ {view : Bytes}, NotYetComplete view → ¬ GoodCandidate crc32 view := by
    intro view hn hg
    rcases lookSdf1_cases crc32 view with ⟨-, hl⟩ | ⟨-, hl⟩ | ⟨hw, -, -⟩
    · rw [lookSdf1_take_iff.mpr (goodCandidate_iff.mp hg)] at hl
      cases hl
    · rw [lookSdf1_wait_iff.mpr (notYetComplete_iff.mp hn)] at hl
      cases hl
    · exact hw hn
  induction h generalizing cs' q' with
  | stop hw =>
    cases h' with
    | stop _ => exact ⟨rfl, rfl⟩
    | take hg _ => exact absurd hg (hexcl hw)
    | advance hw' _ _ => exact absurd hw hw'
  | take hg _ ih =>
    cases h' with
    | stop hw => exact absurd hg (hexcl hw)
    | take _ rest =>
      obtain ⟨rfl, rfl⟩ := ih rest
      exact ⟨rfl, rfl⟩
    | advance _ hb _ => exact absurd hg hb
  | advance hw hb _ ih =>
    cases h' with
    | stop hw' => exact absurd hw' hw
    | take hg _ => exact absurd hg hb
    | advance _ _ rest => exact ih rest

/-- A scan goes forward, and no candidate stands before its start. -/
lemma Scans.le {stream : Bytes} {p q : Nat} {cs : List (Nat × Bytes)}
    (h : Scans crc32 stream p cs q) : p ≤ q ∧ ∀ c ∈ cs, p ≤ c.1 := by
  induction h with
  | stop _ => exact ⟨le_rfl, by simp⟩
  | take hg _ ih =>
    refine ⟨by omega, ?_⟩
    intro c hc
    rcases List.mem_cons.mp hc with rfl | hc
    · exact le_rfl
    · have := ih.2 c hc
      omega
  | advance _ _ _ ih =>
    refine ⟨by omega, ?_⟩
    intro c hc
    have := ih.2 c hc
    omega

/-- A good candidate at or after the start is covered, past the cursor, or taken exactly once. -/
lemma Scans.complete {stream : Bytes} {p q : Nat} {cs : List (Nat × Bytes)}
    (h : Scans crc32 stream p cs q) {i : Nat} (hi : p ≤ i)
    (good : GoodCandidate crc32 (stream.drop i)) :
    (∃ c ∈ cs, c.1 < i ∧ i < c.1 + c.2.length) ∨ q ≤ i ∨
      cs.filter (fun c => c.1 = i) = [(i, candidateAt (stream.drop i))] := by
  induction h with
  | stop _ => exact .inr (.inl hi)
  | @take p cs q hg rest ih =>
    by_cases hpi : i = p
    · subst hpi
      have hnone : cs.filter (fun c => c.1 = i) = [] := by
        refine List.filter_eq_nil_iff.mpr fun c hc => ?_
        have := rest.le.2 c hc
        have := hg.length_pos
        simp only [decide_eq_true_eq]
        omega
      exact .inr (.inr (by simp [hnone]))
    · by_cases hin : i < p + (candidateAt (stream.drop p)).length
      · exact .inl ⟨_, List.mem_cons_self, by simpa using by omega, hin⟩
      · have hp : p ≠ i := fun h => hpi h.symm
        rcases ih (by omega) with ⟨c, hc, hci⟩ | hq | honce
        · exact .inl ⟨c, List.mem_cons_of_mem _ hc, hci⟩
        · exact .inr (.inl hq)
        · exact .inr (.inr (by simpa [hp] using honce))
  | @advance p cs q _ hb _ ih =>
    have hpi : p ≠ i := by
      rintro rfl
      exact hb good
    exact ih (by omega)

variable (crc32)

/-- The segments and the residue make up the scanned bytes. -/
lemma scan_residue_drop (view : Bytes) :
    ((sdf1 crc32).scan view).2 = view.drop (bytesTaken ((sdf1 crc32).scan view).1) := by
  have hc := (sdf1 crc32).scan_conserve view
  have hlen : bytesTaken ((sdf1 crc32).scan view).1 =
      ((((sdf1 crc32).scan view).1.map Prod.fst).flatten).length := by
    simp [bytesTaken, List.length_flatten, Function.comp_def]
  calc ((sdf1 crc32).scan view).2
      = ((((sdf1 crc32).scan view).1.map Prod.fst).flatten ++ ((sdf1 crc32).scan view).2).drop
          (bytesTaken ((sdf1 crc32).scan view).1) := (List.drop_left' hlen.symm).symm
    _ = view.drop (bytesTaken ((sdf1 crc32).scan view).1) := by rw [hc]

/-- The candidates consumed over the chunks are those of the chunked scan. -/
lemma StreamParser.consumedAll_eq (base : Nat) (p : StreamParser) (chunks : List Bytes) :
    p.consumedAll crc32 base chunks =
      (candidatesFrom base ((sdf1 crc32).scanChunks p.buffer chunks).1,
        base + bytesTaken ((sdf1 crc32).scanChunks p.buffer chunks).1) := by
  induction chunks generalizing base p with
  | nil => simp [StreamParser.consumedAll, Scanner.scanChunks, candidatesFrom, bytesTaken]
  | cons chunk chunks ih =>
    have hrun : p.feedRun crc32 chunk = _ := feedLoop_eq crc32 _ _ (Nat.lt_succ_self _)
    simp only [StreamParser.consumedAll, Scanner.scanChunks]
    rw [ih, p.feed_eq crc32 chunk, hrun]
    simp [FeedLoop.after, candidatesFrom_append, ← candidatesFrom_shift, bytesTaken, Nat.add_assoc]

/-- Resynchronisation is sound and complete, for any checksum and any chunking: the parser consumes
exactly the candidates of the naive scanner, keeps exactly the bytes from its stop on, and loses no
complete good candidate. -/
theorem resync (decodeSensorPayload : Bool) (chunks : List Bytes) :
    let stream := chunks.flatten
    let p : StreamParser := { decodeSensorPayload := decodeSensorPayload }
    let consumed := (p.consumedAll crc32 0 chunks).1
    let cursor := (p.consumedAll crc32 0 chunks).2
    (∀ cs q, Scans crc32 stream 0 cs q ↔ cs = consumed ∧ q = cursor) ∧
      (p.feedAll crc32 chunks).1.buffer = stream.drop cursor ∧
      ∀ i, GoodCandidate crc32 (stream.drop i) →
        (∃ c ∈ consumed, c.1 < i ∧ i < c.1 + c.2.length) ∨ cursor ≤ i ∨
          consumed.filter (fun c => c.1 = i) = [(i, candidateAt (stream.drop i))] := by
  intro stream p consumed cursor
  have hfresh : Waits p.buffer := .short (Nat.zero_lt_succ 3)
  have hchunks : (sdf1 crc32).scanChunks p.buffer chunks = (sdf1 crc32).scan stream :=
    Scanner.scanChunks_eq _ (hfresh.look crc32) chunks
  have hrun : p.consumedAll crc32 0 chunks =
      (candidatesFrom 0 ((sdf1 crc32).scan stream).1,
        0 + bytesTaken ((sdf1 crc32).scan stream).1) := by
    rw [StreamParser.consumedAll_eq, hchunks]
  have hscans : Scans crc32 stream 0 consumed cursor := by
    have h := scans_scan crc32 stream 0
    rw [List.drop_zero] at h
    simpa only [consumed, cursor, hrun] using h
  refine ⟨fun cs q => ⟨fun h => h.unique hscans, ?_⟩, ?_, fun i hi =>
    hscans.complete (Nat.zero_le i) hi⟩
  · rintro ⟨rfl, rfl⟩
    exact hscans
  · rw [StreamParser.feedAll_eq, hchunks]
    simp only [cursor, hrun, Nat.zero_add]
    exact scan_residue_drop crc32 stream

end SensorHost.Protocol
