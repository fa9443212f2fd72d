import SensorHost.Lib.Scanner
import SensorHost.Protocol.Parser

/-!
# The parser as a scanner

The cursor loop of `feed` jumps to the next magic with `find`. Seen one position at a time it is a
scanner (`sdf1`): at the head of the bytes left it waits, drops one byte, or takes a candidate. The
core lemma `feedLoop_eq` says that the loop computes exactly what this scanner segments, with the
decoder folded over the segments (`Decoder.events`).

Chunking invariance of the whole parser (`feedAll_eq_feed`) follows from the chunking invariance of
scanners.

One pass of the loop is described by what stands at the cursor. `feedLoop_garbage`,
`feedLoop_magic`, `feedLoop_wait` and `feedLoop_take` are the four cases, and `feedLoop_eq` is the
induction over the scan with `FeedLoop.after` as what the loop is to be. What a scanner takes is not
changed by what comes later (`Takes.append`), which is all that chunking invariance needs.
-/

namespace SensorHost.Protocol
open SensorHost.Lib

/-- A header that is there does not change with what comes later. -/
lemma Header.unpack_append {bs : Bytes} (h : Sdf1.headerSize ≤ bs.length) (cs : Bytes) :
    Header.unpack (bs ++ cs) = Header.unpack bs := by
  simp only [Sdf1.headerSize] at h
  simp only [Header.unpack]
  rw [List.take_append_of_le_length (by omega), leField_append (by omega),
    leField_append (by omega), leField_append (by omega), leField_append (by omega),
    leField_append (by omega), leField_append (by omega), leField_append (by omega),
    leField_append (by omega), leField_append (by omega)]

/-- The header of a view is that of any prefix long enough to hold it. -/
lemma Header.unpack_take {bs : Bytes} {n : Nat} (hn : Sdf1.headerSize ≤ n)
    (h : Sdf1.headerSize ≤ bs.length) : Header.unpack (bs.take n) = Header.unpack bs := by
  have hlen : Sdf1.headerSize ≤ (bs.take n).length := by
    rw [List.length_take]
    exact le_min hn h
  conv_rhs => rw [← List.take_append_drop n bs]
  exact (Header.unpack_append hlen _).symm

/-- A header without fault announces at least a common header and a CRC. -/
lemma Header.frameSize_ge {h : Header} (hf : h.fault = none) :
    Sdf1.headerSize + Sdf1.crcSize ≤ h.frameSize := by
  have hge : Sdf1.headerSize ≤ h.headerSize := by
    by_contra hlt
    rw [Header.fault, if_pos (.inl (not_le.mp hlt))] at hf
    cases hf
  simp only [Header.frameSize]
  omega

/-- Nor does the magic. -/
lemma magic_prefix_append {bs : Bytes} (h : 4 ≤ bs.length) (cs : Bytes) :
    Sdf1.magic <+: bs ++ cs ↔ Sdf1.magic <+: bs := by
  constructor
  · intro hp
    exact List.prefix_of_prefix_length_le hp (List.prefix_append bs cs) h
  · intro hp
    exact hp.trans (List.prefix_append bs cs)

/-- What happens to the bytes at the head. -/
inductive Event where
  | garbage
  | fault (fault : HeaderFault)
  | badCrc
  | candidate
  deriving DecidableEq

variable (crc32 : Bytes → UInt32)

/-- The decision at the head of the bytes left. -/
def lookSdf1 (bs : Bytes) : Verdict Event :=
  if bs.length < 4 then .wait
  else if ¬ Sdf1.magic <+: bs then .take 1 .garbage
  else if bs.length < Sdf1.headerSize then .wait
  else
    let header := Header.unpack bs
    match header.fault with
    | some fault => .take 1 (.fault fault)
    | none =>
      if bs.length < header.frameSize then .wait
      else if !crcHolds crc32 (bs.take header.frameSize) header.frameSize then .take 1 .badCrc
      else .take header.frameSize .candidate

variable {crc32}

/-- The decisions to take, with what decides them. -/
inductive Takes (crc32 : Bytes → UInt32) (bs : Bytes) : Nat → Event → Prop where
  | garbage (len : 4 ≤ bs.length) (noMagic : ¬ Sdf1.magic <+: bs) : Takes crc32 bs 1 .garbage
  | fault {f : HeaderFault} (magic : Sdf1.magic <+: bs) (len : Sdf1.headerSize ≤ bs.length)
      (bad : (Header.unpack bs).fault = some f) : Takes crc32 bs 1 (.fault f)
  | badCrc {size : Nat} (hsize : size = (Header.unpack bs).frameSize) (magic : Sdf1.magic <+: bs)
      (good : (Header.unpack bs).fault = none) (header : Sdf1.headerSize ≤ bs.length)
      (len : size ≤ bs.length) (bad : crcHolds crc32 (bs.take size) size = false) :
      Takes crc32 bs 1 .badCrc
  | candidate {size : Nat} (hsize : size = (Header.unpack bs).frameSize)
      (magic : Sdf1.magic <+: bs) (good : (Header.unpack bs).fault = none)
      (header : Sdf1.headerSize ≤ bs.length) (len : size ≤ bs.length)
      (crc : crcHolds crc32 (bs.take size) size = true) : Takes crc32 bs size .candidate

/-- The scanner waits for the magic, for the header or for the rest of a candidate. -/
inductive Waits (bs : Bytes) : Prop where
  | short (len : bs.length < 4)
  | header (magic : Sdf1.magic <+: bs) (len : bs.length < Sdf1.headerSize)
  | body (magic : Sdf1.magic <+: bs) (header : Sdf1.headerSize ≤ bs.length)
      (good : (Header.unpack bs).fault = none) (len : bs.length < (Header.unpack bs).frameSize)

/-- The magic takes four bytes. -/
lemma magic_length_le {bs : Bytes} (h : Sdf1.magic <+: bs) : 4 ≤ bs.length := h.length_le

/-- What the scanner takes, case by case. -/
lemma lookSdf1_take_iff {bs : Bytes} {n : Nat} {e : Event} :
    lookSdf1 crc32 bs = .take n e ↔ Takes crc32 bs n e := by
  constructor
  · intro h
    unfold lookSdf1 at h
    split at h
    · cases h
    · rename_i hlen
      split at h
      · rename_i hmagic
        cases h
        exact .garbage (by omega) hmagic
      · rename_i hmagic
        split at h
        · cases h
        · rename_i hheader
          dsimp only at h
          split at h
          · rename_i hf
            cases h
            exact .fault (not_not.mp hmagic) (by omega) hf
          · rename_i hf
            split at h
            · cases h
            · split at h
              · rename_i hcrc
                cases h
                exact .badCrc rfl (not_not.mp hmagic) hf (by omega) (by omega) (by simpa using hcrc)
              · rename_i hcrc
                cases h
                exact .candidate rfl (not_not.mp hmagic) hf (by omega) (by omega)
                  (by simpa using hcrc)
  · intro h
    unfold lookSdf1
    cases h with
    | garbage hlen hm => rw [if_neg (by omega), if_pos hm]
    | fault hm hlen hf =>
      have := magic_length_le hm
      rw [if_neg (by omega), if_neg (not_not.mpr hm), if_neg (by omega)]
      simp only [hf]
    | badCrc hsize hm hf hh hlen hcrc =>
      subst hsize
      have := magic_length_le hm
      rw [if_neg (by omega), if_neg (not_not.mpr hm), if_neg (by omega)]
      simp only [hf]
      rw [if_neg (by omega), if_pos (by simpa using hcrc)]
    | candidate hsize hm hf hh hlen hcrc =>
      subst hsize
      have := magic_length_le hm
      rw [if_neg (by omega), if_neg (not_not.mpr hm), if_neg (by omega)]
      simp only [hf]
      rw [if_neg (by omega), if_neg (by simpa using hcrc)]

/-- When the scanner waits. -/
lemma lookSdf1_wait_iff {bs : Bytes} : lookSdf1 crc32 bs = .wait ↔ Waits bs := by
  constructor
  · intro h
    unfold lookSdf1 at h
    split at h
    · exact .short ‹_›
    · split at h
      · cases h
      · rename_i hmagic
        split at h
        · exact .header (not_not.mp hmagic) ‹_›
        · rename_i hheader
          dsimp only at h
          split at h
          · cases h
          · rename_i hf
            split at h
            · exact .body (not_not.mp hmagic) (by omega) hf ‹_›
            · split at h <;> cases h
  · intro h
    unfold lookSdf1
    cases h with
    | short hlen => rw [if_pos hlen]
    | header hm hlen =>
      have := magic_length_le hm
      rw [if_neg (by omega), if_neg (not_not.mpr hm), if_pos hlen]
    | body hm hh hf hlen =>
      have := magic_length_le hm
      rw [if_neg (by omega), if_neg (not_not.mpr hm), if_neg (by omega)]
      simp only [hf]
      rw [if_pos hlen]

/-- What is taken is not empty. -/
lemma Takes.pos {bs : Bytes} {n : Nat} {e : Event} (h : Takes crc32 bs n e) : 0 < n := by
  cases h with
  | candidate hsize _ hf _ _ _ =>
    have := Header.frameSize_ge hf
    simp only [Sdf1.headerSize] at this
    omega
  | _ => exact Nat.one_pos

/-- It is there. -/
lemma Takes.le_length {bs : Bytes} {n : Nat} {e : Event} (h : Takes crc32 bs n e) :
    n ≤ bs.length := by
  cases h with
  | garbage hlen _ => omega
  | fault hm _ _ => have := magic_length_le hm; omega
  | badCrc _ hm _ _ _ _ => have := magic_length_le hm; omega
  | candidate _ _ _ _ hlen _ => exact hlen

/-- It does not change with what comes later. -/
lemma Takes.append {bs : Bytes} {n : Nat} {e : Event} (h : Takes crc32 bs n e) (cs : Bytes) :
    Takes crc32 (bs ++ cs) n e := by
  have hle : bs.length ≤ (bs ++ cs).length := by simp
  cases h with
  | garbage hlen hm =>
    exact .garbage (hlen.trans hle) fun hp => hm ((magic_prefix_append hlen cs).mp hp)
  | fault hm hlen hf =>
    exact .fault (hm.trans (List.prefix_append ..)) (hlen.trans hle)
      (by rw [Header.unpack_append hlen, hf])
  | badCrc hsize hm hf hh hlen hcrc =>
    exact .badCrc (by rw [Header.unpack_append hh, hsize]) (hm.trans (List.prefix_append ..))
      (by rw [Header.unpack_append hh, hf]) (hh.trans hle) (hlen.trans hle)
      (by rw [List.take_append_of_le_length hlen, hcrc])
  | candidate hsize hm hf hh hlen hcrc =>
    exact .candidate (by rw [Header.unpack_append hh, hsize]) (hm.trans (List.prefix_append ..))
      (by rw [Header.unpack_append hh, hf]) (hh.trans hle) (hlen.trans hle)
      (by rw [List.take_append_of_le_length hlen, hcrc])

variable (crc32)

/-- The parser's cursor loop, one position at a time. -/
def sdf1 : Scanner UInt8 Event where
  look := lookSdf1 crc32
  pos h := (lookSdf1_take_iff.mp h).pos
  le_length h := (lookSdf1_take_iff.mp h).le_length
  stable ys h := lookSdf1_take_iff.mpr ((lookSdf1_take_iff.mp h).append ys)

/-- The scanner waits where it has to. -/
lemma Waits.look {bs : Bytes} (h : Waits bs) : (sdf1 crc32).look bs = .wait :=
  lookSdf1_wait_iff.mpr h

/-- The decoder over one segment, with the frame it emits. -/
def Decoder.event (d : Decoder) (segment : Bytes) : Event → Decoder × List Frame
  | .garbage => (d.discard segment.length, [])
  | .fault fault => ((d.countFault fault).discard segment.length, [])
  | .badCrc => (d.countCrcError.discard segment.length, [])
  | .candidate =>
    let (d, frame) := d.accept (Header.unpack segment) segment
    (d, frame.toList)

/-- The decoder over a sequence of segments. -/
def Decoder.events (d : Decoder) : List (Bytes × Event) → Decoder × List Frame
  | [] => (d, [])
  | (segment, e) :: rest =>
    let now := d.event segment e
    let later := now.1.events rest
    (later.1, now.2 ++ later.2)

/-- Events are handled one after the other. -/
lemma Decoder.events_append (d : Decoder) (as bs : List (Bytes × Event)) :
    d.events (as ++ bs) =
      (((d.events as).1.events bs).1, (d.events as).2 ++ ((d.events as).1.events bs).2) := by
  induction as generalizing d with
  | nil => simp [Decoder.events]
  | cons a as ih => simp [Decoder.events, ih]

/-- The candidates among segments that start at `pos`, with their positions. -/
def candidatesFrom (pos : Nat) : List (Bytes × Event) → List (Nat × Bytes)
  | [] => []
  | (segment, .candidate) :: rest =>
    (pos, segment) :: candidatesFrom (pos + segment.length) rest
  | (segment, _) :: rest => candidatesFrom (pos + segment.length) rest

/-- The number of bytes in the segments. -/
def bytesTaken (segments : List (Bytes × Event)) : Nat := (segments.map (·.1.length)).sum

/-- The candidates of two scans are those of both, the second ones further on. -/
lemma candidatesFrom_append (pos : Nat) (as bs : List (Bytes × Event)) :
    candidatesFrom pos (as ++ bs) =
      candidatesFrom pos as ++ candidatesFrom (pos + bytesTaken as) bs := by
  induction as generalizing pos with
  | nil => simp [candidatesFrom, bytesTaken]
  | cons a as ih =>
    obtain ⟨segment, e⟩ := a
    cases e <;> simp [candidatesFrom, ih, bytesTaken, Nat.add_assoc]

/-- Positions are relative to where the segments start. -/
lemma candidatesFrom_shift (base pos : Nat) (as : List (Bytes × Event)) :
    candidatesFrom (base + pos) as =
      (candidatesFrom pos as).map fun c => (base + c.1, c.2) := by
  induction as generalizing pos with
  | nil => rfl
  | cons a as ih =>
    obtain ⟨segment, e⟩ := a
    cases e <;> simp [candidatesFrom, ← ih, Nat.add_assoc]

namespace FeedLoop

/-- The loop's locals after a sequence of segments that leaves `rest`. -/
def after (l : FeedLoop) (segments : List (Bytes × Event)) (rest : Bytes) : FeedLoop :=
  { decoder := (l.decoder.events segments).1
    pos := l.pos + bytesTaken segments
    rest := rest
    frames := l.frames ++ (l.decoder.events segments).2
    consumed := l.consumed ++ candidatesFrom l.pos segments }

/-- No events leave the loop where it is. -/
lemma after_nil (l : FeedLoop) : l.after [] l.rest = l := by
  simp [after, Decoder.events, candidatesFrom, bytesTaken]

/-- The loop goes on from where it is. -/
lemma after_append (l : FeedLoop) (as bs : List (Bytes × Event)) (mid rest : Bytes) :
    (l.after as mid).after bs rest = l.after (as ++ bs) rest := by
  simp [after, Decoder.events_append, candidatesFrom_append, bytesTaken, Nat.add_assoc]

/-- No bytes are skipped. -/
@[simp] lemma skip_zero (l : FeedLoop) : l.skip 0 = l := rfl

/-- Bytes are skipped one after the other. -/
lemma skip_skip (l : FeedLoop) (m n : Nat) : (l.skip m).skip n = l.skip (m + n) := by
  simp [skip, advance, Decoder.discard, Nat.add_assoc]

/-- What is left is behind what is skipped. -/
@[simp] lemma skip_rest (l : FeedLoop) (n : Nat) : (l.skip n).rest = l.rest.drop n := rfl

/-- Dropping one byte, and refusing a candidate, are segments of one byte. -/
lemma after_one {l : FeedLoop} (h : 0 < l.rest.length) :
    l.after [(l.rest.take 1, .garbage)] (l.rest.drop 1) = l.skip 1 ∧
      (∀ f, l.after [(l.rest.take 1, .fault f)] (l.rest.drop 1) = l.refuse f) ∧
      l.after [(l.rest.take 1, .badCrc)] (l.rest.drop 1) = l.refuseCrc := by
  have hlen : (l.rest.take 1).length = 1 := by
    rw [List.length_take]
    omega
  refine ⟨?_, fun f => ?_, ?_⟩ <;>
    simp [after, skip, refuse, refuseCrc, advance, Decoder.events, Decoder.event, candidatesFrom,
      bytesTaken, hlen]

/-- Consuming a candidate is a segment. -/
lemma after_candidate {l : FeedLoop} {n : Nat} (hn : Sdf1.headerSize ≤ n)
    (hlen : n ≤ l.rest.length) :
    l.after [(l.rest.take n, .candidate)] (l.rest.drop n) =
      l.consume (Header.unpack l.rest) (l.rest.take n) := by
  have htake : (l.rest.take n).length = n := by
    rw [List.length_take]
    omega
  simp [after, consume, advance, Decoder.events, Decoder.event, candidatesFrom, bytesTaken, htake,
    Header.unpack_take hn (hn.trans hlen)]

end FeedLoop

/-- There is no magic in fewer than four bytes. -/
lemma find_magic_short {bs : Bytes} (h : bs.length < 4) : find Sdf1.magic bs = none := by
  induction bs with
  | nil => rfl
  | cons b bs ih =>
    have hnot : ¬ Sdf1.magic <+: b :: bs := by
      intro hp
      have := hp.length_le
      rw [Sdf1.length_magic] at this
      omega
    have hbs : bs.length < 4 := by
      rw [List.length_cons] at h
      omega
    rw [find_cons_of_no_match hnot, ih hbs, Option.map_none]

/-- A pass that starts off a magic is a pass from the next byte: `find` does not care. -/
lemma feedLoop_garbage {l : FeedLoop} (fuel : Nat) (hlen : 4 ≤ l.rest.length)
    (hm : ¬ Sdf1.magic <+: l.rest) :
    feedLoop crc32 (fuel + 1) l = feedLoop crc32 (fuel + 1) (l.skip 1) := by
  obtain ⟨b, bs, hbs⟩ : ∃ b bs, l.rest = b :: bs := by
    cases hr : l.rest with
    | nil => rw [hr] at hlen; simp at hlen
    | cons b bs => exact ⟨b, bs, rfl⟩
  have hfind : find Sdf1.magic l.rest = (find Sdf1.magic (l.skip 1).rest).map (· + 1) := by
    rw [FeedLoop.skip_rest, hbs]
    rw [hbs] at hm
    exact find_cons_of_no_match hm
  rw [feedLoop, feedLoop, hfind]
  cases find Sdf1.magic (l.skip 1).rest with
  | none =>
    have : 1 + (l.rest.length - 1 - 3) = l.rest.length - 3 := by omega
    simp [FeedLoop.skip_skip, this]
  | some i => simp [FeedLoop.skip_skip, Nat.add_comm 1 i]

/-- A pass that starts at a magic. -/
lemma feedLoop_magic {l : FeedLoop} (fuel : Nat) (hm : Sdf1.magic <+: l.rest) :
    feedLoop crc32 (fuel + 1) l =
      if l.rest.length < Sdf1.headerSize then l
      else
        match (Header.unpack l.rest).fault with
        | some fault => feedLoop crc32 fuel (l.refuse fault)
        | none =>
          if l.rest.length < (Header.unpack l.rest).frameSize then l
          else
            let candidate := l.rest.take (Header.unpack l.rest).frameSize
            if !crcHolds crc32 candidate (Header.unpack l.rest).frameSize then
              feedLoop crc32 fuel l.refuseCrc
            else feedLoop crc32 fuel (l.consume (Header.unpack l.rest) candidate) := by
  rw [feedLoop, find_of_prefix hm]
  rfl

/-- The loop stops where the scanner waits. -/
lemma feedLoop_wait {l : FeedLoop} (fuel : Nat) (h : Waits l.rest) :
    feedLoop crc32 (fuel + 1) l = l := by
  cases h with
  | short hlen =>
    have : l.rest.length - (Sdf1.magic.length - 1) = 0 := by
      rw [Sdf1.length_magic]
      omega
    rw [feedLoop, find_magic_short hlen]
    simp only [this, FeedLoop.skip_zero]
  | header hm hlen => rw [feedLoop_magic crc32 fuel hm, if_pos hlen]
  | body hm hh hf hlen =>
    rw [feedLoop_magic crc32 fuel hm, if_neg (by omega), hf]
    exact if_pos hlen

/-- Where the scanner takes a segment, the loop does too. -/
lemma feedLoop_take {l : FeedLoop} {n : Nat} {e : Event} (fuel : Nat)
    (h : Takes crc32 l.rest n e) :
    feedLoop crc32 (fuel + 1) l =
        feedLoop crc32 (fuel + 1) (l.after [(l.rest.take n, e)] (l.rest.drop n)) ∨
      feedLoop crc32 (fuel + 1) l =
        feedLoop crc32 fuel (l.after [(l.rest.take n, e)] (l.rest.drop n)) := by
  have hpos : 0 < l.rest.length := h.pos.trans_le h.le_length
  obtain ⟨hgarbage, hfault, hbad⟩ := FeedLoop.after_one hpos
  cases h with
  | garbage hlen hm =>
    left
    rw [hgarbage]
    exact feedLoop_garbage crc32 fuel hlen hm
  | fault hm hlen hf =>
    right
    rw [hfault, feedLoop_magic crc32 fuel hm, if_neg (by omega), hf]
  | badCrc hsize hm hf hh hlen hcrc =>
    subst hsize
    right
    rw [hbad, feedLoop_magic crc32 fuel hm, if_neg (by omega), hf]
    simp only [hcrc, Bool.not_false, if_true]
    exact if_neg (by omega)
  | candidate hsize hm hf hh hlen hcrc =>
    subst hsize
    right
    have hge : Sdf1.headerSize ≤ (Header.unpack l.rest).frameSize :=
      (Nat.le_add_right _ _).trans (Header.frameSize_ge hf)
    rw [FeedLoop.after_candidate hge hlen, feedLoop_magic crc32 fuel hm, if_neg (by omega), hf]
    simp only [hcrc, Bool.not_true, Bool.false_eq_true, if_false]
    exact if_neg (by omega)

/-- With fuel past the bytes left, the loop computes the scan of these bytes. -/
theorem feedLoop_eq (l : FeedLoop) (fuel : Nat) (hfuel : l.rest.length < fuel) :
    feedLoop crc32 fuel l =
      l.after ((sdf1 crc32).scan l.rest).1 ((sdf1 crc32).scan l.rest).2 := by
  generalize hr : l.rest = rest at hfuel ⊢
  induction rest using (sdf1 crc32).scan_induction generalizing l fuel with
  | wait rest h =>
    subst hr
    obtain ⟨fuel, rfl⟩ : ∃ f, fuel = f + 1 := ⟨fuel - 1, by omega⟩
    rw [feedLoop_wait crc32 fuel (lookSdf1_wait_iff.mp h), Scanner.scan_wait _ h,
      FeedLoop.after_nil]
  | take rest n e h ih =>
    subst hr
    obtain ⟨fuel, rfl⟩ : ∃ f, fuel = f + 1 := ⟨fuel - 1, by omega⟩
    have ht := lookSdf1_take_iff.mp h
    have hdrop : (l.rest.drop n).length < fuel := by
      have := ht.pos
      have := ht.le_length
      rw [List.length_drop]
      omega
    have hgo : ∀ fuel', (l.rest.drop n).length < fuel' →
        feedLoop crc32 fuel' (l.after [(l.rest.take n, e)] (l.rest.drop n)) =
          l.after ((sdf1 crc32).scan l.rest).1 ((sdf1 crc32).scan l.rest).2 := by
      intro fuel' hfuel'
      rw [ih _ fuel' rfl hfuel', FeedLoop.after_append, Scanner.scan_take _ h]
      rfl
    rcases feedLoop_take crc32 fuel ht with hs | hs
    · rw [hs]
      exact hgo _ (by omega)
    · rw [hs]
      exact hgo _ hdrop

namespace StreamParser

/-- One call of `feed` scans the extended buffer. -/
lemma feed_eq (p : StreamParser) (data : Bytes) :
    p.feed crc32 data =
      let s := (sdf1 crc32).scan (p.buffer ++ data)
      ({ toDecoder := (p.toDecoder.events s.1).1, buffer := s.2 }, (p.toDecoder.events s.1).2) := by
  have hrun : p.feedRun crc32 data = _ := feedLoop_eq crc32 _ _ (Nat.lt_succ_self _)
  simp [feed, hrun, FeedLoop.after]

/-- A sequence of calls scans the chunks one by one. -/
lemma feedAll_eq (p : StreamParser) (chunks : List Bytes) :
    p.feedAll crc32 chunks =
      let s := (sdf1 crc32).scanChunks p.buffer chunks
      ({ toDecoder := (p.toDecoder.events s.1).1, buffer := s.2 }, (p.toDecoder.events s.1).2) := by
  induction chunks generalizing p with
  | nil => rfl
  | cons chunk chunks ih =>
    simp only [feedAll, Scanner.scanChunks, Decoder.events_append]
    rw [feed_eq, ih]

/-- Feeding a stream in chunks from a state that waits is feeding it in one call. -/
lemma feedAll_eq_of_waits {p : StreamParser} (h : Waits p.buffer) (chunks : List Bytes) :
    p.feedAll crc32 chunks = p.feed crc32 chunks.flatten := by
  rw [feedAll_eq, feed_eq, Scanner.scanChunks_eq _ (h.look crc32)]

/-- Every call of `feed` leaves a buffer at which the parser waits. -/
lemma waits_feed (p : StreamParser) (data : Bytes) : Waits (p.feed crc32 data).1.buffer := by
  rw [feed_eq]
  exact lookSdf1_wait_iff.mp ((sdf1 crc32).look_residue _)

end StreamParser

/-- Chunking invariance: a fresh parser ends in the same state and emits the same frames however
the stream is cut, empty chunks included. -/
theorem feedAll_eq_feed (decodeSensorPayload : Bool) (chunks : List Bytes) :
    StreamParser.feedAll crc32 { decodeSensorPayload := decodeSensorPayload } chunks =
      StreamParser.feed crc32 { decodeSensorPayload := decodeSensorPayload } chunks.flatten :=
  StreamParser.feedAll_eq_of_waits crc32 (.short (by simp)) chunks

end SensorHost.Protocol
