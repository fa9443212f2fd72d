import SensorHost.Protocol.Walker

/-!
# FIFO words on demand

Model of `decode_iis_words`, which decodes a payload word by word. The vectorised decoder, which reads
the whole buffer through one layout, sees the same accelerations and the same timestamp tags
(`decoders_agree`).

Both readers are brought to the seven bytes at an offset: the first slices the payload, the second
indexes it (`decodeIisWord_same`). From there the lists are compared word by word, and filtered
alike by their tags (`filter_same`).
-/

namespace SensorHost.Protocol
open SensorHost.Lib

/-- `IisFifoWord`. -/
structure IisFifoWord where
  rawTag : Nat
  sensorTag : Nat
  tagCounter : Nat
  tagParity : Nat
  accelerationRaw : Option (Vec3 Int) := none
  temperatureRaw : Option Int := none
  timestampTicks : Option Nat := none
  rawData : Bytes := []
  deriving DecidableEq

/-- One pass of the loop of `decode_iis_words`. -/
def decodeIisWord (payload : Bytes) (offset : Nat) : IisFifoWord :=
  let rawTag := leField payload offset 1
  let data := (payload.drop (offset + 1)).take (iisWordSize - 1)
  let sensorTag := rawTag >>> 3
  { rawTag := rawTag
    sensorTag := sensorTag
    tagCounter := (rawTag >>> 1) &&& 0x03
    tagParity := rawTag &&& 0x01
    accelerationRaw :=
      if sensorTag = 2 then some (leInt16 data 0, leInt16 data 2, leInt16 data 4) else none
    temperatureRaw := if sensorTag = 3 then some (leInt16 data 0) else none
    timestampTicks := if sensorTag = 4 then some (leField data 0 4) else none
    rawData := data }

/-- `decode_iis_words`; `none` is its `ValueError`. -/
def decodeIisWords (payload : Bytes) : Option (List IisFifoWord) :=
  if payload.length % iisWordSize ≠ 0 then none
  else some ((List.range (payload.length / iisWordSize)).map fun i =>
    decodeIisWord payload (i * iisWordSize))

/-- The tag values that `process_payload` extends. -/
def tagValues (payload : Bytes) : List Nat :=
  let words := iisWords payload
  (flatnonzero (· == 4) (words.map fun w => w.tag >>> 3)).map fun i => (words.getD i default).ts

/-- A field behind some bytes is read where it stands. -/
lemma leField_drop (bs : Bytes) (n offset width : Nat) :
    leField (bs.drop n) offset width = leField bs (n + offset) width := by
  rw [leField, List.drop_drop, leField]

/-- The seven bytes at an offset, in both views. -/
structure SameWord (w : IisFifoWord) (v : IisWord) : Prop where
  sensorTag : w.sensorTag = v.tag >>> 3
  acceleration : w.sensorTag = 2 → w.accelerationRaw = some v.xyz
  timestamp : w.sensorTag = 4 → w.timestampTicks = some v.ts

/-- A word is read the same at its offset and cut out. -/
lemma decodeIisWord_same (payload : Bytes) (offset : Nat) :
    SameWord (decodeIisWord payload offset)
      (IisWord.ofBytes ((payload.drop offset).take iisWordSize)) := by
  have hdata : (payload.drop (offset + 1)).take (iisWordSize - 1) =
      ((payload.drop offset).take iisWordSize).drop 1 := by
    rw [List.drop_take, List.drop_drop]
  have htag : leField payload offset 1 = leField ((payload.drop offset).take iisWordSize) 0 1 := by
    unfold leField
    rw [List.drop_zero, List.take_take]
    rfl
  have hint : ∀ (bs : Bytes) (i : Nat), leInt16 (bs.drop 1) i = leInt16 bs (1 + i) := by
    intro bs i
    unfold leInt16
    rw [leField_drop]
  unfold decodeIisWord IisWord.ofBytes
  dsimp only
  rw [hdata, htag]
  refine ⟨rfl, fun h => ?_, fun h => ?_⟩
  · dsimp only at h
    rw [if_pos h, hint, hint, hint]
  · dsimp only at h
    rw [if_pos h, leField_drop]

/-- So are all the words of a payload. -/
lemma decodeIisWords_same {payload : Bytes} (aligned : payload.length % iisWordSize = 0) :
    ∃ words, decodeIisWords payload = some words ∧
      List.Forall₂ SameWord words (iisWords payload) := by
  refine ⟨_, if_neg (not_not.mpr aligned), ?_⟩
  unfold iisWords
  induction List.range (payload.length / iisWordSize) with
  | nil => exact .nil
  | cons i is ih => exact .cons (decodeIisWord_same payload _) ih

/-- The words of one tag, through a field that these words have. -/
lemma filter_same {α : Type} {field : IisFifoWord → Option α} {view : IisWord → α} {tag : Nat}
    (hfield : ∀ w v, SameWord w v → w.sensorTag = tag → field w = some (view v))
    {words : List IisFifoWord} {views : List IisWord} (h : List.Forall₂ SameWord words views) :
    (words.filter fun w => w.sensorTag == tag).map field =
      ((views.filter fun v => v.tag >>> 3 == tag).map view).map some := by
  induction h with
  | nil => rfl
  | @cons w v words views hsame _ ih =>
    rw [List.filter_cons, List.filter_cons, ← hsame.sensorTag]
    cases htag : w.sensorTag == tag with
    | false => exact ih
    | true =>
      rw [if_pos rfl, if_pos rfl, List.map_cons, List.map_cons, List.map_cons, ih,
        hfield w v hsame (beq_iff_eq.mp htag)]

/-- The decoders agree. The accelerations that `decode_iis_words` reports are the rows of `iis_raw`, and
the ticks it reports are the tag values that the vectorised decoder extends, which it does when there
is an acceleration. -/
theorem decoders_agree (r : IisTimestampReconstructor) (payload : Bytes) (frameTimestampUs : Nat)
    (aligned : payload.length % iisWordSize = 0) :
    ∃ words, decodeIisWords payload = some words ∧
      let (r', _, _, iisRaw) := r.processPayload payload frameTimestampUs
      (words.filter fun w => w.sensorTag == 2).map IisFifoWord.accelerationRaw = iisRaw.map some ∧
        (words.filter fun w => w.sensorTag == 4).map IisFifoWord.timestampTicks =
          (tagValues payload).map some ∧
        ((words.filter fun w => w.sensorTag == 2) ≠ [] →
          r' = { (r.extendTicks (tagValues payload)).1 with carryUs := r'.carryUs }) := by
  obtain ⟨words, hwords, hsame⟩ := decodeIisWords_same aligned
  refine ⟨words, hwords, ?_⟩
  have hvalues : tagValues payload = tagTicks (iisWords payload) := by
    unfold tagValues tagTicks
    dsimp only
    rw [flatnonzero_map]
    exact map_flatnonzero _ _ _ _
  have hraw : (words.filter fun w => w.sensorTag == 2).map IisFifoWord.accelerationRaw =
      (((iisWords payload).filter IisWord.isAcceleration).map IisWord.xyz).map some :=
    filter_same (fun w v h ht => h.acceleration ht) hsame
  have hticks : (words.filter fun w => w.sensorTag == 4).map IisFifoWord.timestampTicks =
      (tagTicks (iisWords payload)).map some :=
    filter_same (fun w v h ht => h.timestamp ht) hsame
  rw [hvalues, hraw, hticks]
  by_cases hnone : (iisWords payload).countP IisWord.isAcceleration = 0
  · rw [r.processPayload_none frameTimestampUs hnone]
    have hnil : (iisWords payload).filter IisWord.isAcceleration = [] := by
      rw [← List.length_eq_zero_iff, ← List.countP_eq_length_filter]
      exact hnone
    rw [hnil] at hraw ⊢
    exact ⟨rfl, rfl, fun h => absurd (List.map_eq_nil_iff.mp hraw) h⟩
  · obtain ⟨_, _, times, -, hpayload, -⟩ := r.processPayload_places frameTimestampUs hnone
    rw [hpayload]
    exact ⟨rfl, rfl, fun _ => rfl⟩

/-- A timestamp tag and an acceleration. -/
theorem decoders_agree_pair :
    ∃ words, decodeIisWords [0x20, 0xF0, 0xFF, 0xFF, 0xFF, 0, 0, 0x10, 1, 0, 0xFE, 0xFF, 3, 0] =
        some words ∧
      (words.filter fun w => w.sensorTag == 2).map IisFifoWord.accelerationRaw =
        [some (1, -2, 3)] := by
  obtain ⟨words, hwords, hraw, -⟩ := decoders_agree {}
    [0x20, 0xF0, 0xFF, 0xFF, 0xFF, 0, 0, 0x10, 1, 0, 0xFE, 0xFF, 3, 0] 2000800 (by decide)
  have hrows : (({} : IisTimestampReconstructor).processPayload
      [0x20, 0xF0, 0xFF, 0xFF, 0xFF, 0, 0, 0x10, 1, 0, 0xFE, 0xFF, 3, 0] 2000800).2.2.2 =
        [(1, -2, 3)] := by
    decide +kernel
  exact ⟨words, hwords, hraw.trans (congrArg (List.map some) hrows)⟩

end SensorHost.Protocol
