import SensorHost.Lib.Scanner
import SensorHost.Protocol.Frame

/-!
# The stream demultiplexer

Model of `StreamDemultiplexer`: `feed` splits the mixed stream of an OTA session into reply lines
and bytes for the SDF1 parser, and holds an incomplete frame or line until the next read.

One pass of its loop (`pass`) is a scanner (`mixed`), and the loop computes the scan of the residue
(`drain_eq`); what `feed` adds is the release of a residue that can never complete.

A pass tests in the order of the source: a frame of the protocol first, by its magic and the length
in its header, then a line. `pass_cases` lists what it may find, and `pass_append` says that a
decision is not revised when more bytes come, so the residue between two reads is only what no
decision was possible for.
-/

namespace SensorHost.Ota
open SensorHost.Lib SensorHost.Protocol

/-- `+OTA:`. -/
def otaPrefix : Bytes := [0x2B, 0x4F, 0x54, 0x41, 0x3A]

/-- `OK`. -/
def okLine : Bytes := [0x4F, 0x4B]

def newline : UInt8 := 0x0A

def defaultMaxLine : Nat := 128

/-- A held partial frame past this bound can never be valid. -/
def maxFrameHold : Nat := Sdf1.maxHeaderSize + Sdf1.maxPayloadSize + Sdf1.crcSize + 64

/-- The header's two size fields end here. -/
def headerLengthBytes : Nat := 12

/-- Some line is short enough by default. -/
lemma defaultMaxLine_pos : 0 < defaultMaxLine := by decide

/-- `StreamDemultiplexer`; the constructor refuses a bound that is not positive. -/
structure StreamDemultiplexer where
  pending : Bytes := []
  maxLine : Nat := defaultMaxLine
  maxLine_pos : 0 < maxLine := by first | exact defaultMaxLine_pos | decide

/-- Bytes that leave the residue: for the parser, or as a claimed reply line. -/
inductive Part where
  | parser (bytes : Bytes)
  | line (stripped : Bytes)
  deriving DecidableEq

/-- `ota_lines`. -/
def otaLines (parts : List Part) : List Bytes :=
  parts.filterMap fun
    | .parser _ => none
    | .line stripped => some stripped

/-- `b"".join(parser_parts)`. -/
def parserBytes (parts : List Part) : Bytes :=
  parts.flatMap fun
    | .parser bytes => bytes
    | .line _ => []

/-- `_starts_sdf1_frame`. -/
def startsSdf1Frame (pending : Bytes) : Bool := Sdf1.magic.isPrefixOf pending

/-- `_sdf1_frame_length`: `none` when incomplete, 0 when invalid. -/
def sdf1FrameLength (pending : Bytes) : Option Nat :=
  if pending.length < headerLengthBytes then none
  else
    let headerSize := leField pending 8 2
    let payloadSize := leField pending 10 2
    if headerSize < Sdf1.headerSize ∨ Sdf1.maxHeaderSize < headerSize then some 0
    else if Sdf1.maxPayloadSize < payloadSize then some 0
    else
      let frameSize := headerSize + payloadSize + Sdf1.crcSize
      if pending.length < frameSize then none else some frameSize

/-- One pass of the loop of `feed`: how many bytes leave the residue, and where they go. -/
def pass (pending : Bytes) : Option (Nat × Part) :=
  if startsSdf1Frame pending then
    match sdf1FrameLength pending with
    | none => none
    | some 0 => some (1, .parser (pending.take 1))
    | some frameLength => some (frameLength, .parser (pending.take frameLength))
  else
    match pending.findIdx? (· == newline) with
    | none => none
    | some eol =>
      let line := pending.take eol
      let stripped := stripBytes line
      if otaPrefix.isPrefixOf stripped || stripped == okLine then some (eol + 1, .line stripped)
      else some (eol + 1, .parser (line ++ [newline]))

/-- The loop of `feed`: the parts in order and the residue. Every pass removes bytes, so fuel past
the length of the residue is never used up. -/
def drain : Nat → Bytes → List Part × Bytes
  | 0, pending => ([], pending)
  | fuel + 1, pending =>
    match pass pending with
    | none => ([], pending)
    | some (n, part) =>
      let later := drain fuel (pending.drop n)
      (part :: later.1, later.2)

/-- `_is_frame_prefix`. -/
def isFramePrefix (pending : Bytes) : Bool :=
  startsSdf1Frame pending ||
    (decide (pending.length < Sdf1.magic.length) && pending.isPrefixOf Sdf1.magic)

namespace StreamDemultiplexer

/-- `_release_held_residue` takes the whole residue. -/
def releases (d : StreamDemultiplexer) : Bool :=
  if isFramePrefix d.pending then maxFrameHold < d.pending.length
  else d.maxLine < d.pending.length

/-- `feed`. -/
def feed (d : StreamDemultiplexer) (chunk : Bytes) : StreamDemultiplexer × List Bytes × Bytes :=
  let (parts, residue) := drain ((d.pending ++ chunk).length + 1) (d.pending ++ chunk)
  let d := { d with pending := residue }
  if d.releases then ({ d with pending := [] }, otaLines parts, parserBytes parts ++ residue)
  else (d, otaLines parts, parserBytes parts)

/-- `reset`. -/
def reset (d : StreamDemultiplexer) : StreamDemultiplexer := { d with pending := [] }

/-- `flush`. -/
def flush (d : StreamDemultiplexer) : StreamDemultiplexer × Bytes := (d.reset, d.pending)

/-- Feed a sequence of chunks; the lines and the parser bytes of all calls, in order. -/
def feedAll (d : StreamDemultiplexer) :
    List Bytes → StreamDemultiplexer × List Bytes × Bytes
  | [] => (d, [], [])
  | chunk :: chunks =>
    let now := d.feed chunk
    let later := now.1.feedAll chunks
    (later.1, now.2.1 ++ later.2.1, now.2.2 ++ later.2.2)

end StreamDemultiplexer

/-- A frame starts where the magic stands. -/
lemma startsSdf1Frame_iff {pending : Bytes} :
    startsSdf1Frame pending = true ↔ Sdf1.magic <+: pending := by
  rw [startsSdf1Frame, List.isPrefixOf_iff_prefix]

/-- A frame length other than 0 is that of a valid header with all its bytes there. -/
lemma sdf1FrameLength_le {pending : Bytes} {n : Nat} (h : sdf1FrameLength pending = some n) :
    n ≤ pending.length := by
  unfold sdf1FrameLength at h
  split at h
  · cases h
  · dsimp only at h
    split at h
    · cases h; exact Nat.zero_le _
    · split at h
      · cases h; exact Nat.zero_le _
      · split at h
        · cases h
        · cases h; omega

/-- A length that is known is not changed by what comes later. -/
lemma sdf1FrameLength_append {pending : Bytes} {n : Nat} (h : sdf1FrameLength pending = some n)
    (later : Bytes) : sdf1FrameLength (pending ++ later) = some n := by
  have hle : pending.length ≤ (pending ++ later).length := by simp
  unfold sdf1FrameLength at h ⊢
  split at h
  · cases h
  · rename_i hlen
    rw [if_neg (by omega)]
    simp only [headerLengthBytes] at hlen
    rw [leField_append (by omega), leField_append (by omega)]
    dsimp only at h ⊢
    split at h
    · rename_i hh; rw [if_pos hh]; exact h
    · rename_i hh
      rw [if_neg hh]
      split at h
      · rename_i hp; rw [if_pos hp]; exact h
      · rename_i hp
        rw [if_neg hp]
        split at h
        · cases h
        · rw [if_neg (by omega)]; exact h

/-- What a pass does, by cases. -/
lemma pass_cases {pending : Bytes} {n : Nat} {part : Part} (h : pass pending = some (n, part)) :
    (Sdf1.magic <+: pending ∧ sdf1FrameLength pending = some 0 ∧ n = 1 ∧
      part = .parser (pending.take 1)) ∨
    (Sdf1.magic <+: pending ∧ sdf1FrameLength pending = some n ∧ 0 < n ∧
      part = .parser (pending.take n)) ∨
    (¬ Sdf1.magic <+: pending ∧ ∃ i, pending.findIdx? (· == newline) = some i ∧ n = i + 1 ∧
      part = if otaPrefix.isPrefixOf (stripBytes (pending.take i)) ||
          stripBytes (pending.take i) == okLine then .line (stripBytes (pending.take i))
        else .parser (pending.take i ++ [newline])) := by
  unfold pass at h
  split at h
  · rename_i hm
    have hm := startsSdf1Frame_iff.mp hm
    split at h
    · cases h
    · cases h
      exact .inl ⟨hm, ‹_›, rfl, rfl⟩
    · rename_i k hne hk
      cases h
      exact .inr (.inl ⟨hm, hk, Nat.pos_of_ne_zero hne, rfl⟩)
  · rename_i hm
    have hm : ¬ Sdf1.magic <+: pending := fun hp => hm (startsSdf1Frame_iff.mpr hp)
    split at h
    · cases h
    · rename_i i hi
      refine .inr (.inr ⟨hm, i, hi, ?_⟩)
      dsimp only at h
      split at h
      · rename_i hc
        cases h
        exact ⟨rfl, by rw [if_pos hc]⟩
      · rename_i hc
        cases h
        exact ⟨rfl, by rw [if_neg hc]⟩

/-- What is passed is not empty. -/
lemma pass_pos {pending : Bytes} {n : Nat} {part : Part} (h : pass pending = some (n, part)) :
    0 < n := by
  obtain ⟨-, -, rfl, -⟩ | ⟨-, -, hn, -⟩ | ⟨-, i, -, rfl, -⟩ := pass_cases h
  · exact Nat.one_pos
  · exact hn
  · exact Nat.succ_pos i

/-- What is passed is there. -/
lemma pass_le_length {pending : Bytes} {n : Nat} {part : Part}
    (h : pass pending = some (n, part)) : n ≤ pending.length := by
  obtain ⟨hm, -, rfl, -⟩ | ⟨-, hn, -, -⟩ | ⟨-, i, hi, rfl, -⟩ := pass_cases h
  · have := hm.length_le
    rw [Sdf1.length_magic] at this
    omega
  · exact sdf1FrameLength_le hn
  · obtain ⟨hlt, -, -⟩ := List.findIdx?_eq_some_iff_getElem.mp hi
    exact hlt

/-- Later bytes do not make a magic of a residue that holds a newline. -/
lemma not_magic_append {pending : Bytes} {i : Nat} (hm : ¬ Sdf1.magic <+: pending)
    (hi : pending.findIdx? (· == newline) = some i) (later : Bytes) :
    ¬ Sdf1.magic <+: pending ++ later := by
  intro hp
  obtain ⟨hlt, heq, -⟩ := List.findIdx?_eq_some_iff_getElem.mp hi
  by_cases hlen : Sdf1.magic.length ≤ pending.length
  · exact hm (List.prefix_of_prefix_length_le hp (List.prefix_append ..) hlen)
  · have hpre : pending <+: Sdf1.magic :=
      List.prefix_of_prefix_length_le (List.prefix_append ..) hp (by omega)
    have hmem : newline ∈ Sdf1.magic := by
      rw [← beq_iff_eq.mp heq]
      exact hpre.subset (List.getElem_mem hlt)
    exact absurd hmem (by decide)

/-- What is passed is not changed by what comes later. -/
lemma pass_append {pending : Bytes} {n : Nat} {part : Part} (h : pass pending = some (n, part))
    (later : Bytes) : pass (pending ++ later) = some (n, part) := by
  have hle := pass_le_length h
  obtain ⟨hm, hlen, rfl, rfl⟩ | ⟨hm, hlen, hn, rfl⟩ | ⟨hm, i, hi, rfl, rfl⟩ := pass_cases h
  · have hm' := startsSdf1Frame_iff.mpr (hm.trans (List.prefix_append pending later))
    simp only [pass, hm', sdf1FrameLength_append hlen, if_true,
      List.take_append_of_le_length hle]
  · have hm' := startsSdf1Frame_iff.mpr (hm.trans (List.prefix_append pending later))
    obtain ⟨k, rfl⟩ : ∃ k, n = k + 1 := ⟨n - 1, by omega⟩
    simp only [pass, hm', sdf1FrameLength_append hlen, if_true,
      List.take_append_of_le_length hle]
  · have hm' : startsSdf1Frame (pending ++ later) = false := by
      rw [Bool.eq_false_iff]
      intro hs
      exact not_magic_append hm hi later (startsSdf1Frame_iff.mp hs)
    have hi' : (pending ++ later).findIdx? (· == newline) = some i := by
      rw [List.findIdx?_append, hi, Option.some_or]
    have htake : (pending ++ later).take i = pending.take i :=
      List.take_append_of_le_length (by omega)
    simp only [pass, hm', hi', htake, Bool.false_eq_true, if_false]
    split <;> rfl

/-- The loop of `feed`, one pass at a time. -/
def mixed : Scanner UInt8 Part where
  look pending :=
    match pass pending with
    | none => .wait
    | some (n, part) => .take n part
  pos {xs n b} h := by
    cases hp : pass xs with
    | none => simp [hp] at h
    | some r =>
      simp only [hp, Verdict.take.injEq] at h
      obtain ⟨rfl, rfl⟩ := h
      exact pass_pos hp
  le_length {xs n b} h := by
    cases hp : pass xs with
    | none => simp [hp] at h
    | some r =>
      simp only [hp, Verdict.take.injEq] at h
      obtain ⟨rfl, rfl⟩ := h
      exact pass_le_length hp
  stable {xs n b} ys h := by
    cases hp : pass xs with
    | none => simp [hp] at h
    | some r =>
      simp only [hp, Verdict.take.injEq] at h
      obtain ⟨rfl, rfl⟩ := h
      simp only [pass_append hp ys]

/-- Nothing is passed of what the scanner waits for. -/
lemma mixed_wait {pending : Bytes} (h : mixed.look pending = .wait) : pass pending = none := by
  cases hp : pass pending with
  | none => rfl
  | some r => simp [mixed, hp] at h

/-- The scanner takes what is passed. -/
lemma mixed_take {pending : Bytes} {n : Nat} {part : Part} :
    mixed.look pending = .take n part ↔ pass pending = some (n, part) := by
  cases hp : pass pending with
  | none => simp [mixed, hp]
  | some r => simp [mixed, hp, Prod.ext_iff]

/-- With fuel past the residue, the loop computes the scan of the residue. -/
lemma drain_eq (fuel : Nat) (pending : Bytes) (hfuel : pending.length < fuel) :
    drain fuel pending = ((mixed.scan pending).1.map Prod.snd, (mixed.scan pending).2) := by
  induction pending using mixed.scan_induction generalizing fuel with
  | wait pending h =>
    obtain ⟨fuel, rfl⟩ : ∃ f, fuel = f + 1 := ⟨fuel - 1, by omega⟩
    rw [mixed.scan_wait h, drain, mixed_wait h]
    rfl
  | take pending n part h ih =>
    obtain ⟨fuel, rfl⟩ : ∃ f, fuel = f + 1 := ⟨fuel - 1, by omega⟩
    have hpos := mixed.pos h
    have hle := mixed.le_length h
    rw [mixed.scan_take h, drain, mixed_take.mp h]
    simp only [List.map_cons]
    rw [ih fuel (by rw [List.length_drop]; omega)]

end SensorHost.Ota
