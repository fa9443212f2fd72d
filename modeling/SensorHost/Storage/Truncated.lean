import SensorHost.Lib.Crc32
import SensorHost.Storage.Indexing

/-!
# A truncated file

A file of valid frames whose last frame was cut off. The scan looks at the payload of an IIS frame
only, so a frame of any other kind is indexed as soon as its header is there (`index_truncated_iff`).

`read_cut` compares what the scan reads at the cut frame with what it reads at the whole one: they
differ only if the cut lies in what is looked at (`SeesCut`). The frames before the cut are indexed
as in a whole file, so the theorem has no condition on them.
-/

namespace SensorHost.Storage
open SensorHost.Lib SensorHost.Protocol

variable (R : Rounding) {crc32 : Bytes → UInt32}

/-- Cut off behind `n` bytes, the scan sees that the frame is not whole: its header is not, or it is
an IIS frame and its payload is not. -/
def SeesCut (f : ValidFrame crc32) (n : Nat) : Prop :=
  n < Sdf1.headerSize ∨ f.header.messageType = 1 ∧ 0 < f.header.payloadSize ∧
    n < f.header.headerSize + f.header.payloadSize

/-- What the loop reads at a frame of which the header at least is there. -/
lemma read_cut {content pre : Bytes} {f : ValidFrame crc32} {n : Nat}
    (hcontent : content = pre ++ f.bytes.take n) (hn : Sdf1.headerSize ≤ n)
    (cut : n < f.bytes.length) :
    let header := (content.drop pre.length).take Sdf1.dataHeaderSize
    Sdf1.headerSize ≤ header.length ∧ header.take 4 = Sdf1.magic ∧ Header.unpack header = f.header ∧
      ((content.drop (pre.length + f.header.headerSize)).take f.header.payloadSize).length =
        min f.header.payloadSize (n - f.header.headerSize) := by
  intro header
  obtain ⟨-, hmagic, -, -, -⟩ := f.header_checked
  have hlength : (f.bytes.take n).length = n := List.length_take_of_le cut.le
  have hrest : content.drop pre.length = f.bytes.take n := by
    rw [hcontent]
    exact List.drop_left
  have hheader : header = f.bytes.take (min Sdf1.dataHeaderSize n) := by
    rw [← List.take_take, ← hrest]
  have hmin : Sdf1.headerSize ≤ min Sdf1.dataHeaderSize n := le_min (by decide) hn
  refine ⟨?_, ?_, ?_, ?_⟩
  · rw [hheader, List.length_take]
    exact le_min hmin (hn.trans cut.le)
  · rw [hheader, List.take_take, min_eq_left ((show 4 ≤ Sdf1.headerSize by decide).trans hmin)]
    exact hmagic
  · rw [hheader, Header.unpack_take hmin (hn.trans cut.le)]
    rfl
  · rw [← List.drop_drop, hrest, List.length_take, List.length_drop, hlength]

/-- The last pass of the loop, on a frame that is cut off. -/
lemma indexLoop_cut {content pre : Bytes} {f : ValidFrame crc32} {n : Nat}
    (hcontent : content = pre ++ f.bytes.take n) (cut : n < f.bytes.length) (fuel : Nat)
    (s : IndexScan) :
    (SeesCut f n ∧ indexLoop R content (fuel + 1) pre.length s = s) ∨
      (¬ SeesCut f n ∧
        (indexLoop R content (fuel + 1) pre.length s).offsets = s.offsets ++ [pre.length]) := by
  unfold SeesCut
  by_cases hn : n < Sdf1.headerSize
  · refine .inl ⟨.inl hn, ?_⟩
    have hheader : (content.drop pre.length).take Sdf1.dataHeaderSize = f.bytes.take n := by
      rw [hcontent, List.drop_left, List.take_take,
        min_eq_right (hn.le.trans (show Sdf1.headerSize ≤ Sdf1.dataHeaderSize by decide))]
    have hlength : (f.bytes.take n).length = n := List.length_take_of_le cut.le
    rw [indexLoop]
    dsimp only
    rw [hheader]
    split
    · rfl
    · rw [if_pos (.inl (show (f.bytes.take n).length < _ by rw [hlength]; exact hn))]
  · obtain ⟨hlong, hmagic, hunpack, hpayload⟩ := read_cut hcontent (not_lt.mp hn) cut
    obtain ⟨hlength, -, hversion, hheader, hsize⟩ := f.header_checked
    have hne : (content.drop pre.length).take Sdf1.dataHeaderSize ≠ [] := by
      intro hnil
      rw [hnil] at hlong
      exact absurd hlong (by decide)
    have hend : content.length ≤ pre.length + f.header.frameSize := by
      rw [hcontent, List.length_append, List.length_take, ← hlength]
      omega
    rw [indexLoop]
    dsimp only
    rw [if_neg hne, if_neg (not_or.mpr ⟨not_lt.mpr hlong, not_not.mpr hmagic⟩), hunpack,
      if_neg (fun h => not_lt.mpr hlong h.2), if_neg (fun h => hversion.elim h.1 h.2),
      if_neg (not_or.mpr ⟨not_not.mpr hheader, not_lt.mpr hsize⟩)]
    by_cases hiis : f.header.messageType = 1
    · rw [if_pos hiis, hpayload]
      by_cases hmissing : min f.header.payloadSize (n - f.header.headerSize) ≠ f.header.payloadSize
      · rw [if_pos hmissing]
        exact .inl ⟨.inr ⟨hiis, by omega, by omega⟩, rfl⟩
      · rw [if_neg hmissing, indexLoop_end R hend]
        refine .inr ⟨?_, rfl⟩
        rintro (h | ⟨-, hpos, hlt⟩)
        · exact hn h
        · omega
    · rw [if_neg hiis, indexLoop_end R hend]
      refine .inr ⟨?_, rfl⟩
      rintro (h | h)
      · exact hn h
      · exact hiis h.1

/-- The index of valid frames and a part of one more is the index of the frames alone, if and only if
the scan sees that the last one is cut off. -/
theorem index_truncated_iff (R : Rounding) (frames : List (ValidFrame crc32)) (f : ValidFrame crc32)
    {n : Nat} (cut : n < f.bytes.length) :
    buildPlaybackIndex R (bytesOf frames ++ f.bytes.take n) =
        buildPlaybackIndex R (bytesOf frames) ↔
      n < Sdf1.headerSize ∨ f.header.messageType = 1 ∧ 0 < f.header.payloadSize ∧
        n < f.header.headerSize + f.header.payloadSize := by
  have hplain : indexLoop R (bytesOf frames) ((bytesOf frames).length + 1) ([] : Bytes).length {} =
      IndexScan.noteAll R ([] : Bytes).length {} (({} : Decoder).frames frames).2 :=
    indexLoop_frames R frames (List.nil_append _).symm rfl
      (Nat.lt_succ_of_le (length_le_bytesOf frames)) {}
  obtain ⟨fuel, hfuel⟩ : ∃ fuel, (bytesOf frames ++ f.bytes.take n).length + 1 =
      frames.length + (fuel + 1) := by
    have hle := length_le_bytesOf frames
    refine ⟨(bytesOf frames ++ f.bytes.take n).length - frames.length, ?_⟩
    rw [List.length_append]
    omega
  have hpre : bytesOf frames ++ f.bytes.take n = [] ++ (bytesOf frames ++ f.bytes.take n) := rfl
  have hcut := indexLoop_through R frames hpre (d := {}) rfl (fuel + 1) {}
  rw [buildPlaybackIndex_eq, buildPlaybackIndex_eq, hplain, hfuel, hcut]
  generalize IndexScan.noteAll R ([] : Bytes).length {} (({} : Decoder).frames frames).2 = s
  have hcontent : bytesOf frames ++ f.bytes.take n =
      ([] ++ bytesOf frames) ++ f.bytes.take n := rfl
  obtain ⟨hsees, hsame⟩ | ⟨hblind, hmore⟩ := indexLoop_cut R hcontent cut fuel s
  · rw [hsame]
    exact ⟨fun _ => hsees, fun _ => rfl⟩
  · refine ⟨fun heq => ?_, fun h => absurd h hblind⟩
    have hoffsets : (indexLoop R (bytesOf frames ++ f.bytes.take n) (fuel + 1)
        ([] ++ bytesOf frames).length s).offsets = s.offsets := congrArg PlaybackIndex.offsets heq
    rw [hmore, List.append_right_eq_self] at hoffsets
    cases hoffsets

/-- An orientation frame that is cut off is indexed. -/
theorem index_truncated_jy :
    buildPlaybackIndex .exact
        ((ValidFrame.jy zlibCrc32 0 1 (by decide) (by decide)).bytes.take 33) ≠
      buildPlaybackIndex .exact [] := by
  decide +kernel

/-- Behind an orientation frame, an IIS frame that is cut off in its payload is not. -/
theorem index_truncated_iis :
    let frames := [ValidFrame.jy zlibCrc32 0 1 (by decide) (by decide)]
    buildPlaybackIndex .exact (bytesOf frames ++ (iisFrame 1000 (by decide)).bytes.take 33) =
      buildPlaybackIndex .exact (bytesOf frames) :=
  (index_truncated_iff .exact _ (iisFrame 1000 (by decide)) (by decide)).mpr
    (.inr (by decide +kernel))

end SensorHost.Storage
