import SensorHost.Ota.Channel

/-!
# A lossless link with late replies

A link that loses nothing and keeps order: the device answers every frame at once, in order and
exactly once, but for each frame the first `late` reads of the uploader time out. It is deterministic
(`LosslessLink.handle`), and each of its runs is a run of the link with faults (`run_lossless`).

The state has the replies that were not read yet and the number of reads that have timed out for the
last burst. It is the link on which the theorem about late replies is stated, and the one on which
examples are computed, as `LosslessLink.handle` is a function.
-/

namespace SensorHost.Ota
open SensorHost.Lib

/-- The device, the replies not yet read, and how often the read for the last burst timed out. -/
structure LosslessLink where
  device : OtaDevice := {}
  toHost : List Bytes := []
  last : Bytes := []
  timeouts : Nat := 0

namespace LosslessLink

/-- The reads that time out for the last burst. The handshake command is no frame: it is answered
on time. -/
def lateness (late : Bytes → Nat) (s : LosslessLink) : Nat :=
  if s.last = beginCommand then 0 else late s.last

variable (crc32 : Bytes → UInt32) (limits : DeviceLimits) (late : Bytes → Nat)

/-- How the link answers the uploader. A frame that is sent again is still the same frame. -/
def handle : (o : UploadOp) → LosslessLink → UploadRes o × LosslessLink
  | .send data, s =>
    (true,
      { device := (s.device.writeRaw crc32 limits data).1
        toHost := s.toHost ++ (s.device.writeRaw crc32 limits data).2
        last := data
        timeouts := if data = s.last then s.timeouts else 0 })
  | .readline _, s =>
    if s.timeouts < s.lateness late then (none, { s with timeouts := s.timeouts + 1 })
    else
      match s.toHost with
      | [] => (none, s)
      | l :: ls => (some l, { s with toHost := ls })
  | .cancelRequested, s => (false, s)
  | .notify .., s => ((), s)

/-- The link without its clock. -/
def link (s : LosslessLink) : Link := { device := s.device, toHost := s.toHost }

/-- Every run of the lossless link is a run of the link with faults. -/
theorem run_lossless {α : Type} (p : Upload α) (s : LosslessLink) :
    Run (otaWorld crc32 limits) p.run s.link (Fallible.interp (handle crc32 limits late) p s).1
      (Fallible.interp (handle crc32 limits late) p s).2.link := by
  refine run_interp link (fun o s => ?_) p.run s
  cases o with
  | send data =>
    refine ⟨{ s.link with toDevice := s.link.toDevice ++ [data] }, .inl rfl, .single ?_⟩
    exact LinkStep.deliver (d := data) rfl
  | readline timeout =>
    simp only [handle]
    split
    · exact ⟨s.link, .inl ⟨rfl, rfl⟩, .refl⟩
    · cases hq : s.toHost with
      | nil => exact ⟨s.link, .inl ⟨rfl, rfl⟩, .refl⟩
      | cons l ls => exact ⟨_, .inr ⟨l, ls, hq, rfl, rfl⟩, .refl⟩
  | cancelRequested => exact ⟨s.link, rfl, .refl⟩
  | notify sent total phase => exact ⟨s.link, rfl, .refl⟩

end LosslessLink

end SensorHost.Ota
