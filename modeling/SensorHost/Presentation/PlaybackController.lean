import SensorHost.Acquisition.Store
import SensorHost.Storage.ArchiveLibrary

/-!
# The playback controller

Model of `PlaybackController`: it decodes an archive file in blocks ahead of the playhead and
applies the decoded frames to its store when the playhead has come to them. Floats are rationals
that are rounded after every operation; the signals to the views are left out.

Three fields are ghosts: `restartOffset` and `restartStore`, where and over what the decoder last
restarted, and `applied`, the frames applied since.

The file is an `ArchiveStream`, its bytes and a position, and a block is what `read` gives from
there. The loop of `_fill_until` has fuel: it is given a pass for each byte that is not yet read and
two more, and `Presentation.Playback` shows that it ends in them. Without a file a seek does nothing
and a tick pauses, as in the source.
-/

namespace SensorHost.Presentation
open SensorHost.Lib SensorHost.Protocol SensorHost.Acquisition SensorHost.Storage

def readChunkBytes : Nat := 262144
def allowedSpeeds : List ℚ := [1 / 2, 1, 2, 4]
def endEpsilonS (R : Rounding) : ℚ := R.round (1 / 1000000)

/-- An open file and its position. -/
structure ArchiveStream where
  content : Bytes
  position : Nat := 0
  deriving DecidableEq

/-- The bytes behind the position. -/
def ArchiveStream.rest (s : ArchiveStream) : Bytes := s.content.drop s.position

/-- `read(max_bytes)`. -/
def ArchiveStream.read (s : ArchiveStream) (maxBytes : Nat) : ArchiveStream × Bytes :=
  let chunk := s.rest.take maxBytes
  ({ s with position := s.position + chunk.length }, chunk)

/-- `PlaybackController`. -/
structure PlaybackController where
  parser : StreamParser := {}
  store : RealtimeSampleStore := {}
  stream : Option ArchiveStream := none
  index : Option PlaybackIndex := none
  pendingFrames : List Frame := []
  playing : Bool := false
  eof : Bool := false
  playheadS : ℚ := 0
  speed : ℚ := 1
  lastTickS : ℚ := 0
  restartOffset : Nat := 0
  restartStore : RealtimeSampleStore := {}
  applied : List Frame := []

/-- `_window_seconds`; `none` is a provider that fails. -/
def windowSeconds : Option ℚ → ℚ
  | some windowS => if 0 < windowS then windowS else 10
  | none => 10

/-- `_cutoff_us` with an index. -/
def cutoffUs (R : Rounding) (index : PlaybackIndex) (timeS : ℚ) : ℚ :=
  R.round (index.firstTimestampUs + R.round (timeS * 1000000))

/-- What `_apply_frame` does to the store. -/
def applyFrame (store : RealtimeSampleStore) (frame : Frame) : RealtimeSampleStore :=
  match frame.messageType with
  | .iis3dwbFifo =>
    -- without decoded arrays there are no samples to append either
    match frame.iisTsUs, frame.iisAccelG with
    | some times, some accel => store.appendIisArrays times accel
    | _, _ => store
  | .jy61plSample =>
    match frame.jy61pl with
    | some sample => store.updateJy sample
    | none => store
  | _ => store

namespace PlaybackController

variable (R : Rounding) (crc32 : Bytes → UInt32) (c : PlaybackController)

/-- `duration_s`. -/
def durationS : ℚ :=
  match c.index with
  | none => 0
  | some index => index.durationS R

/-- `_cutoff_us`. -/
def cutoff (timeS : ℚ) : ℚ :=
  match c.index with
  | none => R.round (0 + R.round (timeS * 1000000))
  | some index => cutoffUs R index timeS

/-- The inner loop of `_fill_until`, over the pending frames. -/
def release (cutoffUs : ℚ) : List Frame → PlaybackController → PlaybackController
  | [], c => { c with pendingFrames := [] }
  | frame :: frames, c =>
    if (frame.timestampUs : ℚ) ≤ cutoffUs then
      release cutoffUs frames
        { c with store := applyFrame c.store frame, applied := c.applied ++ [frame] }
    else { c with pendingFrames := frame :: frames }

/-- The end of a pass of `_fill_until`: read a block and queue its sensor frames, or note the end. -/
def readBlock : PlaybackController :=
  match c.stream with
  | none => { c with eof := true }
  | some stream =>
    let (stream, chunk) := stream.read readChunkBytes
    if chunk = [] then { c with stream := some stream, eof := true }
    else
      let (parser, frames) := c.parser.feed crc32 chunk
      { c with
        stream := some stream
        parser
        pendingFrames := c.pendingFrames ++ frames.filter (·.messageType.isSensor) }

/-- The `while True` loop of `_fill_until`; `none` is a loop that has not ended yet. -/
def fillLoop (cutoffUs : ℚ) : Nat → PlaybackController → Option PlaybackController
  | 0, _ => none
  | passes + 1, c =>
    let c := release cutoffUs c.pendingFrames c
    if c.pendingFrames ≠ [] ∨ c.eof then some c else fillLoop cutoffUs passes (c.readBlock crc32)

/-- The bytes that are still to be read. -/
def unread : Nat :=
  match c.stream with
  | none => 0
  | some stream => stream.rest.length

/-- `_fill_until`; the loop ends within these passes. -/
def fillUntil (timeS : ℚ) : PlaybackController :=
  (fillLoop crc32 (c.cutoff R timeS) (c.unread + 2) c).getD c

/-- `_restart_decoder`. -/
def restartDecoder (timeS : ℚ) : PlaybackController :=
  match c.index, c.stream with
  | some index, some stream =>
    let offset := index.offsetForTime R timeS
    { c with
      stream := some { stream with position := offset }
      parser := c.parser.resetSession
      pendingFrames := []
      eof := false
      restartOffset := offset
      restartStore := c.store
      applied := [] }
  | _, _ => c

/-- `pause`. -/
def pause : PlaybackController := if c.playing then { c with playing := false } else c

/-- `load` of a file that can be opened, with its content. -/
def load (content : Bytes) (index : PlaybackIndex) : PlaybackController :=
  restartDecoder R
    { c.pause with stream := some { content }, index := some index, store := {}, playheadS := 0 } 0

/-- `seek`. -/
def seek (timeS : ℚ) (window : Option ℚ) : PlaybackController :=
  match c.index with
  | none => c
  | some index =>
    let target := min (max 0 (R.round timeS)) (index.durationS R)
    let restarted := restartDecoder R
      { c with playheadS := target, store := c.store.clearSamples }
      (max 0 (R.round (target - windowSeconds window)))
    restarted.fillUntil R crc32 target

/-- `play` at `nowS` on the monotonic clock. -/
def play (nowS : ℚ) (window : Option ℚ) : PlaybackController :=
  match c.index with
  | none => c
  | some index =>
    let c := if R.round (index.durationS R - endEpsilonS R) ≤ c.playheadS then
      c.seek R crc32 0 window else c
    if c.playing then c else { c with playing := true, lastTickS := nowS }

/-- `stop`. -/
def stop : PlaybackController :=
  let c := { c with playing := false }
  match c.index with
  | none => c
  | some _ => restartDecoder R { c with playheadS := 0, store := c.store.clearSamples } 0

/-- `set_speed`; a speed that is not allowed raises. -/
def setSpeed (speed : ℚ) : PlaybackController :=
  if speed ∈ allowedSpeeds then { c with speed } else c

/-- `close`. -/
def close : PlaybackController := { c.pause with stream := none, index := none }

/-- Where a tick at `nowS` wants the playhead. -/
def advanced (nowS : ℚ) : ℚ :=
  R.round (c.playheadS + R.round (max 0 (R.round (nowS - c.lastTickS)) * c.speed))

/-- `_tick` at `nowS` on the monotonic clock. -/
def tick (nowS : ℚ) : PlaybackController :=
  match c.index with
  | none => c.pause
  | some index =>
    let target := c.advanced R nowS
    let reachedEnd := R.round (index.durationS R - endEpsilonS R) ≤ target
    let target := min target (index.durationS R)
    let c := fillUntil R crc32 { c with lastTickS := nowS, playheadS := target } target
    if reachedEnd ∧ c.eof ∧ c.pendingFrames = [] then { c with playing := false } else c

end PlaybackController

/-- What acts on a playback controller. -/
inductive PlaybackEvent where
  | load (content : Bytes) (index : PlaybackIndex)
  | play (nowS : ℚ) (window : Option ℚ)
  | pause
  | stop
  | seek (timeS : ℚ) (window : Option ℚ)
  | setSpeed (speed : ℚ)
  | tick (nowS : ℚ)
  | close

namespace PlaybackController

variable (R : Rounding) (crc32 : Bytes → UInt32)

/-- One operation. -/
def step (c : PlaybackController) : PlaybackEvent → PlaybackController
  | .load content index => c.load R content index
  | .play nowS window => c.play R crc32 nowS window
  | .pause => c.pause
  | .stop => c.stop R
  | .seek timeS window => c.seek R crc32 timeS window
  | .setSpeed speed => c.setSpeed speed
  | .tick nowS => c.tick R crc32 nowS
  | .close => c.close

/-- A sequence of operations on a new controller. -/
def run (events : List PlaybackEvent) : PlaybackController := events.foldl (step R crc32) {}

end PlaybackController

end SensorHost.Presentation
