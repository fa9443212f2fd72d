import Mathlib.Algebra.Order.Floor.Div
import SensorHost.Lib.Crc32
import SensorHost.Ota.Uploader

/-!
# What an upload puts on the wire

The uploader against any transport whose `send` does not raise: what it answers to a `readline`, and
when the user cancels, may depend on everything that came before (`Peer`). `Trace` is the grammar of
what passes, with one rule for each place where an upload can stop, and `upload_trace` says that
every upload follows it, but for one CANCEL frame that ends a cancelled one.

`Traced` and `At` state where the program is in the grammar; each part of the program has a triple
with them (`exchange_wired`, `handshake_wired`, `dataLoop_wired`). The grammar by itself gives the
rest: the payloads tile the image from its beginning (`Streamed.tiles`), a frame is sent no more
often than it may be repeated, and so the number of sends is bounded (`Trace.sends_le`).
-/

namespace SensorHost.Ota
open SensorHost.Lib

/-- What passes between the uploader and its transport. -/
inductive WireEvent where
  | sent (data : Bytes)
  | heard (line : Option Bytes)
  deriving DecidableEq

/-- All that passed, and how often the user was asked. -/
structure WireLog where
  events : List WireEvent := []
  asks : Nat := 0

/-- The log with one more event. -/
def WireLog.push (log : WireLog) (event : WireEvent) : WireLog :=
  { log with events := log.events ++ [event] }

/-- The other side of an upload: what it answers, a line or nothing in time, and whether the user
has cancelled. -/
structure Peer where
  line : ℚ → WireLog → Option Bytes
  cancelled : WireLog → Bool

/-- The operations of the uploader, answered. -/
def Peer.handle (peer : Peer) : (o : UploadOp) → WireLog → UploadRes o × WireLog
  | .send data, log => (true, log.push (.sent data))
  | .readline timeout, log => (peer.line timeout log, log.push (.heard (peer.line timeout log)))
  | .cancelRequested, log => (peer.cancelled log, { log with asks := log.asks + 1 })
  | .notify .., log => ((), log)

/-- Any answer. -/
def wireRespond : (o : UploadOp) → WireLog → UploadRes o → WireLog → Prop
  | .send data, log, sent, log' => sent = true ∧ log' = log.push (.sent data)
  | .readline _, log, line, log' => log' = log.push (.heard line)
  | .cancelRequested, log, _, log' => log' = { log with asks := log.asks + 1 }
  | .notify .., log, _, log' => log' = log

/-- The world of all transports whose `send` does not raise. -/
def wireWorld : World UploadOp UploadRes WireLog where
  respond := wireRespond
  interfere _ _ := False

/-- What a peer answers is a run of the wire. -/
lemma run_peer {α : Type} (peer : Peer) (p : Upload α) (log : WireLog) :
    Run wireWorld p.run log (Fallible.interp peer.handle p log).1
      (Fallible.interp peer.handle p log).2 := by
  refine run_interp (W := wireWorld) id (fun o log => ?_) p.run log
  refine ⟨(peer.handle o log).2, ?_, .refl⟩
  cases o with
  | send data => exact ⟨rfl, rfl⟩
  | readline timeout => rfl
  | cancelRequested => rfl
  | notify sentBytes totalBytes phase => rfl

/-- Nothing happens on the wire but what the uploader does. -/
lemma wireWorld_stable (P : WireLog → Prop) : Stable wireWorld P := fun _ _ _ step => step.elim

/-- The bytes that were sent. -/
def sends (events : List WireEvent) : List Bytes :=
  events.filterMap fun
    | .sent data => some data
    | .heard _ => none

/-- The same bytes sent once for each of the lines, each heard behind them. -/
def attemptsOf (data : Bytes) (lines : List (Option Bytes)) : List WireEvent :=
  lines.flatMap fun line => [.sent data, .heard line]

/-- The begin command, with the lines heard behind it. -/
def greeting (lines : List (Option Bytes)) : List WireEvent :=
  .sent beginCommand :: lines.map .heard

/-- The CANCEL frame. -/
def cancelFrame (sequence offset : Int) : UploadFrame :=
  { frameType := .cancel, sequence, offset, payload := [] }

/-- The lines of a handshake that succeeds, and the DATA payload size it leads to. -/
def Greeted (lines : List (Option Bytes)) (limit : Nat) : Prop :=
  ∃ ready ok maxImage chunk, lines = [some ready, some ok] ∧
    parseReady ready = .ok (maxImage, chunk) ∧
    0 < OtaUploader.payloadLimit chunk ∧ limit = (OtaUploader.payloadLimit chunk).toNat

section Grammar

variable (crc32 : Bytes → UInt32) (retries : Nat) (package : Bytes) (limit : Nat)

/-- A frame was sent once, or up to `retries` times more. -/
def Tried (frame : UploadFrame) (events : List WireEvent) : Prop :=
  ∃ data lines, encodeFrame crc32 frame = .ok data ∧ lines ≠ [] ∧ lines.length ≤ retries + 1 ∧
    events = attemptsOf data lines

/-- A frame was sent until a line acknowledged it, with that response. -/
def Answered (frame : UploadFrame) (response : DeviceResponse) (events : List WireEvent) : Prop :=
  Tried crc32 retries frame events ∧ response.acknowledged = true ∧
    ∃ line, events.getLast? = some (.heard (some line)) ∧ parseResponse line = .ok response

/-- A frame was sent until a line acknowledged it, with this `NEXT`. -/
def Acknowledged (frame : UploadFrame) (next : Nat) (events : List WireEvent) : Prop :=
  ∃ response, Answered crc32 retries frame response events ∧ response.nextOffset = next

/-- The DATA frame behind the payloads that were sent before it. -/
def nextFrame (payloads : List Bytes) : UploadFrame :=
  OtaUploader.dataFrame (package.drop manifestBlockSize) limit (payloads.length + 1)
    payloads.flatten.length

/-- An upload up to and with these DATA payloads, all acknowledged with their ends. -/
inductive Streamed : List Bytes → List WireEvent → Prop
  | begin {lines events} (greeted : Greeted lines limit)
      (begun : Acknowledged crc32 retries (OtaUploader.beginFrame package) 0 events) :
      Streamed [] (greeting lines ++ events)
  | data {payloads before events} (rest : Streamed payloads before)
      (unfinished : payloads.flatten.length < (package.drop manifestBlockSize).length)
      (acknowledged : Acknowledged crc32 retries (nextFrame package limit payloads)
        (payloads.flatten.length + (nextFrame package limit payloads).payload.length) events) :
      Streamed (payloads ++ [(nextFrame package limit payloads).payload]) (before ++ events)

/-- An upload up to any place where it can stop. -/
inductive Trace : List WireEvent → Prop
  | silent : Trace []
  | handshake {lines} (length : lines.length ≤ 2) : Trace (greeting lines)
  | begin {lines events} (greeted : Greeted lines limit)
      (tried : Tried crc32 retries (OtaUploader.beginFrame package) events) :
      Trace (greeting lines ++ events)
  | streamed {payloads before} (rest : Streamed crc32 retries package limit payloads before) :
      Trace before
  | data {payloads before events} (rest : Streamed crc32 retries package limit payloads before)
      (unfinished : payloads.flatten.length < (package.drop manifestBlockSize).length)
      (tried : Tried crc32 retries (nextFrame package limit payloads) events) :
      Trace (before ++ events)
  | commit {payloads before events} {last : List (Option Bytes)}
      (rest : Streamed crc32 retries package limit payloads before)
      (whole : payloads.flatten = package.drop manifestBlockSize)
      (tried : Tried crc32 retries
        (OtaUploader.commitFrame (payloads.length + 1) (package.drop manifestBlockSize).length)
        events)
      (length : last.length ≤ 1) : Trace (before ++ events ++ last.map .heard)

end Grammar

section Rules

variable {crc32 : Bytes → UInt32} {retries : Nat} {package : Bytes} {limit : Nat}

/-- The payloads of an upload tile the image from its beginning: each begins where the one before
ended, and all but the last fill the limit. -/
lemma Streamed.tiles {payloads : List Bytes} {events : List WireEvent}
    (h : Streamed crc32 retries package limit payloads events) :
    payloads.flatten = (package.drop manifestBlockSize).take (payloads.length * limit) := by
  induction h with
  | begin greeted begun => simp
  | @data payloads before events rest unfinished acknowledged ih =>
    have hlen : payloads.flatten.length = payloads.length * limit := by
      rw [ih, List.length_take] at unfinished ⊢
      omega
    have hslice : (nextFrame package limit payloads).payload =
        ((package.drop manifestBlockSize).drop (payloads.length * limit)).take limit := by
      rw [← hlen]
      rfl
    rw [List.flatten_append, List.flatten_singleton, hslice, ih, List.length_append,
      List.length_singleton, Nat.add_mul, Nat.one_mul, List.take_add]

/-- A frame that is left to send leaves an offset at a multiple of the limit. -/
lemma Streamed.count_lt {payloads : List Bytes} {events : List WireEvent}
    (h : Streamed crc32 retries package limit payloads events)
    (unfinished : payloads.flatten.length < (package.drop manifestBlockSize).length) :
    payloads.length * limit < (package.drop manifestBlockSize).length := by
  rw [h.tiles, List.length_take] at unfinished
  omega

/-- What was streamed went in pieces of one byte at least and 512 at most. -/
lemma Streamed.limit_pos {payloads : List Bytes} {events : List WireEvent}
    (h : Streamed crc32 retries package limit payloads events) : 0 < limit ∧ limit ≤ 512 := by
  induction h with
  | begin greeted begun =>
    obtain ⟨ready, ok, maxImage, chunk, -, -, hpos, rfl⟩ := greeted
    have hle : OtaUploader.payloadLimit chunk ≤ 512 := by
      unfold OtaUploader.payloadLimit
      split
      · exact le_refl 512
      · exact min_le_left _ _
    omega
  | data rest unfinished acknowledged ih => exact ih

/-- What two sequences of events send is sent one after the other. -/
lemma sends_append (as bs : List WireEvent) : sends (as ++ bs) = sends as ++ sends bs :=
  List.filterMap_append

/-- What is heard is not sent. -/
lemma sends_heard (lines : List (Option Bytes)) : sends (lines.map .heard) = [] := by
  unfold sends
  rw [List.filterMap_map, List.filterMap_eq_nil_iff]
  exact fun _ _ => rfl

/-- The greeting sends the begin command once. -/
lemma sends_greeting (lines : List (Option Bytes)) : sends (greeting lines) = [beginCommand] := by
  have hcons : sends (greeting lines) = beginCommand :: sends (lines.map .heard) := rfl
  rw [hcons, sends_heard]

/-- The attempts of a frame are byte for byte the same. -/
lemma sends_attemptsOf (data : Bytes) (lines : List (Option Bytes)) :
    sends (attemptsOf data lines) = List.replicate lines.length data := by
  induction lines with
  | nil => rfl
  | cons line lines ih =>
    have hcons : sends (attemptsOf data (line :: lines)) =
        data :: sends (attemptsOf data lines) := rfl
    rw [hcons, ih]
    rfl

/-- A frame is sent no more often than it may be repeated. -/
lemma Tried.sends_le {frame : UploadFrame} {events : List WireEvent}
    (h : Tried crc32 retries frame events) : (sends events).length ≤ retries + 1 := by
  obtain ⟨data, lines, -, -, hle, rfl⟩ := h
  rw [sends_attemptsOf, List.length_replicate]
  exact hle

/-- So the stream sends no more than that for each of its frames. -/
lemma Streamed.sends_le {payloads : List Bytes} {events : List WireEvent}
    (h : Streamed crc32 retries package limit payloads events) :
    (sends events).length ≤ 1 + (retries + 1) * (payloads.length + 1) := by
  induction h with
  | begin greeted begun =>
    obtain ⟨response, ⟨tried, -⟩, -⟩ := begun
    have := tried.sends_le
    rw [sends_append, sends_greeting, List.length_append, List.length_singleton]
    simp only [List.length_nil]
    omega
  | @data payloads before events rest unfinished acknowledged ih =>
    obtain ⟨response, ⟨tried, -⟩, -⟩ := acknowledged
    have := tried.sends_le
    rw [sends_append, List.length_append, List.length_append, List.length_singleton,
      Nat.mul_add (retries + 1) (payloads.length + 1)]
    omega

/-- No more DATA frames are acknowledged than the image has chunks. -/
lemma Streamed.count_le {payloads : List Bytes} {events : List WireEvent}
    (h : Streamed crc32 retries package limit payloads events) :
    payloads.length ≤ (package.drop manifestBlockSize).length ⌈/⌉ limit := by
  have hpos := h.limit_pos.1
  cases h with
  | begin greeted begun => exact Nat.zero_le _
  | @data payloads before events rest unfinished acknowledged =>
    have hlt := rest.count_lt unfinished
    rw [List.length_append, List.length_singleton]
    by_contra hle
    have hceil : (package.drop manifestBlockSize).length ⌈/⌉ limit ≤ payloads.length := by omega
    rw [ceilDiv_le_iff_le_smul hpos, smul_eq_mul, Nat.mul_comm] at hceil
    omega

/-- And the whole upload no more than that for each piece of the image. -/
lemma Trace.sends_le {events : List WireEvent} (h : Trace crc32 retries package limit events) :
    (sends events).length ≤
      (retries + 1) * ((package.drop manifestBlockSize).length ⌈/⌉ limit + 2) + 1 := by
  rw [Nat.mul_add]
  cases h with
  | silent => exact Nat.zero_le _
  | handshake length =>
    rw [sends_greeting, List.length_singleton]
    omega
  | begin greeted tried =>
    have := tried.sends_le
    rw [sends_append, sends_greeting, List.length_append, List.length_singleton]
    omega
  | streamed rest =>
    have := rest.sends_le
    have := Nat.mul_le_mul_left (retries + 1) rest.count_le
    rw [Nat.mul_add] at *
    omega
  | data rest unfinished tried =>
    have := rest.sends_le
    have := tried.sends_le
    have := Nat.mul_le_mul_left (retries + 1) rest.count_le
    rw [sends_append, List.length_append]
    rw [Nat.mul_add] at *
    omega
  | commit rest whole tried length =>
    have := rest.sends_le
    have := tried.sends_le
    have := Nat.mul_le_mul_left (retries + 1) rest.count_le
    rw [sends_append, sends_append, sends_heard, List.append_nil, List.length_append]
    rw [Nat.mul_add] at *
    omega

variable (crc32 retries package) in
/-- What has passed is a trace. -/
def Traced (events : List WireEvent) : Prop := ∃ limit, Trace crc32 retries package limit events

variable (crc32 retries package) in
/-- An upload that fails: behind a trace, one CANCEL frame if it was cancelled and nothing else
otherwise. No error comes from `encode_frame`. -/
inductive Stopped : UploadError → WireLog → Prop
  | cancelled {log body} {sequence offset : Int} {data : Bytes}
      (traced : Traced crc32 retries package body)
      (encoded : encodeFrame crc32 (cancelFrame sequence offset) = .ok data)
      (events : log.events = body ++ [.sent data]) : Stopped .cancelled log
  | failed {error log} (traced : Traced crc32 retries package log.events)
      (left : error ≠ .cancelled)
      (codec : ∀ e, error = .codec e →
        ∃ line, .heard (some line) ∈ log.events ∧ parseReady line = .error (.codec e)) :
      Stopped error log

/-- The events so far. -/
def At (events : List WireEvent) (log : WireLog) : Prop := log.events = events

/-- An event is added to the log. -/
lemma At.push {events : List WireEvent} {log : WireLog} (h : At events log) (event : WireEvent) :
    At (events ++ [event]) (log.push event) := by
  unfold At WireLog.push at *
  rw [h]

section Operations

variable {events : List WireEvent} {E : UploadError → WireLog → Prop}

/-- Triples over the wire. -/
abbrev Wired (crc32 : Bytes → UInt32) (retries : Nat) (package : Bytes) {α : Type}
    (P : WireLog → Prop) (p : Upload α) (Q : α → WireLog → Prop) : Prop :=
  TripleEx wireWorld P p Q (Stopped crc32 retries package)

/-- Two programs one after the other leave on the wire what the second makes of the first. -/
lemma Wired.bind {α β : Type} {P : WireLog → Prop} {p : Upload α} {f : α → Upload β}
    {R : α → WireLog → Prop} {Q : β → WireLog → Prop}
    (hp : Wired crc32 retries package P p R)
    (hf : ∀ a, Wired crc32 retries package (R a) (f a) Q) :
    Wired crc32 retries package P (p >>= f) Q :=
  TripleEx.bind (fun _ => wireWorld_stable _) hp hf

/-- An error that is neither the cancellation nor one of the codec ends the trace where it is. -/
lemma throw_wired {α : Type} {error : UploadError} (traced : Traced crc32 retries package events)
    (hcancelled : error ≠ .cancelled) (hcodec : ∀ e, error ≠ .codec e)
    {Q : α → WireLog → Prop} :
    Wired crc32 retries package (At events) (throw error) Q := by
  refine TripleEx.throw (wireWorld_stable _) fun log hat => ?_
  exact .failed (hat ▸ traced) hcancelled fun e he => absurd he (hcodec e)

/-- A check leaves the wire as it is. -/
lemma refuseIf_wired {bad : Prop} [Decidable bad] {error : UploadError}
    (traced : Traced crc32 retries package events) (hcancelled : error ≠ .cancelled)
    (hcodec : ∀ e, error ≠ .codec e) :
    Wired crc32 retries package (At events) (refuseIf bad error) fun _ log =>
      ¬ bad ∧ At events log := by
  unfold refuseIf
  split
  · exact throw_wired traced hcancelled hcodec
  · rename_i hgood
    exact TripleEx.pure (wireWorld_stable _) fun log hat => ⟨hgood, hat⟩

/-- Progress leaves the wire as it is. -/
lemma notify_at {sent total : Nat} {phase : Phase} :
    TripleEx wireWorld (At events) (notify sent total phase) (fun _ => At events) E := by
  refine TripleEx.perform (wireWorld_stable _) ?_ fun _ => wireWorld_stable _
  rintro log r log' hat rfl
  exact hat

/-- A line, or none in time. -/
lemma readline_at {timeout : ℚ} :
    TripleEx wireWorld (At events) (readline timeout) (fun line => At (events ++ [.heard line]))
      E := by
  refine TripleEx.perform (wireWorld_stable _) ?_ fun _ => wireWorld_stable _
  rintro log line log' hat rfl
  exact hat.push (.heard line)

/-- What is sent is on the wire. -/
lemma send_at {data : Bytes} :
    TripleEx wireWorld (At events) (send data) (fun _ => At (events ++ [.sent data])) E := by
  refine TripleEx.bind (fun _ => wireWorld_stable _)
    (R := fun sent log => sent = true ∧ At (events ++ [.sent data]) log)
    (TripleEx.perform (wireWorld_stable _) ?_ fun _ => wireWorld_stable _) fun sent => ?_
  · rintro log sent log' hat ⟨hsent, rfl⟩
    exact ⟨hsent, hat.push (.sent data)⟩
  · refine TripleEx.assume fun hsent => ?_
    unfold refuseIf
    rw [if_neg (by simp [hsent])]
    exact TripleEx.pure (wireWorld_stable _) fun log hat => hat

/-- `encode_frame` does not raise on a frame that keeps the rules. -/
lemma Encodable.encode (crc32 : Bytes → UInt32) {frame : UploadFrame} (h : Encodable frame) :
    ∃ data, encodeFrame crc32 frame = .ok data :=
  ⟨frameBody frame ++ leBytes frameCrcSize (crc32 (frameBody frame)).toNat,
    encodeFrame_eq_ok_iff.mpr ⟨h, rfl⟩⟩

/-- The CANCEL frame can be encoded where its numbers are in range. -/
lemma encodable_cancelFrame {sequence offset : Int}
    (hsequence : 0 ≤ sequence ∧ sequence ≤ 0xFFFFFFFF)
    (hoffset : 0 ≤ offset ∧ offset ≤ 0xFFFFFFFF) :
    Encodable (cancelFrame sequence offset) where
  payload_le := Nat.zero_le _
  begin_eq h := nomatch h
  control_nil _ := rfl
  sequence_fits := hsequence
  offset_fits := hoffset

/-- A check of the cancel flag goes on, or ends the upload with one CANCEL frame. -/
lemma checkCancelled_wired {sequence offset : Int}
    (hsequence : 0 ≤ sequence ∧ sequence ≤ 0xFFFFFFFF)
    (hoffset : 0 ≤ offset ∧ offset ≤ 0xFFFFFFFF) (traced : Traced crc32 retries package events) :
    Wired crc32 retries package (At events) (checkCancelled crc32 sequence offset) fun _ =>
      At events := by
  refine Wired.bind (R := fun _ => At events)
    (TripleEx.perform (wireWorld_stable _) ?_ fun _ => wireWorld_stable _) fun requested => ?_
  · rintro log requested log' hat rfl
    exact hat
  · cases requested with
    | false => exact TripleEx.pure (wireWorld_stable _) fun log hat => hat
    | true =>
      obtain ⟨data, hdata⟩ := (encodable_cancelFrame hsequence hoffset).encode crc32
      refine Wired.bind (R := fun _ => At (events ++ [.sent data])) ?_ fun _ => ?_
      · unfold cancel
        rw [show encodeFrame crc32 { frameType := .cancel, sequence, offset, payload := [] } =
          .ok data from hdata]
        refine Wired.bind (R := fun _ => At (events ++ [.sent data]))
          (TripleEx.perform (wireWorld_stable _) ?_ fun _ => wireWorld_stable _) fun _ => ?_
        · rintro log sent log' hat ⟨-, rfl⟩
          exact hat.push (.sent data)
        · exact TripleEx.pure (wireWorld_stable _) fun log hat => hat
      · exact TripleEx.throw (wireWorld_stable _) fun log hat => .cancelled traced hdata hat

end Operations

section Exchange

variable {frame : UploadFrame} {before : List WireEvent}

/-- The attempts of an encoded frame, each of which may be the last. -/
lemma attempts_wired {data : Bytes} (timeout : ℚ) (encoded : encodeFrame crc32 frame = .ok data)
    (traced : Traced crc32 retries package before)
    (tried : ∀ events, Tried crc32 retries frame events →
      Traced crc32 retries package (before ++ events))
    (left : Nat) (lines : List (Option Bytes)) (hleft : lines.length + left = retries + 1) :
    Wired crc32 retries package (At (before ++ attemptsOf data lines))
      (OtaUploader.attempts crc32 data frame timeout left) fun response log =>
        ∃ events, Answered crc32 retries frame response events ∧ At (before ++ events) log := by
  have hframe : Encodable frame := (encodeFrame_eq_ok_iff.mp encoded).1
  have htraced (lines : List (Option Bytes)) (hle : lines.length ≤ retries + 1) :
      Traced crc32 retries package (before ++ attemptsOf data lines) := by
    by_cases hne : lines = []
    · rw [hne]
      simpa [attemptsOf] using traced
    · exact tried _ ⟨data, lines, encoded, hne, hle, rfl⟩
  induction left generalizing lines with
  | zero => exact throw_wired (htraced lines (by omega)) (by simp) (by simp)
  | succ left ih =>
    refine Wired.bind (checkCancelled_wired hframe.sequence_fits hframe.offset_fits
      (htraced lines (by omega))) fun _ => ?_
    refine Wired.bind send_at fun _ => ?_
    refine Wired.bind readline_at fun line => ?_
    -- one more attempt, answered or not
    have hsnoc : before ++ attemptsOf data lines ++ [.sent data] ++ [.heard line] =
        before ++ attemptsOf data (lines ++ [line]) := by
      simp [attemptsOf]
    have hlength : (lines ++ [line]).length = lines.length + 1 := List.length_append
    have hnow := htraced (lines ++ [line]) (by omega)
    have hnext := ih (lines ++ [line]) (by omega)
    rw [hsnoc]
    cases line with
    -- a time-out, and a NACK that asks for it, send the frame again
    | none => exact hnext
    | some line =>
      cases hparse : parseResponse line with
      | error e =>
        cases e with
        | codec e =>
          simp only [hparse]
          exact throw_wired hnow (by simp) (by simp)
        | value =>
          simp only [hparse]
          exact throw_wired hnow (by simp) (by simp)
      | ok response =>
        simp only [hparse]
        split
        · rename_i hack
          refine TripleEx.pure (wireWorld_stable _) fun log hat => ?_
          refine ⟨_, ⟨⟨data, lines ++ [some line], encoded, by simp, by omega, rfl⟩, hack, line, ?_,
            hparse⟩, hat⟩
          simp [attemptsOf]
        · split
          · exact hnext
          · exact throw_wired hnow (showing_ne (by simp) (by simp))
              fun e => showing_ne (by simp) (by simp)

/-- An exchange of a frame that can be encoded ends with its acknowledgement, or inside the frame's
attempts. -/
lemma exchange_wired {u : OtaUploader} {timeout : ℚ} (encodable : Encodable frame)
    (traced : Traced crc32 u.maxRetries package before)
    (tried : ∀ events, Tried crc32 u.maxRetries frame events →
      Traced crc32 u.maxRetries package (before ++ events)) :
    Wired crc32 u.maxRetries package (At before) (u.exchange crc32 frame timeout)
      fun response log => ∃ events, Answered crc32 u.maxRetries frame response events ∧
        At (before ++ events) log := by
  obtain ⟨data, hdata⟩ := encodable.encode crc32
  unfold OtaUploader.exchange
  rw [hdata]
  have hnone : before ++ attemptsOf data [] = before := List.append_nil before
  have hattempts := attempts_wired timeout hdata traced tried (u.maxRetries + 1) [] (Nat.zero_add _)
  rw [hnone] at hattempts
  exact hattempts

end Exchange

section Phases

variable {u : OtaUploader}

/-- The handshake is the greeting, and its READY line can be parsed. -/
lemma handshake_wired :
    Wired crc32 retries package (At []) (u.handshake crc32) fun fields log =>
      ∃ ready ok, parseReady ready = .ok fields ∧ At (greeting [some ready, some ok]) log := by
  have htraced {lines : List (Option Bytes)} (length : lines.length ≤ 2) :
      Traced crc32 retries package (greeting lines) := ⟨0, .handshake length⟩
  refine Wired.bind (checkCancelled_wired (by simp) (by simp) ⟨0, .silent⟩) fun _ => ?_
  refine Wired.bind send_at fun _ => ?_
  refine Wired.bind readline_at fun line => ?_
  have hone : ([] ++ [.sent beginCommand] ++ [.heard line] : List WireEvent) = greeting [line] :=
    rfl
  rw [hone]
  have hfirst : Traced crc32 retries package (greeting [line]) := htraced (by simp)
  cases line with
  | none =>
    exact throw_wired hfirst (by simp [uploadError]) (by simp [uploadError])
  | some ready =>
    refine Wired.bind (refuseIf_wired hfirst ?_ ?_) fun _ => TripleEx.assume fun _ => ?_
    · unfold notReady
      dsimp only
      split
      · exact fun h => nomatch h
      · exact fun h => nomatch h
    · unfold notReady
      dsimp only
      split
      · exact fun _ h => nomatch h
      · exact fun _ h => nomatch h
    refine Wired.bind (R := fun fields log => parseReady ready = .ok fields ∧
      At (greeting [some ready]) log) ?_ fun fields => TripleEx.assume fun hfields => ?_
    · unfold readyFields
      split
      · rename_i hparse
        exact TripleEx.pure (wireWorld_stable _) fun log hat => ⟨hparse, hat⟩
      · rename_i hparse
        refine TripleEx.throw (wireWorld_stable _) fun log hat => ?_
        refine .failed (hat ▸ hfirst) (by simp) fun e he => ?_
        cases he
        -- an error of the codec is raised only for a line that was heard
        have hmem : WireEvent.heard (some ready) ∈ log.events := by
          rw [hat]
          simp [greeting]
        exact ⟨ready, hmem, hparse⟩
      · exact throw_wired hfirst (by simp) (by simp)
    refine Wired.bind readline_at fun okLine => ?_
    have htwo : greeting [some ready] ++ [.heard okLine] = greeting [some ready, okLine] := rfl
    rw [htwo]
    refine Wired.bind (refuseIf_wired (htraced (by simp)) (by simp [uploadError])
      fun e he => nomatch he) fun _ => TripleEx.assume fun hok => ?_
    refine TripleEx.pure (wireWorld_stable _) fun log hat => ?_
    cases okLine with
    | none => exact absurd (by simp) hok
    | some ok => exact ⟨ready, ok, hfields, hat⟩

/-- There are no more pieces than bytes. -/
lemma Streamed.count_le_size {payloads : List Bytes} {before : List WireEvent}
    (h : Streamed crc32 retries package limit payloads before) :
    payloads.length ≤ (package.drop manifestBlockSize).length := by
  refine h.count_le.trans ?_
  rw [ceilDiv_le_iff_le_smul h.limit_pos.1, smul_eq_mul]
  exact Nat.le_mul_of_pos_left _ h.limit_pos.1

/-- The next piece can be sent in a frame. -/
lemma Streamed.encodable {payloads : List Bytes} {before : List WireEvent}
    (h : Streamed crc32 retries package limit payloads before)
    (unfinished : payloads.flatten.length < (package.drop manifestBlockSize).length)
    (small : (package.drop manifestBlockSize).length ≤ appFlashSize) :
    payloads.length < appFlashSize ∧ Encodable (nextFrame package limit payloads) := by
  obtain ⟨hpos, hle⟩ := h.limit_pos
  have hcount := h.count_lt unfinished
  have hmul : payloads.length ≤ payloads.length * limit := Nat.le_mul_of_pos_right _ hpos
  have hlt : payloads.length < appFlashSize := by omega
  have hflash : appFlashSize + 2 < 2 ^ 32 := by decide
  have hpayload : (nextFrame package limit payloads).payload.length ≤ frameMaxPayload :=
    (List.length_take_le _ _).trans hle
  refine ⟨hlt, ⟨hpayload, fun h => (nomatch h), fun h => ?_, ?_, ?_⟩⟩
  · rcases h with h | h <;> cases h
  · constructor <;> simp only [nextFrame, OtaUploader.dataFrame] <;> omega
  · constructor <;> simp only [nextFrame, OtaUploader.dataFrame] <;> omega

/-- The BEGIN frame of a package that holds a manifest can be encoded. -/
lemma encodable_beginFrame (hblock : manifestBlockSize ≤ package.length) :
    Encodable (OtaUploader.beginFrame package) := by
  have hlength : (OtaUploader.beginFrame package).payload.length = beginPayloadSize := by
    unfold OtaUploader.beginFrame
    simp only [manifestBlockSize, beginPayloadSize] at hblock ⊢
    rw [List.length_take, List.length_take]
    omega
  refine ⟨?_, fun _ => ⟨rfl, rfl, hlength⟩, fun h => ?_, ⟨le_refl 0, Int.natCast_nonneg _⟩,
    ⟨le_refl 0, Int.natCast_nonneg _⟩⟩
  · rw [hlength]
    decide
  · rcases h with h | h <;> cases h

/-- The COMMIT frame can be encoded. -/
lemma encodable_commitFrame {sequence offset : Nat} (hsequence : sequence < 2 ^ 32)
    (hoffset : offset < 2 ^ 32) : Encodable (OtaUploader.commitFrame sequence offset) := by
  refine ⟨Nat.zero_le _, fun h => (nomatch h), fun _ => rfl, ?_, ?_⟩
  · constructor <;> simp only [OtaUploader.commitFrame] <;> omega
  · constructor <;> simp only [OtaUploader.commitFrame] <;> omega

/-- The DATA loop ends when the payloads are the image. -/
lemma dataLoop_wired (small : (package.drop manifestBlockSize).length ≤ appFlashSize) (fuel : Nat)
    {payloads : List Bytes} {before : List WireEvent}
    (h : Streamed crc32 u.maxRetries package limit payloads before)
    (hfuel : (package.drop manifestBlockSize).length ≤ payloads.flatten.length + fuel) :
    Wired crc32 u.maxRetries package (At before)
      (u.dataLoop crc32 (package.drop manifestBlockSize) limit fuel (payloads.length + 1)
        payloads.flatten.length)
      fun last log => ∃ payloads before, Streamed crc32 u.maxRetries package limit payloads before ∧
        payloads.flatten = package.drop manifestBlockSize ∧
        last = (payloads.length + 1, (package.drop manifestBlockSize).length) ∧ At before log := by
  have whole {payloads : List Bytes} {before : List WireEvent}
      (h : Streamed crc32 u.maxRetries package limit payloads before)
      (finished : ¬ payloads.flatten.length < (package.drop manifestBlockSize).length) :
      payloads.flatten = package.drop manifestBlockSize := by
    rw [h.tiles, List.take_eq_self_iff]
    rw [h.tiles, List.length_take] at finished
    omega
  induction fuel generalizing payloads before with
  | zero =>
    have hwhole := whole h (by omega)
    refine TripleEx.pure (wireWorld_stable _) fun log hat => ?_
    exact ⟨payloads, before, h, hwhole, by rw [hwhole], hat⟩
  | succ fuel ih =>
    rw [OtaUploader.dataLoop]
    split
    · rename_i unfinished
      obtain ⟨hcount, encodable⟩ := h.encodable unfinished small
      refine Wired.bind (checkCancelled_wired encodable.sequence_fits encodable.offset_fits
        ⟨limit, .streamed h⟩) fun _ => ?_
      refine Wired.bind (exchange_wired encodable ⟨limit, .streamed h⟩
        fun events tried => ⟨limit, .data h unfinished tried⟩) fun response => ?_
      refine TripleEx.choose fun events => TripleEx.assume fun answered => ?_
      have traced : Traced crc32 u.maxRetries package (before ++ events) :=
        ⟨limit, .data h unfinished answered.1⟩
      refine Wired.bind (refuseIf_wired traced (showing_ne (by simp) (by simp))
        fun e => showing_ne (by simp) (by simp)) fun _ => TripleEx.assume fun hnext => ?_
      refine Wired.bind notify_at fun _ => ?_
      -- the acknowledgement is of this piece, so one more has been sent
      have hstreamed := h.data unfinished ⟨response, answered, not_not.mp hnext⟩
      have hsequence : (payloads.length + 1 + 1) % 2 ^ 32 =
          (payloads ++ [(nextFrame package limit payloads).payload]).length + 1 := by
        have hflash : appFlashSize + 2 < 2 ^ 32 := by decide
        rw [List.length_append, List.length_singleton]
        omega
      have hoffset : payloads.flatten.length + (nextFrame package limit payloads).payload.length =
          (payloads ++ [(nextFrame package limit payloads).payload]).flatten.length := by
        rw [List.flatten_append, List.flatten_singleton, List.length_append]
      obtain ⟨hpos, -, -⟩ := OtaUploader.dataFrame_length (payloads.length + 1)
        h.limit_pos.1 unfinished
      have hrest := ih hstreamed (by
        rw [← hoffset]
        unfold nextFrame
        omega)
      rw [← hsequence, ← hoffset] at hrest
      exact hrest
    · rename_i finished
      have hwhole := whole h finished
      refine TripleEx.pure (wireWorld_stable _) fun log hat => ?_
      exact ⟨payloads, before, h, hwhole, by rw [hwhole], hat⟩

/-- An upload that returns has followed the grammar, and so has one that fails. -/
lemma upload_wired (package expectedTargetId : Bytes) :
    Wired crc32 u.maxRetries package (At []) (u.upload crc32 package expectedTargetId)
      fun _ log => Traced crc32 u.maxRetries package log.events := by
  have silent : Traced crc32 u.maxRetries package [] := ⟨0, .silent⟩
  refine Wired.bind (R := fun manifest log => validatePackage crc32 package = .ok manifest ∧
    At [] log) ?_ fun manifest => TripleEx.assume fun hvalid => ?_
  · unfold OtaUploader.checkPackage
    cases hv : validatePackage crc32 package with
    | ok manifest => exact TripleEx.pure (wireWorld_stable _) fun log hat => ⟨rfl, hat⟩
    | error error =>
      exact throw_wired silent (by simp) (by simp)
  obtain ⟨hblock, himage, -, hflash, -⟩ := validatePackage_length hvalid
  have small : (package.drop manifestBlockSize).length ≤ appFlashSize := himage ▸ hflash
  have hbegin := encodable_beginFrame hblock
  refine Wired.bind (refuseIf_wired silent (by simp) fun e he => nomatch he) fun _ =>
    TripleEx.assume fun _ => ?_
  refine Wired.bind notify_at fun _ => ?_
  refine Wired.bind handshake_wired fun fields => ?_
  obtain ⟨maxImage, chunk⟩ := fields
  refine TripleEx.choose fun ready => TripleEx.choose fun ok => TripleEx.assume fun hfields => ?_
  have hgreeting : Traced crc32 u.maxRetries package (greeting [some ready, some ok]) :=
    ⟨0, .handshake (by simp)⟩
  refine Wired.bind (refuseIf_wired hgreeting (showing_ne (by simp) (by simp))
    fun e => showing_ne (by simp) (by simp)) fun _ => TripleEx.assume fun _ => ?_
  refine Wired.bind (refuseIf_wired hgreeting (by simp [uploadError]) fun e he => nomatch he)
    fun _ => TripleEx.assume fun hlimit => ?_
  -- the handshake gives the size of the pieces
  have greeted : Greeted [some ready, some ok] (OtaUploader.payloadLimit chunk).toNat :=
    ⟨ready, ok, maxImage, chunk, rfl, hfields, not_le.mp hlimit, rfl⟩
  refine Wired.bind notify_at fun _ => ?_
  refine Wired.bind (exchange_wired hbegin hgreeting
    fun events tried => ⟨_, .begin greeted tried⟩) fun response => ?_
  refine TripleEx.choose fun events => TripleEx.assume fun answered => ?_
  refine Wired.bind (refuseIf_wired ⟨_, .begin greeted answered.1⟩ (by simp [uploadError])
    fun e he => nomatch he) fun _ => TripleEx.assume fun hzero => ?_
  -- behind BEGIN no piece has been sent
  have begun : Streamed crc32 u.maxRetries package (OtaUploader.payloadLimit chunk).toNat []
      (greeting [some ready, some ok] ++ events) :=
    .begin greeted ⟨response, answered, not_not.mp hzero⟩
  refine Wired.bind notify_at fun _ => ?_
  refine Wired.bind (dataLoop_wired small _ begun (Nat.le_add_left _ _)) fun last => ?_
  refine TripleEx.choose fun payloads => TripleEx.choose fun before => ?_
  refine TripleEx.assume fun streamed => TripleEx.assume fun hwhole => ?_
  refine TripleEx.assume fun hlast => ?_
  subst hlast
  have hstreamed : Traced crc32 u.maxRetries package before := ⟨_, .streamed streamed⟩
  have hcommit : Encodable (OtaUploader.commitFrame (payloads.length + 1)
      (package.drop manifestBlockSize).length) := by
    have hflash : appFlashSize + 2 < 2 ^ 32 := by decide
    have hcount := streamed.count_le_size
    exact encodable_commitFrame (by omega) (by omega)
  refine Wired.bind notify_at fun _ => ?_
  refine Wired.bind (checkCancelled_wired hcommit.sequence_fits hcommit.offset_fits hstreamed)
    fun _ => ?_
  -- behind COMMIT one more line may be read
  have hcommitted (lines : List (Option Bytes)) (hlines : lines.length ≤ 1) {events}
      (tried : Tried crc32 u.maxRetries (OtaUploader.commitFrame (payloads.length + 1)
        (package.drop manifestBlockSize).length) events) :
      Traced crc32 u.maxRetries package (before ++ events ++ lines.map .heard) :=
    ⟨_, .commit streamed hwhole tried hlines⟩
  have hnone (events : List WireEvent) : events ++ ([] : List (Option Bytes)).map .heard = events :=
    List.append_nil events
  refine Wired.bind (exchange_wired hcommit hstreamed fun events tried =>
    hnone (before ++ events) ▸ hcommitted [] (by simp) tried) fun response => ?_
  refine TripleEx.choose fun events => TripleEx.assume fun answered => ?_
  refine Wired.bind (refuseIf_wired (hnone (before ++ events) ▸ hcommitted [] (by simp) answered.1)
    (by simp) fun e he => nomatch he) fun _ => TripleEx.assume fun _ => ?_
  refine Wired.bind readline_at fun line => ?_
  refine Wired.bind notify_at fun _ => ?_
  refine TripleEx.pure (wireWorld_stable _) fun log hat => ?_
  rw [hat]
  exact hcommitted [line] (by simp) answered.1

end Phases

end Rules

/-- Every upload ends, whatever the peer answers and whenever the user cancels. It has sent the
begin command, the BEGIN frame, DATA frames that tile the image in order and the COMMIT frame, as `Trace`
tells, up to some place, and behind them one CANCEL frame if and only if it raises the cancellation;
`encode_frame` has not raised. -/
theorem upload_trace (crc32 : Bytes → UInt32) (u : OtaUploader) (package expectedTargetId : Bytes)
    (peer : Peer) :
    let (result, log) := Fallible.interp peer.handle (u.upload crc32 package expectedTargetId) {}
    ∃ limit body, Trace crc32 u.maxRetries package limit body ∧
      (result ≠ .error .cancelled ∧ log.events = body ∨
        result = .error .cancelled ∧ ∃ sequence offset data,
          encodeFrame crc32 (cancelFrame sequence offset) = .ok data ∧
            log.events = body ++ [.sent data]) ∧
      (∀ e, result = .error (.codec e) →
        ∃ line, .heard (some line) ∈ log.events ∧ parseReady line = .error (.codec e)) ∧
      (sends log.events).length ≤
        (u.maxRetries + 1) * ((package.drop manifestBlockSize).length ⌈/⌉ limit + 2) + 2 := by
  have hrun := run_peer peer (u.upload crc32 package expectedTargetId) {}
  obtain ⟨hreturn, hfail⟩ := upload_wired package expectedTargetId {} _ _ rfl hrun
  generalize Fallible.interp peer.handle (u.upload crc32 package expectedTargetId) {} = outcome at *
  obtain ⟨result, log⟩ := outcome
  cases result with
  | ok summary =>
    obtain ⟨limit, trace⟩ := hreturn summary rfl
    exact ⟨limit, log.events, trace, .inl ⟨by simp, rfl⟩, fun e he => (nomatch he),
      Nat.le_succ_of_le trace.sends_le⟩
  | error error =>
    cases hfail error rfl with
    | failed traced left codec =>
      obtain ⟨limit, trace⟩ := traced
      refine ⟨limit, log.events, trace, .inl ⟨by simpa using left, rfl⟩, fun e he => ?_,
        Nat.le_succ_of_le trace.sends_le⟩
      exact codec e (Except.error.inj he)
    | @cancelled _ body sequence offset data traced encoded events =>
      obtain ⟨limit, trace⟩ := traced
      refine ⟨limit, body, trace, .inr ⟨rfl, sequence, offset, data, encoded, events⟩,
        fun e he => (nomatch he), ?_⟩
      rw [events, sends_append, List.length_append]
      exact Nat.succ_le_succ trace.sends_le

end SensorHost.Ota
