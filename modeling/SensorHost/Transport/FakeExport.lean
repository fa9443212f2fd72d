import SensorHost.Lib.Chronicle
import SensorHost.Lib.Crc32
import SensorHost.Transport.FakeSteps

/-!
# Exports of the virtual transport

Whatever the host calls, an export is a run of its own: behind EXPORT_BEGIN come the archive frames
1, 2, … in order, no live frame comes between, and EXPORT_END comes behind the last of the 24 and at
most once (`ExportLaw`).

Whether an export is running is read off what has been done so far: the device has built the packet
that begins one, and since then neither the packet that ends it, nor has the host closed the endpoint
or stopped the device (`exporting`). A state reply says EXPORT exactly then, with the target and with
the number of archive frames that were sent, and no live frame is built then (`ReportLaw`).

Both laws are judged at every packet by what stands before it. `Lawful` is the invariant of the device
that carries the first one over the moves, and `Told` adds the history for the second one.

The moves of the device are those of `Transport.FakeSteps`; a move that gives an export up is told
apart there, since it sends nothing that would show it in the packets alone.
-/

namespace SensorHost.Transport
open SensorHost.Lib SensorHost.Protocol SensorHost.Ota SensorHost.Acquisition

namespace Emission

/-- The number of an archive frame. -/
def archiveNumber : Emission → Option Nat
  | .archive _ sequence => some sequence
  | _ => none

/-- Neither a live frame nor the begin or the end of an export. -/
def isQuiet : Emission → Bool
  | .iis .. => false
  | .jy .. => false
  | .cli (.exportBegin _) _ => false
  | .cli (.exportEnd _) _ => false
  | _ => true

/-- The end of an export. -/
def isEnd : Emission → Bool
  | .cli (.exportEnd _) _ => true
  | _ => false

end Emission

/-- The last export that began is to this target, and has sent `count` frames in order. -/
def InExport (target : StreamTarget) (before : List Emission) (count : Nat) : Prop :=
  ∃ pre number mid, before = pre ++ .cli (.exportBegin target) number :: mid ∧
    mid.filterMap Emission.archiveNumber = List.range' 1 count ∧
    ∀ e ∈ mid, e.isQuiet = true

/-- The status says that nothing is exported, and nothing is left to export. -/
structure Emptied (status : FakeState) : Prop where
  state : status.state = FakeMode.idle.word
  target : status.exportTarget = exportTargetWord none
  used : status.sdUsed = 0
  frames : status.retainedFrames = 0
  chunks : status.retainedChunks = 0

/-- What the device may send behind what it has sent. -/
def ExportLaw (before : List Emission) : Emission → Prop
  | .archive _ sequence =>
    1 ≤ sequence ∧ sequence ≤ sdFrameCount ∧ ∃ target, InExport target before (sequence - 1)
  | .cli (.exportBegin _) _ => ∀ e ∈ before, e.isEnd = false
  | .cli (.exportEnd status) _ =>
    (∃ target, InExport target before sdFrameCount) ∧ Emptied status ∧ ∀ e ∈ before, e.isEnd = false
  | _ => True

/-- What is done in a run: the host gives up what the device does, or the device builds a packet. -/
inductive Deed where
  | givenUp
  | packet (e : Emission)

namespace Deed

/-- The packet that is built. -/
def emission : Deed → Option Emission
  | .givenUp => none
  | .packet e => some e

/-- The export that runs behind a deed, with the number of frames that it has sent. -/
def leaves (running : Option (StreamTarget × Nat)) : Deed → Option (StreamTarget × Nat)
  | .givenUp => none
  | .packet (.cli (.exportBegin target) _) => some (target, 0)
  | .packet (.cli (.exportEnd _) _) => none
  | .packet (.archive ..) => running.map fun (target, count) => (target, count + 1)
  | .packet _ => running

end Deed

/-- The export that runs behind a history, with the number of frames that it has sent. -/
def exporting (history : List Deed) : Option (StreamTarget × Nat) := history.foldl Deed.leaves none

/-- What the device may tell behind what was done: EXPORT exactly while an export runs, then with its
target and the number of its frames, and a live frame only while none does. -/
def ReportLaw (before : List Deed) : Deed → Prop
  | .packet (.cli (.state status) _) =>
    match exporting before with
    | some (target, count) =>
      status.state = FakeMode.exporting.word ∧
        status.exportTarget = exportTargetWord (some target) ∧ status.exportFrameIndex = count
    | none =>
      status.state ≠ FakeMode.exporting.word ∧ status.exportTarget = exportTargetWord none
  | .packet (.iis ..) => exporting before = none
  | .packet (.jy ..) => exporting before = none
  | _ => True

variable {target : StreamTarget} {before new : List Emission} {count : Nat} {e : Emission}

/-- What is quiet leaves the export running, with as many frames. -/
lemma InExport.quiet (h : InExport target before count) (quiet : e.isQuiet = true)
    (number : e.archiveNumber = none) : InExport target (before ++ [e]) count := by
  obtain ⟨pre, n, mid, rfl, hnumbers, hquiet⟩ := h
  refine ⟨pre, n, mid ++ [e], ?_, ?_, ?_⟩
  · rw [List.append_assoc, List.cons_append]
  · rw [List.filterMap_append, hnumbers, List.filterMap_cons, number]
    exact List.append_nil _
  · intro x hx
    cases List.mem_append.mp hx with
    | inl hold => exact hquiet x hold
    | inr hnew =>
      rw [List.mem_singleton.mp hnew]
      exact quiet

/-- The next archive frame is one more. -/
lemma InExport.archive (h : InExport target before count) (frameIndex : Nat) :
    InExport target (before ++ [.archive frameIndex (count + 1)]) (count + 1) := by
  obtain ⟨pre, n, mid, rfl, hnumbers, hquiet⟩ := h
  refine ⟨pre, n, mid ++ [.archive frameIndex (count + 1)], ?_, ?_, ?_⟩
  · rw [List.append_assoc, List.cons_append]
  · rw [List.filterMap_append, hnumbers, List.range'_concat, Nat.one_mul, Nat.add_comm 1 count]
    rfl
  · intro x hx
    cases List.mem_append.mp hx with
    | inl hold => exact hquiet x hold
    | inr hnew =>
      rw [List.mem_singleton.mp hnew]
      rfl

/-- A begin starts an export, without frames yet. -/
lemma inExport_begin (target : StreamTarget) (before : List Emission) (number : Nat) :
    InExport target (before ++ [.cli (.exportBegin target) number]) 0 :=
  ⟨before, number, [], rfl, rfl, fun _ h => (List.not_mem_nil h).elim⟩

/-- What is no end does not end an export. -/
lemma not_isEnd_snoc (h : ∀ x ∈ before, x.isEnd = false) (he : e.isEnd = false) :
    ∀ x ∈ before ++ [e], x.isEnd = false := by
  intro x hx
  cases List.mem_append.mp hx with
  | inl hold => exact h x hold
  | inr hnew =>
    rw [List.mem_singleton.mp hnew]
    exact he

namespace FakeTransport

variable (waves : Waves) (crc32 : Bytes → UInt32) in
/-- The history behind a call. -/
def deeds (d : FakeTransport) (history : List Deed) (c : FakeCall) : List Deed :=
  history ++ (if d.givesUp c then [.givenUp] else []) ++
    ((d.step waves crc32 c).sent.drop d.sent.length).map .packet

/-- What the device is while it exports, and what it has sent. -/
structure Lawful (d : FakeTransport) : Prop where
  active : d.exportActive = d.exportTarget.isSome
  mode : d.mode = .exporting ↔ d.exportActive = true
  frames : d.exportActive = true → d.sdRetainedFrames ≠ 0
  running : ∀ target, d.exportTarget = some target → InExport target d.sent d.exportFrameIndex
  index : d.exportFrameIndex ≤ sdFrameCount
  unended : d.sdRetainedFrames ≠ 0 → ∀ e ∈ d.sent, e.isEnd = false
  law : Chronicle ExportLaw d.sent

variable {d d₁ d' : FakeTransport}

namespace Lawful

/-- The law is about these fields. -/
lemma of_eq (h : Lawful d) (active : d'.exportActive = d.exportActive) (mode : d'.mode = d.mode)
    (target : d'.exportTarget = d.exportTarget) (index : d'.exportFrameIndex = d.exportFrameIndex)
    (frames : d'.sdRetainedFrames = d.sdRetainedFrames) (sent : d'.sent = d.sent) : Lawful d' where
  active := by rw [active, target, h.active]
  mode := by rw [mode, active, h.mode]
  frames := by rw [active, frames]; exact h.frames
  running := by rw [target, index, sent]; exact h.running
  index := by rw [index]; exact h.index
  unended := by rw [frames, sent]; exact h.unended
  law := by rw [sent]; exact h.law

/-- A quiet packet changes nothing of the law. -/
lemma quiet (h : Lawful d) (quiet : e.isQuiet = true) (number : e.archiveNumber = none)
    (law : ExportLaw d.sent e) : Lawful { d with sent := d.sent ++ [e] } where
  active := h.active
  mode := h.mode
  frames := h.frames
  running target htarget := (h.running target htarget).quiet quiet number
  index := h.index
  unended hframes := not_isEnd_snoc (h.unended hframes) (by
    cases e with
    | cli reply number => cases reply <;> first | rfl | cases quiet
    | _ => rfl)
  law := h.law.snoc law

/-- A device that does not export. -/
lemma idle (active : d'.exportActive = false) (target : d'.exportTarget = none)
    (mode : d'.mode ≠ .exporting) (index : d'.exportFrameIndex ≤ sdFrameCount)
    (unended : d'.sdRetainedFrames ≠ 0 → ∀ x ∈ d.sent ++ new, x.isEnd = false)
    (law : Chronicle ExportLaw (d.sent ++ new)) (sent : d'.sent = d.sent ++ new) : Lawful d' where
  active := by rw [active, target]; rfl
  mode := by rw [active]; exact ⟨fun hmode => absurd hmode mode, fun ht => by cases ht⟩
  frames := by rw [active]; exact fun ht => by cases ht
  running := by rw [target]; exact fun _ ht => by cases ht
  index := index
  unended := by rw [sent]; exact unended
  law := by rw [sent]; exact law

/-- A device that may start something does not export. -/
lemma inactive (h : Lawful d) (can : d.CanStart) : d.exportActive = false := by
  rw [Bool.eq_false_iff]
  intro hactive
  have hmode := h.mode.mpr hactive
  cases can with
  | inl hidle =>
    rw [hidle] at hmode
    cases hmode
  | inr herror =>
    rw [herror] at hmode
    cases hmode

/-- Without an export there is no target. -/
lemma target_none (h : Lawful d) (inactive : d.exportActive = false) : d.exportTarget = none := by
  rw [← Option.not_isSome_iff_eq_none, ← h.active, inactive]
  exact Bool.false_ne_true

/-- A reply that changes nothing is lawful. -/
lemma answers (h : Lawful d) {reply : FakeReply} (answers : d.Answers reply) (number : Nat) :
    Lawful { d with sent := d.sent ++ [.cli reply number] } := by
  cases answers with
  | _ => exact h.quiet rfl rfl trivial

/-- A stop ends what was going on. -/
lemma stops (h : Lawful d) (number : Nat) :
    Lawful { d.halted with mode := .idle, sent := d.sent ++ [.cli .ok number] } := by
  have hquiet := h.quiet (e := .cli .ok number) rfl rfl trivial
  unfold halted
  split
  · exact idle rfl rfl (fun hmode => by cases hmode) (Nat.zero_le _) hquiet.unended hquiet.law rfl
  · rename_i hactive
    have hinactive := Bool.eq_false_iff.mpr hactive
    exact idle hinactive (h.target_none hinactive) (fun hmode => by cases hmode) h.index
      hquiet.unended hquiet.law rfl

/-- An export may begin where frames are retained. -/
lemma begins (h : Lawful d) (target : StreamTarget) (frames : d.sdRetainedFrames ≠ 0)
    (number : Nat) :
    Lawful { d with
      mode := .exporting
      exportTarget := some target
      exportActive := true
      exportFrameIndex := 0
      sent := d.sent ++ [.cli (.exportBegin target) number] } where
  active := rfl
  mode := ⟨fun _ => rfl, fun _ => rfl⟩
  frames _ := frames
  running target' htarget := by
    cases htarget
    exact inExport_begin target d.sent number
  index := Nat.zero_le _
  unended hframes := not_isEnd_snoc (h.unended hframes) rfl
  law := h.law.snoc (h.unended frames)

/-- A live frame may come where no export is running. -/
lemma live (h : Lawful d) (inactive : d.exportActive = false) {number frameIndex : Nat}
    (frame : e = .iis frameIndex number ∨ e = .jy frameIndex number) :
    Lawful { d with sent := d.sent ++ [e] } := by
  have hmode : d.mode ≠ .exporting := by
    intro hmode
    rw [h.mode, inactive] at hmode
    cases hmode
  refine idle (d := d) inactive (h.target_none inactive) hmode h.index ?_ ?_ rfl
  · intro hframes
    refine not_isEnd_snoc (h.unended hframes) ?_
    obtain rfl | rfl := frame <;> rfl
  · refine h.law.snoc ?_
    obtain rfl | rfl := frame <;> trivial

/-- The next archive frame may come while frames are left. -/
lemma archives (h : Lawful d) (active : d.exportActive = true)
    (left : d.exportFrameIndex < sdFrameCount) (frameIndex : Nat) :
    Lawful { d with
      exportFrameIndex := d.exportFrameIndex + 1
      sent := d.sent ++ [.archive frameIndex (d.exportFrameIndex + 1)] } where
  active := h.active
  mode := h.mode
  frames := h.frames
  running target htarget := (h.running target htarget).archive frameIndex
  index := left
  unended hframes := not_isEnd_snoc (h.unended hframes) rfl
  law := by
    obtain ⟨target, htarget⟩ := Option.isSome_iff_exists.mp (h.active.symm.trans active)
    exact h.law.snoc ⟨Nat.le_add_left 1 _, left, target, h.running target htarget⟩

/-- The export may end behind its last frame. -/
lemma finishes (h : Lawful d) (active : d.exportActive = true)
    (done : sdFrameCount ≤ d.exportFrameIndex) (number : Nat) :
    Lawful { d.exported with
      sent := d.sent ++ [.cli (.exportEnd d.exported.status) number] } := by
  obtain ⟨target, htarget⟩ := Option.isSome_iff_exists.mp (h.active.symm.trans active)
  have hrunning := h.running target htarget
  rw [le_antisymm h.index done] at hrunning
  refine idle (d := d) rfl rfl (fun hmode => by cases hmode) h.index
    (fun hframes => absurd rfl hframes) ?_ rfl
  exact h.law.snoc ⟨⟨target, hrunning⟩, ⟨rfl, rfl, rfl, rfl, rfl⟩, h.unended (h.frames active)⟩

/-- Every move keeps the law. -/
theorem moves {g : Bool} (h : Lawful d) (hmoves : Moves d g d₁ new) :
    Lawful { d₁ with sent := d.sent ++ new } := by
  cases hmoves with
  | reads hreads =>
    cases hreads with
    | still => exact h.of_eq rfl rfl rfl rfl rfl (List.append_nil _)
    | live x free inactive frame =>
      obtain frame | frame := frame
      · exact (h.live inactive (.inl frame)).of_eq rfl rfl rfl rfl rfl rfl
      · exact (h.live inactive (.inr frame)).of_eq rfl rfl rfl rfl rfl rfl
    | archives free active left => exact (h.archives active left _).of_eq rfl rfl rfl rfl rfl rfl
    | finishes free active done => exact (h.finishes active done _).of_eq rfl rfl rfl rfl rfl rfl
  | closes =>
    have hsent : { d.close with sent := d.sent ++ [] }.sent = d.sent ++ [] := rfl
    -- `close` ends the export without a word on the link
    refine idle rfl rfl (fun hmode => by cases hmode) h.index ?_ ?_ hsent
    · rw [List.append_nil]
      exact h.unended
    · rw [List.append_nil]
      exact h.law
  | answers reply true => exact (h.answers true _).of_eq rfl rfl rfl rfl rfl rfl
  | targets target can =>
    exact (h.quiet (e := .cli .ok _) rfl rfl trivial).of_eq rfl rfl rfl rfl rfl rfl
  | starts can =>
    have hquiet := h.quiet (e := .cli .acquiring (d.cliSequence + 1)) rfl rfl trivial
    have hinactive := h.inactive can
    exact idle (d := d) hinactive (h.target_none hinactive) (fun hmode => by cases hmode) h.index
      hquiet.unended hquiet.law rfl
  | stops => exact (h.stops _).of_eq rfl rfl rfl rfl rfl rfl
  -- `start_export` is the one move that raises the active flag
  | begins target can frames => exact (h.begins target frames _).of_eq rfl rfl rfl rfl rfl rfl
  | clears can =>
    have hquiet := h.quiet (e := .cli .ok (d.cliSequence + 1)) rfl rfl trivial
    have hinactive := h.inactive can
    refine idle (d := d) hinactive (h.target_none hinactive) ?_ h.index
      (fun hframes => absurd rfl hframes) hquiet.law rfl
    intro hmode
    -- in EXPORT mode the flag is set, and SDCLEAR is refused then
    have hactive := h.mode.mp hmode
    rw [hinactive] at hactive
    cases hactive
  | updates active lines inert =>
    exact (h.quiet (e := .ota lines) rfl rfl trivial).of_eq rfl rfl rfl rfl rfl rfl

end Lawful

/-- A new device has kept the law. -/
lemma lawful_new : Lawful ({} : FakeTransport) where
  active := rfl
  mode := ⟨fun hmode => (by cases hmode), fun hactive => (by cases hactive)⟩
  frames hactive := by cases hactive
  running target htarget := by cases htarget
  index := Nat.zero_le _
  unended _ x hx := (List.not_mem_nil hx).elim
  law := chronicle_nil

/-- The law is about what is seen of the device. -/
lemma lawful_seen (d : FakeTransport) : Lawful d ↔ Lawful d.seen :=
  ⟨fun h => h.of_eq rfl rfl rfl rfl rfl rfl, fun h => h.of_eq rfl rfl rfl rfl rfl rfl⟩

/-- The law holds behind every run. -/
lemma lawful_run (waves : Waves) (crc32 : Bytes → UInt32) {calls : List FakeCall}
    (hlength : calls.length < 2 ^ 32) : Lawful (runFrom (step waves crc32) {} calls) :=
  run_invariant waves crc32 (fun h _ => h.moves) lawful_seen lawful_new hlength

/-- No other mode has the text of an export. -/
lemma word_ne {mode : FakeMode} (h : mode ≠ .exporting) :
    mode.word ≠ FakeMode.exporting.word := by
  intro heq
  have htext := congrArg Word.text heq
  cases mode with
  | exporting => exact h rfl
  | idle => exact absurd htext (by decide)
  | acquire => exact absurd htext (by decide)
  | error => exact absurd htext (by decide)

/-- The export that the device is at, with the number of frames that it has sent. -/
def running (d : FakeTransport) : Option (StreamTarget × Nat) :=
  d.exportTarget.map fun target => (target, d.exportFrameIndex)

/-- A move sends one packet at most. -/
lemma Moves.sends_le {g : Bool} (h : Moves d g d₁ new) : new = [] ∨ ∃ e, new = [e] := by
  cases h with
  | reads hreads =>
    cases hreads with
    | still => exact .inl rfl
    | _ => exact .inr ⟨_, rfl⟩
  | closes => exact .inl rfl
  | _ => exact .inr ⟨_, rfl⟩

/-- What a move does is what the history says of it. -/
lemma Moves.leaves {g : Bool} (h : Moves d g d₁ new) (lawful : Lawful d) :
    ((if g then [Deed.givenUp] else []) ++ new.map Deed.packet).foldl Deed.leaves d.running =
      d₁.running := by
  cases h with
  | reads hreads =>
    cases hreads with
    | still => rfl
    | live x free inactive frame =>
      obtain rfl | rfl := frame
      · rfl
      · rfl
    | archives free active left =>
      show d.running.map (fun (target, count) => (target, count + 1)) = _
      unfold running
      rw [Option.map_map]
      rfl
    | finishes free active done => rfl
  | closes => rfl
  | answers reply true =>
    cases true with
    | _ => rfl
  | stops =>
    show none = ({ d.halted with mode := .idle }.replied).running
    have hnone : d.halted.exportTarget = none := by
      unfold halted
      split
      · rfl
      · rename_i hactive
        exact lawful.target_none (Bool.eq_false_iff.mpr hactive)
    exact (congrArg (Option.map _) hnone).symm
  | _ => rfl

/-- What a move tells is true of the history before it. -/
lemma Moves.tells {g : Bool} {history : List Deed} (h : Moves d g d₁ new) (lawful : Lawful d)
    (hhistory : exporting history = d.running) :
    ∀ e ∈ new, ReportLaw (history ++ if g then [.givenUp] else []) (.packet e) := by
  have hlive : d.exportActive = false → exporting (history ++ []) = none := by
    intro inactive
    -- a frame is live only where no export runs
    rw [List.append_nil, hhistory]
    unfold running
    rw [lawful.target_none inactive]
    rfl
  cases h with
  | reads hreads =>
    cases hreads with
    | still => exact fun e he => (List.not_mem_nil he).elim
    | live x free inactive frame =>
      refine List.forall_mem_singleton.mpr ?_
      obtain rfl | rfl := frame
      · exact hlive inactive
      · exact hlive inactive
    | archives free active left => exact List.forall_mem_singleton.mpr trivial
    | finishes free active done => exact List.forall_mem_singleton.mpr trivial
  | closes => exact fun e he => (List.not_mem_nil he).elim
  | answers reply true =>
    refine List.forall_mem_singleton.mpr ?_
    cases true with
    | state =>
      -- a state reply is the one packet that says whether an export runs
      show match exporting (history ++ []) with
        | some (target, count) =>
          d.status.state = FakeMode.exporting.word ∧
            d.status.exportTarget = exportTargetWord (some target) ∧
            d.status.exportFrameIndex = count
        | none =>
          d.status.state ≠ FakeMode.exporting.word ∧ d.status.exportTarget = exportTargetWord none
      rw [List.append_nil, hhistory]
      unfold running
      cases htarget : d.exportTarget with
      | some target =>
        have hmode : d.mode = .exporting := lawful.mode.mpr (by rw [lawful.active, htarget]; rfl)
        exact ⟨congrArg FakeMode.word hmode, congrArg exportTargetWord htarget, rfl⟩
      | none =>
        refine ⟨?_, congrArg exportTargetWord htarget⟩
        have hmode : d.mode ≠ .exporting := by
          intro hmode
          have hactive := lawful.mode.mp hmode
          rw [lawful.active, htarget] at hactive
          cases hactive
        exact word_ne hmode
    | _ => trivial
  | _ => exact List.forall_mem_singleton.mpr trivial

/-- The history tells what the device is at, and what it has sent. -/
structure Told (x : FakeTransport × List Deed) : Prop where
  lawful : Lawful x.1
  runs : exporting x.2 = x.1.running
  sent : x.2.filterMap Deed.emission = x.1.sent
  reports : Chronicle ReportLaw x.2

/-- Every call keeps the history. -/
lemma Told.step {waves : Waves} {crc32 : Bytes → UInt32} {x : FakeTransport × List Deed}
    (h : Told x) (c : FakeCall) (roomy : x.1.Roomy) :
    Told (watched (step waves crc32) (deeds waves crc32) x c) := by
  obtain ⟨d, history⟩ := x
  obtain ⟨d₁, new, hmoves, hcore, hsent⟩ := step_moves waves crc32 roomy c
  -- a call adds to the history an unsaid end, if it makes one, and then what it sends
  have hdeeds : deeds waves crc32 d history c =
      (history ++ if d.givesUp c then [.givenUp] else []) ++ new.map .packet := by
    unfold deeds
    rw [hsent, List.drop_left]
  have hrunning : (d.step waves crc32 c).running = d₁.running :=
    core_field running (fun _ => rfl) hcore
  refine ⟨?_, ?_, ?_, ?_⟩
  · have hnext := (lawful_seen _).mp (h.lawful.moves hmoves)
    refine (lawful_seen _).mpr ?_
    show Lawful (d.step waves crc32 c).seen
    unfold seen
    rw [hcore, hsent]
    exact hnext
  · show exporting (deeds waves crc32 d history c) = (d.step waves crc32 c).running
    rw [hdeeds, hrunning, List.append_assoc, ← hmoves.leaves h.lawful, ← h.runs]
    exact List.foldl_append
  · show (deeds waves crc32 d history c).filterMap Deed.emission = (d.step waves crc32 c).sent
    have hgiven : (if d.givesUp c then [Deed.givenUp] else []).filterMap Deed.emission = [] := by
      split <;> rfl
    have hnew : (new.map Deed.packet).filterMap Deed.emission = new := by
      rw [List.filterMap_map]
      exact List.filterMap_some
    rw [hdeeds, hsent, List.filterMap_append, List.filterMap_append, hgiven, hnew, List.append_nil]
    exact congrArg (· ++ new) h.sent
  · show Chronicle ReportLaw (deeds waves crc32 d history c)
    have hgiven : Chronicle ReportLaw (history ++ if d.givesUp c then [.givenUp] else []) := by
      split
      · exact h.reports.snoc trivial
      · rw [List.append_nil]
        exact h.reports
    have htells := hmoves.tells h.lawful h.runs
    rw [hdeeds]
    -- one call sends at most one packet
    obtain rfl | ⟨e, rfl⟩ := hmoves.sends_le
    · rw [List.map_nil, List.append_nil]
      exact hgiven
    · exact hgiven.snoc (htells e List.mem_cons_self)

/-- The device, with the history of what was done, behind a sequence of calls. -/
def chronicled (waves : Waves) (crc32 : Bytes → UInt32) (calls : List FakeCall) :
    FakeTransport × List Deed :=
  runFrom (watched (step waves crc32) (deeds waves crc32)) ({}, []) calls

/-- An export that is begun, asked for its state, given up and asked again. -/
def givenUpCalls : List FakeCall :=
  [.openEndpoint fakeDeviceId 0, .writeControl (asciiBytes "AT+EXPORT=CDC\r\n".toList) 0,
    .read 4096 0 [0, 1], .read 4096 0 [1, 1], .read 4096 0 [2, 2],
    .writeControl (asciiBytes "AT+STATE?\r\n".toList) 2,
    .writeControl (asciiBytes "AT+STOP\r\n".toList) 2,
    .writeControl (asciiBytes "AT+STATE?\r\n".toList) 2]

end FakeTransport

end SensorHost.Transport
