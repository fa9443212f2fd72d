import SensorHost.Presentation.Steps

/-!
# What an operation can do

From a well-formed state, an operation is a chain of steps (`Leads`). The rules come first: steps of
one session, loops over the sessions, and the parts that operations share. Behind them is one lemma
for each operation, with the labels that it uses.

`Leads` has the state's being well-formed as a hypothesis and `Chain.wellFormed` hands it on, so
that chains are put together by `Leads.trans` without a word about it. `Leads.setSession` and its
kin take one step of a session; `leads_forSessions` and `leads_mapSessions` are inductions over the
sessions.

What a queued command asks for is read line by line (`commandLines`), and the lemmas about
`commandKind` compute it for the texts that operations build: a fixed line, or one behind which a
number or a target follows.
-/

namespace SensorHost.Presentation
open SensorHost.Lib SensorHost.Protocol SensorHost.Storage SensorHost.Acquisition SensorHost.Ota
  SensorHost.Transport

variable (crc32 : Bytes → UInt32)

/-- From a well-formed state, the operation is a chain of steps with labels of the given kind. -/
def Leads (P : Label → Prop) (c c' : AppController) : Prop := WellFormed c → Chain crc32 P c c'

section Rules

variable {crc32} {P Q : Label → Prop} {c c' d : AppController} {s s' : ManagedSession}

/-- A chain keeps the controller well formed. -/
lemma Chain.wellFormed (h : Chain crc32 P c c') (wf : WellFormed c) : WellFormed c' := by
  induction h with
  | refl => exact wf
  | tail _ hstep ih =>
    obtain ⟨l, -, hstep⟩ := hstep
    exact hstep.wellFormed ih

/-- Its labels are also of every wider kind. -/
lemma Chain.mono (hPQ : ∀ l, P l → Q l) (h : Chain crc32 P c c') : Chain crc32 Q c c' := by
  induction h with
  | refl => exact .refl
  | tail _ hstep ih =>
    obtain ⟨l, hl, hstep⟩ := hstep
    exact .tail ih ⟨l, hPQ l hl, hstep⟩

/-- What every step of the chain keeps holds behind it. -/
lemma Chain.invariant {I : AppController → Prop}
    (hstep : ∀ a l b, WellFormed a → I a → P l → Step crc32 a l b → I b)
    (h : Chain crc32 P c c') (wf : WellFormed c) (hc : I c) : I c' := by
  have hboth : WellFormed c' ∧ I c' := by
    induction h with
    | refl => exact ⟨wf, hc⟩
    | tail _ hlast ih =>
      obtain ⟨l, hl, hlast⟩ := hlast
      exact ⟨hlast.wellFormed ih.1, hstep _ l _ ih.1 ih.2 hl hlast⟩
  exact hboth.2

/-- Sessions are only added. -/
lemma Chain.nextSession_le (h : Chain crc32 P c c') : c.nextSession ≤ c'.nextSession := by
  induction h with
  | refl => exact le_rfl
  | tail _ hstep ih =>
    obtain ⟨l, -, hstep⟩ := hstep
    exact ih.trans hstep.nextSession_le

/-- A chain whose labels all spare a session keeps it. -/
lemma Chain.keeps {x : Nat} (hP : ∀ l, P l → l.Spares x) (h : Chain crc32 P c c')
    (wf : WellFormed c) (hx : x < c.nextSession) : Keeps x c c' := by
  induction h with
  | refl => exact Keeps.refl x c
  | tail hchain hstep ih =>
    obtain ⟨l, hl, hstep⟩ := hstep
    have hle := Chain.nextSession_le hchain
    exact ih.trans (hstep.keeps (Chain.wellFormed hchain wf) (hP l hl) (hx.trans_le hle))

/-- Nothing done is a chain. -/
lemma Leads.refl (c : AppController) : Leads crc32 P c c := fun _ => .refl

/-- Operations are chained one after the other. -/
lemma Leads.trans (h : Leads crc32 P c c') (h' : Leads crc32 P c' d) : Leads crc32 P c d := by
  intro wf
  have hc := h wf
  exact Relation.ReflTransGen.trans hc (h' (hc.wellFormed wf))

/-- Their labels are also of every wider kind. -/
lemma Leads.mono (hPQ : ∀ l, P l → Q l) (h : Leads crc32 P c c') : Leads crc32 Q c c' :=
  fun wf => (h wf).mono hPQ

/-- A step is a chain. -/
lemma Leads.step {l : Label} (hl : P l) (h : Step crc32 c l c') : Leads crc32 P c c' :=
  fun _ => .single ⟨l, hl, h⟩

/-- So is a change outside the core. -/
lemma Leads.outside (hP : P .outside) (h : Outside c c') : Leads crc32 P c c' :=
  .step hP (.outside h)

/-- So is a step of a session. -/
lemma Leads.session {l : SessionLabel} {R : Recorders} (hP : P (.session s.sid l))
    (live : s ∈ c.sessions) (h : SessionStep crc32 s c.recorders l s' R) :
    Leads crc32 P c ({ c with recorders := R }.setSession s') :=
  .step hP (.session live h)

/-- A step of one session that leaves the recorders alone. -/
lemma Leads.setSession {l : SessionLabel} (hP : P (.session s.sid l)) (live : s ∈ c.sessions)
    (h : SessionStep crc32 s c.recorders l s' c.recorders) : Leads crc32 P c (c.setSession s') :=
  Leads.session hP live h

/-- What keeps the core and emits nothing is outside of it. -/
lemma Outside.of_core (hcore : c'.core = c.core) (hnext : c.nextRecorder ≤ c'.nextRecorder)
    (hsignals : c'.signals = c.signals) : Outside c c' :=
  ⟨hcore, hnext, [], by rw [hsignals, List.append_nil], fun _ h => by cases h⟩

/-- An error is outside the core. -/
lemma outside_raiseError (c : AppController) (message : Text) : Outside c (c.raiseError message) :=
  .emit rfl

/-- `_emit_ota_availability` is outside the core. -/
lemma outside_emitOtaAvailability (c : AppController) : Outside c c.emitOtaAvailability := by
  unfold AppController.emitOtaAvailability
  split
  · exact .emit rfl
  · split
    · exact .emit rfl
    · split
      · exact .emit rfl
      · exact .emit rfl

/-- `_emit_nodes` is outside the core. -/
lemma outside_emitNodes (c : AppController) : Outside c c.emitNodes :=
  Outside.trans (.emit rfl) (outside_emitOtaAvailability _)

/-- `_release_gateway_client` is outside the core. -/
lemma outside_releaseGatewayClient (c : AppController) (connectionId : Text) :
    Outside c (c.releaseGatewayClient connectionId) := .of_core rfl le_rfl rfl

/-- Marking a recording in the inventory is outside the core. -/
lemma outside_setRecording (wf : WellFormed c) (nodeId : Text) (isRecording : Bool) :
    Outside c (c.withIndex (c.sessionIndex.setRecording nodeId isRecording)) := by
  unfold AppController.withIndex
  cases hset : c.sessionIndex.setRecording nodeId isRecording with
  | error error => exact .refl c
  | ok sessionIndex =>
    refine .of_core ?_ le_rfl rfl
    unfold AppController.core
    dsimp only
    rw [wf.keyed.setRecording_core hset]

/-- Stopping a recorder changes it, and may raise an error. -/
lemma outside_stopRecorder (c : AppController) (h : Host) (id : Nat) :
    Outside { c with
      recorders := Function.update c.recorders id ((c.recorders id).drain (h.writerRuns id)).1 }
      (c.stopRecorder h id).1 := by
  unfold AppController.stopRecorder
  cases hstop : (c.recorders id).stop (h.writerRuns id) (h.metadataError id) with
  | mk r result =>
    have hstopped := RawSessionRecorder.stop_fst (c.recorders id) (h.writerRuns id)
      (h.metadataError id)
    rw [hstop] at hstopped
    rw [← hstopped]
    cases result with
    | ok summary => exact .refl _
    | error error =>
      cases error with
      | runtime error => exact outside_raiseError _ _
      | osError message => exact .refl _

/-- A recorder is stopped the same before or behind a change of a session. -/
lemma stopRecorder_setSession (c : AppController) (h : Host) (id : Nat) (s : ManagedSession) :
    ((c.setSession s).stopRecorder h id).1 = (c.stopRecorder h id).1.setSession s := by
  unfold AppController.stopRecorder
  have hsame : (c.setSession s).recorders = c.recorders := rfl
  rw [hsame]
  cases hstop : (c.recorders id).stop (h.writerRuns id) (h.metadataError id) with
  | mk r result =>
    cases result with
    | ok summary => rfl
    | error error =>
      cases error with
      | runtime error => rfl
      | osError message => rfl

/-- A session that is found by its node is there. -/
lemma session?_some {nodeId : Text} (h : c.session? nodeId = some s) :
    s ∈ c.sessions ∧ s.nodeId = nodeId := by
  have hid := List.find?_some h
  exact ⟨List.mem_of_find?_eq_some h, beq_iff_eq.mp hid⟩

/-- So is one that is found by its identity. -/
lemma sessionBySid?_some {sid : Nat} (h : c.sessionBySid? sid = some s) :
    s ∈ c.sessions ∧ s.sid = sid := by
  have hid := List.find?_some h
  exact ⟨List.mem_of_find?_eq_some h, beq_iff_eq.mp hid⟩

/-- A session that is there is found. -/
lemma WellFormed.sessionBySid? (wf : WellFormed c) (live : s ∈ c.sessions) :
    c.sessionBySid? s.sid = some s := by
  cases hfind : c.sessionBySid? s.sid with
  | some t =>
    obtain ⟨ht, hsid⟩ := sessionBySid?_some hfind
    rw [wf.eq_of_sid ht live hsid]
  | none => exact absurd (List.find?_eq_none.mp hfind s live) (fun h => h (beq_self_eq_true _))

/-- Putting a session where it is changes nothing. -/
lemma WellFormed.setSession_self (wf : WellFormed c) (live : s ∈ c.sessions) :
    c.setSession s = c := by
  have hsame : c.sessions.map (fun t => if t.sid = s.sid then s else t) = c.sessions := by
    refine (List.map_congr_left ?_).trans c.sessions.map_id
    intro t ht
    split
    · rename_i heq
      exact (wf.eq_of_sid ht live heq).symm
    · rfl
  unfold AppController.setSession
  rw [hsame]

/-- Of two changes of a session the second one counts. -/
lemma setSession_setSession (h : s'.sid = s.sid) :
    (c.setSession s).setSession s' = c.setSession s' := by
  have hsame : (c.sessions.map fun t => if t.sid = s.sid then s else t).map
      (fun t => if t.sid = s'.sid then s' else t) =
        c.sessions.map fun t => if t.sid = s'.sid then s' else t := by
    rw [List.map_map]
    refine List.map_congr_left ?_
    intro t _
    rw [Function.comp_apply]
    by_cases heq : t.sid = s.sid
    · rw [if_pos heq, if_pos h.symm, if_pos (heq.trans h.symm)]
    · rw [if_neg heq]
  unfold AppController.setSession
  dsimp only
  rw [hsame]

/-- What is done where the session is looked up first. -/
lemma leads_withSession {nodeId : Text} {f : ManagedSession → AppController} (hout : P .outside)
    (h : ∀ s ∈ c.sessions, s.nodeId = nodeId → Leads crc32 P c (f s)) :
    Leads crc32 P c (c.withSession nodeId f) := by
  unfold AppController.withSession
  cases hsession : c.session? nodeId with
  | none => exact .outside hout (outside_raiseError _ _)
  | some s => exact h s (session?_some hsession).1 (session?_some hsession).2

/-- What is done where the node has to be selected. -/
lemma leads_withSelected {message : String} {f : Text → AppController} (hout : P .outside)
    (h : ∀ nodeId, Leads crc32 P c (f nodeId)) :
    Leads crc32 P c (c.withSelected message f) := by
  unfold AppController.withSelected
  cases c.selectedNodeId with
  | none => exact .outside hout (outside_raiseError _ _)
  | some nodeId => exact h nodeId

/-- What is done where the session may be gone. -/
lemma leads_onSession {sid : Nat} {f : AppController → ManagedSession → AppController}
    (h : ∀ s ∈ c.sessions, s.sid = sid → Leads crc32 P c (f c s)) :
    Leads crc32 P c (c.onSession sid f) := by
  unfold AppController.onSession
  cases hsession : c.sessionBySid? sid with
  | none => exact .refl c
  | some s => exact h s (sessionBySid?_some hsession).1 (sessionBySid?_some hsession).2

/-- A loop over the sessions. -/
lemma leads_forSessions {f : AppController → ManagedSession → AppController}
    (h : ∀ c, ∀ s ∈ c.sessions, Leads crc32 P c (f c s)) : Leads crc32 P c (c.forSessions f) := by
  unfold AppController.forSessions
  generalize c.sessions.map ManagedSession.sid = sids
  induction sids generalizing c with
  | nil => exact .refl c
  | cons sid sids ih =>
    rw [List.foldl_cons]
    refine Leads.trans ?_ ih
    cases hsession : c.sessionBySid? sid with
    | none => exact .refl c
    | some s => exact h c s (sessionBySid?_some hsession).1

/-- A change of every session, each by a step or not at all. -/
lemma leads_mapSessions {f : ManagedSession → ManagedSession}
    (h : ∀ s, f s = s ∨ ∃ l, P (.session s.sid l) ∧
      SessionStep crc32 s c.recorders l (f s) c.recorders) : Leads crc32 P c (c.mapSessions f) := by
  have hsid : ∀ s, (f s).sid = s.sid := by
    intro s
    cases h s with
    | inl heq => rw [heq]
    | inr hstep =>
      obtain ⟨l, -, hstep⟩ := hstep
      exact hstep.sid
  -- the sessions before the split are changed, the ones behind it are not yet
  have hsplit : ∀ todo done : List ManagedSession,
      Leads crc32 P { c with sessions := done.map f ++ todo }
        { c with sessions := (done ++ todo).map f } := by
    intro todo
    induction todo with
    | nil =>
      intro done
      rw [List.append_nil, List.append_nil]
      exact .refl _
    | cons s todo ih =>
      intro done
      have hnext := ih (done ++ [s])
      rw [List.append_assoc, List.singleton_append, List.map_append, List.map_singleton,
        List.append_assoc, List.singleton_append] at hnext
      refine Leads.trans ?_ hnext
      intro wf
      have hlive : s ∈ done.map f ++ s :: todo := List.mem_append_right _ List.mem_cons_self
      have hset : { c with sessions := done.map f ++ s :: todo }.setSession (f s) =
          { c with sessions := done.map f ++ f s :: todo } := by
        have hnodup := wf.nodup
        dsimp only at hnodup
        rw [List.map_append, List.map_cons, List.nodup_append] at hnodup
        obtain ⟨-, htodo, hdone⟩ := hnodup
        have h1 : (done.map f).map (fun t => if t.sid = (f s).sid then f s else t) = done.map f := by
          refine (List.map_congr_left ?_).trans (List.map_id _)
          intro t ht
          rw [if_neg]
          · rfl
          · intro heq
            exact hdone t.sid (List.mem_map_of_mem ht) s.sid List.mem_cons_self
              (heq.trans (hsid s))
        have h2 : todo.map (fun t => if t.sid = (f s).sid then f s else t) = todo := by
          refine (List.map_congr_left ?_).trans (List.map_id _)
          intro t ht
          rw [if_neg]
          · rfl
          · intro heq
            refine (List.nodup_cons.mp htodo).1 ?_
            rw [← hsid s, ← heq]
            exact List.mem_map_of_mem ht
        unfold AppController.setSession
        dsimp only
        rw [List.map_append, List.map_cons, h1, h2, if_pos (hsid s).symm]
      cases h s with
      | inl heq =>
        rw [heq]
        exact .refl
      | inr hstep =>
        obtain ⟨l, hl, hstep⟩ := hstep
        rw [← hset]
        exact .single ⟨_, hl, .session (c := { c with sessions := done.map f ++ s :: todo }) hlive hstep⟩
  exact hsplit c.sessions []

/-- A queued command asks for nothing exactly if none of its lines does. -/
lemma commandKind_eq_other {command : Bytes} :
    commandKind command = .other ↔ ∀ line ∈ commandLines command, lineKind line = .other := by
  unfold commandKind
  cases hfind : ((commandLines command).map lineKind).find? (· != .other) with
  | none =>
    refine iff_of_true rfl ?_
    intro line hline
    have hnone := List.find?_eq_none.mp hfind _ (List.mem_map_of_mem hline)
    rwa [bne_iff_ne, not_not] at hnone
  | some kind =>
    have hkind : kind ≠ .other := bne_iff_ne.mp
      (List.find?_some (p := fun kind => kind != CommandKind.other) hfind)
    refine iff_of_false hkind ?_
    intro hall
    obtain ⟨line, hline, heq⟩ := List.mem_map.mp (List.mem_of_find?_eq_some hfind)
    exact hkind (heq.symm.trans (hall line hline))

/-- What the first line asks for is what the command asks for. -/
lemma commandKind_cons {command line : Bytes} {lines : List Bytes}
    (h : commandLines command = line :: lines) (hasks : lineKind line ≠ .other) :
    commandKind command = lineKind line := by
  unfold commandKind
  have hpos : (lineKind line != CommandKind.other) = true := bne_iff_ne.mpr hasks
  rw [h, List.map_cons, List.find?_cons_of_pos (p := fun kind => kind != CommandKind.other) hpos]
  rfl

/-- Bytes with no line end in front of a command go to its first line. -/
lemma commandLines_append {start : Bytes} (h : ∀ b ∈ start, isLineByte b = false)
    (command : Bytes) :
    commandLines (start ++ command) = (commandLines command).modifyHead (start ++ ·) := by
  unfold commandLines
  induction start with
  | nil =>
    rw [List.nil_append]
    cases command.splitOnP isLineByte with
    | nil => rfl
    | cons line lines => rfl
  | cons b start ih =>
    rw [List.cons_append, List.splitOnP_cons_eq_if_modifyHead,
      if_neg (Bool.eq_false_iff.mp (h b List.mem_cons_self)),
      ih fun b hb => h b (List.mem_cons_of_mem _ hb)]
    cases command.splitOnP isLineByte with
    | nil => rfl
    | cons line lines => rfl

/-- A line that begins like an export asks for one, whatever its target is. -/
lemma lineKind_export (target : Bytes) :
    lineKind (asciiBytes "AT+EXPORT=".toList ++ target) = .archiveExport := by
  have hhead : commandText (asciiBytes "AT+EXPORT=".toList) = "AT+EXPORT=".toList := by decide +kernel
  have hupper : upper "AT+EXPORT=".toList = "AT+EXPORT=".toList := by decide +kernel
  have htext : ∃ rest, upper (strip (commandText (asciiBytes "AT+EXPORT=".toList ++ target))) =
      "AT+EXPORT=".toList ++ rest := by
    have hsplit : commandText (asciiBytes "AT+EXPORT=".toList ++ target) =
        "AT+EXPORT=".toList ++ commandText target := by
      rw [← hhead]
      exact List.map_append
    refine ⟨upper ((commandText target).reverse.dropWhile isSpaceChar).reverse, ?_⟩
    have hne : "AT+EXPORT=".toList ≠ [] := by decide
    have hstrip := stripBy_append (p := isSpaceChar) hne rfl rfl (commandText target)
    rw [hsplit, strip, hstrip, upper, List.flatMap_append]
    exact congrArg (· ++ _) hupper
  obtain ⟨rest, htext⟩ := htext
  unfold lineKind
  dsimp only
  rw [htext]
  -- the line starts with `AT+E`, and a start does not
  have hstart : isRequest "AT+START".toList ("AT+EXPORT=".toList ++ rest) = false := rfl
  have hexport : isRequest "AT+EXPORT".toList ("AT+EXPORT=".toList ++ rest) = true := by
    unfold isRequest
    rw [Bool.or_eq_true]
    exact .inr (startsWith_append _ _)
  rw [hstart, hexport]
  rfl

/-- The command of an export to any target. -/
lemma commandKind_exportTo (target : Text) :
    commandKind (asciiBytes ("AT+EXPORT=" ++ String.ofList target).toList) = .archiveExport := by
  have hsplit : asciiBytes ("AT+EXPORT=" ++ String.ofList target).toList =
      asciiBytes "AT+EXPORT=".toList ++ asciiBytes target := by
    unfold asciiBytes
    rw [String.toList_append, String.toList_ofList, String.toList_ofList]
    exact List.map_append
  have hplain : ∀ b ∈ asciiBytes "AT+EXPORT=".toList, isLineByte b = false := by decide +kernel
  obtain ⟨line, lines, hlines⟩ :=
    List.exists_cons_of_ne_nil (List.splitOnP_ne_nil isLineByte (asciiBytes target))
  have hcut := commandLines_append hplain (asciiBytes target)
  rw [commandLines, commandLines, hlines, List.modifyHead_cons] at hcut
  have hkind := lineKind_export line
  rw [hsplit, commandKind_cons hcut (by rw [hkind]; decide), hkind]

/-- A command that is accepted is queued, by a step of its kind. -/
lemma enqueueCommand_ok {a : AcquisitionController} {command : Text}
    (h : s.acquisition.enqueueCommand command = .ok a) :
    ∃ encoded, encodeAscii (strip command) = some encoded ∧
      { s with acquisition := a } = s.queued encoded := by
  unfold AcquisitionController.enqueueCommand at h
  cases hencode : encodeAscii (strip command) with
  | none =>
    rw [hencode] at h
    cases h
  | some encoded =>
    rw [hencode] at h
    dsimp only at h
    split at h
    · cases h
    · cases h
      exact ⟨encoded, rfl, rfl⟩

/-- What queueing a command of the host does. -/
lemma leads_queueCommand {command : String} {k : CommandKind} (live : s ∈ c.sessions)
    (asks : commandKind (asciiBytes command.toList) = k) (hP : P (.session s.sid (.queue k))) :
    Leads crc32 P c (c.setAcquisition s (s.acquisition.queueCommand command)) :=
  .setSession hP live (.queue _ k asks)

/-- What queueing a typed text does. -/
lemma leads_enqueue {command : Text} (hout : P .outside) (live : s ∈ c.sessions)
    (hP : ∀ encoded, encodeAscii (strip command) = some encoded →
      P (.session s.sid (.queue (commandKind encoded)))) :
    Leads crc32 P c (c.enqueue s (s.acquisition.enqueueCommand command)) := by
  cases hresult : s.acquisition.enqueueCommand command with
  | error message => exact .outside hout (outside_raiseError _ _)
  | ok a =>
    obtain ⟨encoded, hencode, heq⟩ := enqueueCommand_ok hresult
    show Leads crc32 P c (c.setSession { s with acquisition := a })
    rw [heq]
    exact .setSession (hP encoded hencode) live (.queue _ _ rfl)

/-- What queueing a watermark does. -/
lemma leads_setWatermark {words : Int} (hout : P .outside) (live : s ∈ c.sessions)
    (hP : P (.session s.sid (.queue .other))) :
    Leads crc32 P c (c.enqueue s (s.acquisition.setWatermark words)) := by
  have hkind : ∀ w : Int, w = 128 ∨ w = 256 ∨ w = 511 → ∀ encoded,
      encodeAscii (strip ("acq watermark ".toList ++ renderInt w)) = some encoded →
        commandKind encoded = .other := by
    intro w hw encoded hencode
    obtain rfl | rfl | rfl := hw
    · cases hencode.symm.trans (by decide +kernel : _ = some (asciiBytes "acq watermark 128".toList))
      decide +kernel
    · cases hencode.symm.trans (by decide +kernel : _ = some (asciiBytes "acq watermark 256".toList))
      decide +kernel
    · cases hencode.symm.trans (by decide +kernel : _ = some (asciiBytes "acq watermark 511".toList))
      decide +kernel
  unfold AcquisitionController.setWatermark
  split
  · exact .outside hout (outside_raiseError _ _)
  · rename_i hw
    refine leads_enqueue hout live ?_
    intro encoded hencode
    rw [hkind words (by omega) encoded hencode]
    exact hP

/-- What queueing a target of the live stream does. -/
lemma leads_setLivestream {target : Text} (hout : P .outside) (live : s ∈ c.sessions)
    (hP : P (.session s.sid (.queue .other))) :
    Leads crc32 P c (c.enqueue s (s.acquisition.setLivestream target)) := by
  have hkind : ∀ t : Text, t = "UART".toList ∨ t = "CDC".toList → ∀ encoded,
      encodeAscii (strip ("AT+LIVESTREAM=".toList ++ t)) = some encoded →
        commandKind encoded = .other := by
    intro t ht encoded hencode
    obtain rfl | rfl := ht
    · cases hencode.symm.trans (by decide +kernel : _ = some (asciiBytes "AT+LIVESTREAM=UART".toList))
      decide +kernel
    · cases hencode.symm.trans (by decide +kernel : _ = some (asciiBytes "AT+LIVESTREAM=CDC".toList))
      decide +kernel
  unfold AcquisitionController.setLivestream
  split
  · exact .outside hout (outside_raiseError _ _)
  · rename_i ht
    refine leads_enqueue hout live ?_
    intro encoded hencode
    rw [hkind (upper target) (by tauto) encoded hencode]
    exact hP

/-- A recorder is new if its file opens. -/
lemma newRecorder_ok {h : Host} {id : Nat} {path : Path} {deviceUuid : Option Uuid}
    {r : RawSessionRecorder} (hr : AppController.newRecorder h id path deviceUuid = .ok r) :
    h.fileError id = none ∧ r = startedRecorder path deviceUuid := by
  unfold AppController.newRecorder at hr
  split at hr
  · cases hr
  · rename_i hfile
    cases hr
    exact ⟨hfile, rfl⟩

/-- What `_start_session_recording` does, step by step. -/
lemma leads_startSessionRecording (h : Host) (hout : P .outside) (hattach : P (.attach s.sid))
    (live : s ∈ c.sessions) : Leads crc32 P c (c.startSessionRecording h s) := by
  unfold AppController.startSessionRecording
  split
  · exact .refl c
  · rename_i hfree
    have hfree := Option.not_isSome_iff_eq_none.mp hfree
    cases hsummary : c.sessionIndex.summary s.nodeId with
    | error error => exact .refl c
    | ok summary =>
      dsimp only
      generalize AppController.putCount c.segmentCounts _ _ = segmentCounts
      generalize c.recordingBatchPath.getD [] ++ _ = path
      have hcounts : Outside c { c with segmentCounts := segmentCounts } := .of_core rfl le_rfl rfl
      split
      · refine .outside hout (hcounts.trans (Outside.trans (.of_core ?_ ?_ ?_) (.emit rfl)))
        · rfl
        · exact Nat.le_succ _
        · rfl
      · rename_i r hr
        obtain ⟨-, rfl⟩ := newRecorder_ok hr
        refine (Leads.outside hout hcounts).trans ?_
        have hbound : c.deviceUuid s.nodeId = summary.deviceUuid := by
          unfold AppController.deviceUuid
          rw [hsummary]
        rw [← hbound]
        refine Leads.trans (.step hattach
          (.attach (c := { c with segmentCounts := segmentCounts }) path live hfree)) ?_
        exact fun wf => .single ⟨_, hout, .outside (outside_setRecording wf _ _)⟩

/-- Stopping a recorder changes the recorders and the signals only. -/
lemma stopRecorder_eq (c : AppController) (h : Host) (id : Nat) :
    ∃ recorders signals, (c.stopRecorder h id).1 = { c with recorders, signals } := by
  unfold AppController.stopRecorder
  cases hstop : (c.recorders id).stop (h.writerRuns id) (h.metadataError id) with
  | mk r result =>
    cases result with
    | ok summary => exact ⟨_, c.signals, rfl⟩
    | error error =>
      cases error with
      | runtime error => exact ⟨_, _, rfl⟩
      | osError message => exact ⟨_, c.signals, rfl⟩

/-- The session without its recorders. -/
def ManagedSession.released (s : ManagedSession) (R : Recorders) : ManagedSession :=
  let acquisition := if s.recorder.isSome then (s.acquisition.setRecorder R none).1
    else s.acquisition
  { s with
    acquisition := if s.archiveRecorder.isSome then acquisition.setArchiveRecorder none
      else acquisition
    recorder := none
    archiveRecorder := none }

/-- `_finalize_session_recorders` writes the session back, the recorders and the signals only. -/
lemma finalizeSessionRecorders_eq (c : AppController) (h : Host) (s : ManagedSession) :
    ∃ recorders signals, c.finalizeSessionRecorders h s =
      { c.setSession (s.released c.recorders) with recorders, signals } := by
  have hstop := fun (d : AppController) id => stopRecorder_eq d h id
  unfold AppController.finalizeSessionRecorders
  obtain ⟨d, hd⟩ : ∃ d, c.setSession (s.released c.recorders) = d := ⟨_, rfl⟩
  rw [hd]
  unfold ManagedSession.released at hd
  dsimp only at hd ⊢
  rw [hd]
  cases s.recorder with
  | none =>
    cases s.archiveRecorder with
    | none => exact ⟨d.recorders, d.signals, rfl⟩
    | some id' => exact hstop d id'
  | some id =>
    obtain ⟨R, signals, heq⟩ := hstop d id
    cases s.archiveRecorder with
    | none => exact ⟨R, signals, heq⟩
    | some id' =>
      obtain ⟨R', signals', heq'⟩ := hstop { d with recorders := R, signals := signals } id'
      dsimp only
      rw [heq]
      exact ⟨R', signals', heq'⟩

/-- Taking away a recorder that is not there changes nothing. -/
lemma ManagedSession.recorder_none (h : s.recorder = none) : { s with recorder := none } = s := by
  cases s
  cases h
  rfl

/-- Nor does it with the archive recorder. -/
lemma ManagedSession.archiveRecorder_none (h : s.archiveRecorder = none) :
    { s with archiveRecorder := none } = s := by
  cases s
  cases h
  rfl

/-- The session without its recorder. -/
def ManagedSession.unrecorded (s : ManagedSession) (R : Recorders) : ManagedSession :=
  { s with recorder := none, acquisition := (s.acquisition.setRecorder R none).1 }

/-- The session without its archive recorder. -/
def ManagedSession.unarchived (s : ManagedSession) : ManagedSession :=
  { s with archiveRecorder := none, acquisition := s.acquisition.setArchiveRecorder none }

/-- What taking the recorder away and stopping it does. -/
lemma leads_unrecorded (h : Host) (hout : P .outside) (hdetach : P (.session s.sid .detach))
    (live : s ∈ c.sessions) {id : Nat} (attached : s.recorder = some id) :
    Leads crc32 P c ((c.setSession (s.unrecorded c.recorders)).stopRecorder h id).1 := by
  have hstep : Leads crc32 P c
      ({ c with
        recorders := Function.update c.recorders id
          ((c.recorders id).drain (h.writerRuns id)).1 }.setSession (s.unrecorded c.recorders)) :=
    .session hdetach live (.detach id attached (h.writerRuns id))
  exact hstep.trans (.outside hout (outside_stopRecorder (c.setSession (s.unrecorded c.recorders)) h id))

/-- What taking the archive recorder away and stopping it does. -/
lemma leads_unarchived (h : Host) (hout : P .outside) (hexport : P (.session s.sid .exportDetach))
    (live : s ∈ c.sessions) {id : Nat} (attached : s.archiveRecorder = some id) :
    Leads crc32 P c ((c.setSession s.unarchived).stopRecorder h id).1 := by
  have hstep : Leads crc32 P c
      ({ c with
        recorders := Function.update c.recorders id
          ((c.recorders id).drain (h.writerRuns id)).1 }.setSession s.unarchived) := by
    refine .session hexport live ?_
    have hstep : SessionStep crc32 s c.recorders .exportDetach _ _ :=
      .exportDetach id attached true (h.writerRuns id)
    rw [Bool.true_and] at hstep
    exact hstep
  exact hstep.trans (.outside hout (outside_stopRecorder (c.setSession s.unarchived) h id))

/-- What `_stop_session_recording` does, step by step. -/
lemma leads_stopSessionRecording (h : Host) (hout : P .outside) (live : s ∈ c.sessions)
    (hdetach : P (.session s.sid .detach)) (hcancel : P (.session s.sid .cancelDeferral)) :
    Leads crc32 P c (c.stopSessionRecording h s) := by
  unfold AppController.stopSessionRecording
  cases hrecorder : s.recorder with
  | none => exact .setSession hcancel live (.cancelDeferral hrecorder)
  | some id =>
    refine Leads.trans (leads_unrecorded h hout hdetach live hrecorder) ?_
    exact fun wf => .single ⟨_, hout, .outside (outside_setRecording wf _ _)⟩

/-- One step for each recorder that there is, in the order in which they are stopped. -/
lemma leads_finalizeSessionRecorders (h : Host) (hout : P .outside)
    (hdetach : P (.session s.sid .detach)) (hexport : P (.session s.sid .exportDetach))
    (live : s ∈ c.sessions) : Leads crc32 P c (c.finalizeSessionRecorders h s) := by
  unfold AppController.finalizeSessionRecorders
  cases hrecorder : s.recorder with
  | none =>
    cases harchive : s.archiveRecorder with
    | none =>
      intro wf
      have hsame := ManagedSession.archiveRecorder_none (s := { s with recorder := none }) harchive
      show Chain crc32 P c (c.setSession { s with recorder := none, archiveRecorder := none })
      rw [hsame, ManagedSession.recorder_none hrecorder, wf.setSession_self live]
      exact .refl
    | some id' =>
      have hlead : Leads crc32 P c _ := leads_unarchived h hout hexport live harchive
      unfold ManagedSession.unarchived at hlead
      rw [← ManagedSession.recorder_none hrecorder] at hlead
      exact hlead
  | some id =>
    have hlead : Leads crc32 P c _ := leads_unrecorded h hout hdetach live hrecorder
    cases harchive : s.archiveRecorder with
    | none =>
      have hsame := ManagedSession.archiveRecorder_none (s := s.unrecorded c.recorders) harchive
      rw [← hsame] at hlead
      exact hlead
    | some id' =>
      have hmem : s.unrecorded c.recorders ∈
          ((c.setSession (s.unrecorded c.recorders)).stopRecorder h id).1.sessions := by
        obtain ⟨R, signals, heq⟩ := stopRecorder_eq (c.setSession (s.unrecorded c.recorders)) h id
        rw [heq]
        exact AppController.mem_setSession_self live rfl
      -- the archive is closed in the state that closing the recording has left
      refine hlead.trans ?_
      have hnext : Leads crc32 P _ _ := 
        leads_unarchived (s := s.unrecorded c.recorders) h hout hexport hmem harchive
      have hsid : (s.unrecorded c.recorders).unarchived.sid = (s.unrecorded c.recorders).sid := rfl
      rw [← stopRecorder_setSession, setSession_setSession hsid] at hnext
      exact hnext

end Rules

end SensorHost.Presentation
