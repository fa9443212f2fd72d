import SensorHost.Lib.Gives
import SensorHost.Lib.Numeral
import SensorHost.Protocol.ControlState

/-!
# Lines as assignments

What a line of a reply says does not depend on the state it is read on: it fails, or it is a list of
assignments of values to fields (`lineAssignments`, `parseLineInto_says`), and these are the fields that
the line names (`lineAssignments_fields`).

The fields are an inductive type with a type of values for each (`ControlField`,
`ControlField.Value`), so that a list of assignments is a list of pairs and the lemmas on getting
and setting are stated once for all of them. A section is described by its keys (`SectionForm`), in
the order in which the source reads them, and `Says` relates an update of the source to the
assignments that this description gives.

Each parser of a section has one lemma (`says_parseSd` and its siblings), put together from
`Says.key`.
-/

namespace SensorHost.Protocol
open SensorHost.Lib

/-- What a field holds. -/
inductive FieldKind where
  | number
  | flag
  | text
  | uuid
  deriving DecidableEq

/-- The values of a kind. -/
abbrev FieldKind.Value : FieldKind → Type
  | .number => Nat
  | .flag => Bool
  | .text => Text
  | .uuid => Uuid

/-- The fields of the control state, apart from the revision. -/
inductive ControlField where
  | acquisitionState | uartBaud | deviceUuid | uuidSource | sdUsed | sdCapacity | sdPendingFrames
  | sdRetainedChunks | sdRetainedFrames | sdOverwrittenChunks | sdOverwrittenFrames | sdReady
  | sdFormatRequired | exportTarget | exportChunk | exportFrame | exportPhase | exportChunks
  | exportFrames | livestreamTarget | liveDropsIis | liveDropsJy | liveLastRoutedSequence
  | liveLastCompletedSequence | diagPoolFail | diagIngressDrop | diagNostoreDrop | diagPoolMin
  | diagIngressPeak | diagSdStallMs | diagCdcLive | diagCdcCtrl | diagCdcExport | stopReason
  | otaState | otaReceived | otaTotal | otaError
  deriving DecidableEq

namespace ControlField

/-- The kind of a field. -/
def kind : ControlField → FieldKind
  | .acquisitionState | .uuidSource | .exportTarget | .exportPhase | .livestreamTarget
  | .stopReason | .otaState => .text
  | .sdReady | .sdFormatRequired => .flag
  | .deviceUuid => .uuid
  | _ => .number

/-- The values of a field. -/
abbrev Value (f : ControlField) : Type := f.kind.Value

end ControlField

/-- A value for a field. -/
abbrev Assignment : Type := (f : ControlField) × f.Value

namespace FirmwareControlState

/-- The value of a field. -/
def get (s : FirmwareControlState) : (f : ControlField) → Option f.Value
  | .acquisitionState => s.acquisitionState
  | .uartBaud => s.uartBaud
  | .deviceUuid => s.deviceUuid
  | .uuidSource => s.uuidSource
  | .sdUsed => s.sdUsed
  | .sdCapacity => s.sdCapacity
  | .sdPendingFrames => s.sdPendingFrames
  | .sdRetainedChunks => s.sdRetainedChunks
  | .sdRetainedFrames => s.sdRetainedFrames
  | .sdOverwrittenChunks => s.sdOverwrittenChunks
  | .sdOverwrittenFrames => s.sdOverwrittenFrames
  | .sdReady => s.sdReady
  | .sdFormatRequired => s.sdFormatRequired
  | .exportTarget => s.exportTarget
  | .exportChunk => s.exportChunk
  | .exportFrame => s.exportFrame
  | .exportPhase => s.exportPhase
  | .exportChunks => s.exportChunks
  | .exportFrames => s.exportFrames
  | .livestreamTarget => s.livestreamTarget
  | .liveDropsIis => s.liveDropsIis
  | .liveDropsJy => s.liveDropsJy
  | .liveLastRoutedSequence => s.liveLastRoutedSequence
  | .liveLastCompletedSequence => s.liveLastCompletedSequence
  | .diagPoolFail => s.diagPoolFail
  | .diagIngressDrop => s.diagIngressDrop
  | .diagNostoreDrop => s.diagNostoreDrop
  | .diagPoolMin => s.diagPoolMin
  | .diagIngressPeak => s.diagIngressPeak
  | .diagSdStallMs => s.diagSdStallMs
  | .diagCdcLive => s.diagCdcLive
  | .diagCdcCtrl => s.diagCdcCtrl
  | .diagCdcExport => s.diagCdcExport
  | .stopReason => s.stopReason
  | .otaState => s.otaState
  | .otaReceived => s.otaReceived
  | .otaTotal => s.otaTotal
  | .otaError => s.otaError

/-- Set a field. -/
def set (s : FirmwareControlState) : (f : ControlField) → f.Value → FirmwareControlState
  | .acquisitionState, v => { s with acquisitionState := some v }
  | .uartBaud, v => { s with uartBaud := some v }
  | .deviceUuid, v => { s with deviceUuid := some v }
  | .uuidSource, v => { s with uuidSource := some v }
  | .sdUsed, v => { s with sdUsed := some v }
  | .sdCapacity, v => { s with sdCapacity := some v }
  | .sdPendingFrames, v => { s with sdPendingFrames := some v }
  | .sdRetainedChunks, v => { s with sdRetainedChunks := some v }
  | .sdRetainedFrames, v => { s with sdRetainedFrames := some v }
  | .sdOverwrittenChunks, v => { s with sdOverwrittenChunks := some v }
  | .sdOverwrittenFrames, v => { s with sdOverwrittenFrames := some v }
  | .sdReady, v => { s with sdReady := some v }
  | .sdFormatRequired, v => { s with sdFormatRequired := some v }
  | .exportTarget, v => { s with exportTarget := some v }
  | .exportChunk, v => { s with exportChunk := some v }
  | .exportFrame, v => { s with exportFrame := some v }
  | .exportPhase, v => { s with exportPhase := some v }
  | .exportChunks, v => { s with exportChunks := some v }
  | .exportFrames, v => { s with exportFrames := some v }
  | .livestreamTarget, v => { s with livestreamTarget := some v }
  | .liveDropsIis, v => { s with liveDropsIis := some v }
  | .liveDropsJy, v => { s with liveDropsJy := some v }
  | .liveLastRoutedSequence, v => { s with liveLastRoutedSequence := some v }
  | .liveLastCompletedSequence, v => { s with liveLastCompletedSequence := some v }
  | .diagPoolFail, v => { s with diagPoolFail := some v }
  | .diagIngressDrop, v => { s with diagIngressDrop := some v }
  | .diagNostoreDrop, v => { s with diagNostoreDrop := some v }
  | .diagPoolMin, v => { s with diagPoolMin := some v }
  | .diagIngressPeak, v => { s with diagIngressPeak := some v }
  | .diagSdStallMs, v => { s with diagSdStallMs := some v }
  | .diagCdcLive, v => { s with diagCdcLive := some v }
  | .diagCdcCtrl, v => { s with diagCdcCtrl := some v }
  | .diagCdcExport, v => { s with diagCdcExport := some v }
  | .stopReason, v => { s with stopReason := some v }
  | .otaState, v => { s with otaState := some v }
  | .otaReceived, v => { s with otaReceived := some v }
  | .otaTotal, v => { s with otaTotal := some v }
  | .otaError, v => { s with otaError := some v }

/-- A field that was set has the value. -/
@[simp] lemma get_set (s : FirmwareControlState) (f : ControlField) (v : f.Value) :
    (s.set f v).get f = some v := by
  cases f <;> rfl

/-- The others have theirs. -/
lemma get_set_other (s : FirmwareControlState) {f g : ControlField} (v : f.Value) (h : g ≠ f) :
    (s.set f v).get g = s.get g := by
  cases f <;> cases g <;> first | rfl | exact absurd rfl h

/-- No field is the export revision. -/
@[simp] lemma exportRevision_set (s : FirmwareControlState) (f : ControlField) (v : f.Value) :
    (s.set f v).exportRevision = s.exportRevision := by
  cases f <;> rfl

/-- Setting a field and changing the revision. -/
lemma set_revision (s : FirmwareControlState) (f : ControlField) (v : f.Value) (n : Nat) :
    { s with exportRevision := n }.set f v = { s.set f v with exportRevision := n } := by
  cases f <;> rfl

/-- Set fields one after the other. -/
def assign (s : FirmwareControlState) (as : List Assignment) : FirmwareControlState :=
  as.foldl (fun s a => s.set a.1 a.2) s

/-- Assignments are made one after the other. -/
lemma assign_append (s : FirmwareControlState) (as bs : List Assignment) :
    s.assign (as ++ bs) = (s.assign as).assign bs := List.foldl_append

/-- A field that is not assigned keeps its value. -/
lemma get_assign_other (s : FirmwareControlState) {as : List Assignment} {f : ControlField}
    (h : f ∉ as.map Sigma.fst) : (s.assign as).get f = s.get f := by
  induction as generalizing s with
  | nil => rfl
  | cons a as ih =>
    rw [List.map_cons, List.mem_cons, not_or] at h
    exact (ih (s.set a.1 a.2) h.2).trans (s.get_set_other a.2 h.1)

/-- Where no field is set twice, each has the value it was set to. -/
lemma get_assign (s : FirmwareControlState) {as : List Assignment}
    (h : (as.map Sigma.fst).Nodup) {a : Assignment} (ha : a ∈ as) :
    (s.assign as).get a.1 = some a.2 := by
  induction as generalizing s with
  | nil => cases ha
  | cons b as ih =>
    obtain ⟨hnew, hrest⟩ := List.nodup_cons.mp h
    rcases List.mem_cons.mp ha with rfl | ha
    · exact ((s.set a.1 a.2).get_assign_other hnew).trans (s.get_set a.1 a.2)
    · exact ih (s.set b.1 b.2) hrest ha

/-- No assignment touches the export revision. -/
@[simp] lemma exportRevision_assign (s : FirmwareControlState) (as : List Assignment) :
    (s.assign as).exportRevision = s.exportRevision := by
  induction as generalizing s with
  | nil => rfl
  | cons a as ih => exact (ih (s.set a.1 a.2)).trans (s.exportRevision_set a.1 a.2)

/-- Nor does the export revision touch an assignment. -/
lemma assign_revision (s : FirmwareControlState) (as : List Assignment) (n : Nat) :
    { s with exportRevision := n }.assign as = { s.assign as with exportRevision := n } := by
  induction as generalizing s with
  | nil => rfl
  | cons a as ih =>
    refine Eq.trans ?_ (ih (s.set a.1 a.2))
    exact congrArg (assign · as) (s.set_revision a.1 a.2 n)

end FirmwareControlState

/-- Read the value of a field of a kind. -/
def readValue : (k : FieldKind) → Text → Text → Except ControlStateError k.Value
  | .number, value, name => unsigned value name
  | .flag, value, name => boolean value name
  | .text, value, _ => .ok value
  | .uuid, value, _ =>
    match Uuid.ofText value with
    | none => parseError "invalid UUID response".toList
    | some uuid => .ok uuid

/-- The wire name of a key with its field. -/
abbrev Key : Type := String × ControlField

/-- The assignments of the keys that have a value, in the order of the keys. -/
def readKeys (values : List (Text × Text)) : List Key → Except ControlStateError (List Assignment)
  | [] => .ok []
  | (name, field) :: keys =>
    match values.lookup name.toList with
    | none => readKeys values keys
    | some value => do
      let v ← readValue field.kind value name.toList
      let later ← readKeys values keys
      return ⟨field, v⟩ :: later

/-- The keys of +SD. -/
def sdKeys : List Key :=
  [("USED", .sdUsed), ("CAPACITY", .sdCapacity), ("PENDING_FRAMES", .sdPendingFrames),
    ("RETAINED_CHUNKS", .sdRetainedChunks), ("RETAINED_FRAMES", .sdRetainedFrames),
    ("OVERWRITTEN_CHUNKS", .sdOverwrittenChunks), ("OVERWRITTEN_FRAMES", .sdOverwrittenFrames),
    ("READY", .sdReady), ("FORMAT_REQUIRED", .sdFormatRequired)]

/-- The keys of +EXPORT. -/
def exportKeys : List Key :=
  [("TARGET", .exportTarget), ("CHUNK", .exportChunk), ("FRAME", .exportFrame)]

/-- The keys of +LIVE. -/
def liveKeys : List Key :=
  [("TARGET", .livestreamTarget), ("DROPS_IIS", .liveDropsIis), ("DROPS_JY", .liveDropsJy),
    ("LAST_ROUTED_SEQUENCE", .liveLastRoutedSequence),
    ("LAST_COMPLETED_SEQUENCE", .liveLastCompletedSequence)]

/-- The keys of +DIAG. -/
def diagKeys : List Key :=
  [("POOL_FAIL", .diagPoolFail), ("INGRESS_DROP", .diagIngressDrop),
    ("NOSTORE_DROP", .diagNostoreDrop), ("POOL_MIN", .diagPoolMin),
    ("INGRESS_PEAK", .diagIngressPeak), ("SD_STALL_MS", .diagSdStallMs),
    ("CDC_LIVE", .diagCdcLive), ("CDC_CTRL", .diagCdcCtrl), ("CDC_EXPORT", .diagCdcExport)]

/-- The keys of +OTA. -/
def otaKeys : List Key :=
  [("STATE", .otaState), ("RECEIVED", .otaReceived), ("TOTAL", .otaTotal), ("ERROR", .otaError)]

/-- The keys of EXPORT_END. -/
def exportEndKeys : List Key := [("CHUNKS", .exportChunks), ("FRAMES", .exportFrames)]

/-- The key of +UUID, after the UUID itself. -/
def sourceKeys : List Key := [("SOURCE", .uuidSource)]

attribute [local instance] lawfulBEq_text in
/-- The fields whose keys occur in a content. -/
def keyFields (keys : List Key) (content : Text) : List ControlField :=
  (keys.filter fun k => k.1.toList ∈ (keyValueMatches content).map Prod.fst).map Prod.snd

/-- The form of what follows the name of a section. -/
inductive SectionForm where
  | whole (field : ControlField) (label : String)
  | keyed (keys : List Key)
  | uuid

/-- The assignments of +UUID. -/
def readUuid (content : Text) : Except ControlStateError (List Assignment) :=
  match splitOn ',' content with
  | [] => .ok []
  | first :: rest => do
    let uuid ← readValue .uuid first []
    if rest = [] then return [⟨.deviceUuid, uuid⟩]
    else do
      let values ← keyValues (",".toList.intercalate rest)
      let more ← readKeys values sourceKeys
      return ⟨.deviceUuid, uuid⟩ :: more

namespace SectionForm

/-- The assignments of a section. -/
def read : SectionForm → Text → Except ControlStateError (List Assignment)
  | .whole field label, content => do
    let v ← readValue field.kind content label.toList
    return [⟨field, v⟩]
  | .keyed keys, content => do readKeys (← keyValues content) keys
  | .uuid, content => readUuid content

/-- The fields that a section names. -/
def fields : SectionForm → Text → List ControlField
  | .whole field _, _ => [field]
  | .keyed keys, content => keyFields keys content
  | .uuid, content =>
    .deviceUuid :: keyFields sourceKeys (",".toList.intercalate (splitOn ',' content).tail)

end SectionForm

/-- The sections by their names. -/
def forms : List (String × SectionForm) :=
  [("+STATE:", .whole .acquisitionState "STATE"), ("+BAUD:", .whole .uartBaud "BAUD"),
    ("+UUID:", .uuid), ("+SD:", .keyed sdKeys), ("+EXPORT:", .keyed exportKeys),
    ("+LIVE:", .keyed liveKeys), ("+LIVESTREAM:", .whole .livestreamTarget "LIVESTREAM"),
    ("+DIAG:", .keyed diagKeys), ("+STOP_REASON:", .whole .stopReason "STOP_REASON"),
    ("+OTA:", .keyed otaKeys)]

/-- The assignments of an export event. -/
def eventAssignments (line : Text) : Except ControlStateError (List Assignment) :=
  if startsWith line "EXPORT_BEGIN:".toList then
    .ok [⟨.exportPhase, "IN_PROGRESS".toList⟩,
      ⟨.exportTarget, removePrefix line "EXPORT_BEGIN:".toList⟩]
  else if line = "EXPORT_EMPTY".toList then .ok [⟨.exportPhase, "EMPTY".toList⟩]
  else if line = "EXPORT_ABORTED".toList then .ok [⟨.exportPhase, "ABORTED".toList⟩]
  else if startsWith line "EXPORT_END:".toList then do
    let values ← keyValues (removePrefix line "EXPORT_END:".toList)
    let later ← readKeys values exportEndKeys
    return ⟨.exportPhase, "COMPLETE".toList⟩ :: later
  else .ok []

/-- The fields that an export event names. -/
def eventFields (line : Text) : List ControlField :=
  if startsWith line "EXPORT_BEGIN:".toList then [.exportPhase, .exportTarget]
  else if line = "EXPORT_EMPTY".toList then [.exportPhase]
  else if line = "EXPORT_ABORTED".toList then [.exportPhase]
  else if startsWith line "EXPORT_END:".toList then
    .exportPhase :: keyFields exportEndKeys (removePrefix line "EXPORT_END:".toList)
  else []

/-- The section of a line. -/
def formOf (line : Text) : Option (String × SectionForm) :=
  forms.find? fun form => startsWith line form.1.toList

/-- The assignments of a line. -/
def lineAssignments (line : Text) : Except ControlStateError (List Assignment) :=
  match formOf line with
  | some (name, form) => form.read (removePrefix line name.toList)
  | none => eventAssignments line

/-- The fields that a line names. -/
def lineFields (line : Text) : List ControlField :=
  match formOf line with
  | some (name, form) => form.fields (removePrefix line name.toList)
  | none => eventFields line

/-- A key is found if it is there. -/
lemma lookup_isSome_iff_mem {values : List (Text × Text)} {key : Text} :
    (values.lookup key).isSome = true ↔ key ∈ values.map Prod.fst := by
  rw [List.lookup_isSome_iff, List.mem_map]
  constructor
  · rintro ⟨p, hp, heq⟩
    exact ⟨p, hp, (beq_iff_eq.mp heq).symm⟩
  · rintro ⟨p, hp, heq⟩
    exact ⟨p, hp, beq_iff_eq.mpr heq.symm⟩

/-- Of keys that come once, each has the value that stands with it. -/
lemma lookup_eq_some_iff_mem {values : List (Text × Text)} (h : (values.map Prod.fst).Nodup)
    {key value : Text} : values.lookup key = some value ↔ (key, value) ∈ values := by
  rw [List.lookup_eq_some_iff]
  constructor
  · rintro ⟨front, rest, rfl, -⟩
    exact List.mem_append_right _ List.mem_cons_self
  · intro hmem
    obtain ⟨front, rest, rfl⟩ := List.append_of_mem hmem
    refine ⟨front, rest, rfl, fun p hp => bne_iff_ne.mpr fun heq => ?_⟩
    rw [List.map_append, List.nodup_append'] at h
    exact h.2.2 (List.mem_map_of_mem hp) (heq ▸ List.mem_cons_self)

/-- Pairs are collected if no key comes twice, the last one at the front. -/
lemma foldlM_keyValues_ok_iff {pairs acc values : List (Text × Text)}
    (hacc : (acc.map Prod.fst).Nodup) :
    pairs.foldlM (fun values (key, value) =>
        if (values.lookup key).isSome then
          parseError ("duplicate control field: ".toList ++ key)
        else .ok ((key, value) :: values)) acc = .ok values ↔
      ((pairs ++ acc).map Prod.fst).Nodup ∧ values = pairs.reverse ++ acc := by
  induction pairs generalizing acc with
  | nil =>
    refine ⟨fun h => ?_, fun ⟨_, h⟩ => congrArg Except.ok h.symm⟩
    cases h
    exact ⟨hacc, rfl⟩
  | cons pair pairs ih =>
    obtain ⟨key, value⟩ := pair
    have hperm : (((key, value) :: pairs ++ acc).map Prod.fst).Nodup ↔
        ((pairs ++ (key, value) :: acc).map Prod.fst).Nodup :=
      (List.perm_middle.symm.map Prod.fst).nodup_iff
    rw [List.foldlM_cons, hperm, List.reverse_cons, List.append_assoc, List.singleton_append]
    dsimp only
    by_cases hin : (acc.lookup key).isSome = true
    · rw [if_pos hin]
      refine ⟨fun h => (nomatch h), fun ⟨h, _⟩ => ?_⟩
      rw [← hperm] at h
      have hmem : key ∈ (pairs ++ acc).map Prod.fst := by
        rw [List.map_append, List.mem_append]
        exact .inr (lookup_isSome_iff_mem.mp hin)
      exact absurd hmem (List.nodup_cons.mp h).1
    · rw [if_neg hin]
      exact ih (List.nodup_cons.mpr ⟨fun h => hin (lookup_isSome_iff_mem.mpr h), hacc⟩)

/-- The keys of a content are those of its matches, when none comes twice. -/
lemma keyValues_ok_iff {content : Text} {values : List (Text × Text)} :
    keyValues content = .ok values ↔
      ((keyValueMatches content).map Prod.fst).Nodup ∧
        values = (keyValueMatches content).reverse := by
  have hacc : (([] : List (Text × Text)).map Prod.fst).Nodup := List.nodup_nil
  refine (foldlM_keyValues_ok_iff hacc).trans ?_
  rw [List.append_nil, List.append_nil]

/-- The keys that have a value are assigned. -/
lemma readKeys_fields {content : Text} {values : List (Text × Text)} {keys : List Key}
    {as : List Assignment} (hvalues : keyValues content = .ok values)
    (h : readKeys values keys = .ok as) : as.map Sigma.fst = keyFields keys content := by
  have hmem : ∀ key, key ∈ (keyValueMatches content).map Prod.fst ↔
      (values.lookup key).isSome = true := by
    intro key
    rw [lookup_isSome_iff_mem, (keyValues_ok_iff.mp hvalues).2, List.map_reverse, List.mem_reverse]
  induction keys generalizing as with
  | nil =>
    cases h
    rfl
  | cons key keys ih =>
    obtain ⟨name, field⟩ := key
    rw [readKeys] at h
    simp only [keyFields, hmem, List.filter_cons] at ih ⊢
    cases hvalue : values.lookup name.toList with
    | none =>
      rw [hvalue] at h
      exact ih h
    | some value =>
      rw [hvalue] at h
      obtain ⟨v, -, h⟩ := bind_eq_ok.mp h
      obtain ⟨later, hlater, h⟩ := bind_eq_ok.mp h
      cases h
      exact congrArg (field :: ·) (ih hlater)

/-- A section assigns the fields that it names. -/
lemma read_fields {form : SectionForm} {content : Text} {as : List Assignment}
    (h : form.read content = .ok as) : as.map Sigma.fst = form.fields content := by
  cases form with
  | whole field label =>
    obtain ⟨v, -, h⟩ := bind_eq_ok.mp h
    cases h
    rfl
  | keyed keys =>
    obtain ⟨values, hvalues, h⟩ := bind_eq_ok.mp h
    exact readKeys_fields hvalues h
  | uuid =>
    rw [SectionForm.read, readUuid] at h
    rw [SectionForm.fields]
    cases hparts : splitOn ',' content with
    | nil => exact absurd hparts (splitOn_ne_nil ',' content)
    | cons first rest =>
      rw [hparts] at h
      obtain ⟨uuid, -, h⟩ := bind_eq_ok.mp h
      rw [List.tail_cons]
      by_cases hrest : rest = []
      · rw [if_pos hrest] at h
        cases h
        rw [hrest]
        rfl
      · rw [if_neg hrest] at h
        obtain ⟨values, hvalues, h⟩ := bind_eq_ok.mp h
        obtain ⟨more, hmore, h⟩ := bind_eq_ok.mp h
        cases h
        exact congrArg (ControlField.deviceUuid :: ·) (readKeys_fields hvalues hmore)

/-- So does an export event. -/
lemma eventAssignments_fields {line : Text} {as : List Assignment}
    (h : eventAssignments line = .ok as) : as.map Sigma.fst = eventFields line := by
  unfold eventAssignments at h
  unfold eventFields
  by_cases hbegin : startsWith line "EXPORT_BEGIN:".toList = true
  · rw [if_pos hbegin] at h ⊢
    cases h
    rfl
  rw [if_neg hbegin] at h ⊢
  by_cases hempty : line = "EXPORT_EMPTY".toList
  · rw [if_pos hempty] at h ⊢
    cases h
    rfl
  rw [if_neg hempty] at h ⊢
  by_cases haborted : line = "EXPORT_ABORTED".toList
  · rw [if_pos haborted] at h ⊢
    cases h
    rfl
  rw [if_neg haborted] at h ⊢
  by_cases hend : startsWith line "EXPORT_END:".toList = true
  · rw [if_pos hend] at h ⊢
    obtain ⟨values, hvalues, h⟩ := bind_eq_ok.mp h
    obtain ⟨later, hlater, h⟩ := bind_eq_ok.mp h
    cases h
    exact congrArg (ControlField.exportPhase :: ·) (readKeys_fields hvalues hlater)
  · rw [if_neg hend] at h ⊢
    cases h
    rfl

/-- A line assigns the fields that it names. -/
lemma lineAssignments_fields {line : Text} {as : List Assignment}
    (h : lineAssignments line = .ok as) : as.map Sigma.fst = lineFields line := by
  unfold lineAssignments at h
  unfold lineFields
  cases hform : formOf line with
  | none =>
    rw [hform] at h
    exact eventAssignments_fields h
  | some form =>
    rw [hform] at h
    exact read_fields h

/-- The update says these assignments, on every state. -/
def Says (update : Update) (x : Except ControlStateError (List Assignment)) : Prop :=
  ∀ s, update s = x.map s.assign

variable {values : List (Text × Text)}

/-- An update that assigns says what it assigns. -/
lemma Says.ok {update : Update} {as : List Assignment} (h : ∀ s, update s = .ok (s.assign as)) :
    Says update (.ok as) := h

/-- Two updates say what both say. -/
lemma Says.bind {u v : Update} {x y : Except ControlStateError (List Assignment)} (hu : Says u x)
    (hv : Says v y) : Says (fun s => u s >>= v) (do return (← x) ++ (← y)) := by
  intro s
  dsimp only
  rw [hu s]
  cases x with
  | error e => rfl
  | ok as =>
    refine (hv (s.assign as)).trans ?_
    cases y with
    | error e => rfl
    | ok bs => exact congrArg Except.ok (s.assign_append as bs).symm

/-- A value that does not depend on the state comes first. -/
lemma Says.value {α : Type} (x : Except ControlStateError α) {u : α → Update}
    {y : α → Except ControlStateError (List Assignment)} (hu : ∀ v, Says (u v) (y v)) :
    Says (fun s => x >>= fun v => u v s) (x >>= y) := by
  intro s
  cases x with
  | error e => rfl
  | ok v => exact hu v s

/-- No keys say nothing. -/
lemma Says.nil : Says (fun s => .ok s) (readKeys values []) := fun _ => rfl

/-- A field that is set to the value of its key, and what follows it. -/
lemma Says.key {name : String} (field : ControlField) {u : Update} {keys : List Key}
    (hu : Says u (readKeys values keys)) :
    Says (fun s =>
      match values.lookup name.toList with
      | none => u s
      | some value => do
        let v ← readValue field.kind value name.toList
        u (s.set field v)) (readKeys values ((name, field) :: keys)) := by
  rw [readKeys]
  cases values.lookup name.toList with
  | none => exact hu
  | some value =>
    refine Says.value _ fun v s => ?_
    rw [hu (s.set field v)]
    cases readKeys values keys with
    | error e => rfl
    | ok as => rfl

/-- Keys are read one after the other. -/
lemma readKeys_append (keys more : List Key) :
    readKeys values (keys ++ more) =
      do return (← readKeys values keys) ++ (← readKeys values more) := by
  induction keys with
  | nil =>
    rw [List.nil_append, readKeys]
    cases readKeys values more with
    | error e => rfl
    | ok as => rfl
  | cons key keys ih =>
    obtain ⟨name, field⟩ := key
    rw [List.cons_append, readKeys, readKeys]
    cases values.lookup name.toList with
    | none => exact ih
    | some value =>
      dsimp only
      rw [ih]
      cases readValue field.kind value name.toList with
      | error e => rfl
      | ok v =>
        cases readKeys values keys with
        | error e => rfl
        | ok as =>
          cases readKeys values more with
          | error e => rfl
          | ok bs => rfl

/-- Keys that are read one group after the other. -/
lemma Says.keys {u v : Update} (keys : List Key) {more : List Key}
    (hu : Says u (readKeys values keys))
    (hv : Says v (readKeys values more)) :
    Says (fun s => u s >>= v) (readKeys values (keys ++ more)) := by
  rw [readKeys_append]
  exact hu.bind hv

/-- The keys of the SD section. -/
lemma says_parseSd : Says (parseSd values) (readKeys values sdKeys) := by
  refine Says.keys (sdKeys.take 7) ?_ (Says.keys [("READY", .sdReady)]
    (.key .sdReady .nil) (.key .sdFormatRequired .nil))
  exact .key .sdUsed <| .key .sdCapacity <| .key .sdPendingFrames <| .key .sdRetainedChunks <|
    .key .sdRetainedFrames <| .key .sdOverwrittenChunks <| .key .sdOverwrittenFrames .nil

/-- The keys of the export section. -/
lemma says_parseExportStatus : Says (parseExportStatus values) (readKeys values exportKeys) :=
  Says.keys [("TARGET", .exportTarget)] (.key .exportTarget .nil)
    (.key .exportChunk <| .key .exportFrame .nil)

/-- The keys of the section on live frames. -/
lemma says_parseLive : Says (parseLive values) (readKeys values liveKeys) :=
  Says.keys [("TARGET", .livestreamTarget)] (.key .livestreamTarget .nil)
    (.key .liveDropsIis <| .key .liveDropsJy <| .key .liveLastRoutedSequence <|
      .key .liveLastCompletedSequence .nil)

/-- The keys of the diagnosis. -/
lemma says_parseDiag : Says (parseDiag values) (readKeys values diagKeys) :=
  .key .diagPoolFail <| .key .diagIngressDrop <| .key .diagNostoreDrop <| .key .diagPoolMin <|
    .key .diagIngressPeak <| .key .diagSdStallMs <| .key .diagCdcLive <| .key .diagCdcCtrl <|
      .key .diagCdcExport .nil

/-- The keys of the OTA section. -/
lemma says_parseOta : Says (parseOta values) (readKeys values otaKeys) :=
  Says.keys [("STATE", .otaState)] (.key .otaState .nil)
    (.key .otaReceived <| .key .otaTotal <| .key .otaError .nil)

/-- The UUID and where it is from. -/
lemma says_parseUuid (content : Text) : Says (parseUuid content) (readUuid content) := by
  intro s
  rw [parseUuid, readUuid]
  cases splitOn ',' content with
  | nil => rfl
  | cons first rest =>
    dsimp only
    rw [readValue]
    cases Uuid.ofText first with
    | none => rfl
    | some uuid =>
      by_cases hrest : rest = []
      · rw [hrest]
        rfl
      · have hmore : Says
            (fun s => do
              let values ← keyValues (",".toList.intercalate rest)
              setText values "SOURCE" (fun v s => { s with uuidSource := some v }) s)
            (do
              let values ← keyValues (",".toList.intercalate rest)
              readKeys values sourceKeys) :=
          .value _ fun values => .key .uuidSource .nil
        dsimp only
        rw [if_neg hrest]
        refine (hmore { s with deviceUuid := some uuid }).trans ?_
        cases keyValues (",".toList.intercalate rest) with
        | error e =>
          simp only [if_neg hrest]
          rfl
        | ok values =>
          simp only [if_neg hrest]
          change (readKeys values sourceKeys).map _ =
            (readKeys values sourceKeys >>= fun more => _).map _
          cases readKeys values sourceKeys with
          | error e => rfl
          | ok more => rfl

/-- The phase of the export and its numbers. -/
lemma says_parseExportEvent (line : Text) :
    Says (parseExportEvent line) (eventAssignments line) := by
  unfold parseExportEvent eventAssignments
  split
  · exact .ok fun _ => rfl
  · split
    · exact .ok fun _ => rfl
    · split
      · exact .ok fun _ => rfl
      · split
        · refine Says.value _ fun values s => ?_
          have hkeys : Says (setIntegers values
              [("CHUNKS", fun n s => { s with exportChunks := some n }),
                ("FRAMES", fun n s => { s with exportFrames := some n })])
              (readKeys values exportEndKeys) := .key .exportChunks <| .key .exportFrames .nil
          refine (hkeys { s with exportPhase := some "COMPLETE".toList }).trans ?_
          cases readKeys values exportEndKeys with
          | error e => rfl
          | ok as => rfl
        · exact .ok fun _ => rfl

/-- Every section says what its form reads. -/
lemma says_sections : List.Forall₂
    (fun sec form => sec.1 = form.1 ∧ ∀ content, Says (sec.2 content) (form.2.read content))
    sections forms := by
  unfold sections forms
  refine .cons ⟨rfl, fun _ _ => rfl⟩ <| .cons ⟨rfl, fun _ => ?_⟩ <|
    .cons ⟨rfl, says_parseUuid⟩ <| .cons ⟨rfl, fun _ => .value _ fun _ => says_parseSd⟩ <|
    .cons ⟨rfl, fun _ => .value _ fun _ => says_parseExportStatus⟩ <|
    .cons ⟨rfl, fun _ => .value _ fun _ => says_parseLive⟩ <| .cons ⟨rfl, fun _ _ => rfl⟩ <|
    .cons ⟨rfl, fun _ => .value _ fun _ => says_parseDiag⟩ <| .cons ⟨rfl, fun _ _ => rfl⟩ <|
    .cons ⟨rfl, fun _ => .value _ fun _ => says_parseOta⟩ .nil
  exact Says.value _ fun n s => rfl

/-- A line says its assignments. -/
theorem parseLineInto_says (line : Text) : Says (parseLineInto line) (lineAssignments line) := by
  unfold parseLineInto lineAssignments formOf
  have hsections := says_sections
  generalize sections = secs at hsections
  generalize forms = fs at hsections
  induction hsections with
  | nil => exact says_parseExportEvent line
  | @cons sec form secs fs h _ ih =>
    obtain ⟨hname, hsays⟩ := h
    obtain ⟨name, update⟩ := sec
    obtain ⟨name', form⟩ := form
    cases hname
    rw [List.find?_cons, List.find?_cons]
    cases startsWith line name.toList with
    | true => exact hsays _
    | false => exact ih

end SensorHost.Protocol
