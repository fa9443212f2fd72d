import SensorHost.Lib.Gives
import SensorHost.Protocol.ControlState

/-!
# Export events

A reply has at most one line that is an export event, and only that line changes the phase of the
export; the revision counts these lines (`updatedFromCli_exports`).

That no other line touches the export is shown section by section (`keeps_parseSd` and its siblings)
and put together in `keeps_parseLineInto`. A line that is an event is of the section of the export,
of which a reply may have one line only, so the fold over the lines meets at most one
(`updateLines_exports`).
-/

namespace SensorHost.Protocol
open SensorHost.Lib

/-- The line starts like an export event. -/
def isExportLine (line : Text) : Bool := startsWith line "EXPORT_".toList

/-- The lines of a reply that start like an export event. -/
def exportLines (response : Text) : List Text :=
  ((splitLines response).map strip).filter isExportLine

/-- The event ends an export: EXPORT_EMPTY, EXPORT_ABORTED or EXPORT_END. -/
def endsExport (line : Text) : Bool :=
  line == "EXPORT_EMPTY".toList || line == "EXPORT_ABORTED".toList ||
    startsWith line "EXPORT_END:".toList

/-- The line is one of the four export events. -/
def isExportEvent (line : Text) : Bool :=
  startsWith line "EXPORT_BEGIN:".toList || endsExport line

/-- The phase that an export event sets. -/
def eventPhase (line : Text) : Text :=
  if startsWith line "EXPORT_BEGIN:".toList then "IN_PROGRESS".toList
  else if line = "EXPORT_EMPTY".toList then "EMPTY".toList
  else if line = "EXPORT_ABORTED".toList then "ABORTED".toList
  else "COMPLETE".toList

/-- The phase is that of an export that has ended. -/
def isClosedPhase (phase : Option Text) : Bool :=
  phase == some "EMPTY".toList || phase == some "COMPLETE".toList || phase == some "ABORTED".toList

/-- The phase of the export, and how many events there were. -/
def FirmwareControlState.export (s : FirmwareControlState) : Option Text × Nat :=
  (s.exportPhase, s.exportRevision)

variable {values : List (Text × Text)} {line : Text} {s : FirmwareControlState}

/-- The update leaves the phase and the revision alone. -/
def Keeps (update : Update) : Prop := ∀ s, Gives (fun t => t.export = s.export) (update s)

/-- Two updates that keep the export keep it one after the other. -/
lemma Keeps.bind {u v : Update} (hu : Keeps u) (hv : Keeps v) : Keeps fun s => u s >>= v :=
  fun s => (hu s).bind fun t ht r hr => (hv t r hr).trans ht

/-- Setting a field that is not of the export keeps it. -/
lemma keeps_ok {set : FirmwareControlState → FirmwareControlState}
    (h : ∀ s, (set s).export = s.export) : Keeps fun s => .ok (set s) :=
  fun s => .ok (h s)

/-- So does setting numbers. -/
lemma keeps_setIntegers (fields : List IntegerField)
    (h : ∀ f ∈ fields, ∀ n s, (f.2 n s).export = s.export) : Keeps (setIntegers values fields) := by
  induction fields with
  | nil => exact fun s => .ok rfl
  | cons field fields ih =>
    obtain ⟨name, set⟩ := field
    have hrest : Keeps (setIntegers values fields) := ih fun f hf => h f (List.mem_cons_of_mem _ hf)
    intro s
    unfold setIntegers
    cases values.lookup name.toList with
    | none => exact hrest s
    | some value =>
      refine Gives.value fun n t ht => (hrest (set n s) t ht).trans ?_
      exact h (name, set) List.mem_cons_self n s

/-- So does setting a text. -/
lemma keeps_setText {name : String} {set : Text → FirmwareControlState → FirmwareControlState}
    (h : ∀ v s, (set v s).export = s.export) : Keeps (setText values name set) := by
  intro s
  unfold setText
  cases values.lookup name.toList with
  | none => exact .ok rfl
  | some value => exact .ok (h value s)

/-- So does setting a flag. -/
lemma keeps_setBoolean {name : String} {set : Bool → FirmwareControlState → FirmwareControlState}
    (h : ∀ v s, (set v s).export = s.export) : Keeps (setBoolean values name set) := by
  intro s
  unfold setBoolean
  cases values.lookup name.toList with
  | none => exact .ok rfl
  | some value => exact Gives.value fun v => .ok (h v s)

/-- The UUID does not touch the export. -/
lemma keeps_parseUuid (content : Text) : Keeps (parseUuid content) := by
  intro s
  unfold parseUuid
  cases splitOn ',' content with
  | nil => exact .ok rfl
  | cons first rest =>
    dsimp only
    cases Uuid.ofText first with
    | none => exact .error _
    | some uuid =>
      dsimp only
      split
      · exact .ok rfl
      · refine Gives.value fun values => ?_
        have hsource : Keeps (setText values "SOURCE" fun v s => { s with uuidSource := some v }) :=
          keeps_setText fun _ _ => rfl
        exact hsource { s with deviceUuid := some uuid }

/-- The SD section does not. -/
lemma keeps_parseSd : Keeps (parseSd values) := by
  refine Keeps.bind (keeps_setIntegers _ ?_) (Keeps.bind (keeps_setBoolean fun _ _ => rfl)
    (keeps_setBoolean fun _ _ => rfl))
  intro f hf n s
  simp only [List.mem_cons, List.not_mem_nil, or_false] at hf
  obtain rfl | rfl | rfl | rfl | rfl | rfl | rfl := hf <;> rfl

/-- The export section has a target and indices, and no phase. -/
lemma keeps_parseExportStatus : Keeps (parseExportStatus values) := by
  refine Keeps.bind (keeps_setText fun _ _ => rfl) (keeps_setIntegers _ ?_)
  intro f hf n s
  simp only [List.mem_cons, List.not_mem_nil, or_false] at hf
  obtain rfl | rfl := hf <;> rfl

/-- The section on live frames does not touch the export. -/
lemma keeps_parseLive : Keeps (parseLive values) := by
  refine Keeps.bind (keeps_setText fun _ _ => rfl) (keeps_setIntegers _ ?_)
  intro f hf n s
  simp only [List.mem_cons, List.not_mem_nil, or_false] at hf
  obtain rfl | rfl | rfl | rfl := hf <;> rfl

/-- The diagnosis does not. -/
lemma keeps_parseDiag : Keeps (parseDiag values) := by
  refine keeps_setIntegers _ ?_
  intro f hf n s
  simp only [List.mem_cons, List.not_mem_nil, or_false] at hf
  obtain rfl | rfl | rfl | rfl | rfl | rfl | rfl | rfl | rfl := hf <;> rfl

/-- The OTA section does not. -/
lemma keeps_parseOta : Keeps (parseOta values) := by
  refine Keeps.bind (keeps_setText fun _ _ => rfl) (keeps_setIntegers _ ?_)
  intro f hf n s
  simp only [List.mem_cons, List.not_mem_nil, or_false] at hf
  obtain rfl | rfl | rfl := hf <;> rfl

/-- No section does. -/
lemma keeps_sections : ∀ sec ∈ sections, ∀ v, Keeps (sec.2 v) := by
  intro sec hsec v
  unfold sections at hsec
  simp only [List.mem_cons, List.not_mem_nil, or_false] at hsec
  obtain rfl | rfl | rfl | rfl | rfl | rfl | rfl | rfl | rfl | rfl := hsec
  · exact keeps_ok fun _ => rfl
  · exact fun s => Gives.value fun n => .ok rfl
  · exact keeps_parseUuid v
  · exact fun s => Gives.value fun values => keeps_parseSd s
  · exact fun s => Gives.value fun values => keeps_parseExportStatus s
  · exact fun s => Gives.value fun values => keeps_parseLive s
  · exact keeps_ok fun _ => rfl
  · exact fun s => Gives.value fun values => keeps_parseDiag s
  · exact keeps_ok fun _ => rfl
  · exact fun s => Gives.value fun values => keeps_parseOta s

/-- What starts with a text starts with what that text starts with. -/
lemma startsWith_of_prefix {text p q : Text} (hqp : q <+: p) (h : startsWith text p = true) :
    startsWith text q = true := by
  unfold startsWith at h ⊢
  exact List.isPrefixOf_iff_prefix.mpr (hqp.trans (List.isPrefixOf_iff_prefix.mp h))

/-- An export line is no other section. -/
lemma sections_isExportLine (h : isExportLine line = true) :
    (sections.find? fun sec => startsWith line sec.1.toList) = none := by
  have hplus : ∀ sec ∈ sections, sec.1.toList.head? = some '+' := by decide +kernel
  obtain ⟨rest, rfl⟩ := List.isPrefixOf_iff_prefix.mp h
  refine List.find?_eq_none.mpr ?_
  intro sec hsec hstarts
  obtain ⟨more, hmore⟩ := List.isPrefixOf_iff_prefix.mp hstarts
  have hhead := congrArg List.head? hmore
  rw [List.head?_append, hplus sec hsec] at hhead
  cases hhead

/-- A line that parses as an event counts as one. -/
lemma isExportLine_of_event (h : isExportEvent line = true) : isExportLine line = true := by
  unfold isExportEvent endsExport at h
  simp only [Bool.or_eq_true, beq_iff_eq] at h
  obtain hbegin | (rfl | rfl) | hend := h
  · exact startsWith_of_prefix (by decide) hbegin
  · decide
  · decide
  · exact startsWith_of_prefix (by decide) hend

/-- A line that is no event does not touch the export. -/
lemma keeps_parseExportEvent (h : isExportLine line = false) : Keeps (parseExportEvent line) := by
  intro s
  have hnone : isExportEvent line = false := by
    by_contra hevent
    rw [Bool.not_eq_false] at hevent
    rw [isExportLine_of_event hevent] at h
    cases h
  unfold isExportEvent endsExport at hnone
  simp only [Bool.or_eq_false_iff, beq_eq_false_iff_ne, ne_eq] at hnone
  obtain ⟨hbegin, ⟨hempty, haborted⟩, hend⟩ := hnone
  unfold parseExportEvent
  rw [hbegin, hend, if_neg Bool.false_ne_true, if_neg hempty, if_neg haborted,
    if_neg Bool.false_ne_true]
  exact .ok rfl

/-- An export event sets its phase. -/
lemma gives_parseExportEvent (line : Text) (s : FirmwareControlState) :
    Gives (fun t => t.exportRevision = s.exportRevision ∧
      (isExportEvent line = true → t.exportPhase = some (eventPhase line)))
      (parseExportEvent line s) := by
  unfold parseExportEvent eventPhase
  split
  · exact .ok ⟨rfl, fun _ => rfl⟩
  · rename_i hbegin
    split
    · exact .ok ⟨rfl, fun _ => rfl⟩
    · rename_i hempty
      split
      · exact .ok ⟨rfl, fun _ => rfl⟩
      · rename_i haborted
        split
        · refine Gives.value fun values t ht => ?_
          have hkeeps : t.export = _ := keeps_setIntegers
            [("CHUNKS", fun n s => { s with exportChunks := some n }),
              ("FRAMES", fun n s => { s with exportFrames := some n })] ?_ _ t ht
          · exact ⟨congrArg Prod.snd hkeeps, fun _ => congrArg Prod.fst hkeeps⟩
          · intro f hf n s
            simp only [List.mem_cons, List.not_mem_nil, or_false] at hf
            obtain rfl | rfl := hf <;> rfl
        · rename_i hend
          refine .ok ⟨rfl, fun hevent => ?_⟩
          unfold isExportEvent endsExport at hevent
          simp only [hbegin, hend, hempty, haborted, Bool.or_eq_true, beq_iff_eq] at hevent
          simp at hevent

/-- So only events do. -/
lemma keeps_parseLineInto (h : isExportLine line = false) : Keeps (parseLineInto line) := by
  unfold parseLineInto
  cases hfind : sections.find? fun sec => startsWith line sec.1.toList with
  | none => exact keeps_parseExportEvent h
  | some sec => exact keeps_sections sec (List.mem_of_find?_eq_some hfind) _

/-- The name under which an export line counts as a section. -/
def exportSection : Text := "EXPORT_EVENT".toList

/-- An export event is of the export section. -/
lemma sectionName_isExportLine (h : isExportLine line = true) :
    sectionName line = some exportSection := by
  obtain ⟨rest, rfl⟩ := List.isPrefixOf_iff_prefix.mp h
  unfold sectionName
  exact if_pos h

/-- Nothing else is. -/
lemma sectionName_other (h : isExportLine line = false) :
    sectionName line ≠ some exportSection := by
  have hno : (if startsWith line "EXPORT_".toList then some exportSection else none) ≠
      some exportSection := by
    rw [show startsWith line "EXPORT_".toList = false from h, if_neg Bool.false_ne_true]
    exact nofun
  unfold sectionName
  split
  · rename_i rest name more hsplit
    intro heq
    cases heq
    -- the name starts with the plus of its line
    rw [splitOnce, if_neg (by decide)] at hsplit
    obtain ⟨p, -, hp⟩ := Option.map_eq_some_iff.mp hsplit
    cases congrArg Prod.fst hp
  · exact hno

/-- An export event is noted among the sections. -/
lemma updateLine_event {rawLine : Text} {seen : List Text} (h : isExportLine (strip rawLine) = true) :
    Gives (fun t => exportSection ∉ seen ∧ exportSection ∈ t.2 ∧
      t.1.exportRevision = s.exportRevision ∧
      (isExportEvent (strip rawLine) = true → t.1.exportPhase = some (eventPhase (strip rawLine))))
      (updateLine (s, seen) rawLine) := by
  unfold updateLine
  dsimp only
  generalize strip rawLine = line at h ⊢
  have hsaid : ¬ (line.isEmpty = true ∨ line = "OK".toList ∨ line = "ERROR".toList) := by
    rintro (hempty | rfl | rfl)
    · rw [List.isEmpty_iff.mp hempty] at h
      cases h
    · cases h
    · cases h
  have hparse : parseLineInto line s = parseExportEvent line s := by
    unfold parseLineInto
    rw [sections_isExportLine h]
  rw [if_neg hsaid, sectionName_isExportLine h, hparse]
  dsimp only
  split
  · exact fun _ h => (nomatch h)
  · rename_i hnew
    refine (gives_parseExportEvent line s).bind fun t ht => .ok ?_
    exact ⟨hnew, List.mem_cons_self, ht.1, ht.2⟩

/-- Any other line keeps the phase. -/
lemma updateLine_other {rawLine : Text} {seen : List Text}
    (h : isExportLine (strip rawLine) = false) :
    Gives (fun t => (exportSection ∈ t.2 ↔ exportSection ∈ seen) ∧ t.1.export = s.export)
      (updateLine (s, seen) rawLine) := by
  unfold updateLine
  dsimp only
  generalize strip rawLine = line at h ⊢
  have hkeeps := keeps_parseLineInto h s
  have hname := sectionName_other h
  split
  · exact .ok ⟨.rfl, rfl⟩
  · cases hsection : sectionName line with
    | none => exact hkeeps.bind fun t ht => .ok ⟨.rfl, ht⟩
    | some name =>
      rw [hsection] at hname
      dsimp only
      split
      · exact fun _ h => (nomatch h)
      · refine hkeeps.bind fun t ht => .ok ⟨?_, ht⟩
        rw [List.mem_cons, or_iff_right]
        exact fun heq => hname (congrArg some heq.symm)

/-- The lines of a reply: none is an export event, or one is, and no other of its kind was seen. -/
lemma updateLines_exports (rawLines : List Text) (s : FirmwareControlState) (seen : List Text) :
    Gives (fun t =>
      (rawLines.map strip).filter isExportLine = [] ∧ t.1.export = s.export ∨
      ∃ line, (rawLines.map strip).filter isExportLine = [line] ∧ exportSection ∉ seen ∧
        t.1.exportRevision = s.exportRevision ∧
        (isExportEvent line = true → t.1.exportPhase = some (eventPhase line)))
      (rawLines.foldlM updateLine (s, seen)) := by
  induction rawLines generalizing s seen with
  | nil => exact .ok (.inl ⟨rfl, rfl⟩)
  | cons rawLine rawLines ih =>
    rw [List.foldlM_cons, List.map_cons]
    cases hline : isExportLine (strip rawLine) with
    | true =>
      rw [List.filter_cons_of_pos hline]
      refine (updateLine_event hline).bind fun t ht => (ih t.1 t.2).imp fun u hu => ?_
      obtain ⟨hnew, hseen, hrevision, hphase⟩ := ht
      obtain ⟨hnone, hsame⟩ | ⟨-, -, hother, -⟩ := hu
      · refine .inr ⟨strip rawLine, by rw [hnone], hnew, ?_, ?_⟩
        · exact (congrArg Prod.snd hsame).trans hrevision
        · exact fun hevent => (congrArg Prod.fst hsame).trans (hphase hevent)
      · exact absurd hseen hother
    | false =>
      rw [List.filter_cons_of_neg (Bool.eq_false_iff.mp hline)]
      refine (updateLine_other hline).bind fun t ht => (ih t.1 t.2).imp fun u hu => ?_
      obtain ⟨hseen, hkept⟩ := ht
      obtain ⟨hnone, hsame⟩ | ⟨line, hone, hnew, hrevision, hphase⟩ := hu
      · exact .inl ⟨hnone, hsame.trans hkept⟩
      · refine .inr ⟨line, hone, fun h => hnew (hseen.mpr h), ?_, hphase⟩
        exact hrevision.trans (congrArg Prod.snd hkept)

/-- A reply that is taken in has no export event and keeps the phase and the revision, or has one, by
which the revision goes up and which sets the phase. -/
theorem updatedFromCli_exports (s : FirmwareControlState) (response : Text) :
    Gives (fun t =>
      exportLines response = [] ∧ t.export = s.export ∨
      ∃ line, exportLines response = [line] ∧ t.exportRevision = s.exportRevision + 1 ∧
        (isExportEvent line = true → t.exportPhase = some (eventPhase line)))
      (s.updatedFromCli response) := by
  unfold FirmwareControlState.updatedFromCli
  have hany : hasExportLine response = true ↔ exportLines response ≠ [] := by
    unfold hasExportLine exportLines
    rw [List.any_eq_true, ne_eq, List.filter_eq_nil_iff]
    simp only [List.mem_map, forall_exists_index, and_imp, forall_apply_eq_imp_iff₂, not_forall,
      not_not, exists_prop]
    rfl
  refine (updateLines_exports (splitLines response) s []).bind fun t ht => ?_
  dsimp only
  obtain ⟨hnone, hsame⟩ | ⟨line, hone, -, hrevision, hphase⟩ := ht
  · have hnone : exportLines response = [] := hnone
    rw [if_neg fun h => hany.mp h hnone]
    exact .ok (.inl ⟨hnone, hsame⟩)
  · have hone : exportLines response = [line] := hone
    rw [if_pos (hany.mpr (by rw [hone]; exact List.cons_ne_nil _ _))]
    exact .ok (.inr ⟨line, hone, rfl, hphase⟩)

end SensorHost.Protocol
