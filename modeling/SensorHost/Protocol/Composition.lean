import SensorHost.Lib.Lines
import SensorHost.Protocol.ControlFields
import SensorHost.Protocol.ExportEvents

/-!
# Composition of replies

A reply is taken in where no section comes twice and every line says something, and then it assigns
what its lines say, in order (`updatedFromCli_ok_iff`). So two replies in one text are the first and
then the second (`updatedFromCli_append`).

The loop over the lines carries the state and the names of the sections seen so far.
`foldlM_updateSaid_ok_iff` says when it ends without an error and in which state, and everything
after it is about `saidLines`, `sectionNames` and `linesAssignments` of a text, without a state.
`ReplySays` packs the three for a reply that is known.

An export event raises the revision by one however many of its keys are set, so two texts with an
event each are not the same as one text with both; the theorem on composition has the condition that
the sections are disjoint, which excludes it.
-/

namespace SensorHost.Protocol
open SensorHost.Lib

variable {s t : FirmwareControlState} {response : Text}

/-- A stripped line that is not passed over. -/
def isSaid (line : Text) : Bool := !(line.isEmpty || line == "OK".toList || line == "ERROR".toList)

/-- A line says something unless it is empty, OK or ERROR. -/
lemma isSaid_iff {line : Text} :
    isSaid line = true ↔ ¬ (line.isEmpty ∨ line = "OK".toList ∨ line = "ERROR".toList) := by
  rw [isSaid, Bool.not_eq_true', ← Bool.not_eq_true, Bool.or_eq_true, Bool.or_eq_true, beq_iff_eq,
    beq_iff_eq, or_assoc]

/-- The lines of a reply that are read. -/
def saidLines (response : Text) : List Text := ((splitLines response).map strip).filter isSaid

/-- The sections of a reply. -/
def sectionNames (response : Text) : List Text := (saidLines response).filterMap sectionName

/-- The assignments of lines, in order. -/
def linesAssignments : List Text → Except ControlStateError (List Assignment)
  | [] => .ok []
  | line :: lines => do return (← lineAssignments line) ++ (← linesAssignments lines)

/-- The fields that a reply names. -/
def namedFields (response : Text) : List ControlField := (saidLines response).flatMap lineFields

/-- Lines assign the fields that they name. -/
lemma linesAssignments_fields {lines : List Text} {as : List Assignment}
    (h : linesAssignments lines = .ok as) : as.map Sigma.fst = lines.flatMap lineFields := by
  induction lines generalizing as with
  | nil =>
    cases h
    rfl
  | cons line lines ih =>
    obtain ⟨bs, hbs, h⟩ := bind_eq_ok.mp h
    obtain ⟨cs, hcs, h⟩ := bind_eq_ok.mp h
    cases h
    rw [List.map_append, lineAssignments_fields hbs, ih hcs, List.flatMap_cons]

/-- Lines assign what the first of them do, and then the others. -/
lemma linesAssignments_append (lines more : List Text) :
    linesAssignments (lines ++ more) =
      do return (← linesAssignments lines) ++ (← linesAssignments more) := by
  induction lines with
  | nil =>
    rw [List.nil_append, linesAssignments]
    cases linesAssignments more with
    | error e => rfl
    | ok as => rfl
  | cons line lines ih =>
    rw [List.cons_append, linesAssignments, linesAssignments, ih]
    cases lineAssignments line with
    | error e => rfl
    | ok as =>
      cases linesAssignments lines with
      | error e => rfl
      | ok bs =>
        cases linesAssignments more with
        | error e => rfl
        | ok cs => exact congrArg Except.ok (List.append_assoc as bs cs).symm

attribute [local instance] lawfulBEq_text in
/-- The pass of `updateLine` for a line that is read. -/
def updateSaid (acc : FirmwareControlState × List Text) (line : Text) :
    Except ControlStateError (FirmwareControlState × List Text) :=
  match sectionName line with
  | none => do return (← parseLineInto line acc.1, acc.2)
  | some name =>
    if name ∈ acc.2 then parseError ("duplicate control section: ".toList ++ name)
    else do return (← parseLineInto line acc.1, name :: acc.2)

/-- A line that says something is taken in, and another one is passed over. -/
lemma updateLine_eq (acc : FirmwareControlState × List Text) (rawLine : Text) :
    updateLine acc rawLine =
      if isSaid (strip rawLine) then updateSaid acc (strip rawLine) else .ok acc := by
  unfold updateLine updateSaid
  generalize strip rawLine = line
  dsimp only
  by_cases h : line.isEmpty ∨ line = "OK".toList ∨ line = "ERROR".toList
  · rw [if_pos h, if_neg fun hsaid => isSaid_iff.mp hsaid h]
  · exact (if_neg h).trans (if_pos (isSaid_iff.mpr h)).symm

/-- So only the lines that say something are taken in. -/
lemma foldlM_updateLine (rawLines : List Text) (acc : FirmwareControlState × List Text) :
    rawLines.foldlM updateLine acc = ((rawLines.map strip).filter isSaid).foldlM updateSaid acc := by
  induction rawLines generalizing acc with
  | nil => rfl
  | cons rawLine rawLines ih =>
    rw [List.foldlM_cons, List.map_cons, updateLine_eq, List.filter_cons]
    split
    · rw [List.foldlM_cons]
      exact congrArg (updateSaid acc (strip rawLine) >>= ·) (funext ih)
    · exact ih acc

/-- Lines are taken in where no section comes twice and every line says something. -/
lemma foldlM_updateSaid_ok_iff (lines : List Text) (s : FirmwareControlState) {seen : List Text}
    (hseen : seen.Nodup) :
    (∃ seen', lines.foldlM updateSaid (s, seen) = .ok (t, seen')) ↔
      (lines.filterMap sectionName ++ seen).Nodup ∧
        ∃ as, linesAssignments lines = .ok as ∧ t = s.assign as := by
  induction lines generalizing s seen with
  | nil =>
    constructor
    · rintro ⟨seen', h⟩
      cases h
      exact ⟨hseen, [], rfl, rfl⟩
    · rintro ⟨-, as, has, rfl⟩
      cases has
      exact ⟨seen, rfl⟩
  | cons line lines ih =>
    have hline := parseLineInto_says line s
    -- the lines after the first, when it says something
    have hrest : ∀ {as seen'}, seen'.Nodup → lineAssignments line = .ok as →
        ((∃ seen'', lines.foldlM updateSaid (s.assign as, seen') = .ok (t, seen'')) ↔
          (lines.filterMap sectionName ++ seen').Nodup ∧
            ∃ bs, linesAssignments (line :: lines) = .ok bs ∧ t = s.assign bs) := by
      intro as seen' hseen' has
      rw [ih (s.assign as) hseen', linesAssignments, has]
      refine and_congr_right fun _ => ?_
      cases linesAssignments lines with
      | error e => exact ⟨fun ⟨_, h, _⟩ => (nomatch h), fun ⟨_, h, _⟩ => (nomatch h)⟩
      | ok bs =>
        constructor
        · rintro ⟨_, h, rfl⟩
          cases h
          exact ⟨_, rfl, (s.assign_append as bs).symm⟩
        · rintro ⟨_, h, rfl⟩
          cases h
          exact ⟨_, rfl, s.assign_append as bs⟩
    rw [List.foldlM_cons, updateSaid, List.filterMap_cons]
    cases hname : sectionName line with
    | none =>
      dsimp only
      rw [hline]
      cases has : lineAssignments line with
      | error e =>
        rw [linesAssignments, has]
        exact ⟨fun ⟨_, h⟩ => (nomatch h), fun ⟨_, _, h, _⟩ => (nomatch h)⟩
      | ok as => exact hrest hseen has
    | some name =>
      dsimp only
      by_cases hin : name ∈ seen
      · rw [if_pos hin]
        refine ⟨fun ⟨_, h⟩ => (nomatch h), fun ⟨h, _⟩ => ?_⟩
        exact absurd (List.mem_append_right _ hin) (List.nodup_cons.mp h).1
      · rw [if_neg hin, hline]
        have hperm : (name :: lines.filterMap sectionName ++ seen).Nodup ↔
            (lines.filterMap sectionName ++ name :: seen).Nodup := List.nodup_middle.symm
        rw [hperm]
        cases has : lineAssignments line with
        | error e =>
          rw [linesAssignments, has]
          exact ⟨fun ⟨_, h⟩ => (nomatch h), fun ⟨_, _, h, _⟩ => (nomatch h)⟩
        | ok as => exact hrest (List.nodup_cons.mpr ⟨hin, hseen⟩) has

/-- Take in assignments, and an export event or not. -/
def FirmwareControlState.taken (s : FirmwareControlState) (as : List Assignment) (event : Bool) :
    FirmwareControlState :=
  if event then { s.assign as with exportRevision := s.exportRevision + 1 } else s.assign as

/-- A reply is taken in where no section comes twice and every line says something, and then it assigns
what its lines say. -/
theorem updatedFromCli_ok_iff :
    s.updatedFromCli response = .ok t ↔ (sectionNames response).Nodup ∧
      ∃ as, linesAssignments (saidLines response) = .ok as ∧
        t = s.taken as (hasExportLine response) := by
  have hfold := fun u => foldlM_updateSaid_ok_iff (t := u) (saidLines response) s List.nodup_nil
  simp only [List.append_nil] at hfold
  unfold FirmwareControlState.updatedFromCli
  rw [foldlM_updateLine]
  constructor
  · intro h
    cases hrun : ((splitLines response).map strip |>.filter isSaid).foldlM updateSaid (s, []) with
    | error e =>
      rw [hrun] at h
      cases h
    | ok u =>
      obtain ⟨hnodup, as, has, hu⟩ := (hfold u.1).mp ⟨u.2, hrun⟩
      refine ⟨hnodup, as, has, ?_⟩
      rw [hrun] at h
      -- the fold is done; only the export event is left
      change (if hasExportLine response = true then _ else _) = _ at h
      unfold FirmwareControlState.taken
      split at h
      · rename_i hevent
        rw [if_pos hevent, ← hu]
        cases h
        rfl
      · rename_i hevent
        rw [if_neg hevent, ← hu]
        cases h
        rfl
  · rintro ⟨hnodup, as, has, rfl⟩
    obtain ⟨seen, hrun⟩ := (hfold (s.assign as)).mpr ⟨hnodup, as, has, rfl⟩
    have hrun : ((splitLines response).map strip |>.filter isSaid).foldlM updateSaid (s, []) =
        .ok (s.assign as, seen) := hrun
    rw [hrun]
    unfold FirmwareControlState.taken
    change (if hasExportLine response = true then _ else _) = _
    split
    · rfl
    · rfl

/-- What a reply says, whatever the state is. -/
structure ReplySays (response : Text) (as : List Assignment) (event : Bool) : Prop where
  sections : (sectionNames response).Nodup
  lines : linesAssignments (saidLines response) = .ok as
  event : hasExportLine response = event

/-- A reply that says something is taken in. -/
lemma ReplySays.updatedFromCli {as : List Assignment} {event : Bool}
    (h : ReplySays response as event) (s : FirmwareControlState) :
    s.updatedFromCli response = .ok (s.taken as event) :=
  updatedFromCli_ok_iff.mpr ⟨h.sections, as, h.lines, by rw [h.event]⟩

/-- No section comes twice and every line says something. -/
def Readable (response : Text) : Prop :=
  (sectionNames response).Nodup ∧ ∃ as, linesAssignments (saidLines response) = .ok as

/-- A reply is taken in or not whatever the state is. -/
lemma raises_iff (s : FirmwareControlState) (response : Text) :
    (∃ e, s.updatedFromCli response = .error e) ↔ ¬ Readable response := by
  constructor
  · rintro ⟨e, he⟩ ⟨hnodup, as, has⟩
    rw [updatedFromCli_ok_iff.mpr ⟨hnodup, as, has, rfl⟩] at he
    cases he
  · intro h
    cases hrun : s.updatedFromCli response with
    | error e => exact ⟨e, rfl⟩
    | ok t =>
      obtain ⟨hnodup, as, has, -⟩ := updatedFromCli_ok_iff.mp hrun
      exact absurd ⟨hnodup, as, has⟩ h

/-- The fields that a reply does not name are kept. -/
lemma updatedFromCli_get (h : s.updatedFromCli response = .ok t) {f : ControlField}
    (hf : f ∉ namedFields response) : t.get f = s.get f := by
  obtain ⟨-, as, has, rfl⟩ := updatedFromCli_ok_iff.mp h
  have hfields := linesAssignments_fields has
  have hkept : (s.assign as).get f = s.get f := s.get_assign_other (hfields.symm ▸ hf)
  unfold FirmwareControlState.taken
  split
  · cases f <;> exact hkept
  · exact hkept

/-- The revision is kept where there is no export event. -/
lemma updatedFromCli_revision (h : s.updatedFromCli response = .ok t)
    (hevent : hasExportLine response = false) : t.exportRevision = s.exportRevision := by
  obtain ⟨-, as, -, rfl⟩ := updatedFromCli_ok_iff.mp h
  rw [hevent]
  exact s.exportRevision_assign as

/-- Empty lines are not read. -/
lemma saidLines_eq (response : Text) :
    saidLines response = ((fullLines (splitLines response)).map strip).filter isSaid := by
  unfold saidLines
  induction splitLines response with
  | nil => rfl
  | cons line lines ih =>
    cases line with
    | nil => exact ih
    | cons c line =>
      change ((strip (c :: line)) :: lines.map strip).filter isSaid =
        ((strip (c :: line)) :: (fullLines lines).map strip).filter isSaid
      rw [List.filter_cons, List.filter_cons, ih]

/-- Behind a full line the lines of a text are its own. -/
lemma saidLines_append (front b : Text) :
    saidLines (front ++ ['\n'] ++ b) = saidLines (front ++ ['\n']) ++ saidLines b := by
  rw [saidLines_eq, saidLines_eq, saidLines_eq, List.append_assoc, List.singleton_append,
    fullLines_break front (by decide), List.map_append, List.filter_append]

/-- An export event is something said. -/
lemma isSaid_of_isExportLine {line : Text} (h : isExportLine line = true) : isSaid line = true := by
  rw [isSaid_iff]
  rintro (hempty | rfl | rfl)
  · rw [List.isEmpty_iff.mp hempty] at h
    cases h
  · cases h
  · cases h

/-- A reply has an export event if one of its lines is one. -/
lemma hasExportLine_eq (response : Text) :
    hasExportLine response = (saidLines response).any isExportLine := by
  unfold hasExportLine saidLines
  rw [List.any_filter, List.any_map]
  congr 1
  funext line
  change isExportLine (strip line) = (isSaid (strip line) && isExportLine (strip line))
  cases h : isExportLine (strip line) with
  | false => exact (Bool.and_false _).symm
  | true => rw [isSaid_of_isExportLine h, Bool.and_true]

/-- A reply with an export event names the export. -/
lemma mem_sectionNames_of_hasExportLine (h : hasExportLine response = true) :
    exportSection ∈ sectionNames response := by
  rw [hasExportLine_eq, List.any_eq_true] at h
  obtain ⟨line, hline, hevent⟩ := h
  exact List.mem_filterMap.mpr ⟨line, hline, sectionName_isExportLine hevent⟩

/-- Two replies are taken in as one, unless both have an export event. -/
lemma FirmwareControlState.taken_taken (s : FirmwareControlState) (as bs : List Assignment)
    {e e' : Bool} (h : ¬ (e = true ∧ e' = true)) :
    (s.taken as e).taken bs e' = s.taken (as ++ bs) (e || e') := by
  cases e with
  | false =>
    cases e' with
    | false => exact (s.assign_append as bs).symm
    | true =>
      unfold taken
      simp only [Bool.false_eq_true, if_false, Bool.false_or, if_true, exportRevision_assign,
        assign_append]
  | true =>
    cases e' with
    | false =>
      unfold taken
      simp only [Bool.false_eq_true, if_false, Bool.or_false, if_true, assign_revision,
        assign_append]
    | true => exact absurd ⟨rfl, rfl⟩ h

variable {a b : Text}

/-- Two texts can be read as one if both can be and no section stands in both. -/
lemma readable_append (hlines : saidLines (a ++ b) = saidLines a ++ saidLines b) :
    Readable (a ++ b) ↔
      (sectionNames a).Disjoint (sectionNames b) ∧ Readable a ∧ Readable b := by
  unfold Readable sectionNames
  rw [hlines, List.filterMap_append, List.nodup_append', linesAssignments_append]
  constructor
  · rintro ⟨⟨ha, hb, hdisjoint⟩, as, has⟩
    obtain ⟨bs, hbs, has⟩ := bind_eq_ok.mp has
    obtain ⟨cs, hcs, -⟩ := bind_eq_ok.mp has
    exact ⟨hdisjoint, ⟨ha, bs, hbs⟩, hb, cs, hcs⟩
  · rintro ⟨hdisjoint, ⟨ha, bs, hbs⟩, hb, cs, hcs⟩
    exact ⟨⟨ha, hb, hdisjoint⟩, bs ++ cs, bind_eq_ok.mpr ⟨bs, hbs, bind_eq_ok.mpr ⟨cs, hcs, rfl⟩⟩⟩

/-- What a text that ends a line says, and what comes after it, is taken in as the one and then the
other. -/
lemma updatedFromCli_bind (hlines : saidLines (a ++ b) = saidLines a ++ saidLines b)
    (hdisjoint : (sectionNames a).Disjoint (sectionNames b)) (ha : Readable a) (hb : Readable b)
    (s : FirmwareControlState) :
    s.updatedFromCli (a ++ b) = s.updatedFromCli a >>= fun t => t.updatedFromCli b := by
  obtain ⟨hnodup, -⟩ := (readable_append hlines).mpr ⟨hdisjoint, ha, hb⟩
  obtain ⟨ha, as, has⟩ := ha
  obtain ⟨hb, bs, hbs⟩ := hb
  have hall : linesAssignments (saidLines (a ++ b)) = .ok (as ++ bs) := by
    rw [hlines, linesAssignments_append, has, hbs]
    rfl
  have hevent : hasExportLine (a ++ b) = (hasExportLine a || hasExportLine b) := by
    rw [hasExportLine_eq, hasExportLine_eq, hasExportLine_eq, hlines, List.any_append]
  have honce : ¬ (hasExportLine a = true ∧ hasExportLine b = true) := fun h =>
    hdisjoint (mem_sectionNames_of_hasExportLine h.1) (mem_sectionNames_of_hasExportLine h.2)
  rw [updatedFromCli_ok_iff.mpr ⟨ha, as, has, rfl⟩,
    updatedFromCli_ok_iff.mpr ⟨hnodup, as ++ bs, hall, rfl⟩, hevent, ← s.taken_taken as bs honce]
  exact (updatedFromCli_ok_iff.mpr ⟨hb, bs, hbs, rfl⟩).symm

/-- Replies compose. Of two replies whose sections are disjoint, the first one ending in a newline, both
in one text fail where one of them fails, and otherwise are the first one and then the second; where
they share a section both in one text fail; and a reply keeps the fields it does not name. -/
theorem updatedFromCli_append (s : FirmwareControlState) (a b : Text)
    (ends : a.getLast? = some '\n') :
    ((sectionNames a).Disjoint (sectionNames b) →
      ((∃ e, s.updatedFromCli (a ++ b) = .error e) ↔
        (∃ e, s.updatedFromCli a = .error e) ∨ ∃ e, s.updatedFromCli b = .error e) ∧
      ∀ t u, s.updatedFromCli a = .ok t → s.updatedFromCli b = .ok u →
        ∃ r, s.updatedFromCli (a ++ b) = .ok r ∧ t.updatedFromCli b = .ok r) ∧
    (¬ (sectionNames a).Disjoint (sectionNames b) →
      ∃ e, s.updatedFromCli (a ++ b) = .error e) ∧
    ∀ reply t, s.updatedFromCli reply = .ok t →
      (∀ f ∉ namedFields reply, t.get f = s.get f) ∧
        (hasExportLine reply = false → t.exportRevision = s.exportRevision) := by
  -- the line end of the first text keeps its last line from running on
  obtain ⟨front, rfl⟩ := List.getLast?_eq_some_iff.mp ends
  have hlines := saidLines_append front b
  refine ⟨fun hdisjoint => ⟨?_, ?_⟩, ?_, ?_⟩
  · rw [raises_iff, raises_iff, raises_iff, readable_append hlines, ← not_and_or]
    exact not_congr (and_iff_right hdisjoint)
  · intro t u ht hu
    have ha : Readable (front ++ ['\n']) := by
      by_contra h
      obtain ⟨e, he⟩ := (raises_iff s _).mpr h
      rw [ht] at he
      cases he
    have hb : Readable b := by
      by_contra h
      obtain ⟨e, he⟩ := (raises_iff s _).mpr h
      rw [hu] at he
      cases he
    obtain ⟨hnodup, bs, hbs⟩ := hb
    have hnext := (updatedFromCli_ok_iff (s := t)).mpr ⟨hnodup, bs, hbs, rfl⟩
    refine ⟨_, ?_, hnext⟩
    rw [updatedFromCli_bind hlines hdisjoint ha ⟨hnodup, bs, hbs⟩, ht]
    exact hnext
  · intro hshared
    rw [raises_iff, readable_append hlines]
    exact fun h => hshared h.1
  · exact fun reply t h => ⟨fun f hf => updatedFromCli_get h hf, updatedFromCli_revision h⟩

/-- A state, and an export event after it. -/
theorem updatedFromCli_append_event :
    FirmwareControlState.updatedFromCli {}
      ("+STATE:IDLE\r\n".toList ++ "EXPORT_EMPTY\r\n".toList) =
        .ok {
          acquisitionState := some "IDLE".toList
          exportPhase := some "EMPTY".toList
          exportRevision := 1 } := by
  have hstate : sectionNames "+STATE:IDLE\r\n".toList = ["+STATE".toList] := by decide +kernel
  have hevent : sectionNames "EXPORT_EMPTY\r\n".toList = [exportSection] := by decide +kernel
  obtain ⟨hdisjoint, -⟩ := updatedFromCli_append {} "+STATE:IDLE\r\n".toList
    "EXPORT_EMPTY\r\n".toList (by decide)
  rw [hstate, hevent, List.singleton_disjoint] at hdisjoint
  obtain ⟨-, hok⟩ := hdisjoint (by decide)
  obtain ⟨r, hr, hnext⟩ := hok { acquisitionState := some "IDLE".toList }
    { exportPhase := some "EMPTY".toList, exportRevision := 1 } (by decide +kernel) (by decide +kernel)
  have hlast : FirmwareControlState.updatedFromCli { acquisitionState := some "IDLE".toList }
      "EXPORT_EMPTY\r\n".toList = .ok {
        acquisitionState := some "IDLE".toList
        exportPhase := some "EMPTY".toList
        exportRevision := 1 } := by
    decide +kernel
  exact hr.trans (hnext.symm.trans hlast)

end SensorHost.Protocol
