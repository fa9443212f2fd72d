import SensorHost.Lib.Alike
import SensorHost.Protocol.ControlState

/-!
# What a reply says

Read on the empty state, a reply gives what it says itself. Read on any other state it fails in the
same way, or overlays what the state had (`updatedFromCli_overlay`): a field that the reply names is
taken from it, and the others stay. This is stated for the fields that the application decides by.

`Overlay` relates a state, the same state over a base, and the base. Every parser of a section is
`Uniform`: it raises on both or sets the same fields on both. The fold over the lines carries
`Overlay` along (`updateLine_overlay`). The lemma is used where a decision goes by a field of the
cached state and one asks which reply it came from.
-/

namespace SensorHost.Protocol
open SensorHost.Lib

/-- The state `b` is `a` over `base`. -/
structure Overlay (base a b : FirmwareControlState) : Prop where
  acquisitionState : b.acquisitionState = a.acquisitionState.or base.acquisitionState
  exportTarget : b.exportTarget = a.exportTarget.or base.exportTarget
  otaState : b.otaState = a.otaState.or base.otaState

/-- The update does the same to a state and to what is over another one. -/
def Uniform (update : Update) : Prop :=
  ∀ base a b, Overlay base a b → Alike (Overlay base) (update a) (update b)

/-- Setting a field does the same to a state and to what is over another one. -/
def Lays (set : FirmwareControlState → FirmwareControlState) : Prop :=
  ∀ base a b, Overlay base a b → Overlay base (set a) (set b)

variable {values : List (Text × Text)} {base : FirmwareControlState}

/-- Setting a field is uniform. -/
lemma Uniform.ok {set : FirmwareControlState → FirmwareControlState} (h : Lays set) :
    Uniform fun s => .ok (set s) :=
  fun base a b hover => .ok (h base a b hover)

/-- Two uniform updates are so one after the other. -/
lemma Uniform.bind {u v : Update} (hu : Uniform u) (hv : Uniform v) :
    Uniform fun s => u s >>= v :=
  fun base a b hover => (hu base a b hover).bind fun a' b' h => hv base a' b' h

/-- A value that does not depend on the state comes first. -/
lemma Uniform.value {α : Type} (x : Except ControlStateError α) {u : α → Update}
    (hu : ∀ v, Uniform (u v)) : Uniform fun s => x >>= fun v => u v s := by
  intro base a b hover
  cases x with
  | error e => exact .error e
  | ok v => exact hu v base a b hover

/-- Setting numbers is uniform. -/
lemma uniform_setIntegers {fields : List IntegerField} (h : ∀ f ∈ fields, ∀ n, Lays (f.2 n)) :
    Uniform (setIntegers values fields) := by
  induction fields with
  | nil => exact fun base a b hover => .ok hover
  | cons field fields ih =>
    obtain ⟨name, set⟩ := field
    have hrest : Uniform (setIntegers values fields) :=
      ih fun f hf => h f (List.mem_cons_of_mem _ hf)
    intro base a b hover
    unfold setIntegers
    cases values.lookup name.toList with
    | none => exact hrest base a b hover
    | some value =>
      refine Uniform.value (u := fun n s => setIntegers values fields (set n s))
        (unsigned value name.toList) ?_ base a b hover
      intro n base a b hover
      exact hrest base _ _ (h (name, set) List.mem_cons_self n base a b hover)

/-- Setting a text is uniform. -/
lemma uniform_setText {name : String} {set : Text → FirmwareControlState → FirmwareControlState}
    (h : ∀ v, Lays (set v)) : Uniform (setText values name set) := by
  intro base a b hover
  unfold setText
  cases values.lookup name.toList with
  | none => exact .ok hover
  | some value => exact .ok (h value base a b hover)

/-- Setting a flag is uniform. -/
lemma uniform_setBoolean {name : String} {set : Bool → FirmwareControlState → FirmwareControlState}
    (h : ∀ v, Lays (set v)) : Uniform (setBoolean values name set) := by
  intro base a b hover
  unfold setBoolean
  cases values.lookup name.toList with
  | none => exact .ok hover
  | some value =>
    exact Uniform.value (u := fun v s => .ok (set v s)) (boolean value name.toList)
      (fun v => .ok (h v)) base a b hover

/-- Setting a field that is not among those of the overlay. -/
lemma lays_other {set : FirmwareControlState → FirmwareControlState}
    (h1 : ∀ s, (set s).acquisitionState = s.acquisitionState)
    (h2 : ∀ s, (set s).exportTarget = s.exportTarget) (h3 : ∀ s, (set s).otaState = s.otaState) :
    Lays set := by
  intro base a b hover
  refine ⟨?_, ?_, ?_⟩
  · rw [h1, h1]
    exact hover.acquisitionState
  · rw [h2, h2]
    exact hover.exportTarget
  · rw [h3, h3]
    exact hover.otaState

/-- The UUID. -/
lemma uniform_parseUuid (content : Text) : Uniform (parseUuid content) := by
  intro base a b hover
  unfold parseUuid
  cases splitOn ',' content with
  | nil => exact .ok hover
  | cons first rest =>
    dsimp only
    cases Uuid.ofText first with
    | none => exact .error _
    | some uuid =>
      have hset : Overlay base { a with deviceUuid := some uuid } { b with deviceUuid := some uuid } :=
        ⟨hover.acquisitionState, hover.exportTarget, hover.otaState⟩
      dsimp only
      split
      · exact .ok hset
      · refine Uniform.value (keyValues (",".toList.intercalate rest)) (fun values => ?_) base _ _ hset
        exact uniform_setText fun v => lays_other (fun _ => rfl) (fun _ => rfl) fun _ => rfl

/-- The SD section. -/
lemma uniform_parseSd : Uniform (parseSd values) := by
  refine Uniform.bind (uniform_setIntegers ?_) (Uniform.bind (uniform_setBoolean ?_)
    (uniform_setBoolean ?_))
  · intro f hf n
    simp only [List.mem_cons, List.not_mem_nil, or_false] at hf
    obtain rfl | rfl | rfl | rfl | rfl | rfl | rfl := hf <;>
      exact lays_other (fun _ => rfl) (fun _ => rfl) fun _ => rfl
  · exact fun v => lays_other (fun _ => rfl) (fun _ => rfl) fun _ => rfl
  · exact fun v => lays_other (fun _ => rfl) (fun _ => rfl) fun _ => rfl

/-- The export section. -/
lemma uniform_parseExportStatus : Uniform (parseExportStatus values) := by
  refine Uniform.bind (uniform_setText ?_) (uniform_setIntegers ?_)
  · exact fun v base a b hover => ⟨hover.acquisitionState, rfl, hover.otaState⟩
  · intro f hf n
    simp only [List.mem_cons, List.not_mem_nil, or_false] at hf
    obtain rfl | rfl := hf <;> exact lays_other (fun _ => rfl) (fun _ => rfl) fun _ => rfl

/-- The section on live frames. -/
lemma uniform_parseLive : Uniform (parseLive values) := by
  refine Uniform.bind (uniform_setText ?_) (uniform_setIntegers ?_)
  · exact fun v => lays_other (fun _ => rfl) (fun _ => rfl) fun _ => rfl
  · intro f hf n
    simp only [List.mem_cons, List.not_mem_nil, or_false] at hf
    obtain rfl | rfl | rfl | rfl := hf <;>
      exact lays_other (fun _ => rfl) (fun _ => rfl) fun _ => rfl

/-- The diagnosis. -/
lemma uniform_parseDiag : Uniform (parseDiag values) := by
  refine uniform_setIntegers ?_
  intro f hf n
  simp only [List.mem_cons, List.not_mem_nil, or_false] at hf
  obtain rfl | rfl | rfl | rfl | rfl | rfl | rfl | rfl | rfl := hf <;>
    exact lays_other (fun _ => rfl) (fun _ => rfl) fun _ => rfl

/-- The OTA section. -/
lemma uniform_parseOta : Uniform (parseOta values) := by
  refine Uniform.bind (uniform_setText ?_) (uniform_setIntegers ?_)
  · exact fun v base a b hover => ⟨hover.acquisitionState, hover.exportTarget, rfl⟩
  · intro f hf n
    simp only [List.mem_cons, List.not_mem_nil, or_false] at hf
    obtain rfl | rfl | rfl := hf <;> exact lays_other (fun _ => rfl) (fun _ => rfl) fun _ => rfl

/-- The export events. -/
lemma uniform_parseExportEvent (line : Text) : Uniform (parseExportEvent line) := by
  intro base a b hover
  unfold parseExportEvent
  split
  · exact .ok ⟨hover.acquisitionState, rfl, hover.otaState⟩
  · split
    · exact .ok ⟨hover.acquisitionState, hover.exportTarget, hover.otaState⟩
    · split
      · exact .ok ⟨hover.acquisitionState, hover.exportTarget, hover.otaState⟩
      · split
        · refine Uniform.value
            (u := fun values s => setIntegers values
              [("CHUNKS", fun n s => { s with exportChunks := some n }),
                ("FRAMES", fun n s => { s with exportFrames := some n })]
              { s with exportPhase := some "COMPLETE".toList })
            (keyValues (removePrefix line "EXPORT_END:".toList)) ?_ base a b hover
          intro values base a b hover
          refine uniform_setIntegers ?_ base _ _
            ⟨hover.acquisitionState, hover.exportTarget, hover.otaState⟩
          intro f hf n
          simp only [List.mem_cons, List.not_mem_nil, or_false] at hf
          obtain rfl | rfl := hf <;> exact lays_other (fun _ => rfl) (fun _ => rfl) fun _ => rfl
        · exact .ok hover

/-- Every section does the same to a state and to what is over another one. -/
lemma uniform_sections : ∀ sec ∈ sections, ∀ v, Uniform (sec.2 v) := by
  intro sec hsec v
  unfold sections at hsec
  simp only [List.mem_cons, List.not_mem_nil, or_false] at hsec
  obtain rfl | rfl | rfl | rfl | rfl | rfl | rfl | rfl | rfl | rfl := hsec
  · exact fun base a b hover => .ok ⟨rfl, hover.exportTarget, hover.otaState⟩
  · refine Uniform.value (u := fun n s => .ok { s with uartBaud := some n }) _ fun n => .ok ?_
    exact lays_other (fun _ => rfl) (fun _ => rfl) fun _ => rfl
  · exact uniform_parseUuid v
  · exact Uniform.value _ fun values => uniform_parseSd
  · exact Uniform.value _ fun values => uniform_parseExportStatus
  · exact Uniform.value _ fun values => uniform_parseLive
  · exact .ok (lays_other (fun _ => rfl) (fun _ => rfl) fun _ => rfl)
  · exact Uniform.value _ fun values => uniform_parseDiag
  · exact .ok (lays_other (fun _ => rfl) (fun _ => rfl) fun _ => rfl)
  · exact Uniform.value _ fun values => uniform_parseOta

/-- Every line is taken in uniformly. -/
lemma uniform_parseLineInto (line : Text) : Uniform (parseLineInto line) := by
  unfold parseLineInto
  cases hfind : sections.find? fun sec => startsWith line sec.1.toList with
  | none => exact uniform_parseExportEvent line
  | some sec => exact uniform_sections sec (List.mem_of_find?_eq_some hfind) _

/-- A line does the same to a state and to what is over another one. -/
lemma updateLine_overlay {a b : FirmwareControlState} (hover : Overlay base a b) (seen : List Text)
    (line : Text) :
    Alike (fun x y => Overlay base x.1 y.1 ∧ y.2 = x.2) (updateLine (a, seen) line)
      (updateLine (b, seen) line) := by
  unfold updateLine
  dsimp only
  split
  · exact .ok ⟨hover, rfl⟩
  · split
    · refine (uniform_parseLineInto _ base a b hover).bind ?_
      exact fun a' b' h => .ok ⟨h, rfl⟩
    · split
      · exact .error _
      · refine (uniform_parseLineInto _ base a b hover).bind ?_
        exact fun a' b' h => .ok ⟨h, rfl⟩

/-- A reply fails on every state alike, or overlays the state. -/
theorem updatedFromCli_overlay (base : FirmwareControlState) (text : Text) :
    Alike (Overlay base) (FirmwareControlState.updatedFromCli {} text) (base.updatedFromCli text) := by
  unfold FirmwareControlState.updatedFromCli
  have hlines : Alike (fun x y => Overlay base x.1 y.1 ∧ y.2 = x.2)
      ((splitLines text).foldlM updateLine ({}, []))
      ((splitLines text).foldlM updateLine (base, [])) := by
    refine Alike.foldlM ?_ ⟨⟨rfl, rfl, rfl⟩, rfl⟩ _
    intro a b line h
    obtain ⟨a, seen⟩ := a
    obtain ⟨b, seen'⟩ := b
    cases h.2
    exact updateLine_overlay h.1 seen line
  refine hlines.bind ?_
  intro a b h
  dsimp only
  split
  · exact .ok ⟨h.1.acquisitionState, h.1.exportTarget, h.1.otaState⟩
  · exact .ok h.1

end SensorHost.Protocol
