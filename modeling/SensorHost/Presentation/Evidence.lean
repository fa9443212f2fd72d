import SensorHost.Presentation.ExportWatch

/-!
# The end of an export

An export that was not cancelled is closed only by an event of its own, and the export of each
recorder is reported once (`export_ends_on_evidence`).

The theorem is read off what `tracked_run` gives in every run. The poll closes an export when the
control state has a later revision than at the attachment and a phase of an end; the revision counts
the export events that were heard since, so there was one, and the phase is that of the last. A
recorder is reported as it is detached, and no later one has its number.

The witness is an export that ends `EMPTY` before its first byte.
-/

namespace SensorHost.Presentation
open SensorHost.Lib SensorHost.Protocol SensorHost.Storage SensorHost.Acquisition SensorHost.Ota
  SensorHost.Transport

variable {crc32 : Bytes → UInt32} {c d : AppController} {s t : ManagedSession} {h : Host} {id : Nat}

/-- An event that leaves the export under way is none of its end. -/
lemma endsExport_of_closed {line : Text} (hevent : isExportEvent line = true)
    (hclosed : isClosedPhase (some (eventPhase line)) = true) : endsExport line = true := by
  unfold isExportEvent at hevent
  cases hends : endsExport line with
  | true => rfl
  | false =>
    rw [hends, Bool.or_false] at hevent
    unfold eventPhase at hclosed
    rw [if_pos hevent] at hclosed
    revert hclosed
    decide

/-- An export is closed by a phase that came behind its start. -/
lemma closingPhase_some (uncancelled : AppController.cancelConfirmed s = false) {phase : Text}
    (closes : AppController.closingPhase s = some phase) :
    ∃ state, s.controlState = some state ∧ s.archiveStartRevision < state.exportRevision ∧
      state.exportPhase = some phase ∧ isClosedPhase (some phase) = true := by
  unfold AppController.closingPhase at closes
  rw [uncancelled, if_neg Bool.false_ne_true] at closes
  cases hstate : s.controlState with
  | none =>
    rw [hstate] at closes
    cases closes
  | some state =>
    rw [hstate] at closes
    dsimp only at closes
    split at closes
    · rename_i hphase
      refine ⟨state, rfl, hphase.2, closes, ?_⟩
      rw [← closes, isClosedPhase_iff]
      have hclosed := hphase.1
      tauto
    · cases closes

/-- An export that was not cancelled is closed by the poll only if the latest export event since its
recorder was attached ends an export and is the phase that the poll reads; and no recorder's export is
reported twice. -/
theorem export_ends_on_evidence (crc32 : Bytes → UInt32) (aliases : List (Text × Text))
    (events : List Event) :
    let x := runFrom (watched (AppController.step crc32) (AppController.watchExports crc32))
      (AppController.initial aliases, {}) events
    (∀ h d t id, x.1.Finalizes h d t → t.archiveRecorder = some id →
      x.2.cancelled t.sid = false → (∀ line ∈ x.2.heard t.sid, isExportEvent line = true) →
      (x.2.heard t.sid = [] → d.finalizeCompletedExport h t = d) ∧
      ((∀ u ∈ (d.finalizeCompletedExport h t).sessions, u.sid = t.sid →
          u.archiveRecorder ≠ some id) →
        ∃ earlier line, x.2.heard t.sid = earlier ++ [line] ∧ endsExport line = true ∧
          t.controlState.bind (·.exportPhase) = some (eventPhase line))) ∧
    ∃ ids : List Nat, x.2.reported = ids.map some ∧ ids.Nodup := by
  intro x
  obtain ⟨wf, -, tracked⟩ := tracked_run crc32 aliases events
  refine ⟨?_, ?_⟩
  · intro h d t id hfinal attached uncancelled known
    obtain ⟨hwf, s, live, hmem, hsid, hsame, -⟩ := hfinal.exporting wf
    have hfield := fun {β : Type} (get : ManagedSession → β) (hget : ∀ s, get s.exporting = get s) =>
      exporting_field get hget hsame
    have hattached : s.archiveRecorder = some id := (hfield (·.archiveRecorder) fun _ => rfl).symm.trans attached
    have hsome : s.archiveRecorder.isSome = true := by rw [hattached]; rfl
    have htraced := tracked.traced s live
    rw [hsid] at uncancelled known ⊢
    -- the flag of a cancel is set by a call of `cancelExportFor`, and none was made
    have hunconfirmed : AppController.cancelConfirmed t = false := by
      have hflag : t.archiveCancelRequested = false := by
        by_contra hset
        rw [hfield (·.archiveCancelRequested) fun _ => rfl, Bool.not_eq_false] at hset
        exact absurd ((htraced.cancelled hset).2.symm.trans uncancelled) (by decide)
      unfold AppController.cancelConfirmed
      rw [hflag, Bool.false_and]
    have hstart : t.archiveStartRevision = s.archiveStartRevision :=
      hfield (·.archiveStartRevision) fun _ => rfl
    have hstate : t.acquisition.controlState = s.acquisition.controlState :=
      hfield (·.acquisition.controlState) fun _ => rfl
    have hrevision := htraced.revision hsome
    have hphase := htraced.phase hsome
    rw [← hstate] at hrevision hphase
    rw [← hstart] at hrevision
    have hcloses : ∀ phase, AppController.closingPhase t = some phase →
        ∃ earlier line, x.2.heard s.sid = earlier ++ [line] ∧ endsExport line = true ∧
          t.controlState.bind (·.exportPhase) = some (eventPhase line) := by
      intro phase hclosing
      obtain ⟨state, hshown, hlater, hnow, hclosed⟩ := closingPhase_some hunconfirmed hclosing
      have hrev := (hwf.formed t hmem).revision
      rw [hshown] at hrev
      have hrev : state.exportRevision = t.acquisition.controlState.exportRevision := hrev
      -- with nothing heard the revision is still the one of the start
      have hne : x.2.heard s.sid ≠ [] := by
        intro hnil
        rw [hrev, hrevision, hnil] at hlater
        exact absurd hlater (Nat.lt_irrefl _)
      have hsplit := List.dropLast_append_getLast hne
      have hknown := known _ (List.getLast_mem hne)
      have hlast := hphase _ (List.getLast?_eq_some_getLast hne) hknown
      have hread := (hwf.formed t hmem).phase
      refine ⟨_, _, hsplit.symm, ?_, hread.trans hlast⟩
      refine endsExport_of_closed hknown ?_
      rw [← hlast, ← hread, hshown]
      show isClosedPhase state.exportPhase = true
      rw [hnow]
      exact hclosed
    have hidle : AppController.closingPhase t = none → d.finalizeCompletedExport h t = d :=
      fun hnone => finalizeCompletedExport_idle (.inr hnone)
    cases hclosing : AppController.closingPhase t with
    | none =>
      refine ⟨fun _ => hidle hclosing, fun hdetached => ?_⟩
      rw [hidle hclosing] at hdetached
      exact absurd attached (hdetached t hmem hsid)
    | some phase =>
      obtain ⟨earlier, line, hheard, hends⟩ := hcloses phase hclosing
      refine ⟨fun hnil => ?_, fun _ => ⟨earlier, line, hheard, hends⟩⟩
      rw [hheard] at hnil
      exact absurd hnil (List.append_ne_nil_of_right_ne_nil _ (List.cons_ne_nil _ _))
  · obtain ⟨ids, hids, hnodup, -⟩ := tracked.reported
    exact ⟨ids, hids, hnodup⟩

/-- The events by which a first gateway reports its UUID, and that it is idle. -/
def Event.exportReady : List Event :=
  [.operation {} (.startWifiServer "0.0.0.0:9000".toList)] ++ Event.gatewayReady 0 ++
    Event.reply 0 "+UUID:00000000-0000-0000-0000-000000000001\r\n" ++ [.publishSnapshots {}]

/-- The device of a first export has nothing to send. -/
def Event.emptyExport : List Event :=
  Event.exportReady ++ [.operation {} (.startExportFor "wifi-1".toList)] ++
    Event.reply 0 "EXPORT_BEGIN:UART\r\n" ++ Event.reply 0 "EXPORT_EMPTY\r\n"

/-- The poll behind it closes the export, whose last event is its end. -/
theorem export_ends_on_evidence_empty :
    let x := runFrom (watched (AppController.step zlibCrc32) (AppController.watchExports zlibCrc32))
      (AppController.initial [], {}) Event.emptyExport
    ∃ earlier line, x.2.heard 0 = earlier ++ [line] ∧ endsExport line = true := by
  intro x
  have hpoll : (x.1.sessionBySid? 0).any (fun s => ((x.1.opened {} s).sessionBySid? 0).any fun t =>
      t.archiveRecorder == some 0 && t.sid == 0 &&
        ((x.1.opened {} s).finalizeCompletedExport {} t).sessions.all fun u =>
          u.archiveRecorder != some 0) = true := by
    decide +kernel
  obtain ⟨s, hsession, hs⟩ := (Option.any_eq_true _ _).mp hpoll
  obtain ⟨t, hopened, ht⟩ := (Option.any_eq_true _ _).mp hs
  rw [Bool.and_eq_true, Bool.and_eq_true, beq_iff_eq, beq_iff_eq, List.all_eq_true] at ht
  obtain ⟨⟨hattached, hsid⟩, hdetached⟩ := ht
  have hfinal : x.1.Finalizes {} (x.1.opened {} s) t := by
    refine ⟨by decide +kernel, [], 0, [], s, by decide +kernel, hsession, rfl, hopened⟩
  have hclosed := (export_ends_on_evidence zlibCrc32 [] Event.emptyExport).1 {} _ t 0 hfinal hattached
    (by rw [hsid]; decide +kernel) (by rw [hsid]; decide +kernel)
  obtain ⟨earlier, line, hheard, hends, -⟩ := hclosed.2 fun u hu _ => bne_iff_ne.mp (hdetached u hu)
  rw [hsid] at hheard
  exact ⟨earlier, line, hheard, hends⟩

end SensorHost.Presentation
