import Mathlib.Tactic

/-!
# Runs

A run is a sequence of events that a step function takes one after the other (`runFrom`). `Along`
states a condition on every event of a run, at the state in which it happens.

`Along.invariant` is the induction along a run. `Along.goal_iff` is its form for a goal that, once
lost, is never regained: the goal holds at the end if and only if a condition has held all along.
`Along.congr_of` exchanges one condition for another under an invariant.

A run may carry a record beside its state (`watched`), which each event updates from the state
before it and which the step never reads.
-/

namespace SensorHost.Lib

variable {σ ε : Type*} (step : σ → ε → σ)

/-- The state behind a sequence of events. -/
def runFrom (s : σ) (events : List ε) : σ := events.foldl step s

/-- `P` holds of every event of the run and of the state that the event finds. -/
def Along (P : σ → ε → Prop) : σ → List ε → Prop
  | _, [] => True
  | s, e :: es => P s e ∧ Along P (step s e) es

/-- A run takes its first event first. -/
lemma runFrom_cons (s : σ) (e : ε) (es : List ε) :
    runFrom step s (e :: es) = runFrom step (step s e) es := rfl

/-- A run over two sequences is the run over the second from where the first ends. -/
lemma runFrom_append (s : σ) (as bs : List ε) :
    runFrom step s (as ++ bs) = runFrom step (runFrom step s as) bs := List.foldl_append

instance Along.decidable {P : σ → ε → Prop} [∀ s e, Decidable (P s e)] :
    (s : σ) → (events : List ε) → Decidable (Along step P s events)
  | _, [] => inferInstanceAs (Decidable True)
  | s, e :: es =>
    @instDecidableAnd _ _ (inferInstanceAs (Decidable (P s e))) (Along.decidable (step s e) es)

variable {step} {P : σ → ε → Prop} {I Q : σ → Prop} {s : σ} {es : List ε}

/-- A condition along two sequences. -/
lemma along_append (as bs : List ε) :
    Along step P s (as ++ bs) ↔ Along step P s as ∧ Along step P (runFrom step s as) bs := by
  induction as generalizing s with
  | nil => exact ⟨fun h => ⟨trivial, h⟩, fun h => h.2⟩
  | cons a as ih =>
    constructor
    · rintro ⟨hnow, hlater⟩
      obtain ⟨has, hbs⟩ := ih.mp hlater
      exact ⟨⟨hnow, has⟩, hbs⟩
    · rintro ⟨⟨hnow, has⟩, hbs⟩
      exact ⟨hnow, ih.mpr ⟨has, hbs⟩⟩

/-- Two conditions along a run are one. -/
lemma Along.and {R : σ → ε → Prop} (h : Along step P s es) (h' : Along step R s es) :
    Along step (fun s e => P s e ∧ R s e) s es := by
  induction es generalizing s with
  | nil => exact trivial
  | cons e es ih => exact ⟨⟨h.1, h'.1⟩, ih h.2 h'.2⟩

/-- A condition that holds at every state holds along the run. -/
lemma along_of_forall (h : ∀ e ∈ es, ∀ s, P s e) : Along step P s es := by
  induction es generalizing s with
  | nil => exact trivial
  | cons e es ih =>
    exact ⟨h e List.mem_cons_self s, ih fun e' he' => h e' (List.mem_cons_of_mem e he')⟩

/-- A condition along a run holds along what has happened of it. -/
lemma Along.take (h : Along step P s es) (n : Nat) : Along step P s (es.take n) := by
  rw [← List.take_append_drop n es] at h
  exact ((along_append _ _).mp h).1

/-- What every event keeps under the condition holds behind the run. -/
theorem Along.invariant (hstep : ∀ s e, I s → P s e → I (step s e)) (h : Along step P s es)
    (hs : I s) : I (runFrom step s es) := by
  induction es generalizing s with
  | nil => exact hs
  | cons e es ih => exact ih h.2 (hstep s e hs h.1)

/-- What every event keeps holds behind every run. -/
theorem runFrom_invariant (hstep : ∀ s e, I s → I (step s e)) (hs : I s) (es : List ε) :
    I (runFrom step s es) := by
  induction es generalizing s with
  | nil => exact hs
  | cons e es ih => exact ih (hstep s e hs)

/-- A goal that is never regained is met exactly by the runs along which the condition holds, if
under the invariant the condition is what an event needs to keep it. -/
theorem Along.goal_iff (hlost : ∀ s e, Q (step s e) → Q s)
    (hkeep : ∀ s e, I s → Q s → P s e → I (step s e) ∧ Q (step s e))
    (hbreak : ∀ s e, I s → ¬ P s e → ¬ Q (step s e)) (hs : I s) (hq : Q s) (es : List ε) :
    Q (runFrom step s es) ↔ Along step P s es := by
  have hback : ∀ (es : List ε) (s : σ), Q (runFrom step s es) → Q s := by
    intro es
    induction es with
    | nil => exact fun s h => h
    | cons e es ih => exact fun s h => hlost s e (ih _ h)
  induction es generalizing s with
  | nil => exact ⟨fun _ => trivial, fun _ => hq⟩
  | cons e es ih =>
    rw [runFrom_cons]
    constructor
    · intro hrun
      have hp : P s e := by
        by_contra hp
        exact hbreak s e hs hp (hback es _ hrun)
      obtain ⟨hi, hq'⟩ := hkeep s e hs hq hp
      exact ⟨hp, (ih hi hq').mp hrun⟩
    · rintro ⟨hp, hlater⟩
      obtain ⟨hi, hq'⟩ := hkeep s e hs hq hp
      exact (ih hi hq').mpr hlater

/-- A goal holds behind every part of a run exactly if the condition holds along the run, if under the
invariant the condition is what an event needs to keep it. -/
theorem Along.throughout_iff (hstep : ∀ s e, I s → I (step s e))
    (hkeep : ∀ s e, I s → Q s → (Q (step s e) ↔ P s e)) (hs : I s) (hq : Q s) (es : List ε) :
    (∀ n, Q (runFrom step s (es.take n))) ↔ Along step P s es := by
  induction es generalizing s with
  | nil => exact ⟨fun _ => trivial, fun _ n => by rw [List.take_nil]; exact hq⟩
  | cons e es ih =>
    constructor
    · intro hall
      have hnext : Q (step s e) := hall 1
      refine ⟨(hkeep s e hs hq).mp hnext, (ih (hstep s e hs) hnext).mp ?_⟩
      exact fun n => hall (n + 1)
    · rintro ⟨hnow, hlater⟩ n
      have hnext := (hkeep s e hs hq).mpr hnow
      cases n with
      | zero => exact hq
      | succ n => exact (ih (hstep s e hs) hnext).mpr hlater n

/-- A goal holds behind every part of a run exactly if the condition holds along the run, if the
condition is what an event needs for the goal, under an invariant that the condition keeps. -/
theorem Along.throughout_iff_of (hkeep : ∀ s e, I s → P s e → I (step s e)) (hgoal : ∀ s, I s → Q s)
    (hneeds : ∀ s e, I s → Q (step s e) → P s e) (hs : I s) (es : List ε) :
    (∀ n, Q (runFrom step s (es.take n))) ↔ Along step P s es := by
  induction es generalizing s with
  | nil => exact ⟨fun _ => trivial, fun _ n => by rw [List.take_nil]; exact hgoal s hs⟩
  | cons e es ih =>
    constructor
    · intro hall
      have hnow := hneeds s e hs (hall 1)
      exact ⟨hnow, (ih (hkeep s e hs hnow)).mp fun n => hall (n + 1)⟩
    · rintro ⟨hnow, hlater⟩ n
      cases n with
      | zero => exact hgoal s hs
      | succ n => exact (ih (hkeep s e hs hnow)).mpr hlater n

/-- Under an invariant that one of them keeps, two conditions that agree on every event agree along
every run. -/
theorem Along.congr_of {P' : σ → ε → Prop} (hkeep : ∀ s e, I s → P s e → I (step s e))
    (hiff : ∀ s e, I s → (P s e ↔ P' s e)) (hs : I s) (es : List ε) :
    Along step P s es ↔ Along step P' s es := by
  induction es generalizing s with
  | nil => exact .rfl
  | cons e es ih =>
    constructor
    · rintro ⟨hnow, hlater⟩
      exact ⟨(hiff s e hs).mp hnow, (ih (hkeep s e hs hnow)).mp hlater⟩
    · rintro ⟨hnow, hlater⟩
      have hnow := (hiff s e hs).mpr hnow
      exact ⟨hnow, (ih (hkeep s e hs hnow)).mpr hlater⟩

/-- Under an invariant, two conditions that agree on every event agree along every run. -/
theorem Along.congr {P' : σ → ε → Prop} (hstep : ∀ s e, I s → I (step s e))
    (hiff : ∀ s e, I s → (P s e ↔ P' s e)) (hs : I s) (es : List ε) :
    Along step P s es ↔ Along step P' s es :=
  Along.congr_of (fun s e hi _ => hstep s e hi) hiff hs es

/-- Under an invariant, a condition along a run gives another one that it implies at every event. -/
theorem Along.imp_of {P' : σ → ε → Prop} (hstep : ∀ s e, I s → I (step s e))
    (himp : ∀ s e, I s → P s e → P' s e) (hs : I s) (h : Along step P s es) :
    Along step P' s es := by
  induction es generalizing s with
  | nil => exact trivial
  | cons e es ih => exact ⟨himp s e hs h.1, ih (hstep s e hs) h.2⟩

/-- The step with a record of the run beside the state. -/
def watched {γ : Type*} (step : σ → ε → σ) (update : σ → γ → ε → γ) (s : σ × γ) (e : ε) : σ × γ :=
  (step s.1 e, update s.1 s.2 e)

/-- The record does not change the run. -/
lemma runFrom_watched {γ : Type*} (update : σ → γ → ε → γ) (s : σ × γ) (es : List ε) :
    (runFrom (watched step update) s es).1 = runFrom step s.1 es := by
  induction es generalizing s with
  | nil => rfl
  | cons e es ih => exact ih _

/-- A condition on the states of a run is one on the states beside the record. -/
lemma along_watched {γ : Type*} (update : σ → γ → ε → γ) (s : σ × γ) (es : List ε) :
    Along (watched step update) (fun x e => P x.1 e) s es ↔ Along step P s.1 es := by
  induction es generalizing s with
  | nil => exact .rfl
  | cons e es ih => exact and_congr_right fun _ => ih _

end SensorHost.Lib
