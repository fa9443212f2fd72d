import Mathlib.Tactic

/-!
# Interaction programs

A program is a finite tree of operations, each followed by one continuation for every response. It
is given a meaning twice: against a `World`, whose state may also change between two operations
(`Run`), and against a deterministic handler (`interp`).

`Triple` is partial correctness against a world. Its assertions must be stable, that is, kept by
every interference of the world; the rules `Triple.ret`, `Triple.op` and `Triple.bind` then follow
the program text. Programs that may fail are `ExceptT` over programs: `TripleOk` speaks of their
normal returns only, and `TripleEx` also of the errors they raise and the state in which they raise
them.

The rules have the same names for each kind of triple: `weaken` is the rule of consequence, `pure`,
`throw` and `perform` are the leaves, and `bind` is sequencing.
-/

namespace SensorHost.Lib

/-- Programs over the operations `Op` with responses in `Res`. -/
inductive Program (Op : Type) (Res : Op → Type) (α : Type) where
  | ret (a : α)
  | op (o : Op) (next : Res o → Program Op Res α)

namespace Program

variable {Op : Type} {Res : Op → Type} {α β ε S : Type}

/-- Run `f` where the program returns. -/
def bind : Program Op Res α → (α → Program Op Res β) → Program Op Res β
  | .ret a, f => f a
  | .op o next, f => .op o fun r => (next r).bind f

instance : Monad (Program Op Res) where
  pure := .ret
  bind := bind

/-- One operation. -/
def perform (o : Op) : Program Op Res (Res o) := .op o .ret

/-- Returning does nothing. -/
@[simp] lemma pure_eq (a : α) : (pure a : Program Op Res α) = .ret a := rfl

/-- A return hands its value on. -/
@[simp] lemma ret_bind (a : α) (f : α → Program Op Res β) : (Program.ret a >>= f) = f a := rfl

/-- An operation hands each response on. -/
@[simp] lemma op_bind (o : Op) (next : Res o → Program Op Res α) (f : α → Program Op Res β) :
    (Program.op o next >>= f) = .op o fun r => next r >>= f := rfl

end Program

open Program

variable {Op : Type} {Res : Op → Type} {α β ε S : Type}

/-- How a state responds to operations, and how it may change by itself. -/
structure World (Op : Type) (Res : Op → Type) (S : Type) where
  respond : (o : Op) → S → Res o → S → Prop
  interfere : S → S → Prop

/-- The complete runs of a program, interference included. -/
inductive Run (W : World Op Res S) : Program Op Res α → S → α → S → Prop where
  | ret {a s} : Run W (.ret a) s a s
  | interfere {p s s' a s''} (step : W.interfere s s') (rest : Run W p s' a s'') : Run W p s a s''
  | op {o next s r s' a s''} (step : W.respond o s r s') (rest : Run W (next r) s' a s'') :
      Run W (.op o next) s a s''

variable {W : World Op Res S}

/-- A run of a sequence is a run of each part. -/
lemma Run.of_bind {p : Program Op Res α} {f : α → Program Op Res β} {s : S} {b : β} {s'' : S}
    (h : Run W (p >>= f) s b s'') : ∃ a s', Run W p s a s' ∧ Run W (f a) s' b s'' := by
  generalize hq : (p >>= f) = q at h
  induction h generalizing p with
  | ret =>
    cases p with
    | ret a => exact ⟨a, _, .ret, by rw [← ret_bind a f, hq]; exact .ret⟩
    | op o next => cases hq
  | interfere step _ ih =>
    obtain ⟨a, s', hp, hf⟩ := ih hq
    exact ⟨a, s', .interfere step hp, hf⟩
  | op step rest ih =>
    cases p with
    | ret a => exact ⟨a, _, .ret, by rw [← ret_bind a f, hq]; exact .op step rest⟩
    | op o next =>
      rw [op_bind] at hq
      cases hq
      obtain ⟨a, s', hp, hf⟩ := ih rfl
      exact ⟨a, s', .op step hp, hf⟩

/-- The world keeps the assertion by itself. -/
def Stable (W : World Op Res S) (P : S → Prop) : Prop := ∀ s s', P s → W.interfere s s' → P s'

/-- Every complete run from `P` ends in `Q`. -/
def Triple (W : World Op Res S) (P : S → Prop) (p : Program Op Res α) (Q : α → S → Prop) : Prop :=
  ∀ s a s', P s → Run W p s a s' → Q a s'

namespace Triple

variable {P P' : S → Prop} {Q Q' : α → S → Prop}

/-- Rule of consequence. -/
lemma weaken {p : Program Op Res α} (h : Triple W P' p Q') (hP : ∀ s, P s → P' s)
    (hQ : ∀ a s, Q' a s → Q a s) : Triple W P p Q :=
  fun s a s' hs hr => hQ a s' (h s a s' (hP s hs) hr)

/-- Returning, where the precondition implies the postcondition. -/
lemma ret {a : α} (hs : Stable W P) (h : ∀ s, P s → Q a s) : Triple W P (.ret a) Q := by
  intro s b s' hP hr
  generalize hq : Program.ret a = q at hr
  induction hr with
  | ret =>
    cases hq
    exact h _ hP
  | interfere step _ ih => exact ih (hs _ _ hP step) hq
  | op => cases hq

/-- One operation and its continuations. -/
lemma op {o : Op} {next : Res o → Program Op Res α} {R : Res o → S → Prop} (hs : Stable W P)
    (h : ∀ s r s', P s → W.respond o s r s' → R r s')
    (hnext : ∀ r, Triple W (R r) (next r) Q) : Triple W P (.op o next) Q := by
  intro s a s' hP hr
  generalize hq : Program.op o next = q at hr
  induction hr with
  | ret => cases hq
  | interfere step _ ih => exact ih (hs _ _ hP step) hq
  | op step rest =>
    cases hq
    exact hnext _ _ _ _ (h _ _ _ hP step) rest

/-- Sequencing, through what holds in between. -/
lemma bind {p : Program Op Res α} {f : α → Program Op Res β} {R : α → S → Prop}
    {Q : β → S → Prop} (hp : Triple W P p R) (hf : ∀ a, Triple W (R a) (f a) Q) :
    Triple W P (p >>= f) Q := by
  intro s b s'' hP hr
  obtain ⟨a, s', hra, hrf⟩ := hr.of_bind
  exact hf a s' b s'' (hp s a s' hP hra) hrf

end Triple

/-- Programs that return a value or an error. -/
abbrev Fallible (Op : Type) (Res : Op → Type) (ε : Type) := ExceptT ε (Program Op Res)

/-- Every normal return from `P` ends in `Q`. -/
def TripleOk (W : World Op Res S) (P : S → Prop) (p : Fallible Op Res ε α) (Q : α → S → Prop) :
    Prop :=
  Triple W P p.run fun r s => ∀ a, r = .ok a → Q a s

namespace TripleOk

variable {P P' : S → Prop} {Q Q' : α → S → Prop}

/-- Rule of consequence. -/
lemma weaken {p : Fallible Op Res ε α} (h : TripleOk W P' p Q') (hP : ∀ s, P s → P' s)
    (hQ : ∀ a s, Q' a s → Q a s) : TripleOk W P p Q :=
  Triple.weaken h hP fun _ s hr a ha => hQ a s (hr a ha)

/-- Returning. -/
lemma pure {a : α} (hs : Stable W P) (h : ∀ s, P s → Q a s) :
    TripleOk W P (Pure.pure a : Fallible Op Res ε α) Q := by
  refine Triple.ret hs fun s hP b hb => ?_
  cases hb
  exact h s hP

/-- A failure is no normal return. -/
lemma throw {e : ε} : TripleOk W P (throw e : Fallible Op Res ε α) Q := by
  intro s r s' _ hr a ha
  have herr : Triple W (fun _ => True) (.ret (.error e : Except ε α)) fun r _ => r = .error e :=
    Triple.ret (fun _ _ _ _ => trivial) fun _ _ => rfl
  have hr := herr s r s' trivial hr
  rw [ha] at hr
  cases hr

/-- Sequencing; a failure of the first part skips the second. -/
lemma bind {p : Fallible Op Res ε α} {f : α → Fallible Op Res ε β} {R : α → S → Prop}
    {Q : β → S → Prop} (hp : TripleOk W P p R) (hf : ∀ a, TripleOk W (R a) (f a) Q) :
    TripleOk W P (p >>= f) Q := by
  refine Triple.bind (p := p.run) hp fun r => ?_
  cases r with
  | ok a => exact Triple.weaken (hf a) (fun s hs => hs a rfl) fun _ _ h => h
  | error e =>
    exact Triple.weaken (throw (P := fun _ => True) (Q := Q)) (fun _ _ => trivial) fun _ _ h => h

/-- A fact that the assertion carries may be assumed. -/
lemma assume {p : Fallible Op Res ε α} {φ : Prop} (h : φ → TripleOk W P p Q) :
    TripleOk W (fun s => φ ∧ P s) p Q :=
  fun s r s' hs hr => h hs.1 s r s' hs.2 hr

/-- One operation. -/
lemma perform {o : Op} {Q : Res o → S → Prop} (hs : Stable W P)
    (h : ∀ s r s', P s → W.respond o s r s' → Q r s') (hQ : ∀ r, Stable W (Q r)) :
    TripleOk W P (liftM (Program.perform o) : Fallible Op Res ε (Res o)) Q := by
  refine Triple.op hs h fun r => Triple.ret (hQ r) ?_
  intro s hs a ha
  cases ha
  exact hs

end TripleOk

/-- Every normal return from `P` ends in `Q`, every failure in `E`. -/
def TripleEx (W : World Op Res S) (P : S → Prop) (p : Fallible Op Res ε α) (Q : α → S → Prop)
    (E : ε → S → Prop) : Prop :=
  Triple W P p.run fun r s => (∀ a, r = .ok a → Q a s) ∧ ∀ e, r = .error e → E e s

namespace TripleEx

variable {P P' : S → Prop} {Q Q' : α → S → Prop} {E : ε → S → Prop}

/-- Rule of consequence. -/
lemma weaken {p : Fallible Op Res ε α} (h : TripleEx W P' p Q' E) (hP : ∀ s, P s → P' s)
    (hQ : ∀ a s, Q' a s → Q a s) : TripleEx W P p Q E :=
  Triple.weaken h hP fun _ s hr => ⟨fun a ha => hQ a s (hr.1 a ha), hr.2⟩

/-- Returning. -/
lemma pure {a : α} (hs : Stable W P) (h : ∀ s, P s → Q a s) :
    TripleEx W P (Pure.pure a : Fallible Op Res ε α) Q E := by
  refine Triple.ret hs fun s hP => ⟨fun b hb => ?_, fun e he => ?_⟩
  · cases hb
    exact h s hP
  · cases he

/-- Raising, where the precondition implies what is said of the error. -/
lemma throw {e : ε} (hs : Stable W P) (h : ∀ s, P s → E e s) :
    TripleEx W P (throw e : Fallible Op Res ε α) Q E := by
  refine Triple.ret hs fun s hP => ⟨fun b hb => ?_, fun e' he => ?_⟩
  · cases hb
  · cases he
    exact h s hP

/-- Sequencing; a failure of the first part is a failure of the whole. -/
lemma bind (hE : ∀ e, Stable W (E e)) {p : Fallible Op Res ε α} {f : α → Fallible Op Res ε β}
    {R : α → S → Prop} {Q : β → S → Prop} (hp : TripleEx W P p R E)
    (hf : ∀ a, TripleEx W (R a) (f a) Q E) : TripleEx W P (p >>= f) Q E := by
  refine Triple.bind (p := p.run) hp fun r => ?_
  cases r with
  | ok a => exact Triple.weaken (hf a) (fun s hs => hs.1 a rfl) fun _ _ h => h
  | error e =>
    exact Triple.weaken (throw (P := E e) (Q := Q) (hE e) fun _ h => h) (fun s hs => hs.2 e rfl)
      fun _ _ h => h

/-- A fact that the assertion carries may be assumed. -/
lemma assume {p : Fallible Op Res ε α} {φ : Prop} (h : φ → TripleEx W P p Q E) :
    TripleEx W (fun s => φ ∧ P s) p Q E :=
  fun s r s' hs hr => h hs.1 s r s' hs.2 hr

/-- What the assertion says to exist may be named. -/
lemma choose {ι : Sort*} {p : Fallible Op Res ε α} {P : ι → S → Prop}
    (h : ∀ i, TripleEx W (P i) p Q E) : TripleEx W (fun s => ∃ i, P i s) p Q E :=
  fun s r s' ⟨i, hs⟩ hr => h i s r s' hs hr

/-- One operation. -/
lemma perform {o : Op} {Q : Res o → S → Prop} (hs : Stable W P)
    (h : ∀ s r s', P s → W.respond o s r s' → Q r s') (hQ : ∀ r, Stable W (Q r)) :
    TripleEx W P (liftM (Program.perform o) : Fallible Op Res ε (Res o)) Q E := by
  refine Triple.op hs h fun r => Triple.ret (hQ r) fun s hs => ⟨fun a ha => ?_, fun e he => ?_⟩
  · cases ha
    exact hs
  · cases he

end TripleEx

/-- The result and the last state of a program whose operations a function answers. -/
def Program.interp (handle : (o : Op) → S → Res o × S) : Program Op Res α → S → α × S
  | .ret a, s => (a, s)
  | .op o next, s => (next (handle o s).1).interp handle (handle o s).2

variable (handle : (o : Op) → S → Res o × S)

/-- The same for a program that may fail. -/
def Fallible.interp (p : Fallible Op Res ε α) (s : S) : Except ε α × S := Program.interp handle p.run s

/-- A handler runs a sequence part by part. -/
lemma Program.interp_bind (p : Program Op Res α) (f : α → Program Op Res β) (s : S) :
    (p >>= f).interp handle s = (f (p.interp handle s).1).interp handle (p.interp handle s).2 := by
  induction p generalizing s with
  | ret a => rfl
  | op o next ih => exact ih _ _

/-- A handler whose answers the world can give, up to interference and to the view `view` of its
states, only makes runs of the world. -/
lemma run_interp {S' : Type} {handle : (o : Op) → S' → Res o × S'} (view : S' → S)
    (h : ∀ o s, ∃ s₁, W.respond o (view s) (handle o s).1 s₁ ∧
      Relation.ReflTransGen W.interfere s₁ (view (handle o s).2))
    (p : Program Op Res α) (s : S') :
    Run W p (view s) (p.interp handle s).1 (view (p.interp handle s).2) := by
  induction p generalizing s with
  | ret a => exact .ret
  | op o next ih =>
    obtain ⟨s₁, hrespond, hreach⟩ := h o s
    refine .op hrespond ?_
    have hrest := ih (handle o s).1 (handle o s).2
    clear hrespond
    induction hreach using Relation.ReflTransGen.head_induction_on with
    | refl => exact hrest
    | head step _ ih => exact .interfere step ih

namespace Fallible

/-- A return is a success that leaves the state as it is. -/
@[simp] lemma interp_pure (a : α) (s : S) :
    interp handle (Pure.pure a : Fallible Op Res ε α) s = (.ok a, s) := rfl

/-- A raise is a failure that leaves the state as it is. -/
@[simp] lemma interp_throw (e : ε) (s : S) :
    interp handle (throw e : Fallible Op Res ε α) s = (.error e, s) := rfl

/-- One operation is the handler's own step. -/
@[simp] lemma interp_perform (o : Op) (s : S) :
    interp handle (liftM (Program.perform o) : Fallible Op Res ε (Res o)) s =
      (.ok (handle o s).1, (handle o s).2) := rfl

/-- A sequence goes on after a normal return. -/
lemma interp_bind_ok {p : Fallible Op Res ε α} {f : α → Fallible Op Res ε β} {s s' : S} {a : α}
    (h : interp handle p s = (.ok a, s')) : interp handle (p >>= f) s = interp handle (f a) s' := by
  have hb := Program.interp_bind handle p.run (fun r => ExceptT.bindCont f r) s
  unfold interp at h
  rw [h] at hb
  exact hb

/-- A sequence stops at a failure. -/
lemma interp_bind_error {p : Fallible Op Res ε α} {f : α → Fallible Op Res ε β} {s s' : S} {e : ε}
    (h : interp handle p s = (.error e, s')) : interp handle (p >>= f) s = (.error e, s') := by
  have hb := Program.interp_bind handle p.run (fun r => ExceptT.bindCont f r) s
  unfold interp at h
  rw [h] at hb
  exact hb

end Fallible

end SensorHost.Lib
