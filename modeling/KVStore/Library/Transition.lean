import Mathlib.Logic.Function.Basic
import Mathlib.Order.Defs.Unbundled

/-!
# Runs of a partial step function

A component is given by a partial step function `step : σ → α → Option σ`: the
label `α` resolves every choice of the environment, and `none` says that the
label is not enabled. A run feeds a finite list of labels, so a theorem about
all runs is a theorem about all lists of labels.

`Along step P s as` says that `P` holds of each state and label at which the
run takes a step, and `Visits step Q s as` says that `Q` holds of each state the
run passes through, the first and the last included. Invariants are proved one
step at a time and lifted to runs here, once.
-/

namespace Transition

variable {σ τ α β : Type*}

/-- The state after the labels `as`, and `none` as soon as one is not enabled. -/
def run (step : σ → α → Option σ) : σ → List α → Option σ
  | s, [] => some s
  | s, a :: as => (step s a).bind fun t => run step t as

/-- `P` holds of every state and label at which the run takes a step. -/
def Along (step : σ → α → Option σ) (P : σ → α → Prop) : σ → List α → Prop
  | _, [] => True
  | s, a :: as => P s a ∧ ∀ t, step s a = some t → Along step P t as

/-- `Q` holds of every state the run passes through. -/
def Visits (step : σ → α → Option σ) (Q : σ → Prop) : σ → List α → Prop
  | s, [] => Q s
  | s, a :: as => Q s ∧ ∀ t, step s a = some t → Visits step Q t as

/-- What the steps of a run put out, in order. -/
def outputs (step : σ → α → Option σ) (emit : σ → α → List β) : σ → List α → List β
  | _, [] => []
  | s, a :: as =>
      match step s a with
      | none => []
      | some t => emit s a ++ outputs step emit t as

instance decidableAlong (step : σ → α → Option σ) (P : σ → α → Prop)
    [∀ s a, Decidable (P s a)] : ∀ s as, Decidable (Along step P s as)
  | _, [] => isTrue trivial
  | s, a :: as =>
      match h : step s a with
      | none => decidable_of_iff (P s a)
          ⟨fun hP => ⟨hP, fun t ht => by rw [h] at ht; cases ht⟩, fun hP => hP.1⟩
      | some t =>
          have := decidableAlong step P t as
          decidable_of_iff (P s a ∧ Along step P t as)
            ⟨fun hP => ⟨hP.1, fun u hu => by rw [h] at hu; cases hu; exact hP.2⟩,
              fun hP => ⟨hP.1, hP.2 t h⟩⟩

@[simp] theorem run_nil (step : σ → α → Option σ) (s : σ) :
    run step s [] = some s := rfl

theorem run_cons (step : σ → α → Option σ) (s : σ) (a : α) (as : List α) :
    run step s (a :: as) = (step s a).bind fun t => run step t as := rfl

theorem run_cons_eq_some_iff {step : σ → α → Option σ} {s t : σ} {a : α}
    {as : List α} :
    run step s (a :: as) = some t ↔
      ∃ u, step s a = some u ∧ run step u as = some t := by
  rw [run_cons, Option.bind_eq_some_iff]

theorem run_append_eq_some_iff {step : σ → α → Option σ} {s t : σ}
    {as bs : List α} :
    run step s (as ++ bs) = some t ↔
      ∃ u, run step s as = some u ∧ run step u bs = some t := by
  induction as generalizing s with
  | nil => simp
  | cons a as ih =>
      rw [List.cons_append, run_cons_eq_some_iff]
      constructor
      · rintro ⟨v, hv, h⟩
        obtain ⟨u, hu, ht⟩ := ih.1 h
        exact ⟨u, run_cons_eq_some_iff.2 ⟨v, hv, hu⟩, ht⟩
      · rintro ⟨u, hu, ht⟩
        obtain ⟨v, hv, hvu⟩ := run_cons_eq_some_iff.1 hu
        exact ⟨v, hv, ih.2 ⟨u, hvu, ht⟩⟩

/-- What one step preserves under the side condition `P`, a run whose steps all
meet `P` preserves. -/
theorem invariant_along {step : σ → α → Option σ} {P : σ → α → Prop}
    {I : σ → Prop}
    (hstep : ∀ s a t, I s → P s a → step s a = some t → I t)
    {s t : σ} {as : List α} (hs : I s) (hP : Along step P s as)
    (hrun : run step s as = some t) : I t := by
  induction as generalizing s with
  | nil =>
      cases hrun
      exact hs
  | cons a as ih =>
      obtain ⟨u, hu, hut⟩ := run_cons_eq_some_iff.1 hrun
      exact ih (hstep s a u hs hP.1 hu) (hP.2 u hu) hut

/-- An invariant of the state together with all that was put out so far. -/
theorem invariant_outputs {step : σ → α → Option σ} {emit : σ → α → List β}
    {I : List β → σ → Prop}
    (hstep : ∀ out s a t, I out s → step s a = some t → I (out ++ emit s a) t)
    {out : List β} {s t : σ} {as : List α} (hs : I out s) (hrun : run step s as = some t) :
    I (out ++ outputs step emit s as) t := by
  induction as generalizing out s with
  | nil =>
      cases hrun
      rw [outputs, List.append_nil]
      exact hs
  | cons a as ih =>
      obtain ⟨u, hu, hut⟩ := run_cons_eq_some_iff.1 hrun
      have hrest := ih (hstep out s a u hs hu) hut
      rw [List.append_assoc] at hrest
      rw [outputs, hu]
      exact hrest

theorem visits_along {step : σ → α → Option σ} {P : σ → α → Prop} {I Q : σ → Prop}
    (hQ : ∀ s, I s → Q s) (hstep : ∀ s a t, I s → P s a → step s a = some t → I t)
    {s : σ} {as : List α} (hs : I s) (hP : Along step P s as) : Visits step Q s as := by
  induction as generalizing s with
  | nil => exact hQ s hs
  | cons a as ih =>
      exact ⟨hQ s hs, fun t ht => ih (hstep s a t hs hP.1 ht) (hP.2 t ht)⟩

/-- A run stays in `Q` exactly if its steps meet `P`: those that do keep an invariant
within `Q`, and any other leads out of `Q`. -/
theorem visits_iff_along {step : σ → α → Option σ} {P : σ → α → Prop}
    {I Q : σ → Prop} (hQ : ∀ s, I s → Q s) {s t : σ} {as : List α}
    (hkeep : ∀ s, ∀ a ∈ as, ∀ t, I s → P s a → step s a = some t → I t)
    (hleave : ∀ s, ∀ a ∈ as, ∀ t, I s → ¬ P s a → step s a = some t → ¬ Q t)
    (hs : I s) (hrun : run step s as = some t) :
    Visits step Q s as ↔ Along step P s as := by
  induction as generalizing s with
  | nil => exact ⟨fun _ => trivial, fun _ => hQ s hs⟩
  | cons a as ih =>
      obtain ⟨u, hu, hut⟩ := run_cons_eq_some_iff.1 hrun
      have hunique : ∀ v, step s a = some v → v = u := by
        intro v hv
        rw [hu] at hv
        exact (Option.some.inj hv).symm
      by_cases hP : P s a
      · have hrest := ih (fun v b hb => hkeep v b (List.mem_cons_of_mem a hb))
          (fun v b hb => hleave v b (List.mem_cons_of_mem a hb))
          (hkeep s a List.mem_cons_self u hs hP hu) hut
        constructor
        · rintro ⟨_, hvisits⟩
          exact ⟨hP, fun v hv => hunique v hv ▸ hrest.1 (hvisits u hu)⟩
        · rintro ⟨_, halong⟩
          exact ⟨hQ s hs, fun v hv => hunique v hv ▸ hrest.2 (halong u hu)⟩
      · constructor
        · rintro ⟨_, hvisits⟩
          have hout := hleave s a List.mem_cons_self u hs hP hu
          refine absurd ?_ hout
          cases as with
          | nil => exact hvisits u hu
          | cons b bs => exact (hvisits u hu).1
        · intro halong
          exact absurd halong.1 hP

theorem along_append {step : σ → α → Option σ} {P : σ → α → Prop} {s t : σ}
    {as bs : List α} (has : Along step P s as) (hrun : run step s as = some t)
    (hbs : Along step P t bs) : Along step P s (as ++ bs) := by
  induction as generalizing s with
  | nil =>
      cases hrun
      exact hbs
  | cons a as ih =>
      obtain ⟨u, hu, hut⟩ := run_cons_eq_some_iff.1 hrun
      refine ⟨has.1, fun v hv => ?_⟩
      rw [hu] at hv
      cases hv
      exact ih (has.2 u hu) hut

theorem along_of_forall {step : σ → α → Option σ} {P : σ → α → Prop}
    (s : σ) (as : List α) (h : ∀ s, ∀ a ∈ as, P s a) : Along step P s as := by
  induction as generalizing s with
  | nil => trivial
  | cons a as ih =>
      refine ⟨h s a (by simp), fun t _ => ih t ?_⟩
      intro u b hb
      exact h u b (List.mem_cons_of_mem a hb)

theorem along_invariant {step : σ → α → Option σ} {P : σ → α → Prop} {I : σ → Prop}
    (hP : ∀ s a, I s → P s a) (hstep : ∀ s a t, I s → step s a = some t → I t)
    {s : σ} (as : List α) (hs : I s) : Along step P s as := by
  induction as generalizing s with
  | nil => trivial
  | cons a as ih => exact ⟨hP s a hs, fun t ht => ih (hstep s a t hs ht)⟩

theorem invariant_run {step : σ → α → Option σ} {I : σ → Prop}
    (hstep : ∀ s a t, I s → step s a = some t → I t)
    {s t : σ} {as : List α} (hs : I s) (hrun : run step s as = some t) : I t :=
  invariant_along (P := fun _ _ => True) (fun s a t hs _ => hstep s a t hs) hs
    (along_of_forall s as fun _ _ _ => trivial) hrun

/-- What every step takes over from its end holds at the start of a run if it does at its
end. -/
theorem invariant_run_back {step : σ → α → Option σ} {I : σ → Prop}
    (hstep : ∀ s a t, I t → step s a = some t → I s)
    {s t : σ} {as : List α} (ht : I t) (hrun : run step s as = some t) : I s := by
  induction as generalizing s with
  | nil =>
      cases hrun
      exact ht
  | cons a as ih =>
      obtain ⟨u, hu, hut⟩ := run_cons_eq_some_iff.1 hrun
      exact hstep s a u (ih hut) hu

/-- A relation that is reflexive, transitive and kept by each step from an
invariant state relates the two ends of a run. -/
theorem relation_run {step : σ → α → Option σ} {I : σ → Prop}
    {R : σ → σ → Prop} (hrefl : ∀ s, R s s)
    (htrans : ∀ s t u, R s t → R t u → R s u)
    (hI : ∀ s a t, I s → step s a = some t → I t)
    (hR : ∀ s a t, I s → step s a = some t → R s t)
    {s t : σ} {as : List α} (hs : I s) (hrun : run step s as = some t) :
    R s t := by
  induction as generalizing s with
  | nil =>
      cases hrun
      exact hrefl _
  | cons a as ih =>
      obtain ⟨u, hu, hut⟩ := run_cons_eq_some_iff.1 hrun
      exact htrans s u t (hR s a u hs hu) (ih (hI s a u hs hu) hut)

/-- Forward simulation: if each step is matched by a run of the abstract
machine, so is each run. -/
theorem simulation_run {step : σ → α → Option σ} {astep : τ → β → Option τ}
    {I : σ → Prop} {f : σ → τ}
    (hI : ∀ s a t, I s → step s a = some t → I t)
    (hsim : ∀ s a t, I s → step s a = some t →
      ∃ bs, run astep (f s) bs = some (f t))
    {s t : σ} {as : List α} (hs : I s) (hrun : run step s as = some t) :
    ∃ bs, run astep (f s) bs = some (f t) := by
  induction as generalizing s with
  | nil =>
      cases hrun
      exact ⟨[], rfl⟩
  | cons a as ih =>
      obtain ⟨u, hu, hut⟩ := run_cons_eq_some_iff.1 hrun
      obtain ⟨bs, hbs⟩ := hsim s a u hs hu
      obtain ⟨cs, hcs⟩ := ih (hI s a u hs hu) hut
      exact ⟨bs ++ cs, run_append_eq_some_iff.2 ⟨f u, hbs, hcs⟩⟩

/-! ### Runs on fixed inputs -/

section

variable {ε : Type*} {start : Except ε σ} {step : σ → α → Option σ} {as : List α}

theorem exists_run_of_any {p : σ → σ → Prop} [∀ s t, Decidable (p s t)]
    (h : start.toOption.any (fun s => (run step s as).any fun t => decide (p s t)) = true) :
    ∃ s t, start = .ok s ∧ run step s as = some t ∧ p s t := by
  cases start with
  | error e => cases h
  | ok s =>
      change (run step s as).any _ = true at h
      obtain ⟨t, hrun, hp⟩ := (Option.any_eq_true _ _).1 h
      exact ⟨s, t, rfl, hrun, of_decide_eq_true hp⟩

theorem exists_run_of_bind {p : σ → Prop} [DecidablePred p]
    (h : (start.toOption.bind fun s => run step s as).any (fun t => decide (p t)) = true) :
    ∃ s t, start = .ok s ∧ run step s as = some t ∧ p t := by
  rw [Option.any_bind] at h
  exact exists_run_of_any h

end

end Transition
