import KVStore.Library.Transition

/-!
# Work ledgers

A ledger says of each item where it stands: waiting for a first assignment,
waiting for a repeated one, assigned to one holder, or done. It is what a
scheduler with retries is for, stated without its queues: an item is assigned
only when it waits, it leaves its holder by being finished or requeued, and it
never leaves `done`.
-/

/-- Where one item of work stands. -/
inductive Place (ω : Type*)
  | pending
  | retry
  | assigned (holder : ω)
  | done
deriving DecidableEq

/-- The items known to the scheduler and their places. -/
abbrev Ledger (κ ω : Type*) := κ → Option (Place ω)

namespace Ledger

variable {κ ω : Type*} [DecidableEq κ]

inductive Event (κ ω : Type*)
  | assign (t : κ) (w : ω)
  | requeue (t : κ)
  | finish (t : κ)

/-- One event; `none` when the item is not in a place the event starts from. -/
def step (L : Ledger κ ω) : Event κ ω → Option (Ledger κ ω)
  | .assign t w =>
      match L t with
      | some .pending => some (Function.update L t (some (.assigned w)))
      | some .retry => some (Function.update L t (some (.assigned w)))
      | _ => none
  | .requeue t =>
      match L t with
      | some (.assigned _) => some (Function.update L t (some .retry))
      | _ => none
  | .finish t =>
      match L t with
      | some (.assigned _) => some (Function.update L t (some .done))
      | _ => none

/-- Waiting items are the ones that can be assigned. -/
def Waiting (L : Ledger κ ω) (t : κ) : Prop :=
  L t = some .pending ∨ L t = some .retry

omit [DecidableEq κ] in
theorem not_waiting_of_assigned {L : Ledger κ ω} {t : κ} {w : ω}
    (h : L t = some (.assigned w)) : ¬ Waiting L t := by
  simp [Waiting, h]

theorem step_assign {L : Ledger κ ω} {t : κ} (h : Waiting L t) (w : ω) :
    step L (.assign t w) = some (Function.update L t (some (.assigned w))) := by
  rcases h with h | h <;> simp [step, h]

theorem step_requeue {L : Ledger κ ω} {t : κ} {w : ω}
    (h : L t = some (.assigned w)) :
    step L (.requeue t) = some (Function.update L t (some .retry)) := by
  simp [step, h]

theorem step_finish {L : Ledger κ ω} {t : κ} {w : ω}
    (h : L t = some (.assigned w)) :
    step L (.finish t) = some (Function.update L t (some .done)) := by
  simp [step, h]

/-- Everything one event can do: the item stood in a place the event starts
from, and only its place changes. -/
theorem step_cases {L L' : Ledger κ ω} {e : Event κ ω} (h : step L e = some L') :
    (∃ t w, Waiting L t ∧ L' = Function.update L t (some (.assigned w))) ∨
    (∃ t w, L t = some (.assigned w) ∧ L' = Function.update L t (some .retry)) ∨
    (∃ t w, L t = some (.assigned w) ∧ L' = Function.update L t (some .done)) := by
  cases e with
  | assign t w =>
      simp only [step] at h
      split at h
      · next hp => exact .inl ⟨t, w, .inl hp, (Option.some.inj h).symm⟩
      · next hp => exact .inl ⟨t, w, .inr hp, (Option.some.inj h).symm⟩
      · cases h
  | requeue t =>
      simp only [step] at h
      split at h
      · next w hp => exact .inr (.inl ⟨t, w, hp, (Option.some.inj h).symm⟩)
      · cases h
  | finish t =>
      simp only [step] at h
      split at h
      · next w hp => exact .inr (.inr ⟨t, w, hp, (Option.some.inj h).symm⟩)
      · cases h

theorem done_step {L L' : Ledger κ ω} {e : Event κ ω} (h : step L e = some L')
    {t : κ} (ht : L t = some .done) : L' t = some .done := by
  obtain ⟨u, w, hu, rfl⟩ | ⟨u, w, hu, rfl⟩ | ⟨u, w, hu, rfl⟩ := step_cases h
  · have hne : t ≠ u := by
      rintro rfl
      rcases hu with hu | hu <;> rw [ht] at hu <;> cases hu
    rw [Function.update_of_ne hne, ht]
  · have hne : t ≠ u := by
      rintro rfl
      rw [ht] at hu
      cases hu
    rw [Function.update_of_ne hne, ht]
  · by_cases hne : t = u
    · subst hne
      simp
    · rw [Function.update_of_ne hne, ht]

theorem done_run {L L' : Ledger κ ω} {es : List (Event κ ω)}
    (h : Transition.run step L es = some L') {t : κ} (ht : L t = some .done) :
    L' t = some .done :=
  Transition.invariant_run (I := fun L => L t = some .done)
    (fun _ _ _ hL hstep => done_step hstep hL) ht h

/-- Everything `w` holds is requeued. -/
def release [DecidableEq ω] (L : Ledger κ ω) (w : ω) : Ledger κ ω := fun t =>
  if L t = some (.assigned w) then some .retry else L t

/-- Requeueing one by one, in any order, the items that `w` holds. -/
theorem run_requeue [DecidableEq ω] {L : Ledger κ ω} {w : ω} {order : List κ}
    (hnodup : order.Nodup) (hmem : ∀ t, t ∈ order ↔ L t = some (.assigned w)) :
    Transition.run step L (order.map .requeue) = some (release L w) := by
  induction order generalizing L with
  | nil =>
      have hnone : ∀ t, L t ≠ some (.assigned w) := fun t ht =>
        List.not_mem_nil ((hmem t).2 ht)
      have hrel : release L w = L := by
        funext t
        rw [release, if_neg (hnone t)]
      rw [List.map_nil, Transition.run_nil, hrel]
  | cons t order ih =>
      obtain ⟨hnot, hnodup⟩ := List.nodup_cons.1 hnodup
      have ht : L t = some (.assigned w) := (hmem t).1 (by simp)
      have hmem' : ∀ u, u ∈ order ↔
          Function.update L t (some .retry) u = some (.assigned w) := by
        intro u
        by_cases hu : u = t
        · subst hu
          simp [hnot]
        · rw [Function.update_of_ne hu, ← hmem]
          simp [hu]
      have hrel : release (Function.update L t (some .retry)) w = release L w := by
        funext u
        by_cases hu : u = t
        · subst hu
          simp [release, ht]
        · simp [release, Function.update_of_ne hu]
      rw [List.map_cons, Transition.run_cons, step_requeue ht, Option.bind_some,
        ih hnodup hmem', hrel]

end Ledger
