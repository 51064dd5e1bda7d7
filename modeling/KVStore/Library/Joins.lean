import Mathlib.Logic.Function.Basic
import Mathlib.Order.Lattice

/-!
# Joined reports

A report raises the entry of one key to the join of what was there and what it says. What a
list of reports leaves under a key is the least value above the first entry and above every
report on that key, so neither their order nor their repetition matters.
-/

namespace Joins

variable {κ α : Type*} [DecidableEq κ] [SemilatticeSup α]

def absorb (f : κ → α) (report : κ × α) : κ → α :=
  Function.update f report.1 (f report.1 ⊔ report.2)

def absorbAll (f : κ → α) (reports : List (κ × α)) : κ → α := reports.foldl absorb f

variable {f : κ → α} {report : κ × α} {reports reports' : List (κ × α)} {a : κ} {u : α}

@[simp] theorem absorbAll_nil (f : κ → α) : absorbAll f [] = f := rfl

theorem absorbAll_cons (f : κ → α) (report : κ × α) (reports : List (κ × α)) :
    absorbAll f (report :: reports) = absorbAll (absorb f report) reports := rfl

theorem absorb_le_iff :
    absorb f report a ≤ u ↔ f a ≤ u ∧ (report.1 = a → report.2 ≤ u) := by
  rw [absorb]
  by_cases h : report.1 = a
  · rw [← h, Function.update_self, sup_le_iff]
    simp
  · rw [Function.update_of_ne (Ne.symm h)]
    simp [h]

/-- What is left under a key is the least upper bound. -/
theorem absorbAll_le_iff :
    absorbAll f reports a ≤ u ↔ f a ≤ u ∧ ∀ report ∈ reports, report.1 = a → report.2 ≤ u := by
  induction reports generalizing f with
  | nil => simp
  | cons report reports ih =>
      rw [absorbAll_cons, ih, absorb_le_iff, List.forall_mem_cons, and_assoc]

theorem absorbAll_congr (h : ∀ report, report ∈ reports ↔ report ∈ reports') :
    absorbAll f reports = absorbAll f reports' := by
  funext a
  refine eq_of_forall_ge_iff fun u => ?_
  rw [absorbAll_le_iff, absorbAll_le_iff]
  refine and_congr_right fun _ => ?_
  exact forall_congr' fun report => imp_congr_left (h report)

end Joins
