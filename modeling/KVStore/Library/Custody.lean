import Mathlib.Algebra.BigOperators.Group.Finset.Basic
import Mathlib.Algebra.Order.Group.Multiset

/-!
# Items in the custody of several parties

`hold i` is the bag of items that the party `i` has. When one party's bag changes,
the total changes by the same items; all parties together lose nothing when one
gives away what another receives.
-/

namespace Custody

variable {ι α : Type*} {s : Finset ι} {hold hold' : ι → Multiset α} {i : ι}
  {given taken surplus : Multiset α}

/-- What the parties in `s` hold together. -/
def total (s : Finset ι) (hold : ι → Multiset α) : Multiset α := ∑ i ∈ s, hold i

theorem mem_total {x : α} : x ∈ total s hold ↔ ∃ i ∈ s, x ∈ hold i :=
  Multiset.mem_sum

theorem total_congr (h : ∀ i ∈ s, hold' i = hold i) : total s hold' = total s hold :=
  Finset.sum_congr rfl h

theorem total_eq_zero (h : ∀ i ∈ s, hold i = 0) : total s hold = 0 :=
  Finset.sum_eq_zero h

theorem total_change [DecidableEq ι] (hi : i ∈ s) (hoff : ∀ j ∈ s, j ≠ i → hold' j = hold j) :
    total s hold' + hold i = total s hold + hold' i := by
  have hrest : ∑ j ∈ s.erase i, hold' j = ∑ j ∈ s.erase i, hold j :=
    Finset.sum_congr rfl fun j hj => hoff j (Finset.mem_of_mem_erase hj) (Finset.ne_of_mem_erase hj)
  rw [total, total, ← Finset.add_sum_erase s hold' hi, ← Finset.add_sum_erase s hold hi, hrest,
    add_right_comm (hold' i), add_right_comm (hold i), add_comm (hold' i)]

/-- One party takes some items and gives some away. -/
theorem total_exchange [DecidableEq ι] (hi : i ∈ s)
    (hoff : ∀ j ∈ s, j ≠ i → hold' j = hold j)
    (hchange : hold i + taken = hold' i + given) :
    total s hold + taken = total s hold' + given := by
  have htotal := total_change hi hoff
  refine add_right_cancel (b := hold i) ?_
  calc total s hold + taken + hold i
      = total s hold + (hold i + taken) := by rw [add_assoc, add_comm taken]
    _ = total s hold + hold' i + given := by rw [hchange, add_assoc]
    _ = total s hold' + given + hold i := by rw [← htotal, add_right_comm]

end Custody
