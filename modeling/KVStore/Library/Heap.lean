import Mathlib.Data.List.Sort

/-!
# Priority queues and least elements as sorted lists

A binary heap is observed only through pushing an element and popping a least
one, so the sorted list of its elements stands for it: `push` inserts in order,
and the head is what is popped. When elements are pushed in increasing order the queue
is first in, first out (`push_eq_append`). In the same way `least` is the first
element of the stably sorted list.
-/

namespace Heap

variable {α : Type*} (r : α → α → Prop) [DecidableRel r]

def push (h : List α) (a : α) : List α := h.orderedInsert r a

/-- An element above every stored one goes to the end. -/
theorem push_eq_append {h : List α} {a : α} (ha : ∀ b ∈ h, ¬ r a b) :
    push r h a = h ++ [a] := by
  induction h with
  | nil => rfl
  | cons b h ih =>
      have hb : ¬ r a b := ha b (by simp)
      have hrest : push r h a = h ++ [a] :=
        ih fun c hc => ha c (List.mem_cons_of_mem b hc)
      rw [push] at hrest ⊢
      rw [List.orderedInsert_of_not_le r h hb, hrest, List.cons_append]

/-- The first element once `l` is sorted by `r`. -/
def least (l : List α) : Option α := (l.insertionSort r).head?

theorem mem_of_least_eq_some {l : List α} {a : α} (h : least r l = some a) :
    a ∈ l :=
  (List.perm_insertionSort r l).mem_iff.1 (List.mem_of_mem_head? h)

theorem rel_of_least_eq_some [Std.Total r] [IsTrans α r] {l : List α} {a b : α}
    (h : least r l = some a) (hb : b ∈ l) : r a b := by
  have hsorted := List.pairwise_insertionSort r l
  have hmem := (List.perm_insertionSort r l).mem_iff.2 hb
  rw [least] at h
  cases hlist : l.insertionSort r with
  | nil =>
      rw [hlist] at hmem
      cases hmem
  | cons c rest =>
      rw [hlist] at h hsorted hmem
      cases h
      rcases List.mem_cons.1 hmem with rfl | hrest
      · rcases Std.Total.total (r := r) b b with hrefl | hrefl <;> exact hrefl
      · exact List.rel_of_pairwise_cons hsorted hrest

theorem least_eq_none_iff {l : List α} : least r l = none ↔ l = [] := by
  rw [least, List.head?_eq_none_iff]
  have hperm := List.perm_insertionSort r l
  constructor
  · intro h
    rw [h] at hperm
    exact hperm.nil_eq.symm
  · rintro rfl
    rfl

end Heap
