import KVStore.Library.Dict
import Mathlib.Algebra.BigOperators.Group.List.Basic
import Mathlib.Algebra.Order.BigOperators.Group.List

/-!
# Sums over dictionaries

`total f d` adds up a quantity over the entries of a dictionary. What an update does to it
follows from the entry that it writes over, and the sum only depends on what is looked up.
-/

namespace Dict

variable {κ ν M : Type*} [AddCommMonoid M]

/-- The sum of a quantity over all entries. -/
def total (f : ν → M) (d : Dict κ ν) : M := ((values d).map f).sum

theorem map_total {N : Type*} [AddCommMonoid N] (φ : M →+ N) (f : ν → M) (d : Dict κ ν) :
    φ (total f d) = total (fun v => φ (f v)) d := by
  rw [total, map_list_sum, List.map_map]
  rfl

section

variable [DecidableEq κ] (f : ν → M) {d d' : Dict κ ν} {a : κ} {v : ν}

theorem total_of_lookup_eq_some (h : d.lookup a = some v) :
    total f d = f v + total f (d.erase a) := by
  rw [total, ((perm_erase h).2.map f).sum_eq, List.map_cons, List.sum_cons, total]

theorem filterMap_lookup_keys (d : Dict κ ν) : d.keys.filterMap d.lookup = values d := by
  rw [AList.keys, List.keys, List.filterMap_map, values, ← List.filterMap_eq_map]
  exact List.filterMap_congr fun e he => Option.mem_def.1 (AList.mem_lookup_iff.2 he)

theorem total_insert (d : Dict κ ν) (a : κ) (v : ν) :
    total f (d.insert a v) = f v + total f (d.erase a) := rfl

theorem total_insert_of_lookup_eq_none (h : d.lookup a = none) :
    total f (d.insert a v) = f v + total f d := by
  rw [total_insert, erase_of_lookup_eq_none h]

theorem total_insert_same {w : ν} (h : d.lookup a = some w) (hw : f v = f w) :
    total f (d.insert a v) = total f d := by
  rw [total_insert, hw, total_of_lookup_eq_some f h]

theorem total_congr (h : ∀ a, (d'.lookup a).map f = (d.lookup a).map f) :
    total f d' = total f d := by
  induction d using AList.insertRec generalizing d' with
  | H0 =>
      have hnone : ∀ a, d'.lookup a = none := fun a => Option.map_eq_none_iff.1 (h a)
      have hempty : d' = ∅ := by
        refine AList.ext (List.eq_nil_iff_forall_not_mem.2 fun e he => ?_)
        have hfound := Option.mem_def.1 (AList.mem_lookup_iff.2 he)
        rw [hnone e.1] at hfound
        cases hfound
      rw [hempty]
  | IH a v d hnew ih =>
      have hfound : (d'.lookup a).map f = some (f v) := by
        rw [h a, AList.lookup_insert]
        rfl
      obtain ⟨v', hv', hfv⟩ := Option.map_eq_some_iff.1 hfound
      have hrest : total f (d'.erase a) = total f d := by
        refine ih fun b => ?_
        rw [lookup_erase_eq_ite]
        by_cases hb : b = a
        · rw [if_pos hb, hb, AList.lookup_eq_none.2 hnew]
        · rw [if_neg hb, h b, AList.lookup_insert_ne hb]
      rw [total_of_lookup_eq_some f hv', hrest, hfv,
        total_insert_of_lookup_eq_none f (AList.lookup_eq_none.2 hnew)]

/-- What is looked up under one key, with nothing for an absent key, and the rest. -/
theorem total_eq_getD_add (d : Dict κ ν) (a : κ) :
    total f d = ((d.lookup a).map f).getD 0 + total f (d.erase a) := by
  cases h : d.lookup a with
  | none => rw [Option.map_none, Option.getD_none, zero_add, erase_of_lookup_eq_none h]
  | some v => rw [Option.map_some, Option.getD_some, total_of_lookup_eq_some f h]

/-- Sums are compared key by key, where an absent key counts as nothing. -/
theorem total_le_total [PartialOrder M] [IsOrderedAddMonoid M]
    (h : ∀ a, ((d.lookup a).map f).getD 0 ≤ ((d'.lookup a).map f).getD 0) :
    total f d ≤ total f d' := by
  induction d using AList.insertRec generalizing d' with
  | H0 =>
      refine List.sum_nonneg fun x hx => ?_
      obtain ⟨v, hv, rfl⟩ := List.mem_map.1 hx
      obtain ⟨a, ha⟩ := mem_values_iff.1 hv
      simpa only [ha, Option.map_some, Option.getD_some, AList.lookup_empty, Option.map_none,
        Option.getD_none] using h a
  | IH a v d hnew ih =>
      have hnone := AList.lookup_eq_none.2 hnew
      have hfirst : f v ≤ ((d'.lookup a).map f).getD 0 := by
        simpa only [AList.lookup_insert, Option.map_some, Option.getD_some] using h a
      have hrest : total f d ≤ total f (d'.erase a) := by
        refine ih fun b => ?_
        rw [lookup_erase_eq_ite]
        by_cases hb : b = a
        · rw [if_pos hb, hb, hnone]
        · rw [if_neg hb]
          simpa only [AList.lookup_insert_ne hb] using h b
      rw [total_insert_of_lookup_eq_none f hnone, total_eq_getD_add f d' a]
      exact add_le_add hfirst hrest

theorem total_eq_zero_iff {f : ν → ℕ} :
    total f d = 0 ↔ ∀ a v, d.lookup a = some v → f v = 0 := by
  rw [total, List.sum_eq_zero_iff_forall_eq_nat]
  constructor
  · intro h a v hv
    exact h (f v) (List.mem_map_of_mem (mem_values_iff.2 ⟨a, hv⟩))
  · intro h n hn
    obtain ⟨v, hv, rfl⟩ := List.mem_map.1 hn
    obtain ⟨a, ha⟩ := mem_values_iff.1 hv
    exact h a v ha

end

end Dict
