import Mathlib.Data.Finmap
import Mathlib.Data.Finset.Card

/-!
# Finite dictionaries

A dictionary is Mathlib's association list with distinct keys, read without
dependent values. Only what association lists lack is added here: the list of
values, the size, a map over all values, an update of one present value, and the
pointwise readings of `insert` and `erase` that the proofs rewrite with.

The position of an entry is not meant to be observed: `insert` moves a key to the
front, so a client must not depend on the order of `values`.
-/

/-- Finite maps from `κ` to `ν` with distinct keys. -/
abbrev Dict (κ ν : Type*) := AList (fun _ : κ => ν)

namespace Dict

variable {κ ν μ : Type*}

def values (d : Dict κ ν) : List ν := d.entries.map Sigma.snd

def size (d : Dict κ ν) : ℕ := d.keys.length

def mapValues (f : ν → μ) (d : Dict κ ν) : Dict κ μ where
  entries := d.entries.map fun e => ⟨e.1, f e.2⟩
  nodupKeys := by
    have h : (d.entries.map fun e => (⟨e.1, f e.2⟩ : Sigma fun _ : κ => μ)).keys =
        d.entries.keys := by
      simp [List.keys, Function.comp_def]
    unfold List.NodupKeys
    rw [h]
    exact d.nodupKeys

@[simp] theorem keys_mapValues (f : ν → μ) (d : Dict κ ν) :
    (mapValues f d).keys = d.keys := by
  simp [mapValues, AList.keys, List.keys, Function.comp_def]

theorem length_values (d : Dict κ ν) : d.values.length = d.size := by
  rw [values, size, AList.keys, List.keys, List.length_map, List.length_map]

@[simp] theorem size_empty : size (∅ : Dict κ ν) = 0 := rfl

variable [DecidableEq κ]

/-- Apply `f` to the value at `a`; nothing happens when `a` is absent. -/
def modify (a : κ) (f : ν → ν) (d : Dict κ ν) : Dict κ ν :=
  match d.lookup a with
  | some v => d.insert a (f v)
  | none => d

theorem lookup_insert_eq_ite (a b : κ) (v : ν) (d : Dict κ ν) :
    (d.insert b v).lookup a = if a = b then some v else d.lookup a := by
  by_cases h : a = b
  · subst h
    simp
  · rw [AList.lookup_insert_ne h, if_neg h]

theorem lookup_erase_eq_ite (a b : κ) (d : Dict κ ν) :
    (d.erase b).lookup a = if a = b then none else d.lookup a := by
  by_cases h : a = b
  · subst h
    simp
  · rw [AList.lookup_erase_ne h, if_neg h]

theorem lookup_modify (a b : κ) (f : ν → ν) (d : Dict κ ν) :
    (modify b f d).lookup a = if a = b then (d.lookup a).map f else d.lookup a := by
  unfold modify
  cases h : d.lookup b with
  | none =>
      by_cases hab : a = b
      · subst hab
        simp [h]
      · rw [if_neg hab]
  | some v =>
      simp only [lookup_insert_eq_ite]
      by_cases hab : a = b
      · subst hab
        simp [h]
      · rw [if_neg hab, if_neg hab]

theorem lookup_mapValues (f : ν → μ) (d : Dict κ ν) (a : κ) :
    (mapValues f d).lookup a = (d.lookup a).map f := by
  cases h : d.lookup a with
  | none =>
      rw [AList.lookup_eq_none, AList.mem_keys] at h
      rw [Option.map_none, AList.lookup_eq_none, AList.mem_keys, keys_mapValues]
      exact h
  | some v =>
      have hmem := AList.mem_lookup_iff.1 (Option.mem_def.2 h)
      rw [Option.map_some]
      refine Option.mem_def.1 (AList.mem_lookup_iff.2 ?_)
      exact List.mem_map.2 ⟨⟨a, v⟩, hmem, rfl⟩

theorem mem_values_iff {d : Dict κ ν} {v : ν} :
    v ∈ values d ↔ ∃ a, d.lookup a = some v := by
  constructor
  · intro h
    obtain ⟨⟨a, w⟩, he, rfl⟩ := List.mem_map.1 h
    exact ⟨a, Option.mem_def.1 (AList.mem_lookup_iff.2 he)⟩
  · rintro ⟨a, h⟩
    have he := AList.mem_lookup_iff.1 (Option.mem_def.2 h)
    exact List.mem_map.2 ⟨⟨a, v⟩, he, rfl⟩

theorem mem_keys_iff {d : Dict κ ν} {a : κ} :
    a ∈ d.keys ↔ ∃ v, d.lookup a = some v := by
  rw [← AList.mem_keys, ← AList.lookup_isSome, Option.isSome_iff_exists]

theorem keys_insert_of_notMem {d : Dict κ ν} {a : κ} (h : a ∉ d) (v : ν) :
    (d.insert a v).keys = a :: d.keys := by
  rw [AList.keys_insert, List.erase_of_not_mem (mt AList.mem_keys.2 h)]

theorem values_insert_of_notMem {d : Dict κ ν} {a : κ} (h : a ∉ d) (v : ν) :
    values (d.insert a v) = v :: values d := by
  rw [values, AList.entries_insert_of_notMem h, List.map_cons, values]

theorem perm_erase {d : Dict κ ν} {a : κ} {v : ν} (h : d.lookup a = some v) :
    d.keys.Perm (a :: (d.erase a).keys) ∧ (values d).Perm (v :: values (d.erase a)) := by
  have hmem : a ∈ d.keys := mem_keys_iff.2 ⟨v, h⟩
  refine ⟨by rw [AList.keys_erase]; exact List.perm_cons_erase hmem, ?_⟩
  obtain ⟨w, before, after, hnot, heq, herase⟩ := List.exists_of_kerase hmem
  have hlookup : d.lookup a = some w := by
    refine Option.mem_def.1 (AList.mem_lookup_iff.2 ?_)
    rw [heq]
    simp
  rw [h] at hlookup
  cases hlookup
  have hafter : values (d.erase a) = (before ++ after).map Sigma.snd := by
    rw [← herase]
    rfl
  rw [values, heq, hafter, List.map_append, List.map_append, List.map_cons]
  exact List.perm_middle

theorem erase_of_lookup_eq_none {d : Dict κ ν} {a : κ} (h : d.lookup a = none) :
    d.erase a = d := by
  apply AList.ext
  exact List.kerase_of_notMem_keys (mt AList.mem_keys.2 (AList.lookup_eq_none.1 h))

theorem erase_insert {d : Dict κ ν} {a : κ} (h : a ∉ d) (v : ν) : (d.insert a v).erase a = d := by
  have hnone : d.erase a = d := erase_of_lookup_eq_none (AList.lookup_eq_none.2 h)
  apply AList.ext
  simpa [AList.erase, AList.insert] using congrArg AList.entries hnone

theorem erase_insert_of_ne {a b : κ} (h : a ≠ b) (v : ν) (d : Dict κ ν) :
    (d.insert b v).erase a = (d.erase a).insert b v := by
  apply AList.ext
  change List.kerase a (⟨b, v⟩ :: List.kerase b d.entries) =
    ⟨b, v⟩ :: List.kerase b (List.kerase a d.entries)
  rw [List.kerase_cons_ne h, List.kerase_comm]

theorem size_insert {d : Dict κ ν} {a : κ} (h : a ∉ d) (v : ν) :
    size (d.insert a v) = size d + 1 := by
  rw [size, keys_insert_of_notMem h, List.length_cons, size]

def insertAll (d : Dict κ ν) (entries : List (κ × ν)) : Dict κ ν :=
  entries.foldl (fun d e => d.insert e.1 e.2) d

@[simp] theorem insertAll_nil (d : Dict κ ν) : insertAll d [] = d := rfl

theorem insertAll_cons (d : Dict κ ν) (e : κ × ν) (entries : List (κ × ν)) :
    insertAll d (e :: entries) = insertAll (d.insert e.1 e.2) entries := rfl

theorem insertAll_append (d : Dict κ ν) (entries more : List (κ × ν)) :
    insertAll d (entries ++ more) = insertAll (insertAll d entries) more :=
  List.foldl_append

theorem lookup_insertAll_of_notMem {entries : List (κ × ν)} {a : κ}
    (h : a ∉ entries.map Prod.fst) (d : Dict κ ν) :
    (insertAll d entries).lookup a = d.lookup a := by
  induction entries generalizing d with
  | nil => rfl
  | cons e entries ih =>
      rw [List.map_cons, List.mem_cons, not_or] at h
      rw [insertAll_cons, ih h.2, lookup_insert_eq_ite, if_neg h.1]

theorem erase_insertAll_of_notMem {entries : List (κ × ν)} {a : κ}
    (h : a ∉ entries.map Prod.fst) (d : Dict κ ν) :
    (insertAll d entries).erase a = insertAll (d.erase a) entries := by
  induction entries generalizing d with
  | nil => rfl
  | cons e entries ih =>
      rw [List.map_cons, List.mem_cons, not_or] at h
      rw [insertAll_cons, ih h.2, erase_insert_of_ne h.1, insertAll_cons]

theorem lookup_insertAll_cons {entries : List (κ × ν)} {a : κ}
    (h : a ∉ entries.map Prod.fst) (v : ν) (d : Dict κ ν) :
    (insertAll d ((a, v) :: entries)).lookup a = some v := by
  rw [insertAll_cons, lookup_insertAll_of_notMem h, AList.lookup_insert]

theorem erase_insertAll_cons {d : Dict κ ν} {entries : List (κ × ν)} {a : κ}
    (h : a ∉ entries.map Prod.fst) (ha : a ∉ d) (v : ν) :
    (insertAll d ((a, v) :: entries)).erase a = insertAll d entries := by
  rw [insertAll_cons, erase_insertAll_of_notMem h, erase_insert ha]

theorem size_eq_card (d : Dict κ ν) : size d = d.keys.toFinset.card :=
  (List.toFinset_card_of_nodup d.keys_nodup).symm

end Dict
