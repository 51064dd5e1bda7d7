import Mathlib.Algebra.BigOperators.Group.Finset.Basic
import Mathlib.Algebra.Group.Action.Defs
import Mathlib.Algebra.Order.BigOperators.Group.Finset
import Mathlib.Data.Set.Card

/-!
# Threshold balancing

Parties hold stocks of equal capacity. A party whose stock is at least `high` may give a batch of
bounded size to one of the others with the least stock, if there is room for it. A giver never
falls below `low`, which is `high` less the largest batch, so what the parties lack of `low`
only shrinks: a gift to a party below `low` is made finitely often (`deficit_move_lt`). Where
nobody is below `low`, someone is overloaded and someone has room, there always is a gift that
leads to such stocks again (`Spread.exists_batch`).
-/

namespace Balancing

/-- The capacity, the stock from which on a party gives, and the largest batch. -/
structure Limits where
  capacity : ℕ
  high : ℕ
  batch : ℕ
  high_le : high ≤ capacity
  batch_le : batch ≤ high
  batch_pos : 0 < batch

/-- What a giver keeps at least. -/
def Limits.low (L : Limits) : ℕ := L.high - L.batch

variable {ι : Type*} [DecidableEq ι]

/-- `c` units go from `i` to `j`. -/
def move (s : ι → ℕ) (i j : ι) (c : ℕ) : ι → ℕ :=
  Function.update (Function.update s i (s i - c)) j (s j + c)

/-- What the parties `I` lack of `low`. -/
def deficit (L : Limits) (I : Finset ι) (s : ι → ℕ) : ℕ := ∑ i ∈ I, (L.low - s i)

/-- A gift of `c` units from `i` to `j`, where no other party has less than `j`. -/
structure Gift (L : Limits) (I : Finset ι) (s : ι → ℕ) (i j : ι) (c : ℕ) : Prop where
  giver_mem : i ∈ I
  receiver_mem : j ∈ I
  ne : j ≠ i
  overloaded : L.high ≤ s i
  pos : 0 < c
  le_batch : c ≤ L.batch
  room : s j + c ≤ L.capacity
  least : ∀ k ∈ I, k ≠ i → s j ≤ s k

/-- Nobody lacks anything, someone is overloaded, and someone has room. -/
structure Spread (L : Limits) (I : Finset ι) (s : ι → ℕ) : Prop where
  low_le : ∀ i ∈ I, L.low ≤ s i
  le_capacity : ∀ i ∈ I, s i ≤ L.capacity
  overloaded : ∃ i ∈ I, L.high ≤ s i
  room : ∃ i ∈ I, s i < L.capacity

section

variable {L : Limits} {I : Finset ι} {s : ι → ℕ} {i j k : ι} {c : ℕ}

theorem move_receiver (s : ι → ℕ) (i j : ι) (c : ℕ) : move s i j c j = s j + c :=
  Function.update_self _ _ _

theorem move_giver (h : j ≠ i) : move s i j c i = s i - c := by
  rw [move, Function.update_of_ne h.symm, Function.update_self]

theorem move_of_ne (hi : k ≠ i) (hj : k ≠ j) : move s i j c k = s k := by
  rw [move, Function.update_of_ne hj, Function.update_of_ne hi]

theorem Limits.low_add_batch (L : Limits) : L.low + L.batch = L.high :=
  Nat.sub_add_cancel L.batch_le

theorem sum_move (h : Gift L I s i j c) : ∑ k ∈ I, move s i j c k = ∑ k ∈ I, s k := by
  have hc : c ≤ s i := h.le_batch.trans (L.batch_le.trans h.overloaded)
  have hi : i ∈ I.erase j := Finset.mem_erase.2 ⟨h.ne.symm, h.giver_mem⟩
  rw [← Finset.add_sum_erase I _ h.receiver_mem, ← Finset.add_sum_erase I s h.receiver_mem,
    ← Finset.add_sum_erase _ _ hi, ← Finset.add_sum_erase _ s hi, move_receiver,
    move_giver h.ne]
  have hrest : ∑ k ∈ (I.erase j).erase i, move s i j c k = ∑ k ∈ (I.erase j).erase i, s k := by
    refine Finset.sum_congr rfl fun k hk => ?_
    obtain ⟨hki, hk⟩ := Finset.mem_erase.1 hk
    exact move_of_ne hki (Finset.ne_of_mem_erase hk)
  rw [hrest]
  omega

theorem low_sub_move_le (h : Gift L I s i j c) (k : ι) :
    L.low - move s i j c k ≤ L.low - s k := by
  have hlow := L.low_add_batch
  have hoverloaded := h.overloaded
  have hbatch := h.le_batch
  by_cases hj : k = j
  · subst hj
    rw [move_receiver]
    omega
  · by_cases hi : k = i
    · subst hi
      rw [move_giver h.ne]
      omega
    · rw [move_of_ne hi hj]

theorem deficit_move_le (h : Gift L I s i j c) : deficit L I (move s i j c) ≤ deficit L I s :=
  Finset.sum_le_sum fun k _ => low_sub_move_le h k

theorem deficit_move_lt (h : Gift L I s i j c) (hj : s j < L.low) :
    deficit L I (move s i j c) < deficit L I s := by
  refine Finset.sum_lt_sum (fun k _ => low_sub_move_le h k) ⟨j, h.receiver_mem, ?_⟩
  have hpos := h.pos
  rw [move_receiver]
  omega

omit [DecidableEq ι] in
/-- A gift to a party that lacks nothing is made between spread stocks. -/
theorem Gift.spread (h : Gift L I s i j c) (hcapacity : ∀ k ∈ I, s k ≤ L.capacity)
    (hj : L.low ≤ s j) : Spread L I s where
  low_le k hk := by
    by_cases hki : k = i
    · rw [hki]
      exact (Nat.sub_le _ _).trans h.overloaded
    · exact hj.trans (h.least k hk hki)
  le_capacity := hcapacity
  overloaded := ⟨i, h.giver_mem, h.overloaded⟩
  room := by
    have hpos := h.pos
    have hroom := h.room
    exact ⟨j, h.receiver_mem, by omega⟩

theorem Spread.le_sum (h : Spread L I s) : L.low * I.card + L.batch ≤ ∑ k ∈ I, s k := by
  obtain ⟨i, hi, hoverloaded⟩ := h.overloaded
  have hsum : (I.erase i).card * L.low ≤ ∑ k ∈ I.erase i, s k := by
    rw [← smul_eq_mul]
    exact Finset.card_nsmul_le_sum (I.erase i) s L.low
      fun k hk => h.low_le k (Finset.mem_of_mem_erase hk)
  have hcard := Finset.card_erase_add_one hi
  have hlow := L.low_add_batch
  rw [← Finset.add_sum_erase I s hi, ← hcard, Nat.mul_add, Nat.mul_one, Nat.mul_comm]
  omega

omit [DecidableEq ι] in
theorem Spread.sum_lt (h : Spread L I s) : ∑ k ∈ I, s k < L.capacity * I.card := by
  obtain ⟨i, hi, hroom⟩ := h.room
  calc ∑ k ∈ I, s k < ∑ k ∈ I, L.capacity := Finset.sum_lt_sum h.le_capacity ⟨i, hi, hroom⟩
    _ = L.capacity * I.card := by rw [Finset.sum_const, smul_eq_mul, Nat.mul_comm]

theorem Spread.exists_giver (h : Spread L I s) (hcard : 2 ≤ I.card) :
    ∃ i ∈ I, L.high ≤ s i ∧ ∃ j ∈ I, j ≠ i ∧ s j < L.capacity := by
  obtain ⟨i, hi, hoverloaded⟩ := h.overloaded
  obtain ⟨j, hj, hroom⟩ := h.room
  by_cases hji : j = i
  · -- the one with room is overloaded itself: another party gives to it, or gets from it
    subst hji
    obtain ⟨k, hk, hkj⟩ := Finset.exists_mem_ne hcard j
    by_cases hfull : s k < L.capacity
    · exact ⟨j, hj, hoverloaded, k, hk, hkj, hfull⟩
    · exact ⟨k, hk, L.high_le.trans (not_lt.1 hfull), j, hj, hkj.symm, hroom⟩
  · exact ⟨i, hi, hoverloaded, j, hj, hji, hroom⟩

/-- For any giver and receiver a batch can be chosen after which the stocks are spread again:
a single unit, unless the receiver has to become overloaded in the place of the giver. -/
theorem Spread.exists_batch (h : Spread L I s) (hi : i ∈ I) (hj : j ∈ I) (hne : j ≠ i)
    (hoverloaded : L.high ≤ s i) (hroom : s j < L.capacity) :
    ∃ c, 0 < c ∧ c ≤ L.batch ∧ s j + c ≤ L.capacity ∧ Spread L I (move s i j c) := by
  have hlow := L.low_add_batch
  have hhigh := L.high_le
  have hbatch := L.batch_pos
  have hlowj := h.low_le j hj
  have hcapi := h.le_capacity i hi
  obtain ⟨c, hpos, hle, hfit, hnext⟩ : ∃ c, 0 < c ∧ c ≤ L.batch ∧ s j + c ≤ L.capacity ∧
      (L.high ≤ s i - c ∨ L.high ≤ s j + c) := by
    by_cases hmore : L.high < s i
    · exact ⟨1, Nat.one_pos, hbatch, hroom, .inl (by omega)⟩
    · refine ⟨max 1 (L.high - s j), by omega, by omega, by omega, .inr (by omega)⟩
  have hgiver := move_giver (s := s) (c := c) hne
  have hreceiver := move_receiver s i j c
  refine ⟨c, hpos, hle, hfit, fun k hk => ?_, fun k hk => ?_, ?_, i, hi, ?_⟩
  · by_cases hkj : k = j
    · rw [hkj, hreceiver]
      omega
    · by_cases hki : k = i
      · rw [hki, hgiver]
        omega
      · rw [move_of_ne hki hkj]
        exact h.low_le k hk
  · by_cases hkj : k = j
    · rw [hkj, hreceiver]
      exact hfit
    · by_cases hki : k = i
      · rw [hki, hgiver]
        omega
      · rw [move_of_ne hki hkj]
        exact h.le_capacity k hk
  · rcases hnext with hnext | hnext
    · exact ⟨i, hi, by rw [hgiver]; exact hnext⟩
    · exact ⟨j, hj, by rw [hreceiver]; exact hnext⟩
  · rw [hgiver]
    omega

end

/-! ### Sequences -/

/-- A natural number that never grows falls finitely often. -/
theorem finite_of_decreasing {f : ℕ → ℕ} {P : ℕ → Prop} (hle : ∀ n, f (n + 1) ≤ f n)
    (hlt : ∀ n, P n → f (n + 1) < f n) : {n | P n}.Finite ∧ {n | P n}.ncard ≤ f 0 := by
  classical
  have hcount : ∀ m, ((Finset.range m).filter P).card + f m ≤ f 0 := by
    intro m
    induction m with
    | zero => simp
    | succ m ih =>
        rw [Finset.range_add_one, Finset.filter_insert]
        have hstep := hle m
        split_ifs with hm
        · have hfall := hlt m hm
          rw [Finset.card_insert_of_notMem (by simp)]
          omega
        · omega
  have hbound : ∀ T : Finset ℕ, (∀ n ∈ T, P n) → T.card ≤ f 0 := by
    intro T hT
    have hsub : T ⊆ (Finset.range (T.sup id + 1)).filter P := by
      intro n hn
      rw [Finset.mem_filter, Finset.mem_range]
      exact ⟨Nat.lt_succ_of_le (Finset.le_sup (f := id) hn), hT n hn⟩
    exact (Finset.card_le_card hsub).trans ((Nat.le_add_right _ _).trans (hcount _))
  have hfinite : {n | P n}.Finite := by
    by_contra hinfinite
    obtain ⟨T, hT, hcard⟩ := Set.Infinite.exists_subset_card_eq hinfinite (f 0 + 1)
    have hle := hbound T fun n hn => hT hn
    omega
  refine ⟨hfinite, ?_⟩
  rw [Set.ncard_eq_toFinset_card _ hfinite]
  exact hbound _ fun n hn => (hfinite.mem_toFinset).1 hn

end Balancing
