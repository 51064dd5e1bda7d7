import Mathlib.Data.Multiset.OrderedMonoid
import KVStore.Library.Ledger

/-!
# Parcels of work and their results

What assigning work is for, without the parties that do it. Each assignment sends
out one parcel; a parcel is worked on and turns into a result, and a result that is
delivered settles the item, if the item is still assigned as the parcel says. A
parcel can also be dropped.

When nothing makes copies of parcels, each item has at most one parcel or result on
the way and no result is ever stale (`Sole`). An assigned item has a parcel or a
result on the way (`Covered`) as long as no parcel is dropped.
-/

namespace Delivery

variable {κ ω : Type*}

/-- One assignment of an item on its way: to whom it was assigned, and the number of
the assignment. -/
structure Parcel (κ ω : Type*) where
  item : κ
  holder : Option ω
  number : ℕ
deriving DecidableEq

structure State (κ ω : Type*) where
  ledger : Ledger κ ω
  unsent : Multiset (Parcel κ ω)
  undelivered : Multiset (Parcel κ ω)
  concluded : List ℕ
  issued : ℕ

/-- The item is still assigned as the parcel says. -/
def Current (L : Ledger κ ω) (x : Parcel κ ω) : Prop :=
  ∃ w, x.holder = some w ∧ L x.item = some (.assigned w)

inductive Event
  | issue
  | conclude
  | drop
  | accept
  | ignore
deriving DecidableEq

namespace State

/-- The parcels and results on the way. -/
def carriers (s : State κ ω) : Multiset (Parcel κ ω) := s.unsent + s.undelivered

inductive Step [DecidableEq κ] (s : State κ ω) : Event → State κ ω → Prop
  | issue (t : κ) (w : ω) (s' : State κ ω) (hwaiting : Ledger.Waiting s.ledger t)
      (hledger : s'.ledger = Function.update s.ledger t (some (.assigned w)))
      (hunsent : s'.unsent = ⟨t, some w, s.issued⟩ ::ₘ s.unsent)
      (hundelivered : s'.undelivered = s.undelivered)
      (hconcluded : s'.concluded = s.concluded) (hissued : s'.issued = s.issued + 1) :
      Step s .issue s'
  | conclude (x : Parcel κ ω) (s' : State κ ω) (hledger : s'.ledger = s.ledger)
      (hunsent : s.unsent = x ::ₘ s'.unsent)
      (hundelivered : s'.undelivered = x ::ₘ s.undelivered)
      (hconcluded : s'.concluded = s.concluded ++ [x.number])
      (hissued : s'.issued = s.issued) : Step s .conclude s'
  | drop (x : Parcel κ ω) (s' : State κ ω) (hledger : s'.ledger = s.ledger)
      (hunsent : s.unsent = x ::ₘ s'.unsent)
      (hundelivered : s'.undelivered = s.undelivered)
      (hconcluded : s'.concluded = s.concluded) (hissued : s'.issued = s.issued) :
      Step s .drop s'
  | accept (x : Parcel κ ω) (p : Place ω) (s' : State κ ω) (hcurrent : Current s.ledger x)
      (hledger : s'.ledger = Function.update s.ledger x.item (some p))
      (hp : ∀ w, p ≠ .assigned w) (hunsent : s'.unsent = s.unsent)
      (hundelivered : s.undelivered = x ::ₘ s'.undelivered)
      (hconcluded : s'.concluded = s.concluded) (hissued : s'.issued = s.issued) :
      Step s .accept s'
  | ignore (x : Parcel κ ω) (s' : State κ ω) (hstale : ¬ Current s.ledger x)
      (hledger : s'.ledger = s.ledger) (hunsent : s'.unsent = s.unsent)
      (hundelivered : s.undelivered = x ::ₘ s'.undelivered)
      (hconcluded : s'.concluded = s.concluded) (hissued : s'.issued = s.issued) :
      Step s .ignore s'

/-- Each item has one carrier at most, whose assignment is the current one, and each
assignment has one parcel or one result. -/
structure Sole (s : State κ ω) : Prop where
  current : ∀ x ∈ s.carriers, Current s.ledger x
  nodup_item : (s.carriers.map Parcel.item).Nodup
  nodup_number : (↑s.concluded + s.unsent.map Parcel.number).Nodup
  number_lt : ∀ k ∈ ↑s.concluded + s.unsent.map Parcel.number, k < s.issued

/-- Every assigned item has a carrier. -/
def Covered (s : State κ ω) : Prop :=
  ∀ t w, s.ledger t = some (.assigned w) → ∃ x ∈ s.carriers, x.item = t

section

variable [DecidableEq κ] {s s' : State κ ω} {e : Event}

omit [DecidableEq κ] in
theorem Sole.undelivered_current (h : s.Sole) {x : Parcel κ ω} (hx : x ∈ s.undelivered) :
    Current s.ledger x :=
  h.current x (Multiset.mem_add.2 (.inr hx))

theorem current_update {L : Ledger κ ω} {x : Parcel κ ω} {t : κ} {p : Option (Place ω)}
    (hne : x.item ≠ t) (h : Current L x) : Current (Function.update L t p) x := by
  obtain ⟨w, hw, hplace⟩ := h
  exact ⟨w, hw, by rw [Function.update_of_ne hne, hplace]⟩

/-- A step keeps the carriers sole, and ignores no result. -/
theorem Sole.step (h : s.Sole) (hstep : s.Step e s') : s'.Sole ∧ e ≠ .ignore := by
  cases hstep with
  | issue t w _ hwaiting hledger hunsent hundelivered hconcluded hissued =>
      have hcarriers : s'.carriers = ⟨t, some w, s.issued⟩ ::ₘ s.carriers := by
        rw [carriers, carriers, hunsent, hundelivered, Multiset.cons_add]
      -- a waiting item has no carrier
      have hne : ∀ x ∈ s.carriers, x.item ≠ t := by
        rintro x hx rfl
        obtain ⟨v, _, hplace⟩ := h.current x hx
        exact Ledger.not_waiting_of_assigned hplace hwaiting
      have hnumbers : (↑s'.concluded + s'.unsent.map Parcel.number : Multiset ℕ) =
          s.issued ::ₘ (↑s.concluded + s.unsent.map Parcel.number) := by
        rw [hconcluded, hunsent, Multiset.map_cons, Multiset.add_cons]
      refine ⟨⟨?_, ?_, ?_, ?_⟩, by simp⟩
      · intro x hx
        rw [hledger]
        rw [hcarriers] at hx
        rcases Multiset.mem_cons.1 hx with rfl | hx
        · exact ⟨w, rfl, Function.update_self _ _ _⟩
        · exact current_update (hne x hx) (h.current x hx)
      · rw [hcarriers, Multiset.map_cons, Multiset.nodup_cons]
        refine ⟨fun hmem => ?_, h.nodup_item⟩
        obtain ⟨x, hx, hxt⟩ := Multiset.mem_map.1 hmem
        exact hne x hx hxt
      · rw [hnumbers, Multiset.nodup_cons]
        exact ⟨fun hmem => lt_irrefl _ (h.number_lt _ hmem), h.nodup_number⟩
      · intro k hk
        rw [hnumbers] at hk
        rw [hissued]
        rcases Multiset.mem_cons.1 hk with rfl | hk
        · exact Nat.lt_succ_self _
        · exact Nat.lt_succ_of_lt (h.number_lt k hk)
  | conclude x _ hledger hunsent hundelivered hconcluded hissued =>
      have hcarriers : s'.carriers = s.carriers := by
        rw [carriers, carriers, hunsent, hundelivered, Multiset.cons_add, Multiset.add_cons]
      have hnumbers : (↑s'.concluded + s'.unsent.map Parcel.number : Multiset ℕ) =
          ↑s.concluded + s.unsent.map Parcel.number := by
        rw [hconcluded, hunsent, Multiset.map_cons, ← Multiset.coe_add, Multiset.coe_singleton,
          add_assoc, Multiset.singleton_add]
      refine ⟨⟨?_, ?_, ?_, ?_⟩, by simp⟩
      · rw [hcarriers, hledger]
        exact h.current
      · rw [hcarriers]
        exact h.nodup_item
      · rw [hnumbers]
        exact h.nodup_number
      · rw [hnumbers, hissued]
        exact h.number_lt
  | drop x _ hledger hunsent hundelivered hconcluded hissued =>
      have hcarriers : s.carriers = x ::ₘ s'.carriers := by
        rw [carriers, carriers, hunsent, hundelivered, Multiset.cons_add]
      have hnumbers : (↑s.concluded + s.unsent.map Parcel.number : Multiset ℕ) =
          x.number ::ₘ (↑s'.concluded + s'.unsent.map Parcel.number) := by
        rw [hconcluded, hunsent, Multiset.map_cons, Multiset.add_cons]
      have hnodup := h.nodup_item
      have hnodup' := h.nodup_number
      rw [hcarriers, Multiset.map_cons, Multiset.nodup_cons] at hnodup
      rw [hnumbers, Multiset.nodup_cons] at hnodup'
      refine ⟨⟨?_, hnodup.2, hnodup'.2, ?_⟩, by simp⟩
      · intro y hy
        rw [hledger]
        exact h.current y (hcarriers ▸ Multiset.mem_cons_of_mem hy)
      · intro k hk
        rw [hissued]
        exact h.number_lt k (hnumbers ▸ Multiset.mem_cons_of_mem hk)
  | accept x p _ hcurrent hledger hp hunsent hundelivered hconcluded hissued =>
      have hcarriers : s.carriers = x ::ₘ s'.carriers := by
        rw [carriers, carriers, hunsent, hundelivered, Multiset.add_cons]
      have hnodup := h.nodup_item
      rw [hcarriers, Multiset.map_cons, Multiset.nodup_cons] at hnodup
      refine ⟨⟨?_, hnodup.2, ?_, ?_⟩, by simp⟩
      · intro y hy
        have hne : y.item ≠ x.item := fun heq =>
          hnodup.1 (heq ▸ Multiset.mem_map_of_mem Parcel.item hy)
        rw [hledger]
        exact current_update hne (h.current y (hcarriers ▸ Multiset.mem_cons_of_mem hy))
      · rw [hconcluded, hunsent]
        exact h.nodup_number
      · rw [hconcluded, hunsent, hissued]
        exact h.number_lt
  | ignore x _ hstale _ _ hundelivered _ _ =>
      exact absurd (h.undelivered_current (hundelivered ▸ Multiset.mem_cons_self x _)) hstale

/-- Only a dropped parcel leaves an assigned item uncovered. -/
theorem Covered.step (h : s.Covered) (hsole : s.Sole) (hstep : s.Step e s')
    (he : e ≠ .drop) : s'.Covered := by
  intro t w ht
  cases hstep with
  | issue u v _ _ hledger hunsent hundelivered _ _ =>
      have hcarriers : s'.carriers = ⟨u, some v, s.issued⟩ ::ₘ s.carriers := by
        rw [carriers, carriers, hunsent, hundelivered, Multiset.cons_add]
      rw [hcarriers]
      by_cases htu : t = u
      · exact ⟨_, Multiset.mem_cons_self _ _, htu.symm⟩
      · rw [hledger, Function.update_of_ne htu] at ht
        obtain ⟨x, hx, hitem⟩ := h t w ht
        exact ⟨x, Multiset.mem_cons_of_mem hx, hitem⟩
  | conclude x _ hledger hunsent hundelivered _ _ =>
      have hcarriers : s'.carriers = s.carriers := by
        rw [carriers, carriers, hunsent, hundelivered, Multiset.cons_add, Multiset.add_cons]
      rw [hledger] at ht
      rw [hcarriers]
      exact h t w ht
  | drop x _ _ _ _ _ _ => exact absurd rfl he
  | accept x p _ _ hledger hp hunsent hundelivered _ _ =>
      have hcarriers : s.carriers = x ::ₘ s'.carriers := by
        rw [carriers, carriers, hunsent, hundelivered, Multiset.add_cons]
      have htx : t ≠ x.item := by
        rintro rfl
        rw [hledger, Function.update_self] at ht
        exact hp w (Option.some.inj ht)
      rw [hledger, Function.update_of_ne htx] at ht
      obtain ⟨y, hy, rfl⟩ := h t w ht
      rw [hcarriers] at hy
      rcases Multiset.mem_cons.1 hy with rfl | hy
      · exact absurd rfl htx
      · exact ⟨y, hy, rfl⟩
  | ignore x _ hstale _ _ hundelivered _ _ =>
      exact absurd (hsole.undelivered_current (hundelivered ▸ Multiset.mem_cons_self x _))
        hstale

/-- A dropped parcel was the only carrier of its item. -/
theorem Sole.not_covered_of_drop (h : s.Sole) (hstep : s.Step .drop s') :
    ¬ s'.Covered := by
  cases hstep with
  | drop x _ hledger hunsent hundelivered _ _ =>
      have hcarriers : s.carriers = x ::ₘ s'.carriers := by
        rw [carriers, carriers, hunsent, hundelivered, Multiset.cons_add]
      have hnodup := h.nodup_item
      rw [hcarriers, Multiset.map_cons, Multiset.nodup_cons] at hnodup
      obtain ⟨w, _, hplace⟩ := h.current x (hcarriers ▸ Multiset.mem_cons_self x _)
      intro hcovered
      obtain ⟨y, hy, hitem⟩ := hcovered x.item w (by rw [hledger, hplace])
      exact hnodup.1 (hitem ▸ Multiset.mem_map_of_mem Parcel.item hy)

end

end State

end Delivery
