import Mathlib.Order.Lattice
import Mathlib.Algebra.Order.Group.Int
import Mathlib.Data.List.Basic

/-!
# An estimate that is kept up to date by reports

A number changes at one place and is estimated at another. The observer adds one to its
estimate for every item that it sends, as long as it is below the capacity, and takes
over every report that arrives. The reports arrive in order. Somebody owes a report from
a change until it is sent, but an item that is refused, because the number is at the
capacity, is not reported.

If the last report that is owed is always true, the estimate is right as soon as nothing
is owed and nothing is in flight.
-/

/-- The number, whether a report of it is owed, the reports in flight, the estimate, and
how many items are in flight. -/
structure Gauge where
  size : ℤ
  owed : Prop
  reports : List ℤ
  estimate : ℤ
  inflight : ℕ

namespace Gauge

variable {capacity : ℤ} {g g' : Gauge}

inductive Step (capacity : ℤ) (g : Gauge) : Gauge → Prop
  | calm (g' : Gauge) (hsize : g'.size = g.size) (howed : g.owed → g'.owed)
      (hreports : g'.reports = g.reports) (hestimate : g'.estimate = g.estimate)
      (hinflight : g'.inflight = g.inflight) : Step capacity g g'
  | changed (g' : Gauge) (howed : g'.owed) (hreports : g'.reports = g.reports)
      (hestimate : g'.estimate = g.estimate) : Step capacity g g'
  | sent (g' : Gauge) (hsize : g'.size = g.size) (howed : g.owed → g'.owed)
      (hreports : g'.reports = g.reports) (hroom : g.estimate < capacity)
      (hestimate : g'.estimate = g.estimate + 1) (hinflight : g'.inflight = g.inflight + 1) :
      Step capacity g g'
  | refused (g' : Gauge) (hfull : capacity ≤ g.size) (hsize : g'.size = g.size)
      (howed : g.owed → g'.owed) (hreports : g'.reports = g.reports)
      (hestimate : g'.estimate = g.estimate) : Step capacity g g'
  | reported (g' : Gauge) (k : ℤ) (hsize : g'.size = g.size) (hk : k ≤ capacity)
      (hlast : ¬ g'.owed → k = g.size) (hreports : g'.reports = g.reports ++ [k])
      (hestimate : g'.estimate = g.estimate) (hinflight : g'.inflight = g.inflight) :
      Step capacity g g'
  | observed (g' : Gauge) (k : ℤ) (hsize : g'.size = g.size) (howed : g.owed → g'.owed)
      (hreports : g.reports = k :: g'.reports) (hestimate : g'.estimate = k)
      (hinflight : g'.inflight = g.inflight) : Step capacity g g'

/-- The last report in flight is right, unless another one is owed; and without a report
the estimate is ahead by some of the items in flight. -/
structure Tracks (capacity : ℤ) (g : Gauge) : Prop where
  estimate_le : g.estimate ≤ capacity
  report_le : ∀ k ∈ g.reports, k ≤ capacity
  last : ¬ g.owed → ∀ k, g.reports.getLast? = some k → k = g.size
  ahead : ¬ g.owed → g.reports = [] →
    g.size ≤ g.estimate ∧ g.estimate ≤ g.size + g.inflight

theorem Tracks.step (h : g.Tracks capacity) (hstep : Step capacity g g') :
    g'.Tracks capacity := by
  cases hstep with
  | calm hsize howed hreports hestimate hinflight =>
      refine ⟨hestimate ▸ h.estimate_le, hreports ▸ h.report_le, ?_, ?_⟩
      · intro hfree
        rw [hreports, hsize]
        exact h.last fun hold => hfree (howed hold)
      · intro hfree
        rw [hreports, hsize, hestimate, hinflight]
        exact h.ahead fun hold => hfree (howed hold)
  | changed howed hreports hestimate =>
      exact ⟨hestimate ▸ h.estimate_le, hreports ▸ h.report_le,
        fun hfree => absurd howed hfree, fun hfree => absurd howed hfree⟩
  | sent hsize howed hreports hroom hestimate hinflight =>
      refine ⟨hestimate ▸ hroom, hreports ▸ h.report_le, ?_, ?_⟩
      · intro hfree
        rw [hreports, hsize]
        exact h.last fun hold => hfree (howed hold)
      · intro hfree hnone
        obtain ⟨hle, hge⟩ := h.ahead (fun hold => hfree (howed hold)) (hreports ▸ hnone)
        rw [hsize, hestimate, hinflight]
        push_cast
        omega
  | refused hfull hsize howed hreports hestimate =>
      refine ⟨hestimate ▸ h.estimate_le, hreports ▸ h.report_le, ?_, ?_⟩
      · intro hfree
        rw [hreports, hsize]
        exact h.last fun hold => hfree (howed hold)
      · -- the estimate is at most the capacity, so it is not ahead of the number
        intro hfree hnone
        obtain ⟨hle, _⟩ := h.ahead (fun hold => hfree (howed hold)) (hreports ▸ hnone)
        have hestimate_le := h.estimate_le
        rw [hsize, hestimate]
        omega
  | reported k hsize hk hlast hreports hestimate hinflight =>
      refine ⟨hestimate ▸ h.estimate_le, ?_, ?_, ?_⟩
      · rw [hreports]
        intro j hj
        rcases List.mem_append.1 hj with hold | hnew
        · exact h.report_le j hold
        · rw [List.mem_singleton.1 hnew]
          exact hk
      · intro hfree j hj
        rw [hreports, List.getLast?_concat] at hj
        cases hj
        rw [hsize]
        exact hlast hfree
      · intro _ hnone
        rw [hreports] at hnone
        exact absurd hnone (List.append_ne_nil_of_right_ne_nil _ (List.cons_ne_nil k []))
  | observed k hsize howed hreports hestimate hinflight =>
      have hk : k ≤ capacity := h.report_le k (hreports ▸ List.mem_cons_self)
      refine ⟨hestimate ▸ hk, ?_, ?_, ?_⟩
      · intro j hj
        exact h.report_le j (hreports ▸ List.mem_cons_of_mem k hj)
      · intro hfree j hj
        rw [hsize]
        refine h.last (fun hold => hfree (howed hold)) j ?_
        rw [hreports]
        cases hrest : g'.reports with
        | nil =>
            rw [hrest] at hj
            cases hj
        | cons i rest =>
            rw [hrest] at hj
            rw [List.getLast?_cons_cons]
            exact hj
      · intro hfree hnone
        have hlast : k = g.size := h.last (fun hold => hfree (howed hold)) k (by
          rw [hreports, hnone]
          rfl)
        rw [hsize, hestimate, hlast]
        omega

/-- The estimate is right when nothing is owed and nothing is in flight. -/
theorem Tracks.settled (h : g.Tracks capacity) (howed : ¬ g.owed) (hreports : g.reports = [])
    (hinflight : g.inflight = 0) : g.estimate = g.size := by
  obtain ⟨hle, hge⟩ := h.ahead howed hreports
  rw [hinflight] at hge
  omega

end Gauge
