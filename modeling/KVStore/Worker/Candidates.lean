import KVStore.Worker.Transfer

/-!
# The candidates of a transfer

`candidates` are the tasks that `peek_transfer_candidates` picks. Once they are reserved they are
either confirmed, which leaves the queue `without` them, or released, and then the same tasks
wait as before. On the other side, `WellFormed.accepted` says what a batch adds to a queue.
-/

namespace KVStore

open HasTaskId

namespace ReadyQueue

section

variable {τ : Type*} [HasTaskId τ] {q : ReadyQueue τ} {count : ℤ}

/-- The tasks that `peek_transfer_candidates` picks. -/
def candidates (q : ReadyQueue τ) (count : ℤ) : List τ :=
  q.normalCandidates count ++ q.priorityCandidates count

def without (q : ReadyQueue τ) (count : ℤ) : ReadyQueue τ :=
  { q.setAside count with
    reserved := q.reserved
    activeTaskIds := q.activeTaskIds \ ((q.candidates count).map taskId).toFinset }

omit [HasTaskId τ] in
theorem length_candidates (q : ReadyQueue τ) (count : ℤ) :
    (q.candidates count).length = min count.toNat (q.normal.length + q.priority.length) := by
  rw [candidates, List.length_append, normalCandidates, priorityCandidates, length_lastMany,
    length_lastMany]
  omega

theorem ids_perm_without (q : ReadyQueue τ) (count : ℤ) :
    q.ids.Perm ((q.candidates count).map taskId ++ (q.without count).ids) := by
  refine ids_perm_of_deques (q := q.without count) q _ ?_ rfl rfl
  have hnormal : q.normal.map taskId = (q.without count).normal.map taskId ++
      (q.normalCandidates count).map taskId := by
    rw [← List.map_append]
    exact congrArg _ (take_append_lastMany count.toNat q.normal).symm
  have hpriority : q.priority.map taskId = (q.without count).priority.map taskId ++
      (q.priorityCandidates count).map taskId := by
    rw [← List.map_append]
    exact congrArg _ (take_append_lastMany (count.toNat - q.normal.length) q.priority).symm
  rw [hnormal, hpriority, candidates, List.map_append]
  refine List.perm_iff_count.2 fun t => ?_
  simp only [List.count_append]
  omega

theorem sizeLocked_without (q : ReadyQueue τ) (count : ℤ) :
    (q.without count).sizeLocked + (q.candidates count).length = q.sizeLocked := by
  have hsize : (q.without count).sizeLocked =
      min (q.normal.length - count.toNat) q.normal.length +
        min (q.priority.length - (count.toNat - q.normal.length)) q.priority.length +
          q.reserved.size := by
    rw [← List.length_take, ← List.length_take]
    rfl
  rw [hsize, length_candidates, sizeLocked]
  omega

theorem WellFormed.without (h : q.WellFormed) (count : ℤ) : (q.without count).WellFormed := by
  have hids := ids_perm_without q count
  obtain ⟨_, hnodup, hdisjoint⟩ := List.nodup_append'.1 (hids.nodup_iff.1 h.nodup)
  refine ⟨hnodup, fun t => ?_, ?_, h.reserved_id⟩
  · change t ∈ q.activeTaskIds \ _ ↔ _
    rw [Finset.mem_sdiff, h.mem_active, hids.mem_iff, List.mem_toFinset, List.mem_append]
    constructor
    · rintro ⟨hmem | hmem, hnot⟩
      · exact absurd hmem hnot
      · exact hmem
    · exact fun hmem => ⟨.inr hmem, fun hcandidate => hdisjoint hcandidate hmem⟩
  · have hsize := sizeLocked_without q count
    have hle := h.size_le
    change (q.without count).sizeLocked ≤ q.capacity
    omega

/-- The candidates are put back: the same tasks wait, in another order. -/
theorem WellFormed.released (h : q.WellFormed) (count : ℤ) :
    ((q.setAside count).releaseAll ((q.candidates count).map taskId)).WellFormed ∧
      ((q.setAside count).releaseAll ((q.candidates count).map taskId)).sizeLocked =
        q.sizeLocked ∧
      ((q.setAside count).releaseAll ((q.candidates count).map taskId)).capacity =
        q.capacity ∧
      ((q.setAside count).releaseAll ((q.candidates count).map taskId)).reserved =
        q.reserved ∧
      ((q.setAside count).releaseAll ((q.candidates count).map taskId)).activeTaskIds =
        q.activeTaskIds := by
  rw [ReadyQueue.candidates, releaseAll_setAside h]
  have hnormal : ((q.normalCandidates count).reverse ++
      q.normal.take (q.normal.length - count.toNat)).Perm q.normal := by
    refine ((List.reverse_perm _).append_right _).trans (List.perm_append_comm.trans ?_)
    rw [normalCandidates, take_append_lastMany]
  have hpriority : ((q.priorityCandidates count).reverse ++ q.priority.take
      (q.priority.length - (count.toNat - q.normal.length))).Perm q.priority := by
    refine ((List.reverse_perm _).append_right _).trans (List.perm_append_comm.trans ?_)
    rw [priorityCandidates, take_append_lastMany]
  have hsize : sizeLocked { q with
      normal := (q.normalCandidates count).reverse ++
        q.normal.take (q.normal.length - count.toNat)
      priority := (q.priorityCandidates count).reverse ++ q.priority.take
        (q.priority.length - (count.toNat - q.normal.length)) } = q.sizeLocked := by
    simp only [sizeLocked, hnormal.length_eq, hpriority.length_eq]
  refine ⟨h.of_perm ?_ rfl hsize.le rfl h.reserved_id, hsize, rfl, rfl, rfl⟩
  exact (((hnormal.map taskId).append (hpriority.map taskId)).append_right _).append_right _

theorem WellFormed.accepted {tasks : List τ} (h : q.WellFormed)
    (haccepted : (q.tryEnqueueMany tasks).1.accepted = true) :
    (q.tryEnqueueMany tasks).2.WellFormed ∧
      (q.tryEnqueueMany tasks).2.sizeLocked = q.sizeLocked + tasks.length ∧
      (q.tryEnqueueMany tasks).2.capacity = q.capacity ∧
      (q.tryEnqueueMany tasks).2.reserved = q.reserved ∧
      (q.tryEnqueueMany tasks).2.activeTaskIds =
        (tasks.map taskId).toFinset ∪ q.activeTaskIds := by
  obtain ⟨hrefused, _⟩ | ⟨_, _, hwell, hids, _, hnormal, hpriority, hreserved, _, hcapacity⟩ :=
    tryEnqueueMany_cases h tasks
  · rw [hrefused] at haccepted
    cases haccepted
  · refine ⟨hwell, ?_, hcapacity, hreserved, ?_⟩
    · rw [sizeLocked, sizeLocked, hnormal, hpriority, hreserved, List.length_append]
      omega
    · ext t
      rw [hwell.mem_active, hids.mem_iff, List.mem_append, Finset.mem_union, List.mem_toFinset,
        h.mem_active]

theorem accepted_of_new {tasks : List τ} (hnodup : (tasks.map taskId).Nodup)
    (hnew : ∀ t ∈ tasks.map taskId, t ∉ q.activeTaskIds)
    (hfits : q.sizeLocked + tasks.length ≤ q.capacity) :
    (q.tryEnqueueMany tasks).1.accepted = true := by
  have hany : ¬ (tasks.map taskId).any (· ∈ q.activeTaskIds) = true := by
    rw [List.any_eq_true]
    rintro ⟨t, ht, hactive⟩
    exact hnew t ht (of_decide_eq_true hactive)
  rw [tryEnqueueMany]
  dsimp only
  rw [if_neg (not_not.2 hnodup), if_neg hany, if_neg (not_lt.2 hfits)]
  rfl

end

end ReadyQueue

end KVStore
