import Mathlib.Data.Multiset.Basic
import KVStore.Worker.ReadyQueue

/-!
# The representation invariant of the ready queue

`ids` lists every place a task id can be in. `WellFormed` says that these places
are disjoint, that the set of active ids is their union and that the reserved
tasks are still counted against the capacity. Each method only moves ids between
the places, so each specification below names the ids before and after.
-/

namespace KVStore

open HasTaskId

namespace ReadyQueue

variable {τ : Type*} [HasTaskId τ]

def ids (q : ReadyQueue τ) : List TaskId :=
  q.normal.map taskId ++ q.priority.map taskId ++ q.reserved.keys ++
    q.processingTaskId.toList

structure WellFormed (q : ReadyQueue τ) : Prop where
  nodup : q.ids.Nodup
  mem_active : ∀ t, t ∈ q.activeTaskIds ↔ t ∈ q.ids
  size_le : q.sizeLocked ≤ q.capacity
  reserved_id : ∀ t task p, q.reserved.lookup t = some (task, p) → taskId task = t

/-- The tasks in the two deques: the ones that can still be processed. -/
def waiting (q : ReadyQueue τ) : Multiset τ := ↑(q.normal ++ q.priority)

def aside (q : ReadyQueue τ) : Multiset τ := ↑(q.reserved.values.map Prod.fst)

theorem wellFormed_init {capacity : ℤ} {q : ReadyQueue τ}
    (h : init capacity = .ok q) :
    q.WellFormed ∧ (q.capacity : ℤ) = capacity ∧ q.ids = [] ∧
      q.waiting = 0 ∧ q.aside = 0 := by
  unfold init at h
  split_ifs at h with hcapacity
  cases h
  have hids : ids ({ capacity := capacity.toNat } : ReadyQueue τ) = [] := rfl
  refine ⟨⟨?_, ?_, ?_, ?_⟩, ?_, hids, rfl, rfl⟩
  · rw [hids]
    exact List.nodup_nil
  · intro t
    rw [hids]
    simp
  · exact Nat.zero_le _
  · intro t task p hlookup
    cases hlookup
  · exact Int.toNat_of_nonneg (le_of_not_ge hcapacity)

namespace WellFormed

variable {q q' : ReadyQueue τ}

theorem of_perm (h : q.WellFormed) (hids : q'.ids.Perm q.ids)
    (hactive : q'.activeTaskIds = q.activeTaskIds)
    (hsize : q'.sizeLocked ≤ q.sizeLocked) (hcapacity : q'.capacity = q.capacity)
    (hreserved : ∀ t task p, q'.reserved.lookup t = some (task, p) → taskId task = t) :
    q'.WellFormed where
  nodup := hids.nodup_iff.2 h.nodup
  mem_active := fun t => by rw [hactive, h.mem_active, hids.mem_iff]
  size_le := by rw [hcapacity]; exact hsize.trans h.size_le
  reserved_id := hreserved

theorem nodup_deques (h : q.WellFormed) :
    (q.normal.map taskId ++ q.priority.map taskId).Nodup :=
  (List.nodup_append'.1 (List.nodup_append'.1 h.nodup).1).1

theorem notMem_reserved (h : q.WellFormed) {task : τ}
    (htask : task ∈ q.normal ∨ task ∈ q.priority) : taskId task ∉ q.reserved := by
  have hdisjoint := (List.nodup_append'.1 (List.nodup_append'.1 h.nodup).1).2.2
  have hmem : taskId task ∈ q.normal.map taskId ++ q.priority.map taskId := by
    rcases htask with htask | htask
    · exact List.mem_append_left _ (List.mem_map_of_mem htask)
    · exact List.mem_append_right _ (List.mem_map_of_mem htask)
  exact fun hres => hdisjoint hmem (AList.mem_keys.1 hres)

theorem mem_ids_of_reserved {t : TaskId} {e : τ × Bool}
    (h : q.reserved.lookup t = some e) : t ∈ q.ids := by
  have hkey : t ∈ q.reserved.keys := Dict.mem_keys_iff.2 ⟨e, h⟩
  simp [ids, hkey]

theorem snapshotStatus (h : q.WellFormed) (hcapacity : (q.capacity : ℤ) = DEFAULT_QUEUE_CAPACITY)
    {w : WorkerId} (hw : w ≠ "") :
    q.snapshotStatus w = .ok
      { workerId := w
        queueSize := q.sizeLocked
        queueCapacity := q.capacity
        processingTaskId := q.processingTaskId } := by
  have hsize : 0 ≤ (q.sizeLocked : ℤ) ∧ (q.sizeLocked : ℤ) ≤ q.capacity :=
    ⟨Int.natCast_nonneg _, Int.ofNat_le.2 h.size_le⟩
  rw [ReadyQueue.snapshotStatus, WorkerStatus.postInit, if_neg hw, if_neg (not_not.2 hcapacity),
    if_neg (not_not.2 hsize)]

end WellFormed

/-! ### Specifications of the methods -/

section Specifications

variable {q : ReadyQueue τ}

theorem ids_perm_of_deques (q' : ReadyQueue τ) (added : List TaskId)
    (hdeques : (q'.normal.map taskId ++ q'.priority.map taskId).Perm
      (added ++ (q.normal.map taskId ++ q.priority.map taskId)))
    (hreserved : q'.reserved = q.reserved)
    (hprocessing : q'.processingTaskId = q.processingTaskId) :
    q'.ids.Perm (added ++ q.ids) := by
  have hall := (hdeques.append_right q.reserved.keys).append_right
    q.processingTaskId.toList
  simpa only [ids, hreserved, hprocessing, List.append_assoc] using hall

/-- Either the task is refused and nothing changes, or its id was not active,
there was room, and it waits at the end of its deque. -/
theorem tryEnqueue_cases (h : q.WellFormed) (task : τ) (priority : Bool) :
    ((q.tryEnqueue task priority).1.accepted = false ∧
      (q.tryEnqueue task priority).2 = q ∧
      ((taskId task ∈ q.activeTaskIds ∧
        (q.tryEnqueue task priority).1.reason = some "duplicate") ∨
      (taskId task ∉ q.activeTaskIds ∧
        (q.tryEnqueue task priority).1.reason = some "full"))) ∨
    ((q.tryEnqueue task priority).1.accepted = true ∧
      taskId task ∉ q.activeTaskIds ∧
      (q.tryEnqueue task priority).2.WellFormed ∧
      (q.tryEnqueue task priority).2.ids.Perm (taskId task :: q.ids) ∧
      (q.tryEnqueue task priority).2.waiting = task ::ₘ q.waiting ∧
      (q.tryEnqueue task priority).2.reserved = q.reserved ∧
      (q.tryEnqueue task priority).2.processingTaskId = q.processingTaskId ∧
      (q.tryEnqueue task priority).2.capacity = q.capacity) := by
  unfold tryEnqueue
  by_cases hactive : taskId task ∈ q.activeTaskIds
  · rw [if_pos hactive]
    exact .inl ⟨rfl, rfl, .inl ⟨hactive, rfl⟩⟩
  rw [if_neg hactive]
  by_cases hfull : q.capacity ≤ q.sizeLocked
  · rw [if_pos hfull]
    exact .inl ⟨rfl, rfl, .inr ⟨hactive, rfl⟩⟩
  rw [if_neg hfull]
  let added : ReadyQueue τ := { q with
    normal := if priority then q.normal else q.normal ++ [task]
    priority := if priority then q.priority ++ [task] else q.priority
    activeTaskIds := insert (taskId task) q.activeTaskIds }
  have hids : added.ids.Perm (taskId task :: q.ids) := by
    refine ids_perm_of_deques (q := q) added [taskId task] ?_ rfl rfl
    cases priority with
    | true =>
        simp only [added, if_true, List.map_append, List.map_cons, List.map_nil]
        rw [← List.append_assoc]
        exact List.perm_append_singleton _ _
    | false =>
        simp only [added, Bool.false_eq_true, if_false, List.map_append, List.map_cons,
          List.map_nil, List.append_assoc, List.singleton_append]
        exact List.perm_middle
  have hwaiting : added.waiting = task ::ₘ q.waiting := by
    rw [waiting, waiting, Multiset.cons_coe, Multiset.coe_eq_coe]
    cases priority with
    | true =>
        simp only [added, if_true]
        rw [← List.append_assoc]
        exact List.perm_append_singleton _ _
    | false =>
        simp only [added, Bool.false_eq_true, if_false, List.append_assoc,
          List.singleton_append]
        exact List.perm_middle
  have hsize : added.sizeLocked = q.sizeLocked + 1 := by
    cases priority <;> simp [added, sizeLocked] <;> omega
  refine .inr ⟨rfl, hactive, ⟨?_, ?_, ?_, h.reserved_id⟩, hids, hwaiting, rfl, rfl, rfl⟩
  · rw [hids.nodup_iff, List.nodup_cons, ← h.mem_active]
    exact ⟨hactive, h.nodup⟩
  · intro t
    rw [hids.mem_iff, List.mem_cons, ← h.mem_active]
    exact Finset.mem_insert
  · rw [hsize]
    exact Nat.lt_of_not_le hfull

theorem tryEnqueueMany_cases (h : q.WellFormed) (tasks : List τ) :
    ((q.tryEnqueueMany tasks).1.accepted = false ∧ (q.tryEnqueueMany tasks).2 = q) ∨
    ((q.tryEnqueueMany tasks).1.accepted = true ∧
      (∀ task ∈ tasks, taskId task ∉ q.activeTaskIds) ∧
      (q.tryEnqueueMany tasks).2.WellFormed ∧
      (q.tryEnqueueMany tasks).2.ids.Perm (tasks.map taskId ++ q.ids) ∧
      (q.tryEnqueueMany tasks).2.waiting = ↑tasks + q.waiting ∧
      (q.tryEnqueueMany tasks).2.normal = q.normal ++ tasks ∧
      (q.tryEnqueueMany tasks).2.priority = q.priority ∧
      (q.tryEnqueueMany tasks).2.reserved = q.reserved ∧
      (q.tryEnqueueMany tasks).2.processingTaskId = q.processingTaskId ∧
      (q.tryEnqueueMany tasks).2.capacity = q.capacity) := by
  unfold tryEnqueueMany
  dsimp only
  by_cases hnodup : (tasks.map taskId).Nodup
  swap
  · rw [if_pos hnodup]
    exact .inl ⟨rfl, rfl⟩
  rw [if_neg (not_not.2 hnodup)]
  by_cases hany : (tasks.map taskId).any (· ∈ q.activeTaskIds) = true
  · rw [if_pos hany]
    exact .inl ⟨rfl, rfl⟩
  rw [if_neg hany]
  by_cases hfull : q.capacity < q.sizeLocked + tasks.length
  · rw [if_pos hfull]
    exact .inl ⟨rfl, rfl⟩
  rw [if_neg hfull]
  let added : ReadyQueue τ := { q with
    normal := q.normal ++ tasks
    activeTaskIds := q.activeTaskIds ∪ (tasks.map taskId).toFinset }
  have hnew : ∀ task ∈ tasks, taskId task ∉ q.activeTaskIds := by
    simpa using hany
  have hids : added.ids.Perm (tasks.map taskId ++ q.ids) := by
    refine ids_perm_of_deques (q := q) added _ ?_ rfl rfl
    simp only [added, List.map_append]
    rw [← List.append_assoc]
    exact List.perm_append_comm.append_right _
  have hwaiting : added.waiting = ↑tasks + q.waiting := by
    rw [waiting, waiting, Multiset.coe_add, Multiset.coe_eq_coe, ← List.append_assoc]
    exact List.perm_append_comm.append_right _
  refine .inr ⟨rfl, hnew, ⟨?_, ?_, ?_, h.reserved_id⟩, hids, hwaiting, rfl, rfl, rfl,
    rfl, rfl⟩
  · rw [hids.nodup_iff, List.nodup_append']
    refine ⟨hnodup, h.nodup, ?_⟩
    intro t ht ht'
    obtain ⟨task, htask, rfl⟩ := List.mem_map.1 ht
    exact hnew task htask ((h.mem_active _).2 ht')
  · intro t
    rw [hids.mem_iff, List.mem_append, ← h.mem_active, or_comm]
    simp
  · have hsize : added.sizeLocked = q.sizeLocked + tasks.length := by
      simp only [added, sizeLocked, List.length_append]
      omega
    rw [hsize]
    exact Nat.le_of_not_lt hfull

theorem dequeueForProcessing_cases (h : q.WellFormed) (hfree : q.processingTaskId = none) :
    (q.dequeueForProcessing = (none, q) ∧ q.waiting = 0) ∨
    (∃ task, q.dequeueForProcessing.1 = some task ∧
      (task ∈ q.normal ∨ task ∈ q.priority) ∧
      q.dequeueForProcessing.2.WellFormed ∧
      q.dequeueForProcessing.2.ids.Perm q.ids ∧
      q.waiting = task ::ₘ q.dequeueForProcessing.2.waiting ∧
      q.dequeueForProcessing.2.reserved = q.reserved ∧
      q.dequeueForProcessing.2.processingTaskId = some (taskId task) ∧
      q.dequeueForProcessing.2.capacity = q.capacity ∧
      ∀ other, (other ∈ q.normal ∨ other ∈ q.priority) → other = task ∨
        other ∈ q.dequeueForProcessing.2.normal ∨
        other ∈ q.dequeueForProcessing.2.priority) := by
  unfold dequeueForProcessing
  cases hpriority : q.priority with
  | cons task rest =>
      have hids : ids { q with priority := rest, processingTaskId := some (taskId task) }
          |>.Perm q.ids := by
        simp only [ids, hpriority, hfree, List.map_cons, Option.toList_some,
          Option.toList_none, List.append_nil]
        refine (List.perm_append_singleton _ _).trans ?_
        rw [List.append_assoc, List.append_assoc, List.cons_append]
        exact List.perm_middle.symm
      refine .inr ⟨task, rfl, by simp, ?_, hids, ?_, rfl, rfl, rfl, ?_⟩
      · refine h.of_perm hids rfl ?_ rfl h.reserved_id
        simp [sizeLocked, hpriority]
      · simp only [waiting, hpriority]
        rw [Multiset.cons_coe, Multiset.coe_eq_coe]
        exact List.perm_middle
      · rintro other (hother | hother)
        · exact .inr (.inl hother)
        · rcases List.mem_cons.1 hother with rfl | hother
          · exact .inl rfl
          · exact .inr (.inr hother)
  | nil =>
      cases hnormal : q.normal with
      | nil =>
          refine .inl ⟨rfl, ?_⟩
          rw [waiting, hnormal, hpriority]
          rfl
      | cons task rest =>
          have hids : ids { q with
              normal := rest, priority := [], processingTaskId := some (taskId task) }
              |>.Perm q.ids := by
            simp only [ids, hnormal, hpriority, hfree, List.map_cons, Option.toList_some,
              Option.toList_none, List.append_nil, List.map_nil, List.cons_append]
            exact List.perm_append_singleton _ _
          refine .inr ⟨task, rfl, by simp, ?_, hids, ?_, rfl, rfl, rfl, ?_⟩
          · refine h.of_perm hids rfl ?_ rfl h.reserved_id
            simp [sizeLocked, hnormal, hpriority]
          · simp only [waiting, hnormal, hpriority]
            rfl
          · rintro other (hother | hother)
            · rcases List.mem_cons.1 hother with rfl | hother
              · exact .inl rfl
              · exact .inr (.inl hother)
            · cases hother

theorem markProcessingDone_spec (h : q.WellFormed) :
    q.markProcessingDone.2.WellFormed ∧
      q.markProcessingDone.2.normal = q.normal ∧
      q.markProcessingDone.2.priority = q.priority ∧
      q.markProcessingDone.2.reserved = q.reserved ∧
      q.markProcessingDone.2.processingTaskId = none ∧
      q.markProcessingDone.2.capacity = q.capacity := by
  refine ⟨?_, rfl, rfl, rfl, rfl, rfl⟩
  cases hprocessing : q.processingTaskId with
  | none =>
      refine h.of_perm ?_ ?_ le_rfl rfl h.reserved_id
      · simp [ids, markProcessingDone, hprocessing]
      · simp [markProcessingDone, hprocessing]
  | some t =>
      have hids : q.ids = q.markProcessingDone.2.ids ++ [t] := by
        simp [ids, markProcessingDone, hprocessing]
      have hnodup := h.nodup
      rw [hids, List.nodup_append'] at hnodup
      have hnot : t ∉ q.markProcessingDone.2.ids := fun ht =>
        hnodup.2.2 ht (List.mem_singleton.2 rfl)
      refine ⟨hnodup.1, ?_, h.size_le, h.reserved_id⟩
      intro u
      have hactive : q.markProcessingDone.2.activeTaskIds = q.activeTaskIds.erase t := by
        simp [markProcessingDone, hprocessing]
      rw [hactive, Finset.mem_erase, h.mem_active, hids, List.mem_append, List.mem_singleton]
      constructor
      · rintro ⟨hne, hu | hu⟩
        · exact hu
        · exact absurd hu hne
      · intro hu
        exact ⟨fun hut => hnot (hut ▸ hu), .inl hu⟩

omit [HasTaskId τ] in
theorem sizeLocked_eq (q : ReadyQueue τ) :
    q.sizeLocked = q.normal.length + q.priority.length + q.reserved.keys.length := rfl

/-- Either no deque has the task, or it moves from its deque to the
reservations. -/
theorem reserveForTransfer_cases [DecidableEq τ] (h : q.WellFormed) (t : TaskId) :
    q.reserveForTransfer t = (none, q) ∨
    (∃ task p, (q.reserveForTransfer t).1 = some task ∧ taskId task = t ∧
      (task ∈ q.normal ∨ task ∈ q.priority) ∧
      (q.reserveForTransfer t).2.WellFormed ∧
      (q.reserveForTransfer t).2.ids.Perm q.ids ∧
      q.waiting = task ::ₘ (q.reserveForTransfer t).2.waiting ∧
      t ∉ q.reserved ∧
      (q.reserveForTransfer t).2.reserved = q.reserved.insert t (task, p) ∧
      (q.reserveForTransfer t).2.processingTaskId = q.processingTaskId ∧
      (q.reserveForTransfer t).2.capacity = q.capacity ∧
      ∀ other, (other ∈ q.normal ∨ other ∈ q.priority) → other = task ∨
        other ∈ (q.reserveForTransfer t).2.normal ∨
        other ∈ (q.reserveForTransfer t).2.priority) := by
  -- what moving one element of either deque to the reservations keeps
  have hmove : ∀ (task : τ) (p : Bool) (normal priority : List τ),
      taskId task = t → (task ∈ q.normal ∨ task ∈ q.priority) →
      (q.normal ++ q.priority).Perm (task :: (normal ++ priority)) →
      let moved : ReadyQueue τ := { q with
        normal := normal, priority := priority
        reserved := q.reserved.insert t (task, p) }
      moved.WellFormed ∧ moved.ids.Perm q.ids ∧ q.waiting = task ::ₘ moved.waiting ∧
        t ∉ q.reserved := by
    intro task p normal priority hid hmem hperm moved
    have hnot : t ∉ q.reserved := hid ▸ h.notMem_reserved hmem
    have hids : moved.ids.Perm q.ids := by
      have hdeques := hperm.map taskId
      simp only [List.map_append, List.map_cons, hid] at hdeques
      simp only [ids, moved, Dict.keys_insert_of_notMem hnot]
      refine List.Perm.append_right _ ?_
      exact List.perm_middle.trans (hdeques.symm.append_right _)
    refine ⟨h.of_perm hids rfl ?_ rfl ?_, hids, ?_, hnot⟩
    · have hlength := hperm.length_eq
      simp only [List.length_append, List.length_cons] at hlength
      simp only [sizeLocked_eq, moved, Dict.keys_insert_of_notMem hnot, List.length_cons]
      omega
    · intro u other b hu
      simp only [moved, Dict.lookup_insert_eq_ite] at hu
      split_ifs at hu with hut
      · cases hu
        rw [hid, hut]
      · exact h.reserved_id u other b hu
    · rw [waiting, waiting, Multiset.cons_coe, Multiset.coe_eq_coe]
      exact hperm
  -- removing the first task with the id takes one element away
  have herase : ∀ (source : List τ) (task : τ), task ∈ source →
      source.Perm (task :: source.erase task) ∧
        ∀ other ∈ source, other = task ∨ other ∈ source.erase task := by
    intro source task hmem
    have hperm := List.perm_cons_erase hmem
    exact ⟨hperm, fun other hother => List.mem_cons.1 (hperm.mem_iff.1 hother)⟩
  unfold reserveForTransfer
  cases hnormal : q.normal.find? (taskId · = t) with
  | some task =>
      have hmem := List.mem_of_find?_eq_some hnormal
      have hid : taskId task = t := by simpa using List.find?_some hnormal
      obtain ⟨hperm, hothers⟩ := herase q.normal task hmem
      obtain ⟨hwf, hids, hwaiting, hnot⟩ := hmove task false (q.normal.erase task)
        q.priority hid (.inl hmem) (hperm.append_right _)
      refine .inr ⟨task, false, rfl, hid, .inl hmem, hwf, hids, hwaiting, hnot, rfl, rfl,
        rfl, ?_⟩
      rintro other (hother | hother)
      · exact (hothers other hother).imp id .inl
      · exact .inr (.inr hother)
  | none =>
      cases hpriority : q.priority.find? (taskId · = t) with
      | none => exact .inl rfl
      | some task =>
          have hmem := List.mem_of_find?_eq_some hpriority
          have hid : taskId task = t := by simpa using List.find?_some hpriority
          obtain ⟨hperm, hothers⟩ := herase q.priority task hmem
          obtain ⟨hwf, hids, hwaiting, hnot⟩ := hmove task true q.normal
            (q.priority.erase task) hid (.inr hmem)
            ((hperm.append_left _).trans List.perm_middle)
          refine .inr ⟨task, true, rfl, hid, .inr hmem, hwf, hids, hwaiting, hnot, rfl, rfl,
            rfl, ?_⟩
          rintro other (hother | hother)
          · exact .inr (.inl hother)
          · exact (hothers other hother).imp id .inr

theorem ids_perm_erase {t : TaskId} {e : τ × Bool} (h : q.reserved.lookup t = some e) :
    q.ids.Perm (t :: ids { q with reserved := q.reserved.erase t }) := by
  obtain ⟨hkeys, _⟩ := Dict.perm_erase h
  simp only [ids]
  refine (List.Perm.append_right _ (hkeys.append_left _)).trans ?_
  refine (List.Perm.append_right _ List.perm_middle).trans ?_
  rw [List.cons_append]

theorem confirmRemoved_cases (h : q.WellFormed) (t : TaskId) :
    ((q.confirmRemoved t).1.accepted = false ∧ q.reserved.lookup t = none ∧
      (q.confirmRemoved t).2 = q) ∨
    (∃ task p, (q.confirmRemoved t).1.accepted = true ∧
      q.reserved.lookup t = some (task, p) ∧
      (q.confirmRemoved t).2.WellFormed ∧
      q.ids.Perm (t :: (q.confirmRemoved t).2.ids) ∧
      (q.confirmRemoved t).2.normal = q.normal ∧
      (q.confirmRemoved t).2.priority = q.priority ∧
      (q.confirmRemoved t).2.reserved = q.reserved.erase t ∧
      (q.confirmRemoved t).2.processingTaskId = q.processingTaskId ∧
      (q.confirmRemoved t).2.capacity = q.capacity) := by
  unfold confirmRemoved
  cases hlookup : q.reserved.lookup t with
  | none => exact .inl ⟨rfl, rfl, rfl⟩
  | some e =>
      obtain ⟨task, p⟩ := e
      have hids := ids_perm_erase hlookup
      have hnodup := hids.nodup_iff.1 h.nodup
      obtain ⟨hnot, hrest⟩ := List.nodup_cons.1 hnodup
      refine .inr ⟨task, p, rfl, rfl, ⟨hrest, ?_, ?_, ?_⟩, hids, rfl, rfl, rfl, rfl, rfl⟩
      · intro u
        have hu := hids.mem_iff (a := u)
        rw [List.mem_cons] at hu
        change u ∈ q.activeTaskIds.erase t ↔ u ∈ ids { q with reserved := q.reserved.erase t }
        rw [Finset.mem_erase, h.mem_active, hu]
        constructor
        · rintro ⟨hne, rfl | hmem⟩
          · exact absurd rfl hne
          · exact hmem
        · intro hmem
          exact ⟨fun hut => hnot (hut ▸ hmem), .inr hmem⟩
      · have hlength := (Dict.perm_erase hlookup).1.length_eq
        have hsize := h.size_le
        rw [sizeLocked_eq] at hsize
        rw [sizeLocked_eq]
        simp only [List.length_cons] at hlength
        change q.normal.length + q.priority.length + (q.reserved.erase t).keys.length ≤
          q.capacity
        omega
      · intro u other b hu
        change (q.reserved.erase t).lookup u = some (other, b) at hu
        rw [Dict.lookup_erase_eq_ite] at hu
        split_ifs at hu
        exact h.reserved_id u other b hu

/-- Either the id is not reserved and nothing changes, or the reserved task is
back at the head of its deque. -/
theorem releaseReservation_cases (h : q.WellFormed) (t : TaskId) :
    ((q.releaseReservation t).1.accepted = false ∧ q.reserved.lookup t = none ∧
      (q.releaseReservation t).2 = q) ∨
    (∃ task p, (q.releaseReservation t).1.accepted = true ∧
      q.reserved.lookup t = some (task, p) ∧
      (q.releaseReservation t).2.WellFormed ∧
      (q.releaseReservation t).2.ids.Perm q.ids ∧
      (q.releaseReservation t).2.waiting = task ::ₘ q.waiting ∧
      (q.releaseReservation t).2.normal = (if p then q.normal else task :: q.normal) ∧
      (q.releaseReservation t).2.priority = (if p then task :: q.priority else q.priority) ∧
      (q.releaseReservation t).2.reserved = q.reserved.erase t ∧
      (q.releaseReservation t).2.processingTaskId = q.processingTaskId ∧
      (q.releaseReservation t).2.capacity = q.capacity) := by
  unfold releaseReservation
  cases hlookup : q.reserved.lookup t with
  | none => exact .inl ⟨rfl, rfl, rfl⟩
  | some e =>
      obtain ⟨task, p⟩ := e
      have hid := h.reserved_id t task p hlookup
      let released : ReadyQueue τ := { q with
        reserved := q.reserved.erase t
        normal := if p then q.normal else task :: q.normal
        priority := if p then task :: q.priority else q.priority }
      have hids : released.ids.Perm q.ids := by
        refine List.Perm.trans ?_ (ids_perm_erase hlookup).symm
        refine ids_perm_of_deques (q := { q with reserved := q.reserved.erase t }) released
          [t] ?_ rfl rfl
        cases p with
        | true =>
            simp only [released, if_true, List.map_cons, hid]
            exact List.perm_middle
        | false => simp [released, hid]
      have hwaiting : released.waiting = task ::ₘ q.waiting := by
        rw [waiting, waiting, Multiset.cons_coe, Multiset.coe_eq_coe]
        cases p with
        | true => exact List.perm_middle
        | false => exact List.Perm.refl _
      refine .inr ⟨task, p, rfl, rfl, h.of_perm hids rfl ?_ rfl ?_, hids, hwaiting, rfl, rfl,
        rfl, rfl, rfl⟩
      · have hlength := (Dict.perm_erase hlookup).1.length_eq
        simp only [List.length_cons] at hlength
        have hsize : released.sizeLocked =
            q.normal.length + q.priority.length + (q.reserved.erase t).keys.length + 1 := by
          rw [sizeLocked_eq]
          cases p <;> simp only [released, if_true, Bool.false_eq_true, if_false,
            List.length_cons] <;> omega
        change released.sizeLocked ≤ q.sizeLocked
        rw [hsize, sizeLocked_eq]
        omega
      · intro u other b hu
        change (q.reserved.erase t).lookup u = some (other, b) at hu
        rw [Dict.lookup_erase_eq_ite] at hu
        split_ifs at hu
        exact h.reserved_id u other b hu

end Specifications

/-! ### Runs -/

/-- `x` is in a deque, reserved, or being processed. -/
def Holds (q : ReadyQueue τ) (x : τ) : Prop :=
  x ∈ q.normal ∨ x ∈ q.priority ∨ (∃ p, q.reserved.lookup (taskId x) = some (x, p)) ∨
    q.processingTaskId = some (taskId x)

/-- `x` is in one of the places, and its id is in no other. -/
def HoldsOnce (q : ReadyQueue τ) (x : τ) : Prop :=
  q.Holds x ∧ q.ids.count (taskId x) = 1

/-- The call accepts `x` into the queue. -/
def Accepts (q : ReadyQueue τ) (x : τ) : Call τ → Prop
  | .tryEnqueue task priority =>
      task = x ∧ (q.tryEnqueue task priority).1.accepted = true
  | .tryEnqueueMany tasks => x ∈ tasks ∧ (q.tryEnqueueMany tasks).1.accepted = true
  | _ => False

/-- The call ends the stay of `x`: its processing is done, or its removal is
confirmed. -/
def Finishes (x : τ) (q : ReadyQueue τ) : Call τ → Prop
  | .markProcessingDone => q.processingTaskId = some (taskId x)
  | .confirmRemoved t => t = taskId x ∧ t ∈ q.reserved
  | _ => False

/-- The call reports a refusal. -/
def Refuses [DecidableEq τ] (q : ReadyQueue τ) (call : Call τ) : Prop :=
  ∃ result, (q.perform call).1 = .change result ∧ result.accepted = false

theorem mem_ids_of_holds {q : ReadyQueue τ} {x : τ} (h : q.Holds x) :
    taskId x ∈ q.ids := by
  rcases h with h | h | ⟨p, h⟩ | h
  · simp [ids, List.mem_map_of_mem h]
  · simp [ids, List.mem_map_of_mem h]
  · exact WellFormed.mem_ids_of_reserved h
  · simp [ids, h]

theorem WellFormed.holdsOnce {q : ReadyQueue τ} (h : q.WellFormed) {x : τ}
    (hx : q.Holds x) : q.HoldsOnce x :=
  ⟨hx, List.count_eq_one_of_mem h.nodup (mem_ids_of_holds hx)⟩

theorem Holds.mono {q q' : ReadyQueue τ} {x : τ} (hx : q.Holds x)
    (hdeques : ∀ other, (other ∈ q.normal ∨ other ∈ q.priority) →
      other ∈ q'.normal ∨ other ∈ q'.priority)
    (hreserved : q'.reserved = q.reserved)
    (hprocessing : q'.processingTaskId = q.processingTaskId) : q'.Holds x := by
  rcases hx with hx | hx | ⟨p, hx⟩ | hx
  · rcases hdeques x (.inl hx) with hx | hx
    · exact .inl hx
    · exact .inr (.inl hx)
  · rcases hdeques x (.inr hx) with hx | hx
    · exact .inl hx
    · exact .inr (.inl hx)
  · exact .inr (.inr (.inl ⟨p, by rw [hreserved, hx]⟩))
  · exact .inr (.inr (.inr (by rw [hprocessing, hx])))

omit [HasTaskId τ] in
theorem mem_waiting {q : ReadyQueue τ} {x : τ} :
    x ∈ q.waiting ↔ x ∈ q.normal ∨ x ∈ q.priority := by
  rw [waiting, Multiset.mem_coe, List.mem_append]

section Runs

variable [DecidableEq τ] {q q' : ReadyQueue τ} {call : Call τ} {x : τ}

theorem wellFormed_step (h : q.WellFormed) (hstep : q.step call = some q') :
    q'.WellFormed := by
  cases call with
  | tryEnqueue task priority =>
      cases hstep
      obtain ⟨_, hq, _⟩ | ⟨_, _, hwf, _⟩ := tryEnqueue_cases h task priority
      · change (q.tryEnqueue task priority).2.WellFormed
        rw [hq]
        exact h
      · exact hwf
  | tryEnqueueMany tasks =>
      cases hstep
      obtain ⟨_, hq⟩ | ⟨_, _, hwf, _⟩ := tryEnqueueMany_cases h tasks
      · change (q.tryEnqueueMany tasks).2.WellFormed
        rw [hq]
        exact h
      · exact hwf
  | dequeueForProcessing =>
      rw [step] at hstep
      split_ifs at hstep with hfree
      cases hstep
      obtain ⟨hq, _⟩ | ⟨task, _, _, hwf, _⟩ := dequeueForProcessing_cases h hfree
      · rw [hq]
        exact h
      · exact hwf
  | markProcessingDone =>
      cases hstep
      exact (markProcessingDone_spec h).1
  | peekTransferCandidates count =>
      cases hstep
      exact h
  | reserveForTransfer t =>
      cases hstep
      obtain hq | ⟨task, p, _, _, _, hwf, _⟩ := reserveForTransfer_cases h t
      · simp only [perform, hq]
        exact h
      · exact hwf
  | confirmRemoved t =>
      cases hstep
      obtain ⟨_, _, hq⟩ | ⟨task, p, _, _, hwf, _⟩ := confirmRemoved_cases h t
      · change (q.confirmRemoved t).2.WellFormed
        rw [hq]
        exact h
      · exact hwf
  | releaseReservation t =>
      cases hstep
      obtain ⟨_, _, hq⟩ | ⟨task, p, _, _, hwf, _⟩ := releaseReservation_cases h t
      · change (q.releaseReservation t).2.WellFormed
        rw [hq]
        exact h
      · exact hwf

theorem wellFormed_run (h : q.WellFormed) {calls : List (Call τ)}
    (hrun : Transition.run step q calls = some q') : q'.WellFormed :=
  Transition.invariant_run (fun _ _ _ hq hstep => wellFormed_step hq hstep) h hrun

theorem capacity_step (h : q.WellFormed) (hstep : q.step call = some q') :
    q'.capacity = q.capacity := by
  cases call with
  | tryEnqueue task priority =>
      cases hstep
      obtain ⟨_, hq, _⟩ | ⟨_, _, _, _, _, _, _, hcapacity⟩ := tryEnqueue_cases h task priority
      · exact congrArg capacity hq
      · exact hcapacity
  | tryEnqueueMany tasks =>
      cases hstep
      obtain ⟨_, hq⟩ | ⟨_, _, _, _, _, _, _, _, _, hcapacity⟩ := tryEnqueueMany_cases h tasks
      · exact congrArg capacity hq
      · exact hcapacity
  | dequeueForProcessing =>
      rw [step] at hstep
      split_ifs at hstep with hfree
      cases hstep
      obtain ⟨hq, _⟩ | ⟨task, _, _, _, _, _, _, _, hcapacity, _⟩ :=
        dequeueForProcessing_cases h hfree
      · rw [hq]
      · exact hcapacity
  | markProcessingDone =>
      cases hstep
      rfl
  | peekTransferCandidates count =>
      cases hstep
      rfl
  | reserveForTransfer t =>
      cases hstep
      obtain hq | ⟨task, p, _, _, _, _, _, _, _, _, _, hcapacity, _⟩ :=
        reserveForTransfer_cases h t
      · simp only [perform, hq]
        rfl
      · exact hcapacity
  | confirmRemoved t =>
      cases hstep
      obtain ⟨_, _, hq⟩ | ⟨task, p, _, _, _, _, _, _, _, _, hcapacity⟩ :=
        confirmRemoved_cases h t
      · exact congrArg capacity hq
      · exact hcapacity
  | releaseReservation t =>
      cases hstep
      obtain ⟨_, _, hq⟩ | ⟨task, p, _, _, _, _, _, _, _, _, _, hcapacity⟩ :=
        releaseReservation_cases h t
      · exact congrArg capacity hq
      · exact hcapacity

theorem holds_of_accepts (h : q.WellFormed) (haccepts : q.Accepts x call)
    (hstep : q.step call = some q') : q'.Holds x := by
  cases call with
  | tryEnqueue task priority =>
      obtain ⟨rfl, haccepted⟩ := haccepts
      cases hstep
      obtain ⟨hno, _⟩ | ⟨_, _, _, _, hwaiting, _⟩ := tryEnqueue_cases h task priority
      · rw [hno] at haccepted
        cases haccepted
      · have hmem : task ∈ (q.tryEnqueue task priority).2.waiting := by
          rw [hwaiting]
          exact Multiset.mem_cons_self task _
        exact (mem_waiting.1 hmem).elim .inl fun hpriority => .inr (.inl hpriority)
  | tryEnqueueMany tasks =>
      obtain ⟨hx, haccepted⟩ := haccepts
      cases hstep
      obtain ⟨hno, _⟩ | ⟨_, _, _, _, _, hnormal, _⟩ := tryEnqueueMany_cases h tasks
      · rw [hno] at haccepted
        cases haccepted
      · refine .inl ?_
        change x ∈ (q.tryEnqueueMany tasks).2.normal
        rw [hnormal]
        exact List.mem_append_right _ hx
  | dequeueForProcessing => exact haccepts.elim
  | markProcessingDone => exact haccepts.elim
  | peekTransferCandidates count => exact haccepts.elim
  | reserveForTransfer t => exact haccepts.elim
  | confirmRemoved t => exact haccepts.elim
  | releaseReservation t => exact haccepts.elim

omit [DecidableEq τ] in
theorem Holds.dequeueForProcessing (hx : q.Holds x) (h : q.WellFormed)
    (hfree : q.processingTaskId = none) : q.dequeueForProcessing.2.Holds x := by
  obtain ⟨hq, _⟩ | ⟨task, _, _, _, _, _, hreserved, hprocessing, _, hothers⟩ :=
    dequeueForProcessing_cases h hfree
  · rw [hq]
    exact hx
  · have hdeque : x ∈ q.normal ∨ x ∈ q.priority → q.dequeueForProcessing.2.Holds x := by
      intro hdeque
      obtain rfl | hdeque | hdeque := hothers x hdeque
      · exact .inr (.inr (.inr hprocessing))
      · exact .inl hdeque
      · exact .inr (.inl hdeque)
    rcases hx with hx | hx | ⟨p, hx⟩ | hx
    · exact hdeque (.inl hx)
    · exact hdeque (.inr hx)
    · exact .inr (.inr (.inl ⟨p, by rw [hreserved, hx]⟩))
    · rw [hfree] at hx
      cases hx

theorem Holds.reserveForTransfer (hx : q.Holds x) (h : q.WellFormed) (t : TaskId) :
    (q.reserveForTransfer t).2.Holds x := by
  obtain hq | ⟨task, p, _, hid, _, _, _, _, hfresh, hreserved, hprocessing, _, hothers⟩ :=
    reserveForTransfer_cases h t
  · rw [hq]
    exact hx
  · have hdeque : x ∈ q.normal ∨ x ∈ q.priority → (q.reserveForTransfer t).2.Holds x := by
      intro hdeque
      obtain rfl | hdeque | hdeque := hothers x hdeque
      · refine .inr (.inr (.inl ⟨p, ?_⟩))
        rw [hreserved, hid, AList.lookup_insert]
      · exact .inl hdeque
      · exact .inr (.inl hdeque)
    rcases hx with hx | hx | ⟨b, hx⟩ | hx
    · exact hdeque (.inl hx)
    · exact hdeque (.inr hx)
    · refine .inr (.inr (.inl ⟨b, ?_⟩))
      have hne : taskId x ≠ t := by
        rintro rfl
        exact hfresh (AList.lookup_isSome.1 (by rw [hx]; rfl))
      rw [hreserved, AList.lookup_insert_ne hne, hx]
    · exact .inr (.inr (.inr (hprocessing.trans hx)))

omit [DecidableEq τ] in
theorem Holds.confirmRemoved (hx : q.Holds x) (h : q.WellFormed) {t : TaskId}
    (hother : ¬ (t = taskId x ∧ t ∈ q.reserved)) : (q.confirmRemoved t).2.Holds x := by
  obtain ⟨_, _, hq⟩ | ⟨task, p, _, hlookup, _, _, hnormal, hpriority, hreserved,
    hprocessing, _⟩ := confirmRemoved_cases h t
  · rw [hq]
    exact hx
  · rcases hx with hx | hx | ⟨b, hx⟩ | hx
    · exact .inl (hnormal ▸ hx)
    · exact .inr (.inl (hpriority ▸ hx))
    · refine .inr (.inr (.inl ⟨b, ?_⟩))
      have hne : taskId x ≠ t := fun heq =>
        hother ⟨heq.symm, AList.lookup_isSome.1 (by rw [hlookup]; rfl)⟩
      rw [hreserved, AList.lookup_erase_ne hne, hx]
    · exact .inr (.inr (.inr (hprocessing.trans hx)))

omit [DecidableEq τ] in
theorem Holds.releaseReservation (hx : q.Holds x) (h : q.WellFormed) (t : TaskId) :
    (q.releaseReservation t).2.Holds x := by
  obtain ⟨_, _, hq⟩ | ⟨task, p, _, hlookup, _, _, hwaiting, _, _, hreserved,
    hprocessing, _⟩ := releaseReservation_cases h t
  · rw [hq]
    exact hx
  · have hdeque : ∀ other, other = task ∨ other ∈ q.waiting →
        (q.releaseReservation t).2.Holds other := by
      intro other hother
      have hmem : other ∈ (q.releaseReservation t).2.waiting := by
        rw [hwaiting, Multiset.mem_cons]
        exact hother
      exact (mem_waiting.1 hmem).elim .inl fun hpriority => .inr (.inl hpriority)
    rcases hx with hx | hx | ⟨b, hx⟩ | hx
    · exact hdeque x (.inr (mem_waiting.2 (.inl hx)))
    · exact hdeque x (.inr (mem_waiting.2 (.inr hx)))
    · by_cases heq : taskId x = t
      · rw [heq, hlookup] at hx
        cases hx
        exact hdeque x (.inl rfl)
      · refine .inr (.inr (.inl ⟨b, ?_⟩))
        rw [hreserved, AList.lookup_erase_ne heq, hx]
    · exact .inr (.inr (.inr (hprocessing.trans hx)))

/-- A held task stays held until a call finishes it. -/
theorem holds_step (h : q.WellFormed) (hx : q.Holds x) (hnot : ¬ Finishes x q call)
    (hstep : q.step call = some q') : q'.Holds x := by
  cases call with
  | tryEnqueue task priority =>
      cases hstep
      obtain ⟨_, hq, _⟩ | ⟨_, _, _, _, hwaiting, hreserved, hprocessing, _⟩ :=
        tryEnqueue_cases h task priority
      · change (q.tryEnqueue task priority).2.Holds x
        rw [hq]
        exact hx
      · refine hx.mono (fun other hother => ?_) hreserved hprocessing
        rw [← mem_waiting]
        change other ∈ (q.tryEnqueue task priority).2.waiting
        rw [hwaiting]
        exact Multiset.mem_cons_of_mem (mem_waiting.2 hother)
  | tryEnqueueMany tasks =>
      cases hstep
      obtain ⟨_, hq⟩ | ⟨_, _, _, _, hwaiting, _, _, hreserved, hprocessing, _⟩ :=
        tryEnqueueMany_cases h tasks
      · change (q.tryEnqueueMany tasks).2.Holds x
        rw [hq]
        exact hx
      · refine hx.mono (fun other hother => ?_) hreserved hprocessing
        rw [← mem_waiting]
        change other ∈ (q.tryEnqueueMany tasks).2.waiting
        rw [hwaiting, Multiset.mem_add]
        exact .inr (mem_waiting.2 hother)
  | dequeueForProcessing =>
      rw [step] at hstep
      split_ifs at hstep with hfree
      cases hstep
      exact hx.dequeueForProcessing h hfree
  | markProcessingDone =>
      cases hstep
      rcases hx with hx | hx | hx | hx
      · exact .inl hx
      · exact .inr (.inl hx)
      · exact .inr (.inr (.inl hx))
      · exact absurd hx hnot
  | peekTransferCandidates count =>
      cases hstep
      exact hx
  | reserveForTransfer t =>
      cases hstep
      exact hx.reserveForTransfer h t
  | confirmRemoved t =>
      cases hstep
      exact hx.confirmRemoved h hnot
  | releaseReservation t =>
      cases hstep
      exact hx.releaseReservation h t

theorem holds_run (h : q.WellFormed) (hx : q.Holds x) {calls : List (Call τ)}
    (halong : Transition.Along step (fun q call => ¬ Finishes x q call) q calls)
    (hrun : Transition.run step q calls = some q') : q'.Holds x := by
  have hinv : q'.WellFormed ∧ q'.Holds x := by
    refine Transition.invariant_along (I := fun q : ReadyQueue τ => q.WellFormed ∧ q.Holds x)
      (fun q call q' hq hnot hstep => ?_) ⟨h, hx⟩ halong hrun
    exact ⟨wellFormed_step hq.1 hstep, holds_step hq.1 hq.2 hnot hstep⟩
  exact hinv.2

theorem perform_of_refuses (h : q.WellFormed) (hrefuses : q.Refuses call) :
    (q.perform call).2 = q := by
  obtain ⟨result, hresult, haccepted⟩ := hrefuses
  cases call with
  | tryEnqueue task priority =>
      have hsame : (q.tryEnqueue task priority).1 = result := Outcome.change.inj hresult
      obtain ⟨_, hq, _⟩ | ⟨hyes, _⟩ := tryEnqueue_cases h task priority
      · exact hq
      · rw [← hsame, hyes] at haccepted
        cases haccepted
  | tryEnqueueMany tasks =>
      have hsame : (q.tryEnqueueMany tasks).1 = result := Outcome.change.inj hresult
      obtain ⟨_, hq⟩ | ⟨hyes, _⟩ := tryEnqueueMany_cases h tasks
      · exact hq
      · rw [← hsame, hyes] at haccepted
        cases haccepted
  | dequeueForProcessing => cases hresult
  | markProcessingDone =>
      cases hresult
      cases haccepted
  | peekTransferCandidates count => cases hresult
  | reserveForTransfer t => cases hresult
  | confirmRemoved t =>
      have hsame : (q.confirmRemoved t).1 = result := Outcome.change.inj hresult
      obtain ⟨_, _, hq⟩ | ⟨_, _, hyes, _⟩ := confirmRemoved_cases h t
      · exact hq
      · rw [← hsame, hyes] at haccepted
        cases haccepted
  | releaseReservation t =>
      have hsame : (q.releaseReservation t).1 = result := Outcome.change.inj hresult
      obtain ⟨_, _, hq⟩ | ⟨_, _, hyes, _⟩ := releaseReservation_cases h t
      · exact hq
      · rw [← hsame, hyes] at haccepted
        cases haccepted

/-- **Representation invariant.** After any disciplined sequence of calls the
places are disjoint, the active ids are their union and the capacity is kept; an
accepted task stays in one place until it is finished; a refusal changes
nothing. -/
theorem representation_invariant {capacity : ℤ} {q₀ : ReadyQueue τ}
    {calls : List (Call τ)} (hinit : init capacity = .ok q₀)
    (hrun : Transition.run step q₀ calls = some q) :
    (q.ids.Nodup ∧ (∀ t, t ∈ q.activeTaskIds ↔ t ∈ q.ids) ∧
      (q.sizeLocked : ℤ) ≤ capacity) ∧
    (∀ x call q₁ more q', q.Accepts x call → q.step call = some q₁ →
      Transition.Along step (fun q call => ¬ Finishes x q call) q₁ more →
      Transition.run step q₁ more = some q' → q'.HoldsOnce x) ∧
    (∀ call, q.Refuses call → (q.perform call).2 = q) := by
  obtain ⟨h₀, hcapacity₀, _⟩ := wellFormed_init hinit
  have h := wellFormed_run h₀ hrun
  have hcapacity : q.capacity = q₀.capacity := by
    refine Transition.relation_run
      (R := fun (q q' : ReadyQueue τ) => q'.capacity = q.capacity)
      (fun _ => rfl) (fun _ _ _ h₁ h₂ => h₂.trans h₁)
      (fun _ _ _ hq hstep => wellFormed_step hq hstep)
      (fun _ _ _ hq hstep => capacity_step hq hstep) h₀ hrun
  refine ⟨⟨h.nodup, h.mem_active, ?_⟩, ?_, fun call => perform_of_refuses h⟩
  · rw [← hcapacity₀, ← hcapacity]
    exact_mod_cast h.size_le
  · intro x call q₁ more q' haccepts hstep halong hmore
    have h₁ := wellFormed_step h hstep
    exact (wellFormed_run h₁ hmore).holdsOnce
      (holds_run h₁ (holds_of_accepts h haccepts hstep) halong hmore)

end Runs

/-- A queue of capacity two that refuses a third task, also when one of its tasks
is reserved. -/
theorem representation_invariant_two :
    ∃ q₀ q : ReadyQueue Task, init 2 = .ok q₀ ∧
      Transition.run step q₀
        [.tryEnqueue { taskId := "a", key := "0000", value := 1 } false,
          .tryEnqueue { taskId := "b", key := "0001", value := 1 } true,
          .reserveForTransfer "a",
          .tryEnqueue { taskId := "c", key := "0002", value := 1 } false] = some q ∧
      q.ids.Nodup := by
  obtain ⟨q₀, hinit⟩ : ∃ q₀ : ReadyQueue Task, init 2 = .ok q₀ := ⟨_, rfl⟩
  obtain ⟨q, hrun⟩ : ∃ q, Transition.run step q₀
      [.tryEnqueue { taskId := "a", key := "0000", value := 1 } false,
        .tryEnqueue { taskId := "b", key := "0001", value := 1 } true,
        .reserveForTransfer "a",
        .tryEnqueue { taskId := "c", key := "0002", value := 1 } false] = some q := ⟨_, rfl⟩
  exact ⟨q₀, q, hinit, hrun, (representation_invariant hinit hrun).1.1⟩

end ReadyQueue

end KVStore
