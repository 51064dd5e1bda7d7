import KVStore.Master.Partition

/-!
# What happens to the record of a task

A record keeps its id, key and value. Only an assignment changes to whom a task is
assigned and when it was enqueued. So every record in every reachable state passes
the checks of its constructor, and a worker never refuses a `TASK` message.
-/

namespace KVStore

/-- The constructor accepts the record and keeps it as it is. -/
def Task.Valid (task : Task) : Prop := task.postInit = .ok task

/-- A record that was changed without touching its contents. -/
structure Revised (task task' : Task) : Prop where
  taskId : task'.taskId = task.taskId
  key : task'.key = task.key
  value : task'.value = task.value
  attempt : task.attempt ≤ task'.attempt

theorem Revised.refl (task : Task) : Revised task task := ⟨rfl, rfl, rfl, le_rfl⟩

theorem Revised.valid {task task' : Task} (h : Revised task task') (hvalid : task.Valid)
    (htime : 0 ≤ task'.enqueuedAt) : task'.Valid := by
  unfold Task.Valid Task.postInit at hvalid ⊢
  simp only at hvalid ⊢
  split_ifs at hvalid with hid hkey hvalue hattempt hbefore
  have hlower : Task.lower task.key = task.key := congrArg Task.key (Except.ok.inj hvalid)
  rw [h.taskId, h.key, h.value, if_neg hid, if_neg hkey, if_neg (not_not.2 hvalue),
    if_neg (not_lt.2 ((not_lt.1 hattempt).trans h.attempt)), if_neg (not_lt.2 htime), hlower]
  rw [← h.key, ← h.taskId, ← h.value]

theorem Task.Valid.enqueuedAt_nonneg {task : Task} (h : task.Valid) :
    0 ≤ task.enqueuedAt := by
  unfold Task.Valid Task.postInit at h
  simp only at h
  split_ifs at h with _ _ _ _ htime
  exact not_lt.1 htime

namespace Master

variable {m m' : Master} {a : Action} {t : TaskId} {task' : Task}

/-- What a locked section does to one record. -/
theorem Effect.revised (hm : Consistent m) (heff : Effect m a m')
    (h : m'.tasks.lookup t = some task') :
    ∃ task, m.tasks.lookup t = some task ∧ Revised task task' ∧
      ((task'.assignmentWorkerId = task.assignmentWorkerId ∧
        task'.enqueuedAt = task.enqueuedAt) ∨
      ∃ now w, a = .nextAssignment now ∧ task' = sentTo w now task) := by
  have hsame : m.tasks.lookup t = some task' →
      ∃ task, m.tasks.lookup t = some task ∧ Revised task task' ∧
        ((task'.assignmentWorkerId = task.assignmentWorkerId ∧
          task'.enqueuedAt = task.enqueuedAt) ∨
        ∃ now w, a = .nextAssignment now ∧ task' = sentTo w now task) :=
    fun hold => ⟨task', hold, .refl task', .inl ⟨rfl, rfl⟩⟩
  cases heff with
  | same _ _ hwork =>
      rw [hwork.tasks] at h
      exact hsame h
  | assigned now u p task c _ hhead htask _ hassigned =>
      have hid : (sentTo c.workerId now task).taskId = u := hm.task_id u task htask
      rw [hassigned.tasks, hid] at h
      by_cases htu : t = u
      · subst htu
        rw [AList.lookup_insert] at h
        cases h
        exact ⟨task, htask, ⟨rfl, rfl, rfl, le_rfl⟩, .inr ⟨now, c.workerId, rfl, rfl⟩⟩
      · rw [AList.lookup_insert_ne htu] at h
        exact hsame h
  | finished w payload task _ _ _ hfin =>
      rw [hfin.tasks] at h
      exact hsame h
  | failed w payload task _ _ _ hreq _ =>
      rw [hreq.tasks] at h
      by_cases htu : t = payload.taskId
      · subst htu
        rw [AList.lookup_insert] at h
        cases h
        obtain ⟨old, hold, hattempt, heq⟩ := hreq.record
        refine ⟨old, hold, ?_, .inl ?_⟩
        · rw [heq]
          exact ⟨rfl, rfl, rfl, hattempt⟩
        · rw [heq]
          exact ⟨rfl, rfl⟩
      · rw [AList.lookup_insert_ne htu] at h
        exact hsame h
  | disconnected w order _ _ hdisc =>
      rw [hdisc.tasks] at h
      split_ifs at h
      · obtain ⟨task, htask, rfl⟩ := Option.map_eq_some_iff.1 h
        exact ⟨task, htask, ⟨rfl, rfl, rfl, le_rfl⟩, .inl ⟨rfl, rfl⟩⟩
      · exact hsame h

theorem Effect.assigned_of_assigned (heff : Effect m a m')
    (ha : ∀ now, a ≠ .nextAssignment now) {w : WorkerId}
    (h : m'.place t = some (.assigned w)) : m.place t = some (.assigned w) := by
  have hupdate : ∀ u (p : Place WorkerId), (∀ v, p ≠ .assigned v) →
      Function.update m.place u (some p) t = some (.assigned w) →
      m.place t = some (.assigned w) := by
    intro u p hp hu
    by_cases htu : t = u
    · subst htu
      rw [Function.update_self] at hu
      exact absurd (Option.some.inj hu) (hp w)
    · rwa [Function.update_of_ne htu] at hu
  cases heff with
  | same _ _ hwork => rwa [hwork.place] at h
  | assigned now u p task c _ _ _ _ _ => exact absurd rfl (ha now)
  | finished v payload task _ _ _ hfin =>
      rw [hfin.place] at h
      exact hupdate _ _ (by simp) h
  | failed v payload task _ _ _ hreq _ =>
      rw [hreq.place] at h
      exact hupdate _ _ (by simp) h
  | disconnected v order _ _ hdisc =>
      rw [hdisc.place, Ledger.release] at h
      split_ifs at h
      · cases h
      · exact h

/-- Every record is kept, and with it to whom the task was assigned last. -/
theorem Effect.record (hm : Consistent m) (heff : Effect m a m')
    (ha : ∀ now, a ≠ .nextAssignment now) {task : Task}
    (h : m.tasks.lookup t = some task) :
    ∃ task', m'.tasks.lookup t = some task' ∧
      task'.assignmentWorkerId = task.assignmentWorkerId := by
  have hcontents : m'.contents t = some (task.key, task.value) := by
    rw [heff.contents, Master.contents, h]
    rfl
  obtain ⟨task', htask', _⟩ := Option.map_eq_some_iff.1 hcontents
  obtain ⟨old, hold, _, ⟨hassignment, _⟩ | ⟨now, w, rfl, _⟩⟩ := heff.revised hm htask'
  · rw [h] at hold
    cases hold
    exact ⟨task', htask', hassignment⟩
  · exact absurd rfl (ha now)

/-- What the other parties rely on: the Master is consistent, its workers are among
`ws`, and its records are valid. -/
structure Governed (ws : List WorkerId) (m : Master) : Prop where
  consistent : Consistent m
  worker : ∀ w, (m.connection w).isSome → w ∈ ws ∧ w ≠ ""
  valid : ∀ t task, m.tasks.lookup t = some task → task.Valid

theorem Governed.step {ws : List WorkerId} (h : Governed ws m)
    (htime : ∀ now, a = .nextAssignment now → 0 ≤ now) (hstep : step m a = some m') :
    Governed ws m' := by
  obtain ⟨hcons, heff⟩ := step_effect h.consistent hstep
  refine ⟨hcons, ?_, ?_⟩
  · intro w hw
    exact h.worker w (heff.known w ▸ hw)
  · intro t task' htask'
    obtain ⟨task, htask, hrevised, ⟨_, henqueued⟩ | ⟨now, w, rfl, rfl⟩⟩ :=
      heff.revised h.consistent htask'
    · have hvalid := h.valid t task htask
      exact hrevised.valid hvalid (henqueued ▸ hvalid.enqueuedAt_nonneg)
    · exact hrevised.valid (h.valid t task htask) (htime now rfl)

theorem Started.governed {count : ℕ} {rng : RandomSource} {ws : List WorkerId}
    (h : Started count rng ws m) : Governed ws m := by
  refine ⟨h.consistent, ?_, ?_⟩
  · intro w hw
    rw [connection, Option.isSome_map, Option.isSome_iff_exists] at hw
    obtain ⟨c, hc⟩ := hw
    exact ⟨(h.registered w).1 (AList.lookup_isSome.1 (by rw [hc]; rfl)),
      (h.fresh w c hc).workerId_ne⟩
  · intro t task htask
    exact postInit_of_mem_generated ((h.tasks t task).1 htask).1

end Master

end KVStore
