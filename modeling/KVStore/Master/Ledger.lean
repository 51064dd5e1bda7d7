import KVStore.Library.Ledger
import KVStore.Master.Runtime

/-!
# The Master refines a work ledger

`place` reads the ledger off the task records and their states. The deque, the
heap and the sets of assigned ids repeat the same information; `QueuesMatch` and
`HoldersMatch` say that they repeat it exactly, with no stale and no duplicate
entry. Both are stated for an arbitrary ledger, so that one locked section is
checked by naming the change it makes to the ledger.
-/

namespace KVStore

/-- The deque and the heap list exactly the waiting tasks. -/
structure QueuesMatch (L : Ledger TaskId WorkerId) (normal : List TaskId)
    (retry : List TaskId) : Prop where
  normal_nodup : normal.Nodup
  mem_normal : ∀ t, t ∈ normal ↔ L t = some .pending
  retry_nodup : retry.Nodup
  mem_retry : ∀ t, t ∈ retry ↔ L t = some .retry

/-- The sets of assigned ids list exactly the assigned tasks, each at its holder,
and the holder is connected. -/
structure HoldersMatch (L : Ledger TaskId WorkerId)
    (workers : Dict WorkerId WorkerConnection) : Prop where
  mem_assigned : ∀ w c, workers.lookup w = some c →
    ∀ t, t ∈ c.assignedTaskIds ↔ L t = some (.assigned w)
  holder : ∀ t w, L t = some (.assigned w) →
    ∃ c, workers.lookup w = some c ∧ c.connected = true

namespace QueuesMatch

variable {L : Ledger TaskId WorkerId} {normal retry : List TaskId} {t : TaskId}

theorem assign_retry (h : QueuesMatch L normal (t :: retry)) (w : WorkerId) :
    QueuesMatch (Function.update L t (some (.assigned w))) normal retry := by
  have ht : L t = some .retry := (h.mem_retry t).1 (by simp)
  have hnot : t ∉ retry := (List.nodup_cons.1 h.retry_nodup).1
  refine ⟨h.normal_nodup, ?_, (List.nodup_cons.1 h.retry_nodup).2, ?_⟩
  · intro u
    by_cases hu : u = t
    · subst hu
      simp [h.mem_normal, ht]
    · rw [Function.update_of_ne hu, h.mem_normal]
  · intro u
    by_cases hu : u = t
    · subst hu
      simp [hnot]
    · rw [Function.update_of_ne hu, ← h.mem_retry]
      simp [hu]

theorem assign_normal (h : QueuesMatch L (t :: normal) retry) (w : WorkerId) :
    QueuesMatch (Function.update L t (some (.assigned w))) normal retry := by
  have ht : L t = some .pending := (h.mem_normal t).1 (by simp)
  have hnot : t ∉ normal := (List.nodup_cons.1 h.normal_nodup).1
  refine ⟨(List.nodup_cons.1 h.normal_nodup).2, ?_, h.retry_nodup, ?_⟩
  · intro u
    by_cases hu : u = t
    · subst hu
      simp [hnot]
    · rw [Function.update_of_ne hu, ← h.mem_normal]
      simp [hu]
  · intro u
    by_cases hu : u = t
    · subst hu
      simp [h.mem_retry, ht]
    · rw [Function.update_of_ne hu, h.mem_retry]

theorem finish (h : QueuesMatch L normal retry) {w : WorkerId}
    (ht : L t = some (.assigned w)) :
    QueuesMatch (Function.update L t (some .done)) normal retry := by
  refine ⟨h.normal_nodup, ?_, h.retry_nodup, ?_⟩
  · intro u
    by_cases hu : u = t
    · subst hu
      simp [h.mem_normal, ht]
    · rw [Function.update_of_ne hu, h.mem_normal]
  · intro u
    by_cases hu : u = t
    · subst hu
      simp [h.mem_retry, ht]
    · rw [Function.update_of_ne hu, h.mem_retry]

theorem requeue (h : QueuesMatch L normal retry) {w : WorkerId}
    (ht : L t = some (.assigned w)) :
    QueuesMatch (Function.update L t (some .retry)) normal (retry ++ [t]) := by
  have hnot : t ∉ retry := by
    rw [h.mem_retry, ht]
    simp
  refine ⟨h.normal_nodup, ?_, ?_, ?_⟩
  · intro u
    by_cases hu : u = t
    · subst hu
      simp [h.mem_normal, ht]
    · rw [Function.update_of_ne hu, h.mem_normal]
  · exact List.nodup_append_comm.1 (List.nodup_cons.2 ⟨hnot, h.retry_nodup⟩)
  · intro u
    by_cases hu : u = t
    · subst hu
      simp
    · rw [Function.update_of_ne hu, ← h.mem_retry]
      simp [hu]

theorem perm (h : QueuesMatch L normal retry) {retry' : List TaskId}
    (hperm : retry.Perm retry') : QueuesMatch L normal retry' where
  normal_nodup := h.normal_nodup
  mem_normal := h.mem_normal
  retry_nodup := hperm.nodup_iff.1 h.retry_nodup
  mem_retry := fun u => hperm.mem_iff.symm.trans (h.mem_retry u)

end QueuesMatch

namespace HoldersMatch

variable {L : Ledger TaskId WorkerId} {workers : Dict WorkerId WorkerConnection}
  {w : WorkerId}

theorem modify (h : HoldersMatch L workers) (f : WorkerConnection → WorkerConnection)
    (hids : ∀ c, (f c).assignedTaskIds = c.assignedTaskIds)
    (hconn : ∀ c, (f c).connected = c.connected) :
    HoldersMatch L (workers.modify w f) := by
  constructor
  · intro v c hc u
    rw [Dict.lookup_modify] at hc
    split_ifs at hc
    · obtain ⟨c₀, hc₀, rfl⟩ := Option.map_eq_some_iff.1 hc
      rw [hids]
      exact h.mem_assigned v c₀ hc₀ u
    · exact h.mem_assigned v c hc u
  · intro u v hu
    obtain ⟨c, hc, hcon⟩ := h.holder u v hu
    rw [Dict.lookup_modify]
    split_ifs
    · exact ⟨f c, by rw [hc, Option.map_some], by rw [hconn, hcon]⟩
    · exact ⟨c, hc, hcon⟩

theorem assign (h : HoldersMatch L workers) {t : TaskId} (ht : Ledger.Waiting L t)
    {f : WorkerConnection → WorkerConnection}
    (hids : ∀ c, (f c).assignedTaskIds = insert t c.assignedTaskIds)
    (hconn : ∀ c, (f c).connected = c.connected)
    {c : WorkerConnection} (hc : workers.lookup w = some c)
    (hcon : c.connected = true) :
    HoldersMatch (Function.update L t (some (.assigned w))) (workers.modify w f) := by
  have hfree : ∀ v, L t ≠ some (.assigned v) := fun v hv =>
    Ledger.not_waiting_of_assigned hv ht
  constructor
  · intro v d hd u
    rw [Dict.lookup_modify] at hd
    split_ifs at hd with hv
    · obtain ⟨d₀, hd₀, rfl⟩ := Option.map_eq_some_iff.1 hd
      subst hv
      rw [hids, Finset.mem_insert, h.mem_assigned v d₀ hd₀ u]
      by_cases hu : u = t
      · subst hu
        simp
      · rw [Function.update_of_ne hu]
        simp [hu]
    · rw [h.mem_assigned v d hd u]
      by_cases hu : u = t
      · subst hu
        rw [Function.update_self]
        simp only [Option.some.injEq, Place.assigned.injEq, hfree v, false_iff]
        exact fun hwv => hv hwv.symm
      · rw [Function.update_of_ne hu]
  · intro u v hu
    rw [Dict.lookup_modify]
    by_cases hut : u = t
    · subst hut
      rw [Function.update_self] at hu
      cases hu
      exact ⟨f c, by rw [if_pos rfl, hc, Option.map_some], by rw [hconn, hcon]⟩
    · rw [Function.update_of_ne hut] at hu
      obtain ⟨d, hd, hdcon⟩ := h.holder u v hu
      split_ifs
      · exact ⟨f d, by rw [hd, Option.map_some], by rw [hconn, hdcon]⟩
      · exact ⟨d, hd, hdcon⟩

theorem release (h : HoldersMatch L workers) (t : TaskId) (p : Place WorkerId)
    (hp : ∀ v, p ≠ .assigned v) {f : WorkerConnection → WorkerConnection}
    (hids : ∀ c, (f c).assignedTaskIds = c.assignedTaskIds.erase t)
    (hconn : ∀ c, (f c).connected = c.connected) :
    HoldersMatch (Function.update L t (some p)) (workers.mapValues f) := by
  constructor
  · intro v d hd u
    rw [Dict.lookup_mapValues] at hd
    obtain ⟨d₀, hd₀, rfl⟩ := Option.map_eq_some_iff.1 hd
    rw [hids, Finset.mem_erase, h.mem_assigned v d₀ hd₀ u]
    by_cases hu : u = t
    · subst hu
      simp [hp v]
    · rw [Function.update_of_ne hu]
      simp [hu]
  · intro u v hu
    by_cases hut : u = t
    · subst hut
      rw [Function.update_self] at hu
      exact absurd (Option.some.inj hu) (hp v)
    · rw [Function.update_of_ne hut] at hu
      obtain ⟨d, hd, hdcon⟩ := h.holder u v hu
      exact ⟨f d, by rw [Dict.lookup_mapValues, hd, Option.map_some],
        by rw [hconn, hdcon]⟩

theorem release_holder (h : HoldersMatch L workers)
    {workers' : Dict WorkerId WorkerConnection}
    {f : WorkerConnection → WorkerConnection}
    (hworkers : ∀ v, workers'.lookup v =
      if v = w then (workers.lookup v).map f else workers.lookup v)
    (hids : ∀ c, (f c).assignedTaskIds = ∅) :
    HoldersMatch (Ledger.release L w) workers' := by
  constructor
  · intro v d hd u
    rw [hworkers] at hd
    split_ifs at hd with hv
    · obtain ⟨d₀, _, rfl⟩ := Option.map_eq_some_iff.1 hd
      subst hv
      by_cases hu : L u = some (.assigned v) <;> simp [hids, Ledger.release, hu]
    · rw [h.mem_assigned v d hd u]
      by_cases hu : L u = some (.assigned w)
      · simp [Ledger.release, hu, Ne.symm hv]
      · simp [Ledger.release, hu]
  · intro u v hu
    by_cases huw : L u = some (.assigned w)
    · simp [Ledger.release, huw] at hu
    · rw [Ledger.release, if_neg huw] at hu
      have hvw : v ≠ w := by
        rintro rfl
        exact huw hu
      rw [hworkers, if_neg hvw]
      exact h.holder u v hu

end HoldersMatch

namespace Master

/-- The place that a state and a record give to a task. -/
def placeOf : Option TaskState → Option Task → Option (Place WorkerId)
  | some .pending, some _ => some .pending
  | some .retry, some _ => some .retry
  | some .assigned, some task => task.assignmentWorkerId.map .assigned
  | some .done, some _ => some .done
  | _, _ => none

/-- The ledger of the Master: where each task stands. -/
def place (m : Master) : Ledger TaskId WorkerId := fun t =>
  placeOf (m.taskState.lookup t) (m.tasks.lookup t)

/-- The ids in the heap, in the order in which they are popped. -/
def retryIds (m : Master) : List TaskId := m.retryTasks.map Prod.snd

/-- The dictionaries agree with each other and with both queues. -/
structure Records (m : Master) : Prop where
  task_id : ∀ t task, m.tasks.lookup t = some task → task.taskId = t
  recorded : ∀ t, (m.tasks.lookup t).isSome → (m.taskState.lookup t).isSome
  placed : ∀ t, (m.taskState.lookup t).isSome → (m.place t).isSome
  queues : QueuesMatch m.place m.normalTasks m.retryIds
  retry_le : ∀ e ∈ m.retryTasks, e.1 ≤ m.retryOrder

/-- The invariant of the lock-protected state. -/
structure Consistent (m : Master) : Prop extends Records m where
  worker_id : ∀ w c, m.workers.lookup w = some c → c.workerId = w
  holders : HoldersMatch m.place m.workers

def stateOf : Place WorkerId → TaskState
  | .pending => .pending
  | .retry => .retry
  | .assigned _ => .assigned
  | .done => .done

theorem state_of_place {m : Master} {t : TaskId} {p : Place WorkerId}
    (h : m.place t = some p) :
    m.taskState.lookup t = some (stateOf p) ∧ ∃ task, m.tasks.lookup t = some task := by
  unfold place at h
  cases hs : m.taskState.lookup t with
  | none => simp [hs, placeOf] at h
  | some s =>
      cases htask : m.tasks.lookup t with
      | none => cases s <;> simp [hs, htask, placeOf] at h
      | some task =>
          refine ⟨?_, task, rfl⟩
          cases s <;> simp only [hs, htask, placeOf, Option.some.injEq,
            Option.map_eq_some_iff] at h
          case assigned =>
            obtain ⟨w, _, rfl⟩ := h
            rfl
          all_goals
            subst h
            rfl

theorem place_eq_assigned_iff {m : Master} {t : TaskId} {w : WorkerId} :
    m.place t = some (.assigned w) ↔ m.taskState.lookup t = some .assigned ∧
      ∃ task, m.tasks.lookup t = some task ∧ task.assignmentWorkerId = some w := by
  constructor
  · intro h
    obtain ⟨hs, task, htask⟩ := state_of_place h
    refine ⟨hs, task, htask, ?_⟩
    simpa [place, hs, htask, stateOf, placeOf] using h
  · rintro ⟨hs, task, htask, hw⟩
    simp [place, hs, htask, placeOf, hw]

/-- The place of a task only depends on its own two entries. -/
theorem place_eq_update {m m' : Master} {t : TaskId} {s : TaskState}
    (hs : m'.taskState = m.taskState.insert t s)
    (htasks : ∀ u, u ≠ t → m'.tasks.lookup u = m.tasks.lookup u) :
    m'.place = Function.update m.place t (placeOf (some s) (m'.tasks.lookup t)) := by
  funext u
  by_cases hu : u = t
  · subst hu
    simp [place, hs]
  · rw [Function.update_of_ne hu]
    simp only [place, hs, AList.lookup_insert_ne hu, htasks u hu]

namespace Records

variable {m : Master} {t : TaskId}

theorem place_of_state (h : Records m) {s : TaskState}
    (hs : m.taskState.lookup t = some s) :
    ∃ p, m.place t = some p ∧ stateOf p = s := by
  obtain ⟨p, hp⟩ := Option.isSome_iff_exists.1 (h.placed t (by rw [hs]; rfl))
  have hstate := (state_of_place hp).1
  rw [hs] at hstate
  exact ⟨p, hp, (Option.some.inj hstate).symm⟩

theorem state_pending_iff (h : Records m) :
    m.taskState.lookup t = some .pending ↔ m.place t = some .pending := by
  refine ⟨fun hs => ?_, fun hp => (state_of_place hp).1⟩
  obtain ⟨p, hp, hstate⟩ := h.place_of_state hs
  cases p <;> first | exact hp | cases hstate

theorem state_retry_iff (h : Records m) :
    m.taskState.lookup t = some .retry ↔ m.place t = some .retry := by
  refine ⟨fun hs => ?_, fun hp => (state_of_place hp).1⟩
  obtain ⟨p, hp, hstate⟩ := h.place_of_state hs
  cases p <;> first | exact hp | cases hstate

theorem state_done_iff (h : Records m) :
    m.taskState.lookup t = some .done ↔ m.place t = some .done := by
  refine ⟨fun hs => ?_, fun hp => (state_of_place hp).1⟩
  obtain ⟨p, hp, hstate⟩ := h.place_of_state hs
  cases p <;> first | exact hp | cases hstate

theorem state_assigned_iff (h : Records m) :
    m.taskState.lookup t = some .assigned ↔ ∃ w, m.place t = some (.assigned w) := by
  constructor
  · intro hs
    obtain ⟨p, hp, hstate⟩ := h.place_of_state hs
    cases p with
    | assigned w => exact ⟨w, hp⟩
    | pending => cases hstate
    | retry => cases hstate
    | done => cases hstate
  · rintro ⟨w, hp⟩
    exact (state_of_place hp).1

end Records

end Master

end KVStore
