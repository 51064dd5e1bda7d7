import KVStore.Master.Ledger

/-!
# What each locked section does

For every locked section: the cases it can take from a consistent state, the
change it makes to the ledger, and that the state stays consistent. Later modules
use these lemmas and never unfold a section again. `contents` is what no section
changes: which tasks exist, and their keys and values.
-/

namespace KVStore

namespace Master

def contents (m : Master) (t : TaskId) : Option (String × ℤ) :=
  (m.tasks.lookup t).map fun task => (task.key, task.value)

theorem push_entry {heap : List (ℕ × TaskId)} {n : ℕ}
    (h : ∀ e ∈ heap, e.1 ≤ n) (t : TaskId) :
    Heap.push entryLe heap (n + 1, t) = heap ++ [(n + 1, t)] := by
  apply Heap.push_eq_append
  intro e he hle
  have hlt := h e he
  rcases hle with hle | ⟨hle, _⟩ <;> simp only at hle <;> omega

theorem le_of_mem_append_entry {heap : List (ℕ × TaskId)} {n : ℕ}
    (h : ∀ e ∈ heap, e.1 ≤ n) {t : TaskId} :
    ∀ e ∈ heap ++ [(n + 1, t)], e.1 ≤ n + 1 := by
  intro e he
  rcases List.mem_append.1 he with he | he
  · exact Nat.le_succ_of_le (h e he)
  · rw [List.mem_singleton.1 he]

/-! ### Requeueing one task -/

section Requeue

variable {m : Master} {t : TaskId} {w : WorkerId} (task : Task)
  (ws : Dict WorkerId WorkerConnection)

theorem queueRetryLocked_eq (h : Records m) (ht : m.place t = some (.assigned w)) :
    queueRetryLocked { m with tasks := m.tasks.insert t task, workers := ws } t =
      { m with
        tasks := m.tasks.insert t task
        workers := ws
        retryOrder := m.retryOrder + 1
        taskState := m.taskState.insert t .retry
        retryTasks := m.retryTasks ++ [(m.retryOrder + 1, t)] } := by
  have hs : m.taskState.lookup t ≠ some .retry := by
    rw [(state_of_place ht).1]
    simp [stateOf]
  rw [queueRetryLocked, if_neg hs]
  simp only [push_entry h.retry_le]

theorem place_requeue (h : Records m) (ht : m.place t = some (.assigned w)) :
    (queueRetryLocked { m with tasks := m.tasks.insert t task, workers := ws } t).place =
      Function.update m.place t (some .retry) := by
  rw [queueRetryLocked_eq task ws h ht]
  refine (place_eq_update rfl fun u hu => AList.lookup_insert_ne hu).trans ?_
  simp [placeOf]

theorem retryIds_requeue (h : Records m) (ht : m.place t = some (.assigned w)) :
    (queueRetryLocked
      { m with tasks := m.tasks.insert t task, workers := ws } t).retryIds =
      m.retryIds ++ [t] := by
  rw [queueRetryLocked_eq task ws h ht]
  simp [retryIds]

theorem records_requeue (h : Records m) (ht : m.place t = some (.assigned w))
    (hid : task.taskId = t) :
    Records (queueRetryLocked
      { m with tasks := m.tasks.insert t task, workers := ws } t) := by
  have hplace := place_requeue task ws h ht
  have hids := retryIds_requeue task ws h ht
  refine ⟨?_, ?_, ?_, ?_, ?_⟩
  · intro u task' hu
    rw [queueRetryLocked_eq task ws h ht] at hu
    simp only [Dict.lookup_insert_eq_ite] at hu
    split_ifs at hu with hut
    · cases hu
      rw [hid, hut]
    · exact h.task_id u task' hu
  · intro u hu
    rw [queueRetryLocked_eq task ws h ht] at hu ⊢
    simp only [Dict.lookup_insert_eq_ite] at hu ⊢
    split_ifs at hu ⊢
    · rfl
    · exact h.recorded u hu
  · intro u hu
    rw [hplace]
    by_cases hut : u = t
    · subst hut
      simp
    · rw [Function.update_of_ne hut]
      rw [queueRetryLocked_eq task ws h ht] at hu
      simp only [Dict.lookup_insert_eq_ite, if_neg hut] at hu
      exact h.placed u hu
  · rw [hplace, hids]
    have hq := h.queues.requeue ht
    rw [queueRetryLocked_eq task ws h ht]
    exact hq
  · rw [queueRetryLocked_eq task ws h ht]
    exact le_of_mem_append_entry h.retry_le

theorem contents_requeue (h : Records m) (ht : m.place t = some (.assigned w))
    (hcontents : some (task.key, task.value) = m.contents t) :
    (queueRetryLocked
      { m with tasks := m.tasks.insert t task, workers := ws } t).contents =
      m.contents := by
  rw [queueRetryLocked_eq task ws h ht]
  funext u
  simp only [contents, Dict.lookup_insert_eq_ite]
  split_ifs with hu
  · subst hu
    exact hcontents
  · rfl

end Requeue

/-! ### Results -/

section Results

variable {m : Master} {t : TaskId} {w a : WorkerId} {task : Task}

/-- A result is acted upon exactly when the ledger has its task with the worker
that the result names as its assignment. -/
theorem acceptedTask_eq_some_iff (h : Consistent m) :
    m.acceptedTask t a = some task ↔
      m.tasks.lookup t = some task ∧ m.place t = some (.assigned a) := by
  unfold acceptedTask
  constructor
  · intro hacc
    cases htask : m.tasks.lookup t with
    | none => simp [htask] at hacc
    | some task' =>
        cases hworker : m.workers.lookup a with
        | none => simp [htask, hworker] at hacc
        | some c =>
            simp only [htask, hworker] at hacc
            split_ifs at hacc with hguard
            cases hacc
            exact ⟨rfl, (h.holders.mem_assigned a c hworker t).1 hguard.2⟩
  · rintro ⟨htask, hplace⟩
    obtain ⟨c, hc, _⟩ := h.holders.holder t a hplace
    have hmem := (h.holders.mem_assigned a c hc t).2 hplace
    have hstate := (state_of_place hplace).1
    simp only [htask, hc]
    rw [if_pos ⟨hstate, hmem⟩]

theorem acceptedTask_isSome_iff (h : Consistent m) :
    (m.acceptedTask t a).isSome ↔ m.place t = some (.assigned a) := by
  constructor
  · intro hsome
    obtain ⟨task, htask⟩ := Option.isSome_iff_exists.1 hsome
    exact ((acceptedTask_eq_some_iff h).1 htask).2
  · intro hplace
    obtain ⟨_, task, htask⟩ := state_of_place hplace
    rw [(acceptedTask_eq_some_iff h).2 ⟨htask, hplace⟩]
    rfl

/-- Acting upon a success finishes the task and stores its recorded value. -/
structure Finished (m : Master) (t : TaskId) (task : Task) (m' : Master) : Prop where
  place : m'.place = Function.update m.place t (some .done)
  store : m'.store = m.store.insert task.key task.value
  tasks : m'.tasks = m.tasks
  normalTasks : m'.normalTasks = m.normalTasks
  retryTasks : m'.retryTasks = m.retryTasks
  taskCount : m'.taskCount = m.taskCount
  workers : ∀ v, m'.workers.lookup v = (m.workers.lookup v).map fun c =>
    { c with assignedTaskIds := c.assignedTaskIds.erase t }

theorem finish_spec (h : Consistent m) (ht : m.place t = some (.assigned a))
    (htask : m.tasks.lookup t = some task) {m' : Master}
    (hm' : m' = { m with
      workers := m.workers.mapValues fun c =>
        { c with assignedTaskIds := c.assignedTaskIds.erase t }
      store := m.store.insert task.key task.value
      taskState := m.taskState.insert t .done }) :
    Consistent m' ∧ Finished m t task m' := by
  have hplace : m'.place = Function.update m.place t (some .done) := by
    have hs : m'.taskState = m.taskState.insert t .done := by rw [hm']
    rw [place_eq_update hs fun u _ => by rw [hm']]
    rw [hm', htask]
    rfl
  have hfinished : Finished m t task m' := by
    refine ⟨hplace, ?_, ?_, ?_, ?_, ?_, ?_⟩
    all_goals rw [hm']
    exact fun v => Dict.lookup_mapValues _ m.workers v
  refine ⟨⟨⟨?_, ?_, ?_, ?_, ?_⟩, ?_, ?_⟩, hfinished⟩
  · rw [hfinished.tasks]
    exact h.task_id
  · intro u hu
    rw [hfinished.tasks] at hu
    rw [hm', Dict.lookup_insert_eq_ite]
    split_ifs
    · rfl
    · exact h.recorded u hu
  · intro u hu
    rw [hplace]
    by_cases hut : u = t
    · subst hut
      simp
    · rw [Function.update_of_ne hut]
      rw [hm', Dict.lookup_insert_eq_ite, if_neg hut] at hu
      exact h.placed u hu
  · rw [hplace, hfinished.normalTasks, retryIds, hfinished.retryTasks]
    exact h.queues.finish ht
  · rw [hm']
    exact h.retry_le
  · intro v c hc
    rw [hfinished.workers] at hc
    obtain ⟨c₀, hc₀, rfl⟩ := Option.map_eq_some_iff.1 hc
    exact h.worker_id v c₀ hc₀
  · rw [hplace, hm']
    exact h.holders.release t .done (by simp)
      (f := fun c => { c with assignedTaskIds := c.assignedTaskIds.erase t })
      (fun _ => rfl) (fun _ => rfl)

theorem handleSuccess_cases (h : Consistent m) (w : WorkerId)
    (payload : ResultPayload) :
    (m.place payload.taskId ≠ some (.assigned (payload.assignmentWorkerId.getD w)) ∧
      m.handleSuccess w payload = m) ∨
    (∃ task, m.place payload.taskId =
        some (.assigned (payload.assignmentWorkerId.getD w)) ∧
      m.tasks.lookup payload.taskId = some task ∧
      Consistent (m.handleSuccess w payload) ∧
      Finished m payload.taskId task (m.handleSuccess w payload)) := by
  cases hacc : m.acceptedTask payload.taskId (payload.assignmentWorkerId.getD w) with
  | none =>
      refine .inl ⟨fun hplace => ?_, by rw [handleSuccess, hacc]⟩
      have hsome := (acceptedTask_isSome_iff h).2 hplace
      rw [hacc] at hsome
      cases hsome
  | some task =>
      obtain ⟨htask, hplace⟩ := (acceptedTask_eq_some_iff h).1 hacc
      refine .inr ⟨task, hplace, htask, finish_spec h hplace htask ?_⟩
      rw [handleSuccess, hacc]
      rfl

structure Requeued (m : Master) (t : TaskId) (task : Task) (m' : Master) : Prop where
  place : m'.place = Function.update m.place t (some .retry)
  tasks : m'.tasks = m.tasks.insert t task
  record : ∃ old, m.tasks.lookup t = some old ∧ old.attempt ≤ task.attempt ∧
    task = { old with attempt := task.attempt, previousWorkerId := task.previousWorkerId }
  store : m'.store = m.store
  taskCount : m'.taskCount = m.taskCount
  contents : m'.contents = m.contents

theorem handleFailure_cases (h : Consistent m) (w : WorkerId)
    (payload : ResultPayload) :
    (m.place payload.taskId ≠ some (.assigned (payload.assignmentWorkerId.getD w)) ∧
      m.handleFailure w payload = m) ∨
    (∃ task, m.place payload.taskId =
        some (.assigned (payload.assignmentWorkerId.getD w)) ∧
      task.previousWorkerId = some w ∧
      Consistent (m.handleFailure w payload) ∧
      Requeued m payload.taskId task (m.handleFailure w payload) ∧
      ∀ v, (m.handleFailure w payload).workers.lookup v =
        (m.workers.lookup v).map fun c =>
          { c with assignedTaskIds := c.assignedTaskIds.erase payload.taskId }) := by
  cases hacc : m.acceptedTask payload.taskId (payload.assignmentWorkerId.getD w) with
  | none =>
      refine .inl ⟨fun hplace => ?_, by rw [handleFailure, hacc]⟩
      have hsome := (acceptedTask_isSome_iff h).2 hplace
      rw [hacc] at hsome
      cases hsome
  | some task =>
      obtain ⟨htask, hplace⟩ := (acceptedTask_eq_some_iff h).1 hacc
      let failed : Task := { task with
        attempt := if payload.reason.getD "processing failure" = "queue overflow"
          then task.attempt else task.attempt + 1
        previousWorkerId := some w }
      let ws := m.workers.mapValues fun c =>
        { c with assignedTaskIds := c.assignedTaskIds.erase payload.taskId }
      have heq : m.handleFailure w payload = queueRetryLocked
          { m with tasks := m.tasks.insert payload.taskId failed, workers := ws }
          payload.taskId := by
        rw [handleFailure, hacc]
        rfl
      have hid : failed.taskId = payload.taskId := h.task_id _ task htask
      have hcontents : some (failed.key, failed.value) = m.contents payload.taskId := by
        rw [Master.contents, htask]
        rfl
      have hattempt : task.attempt ≤ failed.attempt := by
        simp only [failed]
        split_ifs
        · exact le_rfl
        · exact (lt_add_one _).le
      have hplace' := place_requeue failed ws h.toRecords hplace
      have hexplicit := queueRetryLocked_eq failed ws h.toRecords hplace
      refine .inr ⟨failed, hplace, rfl, ?_, ?_, ?_⟩
      · rw [heq]
        refine ⟨records_requeue failed ws h.toRecords hplace hid, ?_, ?_⟩
        · intro v c hc
          rw [hexplicit] at hc
          simp only [ws, Dict.lookup_mapValues] at hc
          obtain ⟨c₀, hc₀, rfl⟩ := Option.map_eq_some_iff.1 hc
          exact h.worker_id v c₀ hc₀
        · rw [hplace', hexplicit]
          exact h.holders.release payload.taskId .retry (by simp)
            (f := fun c =>
              { c with assignedTaskIds := c.assignedTaskIds.erase payload.taskId })
            (fun _ => rfl) (fun _ => rfl)
      · rw [heq]
        exact ⟨hplace', by rw [hexplicit], ⟨task, htask, hattempt, rfl⟩, by rw [hexplicit],
          by rw [hexplicit],
          contents_requeue failed ws h.toRecords hplace hcontents⟩
      · intro v
        rw [heq, hexplicit]
        exact Dict.lookup_mapValues _ m.workers v

theorem handleQueueStatus_cases (m : Master) (w : WorkerId) (payload : WorkerStatus) :
    (∃ e, m.handleQueueStatus w payload = .error e) ∨
    (m.handleQueueStatus w payload = .ok { m with
        workers := m.workers.modify w fun c => { c with status := payload } } ∧
      payload.queueCapacity = DEFAULT_QUEUE_CAPACITY ∧ 0 ≤ payload.queueSize ∧
      payload.queueSize ≤ payload.queueCapacity) := by
  unfold handleQueueStatus
  cases hpost : payload.postInit with
  | error e => exact .inl ⟨e, rfl⟩
  | ok status =>
      obtain ⟨rfl, hvalid⟩ := WorkerStatus.postInit_eq_ok hpost
      by_cases hid : status.workerId = w
      · refine .inr ⟨?_, hvalid⟩
        simp [Except.bind, hid]
      · refine .inl ⟨"QUEUE_STATUS worker_id mismatch", ?_⟩
        simp [Except.bind, hid]

theorem consistent_status (h : Consistent m) (w : WorkerId) (status : WorkerStatus) :
    Consistent { m with
      workers := m.workers.modify w fun c => { c with status := status } } := by
  refine ⟨⟨h.task_id, h.recorded, h.placed, h.queues, h.retry_le⟩, ?_, ?_⟩
  · intro v c hc
    rw [Dict.lookup_modify] at hc
    split_ifs at hc
    · obtain ⟨c₀, hc₀, rfl⟩ := Option.map_eq_some_iff.1 hc
      exact h.worker_id v c₀ hc₀
    · exact h.worker_id v c hc
  · exact h.holders.modify _ (fun _ => rfl) (fun _ => rfl)

end Results

/-! ### Disconnection -/

section Disconnection

variable {m : Master} {t : TaskId} {w : WorkerId}

/-- The record of a task whose worker `w` was lost. -/
def lostBy (w : WorkerId) (task : Task) : Task :=
  { task with previousWorkerId := some w }

/-- What requeueing a set of assigned tasks, on behalf of `w`, changes. -/
structure RequeuedAll (m : Master) (w : WorkerId) (order : List TaskId)
    (m' : Master) : Prop where
  place : ∀ u, m'.place u = if u ∈ order then some .retry else m.place u
  tasks : ∀ u, m'.tasks.lookup u =
    if u ∈ order then (m.tasks.lookup u).map (lostBy w) else m.tasks.lookup u
  workers : m'.workers = m.workers
  store : m'.store = m.store
  taskCount : m'.taskCount = m.taskCount
  contents : m'.contents = m.contents

theorem requeueLocked_spec (h : Records m) {v : WorkerId}
    (ht : m.place t = some (.assigned v)) (w : WorkerId) :
    ∃ m', requeueLocked w m t = some m' ∧ Records m' ∧ RequeuedAll m w [t] m' := by
  obtain ⟨hs, task, htask⟩ := state_of_place ht
  have hstate : m.taskState.lookup t = some .assigned := hs
  let lost := lostBy w task
  have hid : lost.taskId = t := h.task_id t task htask
  have hcontents : some (lost.key, lost.value) = m.contents t := by
    rw [Master.contents, htask]
    rfl
  have hexplicit := queueRetryLocked_eq lost m.workers h ht
  refine ⟨_, ?_, records_requeue lost m.workers h ht hid, ?_⟩
  · rw [requeueLocked, if_pos hstate, htask, Option.map_some]
    rfl
  · refine ⟨?_, ?_, by rw [hexplicit], by rw [hexplicit], by rw [hexplicit],
      contents_requeue lost m.workers h ht hcontents⟩
    · intro u
      rw [place_requeue lost m.workers h ht]
      by_cases hu : u = t
      · subst hu
        simp
      · simp [hu]
    · intro u
      rw [hexplicit]
      simp only [Dict.lookup_insert_eq_ite, List.mem_singleton]
      split_ifs with hu
      · rw [hu, htask]
        rfl
      · rfl

theorem foldlM_requeueLocked (h : Records m) (w : WorkerId) {order : List TaskId}
    (hnodup : order.Nodup) (hassigned : ∀ t ∈ order, ∃ v, m.place t = some (.assigned v)) :
    ∃ m', order.foldlM (requeueLocked w) m = some m' ∧ Records m' ∧
      RequeuedAll m w order m' := by
  induction order generalizing m with
  | nil => exact ⟨m, rfl, h, by simp, by simp, rfl, rfl, rfl, rfl⟩
  | cons t order ih =>
      obtain ⟨hnot, hnodup⟩ := List.nodup_cons.1 hnodup
      obtain ⟨v, ht⟩ := hassigned t (by simp)
      obtain ⟨m₁, hm₁, hrec, hone⟩ := requeueLocked_spec h ht w
      have hassigned' : ∀ u ∈ order, ∃ v, m₁.place u = some (.assigned v) := by
        intro u hu
        have hut : u ≠ t := fun hut => hnot (hut ▸ hu)
        rw [hone.place, if_neg (by simpa using hut)]
        exact hassigned u (List.mem_cons_of_mem t hu)
      obtain ⟨m₂, hm₂, hrec₂, hall⟩ := ih hrec hnodup hassigned'
      refine ⟨m₂, ?_, hrec₂, ?_⟩
      · rw [List.foldlM_cons, hm₁]
        exact hm₂
      · refine ⟨?_, ?_, hall.workers.trans hone.workers, hall.store.trans hone.store,
          hall.taskCount.trans hone.taskCount, hall.contents.trans hone.contents⟩
        · intro u
          rw [hall.place, hone.place]
          by_cases hut : u = t
          · subst hut
            simp
          · simp [hut]
        · intro u
          rw [hall.tasks, hone.tasks]
          by_cases hut : u = t
          · subst hut
            simp [hnot]
          · simp [hut]

/-- What the disconnection of a connected worker changes. -/
structure Disconnected (m : Master) (w : WorkerId) (m' : Master) : Prop where
  place : m'.place = Ledger.release m.place w
  tasks : ∀ u, m'.tasks.lookup u =
    if m.place u = some (.assigned w) then (m.tasks.lookup u).map (lostBy w)
    else m.tasks.lookup u
  workers : ∀ v, m'.workers.lookup v =
    if v = w then (m.workers.lookup v).map fun c =>
      { c with connected := false, assignedTaskIds := ∅ }
    else m.workers.lookup v
  store : m'.store = m.store
  taskCount : m'.taskCount = m.taskCount
  contents : m'.contents = m.contents

theorem disconnectWorker_cases (h : Consistent m) {c : WorkerConnection}
    (hc : m.workers.lookup w = some c) {order : List TaskId} (hnodup : order.Nodup)
    (horder : order.toFinset = c.assignedTaskIds) :
    (c.connected = false ∧ m.disconnectWorker c order = some m) ∨
    (c.connected = true ∧ ∃ m', m.disconnectWorker c order = some m' ∧
      Consistent m' ∧ Disconnected m w m') := by
  unfold disconnectWorker
  cases hcon : c.connected with
  | false => exact .inl ⟨rfl, by simp⟩
  | true =>
      refine .inr ⟨rfl, ?_⟩
      have hid : c.workerId = w := h.worker_id w c hc
      have hmem : ∀ t, t ∈ order ↔ m.place t = some (.assigned w) := by
        intro t
        rw [← h.holders.mem_assigned w c hc t, ← horder, List.mem_toFinset]
      let marked : Master := { m with
        workers := m.workers.modify w fun connection =>
          { connection with connected := false } }
      have hrec : Records marked :=
        ⟨h.task_id, h.recorded, h.placed, h.queues, h.retry_le⟩
      obtain ⟨m₁, hm₁, hrec₁, hall⟩ := foldlM_requeueLocked hrec w hnodup
        fun t ht => ⟨w, (hmem t).1 ht⟩
      have hplace : m₁.place = Ledger.release m.place w := by
        funext t
        rw [hall.place, Ledger.release]
        exact if_congr (hmem t) rfl rfl
      have hworkers : ∀ v, (m₁.workers.modify w fun connection =>
          { connection with assignedTaskIds := ∅ }).lookup v =
          if v = w then (m.workers.lookup v).map fun c =>
            { c with connected := false, assignedTaskIds := ∅ }
          else m.workers.lookup v := by
        intro v
        rw [hall.workers, Dict.lookup_modify, Dict.lookup_modify]
        split_ifs
        · rw [Option.map_map]
          rfl
        · rfl
      refine ⟨{ m₁ with
        workers := m₁.workers.modify w fun connection =>
          { connection with assignedTaskIds := ∅ } }, ?_, ?_, ?_⟩
      · rw [if_neg (by simp), hid]
        change Option.map _ (order.foldlM (requeueLocked w) marked) = _
        rw [hm₁]
        rfl
      · refine ⟨⟨hrec₁.task_id, hrec₁.recorded, hrec₁.placed, hrec₁.queues,
          hrec₁.retry_le⟩, ?_, ?_⟩
        · intro v d hd
          rw [hworkers] at hd
          split_ifs at hd
          · obtain ⟨d₀, hd₀, rfl⟩ := Option.map_eq_some_iff.1 hd
            exact h.worker_id v d₀ hd₀
          · exact h.worker_id v d hd
        · change HoldersMatch m₁.place _
          rw [hplace]
          exact h.holders.release_holder hworkers (fun _ => rfl)
      · refine ⟨hplace, ?_, hworkers, hall.store, hall.taskCount, hall.contents⟩
        intro u
        rw [hall.tasks]
        exact if_congr (hmem u) rfl rfl

end Disconnection

/-! ### Distribution -/

section Distribution

variable {m : Master}

/-- The task that `_next_task_locked` is about to take, with its priority. -/
def head (m : Master) : Option (TaskId × Bool) :=
  match m.retryIds, m.normalTasks with
  | t :: _, _ => some (t, true)
  | [], t :: _ => some (t, false)
  | [], [] => none

theorem chooseWorkerLocked_eq_some (h : Consistent m) {task : Task}
    {c : WorkerConnection} (hc : m.chooseWorkerLocked task = some c) :
    m.workers.lookup c.workerId = some c ∧ eligible task c = true := by
  have hmem := Heap.mem_of_least_eq_some chooseLe hc
  obtain ⟨hvalues, helig⟩ := List.mem_filter.1 hmem
  obtain ⟨w, hw⟩ := Dict.mem_values_iff.1 hvalues
  rw [h.worker_id w c hw]
  exact ⟨hw, helig⟩

theorem connected_of_eligible {task : Task} {c : WorkerConnection}
    (h : eligible task c = true) : c.connected = true := by
  simp only [eligible, Bool.and_eq_true] at h
  exact h.1.1

/-- No worker is chosen exactly when none is eligible. -/
theorem chooseWorkerLocked_eq_none_iff {task : Task} :
    m.chooseWorkerLocked task = none ↔
      ∀ w c, m.workers.lookup w = some c → eligible task c = false := by
  rw [chooseWorkerLocked, Heap.least_eq_none_iff, List.filter_eq_nil_iff]
  constructor
  · intro h w c hc
    simpa using h c (Dict.mem_values_iff.2 ⟨w, hc⟩)
  · intro h c hc
    obtain ⟨w, hw⟩ := Dict.mem_values_iff.1 hc
    simp [h w c hw]

/-- What an assignment changes; `task` is the record that is sent. -/
structure Assigned (m : Master) (task : Task) (w : WorkerId) (m' : Master) : Prop where
  place : m'.place = Function.update m.place task.taskId (some (.assigned w))
  tasks : m'.tasks = m.tasks.insert task.taskId task
  workers : ∀ v, m'.workers.lookup v =
    if v = w then (m.workers.lookup v).map fun c =>
      { c with
        assignedTaskIds := insert task.taskId c.assignedTaskIds
        status := { c.status with queueSize := c.status.queueSize + 1 } }
    else m.workers.lookup v
  store : m'.store = m.store
  taskCount : m'.taskCount = m.taskCount
  contents : m'.contents = m.contents

/-- What a failed attempt to assign changes: at most the order of the retries. -/
structure PutBack (m m' : Master) : Prop where
  place : m'.place = m.place
  tasks : m'.tasks = m.tasks
  workers : m'.workers = m.workers
  store : m'.store = m.store
  taskCount : m'.taskCount = m.taskCount

theorem popRetry_eq (h : Consistent m) {o : ℕ} {t : TaskId} {rest : List (ℕ × TaskId)}
    (hretry : m.retryTasks = (o, t) :: rest) :
    popRetry m.taskState m.retryTasks = (some t, rest) := by
  have ht : m.taskState.lookup t = some .retry :=
    h.state_retry_iff.2 ((h.queues.mem_retry t).1 (by simp [retryIds, hretry]))
  rw [hretry, popRetry, if_pos ht]

theorem popNormal_eq (h : Consistent m) {t : TaskId} {rest : List TaskId}
    (hnormal : m.normalTasks = t :: rest) :
    popNormal m.taskState m.normalTasks = (some t, rest) := by
  have ht : m.taskState.lookup t = some .pending :=
    h.state_pending_iff.2 ((h.queues.mem_normal t).1 (by simp [hnormal]))
  rw [hnormal, popNormal, if_pos ht]

theorem assignLocked_spec (h : Consistent m) {t : TaskId} {task : Task}
    (ht : Ledger.Waiting m.place t) (htask : m.tasks.lookup t = some task)
    {c : WorkerConnection} (hc : m.workers.lookup c.workerId = some c)
    (hcon : c.connected = true) (now : ℚ) {retry : List (ℕ × TaskId)}
    {normal : List TaskId}
    (hqueues : QueuesMatch (Function.update m.place t (some (.assigned c.workerId)))
      normal (retry.map Prod.snd))
    (hle : ∀ e ∈ retry, e.1 ≤ m.retryOrder) :
    let popped : Master := { m with retryTasks := retry, normalTasks := normal }
    let result := popped.assignLocked task c now
    Consistent result.2 ∧ Assigned m result.1 c.workerId result.2 := by
  intro popped result
  have hid : result.1.taskId = t := h.task_id t task htask
  have htasks : result.2.tasks = m.tasks.insert t result.1 := by
    rw [← hid]
    rfl
  have hstates : result.2.taskState = m.taskState.insert t .assigned := by
    rw [← hid]
    rfl
  have hplace : result.2.place =
      Function.update m.place t (some (.assigned c.workerId)) := by
    rw [place_eq_update hstates fun u hu => by
      rw [htasks, AList.lookup_insert_ne hu]]
    rw [htasks, AList.lookup_insert]
    rfl
  have hworkers : result.2.workers = m.workers.modify c.workerId fun c =>
      { c with
        assignedTaskIds := insert t c.assignedTaskIds
        status := { c.status with queueSize := c.status.queueSize + 1 } } := by
    rw [← hid]
    rfl
  constructor
  · refine ⟨⟨?_, ?_, ?_, ?_, hle⟩, ?_, ?_⟩
    · intro u task' hu
      rw [htasks, Dict.lookup_insert_eq_ite] at hu
      split_ifs at hu with hut
      · cases hu
        rw [hid, hut]
      · exact h.task_id u task' hu
    · intro u hu
      rw [htasks, Dict.lookup_insert_eq_ite] at hu
      rw [hstates, Dict.lookup_insert_eq_ite]
      split_ifs at hu ⊢
      · rfl
      · exact h.recorded u hu
    · intro u hu
      rw [hplace]
      by_cases hut : u = t
      · subst hut
        simp
      · rw [Function.update_of_ne hut]
        rw [hstates, Dict.lookup_insert_eq_ite, if_neg hut] at hu
        exact h.placed u hu
    · rw [hplace]
      exact hqueues
    · intro v d hd
      rw [hworkers, Dict.lookup_modify] at hd
      split_ifs at hd
      · obtain ⟨d₀, hd₀, rfl⟩ := Option.map_eq_some_iff.1 hd
        exact h.worker_id v d₀ hd₀
      · exact h.worker_id v d hd
    · rw [hplace, hworkers]
      exact h.holders.assign ht (fun _ => rfl) (fun _ => rfl) hc hcon
  · refine ⟨?_, ?_, ?_, rfl, rfl, ?_⟩
    · rw [hid, hplace]
    · rw [hid, htasks]
    · intro v
      rw [hid, hworkers, Dict.lookup_modify]
    · funext u
      simp only [contents, htasks, Dict.lookup_insert_eq_ite]
      split_ifs with hu
      · rw [hu, htask]
        rfl
      · rfl

theorem place_of_restate {m' : Master} {t : TaskId} {p : Place WorkerId}
    (ht : m.place t = some p) (hs : m'.taskState = m.taskState.insert t (stateOf p))
    (htasks : m'.tasks = m.tasks) : m'.place = m.place := by
  rw [place_eq_update hs fun u _ => by rw [htasks], htasks]
  have hself : placeOf (some (stateOf p)) (m.tasks.lookup t) = m.place t := by
    rw [← (state_of_place ht).1]
    rfl
  rw [hself, Function.update_eq_self]

theorem putBack_priority (h : Consistent m) {o : ℕ} {t : TaskId}
    {rest : List (ℕ × TaskId)} (hretry : m.retryTasks = (o, t) :: rest) :
    let popped : Master := { m with retryTasks := rest }
    Consistent (popped.putTaskBackLocked t true) ∧
      PutBack m (popped.putTaskBackLocked t true) ∧
      (popped.putTaskBackLocked t true).retryIds = m.retryIds.tail ++ [t] ∧
      (popped.putTaskBackLocked t true).normalTasks = m.normalTasks := by
  intro popped
  have ht : m.place t = some .retry :=
    (h.queues.mem_retry t).1 (by simp [retryIds, hretry])
  have hrest : ∀ e ∈ rest, e.1 ≤ m.retryOrder := fun e he =>
    h.retry_le e (by rw [hretry]; exact List.mem_cons_of_mem _ he)
  have hexplicit : popped.putTaskBackLocked t true = { m with
      retryOrder := m.retryOrder + 1
      retryTasks := rest ++ [(m.retryOrder + 1, t)]
      taskState := m.taskState.insert t .retry } := by
    simp only [putTaskBackLocked, if_true, popped, push_entry hrest]
  rw [hexplicit]
  have hplace : Master.place { m with
      retryOrder := m.retryOrder + 1
      retryTasks := rest ++ [(m.retryOrder + 1, t)]
      taskState := m.taskState.insert t .retry } = m.place :=
    place_of_restate ht rfl rfl
  refine ⟨⟨⟨h.task_id, ?_, ?_, ?_, ?_⟩, h.worker_id, ?_⟩,
    ⟨hplace, rfl, rfl, rfl, rfl⟩, ?_, rfl⟩
  · intro u hu
    rw [Dict.lookup_insert_eq_ite]
    split_ifs
    · rfl
    · exact h.recorded u hu
  · intro u hu
    rw [hplace]
    rw [Dict.lookup_insert_eq_ite] at hu
    split_ifs at hu with hut
    · rw [hut, ht]
      rfl
    · exact h.placed u hu
  · rw [hplace]
    refine h.queues.perm ?_
    simp only [retryIds, hretry, List.map_cons, List.map_append, List.map_nil]
    exact (List.perm_append_singleton t _).symm
  · exact le_of_mem_append_entry hrest
  · rw [hplace]
    exact h.holders
  · simp [retryIds, hretry]

theorem putBack_normal (h : Consistent m) {t : TaskId} {rest : List TaskId}
    (hnormal : m.normalTasks = t :: rest) :
    let popped : Master := { m with normalTasks := rest }
    Consistent (popped.putTaskBackLocked t false) ∧
      PutBack m (popped.putTaskBackLocked t false) ∧
      (popped.putTaskBackLocked t false).retryTasks = m.retryTasks ∧
      (popped.putTaskBackLocked t false).normalTasks = m.normalTasks := by
  intro popped
  have ht : m.place t = some .pending :=
    (h.queues.mem_normal t).1 (by simp [hnormal])
  have hexplicit : popped.putTaskBackLocked t false =
      { m with taskState := m.taskState.insert t .pending } := by
    simp [putTaskBackLocked, popped, hnormal]
  rw [hexplicit]
  have hplace : Master.place { m with taskState := m.taskState.insert t .pending } =
      m.place := place_of_restate ht rfl rfl
  refine ⟨⟨⟨h.task_id, ?_, ?_, ?_, h.retry_le⟩, h.worker_id, ?_⟩,
    ⟨hplace, rfl, rfl, rfl, rfl⟩, rfl, rfl⟩
  · intro u hu
    rw [Dict.lookup_insert_eq_ite]
    split_ifs
    · rfl
    · exact h.recorded u hu
  · intro u hu
    rw [hplace]
    rw [Dict.lookup_insert_eq_ite] at hu
    split_ifs at hu with hut
    · rw [hut, ht]
      rfl
    · exact h.placed u hu
  · rw [hplace]
    exact h.queues
  · rw [hplace]
    exact h.holders

/-- The record that is sent when `task` is assigned to `w` at time `now`. -/
def sentTo (w : WorkerId) (now : ℚ) (task : Task) : Task :=
  { task with enqueuedAt := now, assignmentWorkerId := some w }

theorem place_head (h : Consistent m) {t : TaskId} {p : Bool}
    (hhead : m.head = some (t, p)) :
    m.place t = some (if p then .retry else .pending) := by
  unfold head at hhead
  split at hhead
  · next u _ hretry =>
      obtain ⟨rfl, rfl⟩ := Prod.mk.inj (Option.some.inj hhead)
      exact (h.queues.mem_retry u).1 (by simp [hretry])
  · next u _ _ hnormal =>
      obtain ⟨rfl, rfl⟩ := Prod.mk.inj (Option.some.inj hhead)
      exact (h.queues.mem_normal u).1 (by simp [hnormal])
  · cases hhead

theorem waiting_head (h : Consistent m) {t : TaskId} {p : Bool}
    (hhead : m.head = some (t, p)) : Ledger.Waiting m.place t := by
  have hplace := place_head h hhead
  cases p with
  | true => exact .inr hplace
  | false => exact .inl hplace

theorem head_eq_none_iff (h : Consistent m) :
    m.head = none ↔ ∀ t, ¬ Ledger.Waiting m.place t := by
  constructor
  · intro hhead t ht
    unfold head at hhead
    split at hhead
    · cases hhead
    · cases hhead
    · next hretry hnormal =>
        rcases ht with ht | ht
        · have hmem := (h.queues.mem_normal t).2 ht
          simp [hnormal] at hmem
        · have hmem := (h.queues.mem_retry t).2 ht
          simp [hretry] at hmem
  · intro hnone
    cases hhead : m.head with
    | none => rfl
    | some e => exact absurd (waiting_head h hhead) (hnone e.1)

/-- Everything `_next_assignment_locked` can do: nothing waits, or no worker is
eligible for the head, or the head is assigned. -/
theorem nextAssignmentLocked_cases (h : Consistent m) (now : ℚ) :
    (m.head = none ∧ m.nextAssignmentLocked now = some (none, m)) ∨
    (∃ t p task, m.head = some (t, p) ∧ m.tasks.lookup t = some task ∧
      m.chooseWorkerLocked task = none ∧
      ∃ m', m.nextAssignmentLocked now = some (none, m') ∧
        Consistent m' ∧ PutBack m m' ∧
        m'.retryIds = (if p then m.retryIds.tail ++ [t] else m.retryIds) ∧
        m'.normalTasks = m.normalTasks) ∨
    (∃ t p task c, m.head = some (t, p) ∧ m.tasks.lookup t = some task ∧
      m.chooseWorkerLocked task = some c ∧
      ∃ m', m.nextAssignmentLocked now =
          some (some ⟨sentTo c.workerId now task, c.workerId, p⟩, m') ∧
        Consistent m' ∧ Assigned m (sentTo c.workerId now task) c.workerId m' ∧
        m'.retryIds = (if p then m.retryIds.tail else m.retryIds) ∧
        m'.normalTasks = (if p then m.normalTasks else m.normalTasks.tail)) := by
  cases hretry : m.retryTasks with
  | cons e rest =>
      obtain ⟨o, t⟩ := e
      have hhead : m.head = some (t, true) := by simp [head, retryIds, hretry]
      have hwait := waiting_head h hhead
      obtain ⟨_, task, htask⟩ := state_of_place (place_head h hhead)
      have hid := h.task_id t task htask
      have hnext : m.nextTaskLocked =
          some (some (task, true), { m with retryTasks := rest }) := by
        rw [nextTaskLocked, popRetry_eq h hretry]
        simp [htask]
      have hq : QueuesMatch m.place m.normalTasks (t :: rest.map Prod.snd) := by
        simpa [retryIds, hretry] using h.queues
      cases hchoose : m.chooseWorkerLocked task with
      | none =>
          refine .inr (.inl ⟨t, true, task, hhead, htask, hchoose, ?_⟩)
          obtain ⟨hcons, hback, hids, hnormal⟩ := putBack_priority h hretry
          refine ⟨_, ?_, hcons, hback, hids, hnormal⟩
          rw [nextAssignmentLocked, hnext, Option.map_some]
          have hchoose' : Master.chooseWorkerLocked { m with retryTasks := rest } task =
              none := hchoose
          simp only [hchoose', hid]
      | some c =>
          refine .inr (.inr ⟨t, true, task, c, hhead, htask, hchoose, ?_⟩)
          obtain ⟨hc, helig⟩ := chooseWorkerLocked_eq_some h hchoose
          have hcon := connected_of_eligible helig
          have hle : ∀ e ∈ rest, e.1 ≤ m.retryOrder := fun e he =>
            h.retry_le e (by rw [hretry]; exact List.mem_cons_of_mem _ he)
          obtain ⟨hcons, hassigned⟩ := assignLocked_spec h hwait htask hc hcon now
            (hq.assign_retry c.workerId) hle
          refine ⟨_, ?_, hcons, hassigned, by simp [retryIds, hretry, assignLocked], rfl⟩
          rw [nextAssignmentLocked, hnext, Option.map_some]
          have hchoose' : Master.chooseWorkerLocked { m with retryTasks := rest } task =
              some c := hchoose
          simp only [hchoose']
          rfl
  | nil =>
      have hpop : popRetry m.taskState m.retryTasks = (none, m.retryTasks) := by
        simp [hretry, popRetry]
      cases hnormal : m.normalTasks with
      | nil =>
          refine .inl ⟨by simp [head, retryIds, hretry, hnormal], ?_⟩
          have hpop' : popNormal m.taskState m.normalTasks = (none, m.normalTasks) := by
            simp [hnormal, popNormal]
          rw [nextAssignmentLocked, nextTaskLocked, hpop]
          simp only [hpop']
          rfl
      | cons t rest =>
          have hhead : m.head = some (t, false) := by
            simp [head, retryIds, hretry, hnormal]
          have hwait := waiting_head h hhead
          obtain ⟨_, task, htask⟩ := state_of_place (place_head h hhead)
          have hid := h.task_id t task htask
          have hnext : m.nextTaskLocked =
              some (some (task, false), { m with normalTasks := rest }) := by
            rw [nextTaskLocked, hpop]
            simp only [popNormal_eq h hnormal, htask]
            rfl
          have hq : QueuesMatch m.place (t :: rest) m.retryIds := by
            rw [← hnormal]
            exact h.queues
          cases hchoose : m.chooseWorkerLocked task with
          | none =>
              refine .inr (.inl ⟨t, false, task, hhead, htask, hchoose, ?_⟩)
              obtain ⟨hcons, hback, hids, hnormal'⟩ := putBack_normal h hnormal
              refine ⟨_, ?_, hcons, hback, congrArg (List.map Prod.snd) hids, ?_⟩
              · rw [nextAssignmentLocked, hnext, Option.map_some]
                have hchoose' :
                    Master.chooseWorkerLocked { m with normalTasks := rest } task =
                      none := hchoose
                simp only [hchoose', hid]
              · rw [hnormal', hnormal]
          | some c =>
              refine .inr (.inr ⟨t, false, task, c, hhead, htask, hchoose, ?_⟩)
              obtain ⟨hc, helig⟩ := chooseWorkerLocked_eq_some h hchoose
              have hcon := connected_of_eligible helig
              obtain ⟨hcons, hassigned⟩ := assignLocked_spec h hwait htask hc hcon now
                (hq.assign_normal c.workerId) h.retry_le
              refine ⟨_, ?_, hcons, hassigned, rfl, rfl⟩
              rw [nextAssignmentLocked, hnext, Option.map_some]
              have hchoose' :
                  Master.chooseWorkerLocked { m with normalTasks := rest } task =
                    some c := hchoose
              simp only [hchoose']
              rfl

end Distribution

end Master

end KVStore
