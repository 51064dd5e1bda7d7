import KVStore.Master.Steps

/-!
# The state in which distribution starts

`start` adds the generated tasks one by one and then registers the workers one
by one. Both keep the state consistent; `Started` collects what is known of the
result.
-/

namespace KVStore

theorem HoldersMatch.relabel {L : Ledger TaskId WorkerId}
    {workers : Dict WorkerId WorkerConnection} (h : HoldersMatch L workers) {t : TaskId}
    (ht : ∀ v, L t ≠ some (.assigned v)) {p : Place WorkerId}
    (hp : ∀ v, p ≠ .assigned v) :
    HoldersMatch (Function.update L t (some p)) workers := by
  constructor
  · intro v c hc u
    rw [h.mem_assigned v c hc u]
    by_cases hu : u = t
    · subst hu
      simp [ht v, hp v]
    · rw [Function.update_of_ne hu]
  · intro u v hu
    by_cases hut : u = t
    · subst hut
      rw [Function.update_self] at hu
      exact absurd (Option.some.inj hu) (hp v)
    · rw [Function.update_of_ne hut] at hu
      exact h.holder u v hu

namespace Master

theorem consistent_empty (taskCount : ℕ) : Consistent { taskCount } := by
  have hplace : ∀ t, Master.place { taskCount } t = none := fun _ => rfl
  refine ⟨⟨?_, ?_, ?_, ⟨List.nodup_nil, ?_, List.nodup_nil, ?_⟩, ?_⟩, ?_, ⟨?_, ?_⟩⟩
  · intro t task h
    cases h
  · intro t h
    cases h
  · intro t h
    cases h
  · intro t
    simp [hplace]
  · intro t
    simp [hplace, retryIds]
  · intro e he
    cases he
  · intro w c h
    cases h
  · intro w c h
    cases h
  · intro t w h
    cases h

section Start

variable {m : Master}

theorem place_addTask (m : Master) (task : Task) :
    (m.addTask task).place = Function.update m.place task.taskId (some .pending) := by
  rw [place_eq_update (m := m) (t := task.taskId) rfl
    fun u hu => AList.lookup_insert_ne hu]
  simp [addTask, placeOf]

theorem consistent_addTask (h : Consistent m) {task : Task}
    (hfresh : m.tasks.lookup task.taskId = none) : Consistent (m.addTask task) := by
  have hplace := place_addTask m task
  have hnone : m.place task.taskId = none := by
    cases hp : m.place task.taskId with
    | none => rfl
    | some p =>
        obtain ⟨_, task', htask'⟩ := state_of_place hp
        rw [hfresh] at htask'
        cases htask'
  have hnormal : task.taskId ∉ m.normalTasks := by
    rw [h.queues.mem_normal, hnone]
    simp
  have hretry : task.taskId ∉ m.retryIds := by
    rw [h.queues.mem_retry, hnone]
    simp
  refine ⟨⟨?_, ?_, ?_, ?_, h.retry_le⟩, h.worker_id, ?_⟩
  · intro u task' hu
    rw [addTask, Dict.lookup_insert_eq_ite] at hu
    split_ifs at hu with hut
    · cases hu
      exact hut.symm
    · exact h.task_id u task' hu
  · intro u hu
    rw [addTask, Dict.lookup_insert_eq_ite] at hu ⊢
    split_ifs at hu ⊢
    · rfl
    · exact h.recorded u hu
  · intro u hu
    rw [hplace]
    rw [addTask, Dict.lookup_insert_eq_ite] at hu
    by_cases hut : u = task.taskId
    · rw [hut, Function.update_self]
      rfl
    · rw [Function.update_of_ne hut]
      rw [if_neg hut] at hu
      exact h.placed u hu
  · rw [hplace]
    refine ⟨?_, ?_, h.queues.retry_nodup, ?_⟩
    · exact List.nodup_append_comm.1 (List.nodup_cons.2 ⟨hnormal, h.queues.normal_nodup⟩)
    · intro u
      by_cases hut : u = task.taskId
      · subst hut
        simp [addTask]
      · rw [Function.update_of_ne hut, ← h.queues.mem_normal]
        simp [addTask, hut]
    · intro u
      by_cases hut : u = task.taskId
      · subst hut
        rw [Function.update_self]
        exact iff_of_false hretry (by simp)
      · rw [Function.update_of_ne hut]
        exact h.queues.mem_retry u
  · rw [hplace]
    refine h.holders.relabel (fun v hv => ?_) (by simp)
    rw [hnone] at hv
    cases hv

/-- The loop of `_prepare_tasks` over tasks with distinct new ids. -/
theorem foldl_addTask (h : Consistent m) {tasks : List Task}
    (hnodup : (tasks.map Task.taskId).Nodup)
    (hfresh : ∀ task ∈ tasks, m.tasks.lookup task.taskId = none) :
    Consistent (tasks.foldl addTask m) ∧
      (∀ t task, (tasks.foldl addTask m).tasks.lookup t = some task ↔
        m.tasks.lookup t = some task ∨ (task ∈ tasks ∧ task.taskId = t)) ∧
      (∀ t, (tasks.foldl addTask m).place t =
        if t ∈ tasks.map Task.taskId then some .pending else m.place t) ∧
      (tasks.foldl addTask m).workers = m.workers ∧
      (tasks.foldl addTask m).store = m.store ∧
      (tasks.foldl addTask m).taskCount = m.taskCount := by
  induction tasks generalizing m with
  | nil => exact ⟨h, by simp, by simp, rfl, rfl, rfl⟩
  | cons task tasks ih =>
      rw [List.map_cons, List.nodup_cons] at hnodup
      have hnew := hfresh task (by simp)
      have hfresh' : ∀ other ∈ tasks, (m.addTask task).tasks.lookup other.taskId = none := by
        intro other hother
        have hne : other.taskId ≠ task.taskId := fun heq =>
          hnodup.1 (heq ▸ List.mem_map_of_mem hother)
        rw [addTask, AList.lookup_insert_ne hne]
        exact hfresh other (List.mem_cons_of_mem task hother)
      obtain ⟨hcons, htasks, hplace, hworkers, hstore, hcount⟩ :=
        ih (consistent_addTask h hnew) hnodup.2 hfresh'
      refine ⟨hcons, ?_, ?_, hworkers, hstore, hcount⟩
      · intro t other
        rw [List.foldl_cons, htasks, addTask, Dict.lookup_insert_eq_ite]
        by_cases ht : t = task.taskId
        · subst ht
          rw [if_pos rfl, hnew]
          constructor
          · rintro (hother | ⟨hother, hid⟩)
            · cases hother
              exact .inr ⟨by simp, rfl⟩
            · exact .inr ⟨List.mem_cons_of_mem task hother, hid⟩
          · rintro (hother | ⟨hother, hid⟩)
            · cases hother
            · rcases List.mem_cons.1 hother with rfl | hother
              · exact .inl rfl
              · exact .inr ⟨hother, hid⟩
        · rw [if_neg ht]
          refine or_congr_right ⟨?_, ?_⟩
          · rintro ⟨hother, hid⟩
            exact ⟨List.mem_cons_of_mem task hother, hid⟩
          · rintro ⟨hother, hid⟩
            rcases List.mem_cons.1 hother with rfl | hother
            · exact absurd hid.symm ht
            · exact ⟨hother, hid⟩
      · intro t
        rw [List.foldl_cons, hplace, place_addTask]
        by_cases ht : t = task.taskId
        · subst ht
          simp
        · rw [Function.update_of_ne ht]
          simp [ht]

/-- A registered worker of which the Master knows nothing yet. -/
structure Fresh (w : WorkerId) (c : WorkerConnection) : Prop where
  connected : c.connected = true
  workerId_ne : w ≠ ""
  queueSize : c.status.queueSize = 0
  queueCapacity : c.status.queueCapacity = DEFAULT_QUEUE_CAPACITY

theorem registerWorker_eq_ok {m' : Master} {w : WorkerId} (h : Consistent m)
    (hok : m.registerWorker w = .ok m') :
    Consistent m' ∧ m'.place = m.place ∧ m'.tasks = m.tasks ∧ m'.store = m.store ∧
      m'.taskCount = m.taskCount ∧ w ∉ m.workers ∧
      ∃ c, Fresh w c ∧ m'.workers = m.workers.insert w c := by
  unfold registerWorker at hok
  split_ifs at hok with hmem
  cases hpost : WorkerStatus.postInit { workerId := w, queueSize := 0 } with
  | error e =>
      rw [hpost] at hok
      cases hok
  | ok status =>
      rw [hpost] at hok
      cases hok
      obtain ⟨rfl, hvalid⟩ := WorkerStatus.postInit_eq_ok hpost
      have hname : w ≠ "" := by
        intro hw
        simp [WorkerStatus.postInit, hw] at hpost
      refine ⟨⟨⟨h.task_id, h.recorded, h.placed, h.queues, h.retry_le⟩, ?_, ?_⟩,
        rfl, rfl, rfl, rfl, hmem, _, ⟨rfl, hname, rfl, rfl⟩, rfl⟩
      · intro v c hc
        rw [Dict.lookup_insert_eq_ite] at hc
        split_ifs at hc with hv
        · cases hc
          exact hv.symm
        · exact h.worker_id v c hc
      · constructor
        · intro v c hc t
          rw [Dict.lookup_insert_eq_ite] at hc
          split_ifs at hc with hv
          · cases hc
            subst hv
            have hfree : m.place t ≠ some (.assigned v) := by
              intro ht
              obtain ⟨d, hd, _⟩ := h.holders.holder t v ht
              exact hmem (AList.lookup_isSome.1 (by rw [hd]; rfl))
            exact ⟨fun ht => absurd ht (Finset.notMem_empty t), fun ht => absurd ht hfree⟩
          · exact h.holders.mem_assigned v c hc t
        · intro t v ht
          obtain ⟨c, hc, hcon⟩ := h.holders.holder t v ht
          have hv : v ≠ w := by
            rintro rfl
            exact hmem (AList.lookup_isSome.1 (by rw [hc]; rfl))
          exact ⟨c, by rw [Dict.lookup_insert_eq_ite, if_neg hv, hc], hcon⟩

theorem foldlM_registerWorker {m' : Master} {ws : List WorkerId} (h : Consistent m)
    (hfresh : ∀ w c, m.workers.lookup w = some c → Fresh w c)
    (hok : ws.foldlM registerWorker m = .ok m') :
    Consistent m' ∧ m'.place = m.place ∧ m'.tasks = m.tasks ∧ m'.store = m.store ∧
      m'.taskCount = m.taskCount ∧
      (∀ w c, m'.workers.lookup w = some c → Fresh w c) ∧
      (∀ w, w ∈ m'.workers ↔ w ∈ m.workers ∨ w ∈ ws) := by
  induction ws generalizing m with
  | nil =>
      cases hok
      exact ⟨h, rfl, rfl, rfl, rfl, hfresh, by simp⟩
  | cons w ws ih =>
      rw [List.foldlM_cons] at hok
      cases hreg : m.registerWorker w with
      | error e =>
          rw [hreg] at hok
          cases hok
      | ok m₁ =>
          rw [hreg] at hok
          obtain ⟨hcons, hplace, htasks, hstore, hcount, _, c, hc, hworkers⟩ :=
            registerWorker_eq_ok h hreg
          have hfresh₁ : ∀ v d, m₁.workers.lookup v = some d → Fresh v d := by
            intro v d hd
            rw [hworkers, Dict.lookup_insert_eq_ite] at hd
            split_ifs at hd with hv
            · cases hd
              rw [hv]
              exact hc
            · exact hfresh v d hd
          obtain ⟨hcons', hplace', htasks', hstore', hcount', hfresh', hmem'⟩ :=
            ih hcons hfresh₁ hok
          refine ⟨hcons', hplace'.trans hplace, htasks'.trans htasks,
            hstore'.trans hstore, hcount'.trans hcount, hfresh', ?_⟩
          intro v
          rw [hmem', hworkers, AList.mem_insert, List.mem_cons]
          tauto

structure Started (count : ℕ) (rng : RandomSource) (ws : List WorkerId)
    (m : Master) : Prop where
  consistent : Consistent m
  admitted : 1 ≤ count ∧ count ≤ 65536
  taskCount : m.taskCount = count
  tasks : ∀ t task, m.tasks.lookup t = some task ↔
    task ∈ generated count rng ∧ task.taskId = t
  place : ∀ t p, m.place t = some p → p = .pending
  store : m.store = ∅
  fresh : ∀ w c, m.workers.lookup w = some c → Fresh w c
  registered : ∀ w, w ∈ m.workers ↔ w ∈ ws

/-- The state that the locked sections `acts` lead to from the start. -/
def reached (count : ℕ) (rng : RandomSource) (ws : List WorkerId)
    (acts : List Action) : Option Master :=
  (start count rng ws).toOption.bind fun m₀ => Transition.run step m₀ acts

theorem exists_reached (count : ℕ) (rng : RandomSource) (ws : List WorkerId)
    (acts : List Action) {p : Master → Prop} [DecidablePred p]
    (h : (reached count rng ws acts).any (fun m => decide (p m)) = true) :
    ∃ m₀ m, start count rng ws = .ok m₀ ∧ Transition.run step m₀ acts = some m ∧ p m :=
  Transition.exists_run_of_bind h

theorem started_of_start {count : ℕ} {rng : RandomSource} {ws : List WorkerId}
    (hstart : start count rng ws = .ok m) : Started count rng ws m := by
  unfold start prepareTasks at hstart
  cases hgen : generateTasks count rng with
  | error e =>
      rw [show generateTasks (Master.taskCount { taskCount := count }) rng =
        .error e from hgen] at hstart
      cases hstart
  | ok tasks =>
      rw [show generateTasks (Master.taskCount { taskCount := count }) rng =
        .ok tasks from hgen] at hstart
      obtain ⟨hadmitted, rfl⟩ := generateTasks_eq_ok_iff.1 hgen
      obtain ⟨hcons, htasks, hplace, hworkers, hstore, hcount⟩ :=
        foldl_addTask (consistent_empty count) (nodup_map_taskId_generated count rng)
          fun _ _ => rfl
      obtain ⟨hcons', hplace', htasks', hstore', hcount', hfresh', hmem'⟩ :=
        foldlM_registerWorker hcons (by
          intro w c hc
          rw [hworkers] at hc
          cases hc) hstart
      refine ⟨hcons', hadmitted, hcount'.trans hcount, ?_, ?_, hstore'.trans hstore,
        hfresh', ?_⟩
      · intro t task
        rw [htasks', htasks]
        simp
      · intro t p hp
        rw [hplace', hplace] at hp
        split_ifs at hp
        · exact (Option.some.inj hp).symm
        · cases hp
      · intro w
        rw [hmem', hworkers]
        simp

end Start

end Master

end KVStore
