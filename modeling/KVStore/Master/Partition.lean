import KVStore.Master.Start

/-!
# Every task is in exactly one place

`Effect` lists what the locked sections can do to a consistent state, and
`step_effect` says that they do nothing else and keep it consistent. So every
reachable state is consistent and refines a run of the work ledger. Read back on
the deque, the heap and the sets of assigned ids, consistency is the partition
of the generated tasks that `InOnePlace` spells out.
-/

namespace KVStore

namespace Master

def connection (m : Master) (w : WorkerId) : Option Bool :=
  (m.workers.lookup w).map WorkerConnection.connected

/-- A step that moves no task: at most recorded statuses and the order of the
retries change. -/
structure SameWork (m m' : Master) : Prop where
  place : m'.place = m.place
  tasks : m'.tasks = m.tasks
  store : m'.store = m.store
  taskCount : m'.taskCount = m.taskCount
  connection : m'.connection = m.connection

/-- What a locked section can do. -/
inductive Effect (m : Master) : Action → Master → Prop
  | same (a : Action) (m' : Master) (h : SameWork m m') : Effect m a m'
  | assigned (now : ℚ) (t : TaskId) (p : Bool) (task : Task) (c : WorkerConnection)
      (m' : Master) (hhead : m.head = some (t, p))
      (htask : m.tasks.lookup t = some task)
      (hchoose : m.chooseWorkerLocked task = some c)
      (h : Assigned m (sentTo c.workerId now task) c.workerId m') :
      Effect m (.nextAssignment now) m'
  | finished (w : WorkerId) (payload : ResultPayload) (task : Task) (m' : Master)
      (hplace : m.place payload.taskId =
        some (.assigned (payload.assignmentWorkerId.getD w)))
      (htask : m.tasks.lookup payload.taskId = some task)
      (h : Finished m payload.taskId task m') :
      Effect m (.handleSuccess w payload) m'
  | failed (w : WorkerId) (payload : ResultPayload) (task : Task) (m' : Master)
      (hplace : m.place payload.taskId =
        some (.assigned (payload.assignmentWorkerId.getD w)))
      (hprevious : task.previousWorkerId = some w)
      (h : Requeued m payload.taskId task m')
      (hconnection : m'.connection = m.connection) :
      Effect m (.handleFailure w payload) m'
  | disconnected (w : WorkerId) (order : List TaskId) (m' : Master)
      (hconnected : m.connection w = some true) (h : Disconnected m w m') :
      Effect m (.disconnectWorker w order) m'

section Step

variable {m m' : Master} {a : Action}

theorem SameWork.refl (m : Master) : SameWork m m := ⟨rfl, rfl, rfl, rfl, rfl⟩

theorem PutBack.sameWork (h : PutBack m m') : SameWork m m' := by
  refine ⟨h.place, h.tasks, h.store, h.taskCount, ?_⟩
  funext w
  rw [connection, h.workers]
  rfl

theorem connection_eq_of_lookup {g : WorkerId → WorkerConnection → WorkerConnection}
    (h : ∀ v, m'.workers.lookup v = (m.workers.lookup v).map (g v))
    (hg : ∀ v c, (g v c).connected = c.connected) : m'.connection = m.connection := by
  funext v
  rw [connection, h, Option.map_map, connection]
  congr 1
  funext c
  exact hg v c

theorem Assigned.connection {task : Task} {w : WorkerId}
    (h : Assigned m task w m') : m'.connection = m.connection := by
  funext v
  rw [Master.connection, h.workers, Master.connection]
  split_ifs
  · rw [Option.map_map]
    rfl
  · rfl

theorem Finished.connection {t : TaskId} {task : Task}
    (h : Finished m t task m') : m'.connection = m.connection :=
  connection_eq_of_lookup h.workers fun _ _ => rfl

theorem Disconnected.connection {w : WorkerId} (h : Disconnected m w m') :
    m'.connection = fun v =>
      if v = w then (m.connection v).map fun _ => false else m.connection v := by
  funext v
  rw [Master.connection, h.workers]
  split_ifs
  · simp [Master.connection, Function.comp_def]
  · rfl

/-- Every locked section keeps the state consistent and has one of the listed
effects. -/
theorem step_effect (h : Consistent m) (hstep : step m a = some m') :
    Consistent m' ∧ Effect m a m' := by
  cases a with
  | nextAssignment now =>
      obtain ⟨_, hres⟩ | ⟨t, p, task, _, _, _, m₁, hres, hcons, hback, _⟩ |
        ⟨t, p, task, c, hhead, htask, hchoose, m₁, hres, hcons, hassigned, _⟩ :=
        nextAssignmentLocked_cases h now
      all_goals
        rw [step, hres] at hstep
        cases hstep
      · exact ⟨h, .same _ _ (.refl m)⟩
      · exact ⟨hcons, .same _ _ hback.sameWork⟩
      · exact ⟨hcons, .assigned now t p task c _ hhead htask hchoose hassigned⟩
  | disconnectWorker w order =>
      obtain ⟨c, hc, hstep⟩ := Option.bind_eq_some_iff.1 hstep
      split_ifs at hstep with horder
      obtain ⟨_, hres⟩ | ⟨hcon, m₁, hres, hcons, hdisc⟩ :=
        disconnectWorker_cases h hc horder.1 horder.2
      all_goals
        rw [hres] at hstep
        cases hstep
      · exact ⟨h, .same _ _ (.refl m)⟩
      · refine ⟨hcons, .disconnected w order _ ?_ hdisc⟩
        rw [connection, hc, Option.map_some, hcon]
  | handleSuccess w payload =>
      obtain ⟨c, hc, rfl⟩ := Option.map_eq_some_iff.1 hstep
      obtain ⟨_, hres⟩ | ⟨task, hplace, htask, hcons, hfin⟩ :=
        handleSuccess_cases h w payload
      · rw [hres]
        exact ⟨h, .same _ _ (.refl m)⟩
      · exact ⟨hcons, .finished w payload task _ hplace htask hfin⟩
  | handleFailure w payload =>
      obtain ⟨c, hc, rfl⟩ := Option.map_eq_some_iff.1 hstep
      obtain ⟨_, hres⟩ | ⟨task, hplace, hprev, hcons, hreq, hworkers⟩ :=
        handleFailure_cases h w payload
      · rw [hres]
        exact ⟨h, .same _ _ (.refl m)⟩
      · exact ⟨hcons, .failed w payload task _ hplace hprev hreq
          (connection_eq_of_lookup hworkers fun _ _ => rfl)⟩
  | queueStatus w payload =>
      obtain ⟨c, hc, rfl⟩ := Option.map_eq_some_iff.1 hstep
      obtain ⟨e, hres⟩ | ⟨hres, _⟩ := handleQueueStatus_cases m w payload
      · rw [hres]
        exact ⟨h, .same _ _ (.refl m)⟩
      · rw [hres]
        refine ⟨consistent_status h w payload, .same _ _ ⟨rfl, rfl, rfl, rfl, ?_⟩⟩
        funext v
        simp only [connection, Dict.lookup_modify]
        split_ifs
        · rw [Option.map_map]
          rfl
        · rfl

theorem consistent_run (h : Consistent m) {acts : List Action}
    (hrun : Transition.run step m acts = some m') : Consistent m' :=
  Transition.invariant_run (fun _ _ _ hm hstep => (step_effect hm hstep).1) h hrun

/-- No locked section raises `KeyError`: a section is only refused when it names
a worker that is not registered or a wrong iteration order. -/
theorem step_isSome_iff (h : Consistent m) :
    (step m a).isSome ↔
      match a with
      | .nextAssignment _ => True
      | .disconnectWorker w order => ∃ c, m.workers.lookup w = some c ∧
          order.Nodup ∧ order.toFinset = c.assignedTaskIds
      | .handleSuccess w _ => w ∈ m.workers
      | .handleFailure w _ => w ∈ m.workers
      | .queueStatus w _ => w ∈ m.workers := by
  cases a with
  | nextAssignment now =>
      obtain ⟨_, hres⟩ | ⟨t, p, task, _, _, _, m₁, hres, _⟩ |
        ⟨t, p, task, c, _, _, _, m₁, hres, _⟩ := nextAssignmentLocked_cases h now <;>
        simp [step, hres]
  | disconnectWorker w order =>
      cases hc : m.workers.lookup w with
      | none => simp [step, hc]
      | some c =>
          by_cases horder : order.Nodup ∧ order.toFinset = c.assignedTaskIds
          · obtain ⟨_, hres⟩ | ⟨_, m₁, hres, _⟩ :=
              disconnectWorker_cases h hc horder.1 horder.2 <;>
              simp [step, hc, horder, hres]
          · simp [step, hc, horder]
  | handleSuccess w payload => simp [step, ← AList.lookup_isSome]
  | handleFailure w payload => simp [step, ← AList.lookup_isSome]
  | queueStatus w payload => simp [step, ← AList.lookup_isSome]

theorem Effect.contents (h : Effect m a m') : m'.contents = m.contents := by
  cases h with
  | same _ _ h =>
      funext t
      rw [Master.contents, h.tasks]
      rfl
  | assigned now t p task c _ _ _ _ h => exact h.contents
  | finished w payload task _ _ _ h =>
      funext t
      rw [Master.contents, h.tasks]
      rfl
  | failed w payload task _ _ _ h _ => exact h.contents
  | disconnected w order _ _ h => exact h.contents

theorem Effect.taskCount (h : Effect m a m') : m'.taskCount = m.taskCount := by
  cases h with
  | same _ _ h => exact h.taskCount
  | assigned now t p task c _ _ _ _ h => exact h.taskCount
  | finished w payload task _ _ _ h => exact h.taskCount
  | failed w payload task _ _ _ h _ => exact h.taskCount
  | disconnected w order _ _ h => exact h.taskCount

theorem Effect.pending (heff : Effect m a m') {t : TaskId}
    (ht : m'.place t = some .pending) :
    m.place t = some .pending ∧ m'.tasks.lookup t = m.tasks.lookup t := by
  have hne : ∀ u q, q ≠ .pending →
      Function.update m.place u (some q) t = some .pending →
      t ≠ u ∧ m.place t = some .pending := by
    intro u q hq hu
    by_cases htu : t = u
    · subst htu
      rw [Function.update_self] at hu
      exact absurd (Option.some.inj hu) hq
    · rw [Function.update_of_ne htu] at hu
      exact ⟨htu, hu⟩
  cases heff with
  | same _ _ hsame =>
      rw [hsame.place] at ht
      exact ⟨ht, by rw [hsame.tasks]⟩
  | assigned now u p task c _ hhead htask _ hassigned =>
      rw [hassigned.place] at ht
      obtain ⟨htu, hplace⟩ := hne _ _ (by simp) ht
      exact ⟨hplace, by rw [hassigned.tasks, AList.lookup_insert_ne htu]⟩
  | finished w payload task _ _ _ hfin =>
      rw [hfin.place] at ht
      exact ⟨(hne _ _ (by simp) ht).2, by rw [hfin.tasks]⟩
  | failed w payload task _ _ _ hreq _ =>
      rw [hreq.place] at ht
      obtain ⟨htu, hplace⟩ := hne _ _ (by simp) ht
      exact ⟨hplace, by rw [hreq.tasks, AList.lookup_insert_ne htu]⟩
  | disconnected w order _ _ hdisc =>
      rw [hdisc.place, Ledger.release] at ht
      split_ifs at ht with hheld
      · cases ht
      · exact ⟨ht, by rw [hdisc.tasks, if_neg hheld]⟩

theorem Effect.known (heff : Effect m a m') (w : WorkerId) :
    (m'.connection w).isSome = (m.connection w).isSome := by
  cases heff with
  | same _ _ hsame => rw [hsame.connection]
  | assigned now u p task c _ _ _ _ hassigned => rw [hassigned.connection]
  | finished v payload task _ _ _ hfin => rw [hfin.connection]
  | failed v payload task _ _ _ _ hconnection => rw [hconnection]
  | disconnected v order _ _ hdisc =>
      rw [hdisc.connection]
      by_cases hw : w = v
      · simp [hw]
      · simp [hw]

theorem Effect.ledger_run (h : Consistent m) (heff : Effect m a m') :
    ∃ es, Transition.run Ledger.step m.place es = some m'.place := by
  cases heff with
  | same _ _ hsame => exact ⟨[], by rw [hsame.place, Transition.run_nil]⟩
  | assigned now t p task c _ hhead htask _ hassigned =>
      refine ⟨[.assign t c.workerId], ?_⟩
      have hid : (sentTo c.workerId now task).taskId = t := h.task_id t task htask
      rw [Transition.run_cons, Ledger.step_assign (waiting_head h hhead),
        hassigned.place, hid]
      rfl
  | finished w payload task _ hplace _ hfin =>
      refine ⟨[.finish payload.taskId], ?_⟩
      rw [Transition.run_cons, Ledger.step_finish hplace, hfin.place]
      rfl
  | failed w payload task _ hplace _ hreq _ =>
      refine ⟨[.requeue payload.taskId], ?_⟩
      rw [Transition.run_cons, Ledger.step_requeue hplace, hreq.place]
      rfl
  | disconnected w order _ hconn hdisc =>
      obtain ⟨c, hc, _⟩ := Option.map_eq_some_iff.1 hconn
      refine ⟨c.assignedTaskIds.toList.map .requeue, ?_⟩
      rw [hdisc.place]
      refine Ledger.run_requeue c.assignedTaskIds.nodup_toList fun t => ?_
      rw [Finset.mem_toList, h.holders.mem_assigned w c hc]

/-- The Master refines the work ledger: every run of locked sections is a run of
the ledger. -/
theorem ledger_refinement (h : Consistent m) {acts : List Action}
    (hrun : Transition.run step m acts = some m') :
    ∃ es, Transition.run Ledger.step m.place es = some m'.place :=
  Transition.simulation_run (fun _ _ _ hm hstep => (step_effect hm hstep).1)
    (fun _ _ _ hm hstep => (step_effect hm hstep).2.ledger_run hm) h hrun

theorem contents_run (h : Consistent m) {acts : List Action}
    (hrun : Transition.run step m acts = some m') : m'.contents = m.contents :=
  Transition.relation_run (R := fun (m m' : Master) => m'.contents = m.contents)
    (fun _ => rfl) (fun _ _ _ h₁ h₂ => h₂.trans h₁)
    (fun _ _ _ hm hstep => (step_effect hm hstep).1)
    (fun _ _ _ hm hstep => (step_effect hm hstep).2.contents) h hrun

end Step

/-! ### The partition -/

/-- `t` is in the set of assigned ids of the registered worker `w`. -/
def HeldBy (m : Master) (t : TaskId) (w : WorkerId) : Prop :=
  ∃ c, m.workers.lookup w = some c ∧ t ∈ c.assignedTaskIds

/-- `t` is in one place, the one that its state says, and once. -/
def InOnePlace (m : Master) (t : TaskId) : Prop :=
  match m.taskState.lookup t with
  | some .pending =>
      m.normalTasks.count t = 1 ∧ m.retryIds.count t = 0 ∧ ∀ w, ¬ HeldBy m t w
  | some .retry =>
      m.normalTasks.count t = 0 ∧ m.retryIds.count t = 1 ∧ ∀ w, ¬ HeldBy m t w
  | some .assigned =>
      m.normalTasks.count t = 0 ∧ m.retryIds.count t = 0 ∧
        ∃ w, (∀ v, HeldBy m t v ↔ v = w) ∧ m.connection w = some true ∧
          (m.tasks.lookup t).bind Task.assignmentWorkerId = some w
  | some .done =>
      m.normalTasks.count t = 0 ∧ m.retryIds.count t = 0 ∧ ∀ w, ¬ HeldBy m t w
  | none => False

theorem heldBy_iff {m : Master} (h : Consistent m) {t : TaskId} {w : WorkerId} :
    HeldBy m t w ↔ m.place t = some (.assigned w) := by
  constructor
  · rintro ⟨c, hc, ht⟩
    exact (h.holders.mem_assigned w c hc t).1 ht
  · intro ht
    obtain ⟨c, hc, _⟩ := h.holders.holder t w ht
    exact ⟨c, hc, (h.holders.mem_assigned w c hc t).2 ht⟩

/-- In a consistent state every known task is in exactly one place. -/
theorem inOnePlace_of_place {m : Master} (h : Consistent m) {t : TaskId}
    {p : Place WorkerId} (hp : m.place t = some p) : InOnePlace m t := by
  have hnormal : m.normalTasks.count t = if p = .pending then 1 else 0 := by
    rw [h.queues.normal_nodup.count]
    refine if_congr ?_ rfl rfl
    rw [h.queues.mem_normal, hp, Option.some.injEq]
  have hretry : m.retryIds.count t = if p = .retry then 1 else 0 := by
    rw [h.queues.retry_nodup.count]
    refine if_congr ?_ rfl rfl
    rw [h.queues.mem_retry, hp, Option.some.injEq]
  have hheld : ∀ w, HeldBy m t w ↔ p = .assigned w := by
    intro w
    rw [heldBy_iff h, hp, Option.some.injEq]
  rw [InOnePlace, (state_of_place hp).1]
  cases p with
  | pending => exact ⟨by simpa using hnormal, by simpa using hretry, by simp [hheld]⟩
  | retry => exact ⟨by simpa using hnormal, by simpa using hretry, by simp [hheld]⟩
  | done => exact ⟨by simpa using hnormal, by simpa using hretry, by simp [hheld]⟩
  | assigned w =>
      obtain ⟨c, hc, hcon⟩ := h.holders.holder t w hp
      obtain ⟨_, task, htask, hw⟩ := place_eq_assigned_iff.1 hp
      refine ⟨by simpa using hnormal, by simpa using hretry, w, ?_, ?_, ?_⟩
      · intro v
        rw [hheld, Place.assigned.injEq, eq_comm]
      · rw [connection, hc, Option.map_some, hcon]
      · rw [htask, Option.bind_some, hw]

theorem place_isSome_iff {count : ℕ} {rng : RandomSource} {ws : List WorkerId}
    {m₀ m : Master} (h₀ : Started count rng ws m₀) (h : Consistent m)
    (hcontents : m.contents = m₀.contents) (t : TaskId) :
    (m.place t).isSome ↔ ∃ task ∈ generated count rng, task.taskId = t := by
  have hknown : (m.tasks.lookup t).isSome ↔ (m₀.tasks.lookup t).isSome := by
    have hc := congrFun hcontents t
    unfold contents at hc
    rw [← Option.isSome_map (f := fun task : Task => (task.key, task.value)), hc,
      Option.isSome_map]
  have hplace : (m.place t).isSome ↔ (m.tasks.lookup t).isSome := by
    constructor
    · intro hp
      obtain ⟨p, hp⟩ := Option.isSome_iff_exists.1 hp
      obtain ⟨_, task, htask⟩ := state_of_place hp
      rw [htask]
      rfl
    · exact fun ht => h.placed t (h.recorded t ht)
  rw [hplace, hknown, Option.isSome_iff_exists]
  exact exists_congr fun task => h₀.tasks t task

/-- **Ledger partition.** After any sequence of locked sections every generated
task is in exactly one place, the one its state says, and the deque, the heap and
the sets of assigned ids hold nothing else. -/
theorem ledger_partition {count : ℕ} {rng : RandomSource} {ws : List WorkerId}
    {m₀ m : Master} {acts : List Action} (hstart : start count rng ws = .ok m₀)
    (hrun : Transition.run step m₀ acts = some m) :
    (∀ task ∈ generated count rng, InOnePlace m task.taskId) ∧
      ∀ t, (t ∈ m.normalTasks ∨ t ∈ m.retryIds ∨ ∃ w, HeldBy m t w) →
        ∃ task ∈ generated count rng, task.taskId = t := by
  have h₀ := started_of_start hstart
  have h := consistent_run h₀.consistent hrun
  have hknown := place_isSome_iff h₀ h (contents_run h₀.consistent hrun)
  constructor
  · intro task htask
    obtain ⟨p, hp⟩ := Option.isSome_iff_exists.1 ((hknown task.taskId).2 ⟨task, htask, rfl⟩)
    exact inOnePlace_of_place h hp
  · intro t ht
    refine (hknown t).1 ?_
    rcases ht with ht | ht | ⟨w, ht⟩
    · rw [(h.queues.mem_normal t).1 ht]
      rfl
    · rw [(h.queues.mem_retry t).1 ht]
      rfl
    · rw [(heldBy_iff h).1 ht]
      rfl

/-- A run with a failure, a lost worker and a put-back. -/
theorem ledger_partition_two_tasks :
    ∃ m₀ m, start 2 .first ["worker1", "worker2"] = .ok m₀ ∧
      Transition.run step m₀ [.nextAssignment 0, .nextAssignment 1,
        .handleFailure "worker1" { taskId := "task-0001" },
        .disconnectWorker "worker2" ["task-0002"], .nextAssignment 2] = some m ∧
      ∀ task ∈ generated 2 .first, InOnePlace m task.taskId := by
  obtain ⟨m₀, m, hstart, hrun, _⟩ := exists_reached 2 .first ["worker1", "worker2"]
    [.nextAssignment 0, .nextAssignment 1,
      .handleFailure "worker1" { taskId := "task-0001" },
      .disconnectWorker "worker2" ["task-0002"], .nextAssignment 2]
    (p := fun _ => True) (by decide)
  exact ⟨m₀, m, hstart, hrun, (ledger_partition hstart hrun).1⟩

end Master

end KVStore
