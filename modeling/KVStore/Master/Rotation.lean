import KVStore.Master.Store
import Mathlib.Data.List.Rotate

/-!
# Blocked retries

`_next_assignment_locked` looks at one task: the head of the retry heap, or the first pending
task when the heap is empty. A retry that no worker is eligible for goes to the end of the heap
and the call returns `None`. So the retries take turns (`retry_rotation`), while the pending
tasks wait behind them even where all retries are blocked (`pending_assigned_iff`).
-/

namespace KVStore

namespace Master

/-- A connected worker below its recorded capacity would take the task, and it is not the one
that had it before. -/
def Assignable (m : Master) (t : TaskId) : Prop :=
  ∃ task w c, m.tasks.lookup t = some task ∧ m.workers.lookup w = some c ∧
    eligible task c = true

theorem assignable_iff {m : Master} {t : TaskId} :
    m.Assignable t ↔ ((m.tasks.lookup t).bind m.chooseWorkerLocked).isSome = true := by
  cases htask : m.tasks.lookup t with
  | none =>
      refine iff_of_false ?_ (by simp)
      rintro ⟨task, _, _, h, _⟩
      rw [htask] at h
      cases h
  | some task =>
      rw [Option.bind_some, ← Option.ne_none_iff_isSome, ne_eq, chooseWorkerLocked_eq_none_iff]
      constructor
      · rintro ⟨task', w, c, h, hc, helig⟩ hnone
        rw [htask] at h
        cases h
        rw [hnone w c hc] at helig
        cases helig
      · intro hsome
        by_contra hnot
        refine hsome fun w c hc => ?_
        by_contra helig
        exact hnot ⟨task, w, c, htask, hc, Bool.eq_true_of_not_eq_false helig⟩

instance (m : Master) (t : TaskId) : Decidable (m.Assignable t) :=
  decidable_of_iff _ assignable_iff.symm

/-- Consecutive calls of `_next_assignment_locked`, at the clock readings `nows`. -/
def nextAssignments : List ℚ → Master → Option (List (Option Assignment) × Master)
  | [], m => some ([], m)
  | now :: nows, m =>
      (m.nextAssignmentLocked now).bind fun (assignment, m) =>
        (nextAssignments nows m).map fun (assignments, m) => (assignment :: assignments, m)

/-- No task was lost, duplicated or put in another state, and no record changed. -/
structure SameTasks (m m' : Master) : Prop where
  taskState : ∀ t, m'.taskState.lookup t = m.taskState.lookup t
  retryIds : m'.retryIds.Perm m.retryIds
  normalTasks : m'.normalTasks = m.normalTasks
  tasks : m'.tasks = m.tasks
  workers : m'.workers = m.workers
  store : m'.store = m.store

/-- Let `t` be the first retry in the order of the heap that some worker would take. Each call
before its turn returns `None` and changes nothing but the order of the retries, and the call
at its turn assigns it. -/
def TakesTurns (m : Master) : Prop :=
  ∃ before t after, m.retryIds = before ++ t :: after ∧
    (∀ u ∈ before, ¬ m.Assignable u) ∧ m.Assignable t ∧
    (∀ nows : List ℚ, nows.length ≤ before.length →
      ∃ m', nextAssignments nows m = some (List.replicate nows.length none, m') ∧
        SameTasks m m' ∧ m'.retryIds = m.retryIds.rotate nows.length) ∧
    ∀ (nows : List ℚ) (now : ℚ), nows.length = before.length →
      ∃ task c m', nextAssignments (nows ++ [now]) m =
          some (List.replicate nows.length none ++
            [some ⟨sentTo c.workerId now task, c.workerId, true⟩], m') ∧
        m.tasks.lookup t = some task ∧ task.taskId = t ∧
        m.workers.lookup c.workerId = some c ∧ eligible task c = true ∧
        m'.retryIds = after ++ before

section

variable {m m' : Master} {t : TaskId} {now : ℚ}

theorem taskState_eq_of_place (h : Consistent m) (h' : Consistent m')
    (hplace : m'.place = m.place) (t : TaskId) :
    m'.taskState.lookup t = m.taskState.lookup t := by
  cases hp : m.place t with
  | some p => rw [(state_of_place hp).1, (state_of_place (hplace ▸ hp)).1]
  | none =>
      have hnone : ∀ m : Master, Consistent m → m.place t = none → m.taskState.lookup t = none := by
        intro m h hp
        by_contra hsome
        have hplaced := h.placed t (Option.ne_none_iff_isSome.1 hsome)
        rw [hp] at hplaced
        cases hplaced
      rw [hnone m h hp, hnone m' h' (hplace ▸ hp)]

theorem SameTasks.refl (m : Master) : SameTasks m m :=
  ⟨fun _ => rfl, .refl _, rfl, rfl, rfl, rfl⟩

theorem SameTasks.trans {m'' : Master} (h : SameTasks m m') (h' : SameTasks m' m'') :
    SameTasks m m'' where
  taskState t := (h'.taskState t).trans (h.taskState t)
  retryIds := h'.retryIds.trans h.retryIds
  normalTasks := h'.normalTasks.trans h.normalTasks
  tasks := h'.tasks.trans h.tasks
  workers := h'.workers.trans h.workers
  store := h'.store.trans h.store

theorem SameTasks.assignable_iff (h : SameTasks m m') : m'.Assignable t ↔ m.Assignable t := by
  rw [Assignable, Assignable, h.tasks, h.workers]

/-- A call on a head that is not assignable returns `None`, and at most the head of the retries
moves to the end. -/
theorem nextAssignmentLocked_of_blocked (h : Consistent m) {p : Bool}
    (hhead : m.head = some (t, p)) (hblocked : ¬ m.Assignable t) (now : ℚ) :
    ∃ m', m.nextAssignmentLocked now = some (none, m') ∧ Consistent m' ∧ SameTasks m m' ∧
      m'.retryIds = if p then m.retryIds.tail ++ [t] else m.retryIds := by
  obtain ⟨hnone, _⟩ | ⟨u, p', task, hu, htask, _, m', hnext, hcons, hback, hids, hnormal⟩ |
    ⟨u, p', task, c, hu, htask, hchoose, _⟩ := nextAssignmentLocked_cases h now
  · rw [hhead] at hnone
    cases hnone
  · rw [hhead] at hu
    cases hu
    refine ⟨m', hnext, hcons, ⟨taskState_eq_of_place h hcons hback.place, ?_, hnormal,
      hback.tasks, hback.workers, hback.store⟩, hids⟩
    rw [hids]
    cases p with
    | false => exact .refl _
    | true =>
        unfold head at hhead
        split at hhead
        · next hretry =>
            cases hhead
            rw [hretry]
            exact List.perm_append_singleton _ _
        · cases hhead
        · cases hhead
  · rw [hhead] at hu
    cases hu
    refine absurd (assignable_iff.2 ?_) hblocked
    rw [htask, Option.bind_some, hchoose]
    rfl

theorem nextAssignmentLocked_of_assignable (h : Consistent m) {p : Bool}
    (hhead : m.head = some (t, p)) (hassignable : m.Assignable t) (now : ℚ) :
    ∃ task c m', m.nextAssignmentLocked now =
        some (some ⟨sentTo c.workerId now task, c.workerId, p⟩, m') ∧
      m.tasks.lookup t = some task ∧ task.taskId = t ∧
      m.workers.lookup c.workerId = some c ∧ eligible task c = true ∧
      m'.retryIds = if p then m.retryIds.tail else m.retryIds := by
  obtain ⟨hnone, _⟩ | ⟨u, p', task, hu, htask, hchoose, _⟩ |
    ⟨u, p', task, c, hu, htask, hchoose, m', hnext, _, _, hids, _⟩ :=
    nextAssignmentLocked_cases h now
  · rw [hhead] at hnone
    cases hnone
  · rw [hhead] at hu
    cases hu
    rw [Master.assignable_iff, htask, Option.bind_some, hchoose] at hassignable
    cases hassignable
  · rw [hhead] at hu
    cases hu
    obtain ⟨hc, helig⟩ := chooseWorkerLocked_eq_some h hchoose
    exact ⟨task, c, m', hnext, htask, h.task_id t task htask, hc, helig, hids⟩

theorem nextAssignments_cons {m₁ : Master} {assignment : Option Assignment}
    (h : m.nextAssignmentLocked now = some (assignment, m₁)) (nows : List ℚ) :
    nextAssignments (now :: nows) m =
      (nextAssignments nows m₁).map fun (assignments, m') => (assignment :: assignments, m') := by
  rw [nextAssignments, h]
  rfl

theorem head_of_retryIds {rest : List TaskId} (h : m.retryIds = t :: rest) :
    m.head = some (t, true) := by
  rw [head, h]

/-- The blocked retries in front go to the end, one with each call. -/
theorem nextAssignments_of_blocked (h : Consistent m) {before rest : List TaskId}
    (hids : m.retryIds = before ++ rest) (hblocked : ∀ u ∈ before, ¬ m.Assignable u)
    (nows : List ℚ) (hlength : nows.length = before.length) :
    ∃ m', nextAssignments nows m = some (List.replicate nows.length none, m') ∧
      Consistent m' ∧ SameTasks m m' ∧ m'.retryIds = rest ++ before := by
  induction before generalizing m rest nows with
  | nil =>
      obtain rfl := List.length_eq_zero_iff.1 hlength
      refine ⟨m, rfl, h, .refl m, ?_⟩
      rw [hids, List.nil_append, List.append_nil]
  | cons u before ih =>
      cases nows with
      | nil => cases hlength
      | cons now nows =>
          obtain ⟨m₁, hnext, hcons₁, hsame₁, hids₁⟩ := nextAssignmentLocked_of_blocked h
            (head_of_retryIds hids) (hblocked u List.mem_cons_self) now
          have hrest : m₁.retryIds = before ++ (rest ++ [u]) := by
            rw [hids₁, if_pos rfl, hids, List.cons_append, List.tail_cons, List.append_assoc]
          have hblocked₁ : ∀ v ∈ before, ¬ m₁.Assignable v := by
            intro v hv
            rw [hsame₁.assignable_iff]
            exact hblocked v (List.mem_cons_of_mem u hv)
          obtain ⟨m', hcalls, hcons, hsame, hids'⟩ := ih hcons₁ hrest hblocked₁
            nows (Nat.succ_inj.1 hlength)
          refine ⟨m', ?_, hcons, hsame₁.trans hsame, ?_⟩
          · rw [nextAssignments_cons hnext, hcalls]
            rfl
          · rw [hids', List.append_assoc, List.singleton_append]

theorem nextAssignments_append {assignments : List (Option Assignment)} {nows : List ℚ}
    (h : nextAssignments nows m = some (assignments, m')) {assignment : Option Assignment}
    {m'' : Master} (hnext : m'.nextAssignmentLocked now = some (assignment, m'')) :
    nextAssignments (nows ++ [now]) m = some (assignments ++ [assignment], m'') := by
  induction nows generalizing m assignments with
  | nil =>
      cases h
      rw [List.nil_append, nextAssignments_cons hnext]
      rfl
  | cons first nows ih =>
      rw [nextAssignments, Option.bind_eq_some_iff] at h
      obtain ⟨⟨a, m₁⟩, hfirst, h⟩ := h
      obtain ⟨⟨as, m₂⟩, hrest, h⟩ := Option.map_eq_some_iff.1 h
      cases h
      rw [List.cons_append, nextAssignments_cons hfirst, ih hrest]
      rfl

end

/-! ### From any reachable state -/

section

variable {count : ℕ} {rng : RandomSource} {ws : List WorkerId} {m₀ m : Master}
variable {acts : List Action}

/-- **Retries take turns.** In a reachable state with a retry that some worker would take, the
heap lists the retries, each once, and they take turns. -/
theorem retry_rotation (hstart : start count rng ws = .ok m₀)
    (hrun : Transition.run step m₀ acts = some m)
    (hretry : ∃ t, m.taskState.lookup t = some .retry ∧ m.Assignable t) :
    m.retryIds.Nodup ∧ (∀ t, t ∈ m.retryIds ↔ m.taskState.lookup t = some .retry) ∧
      m.TakesTurns := by
  have h := consistent_run (started_of_start hstart).consistent hrun
  have hmem : ∀ t, t ∈ m.retryIds ↔ m.taskState.lookup t = some .retry := by
    intro t
    rw [h.queues.mem_retry, h.state_retry_iff]
  obtain ⟨u, hu, hassignable⟩ := hretry
  -- the first retry in the heap that some worker would take
  obtain ⟨t, hfind⟩ : ∃ t, m.retryIds.find? (fun u => decide (m.Assignable u)) = some t := by
    rw [← Option.isSome_iff_exists, List.find?_isSome]
    exact ⟨u, (hmem u).2 hu, decide_eq_true hassignable⟩
  obtain ⟨ht, before, after, hsplit, hbefore⟩ := List.find?_eq_some_iff_append.1 hfind
  have hblocked : ∀ u ∈ before, ¬ m.Assignable u := fun u hu => by
    simpa using hbefore u hu
  refine ⟨h.queues.retry_nodup, hmem, before, t, after, hsplit, hblocked, of_decide_eq_true ht,
    fun nows hle => ?_, fun nows now hlength => ?_⟩
  · have htake : m.retryIds =
        before.take nows.length ++ (before.drop nows.length ++ t :: after) := by
      rw [← List.append_assoc, List.take_append_drop, hsplit]
    obtain ⟨m', hcalls, _, hsame, hids⟩ := nextAssignments_of_blocked h htake
      (fun u hu => hblocked u (List.mem_of_mem_take hu)) nows
      (by rw [List.length_take, min_eq_left hle])
    refine ⟨m', hcalls, hsame, ?_⟩
    rw [hids, htake, List.rotate_eq_drop_append_take (by simp [hle])]
    rw [List.drop_left' (by simp [hle]), List.take_left' (by simp [hle])]
  · obtain ⟨m₁, hcalls, hcons₁, hsame, hids⟩ := nextAssignments_of_blocked h hsplit hblocked
      nows hlength
    obtain ⟨task, c, m', hnext, htask, hid, hc, helig, hids'⟩ :=
      nextAssignmentLocked_of_assignable hcons₁ (head_of_retryIds hids)
        (hsame.assignable_iff.2 (of_decide_eq_true ht)) now
    refine ⟨task, c, m', nextAssignments_append hcalls hnext, hsame.tasks ▸ htask, hid,
      hsame.workers ▸ hc, helig, ?_⟩
    rw [hids', if_pos rfl, hids]
    rfl

/-- Both tasks fail and `worker2` is lost: nobody is left for the first retry. -/
theorem retry_rotation_lost :
    ∃ m₀ m, start 2 .first ["worker1", "worker2"] = .ok m₀ ∧
      Transition.run step m₀ [.nextAssignment 0, .nextAssignment 0,
        .handleFailure "worker1" { taskId := "task-0001" },
        .handleFailure "worker2" { taskId := "task-0002" },
        .disconnectWorker "worker2" []] = some m ∧
      m.retryIds = ["task-0001", "task-0002"] ∧ ¬ m.Assignable "task-0001" ∧ m.TakesTurns := by
  obtain ⟨m₀, m, hstart, hrun, hids, hblocked, hretry⟩ := exists_reached 2 .first
    ["worker1", "worker2"] [.nextAssignment 0, .nextAssignment 0,
      .handleFailure "worker1" { taskId := "task-0001" },
      .handleFailure "worker2" { taskId := "task-0002" }, .disconnectWorker "worker2" []]
    (p := fun m => m.retryIds = ["task-0001", "task-0002"] ∧ ¬ m.Assignable "task-0001" ∧
      m.taskState.lookup "task-0002" = some .retry ∧ m.Assignable "task-0002")
    (by decide +kernel)
  have hturns := retry_rotation hstart hrun ⟨"task-0002", hretry⟩
  exact ⟨m₀, m, hstart, hrun, hids, hblocked, hturns.2.2⟩

/-- The first task in the deque that still waits for its first assignment. -/
def firstPending (m : Master) : Option TaskId :=
  m.normalTasks.find? fun t => m.taskState.lookup t = some .pending

/-- The next call assigns the pending task `t` to an eligible worker. -/
def Distributes (m : Master) (now : ℚ) (t : TaskId) : Prop :=
  ∃ task c m', m.nextAssignmentLocked now =
      some (some ⟨sentTo c.workerId now task, c.workerId, false⟩, m') ∧
    m.tasks.lookup t = some task ∧ task.taskId = t ∧
    m.workers.lookup c.workerId = some c ∧ eligible task c = true

theorem head_of_firstPending (h : Consistent m) {t : TaskId} (hretry : m.retryTasks = [])
    (hfirst : m.firstPending = some t) : m.head = some (t, false) := by
  unfold firstPending at hfirst
  have hids : m.retryIds = [] := by rw [retryIds, hretry, List.map_nil]
  cases hnormal : m.normalTasks with
  | nil =>
      rw [hnormal] at hfirst
      cases hfirst
  | cons u rest =>
      have hu : m.taskState.lookup u = some .pending := by
        rw [h.state_pending_iff, ← h.queues.mem_normal, hnormal]
        exact List.mem_cons_self
      rw [hnormal, List.find?_cons_of_pos (by simpa using hu)] at hfirst
      cases hfirst
      rw [head, hids, hnormal]

/-- **Blocked retries stop the distribution.** In a reachable state in which no worker would
take a retry while one would take the first pending task, that task is distributed exactly if
there is no retry at all. -/
theorem pending_distributed_iff (hstart : start count rng ws = .ok m₀)
    (hrun : Transition.run step m₀ acts = some m) {t : TaskId}
    (hblocked : ∀ u ∈ m.retryIds, ¬ m.Assignable u) (hfirst : m.firstPending = some t)
    (hassignable : m.Assignable t) (now : ℚ) :
    m.Distributes now t ↔ m.retryTasks = [] := by
  have h := consistent_run (started_of_start hstart).consistent hrun
  constructor
  · rintro ⟨task, c, m', hnext, _⟩
    by_contra hne
    obtain ⟨e, rest, hretry⟩ := List.exists_cons_of_ne_nil hne
    have hids : m.retryIds = e.2 :: rest.map Prod.snd := by rw [retryIds, hretry, List.map_cons]
    obtain ⟨m₁, hnone, _⟩ := nextAssignmentLocked_of_blocked h (head_of_retryIds hids)
      (hblocked e.2 (by rw [hids]; exact List.mem_cons_self)) now
    rw [hnone] at hnext
    cases hnext
  · intro hretry
    obtain ⟨task, c, m', hnext, htask, hid, hc, helig, _⟩ :=
      nextAssignmentLocked_of_assignable h (head_of_firstPending h hretry hfirst) hassignable now
    exact ⟨task, c, m', hnext, htask, hid, hc, helig⟩

/-- A task fails on `worker1` and `worker2` is lost: nobody is left for the retry, and the
second task, which `worker1` could take, is not distributed. -/
theorem not_pending_distributed_lost :
    ∃ m₀ m, start 2 .first ["worker1", "worker2"] = .ok m₀ ∧
      Transition.run step m₀ [.nextAssignment 0,
        .handleFailure "worker1" { taskId := "task-0001" },
        .disconnectWorker "worker2" []] = some m ∧
      (∀ u ∈ m.retryIds, ¬ m.Assignable u) ∧ m.firstPending = some "task-0002" ∧
      m.Assignable "task-0002" ∧ (m.nextAssignmentLocked 0).map Prod.fst = some none :=
  exists_reached 2 .first ["worker1", "worker2"] [.nextAssignment 0,
    .handleFailure "worker1" { taskId := "task-0001" }, .disconnectWorker "worker2" []]
    (by decide +kernel)

theorem pending_distributed_iff_lost :
    ∃ m₀ m, start 2 .first ["worker1", "worker2"] = .ok m₀ ∧
      Transition.run step m₀ [.nextAssignment 0,
        .handleFailure "worker1" { taskId := "task-0001" },
        .disconnectWorker "worker2" []] = some m ∧
      (m.Distributes 0 "task-0002" ↔ m.retryTasks = []) := by
  obtain ⟨m₀, m, hstart, hrun, hblocked, hfirst, hassignable⟩ := exists_reached 2 .first
    ["worker1", "worker2"] [.nextAssignment 0,
      .handleFailure "worker1" { taskId := "task-0001" }, .disconnectWorker "worker2" []]
    (p := fun m => (∀ u ∈ m.retryIds, ¬ m.Assignable u) ∧ m.firstPending = some "task-0002" ∧
      m.Assignable "task-0002") (by decide +kernel)
  exact ⟨m₀, m, hstart, hrun, pending_distributed_iff hstart hrun hblocked hfirst hassignable 0⟩

end

end Master

end KVStore
