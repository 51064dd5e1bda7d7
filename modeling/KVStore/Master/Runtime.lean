import KVStore.Library.Dict
import KVStore.Library.Heap
import KVStore.Library.Transition
import KVStore.Master.Generate

/-!
# The Master's lock-protected state and steps

`Master` holds the fields that `MasterRuntime` guards with its condition lock,
and each definition below is the body of the method of the same name that runs
under the lock. Sockets, logging and the statistics collector are left out: none
of the locked sections reads them.

A lookup that the source writes as `d[k]` raises `KeyError` on an absent key. It
is modelled by the outer `none` of an `Option`; a lookup that the source writes
as `d.get(k)` is a plain `lookup`. `step` collects the locked sections into one
labelled transition function: the label carries what the environment chooses,
namely the clock reading, the message, or the iteration order of a set.
-/

namespace KVStore

inductive TaskState
  | pending
  | assigned
  | retry
  | done
deriving DecidableEq

/-- `WorkerConnection`, without the socket and its send lock. -/
structure WorkerConnection where
  workerId : WorkerId
  status : WorkerStatus
  assignedTaskIds : Finset TaskId := ∅
  connected : Bool := true
deriving DecidableEq

/-- The payload of `RESULT_SUCCESS` and `RESULT_FAIL` after the coercions at the
head of the handlers; an absent optional entry is `none`. -/
structure ResultPayload where
  taskId : TaskId
  key : Option String := none
  value : Option ℤ := none
  assignmentWorkerId : Option WorkerId := none
  reason : Option String := none
deriving DecidableEq

/-- The fields of `MasterRuntime` under the condition lock. `retryTasks` is the
heap of `(order, task_id)` pairs as a sorted list. -/
structure Master where
  taskCount : ℕ
  workers : Dict WorkerId WorkerConnection := ∅
  tasks : Dict TaskId Task := ∅
  taskState : Dict TaskId TaskState := ∅
  normalTasks : List TaskId := []
  retryTasks : List (ℕ × TaskId) := []
  retryOrder : ℕ := 0
  store : Dict String ℤ := ∅

namespace Master

/-- The order of the heap entries: tuples are compared lexicographically. -/
def entryLe (a b : ℕ × TaskId) : Prop := a.1 < b.1 ∨ (a.1 = b.1 ∧ a.2 ≤ b.2)

instance : DecidableRel entryLe := fun a b =>
  inferInstanceAs (Decidable (a.1 < b.1 ∨ (a.1 = b.1 ∧ a.2 ≤ b.2)))

/-! ### Setting up -/

/-- The locked part of `_register_worker`. -/
def registerWorker (m : Master) (w : WorkerId) : Except String Master :=
  if w ∈ m.workers then
    .error ("worker already registered: " ++ w)
  else
    (WorkerStatus.postInit { workerId := w, queueSize := 0 }).map fun status =>
      { m with workers := m.workers.insert w { workerId := w, status := status } }

/-- One round of the loop in `_prepare_tasks`. -/
def addTask (m : Master) (task : Task) : Master :=
  { m with
    tasks := m.tasks.insert task.taskId task
    taskState := m.taskState.insert task.taskId .pending
    normalTasks := m.normalTasks ++ [task.taskId] }

def prepareTasks (m : Master) (rng : RandomSource) : Except String Master :=
  (generateTasks m.taskCount rng).map fun tasks => tasks.foldl addTask m

/-- The Master when distribution starts: the tasks are prepared and the workers
`ws` are registered. -/
def start (taskCount : ℕ) (rng : RandomSource) (ws : List WorkerId) :
    Except String Master :=
  (prepareTasks { taskCount } rng).bind fun m => ws.foldlM registerWorker m

/-! ### Results -/

def clearAssignmentLocked (m : Master) (t : TaskId) : Master :=
  { m with
    workers := m.workers.mapValues fun connection =>
      { connection with assignedTaskIds := connection.assignedTaskIds.erase t } }

def queueRetryLocked (m : Master) (t : TaskId) : Master :=
  if m.taskState.lookup t = some .retry then
    m
  else
    { m with
      retryOrder := m.retryOrder + 1
      taskState := m.taskState.insert t .retry
      retryTasks := Heap.push entryLe m.retryTasks (m.retryOrder + 1, t) }

/-- The guard that `_handle_success` and `_handle_failure` share: the task of a
result that is acted upon, and `none` when the result is ignored. -/
def acceptedTask (m : Master) (t : TaskId) (assignmentWorkerId : WorkerId) :
    Option Task :=
  match m.tasks.lookup t, m.workers.lookup assignmentWorkerId with
  | some task, some assignmentWorker =>
      if m.taskState.lookup t = some .assigned ∧
          t ∈ assignmentWorker.assignedTaskIds then
        some task
      else
        none
  | _, _ => none

/-- The locked part of `_handle_success`. -/
def handleSuccess (m : Master) (w : WorkerId) (payload : ResultPayload) : Master :=
  match m.acceptedTask payload.taskId (payload.assignmentWorkerId.getD w) with
  | none => m
  | some task =>
      let cleared := m.clearAssignmentLocked payload.taskId
      { cleared with
        store := cleared.store.insert task.key task.value
        taskState := cleared.taskState.insert payload.taskId .done }

/-- The locked part of `_handle_failure`. -/
def handleFailure (m : Master) (w : WorkerId) (payload : ResultPayload) : Master :=
  match m.acceptedTask payload.taskId (payload.assignmentWorkerId.getD w) with
  | none => m
  | some task =>
      let cleared := m.clearAssignmentLocked payload.taskId
      let reason := payload.reason.getD "processing failure"
      let failed := { task with
        attempt := if reason = "queue overflow" then task.attempt else task.attempt + 1
        previousWorkerId := some w }
      queueRetryLocked
        { cleared with tasks := cleared.tasks.insert payload.taskId failed }
        payload.taskId

/-- The branch of `_handle_message` for `QUEUE_STATUS`; the error is the
`ValueError` that the receive loop reports. -/
def handleQueueStatus (m : Master) (w : WorkerId) (payload : WorkerStatus) :
    Except String Master :=
  payload.postInit.bind fun status =>
    if status.workerId ≠ w then
      .error "QUEUE_STATUS worker_id mismatch"
    else
      .ok { m with
        workers := m.workers.modify w fun connection =>
          { connection with status := status } }

/-! ### Disconnection -/

/-- One round of the loop in `_disconnect_worker`. -/
def requeueLocked (w : WorkerId) (m : Master) (t : TaskId) : Option Master :=
  if m.taskState.lookup t = some .assigned then
    (m.tasks.lookup t).map fun task =>
      queueRetryLocked
        { m with tasks := m.tasks.insert t { task with previousWorkerId := some w } } t
  else
    some m

/-- The locked part of `_disconnect_worker`; `order` is the order in which the
set of assigned ids is iterated. -/
def disconnectWorker (m : Master) (worker : WorkerConnection)
    (order : List TaskId) : Option Master :=
  if worker.connected = false then
    some m
  else
    let marked := { m with
      workers := m.workers.modify worker.workerId fun connection =>
        { connection with connected := false } }
    (order.foldlM (requeueLocked worker.workerId) marked).map fun requeued =>
      { requeued with
        workers := requeued.workers.modify worker.workerId fun connection =>
          { connection with assignedTaskIds := ∅ } }

/-! ### Distribution -/

/-- The loop over the retry heap in `_next_task_locked`: entries are popped until
one is in state `retry`. -/
def popRetry (taskState : Dict TaskId TaskState) :
    List (ℕ × TaskId) → Option TaskId × List (ℕ × TaskId)
  | [] => (none, [])
  | (_, t) :: rest =>
      if taskState.lookup t = some .retry then (some t, rest)
      else popRetry taskState rest

/-- The loop over the deque of normal tasks in `_next_task_locked`. -/
def popNormal (taskState : Dict TaskId TaskState) :
    List TaskId → Option TaskId × List TaskId
  | [] => (none, [])
  | t :: rest =>
      if taskState.lookup t = some .pending then (some t, rest)
      else popNormal taskState rest

/-- `_next_task_locked`: the next task with its priority flag, if any. -/
def nextTaskLocked (m : Master) : Option (Option (Task × Bool) × Master) :=
  match popRetry m.taskState m.retryTasks with
  | (some t, retryTasks) =>
      (m.tasks.lookup t).map fun task =>
        (some (task, true), { m with retryTasks := retryTasks })
  | (none, retryTasks) =>
      match popNormal m.taskState m.normalTasks with
      | (some t, normalTasks) =>
          (m.tasks.lookup t).map fun task =>
            (some (task, false),
              { m with retryTasks := retryTasks, normalTasks := normalTasks })
      | (none, normalTasks) =>
          some (none, { m with retryTasks := retryTasks, normalTasks := normalTasks })

/-- The condition on a worker in `_choose_worker_locked`. -/
def eligible (task : Task) (worker : WorkerConnection) : Bool :=
  worker.connected && decide (worker.status.queueSize < worker.status.queueCapacity) &&
    decide (some worker.workerId ≠ task.previousWorkerId)

/-- The sort key of `_choose_worker_locked`: most free room, then smallest id. -/
def chooseLe (a b : WorkerConnection) : Prop :=
  b.status.availableCapacity < a.status.availableCapacity ∨
    (a.status.availableCapacity = b.status.availableCapacity ∧ a.workerId ≤ b.workerId)

instance : DecidableRel chooseLe := fun a b => inferInstanceAs (Decidable
  (b.status.availableCapacity < a.status.availableCapacity ∨
    (a.status.availableCapacity = b.status.availableCapacity ∧ a.workerId ≤ b.workerId)))

def chooseWorkerLocked (m : Master) (task : Task) : Option WorkerConnection :=
  Heap.least chooseLe (m.workers.values.filter (eligible task))

def putTaskBackLocked (m : Master) (t : TaskId) (priority : Bool) : Master :=
  if priority then
    { m with
      retryOrder := m.retryOrder + 1
      retryTasks := Heap.push entryLe m.retryTasks (m.retryOrder + 1, t)
      taskState := m.taskState.insert t .retry }
  else
    { m with
      normalTasks := t :: m.normalTasks
      taskState := m.taskState.insert t .pending }

/-- The assignment of `task` to `worker` at the end of `_next_assignment_locked`,
at clock reading `now`. -/
def assignLocked (m : Master) (task : Task) (worker : WorkerConnection) (now : ℚ) :
    Task × Master :=
  let task := { task with
    enqueuedAt := now
    assignmentWorkerId := some worker.workerId }
  (task, { m with
    tasks := m.tasks.insert task.taskId task
    taskState := m.taskState.insert task.taskId .assigned
    workers := m.workers.modify worker.workerId fun connection =>
      { connection with
        assignedTaskIds := insert task.taskId connection.assignedTaskIds
        status := { connection.status with
          queueSize := connection.status.queueSize + 1 } } })

structure Assignment where
  task : Task
  worker : WorkerId
  priority : Bool
deriving DecidableEq

def nextAssignmentLocked (m : Master) (now : ℚ) :
    Option (Option Assignment × Master) :=
  m.nextTaskLocked.map fun next =>
    match next with
    | (none, m) => (none, m)
    | (some (task, priority), m) =>
        match m.chooseWorkerLocked task with
        | none => (none, m.putTaskBackLocked task.taskId priority)
        | some worker =>
            let assigned := m.assignLocked task worker now
            (some ⟨assigned.1, worker.workerId, priority⟩, assigned.2)

/-- The test that ends `_distribute_tasks`. -/
def storeComplete (m : Master) : Prop := m.store.size = m.taskCount

instance (m : Master) : Decidable m.storeComplete :=
  inferInstanceAs (Decidable (m.store.size = m.taskCount))

/-! ### The locked sections as one transition function -/

/-- One locked section with what the environment chooses for it. -/
inductive Action
  | nextAssignment (now : ℚ)
  | disconnectWorker (w : WorkerId) (order : List TaskId)
  | handleSuccess (w : WorkerId) (payload : ResultPayload)
  | handleFailure (w : WorkerId) (payload : ResultPayload)
  | queueStatus (w : WorkerId) (payload : WorkerStatus)
deriving DecidableEq

/-- The state after a locked section. `none` stands for a `KeyError`, for a
worker that is not registered and for an `order` that does not list the set of
assigned ids. A rejected status leaves the state as it was. -/
def step (m : Master) : Action → Option Master
  | .nextAssignment now => (m.nextAssignmentLocked now).map Prod.snd
  | .disconnectWorker w order =>
      (m.workers.lookup w).bind fun worker =>
        if order.Nodup ∧ order.toFinset = worker.assignedTaskIds then
          m.disconnectWorker worker order
        else
          none
  | .handleSuccess w payload =>
      (m.workers.lookup w).map fun _ => m.handleSuccess w payload
  | .handleFailure w payload =>
      (m.workers.lookup w).map fun _ => m.handleFailure w payload
  | .queueStatus w payload =>
      (m.workers.lookup w).map fun _ =>
        match m.handleQueueStatus w payload with
        | .ok updated => updated
        | .error _ => m

end Master

end KVStore
