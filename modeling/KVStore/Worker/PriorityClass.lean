import KVStore.Worker.Balance
import KVStore.Worker.Order

/-!
# The class of a transferred task

The sender's candidates are taken from its priority deque when too few normal tasks wait.
They travel in one list, without their class, and the receiver appends the list to its
normal deque. `keepsClass_iff` says for which transfers no class is lost.
-/

namespace KVStore

open Python Except HasTaskId

namespace ReadyQueue

variable {τ : Type*} [HasTaskId τ]

def drain (q : ReadyQueue τ) : List τ := q.priority ++ q.normal

theorem drain_dequeueForProcessing (q : ReadyQueue τ) :
    q.dequeueForProcessing.1 = q.drain.head? ∧
      q.dequeueForProcessing.2.drain = q.drain.tail := by
  unfold dequeueForProcessing drain
  cases hpriority : q.priority with
  | nil =>
      cases hnormal : q.normal with
      | nil => simp [hpriority, hnormal]
      | cons task rest => simp
  | cons task rest => simp

/-- No task of the batch that was a priority task of the sender is a normal one now, and it
is dequeued before all normal tasks. -/
def KeepsClass (sender : ReadyQueue τ) (batch : List τ) (receiver : ReadyQueue τ) : Prop :=
  ∀ task ∈ batch, task ∈ sender.priority →
    taskId task ∉ receiver.normal.map taskId ∧
      ∀ other ∈ receiver.normal, [taskId task, taskId other].Sublist (receiver.drain.map taskId)

omit [HasTaskId τ] in
/-- Priority tasks are among the candidates exactly if too few normal tasks wait. -/
theorem priorityCandidates_eq_nil_iff {q : ReadyQueue τ} {count : ℤ} :
    q.priorityCandidates count = [] ↔ count ≤ q.normal.length ∨ q.priority = [] := by
  rw [priorityCandidates, ← List.length_eq_zero_iff, length_lastMany, ← List.length_eq_zero_iff]
  omega

end ReadyQueue

/-! ### What arrives -/

section

variable {b : Builtins}

theorem TaskRecord.taskId_of_postInit {task task' : TaskRecord} (h : task.postInit = .ok task') :
    task'.taskId = task.taskId := by
  unfold TaskRecord.postInit at h
  dsimp only at h
  split_ifs at h
  cases h
  rfl

theorem TaskRecord.taskId_of_fromDict {task task' : TaskRecord}
    (h : TaskRecord.fromDict b (.dict task.toDict) = .ok task') : task'.taskId = task.taskId := by
  rw [fromDict_toDict_eq_postInit] at h
  exact taskId_of_postInit h

theorem map_taskId_of_mapM {batch decoded : List TaskRecord}
    (h : (batch.map fun task => Value.dict task.toDict).mapM (TaskRecord.fromDict b) =
      .ok decoded) : decoded.map TaskRecord.taskId = batch.map TaskRecord.taskId := by
  induction batch generalizing decoded with
  | nil =>
      cases h
      rfl
  | cons task batch ih =>
      rw [List.map_cons, List.mapM_cons, bind_eq_ok_iff] at h
      obtain ⟨task', htask, h⟩ := h
      rw [bind_eq_ok_iff] at h
      obtain ⟨rest, hrest, h⟩ := h
      cases h
      rw [List.map_cons, List.map_cons, ih hrest, TaskRecord.taskId_of_fromDict htask]

end

namespace P2PService

variable {b : Builtins} {receiver receiver' : P2PService} {message : Message}
variable {payload : AckPayload} {batch : List TaskRecord}

theorem rawTasks_transferPayload {raw : List Value}
    (h : rawTasks (transferPayload batch) = .ok raw) :
    raw = batch.map fun task => .dict task.toDict := by
  unfold rawTasks at h
  simp only [transferPayload, Object.get, List.lookup_cons, beq_self_eq_true] at h
  split_ifs at h
  exact (Except.ok.inj h).symm

theorem normal_acceptTransfer (hmessage : message.payload = transferPayload batch)
    (haccept : receiver.acceptTransfer b message = .ok (receiver', payload))
    (haccepted : payload.accepted = true) :
    receiver'.queue.normal.map TaskRecord.taskId =
      receiver.queue.normal.map TaskRecord.taskId ++ batch.map TaskRecord.taskId := by
  obtain ⟨raw, decoded, hraw, hdecoded, rfl, rfl⟩ := acceptTransfer_eq_ok_iff.1 haccept
  rw [hmessage] at hraw
  have hids := map_taskId_of_mapM (rawTasks_transferPayload hraw ▸ hdecoded)
  have hnormal := ReadyQueue.deque_tryEnqueueMany (q := receiver.queue) false
    (decoded.map (TaskRecord.restamp receiver.clock.read))
  rw [ReadyQueue.accepted, if_pos ⟨rfl, haccepted⟩] at hnormal
  change (receiver.queue.tryEnqueueMany _).2.normal = receiver.queue.normal ++ _ at hnormal
  change (receiver.queue.tryEnqueueMany _).2.normal.map TaskRecord.taskId = _
  rw [hnormal, List.map_append, List.map_map, ← hids]
  rfl

/-- **The class of a transferred task.** An accepted transfer keeps it if and only if it takes
no task from the priority deque: enough normal tasks wait, or no priority task does. -/
theorem keepsClass_iff {sender : ReadyQueue TaskRecord} {count : ℤ} (h : sender.WellFormed)
    (hpeek : sender.peekTransferCandidates count = .ok batch)
    (hmessage : message.payload = transferPayload batch)
    (haccept : receiver.acceptTransfer b message = .ok (receiver', payload))
    (haccepted : payload.accepted = true) :
    sender.KeepsClass batch receiver'.queue ↔
      count ≤ sender.normal.length ∨ sender.priority = [] := by
  rw [← ReadyQueue.priorityCandidates_eq_nil_iff]
  have hnormal := normal_acceptTransfer hmessage haccept haccepted
  obtain ⟨_, rfl⟩ := ReadyQueue.peekTransferCandidates_eq_ok_iff.1 hpeek
  constructor
  · intro hkeeps
    refine List.eq_nil_iff_forall_not_mem.2 fun task htask => ?_
    have hmem := List.mem_append_right (sender.normalCandidates count) htask
    refine (hkeeps task hmem ((List.drop_sublist _ _).subset htask)).1 ?_
    change task.taskId ∈ receiver'.queue.normal.map TaskRecord.taskId
    rw [hnormal]
    exact List.mem_append_right _ (List.mem_map_of_mem hmem)
  · intro hnone task htask hpriority
    rw [hnone, List.append_nil] at htask
    -- a candidate of the normal deque is no priority task
    exact absurd (List.mem_map_of_mem hpriority) ((List.nodup_append'.1 h.nodup_deques).2.2
      (List.mem_map_of_mem ((List.drop_sublist _ _).subset htask)))

/-- A sender with eight priority tasks, and a receiver with one normal task. -/
def retriedQueue : ReadyQueue TaskRecord :=
  { overloadedQueue with normal := [], priority := overloadedQueue.normal }

def busyReceiver : P2PService :=
  { workerId := "worker2"
    peers := ["worker1"]
    queue :=
      { capacity := 10
        normal := [{ taskId := "n", key := "0001", value := 1 }]
        activeTaskIds := {"n"} } }

def retriedTransfer : Message where
  messageType := .P2P_TRANSFER
  senderId := "worker1"
  requestId := "r2"
  payload := transferPayload [{ taskId := "h", key := "0000", value := 1 }]

/-- The task is accepted, and waits behind the normal task. -/
theorem not_keepsClass_retried :
    ∃ receiver' payload,
      retriedQueue.peekTransferCandidates 1 =
        .ok [{ taskId := "h", key := "0000", value := 1 }] ∧
      busyReceiver.acceptTransfer Builtins.plain retriedTransfer = .ok (receiver', payload) ∧
      payload.accepted = true ∧
      receiver'.queue.normal.map TaskRecord.taskId = ["n", "h"] ∧
      receiver'.queue.priority = [] :=
  ⟨_, _, rfl, rfl, rfl, rfl, rfl⟩

theorem keepsClass_iff_retried :
    ∃ receiver' payload,
      busyReceiver.acceptTransfer Builtins.plain retriedTransfer = .ok (receiver', payload) ∧
      (retriedQueue.KeepsClass [{ taskId := "h", key := "0000", value := 1 }] receiver'.queue ↔
        (1 : ℤ) ≤ retriedQueue.normal.length ∨ retriedQueue.priority = []) := by
  have h : retriedQueue.WellFormed :=
    wellFormed_overloadedQueue.of_perm (List.Perm.refl _) rfl le_rfl rfl fun t task p h => by
      cases h
  have haccept : busyReceiver.acceptTransfer Builtins.plain retriedTransfer = .ok (_, _) := rfl
  exact ⟨_, _, haccept, keepsClass_iff h rfl rfl haccept rfl⟩

end P2PService

end KVStore
