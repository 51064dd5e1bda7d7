import Mathlib.Data.Rat.Defs
import Mathlib.Data.Finset.Insert

/-!
# Tasks, worker statuses and message types

The data that Master and workers exchange. A record's `postInit` is the
`__post_init__` of its class: it returns the record to keep or the text of the
`ValueError`. Numbers of the source are integers here; logical times, which the
source keeps as floats, are rationals.
-/

namespace KVStore

abbrev WorkerId := String

abbrev TaskId := String

/-- Identifiers of requests, fresh for each request (`uuid4`). -/
abbrev RequestId := String

def DEFAULT_QUEUE_CAPACITY : ℤ := 10

inductive MessageType
  | REGISTER
  | TASK
  | QUEUE_STATUS
  | RESULT_SUCCESS
  | RESULT_FAIL
  | P2P_STATUS_REQUEST
  | P2P_STATUS_RESPONSE
  | P2P_TRANSFER
  | ACK
  | TERMINATE
  | ERROR
deriving DecidableEq

structure Task where
  taskId : TaskId
  key : String
  value : ℤ
  attempt : ℤ := 0
  previousWorkerId : Option WorkerId := none
  assignmentWorkerId : Option WorkerId := none
  enqueuedAt : ℚ := 0
deriving DecidableEq

namespace Task

def hexDigits : List Char := "0123456789abcdef".toList

/-- `str.lower`, on the characters a valid key can have. -/
def lower (s : String) : String := String.ofList (s.toList.map Char.toLower)

/-- The validators, in the order in which the code runs them; the key is kept
in lower case. -/
def postInit (task : Task) : Except String Task :=
  let normalizedKey := lower task.key
  if task.taskId = "" then
    .error "task_id is required"
  else if normalizedKey.toList.length ≠ 4 ∨
      normalizedKey.toList.any (fun character => character ∉ hexDigits) then
    .error "key must be exactly four hexadecimal characters"
  else if ¬ (1 ≤ task.value ∧ task.value ≤ 100) then
    .error "value must be between 1 and 100"
  else if task.attempt < 0 then
    .error "attempt must be non-negative"
  else if task.enqueuedAt < 0 then
    .error "enqueued_at must be non-negative"
  else
    .ok { task with key := normalizedKey }

end Task

structure WorkerStatus where
  workerId : WorkerId
  queueSize : ℤ
  queueCapacity : ℤ := DEFAULT_QUEUE_CAPACITY
  processingTaskId : Option TaskId := none
deriving DecidableEq

namespace WorkerStatus

def postInit (status : WorkerStatus) : Except String WorkerStatus :=
  if status.workerId = "" then
    .error "worker_id is required"
  else if status.queueCapacity ≠ DEFAULT_QUEUE_CAPACITY then
    .error "the assignment requires queue_capacity=10"
  else if ¬ (0 ≤ status.queueSize ∧ status.queueSize ≤ status.queueCapacity) then
    .error "queue_size must fit within queue_capacity"
  else
    .ok status

def availableCapacity (status : WorkerStatus) : ℤ :=
  status.queueCapacity - status.queueSize

def estimatedWaitSeconds (status : WorkerStatus) : ℤ := status.queueSize * 2

/-- A status that is accepted is kept unchanged and fits its queue. -/
theorem postInit_eq_ok {status kept : WorkerStatus}
    (h : status.postInit = .ok kept) :
    kept = status ∧ status.queueCapacity = DEFAULT_QUEUE_CAPACITY ∧
      0 ≤ status.queueSize ∧ status.queueSize ≤ status.queueCapacity := by
  unfold postInit at h
  split_ifs at h with hid hcap hsize
  cases h
  exact ⟨rfl, not_not.1 hcap, hsize⟩

end WorkerStatus

end KVStore
