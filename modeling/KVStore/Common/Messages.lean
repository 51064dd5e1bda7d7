import KVStore.Common.Models
import KVStore.Library.Python

/-!
# The codecs of the models

`to_dict` and `from_dict` of the records that travel in messages, with the validators that
every constructed record passes. `from_dict` is given any value that JSON can decode to, so
its coercions can fail in several ways; the exceptions carry their texts.
-/

namespace KVStore

open Python

def PROTOCOL_VERSION : ℤ := 1

/-- The text is that of a `ValueError`. -/
def raiseValueError {α : Type*} : Except String α → Except PyError α
  | .ok a => .ok a
  | .error text => .error ⟨.valueError, text⟩

/-- `str` of an entry that may be missing or `None`. -/
def optionalStr (b : Builtins) : Option Value → Except PyError (Option String)
  | none => .ok none
  | some .null => .ok none
  | some v => (v.toStr b).map some

def optionalValue : Option String → Value
  | none => .null
  | some s => .str s

/-- A `Task` with its time as the float that it is, which need not be finite. -/
structure TaskRecord where
  taskId : TaskId
  key : String
  value : ℤ
  attempt : ℤ := 0
  previousWorkerId : Option WorkerId := none
  assignmentWorkerId : Option WorkerId := none
  enqueuedAt : PyFloat := .finite 0
deriving DecidableEq

namespace TaskRecord

def postInit (task : TaskRecord) : Except PyError TaskRecord :=
  let normalizedKey := Task.lower task.key
  if task.taskId = "" then
    .error ⟨.valueError, "task_id is required"⟩
  else if normalizedKey.toList.length ≠ 4 ∨
      normalizedKey.toList.any (fun character => character ∉ Task.hexDigits) then
    .error ⟨.valueError, "key must be exactly four hexadecimal characters"⟩
  else if ¬ (1 ≤ task.value ∧ task.value ≤ 100) then
    .error ⟨.valueError, "value must be between 1 and 100"⟩
  else if task.attempt < 0 then
    .error ⟨.valueError, "attempt must be non-negative"⟩
  else if task.enqueuedAt.lt (.finite 0) = true then
    .error ⟨.valueError, "enqueued_at must be non-negative"⟩
  else
    .ok { task with key := normalizedKey }

def toDict (task : TaskRecord) : Object :=
  [("task_id", .str task.taskId), ("key", .str task.key), ("value", .int task.value),
    ("attempt", .int task.attempt),
    ("previous_worker_id", optionalValue task.previousWorkerId),
    ("assignment_worker_id", optionalValue task.assignmentWorkerId),
    ("enqueued_at", .float task.enqueuedAt)]

def fromDict (b : Builtins) (v : Value) : Except PyError TaskRecord := do
  let data ← v.asDict
  let previousWorkerId ← optionalStr b (data.get "previous_worker_id")
  let assignmentWorkerId ← optionalStr b (data.get "assignment_worker_id")
  let taskId ← (← data.item "task_id").toStr b
  let key ← (← data.item "key").toStr b
  let value ← (← data.item "value").toInt b
  let attempt ← (data.getD "attempt" (.int 0)).toInt b
  let enqueuedAt ← (data.getD "enqueued_at" (.float (.finite 0))).toFloat b
  postInit { taskId, key, value, attempt, previousWorkerId, assignmentWorkerId, enqueuedAt }

end TaskRecord

def Task.record (task : Task) : TaskRecord where
  taskId := task.taskId
  key := task.key
  value := task.value
  attempt := task.attempt
  previousWorkerId := task.previousWorkerId
  assignmentWorkerId := task.assignmentWorkerId
  enqueuedAt := .finite task.enqueuedAt

structure WorkerEndpoint where
  host : String
  port : ℤ
deriving DecidableEq

namespace WorkerEndpoint

def postInit (endpoint : WorkerEndpoint) : Except PyError WorkerEndpoint :=
  if endpoint.host = "" then
    .error ⟨.valueError, "endpoint host is required"⟩
  else if ¬ (1 ≤ endpoint.port ∧ endpoint.port ≤ 65535) then
    .error ⟨.valueError, "endpoint port must be between 1 and 65535"⟩
  else
    .ok endpoint

def toDict (endpoint : WorkerEndpoint) : Object :=
  [("host", .str endpoint.host), ("port", .int endpoint.port)]

def fromDict (b : Builtins) (data : Object) : Except PyError WorkerEndpoint := do
  let host ← (← data.item "host").toStr b
  let port ← (← data.item "port").toInt b
  postInit { host, port }

end WorkerEndpoint

structure RegisterPayload where
  workerId : WorkerId
  p2pEndpoint : WorkerEndpoint
  queueCapacity : ℤ := DEFAULT_QUEUE_CAPACITY
deriving DecidableEq

namespace RegisterPayload

def postInit (payload : RegisterPayload) : Except PyError RegisterPayload :=
  if payload.workerId = "" then
    .error ⟨.valueError, "worker_id is required"⟩
  else if payload.queueCapacity ≠ DEFAULT_QUEUE_CAPACITY then
    .error ⟨.valueError, "the assignment requires queue_capacity=10"⟩
  else
    .ok payload

def toDict (payload : RegisterPayload) : Object :=
  [("worker_id", .str payload.workerId), ("p2p_endpoint", .dict payload.p2pEndpoint.toDict),
    ("queue_capacity", .int payload.queueCapacity)]

def fromDict (b : Builtins) (data : Object) : Except PyError RegisterPayload :=
  match data.get "p2p_endpoint" with
  | some (.dict endpoint) => do
      let workerId ← (← data.item "worker_id").toStr b
      let p2pEndpoint ← WorkerEndpoint.fromDict b endpoint
      let queueCapacity ← (data.getD "queue_capacity" (.int DEFAULT_QUEUE_CAPACITY)).toInt b
      postInit { workerId, p2pEndpoint, queueCapacity }
  | _ => .error ⟨.valueError, "p2p_endpoint must be an object"⟩

end RegisterPayload

namespace WorkerStatus

def toDict (status : WorkerStatus) : Object :=
  [("worker_id", .str status.workerId), ("queue_size", .int status.queueSize),
    ("queue_capacity", .int status.queueCapacity),
    ("processing_task_id", optionalValue status.processingTaskId)]

def fromDict (b : Builtins) (data : Object) : Except PyError WorkerStatus := do
  let processingTaskId ← optionalStr b (data.get "processing_task_id")
  let workerId ← (← data.item "worker_id").toStr b
  let queueSize ← (← data.item "queue_size").toInt b
  let queueCapacity ← (data.getD "queue_capacity" (.int DEFAULT_QUEUE_CAPACITY)).toInt b
  raiseValueError (postInit { workerId, queueSize, queueCapacity, processingTaskId })

end WorkerStatus

namespace MessageType

def value : MessageType → String
  | REGISTER => "REGISTER"
  | TASK => "TASK"
  | QUEUE_STATUS => "QUEUE_STATUS"
  | RESULT_SUCCESS => "RESULT_SUCCESS"
  | RESULT_FAIL => "RESULT_FAIL"
  | P2P_STATUS_REQUEST => "P2P_STATUS_REQUEST"
  | P2P_STATUS_RESPONSE => "P2P_STATUS_RESPONSE"
  | P2P_TRANSFER => "P2P_TRANSFER"
  | ACK => "ACK"
  | TERMINATE => "TERMINATE"
  | ERROR => "ERROR"

def members : List MessageType :=
  [REGISTER, TASK, QUEUE_STATUS, RESULT_SUCCESS, RESULT_FAIL, P2P_STATUS_REQUEST,
    P2P_STATUS_RESPONSE, P2P_TRANSFER, ACK, TERMINATE, ERROR]

/-- `MessageType(s)` -/
def ofValue (b : Builtins) (s : String) : Except PyError MessageType :=
  match members.find? fun messageType => messageType.value = s with
  | some messageType => .ok messageType
  | none => .error ⟨.valueError, b.quote s ++ " is not a valid MessageType"⟩

theorem ofValue_value (b : Builtins) (messageType : MessageType) :
    ofValue b messageType.value = .ok messageType := by
  cases messageType <;> rfl

end MessageType

structure Message where
  messageType : MessageType
  senderId : String
  requestId : RequestId
  payload : Object := []
  logicalClock : PyFloat := .finite 0
  version : ℤ := PROTOCOL_VERSION

namespace Message

def postInit (message : Message) : Except PyError Message :=
  if message.version ≠ PROTOCOL_VERSION then
    .error ⟨.valueError, "unsupported protocol version: " ++ toString message.version⟩
  else if message.senderId = "" then
    .error ⟨.valueError, "sender_id is required"⟩
  else if message.requestId = "" then
    .error ⟨.valueError, "request_id is required"⟩
  else if message.logicalClock.lt (.finite 0) = true then
    .error ⟨.valueError, "logical_clock must be non-negative"⟩
  else
    .ok message

def toDict (message : Message) : Object :=
  [("version", .int message.version), ("type", .str message.messageType.value),
    ("sender_id", .str message.senderId), ("request_id", .str message.requestId),
    ("logical_clock", .float message.logicalClock), ("payload", .dict message.payload)]

def fromDict (b : Builtins) (data : Object) : Except PyError Message :=
  match data.getD "payload" (.dict []) with
  | .dict payload => do
      let version ← (data.getD "version" (.int PROTOCOL_VERSION)).toInt b
      let messageType ← MessageType.ofValue b (← (← data.item "type").toStr b)
      let senderId ← (← data.item "sender_id").toStr b
      let requestId ← (← data.item "request_id").toStr b
      let logicalClock ← (data.getD "logical_clock" (.float (.finite 0))).toFloat b
      postInit { messageType, senderId, requestId, payload, logicalClock, version }
  | _ => .error ⟨.valueError, "payload must be an object"⟩

end Message

/-! ### Round trips -/

section

variable (b : Builtins)

theorem optionalStr_optionalValue (s : Option String) :
    optionalStr b (some (optionalValue s)) = .ok s := by
  cases s <;> rfl

theorem TaskRecord.fromDict_toDict_eq_postInit (task : TaskRecord) :
    TaskRecord.fromDict b (.dict task.toDict) = task.postInit := by
  have hprevious : optionalStr b (some (optionalValue task.previousWorkerId)) =
      .ok task.previousWorkerId := optionalStr_optionalValue b _
  have hassignment : optionalStr b (some (optionalValue task.assignmentWorkerId)) =
      .ok task.assignmentWorkerId := optionalStr_optionalValue b _
  simp [TaskRecord.fromDict, TaskRecord.toDict, Value.asDict, Object.get, Object.getD,
    Object.item, List.lookup_cons, Value.toStr, Value.toInt, Value.toFloat, hprevious, hassignment,
    bind, Except.bind]

/-- A task that passes its validators survives the trip. -/
theorem TaskRecord.fromDict_toDict {task : TaskRecord} (h : task.postInit = .ok task) :
    TaskRecord.fromDict b (.dict task.toDict) = .ok task := by
  rw [fromDict_toDict_eq_postInit, h]

theorem WorkerStatus.fromDict_toDict {status : WorkerStatus} (h : status.postInit = .ok status) :
    WorkerStatus.fromDict b status.toDict = .ok status := by
  have hprocessing : optionalStr b (some (optionalValue status.processingTaskId)) =
      .ok status.processingTaskId := optionalStr_optionalValue b _
  simp [WorkerStatus.fromDict, WorkerStatus.toDict, Object.get, Object.getD, Object.item,
    List.lookup_cons, Value.toStr, Value.toInt, hprocessing, bind, Except.bind, h, raiseValueError]

theorem WorkerEndpoint.fromDict_toDict {endpoint : WorkerEndpoint}
    (h : endpoint.postInit = .ok endpoint) :
    WorkerEndpoint.fromDict b endpoint.toDict = .ok endpoint := by
  simp [WorkerEndpoint.fromDict, WorkerEndpoint.toDict, Object.get, Object.item, List.lookup_cons,
    Value.toStr, Value.toInt, bind, Except.bind, h]

theorem RegisterPayload.fromDict_toDict {payload : RegisterPayload}
    (hendpoint : payload.p2pEndpoint.postInit = .ok payload.p2pEndpoint)
    (h : payload.postInit = .ok payload) :
    RegisterPayload.fromDict b payload.toDict = .ok payload := by
  have hround := WorkerEndpoint.fromDict_toDict b hendpoint
  simp [RegisterPayload.fromDict, RegisterPayload.toDict, Object.get, Object.getD, Object.item,
    List.lookup_cons, Value.toStr, Value.toInt, bind, Except.bind, hround, h]

theorem Message.fromDict_toDict {message : Message} (h : message.postInit = .ok message) :
    Message.fromDict b message.toDict = .ok message := by
  simp [Message.fromDict, Message.toDict, Object.get, Object.getD, Object.item, List.lookup_cons,
    Value.toStr, Value.toInt, Value.toFloat, bind, Except.bind, MessageType.ofValue_value, h]

end

end KVStore
