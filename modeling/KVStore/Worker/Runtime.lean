import KVStore.Worker.Idempotence

/-!
# The runtime of a worker

`WorkerRuntime` is a whole worker: what its threads share, which is the state of `P2PService`,
and the place that the code of each thread has reached. A step is taken by one thread and
calls at most one method that changes the queue; what the thread does up to its next such
call belongs to the same step. So the threads interleave as they do under the queue's lock,
and `processor` in particular takes a task in one step and looks at the queue in the next.

With the new state a step returns the log events that it emits, of which the event and the
status are kept and the text is left out; that a text cannot be printed is only considered for
what the server puts out. The server and the monitor see at some later time that they are told
to stop, so a run in which they stop is one in which they take no further step. Calls of `stop`
for one worker do not overlap here; the launcher allows for what happens when they do.
-/

namespace KVStore

open Python

inductive LogEvent
  | CONNECT
  | RECV
  | QUEUE
  | PROC
  | LB
  | TERMINATE
  | STAT
deriving DecidableEq

inductive LogStatus
  | INFO
  | SUCCESS
  | WARN
  | FAIL
deriving DecidableEq

structure LogEntry where
  event : LogEvent
  status : LogStatus
deriving DecidableEq

/-- `task.assignment_worker_id or worker_id` -/
def TaskRecord.assignmentOr (task : TaskRecord) (w : WorkerId) : WorkerId :=
  match task.assignmentWorkerId with
  | some v => if v = "" then w else v
  | none => w

/-- The comparison with `queue_capacity * WARN_THRESHOLD_RATIO`. -/
def WorkerStatus.warn (status : WorkerStatus) : Bool :=
  ReadyQueue.roundDouble (ReadyQueue.roundDouble status.queueCapacity.toNat *
    ReadyQueue.WARN_THRESHOLD_RATIO) < status.queueSize.toNat * 2 ^ 52

inductive MainThread
  | connecting
  | joiningReceiver
  | joiningProcessor
  | ended
deriving DecidableEq

inductive ReceiverThread
  | notStarted
  | receiving
  | ended
deriving DecidableEq

/-- The processor is before the loop condition, is about to dequeue, has taken a task and not
yet looked at the queue again, or works on the task. -/
inductive ProcessorThread
  | notStarted
  | top
  | waiting
  | dequeued (task : TaskRecord)
  | processing (task : TaskRecord) (waitSeconds : PyFloat)
  | ended
deriving DecidableEq

/-- Where the monitor stands in `_monitor` and `balance_once`. -/
inductive MonitorThread
  | idle
  | called
  | asking (peers : List WorkerId) (statuses : List (ℤ × WorkerId))
  | reserving (peer : WorkerId) (candidates : List TaskId) (reserved : List TaskRecord)
  | releasing (remaining : List TaskId)
  | confirming (peer : WorkerId) (requestId : RequestId) (remaining : List TaskId) (count : ℕ)
  | ended
deriving DecidableEq

structure WorkerRuntime where
  service : P2PService
  endpoint : WorkerEndpoint
  shutdown : Bool := false
  terminatedByMaster : Bool := false
  main : MainThread := .connecting
  receiver : ReceiverThread := .notStarted
  processor : ProcessorThread := .notStarted
  serving : Bool := true
  monitor : MonitorThread := .idle

/-- What the processor draws for a task, and what becomes of the messages about it: the
result, sent as `sends.response`, and the report. -/
structure Processing where
  succeeded : Bool
  seconds : PyFloat
  resultId : RequestId
  sends : Sends

/-- What the monitor draws, and what comes of the message that it sends. -/
structure Balancing where
  interval : PyFloat
  requestId : RequestId
  exchange : Exchange
  count : ℕ
  count_mem : MIN_TRANSFER_COUNT ≤ count ∧ count ≤ MAX_TRANSFER_COUNT
  sends : Sends

namespace WorkerRuntime

/-- A new worker whose P2P service has been started and has reported that. -/
def init (workerId : WorkerId) (endpoint : WorkerEndpoint) (peers : List WorkerId)
    (queue : ReadyQueue TaskRecord) : WorkerRuntime where
  service :=
    { workerId := workerId
      peers := peers.filter (· ≠ workerId)
      queue := queue
      connected := false }
  endpoint := endpoint

def queue (s : WorkerRuntime) : ReadyQueue TaskRecord := s.service.queue

def stop (s : WorkerRuntime) : WorkerRuntime :=
  { s with
    shutdown := true
    service := { s.service with connected := false } }

/-! ### The receiver -/

/-- The classes in the first `except` clause of `_receive_loop`. -/
def RECEIVE_CATCHES : List ErrorKind := [.eofError, .protocolError, .osError]

/-- The classes in the `except` clause of `_handle_task`. -/
def TASK_CATCHES : List ErrorKind := [.keyError, .valueError, .typeError]

def sendResultFail (json : Json) (service : P2PService) (task : TaskRecord) (reason : String)
    (waitSeconds : PyFloat) (requestId : RequestId) (failure : Option OSErrorText) :
    P2PService × Option PyError :=
  service.send json .RESULT_FAIL requestId
    [("task_id", .str task.taskId), ("worker_id", .str service.workerId),
      ("assignment_worker_id", .str (task.assignmentOr service.workerId)),
      ("reason", .str reason), ("wait_seconds", .float waitSeconds)] failure

def sendResultSuccess (json : Json) (service : P2PService) (task : TaskRecord)
    (waitSeconds : PyFloat) (requestId : RequestId) (failure : Option OSErrorText) :
    P2PService × Option PyError :=
  service.send json .RESULT_SUCCESS requestId
    [("task_id", .str task.taskId), ("key", .str task.key), ("value", .int task.value),
      ("worker_id", .str service.workerId),
      ("assignment_worker_id", .str (task.assignmentOr service.workerId)),
      ("wait_seconds", .float waitSeconds)] failure

/-- `_handle_task`, with the exception that leaves it. The request for a check only wakes the
monitor up. -/
def handleTask (b : Builtins) (json : Json) (service : P2PService) (message : Message)
    (sends : Sends) (resultId : RequestId) : P2PService × List LogEntry × Option PyError :=
  let taskPayload := message.payload.getD "task" (.dict [])
  let priority := (message.payload.getD "priority" (.bool false)).truthy
  match TaskRecord.fromDict b taskPayload with
  | .error e =>
      if e.kind ∈ TASK_CATCHES then (service, [⟨.RECV, .FAIL⟩], none)
      else (service, [], some e)
  | .ok task =>
      let task := { task with enqueuedAt := service.clock.read }
      let (result, queue) := service.queue.tryEnqueue task priority
      let service := { service with queue := queue }
      if result.accepted = false then
        if result.reason = some "duplicate" then
          let (service, failure) := service.sendQueueStatus json sends
          (service, [⟨.QUEUE, .WARN⟩], failure)
        else
          let service :=
            { service with stats := service.stats.recordQueueOverflow service.workerId }
          match sendResultFail json service task "queue overflow" (.finite 0) resultId
              sends.response with
          | (service, some e) => (service, [⟨.QUEUE, .WARN⟩], some e)
          | (service, none) => (service, [⟨.QUEUE, .WARN⟩, ⟨.PROC, .FAIL⟩], none)
      else
        let (service, failure) := service.sendQueueStatus json sends
        (service, ⟨.RECV, .INFO⟩ :: if result.warn then [⟨.QUEUE, .WARN⟩] else [], failure)

/-- One round of `_receive_loop`. -/
def receive (b : Builtins) (json : Json) (s : WorkerRuntime) (conn : Connection)
    (sends : Sends) (resultId : RequestId) : WorkerRuntime × List LogEntry :=
  match conn.receive b json with
  | .error e =>
      ({ s with receiver := .ended },
        if e.kind ∈ RECEIVE_CATCHES then [⟨.RECV, .FAIL⟩] else [])
  | .ok message =>
      match s.service.clock.observe message.logicalClock with
      | .error _ => ({ s with receiver := .ended }, [])
      | .ok clock =>
          let service := { s.service with clock := clock }
          match message.messageType with
          | .TASK =>
              match handleTask b json service message sends resultId with
              | (service, log, none) => ({ s with service := service }, log)
              | (service, log, some e) =>
                  let s := { s with service := service, receiver := .ended }
                  if e.kind = .osError then (s.stop, log ++ [⟨.RECV, .FAIL⟩]) else (s, log)
          | .TERMINATE =>
              ({ s with service := service, terminatedByMaster := true, receiver := .ended },
                [⟨.TERMINATE, .INFO⟩])
          | _ => ({ s with service := service }, [⟨.RECV, .WARN⟩])

/-! ### The processor -/

def enterLoop (s : WorkerRuntime) : WorkerRuntime × List LogEntry :=
  ({ s with processor := if s.shutdown then .ended else .waiting }, [])

/-- The `except` clauses of `_process_loop`, and what is emitted before them. -/
def processorFails (s : WorkerRuntime) (e : PyError) (log : List LogEntry) :
    WorkerRuntime × List LogEntry :=
  let s := { s with processor := .ended }
  if e.kind = .osError then (s.stop, log ++ [⟨.PROC, .FAIL⟩]) else (s, log)

/-- `dequeue_for_processing` in `_process_loop`. -/
def dequeue (s : WorkerRuntime) : WorkerRuntime × List LogEntry :=
  match s.queue.dequeueForProcessing with
  | (none, _) => ({ s with processor := .top }, [])
  | (some task, queue) =>
      ({ s with service := { s.service with queue := queue }, processor := .dequeued task }, [])

/-- `_process_loop` from the task that was taken on, up to the start of its processing. -/
def inspect (json : Json) (s : WorkerRuntime) (task : TaskRecord) (sends : Sends) :
    WorkerRuntime × List LogEntry :=
  let waitSeconds := (PyFloat.finite 0).max (s.service.clock.read.sub task.enqueuedAt)
  match s.queue.snapshotStatus s.service.workerId with
  | .error _ => ({ s with processor := .ended }, [])
  | .ok status =>
      let log : List LogEntry := if status.warn then [⟨.QUEUE, .WARN⟩] else []
      match s.service.sendQueueStatus json sends with
      | (service, some e) => processorFails { s with service := service } e log
      | (service, none) =>
          ({ s with service := service, processor := .processing task waitSeconds },
            log ++ [⟨.PROC, .INFO⟩])

/-- `_process_loop` once the result is decided. -/
def finish (json : Json) (s : WorkerRuntime) (task : TaskRecord) (waitSeconds : PyFloat)
    (around : Processing) : WorkerRuntime × List LogEntry :=
  match s.service.clock.advance around.seconds with
  | .error _ => ({ s with processor := .ended }, [])
  | .ok clock =>
      let service := { s.service with clock := clock }
      let (sent, failure) :=
        if around.succeeded then
          sendResultSuccess json service task waitSeconds around.resultId around.sends.response
        else
          sendResultFail json service task "20% rule" waitSeconds around.resultId
            around.sends.response
      match failure with
      | some e => processorFails { s with service := sent } e []
      | none =>
          let log : List LogEntry := [⟨.PROC, if around.succeeded then .SUCCESS else .FAIL⟩]
          let stats :=
            if around.succeeded then
              (sent.stats.recordTaskSuccess sent.workerId waitSeconds
                (some ("success:" ++ task.taskId))).2
            else
              (sent.stats.recordTaskFail sent.workerId waitSeconds
                (some ("fail:" ++ task.taskId ++ ":" ++ toString task.attempt))).2
          let service :=
            { sent with stats := stats, queue := sent.queue.markProcessingDone.2 }
          match service.sendQueueStatus json around.sends with
          | (service, some e) => processorFails { s with service := service } e log
          | (service, none) => ({ s with service := service, processor := .top }, log)

/-! ### The server -/

/-- What `_handle_connection` emits when it raises nothing: a transfer that is handled for the
first time is logged. -/
def connectionLog (b : Builtins) (json : Json) (service : P2PService) (conn : Connection) :
    List LogEntry :=
  match conn.receive b json with
  | .error _ => []
  | .ok message =>
      match service.acknowledgement b message with
      | none => []
      | some (_, payload) =>
          if service.handledTransfers.lookup message.requestId = none then
            [⟨.LB, if payload.accepted then .SUCCESS else .WARN⟩]
          else
            []

/-- One connection of `_serve`. -/
def serve (b : Builtins) (json : Json) (s : WorkerRuntime) (conn : Connection) (sends : Sends) :
    WorkerRuntime × List LogEntry :=
  match s.service.handleConnection b json conn sends with
  | (service, none) => ({ s with service := service }, connectionLog b json s.service conn)
  | (service, some e) =>
      match P2PService.reject b e with
      | none => ({ s with service := service }, [⟨.LB, .FAIL⟩])
      | some _ => ({ s with service := service, serving := false }, [])

/-! ### The monitor -/

/-- One round of `_monitor`, up to the call of `balance_once`. -/
def check (s : WorkerRuntime) (interval : PyFloat) : WorkerRuntime × List LogEntry :=
  match s.queue.snapshotStatus s.service.workerId with
  | .error _ => ({ s with monitor := .ended }, [])
  | .ok status =>
      if status.estimatedWaitSeconds ≤ OVERLOAD_WAIT_SECONDS then
        (s, [])
      else
        match s.service.clock.advance interval with
        | .error _ => ({ s with monitor := .ended }, [])
        | .ok clock =>
            ({ s with service := { s.service with clock := clock }, monitor := .called }, [])

/-- The start of `balance_once`. -/
def balanceOnce (s : WorkerRuntime) : WorkerRuntime × List LogEntry :=
  match s.queue.snapshotStatus s.service.workerId with
  | .error _ => ({ s with monitor := .ended }, [])
  | .ok status =>
      if status.estimatedWaitSeconds ≤ OVERLOAD_WAIT_SECONDS then
        ({ s with monitor := .idle }, [])
      else
        ({ s with monitor := .asking s.service.peers [] }, [⟨.LB, .WARN⟩])

def ask (b : Builtins) (json : Json) (s : WorkerRuntime) (peer : WorkerId)
    (rest : List WorkerId) (statuses : List (ℤ × WorkerId)) (around : Balancing) :
    WorkerRuntime × List LogEntry :=
  match s.service.request b json .P2P_STATUS_REQUEST around.requestId
      [("worker_id", .str s.service.workerId)] around.exchange with
  | (service, .error _) => ({ s with service := service, monitor := .ended }, [])
  | (service, .ok response) =>
      match P2PService.statedCapacity b peer response with
      | .error _ => ({ s with service := service, monitor := .ended }, [])
      | .ok none => ({ s with service := service, monitor := .asking rest statuses }, [])
      | .ok (some available) =>
          ({ s with
              service := service
              monitor := .asking rest
                (if 0 < available then statuses ++ [(available, peer)] else statuses) },
            [⟨.LB, .INFO⟩])

/-- The peer and the candidates are chosen. -/
def choose (s : WorkerRuntime) (statuses : List (ℤ × WorkerId)) (around : Balancing) :
    WorkerRuntime × List LogEntry :=
  match Heap.least Node.peerLe statuses with
  | none => ({ s with monitor := .idle }, [⟨.LB, .WARN⟩])
  | some (available, peer) =>
      match s.queue.peekTransferCandidates (min (around.count : ℤ) available) with
      | .error _ => ({ s with monitor := .ended }, [])
      | .ok candidates =>
          ({ s with monitor := .reserving peer (candidates.map TaskRecord.taskId) [] }, [])

def reserve (s : WorkerRuntime) (peer : WorkerId) (t : TaskId) (rest : List TaskId)
    (reserved : List TaskRecord) : WorkerRuntime × List LogEntry :=
  let (selected, queue) := s.queue.reserveForTransfer t
  ({ s with
      service := { s.service with queue := queue }
      monitor := .reserving peer rest (reserved ++ selected.toList) }, [])

def transfer (b : Builtins) (json : Json) (s : WorkerRuntime) (peer : WorkerId)
    (reserved : List TaskRecord) (around : Balancing) : WorkerRuntime × List LogEntry :=
  if reserved = [] then
    ({ s with monitor := .idle }, [])
  else
    let taskIds := reserved.map TaskRecord.taskId
    match s.service.request b json .P2P_TRANSFER around.requestId
        (P2PService.transferPayload reserved) around.exchange with
    | (service, .error _) => ({ s with service := service, monitor := .ended }, [⟨.LB, .INFO⟩])
    | (service, .ok response) =>
        let monitor :=
          match P2PService.transferAccepted peer around.requestId taskIds response with
          | .error _ => .ended
          | .ok false => .releasing taskIds
          | .ok true => .confirming peer around.requestId taskIds taskIds.length
        ({ s with service := service, monitor := monitor }, [⟨.LB, .INFO⟩])

def release (s : WorkerRuntime) (t : TaskId) (rest : List TaskId) :
    WorkerRuntime × List LogEntry :=
  ({ s with
      service := { s.service with queue := (s.queue.releaseReservation t).2 }
      monitor := .releasing rest }, [])

def confirm (s : WorkerRuntime) (peer : WorkerId) (requestId : RequestId) (t : TaskId)
    (rest : List TaskId) (count : ℕ) : WorkerRuntime × List LogEntry :=
  ({ s with
      service := { s.service with queue := (s.queue.confirmRemoved t).2 }
      monitor := .confirming peer requestId rest count }, [])

def conclude (json : Json) (s : WorkerRuntime) (peer : WorkerId) (requestId : RequestId)
    (count : ℕ) (sends : Sends) : WorkerRuntime × List LogEntry :=
  let recorded :=
    { s.service with
      stats := (s.service.stats.recordP2pTransfer s.service.workerId peer count
        (some ("p2p:" ++ requestId))).2 }
  match recorded.notifyQueueChanged json sends with
  | (service, some _) => ({ s with service := service, monitor := .ended }, [])
  | (service, none) => ({ s with service := service, monitor := .idle }, [⟨.LB, .SUCCESS⟩])

/-- The next step of the monitor. -/
def balance (b : Builtins) (json : Json) (s : WorkerRuntime) (around : Balancing) :
    Option (WorkerRuntime × List LogEntry) :=
  match s.monitor with
  | .idle => if s.service.peers = [] then none else some (s.check around.interval)
  | .called => some s.balanceOnce
  | .asking (peer :: rest) statuses => some (s.ask b json peer rest statuses around)
  | .asking [] statuses => some (s.choose statuses around)
  | .reserving peer (t :: rest) reserved => some (s.reserve peer t rest reserved)
  | .reserving peer [] reserved => some (s.transfer b json peer reserved around)
  | .releasing (t :: rest) => some (s.release t rest)
  | .releasing [] => some ({ s with monitor := .idle }, [⟨.LB, .FAIL⟩])
  | .confirming peer requestId (t :: rest) count => some (s.confirm peer requestId t rest count)
  | .confirming peer requestId [] count =>
      some (s.conclude json peer requestId count around.sends)
  | .ended => none

/-! ### The main thread -/

/-- `run` up to the start of the threads; `answer` is what the Master sends back, if it can be
connected to. An exception leaves `run` after the `finally` clause. -/
def connectAndRegister (b : Builtins) (json : Json) (s : WorkerRuntime) (requestId : RequestId)
    (exchange : Exchange) : WorkerRuntime × List LogEntry :=
  let registration : RegisterPayload :=
    { workerId := s.service.workerId
      p2pEndpoint := s.endpoint
      queueCapacity := s.queue.capacity }
  if exchange.refused = true then
    ({ s.stop with main := .ended }, [])
  else
    match registration.postInit with
    | .error _ => ({ s.stop with main := .ended }, [])
    | .ok registration =>
        match s.service.send json .REGISTER requestId registration.toDict exchange.failure with
        | (service, some _) => ({ stop { s with service := service } with main := .ended }, [])
        | (service, none) =>
            match exchange.answer.receive b json with
            | .error _ => ({ stop { s with service := service } with main := .ended }, [])
            | .ok response =>
                match service.clock.observe response.logicalClock with
                | .error _ => ({ stop { s with service := service } with main := .ended }, [])
                | .ok clock =>
                    let service := { service with clock := clock }
                    if response.messageType ≠ .ACK ∨ response.requestId ≠ requestId then
                      ({ stop { s with service := service } with main := .ended }, [])
                    else if s.shutdown = true then
                      ({ s with service := service, main := .ended }, [⟨.CONNECT, .SUCCESS⟩])
                    else
                      ({ s with
                          service := { service with connected := true }
                          main := .joiningReceiver
                          receiver := .receiving
                          processor := .top }, [⟨.CONNECT, .SUCCESS⟩])

/-- The next step of `run`, which waits for the receiver and then for the processor. -/
def proceed (b : Builtins) (json : Json) (s : WorkerRuntime) (requestId : RequestId)
    (exchange : Exchange) : Option (WorkerRuntime × List LogEntry) :=
  match s.main with
  | .connecting => some (s.connectAndRegister b json requestId exchange)
  | .joiningReceiver =>
      if s.receiver = .ended then some ({ s.stop with main := .joiningProcessor }, []) else none
  | .joiningProcessor =>
      if s.processor = .ended then
        some ({ s with main := .ended },
          [⟨.STAT, .INFO⟩, ⟨.TERMINATE, if s.terminatedByMaster then .SUCCESS else .FAIL⟩])
      else
        none
  | .ended => none

/-! ### The threads together -/

/-- A step of one of the threads, or a call of `stop` from outside. -/
inductive Event
  | main (requestId : RequestId) (exchange : Exchange)
  | receiver (conn : Connection) (sends : Sends) (resultId : RequestId)
  | processor (around : Processing)
  | server (conn : Connection) (sends : Sends)
  | monitor (around : Balancing)
  | stop

/-- The state after the event, and what is emitted; `none` if the thread cannot take it. -/
def perform (b : Builtins) (json : Json) (s : WorkerRuntime) :
    Event → Option (WorkerRuntime × List LogEntry)
  | .main requestId exchange => s.proceed b json requestId exchange
  | .receiver conn sends resultId =>
      if s.receiver = .receiving then some (s.receive b json conn sends resultId) else none
  | .processor around =>
      match s.processor with
      | .top => some s.enterLoop
      | .waiting => some s.dequeue
      | .dequeued task => some (s.inspect json task around.sends)
      | .processing task waitSeconds => some (s.finish json task waitSeconds around)
      | _ => none
  | .server conn sends => if s.serving then some (s.serve b json conn sends) else none
  | .monitor around => s.balance b json around
  | .stop => some (s.stop, [])

def step (b : Builtins) (json : Json) (s : WorkerRuntime) (event : Event) :
    Option WorkerRuntime :=
  (s.perform b json event).map Prod.fst

def emitted (b : Builtins) (json : Json) (s : WorkerRuntime) (event : Event) : List LogEntry :=
  match s.perform b json event with
  | some (_, log) => log
  | none => []

end WorkerRuntime

end KVStore
