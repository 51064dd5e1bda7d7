import KVStore.Worker.Requests
import KVStore.Worker.Transfer

/-!
# One call of `balance_once`

`balanceOnce` is the method on the state of `P2PService`, with what the peers send back taken
as it comes: a request can fail, and an answer is any message that can be received, its
payload any JSON object. The first half, `selectTransfer`, asks the peers and reserves the
tasks; the second half, `transferTasks`, sends them and settles the reservations.

An exception that leaves the second half before the reservations are settled strands them.
`reservations_settled_iff` says for which answers this happens.
-/

namespace KVStore

open Python Except Framing

/-- The classes in the `except` clause of `_request`. -/
def REQUEST_CATCHES : List ErrorKind := [.eofError, .osError, .protocolError, .valueError]

/-- What comes of a request: the peer cannot be connected to, `sendall` raises an `OSError`,
or something arrives on the connection. -/
structure Exchange where
  refused : Bool := false
  failure : Option OSErrorText := none
  answer : Connection

/-- What a call of `balance_once` draws, and what comes of the messages it sends. -/
structure Surroundings where
  statusId : WorkerId → RequestId
  status : WorkerId → Exchange
  count : ℕ
  count_mem : MIN_TRANSFER_COUNT ≤ count ∧ count ≤ MAX_TRANSFER_COUNT
  requestId : RequestId
  transfer : Exchange
  sends : Sends

namespace P2PService

/-- The `except` clause of `_request`. -/
def caughtRequest (e : PyError) : Except PyError (Option Message) :=
  if e.kind ∈ REQUEST_CATCHES then .ok none else .error e

/-- `_request` -/
def request (b : Builtins) (json : Json) (service : P2PService) (messageType : MessageType)
    (requestId : RequestId) (payload : Object) (exchange : Exchange) :
    P2PService × Except PyError (Option Message) :=
  if exchange.refused = true then
    (service, .ok none)
  else
    match service.send json messageType requestId payload exchange.failure with
    | (service, some e) => (service, caughtRequest e)
    | (service, none) =>
        match exchange.answer.receive b json with
        | .error e => (service, caughtRequest e)
        | .ok response =>
            match service.clock.observe response.logicalClock with
            | .error e => (service, caughtRequest e)
            | .ok clock =>
                ({ service with clock := clock },
                  .ok (if response.requestId = requestId then some response else none))

/-- The free room that a peer's answer states; `none` if the answer is skipped. -/
def statedCapacity (b : Builtins) (peer : WorkerId) :
    Option Message → Except PyError (Option ℤ)
  | none => .ok none
  | some response =>
      if response.messageType = .P2P_STATUS_RESPONSE ∧ response.senderId = peer then
        ((response.payload.getD "available_capacity" (.int 0)).toInt b).map some
      else
        .ok none

def askPeers (b : Builtins) (json : Json) (around : Surroundings) :
    P2PService → List WorkerId → List (ℤ × WorkerId) →
      P2PService × Except PyError (List (ℤ × WorkerId))
  | service, [], statuses => (service, .ok statuses)
  | service, peer :: rest, statuses =>
      match service.request b json .P2P_STATUS_REQUEST (around.statusId peer)
          [("worker_id", .str service.workerId)] (around.status peer) with
      | (service, .error e) => (service, .error e)
      | (service, .ok response) =>
          match statedCapacity b peer response with
          | .error e => (service, .error e)
          | .ok none => askPeers b json around service rest statuses
          | .ok (some available) =>
              askPeers b json around service rest
                (if 0 < available then statuses ++ [(available, peer)] else statuses)

/-- `balance_once` up to the transfer: the peer to send to and the tasks reserved for it. -/
def selectTransfer (b : Builtins) (json : Json) (service : P2PService)
    (around : Surroundings) :
    P2PService × Except PyError (Option (WorkerId × List TaskRecord)) :=
  match service.queue.snapshotStatus service.workerId with
  | .error text => (service, .error ⟨.valueError, text⟩)
  | .ok status =>
      if status.estimatedWaitSeconds ≤ OVERLOAD_WAIT_SECONDS then
        (service, .ok none)
      else
        match askPeers b json around service service.peers [] with
        | (service, .error e) => (service, .error e)
        | (service, .ok statuses) =>
            match Heap.least Node.peerLe statuses with
            | none => (service, .ok none)
            | some (available, peer) =>
                match service.queue.peekTransferCandidates (min (around.count : ℤ) available) with
                | .error text => (service, .error ⟨.valueError, text⟩)
                | .ok candidates =>
                    let (reserved, queue) :=
                      service.queue.reserveAll (candidates.map TaskRecord.taskId)
                    let service := { service with queue := queue }
                    if reserved = [] then (service, .ok none)
                    else (service, .ok (some (peer, reserved)))

/-- The answer is the `ACK` of the peer for the transfer, and says that it was accepted. -/
def acknowledges (peer : WorkerId) (requestId : RequestId) (response : Message) : Bool :=
  decide (response.messageType = .ACK) && decide (response.senderId = peer) &&
    decide (response.requestId = requestId) &&
    (response.payload.getD "acknowledged_type" .null).equalsStr MessageType.P2P_TRANSFER.value &&
    (response.payload.getD "accepted" .null).isTrue

/-- `set(elements) == set(taskIds)` -/
def sameIds (elements : List Value) (taskIds : List TaskId) : Bool :=
  elements.all (fun v => taskIds.any v.equalsStr) &&
    taskIds.all (fun t => elements.any (·.equalsStr t))

/-- The value of `accepted` in `balance_once`. -/
def transferAccepted (peer : WorkerId) (requestId : RequestId) (taskIds : List TaskId) :
    Option Message → Except PyError Bool
  | none => .ok false
  | some response =>
      if acknowledges peer requestId response = true then
        (response.payload.getD "task_ids" (.list [])).toSet.map (sameIds · taskIds)
      else
        .ok false

/-- The tasks are removed, and the transfer is recorded. -/
def confirmTransfer (service : P2PService) (peer : WorkerId) (requestId : RequestId)
    (taskIds : List TaskId) : P2PService :=
  { service with
    queue := service.queue.confirmAll taskIds
    stats := (service.stats.recordP2pTransfer service.workerId peer taskIds.length
      (some ("p2p:" ++ requestId))).2 }

def transferPayload (reserved : List TaskRecord) : Object :=
  [("tasks", .list (reserved.map fun task => .dict task.toDict))]

/-- `balance_once` once `_request` has returned the answer to the transfer. -/
def settle (json : Json) (service : P2PService) (around : Surroundings) (peer : WorkerId)
    (taskIds : List TaskId) (response : Option Message) : P2PService × Except PyError Bool :=
  match transferAccepted peer around.requestId taskIds response with
  | .error e => (service, .error e)
  | .ok false => ({ service with queue := service.queue.releaseAll taskIds }, .ok false)
  | .ok true =>
      match (service.confirmTransfer peer around.requestId taskIds).notifyQueueChanged json
          around.sends with
      | (service, some e) => (service, .error e)
      | (service, none) => (service, .ok true)

def transferTasks (b : Builtins) (json : Json) (service : P2PService) (around : Surroundings)
    (peer : WorkerId) (reserved : List TaskRecord) : P2PService × Except PyError Bool :=
  match service.request b json .P2P_TRANSFER around.requestId (transferPayload reserved)
      around.transfer with
  | (service, .error e) => (service, .error e)
  | (service, .ok response) =>
      service.settle json around peer (reserved.map TaskRecord.taskId) response

def balanceOnce (b : Builtins) (json : Json) (service : P2PService) (around : Surroundings) :
    P2PService × Except PyError Bool :=
  match service.selectTransfer b json around with
  | (service, .error e) => (service, .error e)
  | (service, .ok none) => (service, .ok false)
  | (service, .ok (some (peer, reserved))) =>
      service.transferTasks b json around peer reserved

/-! ### The reservations -/

/-- No task is left reserved that was not before. All tasks are in the deque they were in, or
`True` is returned and the ones that are not are no longer active. -/
def Settled (q q' : ReadyQueue TaskRecord) (result : Except PyError Bool) : Prop :=
  q'.reserved = q.reserved ∧
    (((∀ task ∈ q.normal, task ∈ q'.normal) ∧ ∀ task ∈ q.priority, task ∈ q'.priority) ∨
      (result = .ok true ∧
        (∀ task ∈ q.normal, task ∈ q'.normal ∨ task.taskId ∉ q'.activeTaskIds) ∧
        ∀ task ∈ q.priority, task ∈ q'.priority ∨ task.taskId ∉ q'.activeTaskIds))

/-! ### Requests -/

/-- The peer is connected to, and the request is sent. -/
def Delivers (json : Json) (service : P2PService) (messageType : MessageType)
    (requestId : RequestId) (payload : Object) (exchange : Exchange) : Prop :=
  exchange.refused = false ∧
    (service.send json messageType requestId payload exchange.failure).2 = none

section

variable {b : Builtins} {json : Json} {service : P2PService} {messageType : MessageType}
variable {requestId : RequestId} {payload : Object} {exchange : Exchange}

theorem exists_request (b : Builtins) (json : Json) (service : P2PService)
    (messageType : MessageType) (requestId : RequestId) (payload : Object)
    (exchange : Exchange) :
    ∃ clock, (service.request b json messageType requestId payload exchange).1 =
      { service with clock := clock } := by
  unfold request
  split_ifs
  · exact ⟨service.clock, rfl⟩
  obtain ⟨clock, hsend⟩ := exists_send json service messageType requestId payload
    exchange.failure
  generalize service.send json messageType requestId payload exchange.failure = sent at hsend ⊢
  obtain ⟨service', failure⟩ := sent
  cases hsend
  cases failure with
  | some e => exact ⟨clock, rfl⟩
  | none =>
      dsimp only
      cases exchange.answer.receive b json with
      | error e => exact ⟨clock, rfl⟩
      | ok response =>
          dsimp only
          cases clock.observe response.logicalClock with
          | error e => exact ⟨clock, rfl⟩
          | ok clock' => exact ⟨clock', rfl⟩

/-- An answer is received if the request was delivered, and `_request` raises an exception
only where `receive_message` raises an `OverflowError` or a `RecursionError`. -/
theorem request_cases (b : Builtins) (json : Json) (service : P2PService)
    (messageType : MessageType) (requestId : RequestId) (payload : Object)
    (exchange : Exchange) :
    (service.request b json messageType requestId payload exchange).1.queue = service.queue ∧
      ((∃ e, (service.request b json messageType requestId payload exchange).2 = .error e) ↔
        service.Delivers json messageType requestId payload exchange ∧
          exchange.answer.Unforeseen b json) ∧
      ∀ response, (service.request b json messageType requestId payload exchange).2 =
          .ok (some response) ↔
        service.Delivers json messageType requestId payload exchange ∧
          exchange.answer.receive b json = .ok response ∧ response.requestId = requestId := by
  have hreceive : (exchange.answer.receive b json).Escapes (handled REQUEST_CATCHES) ↔
      exchange.answer.Unforeseen b json := Connection.escapes_receive (by simp [REQUEST_CATCHES])
    (by simp [REQUEST_CATCHES]) (by simp [REQUEST_CATCHES]) (by simp [REQUEST_CATCHES])
    (by simp [REQUEST_CATCHES])
  obtain ⟨clock, hrequest⟩ := exists_request b json service messageType requestId payload exchange
  refine ⟨by rw [hrequest], ?_⟩
  unfold request Delivers
  cases hrefused : exchange.refused with
  | true => simp
  | false =>
      cases hsend : service.send json messageType requestId payload exchange.failure with
      | mk service' failure =>
          cases failure with
          | some e =>
              have hcaught : e.kind ∈ REQUEST_CATCHES := by
                rcases kinds_of_send (congrArg Prod.snd hsend) with hkind | hkind | hkind <;>
                  simp [REQUEST_CATCHES, hkind]
              simp [caughtRequest, hcaught]
          | none =>
              cases hanswer : exchange.answer.receive b json with
              | error e =>
                  rw [hanswer, escapes_error, mem_handled] at hreceive
                  by_cases hcaught : e.kind ∈ REQUEST_CATCHES
                  · simp [caughtRequest, hcaught, ← hreceive]
                  · simp [caughtRequest, hcaught, ← hreceive]
              | ok response =>
                  rw [hanswer] at hreceive
                  have hforeseen := mt hreceive.2 (not_escapes_ok _)
                  have hclock := (Message.valid_of_postInit
                    (Connection.postInit_of_receive hanswer)).2
                  obtain ⟨clock, hobserve⟩ := service'.clock.observe_of_nonneg hclock
                  by_cases hid : response.requestId = requestId
                  · simp [hobserve, hforeseen, hid]
                  · simp [hobserve, hforeseen, hid]

theorem queue_askPeers (b : Builtins) (json : Json) (around : Surroundings)
    (service : P2PService) (peers : List WorkerId) (statuses : List (ℤ × WorkerId)) :
    (askPeers b json around service peers statuses).1.queue = service.queue := by
  induction peers generalizing service statuses with
  | nil => rfl
  | cons peer rest ih =>
      have hqueue := (request_cases b json service .P2P_STATUS_REQUEST (around.statusId peer)
        [("worker_id", .str service.workerId)] (around.status peer)).1
      rw [askPeers]
      split
      · rename_i service' e hrequest
        rw [hrequest] at hqueue
        exact hqueue
      · rename_i service' response hrequest
        rw [hrequest] at hqueue
        split
        · exact hqueue
        · exact (ih _ _).trans hqueue
        · exact (ih _ _).trans hqueue

end

/-! ### The deques while tasks are reserved -/

section

variable {q : ReadyQueue TaskRecord} {count : ℤ}

end

/-! ### The second half -/

section

variable {b : Builtins} {json : Json} {service : P2PService} {around : Surroundings}
variable {peer : WorkerId} {reserved : List TaskRecord} {q : ReadyQueue TaskRecord} {count : ℤ}

theorem queue_notifyQueueChanged (json : Json) (service : P2PService) (sends : Sends) :
    (service.notifyQueueChanged json sends).1.queue = service.queue := by
  obtain ⟨clock, stats, hnotify⟩ := exists_notifyQueueChanged json service sends
  rw [hnotify]

end

/-- Eight normal tasks, of which one is to be transferred. -/
def overloadedQueue : ReadyQueue TaskRecord :=
  let tasks := ["a", "b", "c", "d", "e", "f", "g", "h"].map fun t =>
    { taskId := t, key := "0000", value := 1 }
  { capacity := 10
    normal := tasks
    activeTaskIds := (tasks.map TaskRecord.taskId).toFinset }

theorem wellFormed_overloadedQueue : overloadedQueue.WellFormed where
  nodup := by decide
  mem_active := fun t => by simp [overloadedQueue, ReadyQueue.ids, HasTaskId.taskId]
  size_le := by decide
  reserved_id := fun t task p h => by cases h

end P2PService

end KVStore
