import KVStore.Common.Clock
import KVStore.Common.Refusals
import KVStore.Common.Stats
import KVStore.Worker.P2P

/-!
# The requests that a worker serves

`P2PService` is what the server thread of a worker reads and writes, and `handleRequest` is
`_handle_connection` on any message that a peer can deliver: its payload is a JSON object,
and the tasks in it are any JSON values. `serve` is the accept loop, which survives the
exceptions in `SERVE_CATCHES` if the line that tells of them can be put out.

A line is put out by `_emit`, on the console and in a file in UTF-8; the worker's own name, with
which it starts, is taken to be printable.
-/

namespace KVStore

open Python Except

instance : HasTaskId TaskRecord := ⟨TaskRecord.taskId⟩

def AckPayload.toDict (payload : AckPayload) : Object :=
  [("acknowledged_type", .str MessageType.P2P_TRANSFER.value),
    ("accepted", .bool payload.accepted),
    ("task_ids", .list (payload.taskIds.map .str)),
    ("reason", optionalValue payload.reason)]

/-- The classes in the `except` clause of `_serve`. -/
def SERVE_CATCHES : List ErrorKind :=
  [.eofError, .osError, .protocolError, .typeError, .valueError]

/-- `connected` says that the socket to the Master is there and the worker is not shut
down. -/
structure P2PService where
  workerId : WorkerId
  peers : List WorkerId
  queue : ReadyQueue TaskRecord := { capacity := DEFAULT_QUEUE_CAPACITY.toNat }
  handledTransfers : Dict RequestId AckPayload := ∅
  clock : FloatClock := {}
  stats : StatsCollector := {}
  connected : Bool := true

/-- What becomes of the messages sent while a connection is served: the `OSError` of
`sendall`, if it raises one. The report to the Master gets the request id `reportId`. -/
structure Sends where
  response : Option OSErrorText := none
  report : Option OSErrorText := none
  reportId : RequestId

/-- How a request ends: with an exception before anything of a response is sent, or with what
is raised from then on. -/
inductive Outcome
  | refused (e : PyError)
  | responded (failure : Option PyError)
deriving DecidableEq

/-- What the sending of the response comes to. Only the socket raises an `OSError`, after the
message was encoded. -/
def Outcome.ofSend : Option PyError → Outcome
  | none => .responded none
  | some e => if e.kind = .osError then .responded (some e) else .refused e

def Outcome.error : Outcome → Option PyError
  | .refused e => some e
  | .responded failure => failure

def failureOf {α : Type} : Except PyError α → Option PyError
  | .ok _ => none
  | .error e => some e

/-- A worker that takes a task over sets its `enqueued_at`. -/
def TaskRecord.restamp (now : PyFloat) (task : TaskRecord) : TaskRecord :=
  { task with enqueuedAt := now }

namespace P2PService

/-- `_send` or `_send_response`, up to the lock. -/
def send (json : Json) (service : P2PService) (messageType : MessageType)
    (requestId : RequestId) (payload : Object) (failure : Option OSErrorText) :
    P2PService × Option PyError :=
  match service.clock.advance (.finite COMMUNICATION_DELAY_SECONDS) with
  | .error e => (service, some e)
  | .ok clock =>
      ({ service with clock := clock }, failureOf (sendMessage json failure
        { messageType := messageType
          senderId := service.workerId
          requestId := requestId
          logicalClock := clock.read
          payload := payload }))

/-- `_send_queue_status` -/
def sendQueueStatus (json : Json) (service : P2PService) (sends : Sends) :
    P2PService × Option PyError :=
  if service.connected = false then
    (service, none)
  else
    match service.queue.snapshotStatus service.workerId with
    | .error text => (service, some ⟨.valueError, text⟩)
    | .ok status =>
        let (workerStats, stats) := service.stats.getOrCreateWorkerLocked service.workerId
        send json { service with stats := stats } .QUEUE_STATUS sends.reportId
          (status.toDict ++ [("p2p_statistics", .dict
            [("sent_events", .int workerStats.p2pTransfersSent),
              ("sent_tasks", .int workerStats.p2pTasksSent),
              ("received_events", .int workerStats.p2pTransfersReceived),
              ("received_tasks", .int workerStats.p2pTasksReceived)])]) sends.report

/-- `_notify_queue_changed` -/
def notifyQueueChanged (json : Json) (service : P2PService) (sends : Sends) :
    P2PService × Option PyError :=
  match service.sendQueueStatus json sends with
  | (service, some e) => (service, if e.kind = .osError then none else some e)
  | (service, none) => (service, none)

/-- The list in the payload of a transfer. -/
def rawTasks (payload : Object) : Except PyError (List Value) :=
  match payload.get "tasks" with
  | some (.list raw) =>
      if MIN_TRANSFER_COUNT ≤ raw.length ∧ raw.length ≤ MAX_TRANSFER_COUNT then .ok raw
      else .error ⟨.valueError, "P2P transfer must contain 1 to 3 tasks"⟩
  | _ => .error ⟨.valueError, "P2P transfer must contain 1 to 3 tasks"⟩

/-- The payload of the `ACK` for a new transfer. -/
def ackPayload (tasks : List TaskRecord) (result : QueueChangeResult) : AckPayload :=
  { accepted := result.accepted
    taskIds := if result.accepted then tasks.map TaskRecord.taskId else []
    reason := result.reason }

/-- A new transfer, up to the response. -/
def acceptTransfer (b : Builtins) (service : P2PService) (message : Message) :
    Except PyError (P2PService × AckPayload) := do
  let raw ← rawTasks message.payload
  let decoded ← raw.mapM (TaskRecord.fromDict b)
  let tasks := decoded.map (TaskRecord.restamp service.clock.read)
  let (result, queue) := service.queue.tryEnqueueMany tasks
  let payload := ackPayload tasks result
  .ok ({ service with
    queue := queue
    handledTransfers := service.handledTransfers.insert message.requestId payload }, payload)

/-- A response, and the exception that its sending raises. -/
def respond (json : Json) (service : P2PService) (messageType : MessageType)
    (requestId : RequestId) (payload : Object) (sends : Sends) : P2PService × Outcome :=
  let (service, failure) := service.send json messageType requestId payload sends.response
  (service, .ofSend failure)

/-- `_handle_connection` on a new transfer, once its `ACK` is sent. -/
def concludeTransfer (b : Builtins) (json : Json) (service : P2PService) (sends : Sends)
    (senderId : WorkerId) (payload : AckPayload) : P2PService × Option PyError :=
  if payload.accepted then
    match service.notifyQueueChanged json sends with
    | (service, some e) => (service, some e)
    | (service, none) => (service, b.print (senderId ++ "의 작업 " ++
        toString payload.taskIds.length ++ "개를 받고 ACK를 보냈습니다."))
  else
    (service, b.print (senderId ++ "의 P2P 이전을 거부했습니다: " ++
      payload.reason.getD "None" ++ "."))

/-- `_handle_connection` on the message received. -/
def handleRequest (b : Builtins) (json : Json) (service : P2PService) (sends : Sends)
    (message : Message) : P2PService × Outcome :=
  match service.clock.observe message.logicalClock with
  | .error e => (service, .refused e)
  | .ok clock =>
      let service := { service with clock := clock }
      if service.peers ≠ [] ∧ message.senderId ∉ service.peers then
        (service, .refused ⟨.valueError, "unknown P2P sender: " ++ message.senderId⟩)
      else
        match message.messageType with
        | .P2P_STATUS_REQUEST =>
            match service.queue.snapshotStatus service.workerId with
            | .error text => (service, .refused ⟨.valueError, text⟩)
            | .ok status =>
                service.respond json .P2P_STATUS_RESPONSE message.requestId
                  [("worker_id", .str service.workerId), ("queue_size", .int status.queueSize),
                    ("queue_capacity", .int status.queueCapacity),
                    ("available_capacity", .int status.availableCapacity)] sends
        | .P2P_TRANSFER =>
            match service.handledTransfers.lookup message.requestId with
            | some previous =>
                service.respond json .ACK message.requestId previous.toDict sends
            | none =>
                match service.acceptTransfer b message with
                | .error e => (service, .refused e)
                | .ok (service, payload) =>
                    match service.respond json .ACK message.requestId payload.toDict sends with
                    | (service, .responded none) =>
                        let (service, failure) :=
                          service.concludeTransfer b json sends message.senderId payload
                        (service, .responded failure)
                    | failed => failed
        | messageType =>
            (service, .refused
              ⟨.valueError, "unsupported P2P message: " ++ messageType.value⟩)

def handleConnection (b : Builtins) (json : Json) (service : P2PService) (conn : Connection)
    (sends : Sends) : P2PService × Option PyError :=
  match conn.receive b json with
  | .error e => (service, some e)
  | .ok message =>
      let (service, outcome) := service.handleRequest b json sends message
      (service, outcome.error)

/-- The `except` clause of `_serve`, and the exception that leaves it. -/
def reject (b : Builtins) (e : PyError) : Option PyError :=
  if e.kind ∈ SERVE_CATCHES then b.print ("잘못된 P2P 요청을 거부했습니다: " ++ e.text ++ ".")
  else some e

/-- `_serve`, and the exception that ends the server thread. -/
def serve (b : Builtins) (json : Json) :
    P2PService → List (Connection × Sends) → P2PService × Option PyError
  | service, [] => (service, none)
  | service, (conn, sends) :: rest =>
      match service.handleConnection b json conn sends with
      | (service, none) => serve b json service rest
      | (service, some e) =>
          match reject b e with
          | none => serve b json service rest
          | some e => (service, some e)

/-! ### Which exceptions leave the handler -/

/-- The exceptions that `_serve` survives. -/
def survived : Set PyError := handled SERVE_CATCHES ∩ reportable

/-- The senders that end the server thread: no peer, with a name that cannot be printed. -/
def UnforeseenSender (service : P2PService) (message : Message) : Prop :=
  message.logicalClock.lt (.finite 0) = false ∧ service.peers ≠ [] ∧
    message.senderId ∉ service.peers ∧ ¬ Printable message.senderId

/-- A transfer of a known sender with a request id that was not handled before. -/
structure NewTransfer (service : P2PService) (message : Message) : Prop where
  clock : message.logicalClock.lt (.finite 0) = false
  known : service.peers = [] ∨ message.senderId ∈ service.peers
  messageType : message.messageType = .P2P_TRANSFER
  unhandled : service.handledTransfers.lookup message.requestId = none

/-- The transfers that end it: the first element that `Task.from_dict` does not accept raises
neither a `TypeError` nor a `ValueError`. -/
def UnforeseenTransfer (b : Builtins) (service : P2PService) (message : Message) : Prop :=
  service.NewTransfer message ∧
    ∃ before v after, message.payload.get "tasks" = some (.list (before ++ v :: after)) ∧
      (before ++ v :: after).length ≤ MAX_TRANSFER_COUNT ∧
      (∀ v' ∈ before, (TaskRecord.fromDict b v').Succeeds) ∧ TaskRecord.Unforeseen b v

def Unforeseen (b : Builtins) (service : P2PService) (message : Message) : Prop :=
  service.UnforeseenSender message ∨ service.UnforeseenTransfer b message

def ackMessage (service : P2PService) (requestId : RequestId) (payload : AckPayload)
    (clock : FloatClock) : Message where
  messageType := .ACK
  senderId := service.workerId
  requestId := requestId
  logicalClock := clock.read
  payload := payload.toDict

/-- The transfers that the queue has taken or declined when it turns out that the `ACK` cannot
be encoded. -/
def UnansweredTransfer (b : Builtins) (json : Json) (service : P2PService) (message : Message) :
    Prop :=
  service.NewTransfer message ∧
    ∃ clock sent raw decoded,
      service.clock.observe message.logicalClock = .ok clock ∧
      clock.advance (.finite COMMUNICATION_DELAY_SECONDS) = .ok sent ∧
      rawTasks message.payload = .ok raw ∧ raw.mapM (TaskRecord.fromDict b) = .ok decoded ∧
      let tasks := decoded.map (TaskRecord.restamp clock.read)
      let payload := ackPayload tasks (service.queue.tryEnqueueMany tasks).1
      ¬ (sendMessage json none (service.ackMessage message.requestId payload sent)).Succeeds

section

variable {b : Builtins} {json : Json} {service : P2PService} {sends : Sends}
variable {message : Message} {e : PyError}

theorem exists_send (json : Json) (service : P2PService) (messageType : MessageType)
    (requestId : RequestId) (payload : Object) (failure : Option OSErrorText) :
    ∃ clock, (service.send json messageType requestId payload failure).1 =
      { service with clock := clock } := by
  unfold send
  split
  · exact ⟨service.clock, rfl⟩
  · exact ⟨_, rfl⟩

theorem exists_sendQueueStatus (json : Json) (service : P2PService) (sends : Sends) :
    ∃ clock stats, (service.sendQueueStatus json sends).1 =
      { service with clock := clock, stats := stats } := by
  unfold sendQueueStatus
  split_ifs
  · exact ⟨service.clock, service.stats, rfl⟩
  · split
    · exact ⟨service.clock, service.stats, rfl⟩
    · dsimp only
      obtain ⟨clock, hsend⟩ := exists_send json
        { service with stats := (service.stats.getOrCreateWorkerLocked service.workerId).2 } _ _ _ _
      exact ⟨clock, _, hsend⟩

theorem exists_notifyQueueChanged (json : Json) (service : P2PService) (sends : Sends) :
    ∃ clock stats, (service.notifyQueueChanged json sends).1 =
      { service with clock := clock, stats := stats } := by
  obtain ⟨clock, stats, hreport⟩ := exists_sendQueueStatus json service sends
  refine ⟨clock, stats, ?_⟩
  rw [← hreport]
  unfold notifyQueueChanged
  split
  · rename_i hsent
    rw [hsent]
  · rename_i hsent
    rw [hsent]

theorem kinds_of_send {messageType : MessageType} {requestId : RequestId} {payload : Object}
    {failure : Option OSErrorText}
    (h : (service.send json messageType requestId payload failure).2 = some e) :
    e.kind = .valueError ∨ e.kind = .protocolError ∨ e.kind = .osError := by
  unfold send at h
  split at h
  · rename_i e' hadvance
    obtain ⟨clock, hclock⟩ := service.clock.advance_communicationDelay
    cases hclock.symm.trans hadvance
  · rename_i clock _
    cases hsend : sendMessage json failure
        { messageType := messageType
          senderId := service.workerId
          requestId := requestId
          logicalClock := clock.read
          payload := payload } with
    | ok message =>
        rw [hsend] at h
        cases h
    | error e' =>
        rw [hsend] at h
        cases h
        exact kind_of_sendMessage hsend

theorem mem_survived : e ∈ survived ↔ e.kind ∈ SERVE_CATCHES ∧ Printable e.text := Iff.rfl

theorem reject_eq_none_iff : reject b e = none ↔ e ∈ survived := by
  rw [mem_survived, reject]
  split_ifs with hkind
  · refine ⟨fun h => ⟨hkind, ?_⟩, fun h => b.print_of_printable ?_⟩
    · unfold Builtins.print at h
      split_ifs at h with hline
      exact (printable_append.1 (printable_append.1 hline).1).2
    · exact printable_append.2 ⟨printable_append.2 ⟨printable_ofList.2 (by decide), h.2⟩, by decide⟩
  · exact iff_of_false (by simp) fun h => hkind h.1

theorem survived_of_valueError (hkind : e.kind = .valueError) (htext : Printable e.text) :
    e ∈ survived :=
  mem_survived.2 ⟨by simp [SERVE_CATCHES, hkind], htext⟩

theorem survived_of_print {s : String} (h : b.print s = some e) : e ∈ survived := by
  obtain ⟨_, hkind, htext⟩ := Builtins.print_eq_some h
  exact survived_of_valueError hkind htext

theorem survived_of_snapshotStatus {text : String}
    (h : service.queue.snapshotStatus service.workerId = .error text) :
    (⟨.valueError, text⟩ : PyError) ∈ survived :=
  survived_of_valueError rfl (printable_of_statusPostInit h)

theorem survived_of_send {messageType : MessageType} {requestId : RequestId} {payload : Object}
    {failure : Option OSErrorText}
    (h : (service.send json messageType requestId payload failure).2 = some e) :
    e ∈ survived := by
  refine ⟨?_, ?_⟩
  · rcases kinds_of_send h with hkind | hkind | hkind <;>
      simp [mem_handled, SERVE_CATCHES, hkind]
  · unfold send at h
    split at h
    · rename_i e' hadvance
      obtain ⟨clock, hclock⟩ := service.clock.advance_communicationDelay
      cases hclock.symm.trans hadvance
    · generalize hmessage : sendMessage json failure _ = sent at h
      cases sent with
      | ok message => cases h
      | error e' =>
          cases h
          by_contra htext
          exact reportable_sendMessage ⟨e, hmessage, htext⟩

theorem survived_of_sendQueueStatus (h : (service.sendQueueStatus json sends).2 = some e) :
    e ∈ survived := by
  unfold sendQueueStatus at h
  split_ifs at h
  split at h
  · rename_i text hstatus
    cases h
    exact survived_of_snapshotStatus hstatus
  · exact survived_of_send h

theorem survived_of_notifyQueueChanged (h : (service.notifyQueueChanged json sends).2 = some e) :
    e ∈ survived := by
  unfold notifyQueueChanged at h
  split at h
  · rename_i service' e' hreport
    simp only at h
    split_ifs at h
    cases h
    exact survived_of_sendQueueStatus (congrArg Prod.snd hreport)
  · cases h

theorem survived_of_concludeTransfer {senderId : WorkerId} {payload : AckPayload}
    (h : (service.concludeTransfer b json sends senderId payload).2 = some e) : e ∈ survived := by
  unfold concludeTransfer at h
  split_ifs at h
  · split at h
    · rename_i service' e' hnotify
      cases h
      exact survived_of_notifyQueueChanged (congrArg Prod.snd hnotify)
    · exact survived_of_print h
  · exact survived_of_print h

theorem exists_concludeTransfer (b : Builtins) (json : Json) (service : P2PService)
    (sends : Sends) (senderId : WorkerId) (payload : AckPayload) :
    ∃ clock stats, (service.concludeTransfer b json sends senderId payload).1 =
      { service with clock := clock, stats := stats } := by
  unfold concludeTransfer
  split_ifs
  · obtain ⟨clock, stats, hnotify⟩ := exists_notifyQueueChanged json service sends
    refine ⟨clock, stats, ?_⟩
    rw [← hnotify]
    split
    · rename_i hsent
      rw [hsent]
    · rename_i hsent
      rw [hsent]
  · exact ⟨service.clock, service.stats, rfl⟩

theorem acceptTransfer_eq_ok_iff {service' : P2PService} {payload : AckPayload} :
    service.acceptTransfer b message = .ok (service', payload) ↔
      ∃ raw decoded, rawTasks message.payload = .ok raw ∧
        raw.mapM (TaskRecord.fromDict b) = .ok decoded ∧
        let tasks := decoded.map (TaskRecord.restamp service.clock.read)
        let result := service.queue.tryEnqueueMany tasks
        service' = { service with
            queue := result.2
            handledTransfers := service.handledTransfers.insert message.requestId payload } ∧
          payload = ackPayload tasks result.1 := by
  unfold acceptTransfer
  simp only [bind_eq_ok_iff, Except.ok.injEq, Prod.mk.injEq]
  constructor
  · rintro ⟨raw, hraw, decoded, hdecoded, rfl, rfl⟩
    exact ⟨raw, decoded, hraw, hdecoded, rfl, rfl⟩
  · rintro ⟨raw, decoded, hraw, hdecoded, rfl, rfl⟩
    exact ⟨raw, hraw, decoded, hdecoded, rfl, rfl⟩

theorem rawTasks_eq_ok_iff {payload : Object} {raw : List Value} :
    rawTasks payload = .ok raw ↔ payload.get "tasks" = some (.list raw) ∧
      MIN_TRANSFER_COUNT ≤ raw.length ∧ raw.length ≤ MAX_TRANSFER_COUNT := by
  unfold rawTasks
  split
  · rename_i raw' hget
    rw [hget, Option.some.injEq, Value.list.injEq]
    split_ifs with hsize
    · rw [Except.ok.injEq]
      exact ⟨fun h => ⟨h, h ▸ hsize⟩, fun h => h.1⟩
    · refine iff_of_false (by simp) ?_
      rintro ⟨rfl, hsize'⟩
      exact hsize hsize'
  · rename_i hget
    exact iff_of_false (by simp) fun h => hget raw h.1

theorem not_escapes_rawTasks {payload : Object} : ¬ (rawTasks payload).Escapes survived := by
  have hcount : (⟨.valueError, "P2P transfer must contain 1 to 3 tasks"⟩ : PyError) ∈ survived :=
    survived_of_valueError rfl (printable_ofList.2 (by decide))
  unfold rawTasks
  split
  · split_ifs
    · exact not_escapes_ok _
    · exact fun h => escapes_error.1 h hcount
  · exact fun h => escapes_error.1 h hcount

/-- The list is read if it has one to three elements, and then element by element. -/
theorem escapes_acceptTransfer :
    (service.acceptTransfer b message).Escapes survived ↔
      ∃ before v after, message.payload.get "tasks" = some (.list (before ++ v :: after)) ∧
        (before ++ v :: after).length ≤ MAX_TRANSFER_COUNT ∧
        (∀ v' ∈ before, (TaskRecord.fromDict b v').Succeeds) ∧ TaskRecord.Unforeseen b v := by
  have hdecode : ∀ v, (TaskRecord.fromDict b v).Escapes survived ↔
      TaskRecord.Unforeseen b v := fun v => by
    rw [survived, escapes_inter, TaskRecord.escapes_fromDict (by simp [SERVE_CATCHES])
      (by simp [SERVE_CATCHES]) (by simp [SERVE_CATCHES]) (by simp [SERVE_CATCHES])
      (by simp [SERVE_CATCHES])]
    exact or_iff_left TaskRecord.reportable_fromDict
  unfold acceptTransfer
  simp only [escapes_bind, not_escapes_rawTasks, escapes_mapM, hdecode, rawTasks_eq_ok_iff,
    false_or, not_escapes_ok, and_false, exists_false, or_false]
  constructor
  · rintro ⟨raw, ⟨hget, _, hmax⟩, before, v, after, rfl, hbefore, hv⟩
    exact ⟨before, v, after, hget, hmax, hbefore, hv⟩
  · rintro ⟨before, v, after, hget, hmax, hbefore, hv⟩
    refine ⟨before ++ v :: after, ⟨hget, ?_, hmax⟩, before, v, after, rfl, hbefore, hv⟩
    rw [List.length_append, List.length_cons, MIN_TRANSFER_COUNT]
    omega

/-- The `ACK` of a transfer is sent, or it cannot be encoded. -/
theorem respond_cases (json : Json) (service : P2PService) (sends : Sends) {sent : FloatClock}
    (hsent : service.clock.advance (.finite COMMUNICATION_DELAY_SECONDS) = .ok sent)
    (requestId : RequestId) (payload : AckPayload) :
    let ack := service.ackMessage requestId payload sent
    (sendMessage json none ack).Succeeds ∧
        (∃ failure, service.respond json .ACK requestId payload.toDict sends =
          ({ service with clock := sent }, .responded failure) ∧
          ∀ e, failure = some e → e ∈ survived) ∨
      ¬ (sendMessage json none ack).Succeeds ∧
        ∃ e, service.respond json .ACK requestId payload.toDict sends =
          ({ service with clock := sent }, .refused e) ∧ e ∈ survived := by
  intro ack
  have hsend : service.send json .ACK requestId payload.toDict sends.response =
      ({ service with clock := sent }, failureOf (sendMessage json sends.response ack)) := by
    rw [send, hsent]
    rfl
  have hcaught : ∀ e, sendMessage json sends.response ack = .error e → e ∈ survived :=
    fun e he => survived_of_send (by rw [hsend, he]; rfl)
  obtain ⟨kept, hbare, hsending⟩ | ⟨e, hbare, hsending, hkind⟩ :=
    sendMessage_cases json sends.response ack
  · refine .inl ⟨⟨kept, hbare⟩, ?_⟩
    rw [respond, hsend]
    cases hresponse : sends.response with
    | none =>
        rw [hresponse] at hsending
        refine ⟨none, by rw [hsending]; rfl, fun e he => ?_⟩
        cases he
    | some failure =>
        rw [hresponse] at hsending hcaught
        refine ⟨some ⟨.osError, failure.text⟩, by rw [hsending]; rfl, fun e he => ?_⟩
        cases he
        exact hcaught _ hsending
  · refine .inr ⟨?_, e, ?_, hcaught e hsending⟩
    · rintro ⟨kept, hkept⟩
      cases hbare.symm.trans hkept
    · rw [respond, hsend, hsending]
      simp only [failureOf, Outcome.ofSend, if_neg hkind]

theorem unansweredTransfer_iff {clock sent : FloatClock} {raw : List Value}
    {decoded : List TaskRecord} (hnew : service.NewTransfer message)
    (hobserve : service.clock.observe message.logicalClock = .ok clock)
    (hsent : clock.advance (.finite COMMUNICATION_DELAY_SECONDS) = .ok sent)
    (hraw : rawTasks message.payload = .ok raw)
    (hdecoded : raw.mapM (TaskRecord.fromDict b) = .ok decoded) :
    service.UnansweredTransfer b json message ↔
      let tasks := decoded.map (TaskRecord.restamp clock.read)
      let payload := ackPayload tasks (service.queue.tryEnqueueMany tasks).1
      ¬ (sendMessage json none (service.ackMessage message.requestId payload sent)).Succeeds := by
  constructor
  · rintro ⟨_, clock', sent', raw', decoded', hobserve', hsent', hraw', hdecoded', hfails⟩
    cases hobserve.symm.trans hobserve'
    cases hsent.symm.trans hsent'
    cases hraw.symm.trans hraw'
    cases hdecoded.symm.trans hdecoded'
    exact hfails
  · intro hfails
    exact ⟨hnew, clock, sent, raw, decoded, hobserve, hsent, hraw, hdecoded, hfails⟩

theorem not_unansweredTransfer {clock : FloatClock}
    (hobserve : service.clock.observe message.logicalClock = .ok clock)
    (haccept : acceptTransfer b { service with clock := clock } message = .error e) :
    ¬ service.UnansweredTransfer b json message := by
  rintro ⟨_, clock', sent, raw, decoded, hobserve', _, hraw, hdecoded, _⟩
  cases hobserve.symm.trans hobserve'
  cases haccept.symm.trans
    (acceptTransfer_eq_ok_iff.2 ⟨raw, decoded, hraw, hdecoded, rfl, rfl⟩)

theorem acceptTransfer_answered {clock : FloatClock} {service' : P2PService}
    {payload : AckPayload} (json : Json) (sends : Sends) (hnew : service.NewTransfer message)
    (hobserve : service.clock.observe message.logicalClock = .ok clock)
    (haccept : acceptTransfer b { service with clock := clock } message =
      .ok (service', payload)) :
    (¬ service.UnansweredTransfer b json message ∧ ∃ after failure,
        service'.respond json .ACK message.requestId payload.toDict sends =
          (after, .responded failure) ∧ ∀ e, failure = some e → e ∈ survived) ∨
      service.UnansweredTransfer b json message ∧ ∃ after e,
        service'.respond json .ACK message.requestId payload.toDict sends =
          (after, .refused e) ∧ e ∈ survived ∧
        after.handledTransfers ≠ service.handledTransfers := by
  obtain ⟨raw, decoded, hraw, hdecoded, hservice, hpayload⟩ := acceptTransfer_eq_ok_iff.1 haccept
  obtain ⟨sent, hsent⟩ := clock.advance_communicationDelay
  have hunanswered : service.UnansweredTransfer b json message ↔ _ :=
    unansweredTransfer_iff hnew hobserve hsent hraw hdecoded
  have hadvance : service'.clock.advance (.finite COMMUNICATION_DELAY_SECONDS) = .ok sent := by
    rw [hservice]
    exact hsent
  have hack : service.ackMessage message.requestId payload sent =
      service'.ackMessage message.requestId payload sent := by rw [hservice]; rfl
  dsimp only at hunanswered hpayload
  rw [← hpayload, hack] at hunanswered
  obtain ⟨hencodes, failure, hrespond, hcaught⟩ | ⟨hfails, e, hrespond, hcaught⟩ :=
    respond_cases json service' sends hadvance message.requestId payload
  · exact .inl ⟨mt hunanswered.1 (not_not.2 hencodes), _, failure, hrespond, hcaught⟩
  · refine .inr ⟨hunanswered.2 hfails, _, e, hrespond, hcaught, fun hsame => ?_⟩
    have hkept : service.handledTransfers.lookup message.requestId = some payload := by
      rw [← hsame, hservice]
      exact AList.lookup_insert _
    cases hnew.unhandled.symm.trans hkept

/-- What becomes of a request: it is refused and has changed nothing, it is refused when the
queue has dealt with it, or the response was handed to the socket. -/
inductive Served (b : Builtins) (json : Json) (service : P2PService) (message : Message) :
    P2PService × Outcome → Prop
  | refused {after : P2PService} {e : PyError} (queue : after.queue = service.queue)
      (transfers : after.handledTransfers = service.handledTransfers)
      (escapes : e ∉ survived ↔ service.Unforeseen b message)
      (answered : ¬ service.UnansweredTransfer b json message) :
      Served b json service message (after, .refused e)
  | unanswered {after : P2PService} {e : PyError} (caught : e ∈ survived)
      (changed : after.handledTransfers ≠ service.handledTransfers)
      (foreseen : ¬ service.Unforeseen b message)
      (unanswered : service.UnansweredTransfer b json message) :
      Served b json service message (after, .refused e)
  | responded {after : P2PService} {failure : Option PyError}
      (caught : ∀ e, failure = some e → e ∈ survived)
      (foreseen : ¬ service.Unforeseen b message)
      (answered : ¬ service.UnansweredTransfer b json message) :
      Served b json service message (after, .responded failure)

theorem served_respond {clock : FloatClock} (hnew : ¬ service.NewTransfer message)
    (hforeseen : ¬ service.Unforeseen b message) (messageType : MessageType)
    (requestId : RequestId) (payload : Object) :
    Served b json service message
      (respond json { service with clock := clock } messageType requestId payload sends) := by
  have hanswered : ¬ service.UnansweredTransfer b json message := fun h => hnew h.1
  obtain ⟨clock', hafter⟩ := exists_send json { service with clock := clock } messageType
    requestId payload sends.response
  unfold respond
  generalize hsend : send json { service with clock := clock } messageType requestId payload
    sends.response = result at hafter
  obtain ⟨after, failure⟩ := result
  cases hafter
  cases failure with
  | none =>
      refine .responded (fun e he => ?_) hforeseen hanswered
      cases he
  | some e =>
      have hcaught : e ∈ survived := survived_of_send (congrArg Prod.snd hsend)
      simp only [Outcome.ofSend]
      split_ifs
      · refine .responded (fun e' he' => ?_) hforeseen hanswered
        cases he'
        exact hcaught
      · exact .refused rfl rfl (iff_of_false (not_not.2 hcaught) hforeseen) hanswered

/-- The line about a sender that is no peer repeats its name. -/
theorem unknown_sender_iff (hclock : message.logicalClock.lt (.finite 0) = false)
    (hsender : service.peers ≠ [] ∧ message.senderId ∉ service.peers) :
    (⟨.valueError, "unknown P2P sender: " ++ message.senderId⟩ : PyError) ∉ survived ↔
      service.Unforeseen b message := by
  have htext : Printable ("unknown P2P sender: " ++ message.senderId) ↔
      Printable message.senderId := by
    rw [printable_append]
    exact and_iff_right (printable_ofList.2 (by decide))
  rw [mem_survived, htext, not_and]
  constructor
  · intro h
    exact .inl ⟨hclock, hsender.1, hsender.2, h (by simp [SERVE_CATCHES])⟩
  · rintro (h | h) _
    · exact h.2.2.2
    · exact absurd h.1.known (not_or.2 hsender)

theorem served_handleRequest (b : Builtins) (json : Json) (service : P2PService)
    (sends : Sends) (message : Message) :
    Served b json service message (service.handleRequest b json sends message) := by
  unfold handleRequest
  cases hobserve : service.clock.observe message.logicalClock with
  | error e =>
      -- the constructor of the message lets no such clock through
      obtain ⟨hnegative, hkind, htext⟩ := FloatClock.observe_eq_error hobserve
      have hnew : ¬ service.NewTransfer message := fun hnew => by
        cases hnew.clock.symm.trans hnegative
      refine .refused rfl rfl (iff_of_false (not_not.2 (survived_of_valueError hkind htext)) ?_)
        fun h => hnew h.1
      rintro (h | h)
      · cases h.1.symm.trans hnegative
      · exact hnew h.1
  | ok clock =>
      have hclock := FloatClock.nonneg_of_observe hobserve
      simp only
      by_cases hsender : service.peers ≠ [] ∧ message.senderId ∉ service.peers
      · rw [if_pos hsender]
        have hnew : ¬ service.NewTransfer message := fun hnew =>
          absurd hnew.known (not_or.2 hsender)
        exact .refused rfl rfl (unknown_sender_iff hclock hsender) fun h => hnew h.1
      rw [if_neg hsender]
      have hknown : service.peers = [] ∨ message.senderId ∈ service.peers := by
        by_contra hnot
        exact hsender (not_or.1 hnot)
      have hiff : service.Unforeseen b message ↔ service.UnforeseenTransfer b message :=
        or_iff_right fun h => hsender ⟨h.2.1, h.2.2.1⟩
      have hforeseen : ¬ service.NewTransfer message → ¬ service.Unforeseen b message :=
        fun hnew h => hnew (hiff.1 h).1
      cases htype : message.messageType with
      | P2P_STATUS_REQUEST =>
          have hnew : ¬ service.NewTransfer message := fun hnew => by
            cases htype.symm.trans hnew.messageType
          cases hstatus : service.queue.snapshotStatus service.workerId with
          | error text =>
              exact .refused rfl rfl (iff_of_false
                (not_not.2 (survived_of_snapshotStatus hstatus)) (hforeseen hnew))
                fun h => hnew h.1
          | ok status => exact served_respond hnew (hforeseen hnew) _ _ _
      | P2P_TRANSFER =>
          simp only
          cases hprevious : service.handledTransfers.lookup message.requestId with
          | some previous =>
              have hnew : ¬ service.NewTransfer message := fun hnew => by
                cases hprevious.symm.trans hnew.unhandled
              exact served_respond hnew (hforeseen hnew) _ _ _
          | none =>
              have hnew : service.NewTransfer message := ⟨hclock, hknown, htype, hprevious⟩
              have hescapes : service.Unforeseen b message ↔
                  (acceptTransfer b { service with clock := clock } message).Escapes
                    survived := by
                rw [hiff, escapes_acceptTransfer]
                exact and_iff_right hnew
              cases haccept : acceptTransfer b { service with clock := clock } message with
              | error e =>
                  rw [haccept, escapes_error] at hescapes
                  exact .refused rfl rfl hescapes.symm (not_unansweredTransfer hobserve haccept)
              | ok accepted =>
                  obtain ⟨service', payload⟩ := accepted
                  rw [haccept] at hescapes
                  have hforeseen := mt hescapes.1 (not_escapes_ok _)
                  dsimp only
                  obtain ⟨hanswered, after, failure, hrespond, hcaught⟩ |
                    ⟨hunanswered, after, e, hrespond, hcaught, hchanged⟩ :=
                    acceptTransfer_answered json sends hnew hobserve haccept
                  · rw [hrespond]
                    cases failure with
                    | none =>
                        exact .responded (fun e he => survived_of_concludeTransfer he) hforeseen
                          hanswered
                    | some e => exact .responded hcaught hforeseen hanswered
                  · rw [hrespond]
                    exact .unanswered hcaught hchanged hforeseen hunanswered
      | _ =>
          have hnew : ¬ service.NewTransfer message := fun hnew => by
            cases htype.symm.trans hnew.messageType
          refine .refused rfl rfl (iff_of_false (not_not.2 ?_) (hforeseen hnew)) fun h => hnew h.1
          exact survived_of_valueError rfl
            (printable_append.2 ⟨printable_ofList.2 (by decide), printable_value _⟩)

theorem Served.survived_iff {result : P2PService × Outcome}
    (h : Served b json service message result) :
    (∀ e, result.2.error = some e → e ∈ survived) ↔ ¬ service.Unforeseen b message := by
  cases h with
  | refused _ _ escapes =>
      rw [← escapes, not_not]
      exact ⟨fun h => h _ rfl, fun h e he => Option.some.inj he ▸ h⟩
  | unanswered caught _ foreseen =>
      exact iff_of_true (fun e he => Option.some.inj he ▸ caught) foreseen
  | responded caught foreseen => exact iff_of_true caught foreseen

theorem Served.unchanged_iff {result : P2PService × Outcome}
    (h : Served b json service message result) :
    (∀ e, result.2 = .refused e → result.1.queue = service.queue ∧
        result.1.handledTransfers = service.handledTransfers) ↔
      ¬ service.UnansweredTransfer b json message := by
  cases h with
  | refused queue transfers _ answered =>
      exact iff_of_true (fun _ _ => ⟨queue, transfers⟩) answered
  | unanswered _ changed _ unanswered =>
      exact iff_of_false (fun h => changed (h _ rfl).2) (not_not.2 unanswered)
  | responded _ _ answered =>
      refine iff_of_true (fun e he => ?_) answered
      cases he

/-- **A malformed request.** The exception that leaves `_handle_connection` is one that
`_serve` catches and tells of, and a request that is refused before anything of a response is
sent changes neither the queue nor the transfers, if and only if no unknown sender has a name
that cannot be printed, no transfer holds a value that `Task.from_dict` does not foresee, and no
`ACK` of a new transfer cannot be encoded. -/
theorem handleRequest_safe_iff (b : Builtins) (json : Json) (service : P2PService)
    (sends : Sends) (message : Message) :
    ((∀ e, (service.handleRequest b json sends message).2.error = some e →
        e.kind ∈ SERVE_CATCHES ∧ reject b e = none) ∧
      (∀ e, (service.handleRequest b json sends message).2 = .refused e →
        (service.handleRequest b json sends message).1.queue = service.queue ∧
        (service.handleRequest b json sends message).1.handledTransfers =
          service.handledTransfers)) ↔
      ¬ (service.Unforeseen b message ∨ service.UnansweredTransfer b json message) := by
  have hsurvives : ∀ e, e.kind ∈ SERVE_CATCHES ∧ reject b e = none ↔ e ∈ survived := fun e => by
    rw [reject_eq_none_iff, mem_survived, ← and_assoc, and_self]
  have hserved := served_handleRequest b json service sends message
  simp only [hsurvives]
  rw [hserved.survived_iff, hserved.unchanged_iff, not_or]

/-- The exception for a sender that is no peer is caught, but not the one for the line about it. -/
example : ∃ e, (handleRequest Builtins.plain terminateJson
    { workerId := "worker1", peers := ["worker2", "worker3", "worker4"] } { reportId := "r2" }
    { messageType := .P2P_STATUS_REQUEST, senderId := ofCodePoints [.surrogate 0],
      requestId := "r1", payload := [] }).2 = .refused e ∧ e.kind ∈ SERVE_CATCHES ∧
    reject Builtins.plain e ≠ none :=
  ⟨_, rfl, by decide, by decide +kernel⟩

/-! ### The accept loop -/

theorem survived_handleConnection (b : Builtins) (json : Json) (service : P2PService)
    (conn : Connection) (sends : Sends) :
    (∀ e, (service.handleConnection b json conn sends).2 = some e → e ∈ survived) ↔
      ¬ conn.Unforeseen b json ∧
        ∀ message, conn.receive b json = .ok message → ¬ service.Unforeseen b message := by
  have hreceive : (conn.receive b json).Escapes survived ↔ conn.Unforeseen b json := by
    rw [survived, escapes_inter, Connection.escapes_receive (by simp [SERVE_CATCHES])
      (by simp [SERVE_CATCHES]) (by simp [SERVE_CATCHES]) (by simp [SERVE_CATCHES])
      (by simp [SERVE_CATCHES])]
    exact or_iff_left Connection.reportable_receive
  unfold handleConnection
  cases hmessage : conn.receive b json with
  | error e =>
      rw [hmessage, escapes_error] at hreceive
      constructor
      · intro h
        refine ⟨mt hreceive.2 (not_not.2 (h e rfl)), fun message h => ?_⟩
        cases h
      · rintro ⟨hforeseen, _⟩ e' he'
        cases he'
        exact not_not.1 (mt hreceive.1 hforeseen)
  | ok message =>
      rw [hmessage] at hreceive
      have hforeseen : ¬ conn.Unforeseen b json := mt hreceive.2 (not_escapes_ok _)
      simp only [Except.ok.injEq, forall_eq', hforeseen, not_false_eq_true, true_and]
      exact (served_handleRequest b json service sends message).survived_iff

/-- No connection, when its turn comes, brings what is not foreseen. -/
def Foreseen (b : Builtins) (json : Json) : P2PService → List (Connection × Sends) → Prop
  | _, [] => True
  | service, (conn, sends) :: rest =>
      (¬ conn.Unforeseen b json ∧
        ∀ message, conn.receive b json = .ok message → ¬ service.Unforeseen b message) ∧
      Foreseen b json (service.handleConnection b json conn sends).1 rest

/-- The server thread outlives the connections if and only if all of them are foreseen. -/
theorem serve_survives_iff (conns : List (Connection × Sends)) :
    (serve b json service conns).2 = none ↔ Foreseen b json service conns := by
  induction conns generalizing service with
  | nil => exact iff_of_true rfl trivial
  | cons head rest ih =>
      obtain ⟨conn, sends⟩ := head
      have hsurvived := survived_handleConnection b json service conn sends
      rw [serve, Foreseen, ← hsurvived, ← ih]
      obtain ⟨service', failure⟩ := service.handleConnection b json conn sends
      cases failure with
      | none => simp
      | some e =>
          simp only [Option.some.injEq, forall_eq', ← reject_eq_none_iff (b := b)]
          cases reject b e <;> simp

end

/-- A transfer of one task that is no dictionary. -/
def nullTransfer : Message where
  messageType := .P2P_TRANSFER
  senderId := "worker2"
  requestId := "r1"
  payload := [("tasks", .list [.null])]

/-- The message is well formed, and the exception that it leads to is not caught. -/
theorem not_handleRequest_safe_nullTransfer :
    Message.fromDict Builtins.plain nullTransfer.toDict = .ok nullTransfer ∧
      (handleRequest Builtins.plain terminateJson
          { workerId := "worker1", peers := ["worker2", "worker3", "worker4"] }
          { reportId := "r2" } nullTransfer).2 =
        .refused ⟨.attributeError, "'NoneType' object has no attribute 'get'"⟩ ∧
      ErrorKind.attributeError ∉ SERVE_CATCHES :=
  ⟨Message.fromDict_toDict _ rfl, by decide +kernel, by decide⟩

end P2PService

end KVStore
