import KVStore.Library.Heap
import KVStore.Worker.ReadyQueue

/-!
# The P2P services of the workers

`Node` is one worker as its peers see it: its ready queue, the processor thread
that empties it, the monitor thread that runs `balance_once` and the server
thread that runs `_handle_connection`. A thread is modelled by the place its code
has reached; each step of a thread is one locked queue operation, one message
sent or one message received.

`Net` adds the requests and replies in flight. Every request has a connection of
its own, named by its fresh `request_id`, so messages of different connections
arrive in any order. A request or a reply can be lost, and a sender can give up
waiting; a message that is still in flight then may arrive all the same.
-/

namespace KVStore

/-- A task object that travels through the workers. `dispatch` is a history
variable: the number of the dispatch it goes back to. No code reads it. -/
structure Copy where
  task : Task
  dispatch : ℕ
deriving DecidableEq

instance : HasTaskId Copy := ⟨fun copy => copy.task.taskId⟩

namespace Copy

/-- `Task.from_dict` on the fields that `to_dict` wrote: the constructor checks
them again. -/
def fromDict (copy : Copy) : Except String Copy :=
  copy.task.postInit.map fun task => { copy with task := task }

/-- A worker that takes a task over sets its `enqueued_at`. -/
def restamp (now : ℚ) (copy : Copy) : Copy :=
  { copy with task := { copy.task with enqueuedAt := now } }

end Copy

def OVERLOAD_WAIT_SECONDS : ℤ := 15

def MIN_TRANSFER_COUNT : ℕ := 1

def MAX_TRANSFER_COUNT : ℕ := 3

theorem one_mem_counts : MIN_TRANSFER_COUNT ≤ 1 ∧ 1 ≤ MAX_TRANSFER_COUNT := by decide

inductive P2PPayload
  | statusRequest
  | transfer (tasks : List Copy)
deriving DecidableEq

structure P2PRequest where
  requestId : RequestId
  senderId : WorkerId
  receiver : WorkerId
  payload : P2PPayload
deriving DecidableEq

/-- The payload of an `ACK`, as `_handled_transfers` keeps it. -/
structure AckPayload where
  accepted : Bool
  taskIds : List TaskId
  reason : Option String
deriving DecidableEq

/-- A response message; an absent payload entry has the default that the reader
gives it. -/
structure P2PResponse where
  messageType : MessageType
  senderId : WorkerId
  requestId : RequestId
  availableCapacity : ℤ := 0
  acknowledgedType : Option MessageType := none
  accepted : Bool := false
  taskIds : List TaskId := []
  reason : Option String := none
deriving DecidableEq

structure P2PReply where
  connection : RequestId
  response : Option P2PResponse
deriving DecidableEq

/-- Where the monitor thread stands in `balance_once`. -/
inductive Monitor
  | idle
  | asking (peers : List WorkerId) (statuses : List (ℤ × WorkerId))
  | awaitingStatus (requestId : RequestId) (peer : WorkerId) (peers : List WorkerId)
      (statuses : List (ℤ × WorkerId))
  | reserving (peer : WorkerId) (candidates : List TaskId) (reserved : List Copy)
  | awaitingAck (requestId : RequestId) (peer : WorkerId) (reserved : List Copy)
  | confirming (requestId : RequestId) (peer : WorkerId) (reserved remaining : List Copy)
  | releasing (requestId : RequestId) (peer : WorkerId) (reserved remaining : List Copy)
deriving DecidableEq

/-- Where the processor thread stands: a task it took is worked on until its
result is sent, and stays active until it is marked done. -/
inductive Processor
  | idle
  | working (copy : Copy)
  | reported (copy : Copy)
deriving DecidableEq

/-- One worker. The server thread, between handling a connection and answering
on it, keeps the reply and whether the queue changed. The last three fields are
history variables: the tasks accepted one by one, the batches accepted from
peers, and the tasks whose processing is done. -/
structure Node where
  queue : ReadyQueue Copy := { capacity := DEFAULT_QUEUE_CAPACITY.toNat }
  handledTransfers : Dict RequestId AckPayload := ∅
  monitor : Monitor := .idle
  server : Option (P2PReply × Bool) := none
  processor : Processor := .idle
  admitted : List Copy := []
  received : List (RequestId × List Copy) := []
  finished : List Copy := []

namespace Node

/-! ### The server thread -/

def ackResponse (w : WorkerId) (requestId : RequestId) (payload : AckPayload) :
    P2PResponse where
  messageType := .ACK
  senderId := w
  requestId := requestId
  acknowledgedType := some .P2P_TRANSFER
  accepted := payload.accepted
  taskIds := payload.taskIds
  reason := payload.reason

/-- `_handle_connection` up to the response: the node, the response, and whether
the queue changed. No response means that the request was refused by an exception
and the connection is closed. -/
def handleConnection (peers : List WorkerId) (w : WorkerId) (node : Node)
    (request : P2PRequest) (now : ℚ) : Node × Option P2PResponse × Bool :=
  if peers ≠ [] ∧ request.senderId ∉ peers then
    (node, none, false)
  else
    match request.payload with
    | .statusRequest =>
        match node.queue.snapshotStatus w with
        | .error _ => (node, none, false)
        | .ok status =>
            (node, some
              { messageType := .P2P_STATUS_RESPONSE
                senderId := w
                requestId := request.requestId
                availableCapacity := status.availableCapacity }, false)
    | .transfer rawTasks =>
        match node.handledTransfers.lookup request.requestId with
        | some previous => (node, some (ackResponse w request.requestId previous), false)
        | none =>
            if ¬ (MIN_TRANSFER_COUNT ≤ rawTasks.length ∧
                rawTasks.length ≤ MAX_TRANSFER_COUNT) then
              (node, none, false)
            else
              match rawTasks.mapM Copy.fromDict with
              | .error _ => (node, none, false)
              | .ok decoded =>
                  let tasks := decoded.map (Copy.restamp now)
                  let result := (node.queue.tryEnqueueMany tasks).1
                  let payload : AckPayload :=
                    { accepted := result.accepted
                      taskIds := if result.accepted then tasks.map HasTaskId.taskId else []
                      reason := result.reason }
                  ({ node with
                      queue := (node.queue.tryEnqueueMany tasks).2
                      handledTransfers :=
                        node.handledTransfers.insert request.requestId payload
                      received :=
                        if result.accepted then
                          node.received ++ [(request.requestId, tasks)]
                        else
                          node.received },
                    some (ackResponse w request.requestId payload), result.accepted)

/-! ### The monitor thread -/

/-- The sort key of the peers: most free room, then smallest id. -/
def peerLe (a b : ℤ × WorkerId) : Prop := b.1 < a.1 ∨ (a.1 = b.1 ∧ a.2 ≤ b.2)

instance : DecidableRel peerLe := fun a b =>
  inferInstanceAs (Decidable (b.1 < a.1 ∨ (a.1 = b.1 ∧ a.2 ≤ b.2)))

/-- The test of `balance_once` on the answer to a transfer of `taskIds`. -/
def transferAccepted (requestId : RequestId) (peer : WorkerId) (taskIds : List TaskId) :
    Option P2PResponse → Bool
  | none => false
  | some response =>
      decide (response.messageType = .ACK) && decide (response.senderId = peer) &&
        decide (response.requestId = requestId) &&
        decide (response.acknowledgedType = some .P2P_TRANSFER) && response.accepted &&
        decide (response.taskIds.toFinset = taskIds.toFinset)

/-- A step of `balance_once` that does not wait for an answer: the node, the
request it sends, and whether the queue changed. `requestId` is the id of a new
request and `count` the draw of `randint`. -/
def balanceStep (peers : List WorkerId) (w : WorkerId) (node : Node)
    (requestId : RequestId) (count : ℕ) : Option (Node × Option P2PRequest × Bool) :=
  match node.monitor with
  | .idle =>
      match node.queue.snapshotStatus w with
      | .error _ => none
      | .ok status =>
          if status.estimatedWaitSeconds ≤ OVERLOAD_WAIT_SECONDS then
            some (node, none, false)
          else
            some ({ node with monitor := .asking peers [] }, none, false)
  | .asking (peer :: rest) statuses =>
      some ({ node with monitor := .awaitingStatus requestId peer rest statuses },
        some
          { requestId := requestId
            senderId := w
            receiver := peer
            payload := .statusRequest }, false)
  | .asking [] statuses =>
      match Heap.least peerLe statuses with
      | none => some ({ node with monitor := .idle }, none, false)
      | some (available, peer) =>
          if MIN_TRANSFER_COUNT ≤ count ∧ count ≤ MAX_TRANSFER_COUNT then
            match node.queue.peekTransferCandidates (min (count : ℤ) available) with
            | .error _ => none
            | .ok candidates =>
                some ({ node with
                  monitor := .reserving peer (candidates.map HasTaskId.taskId) [] },
                  none, false)
          else
            none
  | .reserving peer (t :: rest) reserved =>
      some ({ node with
        queue := (node.queue.reserveForTransfer t).2
        monitor := .reserving peer rest
          (reserved ++ (node.queue.reserveForTransfer t).1.toList) }, none, false)
  | .reserving peer [] reserved =>
      if reserved = [] then
        some ({ node with monitor := .idle }, none, false)
      else
        some ({ node with monitor := .awaitingAck requestId peer reserved },
          some
            { requestId := requestId
              senderId := w
              receiver := peer
              payload := .transfer reserved }, false)
  | .awaitingStatus _ _ _ _ => none
  | .awaitingAck _ _ _ => none
  | .confirming requestId peer reserved (copy :: rest) =>
      some ({ node with
        queue := (node.queue.confirmRemoved (HasTaskId.taskId copy)).2
        monitor := .confirming requestId peer reserved rest }, none, false)
  | .confirming _ _ _ [] => some ({ node with monitor := .idle }, none, true)
  | .releasing requestId peer reserved (copy :: rest) =>
      some ({ node with
        queue := (node.queue.releaseReservation (HasTaskId.taskId copy)).2
        monitor := .releasing requestId peer reserved rest }, none, false)
  | .releasing _ _ _ [] => some ({ node with monitor := .idle }, none, false)

/-- The connection on which the monitor waits. -/
def awaited (node : Node) : Option RequestId :=
  match node.monitor with
  | .awaitingStatus requestId _ _ _ => some requestId
  | .awaitingAck requestId _ _ => some requestId
  | _ => none

/-- What `balance_once` does with the result of `_request`; `none` is a
connection that failed, ended, or timed out. -/
def answered (node : Node) (response : Option P2PResponse) : Node :=
  match node.monitor with
  | .awaitingStatus requestId peer rest statuses =>
      let statuses :=
        match response with
        | none => statuses
        | some response =>
            if response.requestId = requestId ∧
                response.messageType = .P2P_STATUS_RESPONSE ∧ response.senderId = peer ∧
                0 < response.availableCapacity then
              statuses ++ [(response.availableCapacity, peer)]
            else
              statuses
      { node with monitor := .asking rest statuses }
  | .awaitingAck requestId peer reserved =>
      if transferAccepted requestId peer (reserved.map HasTaskId.taskId) response then
        { node with monitor := .confirming requestId peer reserved reserved }
      else
        { node with monitor := .releasing requestId peer reserved reserved }
  | _ => node

/-! ### The queue calls of the other threads -/

/-- A task that does not come from a peer is offered to the queue. -/
def enqueue (node : Node) (copy : Copy) (priority : Bool) : Node :=
  { node with
    queue := (node.queue.tryEnqueue copy priority).2
    admitted :=
      if (node.queue.tryEnqueue copy priority).1.accepted then
        node.admitted ++ [copy]
      else
        node.admitted }

/-- The processor thread takes a task, if there is one. -/
def dequeue (node : Node) : Option Node :=
  match node.processor with
  | .idle =>
      match node.queue.dequeueForProcessing.1 with
      | some copy => some { node with
          queue := node.queue.dequeueForProcessing.2
          processor := .working copy }
      | none => some node
  | _ => none

/-- The processor thread has sent the result of its task. -/
def report (node : Node) : Option Node :=
  match node.processor with
  | .working copy => some { node with processor := .reported copy }
  | _ => none

def markDone (node : Node) : Option Node :=
  match node.processor with
  | .reported copy => some { node with
      queue := node.queue.markProcessingDone.2
      processor := .idle
      finished := node.finished ++ [copy] }
  | _ => none

end Node

structure Config where
  workers : List WorkerId
  peers : WorkerId → List WorkerId

/-- `self.peers`: a worker is not its own peer. -/
def Config.peersOf (c : Config) (w : WorkerId) : List WorkerId :=
  (c.peers w).filter (· ≠ w)

/-- All workers with the P2P messages in flight. `sent` is a history variable: all
requests so far, whose ids are not used again. -/
structure Net where
  nodes : WorkerId → Node
  requests : List P2PRequest := []
  replies : List P2PReply := []
  sent : List P2PRequest := []

namespace Net

def init : Net := { nodes := fun _ => {} }

inductive Action
  | enqueue (w : WorkerId) (copy : Copy) (priority : Bool)
  | dequeue (w : WorkerId)
  | report (w : WorkerId)
  | markDone (w : WorkerId)
  | balance (w : WorkerId) (requestId : RequestId) (count : ℕ)
  | receive (w : WorkerId)
  | giveUp (w : WorkerId)
  | serve (w : WorkerId) (requestId : RequestId) (now : ℚ)
  | respond (w : WorkerId)
  | respondFail (w : WorkerId)
  | loseRequest (requestId : RequestId)
  | loseReply (requestId : RequestId)
deriving DecidableEq

def setNode (n : Net) (w : WorkerId) (node : Node) : Net :=
  { n with nodes := Function.update n.nodes w node }

def send (n : Net) : Option P2PRequest → Net
  | none => n
  | some request =>
      { n with
        requests := n.requests ++ [request]
        sent := n.sent ++ [request] }

/-- One step of one thread, or one fault of the network. `none` means that the
thread is not where the step starts. -/
def step (c : Config) (n : Net) : Action → Option Net
  | .enqueue w copy priority =>
      if w ∈ c.workers then
        some (n.setNode w ((n.nodes w).enqueue copy priority))
      else
        none
  | .dequeue w =>
      if w ∈ c.workers then (n.nodes w).dequeue.map (n.setNode w) else none
  | .report w =>
      if w ∈ c.workers then (n.nodes w).report.map (n.setNode w) else none
  | .markDone w =>
      if w ∈ c.workers then (n.nodes w).markDone.map (n.setNode w) else none
  | .balance w requestId count =>
      if w ∈ c.workers ∧ requestId ∉ n.sent.map P2PRequest.requestId then
        ((n.nodes w).balanceStep (c.peersOf w) w requestId count).map fun next =>
          (n.setNode w next.1).send next.2.1
      else
        none
  | .receive w =>
      if w ∈ c.workers then
        (n.nodes w).awaited.bind fun requestId =>
          (n.replies.find? (·.connection = requestId)).map fun reply =>
            { n.setNode w ((n.nodes w).answered reply.response) with
              replies := n.replies.filter (·.connection ≠ requestId) }
      else
        none
  | .giveUp w =>
      if w ∈ c.workers then
        (n.nodes w).awaited.map fun _ => n.setNode w ((n.nodes w).answered none)
      else
        none
  | .serve w requestId now =>
      if w ∈ c.workers ∧ (n.nodes w).server = none then
        (n.requests.find? fun request =>
          request.requestId = requestId ∧ request.receiver = w).map fun request =>
          let handled := (n.nodes w).handleConnection (c.peersOf w) w request now
          { n.setNode w { handled.1 with
              server := some (⟨requestId, handled.2.1⟩, handled.2.2) } with
            requests := n.requests.filter (·.requestId ≠ requestId) }
      else
        none
  | .respond w =>
      if w ∈ c.workers then
        (n.nodes w).server.map fun served =>
          { n.setNode w { n.nodes w with server := none } with
            replies := n.replies ++ [served.1] }
      else
        none
  | .respondFail w =>
      if w ∈ c.workers then
        (n.nodes w).server.map fun _ => n.setNode w { n.nodes w with server := none }
      else
        none
  | .loseRequest requestId =>
      some { n with requests := n.requests.filter (·.requestId ≠ requestId) }
  | .loseReply requestId =>
      some { n with replies := n.replies.filter (·.connection ≠ requestId) }

end Net

end KVStore
