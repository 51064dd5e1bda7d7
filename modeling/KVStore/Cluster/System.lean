import KVStore.Master.Partition
import KVStore.Worker.P2P

/-!
# The whole system

The Master, its distributor thread between choosing and sending an assignment,
the workers with their P2P messages, and one connection between the Master and
each worker. A step is one locked section, one queue operation, one message sent
or one message received, by any thread.

Messages on a connection arrive in the order in which they were sent. Faults are
separate actions: a lost connection, a send that fails, a P2P message that is
lost, a sender that times out. Sockets, clocks and log texts are left out, and so
is `TERMINATE`, which the Master sends when the store is complete.

The workers have connected and none of them is shutting down: before and after that,
`_send_queue_status` returns without taking a snapshot, and a worker owes no report.
-/

namespace KVStore

structure TaskMessage where
  copy : Copy
  priority : Bool
deriving DecidableEq

/-- A message from a worker; a result carries the copy it was produced from. -/
inductive WorkerMessage
  | queueStatus (status : WorkerStatus)
  | resultSuccess (copy : Copy)
  | resultFail (copy : Copy) (reason : String)
deriving DecidableEq

/-- The copy that a result was produced from. -/
def WorkerMessage.copy : WorkerMessage → Option Copy
  | .queueStatus _ => none
  | .resultSuccess copy => some copy
  | .resultFail copy _ => some copy

/-- `task.assignment_worker_id or self.config.worker_id`. -/
def assignmentOrSelf (w : WorkerId) (copy : Copy) : WorkerId :=
  match copy.task.assignmentWorkerId with
  | none => w
  | some assignment => if assignment = "" then w else assignment

def successPayload (w : WorkerId) (copy : Copy) : ResultPayload where
  taskId := copy.task.taskId
  key := some copy.task.key
  value := some copy.task.value
  assignmentWorkerId := some (assignmentOrSelf w copy)

def failPayload (w : WorkerId) (copy : Copy) (reason : String) : ResultPayload where
  taskId := copy.task.taskId
  assignmentWorkerId := some (assignmentOrSelf w copy)
  reason := some reason

inductive Thread
  | receiver
  | processor
  | server
  | monitor
deriving DecidableEq

/-- Where a thread stands in `_send_queue_status`. -/
inductive Reporting
  | quiet
  | due
  | ready (status : WorkerStatus)
deriving DecidableEq

/-- The connection between the Master and one worker, and what the worker's
threads do with it. `overflow` is the task that the receiver thread could not
enqueue and has not reported yet. -/
structure Link where
  toWorker : List TaskMessage := []
  toMaster : List WorkerMessage := []
  overflow : Option Copy := none
  reporting : Thread → Reporting := fun _ => .quiet

/-- The whole system. `slot` is the assignment that the distributor has chosen
and not sent yet, with its number. `dispatches` and `results` are history variables:
the tasks and workers of all assignments so far, in order, and the copies whose
results were sent. -/
structure System where
  master : Master
  slot : Option (Master.Assignment × ℕ) := none
  dispatches : List (TaskId × WorkerId) := []
  results : List Copy := []
  net : Net := .init
  links : WorkerId → Link := fun _ => {}

namespace System

inductive Action
  | nextAssignment (now : ℚ)
  | sendTask
  | deliver (w : WorkerId)
  | receiveTask (w : WorkerId) (now : ℚ)
  | sendOverflow (w : WorkerId)
  | dequeue (w : WorkerId)
  | sendResult (w : WorkerId) (succeeded : Bool)
  | markDone (w : WorkerId)
  | balance (w : WorkerId) (requestId : RequestId) (count : ℕ)
  | receiveReply (w : WorkerId)
  | serve (w : WorkerId) (requestId : RequestId) (now : ℚ)
  | respond (w : WorkerId)
  | snapshot (w : WorkerId) (thread : Thread)
  | sendStatus (w : WorkerId) (thread : Thread)
  | disconnect (w : WorkerId) (order : List TaskId)
  | sendFail (order : List TaskId)
  | cut (w : WorkerId)
  | giveUp (w : WorkerId)
  | respondFail (w : WorkerId)
  | loseRequest (requestId : RequestId)
  | loseReply (requestId : RequestId)
deriving DecidableEq

/-- The actions that a fault-free run does not take. -/
def Action.isFault : Action → Bool
  | .disconnect _ _ => true
  | .sendFail _ => true
  | .cut _ => true
  | .giveUp _ => true
  | .respondFail _ => true
  | .loseRequest _ => true
  | .loseReply _ => true
  | _ => false

def setLink (s : System) (w : WorkerId) (link : Link) : System :=
  { s with links := Function.update s.links w link }

def setReporting (s : System) (w : WorkerId) (thread : Thread) (r : Reporting) : System :=
  s.setLink w { s.links w with
    reporting := Function.update (s.links w).reporting thread r }

/-- The thread is not about to report the queue. -/
def Quiet (s : System) (w : WorkerId) (thread : Thread) : Prop :=
  (s.links w).reporting thread = .quiet

instance (s : System) (w : WorkerId) (thread : Thread) : Decidable (s.Quiet w thread) :=
  inferInstanceAs (Decidable (_ = _))

def masterStep (s : System) (a : Master.Action) : Option System :=
  (s.master.step a).map fun master => { s with master := master }

def netStep (c : Config) (s : System) (a : Net.Action) : Option System :=
  (s.net.step c a).map fun net => { s with net := net }

/-- The round of `_distribute_tasks` up to the choice of an assignment. -/
def nextAssignment (s : System) (now : ℚ) : Option System :=
  if s.slot = none ∧ 0 ≤ now ∧ ¬ s.master.storeComplete ∧
      ∃ worker ∈ s.master.workers.values, worker.connected = true then
    (s.master.nextAssignmentLocked now).map fun next =>
      match next with
      | (none, master) => { s with master := master }
      | (some assignment, master) =>
          { s with
            master := master
            slot := some (assignment, s.dispatches.length)
            dispatches := s.dispatches ++ [(assignment.task.taskId, assignment.worker)] }
  else
    none

/-- The distributor sends the task as its record is at that time. -/
def sendTask (s : System) : Option System :=
  s.slot.bind fun pending =>
    (s.master.tasks.lookup pending.1.task.taskId).map fun task =>
      let w := pending.1.worker
      let message : TaskMessage := ⟨⟨task, pending.2⟩, pending.1.priority⟩
      { s.setLink w { s.links w with toWorker := (s.links w).toWorker ++ [message] } with
        slot := none }

/-- The Master's receiver thread for `w` handles the next message of `w`. -/
def deliver (s : System) (w : WorkerId) : Option System :=
  match (s.links w).toMaster with
  | [] => none
  | message :: rest =>
      let s := s.setLink w { s.links w with toMaster := rest }
      match message with
      | .queueStatus status => s.masterStep (.queueStatus w status)
      | .resultSuccess copy => s.masterStep (.handleSuccess w (successPayload w copy))
      | .resultFail copy reason =>
          s.masterStep (.handleFailure w (failPayload w copy reason))

/-- `_handle_task` up to its answer. -/
def receiveTask (c : Config) (s : System) (w : WorkerId) (now : ℚ) : Option System :=
  if s.Quiet w .receiver ∧ (s.links w).overflow = none ∧ 0 ≤ now then
    match (s.links w).toWorker with
    | [] => none
    | message :: rest =>
        let s := s.setLink w { s.links w with toWorker := rest }
        match message.copy.fromDict with
        | .error _ => some s
        | .ok decoded =>
            let copy := decoded.restamp now
            let result := ((s.net.nodes w).queue.tryEnqueue copy message.priority).1
            (s.netStep c (.enqueue w copy message.priority)).map fun s =>
              if result.accepted = true ∨ result.reason = some "duplicate" then
                s.setReporting w .receiver .due
              else
                s.setLink w { s.links w with overflow := some copy }
  else
    none

def sendMaster (s : System) (w : WorkerId) (message : WorkerMessage) : System :=
  { s.setLink w { s.links w with toMaster := (s.links w).toMaster ++ [message] } with
    results := s.results ++ message.copy.toList }

def sendOverflow (s : System) (w : WorkerId) : Option System :=
  (s.links w).overflow.map fun copy =>
    (s.setLink w { s.links w with overflow := none }).sendMaster w
      (.resultFail copy "queue overflow")

def dequeue (c : Config) (s : System) (w : WorkerId) : Option System :=
  if s.Quiet w .processor then
    (s.netStep c (.dequeue w)).map fun s =>
      match (s.net.nodes w).processor with
      | .working _ => s.setReporting w .processor .due
      | _ => s
  else
    none

def sendResult (c : Config) (s : System) (w : WorkerId) (succeeded : Bool) :
    Option System :=
  if s.Quiet w .processor then
    match (s.net.nodes w).processor with
    | .working copy =>
        (s.netStep c (.report w)).map fun s =>
          s.sendMaster w
            (if succeeded then .resultSuccess copy else .resultFail copy "20% rule")
    | _ => none
  else
    none

def markDone (c : Config) (s : System) (w : WorkerId) : Option System :=
  if s.Quiet w .processor then
    (s.netStep c (.markDone w)).map fun s => s.setReporting w .processor .due
  else
    none

/-- A step of `balance_once`; the report is due when it removed its tasks. -/
def balance (c : Config) (s : System) (w : WorkerId) (requestId : RequestId)
    (count : ℕ) : Option System :=
  if s.Quiet w .monitor then
    (s.netStep c (.balance w requestId count)).map fun s' =>
      match (s.net.nodes w).monitor with
      | .confirming _ _ _ [] => s'.setReporting w .monitor .due
      | _ => s'
  else
    none

def serve (c : Config) (s : System) (w : WorkerId) (requestId : RequestId) (now : ℚ) :
    Option System :=
  if s.Quiet w .server ∧ 0 ≤ now then s.netStep c (.serve w requestId now) else none

/-- The response leaves; the report is due when the queue changed. -/
def respond (c : Config) (s : System) (w : WorkerId) : Option System :=
  (s.netStep c (.respond w)).map fun s' =>
    match (s.net.nodes w).server with
    | some (_, true) => s'.setReporting w .server .due
    | _ => s'

def snapshot (s : System) (w : WorkerId) (thread : Thread) : Option System :=
  match (s.links w).reporting thread with
  | .due =>
      match (s.net.nodes w).queue.snapshotStatus w with
      | .ok status => some (s.setReporting w thread (.ready status))
      | .error _ => none
  | _ => none

def sendStatus (s : System) (w : WorkerId) (thread : Thread) : Option System :=
  match (s.links w).reporting thread with
  | .ready status =>
      some ((s.setReporting w thread .quiet).sendMaster w (.queueStatus status))
  | _ => none

def sendFail (s : System) (order : List TaskId) : Option System :=
  s.slot.bind fun pending =>
    { s with slot := none }.masterStep (.disconnectWorker pending.1.worker order)

def step (c : Config) (s : System) : Action → Option System
  | .nextAssignment now => s.nextAssignment now
  | .sendTask => s.sendTask
  | .deliver w => s.deliver w
  | .receiveTask w now => s.receiveTask c w now
  | .sendOverflow w => s.sendOverflow w
  | .dequeue w => s.dequeue c w
  | .sendResult w succeeded => s.sendResult c w succeeded
  | .markDone w => s.markDone c w
  | .balance w requestId count => s.balance c w requestId count
  | .receiveReply w => s.netStep c (.receive w)
  | .serve w requestId now => s.serve c w requestId now
  | .respond w => s.respond c w
  | .snapshot w thread => s.snapshot w thread
  | .sendStatus w thread => s.sendStatus w thread
  | .disconnect w order => s.masterStep (.disconnectWorker w order)
  | .sendFail order => s.sendFail order
  | .cut w => some (s.setLink w { s.links w with toWorker := [], toMaster := [] })
  | .giveUp w => s.netStep c (.giveUp w)
  | .respondFail w => s.netStep c (.respondFail w)
  | .loseRequest requestId => s.netStep c (.loseRequest requestId)
  | .loseReply requestId => s.netStep c (.loseReply requestId)

/-- The system when distribution starts. -/
def start (c : Config) (taskCount : ℕ) (rng : RandomSource) : Except String System :=
  (Master.start taskCount rng c.workers).map fun master => { master := master }

/-- The state that the steps `acts` lead to from the start. -/
def reached (c : Config) (taskCount : ℕ) (rng : RandomSource) (acts : List Action) :
    Option System :=
  (start c taskCount rng).toOption.bind fun s₀ => Transition.run (step c) s₀ acts

theorem exists_reached (c : Config) (taskCount : ℕ) (rng : RandomSource)
    (acts : List Action) {p : System → Prop} [DecidablePred p]
    (h : (reached c taskCount rng acts).any (fun s => decide (p s)) = true) :
    ∃ s₀ s, start c taskCount rng = .ok s₀ ∧
      Transition.run (step c) s₀ acts = some s ∧ p s :=
  Transition.exists_run_of_bind h

end System

end KVStore
