import KVStore.Worker.Warnings

/-!
# The life of a worker

`run` connects, starts the receiver and the processor, waits for the one and then for the
other, and reports how it ended. `Advanced` says of each event what it does to these threads and
what it adds to the log; the server and the monitor write about load balancing only. From it
follows the order of all else that a worker reports, and that a worker that is told to stop
comes to its end.
-/

namespace KVStore

open Python

/-- The entries about load balancing, which the server and the monitor write. -/
def LogEntry.balances (entry : LogEntry) : Bool := entry.event = .LB

/-- The entries of the receiver and the processor about the tasks. -/
def LogEntry.works (entry : LogEntry) : Bool :=
  entry.event = .RECV ∨ entry.event = .QUEUE ∨ entry.event = .PROC

def LogEntry.processes (entry : LogEntry) : Bool := entry.event = .QUEUE ∨ entry.event = .PROC

theorem LogEntry.works_of_processes {entry : LogEntry} (h : entry.processes = true) :
    entry.works = true := by
  rw [LogEntry.processes, decide_eq_true_iff] at h
  rw [LogEntry.works, decide_eq_true_iff]
  exact .inr h

/-- How many steps the processor can still take once `_shutdown` is set. -/
def ProcessorThread.rank : ProcessorThread → ℕ
  | .notStarted => 0
  | .ended => 0
  | .top => 1
  | .processing _ _ => 2
  | .dequeued _ => 3
  | .waiting => 4

/-- A processor that has passed the loop condition takes one more task. -/
def ProcessorThread.canTake : ProcessorThread → ℕ
  | .waiting => 1
  | _ => 0

def MainThread.rank : MainThread → ℕ
  | .connecting => 3
  | .joiningReceiver => 2
  | .joiningProcessor => 1
  | .ended => 0

namespace WorkerRuntime

/-- What `run` reports at its end. -/
def finalLog (s : WorkerRuntime) : List LogEntry :=
  [⟨.STAT, .INFO⟩, ⟨.TERMINATE, if s.terminatedByMaster then .SUCCESS else .FAIL⟩]

/-- The event is a step of the main thread or of the processor. -/
def Event.inRun : Event → Bool
  | .main _ _ => true
  | .processor _ => true
  | _ => false

/-- A message that tells the worker to terminate is received. -/
def Event.TellsTerminate (b : Builtins) (json : Json) : Event → Prop
  | .receiver conn _ _ => ∃ message, conn.receive b json = .ok message ∧
      message.messageType = .TERMINATE
  | _ => False

/-- The task that the event takes out of the queue for processing. -/
def taken (s : WorkerRuntime) : Event → List TaskRecord
  | .processor _ =>
      match s.processor with
      | .waiting => s.queue.dequeueForProcessing.1.toList
      | _ => []
  | _ => []

/-! ### What an event does -/

/-- The threads of `run` stay where they are. -/
structure Aside (s s' : WorkerRuntime) : Prop where
  main : s'.main = s.main
  receiver : s'.receiver = s.receiver
  processor : s'.processor = s.processor
  shutdown : s'.shutdown = s.shutdown
  terminatedByMaster : s'.terminatedByMaster = s.terminatedByMaster

/-- What an event does to the threads of `run`, and what it adds to the log. -/
inductive Advanced (b : Builtins) (json : Json) (s s' : WorkerRuntime) :
    Event → List LogEntry → Prop
  | aside {event : Event} {log : List LogEntry} (inRun : event.inRun = false)
      (same : s.Aside s') (balances : ∀ entry ∈ log, entry.balances = true) :
      Advanced b json s s' event log
  | stopped (state : s' = s.stop) : Advanced b json s s' .stop []
  | received {conn : Connection} {sends : Sends} {resultId : RequestId} {log : List LogEntry}
      (receiving : s.receiver = .receiving) (started : s'.receiver ≠ .notStarted)
      (main : s'.main = s.main) (processor : s'.processor = s.processor)
      (shutdown : s.shutdown = true → s'.shutdown = true)
      (terminatedByMaster : s'.terminatedByMaster = s.terminatedByMaster)
      (works : ∀ entry ∈ log, entry.works = true) :
      Advanced b json s s' (.receiver conn sends resultId) log
  | told {event : Event} (tells : event.TellsTerminate b json)
      (receiving : s.receiver = .receiving) (ended : s'.receiver = .ended)
      (main : s'.main = s.main) (processor : s'.processor = s.processor)
      (shutdown : s'.shutdown = s.shutdown) (terminatedByMaster : s'.terminatedByMaster = true) :
      Advanced b json s s' event [⟨.TERMINATE, .INFO⟩]
  | processed {around : Processing} {log : List LogEntry}
      (running : s.processor ≠ .notStarted ∧ s.processor ≠ .ended)
      (started : s'.processor ≠ .notStarted) (main : s'.main = s.main)
      (receiver : s'.receiver = s.receiver) (shutdown : s.shutdown = true → s'.shutdown = true)
      (terminatedByMaster : s'.terminatedByMaster = s.terminatedByMaster)
      (rank : s.shutdown = true → s'.processor.rank < s.processor.rank)
      (processes : ∀ entry ∈ log, entry.processes = true) :
      Advanced b json s s' (.processor around) log
  | registered {requestId : RequestId} {exchange : Exchange} (connecting : s.main = .connecting)
      (main : s'.main = .joiningReceiver) (receiver : s'.receiver = .receiving)
      (processor : s'.processor = .top)
      (terminatedByMaster : s'.terminatedByMaster = s.terminatedByMaster) :
      Advanced b json s s' (.main requestId exchange) [⟨.CONNECT, .SUCCESS⟩]
  | gaveUp {requestId : RequestId} {exchange : Exchange} {log : List LogEntry}
      (connecting : s.main = .connecting) (main : s'.main = .ended)
      (receiver : s'.receiver = s.receiver) (processor : s'.processor = s.processor)
      (shutdown : s'.shutdown = true)
      (terminatedByMaster : s'.terminatedByMaster = s.terminatedByMaster)
      (connected : log = [] ∨ log = [⟨.CONNECT, .SUCCESS⟩]) :
      Advanced b json s s' (.main requestId exchange) log
  | joined {requestId : RequestId} {exchange : Exchange}
      (joining : s.main = .joiningReceiver) (ended : s.receiver = .ended)
      (state : s' = { s.stop with main := .joiningProcessor }) :
      Advanced b json s s' (.main requestId exchange) []
  | ended {requestId : RequestId} {exchange : Exchange}
      (joining : s.main = .joiningProcessor) (ended : s.processor = .ended)
      (state : s' = { s with main := .ended }) :
      Advanced b json s s' (.main requestId exchange) s.finalLog

section

variable {b : Builtins} {json : Json} {s s' : WorkerRuntime} {log : List LogEntry}

theorem works_handleTask (b : Builtins) (json : Json) (service : P2PService) (message : Message)
    (sends : Sends) (resultId : RequestId) :
    ∀ entry ∈ (handleTask b json service message sends resultId).2.1, entry.works = true := by
  unfold handleTask
  dsimp only
  cases TaskRecord.fromDict b (message.payload.getD "task" (.dict [])) with
  | error e =>
      dsimp only
      split_ifs
      · simp [LogEntry.works]
      · simp
  | ok task =>
      dsimp only
      split_ifs
      · simp [LogEntry.works]
      · split
        · simp [LogEntry.works]
        · simp [LogEntry.works]
      · simp [LogEntry.works]
      · simp [LogEntry.works]

theorem advanced_receive (hreceiving : s.receiver = .receiving) (conn : Connection)
    (sends : Sends) (resultId : RequestId) :
    s.Advanced b json (s.receive b json conn sends resultId).1 (.receiver conn sends resultId)
      (s.receive b json conn sends resultId).2 := by
  have hkept : s.receiver ≠ .notStarted := by
    rw [hreceiving]
    nofun
  unfold receive
  cases hmessage : conn.receive b json with
  | error e =>
      dsimp only
      refine .received hreceiving nofun rfl rfl id rfl ?_
      split_ifs <;> simp [LogEntry.works]
  | ok message =>
      dsimp only
      cases s.service.clock.observe message.logicalClock with
      | error e => exact .received hreceiving nofun rfl rfl id rfl nofun
      | ok clock =>
          dsimp only
          cases htype : message.messageType with
          | TASK =>
              dsimp only
              have hworks := works_handleTask b json { s.service with clock := clock } message
                sends resultId
              generalize handleTask b json { s.service with clock := clock } message sends
                resultId = result at hworks ⊢
              obtain ⟨service, log, failure⟩ := result
              cases failure with
              | none => exact .received hreceiving hkept rfl rfl id rfl hworks
              | some e =>
                  dsimp only
                  split_ifs
                  · refine .received hreceiving nofun rfl rfl (fun _ => rfl) rfl ?_
                    intro entry hentry
                    obtain hentry | hentry := List.mem_append.1 hentry
                    · exact hworks entry hentry
                    · rw [List.mem_singleton.1 hentry]
                      rfl
                  · exact .received hreceiving nofun rfl rfl id rfl hworks
          | TERMINATE => exact .told ⟨message, hmessage, htype⟩ hreceiving rfl rfl rfl rfl rfl
          | _ => exact .received hreceiving hkept rfl rfl id rfl (by simp [LogEntry.works])

/-! #### The processor -/

theorem Advanced.of_processor {around : Processing} {service : P2PService}
    {p : ProcessorThread} (hrunning : s.processor ≠ .notStarted ∧ s.processor ≠ .ended)
    (hstarted : p ≠ .notStarted) (hrank : s.shutdown = true → p.rank < s.processor.rank)
    (hlog : ∀ entry ∈ log, entry.processes = true) :
    Advanced b json s { s with service := service, processor := p } (.processor around) log :=
  .processed hrunning hstarted rfl rfl id rfl hrank hlog

theorem Advanced.of_processorFails {around : Processing} {service : P2PService} (e : PyError)
    (hrunning : s.processor ≠ .notStarted ∧ s.processor ≠ .ended)
    (hlog : ∀ entry ∈ log, entry.processes = true) :
    Advanced b json s (processorFails { s with service := service } e log).1 (.processor around)
      (processorFails { s with service := service } e log).2 := by
  have hrank : s.shutdown = true → ProcessorThread.ended.rank < s.processor.rank := by
    intro _
    cases hprocessor : s.processor with
    | notStarted => exact absurd hprocessor hrunning.1
    | ended => exact absurd hprocessor hrunning.2
    | _ => simp [ProcessorThread.rank]
  unfold processorFails
  dsimp only
  split_ifs
  · refine .processed hrunning nofun rfl rfl (fun _ => rfl) rfl hrank ?_
    intro entry hentry
    obtain hentry | hentry := List.mem_append.1 hentry
    · exact hlog entry hentry
    · rw [List.mem_singleton.1 hentry]
      rfl
  · exact .processed hrunning nofun rfl rfl id rfl hrank hlog

theorem advanced_enterLoop (htop : s.processor = .top) (around : Processing) :
    s.Advanced b json s.enterLoop.1 (.processor around) s.enterLoop.2 := by
  have hrunning : s.processor ≠ .notStarted ∧ s.processor ≠ .ended := by
    rw [htop]
    exact ⟨nofun, nofun⟩
  refine .of_processor hrunning (by split_ifs <;> nofun) (fun hshutdown => ?_) nofun
  rw [if_pos hshutdown, htop]
  simp [ProcessorThread.rank]

theorem advanced_dequeue (hwaiting : s.processor = .waiting) (around : Processing) :
    s.Advanced b json s.dequeue.1 (.processor around) s.dequeue.2 := by
  have hrunning : s.processor ≠ .notStarted ∧ s.processor ≠ .ended := by
    rw [hwaiting]
    exact ⟨nofun, nofun⟩
  unfold dequeue
  rcases s.queue.dequeueForProcessing with ⟨_ | task, queue⟩
  · exact .of_processor hrunning nofun (fun _ => by simp [hwaiting, ProcessorThread.rank]) nofun
  · exact .of_processor hrunning nofun (fun _ => by simp [hwaiting, ProcessorThread.rank]) nofun

theorem advanced_inspect {task : TaskRecord} (htask : s.processor = .dequeued task)
    (around : Processing) :
    s.Advanced b json (s.inspect json task around.sends).1 (.processor around)
      (s.inspect json task around.sends).2 := by
  have hrunning : s.processor ≠ .notStarted ∧ s.processor ≠ .ended := by
    rw [htask]
    exact ⟨nofun, nofun⟩
  unfold inspect
  dsimp only
  cases s.queue.snapshotStatus s.service.workerId with
  | error text =>
      exact .of_processor hrunning nofun (fun _ => by simp [htask, ProcessorThread.rank]) nofun
  | ok status =>
      have hwarned : ∀ entry ∈ (if status.warn = true then [⟨.QUEUE, .WARN⟩] else [] :
          List LogEntry), entry.processes = true := by
        split_ifs <;> simp [LogEntry.processes]
      dsimp only
      rcases s.service.sendQueueStatus json around.sends with ⟨service, _ | e⟩
      · refine .of_processor hrunning nofun
          (fun _ => by simp [htask, ProcessorThread.rank]) ?_
        intro entry hentry
        obtain hentry | hentry := List.mem_append.1 hentry
        · exact hwarned entry hentry
        · rw [List.mem_singleton.1 hentry]
          rfl
      · exact .of_processorFails e hrunning hwarned

theorem advanced_finish {task : TaskRecord} {waitSeconds : PyFloat}
    (htask : s.processor = .processing task waitSeconds) (around : Processing) :
    s.Advanced b json (s.finish json task waitSeconds around).1 (.processor around)
      (s.finish json task waitSeconds around).2 := by
  have hrunning : s.processor ≠ .notStarted ∧ s.processor ≠ .ended := by
    rw [htask]
    exact ⟨nofun, nofun⟩
  have hrank : s.shutdown = true → ProcessorThread.top.rank < s.processor.rank := by
    intro _
    simp [htask, ProcessorThread.rank]
  unfold finish
  cases s.service.clock.advance around.seconds with
  | error e =>
      exact .of_processor hrunning nofun (fun _ => by simp [htask, ProcessorThread.rank]) nofun
  | ok clock =>
      dsimp only
      generalize (if around.succeeded = true then
          sendResultSuccess json { s.service with clock := clock } task waitSeconds
            around.resultId around.sends.response
        else
          sendResultFail json { s.service with clock := clock } task "20% rule" waitSeconds
            around.resultId around.sends.response) = result
      obtain ⟨sent, _ | e⟩ := result
      · have hresult : ∀ entry ∈ ([⟨.PROC, if around.succeeded = true then .SUCCESS else .FAIL⟩] :
            List LogEntry), entry.processes = true := by
          simp [LogEntry.processes]
        dsimp only
        split
        · exact .of_processorFails _ hrunning hresult
        · exact .of_processor hrunning nofun hrank hresult
      · exact .of_processorFails e hrunning nofun

/-! #### The server and the monitor -/

theorem balances_connectionLog (b : Builtins) (json : Json) (service : P2PService)
    (conn : Connection) : ∀ entry ∈ connectionLog b json service conn, entry.balances = true := by
  unfold connectionLog
  split
  · nofun
  · split
    · nofun
    · split_ifs <;> simp [LogEntry.balances]

theorem advanced_serve (b : Builtins) (json : Json) (s : WorkerRuntime) (conn : Connection)
    (sends : Sends) :
    s.Advanced b json (s.serve b json conn sends).1 (.server conn sends)
      (s.serve b json conn sends).2 := by
  obtain ⟨serving, hstate⟩ := (serve_cases b json s conn sends).2
  refine .aside rfl (hstate ▸ ⟨rfl, rfl, rfl, rfl, rfl⟩) ?_
  unfold serve
  rcases s.service.handleConnection b json conn sends with ⟨service, _ | e⟩
  · exact balances_connectionLog b json s.service conn
  · dsimp only
    split
    · simp [LogEntry.balances]
    · nofun

theorem Advanced.of_monitor {around : Balancing} {service : P2PService} {monitor : MonitorThread}
    (hlog : ∀ entry ∈ log, entry.balances = true) :
    Advanced b json s { s with service := service, monitor := monitor } (.monitor around) log :=
  .aside rfl ⟨rfl, rfl, rfl, rfl, rfl⟩ hlog

theorem balances_singleton (status : LogStatus) :
    ∀ entry ∈ [(⟨.LB, status⟩ : LogEntry)], entry.balances = true := by
  simp [LogEntry.balances]

theorem advanced_ask (b : Builtins) (json : Json) (s : WorkerRuntime) (peer : WorkerId)
    (rest : List WorkerId) (statuses : List (ℤ × WorkerId)) (around : Balancing) :
    s.Advanced b json (s.ask b json peer rest statuses around).1 (.monitor around)
      (s.ask b json peer rest statuses around).2 := by
  unfold ask
  rcases s.service.request b json .P2P_STATUS_REQUEST around.requestId
    [("worker_id", .str s.service.workerId)] around.exchange with ⟨service, e | response⟩
  · exact .of_monitor nofun
  · dsimp only
    rcases P2PService.statedCapacity b peer response with e | _ | available
    · exact .of_monitor nofun
    · exact .of_monitor nofun
    · exact .of_monitor (balances_singleton _)

theorem advanced_choose (b : Builtins) (json : Json) (s : WorkerRuntime)
    (statuses : List (ℤ × WorkerId)) (around : Balancing) :
    s.Advanced b json (s.choose statuses around).1 (.monitor around)
      (s.choose statuses around).2 := by
  unfold choose
  rcases Heap.least Node.peerLe statuses with _ | ⟨available, peer⟩
  · exact .of_monitor (balances_singleton _)
  · dsimp only
    cases s.queue.peekTransferCandidates (min (around.count : ℤ) available) with
    | error text => exact .of_monitor nofun
    | ok candidates => exact .of_monitor nofun

theorem advanced_transfer (b : Builtins) (json : Json) (s : WorkerRuntime) (peer : WorkerId)
    (reserved : List TaskRecord) (around : Balancing) :
    s.Advanced b json (s.transfer b json peer reserved around).1 (.monitor around)
      (s.transfer b json peer reserved around).2 := by
  unfold transfer
  split_ifs
  · exact .of_monitor nofun
  · dsimp only
    rcases s.service.request b json .P2P_TRANSFER around.requestId
      (P2PService.transferPayload reserved) around.exchange with ⟨service, e | response⟩
    · exact .of_monitor (balances_singleton _)
    · exact .of_monitor (balances_singleton _)

theorem advanced_check (b : Builtins) (json : Json) (s : WorkerRuntime) (around : Balancing) :
    s.Advanced b json (s.check around.interval).1 (.monitor around)
      (s.check around.interval).2 := by
  unfold check
  cases s.queue.snapshotStatus s.service.workerId with
  | error text => exact .of_monitor nofun
  | ok status =>
      dsimp only
      split_ifs
      · exact .of_monitor nofun
      · cases s.service.clock.advance around.interval with
        | error e => exact .of_monitor nofun
        | ok clock => exact .of_monitor nofun

theorem advanced_balanceOnce (b : Builtins) (json : Json) (s : WorkerRuntime)
    (around : Balancing) :
    s.Advanced b json s.balanceOnce.1 (.monitor around) s.balanceOnce.2 := by
  unfold balanceOnce
  cases s.queue.snapshotStatus s.service.workerId with
  | error text => exact .of_monitor nofun
  | ok status =>
      dsimp only
      split_ifs
      · exact .of_monitor nofun
      · exact .of_monitor (balances_singleton _)

theorem advanced_conclude (b : Builtins) (json : Json) (s : WorkerRuntime) (peer : WorkerId)
    (requestId : RequestId) (count : ℕ) (around : Balancing) :
    s.Advanced b json (s.conclude json peer requestId count around.sends).1 (.monitor around)
      (s.conclude json peer requestId count around.sends).2 := by
  unfold conclude
  dsimp only
  split
  · exact .of_monitor nofun
  · exact .of_monitor (balances_singleton _)

theorem advanced_balance {around : Balancing} (h : s.balance b json around = some (s', log)) :
    s.Advanced b json s' (.monitor around) log := by
  have hlift : ∀ {result : WorkerRuntime × List LogEntry}, some result = some (s', log) →
      s.Advanced b json result.1 (.monitor around) result.2 →
      s.Advanced b json s' (.monitor around) log := by
    rintro _ ⟨⟩ hadvanced
    exact hadvanced
  unfold balance at h
  split at h
  · split_ifs at h
    exact hlift h (advanced_check b json s around)
  · exact hlift h (advanced_balanceOnce b json s around)
  · exact hlift h (advanced_ask b json s _ _ _ around)
  · exact hlift h (advanced_choose b json s _ around)
  · exact hlift h (.of_monitor nofun)
  · exact hlift h (advanced_transfer b json s _ _ around)
  · exact hlift h (.of_monitor nofun)
  · exact hlift h (.of_monitor (balances_singleton _))
  · exact hlift h (.of_monitor nofun)
  · exact hlift h (advanced_conclude b json s _ _ _ around)
  · cases h

/-! #### The main thread -/

theorem advanced_connectAndRegister (hconnecting : s.main = .connecting) (requestId : RequestId)
    (exchange : Exchange) :
    s.Advanced b json (s.connectAndRegister b json requestId exchange).1
      (.main requestId exchange) (s.connectAndRegister b json requestId exchange).2 := by
  have hended : ∀ service : P2PService,
      s.Advanced b json { stop { s with service := service } with main := .ended }
        (.main requestId exchange) [] :=
    fun service => .gaveUp hconnecting rfl rfl rfl rfl rfl (.inl rfl)
  unfold connectAndRegister
  dsimp only
  by_cases hrefused : exchange.refused = true
  · rw [if_pos hrefused]
    exact hended s.service
  rw [if_neg hrefused]
  cases RegisterPayload.postInit
      { workerId := s.service.workerId
        p2pEndpoint := s.endpoint
        queueCapacity := s.queue.capacity } with
  | error e => exact hended s.service
  | ok registration =>
      dsimp only
      rcases s.service.send json .REGISTER requestId registration.toDict exchange.failure with
        ⟨service, _ | e⟩
      · dsimp only
        cases exchange.answer.receive b json with
        | error e => exact hended service
        | ok response =>
            dsimp only
            cases service.clock.observe response.logicalClock with
            | error e => exact hended service
            | ok clock =>
                dsimp only
                split_ifs with _ hshutdown
                · exact hended _
                · exact .gaveUp hconnecting rfl rfl rfl hshutdown rfl (.inr rfl)
                · exact .registered hconnecting rfl rfl rfl rfl
      · exact hended service

theorem advanced_proceed {requestId : RequestId} {exchange : Exchange}
    (h : s.proceed b json requestId exchange = some (s', log)) :
    s.Advanced b json s' (.main requestId exchange) log := by
  unfold proceed at h
  cases hmain : s.main with
  | connecting =>
      rw [hmain] at h
      have hadvanced : s.Advanced b json (s.connectAndRegister b json requestId exchange).1 _ _ :=
        advanced_connectAndRegister hmain requestId exchange
      rwa [Option.some.inj h] at hadvanced
  | joiningReceiver =>
      rw [hmain] at h
      dsimp only at h
      split_ifs at h with hended
      cases h
      exact .joined hmain hended rfl
  | joiningProcessor =>
      rw [hmain] at h
      dsimp only at h
      by_cases hended : s.processor = .ended
      · rw [if_pos hended] at h
        cases h
        exact .ended hmain hended rfl
      · rw [if_neg hended] at h
        cases h
  | ended =>
      rw [hmain] at h
      cases h

theorem advanced_of_perform {event : Event} (h : s.perform b json event = some (s', log)) :
    s.Advanced b json s' event log := by
  have hlift : ∀ {result : WorkerRuntime × List LogEntry}, some result = some (s', log) →
      s.Advanced b json result.1 event result.2 → s.Advanced b json s' event log := by
    rintro _ ⟨⟩ hadvanced
    exact hadvanced
  cases event with
  | main requestId exchange => exact advanced_proceed h
  | receiver conn sends resultId =>
      rw [perform] at h
      split_ifs at h with hreceiving
      exact hlift h (advanced_receive hreceiving conn sends resultId)
  | processor around =>
      rw [perform] at h
      split at h
      · exact hlift h (advanced_enterLoop ‹_› around)
      · exact hlift h (advanced_dequeue ‹_› around)
      · exact hlift h (advanced_inspect ‹_› around)
      · exact hlift h (advanced_finish ‹_› around)
      · cases h
  | server conn sends =>
      rw [perform] at h
      split_ifs at h
      exact hlift h (advanced_serve b json s conn sends)
  | monitor around => exact advanced_balance h
  | stop => exact hlift h (.stopped rfl)

theorem advanced_of_step {event : Event} (h : s.step b json event = some s') :
    s.Advanced b json s' event (s.emitted b json event) := by
  obtain ⟨log, hperform⟩ := step_eq_some_iff.1 h
  rw [emitted_of_perform hperform]
  exact advanced_of_perform hperform

/-- Only a message that says so tells the worker to terminate. -/
theorem Advanced.told_cases {event : Event} (h : s.Advanced b json s' event log)
    (htold : s'.terminatedByMaster = true) :
    s.terminatedByMaster = true ∨ event.TellsTerminate b json := by
  cases h with
  | told tells => exact .inr tells
  | aside _ same => exact .inl (same.terminatedByMaster ▸ htold)
  | stopped state => exact .inl (by rwa [state] at htold)
  | received _ _ _ _ _ told => exact .inl (told ▸ htold)
  | processed _ _ _ _ _ told => exact .inl (told ▸ htold)
  | registered _ _ _ _ told => exact .inl (told ▸ htold)
  | gaveUp _ _ _ _ _ told => exact .inl (told ▸ htold)
  | joined _ _ state => exact .inl (by rwa [state] at htold)
  | ended _ _ state => exact .inl (by rwa [state] at htold)

end

/-! ### What a worker reports -/

/-- What the receiver and the processor have reported: nothing from the receiver after the
signal to terminate. -/
inductive Reports (s : WorkerRuntime) : List LogEntry → Prop
  | untold {log : List LogEntry} (told : s.terminatedByMaster = false)
      (works : ∀ entry ∈ log, entry.works = true) : Reports s log
  | told {before after : List LogEntry} (told : s.terminatedByMaster = true)
      (receiver : s.receiver = .ended) (works : ∀ entry ∈ before, entry.works = true)
      (processes : ∀ entry ∈ after, entry.processes = true) :
      Reports s (before ++ ⟨.TERMINATE, .INFO⟩ :: after)

/-- All that a worker has reported, apart from the load balancing, by the place that `run` has
come to. -/
inductive Story (s : WorkerRuntime) : List LogEntry → Prop
  | connecting (main : s.main = .connecting) (receiver : s.receiver = .notStarted)
      (processor : s.processor = .notStarted) (told : s.terminatedByMaster = false) : Story s []
  | gaveUp {log : List LogEntry} (main : s.main = .ended) (receiver : s.receiver = .notStarted)
      (processor : s.processor = .notStarted) (told : s.terminatedByMaster = false)
      (connected : log = [] ∨ log = [⟨.CONNECT, .SUCCESS⟩]) : Story s log
  | joiningReceiver {log : List LogEntry} (main : s.main = .joiningReceiver)
      (receiver : s.receiver ≠ .notStarted) (processor : s.processor ≠ .notStarted)
      (reports : s.Reports log) : Story s (⟨.CONNECT, .SUCCESS⟩ :: log)
  | joiningProcessor {log : List LogEntry} (main : s.main = .joiningProcessor)
      (receiver : s.receiver = .ended) (processor : s.processor ≠ .notStarted)
      (shutdown : s.shutdown = true) (reports : s.Reports log) :
      Story s (⟨.CONNECT, .SUCCESS⟩ :: log)
  | ended {log : List LogEntry} (main : s.main = .ended) (receiver : s.receiver = .ended)
      (processor : s.processor = .ended) (reports : s.Reports log) :
      Story s (⟨.CONNECT, .SUCCESS⟩ :: log ++ s.finalLog)

section

variable {b : Builtins} {json : Json} {s s' : WorkerRuntime} {log entries : List LogEntry}

def withoutBalancing (log : List LogEntry) : List LogEntry :=
  log.filter fun entry => !entry.balances

theorem withoutBalancing_nil : withoutBalancing [] = [] := rfl

theorem withoutBalancing_append (log entries : List LogEntry) :
    withoutBalancing (log ++ entries) = withoutBalancing log ++ withoutBalancing entries :=
  List.filter_append ..

theorem withoutBalancing_of_balances (h : ∀ entry ∈ log, entry.balances = true) :
    withoutBalancing log = [] := by
  refine List.filter_eq_nil_iff.2 fun entry hentry => ?_
  simp [h entry hentry]

theorem withoutBalancing_of_works (h : ∀ entry ∈ log, entry.works = true) :
    withoutBalancing log = log := by
  refine List.filter_eq_self.2 fun entry hentry => ?_
  have hworks := h entry hentry
  rw [LogEntry.works, decide_eq_true_iff] at hworks
  rw [LogEntry.balances, Bool.not_eq_true', decide_eq_false_iff_not]
  rintro hbalances
  rw [hbalances] at hworks
  simp at hworks

theorem Reports.of_eq (h : s.Reports log)
    (htold : s'.terminatedByMaster = s.terminatedByMaster)
    (hended : s.receiver = .ended → s'.receiver = .ended) : s'.Reports log := by
  cases h with
  | untold told works => exact .untold (htold.trans told) works
  | told told receiver works processes =>
      exact .told (htold.trans told) (hended receiver) works processes

theorem Reports.received (h : s.Reports log) (hreceiving : s.receiver = .receiving)
    (htold : s'.terminatedByMaster = s.terminatedByMaster)
    (hworks : ∀ entry ∈ entries, entry.works = true) : s'.Reports (log ++ entries) := by
  cases h with
  | untold told works =>
      refine .untold (htold.trans told) fun entry hentry => ?_
      exact (List.mem_append.1 hentry).elim (works entry) (hworks entry)
  | told told receiver => exact absurd (hreceiving.symm.trans receiver) nofun

theorem Reports.processed (h : s.Reports log)
    (htold : s'.terminatedByMaster = s.terminatedByMaster) (hreceiver : s'.receiver = s.receiver)
    (hprocesses : ∀ entry ∈ entries, entry.processes = true) : s'.Reports (log ++ entries) := by
  cases h with
  | untold told works =>
      refine .untold (htold.trans told) fun entry hentry => ?_
      exact (List.mem_append.1 hentry).elim (works entry)
        fun hentry => LogEntry.works_of_processes (hprocesses entry hentry)
  | told told receiver works processes =>
      rw [List.append_assoc, List.cons_append]
      refine .told (htold.trans told) (hreceiver.trans receiver) works fun entry hentry => ?_
      exact (List.mem_append.1 hentry).elim (processes entry) (hprocesses entry)

theorem Reports.terminated (h : s.Reports log) (hreceiving : s.receiver = .receiving)
    (htold : s'.terminatedByMaster = true) (hended : s'.receiver = .ended) :
    s'.Reports (log ++ [⟨.TERMINATE, .INFO⟩]) := by
  cases h with
  | untold told works => exact .told htold hended works nofun
  | told told receiver => exact absurd (hreceiving.symm.trans receiver) nofun

theorem Story.of_same (h : s.Story log) (hmain : s'.main = s.main)
    (hreceiver : s'.receiver = s.receiver) (hprocessor : s'.processor = s.processor)
    (hshutdown : s.shutdown = true → s'.shutdown = true)
    (htold : s'.terminatedByMaster = s.terminatedByMaster) : s'.Story log := by
  have hreports : ∀ {log}, s.Reports log → s'.Reports log :=
    fun h => h.of_eq htold fun hended => hreceiver.trans hended
  cases h with
  | connecting main receiver processor told =>
      exact .connecting (hmain.trans main) (hreceiver.trans receiver)
        (hprocessor.trans processor) (htold.trans told)
  | gaveUp main receiver processor told connected =>
      exact .gaveUp (hmain.trans main) (hreceiver.trans receiver)
        (hprocessor.trans processor) (htold.trans told) connected
  | joiningReceiver main receiver processor reports =>
      exact .joiningReceiver (hmain.trans main) (hreceiver ▸ receiver) (hprocessor ▸ processor)
        (hreports reports)
  | joiningProcessor main receiver processor shutdown reports =>
      exact .joiningProcessor (hmain.trans main) (hreceiver.trans receiver)
        (hprocessor ▸ processor) (hshutdown shutdown) (hreports reports)
  | ended main receiver processor reports =>
      have hfinal : s'.finalLog = s.finalLog := by rw [finalLog, finalLog, htold]
      rw [← hfinal]
      exact .ended (hmain.trans main) (hreceiver.trans receiver) (hprocessor.trans processor)
        (hreports reports)

/-- While it receives, a worker has registered and its main thread waits for the receiver. -/
theorem Story.of_receiving (h : s.Story log) (hreceiving : s.receiver = .receiving) :
    s.main = .joiningReceiver ∧ s.processor ≠ .notStarted ∧
      ∃ rest, log = ⟨.CONNECT, .SUCCESS⟩ :: rest ∧ s.Reports rest := by
  cases h with
  | connecting _ receiver => exact absurd (hreceiving.symm.trans receiver) nofun
  | gaveUp _ receiver => exact absurd (hreceiving.symm.trans receiver) nofun
  | joiningReceiver main _ processor reports => exact ⟨main, processor, _, rfl, reports⟩
  | joiningProcessor _ receiver => exact absurd (hreceiving.symm.trans receiver) nofun
  | ended _ receiver => exact absurd (hreceiving.symm.trans receiver) nofun

theorem Story.processed (h : s.Story log)
    (hrunning : s.processor ≠ .notStarted ∧ s.processor ≠ .ended)
    (hstarted : s'.processor ≠ .notStarted) (hmain : s'.main = s.main)
    (hreceiver : s'.receiver = s.receiver) (hshutdown : s.shutdown = true → s'.shutdown = true)
    (htold : s'.terminatedByMaster = s.terminatedByMaster)
    (hprocesses : ∀ entry ∈ entries, entry.processes = true) : s'.Story (log ++ entries) := by
  cases h with
  | connecting _ _ processor => exact absurd processor hrunning.1
  | gaveUp _ _ processor => exact absurd processor hrunning.1
  | joiningReceiver main receiver _ reports =>
      exact .joiningReceiver (hmain.trans main) (hreceiver ▸ receiver) hstarted
        (reports.processed htold hreceiver hprocesses)
  | joiningProcessor main receiver _ shutdown reports =>
      exact .joiningProcessor (hmain.trans main) (hreceiver.trans receiver) hstarted
        (hshutdown shutdown) (reports.processed htold hreceiver hprocesses)
  | ended _ _ processor => exact absurd processor hrunning.2

theorem Story.of_connecting (h : s.Story log) (hconnecting : s.main = .connecting) :
    log = [] ∧ s.receiver = .notStarted ∧ s.processor = .notStarted ∧
      s.terminatedByMaster = false := by
  cases h with
  | connecting _ receiver processor told => exact ⟨rfl, receiver, processor, told⟩
  | gaveUp main => exact absurd (hconnecting.symm.trans main) nofun
  | joiningReceiver main => exact absurd (hconnecting.symm.trans main) nofun
  | joiningProcessor main => exact absurd (hconnecting.symm.trans main) nofun
  | ended main => exact absurd (hconnecting.symm.trans main) nofun

theorem Story.joined (h : s.Story log) (hjoining : s.main = .joiningReceiver)
    (hended : s.receiver = .ended) :
    ({ s.stop with main := .joiningProcessor } : WorkerRuntime).Story log := by
  cases h with
  | connecting main => exact absurd (hjoining.symm.trans main) nofun
  | gaveUp main => exact absurd (hjoining.symm.trans main) nofun
  | joiningReceiver _ _ processor reports =>
      exact .joiningProcessor rfl hended processor rfl (reports.of_eq rfl fun _ => hended)
  | joiningProcessor main => exact absurd (hjoining.symm.trans main) nofun
  | ended main => exact absurd (hjoining.symm.trans main) nofun

theorem Story.ends (h : s.Story log) (hjoining : s.main = .joiningProcessor)
    (hended : s.processor = .ended) :
    ({ s with main := .ended } : WorkerRuntime).Story (log ++ s.finalLog) := by
  cases h with
  | connecting main => exact absurd (hjoining.symm.trans main) nofun
  | gaveUp main => exact absurd (hjoining.symm.trans main) nofun
  | joiningReceiver main => exact absurd (hjoining.symm.trans main) nofun
  | joiningProcessor _ receiver _ _ reports =>
      exact .ended rfl receiver hended (reports.of_eq rfl fun hended => hended)
  | ended main => exact absurd (hjoining.symm.trans main) nofun

theorem Story.step {event : Event} (h : s.Story log)
    (hadvanced : s.Advanced b json s' event entries) :
    s'.Story (log ++ withoutBalancing entries) := by
  cases hadvanced with
  | aside _ same balances =>
      rw [withoutBalancing_of_balances balances, List.append_nil]
      exact h.of_same same.main same.receiver same.processor same.shutdown.trans
        same.terminatedByMaster
  | stopped state =>
      subst state
      rw [withoutBalancing_nil, List.append_nil]
      exact h.of_same rfl rfl rfl (fun _ => rfl) rfl
  | received receiving started main processor shutdown told works =>
      obtain ⟨hmain, hprocessor, rest, rfl, hreports⟩ := h.of_receiving receiving
      rw [withoutBalancing_of_works works]
      exact .joiningReceiver (main.trans hmain) started (processor ▸ hprocessor)
        (hreports.received receiving told works)
  | told _ receiving ended main processor shutdown told =>
      obtain ⟨hmain, hprocessor, rest, rfl, hreports⟩ := h.of_receiving receiving
      exact .joiningReceiver (main.trans hmain) (ended ▸ nofun) (processor ▸ hprocessor)
        (hreports.terminated receiving told ended)
  | processed running started main receiver shutdown told _ processes =>
      rw [withoutBalancing_of_works fun entry hentry =>
        LogEntry.works_of_processes (processes entry hentry)]
      exact h.processed running started main receiver shutdown told processes
  | registered connecting main receiver processor told =>
      obtain ⟨rfl, _, _, htold⟩ := h.of_connecting connecting
      exact .joiningReceiver main (receiver ▸ nofun) (processor ▸ nofun)
        (.untold (told.trans htold) nofun)
  | gaveUp connecting main receiver processor _ told connected =>
      obtain ⟨rfl, hreceiver, hprocessor, htold⟩ := h.of_connecting connecting
      refine .gaveUp main (receiver.trans hreceiver) (processor.trans hprocessor)
        (told.trans htold) ?_
      obtain rfl | rfl := connected
      · exact .inl rfl
      · exact .inr rfl
  | joined joining ended state =>
      subst state
      rw [withoutBalancing_nil, List.append_nil]
      exact h.joined joining ended
  | ended joining ended state =>
      subst state
      exact h.ends joining ended

theorem exists_story_of_run {workerId : WorkerId} {endpoint : WorkerEndpoint}
    {peers : List WorkerId} {queue : ReadyQueue TaskRecord} {events : List Event}
    (hrun : Transition.run (step b json) (init workerId endpoint peers queue) events = some s) :
    ∃ log, s.Story log := by
  refine Transition.invariant_run (I := fun s : WorkerRuntime => ∃ log, s.Story log) ?_
    ⟨[], .connecting rfl rfl rfl rfl⟩ hrun
  rintro s event s' ⟨log, hstory⟩ hstep
  exact ⟨_, hstory.step (advanced_of_step hstep)⟩

/-- In every run, all that a worker reports apart from the load balancing is the registration,
then what the receiver and the processor report, with the signal to terminate as the last word
of the receiver, and at the end, once both have ended, the statistics and how it ended: with
`SUCCESS` exactly if it was told to terminate. -/
theorem story_of_run {workerId : WorkerId} {endpoint : WorkerEndpoint} {peers : List WorkerId}
    {queue : ReadyQueue TaskRecord} {events : List Event}
    (hrun : Transition.run (step b json) (init workerId endpoint peers queue) events = some s) :
    s.Story (withoutBalancing (Transition.outputs (step b json) (emitted b json)
      (init workerId endpoint peers queue) events)) := by
  have hstart : (init workerId endpoint peers queue).Story (withoutBalancing []) :=
    .connecting rfl rfl rfl rfl
  refine Transition.invariant_outputs (I := fun log s => s.Story (withoutBalancing log)) ?_
    hstart hrun
  intro log s event s' hstory hstep
  rw [withoutBalancing_append]
  exact hstory.step (advanced_of_step hstep)

theorem Reports.not_success (h : s.Reports log) : ⟨.TERMINATE, .SUCCESS⟩ ∉ log := by
  intro hmem
  cases h with
  | untold _ works => exact absurd (works _ hmem) (by decide)
  | told _ _ works processes =>
      obtain hmem | hmem := List.mem_append.1 hmem
      · exact absurd (works _ hmem) (by decide)
      · obtain heq | hmem := List.mem_cons.1 hmem
        · cases heq
        · exact absurd (processes _ hmem) (by decide)

theorem Story.of_success (h : s.Story log) (hsuccess : ⟨.TERMINATE, .SUCCESS⟩ ∈ log) :
    s.terminatedByMaster = true ∧ s.receiver = .ended ∧ s.processor = .ended := by
  have hbegin : ∀ {log}, s.Reports log →
      (⟨.TERMINATE, .SUCCESS⟩ : LogEntry) ∉ ⟨.CONNECT, .SUCCESS⟩ :: log := by
    intro log hreports hmem
    obtain heq | hmem := List.mem_cons.1 hmem
    · cases heq
    · exact hreports.not_success hmem
  cases h with
  | connecting => exact absurd hsuccess List.not_mem_nil
  | gaveUp _ _ _ _ connected =>
      obtain rfl | rfl := connected
      · exact absurd hsuccess List.not_mem_nil
      · exact absurd hsuccess (by decide)
  | joiningReceiver _ _ _ reports => exact absurd hsuccess (hbegin reports)
  | joiningProcessor _ _ _ _ reports => exact absurd hsuccess (hbegin reports)
  | ended _ receiver processor reports =>
      obtain hmem | hmem := List.mem_append.1 hsuccess
      · exact absurd hmem (hbegin reports)
      · refine ⟨?_, receiver, processor⟩
        by_contra hnot
        rw [finalLog, if_neg hnot] at hmem
        exact absurd hmem (by decide)

/-! ### The end -/

/-- `_shutdown` is set, and the receiver has ended. -/
structure Ending (s : WorkerRuntime) : Prop where
  shutdown : s.shutdown = true
  receiver : s.receiver = .ended
  main : s.main = .joiningReceiver ∨ s.main = .joiningProcessor ∨
    s.main = .ended ∧ s.processor = .ended
  processor : s.processor ≠ .notStarted

def left (s : WorkerRuntime) : ℕ := s.main.rank + s.processor.rank

theorem Story.ending (h : s.Story log) (hshutdown : s.shutdown = true)
    (hreceiver : s.receiver = .ended) : s.Ending := by
  cases h with
  | connecting _ receiver => exact absurd (hreceiver.symm.trans receiver) nofun
  | gaveUp _ receiver => exact absurd (hreceiver.symm.trans receiver) nofun
  | joiningReceiver main _ processor => exact ⟨hshutdown, hreceiver, .inl main, processor⟩
  | joiningProcessor main _ processor =>
      exact ⟨hshutdown, hreceiver, .inr (.inl main), processor⟩
  | ended main _ processor =>
      exact ⟨hshutdown, hreceiver, .inr (.inr ⟨main, processor⟩), processor ▸ nofun⟩

theorem Ending.left_le (h : s.Ending) : s.left ≤ 6 := by
  have hprocessor : s.processor.rank ≤ 4 := by
    cases s.processor <;> simp [ProcessorThread.rank]
  rw [left]
  obtain hmain | hmain | ⟨hmain, _⟩ := h.main
  · rw [hmain, MainThread.rank]
    omega
  · rw [hmain, MainThread.rank]
    omega
  · rw [hmain, MainThread.rank]
    omega

/-- As long as `run` is not over, one of its threads can go on. -/
theorem Ending.progress (h : s.Ending) (b : Builtins) (json : Json) :
    s.main = .ended ∨ ∃ event : Event, event.inRun = true ∧ (s.step b json event).isSome := by
  obtain hmain | hmain | ⟨hmain, _⟩ := h.main
  · refine .inr ⟨.main "" { answer := { sock := { incoming := [] } } }, rfl, ?_⟩
    rw [step, perform, proceed, hmain]
    simp [h.receiver]
  · refine .inr ?_
    by_cases hended : s.processor = .ended
    · refine ⟨.main "" { answer := { sock := { incoming := [] } } }, rfl, ?_⟩
      rw [step, perform, proceed, hmain]
      simp [hended]
    · refine ⟨.processor ⟨true, .finite 0, "", { reportId := "" }⟩, rfl, ?_⟩
      rw [step, perform]
      cases hprocessor : s.processor with
      | notStarted => exact absurd hprocessor h.processor
      | ended => exact absurd hprocessor hended
      | top => rfl
      | waiting => rfl
      | dequeued task => rfl
      | processing task waitSeconds => rfl
  · exact .inl hmain

theorem length_taken_le (s : WorkerRuntime) (event : Event) :
    (s.taken event).length ≤ s.processor.canTake := by
  cases event with
  | processor around =>
      cases hprocessor : s.processor with
      | waiting =>
          rw [taken, hprocessor]
          cases s.queue.dequeueForProcessing.1 <;> simp [ProcessorThread.canTake]
      | _ => simp [taken, hprocessor]
  | _ => simp [taken]

theorem canTake_eq_zero {p : ProcessorThread} (h : p.rank < 4) : p.canTake = 0 := by
  cases p with
  | waiting => exact absurd h (lt_irrefl 4)
  | _ => rfl

/-- What an event leaves of the steps of `run`, and of the tasks that can be taken. -/
structure Ending.Uses (s s' : WorkerRuntime) (event : Event) : Prop where
  ending : s'.Ending
  left : (if event.inRun = true then 1 else 0) + s'.left ≤ s.left
  taken : (s.taken event).length + s'.processor.canTake ≤ s.processor.canTake

theorem Ending.Uses.of_same {event : Event} (h : s.Ending) (hmain : s'.main = s.main)
    (hreceiver : s'.receiver = s.receiver) (hprocessor : s'.processor = s.processor)
    (hshutdown : s'.shutdown = true) (hevent : event.inRun = false) :
    Ending.Uses s s' event where
  ending := by
    refine ⟨hshutdown, hreceiver.trans h.receiver, ?_, hprocessor ▸ h.processor⟩
    rw [hmain, hprocessor]
    exact h.main
  left := by
    rw [if_neg (by simp [hevent]), WorkerRuntime.left, WorkerRuntime.left, hmain, hprocessor,
      zero_add]
  taken := by
    have htaken : s.taken event = [] := by
      cases event with
      | processor around => cases hevent
      | _ => rfl
    rw [htaken, hprocessor, List.length_nil, zero_add]

theorem Ending.uses_processed (h : s.Ending) {around : Processing}
    (hrunning : s.processor ≠ .ended) (hstarted : s'.processor ≠ .notStarted)
    (hmain : s'.main = s.main) (hreceiver : s'.receiver = s.receiver)
    (hshutdown : s'.shutdown = true) (hrank : s'.processor.rank < s.processor.rank) :
    Ending.Uses s s' (.processor around) where
  ending := by
    refine ⟨hshutdown, hreceiver.trans h.receiver, ?_, hstarted⟩
    rw [hmain]
    obtain hjoining | hjoining | ⟨_, hended⟩ := h.main
    · exact .inl hjoining
    · exact .inr (.inl hjoining)
    · exact absurd hended hrunning
  left := by
    rw [Event.inRun, if_pos rfl, WorkerRuntime.left, WorkerRuntime.left, hmain]
    omega
  taken := by
    have hbound : s.processor.rank ≤ 4 := by
      cases s.processor <;> simp [ProcessorThread.rank]
    rw [canTake_eq_zero (hrank.trans_le hbound), add_zero]
    exact length_taken_le s _

theorem Ending.uses (h : s.Ending) {event : Event}
    (hadvanced : s.Advanced b json s' event entries) : Ending.Uses s s' event := by
  have hnot : ∀ {p : ReceiverThread}, p ≠ .ended → s.receiver ≠ p :=
    fun hp hreceiver => hp (hreceiver.symm.trans h.receiver)
  cases hadvanced with
  | aside inRun same =>
      exact .of_same h same.main same.receiver same.processor (same.shutdown.trans h.shutdown)
        inRun
  | stopped state =>
      subst state
      exact .of_same h rfl rfl rfl rfl rfl
  | received receiving => exact absurd receiving (hnot nofun)
  | told _ receiving => exact absurd receiving (hnot nofun)
  | processed running started main receiver shutdown _ rank =>
      exact h.uses_processed running.2 started main receiver (shutdown h.shutdown)
        (rank h.shutdown)
  | registered connecting =>
      exact absurd h.main (by simp [connecting])
  | gaveUp connecting =>
      exact absurd h.main (by simp [connecting])
  | joined joining ended state =>
      subst state
      refine ⟨⟨rfl, ended, .inr (.inl rfl), h.processor⟩, ?_, le_of_eq (zero_add _)⟩
      rw [Event.inRun, if_pos rfl, left, left, joining]
      simp only [stop, MainThread.rank]
      omega
  | ended joining ended state =>
      subst state
      refine ⟨⟨h.shutdown, h.receiver, .inr (.inr ⟨rfl, ended⟩), h.processor⟩, ?_,
        le_of_eq (zero_add _)⟩
      rw [Event.inRun, if_pos rfl, left, left, joining]
      simp only [MainThread.rank]
      omega

theorem Ending.run (h : s.Ending) {events : List Event}
    (hrun : Transition.run (step b json) s events = some s') :
    s'.Ending ∧ events.countP Event.inRun + s'.left ≤ s.left ∧
      (Transition.outputs (step b json) taken s events).length + s'.processor.canTake ≤
        s.processor.canTake := by
  induction events generalizing s with
  | nil =>
      cases hrun
      simp [h, Transition.outputs]
  | cons event rest ih =>
      obtain ⟨t, hstep, hrest⟩ := Transition.run_cons_eq_some_iff.1 hrun
      have huses := h.uses (advanced_of_step hstep)
      obtain ⟨hending, hleft, htaken⟩ := ih huses.ending hrest
      refine ⟨hending, ?_, ?_⟩
      · have hone := huses.left
        rw [List.countP_cons]
        omega
      · have hone := huses.taken
        rw [Transition.outputs, hstep, List.length_append]
        omega

/-- Once `_shutdown` is set and the receiver has ended, the main thread and the processor take
at most six more steps, whatever the server and the monitor do meanwhile, and can go on until
`run` is over. At most one more task is taken from the queue. -/
theorem ends_of_shutdown {workerId : WorkerId} {endpoint : WorkerEndpoint}
    {peers : List WorkerId} {queue : ReadyQueue TaskRecord} {before later : List Event}
    (hrun : Transition.run (step b json) (init workerId endpoint peers queue) before = some s)
    (hshutdown : s.shutdown = true) (hreceiver : s.receiver = .ended)
    (hlater : Transition.run (step b json) s later = some s') :
    later.countP Event.inRun ≤ 6 ∧
      (Transition.outputs (step b json) taken s later).length ≤ 1 ∧
      (s'.main = .ended ∨
        ∃ event : Event, event.inRun = true ∧ (s'.step b json event).isSome) := by
  obtain ⟨_, hstory⟩ := exists_story_of_run hrun
  have hending := hstory.ending hshutdown hreceiver
  obtain ⟨hended, hleft, htaken⟩ := hending.run hlater
  refine ⟨by have := hending.left_le; omega, ?_, hended.progress b json⟩
  have hcan : s.processor.canTake ≤ 1 := by
    cases s.processor <;> simp [ProcessorThread.canTake]
  omega

end

/-! ### A life -/

def terminate : Message where
  messageType := .TERMINATE
  senderId := "master"
  requestId := "r4"
  payload := []

/-- The worker registers, a task arrives and is taken, and the worker is told to terminate. -/
def untilTold : List Event :=
  receivedAll [taskOf "a", terminate] ++
    (List.replicate 3 (.processor ⟨true, .finite 1, "r3", { reportId := "r2" }⟩) ++
      [.main "" { answer := { sock := { incoming := [] } } }])

/-- The task is processed, and `run` ends. -/
def afterwards : List Event :=
  List.replicate 2 (.processor ⟨true, .finite 1, "r3", { reportId := "r2" }⟩) ++
    [.main "" { answer := { sock := { incoming := [] } } }]

/-- The worker comes to its end and reports it. -/
theorem story_of_run_terminated :
    ∃ s, Transition.run (step Builtins.plain
        (plainJson [registered, taskOf "a", terminate])) newWorker (untilTold ++ afterwards) =
          some s ∧
      (s.main = .ended ∧ s.terminatedByMaster = true) ∧
      s.Story (withoutBalancing (Transition.outputs
        (step Builtins.plain (plainJson [registered, taskOf "a", terminate]))
        (emitted Builtins.plain (plainJson [registered, taskOf "a", terminate]))
        newWorker (untilTold ++ afterwards))) := by
  have htest : (Transition.run (step Builtins.plain
      (plainJson [registered, taskOf "a", terminate])) newWorker (untilTold ++ afterwards)).any
      (fun s => decide (s.main = .ended ∧ s.terminatedByMaster = true)) = true := by
    decide +kernel
  obtain ⟨s, hrun, htest⟩ := (Option.any_eq_true _ _).1 htest
  exact ⟨s, hrun, of_decide_eq_true htest, story_of_run hrun⟩

/-- After the signal the task is finished in the steps that are left. -/
theorem ends_of_shutdown_terminated :
    ∃ s s', Transition.run (step Builtins.plain
        (plainJson [registered, taskOf "a", terminate])) newWorker untilTold = some s ∧
      Transition.run (step Builtins.plain
        (plainJson [registered, taskOf "a", terminate])) s afterwards = some s' ∧
      afterwards.countP Event.inRun ≤ 6 ∧
      (Transition.outputs (step Builtins.plain
        (plainJson [registered, taskOf "a", terminate])) taken s afterwards).length ≤ 1 ∧
      (s'.main = .ended ∨ ∃ event : Event, event.inRun = true ∧
        (s'.step Builtins.plain (plainJson [registered, taskOf "a", terminate]) event).isSome) := by
  have htest : (Transition.run (step Builtins.plain
      (plainJson [registered, taskOf "a", terminate])) newWorker untilTold).any
      (fun s => (Transition.run (step Builtins.plain
        (plainJson [registered, taskOf "a", terminate])) s afterwards).any
        fun _ => decide (s.shutdown = true ∧ s.receiver = .ended)) = true := by
    decide +kernel
  obtain ⟨s, hrun, htest⟩ := (Option.any_eq_true _ _).1 htest
  obtain ⟨s', hlater, htest⟩ := (Option.any_eq_true _ _).1 htest
  obtain ⟨hshutdown, hreceiver⟩ := of_decide_eq_true htest
  exact ⟨s, s', hrun, hlater, ends_of_shutdown hrun hshutdown hreceiver hlater⟩

end WorkerRuntime

end KVStore
