import KVStore.Worker.Runtime
import KVStore.Worker.Usage

/-!
# The warnings about the ready queue

`Reported` says of a run that each operation by which a task enters or leaves the queue, and
after which more than 70% of the capacity is in use, has its `QUEUE` warning. The receiver and
the processor warn; the server and the monitor do not, so the run is reported exactly if no
step of theirs is `Silent`.
-/

namespace KVStore

open Python

namespace WorkerRuntime

/-- The event that warns about the queue. -/
def queueWarning : LogEntry := ⟨.QUEUE, .WARN⟩

/-- The event is a step of the processor. -/
def Event.OfProcessor : Event → Prop
  | .processor _ => True
  | _ => False

/-- The next step of the processor emits the warning, unless a task enters or leaves the
queue before it. -/
def NextWarns (b : Builtins) (json : Json) : WorkerRuntime → List Event → Prop
  | _, [] => True
  | s, .processor around :: _ => queueWarning ∈ s.emitted b json (.processor around)
  | s, event :: rest => ∀ s', s.step b json event = some s' →
      s'.queue.stored = s.queue.stored → NextWarns b json s' rest

/-- Whenever a task has entered or left the queue and more than 70% of it is in use right
after that, the worker emits the warning: in the same step, or, where the processor took a
task, in the step in which it looks at the queue again. -/
def Reported (b : Builtins) (json : Json) : WorkerRuntime → List Event → Prop
  | _, [] => True
  | s, event :: rest => ∀ s', s.step b json event = some s' →
      (s'.queue.stored ≠ s.queue.stored → s'.queue.Above →
        queueWarning ∈ s.emitted b json event ∨
          event.OfProcessor ∧ NextWarns b json s' rest) ∧
      Reported b json s' rest

/-- A batch that is accepted from a peer, or a removal after an `ACK`, that leaves more than
70% of the queue in use. -/
def Silent (b : Builtins) (json : Json) (s : WorkerRuntime) : Event → Prop
  | .server conn _ => ∃ tasks, s.service.newBatch b json conn = some tasks ∧
      s.queue.Fits tasks ∧ 7 * s.queue.capacity < 10 * (s.queue.sizeLocked + tasks.length)
  | .monitor _ => ∃ peer requestId t rest count,
      s.monitor = .confirming peer requestId (t :: rest) count ∧ t ∈ s.queue.reserved ∧
        7 * s.queue.capacity < 10 * (s.queue.sizeLocked - 1)
  | _ => False

/-! ### What the threads change -/

/-- What holds between any two steps. -/
structure Sound (s : WorkerRuntime) : Prop where
  wellFormed : s.queue.WellFormed
  free : s.processor = .notStarted ∨ s.processor = .top ∨ s.processor = .waiting →
    s.queue.processingTaskId = none
  connecting : s.main = .connecting → s.receiver = .notStarted ∧ s.processor = .notStarted
  registered : s.receiver ≠ .notStarted ∨ s.processor ≠ .notStarted →
    s.service.workerId ≠ "" ∧ (s.queue.capacity : ℤ) = DEFAULT_QUEUE_CAPACITY

/-- What the steps of the receiver, the server and the monitor leave alone. -/
structure Follows (s s' : WorkerRuntime) : Prop where
  queue : s.queue.Keeps s'.queue
  workerId : s'.service.workerId = s.service.workerId
  main : s'.main = s.main
  receiver : s'.receiver = .notStarted ↔ s.receiver = .notStarted
  processor : s'.processor = s.processor

section

variable {b : Builtins} {json : Json} {s s' : WorkerRuntime} {log : List LogEntry}

theorem Follows.sound (h : s.Follows s') (hs : s.Sound) : s'.Sound where
  wellFormed := h.queue.wellFormed
  free := by
    rw [h.processor, h.queue.processing]
    exact hs.free
  connecting := by
    rw [h.main, h.receiver, h.processor]
    exact hs.connecting
  registered := by
    rw [ne_eq, h.receiver, h.processor, h.workerId, h.queue.capacity]
    exact hs.registered

theorem Follows.of_service {service : P2PService} (hqueue : s.queue.Keeps service.queue)
    (hworker : service.workerId = s.service.workerId) :
    s.Follows { s with service := service } :=
  ⟨hqueue, hworker, rfl, Iff.rfl, rfl⟩

/-- The receiver enqueues at most one task, and passes the warning of the queue on. -/
theorem handleTask_cases (b : Builtins) (json : Json) (service : P2PService)
    (message : Message) (sends : Sends) (resultId : RequestId) :
    (handleTask b json service message sends resultId).1.workerId = service.workerId ∧
      ((handleTask b json service message sends resultId).1.queue = service.queue ∨
        ∃ task priority,
          (handleTask b json service message sends resultId).1.queue =
            (service.queue.tryEnqueue task priority).2 ∧
          ((service.queue.tryEnqueue task priority).1.accepted = true →
            (service.queue.tryEnqueue task priority).1.warn = true →
            queueWarning ∈ (handleTask b json service message sends resultId).2.1)) := by
  unfold handleTask
  dsimp only
  cases TaskRecord.fromDict b (message.payload.getD "task" (.dict [])) with
  | error e =>
      dsimp only
      split_ifs
      · exact ⟨rfl, .inl rfl⟩
      · exact ⟨rfl, .inl rfl⟩
  | ok task =>
      dsimp only
      generalize { task with enqueuedAt := service.clock.read } = task
      generalize (message.payload.getD "priority" (.bool false)).truthy = priority
      cases hresult : service.queue.tryEnqueue task priority with
      | mk result queue =>
          have hqueue : queue = (service.queue.tryEnqueue task priority).2 := by rw [hresult]
          dsimp only
          by_cases haccepted : result.accepted = false
          · have hrefused : (service.queue.tryEnqueue task priority).1.accepted = true →
                (service.queue.tryEnqueue task priority).1.warn = true → False := by
              rw [hresult, haccepted]
              nofun
            rw [if_pos haccepted]
            split_ifs with hduplicate
            · obtain ⟨clock, stats, hreport⟩ :=
                P2PService.exists_sendQueueStatus json { service with queue := queue } sends
              rcases hsent : P2PService.sendQueueStatus json { service with queue := queue }
                sends with ⟨service', failure⟩
              rw [hsent] at hreport
              cases hreport
              exact ⟨rfl, .inr ⟨task, priority, hqueue, fun h hwarn => (hrefused h hwarn).elim⟩⟩
            · have hsend : ∃ clock, (sendResultFail json
                  { service with
                    queue := queue
                    stats := service.stats.recordQueueOverflow service.workerId }
                  task "queue overflow" (.finite 0) resultId sends.response).1 =
                    { service with
                      queue := queue
                      stats := service.stats.recordQueueOverflow service.workerId
                      clock := clock } := P2PService.exists_send _ _ _ _ _ _
              obtain ⟨clock, hsend⟩ := hsend
              generalize sendResultFail json
                { service with
                  queue := queue
                  stats := service.stats.recordQueueOverflow service.workerId }
                task "queue overflow" (.finite 0) resultId sends.response = sent at hsend ⊢
              obtain ⟨service', failure⟩ := sent
              cases hsend
              refine ⟨?_, .inr ⟨task, priority, ?_, fun h hwarn => (hrefused h hwarn).elim⟩⟩
              · cases failure <;> rfl
              · cases failure <;> exact hqueue
          · rw [if_neg haccepted]
            obtain ⟨clock, stats, hreport⟩ :=
              P2PService.exists_sendQueueStatus json { service with queue := queue } sends
            rcases hsent : P2PService.sendQueueStatus json { service with queue := queue }
              sends with ⟨service', failure⟩
            rw [hsent] at hreport
            cases hreport
            refine ⟨rfl, .inr ⟨task, priority, hqueue, fun _ hwarn => ?_⟩⟩
            rw [hresult] at hwarn
            rw [hwarn]
            exact List.mem_cons_of_mem _ List.mem_cons_self

theorem handleTask_spec (b : Builtins) (json : Json) (service : P2PService)
    (message : Message) (sends : Sends) (resultId : RequestId) (h : service.queue.WellFormed)
    (hcapacity : (service.queue.capacity : ℤ) = DEFAULT_QUEUE_CAPACITY) :
    service.queue.Keeps (handleTask b json service message sends resultId).1.queue ∧
      ((handleTask b json service message sends resultId).1.queue.stored ≠
          service.queue.stored →
        (handleTask b json service message sends resultId).1.queue.Above →
          queueWarning ∈ (handleTask b json service message sends resultId).2.1) := by
  obtain ⟨_, hqueue | ⟨task, priority, hqueue, hwarn⟩⟩ :=
    handleTask_cases b json service message sends resultId
  · rw [hqueue]
    exact ⟨.refl h, fun hne => absurd rfl hne⟩
  · have hkeeps := ReadyQueue.keeps_tryEnqueue h task priority
    rw [hqueue]
    refine ⟨hkeeps, fun hne habove => ?_⟩
    obtain ⟨_, hrefused, _⟩ | ⟨haccepted, _⟩ := ReadyQueue.tryEnqueue_cases h task priority
    · exact absurd (congrArg ReadyQueue.stored hrefused) hne
    · refine hwarn haccepted ?_
      rw [ReadyQueue.tryEnqueue_warn, ReadyQueue.warnLocked_iff]
      · exact habove
      · rw [hkeeps.capacity, hcapacity]

/-- A step of the receiver changes the queue by one task at most, with a warning if that leaves
more than 70% of it in use. -/
theorem receive_spec (hs : s.Sound) (hreceiving : s.receiver = .receiving) (b : Builtins)
    (json : Json) (conn : Connection) (sends : Sends) (resultId : RequestId) :
    s.Follows (s.receive b json conn sends resultId).1 ∧
      ((s.receive b json conn sends resultId).1.queue.stored ≠ s.queue.stored →
        (s.receive b json conn sends resultId).1.queue.Above →
          queueWarning ∈ (s.receive b json conn sends resultId).2) := by
  have hended : ∀ s' : WorkerRuntime, s.queue.Keeps s'.queue →
      s'.service.workerId = s.service.workerId → s'.main = s.main → s'.receiver = .ended →
      s'.processor = s.processor → s.Follows s' := by
    intro s' hqueue hworker hmain hreceiver hprocessor
    refine ⟨hqueue, hworker, hmain, ?_, hprocessor⟩
    rw [hreceiver, hreceiving]
    simp
  have hsame := ReadyQueue.Keeps.refl hs.wellFormed
  have hcapacity := (hs.registered (.inl (by rw [hreceiving]; nofun))).2
  unfold receive
  cases conn.receive b json with
  | error e => exact ⟨hended _ hsame rfl rfl rfl rfl, fun hne => absurd rfl hne⟩
  | ok message =>
      dsimp only
      cases s.service.clock.observe message.logicalClock with
      | error e => exact ⟨hended _ hsame rfl rfl rfl rfl, fun hne => absurd rfl hne⟩
      | ok clock =>
          dsimp only
          cases message.messageType with
          | TASK =>
              dsimp only
              have hworker := (handleTask_cases b json { s.service with clock := clock } message
                sends resultId).1
              obtain ⟨hkeeps, hwarned⟩ := handleTask_spec b json
                { s.service with clock := clock } message sends resultId hs.wellFormed hcapacity
              generalize handleTask b json { s.service with clock := clock } message sends
                resultId = result at hworker hkeeps hwarned ⊢
              obtain ⟨service, log, failure⟩ := result
              cases failure with
              | none => exact ⟨.of_service hkeeps hworker, hwarned⟩
              | some e =>
                  dsimp only
                  split_ifs
                  · refine ⟨hended _ hkeeps hworker rfl rfl rfl, fun hne habove => ?_⟩
                    exact List.mem_append_left _ (hwarned hne habove)
                  · exact ⟨hended _ hkeeps hworker rfl rfl rfl, hwarned⟩
          | TERMINATE => exact ⟨hended _ hsame rfl rfl rfl rfl, fun hne => absurd rfl hne⟩
          | _ => exact ⟨.of_service hsame rfl, fun hne => absurd rfl hne⟩

theorem serve_cases (b : Builtins) (json : Json) (s : WorkerRuntime) (conn : Connection)
    (sends : Sends) :
    queueWarning ∉ (s.serve b json conn sends).2 ∧
      ∃ serving, (s.serve b json conn sends).1 =
        { s with
          service := (s.service.handleConnection b json conn sends).1
          serving := serving } := by
  have hlog : queueWarning ∉ connectionLog b json s.service conn := by
    unfold connectionLog
    cases conn.receive b json with
    | error e => exact List.not_mem_nil
    | ok message =>
        dsimp only
        cases s.service.acknowledgement b message with
        | none => exact List.not_mem_nil
        | some acknowledged =>
            dsimp only
            split_ifs <;> simp [queueWarning]
  unfold serve
  rcases s.service.handleConnection b json conn sends with ⟨service, failure⟩
  cases failure with
  | none => exact ⟨hlog, s.serving, rfl⟩
  | some e =>
      dsimp only
      split
      · exact ⟨by simp [queueWarning], s.serving, rfl⟩
      · exact ⟨List.not_mem_nil, false, rfl⟩

/-- A step that does not warn, and moves a task with more than 70% of the queue in use after
it exactly when it is silent. -/
structure Mute (b : Builtins) (json : Json) (s : WorkerRuntime) (event : Event)
    (result : WorkerRuntime × List LogEntry) : Prop where
  follows : s.Follows result.1
  log : queueWarning ∉ result.2
  silent : s.Silent b json event ↔
    result.1.queue.stored ≠ s.queue.stored ∧ result.1.queue.Above

theorem Mute.of_stored {event : Event} {result : WorkerRuntime × List LogEntry}
    (hloud : ¬ s.Silent b json event) (hfollows : s.Follows result.1)
    (hlog : queueWarning ∉ result.2) (hstored : result.1.queue.stored = s.queue.stored) :
    s.Mute b json event result :=
  ⟨hfollows, hlog, iff_of_false hloud fun h => h.1 hstored⟩

theorem mute_serve (hs : s.Sound) (b : Builtins) (json : Json) (conn : Connection)
    (sends : Sends) : s.Mute b json (.server conn sends) (s.serve b json conn sends) := by
  obtain ⟨hworker, hqueue⟩ := s.service.takesBatch_handleConnection b json conn sends
  obtain ⟨hlog, serving, hserve⟩ := serve_cases b json s conn sends
  have hfollows : s.queue.Keeps (s.serve b json conn sends).1.queue →
      s.Follows (s.serve b json conn sends).1 := by
    rw [hserve]
    exact fun hkeeps => ⟨hkeeps, hworker, rfl, Iff.rfl, rfl⟩
  have hserved : (s.serve b json conn sends).1.queue =
      (s.service.handleConnection b json conn sends).1.queue := by
    rw [hserve]
    rfl
  obtain ⟨hnone, hqueue⟩ | ⟨tasks, now, hbatch, hne, hqueue⟩ := hqueue
  · rw [hqueue] at hserved
    refine .of_stored ?_ (hfollows (hserved ▸ .refl hs.wellFormed)) hlog
      (congrArg ReadyQueue.stored hserved)
    rintro ⟨tasks, hbatch, _⟩
    rw [hnone] at hbatch
    cases hbatch
  · have hstamped : tasks.map (TaskRecord.restamp now) ≠ [] := by
      simpa using hne
    have hmoves := ReadyQueue.tryEnqueueMany_above (q := s.queue) hstamped
    rw [ReadyQueue.fits_map (f := TaskRecord.restamp now) fun _ => rfl, List.length_map] at hmoves
    rw [hqueue] at hserved
    refine ⟨hfollows (hserved ▸ ReadyQueue.keeps_tryEnqueueMany hs.wellFormed _), hlog, ?_⟩
    rw [hserved]
    refine Iff.trans ?_ hmoves.symm
    constructor
    · rintro ⟨tasks', hbatch', hfits, habove⟩
      rw [hbatch] at hbatch'
      cases hbatch'
      exact ⟨hfits, habove⟩
    · rintro ⟨hfits, habove⟩
      exact ⟨tasks, hbatch, hfits, habove⟩

/-- A step that makes no call and does not warn: the clock and the statistics may move. -/
structure Quiet (s : WorkerRuntime) (result : WorkerRuntime × List LogEntry) : Prop where
  queue : result.1.queue = s.queue
  workerId : result.1.service.workerId = s.service.workerId
  main : result.1.main = s.main
  receiver : result.1.receiver = s.receiver
  processor : result.1.processor = s.processor
  log : queueWarning ∉ result.2

theorem Quiet.follows {result : WorkerRuntime × List LogEntry} (h : s.Quiet result)
    (hs : s.Sound) : s.Follows result.1 where
  queue := by
    rw [h.queue]
    exact .refl hs.wellFormed
  workerId := h.workerId
  main := h.main
  receiver := by rw [h.receiver]
  processor := h.processor

theorem Quiet.mute {event : Event} {result : WorkerRuntime × List LogEntry} (h : s.Quiet result)
    (hs : s.Sound) (hloud : ¬ s.Silent b json event) : s.Mute b json event result :=
  .of_stored hloud (h.follows hs) h.log (congrArg ReadyQueue.stored h.queue)

theorem quiet_check (s : WorkerRuntime) (interval : PyFloat) :
    s.Quiet (s.check interval) := by
  unfold check
  cases s.queue.snapshotStatus s.service.workerId with
  | error text => exact ⟨rfl, rfl, rfl, rfl, rfl, List.not_mem_nil⟩
  | ok status =>
      dsimp only
      split_ifs
      · exact ⟨rfl, rfl, rfl, rfl, rfl, List.not_mem_nil⟩
      · cases s.service.clock.advance interval with
        | error e => exact ⟨rfl, rfl, rfl, rfl, rfl, List.not_mem_nil⟩
        | ok clock => exact ⟨rfl, rfl, rfl, rfl, rfl, List.not_mem_nil⟩

theorem quiet_balanceOnce (s : WorkerRuntime) :
    s.Quiet s.balanceOnce := by
  unfold balanceOnce
  cases s.queue.snapshotStatus s.service.workerId with
  | error text => exact ⟨rfl, rfl, rfl, rfl, rfl, List.not_mem_nil⟩
  | ok status =>
      dsimp only
      split_ifs
      · exact ⟨rfl, rfl, rfl, rfl, rfl, List.not_mem_nil⟩
      · exact ⟨rfl, rfl, rfl, rfl, rfl, by simp [queueWarning]⟩

theorem quiet_ask (b : Builtins) (json : Json) (s : WorkerRuntime) (peer : WorkerId)
    (rest : List WorkerId) (statuses : List (ℤ × WorkerId)) (around : Balancing) :
    s.Quiet (s.ask b json peer rest statuses around) := by
  unfold ask
  obtain ⟨clock, hrequest⟩ := P2PService.exists_request b json s.service .P2P_STATUS_REQUEST
    around.requestId [("worker_id", .str s.service.workerId)] around.exchange
  generalize s.service.request b json .P2P_STATUS_REQUEST around.requestId
    [("worker_id", .str s.service.workerId)] around.exchange = result at hrequest ⊢
  obtain ⟨service, response⟩ := result
  cases hrequest
  cases response with
  | error e => exact ⟨rfl, rfl, rfl, rfl, rfl, List.not_mem_nil⟩
  | ok response =>
      dsimp only
      cases P2PService.statedCapacity b peer response with
      | error e => exact ⟨rfl, rfl, rfl, rfl, rfl, List.not_mem_nil⟩
      | ok available =>
          cases available with
          | none => exact ⟨rfl, rfl, rfl, rfl, rfl, List.not_mem_nil⟩
          | some available => exact ⟨rfl, rfl, rfl, rfl, rfl, by simp [queueWarning]⟩

theorem quiet_choose (s : WorkerRuntime) (statuses : List (ℤ × WorkerId)) (around : Balancing) :
    s.Quiet (s.choose statuses around) := by
  unfold choose
  cases Heap.least Node.peerLe statuses with
  | none => exact ⟨rfl, rfl, rfl, rfl, rfl, by simp [queueWarning]⟩
  | some status =>
      dsimp only
      cases s.queue.peekTransferCandidates (min (around.count : ℤ) status.1) with
      | error text => exact ⟨rfl, rfl, rfl, rfl, rfl, List.not_mem_nil⟩
      | ok candidates => exact ⟨rfl, rfl, rfl, rfl, rfl, List.not_mem_nil⟩

theorem quiet_transfer (b : Builtins) (json : Json) (s : WorkerRuntime) (peer : WorkerId)
    (reserved : List TaskRecord) (around : Balancing) :
    s.Quiet (s.transfer b json peer reserved around) := by
  unfold transfer
  split_ifs
  · exact ⟨rfl, rfl, rfl, rfl, rfl, List.not_mem_nil⟩
  obtain ⟨clock, hrequest⟩ := P2PService.exists_request b json s.service .P2P_TRANSFER
    around.requestId (P2PService.transferPayload reserved) around.exchange
  dsimp only
  generalize s.service.request b json .P2P_TRANSFER around.requestId
    (P2PService.transferPayload reserved) around.exchange = result at hrequest ⊢
  obtain ⟨service, response⟩ := result
  cases hrequest
  cases response with
  | error e => exact ⟨rfl, rfl, rfl, rfl, rfl, by simp [queueWarning]⟩
  | ok response => exact ⟨rfl, rfl, rfl, rfl, rfl, by simp [queueWarning]⟩

theorem quiet_conclude (json : Json) (s : WorkerRuntime) (peer : WorkerId)
    (requestId : RequestId) (count : ℕ) (sends : Sends) :
    s.Quiet (s.conclude json peer requestId count sends) := by
  unfold conclude
  obtain ⟨clock, stats, hnotify⟩ := P2PService.exists_notifyQueueChanged json
    { s.service with
      stats := (s.service.stats.recordP2pTransfer s.service.workerId peer count
        (some ("p2p:" ++ requestId))).2 } sends
  dsimp only
  generalize P2PService.notifyQueueChanged json
    { s.service with
      stats := (s.service.stats.recordP2pTransfer s.service.workerId peer count
        (some ("p2p:" ++ requestId))).2 } sends = result at hnotify ⊢
  obtain ⟨service, failure⟩ := result
  cases hnotify
  cases failure with
  | some e => exact ⟨rfl, rfl, rfl, rfl, rfl, List.not_mem_nil⟩
  | none => exact ⟨rfl, rfl, rfl, rfl, rfl, by simp [queueWarning]⟩

theorem mute_balance (hs : s.Sound) {around : Balancing}
    {result : WorkerRuntime × List LogEntry} (h : s.balance b json around = some result) :
    s.Mute b json (.monitor around) result := by
  have hloud : (∀ peer requestId t rest count,
      s.monitor ≠ .confirming peer requestId (t :: rest) count) →
      ¬ s.Silent b json (.monitor around) := by
    rintro hmonitor ⟨peer, requestId, t, rest, count, hconfirming, _⟩
    exact hmonitor peer requestId t rest count hconfirming
  unfold balance at h
  cases hmonitor : s.monitor with
  | idle =>
      rw [hmonitor] at h hloud
      dsimp only at h
      split_ifs at h
      cases h
      exact (quiet_check s around.interval).mute hs (hloud nofun)
  | called =>
      rw [hmonitor] at h hloud
      cases h
      exact (quiet_balanceOnce s).mute hs (hloud nofun)
  | asking peers statuses =>
      rw [hmonitor] at h hloud
      cases peers with
      | cons peer rest =>
          cases h
          exact (quiet_ask b json s peer rest statuses around).mute hs (hloud nofun)
      | nil =>
          cases h
          exact (quiet_choose s statuses around).mute hs (hloud nofun)
  | reserving peer candidates reserved =>
      rw [hmonitor] at h hloud
      cases candidates with
      | cons t rest =>
          cases h
          obtain ⟨hkeeps, hstored⟩ := ReadyQueue.reserveForTransfer_keeps hs.wellFormed t
          exact .of_stored (hloud nofun) ⟨hkeeps, rfl, rfl, Iff.rfl, rfl⟩ List.not_mem_nil hstored
      | nil =>
          cases h
          exact (quiet_transfer b json s peer reserved around).mute hs (hloud nofun)
  | releasing remaining =>
      rw [hmonitor] at h hloud
      cases remaining with
      | cons t rest =>
          cases h
          obtain ⟨hkeeps, hstored⟩ := ReadyQueue.releaseReservation_keeps hs.wellFormed t
          exact .of_stored (hloud nofun) ⟨hkeeps, rfl, rfl, Iff.rfl, rfl⟩ List.not_mem_nil hstored
      | nil =>
          cases h
          have hquiet : s.Quiet ({ s with monitor := .idle }, [⟨.LB, .FAIL⟩]) :=
            ⟨rfl, rfl, rfl, rfl, rfl, by simp [queueWarning]⟩
          exact hquiet.mute hs (hloud nofun)
  | confirming peer requestId remaining count =>
      rw [hmonitor] at h hloud
      cases remaining with
      | cons t rest =>
          cases h
          obtain ⟨hkeeps, _⟩ := ReadyQueue.confirmRemoved_keeps hs.wellFormed t
          refine ⟨⟨hkeeps, rfl, rfl, Iff.rfl, rfl⟩, List.not_mem_nil, ?_⟩
          refine Iff.trans ?_ (ReadyQueue.confirmRemoved_above hs.wellFormed t).symm
          constructor
          · rintro ⟨_, _, _, _, _, heq, hreserved, habove⟩
            rw [hmonitor] at heq
            cases heq
            exact ⟨hreserved, habove⟩
          · rintro ⟨hreserved, habove⟩
            exact ⟨peer, requestId, t, rest, count, hmonitor, hreserved, habove⟩
      | nil =>
          cases h
          exact (quiet_conclude json s peer requestId count around.sends).mute hs (hloud nofun)
  | ended =>
      rw [hmonitor] at h
      cases h

theorem Sound.of_processor (hs : s.Sound) (hstarted : s.processor ≠ .notStarted)
    (hwf : s'.queue.WellFormed)
    (hfree : s'.processor = .notStarted ∨ s'.processor = .top ∨ s'.processor = .waiting →
      s'.queue.processingTaskId = none)
    (hmain : s'.main = s.main) (hworker : s'.service.workerId = s.service.workerId)
    (hcapacity : s'.queue.capacity = s.queue.capacity) : s'.Sound where
  wellFormed := hwf
  free := hfree
  connecting h := absurd (hs.connecting (hmain ▸ h)).2 hstarted
  registered _ := by
    rw [hworker, hcapacity]
    exact hs.registered (.inr hstarted)

theorem processorFails_spec (s : WorkerRuntime) (e : PyError) (log : List LogEntry) :
    ((s.processorFails e log).1.queue = s.queue ∧
      (s.processorFails e log).1.service.workerId = s.service.workerId ∧
      (s.processorFails e log).1.main = s.main ∧
      (s.processorFails e log).1.processor = .ended) ∧
    ∀ entry ∈ log, entry ∈ (s.processorFails e log).2 := by
  unfold processorFails
  dsimp only
  split_ifs
  · exact ⟨⟨rfl, rfl, rfl, rfl⟩, fun entry h => List.mem_append_left _ h⟩
  · exact ⟨⟨rfl, rfl, rfl, rfl⟩, fun entry h => h⟩

theorem dequeue_spec (hs : s.Sound) (hwaiting : s.processor = .waiting) :
    s.dequeue.1.Sound ∧ (s.dequeue.1.queue.stored ≠ s.queue.stored →
      ∃ task, s.dequeue.1.processor = .dequeued task) := by
  have hstarted : s.processor ≠ .notStarted := by
    rw [hwaiting]
    nofun
  have hfree := hs.free (.inr (.inr hwaiting))
  unfold dequeue
  obtain ⟨hnone, _⟩ | ⟨task, hsome, _, hwf, _, _, _, _, hcapacity, _⟩ :=
    ReadyQueue.dequeueForProcessing_cases hs.wellFormed hfree
  · rw [hnone]
    exact ⟨hs.of_processor hstarted hs.wellFormed (fun _ => hfree) rfl rfl rfl,
      fun hne => absurd rfl hne⟩
  · generalize s.queue.dequeueForProcessing = result at hsome hwf hcapacity ⊢
    obtain ⟨taken, queue⟩ := result
    cases hsome
    exact ⟨hs.of_processor hstarted hwf nofun rfl rfl hcapacity, fun _ => ⟨task, rfl⟩⟩

theorem exists_snapshotStatus (hs : s.Sound) (hstarted : s.processor ≠ .notStarted) :
    ∃ status, s.queue.snapshotStatus s.service.workerId = .ok status ∧
      status.warn = s.queue.warnLocked := by
  obtain ⟨hworker, hcapacity⟩ := hs.registered (.inr hstarted)
  refine ⟨_, hs.wellFormed.snapshotStatus hcapacity hworker, ?_⟩
  simp only [WorkerStatus.warn, ReadyQueue.warnLocked, Int.toNat_natCast]

theorem inspect_spec (hs : s.Sound) {task : TaskRecord} (htask : s.processor = .dequeued task)
    (json : Json) (sends : Sends) :
    (s.inspect json task sends).1.Sound ∧
      (s.inspect json task sends).1.queue = s.queue ∧
      (s.queue.Above → queueWarning ∈ (s.inspect json task sends).2) := by
  have hstarted : s.processor ≠ .notStarted := by
    rw [htask]
    nofun
  obtain ⟨status, hstatus, hwarn⟩ := exists_snapshotStatus hs hstarted
  have hlog : s.queue.Above →
      queueWarning ∈ (if status.warn then [⟨.QUEUE, .WARN⟩] else [] : List LogEntry) := by
    intro habove
    rw [hwarn, (ReadyQueue.warnLocked_iff (hs.registered (.inr hstarted)).2).2 habove, if_pos rfl]
    exact List.mem_cons_self
  unfold inspect
  rw [hstatus]
  dsimp only
  generalize (if status.warn then [⟨.QUEUE, .WARN⟩] else [] : List LogEntry) = log at hlog ⊢
  obtain ⟨clock, stats, hreport⟩ := P2PService.exists_sendQueueStatus json s.service sends
  generalize s.service.sendQueueStatus json sends = result at hreport ⊢
  obtain ⟨service, failure⟩ := result
  cases hreport
  cases failure with
  | none =>
      refine ⟨hs.of_processor hstarted hs.wellFormed nofun rfl rfl rfl, rfl, fun habove => ?_⟩
      exact List.mem_append_left _ (hlog habove)
  | some e =>
      obtain ⟨⟨hqueue, hworker, hmain, hended⟩, hkept⟩ := processorFails_spec
        { s with service := { s.service with clock := clock, stats := stats } } e log
      refine ⟨hs.of_processor hstarted ?_ ?_ hmain hworker ?_, hqueue, fun habove =>
        hkept _ (hlog habove)⟩
      · rw [hqueue]
        exact hs.wellFormed
      · rw [hended]
        nofun
      · rw [hqueue]
        rfl

theorem finish_spec (hs : s.Sound) {task : TaskRecord} {waitSeconds : PyFloat}
    (htask : s.processor = .processing task waitSeconds) (json : Json) (around : Processing) :
    (s.finish json task waitSeconds around).1.Sound ∧
      (s.finish json task waitSeconds around).1.queue.stored = s.queue.stored := by
  have hstarted : s.processor ≠ .notStarted := by
    rw [htask]
    nofun
  -- a failure leaves either the queue as it is or the task marked done
  have hfails : ∀ (service : P2PService) (e : PyError) (log : List LogEntry),
      service.queue.WellFormed → service.queue.capacity = s.queue.capacity →
      service.workerId = s.service.workerId → service.queue.stored = s.queue.stored →
      (processorFails { s with service := service } e log).1.Sound ∧
        (processorFails { s with service := service } e log).1.queue.stored =
          s.queue.stored := by
    intro service e log hwf hcapacity hworker hstored
    obtain ⟨⟨hqueue, hworker', hmain, hended⟩, _⟩ :=
      processorFails_spec { s with service := service } e log
    refine ⟨hs.of_processor hstarted ?_ ?_ hmain (hworker'.trans hworker) ?_, ?_⟩
    · rw [hqueue]
      exact hwf
    · rw [hended]
      nofun
    · rw [hqueue]
      exact hcapacity
    · rw [hqueue]
      exact hstored
  unfold finish
  cases s.service.clock.advance around.seconds with
  | error e => exact ⟨hs.of_processor hstarted hs.wellFormed nofun rfl rfl rfl, rfl⟩
  | ok clock =>
      dsimp only
      have hsend : ∃ clock', (if around.succeeded then
            sendResultSuccess json { s.service with clock := clock } task waitSeconds
              around.resultId around.sends.response
          else
            sendResultFail json { s.service with clock := clock } task "20% rule" waitSeconds
              around.resultId around.sends.response).1 = { s.service with clock := clock' } := by
        split_ifs
        · exact P2PService.exists_send _ _ _ _ _ _
        · exact P2PService.exists_send _ _ _ _ _ _
      obtain ⟨clock', hsend⟩ := hsend
      generalize (if around.succeeded then
            sendResultSuccess json { s.service with clock := clock } task waitSeconds
              around.resultId around.sends.response
          else
            sendResultFail json { s.service with clock := clock } task "20% rule" waitSeconds
              around.resultId around.sends.response) = result at hsend ⊢
      obtain ⟨sent, failure⟩ := result
      cases hsend
      cases failure with
      | some e => exact hfails _ e [] hs.wellFormed rfl rfl rfl
      | none =>
          obtain ⟨hwf, _, _, _, hfree, hcapacity⟩ :=
            ReadyQueue.markProcessingDone_spec hs.wellFormed
          dsimp only
          generalize (if around.succeeded then
              (s.service.stats.recordTaskSuccess s.service.workerId waitSeconds
                (some ("success:" ++ task.taskId))).2
            else
              (s.service.stats.recordTaskFail s.service.workerId waitSeconds
                (some ("fail:" ++ task.taskId ++ ":" ++ toString task.attempt))).2) = stats
          obtain ⟨clock'', stats', hreport⟩ := P2PService.exists_sendQueueStatus json
            { s.service with
              queue := s.service.queue.markProcessingDone.2
              clock := clock'
              stats := stats } around.sends
          generalize P2PService.sendQueueStatus json
            { s.service with
              queue := s.service.queue.markProcessingDone.2
              clock := clock'
              stats := stats } around.sends = result at hreport ⊢
          obtain ⟨service, failure⟩ := result
          cases hreport
          cases failure with
          | some e => exact hfails _ e _ hwf hcapacity rfl rfl
          | none => exact ⟨hs.of_processor hstarted hwf (fun _ => hfree) rfl rfl hcapacity, rfl⟩

theorem Sound.of_main (hs : s.Sound) (hqueue : s'.queue = s.queue)
    (hworker : s'.service.workerId = s.service.workerId) (hmain : s'.main ≠ .connecting)
    (hreceiver : s'.receiver = s.receiver) (hprocessor : s'.processor = s.processor) :
    s'.Sound where
  wellFormed := by
    rw [hqueue]
    exact hs.wellFormed
  free := by
    rw [hprocessor, hqueue]
    exact hs.free
  connecting h := absurd h hmain
  registered := by
    rw [hreceiver, hprocessor, hworker, hqueue]
    exact hs.registered

theorem connectAndRegister_spec (hs : s.Sound) (hconnecting : s.main = .connecting)
    (b : Builtins) (json : Json) (requestId : RequestId) (exchange : Exchange) :
    (s.connectAndRegister b json requestId exchange).1.Sound ∧
      (s.connectAndRegister b json requestId exchange).1.queue = s.queue := by
  have hended : ∀ service : P2PService, service.queue = s.queue →
      service.workerId = s.service.workerId →
      ({ stop { s with service := service } with main := .ended } : WorkerRuntime).Sound ∧
        ({ stop { s with service := service } with main := .ended } : WorkerRuntime).queue =
          s.queue :=
    fun service hqueue hworker => ⟨hs.of_main hqueue hworker nofun rfl rfl, hqueue⟩
  have hsame := hended s.service rfl rfl
  unfold connectAndRegister
  dsimp only
  by_cases hrefused : exchange.refused = true
  · rw [if_pos hrefused]
    exact hsame
  rw [if_neg hrefused]
  cases hpost : RegisterPayload.postInit
      { workerId := s.service.workerId
        p2pEndpoint := s.endpoint
        queueCapacity := s.queue.capacity } with
  | error e => exact hsame
  | ok registration =>
      have hregistered : s.service.workerId ≠ "" ∧
          (s.queue.capacity : ℤ) = DEFAULT_QUEUE_CAPACITY := by
        unfold RegisterPayload.postInit at hpost
        split_ifs at hpost with hworker hcapacity
        exact ⟨hworker, not_not.1 hcapacity⟩
      dsimp only
      obtain ⟨clock, hsend⟩ := P2PService.exists_send json s.service .REGISTER requestId
        registration.toDict exchange.failure
      generalize s.service.send json .REGISTER requestId registration.toDict exchange.failure =
        result at hsend ⊢
      obtain ⟨service, failure⟩ := result
      cases hsend
      cases failure with
      | some e => exact hended _ rfl rfl
      | none =>
          dsimp only
          cases exchange.answer.receive b json with
          | error e => exact hended _ rfl rfl
          | ok response =>
              dsimp only
              cases clock.observe response.logicalClock with
              | error e => exact hended _ rfl rfl
              | ok clock' =>
                  dsimp only
                  split_ifs
                  · exact hended _ rfl rfl
                  · exact ⟨hs.of_main rfl rfl nofun rfl rfl, rfl⟩
                  · refine ⟨⟨hs.wellFormed, fun _ => ?_, nofun, fun _ => hregistered⟩, rfl⟩
                    exact hs.free (.inl (hs.connecting hconnecting).2)

theorem proceed_spec (hs : s.Sound) {requestId : RequestId} {exchange : Exchange}
    {result : WorkerRuntime × List LogEntry}
    (h : s.proceed b json requestId exchange = some result) :
    result.1.Sound ∧ result.1.queue = s.queue ∧
      (s.processor ≠ .notStarted → result.1.processor = s.processor) := by
  unfold proceed at h
  cases hmain : s.main with
  | connecting =>
      rw [hmain] at h
      cases h
      obtain ⟨hsound, hqueue⟩ := connectAndRegister_spec hs hmain b json requestId exchange
      exact ⟨hsound, hqueue, fun hstarted => absurd (hs.connecting hmain).2 hstarted⟩
  | joiningReceiver =>
      rw [hmain] at h
      dsimp only at h
      split_ifs at h
      cases h
      exact ⟨hs.of_main rfl rfl nofun rfl rfl, rfl, fun _ => rfl⟩
  | joiningProcessor =>
      rw [hmain] at h
      dsimp only at h
      by_cases hended : s.processor = .ended
      · rw [if_pos hended] at h
        cases h
        exact ⟨hs.of_main rfl rfl nofun rfl rfl, rfl, fun _ => rfl⟩
      · rw [if_neg hended] at h
        cases h
  | ended =>
      rw [hmain] at h
      cases h

/-! ### Runs -/

theorem step_eq_some_iff {event : Event} : s.step b json event = some s' ↔
    ∃ log, s.perform b json event = some (s', log) := by
  rw [step, Option.map_eq_some_iff]
  constructor
  · rintro ⟨⟨_, log⟩, hperform, rfl⟩
    exact ⟨log, hperform⟩
  · rintro ⟨log, hperform⟩
    exact ⟨_, hperform, rfl⟩

theorem emitted_of_perform {event : Event} (h : s.perform b json event = some (s', log)) :
    s.emitted b json event = log := by
  rw [emitted, h]

/-- What one step does, as far as the warnings are concerned. -/
structure Warns (b : Builtins) (json : Json) (s : WorkerRuntime) (event : Event)
    (s' : WorkerRuntime) (log : List LogEntry) : Prop where
  sound : s'.Sound
  others : ¬ event.OfProcessor → s.processor ≠ .notStarted →
    s'.processor = s.processor ∧ s'.queue.capacity = s.queue.capacity
  silent : s.Silent b json event → s'.queue.stored ≠ s.queue.stored ∧ s'.queue.Above ∧
    queueWarning ∉ log ∧ ¬ event.OfProcessor
  warns : ¬ s.Silent b json event → s'.queue.stored ≠ s.queue.stored → s'.queue.Above →
    queueWarning ∈ log ∨
      event.OfProcessor ∧ ∃ task, s'.processor = .dequeued task

theorem Mute.warns {event : Event} (h : s.Mute b json event (s', log)) (hs : s.Sound)
    (hevent : ¬ event.OfProcessor) : s.Warns b json event s' log where
  sound := h.follows.sound hs
  others _ _ := ⟨h.follows.processor, h.follows.queue.capacity⟩
  silent hyes := ⟨(h.silent.1 hyes).1, (h.silent.1 hyes).2, h.log, hevent⟩
  warns hno hne habove := absurd (h.silent.2 ⟨hne, habove⟩) hno

theorem warns_of_perform (hs : s.Sound) {event : Event}
    (h : s.perform b json event = some (s', log)) : s.Warns b json event s' log := by
  cases event with
  | main requestId exchange =>
      obtain ⟨hsound, hqueue, hprocessor⟩ := proceed_spec hs h
      dsimp only at hsound hqueue hprocessor
      refine ⟨hsound, fun _ hstarted => ⟨hprocessor hstarted, by rw [hqueue]⟩, False.elim, ?_⟩
      exact fun _ hne => absurd (congrArg ReadyQueue.stored hqueue) hne
  | receiver conn sends resultId =>
      rw [perform] at h
      split_ifs at h with hreceiving
      obtain ⟨hfollows, hwarned⟩ := receive_spec hs hreceiving b json conn sends resultId
      rw [Option.some.inj h] at hfollows hwarned
      exact ⟨hfollows.sound hs, fun _ _ => ⟨hfollows.processor, hfollows.queue.capacity⟩,
        False.elim, fun _ hne habove => .inl (hwarned hne habove)⟩
  | processor around =>
      have hstep : s'.Sound → (s'.queue.stored ≠ s.queue.stored →
          ∃ task, s'.processor = .dequeued task) → s.Warns b json (.processor around) s' log := by
        intro hsound hmoves
        exact ⟨hsound, fun hno => absurd trivial hno, False.elim,
          fun _ hne _ => .inr ⟨trivial, hmoves hne⟩⟩
      rw [perform] at h
      cases hprocessor : s.processor with
      | top =>
          rw [hprocessor] at h
          have henter : s.enterLoop.1.Sound := hs.of_processor (by rw [hprocessor]; nofun)
            hs.wellFormed (fun _ => hs.free (.inr (.inl hprocessor))) rfl rfl rfl
          have hqueue : s.enterLoop.1.queue = s.queue := rfl
          rw [Option.some.inj h] at henter hqueue
          exact hstep henter fun hne => absurd (congrArg ReadyQueue.stored hqueue) hne
      | waiting =>
          rw [hprocessor] at h
          obtain ⟨hsound, hmoves⟩ := dequeue_spec hs hprocessor
          rw [Option.some.inj h] at hsound hmoves
          exact hstep hsound hmoves
      | dequeued task =>
          rw [hprocessor] at h
          obtain ⟨hsound, hqueue, _⟩ := inspect_spec hs hprocessor json around.sends
          rw [Option.some.inj h] at hsound hqueue
          exact hstep hsound fun hne => absurd (congrArg ReadyQueue.stored hqueue) hne
      | processing task waitSeconds =>
          rw [hprocessor] at h
          obtain ⟨hsound, hstored⟩ := finish_spec hs hprocessor json around
          rw [Option.some.inj h] at hsound hstored
          exact hstep hsound fun hne => absurd hstored hne
      | notStarted =>
          rw [hprocessor] at h
          cases h
      | ended =>
          rw [hprocessor] at h
          cases h
  | server conn sends =>
      rw [perform] at h
      split_ifs at h with hserving
      have hmute := mute_serve hs b json conn sends
      rw [Option.some.inj h] at hmute
      exact hmute.warns hs id
  | monitor around => exact (mute_balance hs h).warns hs id
  | stop =>
      cases h
      have hquiet : s.Quiet (s.stop, []) := ⟨rfl, rfl, rfl, rfl, rfl, List.not_mem_nil⟩
      have hloud : ¬ s.Silent b json .stop := id
      exact (hquiet.mute hs hloud).warns hs id

/-- The processor warns when it looks at a queue that is still above 70%. -/
theorem nextWarns_of_dequeued (hs : s.Sound) {task : TaskRecord}
    (htask : s.processor = .dequeued task) (habove : s.queue.Above) (events : List Event) :
    NextWarns b json s events := by
  induction events generalizing s with
  | nil => trivial
  | cons event rest ih =>
      have hother : ¬ event.OfProcessor →
          ∀ s', s.step b json event = some s' → s'.queue.stored = s.queue.stored →
            NextWarns b json s' rest := by
        intro hevent s' hstep hstored
        obtain ⟨log, hperform⟩ := step_eq_some_iff.1 hstep
        have hwarns := warns_of_perform hs hperform
        obtain ⟨hprocessor, hcapacity⟩ := hwarns.others hevent (by rw [htask]; nofun)
        refine ih hwarns.sound (hprocessor.trans htask) ?_
        rw [ReadyQueue.Above, ← ReadyQueue.card_stored, hstored, hcapacity,
          ReadyQueue.card_stored]
        exact habove
      cases event with
      | processor around =>
          have hperform : s.perform b json (.processor around) =
              some (s.inspect json task around.sends) := by
            rw [perform, htask]
          change queueWarning ∈ s.emitted b json (.processor around)
          rw [emitted_of_perform hperform]
          exact (inspect_spec hs htask json around.sends).2.2 habove
      | main requestId exchange => exact hother id
      | receiver conn sends resultId => exact hother id
      | server conn sends => exact hother id
      | monitor around => exact hother id
      | stop => exact hother id

/-- A run from a state in order is reported exactly if none of its steps is silent. -/
theorem reported_iff_along (hs : s.Sound) {events : List Event}
    (hrun : Transition.run (step b json) s events = some s') :
    Reported b json s events ↔
      Transition.Along (step b json) (fun s event => ¬ s.Silent b json event) s events := by
  induction events generalizing s with
  | nil => exact Iff.rfl
  | cons event rest ih =>
      obtain ⟨next, hstep, hrest⟩ := Transition.run_cons_eq_some_iff.1 hrun
      obtain ⟨log, hperform⟩ := step_eq_some_iff.1 hstep
      have hwarns := warns_of_perform hs hperform
      have hlater := ih hwarns.sound hrest
      have hunique : ∀ t, s.step b json event = some t → t = next := by
        intro t ht
        rw [hstep] at ht
        exact (Option.some.inj ht).symm
      constructor
      · intro hreported
        refine ⟨fun hsilent => ?_, fun t ht => ?_⟩
        · obtain ⟨hne, habove, hlog, hevent⟩ := hwarns.silent hsilent
          rw [← emitted_of_perform hperform] at hlog
          obtain hwarned | ⟨hprocessor, _⟩ := (hreported next hstep).1 hne habove
          · exact hlog hwarned
          · exact hevent hprocessor
        · rw [hunique t ht]
          exact hlater.1 (hreported next hstep).2
      · rintro ⟨hloud, halong⟩ t ht
        rw [hunique t ht]
        refine ⟨fun hne habove => ?_, hlater.2 (halong next hstep)⟩
        rw [emitted_of_perform hperform]
        obtain hlog | ⟨hevent, task, htask⟩ := hwarns.warns hloud hne habove
        · exact .inl hlog
        · exact .inr ⟨hevent, nextWarns_of_dequeued hwarns.sound htask habove rest⟩

theorem warned_of_reported {before : List Event} {event : Event} {last : WorkerRuntime}
    (h : Reported b json s (before ++ [event]))
    (hrun : Transition.run (step b json) s before = some s')
    (hstep : s'.step b json event = some last) (hevent : ¬ event.OfProcessor)
    (hne : last.queue.stored ≠ s'.queue.stored) (habove : last.queue.Above) :
    queueWarning ∈ s'.emitted b json event := by
  induction before generalizing s with
  | nil =>
      cases hrun
      obtain hwarned | ⟨hprocessor, _⟩ := (h last hstep).1 hne habove
      · exact hwarned
      · exact absurd hprocessor hevent
  | cons first before ih =>
      obtain ⟨next, hnext, hrest⟩ := Transition.run_cons_eq_some_iff.1 hrun
      exact ih (h next hnext).2 hrest

theorem sound_init {q : ReadyQueue TaskRecord} (hqueue : q.WellFormed)
    (hfree : q.processingTaskId = none) (workerId : WorkerId) (endpoint : WorkerEndpoint)
    (peers : List WorkerId) : (init workerId endpoint peers q).Sound :=
  ⟨hqueue, fun _ => hfree, fun _ => ⟨rfl, rfl⟩, fun h => by simp [init] at h⟩

/-- **Warnings.** In a run of a worker, every operation by which a task enters or leaves the
queue and after which more than 70% of it is in use is warned about if and only if no batch
accepted from a peer and no removal after an `ACK` leaves the queue above 70%. -/
theorem reported_iff {q : ReadyQueue TaskRecord} {workerId : WorkerId}
    {endpoint : WorkerEndpoint} {peers : List WorkerId} {events : List Event}
    (hqueue : q.WellFormed) (hfree : q.processingTaskId = none)
    (hrun : Transition.run (step b json) (init workerId endpoint peers q) events = some s) :
    Reported b json (init workerId endpoint peers q) events ↔
      Transition.Along (step b json) (fun s event => ¬ s.Silent b json event)
        (init workerId endpoint peers q) events :=
  reported_iff_along (sound_init hqueue hfree workerId endpoint peers) hrun

end

/-! ### Two runs -/

mutual

/-- The JSON text of a value without strings to escape and with whole floats, in parts. -/
def textOf : Value → List String
  | .null => ["null"]
  | .bool x => [if x then "true" else "false"]
  | .int n => [toString n]
  | .float (.finite q) => [toString q.num, ".0"]
  | .float _ => ["NaN"]
  | .str s => ["\"", s, "\""]
  | .list xs => "[" :: textsOf xs
  | .dict entries => "\x7b" :: entryTextsOf entries

def textsOf : List Value → List String
  | [] => ["]"]
  | [v] => textOf v ++ ["]"]
  | v :: vs => textOf v ++ "," :: textsOf vs

def entryTextsOf : List (String × Value) → List String
  | [] => ["\x7d"]
  | [(key, v)] => "\"" :: key :: "\":" :: textOf v ++ ["\x7d"]
  | (key, v) :: entries => "\"" :: key :: "\":" :: textOf v ++ "," :: entryTextsOf entries

end

/-- What `json` does with the messages of a run, of which `incoming` are received. -/
def plainJson (incoming : List Message) : Json where
  dumps v := some (ascii (textOf v))
  loads text :=
    match incoming.find? fun message => ascii (textOf (.dict message.toDict)) = text with
    | some message => .ok (.dict message.toDict)
    | none => .error .invalid

/-- A connection on which the message arrives. -/
def delivering (message : Message) : Connection :=
  let text := ascii (textOf (.dict message.toDict))
  { sock := { incoming := Framing.packLength text.length ++ text } }

/-- Three tasks from `worker2`. -/
def batchOf (requestId : RequestId) (ids : List TaskId) : Message where
  messageType := .P2P_TRANSFER
  senderId := "worker2"
  requestId := requestId
  payload := [("tasks", .list (ids.map fun t =>
    .dict (TaskRecord.toDict { taskId := t, key := "0000", value := 1 })))]

def threeBatches : List Message :=
  [batchOf "r1" ["a", "b", "c"], batchOf "r2" ["d", "e", "f"], batchOf "r3" ["g", "h", "i"]]

/-- The messages arrive at the server one after the other. -/
def servedAll (messages : List Message) : List Event :=
  messages.map fun message => .server (delivering message) { reportId := "r4" }

def newWorker : WorkerRuntime :=
  init "worker1" { host := "127.0.0.1", port := 6001 } ["worker2", "worker3", "worker4"]
    { capacity := 10 }

/-- The third batch leaves nine tasks in the queue, and is not warned about. -/
theorem not_reported_threeBatches :
    ¬ Reported Builtins.plain (plainJson threeBatches) newWorker (servedAll threeBatches) := by
  intro h
  let b : Builtins := Builtins.plain
  let json := plainJson threeBatches
  let third : Event := .server (delivering (batchOf "r3" ["g", "h", "i"])) { reportId := "r4" }
  have htest : (Transition.run (step b json) newWorker (servedAll threeBatches).dropLast).any
      (fun s => (s.step b json third).any fun last =>
        decide (last.queue.stored ≠ s.queue.stored ∧ last.queue.Above ∧
          queueWarning ∉ s.emitted b json third)) = true := by
    decide +kernel
  obtain ⟨s, hrun, htest⟩ := (Option.any_eq_true _ _).1 htest
  obtain ⟨last, hstep, htest⟩ := (Option.any_eq_true _ _).1 htest
  obtain ⟨hne, habove, hlog⟩ := of_decide_eq_true htest
  exact hlog (warned_of_reported h hrun hstep id hne habove)

def registered : Message where
  messageType := .ACK
  senderId := "master"
  requestId := "r1"
  payload := [("acknowledged_type", .str "REGISTER"), ("worker_id", .str "worker1"),
    ("registered_workers", .int 1)]

def taskOf (t : TaskId) : Message where
  messageType := .TASK
  senderId := "master"
  requestId := t
  payload := [("task", .dict (TaskRecord.toDict { taskId := t, key := "0000", value := 1 })),
    ("priority", .bool false)]

def eightTasks : List Message := ["a", "b", "c", "d", "e", "f", "g", "h"].map taskOf

/-- The worker registers, and the tasks arrive. -/
def receivedAll (messages : List Message) : List Event :=
  .main "r1" { answer := delivering registered } ::
    messages.map fun message => .receiver (delivering message) { reportId := "r2" } "r3"

/-- The eighth task is warned about. -/
theorem reported_iff_eightTasks :
    ∃ s, Transition.run (step Builtins.plain
        (plainJson (registered :: eightTasks))) newWorker (receivedAll eightTasks).dropLast =
          some s ∧
      queueWarning ∈ s.emitted Builtins.plain (plainJson (registered :: eightTasks))
        (.receiver (delivering (taskOf "h")) { reportId := "r2" } "r3") := by
  let b : Builtins := Builtins.plain
  let json := plainJson (registered :: eightTasks)
  let eighth : Event := .receiver (delivering (taskOf "h")) { reportId := "r2" } "r3"
  have htest : (Transition.run (step b json) newWorker (receivedAll eightTasks).dropLast).any
      (fun s => (s.step b json eighth).any fun last =>
        decide (last.queue.stored ≠ s.queue.stored ∧ last.queue.Above)) = true := by
    decide +kernel
  obtain ⟨s, hrun, htest⟩ := (Option.any_eq_true _ _).1 htest
  obtain ⟨last, hstep, htest⟩ := (Option.any_eq_true _ _).1 htest
  obtain ⟨hne, habove⟩ := of_decide_eq_true htest
  have hlast : Transition.run (step b json) s [eighth] = some last :=
    Transition.run_cons_eq_some_iff.2 ⟨last, hstep, rfl⟩
  have hall : Transition.run (step b json) newWorker (receivedAll eightTasks) = some last :=
    Transition.run_append_eq_some_iff.2 ⟨s, hrun, hlast⟩
  have hqueue : ReadyQueue.init 10 = .ok newWorker.queue := rfl
  have hloud : ∀ (s : WorkerRuntime), ∀ event ∈ receivedAll eightTasks,
      ¬ s.Silent b json event := by
    intro s event hevent
    obtain rfl | hevent := List.mem_cons.1 hevent
    · exact id
    · obtain ⟨message, _, rfl⟩ := List.mem_map.1 hevent
      exact id
  have hreported := (reported_iff (ReadyQueue.wellFormed_init hqueue).1 rfl hall).2
    (Transition.along_of_forall _ _ hloud)
  exact ⟨s, hrun, warned_of_reported hreported hrun hstep id hne habove⟩

end WorkerRuntime

end KVStore
