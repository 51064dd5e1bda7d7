import KVStore.Common.Stats
import KVStore.Master.Store
import Mathlib.Algebra.Group.Prod
import Mathlib.Algebra.Group.Int.Defs

/-!
# The Master and its statistics

A receiver thread handles a result in two steps: the section under the condition lock, and
the call of the statistics collector, which has a lock of its own. The distributor checks
under the condition lock whether the store is complete, assigns, sends, and returns; then
the statistics are put out. `Accounts` keeps, for each worker, the call that its receiver
thread is about to make.

Every result that is acted upon is on exactly one account: a pending call or a counter.
-/

namespace KVStore

open Python

/-- A call of the collector by a receiver thread. -/
inductive StatsCall
  | success (w : WorkerId) (waitSeconds : PyFloat) (eventId : String)
  | fail (w : WorkerId) (waitSeconds : PyFloat) (eventId : String)
  | overflow (w : WorkerId)
  | snapshot (w : WorkerId) (values : StatsCollector.P2pSnapshot)
deriving DecidableEq

/-- Throughput, successes, failures and overflows. -/
abbrev Tally := ℤ × ℤ × ℤ × ℤ

/-- What a pending call will add to the counters. -/
def StatsCall.tally : StatsCall → Tally
  | .success _ _ _ => (1, 1, 0, 0)
  | .fail _ _ _ => (0, 0, 1, 0)
  | .overflow _ => (0, 0, 0, 1)
  | .snapshot _ _ => 0

/-- How many stored results a pending call will record. -/
def StatsCall.successes : StatsCall → ℕ
  | .success _ _ _ => 1
  | _ => 0

def StatsCall.eventId : StatsCall → Option String
  | .success _ _ eventId => some eventId
  | .fail _ _ eventId => some eventId
  | _ => none

/-- Where the distributor thread stands. -/
inductive Distributor
  | choosing
  | sending (assignment : Master.Assignment)
  | recording (t : TaskId)
  | returned
  | reported (summary : Summary)
  | stopped
deriving DecidableEq

def Distributor.summary : Distributor → Option Summary
  | .reported summary => some summary
  | _ => none

/-- The Master with its collector, the pending calls and the distributor. `overflows`, a
history variable, counts the failures for a full queue that were acted upon. -/
structure Accounts where
  master : Master
  stats : StatsCollector := {}
  calls : Dict WorkerId StatsCall := ∅
  distributor : Distributor := .choosing
  overflows : ℕ := 0

namespace Accounts

inductive Action
  | result (w : WorkerId) (succeeded : Bool) (payload : ResultPayload) (requestId : RequestId)
      (waitSeconds : PyFloat)
  | queueStatus (w : WorkerId) (payload : WorkerStatus)
      (p2p : Option StatsCollector.P2pSnapshot)
  | record (w : WorkerId)
  | disconnect (w : WorkerId) (order : List TaskId)
  | distribute (now : ℚ)
  | sent
  | sendFail (order : List TaskId)
  | recordReallocation
  | emitStatistics (now : ℚ)

def Action.requestId : Action → Option RequestId
  | .result _ _ _ requestId _ => some requestId
  | _ => none

def resultEventId (requestId : RequestId) : String := "result:" ++ requestId

def reallocationEventId (t : TaskId) (attempt : ℤ) : String :=
  "reallocation:" ++ t ++ ":" ++ toString attempt

/-- The call that follows the locked section of `_handle_success` or `_handle_failure`. -/
def resultCall (m : Master) (w : WorkerId) (succeeded : Bool) (payload : ResultPayload)
    (requestId : RequestId) (waitSeconds : PyFloat) : Option StatsCall :=
  let waitSeconds := PyFloat.max (.finite 0) waitSeconds
  match m.acceptedTask payload.taskId (payload.assignmentWorkerId.getD w) with
  | none => none
  | some _ =>
      if succeeded then
        some (.success w waitSeconds (resultEventId requestId))
      else if payload.reason.getD "processing failure" = "queue overflow" then
        some (.overflow w)
      else
        some (.fail w waitSeconds (resultEventId requestId))

def perform (stats : StatsCollector) : StatsCall → StatsCollector
  | .success w waitSeconds eventId => (stats.recordTaskSuccess w waitSeconds (some eventId)).2
  | .fail w waitSeconds eventId => (stats.recordTaskFail w waitSeconds (some eventId)).2
  | .overflow w => stats.recordQueueOverflow w
  | .snapshot w values =>
      match stats.updateP2pSnapshot w values with
      | .ok stats => stats
      | .error _ => stats

/-- The locked section for a result; its call is pending afterwards. -/
def result (s : Accounts) (w : WorkerId) (succeeded : Bool) (payload : ResultPayload)
    (requestId : RequestId) (waitSeconds : PyFloat) : Option Accounts :=
  if s.calls.lookup w = none then
    (s.master.step (if succeeded then .handleSuccess w payload
      else .handleFailure w payload)).map fun master =>
        match resultCall s.master w succeeded payload requestId waitSeconds with
        | none => { s with master := master }
        | some call =>
            { s with
              master := master
              calls := s.calls.insert w call
              overflows := if call = .overflow w then s.overflows + 1 else s.overflows }
  else
    none

def queueStatus (s : Accounts) (w : WorkerId) (payload : WorkerStatus)
    (p2p : Option StatsCollector.P2pSnapshot) : Option Accounts :=
  if s.calls.lookup w = none ∧ w ∈ s.master.workers then
    match s.master.handleQueueStatus w payload, p2p with
    | .error _, _ => some s
    | .ok master, none => some { s with master := master }
    | .ok master, some values =>
        some { s with master := master, calls := s.calls.insert w (.snapshot w values) }
  else
    none

def record (s : Accounts) (w : WorkerId) : Option Accounts :=
  (s.calls.lookup w).map fun call =>
    { s with stats := perform s.stats call, calls := s.calls.erase w }

/-- The receiver thread of `w` gives up. -/
def disconnect (s : Accounts) (w : WorkerId) (order : List TaskId) : Option Accounts :=
  if s.calls.lookup w = none then
    (s.master.step (.disconnectWorker w order)).map fun master => { s with master := master }
  else
    none

/-- The locked section of a round of `_distribute_tasks`. -/
def distribute (s : Accounts) (now : ℚ) : Option Accounts :=
  if s.distributor = .choosing ∧ 0 ≤ now then
    if s.master.storeComplete then
      some { s with distributor := .returned }
    else if ∃ worker ∈ s.master.workers.values, worker.connected = true then
      (s.master.nextAssignmentLocked now).map fun next =>
        match next with
        | (none, master) => { s with master := master }
        | (some assignment, master) =>
            { s with master := master, distributor := .sending assignment }
    else
      some { s with distributor := .stopped }
  else
    none

def sent (s : Accounts) : Option Accounts :=
  match s.distributor with
  | .sending assignment =>
      some { s with
        distributor := if assignment.priority = true then .recording assignment.task.taskId
          else .choosing }
  | _ => none

def sendFail (s : Accounts) (order : List TaskId) : Option Accounts :=
  match s.distributor with
  | .sending assignment =>
      (s.master.step (.disconnectWorker assignment.worker order)).map fun master =>
        { s with master := master, distributor := .choosing }
  | _ => none

/-- The event id is made from the record of the task as it is by then. -/
def recordReallocation (s : Accounts) : Option Accounts :=
  match s.distributor with
  | .recording t =>
      (s.master.tasks.lookup t).map fun task =>
        { s with
          stats := (s.stats.recordReallocation
            (some (reallocationEventId task.taskId task.attempt))).2
          distributor := .choosing }
  | _ => none

/-- `_emit_statistics`, at the clock reading `now`. -/
def emitStatistics (s : Accounts) (now : ℚ) : Option Accounts :=
  if s.distributor = .returned then
    some { s with distributor := .reported (s.stats.summary (.finite now)) }
  else
    none

def step (s : Accounts) : Action → Option Accounts
  | .result w succeeded payload requestId waitSeconds =>
      s.result w succeeded payload requestId waitSeconds
  | .queueStatus w payload p2p => s.queueStatus w payload p2p
  | .record w => s.record w
  | .disconnect w order => s.disconnect w order
  | .distribute now => s.distribute now
  | .sent => s.sent
  | .sendFail order => s.sendFail order
  | .recordReallocation => s.recordReallocation
  | .emitStatistics now => s.emitStatistics now

def start (count : ℕ) (rng : RandomSource) (ws : List WorkerId) : Except String Accounts :=
  (Master.start count rng ws).map fun master => { master := master }

/-! ### The accounts -/

/-- What a worker's counters say. -/
def tally (stats : WorkerStats) : Tally :=
  (stats.throughput, stats.successCount, stats.failCount, stats.overflowCount)

/-- What the ledger says. -/
def ledger (s : Accounts) : Tally :=
  (s.master.store.size, s.master.store.size, s.master.tasks.total Task.attempt, s.overflows)

/-- Every worker's processed results are its successes and failures. -/
def Processed (stats : StatsCollector) : Prop :=
  ∀ w entry, stats.workers.lookup w = some entry →
    entry.processedCount = entry.successCount + entry.failCount

/-- The pending call and the event ids, when results with the request ids `used` have
arrived so far. -/
structure Identified (used : List RequestId) (s : Accounts) : Prop where
  seen : ∀ eventId ∈ s.stats.seenEventIds, (∃ requestId ∈ used,
    eventId = resultEventId requestId) ∨ ∃ t attempt, eventId = reallocationEventId t attempt
  pending : ∀ w call eventId, s.calls.lookup w = some call → call.eventId = some eventId →
    eventId ∉ s.stats.seenEventIds ∧ ∃ requestId ∈ used, eventId = resultEventId requestId
  distinct : ∀ v w callv callw eventId, s.calls.lookup v = some callv →
    s.calls.lookup w = some callw → callv.eventId = some eventId →
    callw.eventId = some eventId → v = w

structure Balanced (tasks : List Task) (used : List RequestId) (s : Accounts) : Prop where
  consistent : Master.Consistent s.master
  describes : Master.Describes tasks s.master
  storeExact : Master.StoreExact tasks s.master
  identified : s.Identified used
  balance : s.stats.workers.total tally + s.calls.total StatsCall.tally = s.ledger
  processed : Processed s.stats
  complete : s.distributor = .returned → s.master.storeComplete

/-! ### What the steps of the Master do to the ledger -/

section

variable {m m' : Master} {b : Master.Action} {tasks : List Task}

theorem size_finished (hstore : Master.StoreExact tasks m) (hdescribes : Master.Describes tasks m)
    (hm : Master.Consistent m) {t : TaskId} {w : WorkerId} {task : Task}
    (hplace : m.place t = some (.assigned w)) (htask : m.tasks.lookup t = some task)
    (hfinished : Master.Finished m t task m') : m'.store.size = m.store.size + 1 := by
  have hnew : task.key ∉ m.store := by
    intro hmem
    obtain ⟨v, hv⟩ := Option.isSome_iff_exists.1 (AList.lookup_isSome.2 hmem)
    obtain ⟨other, hother, hdone, hkey, _⟩ := (hstore task.key v).1 hv
    obtain ⟨own, hown, hid, hownkey, _⟩ := (hdescribes.contents t task.key task.value).1
      (by rw [Master.contents, htask, Option.map_some])
    have heq : other = own := Master.eq_of_nodup_map hdescribes.nodup_key hother hown
      (hkey.trans hownkey.symm)
    rw [heq, hid, hm.state_done_iff, hplace] at hdone
    cases hdone
  rw [hfinished.store, Dict.size, Dict.keys_insert_of_notMem hnew, List.length_cons, Dict.size]

theorem attempts_step (hm : Master.Consistent m) (hstep : m.step b = some m')
    (hb : ∀ w payload, b ≠ .handleFailure w payload) :
    m'.tasks.total Task.attempt = m.tasks.total Task.attempt := by
  obtain ⟨_, heff⟩ := Master.step_effect hm hstep
  cases heff with
  | same _ _ hsame => rw [hsame.tasks]
  | assigned now t p task c _ _ htask _ hassigned =>
      have hid : (Master.sentTo c.workerId now task).taskId = t := hm.task_id t task htask
      rw [hassigned.tasks, hid]
      exact Dict.total_insert_same _ htask rfl
  | finished w payload task _ _ _ hfinished => rw [hfinished.tasks]
  | failed w payload task _ _ _ _ _ => exact absurd rfl (hb w payload)
  | disconnected w order _ _ hdisconnected =>
      refine Dict.total_congr _ fun u => ?_
      rw [hdisconnected.tasks]
      split_ifs
      · rw [Option.map_map]
        rfl
      · rfl

theorem tasks_handleFailure {w : WorkerId} {payload : ResultPayload} {task : Task}
    (h : m.acceptedTask payload.taskId (payload.assignmentWorkerId.getD w) = some task) :
    (m.handleFailure w payload).tasks = m.tasks.insert payload.taskId
      { task with
        attempt := if payload.reason.getD "processing failure" = "queue overflow"
          then task.attempt else task.attempt + 1
        previousWorkerId := some w } := by
  rw [Master.handleFailure, h]
  simp only [Master.queueRetryLocked]
  split <;> rfl

theorem attempts_handleFailure (hm : Master.Consistent m) {w : WorkerId}
    {payload : ResultPayload} {task : Task}
    (h : m.acceptedTask payload.taskId (payload.assignmentWorkerId.getD w) = some task) :
    (m.handleFailure w payload).tasks.total Task.attempt = m.tasks.total Task.attempt +
      if payload.reason.getD "processing failure" = "queue overflow" then 0 else 1 := by
  obtain ⟨htask, _⟩ := (Master.acceptedTask_eq_some_iff hm).1 h
  rw [tasks_handleFailure h, Dict.total_insert, Dict.total_of_lookup_eq_some _ htask]
  split_ifs
  · rw [add_zero]
  · ring

theorem store_step (hm : Master.Consistent m) (hstep : m.step b = some m')
    (hb : ∀ w payload, b ≠ .handleSuccess w payload) : m'.store = m.store := by
  obtain ⟨_, heff⟩ := Master.step_effect hm hstep
  cases heff with
  | same _ _ hsame => exact hsame.store
  | assigned _ _ _ _ _ _ _ _ _ hassigned => exact hassigned.store
  | finished w payload _ _ _ _ _ => exact absurd rfl (hb w payload)
  | failed _ _ _ _ _ _ hrequeued _ => exact hrequeued.store
  | disconnected _ _ _ _ hdisconnected => exact hdisconnected.store

theorem storeComplete_step (hm : Master.Consistent m) (hdescribes : Master.Describes tasks m)
    (hstore : Master.StoreExact tasks m) (hstep : m.step b = some m') (h : m.storeComplete) :
    m'.storeComplete := by
  obtain ⟨hm', heff⟩ := Master.step_effect hm hstep
  have hstore' := Master.storeExact_step hm hdescribes hstore hm' heff
  rw [hstore'.storeComplete_iff (hdescribes.step heff)]
  intro task htask
  have hdone := (hstore.storeComplete_iff hdescribes).1 h task htask
  rw [hm'.state_done_iff]
  rw [hm.state_done_iff] at hdone
  obtain ⟨_, hsame⟩ | ⟨t, _, _, _, _, hplace⟩ := heff.stored hm
  · exact (hsame _).2 hdone
  · exact (hplace _).2 (.inr hdone)

theorem handled_of_refused {w : WorkerId} {payload : ResultPayload}
    (h : m.acceptedTask payload.taskId (payload.assignmentWorkerId.getD w) = none) :
    m.handleSuccess w payload = m ∧ m.handleFailure w payload = m := by
  rw [Master.handleSuccess, Master.handleFailure, h]
  exact ⟨rfl, rfl⟩

end

/-! ### What a call does to the counters -/

section

variable {stats : StatsCollector} {call : StatsCall}

theorem resultEventId_injective {r r' : RequestId} (h : resultEventId r = resultEventId r') :
    r = r' := by
  have hlist := congrArg String.toList h
  rw [resultEventId, resultEventId, String.toList_append, String.toList_append] at hlist
  exact String.toList_injective (List.append_cancel_left hlist)

theorem resultEventId_ne (r : RequestId) (t : TaskId) (attempt : ℤ) :
    resultEventId r ≠ reallocationEventId t attempt := by
  intro h
  have hlist := congrArg String.toList h
  rw [resultEventId, reallocationEventId, String.toList_append, String.toList_append,
    String.toList_append, String.toList_append, List.append_assoc, List.append_assoc] at hlist
  -- the third letters differ
  have hletter := congrArg (fun letters => letters[2]?) hlist
  rw [List.getElem?_append_left (by decide), List.getElem?_append_left (by decide)] at hletter
  revert hletter
  decide

theorem isDuplicateLocked_of_notMem {eventId : String} (h : eventId ∉ stats.seenEventIds) :
    stats.isDuplicateLocked (some eventId) =
      (false, { stats with seenEventIds := insert eventId stats.seenEventIds }) := by
  rw [StatsCollector.isDuplicateLocked, if_neg h]

theorem modifyWorker_spec (stats : StatsCollector) (w : WorkerId) (δ : Tally)
    {f : WorkerStats → WorkerStats} (htally : ∀ x, tally (f x) = tally x + δ)
    (hf : ∀ x, x.processedCount = x.successCount + x.failCount →
      (f x).processedCount = (f x).successCount + (f x).failCount) :
    (stats.modifyWorker w f).workers.total tally = stats.workers.total tally + δ ∧
      (Processed stats → Processed (stats.modifyWorker w f)) := by
  refine ⟨StatsCollector.total_modifyWorker (fun _ => rfl) (htally _), fun h v entry hentry => ?_⟩
  rw [StatsCollector.lookup_modifyWorker] at hentry
  split_ifs at hentry
  · cases hentry
    apply hf
    rw [StatsCollector.statsOf]
    cases hold : stats.workers.lookup w with
    | none => rfl
    | some old => exact h w old hold
  · exact h v entry hentry

/-- A call whose event is new changes one entry and notes the event. -/
theorem perform_spec (stats : StatsCollector) (call : StatsCall)
    (hnew : ∀ eventId, call.eventId = some eventId → eventId ∉ stats.seenEventIds) :
    (perform stats call).workers.total tally = stats.workers.total tally + call.tally ∧
      (∀ eventId, eventId ∈ (perform stats call).seenEventIds ↔
        eventId ∈ stats.seenEventIds ∨ call.eventId = some eventId) ∧
      (Processed stats → Processed (perform stats call)) := by
  cases call with
  | success w waitSeconds eventId =>
      have hduplicate := isDuplicateLocked_of_notMem (hnew eventId rfl)
      simp only [perform, StatsCollector.recordTaskSuccess, hduplicate]
      obtain ⟨htotal, hprocessed⟩ := modifyWorker_spec
        { stats with seenEventIds := insert eventId stats.seenEventIds } w (1, 1, 0, 0)
        (f := fun x => { x with
          throughput := x.throughput + 1
          successCount := x.successCount + 1
          processedCount := x.processedCount + 1 }.addWait waitSeconds)
        (fun x => by simp [tally, WorkerStats.addWait])
        (fun x hx => by
          simp only [WorkerStats.addWait, hx]
          omega)
      refine ⟨htotal, fun other => ?_, hprocessed⟩
      rw [StatsCollector.seenEventIds_modifyWorker, Finset.mem_insert, or_comm]
      exact or_congr_right ⟨fun h => congrArg some h.symm, fun h => (Option.some.inj h).symm⟩
  | fail w waitSeconds eventId =>
      have hduplicate := isDuplicateLocked_of_notMem (hnew eventId rfl)
      simp only [perform, StatsCollector.recordTaskFail, hduplicate]
      obtain ⟨htotal, hprocessed⟩ := modifyWorker_spec
        { stats with seenEventIds := insert eventId stats.seenEventIds } w (0, 0, 1, 0)
        (f := fun x => { x with
          failCount := x.failCount + 1
          processedCount := x.processedCount + 1 }.addWait waitSeconds)
        (fun x => by simp [tally, WorkerStats.addWait])
        (fun x hx => by
          simp only [WorkerStats.addWait, hx]
          omega)
      refine ⟨htotal, fun other => ?_, hprocessed⟩
      rw [StatsCollector.seenEventIds_modifyWorker, Finset.mem_insert, or_comm]
      exact or_congr_right ⟨fun h => congrArg some h.symm, fun h => (Option.some.inj h).symm⟩
  | overflow w =>
      obtain ⟨htotal, hprocessed⟩ := modifyWorker_spec stats w (0, 0, 0, 1)
        (f := fun x => { x with overflowCount := x.overflowCount + 1 })
        (fun x => by simp [tally]) (fun x hx => hx)
      refine ⟨htotal, fun other => ?_, hprocessed⟩
      rw [perform, StatsCollector.recordQueueOverflow, StatsCollector.seenEventIds_modifyWorker]
      simp [StatsCall.eventId]
  | snapshot w values =>
      simp only [perform, StatsCollector.updateP2pSnapshot]
      split_ifs with hnegative
      · exact ⟨(add_zero _).symm, fun other => by simp [StatsCall.eventId], id⟩
      · obtain ⟨htotal, hprocessed⟩ := modifyWorker_spec stats w 0
          (f := fun x => { x with
            p2pTransfersSent := max x.p2pTransfersSent values.sentEvents
            p2pTasksSent := max x.p2pTasksSent values.sentTasks
            p2pTransfersReceived := max x.p2pTransfersReceived values.receivedEvents
            p2pTasksReceived := max x.p2pTasksReceived values.receivedTasks })
          (fun x => (add_zero (tally x)).symm) (fun x hx => hx)
        refine ⟨htotal, fun other => ?_, hprocessed⟩
        simp [StatsCall.eventId, StatsCollector.seenEventIds_modifyWorker]

end

section

variable {s s' : Accounts} {a : Action} {tasks : List Task} {used : List RequestId}
variable {w : WorkerId} {call : StatsCall}

theorem Identified.of_same {used' : List RequestId} (h : s.Identified used)
    (hstats : s'.stats = s.stats) (hcalls : s'.calls = s.calls)
    (hused : ∀ r ∈ used, r ∈ used') : s'.Identified used' := by
  refine ⟨fun eventId hseen => ?_, fun v call eventId hcall hid => ?_,
    fun v w callv callw eventId hv hw => ?_⟩
  · rw [hstats] at hseen
    rcases h.seen eventId hseen with ⟨r, hr, hid⟩ | hother
    · exact .inl ⟨r, hused r hr, hid⟩
    · exact .inr hother
  · rw [hcalls] at hcall
    rw [hstats]
    obtain ⟨hnew, r, hr, heq⟩ := h.pending v call eventId hcall hid
    exact ⟨hnew, r, hused r hr, heq⟩
  · rw [hcalls] at hv hw
    exact h.distinct v w callv callw eventId hv hw

theorem Identified.insert {r : RequestId} (h : s.Identified used) (hfresh : r ∉ used)
    (hid : ∀ eventId, call.eventId = some eventId → eventId = resultEventId r)
    (hstats : s'.stats = s.stats) (hcalls : s'.calls = s.calls.insert w call) :
    s'.Identified (used ++ [r]) := by
  -- the new event id is neither seen nor pending
  have hunseen : resultEventId r ∉ s.stats.seenEventIds := by
    intro hseen
    rcases h.seen _ hseen with ⟨r', hr', heq⟩ | ⟨t, attempt, heq⟩
    · exact hfresh (resultEventId_injective heq ▸ hr')
    · exact resultEventId_ne r t attempt heq
  have hunpending : ∀ v callv, s.calls.lookup v = some callv →
      callv.eventId ≠ some (resultEventId r) := by
    intro v callv hv heq
    obtain ⟨_, r', hr', heq'⟩ := h.pending v callv _ hv heq
    exact hfresh (resultEventId_injective heq' ▸ hr')
  refine ⟨fun eventId hseen => ?_, fun v callv eventId hv heq => ?_,
    fun v u callv callu eventId hv hu hev heu => ?_⟩
  · rw [hstats] at hseen
    rcases h.seen eventId hseen with ⟨r', hr', heq⟩ | hother
    · exact .inl ⟨r', List.mem_append_left _ hr', heq⟩
    · exact .inr hother
  · rw [hcalls, Dict.lookup_insert_eq_ite] at hv
    rw [hstats]
    split_ifs at hv with hvw
    · cases hv
      rw [hid eventId heq]
      exact ⟨hunseen, r, List.mem_append_right _ List.mem_cons_self, rfl⟩
    · obtain ⟨hnew, r', hr', heq'⟩ := h.pending v callv eventId hv heq
      exact ⟨hnew, r', List.mem_append_left _ hr', heq'⟩
  · rw [hcalls, Dict.lookup_insert_eq_ite] at hv hu
    split_ifs at hv hu with hvw huw huw
    · rw [hvw, huw]
    · cases hv
      rw [hid eventId hev] at heu
      exact absurd heu (hunpending u callu hu)
    · cases hu
      rw [hid eventId heu] at hev
      exact absurd hev (hunpending v callv hv)
    · exact h.distinct v u callv callu eventId hv hu hev heu

theorem Identified.record (h : s.Identified used) (hcall : s.calls.lookup w = some call)
    (hstats : s'.stats = perform s.stats call) (hcalls : s'.calls = s.calls.erase w) :
    s'.Identified used := by
  obtain ⟨_, hseen, _⟩ := perform_spec s.stats call
    fun eventId hid => (h.pending w call eventId hcall hid).1
  refine ⟨fun eventId hmem => ?_, fun v callv eventId hv heq => ?_,
    fun v u callv callu eventId hv hu hev heu => ?_⟩
  · rw [hstats] at hmem
    rcases (hseen eventId).1 hmem with hold | hid
    · exact h.seen eventId hold
    · exact .inl (h.pending w call eventId hcall hid).2
  · rw [hcalls, Dict.lookup_erase_eq_ite] at hv
    split_ifs at hv with hvw
    obtain ⟨hnew, hused⟩ := h.pending v callv eventId hv heq
    refine ⟨?_, hused⟩
    rw [hstats, hseen]
    rintro (hold | hid)
    · exact hnew hold
    · exact hvw (h.distinct v w callv call eventId hv hcall heq hid)
  · rw [hcalls, Dict.lookup_erase_eq_ite] at hv hu
    split_ifs at hv hu
    exact h.distinct v u callv callu eventId hv hu hev heu

theorem Balanced.master_step {b : Master.Action} (h : s.Balanced tasks used)
    (hmaster : s.master.step b = some s'.master) (hstats : s'.stats = s.stats)
    (hcalls : s'.calls = s.calls) (hledger : s'.ledger = s.ledger)
    (hcomplete : s'.distributor = .returned → s'.master.storeComplete) :
    s'.Balanced tasks used := by
  obtain ⟨hm', heff⟩ := Master.step_effect h.consistent hmaster
  exact {
    consistent := hm'
    describes := h.describes.step heff
    storeExact := Master.storeExact_step h.consistent h.describes h.storeExact hm' heff
    identified := h.identified.of_same hstats hcalls fun _ hr => hr
    balance := by
      rw [hstats, hcalls, hledger]
      exact h.balance
    processed := by
      rw [hstats]
      exact h.processed
    complete := hcomplete }

theorem ledger_eq {b : Master.Action} (h : s.Balanced tasks used)
    (hmaster : s.master.step b = some s'.master) (hoverflows : s'.overflows = s.overflows)
    (hsuccess : ∀ w payload, b ≠ .handleSuccess w payload)
    (hfailure : ∀ w payload, b ≠ .handleFailure w payload) : s'.ledger = s.ledger := by
  rw [ledger, ledger, hoverflows, store_step h.consistent hmaster hsuccess,
    attempts_step h.consistent hmaster hfailure]

/-- What the locked section of a result adds to the ledger is what its call will record. -/
theorem ledger_result (h : s.Balanced tasks used) {succeeded : Bool} {payload : ResultPayload}
    {r : RequestId} {waitSeconds : PyFloat} {m : Master}
    (hmaster : s.master.step (if succeeded then .handleSuccess w payload
      else .handleFailure w payload) = some m)
    (hcall : resultCall s.master w succeeded payload r waitSeconds = some call) :
    ((m.store.size : ℤ), (m.store.size : ℤ), m.tasks.total Task.attempt,
        ((if call = .overflow w then s.overflows + 1 else s.overflows : ℕ) : ℤ)) =
      s.ledger + call.tally := by
  unfold resultCall at hcall
  cases hacc : s.master.acceptedTask payload.taskId (payload.assignmentWorkerId.getD w) with
  | none =>
      simp only [hacc] at hcall
      cases hcall
  | some task =>
      simp only [hacc] at hcall
      cases succeeded with
      | true =>
          cases hcall
          have hattempts := attempts_step h.consistent hmaster (by simp)
          obtain ⟨c, _, hm⟩ := Option.map_eq_some_iff.1 hmaster
          obtain ⟨hnot, _⟩ | ⟨own, hplace, hown, _, hfinished⟩ :=
            Master.handleSuccess_cases h.consistent w payload
          · exact absurd ((Master.acceptedTask_eq_some_iff h.consistent).1 hacc).2 hnot
          · have hsize := size_finished h.storeExact h.describes h.consistent hplace hown hfinished
            rw [hm] at hsize
            rw [hsize, hattempts]
            simp [ledger, StatsCall.tally]
      | false =>
          have hstore := store_step h.consistent hmaster (by simp)
          obtain ⟨c, _, hm⟩ := Option.map_eq_some_iff.1 hmaster
          have hattempts := attempts_handleFailure h.consistent hacc
          rw [hm] at hattempts
          rw [hstore, hattempts]
          simp only [Bool.false_eq_true, if_false] at hcall
          split_ifs at hcall with hoverflow <;> cases hcall
          · simp [ledger, StatsCall.tally, hoverflow]
          · simp [ledger, StatsCall.tally, hoverflow]

theorem eventId_of_resultCall {m : Master} {succeeded : Bool} {payload : ResultPayload}
    {r : RequestId} {waitSeconds : PyFloat} {eventId : String}
    (hcall : resultCall m w succeeded payload r waitSeconds = some call)
    (hid : call.eventId = some eventId) : eventId = resultEventId r := by
  unfold resultCall at hcall
  split at hcall
  · cases hcall
  · split_ifs at hcall <;> cases hcall <;> cases hid
    · rfl
    · rfl

theorem balanced_result (h : s.Balanced tasks used) {succeeded : Bool} {payload : ResultPayload}
    {r : RequestId} {waitSeconds : PyFloat} (hfresh : r ∉ used)
    (hstep : s.result w succeeded payload r waitSeconds = some s') :
    s'.Balanced tasks (used ++ [r]) := by
  unfold result at hstep
  split at hstep
  swap
  · cases hstep
  rename_i hidle
  obtain ⟨m, hmaster, hstep⟩ := Option.map_eq_some_iff.1 hstep
  obtain ⟨hm, heff⟩ := Master.step_effect h.consistent hmaster
  have hdescribes := h.describes.step heff
  have hstore := Master.storeExact_step h.consistent h.describes h.storeExact hm heff
  have hcomplete : s.distributor = .returned → m.storeComplete := fun hreturned =>
    storeComplete_step h.consistent h.describes h.storeExact hmaster (h.complete hreturned)
  cases hcall : resultCall s.master w succeeded payload r waitSeconds with
  | none =>
      rw [hcall] at hstep
      cases hstep
      have hsame : m = s.master := by
        have hrefused : s.master.acceptedTask payload.taskId
            (payload.assignmentWorkerId.getD w) = none := by
          unfold resultCall at hcall
          split at hcall
          · assumption
          · split_ifs at hcall
        obtain ⟨hsuccess, hfailure⟩ := handled_of_refused hrefused
        split_ifs at hmaster
        · obtain ⟨c, _, heq⟩ := Option.map_eq_some_iff.1 hmaster
          rw [← heq, hsuccess]
        · obtain ⟨c, _, heq⟩ := Option.map_eq_some_iff.1 hmaster
          rw [← heq, hfailure]
      subst hsame
      exact {
        consistent := hm
        describes := hdescribes
        storeExact := hstore
        identified := h.identified.of_same rfl rfl fun _ hr => List.mem_append_left _ hr
        balance := h.balance
        processed := h.processed
        complete := hcomplete }
  | some call =>
      rw [hcall] at hstep
      cases hstep
      exact {
        consistent := hm
        describes := hdescribes
        storeExact := hstore
        identified := h.identified.insert hfresh
          (fun _ hid => eventId_of_resultCall hcall hid) rfl rfl
        balance := by
          have hledger := ledger_result h hmaster hcall
          have hbalance := h.balance
          rw [Dict.total_insert_of_lookup_eq_none _ hidle, add_left_comm, hbalance, add_comm]
          exact hledger.symm
        processed := h.processed
        complete := hcomplete }

theorem balanced_record (h : s.Balanced tasks used) (hstep : s.record w = some s') :
    s'.Balanced tasks used := by
  obtain ⟨call, hcall, rfl⟩ := Option.map_eq_some_iff.1 hstep
  obtain ⟨htotal, _, hprocessed⟩ := perform_spec s.stats call
    fun eventId hid => (h.identified.pending w call eventId hcall hid).1
  exact {
    consistent := h.consistent
    describes := h.describes
    storeExact := h.storeExact
    identified := h.identified.record hcall rfl rfl
    balance := by
      have hbalance := h.balance
      rw [Dict.total_of_lookup_eq_some _ hcall] at hbalance
      rw [htotal, add_assoc]
      exact hbalance
    processed := hprocessed h.processed
    complete := h.complete }

theorem balanced_queueStatus (h : s.Balanced tasks used) {payload : WorkerStatus}
    {p2p : Option StatsCollector.P2pSnapshot}
    (hstep : s.queueStatus w payload p2p = some s') : s'.Balanced tasks used := by
  unfold queueStatus at hstep
  split at hstep
  swap
  · cases hstep
  rename_i hguard
  obtain ⟨hidle, hworker⟩ := hguard
  cases hstatus : s.master.handleQueueStatus w payload with
  | error e =>
      rw [hstatus] at hstep
      cases hstep
      exact h
  | ok m =>
      have hmaster : s.master.step (.queueStatus w payload) = some m := by
        obtain ⟨c, hc⟩ := Option.isSome_iff_exists.1 (AList.lookup_isSome.2 hworker)
        rw [Master.step, hc, Option.map_some, hstatus]
      have hfiled : Balanced tasks used { s with master := m } := by
        refine h.master_step hmaster rfl rfl (ledger_eq h hmaster rfl (by simp) (by simp)) ?_
        exact fun hreturned =>
          storeComplete_step h.consistent h.describes h.storeExact hmaster (h.complete hreturned)
      cases p2p with
      | none =>
          rw [hstatus] at hstep
          cases hstep
          exact hfiled
      | some values =>
          rw [hstatus] at hstep
          cases hstep
          have hother : ∀ v callv, (s.calls.insert w (.snapshot w values)).lookup v = some callv →
              callv.eventId = none ∨ s.calls.lookup v = some callv := by
            intro v callv hv
            rw [Dict.lookup_insert_eq_ite] at hv
            split_ifs at hv
            · cases hv
              exact .inl rfl
            · exact .inr hv
          refine { hfiled with identified := ?_, balance := ?_ }
          · refine ⟨h.identified.seen, fun v callv eventId hv hid => ?_,
              fun v u callv callu eventId hv hu hev heu => ?_⟩
            · rcases hother v callv hv with hnone | hold
              · rw [hnone] at hid
                cases hid
              · exact h.identified.pending v callv eventId hold hid
            · rcases hother v callv hv with hnone | hold
              · rw [hnone] at hev
                cases hev
              rcases hother u callu hu with hnone | hold'
              · rw [hnone] at heu
                cases heu
              exact h.identified.distinct v u callv callu eventId hold hold' hev heu
          · rw [Dict.total_insert_of_lookup_eq_none _ hidle]
            exact (congrArg _ (zero_add _)).trans hfiled.balance

theorem Balanced.distributor (h : s.Balanced tasks used) {d : Distributor}
    (hcomplete : d = .returned → s.master.storeComplete) :
    Balanced tasks used { s with distributor := d } :=
  { h with
    identified := h.identified.of_same rfl rfl fun _ hr => hr
    complete := hcomplete }

theorem balanced_disconnect (h : s.Balanced tasks used) {order : List TaskId}
    (hstep : s.disconnect w order = some s') : s'.Balanced tasks used := by
  unfold disconnect at hstep
  split at hstep
  swap
  · cases hstep
  obtain ⟨m, hmaster, rfl⟩ := Option.map_eq_some_iff.1 hstep
  exact h.master_step hmaster rfl rfl (ledger_eq h hmaster rfl (by simp) (by simp))
    fun hreturned =>
      storeComplete_step h.consistent h.describes h.storeExact hmaster (h.complete hreturned)

theorem balanced_distribute (h : s.Balanced tasks used) {now : ℚ}
    (hstep : s.distribute now = some s') : s'.Balanced tasks used := by
  unfold distribute at hstep
  split at hstep
  swap
  · cases hstep
  rename_i hguard
  split at hstep
  · rename_i hcomplete
    cases hstep
    exact h.distributor fun _ => hcomplete
  · split at hstep
    · obtain ⟨⟨x, m⟩, hnext, rfl⟩ := Option.map_eq_some_iff.1 hstep
      have hmaster : s.master.step (.nextAssignment now) = some m := by
        rw [Master.step, hnext]
        rfl
      cases x with
      | none =>
          refine h.master_step hmaster rfl rfl (ledger_eq h hmaster rfl (by simp) (by simp)) ?_
          intro hreturned
          rw [hguard.1] at hreturned
          cases hreturned
      | some assignment =>
          refine h.master_step hmaster rfl rfl (ledger_eq h hmaster rfl (by simp) (by simp)) ?_
          intro hreturned
          cases hreturned
    · cases hstep
      refine h.distributor fun hreturned => ?_
      cases hreturned

theorem balanced_sent (h : s.Balanced tasks used) (hstep : s.sent = some s') :
    s'.Balanced tasks used := by
  unfold sent at hstep
  split at hstep
  · cases hstep
    refine h.distributor fun hreturned => ?_
    split_ifs at hreturned
  · cases hstep

theorem balanced_sendFail (h : s.Balanced tasks used) {order : List TaskId}
    (hstep : s.sendFail order = some s') : s'.Balanced tasks used := by
  unfold sendFail at hstep
  split at hstep
  · obtain ⟨m, hmaster, rfl⟩ := Option.map_eq_some_iff.1 hstep
    refine h.master_step hmaster rfl rfl (ledger_eq h hmaster rfl (by simp) (by simp)) ?_
    intro hreturned
    cases hreturned
  · cases hstep

theorem balanced_recordReallocation (h : s.Balanced tasks used)
    (hstep : s.recordReallocation = some s') : s'.Balanced tasks used := by
  unfold recordReallocation at hstep
  split at hstep
  swap
  · cases hstep
  obtain ⟨task, _, rfl⟩ := Option.map_eq_some_iff.1 hstep
  generalize hid : reallocationEventId task.taskId task.attempt = eventId
  have hseen : ∀ other, other ∈ (s.stats.recordReallocation (some eventId)).2.seenEventIds →
      other ∈ s.stats.seenEventIds ∨ other = eventId := by
    intro other hother
    by_cases hmem : eventId ∈ s.stats.seenEventIds
    · rw [StatsCollector.recordReallocation, StatsCollector.isDuplicateLocked,
        if_pos hmem] at hother
      exact .inl hother
    · rw [StatsCollector.recordReallocation, isDuplicateLocked_of_notMem hmem] at hother
      exact (Finset.mem_insert.1 hother).symm
  have hworkers : (s.stats.recordReallocation (some eventId)).2.workers = s.stats.workers := by
    by_cases hmem : eventId ∈ s.stats.seenEventIds
    · rw [StatsCollector.recordReallocation, StatsCollector.isDuplicateLocked, if_pos hmem]
    · rw [StatsCollector.recordReallocation, isDuplicateLocked_of_notMem hmem]
  refine { h with identified := ?_, balance := ?_, processed := ?_, complete := ?_ }
  · refine ⟨fun other hother => ?_, fun v callv other hv hother => ?_, h.identified.distinct⟩
    · rcases hseen other hother with hold | rfl
      · exact h.identified.seen other hold
      · exact .inr ⟨_, _, hid.symm⟩
    · obtain ⟨hnew, r, hr, heq⟩ := h.identified.pending v callv other hv hother
      refine ⟨fun hmem => ?_, r, hr, heq⟩
      rcases hseen other hmem with hold | hsame
      · exact hnew hold
      · exact resultEventId_ne r _ _ (heq.symm.trans (hsame.trans hid.symm))
  · rw [hworkers]
    exact h.balance
  · intro v entry hentry
    rw [hworkers] at hentry
    exact h.processed v entry hentry
  · intro hreturned
    cases hreturned

theorem balanced_emitStatistics (h : s.Balanced tasks used) {now : ℚ}
    (hstep : s.emitStatistics now = some s') : s'.Balanced tasks used := by
  unfold emitStatistics at hstep
  split at hstep
  · cases hstep
    refine h.distributor fun hreturned => ?_
    cases hreturned
  · cases hstep

theorem balanced_step (h : s.Balanced tasks used)
    (hfresh : ∀ r, a.requestId = some r → r ∉ used) (hstep : s.step a = some s') :
    s'.Balanced tasks (used ++ a.requestId.toList) := by
  have hquiet : a.requestId = none → s'.Balanced tasks used →
      s'.Balanced tasks (used ++ a.requestId.toList) := by
    intro hnone hbalanced
    rw [hnone, Option.toList_none, List.append_nil]
    exact hbalanced
  cases a with
  | result w succeeded payload r waitSeconds => exact balanced_result h (hfresh r rfl) hstep
  | queueStatus w payload p2p => exact hquiet rfl (balanced_queueStatus h hstep)
  | record w => exact hquiet rfl (balanced_record h hstep)
  | disconnect w order => exact hquiet rfl (balanced_disconnect h hstep)
  | distribute now => exact hquiet rfl (balanced_distribute h hstep)
  | sent => exact hquiet rfl (balanced_sent h hstep)
  | sendFail order => exact hquiet rfl (balanced_sendFail h hstep)
  | recordReallocation => exact hquiet rfl (balanced_recordReallocation h hstep)
  | emitStatistics now => exact hquiet rfl (balanced_emitStatistics h hstep)

/-- The request ids of the results that a run handles. -/
def requestIds (acts : List Action) : List RequestId := acts.filterMap Action.requestId

theorem balanced_run {acts : List Action} (h : s.Balanced tasks used)
    (hnodup : (used ++ requestIds acts).Nodup)
    (hrun : Transition.run step s acts = some s') :
    s'.Balanced tasks (used ++ requestIds acts) := by
  induction acts generalizing s used with
  | nil =>
      cases hrun
      rw [requestIds, List.filterMap_nil, List.append_nil]
      exact h
  | cons a acts ih =>
      obtain ⟨u, hu, hrest⟩ := Transition.run_cons_eq_some_iff.1 hrun
      have hsplit : used ++ requestIds (a :: acts) =
          (used ++ a.requestId.toList) ++ requestIds acts := by
        rw [List.append_assoc, requestIds, List.filterMap_cons]
        cases a.requestId <;> rfl
      rw [hsplit] at hnodup ⊢
      have hfresh : ∀ r, a.requestId = some r → r ∉ used := by
        intro r hr hmem
        have hdisjoint := List.nodup_append.1 (List.nodup_append.1 hnodup).1
        exact hdisjoint.2.2 r hmem r (by rw [hr]; exact List.mem_singleton_self r) rfl
      exact ih (balanced_step h hfresh hu) hnodup hrest

theorem balanced_start {count : ℕ} {rng : RandomSource} {ws : List WorkerId}
    (hstart : start count rng ws = .ok s) : s.Balanced (generated count rng) [] := by
  unfold start at hstart
  cases hmaster : Master.start count rng ws with
  | error e =>
      rw [hmaster] at hstart
      cases hstart
  | ok m =>
      rw [hmaster] at hstart
      cases hstart
      have h := Master.started_of_start hmaster
      exact {
        consistent := h.consistent
        describes := h.describes
        storeExact := h.storeExact
        identified := by
          refine ⟨fun eventId hseen => absurd hseen (Finset.notMem_empty _), ?_, ?_⟩
          · intro v callv eventId hv
            cases hv
          · intro v u callv callu eventId hv
            cases hv
        balance := by
          have hattempts : m.tasks.total Task.attempt = 0 := by
            refine List.sum_eq_zero fun x hx => ?_
            obtain ⟨task, htask, rfl⟩ := List.mem_map.1 hx
            obtain ⟨t, ht⟩ := Dict.mem_values_iff.1 htask
            exact attempt_of_mem_generated ((h.tasks t task).1 ht).1
          rw [ledger, h.store, hattempts]
          rfl
        processed := by
          intro v entry hentry
          cases hentry
        complete := by
          intro hreturned
          cases hreturned }

theorem admitted_of_start {count : ℕ} {rng : RandomSource} {ws : List WorkerId}
    (hstart : start count rng ws = .ok s) : count ≤ 65536 := by
  unfold start at hstart
  cases hmaster : Master.start count rng ws with
  | error e =>
      rw [hmaster] at hstart
      cases hstart
  | ok m => exact (Master.started_of_start hmaster).admitted.2

/-- The state that the steps `acts` lead to from the start. -/
def reached (count : ℕ) (rng : RandomSource) (ws : List WorkerId) (acts : List Action) :
    Option Accounts :=
  (start count rng ws).toOption.bind fun s₀ => Transition.run step s₀ acts

theorem exists_reached (count : ℕ) (rng : RandomSource) (ws : List WorkerId)
    (acts : List Action) {p : Accounts → Prop} [DecidablePred p]
    (h : (reached count rng ws acts).any (fun s => decide (p s)) = true) :
    ∃ s₀ s, start count rng ws = .ok s₀ ∧ Transition.run step s₀ acts = some s ∧ p s :=
  Transition.exists_run_of_bind h

/-! ### The statistics agree with the ledger -/

theorem total_tally (workers : Dict WorkerId WorkerStats) :
    workers.total tally =
      (((workers.total WorkerStats.throughput : ℕ) : ℤ),
        ((workers.total WorkerStats.successCount : ℕ) : ℤ),
        ((workers.total WorkerStats.failCount : ℕ) : ℤ),
        ((workers.total WorkerStats.overflowCount : ℕ) : ℤ)) := by
  unfold Dict.total
  induction workers.values with
  | nil => rfl
  | cons x rest ih =>
      simp only [List.map_cons, List.sum_cons, ih, tally, Nat.cast_add, Prod.mk_add_mk]

/-- No receiver thread is between its locked section and its statistics call. -/
def Recorded (s : Accounts) : Prop := s.calls = ∅

/-- **Statistics and ledger.** When no call is pending, the counters of the workers add up
to what the Master has on record. -/
theorem statistics_agree {count : ℕ} {rng : RandomSource} {ws : List WorkerId} {s₀ : Accounts}
    {acts : List Action} (hstart : start count rng ws = .ok s₀)
    (hnodup : (requestIds acts).Nodup) (hrun : Transition.run step s₀ acts = some s)
    (hrecorded : s.Recorded) :
    s.stats.workers.total WorkerStats.successCount = s.master.store.size ∧
      s.stats.workers.total WorkerStats.throughput = s.master.store.size ∧
      ((s.stats.workers.total WorkerStats.failCount : ℕ) : ℤ) =
        s.master.tasks.total Task.attempt ∧
      s.stats.workers.total WorkerStats.overflowCount = s.overflows ∧
      ∀ w stats, s.stats.workers.lookup w = some stats →
        stats.processedCount = stats.successCount + stats.failCount := by
  have h := balanced_run (balanced_start hstart) hnodup hrun
  have hbalance := h.balance
  rw [hrecorded, show (∅ : Dict WorkerId StatsCall).total StatsCall.tally = 0 from rfl,
    add_zero, total_tally, ledger] at hbalance
  simp only [Prod.mk.injEq, Nat.cast_inj] at hbalance
  obtain ⟨hthroughput, hsuccess, hfail, hoverflow⟩ := hbalance
  exact ⟨hsuccess, hthroughput, hfail, hoverflow, h.processed⟩

/-- Two tasks: one is failed and reassigned, the other finds a full queue; the first worker
repeats itself. -/
def repeated : List Action :=
  [.distribute 0, .sent, .distribute 1, .sent,
    .result "worker1" false { taskId := "task-0001" } "r1" (.finite 2), .record "worker1",
    .distribute 2, .sent, .recordReallocation,
    .result "worker1" true { taskId := "task-0001" } "r2" (.finite 0),
    .result "worker2" false { taskId := "task-0002", reason := some "queue overflow" } "r3"
      (.finite 0), .record "worker2",
    .result "worker3" true { taskId := "task-0001" } "r4" (.finite 1), .record "worker3"]

set_option maxRecDepth 100000 in
theorem statistics_agree_repeated :
    ∃ s₀ s, start 2 .first ["worker1", "worker2", "worker3", "worker4"] = .ok s₀ ∧
      Transition.run step s₀ repeated = some s ∧
      s.stats.workers.total WorkerStats.throughput = s.master.store.size ∧
      s.stats.workers.total WorkerStats.overflowCount = 1 := by
  obtain ⟨s₀, s, hstart, hrun, hrecorded, hoverflows⟩ := exists_reached 2 .first
    ["worker1", "worker2", "worker3", "worker4"] repeated
    (p := fun s => s.calls.entries = [] ∧ s.overflows = 1) (by decide +kernel)
  obtain ⟨_, hthroughput, _, hoverflow, _⟩ :=
    statistics_agree hstart (by decide) hrun (AList.ext hrecorded)
  exact ⟨s₀, s, hstart, hrun, hthroughput, hoverflow.trans hoverflows⟩

/-! ### The final report -/

/-- A receiver thread has stored a result and not yet recorded it. -/
def SuccessPending (s : Accounts) : Prop :=
  ∃ w v waitSeconds eventId, s.calls.lookup w = some (.success v waitSeconds eventId)

theorem successes_eq_zero_iff :
    s.calls.total StatsCall.successes = 0 ↔ ¬ s.SuccessPending := by
  rw [Dict.total_eq_zero_iff]
  constructor
  · rintro h ⟨w, v, waitSeconds, eventId, hcall⟩
    exact absurd (h w _ hcall) Nat.one_ne_zero
  · intro h w call hcall
    cases call with
    | success v waitSeconds eventId => exact absurd ⟨w, v, waitSeconds, eventId, hcall⟩ h
    | fail v waitSeconds eventId => rfl
    | overflow v => rfl
    | snapshot v values => rfl

theorem total_successes (calls : Dict WorkerId StatsCall) (φ : Tally →+ ℤ)
    (hφ : ∀ call : StatsCall, φ call.tally = call.successes) :
    φ (calls.total StatsCall.tally) = (calls.total StatsCall.successes : ℕ) := by
  rw [Dict.map_total, funext hφ]
  exact (Dict.map_total (Nat.castAddMonoidHom ℤ) StatsCall.successes calls).symm

/-- What is stored has been recorded, or is on a pending call. -/
theorem Balanced.successes (h : s.Balanced tasks used) :
    s.stats.workers.total WorkerStats.throughput + s.calls.total StatsCall.successes =
        s.master.store.size ∧
      s.stats.workers.total WorkerStats.successCount + s.calls.total StatsCall.successes =
        s.master.store.size := by
  have hfst := total_successes s.calls (AddMonoidHom.fst ℤ _) fun call => by cases call <;> rfl
  have hsnd := total_successes s.calls ((AddMonoidHom.fst ℤ _).comp (AddMonoidHom.snd ℤ _))
    fun call => by cases call <;> rfl
  have hbalance := h.balance
  rw [total_tally, ledger] at hbalance
  have hthroughput := congrArg Prod.fst hbalance
  have hsuccess := congrArg (fun x : Tally => x.2.1) hbalance
  rw [Prod.fst_add, show (s.calls.total StatsCall.tally).1 = _ from hfst] at hthroughput
  rw [Prod.snd_add, Prod.fst_add, show (s.calls.total StatsCall.tally).2.1 = _ from hsnd]
    at hsuccess
  constructor
  · rw [← Nat.cast_inj (R := ℤ), Nat.cast_add]
    exact hthroughput
  · rw [← Nat.cast_inj (R := ℤ), Nat.cast_add]
    exact hsuccess

/-- **The final report.** The summary counts every task if and only if no receiver thread
has yet to record a result that it stored. -/
theorem report_complete_iff {count : ℕ} {rng : RandomSource} {ws : List WorkerId}
    {s₀ : Accounts} {acts : List Action} {now : ℚ} (hstart : start count rng ws = .ok s₀)
    (hnodup : (requestIds acts).Nodup) (hrun : Transition.run step s₀ acts = some s)
    (hemit : s.step (.emitStatistics now) = some s') :
    ∃ summary, s'.distributor = .reported summary ∧
      ((summary.totalThroughput = count ∧ summary.totalSuccessCount = count) ↔
        ¬ s.SuccessPending) := by
  have h := balanced_run (balanced_start hstart) hnodup hrun
  rw [step, emitStatistics] at hemit
  split at hemit
  swap
  · cases hemit
  rename_i hreturned
  cases hemit
  refine ⟨_, rfl, ?_⟩
  have hsize : s.master.store.size = count := by
    have hcomplete := h.complete hreturned
    rw [Master.storeComplete, h.describes.taskCount,
      length_generated rng (admitted_of_start hstart)] at hcomplete
    exact hcomplete
  obtain ⟨hthroughput, hsuccess⟩ := h.successes
  rw [← successes_eq_zero_iff, StatsCollector.summary]
  simp only [StatsCollector.sum_workersList, WorkerStats.toDict]
  change s.stats.workers.total WorkerStats.throughput = count ∧
    s.stats.workers.total WorkerStats.successCount = count ↔ _
  omega

/-- The last result is recorded before the distributor looks at the store. -/
def noted : List Action :=
  [.distribute 0, .sent, .result "worker1" true { taskId := "task-0001" } "r1" (.finite 0),
    .record "worker1", .distribute 1]

set_option maxRecDepth 100000 in
theorem report_complete_iff_noted :
    ∃ s₀ s s' summary, start 1 .first ["worker1", "worker2", "worker3", "worker4"] = .ok s₀ ∧
      Transition.run step s₀ noted = some s ∧ s.step (.emitStatistics 1) = some s' ∧
      s'.distributor = .reported summary ∧
      ((summary.totalThroughput = 1 ∧ summary.totalSuccessCount = 1) ↔ ¬ s.SuccessPending) := by
  obtain ⟨s₀, s, hstart, hrun, hemit⟩ := exists_reached 1 .first
    ["worker1", "worker2", "worker3", "worker4"] noted
    (p := fun s => (s.step (.emitStatistics 1)).isSome) (by decide +kernel)
  obtain ⟨s', hs'⟩ := Option.isSome_iff_exists.1 hemit
  obtain ⟨summary, hreported, hiff⟩ := report_complete_iff hstart (by decide) hrun hs'
  exact ⟨s₀, s, s', summary, hstart, hrun, hs', hreported, hiff⟩

/-- The distributor is faster than the receiver thread of the last result. -/
def overtaken : List Action :=
  [.distribute 0, .sent, .result "worker1" true { taskId := "task-0001" } "r1" (.finite 0),
    .distribute 1, .emitStatistics 1, .record "worker1"]

set_option maxRecDepth 100000 in
/-- The report counts no task, and the run had one. -/
theorem not_report_complete_overtaken :
    ∃ s₀ s, start 1 .first ["worker1", "worker2", "worker3", "worker4"] = .ok s₀ ∧
      Transition.run step s₀ overtaken = some s ∧ (requestIds overtaken).Nodup ∧
      s.distributor.summary.map Summary.totalThroughput = some 0 ∧
      s.distributor.summary.map Summary.totalSuccessCount = some 0 := by
  obtain ⟨s₀, s, hstart, hrun, hreported⟩ := exists_reached 1 .first
    ["worker1", "worker2", "worker3", "worker4"] overtaken
    (p := fun s => s.distributor.summary.map Summary.totalThroughput = some 0 ∧
      s.distributor.summary.map Summary.totalSuccessCount = some 0) (by decide +kernel)
  exact ⟨s₀, s, hstart, hrun, by decide, hreported⟩

end

end Accounts

end KVStore
