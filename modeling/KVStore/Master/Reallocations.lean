import KVStore.Library.Digits
import KVStore.Master.Accounts

/-!
# The count of reallocations

After a task was sent with priority the distributor records a reallocation under an event id
that is made of the task id and the attempt, and the collector counts each event id once. Only
a failure of the processing raises the attempt: a task that comes back from a full queue or
from a lost worker has the attempt that it had. `reallocations_counted_iff` says for which runs
no reallocation is missed.
-/

namespace KVStore

open Python

namespace Accounts

/-- What the distributor does about a reallocation: the task is sent, and afterwards the event
is recorded under the attempt that the task has by then. -/
inductive Reallocation
  | placed (t : TaskId)
  | recorded (t : TaskId) (attempt : ℤ)
deriving DecidableEq

def reallocations (s : Accounts) : Action → List Reallocation
  | .sent =>
      match s.distributor with
      | .sending assignment =>
          if assignment.priority = true then [.placed assignment.task.taskId] else []
      | _ => []
  | .recordReallocation =>
      match s.distributor with
      | .recording t =>
          ((s.master.tasks.lookup t).map fun task =>
            Reallocation.recorded task.taskId task.attempt).toList
      | _ => []
  | _ => []

/-- The tasks that were sent with priority, in order. -/
def placed (log : List Reallocation) : List TaskId :=
  log.filterMap fun
    | .placed t => some t
    | .recorded _ _ => none

def recorded (log : List Reallocation) : List (TaskId × ℤ) :=
  log.filterMap fun
    | .placed _ => none
    | .recorded t attempt => some (t, attempt)

/-- A reallocation that was sent and is still to be recorded. -/
def unrecorded (s : Accounts) : ℕ :=
  match s.distributor with
  | .recording _ => 1
  | _ => 0

/-- What the log says of the collector. -/
structure Noted (log : List Reallocation) (s : Accounts) : Prop where
  pending : ∀ w call eventId, s.calls.lookup w = some call → call.eventId = some eventId →
    ∃ requestId, eventId = resultEventId requestId
  seen : ∀ t attempt, reallocationEventId t attempt ∈ s.stats.seenEventIds ↔
    (t, attempt) ∈ recorded log
  total : s.stats.totalReallocations = (recorded log).toFinset.card
  placed : (placed log).length = (recorded log).length + s.unrecorded

theorem reallocationEventId_inj {t u : TaskId} {m n : ℤ}
    (h : reallocationEventId t m = reallocationEventId u n) : t = u ∧ m = n := by
  have hlist := congrArg String.toList h
  simp only [reallocationEventId, String.toList_append, List.append_assoc] at hlist
  have hrest := List.append_cancel_left hlist
  obtain ⟨htask, hattempt⟩ := Digits.append_cons_inj
    (Digits.notMem_toString (c := ':') (by decide) (by decide) m)
    (Digits.notMem_toString (c := ':') (by decide) (by decide) n) hrest
  exact ⟨String.toList_injective htask,
    Digits.toString_injective (String.toList_injective hattempt)⟩

section

variable {stats : StatsCollector}

theorem totalReallocations_modifyWorker (stats : StatsCollector) (w : WorkerId)
    (f : WorkerStats → WorkerStats) :
    (stats.modifyWorker w f).totalReallocations = stats.totalReallocations := by
  unfold StatsCollector.modifyWorker StatsCollector.getOrCreateWorkerLocked
  cases stats.workers.lookup w <;> rfl

theorem insert_reallocations (stats : StatsCollector) (requestId : RequestId) (w : WorkerId)
    (f : WorkerStats → WorkerStats) :
    let counted := { stats with
      seenEventIds := insert (resultEventId requestId) stats.seenEventIds }.modifyWorker w f
    counted.totalReallocations = stats.totalReallocations ∧
      ∀ t attempt, reallocationEventId t attempt ∈ counted.seenEventIds ↔
        reallocationEventId t attempt ∈ stats.seenEventIds := by
  refine ⟨totalReallocations_modifyWorker _ w f, fun t attempt => ?_⟩
  rw [StatsCollector.seenEventIds_modifyWorker, Finset.mem_insert,
    or_iff_right (resultEventId_ne requestId t attempt).symm]

/-- The calls of the receiver threads neither count nor note a reallocation. -/
theorem perform_reallocations (stats : StatsCollector) {call : StatsCall}
    (hcall : ∀ eventId, call.eventId = some eventId →
      ∃ requestId, eventId = resultEventId requestId) :
    (perform stats call).totalReallocations = stats.totalReallocations ∧
      ∀ t attempt, reallocationEventId t attempt ∈ (perform stats call).seenEventIds ↔
        reallocationEventId t attempt ∈ stats.seenEventIds := by
  cases call with
  | success w waitSeconds eventId =>
      obtain ⟨requestId, rfl⟩ := hcall eventId rfl
      by_cases hseen : resultEventId requestId ∈ stats.seenEventIds
      · rw [perform, StatsCollector.recordTaskSuccess, StatsCollector.isDuplicateLocked,
          if_pos hseen]
        exact ⟨rfl, fun _ _ => Iff.rfl⟩
      · rw [perform, StatsCollector.recordTaskSuccess, isDuplicateLocked_of_notMem hseen]
        exact insert_reallocations stats requestId w _
  | fail w waitSeconds eventId =>
      obtain ⟨requestId, rfl⟩ := hcall eventId rfl
      by_cases hseen : resultEventId requestId ∈ stats.seenEventIds
      · rw [perform, StatsCollector.recordTaskFail, StatsCollector.isDuplicateLocked,
          if_pos hseen]
        exact ⟨rfl, fun _ _ => Iff.rfl⟩
      · rw [perform, StatsCollector.recordTaskFail, isDuplicateLocked_of_notMem hseen]
        exact insert_reallocations stats requestId w _
  | overflow w =>
      refine ⟨totalReallocations_modifyWorker stats w _, fun t attempt => ?_⟩
      rw [perform, StatsCollector.recordQueueOverflow, StatsCollector.seenEventIds_modifyWorker]
  | snapshot w values =>
      simp only [perform, StatsCollector.updateP2pSnapshot]
      split_ifs
      · exact ⟨rfl, fun _ _ => Iff.rfl⟩
      · dsimp only
        rw [totalReallocations_modifyWorker, StatsCollector.seenEventIds_modifyWorker]
        exact ⟨rfl, fun _ _ => Iff.rfl⟩

end

section

variable {s s' : Accounts} {a : Action} {log : List Reallocation}

theorem Noted.of_same (h : Noted log s) (hcalls : s'.calls = s.calls) (hstats : s'.stats = s.stats)
    (hunrecorded : s'.unrecorded = s.unrecorded) : Noted log s' := by
  refine ⟨?_, ?_, ?_, ?_⟩
  · rw [hcalls]
    exact h.pending
  · rw [hstats]
    exact h.seen
  · rw [hstats]
    exact h.total
  · rw [hunrecorded]
    exact h.placed

theorem Noted.insert (h : Noted log s) {w : WorkerId} {call : StatsCall}
    (hcall : ∀ eventId, call.eventId = some eventId →
      ∃ requestId, eventId = resultEventId requestId)
    (hcalls : s'.calls = s.calls.insert w call) (hstats : s'.stats = s.stats)
    (hunrecorded : s'.unrecorded = s.unrecorded) : Noted log s' := by
  refine ⟨fun v other eventId hother hid => ?_, ?_, ?_, ?_⟩
  · rw [hcalls, Dict.lookup_insert_eq_ite] at hother
    split_ifs at hother
    · cases hother
      exact hcall eventId hid
    · exact h.pending v other eventId hother hid
  · rw [hstats]
    exact h.seen
  · rw [hstats]
    exact h.total
  · rw [hunrecorded]
    exact h.placed

theorem noted_result (h : Noted log s) {w : WorkerId} {succeeded : Bool}
    {payload : ResultPayload} {requestId : RequestId} {waitSeconds : PyFloat}
    (hstep : s.result w succeeded payload requestId waitSeconds = some s') : Noted log s' := by
  unfold result at hstep
  split at hstep
  swap
  · cases hstep
  obtain ⟨m, _, hstep⟩ := Option.map_eq_some_iff.1 hstep
  cases hcall : resultCall s.master w succeeded payload requestId waitSeconds with
  | none =>
      rw [hcall] at hstep
      cases hstep
      exact h.of_same rfl rfl rfl
  | some call =>
      rw [hcall] at hstep
      cases hstep
      exact h.insert (fun eventId hid => ⟨requestId, eventId_of_resultCall hcall hid⟩) rfl rfl rfl

theorem noted_queueStatus (h : Noted log s) {w : WorkerId} {payload : WorkerStatus}
    {p2p : Option StatsCollector.P2pSnapshot} (hstep : s.queueStatus w payload p2p = some s') :
    Noted log s' := by
  unfold queueStatus at hstep
  split_ifs at hstep
  split at hstep
  · cases hstep
    exact h
  · cases hstep
    exact h.of_same rfl rfl rfl
  · cases hstep
    refine h.insert (fun eventId hid => ?_) rfl rfl rfl
    cases hid

theorem noted_record (h : Noted log s) {w : WorkerId} (hstep : s.record w = some s') :
    Noted log s' := by
  obtain ⟨call, hcall, rfl⟩ := Option.map_eq_some_iff.1 hstep
  obtain ⟨htotal, hseen⟩ := perform_reallocations s.stats (h.pending w call · hcall)
  refine ⟨fun v other eventId hother hid => ?_, fun t attempt => ?_, htotal.trans h.total,
    h.placed⟩
  · dsimp only at hother
    rw [Dict.lookup_erase_eq_ite] at hother
    split_ifs at hother
    exact h.pending v other eventId hother hid
  · dsimp only
    rw [hseen, h.seen]

theorem noted_disconnect (h : Noted log s) {w : WorkerId} {order : List TaskId}
    (hstep : s.disconnect w order = some s') : Noted log s' := by
  unfold disconnect at hstep
  split_ifs at hstep
  obtain ⟨m, _, rfl⟩ := Option.map_eq_some_iff.1 hstep
  exact h.of_same rfl rfl rfl

theorem noted_distribute (h : Noted log s) {now : ℚ} (hstep : s.distribute now = some s') :
    Noted log s' := by
  unfold distribute at hstep
  split_ifs at hstep with hguard hcomplete hconnected
  all_goals have hnone : s.unrecorded = 0 := by rw [unrecorded, hguard.1]
  · cases hstep
    exact h.of_same rfl rfl hnone.symm
  · obtain ⟨⟨assignment, m⟩, _, rfl⟩ := Option.map_eq_some_iff.1 hstep
    cases assignment with
    | none => exact h.of_same rfl rfl rfl
    | some assignment => exact h.of_same rfl rfl hnone.symm
  · cases hstep
    exact h.of_same rfl rfl hnone.symm

theorem noted_sendFail (h : Noted log s) {order : List TaskId}
    (hstep : s.sendFail order = some s') : Noted log s' := by
  unfold sendFail at hstep
  split at hstep
  · rename_i assignment hsending
    obtain ⟨m, _, rfl⟩ := Option.map_eq_some_iff.1 hstep
    refine h.of_same rfl rfl ?_
    simp only [unrecorded, hsending]
  · cases hstep

theorem noted_emitStatistics (h : Noted log s) {now : ℚ}
    (hstep : s.emitStatistics now = some s') : Noted log s' := by
  unfold emitStatistics at hstep
  split_ifs at hstep with hreturned
  cases hstep
  refine h.of_same rfl rfl ?_
  simp only [unrecorded, hreturned]

theorem placed_append (log more : List Reallocation) :
    placed (log ++ more) = placed log ++ placed more := List.filterMap_append

theorem recorded_append (log more : List Reallocation) :
    recorded (log ++ more) = recorded log ++ recorded more := List.filterMap_append

theorem noted_sent (h : Noted log s) (hstep : s.sent = some s') :
    Noted (log ++ s.reallocations .sent) s' := by
  unfold sent at hstep
  cases hdistributor : s.distributor with
  | sending assignment =>
      rw [hdistributor] at hstep
      cases hstep
      have hplaced := h.placed
      rw [unrecorded, hdistributor] at hplaced
      rw [reallocations, hdistributor]
      dsimp only
      split_ifs with hpriority
      · refine ⟨h.pending, fun t attempt => ?_, ?_, ?_⟩
        · rw [h.seen, recorded_append]
          exact Iff.symm (by rw [show recorded [.placed _] = [] from rfl, List.append_nil])
        · rw [h.total, recorded_append]
          exact congrArg _ (by rw [show recorded [.placed _] = [] from rfl, List.append_nil])
        · rw [placed_append, recorded_append, List.length_append, List.length_append, hplaced]
          rfl
      · rw [List.append_nil]
        exact ⟨h.pending, h.seen, h.total, hplaced⟩
  | _ =>
      rw [hdistributor] at hstep
      cases hstep

/-- A reallocation is counted unless its task was recorded under the same attempt before. -/
theorem noted_recordReallocation (h : Noted log s) (hstep : s.recordReallocation = some s') :
    Noted (log ++ s.reallocations .recordReallocation) s' := by
  unfold recordReallocation at hstep
  cases hdistributor : s.distributor with
  | recording t =>
      rw [hdistributor] at hstep
      obtain ⟨task, htask, rfl⟩ := Option.map_eq_some_iff.1 hstep
      have hlog : s.reallocations .recordReallocation = [.recorded task.taskId task.attempt] := by
        rw [reallocations, hdistributor]
        dsimp only
        rw [htask]
        rfl
      rw [hlog]
      have hplaced := h.placed
      rw [unrecorded, hdistributor] at hplaced
      have hlength : (placed (log ++ [.recorded task.taskId task.attempt])).length =
          (recorded (log ++ [.recorded task.taskId task.attempt])).length := by
        rw [placed_append, recorded_append, List.length_append, List.length_append, hplaced]
        rfl
      have hmem : ∀ u attempt, (u, attempt) ∈
          recorded (log ++ [.recorded task.taskId task.attempt]) ↔
            (u, attempt) ∈ recorded log ∨ u = task.taskId ∧ attempt = task.attempt := by
        intro u attempt
        rw [recorded_append, List.mem_append]
        exact or_congr_right (List.mem_singleton.trans Prod.mk_inj)
      have hset : (recorded (log ++ [.recorded task.taskId task.attempt])).toFinset =
          insert (task.taskId, task.attempt) (recorded log).toFinset := by
        ext ⟨u, attempt⟩
        rw [List.mem_toFinset, hmem, Finset.mem_insert, List.mem_toFinset, Prod.mk_inj, or_comm]
      by_cases hseen : reallocationEventId task.taskId task.attempt ∈ s.stats.seenEventIds
      · have hold := (h.seen _ _).1 hseen
        rw [StatsCollector.recordReallocation, StatsCollector.isDuplicateLocked, if_pos hseen]
        refine ⟨h.pending, fun u attempt => ?_, ?_, hlength⟩
        · rw [h.seen, hmem]
          refine (or_iff_left_of_imp ?_).symm
          rintro ⟨rfl, rfl⟩
          exact hold
        · rw [hset, Finset.insert_eq_of_mem (List.mem_toFinset.2 hold)]
          exact h.total
      · have hnew : (task.taskId, task.attempt) ∉ (recorded log).toFinset := by
          rw [List.mem_toFinset, ← h.seen]
          exact hseen
        rw [StatsCollector.recordReallocation, isDuplicateLocked_of_notMem hseen]
        refine ⟨h.pending, fun u attempt => ?_, ?_, hlength⟩
        · rw [hmem, ← h.seen, Finset.mem_insert, or_comm]
          refine or_congr_right ⟨reallocationEventId_inj, ?_⟩
          rintro ⟨rfl, rfl⟩
          rfl
        · rw [hset, Finset.card_insert_of_notMem hnew]
          exact congrArg (· + 1) h.total
  | _ =>
      rw [hdistributor] at hstep
      cases hstep

theorem noted_step (h : Noted log s) (hstep : s.step a = some s') :
    Noted (log ++ s.reallocations a) s' := by
  cases a with
  | sent => exact noted_sent h hstep
  | recordReallocation => exact noted_recordReallocation h hstep
  | result w succeeded payload requestId waitSeconds =>
      simpa only [reallocations, List.append_nil] using noted_result h hstep
  | queueStatus w payload p2p =>
      simpa only [reallocations, List.append_nil] using noted_queueStatus h hstep
  | record w =>
      simpa only [reallocations, List.append_nil] using noted_record h hstep
  | disconnect w order =>
      simpa only [reallocations, List.append_nil] using noted_disconnect h hstep
  | distribute now =>
      simpa only [reallocations, List.append_nil] using noted_distribute h hstep
  | sendFail order =>
      simpa only [reallocations, List.append_nil] using noted_sendFail h hstep
  | emitStatistics now =>
      simpa only [reallocations, List.append_nil] using noted_emitStatistics h hstep

theorem noted_start {count : ℕ} {rng : RandomSource} {ws : List WorkerId}
    (hstart : start count rng ws = .ok s) : Noted [] s := by
  unfold start at hstart
  cases hmaster : Master.start count rng ws with
  | error e =>
      rw [hmaster] at hstart
      cases hstart
  | ok m =>
      rw [hmaster] at hstart
      cases hstart
      refine ⟨fun w call eventId hcall => ?_, fun t attempt => ?_, rfl, rfl⟩
      · cases hcall
      · exact iff_of_false (Finset.notMem_empty _) List.not_mem_nil

end

def reallocationLog (s : Accounts) (acts : List Action) : List Reallocation :=
  Transition.outputs step reallocations s acts

/-- **Reallocations are counted.** At the end of a run the count is the number of tasks that
were sent with priority exactly if no task was recorded twice under one attempt and none is
still to be recorded. -/
theorem reallocations_counted_iff {count : ℕ} {rng : RandomSource} {ws : List WorkerId}
    {s₀ s : Accounts} {acts : List Action} (hstart : start count rng ws = .ok s₀)
    (hrun : Transition.run step s₀ acts = some s) :
    s.stats.totalReallocations = (placed (s₀.reallocationLog acts)).length ↔
      (recorded (s₀.reallocationLog acts)).Nodup ∧ s.unrecorded = 0 := by
  have h : Noted ([] ++ s₀.reallocationLog acts) s :=
    Transition.invariant_outputs (fun log s a s' h hstep => noted_step h hstep)
      (noted_start hstart) hrun
  rw [List.nil_append] at h
  generalize s₀.reallocationLog acts = log at h
  have hle := List.toFinset_card_le (recorded log)
  rw [h.total, h.placed]
  constructor
  · intro heq
    have hcard : (recorded log).toFinset.card = (recorded log).length := by omega
    refine ⟨?_, by omega⟩
    rw [List.card_toFinset] at hcard
    rw [← (List.dedup_sublist (recorded log)).eq_of_length hcard]
    exact List.nodup_dedup _
  · rintro ⟨hnodup, hnone⟩
    rw [List.toFinset_card_of_nodup hnodup, hnone, add_zero]

/-- A task that two workers have no room for, one after the other. -/
def overflowed : List Action :=
  [.distribute 0, .sent,
    .result "worker1" false { taskId := "task-0001", reason := some "queue overflow" } "r1"
      (.finite 0), .record "worker1",
    .distribute 1, .sent, .recordReallocation,
    .result "worker2" false { taskId := "task-0001", reason := some "queue overflow" } "r2"
      (.finite 0), .record "worker2",
    .distribute 2, .sent, .recordReallocation]

theorem exists_reached_from (count : ℕ) (rng : RandomSource) (ws : List WorkerId)
    (acts : List Action) {p : Accounts → Accounts → Prop} [∀ s₀ s, Decidable (p s₀ s)]
    (h : (start count rng ws).toOption.any (fun s₀ =>
      (Transition.run step s₀ acts).any fun s => decide (p s₀ s)) = true) :
    ∃ s₀ s, start count rng ws = .ok s₀ ∧ Transition.run step s₀ acts = some s ∧ p s₀ s :=
  Transition.exists_run_of_any h

set_option maxRecDepth 100000 in
/-- The task is placed again twice, and one reallocation is counted. -/
theorem not_reallocations_counted_overflowed :
    ∃ s₀ s, start 1 .first ["worker1", "worker2"] = .ok s₀ ∧
      Transition.run step s₀ overflowed = some s ∧
      s.distributor = .choosing ∧ s.stats.totalReallocations = 1 ∧
      placed (s₀.reallocationLog overflowed) = ["task-0001", "task-0001"] :=
  exists_reached_from 1 .first ["worker1", "worker2"] overflowed
    (p := fun s₀ s => s.distributor = .choosing ∧ s.stats.totalReallocations = 1 ∧
      placed (s₀.reallocationLog overflowed) = ["task-0001", "task-0001"]) (by decide +kernel)

set_option maxRecDepth 100000 in
theorem reallocations_counted_iff_overflowed :
    ∃ s₀ s, start 1 .first ["worker1", "worker2"] = .ok s₀ ∧
      Transition.run step s₀ overflowed = some s ∧
      recorded (s₀.reallocationLog overflowed) = [("task-0001", 0), ("task-0001", 0)] ∧
      (s.stats.totalReallocations = (placed (s₀.reallocationLog overflowed)).length ↔
        (recorded (s₀.reallocationLog overflowed)).Nodup ∧ s.unrecorded = 0) := by
  obtain ⟨s₀, s, hstart, hrun, hrecorded⟩ := exists_reached_from 1 .first ["worker1", "worker2"]
    overflowed
    (p := fun s₀ _ => recorded (s₀.reallocationLog overflowed) =
      [("task-0001", 0), ("task-0001", 0)]) (by decide +kernel)
  exact ⟨s₀, s, hstart, hrun, hrecorded, reallocations_counted_iff hstart hrun⟩

end Accounts

end KVStore
