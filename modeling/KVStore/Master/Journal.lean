import KVStore.Master.Run

/-!
# What the Master reports

The lines that the threads of the Master write while the tasks are distributed. A receiver
counts the stored results in the locked section, and writes the line about the result and the
progress after it has called the collector, when other receivers may have stored more. So
`Journal` adds to a run what a thread carries from its locked section to its line, and the log
is compared with the ledger, the store and the messages that were sent. The reason of a failure
is taken to be a text that can be put out; `Receiver` has the case in which it is not.
-/

namespace KVStore

open Python

def PROGRESS_INTERVAL : ℕ := 100

/-- A line of the events `DISTRIB`, `RESULT`, `PROGRESS` and `CONNECT`. -/
inductive MasterEntry
  | distributed (t : TaskId) (w : WorkerId) (priority : Bool)
  | succeeded (t : TaskId) (w : WorkerId)
  | progress (completedCount : ℕ)
  | failed (t : TaskId) (w : WorkerId) (reason : String)
  | disconnected (w : WorkerId)
deriving DecidableEq

/-- What a receiver carries from the locked section of a result that is acted upon. -/
inductive ResultFrame
  | success (t : TaskId) (completedCount : ℕ)
  | failure (t : TaskId) (reason : String)

/-- The progress that is reported. -/
def reportsProgress (taskCount completedCount : ℕ) : Bool :=
  completedCount % PROGRESS_INTERVAL = 0 ∨ completedCount = taskCount

def ResultFrame.entries (taskCount : ℕ) (w : WorkerId) : ResultFrame → List MasterEntry
  | .success t completedCount =>
      .succeeded t w ::
        if reportsProgress taskCount completedCount then [.progress completedCount] else []
  | .failure t reason => [.failed t w reason]

/-- A line about the success of `t`. -/
def MasterEntry.succeeds (t : TaskId) : MasterEntry → Bool
  | .succeeded u _ => u = t
  | _ => false

def MasterEntry.announces (c : ℕ) : MasterEntry → Bool
  | .progress completedCount => completedCount = c
  | _ => false

def MasterEntry.failsProcessing : MasterEntry → Bool
  | .failed _ _ reason => reason ≠ "queue overflow"
  | _ => false

/-- The task that the line reports as sent to `w`. -/
def MasterEntry.dispatchedTo (w : WorkerId) : MasterEntry → Option TaskId
  | .distributed t v _ => if v = w then some t else none
  | _ => none

def MasterEntry.disconnects (w : WorkerId) : MasterEntry → Bool
  | .disconnected v => v = w
  | _ => false

def ResultFrame.succeeds (t : TaskId) : ResultFrame → ℕ
  | .success u _ => if u = t then 1 else 0
  | .failure _ _ => 0

def ResultFrame.announces (taskCount c : ℕ) : ResultFrame → ℕ
  | .success _ completedCount =>
      if completedCount = c ∧ reportsProgress taskCount completedCount = true then 1 else 0
  | .failure _ _ => 0

def ResultFrame.failsProcessing : ResultFrame → ℤ
  | .success _ _ => 0
  | .failure _ reason => if reason = "queue overflow" then 0 else 1

/-- `frames` are the receivers that have lines to write, and `slot` is the task that the
distributor has sent and not reported yet. -/
structure Journal where
  run : MasterRun
  frames : Dict WorkerId ResultFrame := ∅
  slot : Option (TaskId × WorkerId × Bool) := none

namespace Journal

/-- `write`: a receiver writes its lines; `report`: the distributor does. -/
inductive Action
  | run (a : MasterRun.Action)
  | write (w : WorkerId)
  | report

def master (s : Journal) : Master := s.run.accounts.master

/-- The receiver that starts a new round of its loop with the step, or leaves it. -/
def nextRound : MasterRun.Action → Option WorkerId
  | .receiver (.result w _ _ _ _) => some w
  | .receiver (.queueStatus w _ _) => some w
  | .lost w => some w
  | .leave w => some w
  | .crash w => some w
  | _ => none

/-- The distributor has reported its last task before it takes the step. -/
def afterReport : MasterRun.Action → Bool
  | .distribute _ => true
  | .sendTask => true
  | .sendFailed _ => true
  | .abandon => true
  | _ => false

/-- What is carried from the locked section of a result, which leaves the Master as `m`. -/
def frameOf (m : Master) (succeeded : Bool) (payload : ResultPayload) : ResultFrame :=
  if succeeded then .success payload.taskId m.store.size
  else .failure payload.taskId (payload.reason.getD "processing failure")

/-- The frames after an action, which leads to `run`. -/
def framesAfter (s : Journal) (run : MasterRun) : MasterRun.Action → Dict WorkerId ResultFrame
  | .receiver (.result w succeeded payload _ _) =>
      match s.master.acceptedTask payload.taskId (payload.assignmentWorkerId.getD w) with
      | none => s.frames
      | some _ => s.frames.insert w (frameOf run.accounts.master succeeded payload)
  | _ => s.frames

def slotAfter (s : Journal) : MasterRun.Action → Option (TaskId × WorkerId × Bool)
  | .sendTask =>
      match s.run.accounts.distributor with
      | .sending assignment =>
          some (assignment.task.taskId, assignment.worker, assignment.priority)
      | _ => s.slot
  | _ => s.slot

def stepRun (s : Journal) (a : MasterRun.Action) : Option Journal :=
  if (∀ w ∈ nextRound a, s.frames.lookup w = none) ∧ (afterReport a = true → s.slot = none) then
    (s.run.step a).map fun run =>
      { run := run, frames := s.framesAfter run a, slot := s.slotAfter a }
  else
    none

def step (s : Journal) : Action → Option Journal
  | .run a => s.stepRun a
  | .write w =>
      if s.run.accounts.calls.lookup w = none ∧ w ∈ s.frames then
        some { s with frames := s.frames.erase w }
      else
        none
  | .report =>
      if s.run.accounts.distributor = .choosing ∧ s.slot.isSome then
        some { s with slot := none }
      else
        none

/-- The line of `_disconnect_worker`, which carries nothing over from the locked section. -/
def disconnection (s : Journal) (w : WorkerId) : List MasterEntry :=
  if s.master.connection w = some true then [.disconnected w] else []

/-- The lines that are written with an action. -/
def written (s : Journal) : Action → List MasterEntry
  | .write w =>
      match s.frames.lookup w with
      | some frame => frame.entries s.master.taskCount w
      | none => []
  | .report =>
      match s.slot with
      | some (t, w, priority) => [.distributed t w priority]
      | none => []
  | .run (.disconnect w _) => s.disconnection w
  | .run (.drop _) =>
      match s.run.phase with
      | .dropping w _ => s.disconnection w
      | _ => []
  | .run (.sendFailed _) =>
      match s.run.accounts.distributor with
      | .sending assignment => s.disconnection assignment.worker
      | _ => []
  | .run _ => []

/-! ### What a step does to the Master -/

/-- No result is acted upon. -/
def Calm (m m' : Master) : Prop :=
  m' = m ∨ (∃ failed, m' = m.close failed) ∨ ∃ b, m.step b = some m' ∧
    (∀ w payload, b ≠ .handleSuccess w payload) ∧ ∀ w payload, b ≠ .handleFailure w payload

section

variable {m m' : Master} {tasks : List Task} {s s' : MasterRun}

theorem done_iff (h : MasterRun.Regular tasks m) (t : TaskId) : m.place t = some .done ↔
    ∃ task ∈ tasks, task.taskId = t ∧ m.store.lookup task.key = some task.value := by
  constructor
  · intro hdone
    obtain ⟨_, task, htask⟩ := Master.state_of_place hdone
    obtain ⟨own, hown, hid, _⟩ := (h.describes.contents t task.key task.value).1
      (by rw [Master.contents, htask, Option.map_some])
    refine ⟨own, hown, hid, (h.storeExact _ _).2 ⟨own, hown, ?_, rfl, rfl⟩⟩
    rw [hid, h.consistent.state_done_iff]
    exact hdone
  · rintro ⟨task, htask, rfl, hstored⟩
    obtain ⟨other, hother, hdone, hkey, _⟩ := (h.storeExact _ _).1 hstored
    have heq : other = task := Master.eq_of_nodup_map h.describes.nodup_key hother htask hkey
    rw [← heq, ← h.consistent.state_done_iff]
    exact hdone

theorem done_congr (h : MasterRun.Regular tasks m) (h' : MasterRun.Regular tasks m')
    (hstore : m'.store = m.store) (t : TaskId) :
    m'.place t = some .done ↔ m.place t = some .done := by
  rw [done_iff h', done_iff h, hstore]

theorem Calm.of_step {b : Master.Action} (hstep : m.step b = some m')
    (hsuccess : ∀ w payload, b ≠ .handleSuccess w payload)
    (hfailure : ∀ w payload, b ≠ .handleFailure w payload) : Calm m m' :=
  .inr (.inr ⟨b, hstep, hsuccess, hfailure⟩)

theorem calm_of_accounts {accounts accounts' : Accounts} {a : Accounts.Action}
    (hstep : accounts.step a = some accounts')
    (ha : ∀ w succeeded payload r waitSeconds, a ≠ .result w succeeded payload r waitSeconds) :
    Calm accounts.master accounts'.master := by
  cases a with
  | result w succeeded payload r waitSeconds =>
      exact absurd rfl (ha w succeeded payload r waitSeconds)
  | queueStatus w payload p2p =>
      change accounts.queueStatus w payload p2p = some accounts' at hstep
      unfold Accounts.queueStatus at hstep
      split_ifs at hstep with hguard
      obtain ⟨c, hc⟩ := Option.isSome_iff_exists.1 (AList.lookup_isSome.2 hguard.2)
      split at hstep
      · cases hstep
        exact .inl rfl
      all_goals
        rename_i m hmaster
        cases hstep
        refine .of_step (b := .queueStatus w payload) ?_ (by rintro _ _ ⟨⟩) (by rintro _ _ ⟨⟩)
        simp only [Master.step, hc, Option.map_some, hmaster]
  | record w =>
      obtain ⟨call, _, rfl⟩ := Option.map_eq_some_iff.1 hstep
      exact .inl rfl
  | disconnect w order =>
      change accounts.disconnect w order = some accounts' at hstep
      unfold Accounts.disconnect at hstep
      split_ifs at hstep
      obtain ⟨m, hmaster, rfl⟩ := Option.map_eq_some_iff.1 hstep
      exact .of_step hmaster (by rintro _ _ ⟨⟩) (by rintro _ _ ⟨⟩)
  | distribute now =>
      change accounts.distribute now = some accounts' at hstep
      unfold Accounts.distribute at hstep
      split_ifs at hstep with hguard hcomplete hconnected
      · cases hstep
        exact .inl rfl
      · obtain ⟨next, hnext, hstep⟩ := Option.map_eq_some_iff.1 hstep
        have hmaster : accounts.master.step (.nextAssignment now) = some next.2 := by
          rw [Master.step, hnext, Option.map_some]
        have hcalm : Calm accounts.master next.2 :=
          .of_step hmaster (by rintro _ _ ⟨⟩) (by rintro _ _ ⟨⟩)
        obtain ⟨_ | assignment, m⟩ := next <;> cases hstep <;> exact hcalm
      · cases hstep
        exact .inl rfl
  | sent =>
      change accounts.sent = some accounts' at hstep
      unfold Accounts.sent at hstep
      split at hstep <;> cases hstep
      exact .inl rfl
  | sendFail order =>
      change accounts.sendFail order = some accounts' at hstep
      unfold Accounts.sendFail at hstep
      split at hstep
      · obtain ⟨m, hmaster, rfl⟩ := Option.map_eq_some_iff.1 hstep
        exact .of_step hmaster (by rintro _ _ ⟨⟩) (by rintro _ _ ⟨⟩)
      · cases hstep
  | recordReallocation =>
      change accounts.recordReallocation = some accounts' at hstep
      unfold Accounts.recordReallocation at hstep
      split at hstep
      · obtain ⟨task, _, rfl⟩ := Option.map_eq_some_iff.1 hstep
        exact .inl rfl
      · cases hstep
  | emitStatistics now =>
      change accounts.emitStatistics now = some accounts' at hstep
      unfold Accounts.emitStatistics at hstep
      split_ifs at hstep
      cases hstep
      exact .inl rfl

def sentTasks (messages : List MasterMessage) : List TaskId :=
  messages.filterMap fun
    | .task t => some t
    | .terminate => none

theorem sentTasks_addSent (s : MasterRun) (v : WorkerId) (message : MasterMessage)
    (w : WorkerId) : sentTasks ((s.addSent v message).sent w) =
      sentTasks (s.sent w) ++ if v = w then sentTasks [message] else [] := by
  change sentTasks (Function.update s.sent v (s.sent v ++ [message]) w) = _
  by_cases hv : v = w
  · subst hv
    rw [Function.update_self, if_pos rfl]
    exact List.filterMap_append ..
  · rw [Function.update_of_ne (Ne.symm hv), if_neg hv, List.append_nil]

/-- A step in which no result is handled and no task is sent. -/
structure Beside (s s' : MasterRun) : Prop where
  calm : Calm s.accounts.master s'.accounts.master
  sent : ∀ w, sentTasks (s'.sent w) = sentTasks (s.sent w)

theorem beside_of_run {a : MasterRun.Action} (hstep : s.step a = some s')
    (hresult : ∀ w succeeded payload r waitSeconds,
      a ≠ .receiver (.result w succeeded payload r waitSeconds))
    (hsend : a ≠ .sendTask) : Beside s s' := by
  have hdistributor : ∀ {u : MasterRun} {b : Accounts.Action}, s.distributor b = some u →
      (∀ w succeeded payload r waitSeconds, b ≠ .result w succeeded payload r waitSeconds) →
      Beside s u := by
    intro u b hu hb
    unfold MasterRun.distributor at hu
    split at hu
    · obtain ⟨accounts, haccounts, rfl⟩ := Option.map_eq_some_iff.1 hu
      exact ⟨calm_of_accounts haccounts hb, fun _ => rfl⟩
    · cases hu
  cases a with
  | receiver b =>
      change s.receive b = some s' at hstep
      unfold MasterRun.receive at hstep
      split at hstep
      · cases hstep
      split_ifs at hstep
      obtain ⟨accounts, haccounts, rfl⟩ := Option.map_eq_some_iff.1 hstep
      have hne : ∀ w succeeded payload r waitSeconds,
          b ≠ .result w succeeded payload r waitSeconds :=
        fun w succeeded payload r waitSeconds heq =>
          hresult w succeeded payload r waitSeconds (congrArg _ heq)
      exact ⟨calm_of_accounts haccounts hne, fun _ => rfl⟩
  | disconnect w order =>
      change s.disconnect w order = some s' at hstep
      unfold MasterRun.disconnect at hstep
      split_ifs at hstep
      obtain ⟨m, hmaster, rfl⟩ := Option.map_eq_some_iff.1 hstep
      exact ⟨.of_step hmaster (fun _ _ => nofun) fun _ _ => nofun, fun _ => rfl⟩
  | distribute now => exact hdistributor hstep fun _ _ _ _ _ => nofun
  | sendTask => exact absurd rfl hsend
  | sendFailed order => exact hdistributor hstep fun _ _ _ _ _ => nofun
  | recordReallocation => exact hdistributor hstep fun _ _ _ _ _ => nofun
  | drop order =>
      change s.drop order = some s' at hstep
      unfold MasterRun.drop at hstep
      split at hstep
      · obtain ⟨m, hmaster, rfl⟩ := Option.map_eq_some_iff.1 hstep
        exact ⟨.of_step hmaster (fun _ _ => nofun) fun _ _ => nofun, fun _ => rfl⟩
      · cases hstep
  | lost w =>
      change s.lost w = some s' at hstep
      unfold MasterRun.lost at hstep
      split_ifs at hstep <;> cases hstep <;> exact ⟨.inl rfl, fun _ => rfl⟩
  | leave w =>
      change s.leave w = some s' at hstep
      unfold MasterRun.leave at hstep
      split_ifs at hstep
      cases hstep
      exact ⟨.inl rfl, fun _ => rfl⟩
  | crash w =>
      change (if s.Idle w then some (s.setReceiver w .ended) else none) = some s' at hstep
      split_ifs at hstep
      cases hstep
      exact ⟨.inl rfl, fun _ => rfl⟩
  | abandon =>
      change s.abandon = some s' at hstep
      unfold MasterRun.abandon at hstep
      split at hstep
      · split_ifs at hstep
        cases hstep
        exact ⟨.inl rfl, fun _ => rfl⟩
      · cases hstep
  | emitStatistics now order =>
      change s.emitStatistics now order = some s' at hstep
      unfold MasterRun.emitStatistics at hstep
      split at hstep
      · split_ifs at hstep
        cases hstep
        exact ⟨.inl rfl, fun _ => rfl⟩
      · cases hstep
  | request =>
      change s.request = some s' at hstep
      unfold MasterRun.request at hstep
      split at hstep
      · cases hstep
        exact ⟨.inl rfl, fun _ => rfl⟩
      · split_ifs at hstep <;> cases hstep <;> exact ⟨.inl rfl, fun _ => rfl⟩
      · cases hstep
  | sendTerminate =>
      change s.sendTerminate = some s' at hstep
      unfold MasterRun.sendTerminate at hstep
      split at hstep <;> cases hstep
      refine ⟨.inl rfl, fun v => ?_⟩
      exact (sentTasks_addSent _ _ _ _).trans (by simp [sentTasks])
  | terminateFailed =>
      change s.terminateFailed = some s' at hstep
      unfold MasterRun.terminateFailed at hstep
      split at hstep <;> cases hstep
      exact ⟨.inl rfl, fun _ => rfl⟩
  | stop failed =>
      change s.stop failed = some s' at hstep
      unfold MasterRun.stop at hstep
      split at hstep <;> cases hstep
      exact ⟨.inr (.inl ⟨failed, rfl⟩), fun _ => rfl⟩
  | join =>
      change s.join = some s' at hstep
      unfold MasterRun.join at hstep
      split at hstep <;> cases hstep <;> exact ⟨.inl rfl, fun _ => rfl⟩
  | interrupt failed =>
      cases hstep
      exact ⟨.inr (.inl ⟨failed, rfl⟩), fun _ => rfl⟩

theorem sendTask_of_run (hstep : s.step .sendTask = some s') :
    ∃ assignment, s.accounts.distributor = .sending assignment ∧
      s'.accounts.master = s.accounts.master ∧
      ∀ w, sentTasks (s'.sent w) = sentTasks (s.sent w) ++
        if assignment.worker = w then [assignment.task.taskId] else [] := by
  change s.sendTask = some s' at hstep
  unfold MasterRun.sendTask at hstep
  split at hstep
  swap
  · cases hstep
  rename_i assignment hsending
  obtain ⟨u, hu, rfl⟩ := Option.map_eq_some_iff.1 hstep
  unfold MasterRun.distributor at hu
  split at hu
  swap
  · cases hu
  obtain ⟨accounts, haccounts, rfl⟩ := Option.map_eq_some_iff.1 hu
  change s.accounts.sent = some accounts at haccounts
  rw [Accounts.sent, hsending] at haccounts
  cases haccounts
  refine ⟨assignment, hsending, rfl, fun w => ?_⟩
  exact sentTasks_addSent _ _ _ _

theorem calm_of_run {a : MasterRun.Action} (hstep : s.step a = some s')
    (hresult : ∀ w succeeded payload r waitSeconds,
      a ≠ .receiver (.result w succeeded payload r waitSeconds)) :
    Calm s.accounts.master s'.accounts.master := by
  by_cases hsend : a = .sendTask
  · subst hsend
    obtain ⟨_, _, hmaster, _⟩ := sendTask_of_run hstep
    exact .inl hmaster
  · exact (beside_of_run hstep hresult hsend).calm

theorem result_of_run {w : WorkerId} {succeeded : Bool} {payload : ResultPayload}
    {r : RequestId} {waitSeconds : PyFloat}
    (hstep : s.step (.receiver (.result w succeeded payload r waitSeconds)) = some s') :
    s.accounts.master.step (if succeeded then .handleSuccess w payload
      else .handleFailure w payload) = some s'.accounts.master ∧ s'.sent = s.sent := by
  change s.receive (.result w succeeded payload r waitSeconds) = some s' at hstep
  unfold MasterRun.receive at hstep
  split at hstep
  · cases hstep
  split_ifs at hstep
  obtain ⟨accounts, haccounts, rfl⟩ := Option.map_eq_some_iff.1 hstep
  change s.accounts.result w succeeded payload r waitSeconds = some accounts at haccounts
  unfold Accounts.result at haccounts
  split at haccounts
  swap
  · cases haccounts
  obtain ⟨m, hmaster, haccounts⟩ := Option.map_eq_some_iff.1 haccounts
  have heq : accounts.master = m := by
    split at haccounts <;> cases haccounts <;> rfl
  refine ⟨?_, rfl⟩
  dsimp only
  rw [heq]
  exact hmaster

theorem refused_of_step {w : WorkerId} {succeeded : Bool} {payload : ResultPayload}
    (hrefused : m.acceptedTask payload.taskId (payload.assignmentWorkerId.getD w) = none)
    (hstep : m.step (if succeeded then .handleSuccess w payload
      else .handleFailure w payload) = some m') : m' = m := by
  obtain ⟨hsuccess, hfailure⟩ := Accounts.handled_of_refused hrefused
  cases succeeded with
  | true =>
      obtain ⟨c, _, rfl⟩ := Option.map_eq_some_iff.1 hstep
      exact hsuccess
  | false =>
      obtain ⟨c, _, rfl⟩ := Option.map_eq_some_iff.1 hstep
      exact hfailure

theorem finished_of_step (h : MasterRun.Regular tasks m) {w : WorkerId}
    {payload : ResultPayload} {task : Task}
    (haccepted : m.acceptedTask payload.taskId (payload.assignmentWorkerId.getD w) = some task)
    (hstep : m.step (.handleSuccess w payload) = some m') :
    (∀ t, m'.place t = some .done ↔ t = payload.taskId ∨ m.place t = some .done) ∧
      m.place payload.taskId ≠ some .done ∧ m'.store.size = m.store.size + 1 ∧
      m'.tasks = m.tasks := by
  obtain ⟨_, hplace⟩ := (Master.acceptedTask_eq_some_iff h.consistent).1 haccepted
  obtain ⟨c, _, rfl⟩ := Option.map_eq_some_iff.1 hstep
  obtain ⟨hnot, _⟩ | ⟨own, _, hown, _, hfinished⟩ :=
    Master.handleSuccess_cases h.consistent w payload
  · exact absurd hplace hnot
  refine ⟨fun t => ?_, fun hdone => ?_, Accounts.size_finished h.storeExact h.describes
    h.consistent hplace hown hfinished, hfinished.tasks⟩
  · rw [hfinished.place]
    by_cases ht : t = payload.taskId
    · subst ht
      simp
    · rw [Function.update_of_ne ht]
      exact ⟨.inr, fun h => h.resolve_left ht⟩
  · rw [hplace] at hdone
    cases hdone

end

/-! ### The lines about results -/

/-- A kind of lines about results, and a quantity of the Master that they are compared with:
what a receiver is about to write of them has been added to the quantity in its locked
section. -/
structure Audit (M : Type*) [AddCommMonoidWithOne M] (tasks : List Task) where
  line : MasterEntry → Bool
  frame : ResultFrame → M
  value : Master → M
  entries : ∀ (f : ResultFrame) (w : WorkerId),
    ((f.entries tasks.length w).countP line : M) = frame f
  distributed : ∀ t w priority, line (.distributed t w priority) = false
  disconnected : ∀ w, line (.disconnected w) = false
  calm : ∀ m m', MasterRun.Regular tasks m → MasterRun.Regular tasks m' → Calm m m' →
    value m' = value m
  result : ∀ m m' task w succeeded payload, MasterRun.Regular tasks m →
    m.acceptedTask payload.taskId (payload.assignmentWorkerId.getD w) = some task →
    m.step (if succeeded = true then .handleSuccess w payload
      else .handleFailure w payload) = some m' →
    value m' = value m + frame (frameOf m' succeeded payload)

section

variable {M : Type*} [AddCommMonoidWithOne M] {tasks : List Task} {A : Audit M tasks}
  {s s' : Journal} {log : List MasterEntry}

/-- What was written and what is still to be written agree with the Master. -/
def Audit.Balanced (A : Audit M tasks) (log : List MasterEntry) (s : Journal) : Prop :=
  (log.countP A.line : M) + s.frames.total A.frame = A.value s.master

theorem eq_of_mem_disconnection {w : WorkerId} {entry : MasterEntry}
    (h : entry ∈ s.disconnection w) : entry = .disconnected w := by
  unfold disconnection at h
  split_ifs at h
  · exact List.mem_singleton.1 h
  · exact absurd h List.not_mem_nil

theorem written_run {a : MasterRun.Action} {entry : MasterEntry}
    (h : entry ∈ s.written (.run a)) : ∃ w, entry = .disconnected w := by
  unfold written at h
  split at h
  · rename_i heq
    cases heq
  · rename_i heq
    cases heq
  · exact ⟨_, eq_of_mem_disconnection h⟩
  · split at h
    · exact ⟨_, eq_of_mem_disconnection h⟩
    · exact absurd h List.not_mem_nil
  · split at h
    · exact ⟨_, eq_of_mem_disconnection h⟩
    · exact absurd h List.not_mem_nil
  · exact absurd h List.not_mem_nil

theorem countP_written_run (A : Audit M tasks) (s : Journal) (a : MasterRun.Action) :
    (s.written (.run a)).countP A.line = 0 := by
  refine List.countP_eq_zero.2 fun entry hentry => ?_
  obtain ⟨w, rfl⟩ := written_run hentry
  simp [A.disconnected]

theorem step_run_eq_some {a : MasterRun.Action} (hstep : s.step (.run a) = some s') :
    ∃ run, s.run.step a = some run ∧ (∀ w ∈ nextRound a, s.frames.lookup w = none) ∧
      (afterReport a = true → s.slot = none) ∧
      s' = { run := run, frames := s.framesAfter run a, slot := s.slotAfter a } := by
  change s.stepRun a = some s' at hstep
  unfold stepRun at hstep
  by_cases hguard : (∀ w ∈ nextRound a, s.frames.lookup w = none) ∧
      (afterReport a = true → s.slot = none)
  · rw [if_pos hguard] at hstep
    obtain ⟨run, hrun, rfl⟩ := Option.map_eq_some_iff.1 hstep
    exact ⟨run, hrun, hguard.1, hguard.2, rfl⟩
  · rw [if_neg hguard] at hstep
    cases hstep

theorem framesAfter_of_ne {a : MasterRun.Action} (run : MasterRun)
    (ha : ∀ w succeeded payload r waitSeconds,
      a ≠ .receiver (.result w succeeded payload r waitSeconds)) :
    s.framesAfter run a = s.frames := by
  unfold framesAfter
  split
  · exact absurd rfl (ha _ _ _ _ _)
  · rfl

theorem Audit.Balanced.result (h : A.Balanced log s) (hregular : MasterRun.Regular tasks s.master)
    {w : WorkerId} {succeeded : Bool} {payload : ResultPayload} {r : RequestId}
    {waitSeconds : PyFloat}
    (hstep : s.step (.run (.receiver (.result w succeeded payload r waitSeconds))) = some s') :
    A.Balanced log s' := by
  obtain ⟨run, hrun, hround, _, rfl⟩ := step_run_eq_some hstep
  obtain ⟨hmaster, _⟩ := result_of_run hrun
  have hfree : s.frames.lookup w = none := hround w rfl
  unfold Balanced at h ⊢
  rw [framesAfter]
  cases haccepted : s.master.acceptedTask payload.taskId (payload.assignmentWorkerId.getD w) with
  | none =>
      have hsame : run.accounts.master = s.master := refused_of_step haccepted hmaster
      exact h.trans (congrArg A.value hsame.symm)
  | some task =>
      have hvalue := A.result _ _ task w succeeded payload hregular haccepted hmaster
      dsimp only
      rw [Dict.total_insert_of_lookup_eq_none _ hfree, add_left_comm, h, add_comm]
      exact hvalue.symm

theorem Audit.Balanced.step (h : A.Balanced log s) (hregular : MasterRun.Regular tasks s.master)
    (hregular' : MasterRun.Regular tasks s'.master) {a : Action} (hstep : s.step a = some s') :
    A.Balanced (log ++ s.written a) s' := by
  cases a with
  | run a =>
      have hwritten : A.Balanced (log ++ s.written (.run a)) s' ↔ A.Balanced log s' := by
        rw [Balanced, Balanced, List.countP_append, countP_written_run, add_zero]
      rw [hwritten]
      by_cases ha : ∃ w succeeded payload r waitSeconds,
          a = .receiver (.result w succeeded payload r waitSeconds)
      · obtain ⟨w, succeeded, payload, r, waitSeconds, rfl⟩ := ha
        exact h.result hregular hstep
      · obtain ⟨run, hrun, _, _, rfl⟩ := step_run_eq_some hstep
        have hne : ∀ w succeeded payload r waitSeconds,
            a ≠ .receiver (.result w succeeded payload r waitSeconds) :=
          fun w succeeded payload r waitSeconds heq =>
            ha ⟨w, succeeded, payload, r, waitSeconds, heq⟩
        have hvalue := A.calm _ _ hregular hregular' (calm_of_run hrun hne)
        unfold Balanced at h ⊢
        rw [framesAfter_of_ne run hne]
        exact h.trans hvalue.symm
  | write w =>
      change (if _ then some { s with frames := s.frames.erase w } else none) = some s' at hstep
      split_ifs at hstep with hguard
      cases hstep
      obtain ⟨frame, hframe⟩ := Option.isSome_iff_exists.1 (AList.lookup_isSome.2 hguard.2)
      unfold Balanced at h ⊢
      rw [written, hframe, List.countP_append, Nat.cast_add]
      dsimp only
      rw [hregular.describes.taskCount, A.entries, add_assoc,
        ← Dict.total_of_lookup_eq_some A.frame hframe]
      exact h
  | report =>
      change (if _ then some { s with slot := none } else none) = some s' at hstep
      split_ifs at hstep with hguard
      cases hstep
      obtain ⟨⟨t, w, priority⟩, hslot⟩ := Option.isSome_iff_exists.1 hguard.2
      unfold Balanced at h ⊢
      rw [written, hslot, List.countP_append]
      dsimp only
      rw [List.countP_singleton, if_neg (by simp [A.distributed]), add_zero]
      exact h

end

/-! #### Three kinds of lines -/

section

variable {tasks : List Task} {m m' : Master}

theorem Calm.same (h : MasterRun.Regular tasks m) (hcalm : Calm m m') :
    m'.store = m.store ∧ m'.tasks.total Task.attempt = m.tasks.total Task.attempt := by
  obtain rfl | ⟨failed, rfl⟩ | ⟨b, hstep, hsuccess, hfailure⟩ := hcalm
  · exact ⟨rfl, rfl⟩
  · exact ⟨rfl, rfl⟩
  · exact ⟨Accounts.store_step h.consistent hstep hsuccess,
      Accounts.attempts_step h.consistent hstep hfailure⟩

theorem store_of_failure (h : MasterRun.Regular tasks m) {w : WorkerId}
    {payload : ResultPayload} (hstep : m.step (.handleFailure w payload) = some m') :
    m'.store = m.store :=
  Accounts.store_step h.consistent hstep fun _ _ => nofun

theorem countP_entries_succeeds (taskCount : ℕ) (t : TaskId) (f : ResultFrame) (w : WorkerId) :
    (f.entries taskCount w).countP (MasterEntry.succeeds t) = f.succeeds t := by
  cases f with
  | success u completedCount =>
      rw [ResultFrame.entries, List.countP_cons]
      split_ifs <;> simp_all [MasterEntry.succeeds, ResultFrame.succeeds]
  | failure u reason => simp [ResultFrame.entries, MasterEntry.succeeds, ResultFrame.succeeds]

theorem countP_entries_announces (taskCount c : ℕ) (f : ResultFrame) (w : WorkerId) :
    (f.entries taskCount w).countP (MasterEntry.announces c) = f.announces taskCount c := by
  cases f with
  | success u completedCount =>
      rw [ResultFrame.entries, List.countP_cons]
      split_ifs <;> simp_all [MasterEntry.announces, ResultFrame.announces]
  | failure u reason => simp [ResultFrame.entries, MasterEntry.announces, ResultFrame.announces]

theorem countP_entries_failsProcessing (taskCount : ℕ) (f : ResultFrame) (w : WorkerId) :
    ((f.entries taskCount w).countP MasterEntry.failsProcessing : ℤ) = f.failsProcessing := by
  cases f with
  | success u completedCount =>
      rw [ResultFrame.entries, List.countP_cons]
      split_ifs <;> simp_all [MasterEntry.failsProcessing, ResultFrame.failsProcessing]
  | failure u reason =>
      simp [ResultFrame.entries, MasterEntry.failsProcessing, ResultFrame.failsProcessing]

section

variable {task : Task} {w : WorkerId} {succeeded : Bool} {payload : ResultPayload}

theorem done_of_result (h : MasterRun.Regular tasks m) (t : TaskId)
    (haccepted : m.acceptedTask payload.taskId (payload.assignmentWorkerId.getD w) = some task)
    (hstep : m.step (if succeeded then .handleSuccess w payload
      else .handleFailure w payload) = some m') :
    (if m'.place t = some .done then 1 else 0) =
      (if m.place t = some .done then 1 else 0) + (frameOf m' succeeded payload).succeeds t := by
  cases succeeded with
  | true =>
      obtain ⟨hdone, hnot, _⟩ := finished_of_step h haccepted hstep
      simp only [hdone, frameOf, if_true, ResultFrame.succeeds]
      by_cases ht : payload.taskId = t
      · subst ht
        simp [hnot]
      · simp [ht, Ne.symm ht]
  | false =>
      have hsame := done_congr h (h.step hstep) (store_of_failure h hstep) t
      simp only [hsame, frameOf, Bool.false_eq_true, if_false, ResultFrame.succeeds, add_zero]

theorem size_of_result (h : MasterRun.Regular tasks m) (c : ℕ)
    (haccepted : m.acceptedTask payload.taskId (payload.assignmentWorkerId.getD w) = some task)
    (hstep : m.step (if succeeded then .handleSuccess w payload
      else .handleFailure w payload) = some m') :
    (if 0 < c ∧ c ≤ m'.store.size ∧ reportsProgress tasks.length c = true then 1 else 0) =
      (if 0 < c ∧ c ≤ m.store.size ∧ reportsProgress tasks.length c = true then 1 else 0) +
        (frameOf m' succeeded payload).announces tasks.length c := by
  cases succeeded with
  | true =>
      obtain ⟨_, _, hsize, _⟩ := finished_of_step h haccepted hstep
      simp only [frameOf, if_true, ResultFrame.announces, hsize]
      by_cases hc : m.store.size + 1 = c
      · subst hc
        simp
      · have hle : c ≤ m.store.size + 1 ↔ c ≤ m.store.size := by omega
        simp only [hle, hc, false_and, if_false, add_zero]
  | false =>
      simp only [store_of_failure h hstep, frameOf, Bool.false_eq_true, if_false,
        ResultFrame.announces, add_zero]

theorem attempts_of_result (h : MasterRun.Regular tasks m)
    (haccepted : m.acceptedTask payload.taskId (payload.assignmentWorkerId.getD w) = some task)
    (hstep : m.step (if succeeded then .handleSuccess w payload
      else .handleFailure w payload) = some m') :
    m'.tasks.total Task.attempt =
      m.tasks.total Task.attempt + (frameOf m' succeeded payload).failsProcessing := by
  cases succeeded with
  | true =>
      obtain ⟨_, _, _, htasks⟩ := finished_of_step h haccepted hstep
      simp only [frameOf, if_true, ResultFrame.failsProcessing, htasks, add_zero]
  | false =>
      obtain ⟨c, _, rfl⟩ := Option.map_eq_some_iff.1 hstep
      exact Accounts.attempts_handleFailure h.consistent haccepted

end

def successes (tasks : List Task) (t : TaskId) : Audit ℕ tasks where
  line := MasterEntry.succeeds t
  frame := ResultFrame.succeeds t
  value m := if m.place t = some .done then 1 else 0
  entries f w := countP_entries_succeeds tasks.length t f w
  distributed _ _ _ := rfl
  disconnected _ := rfl
  calm _ _ h h' hcalm := if_congr (done_congr h h' (hcalm.same h).1 t) rfl rfl
  result _ _ _ _ _ _ h haccepted hstep := done_of_result h t haccepted hstep

def announcements (tasks : List Task) (c : ℕ) : Audit ℕ tasks where
  line := MasterEntry.announces c
  frame := ResultFrame.announces tasks.length c
  value m :=
    if 0 < c ∧ c ≤ m.store.size ∧ reportsProgress tasks.length c = true then 1 else 0
  entries f w := countP_entries_announces tasks.length c f w
  distributed _ _ _ := rfl
  disconnected _ := rfl
  calm _ _ h _ hcalm := if_congr (and_congr_right fun _ =>
    and_congr_left fun _ => (hcalm.same h).1 ▸ Iff.rfl) rfl rfl
  result _ _ _ _ _ _ h haccepted hstep := size_of_result h c haccepted hstep

def failures (tasks : List Task) : Audit ℤ tasks where
  line := MasterEntry.failsProcessing
  frame := ResultFrame.failsProcessing
  value m := m.tasks.total Task.attempt
  entries f w := countP_entries_failsProcessing tasks.length f w
  distributed _ _ _ := rfl
  disconnected _ := rfl
  calm _ _ h _ hcalm := (hcalm.same h).2
  result _ _ _ _ _ _ h haccepted hstep := attempts_of_result h haccepted hstep

end

/-! ### The lines about tasks and workers -/

section

variable {tasks : List Task} {s s' : Journal} {log : List MasterEntry}

/-- The task sent to `w` that is not reported yet. -/
def slotTo (s : Journal) (w : WorkerId) : List TaskId :=
  match s.slot with
  | some (t, v, _) => if v = w then [t] else []
  | none => []

theorem filterMap_written_run (s : Journal) (a : MasterRun.Action) (w : WorkerId) :
    (s.written (.run a)).filterMap (MasterEntry.dispatchedTo w) = [] := by
  refine List.filterMap_eq_nil_iff.2 fun entry hentry => ?_
  obtain ⟨v, rfl⟩ := written_run hentry
  rfl

theorem filterMap_entries (taskCount : ℕ) (f : ResultFrame) (v w : WorkerId) :
    (f.entries taskCount v).filterMap (MasterEntry.dispatchedTo w) = [] := by
  cases f with
  | success t completedCount =>
      rw [ResultFrame.entries]
      split_ifs <;> rfl
  | failure t reason => rfl

theorem slotAfter_of_ne {a : MasterRun.Action} (ha : a ≠ .sendTask) :
    s.slotAfter a = s.slot := by
  unfold slotAfter
  split
  · exact absurd rfl ha
  · rfl

theorem dispatched_step {w : WorkerId} {a : Action}
    (h : sentTasks (s.run.sent w) =
      log.filterMap (MasterEntry.dispatchedTo w) ++ s.slotTo w)
    (hstep : s.step a = some s') :
    sentTasks (s'.run.sent w) =
      (log ++ s.written a).filterMap (MasterEntry.dispatchedTo w) ++ s'.slotTo w := by
  rw [List.filterMap_append]
  cases a with
  | run a =>
      obtain ⟨run, hrun, _, hreport, rfl⟩ := step_run_eq_some hstep
      rw [filterMap_written_run, List.append_nil]
      by_cases hsend : a = .sendTask
      · subst hsend
        obtain ⟨assignment, hsending, _, hsent⟩ := sendTask_of_run hrun
        have hnone : s.slotTo w = [] := by rw [slotTo, hreport rfl]
        rw [hnone, List.append_nil] at h
        rw [hsent, h]
        simp only [slotTo, slotAfter, hsending]
      · have hsame : sentTasks (run.sent w) = sentTasks (s.run.sent w) := by
          by_cases hresult : ∃ w succeeded payload r waitSeconds,
              a = .receiver (.result w succeeded payload r waitSeconds)
          · obtain ⟨v, succeeded, payload, r, waitSeconds, rfl⟩ := hresult
            rw [(result_of_run hrun).2]
          · refine (beside_of_run hrun ?_ hsend).sent w
            exact fun v succeeded payload r waitSeconds heq =>
              hresult ⟨v, succeeded, payload, r, waitSeconds, heq⟩
        rw [hsame, h]
        simp only [slotTo, slotAfter_of_ne hsend]
  | write v =>
      change (if _ then some { s with frames := s.frames.erase v } else none) = some s' at hstep
      split_ifs at hstep with hguard
      cases hstep
      obtain ⟨frame, hframe⟩ := Option.isSome_iff_exists.1 (AList.lookup_isSome.2 hguard.2)
      rw [written, hframe]
      dsimp only
      rw [filterMap_entries, List.append_nil]
      exact h
  | report =>
      change (if _ then some { s with slot := none } else none) = some s' at hstep
      split_ifs at hstep with hguard
      cases hstep
      obtain ⟨⟨t, v, priority⟩, hslot⟩ := Option.isSome_iff_exists.1 hguard.2
      rw [written, hslot]
      rw [slotTo, hslot] at h
      dsimp only at h ⊢
      rw [h, slotTo, List.append_nil]
      congr 1
      by_cases hv : v = w
      · simp [MasterEntry.dispatchedTo, hv]
      · simp [MasterEntry.dispatchedTo, hv]

theorem Calm.connected {m m' : Master} (hm : Master.Consistent m) (h : Calm m m')
    {w : WorkerId} (hw : m'.connection w = some true) : m.connection w = some true := by
  obtain rfl | ⟨failed, rfl⟩ | ⟨b, hstep, _⟩ := h
  · exact hw
  · exact MasterRun.connection_of_close hw
  · exact (Master.step_effect hm hstep).2.connected hw

theorem connected_of_run {run run' : MasterRun} {a : MasterRun.Action}
    (hm : Master.Consistent run.accounts.master) (hstep : run.step a = some run')
    {w : WorkerId} (hw : run'.accounts.master.connection w = some true) :
    run.accounts.master.connection w = some true := by
  by_cases hresult : ∃ w succeeded payload r waitSeconds,
      a = .receiver (.result w succeeded payload r waitSeconds)
  · obtain ⟨v, succeeded, payload, r, waitSeconds, rfl⟩ := hresult
    exact (Master.step_effect hm (result_of_run hstep).1).2.connected hw
  · refine (calm_of_run hstep ?_).connected hm hw
    exact fun v succeeded payload r waitSeconds heq =>
      hresult ⟨v, succeeded, payload, r, waitSeconds, heq⟩

/-- The line about a lost worker is written in the step in which it is given up. -/
theorem written_run_cases {run : MasterRun} {a : MasterRun.Action}
    (hm : Master.Consistent s.master) (hstep : s.run.step a = some run) :
    s.written (.run a) = [] ∨ ∃ w, s.written (.run a) = [.disconnected w] ∧
      s.master.connection w = some true ∧ run.accounts.master.connection w ≠ some true := by
  have hgiven : ∀ {w order}, s.master.step (.disconnectWorker w order) = some run.accounts.master →
      s.disconnection w = [] ∨ ∃ v, s.disconnection w = [.disconnected v] ∧
        s.master.connection v = some true ∧ run.accounts.master.connection v ≠ some true := by
    intro w order hmaster
    unfold disconnection
    split_ifs with hw
    · exact .inr ⟨w, rfl, hw, Master.connection_disconnectWorker hm hmaster⟩
    · exact .inl rfl
  cases a with
  | disconnect w order =>
      change s.run.disconnect w order = some run at hstep
      unfold MasterRun.disconnect at hstep
      split_ifs at hstep
      obtain ⟨m, hmaster, rfl⟩ := Option.map_eq_some_iff.1 hstep
      exact hgiven hmaster
  | drop order =>
      change s.run.drop order = some run at hstep
      unfold MasterRun.drop at hstep
      split at hstep
      · rename_i w remaining hphase
        obtain ⟨m, hmaster, rfl⟩ := Option.map_eq_some_iff.1 hstep
        rw [written, hphase]
        exact hgiven hmaster
      · cases hstep
  | sendFailed order =>
      change s.run.distributor (.sendFail order) = some run at hstep
      unfold MasterRun.distributor at hstep
      split at hstep
      swap
      · cases hstep
      obtain ⟨accounts, haccounts, rfl⟩ := Option.map_eq_some_iff.1 hstep
      change s.run.accounts.sendFail order = some accounts at haccounts
      unfold Accounts.sendFail at haccounts
      split at haccounts
      · rename_i assignment hsending
        obtain ⟨m, hmaster, rfl⟩ := Option.map_eq_some_iff.1 haccounts
        rw [written, hsending]
        exact hgiven hmaster
      · cases haccounts
  | _ => exact .inl rfl

/-- A worker is reported as lost once, and not as long as it is connected. -/
def LostOnce (w : WorkerId) (log : List MasterEntry) (s : Journal) : Prop :=
  log.countP (MasterEntry.disconnects w) +
    (if s.master.connection w = some true then 1 else 0) ≤ 1

theorem countP_entries_disconnects (taskCount : ℕ) (f : ResultFrame) (v w : WorkerId) :
    (f.entries taskCount v).countP (MasterEntry.disconnects w) = 0 := by
  cases f with
  | success t completedCount =>
      rw [ResultFrame.entries]
      split_ifs <;> rfl
  | failure t reason => rfl

theorem LostOnce.step {w : WorkerId} (h : LostOnce w log s) (hm : Master.Consistent s.master)
    {a : Action} (hstep : s.step a = some s') : LostOnce w (log ++ s.written a) s' := by
  unfold LostOnce at h ⊢
  rw [List.countP_append]
  cases a with
  | run a =>
      obtain ⟨run, hrun, _, _, rfl⟩ := step_run_eq_some hstep
      have hkept : (if run.accounts.master.connection w = some true then 1 else 0) ≤
          if s.master.connection w = some true then 1 else 0 := by
        split_ifs with hafter hbefore
        · exact le_refl 1
        · exact absurd (connected_of_run hm hrun hafter) hbefore
        · exact Nat.zero_le 1
        · exact le_refl 0
      change _ + (if run.accounts.master.connection w = some true then 1 else 0) ≤ 1
      obtain hnone | ⟨v, hone, hbefore, hafter⟩ := written_run_cases hm hrun
      · rw [hnone, List.countP_nil, add_zero]
        exact le_trans (Nat.add_le_add_left hkept _) h
      · rw [hone, List.countP_singleton]
        by_cases hv : v = w
        · subst hv
          rw [if_pos hbefore] at h
          rw [if_neg hafter, if_pos (by simp [MasterEntry.disconnects])]
          omega
        · rw [if_neg (by simpa [MasterEntry.disconnects] using hv), add_zero]
          exact le_trans (Nat.add_le_add_left hkept _) h
  | write v =>
      change (if _ then some { s with frames := s.frames.erase v } else none) = some s' at hstep
      split_ifs at hstep with hguard
      cases hstep
      obtain ⟨frame, hframe⟩ := Option.isSome_iff_exists.1 (AList.lookup_isSome.2 hguard.2)
      rw [written, hframe]
      dsimp only
      rw [countP_entries_disconnects, add_zero]
      exact h
  | report =>
      change (if _ then some { s with slot := none } else none) = some s' at hstep
      split_ifs at hstep with hguard
      cases hstep
      obtain ⟨⟨t, v, priority⟩, hslot⟩ := Option.isSome_iff_exists.1 hguard.2
      rw [written, hslot]
      exact h

/-! ### The log of a run -/

/-- The lines of a run. -/
def linesOf (s : Journal) (acts : List Action) : List MasterEntry :=
  Transition.outputs step written s acts

theorem stepped_run {a : Action} (hstep : s.step a = some s') :
    s'.run = s.run ∨ ∃ b, s.run.step b = some s'.run := by
  cases a with
  | run b =>
      obtain ⟨run, hrun, _, _, rfl⟩ := step_run_eq_some hstep
      exact .inr ⟨b, hrun⟩
  | write w =>
      change (if _ then some { s with frames := s.frames.erase w } else none) = some s' at hstep
      split_ifs at hstep
      cases hstep
      exact .inl rfl
  | report =>
      change (if _ then some { s with slot := none } else none) = some s' at hstep
      split_ifs at hstep
      cases hstep
      exact .inl rfl

/-- What is shown of the log of a run that is not interrupted. -/
structure Kept (tasks : List Task) (log : List MasterEntry) (s : Journal) : Prop where
  succeeded : ∀ t, (successes tasks t).Balanced log s
  announced : ∀ c, (announcements tasks c).Balanced log s
  failed : (failures tasks).Balanced log s
  lost : ∀ w, LostOnce w log s

/-- The invariant of a run and its log. -/
structure Recorded (tasks : List Task) (log : List MasterEntry) (s : Journal) : Prop where
  lawful : MasterRun.Lawful tasks s.run
  kept : s.run.interrupted = false → Kept tasks log s

theorem Recorded.step (h : Recorded tasks log s) {a : Action} (hstep : s.step a = some s') :
    Recorded tasks (log ++ s.written a) s' := by
  have hlawful : MasterRun.Lawful tasks s'.run := by
    obtain hrun | ⟨b, hrun⟩ := stepped_run hstep
    · exact hrun ▸ h.lawful
    · exact MasterRun.lawful_step h.lawful hrun
  refine ⟨hlawful, fun hquiet => ?_⟩
  have hbefore : s.run.interrupted = false := by
    obtain hrun | ⟨b, hrun⟩ := stepped_run hstep
    · exact hrun ▸ hquiet
    · exact MasterRun.interrupted_of_step (MasterRun.stepped_of_step hrun) hquiet
  have hregular := (h.lawful.sound hbefore).1.regular
  have hregular' := (hlawful.sound hquiet).1.regular
  have hkept := h.kept hbefore
  exact {
    succeeded := fun t => (hkept.succeeded t).step hregular hregular' hstep
    announced := fun c => (hkept.announced c).step hregular hregular' hstep
    failed := hkept.failed.step hregular hregular' hstep
    lost := fun w => (hkept.lost w).step hregular.consistent hstep }

theorem recorded_start {count : ℕ} {rng : RandomSource} {ws : List WorkerId} {run : MasterRun}
    (hstart : MasterRun.start count rng ws = .ok run) :
    Recorded (generated count rng) [] { run := run } := by
  have hlawful := MasterRun.lawful_start hstart
  obtain ⟨accounts, haccounts, rfl⟩ := MasterRun.exists_accounts_of_start hstart
  obtain ⟨m, hm, rfl⟩ : ∃ m, Master.start count rng ws = .ok m ∧ accounts = { master := m } := by
    unfold Accounts.start at haccounts
    cases hm : Master.start count rng ws with
    | error e =>
        rw [hm] at haccounts
        cases haccounts
    | ok m =>
        rw [hm] at haccounts
        cases haccounts
        exact ⟨m, rfl, rfl⟩
  have hledger := (Accounts.balanced_start haccounts).balance
  have hstore : m.store = ∅ := (Master.started_of_start hm).store
  have hattempts : m.tasks.total Task.attempt = 0 := by
    have htotal := congrArg (fun tally : Tally => tally.2.2.1) hledger
    exact htotal.symm
  have hregular := (hlawful.sound rfl).1.regular
  refine ⟨hlawful, fun _ => ⟨fun t => ?_, fun c => ?_, ?_, fun w => ?_⟩⟩
  · have hnot : m.place t ≠ some .done := by
      intro hdone
      obtain ⟨task, _, _, hlookup⟩ := (done_iff hregular t).1 hdone
      change m.store.lookup task.key = some task.value at hlookup
      rw [hstore] at hlookup
      cases hlookup
    exact (if_neg hnot).symm
  · refine (if_neg fun hsize => ?_).symm
    obtain ⟨hpos, hle, _⟩ := hsize
    change c ≤ m.store.size at hle
    rw [hstore, Dict.size_empty] at hle
    omega
  · exact hattempts.symm
  · unfold LostOnce
    split_ifs <;> simp

theorem recorded_run {count : ℕ} {rng : RandomSource} {ws : List WorkerId} {run : MasterRun}
    {acts : List Action} (hstart : MasterRun.start count rng ws = .ok run)
    (hrun : Transition.run step { run := run } acts = some s) :
    Recorded (generated count rng) (linesOf { run := run } acts) s :=
  Transition.invariant_outputs (fun _ _ _ _ h hstep => h.step hstep) (recorded_start hstart) hrun

/-- **The lines about results.** However the threads interleave, the success of a task is
reported once when it is done, each number of completed tasks that is to be announced is
announced once when so many are stored, and as many failures in processing are reported as
attempts are recorded; what is missing is what a receiver is about to write. -/
theorem results_reported {count : ℕ} {rng : RandomSource} {ws : List WorkerId}
    {run : MasterRun} {acts : List Action} (hstart : MasterRun.start count rng ws = .ok run)
    (hrun : Transition.run step { run := run } acts = some s)
    (hquiet : s.run.interrupted = false) :
    (∀ t, (linesOf { run := run } acts).countP (MasterEntry.succeeds t) +
        s.frames.total (ResultFrame.succeeds t) =
      if s.master.taskState.lookup t = some .done then 1 else 0) ∧
    (∀ c, (linesOf { run := run } acts).countP (MasterEntry.announces c) +
        s.frames.total (ResultFrame.announces count c) =
      if 0 < c ∧ c ≤ s.master.store.size ∧ (c % PROGRESS_INTERVAL = 0 ∨ c = count)
        then 1 else 0) ∧
    ((linesOf { run := run } acts).countP MasterEntry.failsProcessing : ℤ) +
      s.frames.total ResultFrame.failsProcessing = s.master.tasks.total Task.attempt := by
  have hrecorded := recorded_run hstart hrun
  have hkept := hrecorded.kept hquiet
  have hregular := (hrecorded.lawful.sound hquiet).1.regular
  have hlength : (generated count rng).length = count := by
    obtain ⟨accounts, haccounts, _⟩ := MasterRun.exists_accounts_of_start hstart
    exact length_generated rng (Accounts.admitted_of_start haccounts)
  refine ⟨fun t => ?_, fun c => ?_, hkept.failed⟩
  · refine (hkept.succeeded t).trans ?_
    exact if_congr (hregular.consistent.state_done_iff).symm rfl rfl
  · have hannounced := hkept.announced c
    unfold Audit.Balanced at hannounced
    simp only [announcements, hlength, Nat.cast_id] at hannounced
    rw [hannounced]
    simp only [reportsProgress, decide_eq_true_eq]

/-- **The lines about tasks and workers.** The tasks reported as sent to a worker are those that
were sent to it, in this order, up to the one that the distributor is about to report; and in a
run that is not interrupted a worker is reported as lost at most once, and not as long as it is
connected. -/
theorem tasks_reported {count : ℕ} {rng : RandomSource} {ws : List WorkerId}
    {run : MasterRun} {acts : List Action} (hstart : MasterRun.start count rng ws = .ok run)
    (hrun : Transition.run step { run := run } acts = some s) (w : WorkerId) :
    sentTasks (s.run.sent w) =
      (linesOf { run := run } acts).filterMap (MasterEntry.dispatchedTo w) ++ s.slotTo w ∧
    (s.run.interrupted = false →
      (linesOf { run := run } acts).countP (MasterEntry.disconnects w) ≤ 1 ∧
      (s.master.connection w = some true →
        (linesOf { run := run } acts).countP (MasterEntry.disconnects w) = 0)) := by
  refine ⟨?_, fun hquiet => ?_⟩
  · have hnone : sentTasks (run.sent w) =
        ([] : List MasterEntry).filterMap (MasterEntry.dispatchedTo w) ++
          slotTo { run := run } w := by
      obtain ⟨accounts, _, rfl⟩ := MasterRun.exists_accounts_of_start hstart
      rfl
    exact Transition.invariant_outputs
      (I := fun log s => sentTasks (s.run.sent w) =
        log.filterMap (MasterEntry.dispatchedTo w) ++ s.slotTo w)
      (fun _ _ _ _ h hstep => dispatched_step h hstep) hnone hrun
  · have hlost := ((recorded_run hstart hrun).kept hquiet).lost w
    unfold LostOnce at hlost
    refine ⟨by omega, fun hconnected => ?_⟩
    rw [if_pos hconnected] at hlost
    omega

/-- The only task fails at the first worker, which is then lost, and is done by the second. -/
def retried : List Action :=
  [.run (.distribute 0), .run .sendTask, .report,
    .run (.receiver (.result "worker1" false
      { taskId := "task-0001", reason := some "20% rule" } "r1" (.finite 0))),
    .run (.receiver (.record "worker1")), .run (.distribute 1), .write "worker1",
    .run (.lost "worker1"), .run .sendTask, .run (.disconnect "worker1" []),
    .run .recordReallocation, .report,
    .run (.receiver (.result "worker2" true { taskId := "task-0001" } "r2" (.finite 0))),
    .run (.receiver (.record "worker2")), .write "worker2"]

theorem exists_reached (count : ℕ) (rng : RandomSource) (ws : List WorkerId)
    (acts : List Action) {p : MasterRun → Journal → Prop} [∀ run s, Decidable (p run s)]
    (h : (MasterRun.start count rng ws).toOption.any (fun run =>
      (Transition.run step { run := run } acts).any fun s => decide (p run s)) = true) :
    ∃ run s, MasterRun.start count rng ws = .ok run ∧
      Transition.run step { run := run } acts = some s ∧ p run s := by
  cases hstart : MasterRun.start count rng ws with
  | error e =>
      rw [hstart] at h
      cases h
  | ok run =>
      rw [hstart] at h
      change (Transition.run step { run := run } acts).any _ = true at h
      obtain ⟨s, hrun, hp⟩ := (Option.any_eq_true _ _).1 h
      exact ⟨run, s, rfl, hrun, of_decide_eq_true hp⟩

set_option maxRecDepth 100000 in
/-- One failure, one success and the end of the progress are reported. -/
theorem results_reported_retried :
    ∃ run s, MasterRun.start 1 .first ["worker1", "worker2"] = .ok run ∧
      Transition.run step { run := run } retried = some s ∧
      (linesOf { run := run } retried).countP MasterEntry.failsProcessing = 1 ∧
      (∀ t, (linesOf { run := run } retried).countP (MasterEntry.succeeds t) +
          s.frames.total (ResultFrame.succeeds t) =
        if s.master.taskState.lookup t = some .done then 1 else 0) ∧
      ∀ c, (linesOf { run := run } retried).countP (MasterEntry.announces c) +
          s.frames.total (ResultFrame.announces 1 c) =
        if 0 < c ∧ c ≤ s.master.store.size ∧ (c % PROGRESS_INTERVAL = 0 ∨ c = 1)
          then 1 else 0 := by
  obtain ⟨run, s, hstart, hrun, hquiet, hfailed⟩ := exists_reached 1 .first
    ["worker1", "worker2"] retried (p := fun run s => s.run.interrupted = false ∧
      (linesOf { run := run } retried).countP MasterEntry.failsProcessing = 1)
    (by decide +kernel)
  obtain ⟨hsucceeded, hannounced, _⟩ := results_reported hstart hrun hquiet
  exact ⟨run, s, hstart, hrun, hfailed, hsucceeded, hannounced⟩

set_option maxRecDepth 100000 in
/-- Both dispatches are reported, and the loss of the first worker. -/
theorem tasks_reported_retried :
    ∃ run s, MasterRun.start 1 .first ["worker1", "worker2"] = .ok run ∧
      Transition.run step { run := run } retried = some s ∧
      sentTasks (s.run.sent "worker2") = ["task-0001"] ∧
      sentTasks (s.run.sent "worker2") =
        (linesOf { run := run } retried).filterMap (MasterEntry.dispatchedTo "worker2") ++
          s.slotTo "worker2" ∧
      (linesOf { run := run } retried).countP (MasterEntry.disconnects "worker2") = 0 := by
  obtain ⟨run, s, hstart, hrun, hquiet, hconnected, hsent⟩ := exists_reached 1 .first
    ["worker1", "worker2"] retried (p := fun _ s => s.run.interrupted = false ∧
      s.master.connection "worker2" = some true ∧
      sentTasks (s.run.sent "worker2") = ["task-0001"])
    (by decide +kernel)
  obtain ⟨htasks, hlost⟩ := tasks_reported hstart hrun "worker2"
  exact ⟨run, s, hstart, hrun, hsent, htasks, (hlost hquiet).2 hconnected⟩

end

end Journal

end KVStore
