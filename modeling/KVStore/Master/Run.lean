import KVStore.Master.Accounts
import KVStore.Master.Dispatch

/-!
# A run of the Master

`run` from the moment in which the receiver threads are started: the tasks are distributed, the
statistics are put out, every connected worker is told to terminate, the sockets are closed and
the receivers are joined. The receivers go on handling messages all the while; a receiver whose
connection ends looks at two flags to tell the end of the run from a lost worker. `stop` can
also be called from outside.

`sent` records what has been sent on each connection.
-/

namespace KVStore

inductive MasterMessage
  | task (t : TaskId)
  | terminate
deriving DecidableEq

/-- The thread of a receiver, before it receives, between the test of the flags and
`_disconnect_worker`, or at its end. -/
inductive ReceiverPosition
  | receiving
  | disconnecting
  | ended
deriving DecidableEq

/-- Where the main thread stands in `run`. In `_send_terminate` it goes through the `remaining`
workers: it sends to one, or takes back the request after an `OSError`. -/
inductive Phase
  | distributing
  | reporting
  | terminating (remaining : List WorkerId)
  | requesting (w : WorkerId) (remaining : List WorkerId)
  | dropping (w : WorkerId) (remaining : List WorkerId)
  | stopping (failed : Bool)
  | joining (failed : Bool)
  | returned (store : Dict String ℤ)
  | raised

/-- `requested` are the workers whose `termination_requested` is set, and `interrupted`, a
history variable, says that `stop` was called from outside. -/
structure MasterRun where
  accounts : Accounts
  phase : Phase := .distributing
  stopped : Bool := false
  requested : Finset WorkerId := ∅
  receivers : WorkerId → ReceiverPosition := fun _ => .receiving
  sent : WorkerId → List MasterMessage := fun _ => []
  interrupted : Bool := false

namespace Master

def close (m : Master) (failed : List WorkerId) : Master :=
  { m with
    workers := m.workers.mapValues fun connection =>
      if connection.workerId ∈ failed then { connection with connected := false }
      else connection }

end Master

/-- The receiver thread that takes the step, unless it is the distributor. -/
def Accounts.Action.receiver : Accounts.Action → Option WorkerId
  | .result w _ _ _ _ => some w
  | .queueStatus w _ _ => some w
  | .record w => some w
  | _ => none

namespace MasterRun

/-- `receiver` is a step of a receiver thread with a message or its statistics. `lost`: its
connection ends; `leave`: it finds the run stopped; `crash`: an exception that is not caught
ends it. `sendFailed` and `terminateFailed` stand for an `OSError`. `emitStatistics` comes with
the order in which the workers are listed. -/
inductive Action
  | receiver (a : Accounts.Action)
  | lost (w : WorkerId)
  | disconnect (w : WorkerId) (order : List TaskId)
  | leave (w : WorkerId)
  | crash (w : WorkerId)
  | distribute (now : ℚ)
  | sendTask
  | sendFailed (order : List TaskId)
  | recordReallocation
  | abandon
  | emitStatistics (now : ℚ) (order : List WorkerId)
  | request
  | sendTerminate
  | terminateFailed
  | drop (order : List TaskId)
  | stop (failed : List WorkerId)
  | join
  | interrupt (failed : List WorkerId)

def setReceiver (s : MasterRun) (w : WorkerId) (position : ReceiverPosition) : MasterRun :=
  { s with receivers := Function.update s.receivers w position }

def addSent (s : MasterRun) (w : WorkerId) (message : MasterMessage) : MasterRun :=
  { s with sent := Function.update s.sent w (s.sent w ++ [message]) }

def setMaster (s : MasterRun) (m : Master) : MasterRun :=
  { s with accounts := { s.accounts with master := m } }

def receive (s : MasterRun) (a : Accounts.Action) : Option MasterRun :=
  match a.receiver with
  | none => none
  | some w =>
      if s.receivers w = .receiving then
        (s.accounts.step a).map fun accounts => { s with accounts := accounts }
      else
        none

/-- A receiver between two messages. -/
def Idle (s : MasterRun) (w : WorkerId) : Prop :=
  s.receivers w = .receiving ∧ s.accounts.calls.lookup w = none

instance (s : MasterRun) (w : WorkerId) : Decidable (s.Idle w) :=
  inferInstanceAs (Decidable (_ ∧ _))

/-- The `except` clause of `_receive_loop`. -/
def lost (s : MasterRun) (w : WorkerId) : Option MasterRun :=
  if s.Idle w then
    some (s.setReceiver w
      (if w ∈ s.requested ∨ s.stopped = true then .ended else .disconnecting))
  else
    none

def disconnect (s : MasterRun) (w : WorkerId) (order : List TaskId) : Option MasterRun :=
  if s.receivers w = .disconnecting then
    (s.accounts.master.step (.disconnectWorker w order)).map fun m =>
      (s.setMaster m).setReceiver w .ended
  else
    none

def leave (s : MasterRun) (w : WorkerId) : Option MasterRun :=
  if s.Idle w ∧ s.stopped = true then some (s.setReceiver w .ended) else none

/-- The end of `_distribute_tasks`, and the exception that it raises. -/
def phaseOf : Distributor → Phase
  | .returned => .reporting
  | .stopped => .stopping true
  | _ => .distributing

/-- A step of `_distribute_tasks`. -/
def distributor (s : MasterRun) (a : Accounts.Action) : Option MasterRun :=
  match s.phase with
  | .distributing =>
      (s.accounts.step a).map fun accounts =>
        { s with accounts := accounts, phase := phaseOf accounts.distributor }
  | _ => none

/-- The assignment that was chosen is sent. -/
def sendTask (s : MasterRun) : Option MasterRun :=
  match s.accounts.distributor with
  | .sending assignment =>
      (s.distributor .sent).map fun s =>
        s.addSent assignment.worker (.task assignment.task.taskId)
  | _ => none

/-- The loop condition of `_distribute_tasks`. -/
def abandon (s : MasterRun) : Option MasterRun :=
  match s.phase with
  | .distributing =>
      if s.stopped = true ∧ s.accounts.distributor = .choosing then
        some { s with phase := .reporting }
      else
        none
  | _ => none

/-- The statistics are put out, and `_send_terminate` lists the workers. -/
def emitStatistics (s : MasterRun) (now : ℚ) (order : List WorkerId) : Option MasterRun :=
  match s.phase with
  | .reporting =>
      if order.Perm s.accounts.master.workers.keys then
        some { s with
          accounts := { s.accounts with
            distributor := .reported (s.accounts.stats.summary (.finite now)) }
          phase := .terminating order }
      else
        none
  | _ => none

/-- A round of `_send_terminate` up to the message, or the end of its loop. -/
def request (s : MasterRun) : Option MasterRun :=
  match s.phase with
  | .terminating [] => some { s with phase := .stopping false }
  | .terminating (w :: remaining) =>
      if s.accounts.master.connection w = some true then
        some { s with requested := insert w s.requested, phase := .requesting w remaining }
      else
        some { s with phase := .terminating remaining }
  | _ => none

def sendTerminate (s : MasterRun) : Option MasterRun :=
  match s.phase with
  | .requesting w remaining =>
      some ({ s with phase := .terminating remaining }.addSent w .terminate)
  | _ => none

def terminateFailed (s : MasterRun) : Option MasterRun :=
  match s.phase with
  | .requesting w remaining =>
      some { s with requested := s.requested.erase w, phase := .dropping w remaining }
  | _ => none

def drop (s : MasterRun) (order : List TaskId) : Option MasterRun :=
  match s.phase with
  | .dropping w remaining =>
      (s.accounts.master.step (.disconnectWorker w order)).map fun m =>
        { s.setMaster m with phase := .terminating remaining }
  | _ => none

/-- The call of `stop` in the `finally` clause. -/
def stop (s : MasterRun) (failed : List WorkerId) : Option MasterRun :=
  match s.phase with
  | .stopping error =>
      some { s.setMaster (s.accounts.master.close failed) with
        stopped := true
        phase := .joining error }
  | _ => none

/-- The receivers are joined, each within a time limit. -/
def join (s : MasterRun) : Option MasterRun :=
  match s.phase with
  | .joining true => some { s with phase := .raised }
  | .joining false => some { s with phase := .returned s.accounts.master.store }
  | _ => none

def step (s : MasterRun) : Action → Option MasterRun
  | .receiver a => s.receive a
  | .lost w => s.lost w
  | .disconnect w order => s.disconnect w order
  | .leave w => s.leave w
  | .crash w => if s.Idle w then some (s.setReceiver w .ended) else none
  | .distribute now => s.distributor (.distribute now)
  | .sendTask => s.sendTask
  | .sendFailed order => s.distributor (.sendFail order)
  | .recordReallocation => s.distributor .recordReallocation
  | .abandon => s.abandon
  | .emitStatistics now order => s.emitStatistics now order
  | .request => s.request
  | .sendTerminate => s.sendTerminate
  | .terminateFailed => s.terminateFailed
  | .drop order => s.drop order
  | .stop failed => s.stop failed
  | .join => s.join
  | .interrupt failed =>
      some { s.setMaster (s.accounts.master.close failed) with
        stopped := true
        interrupted := true }

/-- The state in which the receivers are started. -/
def start (count : ℕ) (rng : RandomSource) (ws : List WorkerId) : Except String MasterRun :=
  (Accounts.start count rng ws).map fun accounts => { accounts := accounts }

/-! ### What a phase tells about the Master -/

/-- The invariants of the Master's steps. -/
structure Regular (tasks : List Task) (m : Master) : Prop where
  consistent : Master.Consistent m
  describes : Master.Describes tasks m
  storeExact : Master.StoreExact tasks m

/-- The distribution has failed: a task is missing, and no worker is left. -/
structure Failed (m : Master) : Prop where
  incomplete : ¬ m.storeComplete
  disconnected : ∀ w, m.connection w ≠ some true

/-- What holds of the Master in a phase, unless `stop` was called from outside. -/
def PhaseHolds (m : Master) : Phase → Prop
  | .distributing => True
  | .stopping true => Failed m
  | .joining true => Failed m
  | .raised => Failed m
  | .returned store => m.storeComplete ∧ store = m.store
  | _ => m.storeComplete

section

variable {m m' : Master} {b : Master.Action} {tasks : List Task}

theorem Regular.step (h : Regular tasks m) (hstep : m.step b = some m') : Regular tasks m' := by
  obtain ⟨hm', heff⟩ := Master.step_effect h.consistent hstep
  exact ⟨hm', h.describes.step heff,
    Master.storeExact_step h.consistent h.describes h.storeExact hm' heff⟩

theorem Regular.storeComplete_step (h : Regular tasks m) (hstep : m.step b = some m')
    (hcomplete : m.storeComplete) : m'.storeComplete :=
  Accounts.storeComplete_step h.consistent h.describes h.storeExact hstep hcomplete

theorem Regular.place_of_complete (h : Regular tasks m) (hcomplete : m.storeComplete) {t : TaskId}
    {p : Place WorkerId} (hp : m.place t = some p) : p = .done := by
  obtain ⟨_, task, htask⟩ := Master.state_of_place hp
  obtain ⟨own, hown, hid, _⟩ := (h.describes.contents t task.key task.value).1
    (by rw [Master.contents, htask, Option.map_some])
  have hdone := (h.storeExact.storeComplete_iff h.describes).1 hcomplete own hown
  rw [hid, h.consistent.state_done_iff, hp] at hdone
  exact Option.some.inj hdone

theorem Regular.store_of_complete (h : Regular tasks m) (hstep : m.step b = some m')
    (hcomplete : m.storeComplete) : m'.store = m.store := by
  obtain ⟨_, heff⟩ := Master.step_effect h.consistent hstep
  obtain ⟨hstore, _⟩ | ⟨t, task, hnot, htask, _⟩ := heff.stored h.consistent
  · exact hstore
  · obtain ⟨p, hp⟩ := Option.isSome_iff_exists.1
      (h.consistent.placed t (h.consistent.recorded t (by rw [htask]; rfl)))
    exact absurd (h.place_of_complete hcomplete hp ▸ hp) hnot

/-- Without a connected worker no task is assigned, so no result is accepted. -/
theorem Failed.step (hm : Master.Consistent m) (h : Failed m) (hstep : m.step b = some m')
    (hb : ∀ now, b ≠ .nextAssignment now) : Failed m' := by
  have hassigned : ∀ t w, m.place t ≠ some (.assigned w) := by
    intro t w hplace
    obtain ⟨c, hc, hconnected⟩ := hm.holders.holder t w hplace
    refine h.disconnected w ?_
    rw [Master.connection, hc, Option.map_some, hconnected]
  obtain ⟨_, heff⟩ := Master.step_effect hm hstep
  refine ⟨?_, fun w hw => h.disconnected w (heff.connected hw)⟩
  have hincomplete := h.incomplete
  rw [Master.storeComplete] at hincomplete ⊢
  rw [heff.taskCount]
  cases heff with
  | same _ _ hsame => rwa [hsame.store]
  | assigned now _ _ _ _ _ _ _ _ _ => exact absurd rfl (hb now)
  | finished _ _ _ _ hplace _ _ => exact absurd hplace (hassigned _ _)
  | failed _ _ _ _ hplace _ _ _ => exact absurd hplace (hassigned _ _)
  | disconnected _ _ _ _ hdisconnected => rwa [hdisconnected.store]

theorem lookup_close (m : Master) (failed : List WorkerId) (w : WorkerId) :
    (m.close failed).workers.lookup w = (m.workers.lookup w).map fun connection =>
      if connection.workerId ∈ failed then { connection with connected := false }
      else connection :=
  Dict.lookup_mapValues _ _ _

theorem connection_of_close {failed : List WorkerId} {w : WorkerId}
    (h : (m.close failed).connection w = some true) : m.connection w = some true := by
  rw [Master.connection, lookup_close] at h
  rw [Master.connection]
  cases hc : m.workers.lookup w with
  | none =>
      rw [hc] at h
      cases h
  | some c =>
      rw [hc, Option.map_some, Option.map_some] at h
      split_ifs at h
      · cases h
      · exact h

theorem Regular.close (h : Regular tasks m) (hnone : ∀ t w, m.place t ≠ some (.assigned w))
    (failed : List WorkerId) : Regular tasks (m.close failed) := by
  have hc := h.consistent
  refine ⟨⟨⟨hc.task_id, hc.recorded, hc.placed, hc.queues, hc.retry_le⟩, ?_, ?_, ?_⟩,
    ⟨h.describes.contents, h.describes.nodup_id, h.describes.nodup_key, h.describes.taskCount⟩,
    h.storeExact⟩
  · intro w c hlookup
    rw [lookup_close] at hlookup
    obtain ⟨c₀, hc₀, rfl⟩ := Option.map_eq_some_iff.1 hlookup
    rw [← hc.worker_id w c₀ hc₀]
    split_ifs <;> rfl
  · intro w c hlookup t
    rw [lookup_close] at hlookup
    obtain ⟨c₀, hc₀, rfl⟩ := Option.map_eq_some_iff.1 hlookup
    have hmem := hc.holders.mem_assigned w c₀ hc₀ t
    split_ifs <;> exact hmem
  · exact fun t w hplace => absurd hplace (hnone t w)

theorem Regular.not_assigned_of_complete (h : Regular tasks m) (hcomplete : m.storeComplete)
    (t : TaskId) (w : WorkerId) : m.place t ≠ some (.assigned w) := by
  intro hplace
  cases h.place_of_complete hcomplete hplace

theorem Regular.not_assigned_of_failed (h : Regular tasks m) (hfailed : Failed m) (t : TaskId)
    (w : WorkerId) : m.place t ≠ some (.assigned w) := by
  intro hplace
  obtain ⟨c, hc, hconnected⟩ := h.consistent.holders.holder t w hplace
  refine hfailed.disconnected w ?_
  rw [Master.connection, hc, Option.map_some, hconnected]

theorem Failed.close (h : Failed m) (failed : List WorkerId) : Failed (m.close failed) :=
  ⟨h.incomplete, fun w hw => h.disconnected w (connection_of_close hw)⟩

theorem phaseHolds_step {phase : Phase} (h : PhaseHolds m phase) (hm : Regular tasks m)
    (hstep : m.step b = some m') (hb : ∀ now, b ≠ .nextAssignment now) :
    PhaseHolds m' phase := by
  have hcomplete : m.storeComplete → m'.storeComplete := hm.storeComplete_step hstep
  cases phase with
  | distributing => trivial
  | stopping failed =>
      cases failed with
      | true => exact Failed.step hm.consistent h hstep hb
      | false => exact hcomplete h
  | joining failed =>
      cases failed with
      | true => exact Failed.step hm.consistent h hstep hb
      | false => exact hcomplete h
  | raised => exact Failed.step hm.consistent h hstep hb
  | returned store => exact ⟨hcomplete h.1, h.2.trans (hm.store_of_complete hstep h.1).symm⟩
  | reporting => exact hcomplete h
  | terminating remaining => exact hcomplete h
  | requesting w remaining => exact hcomplete h
  | dropping w remaining => exact hcomplete h

end

/-! ### What a step does -/

/-- The Master is as before, or took a step in which it assigned nothing. -/
def Quiet (m m' : Master) : Prop :=
  m' = m ∨ ∃ b, m.step b = some m' ∧ ∀ now, b ≠ .nextAssignment now

/-- The flags of `stop` are as before. -/
structure Keeps (s s' : MasterRun) : Prop where
  stopped : s'.stopped = s.stopped
  interrupted : s'.interrupted = s.interrupted

/-- What a step does to the Master, the phase and the messages that were sent. -/
inductive Stepped (s s' : MasterRun) : Prop
  | quiet (hkeeps : Keeps s s') (hphase : s'.phase = s.phase) (hsent : s'.sent = s.sent)
      (hmaster : Quiet s.accounts.master s'.accounts.master)
  | assigned (hkeeps : Keeps s s') (hphase : s.phase = .distributing)
      (hphase' : s'.phase = .distributing) (hsent : s'.sent = s.sent) (now : ℚ)
      (hmaster : s.accounts.master.step (.nextAssignment now) = some s'.accounts.master)
  | sentTask (hkeeps : Keeps s s') (hphase : s.phase = .distributing)
      (hphase' : s'.phase = .distributing) (w : WorkerId) (t : TaskId)
      (hsent : s'.sent = (s.addSent w (.task t)).sent)
      (hmaster : s'.accounts.master = s.accounts.master)
  | distributed (hkeeps : Keeps s s') (hphase : s.phase = .distributing)
      (hphase' : s'.phase = .reporting) (hsent : s'.sent = s.sent)
      (hmaster : s'.accounts.master = s.accounts.master)
      (hcomplete : s.accounts.master.storeComplete ∨ s.stopped = true)
  | failed (hkeeps : Keeps s s') (hphase : s.phase = .distributing)
      (hphase' : s'.phase = .stopping true) (hsent : s'.sent = s.sent)
      (hmaster : s'.accounts.master = s.accounts.master) (hfailed : Failed s.accounts.master)
  | reported (hkeeps : Keeps s s') (order : List WorkerId) (hphase : s.phase = .reporting)
      (hphase' : s'.phase = .terminating order)
      (horder : order.Perm s.accounts.master.workers.keys) (hsent : s'.sent = s.sent)
      (hmaster : s'.accounts.master = s.accounts.master)
  | skipped (hkeeps : Keeps s s') (w : WorkerId) (remaining : List WorkerId)
      (hphase : s.phase = .terminating (w :: remaining))
      (hphase' : s'.phase = .terminating remaining) (hsent : s'.sent = s.sent)
      (hmaster : s'.accounts.master = s.accounts.master)
      (hdisconnected : s.accounts.master.connection w ≠ some true)
  | requested (hkeeps : Keeps s s') (w : WorkerId) (remaining : List WorkerId)
      (hphase : s.phase = .terminating (w :: remaining))
      (hphase' : s'.phase = .requesting w remaining) (hsent : s'.sent = s.sent)
      (hmaster : s'.accounts.master = s.accounts.master)
  | terminated (hkeeps : Keeps s s') (w : WorkerId) (remaining : List WorkerId)
      (hphase : s.phase = .requesting w remaining) (hphase' : s'.phase = .terminating remaining)
      (hsent : s'.sent = (s.addSent w .terminate).sent)
      (hmaster : s'.accounts.master = s.accounts.master)
  | refused (hkeeps : Keeps s s') (w : WorkerId) (remaining : List WorkerId)
      (hphase : s.phase = .requesting w remaining) (hphase' : s'.phase = .dropping w remaining)
      (hsent : s'.sent = s.sent) (hmaster : s'.accounts.master = s.accounts.master)
  | dropped (hkeeps : Keeps s s') (w : WorkerId) (remaining : List WorkerId)
      (hphase : s.phase = .dropping w remaining) (hphase' : s'.phase = .terminating remaining)
      (hsent : s'.sent = s.sent) (order : List TaskId)
      (hmaster : s.accounts.master.step (.disconnectWorker w order) = some s'.accounts.master)
  | listed (hkeeps : Keeps s s') (hphase : s.phase = .terminating [])
      (hphase' : s'.phase = .stopping false) (hsent : s'.sent = s.sent)
      (hmaster : s'.accounts.master = s.accounts.master)
  | closed (hinterrupted : s'.interrupted = s.interrupted) (error : Bool)
      (hphase : s.phase = .stopping error) (hphase' : s'.phase = .joining error)
      (hsent : s'.sent = s.sent) (failed : List WorkerId)
      (hmaster : s'.accounts.master = s.accounts.master.close failed)
  | joined (hkeeps : Keeps s s') (error : Bool) (hphase : s.phase = .joining error)
      (hphase' : s'.phase = if error = true then .raised else .returned s.accounts.master.store)
      (hsent : s'.sent = s.sent) (hmaster : s'.accounts.master = s.accounts.master)
  | interrupted (hphase : s'.phase = s.phase) (hsent : s'.sent = s.sent)
      (hinterrupted : s'.interrupted = true)

section

variable {s s' : MasterRun} {tasks : List Task} {a : Action}

theorem master_of_receiver {accounts accounts' : Accounts} {a : Accounts.Action} {w : WorkerId}
    (ha : a.receiver = some w) (hstep : accounts.step a = some accounts') :
    Quiet accounts.master accounts'.master := by
  cases a with
  | result v succeeded payload requestId waitSeconds =>
      change accounts.result v succeeded payload requestId waitSeconds = some accounts' at hstep
      unfold Accounts.result at hstep
      split at hstep
      swap
      · cases hstep
      obtain ⟨m, hm, hstep⟩ := Option.map_eq_some_iff.1 hstep
      have hmaster : accounts'.master = m := by
        split at hstep <;> cases hstep <;> rfl
      rw [hmaster]
      refine .inr ⟨_, hm, fun now => ?_⟩
      split_ifs <;> exact nofun
  | queueStatus v payload p2p =>
      change accounts.queueStatus v payload p2p = some accounts' at hstep
      unfold Accounts.queueStatus at hstep
      split_ifs at hstep with hguard
      obtain ⟨c, hc⟩ := Option.isSome_iff_exists.1 (AList.lookup_isSome.2 hguard.2)
      split at hstep
      · cases hstep
        exact .inl rfl
      all_goals
        rename_i m hm
        cases hstep
        refine .inr ⟨.queueStatus v payload, ?_, fun now hnow => by cases hnow⟩
        simp only [Master.step, hc, Option.map_some, hm]
  | record v =>
      obtain ⟨call, _, rfl⟩ := Option.map_eq_some_iff.1 hstep
      exact .inl rfl
  | _ => cases ha

theorem stepped_of_receive {b : Accounts.Action} (hstep : s.receive b = some s') :
    Stepped s s' := by
  unfold receive at hstep
  split at hstep
  · cases hstep
  rename_i w hw
  split_ifs at hstep
  obtain ⟨accounts, haccounts, rfl⟩ := Option.map_eq_some_iff.1 hstep
  exact .quiet ⟨rfl, rfl⟩ rfl rfl (master_of_receiver hw haccounts)

theorem stepped_of_distribute {now : ℚ} (hstep : s.distributor (.distribute now) = some s') :
    Stepped s s' := by
  unfold distributor at hstep
  split at hstep
  swap
  · cases hstep
  rename_i hphase
  obtain ⟨accounts, haccounts, rfl⟩ := Option.map_eq_some_iff.1 hstep
  change s.accounts.distribute now = some accounts at haccounts
  unfold Accounts.distribute at haccounts
  split_ifs at haccounts with hguard hcomplete hconnected
  · cases haccounts
    exact .distributed ⟨rfl, rfl⟩ hphase rfl rfl rfl (.inl hcomplete)
  · obtain ⟨next, hnext, haccounts⟩ := Option.map_eq_some_iff.1 haccounts
    have hmaster : s.accounts.master.step (.nextAssignment now) = some next.2 := by
      rw [Master.step, hnext, Option.map_some]
    obtain ⟨_ | assignment, m⟩ := next
    · cases haccounts
      refine .assigned ⟨rfl, rfl⟩ hphase ?_ rfl now hmaster
      change phaseOf s.accounts.distributor = _
      rw [hguard.1]
      rfl
    · cases haccounts
      exact .assigned ⟨rfl, rfl⟩ hphase rfl rfl now hmaster
  · cases haccounts
    refine .failed ⟨rfl, rfl⟩ hphase rfl rfl rfl ⟨hcomplete, fun w hw => ?_⟩
    rw [Master.connection] at hw
    obtain ⟨c, hc, hcon⟩ := Option.map_eq_some_iff.1 hw
    exact hconnected ⟨c, Dict.mem_values_iff.2 ⟨w, hc⟩, hcon⟩

theorem stepped_of_sendTask (hstep : s.sendTask = some s') : Stepped s s' := by
  unfold sendTask at hstep
  split at hstep
  swap
  · cases hstep
  rename_i assignment hsending
  obtain ⟨u, hu, rfl⟩ := Option.map_eq_some_iff.1 hstep
  unfold distributor at hu
  split at hu
  swap
  · cases hu
  rename_i hphase
  obtain ⟨accounts, haccounts, rfl⟩ := Option.map_eq_some_iff.1 hu
  change s.accounts.sent = some accounts at haccounts
  rw [Accounts.sent, hsending] at haccounts
  cases haccounts
  refine .sentTask ⟨rfl, rfl⟩ hphase ?_ assignment.worker assignment.task.taskId rfl rfl
  change phaseOf (if assignment.priority = true then _ else _) = _
  split_ifs <;> rfl

theorem stepped_of_sendFailed {order : List TaskId}
    (hstep : s.distributor (.sendFail order) = some s') : Stepped s s' := by
  unfold distributor at hstep
  split at hstep
  swap
  · cases hstep
  rename_i hphase
  obtain ⟨accounts, haccounts, rfl⟩ := Option.map_eq_some_iff.1 hstep
  change s.accounts.sendFail order = some accounts at haccounts
  unfold Accounts.sendFail at haccounts
  split at haccounts
  swap
  · cases haccounts
  obtain ⟨m, hm, rfl⟩ := Option.map_eq_some_iff.1 haccounts
  exact .quiet ⟨rfl, rfl⟩ hphase.symm rfl (.inr ⟨_, hm, fun _ => nofun⟩)

theorem stepped_of_recordReallocation (hstep : s.distributor .recordReallocation = some s') :
    Stepped s s' := by
  unfold distributor at hstep
  split at hstep
  swap
  · cases hstep
  rename_i hphase
  obtain ⟨accounts, haccounts, rfl⟩ := Option.map_eq_some_iff.1 hstep
  change s.accounts.recordReallocation = some accounts at haccounts
  unfold Accounts.recordReallocation at haccounts
  split at haccounts
  swap
  · cases haccounts
  obtain ⟨task, _, rfl⟩ := Option.map_eq_some_iff.1 haccounts
  exact .quiet ⟨rfl, rfl⟩ hphase.symm rfl (.inl rfl)

theorem stepped_of_request (hstep : s.request = some s') : Stepped s s' := by
  unfold request at hstep
  split at hstep
  · rename_i hphase
    cases hstep
    exact .listed ⟨rfl, rfl⟩ hphase rfl rfl rfl
  · rename_i w remaining hphase
    split_ifs at hstep with hconnected
    · cases hstep
      exact .requested ⟨rfl, rfl⟩ w remaining hphase rfl rfl rfl
    · cases hstep
      exact .skipped ⟨rfl, rfl⟩ w remaining hphase rfl rfl rfl hconnected
  · cases hstep

theorem stepped_of_step (hstep : s.step a = some s') : Stepped s s' := by
  cases a with
  | receiver b => exact stepped_of_receive hstep
  | lost w =>
      change s.lost w = some s' at hstep
      unfold lost at hstep
      split_ifs at hstep
      all_goals cases hstep
      all_goals exact .quiet ⟨rfl, rfl⟩ rfl rfl (.inl rfl)
  | disconnect w order =>
      change s.disconnect w order = some s' at hstep
      unfold disconnect at hstep
      split_ifs at hstep
      obtain ⟨m, hm, rfl⟩ := Option.map_eq_some_iff.1 hstep
      exact .quiet ⟨rfl, rfl⟩ rfl rfl (.inr ⟨_, hm, fun _ => nofun⟩)
  | leave w =>
      change s.leave w = some s' at hstep
      unfold leave at hstep
      split_ifs at hstep
      cases hstep
      exact .quiet ⟨rfl, rfl⟩ rfl rfl (.inl rfl)
  | crash w =>
      change (if s.Idle w then some (s.setReceiver w .ended) else none) = some s' at hstep
      split_ifs at hstep
      cases hstep
      exact .quiet ⟨rfl, rfl⟩ rfl rfl (.inl rfl)
  | distribute now => exact stepped_of_distribute hstep
  | sendTask => exact stepped_of_sendTask hstep
  | sendFailed order => exact stepped_of_sendFailed hstep
  | recordReallocation => exact stepped_of_recordReallocation hstep
  | abandon =>
      change s.abandon = some s' at hstep
      unfold abandon at hstep
      split at hstep
      · rename_i hphase
        split_ifs at hstep with hguard
        cases hstep
        exact .distributed ⟨rfl, rfl⟩ hphase rfl rfl rfl (.inr hguard.1)
      · cases hstep
  | emitStatistics now order =>
      change s.emitStatistics now order = some s' at hstep
      unfold emitStatistics at hstep
      split at hstep
      · rename_i hphase
        split_ifs at hstep with horder
        cases hstep
        exact .reported ⟨rfl, rfl⟩ order hphase rfl horder rfl rfl
      · cases hstep
  | request => exact stepped_of_request hstep
  | sendTerminate =>
      change s.sendTerminate = some s' at hstep
      unfold sendTerminate at hstep
      split at hstep
      · rename_i w remaining hphase
        cases hstep
        exact .terminated ⟨rfl, rfl⟩ w remaining hphase rfl rfl rfl
      · cases hstep
  | terminateFailed =>
      change s.terminateFailed = some s' at hstep
      unfold terminateFailed at hstep
      split at hstep
      · rename_i w remaining hphase
        cases hstep
        exact .refused ⟨rfl, rfl⟩ w remaining hphase rfl rfl rfl
      · cases hstep
  | drop order =>
      change s.drop order = some s' at hstep
      unfold drop at hstep
      split at hstep
      · rename_i w remaining hphase
        obtain ⟨m, hm, rfl⟩ := Option.map_eq_some_iff.1 hstep
        exact .dropped ⟨rfl, rfl⟩ w remaining hphase rfl rfl order hm
      · cases hstep
  | stop failed =>
      change s.stop failed = some s' at hstep
      unfold stop at hstep
      split at hstep
      · rename_i error hphase
        cases hstep
        exact .closed rfl error hphase rfl rfl failed rfl
      · cases hstep
  | join =>
      change s.join = some s' at hstep
      unfold join at hstep
      split at hstep
      · rename_i hphase
        cases hstep
        exact .joined ⟨rfl, rfl⟩ true hphase rfl rfl rfl
      · rename_i hphase
        cases hstep
        exact .joined ⟨rfl, rfl⟩ false hphase rfl rfl rfl
      · cases hstep
  | interrupt failed =>
      cases hstep
      exact .interrupted rfl rfl rfl

/-! ### The outcome of a run -/

/-- The sockets have been closed. -/
def Closed : Phase → Prop
  | .joining _ => True
  | .returned _ => True
  | .raised => True
  | _ => False

/-- The invariant of a run that is not interrupted. -/
structure Sound (tasks : List Task) (s : MasterRun) : Prop where
  regular : Regular tasks s.accounts.master
  phase : PhaseHolds s.accounts.master s.phase
  closed : s.stopped = true → Closed s.phase

theorem Sound.proceed (h : Sound tasks s) (hopen : ¬ Closed s.phase) (hkeeps : Keeps s s')
    (hregular : Regular tasks s'.accounts.master)
    (hphase : PhaseHolds s'.accounts.master s'.phase) : Sound tasks s' :=
  ⟨hregular, hphase, fun hs => absurd (h.closed (hkeeps.stopped ▸ hs)) hopen⟩

theorem sound_step (h : Sound tasks s) (hstep : Stepped s s') (ha : s'.interrupted = false) :
    Sound tasks s' := by
  have hholds := h.phase
  -- the phase is replaced by one that says the same of the same Master
  have hmove : ∀ {phase phase' : Phase}, s.phase = phase → s'.phase = phase' →
      ¬ Closed phase → Keeps s s' → s'.accounts.master = s.accounts.master →
      (PhaseHolds s.accounts.master phase → PhaseHolds s.accounts.master phase') →
      Sound tasks s' := by
    intro phase phase' hphase hphase' hopen hkeeps hmaster himp
    refine h.proceed (hphase ▸ hopen) hkeeps (hmaster ▸ h.regular) ?_
    rw [hmaster, hphase']
    exact himp (hphase ▸ hholds)
  cases hstep with
  | quiet hkeeps hphase hsent hmaster =>
      refine ⟨?_, ?_, fun hs => hphase ▸ h.closed (hkeeps.stopped ▸ hs)⟩
      all_goals obtain hsame | ⟨b, hb, hnot⟩ := hmaster
      · exact hsame ▸ h.regular
      · exact h.regular.step hb
      · exact hphase ▸ hsame ▸ h.phase
      · exact hphase ▸ phaseHolds_step h.phase h.regular hb hnot
  | assigned hkeeps hphase hphase' hsent now hmaster =>
      exact h.proceed (hphase ▸ id) hkeeps (h.regular.step hmaster) (hphase' ▸ trivial)
  | sentTask hkeeps hphase hphase' w t hsent hmaster =>
      exact hmove hphase hphase' id hkeeps hmaster id
  | distributed hkeeps hphase hphase' hsent hmaster hcomplete =>
      refine hmove hphase hphase' id hkeeps hmaster fun _ => ?_
      obtain hcomplete | hstopped := hcomplete
      · exact hcomplete
      · have hclosed := h.closed hstopped
        rw [hphase] at hclosed
        exact hclosed.elim
  | failed hkeeps hphase hphase' hsent hmaster hfailed =>
      exact hmove hphase hphase' id hkeeps hmaster fun _ => hfailed
  | reported hkeeps order hphase hphase' horder hsent hmaster =>
      exact hmove hphase hphase' id hkeeps hmaster id
  | skipped hkeeps w remaining hphase hphase' hsent hmaster hdisconnected =>
      exact hmove hphase hphase' id hkeeps hmaster id
  | requested hkeeps w remaining hphase hphase' hsent hmaster =>
      exact hmove hphase hphase' id hkeeps hmaster id
  | terminated hkeeps w remaining hphase hphase' hsent hmaster =>
      exact hmove hphase hphase' id hkeeps hmaster id
  | refused hkeeps w remaining hphase hphase' hsent hmaster =>
      exact hmove hphase hphase' id hkeeps hmaster id
  | dropped hkeeps w remaining hphase hphase' hsent order hmaster =>
      rw [hphase] at hholds
      refine h.proceed (hphase ▸ id) hkeeps (h.regular.step hmaster) ?_
      rw [hphase']
      exact h.regular.storeComplete_step hmaster hholds
  | listed hkeeps hphase hphase' hsent hmaster =>
      exact hmove hphase hphase' id hkeeps hmaster id
  | closed hinterrupted error hphase hphase' hsent failed hmaster =>
      rw [hphase] at hholds
      refine ⟨?_, ?_, fun _ => hphase' ▸ trivial⟩
      all_goals rw [hmaster]
      all_goals cases error
      · exact h.regular.close (h.regular.not_assigned_of_complete hholds) failed
      · exact h.regular.close (h.regular.not_assigned_of_failed hholds) failed
      · exact hphase' ▸ hholds
      · exact hphase' ▸ Failed.close hholds failed
  | joined hkeeps error hphase hphase' hsent hmaster =>
      rw [hphase] at hholds
      refine ⟨hmaster ▸ h.regular, ?_, fun _ => ?_⟩
      all_goals cases error
      · rw [hphase', hmaster]
        exact ⟨hholds, rfl⟩
      · rw [hphase', hmaster]
        exact hholds
      · exact hphase' ▸ trivial
      · exact hphase' ▸ trivial
  | interrupted hphase hsent hinterrupted =>
      rw [ha] at hinterrupted
      cases hinterrupted

theorem interrupted_of_step (hstep : Stepped s s') (h : s'.interrupted = false) :
    s.interrupted = false := by
  cases hstep with
  | closed hinterrupted => rwa [hinterrupted] at h
  | interrupted hphase hsent hinterrupted =>
      rw [h] at hinterrupted
      cases hinterrupted
  | _ hkeeps => rwa [hkeeps.interrupted] at h

/-! ### What is sent to a worker -/

def Early : Phase → Prop
  | .distributing => True
  | .reporting => True
  | .stopping true => True
  | .joining true => True
  | .raised => True
  | _ => False

/-- The workers that `_send_terminate` still has before it. -/
def waiting : Phase → List WorkerId
  | .terminating remaining => remaining
  | .requesting w remaining => w :: remaining
  | .dropping w remaining => w :: remaining
  | _ => []

/-- Tasks, and nothing after a `TERMINATE`. -/
def WellFormed (messages : List MasterMessage) : Prop :=
  ∃ ts : List TaskId, messages = ts.map .task ∨ messages = ts.map .task ++ [.terminate]

/-- The invariant of the connections. -/
structure Wired (s : MasterRun) : Prop where
  wellFormed : ∀ w, WellFormed (s.sent w)
  early : Early s.phase → ∀ w, .terminate ∉ s.sent w
  nodup : (waiting s.phase).Nodup
  waiting : ∀ w ∈ waiting s.phase, .terminate ∉ s.sent w

theorem WellFormed.append {messages : List MasterMessage} (h : WellFormed messages)
    (hnot : .terminate ∉ messages) (message : MasterMessage) :
    WellFormed (messages ++ [message]) := by
  obtain ⟨ts, rfl | rfl⟩ := h
  · cases message with
    | task t =>
        refine ⟨ts ++ [t], .inl ?_⟩
        rw [List.map_append]
        rfl
    | terminate => exact ⟨ts, .inr rfl⟩
  · exact absurd (List.mem_append_right _ List.mem_cons_self) hnot

theorem Wired.wellFormed_addSent (h : Wired s) {w : WorkerId} (hnot : .terminate ∉ s.sent w)
    (message : MasterMessage) (v : WorkerId) : WellFormed ((s.addSent w message).sent v) := by
  change WellFormed (Function.update s.sent w (s.sent w ++ [message]) v)
  by_cases hv : v = w
  · rw [hv, Function.update_self]
    exact (h.wellFormed w).append hnot message
  · rw [Function.update_of_ne hv]
    exact h.wellFormed v

theorem sent_addSent_of_ne {w v : WorkerId} (h : v ≠ w) (message : MasterMessage) :
    (s.addSent w message).sent v = s.sent v :=
  Function.update_of_ne h _ _

theorem terminate_notMem_addSent_task {w v : WorkerId} {t : TaskId}
    (h : .terminate ∉ s.sent v) : .terminate ∉ (s.addSent w (.task t)).sent v := by
  change .terminate ∉ Function.update s.sent w (s.sent w ++ [.task t]) v
  by_cases hv : v = w
  · rw [hv, Function.update_self, List.mem_append, List.mem_singleton]
    rintro (hmem | hmem)
    · exact h (hv ▸ hmem)
    · cases hmem
  · rwa [Function.update_of_ne hv]

theorem wired_step (h : Wired s) (hstep : Stepped s s') : Wired s' := by
  -- nothing is sent, and the phase does not get earlier
  have hmove : ∀ {phase phase' : Phase}, s.phase = phase → s'.phase = phase' →
      s'.sent = s.sent → (Early phase' → Early phase) →
      (waiting phase').Sublist (waiting phase) → Wired s' := by
    intro phase phase' hphase hphase' hsent hearly hsub
    refine ⟨fun w => hsent ▸ h.wellFormed w, ?_, ?_, ?_⟩
    · intro he
      rw [hsent]
      exact h.early (hphase ▸ hearly (hphase' ▸ he))
    · rw [hphase']
      exact (hphase ▸ h.nodup).sublist hsub
    · rw [hphase', hsent]
      exact fun w hw => h.waiting w (hphase ▸ hsub.subset hw)
  cases hstep with
  | quiet hkeeps hphase hsent hmaster => exact hmove rfl hphase hsent id (List.Sublist.refl _)
  | assigned hkeeps hphase hphase' hsent now hmaster =>
      exact hmove hphase hphase' hsent id (List.Sublist.refl _)
  | sentTask hkeeps hphase hphase' w t hsent hmaster =>
      have hnone : ∀ v, .terminate ∉ s.sent v := h.early (hphase ▸ trivial)
      refine ⟨fun v => ?_, fun _ v => ?_, ?_, ?_⟩
      · rw [hsent]
        exact h.wellFormed_addSent (hnone w) _ v
      · rw [hsent]
        exact terminate_notMem_addSent_task (hnone v)
      · rw [hphase']
        exact List.nodup_nil
      · rw [hphase']
        exact fun v hv => absurd hv List.not_mem_nil
  | distributed hkeeps hphase hphase' hsent hmaster hcomplete =>
      exact hmove hphase hphase' hsent (fun _ => trivial) (List.Sublist.refl _)
  | failed hkeeps hphase hphase' hsent hmaster hfailed =>
      exact hmove hphase hphase' hsent (fun _ => trivial) (List.Sublist.refl _)
  | reported hkeeps order hphase hphase' horder hsent hmaster =>
      have hnone : ∀ v, .terminate ∉ s.sent v := h.early (hphase ▸ trivial)
      refine ⟨fun v => hsent ▸ h.wellFormed v, fun _ v => hsent ▸ hnone v, ?_, ?_⟩
      · rw [hphase']
        exact horder.nodup_iff.2 (AList.keys_nodup _)
      · rw [hphase', hsent]
        exact fun v _ => hnone v
  | skipped hkeeps w remaining hphase hphase' hsent hmaster hdisconnected =>
      exact hmove hphase hphase' hsent id (List.sublist_cons_self _ _)
  | requested hkeeps w remaining hphase hphase' hsent hmaster =>
      exact hmove hphase hphase' hsent id (List.Sublist.refl _)
  | terminated hkeeps w remaining hphase hphase' hsent hmaster =>
      have hnodup := h.nodup
      have hwaiting := h.waiting
      rw [hphase] at hnodup hwaiting
      obtain ⟨hnot, hnodup⟩ := List.nodup_cons.1 hnodup
      refine ⟨fun v => ?_, fun he => ?_, ?_, ?_⟩
      · rw [hsent]
        exact h.wellFormed_addSent (hwaiting w List.mem_cons_self) _ v
      · rw [hphase'] at he
        exact he.elim
      · rw [hphase']
        exact hnodup
      · rw [hphase', hsent]
        intro v hv
        have hvw : v ≠ w := fun heq => hnot (heq ▸ hv)
        rw [sent_addSent_of_ne hvw]
        exact hwaiting v (List.mem_cons_of_mem w hv)
  | refused hkeeps w remaining hphase hphase' hsent hmaster =>
      exact hmove hphase hphase' hsent id (List.Sublist.refl _)
  | dropped hkeeps w remaining hphase hphase' hsent order hmaster =>
      exact hmove hphase hphase' hsent id (List.sublist_cons_self _ _)
  | listed hkeeps hphase hphase' hsent hmaster =>
      exact hmove hphase hphase' hsent (fun he => he.elim) (List.Sublist.refl _)
  | closed hinterrupted error hphase hphase' hsent failed hmaster =>
      refine hmove hphase hphase' hsent (fun he => ?_) (List.Sublist.refl _)
      cases error
      · exact he
      · exact he
  | joined hkeeps error hphase hphase' hsent hmaster =>
      refine hmove hphase hphase' hsent (fun he => ?_) ?_
      · cases error
        · exact he.elim
        · trivial
      · cases error <;> exact List.Sublist.refl _
  | interrupted hphase hsent hinterrupted => exact hmove rfl hphase hsent id (List.Sublist.refl _)

theorem exists_disconnectWorker {m : Master} {w : WorkerId} (hm : Master.Consistent m)
    (hw : w ∈ m.workers.keys) : ∃ order m', m.step (.disconnectWorker w order) = some m' := by
  obtain ⟨c, hc⟩ := Dict.mem_keys_iff.1 hw
  refine ⟨c.assignedTaskIds.toList, ?_⟩
  have horder := c.assignedTaskIds.toList_toFinset
  simp only [Master.step, hc, Option.bind_some, horder, c.assignedTaskIds.nodup_toList, true_and,
    if_true]
  obtain ⟨_, hsame⟩ | ⟨_, m', hsome, _⟩ :=
    Master.disconnectWorker_cases hm hc c.assignedTaskIds.nodup_toList horder
  · exact ⟨m, hsame⟩
  · exact ⟨m', hsome⟩

/-- The Master knows the same workers, and none of them is connected again. -/
structure Shrinks (m m' : Master) : Prop where
  keys : ∀ w, w ∈ m'.workers.keys ↔ w ∈ m.workers.keys
  connected : ∀ w, m'.connection w = some true → m.connection w = some true

theorem shrinks_refl (m : Master) : Shrinks m m := ⟨fun _ => Iff.rfl, fun _ => id⟩

theorem shrinks_step {m m' : Master} {b : Master.Action} (hm : Master.Consistent m)
    (hstep : m.step b = some m') : Shrinks m m' := by
  obtain ⟨_, heff⟩ := Master.step_effect hm hstep
  refine ⟨fun w => ?_, fun w => heff.connected⟩
  have hknown := heff.known w
  rw [Master.connection, Master.connection, Option.isSome_map, Option.isSome_map] at hknown
  rw [← AList.mem_keys, ← AList.mem_keys, ← AList.lookup_isSome, ← AList.lookup_isSome, hknown]

theorem shrinks_close (m : Master) (failed : List WorkerId) : Shrinks m (m.close failed) := by
  refine ⟨fun w => ?_, fun w => connection_of_close⟩
  rw [Master.close, Dict.keys_mapValues]

theorem shrinks_quiet {m m' : Master} (hm : Master.Consistent m) (h : Quiet m m') :
    Shrinks m m' := by
  obtain rfl | ⟨b, hb, _⟩ := h
  · exact shrinks_refl _
  · exact shrinks_step hm hb

theorem shrinks_of_stepped (h : Sound tasks s) (hstep : Stepped s s')
    (ha : s'.interrupted = false) : Shrinks s.accounts.master s'.accounts.master := by
  have hm := h.regular.consistent
  cases hstep with
  | quiet hkeeps hphase hsent hmaster => exact shrinks_quiet hm hmaster
  | assigned hkeeps hphase hphase' hsent now hmaster => exact shrinks_step hm hmaster
  | dropped hkeeps w remaining hphase hphase' hsent order hmaster =>
      exact shrinks_step hm hmaster
  | closed hinterrupted error hphase hphase' hsent failed hmaster =>
      exact hmaster ▸ shrinks_close _ failed
  | interrupted hphase hsent hinterrupted =>
      rw [ha] at hinterrupted
      cases hinterrupted
  | sentTask _ _ _ _ _ _ hmaster => exact hmaster ▸ shrinks_refl _
  | distributed _ _ _ _ hmaster => exact hmaster ▸ shrinks_refl _
  | failed _ _ _ _ hmaster => exact hmaster ▸ shrinks_refl _
  | reported _ _ _ _ _ _ hmaster => exact hmaster ▸ shrinks_refl _
  | skipped _ _ _ _ _ _ hmaster => exact hmaster ▸ shrinks_refl _
  | requested _ _ _ _ _ _ hmaster => exact hmaster ▸ shrinks_refl _
  | terminated _ _ _ _ _ _ hmaster => exact hmaster ▸ shrinks_refl _
  | refused _ _ _ _ _ _ hmaster => exact hmaster ▸ shrinks_refl _
  | listed _ _ _ _ hmaster => exact hmaster ▸ shrinks_refl _
  | joined _ _ _ _ _ hmaster => exact hmaster ▸ shrinks_refl _

/-- Every connected worker has been told to terminate or still will be. -/
structure Covered (s : MasterRun) : Prop where
  known : ∀ w ∈ waiting s.phase, w ∈ s.accounts.master.workers.keys
  connected : ∀ w, s.accounts.master.connection w = some true →
    Early s.phase ∨ w ∈ waiting s.phase ∨ .terminate ∈ s.sent w

theorem sent_isPrefix (hstep : Stepped s s') (w : WorkerId) : s.sent w <+: s'.sent w := by
  have hadd : ∀ v message, s.sent w <+: (s.addSent v message).sent w := by
    intro v message
    change s.sent w <+: Function.update s.sent v (s.sent v ++ [message]) w
    by_cases hv : w = v
    · rw [hv, Function.update_self]
      exact List.prefix_append _ _
    · rw [Function.update_of_ne hv]
  cases hstep with
  | sentTask _ _ _ v t hsent => exact hsent ▸ hadd v _
  | terminated _ v _ _ _ hsent => exact hsent ▸ hadd v _
  | quiet _ _ hsent => exact hsent ▸ List.prefix_rfl
  | assigned _ _ _ hsent => exact hsent ▸ List.prefix_rfl
  | distributed _ _ _ hsent => exact hsent ▸ List.prefix_rfl
  | failed _ _ _ hsent => exact hsent ▸ List.prefix_rfl
  | reported _ _ _ _ _ hsent => exact hsent ▸ List.prefix_rfl
  | skipped _ _ _ _ _ hsent => exact hsent ▸ List.prefix_rfl
  | requested _ _ _ _ _ hsent => exact hsent ▸ List.prefix_rfl
  | refused _ _ _ _ _ hsent => exact hsent ▸ List.prefix_rfl
  | dropped _ _ _ _ _ hsent => exact hsent ▸ List.prefix_rfl
  | listed _ _ _ hsent => exact hsent ▸ List.prefix_rfl
  | closed _ _ _ _ hsent => exact hsent ▸ List.prefix_rfl
  | joined _ _ _ _ hsent => exact hsent ▸ List.prefix_rfl
  | interrupted _ hsent => exact hsent ▸ List.prefix_rfl

theorem covered_step (h : Covered s) (hsound : Sound tasks s) (hstep : Stepped s s')
    (ha : s'.interrupted = false) : Covered s' := by
  have hshrinks := shrinks_of_stepped hsound hstep ha
  -- the workers that a phase leaves out are told to terminate, or disconnected
  have hmove : ∀ {phase phase' : Phase}, s.phase = phase → s'.phase = phase' →
      (∀ w ∈ waiting phase', w ∈ waiting phase) → (Early phase → Early phase') →
      (∀ w ∈ waiting phase, w ∈ waiting phase' ∨ .terminate ∈ s'.sent w ∨
        s'.accounts.master.connection w ≠ some true) → Covered s' := by
    intro phase phase' hphase hphase' hsub hearly hleft
    refine ⟨fun w hw => ?_, fun w hw => ?_⟩
    · rw [hphase'] at hw
      exact (hshrinks.keys w).2 (h.known w (hphase ▸ hsub w hw))
    · rw [hphase']
      obtain he | hwaiting | hsent := h.connected w (hshrinks.connected w hw)
      · exact .inl (hearly (hphase ▸ he))
      · obtain hin | hsent | hnot := hleft w (hphase ▸ hwaiting)
        · exact .inr (.inl hin)
        · exact .inr (.inr hsent)
        · exact absurd hw hnot
      · exact .inr (.inr ((sent_isPrefix hstep w).subset hsent))
  have hsame : ∀ {phase phase' : Phase}, s.phase = phase → s'.phase = phase' →
      waiting phase' = waiting phase → (Early phase → Early phase') → Covered s' := by
    intro phase phase' hphase hphase' hwaiting hearly
    refine hmove hphase hphase' (fun w hw => hwaiting ▸ hw) hearly fun w hw => ?_
    exact .inl (hwaiting ▸ hw)
  cases hstep with
  | quiet hkeeps hphase hsent hmaster => exact hsame rfl hphase rfl id
  | assigned hkeeps hphase hphase' hsent now hmaster => exact hsame hphase hphase' rfl id
  | sentTask hkeeps hphase hphase' w t hsent hmaster => exact hsame hphase hphase' rfl id
  | distributed hkeeps hphase hphase' hsent hmaster hcomplete =>
      exact hsame hphase hphase' rfl fun _ => trivial
  | failed hkeeps hphase hphase' hsent hmaster hfailed =>
      exact hsame hphase hphase' rfl fun _ => trivial
  | reported hkeeps order hphase hphase' horder hsent hmaster =>
      refine ⟨fun w hw => ?_, fun w hw => .inr (.inl ?_)⟩
      · rw [hphase'] at hw
        exact (hshrinks.keys w).2 (horder.subset hw)
      · rw [hphase']
        obtain ⟨c, hc, _⟩ := Option.map_eq_some_iff.1 (hshrinks.connected w hw)
        exact horder.symm.subset (Dict.mem_keys_iff.2 ⟨c, hc⟩)
  | skipped hkeeps w remaining hphase hphase' hsent hmaster hdisconnected =>
      refine hmove hphase hphase' (fun v => List.mem_cons_of_mem w) id fun v hv => ?_
      obtain rfl | hv := List.mem_cons.1 hv
      · exact .inr (.inr (hmaster ▸ hdisconnected))
      · exact .inl hv
  | requested hkeeps w remaining hphase hphase' hsent hmaster =>
      exact hsame hphase hphase' rfl id
  | terminated hkeeps w remaining hphase hphase' hsent hmaster =>
      refine hmove hphase hphase' (fun v => List.mem_cons_of_mem w) id fun v hv => ?_
      obtain rfl | hv := List.mem_cons.1 hv
      · refine .inr (.inl ?_)
        rw [hsent]
        change .terminate ∈ Function.update s.sent v (s.sent v ++ [.terminate]) v
        rw [Function.update_self]
        exact List.mem_append_right _ List.mem_cons_self
      · exact .inl hv
  | refused hkeeps w remaining hphase hphase' hsent hmaster => exact hsame hphase hphase' rfl id
  | dropped hkeeps w remaining hphase hphase' hsent order hmaster =>
      refine hmove hphase hphase' (fun v => List.mem_cons_of_mem w) id fun v hv => ?_
      obtain rfl | hv := List.mem_cons.1 hv
      · exact .inr (.inr (Master.connection_disconnectWorker hsound.regular.consistent hmaster))
      · exact .inl hv
  | listed hkeeps hphase hphase' hsent hmaster =>
      exact hsame hphase hphase' rfl fun he => he.elim
  | closed hinterrupted error hphase hphase' hsent failed hmaster =>
      cases error <;> exact hsame hphase hphase' rfl id
  | joined hkeeps error hphase hphase' hsent hmaster =>
      cases error
      · exact hsame hphase hphase' rfl fun he => he.elim
      · exact hsame hphase hphase' rfl fun _ => trivial
  | interrupted hphase hsent hinterrupted =>
      rw [ha] at hinterrupted
      cases hinterrupted

/-! ### Runs -/

/-- What holds in every reachable state. -/
structure Lawful (tasks : List Task) (s : MasterRun) : Prop where
  wired : Wired s
  sound : s.interrupted = false → Sound tasks s ∧ Covered s

theorem lawful_step (h : Lawful tasks s) (hstep : s.step a = some s') : Lawful tasks s' := by
  have hstepped := stepped_of_step hstep
  refine ⟨wired_step h.wired hstepped, fun ha => ?_⟩
  obtain ⟨hsound, hcovered⟩ := h.sound (interrupted_of_step hstepped ha)
  exact ⟨sound_step hsound hstepped ha, covered_step hcovered hsound hstepped ha⟩

theorem exists_accounts_of_start {count : ℕ} {rng : RandomSource} {ws : List WorkerId}
    (hstart : start count rng ws = .ok s) :
    ∃ accounts, Accounts.start count rng ws = .ok accounts ∧ s = { accounts := accounts } := by
  unfold start at hstart
  cases haccounts : Accounts.start count rng ws with
  | error e =>
      rw [haccounts] at hstart
      cases hstart
  | ok accounts =>
      rw [haccounts] at hstart
      cases hstart
      exact ⟨accounts, rfl, rfl⟩

theorem lawful_start {count : ℕ} {rng : RandomSource} {ws : List WorkerId}
    (hstart : start count rng ws = .ok s) : Lawful (generated count rng) s := by
  obtain ⟨accounts, haccounts, rfl⟩ := exists_accounts_of_start hstart
  have h := Accounts.balanced_start haccounts
  refine ⟨⟨fun _ => ⟨[], .inl rfl⟩, fun _ _ => List.not_mem_nil, List.nodup_nil,
    fun _ _ => List.not_mem_nil⟩, fun _ => ⟨⟨⟨h.consistent, h.describes, h.storeExact⟩,
    trivial, fun hstopped => ?_⟩, ⟨fun w hw => absurd hw List.not_mem_nil,
    fun _ _ => .inl trivial⟩⟩⟩
  cases hstopped

theorem lawful_run {count : ℕ} {rng : RandomSource} {ws : List WorkerId} {s₀ : MasterRun}
    {acts : List Action} (hstart : start count rng ws = .ok s₀)
    (hrun : Transition.run step s₀ acts = some s) : Lawful (generated count rng) s :=
  Transition.invariant_run (fun _ _ _ h hstep => lawful_step h hstep) (lawful_start hstart) hrun

/-- A worker is told to terminate when the store is complete. -/
theorem Lawful.complete_of_sent (h : Lawful tasks s) {w : WorkerId}
    (hsent : .terminate ∈ s.sent w) (hquiet : s.interrupted = false) :
    s.accounts.master.storeComplete := by
  -- only the phases of a complete store are not early
  have hlate : ¬ Early s.phase := fun he => h.wired.early he w hsent
  have hholds := (h.sound hquiet).1.phase
  revert hlate hholds
  cases s.phase with
  | stopping error => cases error <;> simp [Early, PhaseHolds]
  | joining error => cases error <;> simp [Early, PhaseHolds]
  | returned store => exact fun _ hholds => hholds.1
  | _ => simp [Early, PhaseHolds]

/-- **Outcome.** However the threads interleave and whatever messages arrive, a run that is not
interrupted returns the whole store, having told every worker that is still connected to
terminate; or it raises an exception when no worker is connected and a task is missing. -/
theorem run_outcome {count : ℕ} {rng : RandomSource} {ws : List WorkerId} {s₀ : MasterRun}
    {acts : List Action} (hstart : start count rng ws = .ok s₀)
    (hrun : Transition.run step s₀ acts = some s) (hquiet : s.interrupted = false) :
    (∀ store, s.phase = .returned store →
      (∀ k v, store.lookup k = some v ↔
        ∃ task ∈ generated count rng, task.key = k ∧ task.value = v) ∧
      ∀ w, s.accounts.master.connection w = some true → .terminate ∈ s.sent w) ∧
    (s.phase = .raised → ¬ s.accounts.master.storeComplete ∧
      ∀ w, s.accounts.master.connection w ≠ some true) := by
  obtain ⟨hsound, hcovered⟩ := (lawful_run hstart hrun).sound hquiet
  have hregular := hsound.regular
  refine ⟨fun store hphase => ?_, fun hphase => ?_⟩
  · have hholds := hsound.phase
    rw [hphase] at hholds
    obtain ⟨hcomplete, rfl⟩ := hholds
    refine ⟨fun k v => (hregular.storeExact k v).trans ?_, fun w hw => ?_⟩
    · have hdone := (hregular.storeExact.storeComplete_iff hregular.describes).1 hcomplete
      constructor
      · rintro ⟨task, htask, _, hkey, hvalue⟩
        exact ⟨task, htask, hkey, hvalue⟩
      · rintro ⟨task, htask, hkey, hvalue⟩
        exact ⟨task, htask, hdone task htask, hkey, hvalue⟩
    · obtain he | hwaiting | hsent := hcovered.connected w hw
      · rw [hphase] at he
        exact he.elim
      · rw [hphase] at hwaiting
        exact absurd hwaiting List.not_mem_nil
      · exact hsent
  · have hholds := hsound.phase
    rw [hphase] at hholds
    exact ⟨hholds.incomplete, hholds.disconnected⟩

/-- **The last message.** What is sent to a worker are tasks and at most one `TERMINATE`, which
is the last message to it; and unless `stop` is called from outside, when it is sent every task
is done, and the store has its final content. -/
theorem terminate_last {count : ℕ} {rng : RandomSource} {ws : List WorkerId} {s₀ : MasterRun}
    {acts : List Action} (hstart : start count rng ws = .ok s₀)
    (hrun : Transition.run step s₀ acts = some s) (w : WorkerId) :
    WellFormed (s.sent w) ∧ (.terminate ∈ s.sent w → s.interrupted = false →
      (∀ task ∈ generated count rng,
        s.accounts.master.taskState.lookup task.taskId = some .done) ∧
      ∀ a s', s.step a = some s' → s'.interrupted = false →
        s'.accounts.master.store = s.accounts.master.store) := by
  have hlawful := lawful_run hstart hrun
  refine ⟨hlawful.wired.wellFormed w, fun hsent hquiet => ?_⟩
  obtain ⟨hsound, _⟩ := hlawful.sound hquiet
  have hregular := hsound.regular
  have hcomplete := hlawful.complete_of_sent hsent hquiet
  refine ⟨(hregular.storeExact.storeComplete_iff hregular.describes).1 hcomplete,
    fun a s' hstep hquiet' => ?_⟩
  have hsame : ∀ b, s.accounts.master.step b = some s'.accounts.master →
      s'.accounts.master.store = s.accounts.master.store :=
    fun b hb => hregular.store_of_complete hb hcomplete
  cases stepped_of_step hstep with
  | quiet hkeeps hphase hsent hmaster =>
      obtain heq | ⟨b, hb, _⟩ := hmaster
      · rw [heq]
      · exact hsame b hb
  | assigned _ _ _ _ now hmaster => exact hsame _ hmaster
  | dropped _ _ _ _ _ _ order hmaster => exact hsame _ hmaster
  | closed _ _ _ _ _ failed hmaster =>
      rw [hmaster]
      rfl
  | interrupted _ _ hinterrupted =>
      rw [hquiet'] at hinterrupted
      cases hinterrupted
  | sentTask _ _ _ _ _ _ hmaster => rw [hmaster]
  | distributed _ _ _ _ hmaster => rw [hmaster]
  | failed _ _ _ _ hmaster => rw [hmaster]
  | reported _ _ _ _ _ _ hmaster => rw [hmaster]
  | skipped _ _ _ _ _ _ hmaster => rw [hmaster]
  | requested _ _ _ _ _ _ hmaster => rw [hmaster]
  | terminated _ _ _ _ _ _ hmaster => rw [hmaster]
  | refused _ _ _ _ _ _ hmaster => rw [hmaster]
  | listed _ _ _ _ hmaster => rw [hmaster]
  | joined _ _ _ _ _ hmaster => rw [hmaster]

theorem exists_reached (count : ℕ) (rng : RandomSource) (ws : List WorkerId)
    (acts : List Action) {p : MasterRun → Prop} [DecidablePred p]
    (h : ((start count rng ws).toOption.bind fun s₀ => Transition.run step s₀ acts).any
      (fun s => decide (p s)) = true) :
    ∃ s₀ s, start count rng ws = .ok s₀ ∧ Transition.run step s₀ acts = some s ∧ p s :=
  Transition.exists_run_of_bind h

def finished : List Action :=
  [.distribute 0, .sendTask,
    .receiver (.result "worker1" true { taskId := "task-0001" } "r1" (.finite 0)),
    .distribute 1, .receiver (.record "worker1"), .emitStatistics 1 ["worker2", "worker1"],
    .request, .sendTerminate, .request, .terminateFailed, .lost "worker1",
    .disconnect "worker1" [], .drop [], .request, .stop ["worker1"], .leave "worker2", .join]

set_option maxRecDepth 100000 in
theorem run_outcome_finished :
    ∃ s₀ s store, start 1 .first ["worker1", "worker2"] = .ok s₀ ∧
      Transition.run step s₀ finished = some s ∧ s.phase = .returned store ∧
      (∀ k v, store.lookup k = some v ↔
        ∃ task ∈ generated 1 .first, task.key = k ∧ task.value = v) ∧
      s.accounts.master.connection "worker2" = some true ∧ .terminate ∈ s.sent "worker2" := by
  obtain ⟨s₀, s, hstart, hrun, hphase, hcomplete, hquiet, hconnected⟩ := exists_reached 1 .first
    ["worker1", "worker2"] finished (p := fun s => (s.phase matches .returned _) = true ∧
      s.accounts.master.storeComplete ∧ s.interrupted = false ∧
      s.accounts.master.connection "worker2" = some true) (by decide +kernel)
  obtain ⟨hreturned, _⟩ := run_outcome hstart hrun hquiet
  cases hp : s.phase with
  | returned store =>
      obtain ⟨hstore, hsent⟩ := hreturned store hp
      exact ⟨s₀, s, store, hstart, hrun, hp, hstore, hconnected, hsent _ hconnected⟩
  | _ =>
      rw [hp] at hphase
      cases hphase

set_option maxRecDepth 100000 in
theorem terminate_last_finished :
    ∃ s₀ s, start 1 .first ["worker1", "worker2"] = .ok s₀ ∧
      Transition.run step s₀ finished = some s ∧
      s.sent "worker1" = [.task "task-0001"] ∧ s.sent "worker2" = [.terminate] ∧
      WellFormed (s.sent "worker2") ∧ ∀ task ∈ generated 1 .first,
        s.accounts.master.taskState.lookup task.taskId = some .done := by
  obtain ⟨s₀, s, hstart, hrun, hquiet, hfirst, hsecond⟩ := exists_reached 1 .first
    ["worker1", "worker2"] finished (p := fun s => s.interrupted = false ∧
      s.sent "worker1" = [.task "task-0001"] ∧ s.sent "worker2" = [.terminate])
    (by decide +kernel)
  obtain ⟨hwell, hlast⟩ := terminate_last hstart hrun "worker2"
  have hsent : .terminate ∈ s.sent "worker2" := hsecond ▸ List.mem_cons_self
  exact ⟨s₀, s, hstart, hrun, hfirst, hsecond, hwell, (hlast hsent hquiet).1⟩

/-! ### The end of a run -/

def Action.isMain : Action → Bool
  | .emitStatistics _ _ => true
  | .request => true
  | .sendTerminate => true
  | .terminateFailed => true
  | .drop _ => true
  | .stop _ => true
  | .join => true
  | _ => false

/-- `run` has returned or raised its exception. -/
def isOver : Phase → Bool
  | .returned _ => true
  | .raised => true
  | _ => false

/-- How many steps the main thread has before it at most, with so many workers. -/
def stepsLeft (workers : ℕ) : Phase → ℕ
  | .distributing => 0
  | .reporting => 3 * workers + 4
  | .terminating remaining => 3 * remaining.length + 3
  | .requesting _ remaining => 3 * remaining.length + 5
  | .dropping _ remaining => 3 * remaining.length + 4
  | .stopping _ => 2
  | .joining _ => 1
  | .returned _ => 0
  | .raised => 0

def left (s : MasterRun) : ℕ := stepsLeft s.accounts.master.workers.size s.phase

theorem size_eq_of_shrinks {m m' : Master} (h : Shrinks m m') :
    m'.workers.size = m.workers.size := by
  rw [Dict.size_eq_card, Dict.size_eq_card]
  congr 1
  ext w
  rw [List.mem_toFinset, List.mem_toFinset, h.keys]

theorem left_of_phase (hphase : s'.phase = s.phase)
    (hshrinks : Shrinks s.accounts.master s'.accounts.master) : s'.left = s.left := by
  rw [left, left, hphase, size_eq_of_shrinks hshrinks]

/-- A step that changes the phase brings the end nearer. -/
theorem left_step (h : Sound tasks s) (hstep : Stepped s s') (ha : s'.interrupted = false)
    (hphase : s.phase ≠ .distributing) :
    s'.phase ≠ .distributing ∧ s'.left ≤ s.left ∧ (s'.phase ≠ s.phase → s'.left < s.left) := by
  have hshrinks := shrinks_of_stepped h hstep ha
  have hsame : s'.phase = s.phase → s'.phase ≠ .distributing ∧ s'.left ≤ s.left ∧
      (s'.phase ≠ s.phase → s'.left < s.left) := fun heq =>
    ⟨heq ▸ hphase, (left_of_phase heq hshrinks).le, fun hne => absurd heq hne⟩
  have hmove : s'.phase ≠ .distributing → s'.left < s.left → s'.phase ≠ .distributing ∧
      s'.left ≤ s.left ∧ (s'.phase ≠ s.phase → s'.left < s.left) :=
    fun hnot hless => ⟨hnot, hless.le, fun _ => hless⟩
  cases hstep with
  | quiet _ hsame' => exact hsame hsame'
  | assigned _ hdistributing => exact absurd hdistributing hphase
  | sentTask _ hdistributing => exact absurd hdistributing hphase
  | distributed _ hdistributing => exact absurd hdistributing hphase
  | failed _ hdistributing => exact absurd hdistributing hphase
  | reported _ order hold hnew horder =>
      refine hmove (hnew ▸ nofun) ?_
      rw [left, left, hold, hnew]
      change 3 * order.length + 3 < 3 * s.accounts.master.workers.keys.length + 4
      rw [horder.length_eq]
      exact Nat.lt_succ_self _
  | skipped _ w remaining hold hnew =>
      refine hmove (hnew ▸ nofun) ?_
      rw [left, left, hold, hnew]
      simp only [stepsLeft, List.length_cons]
      omega
  | requested _ w remaining hold hnew =>
      refine hmove (hnew ▸ nofun) ?_
      rw [left, left, hold, hnew]
      simp only [stepsLeft, List.length_cons]
      omega
  | terminated _ w remaining hold hnew =>
      refine hmove (hnew ▸ nofun) ?_
      simp only [left, hold, hnew, stepsLeft]
      omega
  | refused _ w remaining hold hnew =>
      refine hmove (hnew ▸ nofun) ?_
      simp only [left, hold, hnew, stepsLeft]
      omega
  | dropped _ w remaining hold hnew =>
      refine hmove (hnew ▸ nofun) ?_
      simp only [left, hold, hnew, stepsLeft]
      omega
  | listed _ hold hnew =>
      refine hmove (hnew ▸ nofun) ?_
      rw [left, left, hold, hnew]
      simp only [stepsLeft, List.length_nil]
      omega
  | closed _ error hold hnew =>
      refine hmove (hnew ▸ nofun) ?_
      simp only [left, hold, hnew, stepsLeft]
      omega
  | joined _ error hold hnew =>
      cases error
      all_goals refine hmove (hnew ▸ nofun) ?_
      all_goals rw [left, left, hold, hnew]
      all_goals exact Nat.zero_lt_one
  | interrupted hsame' => exact hsame hsame'

theorem phase_ne_of_isMain (hmain : a.isMain = true) (hstep : s.step a = some s') :
    s'.phase ≠ s.phase := by
  cases a with
  | emitStatistics now order =>
      change s.emitStatistics now order = some s' at hstep
      unfold emitStatistics at hstep
      split at hstep
      · rename_i hphase
        split_ifs at hstep
        cases hstep
        exact hphase ▸ nofun
      · cases hstep
  | request =>
      change s.request = some s' at hstep
      unfold request at hstep
      split at hstep
      · rename_i hphase
        cases hstep
        exact hphase ▸ nofun
      · rename_i w remaining hphase
        split_ifs at hstep
        · cases hstep
          exact hphase ▸ nofun
        · cases hstep
          rw [hphase]
          intro heq
          exact List.cons_ne_self w remaining (Phase.terminating.inj heq).symm
      · cases hstep
  | sendTerminate =>
      change s.sendTerminate = some s' at hstep
      unfold sendTerminate at hstep
      split at hstep
      · rename_i hphase
        cases hstep
        exact hphase ▸ nofun
      · cases hstep
  | terminateFailed =>
      change s.terminateFailed = some s' at hstep
      unfold terminateFailed at hstep
      split at hstep
      · rename_i hphase
        cases hstep
        exact hphase ▸ nofun
      · cases hstep
  | drop order =>
      change s.drop order = some s' at hstep
      unfold drop at hstep
      split at hstep
      · rename_i hphase
        obtain ⟨m, _, rfl⟩ := Option.map_eq_some_iff.1 hstep
        exact hphase ▸ nofun
      · cases hstep
  | stop failed =>
      change s.stop failed = some s' at hstep
      unfold stop at hstep
      split at hstep
      · rename_i hphase
        cases hstep
        exact hphase ▸ nofun
      · cases hstep
  | join =>
      change s.join = some s' at hstep
      unfold join at hstep
      split at hstep
      · rename_i hphase
        cases hstep
        exact hphase ▸ nofun
      · rename_i hphase
        cases hstep
        exact hphase ▸ nofun
      · cases hstep
  | _ => cases hmain

/-- The main thread is never blocked. -/
theorem exists_main_step (hsound : Sound tasks s) (hcovered : Covered s)
    (hphase : s.phase ≠ .distributing) (hover : isOver s.phase = false) :
    ∃ a, a.isMain = true ∧ (s.step a).isSome := by
  cases hp : s.phase with
  | distributing => exact absurd hp hphase
  | reporting =>
      refine ⟨.emitStatistics 0 s.accounts.master.workers.keys, rfl, ?_⟩
      rw [step, emitStatistics, hp]
      dsimp only
      rw [if_pos (List.Perm.refl _)]
      rfl
  | terminating remaining =>
      refine ⟨.request, rfl, ?_⟩
      cases remaining with
      | nil =>
          rw [step, request, hp]
          rfl
      | cons w remaining =>
          rw [step, request, hp]
          dsimp only
          split_ifs <;> rfl
  | requesting w remaining =>
      refine ⟨.sendTerminate, rfl, ?_⟩
      rw [step, sendTerminate, hp]
      rfl
  | dropping w remaining =>
      have hknown : w ∈ s.accounts.master.workers.keys :=
        hcovered.known w (by rw [hp]; exact List.mem_cons_self)
      obtain ⟨order, m, hm⟩ := exists_disconnectWorker hsound.regular.consistent hknown
      refine ⟨.drop order, rfl, ?_⟩
      rw [step, drop, hp]
      simp only [hm, Option.map_some, Option.isSome_some]
  | stopping error =>
      refine ⟨.stop [], rfl, ?_⟩
      rw [step, stop, hp]
      rfl
  | joining error =>
      refine ⟨.join, rfl, ?_⟩
      cases error
      all_goals rw [step, join, hp]
      all_goals rfl
  | returned store =>
      rw [hp] at hover
      cases hover
  | raised =>
      rw [hp] at hover
      cases hover

/-- **The run ends.** Once the distribution is over, the main thread always has a next step
until `run` is over, and it takes at most `left` more of them, whatever the receivers do. -/
theorem run_ends {count : ℕ} {rng : RandomSource} {ws : List WorkerId} {s₀ : MasterRun}
    {acts more : List Action} (hstart : start count rng ws = .ok s₀)
    (hrun : Transition.run step s₀ acts = some s) (hphase : s.phase ≠ .distributing)
    (hmore : Transition.run step s more = some s') (hquiet : s'.interrupted = false) :
    (more.filter Action.isMain).length + s'.left ≤ s.left ∧
      (isOver s'.phase = false → ∃ a, a.isMain = true ∧ (s'.step a).isSome) := by
  have hlawful := lawful_run hstart hrun
  clear hrun hstart
  induction more generalizing s with
  | nil =>
      cases hmore
      obtain ⟨hsound, hcovered⟩ := hlawful.sound hquiet
      exact ⟨(Nat.zero_add _).le, exists_main_step hsound hcovered hphase⟩
  | cons a more ih =>
      obtain ⟨u, hu, hut⟩ := Transition.run_cons_eq_some_iff.1 hmore
      have hquiet' : u.interrupted = false :=
        Transition.invariant_run_back (fun _ _ _ hv hstep =>
          interrupted_of_step (stepped_of_step hstep) hv) hquiet hut
      have hstepped := stepped_of_step hu
      obtain ⟨hsound, _⟩ := hlawful.sound (interrupted_of_step hstepped hquiet')
      obtain ⟨hnot, hle, hless⟩ := left_step hsound hstepped hquiet' hphase
      obtain ⟨hlength, henabled⟩ := ih hnot hut (lawful_step hlawful hu)
      refine ⟨?_, henabled⟩
      rw [List.filter_cons]
      split_ifs with hmain
      · have := hless (phase_ne_of_isMain hmain hu)
        rw [List.length_cons]
        omega
      · omega

set_option maxRecDepth 100000 in
theorem run_ends_finished :
    ∃ s₀ s s', start 1 .first ["worker1", "worker2"] = .ok s₀ ∧
      Transition.run step s₀ (finished.take 4) = some s ∧
      Transition.run step s (finished.drop 4) = some s' ∧ s.left = 10 ∧
      ((finished.drop 4).filter Action.isMain).length + s'.left ≤ s.left := by
  obtain ⟨s₀, s, hstart, hrun, hleft, hphase, hmore⟩ := exists_reached 1 .first
    ["worker1", "worker2"] (finished.take 4) (p := fun s => s.left = 10 ∧
      (s.phase matches .distributing) = false ∧
      (Transition.run step s (finished.drop 4)).any (fun s' => s'.interrupted = false) = true)
    (by decide +kernel)
  obtain ⟨s', hrest, hquiet⟩ := (Option.any_eq_true _ _).1 hmore
  have hne : s.phase ≠ .distributing := by
    intro heq
    rw [heq] at hphase
    cases hphase
  obtain ⟨hlength, _⟩ := run_ends hstart hrun hne hrest (of_decide_eq_true hquiet)
  exact ⟨s₀, s, s', hstart, hrun, hrest, hleft, hlength⟩

end

end MasterRun

end KVStore
