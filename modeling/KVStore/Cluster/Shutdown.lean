import KVStore.Master.Run
import KVStore.Worker.Lifecycle

/-!
# The Master and its workers at the end of a run

The run of the Master and those of its workers, put together by their connections: a worker
receives what the Master has sent to it, in this order, and a connection can be lost at any
time. What the workers send, and what they exchange among themselves, is left open. So what is
shown of the end of a run holds whatever becomes of the results and of the transfers.
-/

namespace KVStore

open Python

/-- The worker reads from `message` what the Master has sent. -/
def MasterMessage.Carries (b : Builtins) (message : Message) : MasterMessage → Prop
  | .task t => message.messageType = .TASK ∧
      ∃ task, TaskRecord.fromDict b (message.payload.getD "task" (.dict [])) = .ok task ∧
        task.taskId = t
  | .terminate => message.messageType = .TERMINATE

instance (b : Builtins) (message : Message) :
    ∀ m : MasterMessage, Decidable (m.Carries b message)
  | .task t =>
      match h : TaskRecord.fromDict b (message.payload.getD "task" (.dict [])) with
      | .error _ => isFalse fun ⟨_, _, htask, _⟩ => nomatch h.symm.trans htask
      | .ok task =>
          decidable_of_iff (message.messageType = .TASK ∧ task.taskId = t) <|
            and_congr_right fun _ =>
              ⟨fun heq => ⟨task, h, heq⟩, fun ⟨_, hother, heq⟩ => by
                cases h.symm.trans hother
                exact heq⟩
  | .terminate => inferInstanceAs (Decidable (message.messageType = .TERMINATE))

/-- `received` counts the messages that a worker has received from the Master. -/
structure Deployment where
  master : MasterRun
  workers : WorkerId → WorkerRuntime
  received : WorkerId → ℕ := fun _ => 0

namespace Deployment

inductive Action
  | master (a : MasterRun.Action)
  | worker (w : WorkerId) (event : WorkerRuntime.Event)

/-- The message that a worker receives from the Master with the event. -/
def arriving (b : Builtins) (json : Json) : WorkerRuntime.Event → Option Message
  | .receiver conn _ _ => (conn.receive b json).toOption
  | _ => none

/-- What arrives on the connection is the next message that was sent on it. -/
def Delivers (b : Builtins) (json : Json) (s : Deployment) (w : WorkerId)
    (event : WorkerRuntime.Event) : Prop :=
  ∀ message ∈ arriving b json event,
    ∃ m ∈ (s.master.sent w)[s.received w]?, m.Carries b message

instance (b : Builtins) (json : Json) (s : Deployment) (w : WorkerId)
    (event : WorkerRuntime.Event) : Decidable (s.Delivers b json w event) :=
  inferInstanceAs (Decidable (∀ message ∈ arriving b json event,
    ∃ m ∈ (s.master.sent w)[s.received w]?, m.Carries b message))

def stepWorker (b : Builtins) (json : Json) (s : Deployment) (w : WorkerId)
    (event : WorkerRuntime.Event) : Option Deployment :=
  if s.Delivers b json w event then
    ((s.workers w).step b json event).map fun worker =>
      { s with
        workers := Function.update s.workers w worker
        received := Function.update s.received w
          (s.received w + if (arriving b json event).isSome then 1 else 0) }
  else
    none

def step (b : Builtins) (json : Json) (s : Deployment) : Action → Option Deployment
  | .master a => (s.master.step a).map fun master => { s with master := master }
  | .worker w event => s.stepWorker b json w event

/-- What `w` reports with an action. -/
def reported (b : Builtins) (json : Json) (w : WorkerId) (s : Deployment) :
    Action → List LogEntry
  | .master _ => []
  | .worker v event => if v = w then (s.workers w).emitted b json event else []

/-- The workers have not connected yet. -/
def start (master : MasterRun) (endpoint : WorkerId → WorkerEndpoint) (peers : List WorkerId)
    (queue : ReadyQueue TaskRecord) : Deployment where
  master := master
  workers w := WorkerRuntime.init w (endpoint w) peers queue

section

variable {b : Builtins} {json : Json} {s s' : Deployment} {w v : WorkerId} {a : Action}

theorem step_worker_eq_some_iff {event : WorkerRuntime.Event} :
    s.step b json (.worker v event) = some s' ↔
      s.Delivers b json v event ∧ ∃ worker,
        (s.workers v).step b json event = some worker ∧
        s' = { s with
          workers := Function.update s.workers v worker
          received := Function.update s.received v
            (s.received v + if (arriving b json event).isSome then 1 else 0) } := by
  change s.stepWorker b json v event = some s' ↔ _
  unfold stepWorker
  by_cases hdelivers : s.Delivers b json v event
  · rw [if_pos hdelivers, Option.map_eq_some_iff]
    constructor
    · rintro ⟨worker, hworker, rfl⟩
      exact ⟨hdelivers, worker, hworker, rfl⟩
    · rintro ⟨_, worker, hworker, rfl⟩
      exact ⟨worker, hworker, rfl⟩
  · rw [if_neg hdelivers]
    exact ⟨nofun, fun h => absurd h.1 hdelivers⟩

theorem workers_of_step (hstep : s.step b json a = some s') (w : WorkerId) :
    s'.workers w = s.workers w ∧ s'.received w = s.received w ∧ reported b json w s a = [] ∨
      ∃ event, a = .worker w event ∧ s.Delivers b json w event ∧
        (s.workers w).step b json event = some (s'.workers w) ∧
        s'.received w =
          s.received w + if (arriving b json event).isSome then 1 else 0 := by
  cases a with
  | master a =>
      obtain ⟨master, _, rfl⟩ := Option.map_eq_some_iff.1 hstep
      exact .inl ⟨rfl, rfl, rfl⟩
  | worker v event =>
      obtain ⟨hdelivers, worker, hworker, rfl⟩ := step_worker_eq_some_iff.1 hstep
      by_cases hv : v = w
      · subst hv
        refine .inr ⟨event, rfl, hdelivers, ?_, Function.update_self ..⟩
        dsimp only
        rw [Function.update_self]
        exact hworker
      · exact .inl ⟨Function.update_of_ne (Ne.symm hv) .., Function.update_of_ne (Ne.symm hv) ..,
          if_neg hv⟩

/-- The worker's part of a run is a run of the worker. -/
theorem story_step {out : List LogEntry} (hstory : (s.workers w).Story
      (WorkerRuntime.withoutBalancing out)) (hstep : s.step b json a = some s') :
    (s'.workers w).Story (WorkerRuntime.withoutBalancing (out ++ reported b json w s a)) := by
  obtain ⟨hworker, _, hnone⟩ | ⟨event, rfl, _, hworker, _⟩ := workers_of_step hstep w
  · rwa [hworker, hnone, List.append_nil]
  · rw [reported, if_pos rfl, WorkerRuntime.withoutBalancing_append]
    exact hstory.step (WorkerRuntime.advanced_of_step hworker)

/-! ### What a worker has heard -/

/-- What a worker has received was sent to it, and if it was told to terminate, the Master
has told it. -/
structure Heard (w : WorkerId) (s : Deployment) : Prop where
  received : s.received w ≤ (s.master.sent w).length
  told : (s.workers w).terminatedByMaster = true →
    .terminate ∈ (s.master.sent w).take (s.received w)

theorem Heard.step_master {a : MasterRun.Action} {master : MasterRun} (h : Heard w s)
    (hstep : s.master.step a = some master) : Heard w { s with master := master } := by
  obtain ⟨more, hmore⟩ := MasterRun.sent_isPrefix (MasterRun.stepped_of_step hstep) w
  refine ⟨?_, fun htold => ?_⟩
  · dsimp only
    rw [← hmore, List.length_append]
    exact h.received.trans (Nat.le_add_right _ _)
  · dsimp only
    rw [← hmore, List.take_append_of_le_length h.received]
    exact h.told htold

theorem terminate_of_tells {event : WorkerRuntime.Event} (hdelivers : s.Delivers b json w event)
    (htells : event.TellsTerminate b json) :
    (arriving b json event).isSome ∧ (s.master.sent w)[s.received w]? = some .terminate := by
  cases event with
  | receiver conn sends resultId =>
      obtain ⟨message, hmessage, htype⟩ := htells
      have harriving : arriving b json (.receiver conn sends resultId) = some message := by
        rw [arriving, hmessage]
        rfl
      obtain ⟨m, hm, hcarries⟩ := hdelivers message harriving
      refine ⟨harriving ▸ rfl, ?_⟩
      cases m with
      | task t => exact absurd (htype.symm.trans hcarries.1) nofun
      | terminate => exact hm
  | _ => exact htells.elim

theorem Heard.step (h : Heard w s) (hstep : s.step b json a = some s') : Heard w s' := by
  cases a with
  | master a =>
      obtain ⟨master, hmaster, rfl⟩ := Option.map_eq_some_iff.1 hstep
      exact h.step_master hmaster
  | worker v event =>
      have hsent : s'.master = s.master := by
        obtain ⟨_, _, _, rfl⟩ := step_worker_eq_some_iff.1 hstep
        rfl
      obtain ⟨hworker, hreceived, _⟩ | ⟨event, heq, hdelivers, hworker, hreceived⟩ :=
        workers_of_step hstep w
      · refine ⟨?_, fun htold => ?_⟩
        · rw [hsent, hreceived]
          exact h.received
        · rw [hsent, hreceived]
          exact h.told (hworker ▸ htold)
      · cases heq
        refine ⟨?_, fun htold => ?_⟩
        · rw [hsent, hreceived]
          cases harriving : arriving b json event with
          | none => exact h.received
          | some message =>
              obtain ⟨m, hm, _⟩ := hdelivers message harriving
              obtain ⟨hlt, _⟩ := List.getElem?_eq_some_iff.1 hm
              exact hlt
        · rw [hsent, hreceived]
          obtain htold | htells := (WorkerRuntime.advanced_of_step hworker).told_cases htold
          · exact (List.take_prefix_take_left (Nat.le_add_right _ _)).subset (h.told htold)
          · obtain ⟨harrived, hm⟩ := terminate_of_tells hdelivers htells
            obtain ⟨hlt, hget⟩ := List.getElem?_eq_some_iff.1 hm
            rw [if_pos harrived]
            exact List.mem_take_iff_getElem.2 ⟨s.received w, by omega, hget⟩

/-! ### The end of a run -/

theorem lawful_step {tasks : List Task} (h : MasterRun.Lawful tasks s.master)
    (hstep : s.step b json a = some s') : MasterRun.Lawful tasks s'.master := by
  cases a with
  | master a =>
      obtain ⟨master, hmaster, rfl⟩ := Option.map_eq_some_iff.1 hstep
      exact MasterRun.lawful_step h hmaster
  | worker v event =>
      obtain ⟨_, _, _, rfl⟩ := step_worker_eq_some_iff.1 hstep
      exact h

/-- The signal to terminate is the last message of all that were sent. -/
theorem received_eq_length {messages : List MasterMessage} (h : MasterRun.WellFormed messages)
    {n : ℕ} (hle : n ≤ messages.length) (htold : .terminate ∈ messages.take n) :
    n = messages.length ∧ ∃ ts : List TaskId, messages = ts.map .task ++ [.terminate] := by
  have hnot : ∀ ts : List TaskId, MasterMessage.terminate ∉ ts.map .task := by
    intro ts hmem
    obtain ⟨_, _, heq⟩ := List.mem_map.1 hmem
    cases heq
  obtain ⟨ts, rfl | rfl⟩ := h
  · exact absurd ((List.take_subset ..) htold) (hnot ts)
  · refine ⟨?_, ts, rfl⟩
    by_contra hne
    have hshort : n ≤ (ts.map MasterMessage.task).length := by
      rw [List.length_append, List.length_singleton] at hle hne
      omega
    rw [List.take_append_of_le_length hshort] at htold
    exact hnot ts ((List.take_subset ..) htold)

/-- **The end of a run.** If a worker reports that it terminated successfully, then its threads
have ended, it has received every message that the Master ever sent to it, and unless `stop`
was called on the Master, every task is done. -/
theorem terminated_successfully {count : ℕ} {rng : RandomSource} {ws : List WorkerId}
    {m₀ : MasterRun} {endpoint : WorkerId → WorkerEndpoint} {peers : List WorkerId}
    {queue : ReadyQueue TaskRecord} {acts : List Action}
    (hstart : MasterRun.start count rng ws = .ok m₀)
    (hrun : Transition.run (step b json) (start m₀ endpoint peers queue) acts = some s)
    (hsuccess : ⟨.TERMINATE, .SUCCESS⟩ ∈ Transition.outputs (step b json) (reported b json w)
      (start m₀ endpoint peers queue) acts) :
    ((s.workers w).receiver = .ended ∧ (s.workers w).processor = .ended) ∧
      (s.received w = (s.master.sent w).length ∧
        ∃ ts : List TaskId, s.master.sent w = ts.map .task ++ [.terminate]) ∧
      (s.master.interrupted = false → ∀ task ∈ generated count rng,
        s.master.accounts.master.taskState.lookup task.taskId = some .done) := by
  have hlawful : MasterRun.Lawful (generated count rng) s.master :=
    Transition.invariant_run (I := fun s => MasterRun.Lawful (generated count rng) s.master)
      (fun _ _ _ h hstep => lawful_step h hstep) (MasterRun.lawful_start hstart) hrun
  have hheard : Heard w s :=
    Transition.invariant_run (I := Heard w) (fun _ _ _ h hstep => h.step hstep)
      ⟨Nat.zero_le _, fun htold => absurd htold Bool.false_ne_true⟩ hrun
  have hnone : ((start m₀ endpoint peers queue).workers w).Story
      (WorkerRuntime.withoutBalancing []) := .connecting rfl rfl rfl rfl
  have hstory : (s.workers w).Story (WorkerRuntime.withoutBalancing
      (Transition.outputs (step b json) (reported b json w)
        (start m₀ endpoint peers queue) acts)) :=
    Transition.invariant_outputs
      (I := fun out s => (s.workers w).Story (WorkerRuntime.withoutBalancing out))
      (fun _ _ _ _ h hstep => story_step h hstep)
      hnone hrun
  obtain ⟨htold, hreceiver, hprocessor⟩ :=
    hstory.of_success (List.mem_filter.2 ⟨hsuccess, rfl⟩)
  obtain ⟨hlength, ts, hts⟩ := received_eq_length (hlawful.wired.wellFormed w) hheard.received
    (hheard.told htold)
  refine ⟨⟨hreceiver, hprocessor⟩, ⟨hlength, ts, hts⟩, fun hquiet => ?_⟩
  have hregular := (hlawful.sound hquiet).1.regular
  have hsent : .terminate ∈ s.master.sent w := (List.take_subset ..) (hheard.told htold)
  exact (hregular.storeExact.storeComplete_iff hregular.describes).1
    (hlawful.complete_of_sent hsent hquiet)

/-- A worker is given the only task, and is told to terminate when it is done. -/
def oneTask : List Action :=
  [.master (.distribute 0), .master .sendTask] ++
    (WorkerRuntime.receivedAll [WorkerRuntime.taskOf "task-0001"] ++
      List.replicate 5
        (WorkerRuntime.Event.processor ⟨true, .finite 1, "r3", { reportId := "r2" }⟩)).map
          (.worker "worker1") ++
    [.master (.receiver (.result "worker1" true { taskId := "task-0001" } "r3" (.finite 0))),
      .master (.distribute 1), .master (.receiver (.record "worker1")),
      .master (.emitStatistics 1 ["worker1"]), .master .request, .master .sendTerminate] ++
    [WorkerRuntime.Event.receiver (WorkerRuntime.delivering WorkerRuntime.terminate)
        { reportId := "r2" } "r5",
      .main "" { answer := { sock := { incoming := [] } } },
      .processor ⟨true, .finite 1, "r3", { reportId := "r2" }⟩,
      .processor ⟨true, .finite 1, "r3", { reportId := "r2" }⟩,
      .main "" { answer := { sock := { incoming := [] } } }].map (.worker "worker1")

set_option maxRecDepth 100000 in
/-- The worker reports its success, and its task is done. -/
theorem terminated_successfully_oneTask :
    ∃ m₀ s, MasterRun.start 1 .first ["worker1"] = .ok m₀ ∧
      Transition.run (step Builtins.plain
        (WorkerRuntime.plainJson [WorkerRuntime.registered, WorkerRuntime.taskOf "task-0001",
          WorkerRuntime.terminate]))
        (start m₀ (fun _ => { host := "127.0.0.1", port := 6001 }) [] { capacity := 10 })
        oneTask = some s ∧
      s.master.interrupted = false ∧ s.received "worker1" = 2 ∧
      ((s.workers "worker1").receiver = .ended ∧ (s.workers "worker1").processor = .ended) ∧
      (s.received "worker1" = (s.master.sent "worker1").length ∧
        ∃ ts : List TaskId, s.master.sent "worker1" = ts.map .task ++ [.terminate]) ∧
      ∀ task ∈ generated 1 .first,
        s.master.accounts.master.taskState.lookup task.taskId = some .done := by
  let b : Builtins := Builtins.plain
  let json := WorkerRuntime.plainJson [WorkerRuntime.registered,
    WorkerRuntime.taskOf "task-0001", WorkerRuntime.terminate]
  let begun (m : MasterRun) : Deployment :=
    start m (fun _ => { host := "127.0.0.1", port := 6001 }) [] { capacity := 10 }
  have htest : (MasterRun.start 1 .first ["worker1"]).toOption.any (fun m₀ =>
      (Transition.run (step b json) (begun m₀) oneTask).any fun s =>
        decide (s.master.interrupted = false ∧ s.received "worker1" = 2 ∧
          ⟨.TERMINATE, .SUCCESS⟩ ∈ Transition.outputs (step b json)
            (reported b json "worker1") (begun m₀) oneTask)) = true := by
    decide +kernel
  obtain ⟨m₀, hstart, htest⟩ := (Option.any_eq_true _ _).1 htest
  obtain ⟨s, hrun, htest⟩ := (Option.any_eq_true _ _).1 htest
  obtain ⟨hquiet, hreceived, hsuccess⟩ := of_decide_eq_true htest
  have hstart' : MasterRun.start 1 .first ["worker1"] = .ok m₀ := by
    cases h : MasterRun.start 1 .first ["worker1"] with
    | error e =>
        rw [h] at hstart
        cases hstart
    | ok m =>
        rw [h] at hstart
        cases hstart
        rfl
  obtain ⟨hended, hlength, hdone⟩ := terminated_successfully hstart' hrun hsuccess
  exact ⟨m₀, s, hstart', hrun, hquiet, hreceived, hended, hlength, hdone hquiet⟩

end

end Deployment

end KVStore
