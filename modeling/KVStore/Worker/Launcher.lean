import KVStore.Worker.Lifecycle
import KVStore.Worker.Node

/-!
# The launcher

`run_workers` starts the four workers in one process, each in a thread of its own. They share the
clock and the statistics. `run` starts the P2P service first, which can fail, as when the port is
taken. A thread whose `run` raises records the error and stops all workers, one after the other,
while the other threads go on; at the end the first error that was recorded is raised. What is
kept of an error is the number of its worker.

`P2PService.stop` can raise as well: it joins the threads of the service, and those are there
before they are started; and it closes the listener, which another call of it may take away
between the test and the call. Then `stop_all` is left, and the workers after it are not told.
-/

namespace KVStore

open Python

def WORKER_COUNT : ℕ := 4

def DEFAULT_P2P_BASE_PORT : ℤ := 6001

def validatePort (port : ℤ) : Except PyError ℤ :=
  if ¬ (1 ≤ port ∧ port ≤ 65535) then
    .error ⟨.valueError, "port must be between 1 and 65535"⟩
  else
    .ok port

structure WorkerConfig where
  workerId : WorkerId
  masterHost : String
  masterPort : ℤ
  p2pHost : String
  p2pPort : ℤ
deriving DecidableEq

namespace WorkerConfig

def postInit (config : WorkerConfig) : Except PyError WorkerConfig :=
  if config.workerId = "" then
    .error ⟨.valueError, "worker_id is required"⟩
  else if config.masterHost = "" ∨ config.p2pHost = "" then
    .error ⟨.valueError, "master_host and p2p_host are required"⟩
  else do
    let _ ← validatePort config.masterPort
    let _ ← validatePort config.p2pPort
    .ok config

end WorkerConfig

def makeWorkerConfigs (masterHost : String) (masterPort : ℤ)
    (p2pHost : optParam String "127.0.0.1") (p2pBasePort : optParam ℤ DEFAULT_P2P_BASE_PORT) :
    Except PyError (List WorkerConfig) := do
  let _ ← validatePort (p2pBasePort + WORKER_COUNT - 1)
  (List.range' 1 WORKER_COUNT).mapM fun number : ℕ => WorkerConfig.postInit
    { workerId := "worker" ++ toString number
      masterHost := masterHost
      masterPort := masterPort
      p2pHost := p2pHost
      p2pPort := p2pBasePort + number - 1 }

section

variable {masterHost p2pHost : String} {masterPort p2pBasePort : ℤ}

theorem WorkerConfig.postInit_eq_ok {config config' : WorkerConfig}
    (h : config.postInit = .ok config') : config' = config := by
  unfold WorkerConfig.postInit at h
  split_ifs at h
  obtain ⟨_, _, h⟩ := Except.bind_eq_ok_iff.1 h
  obtain ⟨_, _, h⟩ := Except.bind_eq_ok_iff.1 h
  exact (Except.ok.inj h).symm

theorem makeWorkerConfigs_eq_ok {configs : List WorkerConfig}
    (h : makeWorkerConfigs masterHost masterPort p2pHost p2pBasePort = .ok configs) :
    configs = (List.range' 1 WORKER_COUNT).map fun number : ℕ =>
      { workerId := "worker" ++ toString number
        masterHost := masterHost
        masterPort := masterPort
        p2pHost := p2pHost
        p2pPort := p2pBasePort + number - 1 } := by
  obtain ⟨_, _, h⟩ := Except.bind_eq_ok_iff.1 h
  have hposts := (forall₂_of_mapM_eq_ok h).imp fun _ _ hpost => WorkerConfig.postInit_eq_ok hpost
  have hconfigs := List.forall₂_map_right_iff.2 hposts.flip
  rwa [List.forall₂_eq_eq_eq] at hconfigs

end

/-! ### A worker that is stopped -/

namespace WorkerRuntime

section

variable {b : Builtins} {json : Json} {s s' : WorkerRuntime} {log : List LogEntry}
  {event : Event}

/-- A worker that was told to stop does not start its threads. -/
theorem shutdown_of_joiningReceiver {requestId : RequestId} {exchange : Exchange}
    (h : (s.connectAndRegister b json requestId exchange).1.main = .joiningReceiver) :
    s.shutdown = false := by
  unfold connectAndRegister at h
  dsimp only at h
  by_cases hrefused : exchange.refused = true
  · rw [if_pos hrefused] at h
    cases h
  rw [if_neg hrefused] at h
  cases hpost : RegisterPayload.postInit
      { workerId := s.service.workerId
        p2pEndpoint := s.endpoint
        queueCapacity := s.queue.capacity } with
  | error e =>
      rw [hpost] at h
      cases h
  | ok registration =>
      rw [hpost] at h
      dsimp only at h
      rcases hsend : s.service.send json .REGISTER requestId registration.toDict
        exchange.failure with ⟨service, _ | e⟩
      · rw [hsend] at h
        dsimp only at h
        cases hreceive : exchange.answer.receive b json with
        | error e =>
            rw [hreceive] at h
            cases h
        | ok response =>
            rw [hreceive] at h
            dsimp only at h
            cases hclock : service.clock.observe response.logicalClock with
            | error e =>
                rw [hclock] at h
                cases h
            | ok clock =>
                rw [hclock] at h
                dsimp only at h
                split_ifs at h with _ hshutdown
                exact Bool.eq_false_iff.2 hshutdown
      · rw [hsend] at h
        cases h

theorem shutdown_of_step (hstep : s.step b json event = some s') (h : s.shutdown = true) :
    s'.shutdown = true := by
  obtain ⟨entries, hadvanced⟩ : ∃ entries, s.Advanced b json s' event entries :=
    ⟨_, advanced_of_step hstep⟩
  cases hadvanced with
  | aside _ same => exact same.shutdown.trans h
  | stopped state => rw [state]; rfl
  | received _ _ _ _ shutdown => exact shutdown h
  | told _ _ _ _ _ shutdown => exact shutdown.trans h
  | processed _ _ _ _ shutdown => exact shutdown h
  | registered connecting main =>
      rw [step, perform, proceed, connecting] at hstep
      have hstate := Option.some.inj hstep
      rw [← hstate] at main
      rw [shutdown_of_joiningReceiver main] at h
      cases h
  | gaveUp _ _ _ _ shutdown => exact shutdown
  | joined _ _ state => rw [state]; rfl
  | ended _ _ state => rw [state]; exact h

theorem ended_of_step (hstep : s.step b json event = some s') (h : s.main = .ended) :
    s'.main = .ended := by
  obtain ⟨entries, hadvanced⟩ : ∃ entries, s.Advanced b json s' event entries :=
    ⟨_, advanced_of_step hstep⟩
  cases hadvanced with
  | aside _ same => exact same.main.trans h
  | stopped state => rw [state]; exact h
  | received _ _ main => exact main.trans h
  | told _ _ _ main => exact main.trans h
  | processed _ _ main => exact main.trans h
  | registered connecting => exact absurd (h.symm.trans connecting) nofun
  | gaveUp _ main => exact main
  | joined joining => exact absurd (h.symm.trans joining) nofun
  | ended _ _ state => rw [state]

/-- The worker has not been connected: it is still to be, or has failed. -/
def Unconnected (s : WorkerRuntime) : Prop :=
  s.receiver = .notStarted ∧ (s.main = .connecting ∨ s.main = .ended)

theorem Unconnected.step (h : s.Unconnected) (hstep : s.step b json event = some s')
    (hevent : ∀ requestId exchange, event ≠ .main requestId exchange) : s'.Unconnected := by
  obtain ⟨hreceiver, hmain⟩ := h
  have hreceiving : s.receiver ≠ .receiving := by
    rw [hreceiver]
    rintro ⟨⟩
  obtain ⟨entries, hadvanced⟩ : ∃ entries, s.Advanced b json s' event entries :=
    ⟨_, advanced_of_step hstep⟩
  cases hadvanced with
  | aside _ same => exact ⟨same.receiver.trans hreceiver, same.main ▸ hmain⟩
  | stopped state => exact state ▸ ⟨hreceiver, hmain⟩
  | received receiving => exact absurd receiving hreceiving
  | told _ receiving => exact absurd receiving hreceiving
  | processed _ _ main receiver => exact ⟨receiver.trans hreceiver, main ▸ hmain⟩
  | registered | gaveUp | joined | ended => exact absurd rfl (hevent _ _)

end

end WorkerRuntime

/-- How far `P2PService.start` of a worker has come: before the listener is there, before all
threads are started, or over. -/
inductive ServiceStart
  | idle
  | starting
  | started
deriving DecidableEq

def ServiceStart.rank : ServiceStart → ℕ
  | .idle => 2
  | .starting => 1
  | .started => 0

/-- Where a thread of the launcher stands: in `run`, before its error is recorded, before it
stops the worker `next`, at its end, or at an end that a `stop` has put to it by raising. -/
inductive RunThread
  | running
  | failing
  | stopping (next : ℕ)
  | ended
  | broken
deriving DecidableEq

/-- The thread can be joined. -/
def RunThread.over : RunThread → Bool
  | .ended => true
  | .broken => true
  | _ => false

theorem RunThread.over_iff {thread : RunThread} :
    thread.over = true ↔ thread = .ended ∨ thread = .broken := by
  cases thread <;> simp [RunThread.over]

def RunThread.rank : RunThread → ℕ
  | .running => WORKER_COUNT + 1
  | .failing => WORKER_COUNT + 1
  | .stopping next => WORKER_COUNT - next
  | .ended => 0
  | .broken => 0

/-- The workers are numbered from zero. `started` and `joined` are the places that the two loops
over the threads have come to. -/
structure Launcher where
  runtimes : ℕ → WorkerRuntime
  services : ℕ → ServiceStart := fun _ => .idle
  threads : ℕ → RunThread := fun _ => .running
  clock : FloatClock := {}
  stats : StatsCollector := {}
  started : ℕ := 0
  joined : ℕ := 0
  errors : List ℕ := []

namespace Launcher

def init (configs : List WorkerConfig) : Except PyError Launcher :=
  if configs.length ≠ WORKER_COUNT then
    .error ⟨.valueError, "exactly four worker configs are required"⟩
  else
    .ok
      { runtimes := fun i =>
          let config := configs.getD i
            { workerId := "", masterHost := "", masterPort := 0, p2pHost := "", p2pPort := 0 }
          WorkerRuntime.init config.workerId { host := config.p2pHost, port := config.p2pPort }
            (configs.map WorkerConfig.workerId).eraseDups
            { capacity := DEFAULT_QUEUE_CAPACITY.toNat } }

/-- `run_workers` accepts the configurations that are made. Every worker knows the others, and the
workers listen at different ports. -/
theorem init_of_makeWorkerConfigs {masterHost p2pHost : String} {masterPort p2pBasePort : ℤ}
    {configs : List WorkerConfig}
    (h : makeWorkerConfigs masterHost masterPort p2pHost p2pBasePort = .ok configs) :
    ∃ s, init configs = .ok s ∧ ∀ i < WORKER_COUNT,
      (s.runtimes i).service.peers.length + 1 = WORKER_COUNT ∧
        (s.runtimes i).endpoint.port = p2pBasePort + i := by
  rw [makeWorkerConfigs_eq_ok h]
  refine ⟨_, rfl, fun i hi => ?_⟩
  have hcases : i = 0 ∨ i = 1 ∨ i = 2 ∨ i = 3 := by
    have hcount : WORKER_COUNT = 4 := rfl
    omega
  rcases hcases with rfl | rfl | rfl | rfl <;>
    exact ⟨rfl, Int.add_sub_assoc p2pBasePort _ 1⟩

/-- A worker with the clock and the statistics that all of them share. -/
def share (s : Launcher) (i : ℕ) : WorkerRuntime :=
  { s.runtimes i with
    service := { (s.runtimes i).service with clock := s.clock, stats := s.stats } }

/-- `bind` and `serve` are the two parts of `P2PService.start`, and `refuse` is where it raises.
`breaks` says that `P2PService.stop` raises. -/
inductive Action
  | start
  | bind (i : ℕ)
  | serve (i : ℕ)
  | refuse (i : ℕ)
  | worker (i : ℕ) (event : WorkerRuntime.Event) (breaks : Bool)
  | record (i : ℕ)
  | stop (i : ℕ) (breaks : Bool)
  | join

/-- The thread that takes the event has been started. -/
def ready (s : Launcher) (i : ℕ) : WorkerRuntime.Event → Bool
  | .stop => false
  | .main _ _ => s.services i = .started
  | _ => s.services i ≠ .idle

/-- An exception leaves `run`, either before the connection is reported or out of the `finally`
clause. -/
def raises (before after : WorkerRuntime) (log : List LogEntry) (breaks : Bool) : Bool :=
  after.main = .ended ∧ (breaks = true ∨ before.main = .connecting ∧ log = [])

/-- A step of a thread of a worker. The thread of the launcher comes to the end of `run` with
it. -/
def stepWorker (b : Builtins) (json : Json) (s : Launcher) (i : ℕ) (event : WorkerRuntime.Event)
    (breaks : Bool) : Option Launcher :=
  match (s.share i).perform b json event with
  | none => none
  | some (runtime, log) =>
      some
        { s with
          runtimes := Function.update s.runtimes i runtime
          clock := runtime.service.clock
          stats := runtime.service.stats
          threads := Function.update s.threads i
            (if s.threads i = .running ∧ runtime.main = .ended then
              if raises (s.share i) runtime log breaks = true then .failing else .ended
            else s.threads i) }

/-- A step of `stop_all`. A worker whose `stop` raises has been told all the same. -/
def stepStop (s : Launcher) (i : ℕ) (breaks : Bool) : Option Launcher :=
  match s.threads i with
  | .stopping next =>
      if breaks = true → s.services next = .starting ∨ (s.runtimes next).shutdown = true then
        some
          { s with
            runtimes := Function.update s.runtimes next (s.runtimes next).stop
            threads := Function.update s.threads i
              (if breaks = true then .broken
              else if next + 1 < WORKER_COUNT then .stopping (next + 1)
              else .ended) }
      else
        none
  | _ => none

def step (b : Builtins) (json : Json) (s : Launcher) : Action → Option Launcher
  | .start => if s.started < WORKER_COUNT then some { s with started := s.started + 1 } else none
  | .bind i =>
      if i < s.started ∧ s.threads i = .running ∧ s.services i = .idle then
        some { s with services := Function.update s.services i .starting }
      else
        none
  | .serve i =>
      if i < s.started ∧ s.threads i = .running ∧ s.services i = .starting then
        some { s with services := Function.update s.services i .started }
      else
        none
  | .refuse i =>
      -- the `try` statement of `run` has not been entered, so its `finally` clause is not run
      if i < s.started ∧ s.threads i = .running ∧ s.services i ≠ .started then
        some
          { s with
            runtimes := Function.update s.runtimes i { s.runtimes i with main := .ended }
            threads := Function.update s.threads i .failing }
      else
        none
  | .worker i event breaks =>
      if i < s.started ∧ s.ready i event = true ∧
          (breaks = true → (s.runtimes i).shutdown = true) then
        s.stepWorker b json i event breaks
      else
        none
  | .record i =>
      if s.threads i = .failing then
        some
          { s with
            errors := s.errors ++ [i]
            threads := Function.update s.threads i (.stopping 0) }
      else
        none
  | .stop i breaks => s.stepStop i breaks
  | .join =>
      if s.started = WORKER_COUNT ∧ s.joined < WORKER_COUNT ∧
          (s.threads s.joined).over = true then
        some { s with joined := s.joined + 1 }
      else
        none

/-- How `run_workers` ends: with the clock, or with the error of a worker. -/
def result (s : Launcher) : Option (Option ℕ) :=
  if s.joined = WORKER_COUNT then some s.errors.head? else none

/-- The worker whose `run` raises with the action. -/
def failed (b : Builtins) (json : Json) (s : Launcher) : Action → List ℕ
  | .worker i event breaks =>
      match (s.share i).perform b json event with
      | some (runtime, log) =>
          if s.threads i = .running ∧ raises (s.share i) runtime log breaks = true then [i] else []
      | none => []
  | .refuse i => [i]
  | _ => []

/-- The worker that the thread of the worker `i` tells to stop with the action. -/
def toldBy (i : ℕ) (s : Launcher) : Action → List ℕ
  | .stop j _ =>
      match s.threads j with
      | .stopping next => if j = i then [next] else []
      | _ => []
  | _ => []

/-! ### What an action does -/

section

variable {b : Builtins} {json : Json} {s s' : Launcher} {a : Action}

structure ServiceStepped (s s' : Launcher) (i : ℕ) (next : ServiceStart) : Prop where
  lt : i < s.started
  running : s.threads i = .running
  rank : 1 + next.rank = (s.services i).rank
  state : s' = { s with services := Function.update s.services i next }

structure Refused (s s' : Launcher) (i : ℕ) : Prop where
  lt : i < s.started
  running : s.threads i = .running
  unstarted : s.services i ≠ .started
  runtime : s'.runtimes i = { s.runtimes i with main := .ended }
  thread : s'.threads i = .failing
  others : ∀ j, j ≠ i → s'.runtimes j = s.runtimes j ∧ s'.threads j = s.threads j
  services : s'.services = s.services
  started : s'.started = s.started
  joined : s'.joined = s.joined
  errors : s'.errors = s.errors

structure WorkerStepped (b : Builtins) (json : Json) (s s' : Launcher) (i : ℕ)
    (event : WorkerRuntime.Event) (breaks : Bool) (log : List LogEntry) : Prop where
  lt : i < s.started
  ready : s.ready i event = true
  perform : (s.share i).perform b json event = some (s'.runtimes i, log)
  others : ∀ j, j ≠ i → s'.runtimes j = s.runtimes j ∧ s'.threads j = s.threads j
  thread : s'.threads i =
    if s.threads i = .running ∧ (s'.runtimes i).main = .ended then
      if raises (s.share i) (s'.runtimes i) log breaks = true then .failing else .ended
    else s.threads i
  services : s'.services = s.services
  started : s'.started = s.started
  joined : s'.joined = s.joined
  errors : s'.errors = s.errors
  failed : failed b json s (.worker i event breaks) =
    if s.threads i = .running ∧ raises (s.share i) (s'.runtimes i) log breaks = true then [i]
    else []

inductive Stepped (b : Builtins) (json : Json) (s s' : Launcher) : Action → Prop
  | start (lt : s.started < WORKER_COUNT) (state : s' = { s with started := s.started + 1 }) :
      Stepped b json s s' .start
  | bind (i : ℕ) (stepped : ServiceStepped s s' i .starting) : Stepped b json s s' (.bind i)
  | serve (i : ℕ) (stepped : ServiceStepped s s' i .started) : Stepped b json s s' (.serve i)
  | refuse (i : ℕ) (refused : Refused s s' i) : Stepped b json s s' (.refuse i)
  | worker (i : ℕ) (event : WorkerRuntime.Event) (breaks : Bool) (log : List LogEntry)
      (stepped : WorkerStepped b json s s' i event breaks log) :
      Stepped b json s s' (.worker i event breaks)
  | record (i : ℕ) (failing : s.threads i = .failing)
      (state : s' = { s with
        errors := s.errors ++ [i]
        threads := Function.update s.threads i (.stopping 0) }) : Stepped b json s s' (.record i)
  | stop (i next : ℕ) (breaks : Bool) (stopping : s.threads i = .stopping next)
      (state : s' = { s with
        runtimes := Function.update s.runtimes next (s.runtimes next).stop
        threads := Function.update s.threads i
          (if breaks = true then .broken
          else if next + 1 < WORKER_COUNT then .stopping (next + 1)
          else .ended) }) :
      Stepped b json s s' (.stop i breaks)
  | join (started : s.started = WORKER_COUNT) (lt : s.joined < WORKER_COUNT)
      (finished : (s.threads s.joined).over = true)
      (state : s' = { s with joined := s.joined + 1 }) :
      Stepped b json s s' .join

theorem workerStepped_of_stepWorker {i : ℕ} {event : WorkerRuntime.Event} {breaks : Bool}
    (hi : i < s.started) (hready : s.ready i event = true)
    (h : s.stepWorker b json i event breaks = some s') :
    ∃ log, WorkerStepped b json s s' i event breaks log := by
  unfold stepWorker at h
  cases hperform : (s.share i).perform b json event with
  | none =>
      rw [hperform] at h
      cases h
  | some result =>
      obtain ⟨runtime, log⟩ := result
      rw [hperform] at h
      obtain rfl := Option.some.inj h
      refine ⟨log, hi, hready, ?_, fun j hj => ?_, ?_, rfl, rfl, rfl, rfl, ?_⟩
      · dsimp only
        rw [Function.update_self, hperform]
      · exact ⟨Function.update_of_ne hj _ _, Function.update_of_ne hj _ _⟩
      · simp only [Function.update_self]
      · simp only [failed, hperform, Function.update_self]

theorem stepped_of_step (hstep : s.step b json a = some s') : Stepped b json s s' a := by
  cases a with
  | start =>
      rw [step, Option.ite_none_right_eq_some] at hstep
      exact .start hstep.1 (Option.some.inj hstep.2).symm
  | bind i =>
      rw [step, Option.ite_none_right_eq_some] at hstep
      obtain ⟨⟨hlt, hrunning, hservice⟩, hstate⟩ := hstep
      exact .bind i ⟨hlt, hrunning, by rw [hservice]; rfl, (Option.some.inj hstate).symm⟩
  | serve i =>
      rw [step, Option.ite_none_right_eq_some] at hstep
      obtain ⟨⟨hlt, hrunning, hservice⟩, hstate⟩ := hstep
      exact .serve i ⟨hlt, hrunning, by rw [hservice]; rfl, (Option.some.inj hstate).symm⟩
  | refuse i =>
      rw [step, Option.ite_none_right_eq_some] at hstep
      obtain ⟨⟨hlt, hrunning, hservice⟩, hstate⟩ := hstep
      obtain rfl := Option.some.inj hstate
      exact .refuse i ⟨hlt, hrunning, hservice, Function.update_self .., Function.update_self ..,
        fun j hj => ⟨Function.update_of_ne hj .., Function.update_of_ne hj ..⟩, rfl, rfl, rfl, rfl⟩
  | worker i event breaks =>
      rw [step, Option.ite_none_right_eq_some] at hstep
      obtain ⟨⟨hlt, hready, _⟩, hworker⟩ := hstep
      obtain ⟨log, hstepped⟩ := workerStepped_of_stepWorker hlt hready hworker
      exact .worker i event breaks log hstepped
  | record i =>
      rw [step, Option.ite_none_right_eq_some] at hstep
      exact .record i hstep.1 (Option.some.inj hstep.2).symm
  | stop i breaks =>
      rw [step, stepStop] at hstep
      split at hstep
      · rename_i next hstopping
        rw [Option.ite_none_right_eq_some] at hstep
        exact .stop i next breaks hstopping (Option.some.inj hstep.2).symm
      · cases hstep
  | join =>
      rw [step, Option.ite_none_right_eq_some] at hstep
      obtain ⟨⟨hstarted, hlt, hover⟩, hstate⟩ := hstep
      exact .join hstarted hlt hover (Option.some.inj hstate).symm

/-! ### What holds of every run -/

theorem story_share {log : List LogEntry} {i : ℕ} (h : (s.runtimes i).Story log) :
    (s.share i).Story log :=
  h.of_same rfl rfl rfl id rfl

theorem step_of_perform {runtime runtime' : WorkerRuntime} {event : WorkerRuntime.Event}
    {log : List LogEntry} (h : runtime.perform b json event = some (runtime', log)) :
    runtime.step b json event = some runtime' := by
  rw [WorkerRuntime.step, h]
  rfl

/-- The thread has stopped the workers before `next`. -/
def Stopped (s : Launcher) (next : ℕ) : Prop := ∀ j < next, (s.runtimes j).shutdown = true

/-- What holds of a thread, where `raised` are the workers whose `run` has raised. -/
structure ThreadInvariant (s : Launcher) (raised : List ℕ) (i : ℕ) : Prop where
  story : ∃ log, (s.runtimes i).Story log
  running : s.threads i = .running ↔ (s.runtimes i).main ≠ .ended
  started : s.threads i ≠ .running → i < s.started
  raised : i ∈ raised ↔ i ∈ s.errors ∨ s.threads i = .failing
  failing : s.threads i = .failing → i ∉ s.errors
  stopping : ∀ next, s.threads i = .stopping next →
    i ∈ s.errors ∧ next < WORKER_COUNT ∧ s.Stopped next
  recorded : i ∈ s.errors →
    (∃ next, s.threads i = .stopping next) ∨ s.threads i = .broken ∨
      s.threads i = .ended ∧ s.Stopped WORKER_COUNT
  service : s.services i ≠ .started → (s.runtimes i).Unconnected

theorem ThreadInvariant.not_mem_errors {s : Launcher} {raised : List ℕ} {i : ℕ}
    (h : s.ThreadInvariant raised i) (hrunning : s.threads i = .running) : i ∉ s.errors := by
  intro hmem
  rcases h.recorded hmem with ⟨next, hstopping⟩ | hbroken | ⟨hover, _⟩
  · cases hrunning.symm.trans hstopping
  · cases hrunning.symm.trans hbroken
  · cases hrunning.symm.trans hover

structure Supervised (raised : List ℕ) (s : Launcher) : Prop where
  thread : ∀ i, s.ThreadInvariant raised i
  nodup : s.errors.Nodup
  started : s.started ≤ WORKER_COUNT
  joined : ∀ i < s.joined, (s.threads i).over = true
  joined_le : s.joined ≤ WORKER_COUNT

theorem supervised_init {configs : List WorkerConfig} (h : init configs = .ok s) :
    s.Supervised [] := by
  unfold init at h
  split_ifs at h
  cases h
  refine ⟨fun i => ⟨⟨[], .connecting rfl rfl rfl rfl⟩, ?_, ?_, ?_, ?_, ?_, ?_, ?_⟩,
    List.nodup_nil, Nat.zero_le _, fun i hi => absurd hi (Nat.not_lt_zero i), Nat.zero_le _⟩
  · refine iff_of_true rfl fun hmain => ?_
    cases hmain
  · exact fun h => absurd rfl h
  · refine iff_of_false List.not_mem_nil ?_
    rintro (hmem | hfailing)
    · exact List.not_mem_nil hmem
    · cases hfailing
  · rintro ⟨⟩
  · rintro next ⟨⟩
  · exact fun hmem => absurd hmem List.not_mem_nil
  · exact fun _ => ⟨rfl, .inl rfl⟩

theorem WorkerStepped.shutdown {i : ℕ} {event : WorkerRuntime.Event} {breaks : Bool}
    {log : List LogEntry} (h : WorkerStepped b json s s' i event breaks log) (j : ℕ)
    (hj : (s.runtimes j).shutdown = true) : (s'.runtimes j).shutdown = true := by
  by_cases hij : j = i
  · subst hij
    exact WorkerRuntime.shutdown_of_step (step_of_perform h.perform) hj
  · rw [(h.others j hij).1]
    exact hj

section

variable {raised raised' : List ℕ} {i : ℕ} {breaks : Bool}

/-- What the others do changes nothing for a thread. -/
theorem ThreadInvariant.keep (h : s.ThreadInvariant raised i)
    (hthread : s'.threads i = s.threads i) (hstory : ∃ log, (s'.runtimes i).Story log)
    (hmain : (s'.runtimes i).main = .ended ↔ (s.runtimes i).main = .ended)
    (hstarted : s.started ≤ s'.started) (herrors : i ∈ s'.errors ↔ i ∈ s.errors)
    (hraised : i ∈ raised' ↔ i ∈ raised)
    (hshutdown : ∀ j, (s.runtimes j).shutdown = true → (s'.runtimes j).shutdown = true)
    (hservice : s'.services i ≠ .started → (s'.runtimes i).Unconnected) :
    s'.ThreadInvariant raised' i := by
  have hstopped : ∀ {next}, s.Stopped next → s'.Stopped next :=
    fun hnext j hj => hshutdown j (hnext j hj)
  refine ⟨hstory, ?_, fun hne => ?_, ?_, fun hfailing => ?_, fun next hstopping => ?_,
    fun hrecorded => ?_, hservice⟩
  · rw [hthread, h.running, not_iff_not, hmain]
  · rw [hthread] at hne
    exact (h.started hne).trans_le hstarted
  · rw [hraised, h.raised, herrors, hthread]
  · rw [herrors]
    exact h.failing (hthread.symm.trans hfailing)
  · obtain ⟨hmem, hlt, hnext⟩ := h.stopping next (hthread.symm.trans hstopping)
    exact ⟨herrors.2 hmem, hlt, hstopped hnext⟩
  · rw [hthread]
    exact (h.recorded (herrors.1 hrecorded)).imp_right <| Or.imp_right fun hended =>
      ⟨hended.1, hstopped hended.2⟩

theorem WorkerStepped.story {event : WorkerRuntime.Event} {log : List LogEntry}
    (hstepped : WorkerStepped b json s s' i event breaks log) (h : s.ThreadInvariant raised i) :
    ∃ log, (s'.runtimes i).Story log := by
  obtain ⟨_, hstory⟩ := h.story
  have hstep := step_of_perform hstepped.perform
  exact ⟨_, (story_share hstory).step (WorkerRuntime.advanced_of_step hstep)⟩

theorem WorkerStepped.service {event : WorkerRuntime.Event} {log : List LogEntry}
    (hstepped : WorkerStepped b json s s' i event breaks log) (h : s.ThreadInvariant raised i)
    (hne : s'.services i ≠ .started) : (s'.runtimes i).Unconnected := by
  rw [hstepped.services] at hne
  have hunconnected : (s.share i).Unconnected := h.service hne
  refine hunconnected.step (step_of_perform hstepped.perform) ?_
  rintro requestId exchange rfl
  have hready := hstepped.ready
  exact hne (of_decide_eq_true hready)

theorem ThreadInvariant.goesOn (h : s.ThreadInvariant raised i) {event : WorkerRuntime.Event}
    {log : List LogEntry} (hstepped : WorkerStepped b json s s' i event breaks log)
    (hstays : s.threads i = .running ↔ (s'.runtimes i).main ≠ .ended) :
    s'.ThreadInvariant (raised ++ failed b json s (.worker i event breaks)) i := by
  have hnone : failed b json s (.worker i event breaks) = [] := by
    rw [hstepped.failed, if_neg]
    rintro ⟨hrunning, hraises⟩
    rw [raises, decide_eq_true_iff] at hraises
    exact hstays.1 hrunning hraises.1
  rw [hnone, List.append_nil]
  refine h.keep ?_ (hstepped.story h) (not_iff_not.1 (hstays.symm.trans h.running))
    hstepped.started.ge (by rw [hstepped.errors]) Iff.rfl hstepped.shutdown (hstepped.service h)
  rw [hstepped.thread, if_neg fun hboth => hstays.1 hboth.1 hboth.2]

theorem ThreadInvariant.ends (h : s.ThreadInvariant raised i) {event : WorkerRuntime.Event}
    {log : List LogEntry} (hstepped : WorkerStepped b json s s' i event breaks log)
    (hrunning : s.threads i = .running) (hended : (s'.runtimes i).main = .ended) :
    s'.ThreadInvariant (raised ++ failed b json s (.worker i event breaks)) i := by
  have hnew := h.not_mem_errors hrunning
  have hlt : i < s'.started := hstepped.lt.trans_eq hstepped.started.symm
  have hafter := hstepped.thread
  rw [if_pos ⟨hrunning, hended⟩] at hafter
  by_cases hraises : raises (s.share i) (s'.runtimes i) log breaks = true
  · rw [if_pos hraises] at hafter
    rw [hstepped.failed, if_pos ⟨hrunning, hraises⟩]
    refine ⟨hstepped.story h, ?_, fun _ => hlt, ?_, fun _ => ?_, ?_, ?_, hstepped.service h⟩
    · rw [hafter]
      exact iff_of_false (by rintro ⟨⟩) (not_not.2 hended)
    · exact iff_of_true (List.mem_append_right _ (List.mem_singleton_self i)) (.inr hafter)
    · rwa [hstepped.errors]
    · rw [hafter]
      rintro next ⟨⟩
    · rw [hstepped.errors]
      exact fun hmem => absurd hmem hnew
  · rw [if_neg hraises] at hafter
    rw [hstepped.failed, if_neg fun hboth => hraises hboth.2, List.append_nil]
    refine ⟨hstepped.story h, ?_, fun _ => hlt, ?_, ?_, ?_, ?_, hstepped.service h⟩
    · rw [hafter]
      exact iff_of_false (by rintro ⟨⟩) (not_not.2 hended)
    · rw [h.raised, hrunning, hafter, hstepped.errors]
      exact or_congr_right (iff_of_false (by rintro ⟨⟩) (by rintro ⟨⟩))
    · rw [hafter]
      rintro ⟨⟩
    · rw [hafter]
      rintro next ⟨⟩
    · rw [hstepped.errors]
      exact fun hmem => absurd hmem hnew

theorem Supervised.worker (h : s.Supervised raised) {event : WorkerRuntime.Event}
    {log : List LogEntry} (hstepped : WorkerStepped b json s s' i event breaks log) :
    s'.Supervised (raised ++ failed b json s (.worker i event breaks)) := by
  have hi := h.thread i
  have hfailed : ∀ {j}, j ∈ failed b json s (.worker i event breaks) → j = i := by
    intro j hj
    rw [hstepped.failed] at hj
    split_ifs at hj
    · exact List.mem_singleton.1 hj
    · cases hj
  have hraised : ∀ {j}, j ≠ i →
      (j ∈ raised ++ failed b json s (.worker i event breaks) ↔ j ∈ raised) := by
    intro j hj
    rw [List.mem_append]
    exact or_iff_left fun hmem => hj (hfailed hmem)
  have hthread : s'.ThreadInvariant (raised ++ failed b json s (.worker i event breaks)) i := by
    by_cases hrunning : s.threads i = .running
    · by_cases hended : (s'.runtimes i).main = .ended
      · exact hi.ends hstepped hrunning hended
      · exact hi.goesOn hstepped (iff_of_true hrunning hended)
    · have hover := not_not.1 (mt hi.running.2 hrunning)
      have hended := WorkerRuntime.ended_of_step (step_of_perform hstepped.perform) hover
      exact hi.goesOn hstepped (iff_of_false hrunning (not_not.2 hended))
  refine ⟨fun j => ?_, hstepped.errors ▸ h.nodup, hstepped.started ▸ h.started, fun j hj => ?_,
    hstepped.joined ▸ h.joined_le⟩
  · by_cases hj : j = i
    · exact hj ▸ hthread
    · obtain ⟨hruntime, hother⟩ := hstepped.others j hj
      exact (h.thread j).keep hother (hruntime ▸ (h.thread j).story) (by rw [hruntime])
        hstepped.started.ge (by rw [hstepped.errors]) (hraised hj) hstepped.shutdown
        (hruntime ▸ hstepped.services ▸ (h.thread j).service)
  · rw [hstepped.joined] at hj
    have hover := h.joined j hj
    by_cases hji : j = i
    · subst hji
      rw [hstepped.thread, if_neg, hover]
      rintro ⟨hrunning, _⟩
      rw [hrunning] at hover
      cases hover
    · rw [(hstepped.others j hji).2, hover]

theorem Supervised.service (h : s.Supervised raised) {next : ServiceStart}
    (hstepped : ServiceStepped s s' i next) : s'.Supervised raised := by
  obtain ⟨_, hrunning, hrank, hstate⟩ := hstepped
  subst hstate
  refine ⟨fun j => (h.thread j).keep rfl (h.thread j).story Iff.rfl le_rfl Iff.rfl Iff.rfl
    (fun _ => id) fun hne => (h.thread j).service fun hstarted => hne ?_, h.nodup, h.started,
    h.joined, h.joined_le⟩
  dsimp only
  by_cases hj : j = i
  · rw [← hj, hstarted] at hrank
    cases (Nat.add_eq_zero_iff.1 hrank).1
  · rw [Function.update_of_ne hj, hstarted]

theorem Refused.shutdown (h : Refused s s' i) (j : ℕ) (hj : (s.runtimes j).shutdown = true) :
    (s'.runtimes j).shutdown = true := by
  by_cases hji : j = i
  · subst hji
    rw [h.runtime]
    exact hj
  · rw [(h.others j hji).1]
    exact hj

theorem Refused.story (hrefused : Refused s s' i) (h : s.ThreadInvariant raised i) :
    (s'.runtimes i).Story [] := by
  obtain ⟨_, hstory⟩ := h.story
  obtain ⟨hreceiver, _⟩ := h.service hrefused.unstarted
  rw [hrefused.runtime]
  cases hstory with
  | connecting _ _ processor told => exact .gaveUp rfl hreceiver processor told (.inl rfl)
  | gaveUp main => exact absurd main (h.running.1 hrefused.running)
  | joiningReceiver _ receiver => exact absurd hreceiver receiver
  | joiningProcessor _ receiver => exact absurd (hreceiver.symm.trans receiver) nofun
  | ended _ receiver => exact absurd (hreceiver.symm.trans receiver) nofun

theorem Supervised.refuse (h : s.Supervised raised) (hrefused : Refused s s' i) :
    s'.Supervised (raised ++ [i]) := by
  have hi := h.thread i
  have hnew : i ∉ s'.errors := by
    rw [hrefused.errors]
    exact hi.not_mem_errors hrefused.running
  have hthread : s'.ThreadInvariant (raised ++ [i]) i := by
    refine ⟨⟨[], hrefused.story hi⟩, ?_, fun _ => hrefused.started ▸ hrefused.lt, ?_,
      fun _ => hnew, ?_, fun hmem => absurd hmem hnew, fun _ => ?_⟩
    · rw [hrefused.thread, hrefused.runtime]
      exact iff_of_false nofun (not_not.2 rfl)
    · exact iff_of_true (List.mem_append_right _ (List.mem_singleton_self i))
        (.inr hrefused.thread)
    · rw [hrefused.thread]
      nofun
    · rw [hrefused.runtime]
      exact ⟨(hi.service hrefused.unstarted).1, .inr rfl⟩
  refine ⟨fun j => ?_, hrefused.errors ▸ h.nodup, hrefused.started ▸ h.started, fun j hj => ?_,
    hrefused.joined ▸ h.joined_le⟩
  · by_cases hj : j = i
    · exact hj ▸ hthread
    · obtain ⟨hruntime, hother⟩ := hrefused.others j hj
      refine (h.thread j).keep hother (hruntime ▸ (h.thread j).story) (by rw [hruntime])
        hrefused.started.ge (by rw [hrefused.errors]) ?_ hrefused.shutdown
        (hruntime ▸ hrefused.services ▸ (h.thread j).service)
      rw [List.mem_append, List.mem_singleton, or_iff_left hj]
  · rw [hrefused.joined] at hj
    have hover := h.joined j hj
    have hji : j ≠ i := by
      rintro rfl
      rw [hrefused.running] at hover
      cases hover
    rw [(hrefused.others j hji).2, hover]

theorem Supervised.record (h : s.Supervised raised) (hfailing : s.threads i = .failing)
    (hstate : s' = { s with
      errors := s.errors ++ [i]
      threads := Function.update s.threads i (.stopping 0) }) : s'.Supervised raised := by
  subst hstate
  have hi := h.thread i
  have hafter : Function.update s.threads i (.stopping 0) i = .stopping 0 :=
    Function.update_self ..
  have hothers : ∀ j, j ≠ i → Function.update s.threads i (.stopping 0) j = s.threads j :=
    fun j hj => Function.update_of_ne hj ..
  have hmem : i ∈ s.errors ++ [i] := List.mem_append_right _ (List.mem_singleton_self i)
  refine ⟨fun j => ?_, ?_, h.started, fun j hj => ?_, h.joined_le⟩
  · by_cases hj : j = i
    · subst hj
      refine ⟨hi.story, ?_, fun _ => hi.started (hfailing ▸ nofun), ?_, ?_, ?_, ?_, hi.service⟩
      · dsimp only
        rw [hafter]
        exact iff_of_false nofun (mt hi.running.2 (hfailing ▸ nofun))
      · exact iff_of_true (hi.raised.2 (.inr hfailing)) (.inl hmem)
      · dsimp only
        rw [hafter]
        nofun
      · dsimp only
        rw [hafter]
        rintro next hnext
        cases hnext
        exact ⟨hmem, by decide, nofun⟩
      · exact fun _ => .inl ⟨0, hafter⟩
    · refine (h.thread j).keep (hothers j hj) (h.thread j).story Iff.rfl le_rfl ?_ Iff.rfl
        (fun _ => id) (h.thread j).service
      dsimp only
      rw [List.mem_append, List.mem_singleton, or_iff_left hj]
  · rw [List.nodup_append]
    refine ⟨h.nodup, List.nodup_singleton i, fun j hj k hk => ?_⟩
    rw [List.mem_singleton.1 hk]
    rintro rfl
    exact hi.failing hfailing hj
  · have hover := h.joined j hj
    have hne : j ≠ i := by
      rintro rfl
      rw [hfailing] at hover
      cases hover
    exact (congrArg RunThread.over (hothers j hne)).trans hover

theorem update_stop (runtimes : ℕ → WorkerRuntime) (next j : ℕ) :
    Function.update runtimes next (runtimes next).stop j = runtimes j ∨
      Function.update runtimes next (runtimes next).stop j = (runtimes j).stop := by
  by_cases hj : j = next
  · subst hj
    exact .inr (Function.update_self ..)
  · exact .inl (Function.update_of_ne hj ..)

structure StopStepped (s s' : Launcher) (i next : ℕ) (breaks : Bool) : Prop where
  runtime : ∀ j, s'.runtimes j = s.runtimes j ∨ s'.runtimes j = (s.runtimes j).stop
  stopped : (s'.runtimes next).shutdown = true
  thread : s'.threads i =
    if breaks = true then .broken
    else if next + 1 < WORKER_COUNT then .stopping (next + 1)
    else .ended
  others : ∀ j, j ≠ i → s'.threads j = s.threads j
  services : s'.services = s.services
  started : s'.started = s.started
  joined : s'.joined = s.joined
  errors : s'.errors = s.errors

theorem stopStepped {next : ℕ}
    (hstate : s' = { s with
      runtimes := Function.update s.runtimes next (s.runtimes next).stop
      threads := Function.update s.threads i
        (if breaks = true then .broken
        else if next + 1 < WORKER_COUNT then .stopping (next + 1)
        else .ended) }) :
    StopStepped s s' i next breaks := by
  subst hstate
  refine ⟨update_stop s.runtimes next, ?_, Function.update_self .., fun j hj => ?_, rfl, rfl, rfl,
    rfl⟩
  · dsimp only
    rw [Function.update_self]
    rfl
  · exact Function.update_of_ne hj ..

theorem StopStepped.main {next : ℕ} (h : StopStepped s s' i next breaks) (j : ℕ) :
    (s'.runtimes j).main = (s.runtimes j).main := by
  rcases h.runtime j with hsame | hsame <;> rw [hsame]
  rfl

theorem StopStepped.left {next : ℕ} (h : StopStepped s s' i next breaks) (j : ℕ) :
    (s'.runtimes j).left = (s.runtimes j).left := by
  rcases h.runtime j with hsame | hsame <;> rw [hsame]
  rfl

theorem StopStepped.shutdown {next : ℕ} (h : StopStepped s s' i next breaks) (j : ℕ)
    (hj : (s.runtimes j).shutdown = true) : (s'.runtimes j).shutdown = true := by
  rcases h.runtime j with hsame | hsame <;> rw [hsame]
  · exact hj
  · rfl

theorem StopStepped.story {next : ℕ} (h : StopStepped s s' i next breaks) (j : ℕ)
    (hj : ∃ log, (s.runtimes j).Story log) : ∃ log, (s'.runtimes j).Story log := by
  obtain ⟨log, hstory⟩ := hj
  refine ⟨log, ?_⟩
  rcases h.runtime j with hsame | hsame <;> rw [hsame]
  · exact hstory
  · exact hstory.of_same rfl rfl rfl (fun _ => rfl) rfl

theorem StopStepped.service {next : ℕ} (h : StopStepped s s' i next breaks) (j : ℕ)
    (hj : s.services j ≠ .started → (s.runtimes j).Unconnected) (hne : s'.services j ≠ .started) :
    (s'.runtimes j).Unconnected := by
  have hunconnected := hj (h.services ▸ hne)
  rcases h.runtime j with hsame | hsame <;> rw [hsame]
  · exact hunconnected
  · exact hunconnected

theorem Supervised.stop (h : s.Supervised raised) {next : ℕ}
    (hstopping : s.threads i = .stopping next) (hstepped : StopStepped s s' i next breaks) :
    s'.Supervised raised := by
  have hi := h.thread i
  have hne : s.threads i ≠ .running := hstopping ▸ nofun
  obtain ⟨hmem, _, hnext⟩ := hi.stopping next hstopping
  have hstopped : s'.Stopped (next + 1) := by
    intro j hj
    rcases Nat.lt_succ_iff_lt_or_eq.1 hj with hlt | rfl
    · exact hstepped.shutdown j (hnext j hlt)
    · exact hstepped.stopped
  have hthread : s'.ThreadInvariant raised i := by
    have hafter := hstepped.thread
    refine ⟨hstepped.story i hi.story, ?_, fun _ => hstepped.started ▸ hi.started hne, ?_,
      fun hfailing => ?_, fun other hother => ?_, fun _ => ?_, hstepped.service i hi.service⟩
    · rw [hstepped.main]
      refine iff_of_false ?_ (mt hi.running.2 hne)
      rw [hafter]
      split_ifs <;> nofun
    · rw [hstepped.errors]
      exact iff_of_true (hi.raised.2 (.inl hmem)) (.inl hmem)
    · rw [hafter] at hfailing
      split_ifs at hfailing
    · rw [hafter] at hother
      split_ifs at hother with hbreaks hmore
      cases hother
      exact ⟨hstepped.errors ▸ hmem, hmore, hstopped⟩
    · rw [hafter]
      split_ifs with hbreaks hmore
      · exact .inr (.inl rfl)
      · exact .inl ⟨next + 1, rfl⟩
      · exact .inr (.inr ⟨rfl, fun k hk => hstopped k (by omega)⟩)
  refine ⟨fun j => ?_, hstepped.errors ▸ h.nodup, hstepped.started ▸ h.started, fun j hj => ?_,
    hstepped.joined ▸ h.joined_le⟩
  · by_cases hj : j = i
    · exact hj ▸ hthread
    · exact (h.thread j).keep (hstepped.others j hj) (hstepped.story j (h.thread j).story)
        (by rw [hstepped.main]) hstepped.started.ge (by rw [hstepped.errors]) Iff.rfl
        hstepped.shutdown (hstepped.service j (h.thread j).service)
  · rw [hstepped.joined] at hj
    have hover := h.joined j hj
    have hji : j ≠ i := by
      rintro rfl
      rw [hstopping] at hover
      cases hover
    exact (congrArg RunThread.over (hstepped.others j hji)).trans hover

theorem Supervised.step (h : s.Supervised raised) (hstep : s.step b json a = some s') :
    s'.Supervised (raised ++ failed b json s a) := by
  have hnone : ∀ {a : Action}, failed b json s a = [] →
      s'.Supervised raised → s'.Supervised (raised ++ failed b json s a) := by
    intro a hfailed hsupervised
    rwa [hfailed, List.append_nil]
  cases stepped_of_step hstep with
  | start lt state =>
      subst state
      exact hnone rfl ⟨fun j => (h.thread j).keep rfl (h.thread j).story Iff.rfl (Nat.le_succ _)
        Iff.rfl Iff.rfl (fun _ => id) (h.thread j).service, h.nodup, lt, h.joined, h.joined_le⟩
  | bind i stepped => exact hnone rfl (h.service stepped)
  | serve i stepped => exact hnone rfl (h.service stepped)
  | refuse i refused => exact h.refuse refused
  | worker i event breaks log stepped => exact h.worker stepped
  | record i failing state => exact hnone rfl (h.record failing state)
  | stop i next breaks stopping state => exact hnone rfl (h.stop stopping (stopStepped state))
  | join _ lt finished state =>
      subst state
      refine hnone rfl ⟨fun j => (h.thread j).keep rfl (h.thread j).story Iff.rfl le_rfl Iff.rfl
        Iff.rfl (fun _ => id) (h.thread j).service, h.nodup, h.started, fun j hj => ?_, lt⟩
      rcases Nat.lt_succ_iff_lt_or_eq.1 hj with hold | rfl
      · exact h.joined j hold
      · exact finished

theorem supervised_of_run {configs : List WorkerConfig} {s₀ : Launcher} {actions : List Action}
    (hinit : init configs = .ok s₀)
    (hrun : Transition.run (Launcher.step b json) s₀ actions = some s) :
    s.Supervised (Transition.outputs (Launcher.step b json) (failed b json) s₀ actions) := by
  have hinvariant := Transition.invariant_outputs (I := fun raised s => s.Supervised raised)
    (fun _ _ _ _ h hstep => h.step hstep) (supervised_init hinit) hrun
  rwa [List.nil_append] at hinvariant

/-! ### Whom a thread tells to stop -/

/-- What the thread of the worker `i` has told, where it stands. -/
structure Tells (s : Launcher) (i : ℕ) (told : List ℕ) : Prop where
  supervised : ∃ raised, s.Supervised raised
  silent : s.threads i = .running ∨ s.threads i = .failing → told = []
  stopping : ∀ next, s.threads i = .stopping next → told = List.range next
  ended : s.threads i = .ended → i ∈ s.errors → told = List.range WORKER_COUNT
  broken : s.threads i = .broken → ∃ n ≤ WORKER_COUNT, told = List.range n

section

variable {i : ℕ} {told : List ℕ}

theorem Tells.keep (h : s.Tells i told) (hsupervised : ∃ raised, s'.Supervised raised)
    (hthread : s'.threads i = s.threads i) (herrors : i ∈ s'.errors ↔ i ∈ s.errors) :
    s'.Tells i told :=
  ⟨hsupervised, hthread ▸ h.silent, hthread ▸ h.stopping,
    fun hended hmem => h.ended (hthread ▸ hended) (herrors.1 hmem), hthread ▸ h.broken⟩

theorem Tells.stop (h : s.Tells i told) (hsupervised : ∃ raised, s'.Supervised raised) {next : ℕ}
    {breaks : Bool} (hstopping : s.threads i = .stopping next)
    (hstepped : StopStepped s s' i next breaks) : s'.Tells i (told ++ [next]) := by
  obtain ⟨_, hbefore⟩ := h.supervised
  obtain ⟨_, hnext, _⟩ := (hbefore.thread i).stopping next hstopping
  have htold : told ++ [next] = List.range (next + 1) := by
    rw [h.stopping next hstopping, List.range_succ]
  have hafter := hstepped.thread
  refine ⟨hsupervised, ?_, fun other hother => ?_, fun hended _ => ?_,
    fun _ => ⟨next + 1, hnext, htold⟩⟩
  · rw [hafter]
    split_ifs <;> simp
  · rw [hafter] at hother
    split_ifs at hother
    cases hother
    exact htold
  · rw [hafter] at hended
    split_ifs at hended with _ hmore
    rw [htold, le_antisymm hnext (not_lt.1 hmore)]

theorem Tells.step (h : s.Tells i told) (hstep : s.step b json a = some s') :
    s'.Tells i (told ++ toldBy i s a) := by
  obtain ⟨_, hbefore⟩ := h.supervised
  have hsupervised : ∃ raised, s'.Supervised raised := ⟨_, hbefore.step hstep⟩
  have hnone : ∀ {a : Action}, toldBy i s a = [] → s'.Tells i told →
      s'.Tells i (told ++ toldBy i s a) := by
    intro a htold htells
    rwa [htold, List.append_nil]
  cases stepped_of_step hstep with
  | start _ state => exact hnone rfl (h.keep hsupervised (by rw [state]) (by rw [state]))
  | bind j stepped =>
      exact hnone rfl (h.keep hsupervised (by rw [stepped.state]) (by rw [stepped.state]))
  | serve j stepped =>
      exact hnone rfl (h.keep hsupervised (by rw [stepped.state]) (by rw [stepped.state]))
  | refuse j refused =>
      refine hnone rfl ?_
      by_cases hij : i = j
      · subst hij
        have hthread := refused.thread
        refine ⟨hsupervised, fun _ => h.silent (.inl refused.running), ?_, ?_, ?_⟩ <;>
          rw [hthread] <;> nofun
      · exact h.keep hsupervised (refused.others i hij).2 (by rw [refused.errors])
  | worker j event breaks log stepped =>
      refine hnone rfl ?_
      by_cases hij : i = j
      · subst hij
        have hafter := stepped.thread
        split_ifs at hafter with hends hraises
        · refine ⟨hsupervised, fun _ => h.silent (.inl hends.1), ?_, ?_, ?_⟩ <;>
            rw [hafter] <;> nofun
        · refine ⟨hsupervised, fun _ => h.silent (.inl hends.1), ?_, fun _ hmem => ?_, ?_⟩
          · rw [hafter]
            nofun
          · rw [stepped.errors] at hmem
            exact absurd hmem ((hbefore.thread i).not_mem_errors hends.1)
          · rw [hafter]
            nofun
        · exact h.keep hsupervised hafter (by rw [stepped.errors])
      · exact h.keep hsupervised (stepped.others i hij).2 (by rw [stepped.errors])
  | record j failing state =>
      refine hnone rfl ?_
      subst state
      by_cases hij : i = j
      · subst hij
        have hafter : Function.update s.threads i (.stopping 0) i = .stopping 0 :=
          Function.update_self ..
        refine ⟨hsupervised, ?_, fun next hnext => ?_, ?_, ?_⟩
        · dsimp only
          rw [hafter]
          nofun
        · cases hafter.symm.trans hnext
          exact h.silent (.inr failing)
        · dsimp only
          rw [hafter]
          nofun
        · dsimp only
          rw [hafter]
          nofun
      · refine h.keep hsupervised (Function.update_of_ne hij ..) ?_
        dsimp only
        rw [List.mem_append, List.mem_singleton, or_iff_left hij]
  | stop j next breaks stopping state =>
      have hstepped := stopStepped state
      have htold : toldBy i s (.stop j breaks) = if j = i then [next] else [] := by
        rw [toldBy, stopping]
      rw [htold]
      split_ifs with hij
      · subst hij
        exact h.stop hsupervised stopping hstepped
      · rw [List.append_nil]
        exact h.keep hsupervised (hstepped.others i (Ne.symm hij)) (by rw [hstepped.errors])
  | join _ _ _ state => exact hnone rfl (h.keep hsupervised (by rw [state]) (by rw [state]))

theorem tells_of_run {configs : List WorkerConfig} {s₀ : Launcher} {actions : List Action}
    (hinit : init configs = .ok s₀)
    (hrun : Transition.run (Launcher.step b json) s₀ actions = some s) :
    s.Tells i (Transition.outputs (Launcher.step b json) (toldBy i) s₀ actions) := by
  have hsupervised := supervised_init hinit
  have hthread : s₀.threads i = .running := by
    unfold init at hinit
    split_ifs at hinit
    cases hinit
    rfl
  have hstart : s₀.Tells i [] := by
    refine ⟨⟨_, hsupervised⟩, fun _ => rfl, fun _ h => ?_, fun h => ?_, fun h => ?_⟩ <;>
      cases hthread.symm.trans h
  have hinvariant := Transition.invariant_outputs (I := fun told s => s.Tells i told)
    (fun _ _ _ _ h hstep => h.step hstep) hstart hrun
  rwa [List.nil_append] at hinvariant

end

/-- When `run_workers` returns or raises, all four workers are at the end of `run`. It raises
exactly if a worker did, and then the error of such a worker. Every worker whose `run` raised has
had the workers stopped in their order, each once, and all four of them unless one of these calls
raised in turn. -/
theorem outcome_of_run {configs : List WorkerConfig} {s₀ : Launcher} {actions : List Action}
    (hinit : init configs = .ok s₀)
    (hrun : Transition.run (Launcher.step b json) s₀ actions = some s)
    {outcome : Option ℕ} (hresult : s.result = some outcome) :
    (∀ i < WORKER_COUNT, (s.runtimes i).main = .ended) ∧
      (outcome = none ↔
        Transition.outputs (Launcher.step b json) (failed b json) s₀ actions = []) ∧
      (∀ i ∈ outcome, i < WORKER_COUNT ∧
        i ∈ Transition.outputs (Launcher.step b json) (failed b json) s₀ actions) ∧
      ∀ i ∈ Transition.outputs (Launcher.step b json) (failed b json) s₀ actions,
        ∃ n ≤ WORKER_COUNT,
          Transition.outputs (Launcher.step b json) (toldBy i) s₀ actions = List.range n ∧
            (n = WORKER_COUNT ∨ s.threads i = .broken) := by
  have h := supervised_of_run hinit hrun
  rw [result, Option.ite_none_right_eq_some] at hresult
  obtain ⟨hjoined, houtcome⟩ := hresult
  obtain rfl := Option.some.inj houtcome
  have hover : ∀ i < WORKER_COUNT, (s.threads i).over = true :=
    fun i hi => h.joined i (hjoined ▸ hi)
  have hlt : ∀ {i}, s.threads i ≠ .running → i < WORKER_COUNT :=
    fun hne => ((h.thread _).started hne).trans_le h.started
  have hrecorded : ∀ {i},
      i ∈ Transition.outputs (Launcher.step b json) (failed b json) s₀ actions →
        i ∈ s.errors := by
    intro i hi
    rcases (h.thread i).raised.1 hi with hmem | hfailing
    · exact hmem
    · have hnow := hover i (hlt (hfailing ▸ nofun))
      rw [hfailing] at hnow
      cases hnow
  have hended : ∀ {i}, i ∈ s.errors → i < WORKER_COUNT := by
    intro i hi
    exact hlt fun hrunning => (h.thread i).not_mem_errors hrunning hi
  refine ⟨fun i hi => ?_, ?_, fun i hi => ?_, fun i hi => ?_⟩
  · refine not_not.1 (mt (h.thread i).running.2 fun hrunning => ?_)
    have hnow := hover i hi
    rw [hrunning] at hnow
    cases hnow
  · rw [List.head?_eq_none_iff]
    constructor
    · intro hnone
      refine List.eq_nil_iff_forall_not_mem.2 fun i hi => ?_
      have hmem := hrecorded hi
      rw [hnone] at hmem
      cases hmem
    · intro hnone
      refine List.eq_nil_iff_forall_not_mem.2 fun i hi => ?_
      have hraised := (h.thread i).raised.2 (.inl hi)
      rw [hnone] at hraised
      cases hraised
  · have hmem := List.mem_of_mem_head? hi
    exact ⟨hended hmem, (h.thread i).raised.2 (.inl hmem)⟩
  · have hmem := hrecorded hi
    have htells := tells_of_run (i := i) hinit hrun
    rcases RunThread.over_iff.1 (hover i (hended hmem)) with hend | hbroken
    · exact ⟨WORKER_COUNT, le_rfl, htells.ended hend hmem, .inl rfl⟩
    · obtain ⟨n, hn, htold⟩ := htells.broken hbroken
      exact ⟨n, hn, htold, .inr hbroken⟩

end

end

/-! ### A launch that fails -/

def fourConfigs : List WorkerConfig :=
  [⟨"worker1", "h", 1, "h", 1⟩, ⟨"worker2", "h", 1, "h", 2⟩, ⟨"worker3", "h", 1, "h", 3⟩,
    ⟨"worker4", "h", 1, "h", 4⟩]

/-- A connection that the Master refuses, and the error that follows. -/
def refusedAt (i : ℕ) : List Action :=
  [.worker i (.main "r1" { refused := true, answer := { sock := { incoming := [] } } }) false,
    .record i, .stop i false, .stop i false, .stop i false, .stop i false]

/-- The second worker registers, the first is refused and stops all. Then the receiver of the
second worker comes to its end. -/
def untilStopped : List Action :=
  [.start, .start, .bind 0, .bind 1, .serve 0, .serve 1,
    .worker 1 (.main "r1" { answer := WorkerRuntime.delivering WorkerRuntime.registered }) false] ++
    refusedAt 0 ++
    [.worker 1 (.receiver { sock := { incoming := [] } } { reportId := "r2" } "r3") false]

/-- The port of the third worker is taken, and its `stop_all` meets the fourth worker at the start
of its threads. The fourth worker is refused, and all threads are joined. -/
def untilJoined : List Action :=
  [.start, .start, .refuse 2, .bind 3, .record 2, .stop 2 false, .stop 2 false, .stop 2 false,
    .stop 2 true, .serve 3] ++ refusedAt 3 ++
    [.worker 1 (.main "" { answer := { sock := { incoming := [] } } }) false,
      .worker 1 (.processor ⟨true, .finite 1, "r3", { reportId := "r2" }⟩) false,
      .worker 1 (.main "" { answer := { sock := { incoming := [] } } }) false] ++
    List.replicate 4 .join

/-- The error of the first worker is the one that is raised. -/
theorem outcome_of_run_refused :
    ∃ s₀ s, init fourConfigs = .ok s₀ ∧
      Transition.run (Launcher.step Builtins.plain
        (WorkerRuntime.plainJson [WorkerRuntime.registered])) s₀ (untilStopped ++ untilJoined) =
          some s ∧
      s.result = some (some 0) ∧
      (∀ i < WORKER_COUNT, (s.runtimes i).main = .ended) ∧
      ∃ n ≤ WORKER_COUNT,
        Transition.outputs (Launcher.step Builtins.plain
          (WorkerRuntime.plainJson [WorkerRuntime.registered])) (toldBy 0) s₀
          (untilStopped ++ untilJoined) = List.range n ∧
          (n = WORKER_COUNT ∨ s.threads 0 = .broken) := by
  obtain ⟨s₀, hinit, htest⟩ : ∃ s₀, init fourConfigs = .ok s₀ ∧
      (Transition.run (Launcher.step Builtins.plain
        (WorkerRuntime.plainJson [WorkerRuntime.registered])) s₀
        (untilStopped ++ untilJoined)).any
        (fun s => decide (s.result = some (some 0))) = true := by
    refine ⟨_, rfl, ?_⟩
    decide +kernel
  obtain ⟨s, hrun, htest⟩ := (Option.any_eq_true _ _).1 htest
  have hresult := of_decide_eq_true htest
  obtain ⟨hended, _, hraised, htold⟩ := outcome_of_run hinit hrun hresult
  exact ⟨s₀, s, hinit, hrun, hresult, hended, htold 0 (hraised 0 rfl).2⟩

end Launcher

end KVStore
