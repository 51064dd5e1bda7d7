import KVStore.Common.Models
import KVStore.Library.Dict
import KVStore.Library.Transition
import Mathlib.Algebra.Group.Nat.Defs

/-!
# The ready queue of a worker

`ReadyQueue` holds the fields of the class of that name, and each definition is
the body of the method of the same name, which runs under the queue's lock. The
queue only reads the ids of the tasks it stores, so the type of the tasks is a
parameter. Condition variables are left out: they only wake threads up.

`perform` collects the methods into one function of the call, and `step` adds the
discipline of the processor loop, which takes the next task only after it marked
the last one done.
-/

namespace KVStore

/-- What a ready queue reads of the tasks it stores. -/
class HasTaskId (τ : Type*) where
  taskId : τ → TaskId

instance : HasTaskId Task := ⟨Task.taskId⟩

open HasTaskId

structure QueueChangeResult where
  accepted : Bool
  queueSize : ℕ
  queueCapacity : ℕ
  warn : Bool
  reason : Option String := none
deriving DecidableEq

structure ReadyQueue (τ : Type*) where
  capacity : ℕ
  normal : List τ := []
  priority : List τ := []
  reserved : Dict TaskId (τ × Bool) := ∅
  activeTaskIds : Finset TaskId := ∅
  processingTaskId : Option TaskId := none

namespace ReadyQueue

/-- The value nearest to `n` that has at most 53 significant bits, ties to
even: what becomes of an integer, or of one scaled by a power of two, when it is
stored as a double. -/
def roundDouble (n : ℕ) : ℕ :=
  let unit := 2 ^ (Nat.log2 n + 1 - 53)
  let down := n / unit * unit
  if 2 * (n % unit) < unit ∨ (2 * (n % unit) = unit ∧ (n / unit) % 2 = 0) then down
  else down + unit

/-- The double nearest to `0.7`, times `2 ^ 52`. -/
def WARN_THRESHOLD_RATIO : ℕ := 3152519739159347

/-- The last elements of a list: `xs[-count:]` for positive `count`. -/
def lastMany {τ : Type*} (count : ℕ) (xs : List τ) : List τ :=
  xs.drop (xs.length - count)

section Operations

variable {τ : Type*} [HasTaskId τ]

def init (capacity : ℤ) : Except String (ReadyQueue τ) :=
  if capacity ≤ 0 then
    .error "capacity must be positive"
  else
    .ok { capacity := capacity.toNat }

def sizeLocked (q : ReadyQueue τ) : ℕ :=
  q.normal.length + q.priority.length + q.reserved.size

/-- The comparison with `capacity * WARN_THRESHOLD_RATIO`, a product of doubles. -/
def warnLocked (q : ReadyQueue τ) : Bool :=
  roundDouble (roundDouble q.capacity * WARN_THRESHOLD_RATIO) < q.sizeLocked * 2 ^ 52

def resultLocked (q : ReadyQueue τ) (accepted : Bool) (reason : Option String := none) :
    QueueChangeResult where
  accepted := accepted
  queueSize := q.sizeLocked
  queueCapacity := q.capacity
  warn := q.warnLocked
  reason := reason

def tryEnqueue (q : ReadyQueue τ) (task : τ) (priority : Bool) :
    QueueChangeResult × ReadyQueue τ :=
  if taskId task ∈ q.activeTaskIds then
    (q.resultLocked false (some "duplicate"), q)
  else if q.capacity ≤ q.sizeLocked then
    (q.resultLocked false (some "full"), q)
  else
    let added : ReadyQueue τ := { q with
      normal := if priority then q.normal else q.normal ++ [task]
      priority := if priority then q.priority ++ [task] else q.priority
      activeTaskIds := insert (taskId task) q.activeTaskIds }
    (added.resultLocked true, added)

/-- All tasks of a transfer are added, or none. -/
def tryEnqueueMany (q : ReadyQueue τ) (tasks : List τ) :
    QueueChangeResult × ReadyQueue τ :=
  let taskIds := tasks.map taskId
  if ¬ taskIds.Nodup then
    (q.resultLocked false (some "duplicate"), q)
  else if taskIds.any (· ∈ q.activeTaskIds) then
    (q.resultLocked false (some "duplicate"), q)
  else if q.capacity < q.sizeLocked + tasks.length then
    (q.resultLocked false (some "full"), q)
  else
    let added : ReadyQueue τ := { q with
      normal := q.normal ++ tasks
      activeTaskIds := q.activeTaskIds ∪ taskIds.toFinset }
    (added.resultLocked true, added)

/-- Priority tasks go first. `none` is what the caller gets when it waited in
vain. -/
def dequeueForProcessing (q : ReadyQueue τ) : Option τ × ReadyQueue τ :=
  match q.priority, q.normal with
  | task :: rest, _ =>
      (some task, { q with priority := rest, processingTaskId := some (taskId task) })
  | [], task :: rest =>
      (some task, { q with normal := rest, processingTaskId := some (taskId task) })
  | [], [] => (none, q)

def markProcessingDone (q : ReadyQueue τ) : QueueChangeResult × ReadyQueue τ :=
  let done : ReadyQueue τ := { q with
    activeTaskIds :=
      match q.processingTaskId with
      | some t => q.activeTaskIds.erase t
      | none => q.activeTaskIds
    processingTaskId := none }
  (done.resultLocked true, done)

/-- The constructor of the status refuses any capacity but the default one. -/
def snapshotStatus (q : ReadyQueue τ) (w : WorkerId) : Except String WorkerStatus :=
  WorkerStatus.postInit
    { workerId := w
      queueSize := q.sizeLocked
      queueCapacity := q.capacity
      processingTaskId := q.processingTaskId }

/-- The newest normal tasks, then the newest priority tasks. -/
def peekTransferCandidates (q : ReadyQueue τ) (count : ℤ) : Except String (List τ) :=
  if count ≤ 0 then
    .error "count must be positive"
  else
    let candidates := lastMany count.toNat q.normal
    if candidates.length < count.toNat then
      .ok (candidates ++ lastMany (count.toNat - candidates.length) q.priority)
    else
      .ok candidates

/-- The first task with the given id leaves its deque and is kept aside with the
name of that deque. -/
def reserveForTransfer [DecidableEq τ] (q : ReadyQueue τ) (t : TaskId) :
    Option τ × ReadyQueue τ :=
  match q.normal.find? (taskId · = t) with
  | some task =>
      (some task, { q with
        normal := q.normal.erase task
        reserved := q.reserved.insert t (task, false) })
  | none =>
      match q.priority.find? (taskId · = t) with
      | some task =>
          (some task, { q with
            priority := q.priority.erase task
            reserved := q.reserved.insert t (task, true) })
      | none => (none, q)

def confirmRemoved (q : ReadyQueue τ) (t : TaskId) : QueueChangeResult × ReadyQueue τ :=
  match q.reserved.lookup t with
  | some _ =>
      let removed : ReadyQueue τ := { q with
        reserved := q.reserved.erase t
        activeTaskIds := q.activeTaskIds.erase t }
      (removed.resultLocked true, removed)
  | none => (q.resultLocked false, q)

def releaseReservation (q : ReadyQueue τ) (t : TaskId) :
    QueueChangeResult × ReadyQueue τ :=
  match q.reserved.lookup t with
  | some (task, priority) =>
      let released : ReadyQueue τ := { q with
        reserved := q.reserved.erase t
        normal := if priority then q.normal else task :: q.normal
        priority := if priority then task :: q.priority else q.priority }
      (released.resultLocked true, released)
  | none => (q.resultLocked false, q)

end Operations

inductive Call (τ : Type*)
  | tryEnqueue (task : τ) (priority : Bool)
  | tryEnqueueMany (tasks : List τ)
  | dequeueForProcessing
  | markProcessingDone
  | peekTransferCandidates (count : ℤ)
  | reserveForTransfer (t : TaskId)
  | confirmRemoved (t : TaskId)
  | releaseReservation (t : TaskId)
deriving DecidableEq

inductive Outcome (τ : Type*)
  | change (result : QueueChangeResult)
  | task (task : Option τ)
  | candidates (tasks : Except String (List τ))

section Step

variable {τ : Type*} [HasTaskId τ] [DecidableEq τ]

def perform (q : ReadyQueue τ) : Call τ → Outcome τ × ReadyQueue τ
  | .tryEnqueue task priority => (q.tryEnqueue task priority).map .change id
  | .tryEnqueueMany tasks => (q.tryEnqueueMany tasks).map .change id
  | .dequeueForProcessing => q.dequeueForProcessing.map .task id
  | .markProcessingDone => q.markProcessingDone.map .change id
  | .peekTransferCandidates count => (.candidates (q.peekTransferCandidates count), q)
  | .reserveForTransfer t => (q.reserveForTransfer t).map .task id
  | .confirmRemoved t => (q.confirmRemoved t).map .change id
  | .releaseReservation t => (q.releaseReservation t).map .change id

/-- A call under the discipline of the processor loop. -/
def step (q : ReadyQueue τ) : Call τ → Option (ReadyQueue τ)
  | .dequeueForProcessing =>
      if q.processingTaskId = none then some q.dequeueForProcessing.2 else none
  | call => some (q.perform call).2

end Step

end ReadyQueue

end KVStore
