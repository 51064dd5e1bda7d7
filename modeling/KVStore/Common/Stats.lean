import KVStore.Common.Models
import KVStore.Library.Python
import KVStore.Library.Totals
import Mathlib.Data.String.Basic

/-!
# The statistics collector

`StatsCollector` with its counters. Each method runs under the collector's lock, so it is
one step here. Events that carry an id are counted once.
-/

namespace KVStore

open Python

structure WorkerStats where
  workerId : WorkerId
  throughput : ℕ := 0
  successCount : ℕ := 0
  failCount : ℕ := 0
  overflowCount : ℕ := 0
  totalWaitSeconds : PyFloat := .finite 0
  processedCount : ℕ := 0
  p2pTransfersSent : ℤ := 0
  p2pTasksSent : ℤ := 0
  p2pTransfersReceived : ℤ := 0
  p2pTasksReceived : ℤ := 0
deriving DecidableEq

structure WorkerReport where
  workerId : WorkerId
  throughput : ℕ
  successCount : ℕ
  failCount : ℕ
  overflowCount : ℕ
  averageWaitSeconds : PyFloat
  p2pTransfersSent : ℤ
  p2pTasksSent : ℤ
  p2pTransfersReceived : ℤ
  p2pTasksReceived : ℤ
deriving DecidableEq

namespace WorkerStats

def averageWaitSeconds (stats : WorkerStats) : PyFloat :=
  if stats.processedCount = 0 then .finite 0
  else stats.totalWaitSeconds.divNat stats.processedCount

def toDict (stats : WorkerStats) : WorkerReport where
  workerId := stats.workerId
  throughput := stats.throughput
  successCount := stats.successCount
  failCount := stats.failCount
  overflowCount := stats.overflowCount
  averageWaitSeconds := stats.averageWaitSeconds.round 3
  p2pTransfersSent := stats.p2pTransfersSent
  p2pTasksSent := stats.p2pTasksSent
  p2pTransfersReceived := stats.p2pTransfersReceived
  p2pTasksReceived := stats.p2pTasksReceived

/-- The waiting time of one more task, if it is positive. -/
def addWait (stats : WorkerStats) (waitSeconds : PyFloat) : WorkerStats :=
  { stats with
    totalWaitSeconds := if (PyFloat.finite 0).lt waitSeconds = true then
        stats.totalWaitSeconds.add waitSeconds
      else stats.totalWaitSeconds }

end WorkerStats

structure Summary where
  totalSimulationTimeSeconds : PyFloat
  totalThroughput : ℕ
  totalSuccessCount : ℕ
  totalFailCount : ℕ
  overallAverageWaitSeconds : PyFloat
  totalP2pEvents : ℤ
  totalP2pTasksTransferred : ℤ
  totalReallocations : ℕ
  workerStatistics : List WorkerReport
deriving DecidableEq

structure StatsCollector where
  workers : Dict WorkerId WorkerStats := ∅
  totalReallocations : ℕ := 0
  totalP2pEvents : ℤ := 0
  totalP2pTasks : ℤ := 0
  seenEventIds : Finset String := ∅

namespace StatsCollector

/-- `_is_duplicate_locked` -/
def isDuplicateLocked (c : StatsCollector) : Option String → Bool × StatsCollector
  | none => (false, c)
  | some eventId =>
      if eventId ∈ c.seenEventIds then (true, c)
      else (false, { c with seenEventIds := insert eventId c.seenEventIds })

/-- `_get_or_create_worker_locked`, which leaves the entry in the dictionary. -/
def getOrCreateWorkerLocked (c : StatsCollector) (w : WorkerId) : WorkerStats × StatsCollector :=
  match c.workers.lookup w with
  | some stats => (stats, c)
  | none => ({ workerId := w }, { c with workers := c.workers.insert w { workerId := w } })

/-- The entry of the worker, created if need be, is changed in place. -/
def modifyWorker (c : StatsCollector) (w : WorkerId) (f : WorkerStats → WorkerStats) :
    StatsCollector :=
  let (stats, c) := c.getOrCreateWorkerLocked w
  { c with workers := c.workers.insert w (f stats) }

def recordTaskSuccess (c : StatsCollector) (w : WorkerId) (waitSeconds : PyFloat)
    (eventId : Option String) : Bool × StatsCollector :=
  match c.isDuplicateLocked eventId with
  | (true, c) => (false, c)
  | (false, c) => (true, c.modifyWorker w fun stats =>
      { stats with
        throughput := stats.throughput + 1
        successCount := stats.successCount + 1
        processedCount := stats.processedCount + 1 }.addWait waitSeconds)

def recordTaskFail (c : StatsCollector) (w : WorkerId) (waitSeconds : PyFloat)
    (eventId : Option String) : Bool × StatsCollector :=
  match c.isDuplicateLocked eventId with
  | (true, c) => (false, c)
  | (false, c) => (true, c.modifyWorker w fun stats =>
      { stats with
        failCount := stats.failCount + 1
        processedCount := stats.processedCount + 1 }.addWait waitSeconds)

def recordQueueOverflow (c : StatsCollector) (w : WorkerId) : StatsCollector :=
  c.modifyWorker w fun stats => { stats with overflowCount := stats.overflowCount + 1 }

def recordP2pTransfer (c : StatsCollector) (senderId receiverId : WorkerId) (taskCount : ℤ)
    (eventId : Option String) : Bool × StatsCollector :=
  if taskCount ≤ 0 then
    (false, c)
  else
    match c.isDuplicateLocked eventId with
    | (true, c) => (false, c)
    | (false, c) =>
        let c := (c.modifyWorker senderId id).modifyWorker receiverId id
        let c := c.modifyWorker senderId fun stats =>
          { stats with
            p2pTransfersSent := stats.p2pTransfersSent + 1
            p2pTasksSent := stats.p2pTasksSent + taskCount }
        let c := c.modifyWorker receiverId fun stats =>
          { stats with
            p2pTransfersReceived := stats.p2pTransfersReceived + 1
            p2pTasksReceived := stats.p2pTasksReceived + taskCount }
        (true, { c with
          totalP2pEvents := c.totalP2pEvents + 1
          totalP2pTasks := c.totalP2pTasks + taskCount })

def recordReallocation (c : StatsCollector) (eventId : Option String) : Bool × StatsCollector :=
  match c.isDuplicateLocked eventId with
  | (true, c) => (false, c)
  | (false, c) => (true, { c with totalReallocations := c.totalReallocations + 1 })

/-- The cumulative P2P counters that a worker reports. -/
structure P2pSnapshot where
  sentEvents : ℤ
  sentTasks : ℤ
  receivedEvents : ℤ
  receivedTasks : ℤ
deriving DecidableEq

def updateP2pSnapshot (c : StatsCollector) (w : WorkerId) (values : P2pSnapshot) :
    Except PyError StatsCollector :=
  if values.sentEvents < 0 ∨ values.sentTasks < 0 ∨ values.receivedEvents < 0 ∨
      values.receivedTasks < 0 then
    .error ⟨.valueError, "P2P statistics cannot be negative"⟩
  else
    let c := c.modifyWorker w fun stats =>
      { stats with
        p2pTransfersSent := max stats.p2pTransfersSent values.sentEvents
        p2pTasksSent := max stats.p2pTasksSent values.sentTasks
        p2pTransfersReceived := max stats.p2pTransfersReceived values.receivedEvents
        p2pTasksReceived := max stats.p2pTasksReceived values.receivedTasks }
    .ok { c with
      totalP2pEvents := c.workers.total WorkerStats.p2pTransfersSent
      totalP2pTasks := c.workers.total WorkerStats.p2pTasksSent }

/-- The entries of the workers, sorted by their ids. -/
def workersList (c : StatsCollector) : List WorkerReport :=
  ((c.workers.keys.mergeSort fun v w => decide (v ≤ w)).filterMap c.workers.lookup).map
    WorkerStats.toDict

def summary (c : StatsCollector) (totalSimulationSeconds : PyFloat) : Summary :=
  let totalProcessed := c.workers.total WorkerStats.processedCount
  let totalWaitSum := (c.workers.values.map WorkerStats.totalWaitSeconds).foldl PyFloat.add
    (.finite 0)
  { totalSimulationTimeSeconds := totalSimulationSeconds.round 2
    totalThroughput := (c.workersList.map WorkerReport.throughput).sum
    totalSuccessCount := (c.workersList.map WorkerReport.successCount).sum
    totalFailCount := (c.workersList.map WorkerReport.failCount).sum
    overallAverageWaitSeconds :=
      (if 0 < totalProcessed then totalWaitSum.divNat totalProcessed else .finite 0).round 3
    totalP2pEvents := c.totalP2pEvents
    totalP2pTasksTransferred := c.totalP2pTasks
    totalReallocations := c.totalReallocations
    workerStatistics := c.workersList }

/-! ### What a call changes -/

section

variable {c : StatsCollector} {w : WorkerId}

def statsOf (c : StatsCollector) (w : WorkerId) : WorkerStats :=
  (c.workers.lookup w).getD { workerId := w }

theorem lookup_modifyWorker (f : WorkerStats → WorkerStats) (v : WorkerId) :
    (c.modifyWorker w f).workers.lookup v =
      if v = w then some (f (c.statsOf w)) else c.workers.lookup v := by
  unfold modifyWorker getOrCreateWorkerLocked statsOf
  cases h : c.workers.lookup w with
  | none =>
      simp only [Dict.lookup_insert_eq_ite]
      split_ifs <;> rfl
  | some stats =>
      simp only [Dict.lookup_insert_eq_ite]
      split_ifs <;> rfl

theorem seenEventIds_modifyWorker (f : WorkerStats → WorkerStats) :
    (c.modifyWorker w f).seenEventIds = c.seenEventIds := by
  unfold modifyWorker getOrCreateWorkerLocked
  cases c.workers.lookup w <;> rfl

/-- A quantity that is zero for a new worker, summed up after it grew for one worker. -/
theorem total_modifyWorker {M : Type*} [AddCommMonoid M] {g : WorkerStats → M}
    (hzero : ∀ v, g { workerId := v } = 0) {f : WorkerStats → WorkerStats} {δ : M}
    (hf : g (f (c.statsOf w)) = g (c.statsOf w) + δ) :
    (c.modifyWorker w f).workers.total g = c.workers.total g + δ := by
  unfold modifyWorker getOrCreateWorkerLocked
  cases h : c.workers.lookup w with
  | none =>
      have hnew : c.statsOf w = { workerId := w } := by rw [statsOf, h, Option.getD_none]
      have hsame : (c.workers.insert w { workerId := w }).erase w = c.workers.erase w := by
        apply AList.ext
        simp [AList.erase, AList.insert]
      rw [hnew, hzero, zero_add] at hf
      simp only [Dict.total_insert, hsame, Dict.erase_of_lookup_eq_none h, hf]
      exact add_comm _ _
  | some stats =>
      have hold : c.statsOf w = stats := by rw [statsOf, h, Option.getD_some]
      rw [hold] at hf
      simp only [Dict.total_insert, hf, Dict.total_of_lookup_eq_some g h]
      exact add_right_comm _ _ _

theorem sum_workersList (c : StatsCollector) (g : WorkerReport → ℕ) :
    (c.workersList.map g).sum = c.workers.total fun stats => g stats.toDict := by
  have hperm : (c.workers.keys.mergeSort fun v w => decide (v ≤ w)).Perm c.workers.keys :=
    List.mergeSort_perm _ _
  have hsum := ((((hperm.filterMap c.workers.lookup).map WorkerStats.toDict).map g)).sum_eq
  rw [workersList, hsum, Dict.filterMap_lookup_keys, List.map_map]
  rfl

end

end StatsCollector

end KVStore
