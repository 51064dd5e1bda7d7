import KVStore.Common.Stats
import KVStore.Library.Joins
import Mathlib.Algebra.Order.Group.Int
import Mathlib.Algebra.Order.Monoid.Prod

/-!
# Sequences of calls of the statistics collector

`perform` collects the recording methods into one function of the call, and `run` makes the
calls one after another, also after one that raised. The four P2P counters of a worker are
one value of a product of linear orders: a transfer adds to it and a snapshot joins with it,
so it never falls, and what snapshots alone leave is the join of all of them.
-/

namespace KVStore

open Python

/-- The four P2P counters: transfers and tasks sent, transfers and tasks received. -/
abbrev P2pCounters := ℤ × ℤ × ℤ × ℤ

def WorkerStats.p2pCounters (stats : WorkerStats) : P2pCounters :=
  (stats.p2pTransfersSent, stats.p2pTasksSent, stats.p2pTransfersReceived,
    stats.p2pTasksReceived)

namespace StatsCollector

/-- A call of one of the recording methods. -/
inductive Call
  | recordTaskSuccess (w : WorkerId) (waitSeconds : PyFloat) (eventId : Option String)
  | recordTaskFail (w : WorkerId) (waitSeconds : PyFloat) (eventId : Option String)
  | recordQueueOverflow (w : WorkerId)
  | recordP2pTransfer (senderId receiverId : WorkerId) (taskCount : ℤ)
      (eventId : Option String)
  | recordReallocation (eventId : Option String)
  | updateP2pSnapshot (w : WorkerId) (values : P2pSnapshot)
deriving DecidableEq

def Call.eventId : Call → Option String
  | recordTaskSuccess _ _ eventId => eventId
  | recordTaskFail _ _ eventId => eventId
  | recordQueueOverflow _ => none
  | recordP2pTransfer _ _ _ eventId => eventId
  | recordReallocation eventId => eventId
  | updateP2pSnapshot _ _ => none

/-- What the call returns, if anything, and the collector after it. A snapshot raises before
the lock is taken. -/
def perform (c : StatsCollector) : Call → Except PyError (Option Bool) × StatsCollector
  | .recordTaskSuccess w waitSeconds eventId =>
      (c.recordTaskSuccess w waitSeconds eventId).map (fun recorded => .ok (some recorded)) id
  | .recordTaskFail w waitSeconds eventId =>
      (c.recordTaskFail w waitSeconds eventId).map (fun recorded => .ok (some recorded)) id
  | .recordQueueOverflow w => (.ok none, c.recordQueueOverflow w)
  | .recordP2pTransfer senderId receiverId taskCount eventId =>
      (c.recordP2pTransfer senderId receiverId taskCount eventId).map
        (fun recorded => .ok (some recorded)) id
  | .recordReallocation eventId =>
      (c.recordReallocation eventId).map (fun recorded => .ok (some recorded)) id
  | .updateP2pSnapshot w values =>
      match c.updateP2pSnapshot w values with
      | .ok updated => (.ok none, updated)
      | .error e => (.error e, c)

def after (c : StatsCollector) (call : Call) : StatsCollector := (c.perform call).2

def run (c : StatsCollector) (calls : List Call) : StatsCollector := calls.foldl after c

def P2pSnapshot.counters (values : P2pSnapshot) : P2pCounters :=
  (values.sentEvents, values.sentTasks, values.receivedEvents, values.receivedTasks)

def p2pCounters (c : StatsCollector) (w : WorkerId) : P2pCounters := (c.statsOf w).p2pCounters

/-- All counters: the collector less the ids of the events that it has seen. -/
def counters (c : StatsCollector) : StatsCollector := { c with seenEventIds := ∅ }

/-- The totals are the sums over the workers. -/
structure TotalsAgree (c : StatsCollector) : Prop where
  events : c.totalP2pEvents = c.workers.total WorkerStats.p2pTransfersSent
  tasks : c.totalP2pTasks = c.workers.total WorkerStats.p2pTasksSent

def snapshotCalls (snapshots : List (WorkerId × P2pSnapshot)) : List Call :=
  snapshots.map fun snapshot => .updateP2pSnapshot snapshot.1 snapshot.2

/-! ### What one call does -/

/-- The calls that the checks on their numbers let through. -/
def Call.Valid : Call → Prop
  | recordP2pTransfer _ _ taskCount _ => 0 < taskCount
  | updateP2pSnapshot _ values => 0 ≤ values.counters
  | _ => True

/-- What a call that is recorded makes of the P2P counters. -/
def Call.raise (counters : WorkerId → P2pCounters) : Call → WorkerId → P2pCounters
  | recordP2pTransfer senderId receiverId taskCount _ => fun w =>
      counters w + (if w = senderId then (1, taskCount, 0, 0) else 0) +
        (if w = receiverId then (0, 0, 1, taskCount) else 0)
  | updateP2pSnapshot w values => Joins.absorb counters (w, values.counters)
  | _ => counters

/-- The call was recorded: its id is new and now noted, the P2P counters are raised and the
totals with them. -/
structure Recorded (c : StatsCollector) (call : Call) (c' : StatsCollector) : Prop where
  valid : call.Valid
  seen : c.seenEventIds ⊆ c'.seenEventIds
  fresh : ∀ e ∈ call.eventId, e ∉ c.seenEventIds ∧ e ∈ c'.seenEventIds
  raised : c'.p2pCounters = call.raise c.p2pCounters
  totals : c.TotalsAgree → c'.TotalsAgree

section Calls

variable {c : StatsCollector} {call : Call} {w : WorkerId}

theorem isDuplicateLocked_cases (c : StatsCollector) (eventId : Option String) :
    c.isDuplicateLocked eventId = (true, c) ∨
      ∃ seen, c.isDuplicateLocked eventId = (false, { c with seenEventIds := seen }) ∧
        c.seenEventIds ⊆ seen ∧ ∀ e ∈ eventId, e ∉ c.seenEventIds ∧ e ∈ seen := by
  cases eventId with
  | none => exact .inr ⟨c.seenEventIds, rfl, subset_rfl, nofun⟩
  | some e =>
      rw [isDuplicateLocked]
      by_cases h : e ∈ c.seenEventIds
      · rw [if_pos h]
        exact .inl rfl
      · rw [if_neg h]
        refine .inr ⟨_, rfl, Finset.subset_insert _ _, ?_⟩
        rintro _ ⟨⟩
        exact ⟨h, Finset.mem_insert_self _ _⟩

theorem statsOf_modifyWorker (f : WorkerStats → WorkerStats) (v : WorkerId) :
    (c.modifyWorker w f).statsOf v = if v = w then f (c.statsOf w) else c.statsOf v := by
  rw [statsOf, lookup_modifyWorker]
  split_ifs <;> rfl

/-- The entry of one worker was changed in place, by adding to its P2P counters. -/
structure Adds (c : StatsCollector) (w : WorkerId) (δ : P2pCounters) (c' : StatsCollector) :
    Prop where
  counters : ∀ v, c'.p2pCounters v = c.p2pCounters v + if v = w then δ else 0
  sentEvents : c'.workers.total WorkerStats.p2pTransfersSent =
    c.workers.total WorkerStats.p2pTransfersSent + δ.1
  sentTasks : c'.workers.total WorkerStats.p2pTasksSent =
    c.workers.total WorkerStats.p2pTasksSent + δ.2.1
  events : c'.totalP2pEvents = c.totalP2pEvents
  tasks : c'.totalP2pTasks = c.totalP2pTasks
  seen : c'.seenEventIds = c.seenEventIds

theorem adds_modifyWorker {f : WorkerStats → WorkerStats} {δ : P2pCounters}
    (hf : ∀ stats, (f stats).p2pCounters = stats.p2pCounters + δ) :
    c.Adds w δ (c.modifyWorker w f) where
  counters v := by
    rw [p2pCounters, statsOf_modifyWorker]
    split_ifs with hv
    · rw [hv, hf]
      rfl
    · exact (add_zero _).symm
  sentEvents := total_modifyWorker (fun _ => rfl) (congrArg Prod.fst (hf (c.statsOf w)))
  sentTasks := total_modifyWorker (fun _ => rfl)
    (congrArg (fun counters : P2pCounters => counters.2.1) (hf (c.statsOf w)))
  events := by
    unfold modifyWorker getOrCreateWorkerLocked
    cases c.workers.lookup w <;> rfl
  tasks := by
    unfold modifyWorker getOrCreateWorkerLocked
    cases c.workers.lookup w <;> rfl
  seen := seenEventIds_modifyWorker f

theorem recorded_of_adds {c' : StatsCollector} {seen : Finset String}
    (hvalid : call.Valid) (hsubset : c.seenEventIds ⊆ seen)
    (hfresh : ∀ e ∈ call.eventId, e ∉ c.seenEventIds ∧ e ∈ seen)
    (hraise : call.raise c.p2pCounters = c.p2pCounters)
    (h : ({ c with seenEventIds := seen } : StatsCollector).Adds w 0 c') :
    c.Recorded call c' where
  valid := hvalid
  seen := by rwa [h.seen]
  fresh := by rwa [h.seen]
  raised := by
    rw [hraise]
    funext v
    rw [h.counters, ite_self, add_zero]
    rfl
  totals htotals := by
    refine ⟨?_, ?_⟩
    · rw [h.events, h.sentEvents]
      exact htotals.events.trans (add_zero _).symm
    · rw [h.tasks, h.sentTasks]
      exact htotals.tasks.trans (add_zero _).symm

theorem recorded_of_transfer {c₁ c₂ c₃ c₄ : StatsCollector} {seen : Finset String}
    {senderId receiverId : WorkerId} {taskCount : ℤ} {eventId : Option String}
    (hcount : 0 < taskCount) (hsubset : c.seenEventIds ⊆ seen)
    (hfresh : ∀ e ∈ eventId, e ∉ c.seenEventIds ∧ e ∈ seen)
    (h₁ : ({ c with seenEventIds := seen } : StatsCollector).Adds senderId 0 c₁)
    (h₂ : c₁.Adds receiverId 0 c₂) (h₃ : c₂.Adds senderId (1, taskCount, 0, 0) c₃)
    (h₄ : c₃.Adds receiverId (0, 0, 1, taskCount) c₄) :
    c.Recorded (.recordP2pTransfer senderId receiverId taskCount eventId)
      { c₄ with
        totalP2pEvents := c₄.totalP2pEvents + 1
        totalP2pTasks := c₄.totalP2pTasks + taskCount } := by
  have hseen : c₄.seenEventIds = seen := by rw [h₄.seen, h₃.seen, h₂.seen, h₁.seen]
  refine ⟨hcount, ?_, ?_, ?_, fun h => ⟨?_, ?_⟩⟩
  · rwa [hseen]
  · rwa [hseen]
  · funext v
    have hv : c₄.p2pCounters v = _ := h₄.counters v
    rw [h₃.counters, h₂.counters, h₁.counters, ite_self, ite_self, add_zero, add_zero] at hv
    exact hv
  · have hsum := h₄.sentEvents
    rw [h₃.sentEvents, h₂.sentEvents, h₁.sentEvents] at hsum
    have hevents : c₄.totalP2pEvents = c.totalP2pEvents := by
      rw [h₄.events, h₃.events, h₂.events, h₁.events]
    change c₄.totalP2pEvents + 1 = c₄.workers.total WorkerStats.p2pTransfersSent
    rw [hsum, hevents, h.events]
    simp
  · have hsum := h₄.sentTasks
    rw [h₃.sentTasks, h₂.sentTasks, h₁.sentTasks] at hsum
    have htasks : c₄.totalP2pTasks = c.totalP2pTasks := by
      rw [h₄.tasks, h₃.tasks, h₂.tasks, h₁.tasks]
    change c₄.totalP2pTasks + taskCount = c₄.workers.total WorkerStats.p2pTasksSent
    rw [hsum, htasks, h.tasks]
    simp

theorem recorded_of_join {values : P2pSnapshot} {f : WorkerStats → WorkerStats}
    (hvalid : 0 ≤ values.counters)
    (hf : ∀ stats, (f stats).p2pCounters = stats.p2pCounters ⊔ values.counters) :
    c.Recorded (.updateP2pSnapshot w values)
      { c.modifyWorker w f with
        totalP2pEvents := (c.modifyWorker w f).workers.total WorkerStats.p2pTransfersSent
        totalP2pTasks := (c.modifyWorker w f).workers.total WorkerStats.p2pTasksSent } where
  valid := hvalid
  seen := (seenEventIds_modifyWorker f).superset
  fresh := nofun
  raised := by
    funext v
    change ((c.modifyWorker w f).statsOf v).p2pCounters = _
    rw [statsOf_modifyWorker, Call.raise, Joins.absorb]
    split_ifs with hv
    · rw [hv, Function.update_self, hf]
      rfl
    · rw [Function.update_of_ne hv]
      rfl
  totals _ := ⟨rfl, rfl⟩

theorem after_updateP2pSnapshot (c : StatsCollector) (w : WorkerId) (values : P2pSnapshot) :
    (0 ≤ values.counters → c.Recorded (.updateP2pSnapshot w values)
      (c.after (.updateP2pSnapshot w values))) ∧
    (¬ 0 ≤ values.counters → c.after (.updateP2pSnapshot w values) = c) := by
  have hnegative : (values.sentEvents < 0 ∨ values.sentTasks < 0 ∨ values.receivedEvents < 0 ∨
      values.receivedTasks < 0) ↔ ¬ 0 ≤ values.counters := by
    rw [P2pSnapshot.counters, Prod.le_def, Prod.le_def, Prod.le_def]
    simp only [Prod.fst_zero, Prod.snd_zero, not_and_or, not_le]
  rw [after, perform, updateP2pSnapshot]
  by_cases h : 0 ≤ values.counters
  · rw [if_neg (mt hnegative.1 (not_not.2 h))]
    exact ⟨fun _ => recorded_of_join h fun _ => rfl, fun hno => absurd h hno⟩
  · rw [if_pos (hnegative.2 h)]
    exact ⟨fun hyes => absurd hyes h, fun _ => rfl⟩

theorem after_cases (c : StatsCollector) (call : Call) :
    c.after call = c ∨ c.Recorded call (c.after call) := by
  cases call with
  | recordTaskSuccess w waitSeconds eventId =>
      rw [after, perform, recordTaskSuccess]
      obtain hdup | ⟨seen, hnew, hsubset, hfresh⟩ := isDuplicateLocked_cases c eventId
      · rw [hdup]
        exact .inl rfl
      · rw [hnew]
        dsimp only [Prod.map_snd, id]
        refine .inr (recorded_of_adds trivial hsubset hfresh rfl (adds_modifyWorker ?_))
        exact fun stats => (add_zero stats.p2pCounters).symm
  | recordTaskFail w waitSeconds eventId =>
      rw [after, perform, recordTaskFail]
      obtain hdup | ⟨seen, hnew, hsubset, hfresh⟩ := isDuplicateLocked_cases c eventId
      · rw [hdup]
        exact .inl rfl
      · rw [hnew]
        dsimp only [Prod.map_snd, id]
        refine .inr (recorded_of_adds trivial hsubset hfresh rfl (adds_modifyWorker ?_))
        exact fun stats => (add_zero stats.p2pCounters).symm
  | recordQueueOverflow w =>
      dsimp only [after, perform, recordQueueOverflow]
      refine .inr (recorded_of_adds trivial subset_rfl nofun rfl (adds_modifyWorker ?_))
      exact fun stats => (add_zero stats.p2pCounters).symm
  | recordP2pTransfer senderId receiverId taskCount eventId =>
      rw [after, perform, recordP2pTransfer]
      by_cases hcount : taskCount ≤ 0
      · rw [if_pos hcount]
        exact .inl rfl
      rw [if_neg hcount]
      obtain hdup | ⟨seen, hnew, hsubset, hfresh⟩ := isDuplicateLocked_cases c eventId
      · rw [hdup]
        exact .inl rfl
      rw [hnew]
      refine .inr (recorded_of_transfer (not_le.1 hcount) hsubset hfresh
        (adds_modifyWorker ?_) (adds_modifyWorker ?_) (adds_modifyWorker ?_)
        (adds_modifyWorker ?_))
      · exact fun stats => (add_zero stats.p2pCounters).symm
      · exact fun stats => (add_zero stats.p2pCounters).symm
      · intro stats
        simp [WorkerStats.p2pCounters]
      · intro stats
        simp [WorkerStats.p2pCounters]
  | recordReallocation eventId =>
      rw [after, perform, recordReallocation]
      obtain hdup | ⟨seen, hnew, hsubset, hfresh⟩ := isDuplicateLocked_cases c eventId
      · rw [hdup]
        exact .inl rfl
      · rw [hnew]
        exact .inr ⟨trivial, hsubset, hfresh, rfl, fun h => ⟨h.events, h.tasks⟩⟩
  | updateP2pSnapshot w values =>
      obtain ⟨hyes, hno⟩ := after_updateP2pSnapshot c w values
      by_cases h : 0 ≤ values.counters
      · exact .inr (hyes h)
      · exact .inl (hno h)

theorem after_of_mem_seen {e : String} (hevent : call.eventId = some e)
    (he : e ∈ c.seenEventIds) : c.after call = c := by
  obtain hsame | hrecorded := after_cases c call
  · exact hsame
  · exact absurd he (hrecorded.fresh e hevent).1

theorem seenEventIds_after_subset (c : StatsCollector) (call : Call) :
    c.seenEventIds ⊆ (c.after call).seenEventIds := by
  obtain hsame | hrecorded := after_cases c call
  · rw [hsame]
  · exact hrecorded.seen

theorem totalsAgree_after (h : c.TotalsAgree) : (c.after call).TotalsAgree := by
  obtain hsame | hrecorded := after_cases c call
  · rwa [hsame]
  · exact hrecorded.totals h

theorem Call.le_raise (hvalid : call.Valid) (counters : WorkerId → P2pCounters) :
    counters ≤ call.raise counters := by
  intro v
  cases call with
  | recordP2pTransfer senderId receiverId taskCount eventId =>
      have hcount : 0 ≤ taskCount := le_of_lt hvalid
      have hsent : (0 : P2pCounters) ≤ (1, taskCount, 0, 0) :=
        ⟨zero_le_one, hcount, le_rfl, le_rfl⟩
      have hreceived : (0 : P2pCounters) ≤ (0, 0, 1, taskCount) :=
        ⟨le_rfl, le_rfl, zero_le_one, hcount⟩
      refine le_add_of_le_of_nonneg (le_add_of_nonneg_right ?_) ?_
      · split_ifs
        · exact hsent
        · exact le_rfl
      · split_ifs
        · exact hreceived
        · exact le_rfl
  | updateP2pSnapshot w values => exact (Joins.absorb_le_iff.1 le_rfl).1
  | recordTaskSuccess w waitSeconds eventId => exact le_rfl
  | recordTaskFail w waitSeconds eventId => exact le_rfl
  | recordQueueOverflow w => exact le_rfl
  | recordReallocation eventId => exact le_rfl

theorem p2pCounters_le_after (c : StatsCollector) (call : Call) :
    c.p2pCounters ≤ (c.after call).p2pCounters := by
  obtain hsame | hrecorded := after_cases c call
  · rw [hsame]
  · rw [hrecorded.raised]
    exact Call.le_raise hrecorded.valid c.p2pCounters

/-- Only a snapshot raises, and it does so before anything is changed. -/
theorem after_of_error {e : PyError} (h : (c.perform call).1 = .error e) : c.after call = c := by
  cases call with
  | updateP2pSnapshot w values =>
      rw [perform] at h
      rw [after, perform]
      cases hupdate : c.updateP2pSnapshot w values with
      | ok updated =>
          rw [hupdate] at h
          cases h
      | error e' => rfl
  | recordTaskSuccess w waitSeconds eventId => cases h
  | recordTaskFail w waitSeconds eventId => cases h
  | recordQueueOverflow w => cases h
  | recordP2pTransfer senderId receiverId taskCount eventId => cases h
  | recordReallocation eventId => cases h

end Calls

/-! ### What a sequence of calls does -/

section Runs

variable {c c' : StatsCollector} {w : WorkerId}

theorem run_cons (c : StatsCollector) (call : Call) (calls : List Call) :
    c.run (call :: calls) = (c.after call).run calls := rfl

theorem run_append (c : StatsCollector) (calls more : List Call) :
    c.run (calls ++ more) = (c.run calls).run more := List.foldl_append

theorem relation_run {R : StatsCollector → StatsCollector → Prop} (hrefl : ∀ c, R c c)
    (htrans : ∀ {a b c}, R a b → R b c → R a c) (hafter : ∀ c call, R c (c.after call))
    (c : StatsCollector) (calls : List Call) : R c (c.run calls) := by
  induction calls generalizing c with
  | nil => exact hrefl c
  | cons call calls ih => exact htrans (hafter c call) (ih (c.after call))

theorem totalsAgree_run (h : c.TotalsAgree) (calls : List Call) : (c.run calls).TotalsAgree :=
  relation_run (R := fun c c' => c.TotalsAgree → c'.TotalsAgree) (fun _ => id)
    (fun h₁ h₂ h => h₂ (h₁ h)) (fun _ _ => totalsAgree_after) c calls h

theorem p2pCounters_le_run (c : StatsCollector) (calls : List Call) :
    c.p2pCounters ≤ (c.run calls).p2pCounters :=
  relation_run (R := fun c c' => c.p2pCounters ≤ c'.p2pCounters) (fun _ => le_rfl)
    (fun h₁ h₂ => h₁.trans h₂) p2pCounters_le_after c calls

theorem seenEventIds_run_subset (c : StatsCollector) (calls : List Call) :
    c.seenEventIds ⊆ (c.run calls).seenEventIds :=
  relation_run (R := fun c c' => c.seenEventIds ⊆ c'.seenEventIds) (fun _ => subset_rfl)
    (fun h₁ h₂ => h₁.trans h₂) seenEventIds_after_subset c calls

theorem totals_le_of_p2pCounters_le (h : c.TotalsAgree) (h' : c'.TotalsAgree)
    (hle : c.p2pCounters ≤ c'.p2pCounters) :
    c.totalP2pEvents ≤ c'.totalP2pEvents ∧ c.totalP2pTasks ≤ c'.totalP2pTasks := by
  have hstats : ∀ (c : StatsCollector) (g : WorkerStats → ℤ) (w : WorkerId),
      (∀ v, g { workerId := v } = 0) → ((c.workers.lookup w).map g).getD 0 = g (c.statsOf w) := by
    intro c g w hzero
    rw [statsOf]
    cases c.workers.lookup w with
    | none => exact (hzero w).symm
    | some stats => rfl
  rw [h.events, h'.events, h.tasks, h'.tasks]
  refine ⟨Dict.total_le_total _ fun w => ?_, Dict.total_le_total _ fun w => ?_⟩
  · rw [hstats c _ w fun _ => rfl, hstats c' _ w fun _ => rfl]
    exact (hle w).1
  · rw [hstats c _ w fun _ => rfl, hstats c' _ w fun _ => rfl]
    exact (hle w).2.1

/-- Snapshots alone leave the join of those that are not refused. -/
theorem p2pCounters_run_snapshotCalls (c : StatsCollector)
    (snapshots : List (WorkerId × P2pSnapshot)) :
    (c.run (snapshotCalls snapshots)).p2pCounters =
      Joins.absorbAll c.p2pCounters ((snapshots.map fun snapshot =>
        (snapshot.1, snapshot.2.counters)).filter fun report => 0 ≤ report.2) := by
  induction snapshots generalizing c with
  | nil => rfl
  | cons snapshot snapshots ih =>
      obtain ⟨hyes, hno⟩ := after_updateP2pSnapshot c snapshot.1 snapshot.2
      change ((c.after _).run (snapshotCalls snapshots)).p2pCounters = _
      rw [ih, List.map_cons]
      by_cases h : 0 ≤ snapshot.2.counters
      · rw [List.filter_cons_of_pos (by simpa using h), Joins.absorbAll_cons, (hyes h).raised]
        rfl
      · rw [List.filter_cons_of_neg (by simpa using h), hno h]

theorem totalsAgree_empty : TotalsAgree {} := ⟨rfl, rfl⟩

/-- **Consistency.** After any calls of a new collector the totals are the sums over the
workers; of two events with one id at most one changes the counters; no P2P counter falls; a
call that raises changes nothing; and what snapshots make of the P2P counters depends on the
set of snapshots only. -/
theorem consistency :
    (∀ calls, (run {} calls).TotalsAgree) ∧
    (∀ calls first between second e, first.eventId = some e → second.eventId = some e →
      ((run {} calls).after first).counters ≠ (run {} calls).counters →
      (run {} (calls ++ first :: between)).after second =
        run {} (calls ++ first :: between)) ∧
    (∀ calls more, (∀ w, (run {} calls).p2pCounters w ≤ (run {} (calls ++ more)).p2pCounters w) ∧
      (run {} calls).totalP2pEvents ≤ (run {} (calls ++ more)).totalP2pEvents ∧
      (run {} calls).totalP2pTasks ≤ (run {} (calls ++ more)).totalP2pTasks) ∧
    (∀ calls call e, ((run {} calls).perform call).1 = .error e →
      (run {} calls).after call = run {} calls) ∧
    (∀ calls snapshots snapshots', (∀ snapshot, snapshot ∈ snapshots ↔ snapshot ∈ snapshots') →
      let c := run {} (calls ++ snapshotCalls snapshots)
      let c' := run {} (calls ++ snapshotCalls snapshots')
      (∀ w, c.p2pCounters w = c'.p2pCounters w) ∧ c.totalP2pEvents = c'.totalP2pEvents ∧
        c.totalP2pTasks = c'.totalP2pTasks) := by
  have hagree : ∀ calls, (run {} calls).TotalsAgree := totalsAgree_run totalsAgree_empty
  refine ⟨hagree, ?_, ?_, fun calls call e => after_of_error, ?_⟩
  · intro calls first between second e hfirst hsecond hchanged
    refine after_of_mem_seen hsecond ?_
    -- the first of the two events was recorded, so its id is noted from then on
    obtain hsame | hrecorded := after_cases (run {} calls) first
    · exact absurd (congrArg counters hsame) hchanged
    · rw [run_append, run_cons]
      exact seenEventIds_run_subset _ _ (hrecorded.fresh e hfirst).2
  · intro calls more
    have hle : (run {} calls).p2pCounters ≤ (run {} (calls ++ more)).p2pCounters := by
      rw [run_append]
      exact p2pCounters_le_run _ more
    exact ⟨hle, totals_le_of_p2pCounters_le (hagree _) (hagree _) hle⟩
  · intro calls snapshots snapshots' hsame c c'
    have hcounters : c.p2pCounters = c'.p2pCounters := by
      simp only [c, c', run_append, p2pCounters_run_snapshotCalls]
      refine Joins.absorbAll_congr fun report => ?_
      simp only [List.mem_filter, List.mem_map, hsame]
    have hle := totals_le_of_p2pCounters_le (hagree _) (hagree _) hcounters.le
    have hge := totals_le_of_p2pCounters_le (hagree _) (hagree _) hcounters.ge
    exact ⟨congrFun hcounters, le_antisymm hle.1 hge.1, le_antisymm hle.2 hge.2⟩

end Runs

end StatsCollector

end KVStore
