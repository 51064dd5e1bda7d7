import KVStore.Worker.Balance
import KVStore.Worker.Sharing

/-!
# Whether load balancing comes to rest

`stateAt` are the queues in a sequence of calls, and `transferAt` is what the calls transfer. As
long as the stocks are not spread each transfer goes to a worker with less than five tasks, and
these are finitely many (`unspread_finite`). From spread stocks on there is a sequence in which
every call transfers tasks (`exists_endless`): two workers with eight and seven tasks can send one
task to and fro (`not_transfers_finite_fifteen`).
-/

namespace KVStore

namespace Queues

section

variable {c : Config} {queues : Queues} {calls calls' : ℕ → BalanceCall}

def stateAt (c : Config) (queues : Queues) (calls : ℕ → BalanceCall) : ℕ → Queues
  | 0 => queues
  | n + 1 => ((queues.stateAt c calls n).balanceOnce c (calls n)).1

def transferAt (c : Config) (queues : Queues) (calls : ℕ → BalanceCall) (n : ℕ) :
    Option (WorkerId × List TaskRecord) :=
  ((queues.stateAt c calls n).balanceOnce c (calls n)).2

theorem sound_stateAt (h : queues.Sound c) (hc : c.Connected)
    (hcalls : ∀ n, (calls n).worker ∈ c.workers) (n : ℕ) :
    (queues.stateAt c calls n).Sound c := by
  induction n with
  | zero => exact h
  | succ n ih => exact (balanceOnce_cases ih hc (hcalls n)).1

theorem apart_stateAt (h : queues.Sound c) (happart : queues.Apart c) (hc : c.Connected)
    (hcalls : ∀ n, (calls n).worker ∈ c.workers) (n : ℕ) :
    (queues.stateAt c calls n).Apart c := by
  induction n with
  | zero => exact happart
  | succ n ih => exact ih.balanceOnce (sound_stateAt h hc hcalls n) hc (hcalls n)

theorem deficit_stateAt (h : queues.Sound c) (hc : c.Connected)
    (hcalls : ∀ n, (calls n).worker ∈ c.workers) (n : ℕ) :
    Balancing.deficit limits c.workers.toFinset (queues.stateAt c calls (n + 1)).sizes ≤
        Balancing.deficit limits c.workers.toFinset (queues.stateAt c calls n).sizes ∧
      ((queues.transferAt c calls n).isSome ∧
          ¬ Balancing.Spread limits c.workers.toFinset (queues.stateAt c calls n).sizes →
        Balancing.deficit limits c.workers.toFinset (queues.stateAt c calls (n + 1)).sizes <
          Balancing.deficit limits c.workers.toFinset (queues.stateAt c calls n).sizes) := by
  have hsound := sound_stateAt h hc hcalls n
  rw [stateAt, transferAt]
  obtain ⟨_, ⟨hnone, hsame⟩ | ⟨peer, tasks, _, hgift, hmove⟩⟩ :=
    balanceOnce_cases hsound hc (hcalls n)
  · rw [hsame, hnone]
    exact ⟨le_rfl, fun hsome => by cases hsome.1⟩
  · rw [hmove]
    refine ⟨Balancing.deficit_move_le hgift, fun hunspread => ?_⟩
    refine Balancing.deficit_move_lt hgift (not_le.1 fun hlow => hunspread.2 ?_)
    exact hgift.spread (fun v hv => hsound.size_le (List.mem_toFinset.1 hv)) hlow

theorem sum_stateAt (h : queues.Sound c) (hc : c.Connected)
    (hcalls : ∀ n, (calls n).worker ∈ c.workers) (n : ℕ) :
    ∑ w ∈ c.workers.toFinset, (queues.stateAt c calls n).sizes w =
      ∑ w ∈ c.workers.toFinset, queues.sizes w := by
  induction n with
  | zero => rfl
  | succ n ih =>
      rw [stateAt, ← ih]
      obtain ⟨_, ⟨_, hsame⟩ | ⟨peer, tasks, _, hgift, hmove⟩⟩ :=
        balanceOnce_cases (sound_stateAt h hc hcalls n) hc (hcalls n)
      · rw [hsame]
      · rw [hmove, Balancing.sum_move hgift]

theorem unspread_finite (h : queues.Sound c) (hc : c.Connected)
    (hcalls : ∀ n, (calls n).worker ∈ c.workers) :
    {n | (queues.transferAt c calls n).isSome ∧ ¬ Balancing.Spread limits c.workers.toFinset
        (queues.stateAt c calls n).sizes}.Finite ∧
      {n | (queues.transferAt c calls n).isSome ∧ ¬ Balancing.Spread limits c.workers.toFinset
        (queues.stateAt c calls n).sizes}.ncard ≤
          ∑ w ∈ c.workers.toFinset, (5 - queues.sizes w) :=
  Balancing.finite_of_decreasing
    (f := fun n => Balancing.deficit limits c.workers.toFinset (queues.stateAt c calls n).sizes)
    (fun n => (deficit_stateAt h hc hcalls n).1) fun n => (deficit_stateAt h hc hcalls n).2

/-- Where the stocks are never spread all transfers are finitely many. -/
theorem finite_of_not_spread (h : queues.Sound c) (hc : c.Connected)
    (hcalls : ∀ n, (calls n).worker ∈ c.workers)
    (hunspread : ∀ n, ¬ Balancing.Spread limits c.workers.toFinset
      (queues.stateAt c calls n).sizes) :
    {n | (queues.transferAt c calls n).isSome}.Finite ∧
      {n | (queues.transferAt c calls n).isSome}.ncard ≤
        ∑ w ∈ c.workers.toFinset, (5 - queues.sizes w) := by
  have hfinite := unspread_finite h hc hcalls
  simp only [hunspread, not_false_eq_true, and_true] at hfinite
  exact hfinite

theorem not_spread_stateAt (h : queues.Sound c) (hc : c.Connected)
    (htotal : ∑ w ∈ c.workers.toFinset, queues.sizes w ≤ 5 * c.workers.length + 2 ∨
      10 * c.workers.length ≤ ∑ w ∈ c.workers.toFinset, queues.sizes w)
    (hcalls : ∀ n, (calls n).worker ∈ c.workers) (n : ℕ) :
    ¬ Balancing.Spread limits c.workers.toFinset (queues.stateAt c calls n).sizes := by
  intro hspread
  have hmin : 5 * _ + 3 ≤ _ := hspread.le_sum
  have hmax : _ < 10 * _ := hspread.sum_lt
  rw [sum_stateAt h hc hcalls, List.toFinset_card_of_nodup hc.nodup] at hmin hmax
  omega

theorem stateAt_add (queues : Queues) (calls : ℕ → BalanceCall) (n m : ℕ) :
    queues.stateAt c calls (n + m) =
      (queues.stateAt c calls n).stateAt c (fun k => calls (n + k)) m := by
  induction m with
  | zero => rfl
  | succ m ih => rw [← Nat.add_assoc, stateAt, stateAt, ih]

theorem stateAt_congr {n : ℕ} (h : ∀ m < n, calls m = calls' m) :
    queues.stateAt c calls n = queues.stateAt c calls' n := by
  induction n with
  | zero => rfl
  | succ n ih =>
      rw [stateAt, stateAt, ih fun m hm => h m (hm.trans n.lt_succ_self), h n n.lt_succ_self]

/-- From spread stocks on there is a sequence in which every call transfers tasks. -/
theorem exists_endless (h : queues.Sound c) (happart : queues.Apart c) (hc : c.Connected)
    (hspread : Balancing.Spread limits c.workers.toFinset queues.sizes) :
    ∃ calls : ℕ → BalanceCall, (∀ n, (calls n).worker ∈ c.workers) ∧
      ∀ n, (queues.transferAt c calls n).isSome := by
  let State := {state : Queues // state.Sound c ∧ state.Apart c ∧
    Balancing.Spread limits c.workers.toFinset state.sizes}
  choose call hworker hsome hnext using fun state : State =>
    exists_transfer state.2.1 state.2.2.1 hc state.2.2.2
  let next : State → State := fun state =>
    ⟨(state.1.balanceOnce c (call state)).1,
      (balanceOnce_cases state.2.1 hc (hworker state)).1,
      state.2.2.1.balanceOnce state.2.1 hc (hworker state), hnext state⟩
  let states : ℕ → State := fun n => next^[n] ⟨queues, h, happart, hspread⟩
  have hstates : ∀ n, queues.stateAt c (fun n => call (states n)) n = (states n).1 := by
    intro n
    induction n with
    | zero => rfl
    | succ n ih =>
        have hstep : states (n + 1) = next (states n) := Function.iterate_succ_apply' next n _
        rw [stateAt, ih, hstep]
  refine ⟨fun n => call (states n), fun n => hworker _, fun n => ?_⟩
  rw [transferAt, hstates]
  exact hsome _

/-- A sequence that leads to spread stocks can be continued so that all further calls transfer
tasks. -/
theorem exists_endless_from (h : queues.Sound c) (happart : queues.Apart c) (hc : c.Connected)
    (hcalls : ∀ n, (calls n).worker ∈ c.workers) {n : ℕ}
    (hspread : Balancing.Spread limits c.workers.toFinset (queues.stateAt c calls n).sizes) :
    ∃ joined : ℕ → BalanceCall, (∀ m, (joined m).worker ∈ c.workers) ∧
      ∀ m, (queues.transferAt c joined (n + m)).isSome := by
  obtain ⟨endless, hendless, hsome⟩ := exists_endless (sound_stateAt h hc hcalls n)
    (apart_stateAt h happart hc hcalls n) hc hspread
  let joined : ℕ → BalanceCall := fun m => if m < n then calls m else endless (m - n)
  have hafter : ∀ m, joined (n + m) = endless m := by
    intro m
    have hnot : ¬ n + m < n := by omega
    simp only [joined]
    rw [if_neg hnot, Nat.add_sub_cancel_left]
  have hbefore : queues.stateAt c joined n = queues.stateAt c calls n :=
    stateAt_congr fun k hk => if_pos hk
  refine ⟨joined, fun m => ?_, fun m => ?_⟩
  · simp only [joined]
    split_ifs
    · exact hcalls m
    · exact hendless (m - n)
  · rw [transferAt, stateAt_add, hbefore, hafter, funext hafter]
    exact hsome m

/-- **Load balancing comes to rest** unless the workers come to hold at least five tasks each,
one of them eight or more, and not all of them ten. -/
theorem transfers_finite (hc : c.Connected) (h : queues.Sound c) :
    (∀ calls : ℕ → BalanceCall, (∀ n, (calls n).worker ∈ c.workers) →
      {n | (queues.transferAt c calls n).isSome ∧ ¬ Balancing.Spread limits
          c.workers.toFinset (queues.stateAt c calls n).sizes}.Finite ∧
        {n | (queues.transferAt c calls n).isSome ∧ ¬ Balancing.Spread limits
          c.workers.toFinset (queues.stateAt c calls n).sizes}.ncard ≤
            ∑ w ∈ c.workers.toFinset, (5 - queues.sizes w)) ∧
    (∑ w ∈ c.workers.toFinset, queues.sizes w ≤ 5 * c.workers.length + 2 ∨
        10 * c.workers.length ≤ ∑ w ∈ c.workers.toFinset, queues.sizes w →
      ∀ calls : ℕ → BalanceCall, (∀ n, (calls n).worker ∈ c.workers) →
        {n | (queues.transferAt c calls n).isSome}.Finite ∧
          {n | (queues.transferAt c calls n).isSome}.ncard ≤
            ∑ w ∈ c.workers.toFinset, (5 - queues.sizes w)) ∧
    (queues.Apart c →
      ((∀ calls : ℕ → BalanceCall, (∀ n, (calls n).worker ∈ c.workers) →
        {n | (queues.transferAt c calls n).isSome}.Finite) ↔
      ∀ calls : ℕ → BalanceCall, (∀ n, (calls n).worker ∈ c.workers) → ∀ n,
        ¬ Balancing.Spread limits c.workers.toFinset (queues.stateAt c calls n).sizes)) := by
  refine ⟨fun calls hcalls => unspread_finite h hc hcalls, fun htotal calls hcalls =>
    finite_of_not_spread h hc hcalls (not_spread_stateAt h hc htotal hcalls),
    fun happart => ⟨fun hfinite calls hcalls n hspread => ?_, fun hunspread calls hcalls =>
      (finite_of_not_spread h hc hcalls (hunspread calls hcalls)).1⟩⟩
  obtain ⟨joined, hjoined, hsome⟩ := exists_endless_from h happart hc hcalls hspread
  exact Set.infinite_of_injective_forall_mem (f := fun m => n + m)
    (fun _ _ heq => Nat.add_left_cancel heq) hsome (hfinite joined hjoined)

end

/-! ### Two workers with fifteen tasks -/

def twoWorkers : Config where
  workers := ["worker1", "worker2"]
  peers := fun _ => ["worker1", "worker2"]

def busyQueue : ReadyQueue TaskRecord :=
  let tasks := ["i", "j", "k", "l", "m", "n", "o"].map fun t =>
    { taskId := t, key := "0000", value := 1 }
  { capacity := 10
    normal := tasks
    activeTaskIds := (tasks.map TaskRecord.taskId).toFinset }

/-- The first worker is overloaded, the other one is not. -/
def fifteen : Queues := fun w =>
  if w = "worker1" then P2PService.overloadedQueue else busyQueue

/-- The two workers take turns, and each time one task is to be transferred. -/
def turns (n : ℕ) : BalanceCall where
  worker := if n % 2 = 0 then "worker1" else "worker2"
  count := 1
  count_mem := one_mem_counts
  now := .finite 0

theorem connected_twoWorkers : twoWorkers.Connected where
  nodup := by decide
  two_le := by decide
  named := by decide
  mem_peersOf w _ v := by simp [twoWorkers, Config.peersOf, List.mem_filter]

theorem sound_fifteen : fifteen.Sound twoWorkers := by
  intro w _
  rw [fifteen]
  split_ifs with hw
  · exact ⟨P2PService.wellFormed_overloadedQueue, rfl⟩
  · refine ⟨⟨by decide, fun t => ?_, by decide, fun t task p h => by cases h⟩, rfl⟩
    simp [busyQueue, ReadyQueue.ids, HasTaskId.taskId]

theorem apart_fifteen : fifteen.Apart twoWorkers where
  reserved w _ := by
    rw [fifteen]
    split_ifs <;> rfl
  alone := by decide +kernel

theorem turns_mem (n : ℕ) : (turns n).worker ∈ twoWorkers.workers := by
  rw [turns]
  split_ifs <;> decide

theorem turns_succ_iff (n : ℕ) {v : WorkerId} (hv : v ∈ twoWorkers.workers) :
    v = (turns (n + 1)).worker ↔ v ≠ (turns n).worker := by
  have hcases : v = "worker1" ∨ v = "worker2" := by
    simpa [twoWorkers] using hv
  rw [turns, turns]
  rcases Nat.mod_two_eq_zero_or_one n with heven | hodd
  · have hnext : ¬ (n + 1) % 2 = 0 := by omega
    rw [if_pos heven, if_neg hnext]
    rcases hcases with rfl | rfl <;> decide
  · have hnot : ¬ n % 2 = 0 := by omega
    have hnext : (n + 1) % 2 = 0 := by omega
    rw [if_neg hnot, if_pos hnext]
    rcases hcases with rfl | rfl <;> decide

theorem turns_transfer {queues : Queues} {n : ℕ} (h : queues.Sound twoWorkers)
    (happart : queues.Apart twoWorkers) (height : queues.sizes (turns n).worker = 8)
    (hseven : queues.sizes (turns (n + 1)).worker = 7) :
    (queues.balanceOnce twoWorkers (turns n)).2.isSome ∧
      (queues.balanceOnce twoWorkers (turns n)).1.sizes (turns n).worker = 7 ∧
      (queues.balanceOnce twoWorkers (turns n)).1.sizes (turns (n + 1)).worker = 8 := by
  have hne := (turns_succ_iff n (turns_mem (n + 1))).1 rfl
  obtain ⟨available, peer, hleast⟩ := exists_least h connected_twoWorkers (turns_mem n)
    (turns_mem (n + 1)) hne (by omega)
  obtain ⟨hpeer, hother, _⟩ := least_statuses h connected_twoWorkers (turns_mem n) hleast
  rw [← turns_succ_iff n hpeer] at hother
  subst hother
  obtain ⟨hsome, hmove⟩ := balanceOnce_of_apart h happart connected_twoWorkers (turns_mem n)
    height.ge hleast (by rw [hseven]; exact Nat.le_of_ble_eq_true rfl)
  refine ⟨hsome, ?_, ?_⟩
  · rw [hmove, Balancing.move_giver hne, height]
    rfl
  · rw [hmove, Balancing.move_receiver, hseven]
    rfl

theorem sizes_turns (n : ℕ) :
    (fifteen.stateAt twoWorkers turns n).sizes (turns n).worker = 8 ∧
      (fifteen.stateAt twoWorkers turns n).sizes (turns (n + 1)).worker = 7 := by
  induction n with
  | zero => decide
  | succ n ih =>
      obtain ⟨_, hseven, height⟩ := turns_transfer
        (sound_stateAt sound_fifteen connected_twoWorkers turns_mem n)
        (apart_stateAt sound_fifteen apart_fifteen connected_twoWorkers turns_mem n) ih.1 ih.2
      have hagain : (turns n).worker = (turns (n + 1 + 1)).worker :=
        (turns_succ_iff (n + 1) (turns_mem n)).2
          ((turns_succ_iff n (turns_mem (n + 1))).1 rfl).symm
      exact ⟨height, hagain ▸ hseven⟩

/-- One task goes to and fro for ever. -/
theorem not_transfers_finite_fifteen :
    twoWorkers.Connected ∧ fifteen.Sound twoWorkers ∧
      (∀ n, (turns n).worker ∈ twoWorkers.workers) ∧
      (∀ n, (fifteen.transferAt twoWorkers turns n).isSome) ∧
      ¬ {n | (fifteen.transferAt twoWorkers turns n).isSome}.Finite := by
  have hsome : ∀ n, (fifteen.transferAt twoWorkers turns n).isSome := fun n =>
    (turns_transfer (sound_stateAt sound_fifteen connected_twoWorkers turns_mem n)
      (apart_stateAt sound_fifteen apart_fifteen connected_twoWorkers turns_mem n)
      (sizes_turns n).1 (sizes_turns n).2).1
  refine ⟨connected_twoWorkers, sound_fifteen, turns_mem, hsome, ?_⟩
  simp only [hsome, Set.ofPred_true]
  exact Set.infinite_univ

theorem transfers_finite_fifteen :
    (∀ calls : ℕ → BalanceCall, (∀ n, (calls n).worker ∈ twoWorkers.workers) →
      {n | (fifteen.transferAt twoWorkers calls n).isSome ∧ ¬ Balancing.Spread limits
          twoWorkers.workers.toFinset (fifteen.stateAt twoWorkers calls n).sizes}.Finite ∧
        {n | (fifteen.transferAt twoWorkers calls n).isSome ∧ ¬ Balancing.Spread limits
          twoWorkers.workers.toFinset (fifteen.stateAt twoWorkers calls n).sizes}.ncard ≤
            ∑ w ∈ twoWorkers.workers.toFinset, (5 - fifteen.sizes w)) ∧
    (∑ w ∈ twoWorkers.workers.toFinset, fifteen.sizes w ≤ 5 * twoWorkers.workers.length + 2 ∨
        10 * twoWorkers.workers.length ≤ ∑ w ∈ twoWorkers.workers.toFinset, fifteen.sizes w →
      ∀ calls : ℕ → BalanceCall, (∀ n, (calls n).worker ∈ twoWorkers.workers) →
        {n | (fifteen.transferAt twoWorkers calls n).isSome}.Finite ∧
          {n | (fifteen.transferAt twoWorkers calls n).isSome}.ncard ≤
            ∑ w ∈ twoWorkers.workers.toFinset, (5 - fifteen.sizes w)) ∧
    (fifteen.Apart twoWorkers →
      ((∀ calls : ℕ → BalanceCall, (∀ n, (calls n).worker ∈ twoWorkers.workers) →
        {n | (fifteen.transferAt twoWorkers calls n).isSome}.Finite) ↔
      ∀ calls : ℕ → BalanceCall, (∀ n, (calls n).worker ∈ twoWorkers.workers) → ∀ n,
        ¬ Balancing.Spread limits twoWorkers.workers.toFinset
          (fifteen.stateAt twoWorkers calls n).sizes)) :=
  transfers_finite connected_twoWorkers sound_fifteen

end Queues

end KVStore
