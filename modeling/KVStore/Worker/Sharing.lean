import KVStore.Library.Balancing
import KVStore.Worker.Candidates
import KVStore.Worker.P2P
import KVStore.Worker.Requests

/-!
# Load balancing among the workers

`Queues` are the ready queues of all workers. `balanceOnce` is a call of `balance_once` during
which every request is answered: the peers report their free room, and the receiver of the
transfer runs its part of `_handle_connection`. A worker with at least eight tasks shares up to
three with a peer that has most room, so the queue sizes are stocks that are balanced by
thresholds, and `balanceOnce_cases` says that a call makes one gift or none.
-/

namespace KVStore

open Python HasTaskId

abbrev Queues := WorkerId → ReadyQueue TaskRecord

/-- A call of `balance_once`: who makes it, the draw of `randint`, and the clock reading of
the receiver, if there is one. -/
structure BalanceCall where
  worker : WorkerId
  count : ℕ
  count_mem : MIN_TRANSFER_COUNT ≤ count ∧ count ≤ MAX_TRANSFER_COUNT
  now : PyFloat

namespace Queues

def statuses (queues : Queues) (peers : List WorkerId) : List (ℤ × WorkerId) :=
  peers.filterMap fun peer =>
    match (queues peer).snapshotStatus peer with
    | .error _ => none
    | .ok status =>
        if 0 < status.availableCapacity then some (status.availableCapacity, peer) else none

/-- The tasks go to `peer`, which accepts all of them or none. -/
def transfer (queues : Queues) (w peer : WorkerId) (sender : ReadyQueue TaskRecord)
    (reserved : List TaskRecord) (now : PyFloat) : Queues × Option (WorkerId × List TaskRecord) :=
  let taskIds := reserved.map TaskRecord.taskId
  let (result, receiver) := (queues peer).tryEnqueueMany (reserved.map (TaskRecord.restamp now))
  if result.accepted = true then
    (Function.update (Function.update queues peer receiver) w (sender.confirmAll taskIds),
      some (peer, reserved))
  else
    (Function.update queues w (sender.releaseAll taskIds), none)

def balanceOnce (c : Config) (queues : Queues) (call : BalanceCall) :
    Queues × Option (WorkerId × List TaskRecord) :=
  let w := call.worker
  match (queues w).snapshotStatus w with
  | .error _ => (queues, none)
  | .ok status =>
      if status.estimatedWaitSeconds ≤ OVERLOAD_WAIT_SECONDS then
        (queues, none)
      else
        match Heap.least Node.peerLe (queues.statuses (c.peersOf w)) with
        | none => (queues, none)
        | some (available, peer) =>
            match (queues w).peekTransferCandidates (min (call.count : ℤ) available) with
            | .error _ => (queues, none)
            | .ok candidates =>
                let (reserved, sender) :=
                  (queues w).reserveAll (candidates.map TaskRecord.taskId)
                if reserved = [] then (Function.update queues w sender, none)
                else queues.transfer w peer sender reserved call.now

def sizes (queues : Queues) (w : WorkerId) : ℕ := (queues w).sizeLocked

/-- Every queue is what its methods keep it, and has the capacity that is required. -/
def Sound (c : Config) (queues : Queues) : Prop :=
  ∀ w ∈ c.workers, (queues w).WellFormed ∧
    (queues w).capacity = DEFAULT_QUEUE_CAPACITY.toNat

/-- No task is reserved, and none is with two workers. -/
structure Apart (c : Config) (queues : Queues) : Prop where
  reserved : ∀ w ∈ c.workers, (queues w).reserved = ∅
  alone : ∀ v ∈ c.workers, ∀ w ∈ c.workers, ∀ t ∈ (queues v).activeTaskIds,
    t ∈ (queues w).activeTaskIds → v = w

end Queues

/-- There are at least two workers, and each is a peer of all others. -/
structure Config.Connected (c : Config) : Prop where
  nodup : c.workers.Nodup
  two_le : 2 ≤ c.workers.length
  named : ∀ w ∈ c.workers, w ≠ ""
  mem_peersOf : ∀ w ∈ c.workers, ∀ v, v ∈ c.peersOf w ↔ v ∈ c.workers ∧ v ≠ w

/-- From eight tasks on the estimated waiting time exceeds 15 seconds. -/
def limits : Balancing.Limits where
  capacity := 10
  high := 8
  batch := MAX_TRANSFER_COUNT
  high_le := by decide
  batch_le := by decide
  batch_pos := by decide

/-! ### What a call does -/

instance : Std.Total Node.peerLe where
  total a b := by
    unfold Node.peerLe
    rcases lt_trichotomy a.1 b.1 with hlt | heq | hgt
    · exact .inr (.inl hlt)
    · rcases le_total a.2 b.2 with hle | hle
      · exact .inl (.inr ⟨heq, hle⟩)
      · exact .inr (.inr ⟨heq.symm, hle⟩)
    · exact .inl (.inl hgt)

instance : IsTrans (ℤ × WorkerId) Node.peerLe where
  trans a b c hab hbc := by
    rcases hab with hab | ⟨hab, hable⟩
    · rcases hbc with hbc | ⟨hbc, _⟩
      · exact .inl (hbc.trans hab)
      · exact .inl (hbc ▸ hab)
    · rcases hbc with hbc | ⟨hbc, hbcle⟩
      · exact .inl (hab ▸ hbc)
      · exact .inr ⟨hab.trans hbc, hable.trans hbcle⟩

namespace Queues

section

variable {c : Config} {queues : Queues} {w peer : WorkerId} {call : BalanceCall}

theorem Sound.exists_status (h : queues.Sound c) (hc : c.Connected) (hw : w ∈ c.workers) :
    ∃ status, (queues w).snapshotStatus w = .ok status ∧
      status.availableCapacity = 10 - queues.sizes w ∧
      status.estimatedWaitSeconds = 2 * queues.sizes w := by
  obtain ⟨hwell, hcapacity⟩ := h w hw
  have hten : ((queues w).capacity : ℤ) = DEFAULT_QUEUE_CAPACITY := by
    rw [hcapacity]
    rfl
  refine ⟨_, hwell.snapshotStatus hten (hc.named w hw), ?_, ?_⟩
  · rw [WorkerStatus.availableCapacity, hten]
    rfl
  · rw [WorkerStatus.estimatedWaitSeconds, Int.mul_comm]
    rfl

theorem Sound.size_le (h : queues.Sound c) (hw : w ∈ c.workers) : queues.sizes w ≤ 10 := by
  obtain ⟨hwell, hcapacity⟩ := h w hw
  have hsize := hwell.size_le
  rw [hcapacity] at hsize
  exact hsize

theorem mem_statuses (h : queues.Sound c) (hc : c.Connected) (hw : w ∈ c.workers)
    {available : ℤ} : (available, peer) ∈ queues.statuses (c.peersOf w) ↔
      peer ∈ c.workers ∧ peer ≠ w ∧ queues.sizes peer < 10 ∧
        available = 10 - queues.sizes peer := by
  rw [statuses, List.mem_filterMap]
  constructor
  · rintro ⟨v, hv, hstatus⟩
    obtain ⟨hmem, hne⟩ := (hc.mem_peersOf w hw v).1 hv
    obtain ⟨status, hok, havailable, _⟩ := h.exists_status hc hmem
    rw [hok] at hstatus
    dsimp only at hstatus
    rw [havailable, Option.ite_none_right_eq_some] at hstatus
    obtain ⟨hroom, heq⟩ := hstatus
    cases heq
    exact ⟨hmem, hne, by omega, rfl⟩
  · rintro ⟨hmem, hne, hroom, rfl⟩
    refine ⟨peer, (hc.mem_peersOf w hw peer).2 ⟨hmem, hne⟩, ?_⟩
    obtain ⟨status, hok, havailable, _⟩ := h.exists_status hc hmem
    rw [hok]
    dsimp only
    rw [havailable, if_pos (by omega)]

theorem least_statuses (h : queues.Sound c) (hc : c.Connected) (hw : w ∈ c.workers)
    {available : ℤ}
    (hleast : Heap.least Node.peerLe (queues.statuses (c.peersOf w)) = some (available, peer)) :
    peer ∈ c.workers ∧ peer ≠ w ∧ queues.sizes peer < 10 ∧ available = 10 - queues.sizes peer ∧
      ∀ v ∈ c.workers, v ≠ w → queues.sizes peer ≤ queues.sizes v := by
  obtain ⟨hmem, hne, hroom, havailable⟩ :=
    (mem_statuses h hc hw).1 (Heap.mem_of_least_eq_some _ hleast)
  refine ⟨hmem, hne, hroom, havailable, fun v hv hvw => ?_⟩
  by_cases hfull : queues.sizes v < 10
  · have hrel := Heap.rel_of_least_eq_some Node.peerLe hleast
      ((mem_statuses h hc hw).2 ⟨hv, hvw, hfull, rfl⟩)
    unfold Node.peerLe at hrel
    dsimp only at hrel
    omega
  · have hle := h.size_le hv
    omega

theorem sizes_update (queues : Queues) (w : WorkerId) (q : ReadyQueue TaskRecord) :
    sizes (Function.update queues w q) = Function.update queues.sizes w q.sizeLocked := by
  funext v
  by_cases hv : v = w
  · rw [hv, sizes, Function.update_self, Function.update_self]
  · rw [sizes, Function.update_of_ne hv, Function.update_of_ne hv, sizes]

theorem Sound.update (h : queues.Sound c) {q : ReadyQueue TaskRecord} (hwell : q.WellFormed)
    (hcapacity : q.capacity = DEFAULT_QUEUE_CAPACITY.toNat) :
    Sound c (Function.update queues w q) := by
  intro v hv
  by_cases hvw : v = w
  · rw [hvw, Function.update_self]
    exact ⟨hwell, hcapacity⟩
  · rw [Function.update_of_ne hvw]
    exact h v hv

theorem map_taskId_restamp (now : PyFloat) (tasks : List TaskRecord) :
    (tasks.map (TaskRecord.restamp now)).map taskId = tasks.map taskId := by
  rw [List.map_map]
  rfl

theorem transfer_of_ne {v : WorkerId} (hw : v ≠ w) (hpeer : v ≠ peer)
    {sender : ReadyQueue TaskRecord} {reserved : List TaskRecord} {now : PyFloat} :
    (queues.transfer w peer sender reserved now).1 v = queues v := by
  rw [transfer]
  dsimp only
  split_ifs
  · exact (Function.update_of_ne hw _ _).trans (Function.update_of_ne hpeer _ _)
  · exact Function.update_of_ne hw _ _

theorem transfer_of_accepted (h : queues.Sound c) (hw : w ∈ c.workers) {count : ℤ}
    {now : PyFloat} (haccepted : ((queues peer).tryEnqueueMany
      (((queues w).candidates count).map (TaskRecord.restamp now))).1.accepted = true) :
    queues.transfer w peer ((queues w).setAside count) ((queues w).candidates count) now =
      (Function.update (Function.update queues peer ((queues peer).tryEnqueueMany
          (((queues w).candidates count).map (TaskRecord.restamp now))).2) w
        ((queues w).without count), some (peer, (queues w).candidates count)) := by
  have hconfirm : ((queues w).setAside count).confirmAll
      (((queues w).candidates count).map TaskRecord.taskId) = (queues w).without count :=
    ReadyQueue.confirmAll_setAside (h w hw).1 count
  rw [transfer]
  dsimp only
  rw [if_pos haccepted, hconfirm]

theorem transfer_cases (h : queues.Sound c) (hw : w ∈ c.workers) (hpeer : peer ∈ c.workers)
    (hne : peer ≠ w) (count : ℤ) (now : PyFloat)
    {next : Queues × Option (WorkerId × List TaskRecord)}
    (hnext : queues.transfer w peer ((queues w).setAside count) ((queues w).candidates count)
      now = next) :
    next.1.Sound c ∧
      ((next.2 = none ∧ next.1.sizes = queues.sizes) ∨
        (next.2 = some (peer, (queues w).candidates count) ∧ next.1.sizes =
          Balancing.move queues.sizes w peer ((queues w).candidates count).length)) := by
  obtain ⟨hwell, hcapacity⟩ := h w hw
  obtain ⟨hwellPeer, hcapacityPeer⟩ := h peer hpeer
  by_cases haccepted : ((queues peer).tryEnqueueMany
      (((queues w).candidates count).map (TaskRecord.restamp now))).1.accepted = true
  · rw [transfer_of_accepted h hw haccepted] at hnext
    subst hnext
    obtain ⟨hwell', hsize', hcapacity', _⟩ := hwellPeer.accepted haccepted
    refine ⟨(h.update hwell' (hcapacity'.trans hcapacityPeer)).update (hwell.without count)
      hcapacity, .inr ⟨rfl, ?_⟩⟩
    have hleft := (queues w).sizeLocked_without count
    rw [sizes_update, sizes_update, hsize', List.length_map, Balancing.move,
      Function.update_comm hne]
    congr 2
    exact Nat.eq_sub_of_add_eq hleft
  · rw [transfer] at hnext
    dsimp only at hnext
    rw [if_neg haccepted] at hnext
    subst hnext
    obtain ⟨hwell', hsize', hcapacity', _⟩ := hwell.released count
    refine ⟨h.update hwell' (hcapacity'.trans hcapacity), .inl ⟨rfl, ?_⟩⟩
    rw [sizes_update]
    refine Function.update_eq_self_iff.2 ?_
    exact hsize'

theorem Sound.reserveAll (h : queues.Sound c) (hw : w ∈ c.workers) (count : ℤ) :
    (queues w).reserveAll (((queues w).candidates count).map TaskRecord.taskId) =
      ((queues w).candidates count, (queues w).setAside count) :=
  ReadyQueue.reserveAll_candidates (h w hw).1 count

theorem balanceOnce_of_lt (h : queues.Sound c) (hc : c.Connected) (hw : call.worker ∈ c.workers)
    (hfew : queues.sizes call.worker < 8) : queues.balanceOnce c call = (queues, none) := by
  obtain ⟨status, hok, _, hwait⟩ := h.exists_status hc hw
  rw [balanceOnce]
  dsimp only
  rw [hok]
  dsimp only
  rw [hwait, OVERLOAD_WAIT_SECONDS, if_pos (by omega)]

theorem balanceOnce_of_none (h : queues.Sound c) (hc : c.Connected) (hw : call.worker ∈ c.workers)
    (hleast : Heap.least Node.peerLe (queues.statuses (c.peersOf call.worker)) = none) :
    queues.balanceOnce c call = (queues, none) := by
  obtain ⟨status, hok, _⟩ := h.exists_status hc hw
  rw [balanceOnce]
  dsimp only
  rw [hok, hleast]
  dsimp only
  exact ite_self _

theorem balanceOnce_of_some (h : queues.Sound c) (hc : c.Connected) (hw : call.worker ∈ c.workers)
    (hmany : 8 ≤ queues.sizes call.worker) {available : ℤ}
    (hleast : Heap.least Node.peerLe (queues.statuses (c.peersOf call.worker)) =
      some (available, peer)) :
    queues.balanceOnce c call =
      if (queues call.worker).candidates (min (call.count : ℤ) available) = [] then
        (queues, none)
      else queues.transfer call.worker peer
        ((queues call.worker).setAside (min (call.count : ℤ) available))
        ((queues call.worker).candidates (min (call.count : ℤ) available)) call.now := by
  obtain ⟨status, hok, _, hwait⟩ := h.exists_status hc hw
  obtain ⟨_, _, hroom, havailable, _⟩ := least_statuses h hc hw hleast
  have hone := call.count_mem.1
  rw [MIN_TRANSFER_COUNT] at hone
  have hpos : 0 < min (call.count : ℤ) available := by omega
  rw [balanceOnce]
  dsimp only
  rw [hok]
  dsimp only
  rw [hwait, OVERLOAD_WAIT_SECONDS, if_neg (by omega), hleast]
  dsimp only
  generalize min (call.count : ℤ) available = count at hpos ⊢
  rw [ReadyQueue.peekTransferCandidates_eq hpos]
  dsimp only
  rw [← ReadyQueue.candidates, h.reserveAll hw]
  dsimp only
  split_ifs with hnone
  · rw [ReadyQueue.setAside_of_eq_nil hnone, Function.update_eq_self]
  · rfl

/-- A call makes one gift, or it leaves all sizes as they were. -/
theorem balanceOnce_cases (h : queues.Sound c) (hc : c.Connected)
    (hw : call.worker ∈ c.workers) :
    (queues.balanceOnce c call).1.Sound c ∧
      (((queues.balanceOnce c call).2 = none ∧
          (queues.balanceOnce c call).1.sizes = queues.sizes) ∨
        ∃ peer tasks, (queues.balanceOnce c call).2 = some (peer, tasks) ∧
          Balancing.Gift limits c.workers.toFinset queues.sizes call.worker peer tasks.length ∧
          (queues.balanceOnce c call).1.sizes =
            Balancing.move queues.sizes call.worker peer tasks.length) := by
  rcases Nat.lt_or_ge (queues.sizes call.worker) 8 with hfew | hmany
  · rw [balanceOnce_of_lt h hc hw hfew]
    exact ⟨h, .inl ⟨rfl, rfl⟩⟩
  cases hleast : Heap.least Node.peerLe (queues.statuses (c.peersOf call.worker)) with
  | none =>
      rw [balanceOnce_of_none h hc hw hleast]
      exact ⟨h, .inl ⟨rfl, rfl⟩⟩
  | some selected =>
      obtain ⟨available, peer⟩ := selected
      have hcall := balanceOnce_of_some h hc hw hmany hleast
      split_ifs at hcall with hcandidates
      · rw [hcall]
        exact ⟨h, .inl ⟨rfl, rfl⟩⟩
      obtain ⟨hpeer, hne, hroom, havailable, hmost⟩ := least_statuses h hc hw hleast
      obtain ⟨hsound, hsame | ⟨hsome, hmove⟩⟩ := transfer_cases h hw hpeer hne
        (min (call.count : ℤ) available) call.now hcall.symm
      · exact ⟨hsound, .inl hsame⟩
      · refine ⟨hsound, .inr ⟨peer, _, hsome, ?_, hmove⟩⟩
        have hlength := (queues call.worker).length_candidates (min (call.count : ℤ) available)
        have hpos := List.length_pos_iff.2 hcandidates
        have hthree := call.count_mem.2
        rw [MAX_TRANSFER_COUNT] at hthree
        constructor
        · exact List.mem_toFinset.2 hw
        · exact List.mem_toFinset.2 hpeer
        · exact hne
        · exact hmany
        · exact hpos
        · change _ ≤ 3
          omega
        · change _ ≤ 10
          omega
        · intro v hv hvw
          exact hmost v (List.mem_toFinset.1 hv) hvw

/-! ### Tasks that no two workers hold -/

theorem Apart.handed (h : queues.Apart c) (hw : w ∈ c.workers)
    {sender receiver : ReadyQueue TaskRecord} {ids : Finset TaskId}
    (hids : ids ⊆ (queues w).activeTaskIds)
    (hsender : sender.activeTaskIds = (queues w).activeTaskIds \ ids)
    (hreceiver : receiver.activeTaskIds = ids ∪ (queues peer).activeTaskIds)
    (hreservedSender : sender.reserved = ∅) (hreservedReceiver : receiver.reserved = ∅) :
    Apart c (Function.update (Function.update queues peer receiver) w sender) := by
  have hkey : ∀ v ∈ c.workers, ∀ t ∈ (Function.update (Function.update queues peer receiver) w
      sender v).activeTaskIds,
        (t ∈ ids ∧ v = peer) ∨ (t ∉ ids ∧ t ∈ (queues v).activeTaskIds) := by
    intro v hv t ht
    by_cases hvw : v = w
    · rw [hvw, Function.update_self, hsender, Finset.mem_sdiff] at ht
      exact .inr ⟨ht.2, hvw ▸ ht.1⟩
    · rw [Function.update_of_ne hvw] at ht
      by_cases hmem : t ∈ ids
      · by_cases hvp : v = peer
        · exact .inl ⟨hmem, hvp⟩
        · rw [Function.update_of_ne hvp] at ht
          exact absurd (h.alone v hv w hw t ht (hids hmem)) hvw
      · by_cases hvp : v = peer
        · rw [hvp, Function.update_self, hreceiver, Finset.mem_union] at ht
          exact .inr ⟨hmem, hvp ▸ ht.resolve_left hmem⟩
        · rw [Function.update_of_ne hvp] at ht
          exact .inr ⟨hmem, ht⟩
  constructor
  · intro v hv
    by_cases hvw : v = w
    · rw [hvw, Function.update_self]
      exact hreservedSender
    · rw [Function.update_of_ne hvw]
      by_cases hvp : v = peer
      · rw [hvp, Function.update_self]
        exact hreservedReceiver
      · rw [Function.update_of_ne hvp]
        exact h.reserved v hv
  · intro v hv u hu t htv htu
    rcases hkey v hv t htv with ⟨hmem, hvp⟩ | ⟨hnot, htv⟩
    · rcases hkey u hu t htu with ⟨_, hup⟩ | ⟨hnot, _⟩
      · exact hvp.trans hup.symm
      · exact absurd hmem hnot
    · rcases hkey u hu t htu with ⟨hmem, _⟩ | ⟨_, htu⟩
      · exact absurd hmem hnot
      · exact h.alone v hv u hu t htv htu

theorem candidates_subset (h : queues.Sound c) (hw : w ∈ c.workers) (count : ℤ) :
    (((queues w).candidates count).map taskId).toFinset ⊆ (queues w).activeTaskIds := by
  intro t ht
  rw [(h w hw).1.mem_active, ((queues w).ids_perm_without count).mem_iff]
  exact List.mem_append_left _ (List.mem_toFinset.1 ht)

theorem Apart.transfer (h : queues.Apart c) (hsound : queues.Sound c) (hw : w ∈ c.workers)
    (hpeer : peer ∈ c.workers) (count : ℤ) (now : PyFloat) :
    (queues.transfer w peer ((queues w).setAside count) ((queues w).candidates count)
      now).1.Apart c := by
  by_cases haccepted : ((queues peer).tryEnqueueMany
      (((queues w).candidates count).map (TaskRecord.restamp now))).1.accepted = true
  · rw [transfer_of_accepted hsound hw haccepted]
    obtain ⟨_, _, _, hreserved, hactive⟩ := (hsound peer hpeer).1.accepted haccepted
    rw [map_taskId_restamp] at hactive
    exact h.handed hw (candidates_subset hsound hw count) rfl hactive (h.reserved w hw)
      (hreserved.trans (h.reserved peer hpeer))
  · rw [Queues.transfer]
    dsimp only
    rw [if_neg haccepted]
    obtain ⟨_, _, _, hreserved, hactive⟩ := (hsound w hw).1.released count
    dsimp only
    have hsame := h.handed hw (Finset.empty_subset _) (hactive.trans Finset.sdiff_empty.symm)
      (Finset.empty_union (queues peer).activeTaskIds).symm
      (hreserved.trans (h.reserved w hw)) (h.reserved peer hpeer)
    rw [Function.update_eq_self] at hsame
    exact hsame

theorem Apart.balanceOnce (h : queues.Apart c) (hsound : queues.Sound c) (hc : c.Connected)
    (hw : call.worker ∈ c.workers) : (queues.balanceOnce c call).1.Apart c := by
  rcases Nat.lt_or_ge (queues.sizes call.worker) 8 with hfew | hmany
  · rw [balanceOnce_of_lt hsound hc hw hfew]
    exact h
  cases hleast : Heap.least Node.peerLe (queues.statuses (c.peersOf call.worker)) with
  | none =>
      rw [balanceOnce_of_none hsound hc hw hleast]
      exact h
  | some selected =>
      obtain ⟨hpeer, _⟩ := least_statuses hsound hc hw hleast
      rw [balanceOnce_of_some hsound hc hw hmany hleast]
      split_ifs with hcandidates
      · exact h
      · exact h.transfer hsound hw hpeer _ _

theorem accepted_of_apart (h : queues.Sound c) (happart : queues.Apart c) (hw : w ∈ c.workers)
    (hpeer : peer ∈ c.workers) (hne : peer ≠ w) {count : ℤ} (now : PyFloat)
    (hfits : queues.sizes peer + ((queues w).candidates count).length ≤ 10) :
    ((queues peer).tryEnqueueMany
      (((queues w).candidates count).map (TaskRecord.restamp now))).1.accepted = true := by
  have hids := (h w hw).1.nodup
  rw [((queues w).ids_perm_without count).nodup_iff] at hids
  refine ReadyQueue.accepted_of_new ?_ ?_ ?_
  · rw [map_taskId_restamp]
    exact hids.of_append_left
  · intro t ht hactive
    rw [map_taskId_restamp] at ht
    have hmem := candidates_subset h hw count (List.mem_toFinset.2 ht)
    exact hne (happart.alone peer hpeer w hw t hactive hmem)
  · rw [List.length_map, (h peer hpeer).2]
    exact hfits

/-- An overloaded worker transfers as many tasks as it draws, if they fit. -/
theorem balanceOnce_of_apart (h : queues.Sound c) (happart : queues.Apart c) (hc : c.Connected)
    (hw : call.worker ∈ c.workers) (hmany : 8 ≤ queues.sizes call.worker) {available : ℤ}
    (hleast : Heap.least Node.peerLe (queues.statuses (c.peersOf call.worker)) =
      some (available, peer)) (hfits : queues.sizes peer + call.count ≤ 10) :
    (queues.balanceOnce c call).2.isSome ∧ (queues.balanceOnce c call).1.sizes =
      Balancing.move queues.sizes call.worker peer call.count := by
  obtain ⟨hpeer, hne, hroom, havailable, _⟩ := least_statuses h hc hw hleast
  have hcount := call.count_mem
  rw [MIN_TRANSFER_COUNT, MAX_TRANSFER_COUNT] at hcount
  have hmin : min (call.count : ℤ) available = call.count := by omega
  have hlength : ((queues call.worker).candidates call.count).length = call.count := by
    have hempty : (queues call.worker).reserved.size = 0 := by
      rw [happart.reserved call.worker hw]
      rfl
    rw [sizes, ReadyQueue.sizeLocked, hempty] at hmany
    rw [ReadyQueue.length_candidates, Int.toNat_natCast]
    omega
  have hcandidates : (queues call.worker).candidates call.count ≠ [] := by
    intro hnil
    rw [hnil] at hlength
    exact absurd hlength (Nat.ne_of_lt hcount.1)
  have hfits' : queues.sizes peer + ((queues call.worker).candidates call.count).length ≤ 10 := by
    rw [hlength]
    exact hfits
  have htransfer := transfer_of_accepted h hw
    (accepted_of_apart h happart hw hpeer hne call.now hfits')
  have hcall : queues.balanceOnce c call = queues.transfer call.worker peer
      ((queues call.worker).setAside call.count) ((queues call.worker).candidates call.count)
      call.now := by
    rw [balanceOnce_of_some h hc hw hmany hleast, hmin, if_neg hcandidates]
  obtain ⟨_, ⟨hnone, _⟩ | ⟨_, hmove⟩⟩ := transfer_cases h hw hpeer hne call.count _ htransfer
  · cases hnone
  · rw [hcall, htransfer]
    exact ⟨rfl, by rw [hmove, hlength]⟩

theorem exists_least (h : queues.Sound c) (hc : c.Connected) (hw : w ∈ c.workers)
    (hpeer : peer ∈ c.workers) (hne : peer ≠ w) (hroom : queues.sizes peer < 10) :
    ∃ available peer, Heap.least Node.peerLe (queues.statuses (c.peersOf w)) =
      some (available, peer) := by
  have hnoted := (mem_statuses h hc hw).2 ⟨hpeer, hne, hroom, rfl⟩
  cases hleast : Heap.least Node.peerLe (queues.statuses (c.peersOf w)) with
  | none =>
      rw [Heap.least_eq_none_iff] at hleast
      rw [hleast] at hnoted
      cases hnoted
  | some selected => exact ⟨selected.1, selected.2, rfl⟩

/-- Where the stocks are spread there is a call that transfers tasks and leaves them so. -/
theorem exists_transfer (h : queues.Sound c) (happart : queues.Apart c) (hc : c.Connected)
    (hspread : Balancing.Spread limits c.workers.toFinset queues.sizes) :
    ∃ call : BalanceCall, call.worker ∈ c.workers ∧ (queues.balanceOnce c call).2.isSome ∧
      Balancing.Spread limits c.workers.toFinset (queues.balanceOnce c call).1.sizes := by
  have hcard : 2 ≤ c.workers.toFinset.card := by
    rw [List.toFinset_card_of_nodup hc.nodup]
    exact hc.two_le
  obtain ⟨w, hw, hmany, v, hv, hvw, hvroom⟩ := hspread.exists_giver hcard
  rw [List.mem_toFinset] at hw hv
  obtain ⟨available, peer, hleast⟩ := exists_least h hc hw hv hvw hvroom
  obtain ⟨hpeer, hne, hroom, _⟩ := least_statuses h hc hw hleast
  obtain ⟨count, hpos, hthree, hfits, hnext⟩ := hspread.exists_batch
    (List.mem_toFinset.2 hw) (List.mem_toFinset.2 hpeer) hne hmany hroom
  let call : BalanceCall := ⟨w, count, ⟨hpos, hthree⟩, .finite 0⟩
  have hworker : call.worker ∈ c.workers := hw
  obtain ⟨hsome, hmove⟩ := balanceOnce_of_apart h happart hc hworker hmany hleast hfits
  exact ⟨call, hw, hsome, hmove ▸ hnext⟩

end

end Queues

end KVStore
