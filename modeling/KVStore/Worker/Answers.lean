import KVStore.Worker.Balance
import KVStore.Worker.PriorityClass
import KVStore.Worker.Sharing

/-!
# A call of `balance_once` whose requests are answered

`Queues.balanceOnce` is what `P2PService.balanceOnce` does to the queues if all requests are
answered (`balanceOnce_answered`): each peer states the room in its queue, and the receiver of the
transfer has run its part of `_handle_connection` and sends its `ACK`.
-/

namespace KVStore

open Python Except HasTaskId

namespace P2PService

/-- The answer of `peer` states the room in its queue. -/
def StatesRoom (queues : Queues) (peer : WorkerId) (response : Message) : Prop :=
  response.messageType = .P2P_STATUS_RESPONSE ∧ response.senderId = peer ∧
    ∃ status, (queues peer).snapshotStatus peer = .ok status ∧
      response.payload.get "available_capacity" = some (.int status.availableCapacity)

/-- All status requests are answered so. -/
def StatusesAnswered (b : Builtins) (json : Json) (around : Surroundings) (queues : Queues) :
    P2PService → List WorkerId → Prop
  | _, [] => True
  | service, peer :: rest =>
      ∃ service' response,
        service.request b json .P2P_STATUS_REQUEST (around.statusId peer)
            [("worker_id", .str service.workerId)] (around.status peer) =
          (service', .ok (some response)) ∧
        StatesRoom queues peer response ∧ StatusesAnswered b json around queues service' rest

/-- The answer to the transfer is the `ACK` for what `receiver` makes of it. -/
def TransferAnswered (b : Builtins) (json : Json) (service : P2PService)
    (around : Surroundings) (peer : WorkerId) (reserved : List TaskRecord)
    (receiver receiver' : P2PService) : Prop :=
  ∃ service' response message payload,
    service.request b json .P2P_TRANSFER around.requestId (transferPayload reserved)
        around.transfer = (service', .ok (some response)) ∧
      message.payload = transferPayload reserved ∧
      receiver.acceptTransfer b message = .ok (receiver', payload) ∧
      response.messageType = .ACK ∧ response.senderId = peer ∧
      response.requestId = around.requestId ∧ response.payload = payload.toDict

section

variable {b : Builtins} {json : Json} {service : P2PService} {around : Surroundings}
variable {queues : Queues} {c : Config} {w peer : WorkerId} {reserved : List TaskRecord}
variable {receiver receiver' : P2PService} {message : Message} {payload : AckPayload}

/-! ### The status requests -/

theorem askPeers_answered {peers : List WorkerId}
    (h : StatusesAnswered b json around queues service peers) (statuses : List (ℤ × WorkerId)) :
    (askPeers b json around service peers statuses).2 =
      .ok (statuses ++ queues.statuses peers) := by
  induction peers generalizing service statuses with
  | nil => exact congrArg Except.ok (List.append_nil _).symm
  | cons peer rest ih =>
      obtain ⟨service', response, hrequest, ⟨htype, hsender, status, hok, hroom⟩, hrest⟩ := h
      have hstated : statedCapacity b peer (some response) =
          .ok (some status.availableCapacity) := by
        rw [statedCapacity, if_pos ⟨htype, hsender⟩, Object.getD, hroom]
        rfl
      have hcons : queues.statuses (peer :: rest) =
          (if 0 < status.availableCapacity then [(status.availableCapacity, peer)] else []) ++
            queues.statuses rest := by
        rw [Queues.statuses, List.filterMap_cons, hok]
        dsimp only
        split_ifs with hpos
        · rfl
        · rfl
      rw [askPeers, hrequest]
      dsimp only
      rw [hstated]
      dsimp only
      rw [ih hrest, hcons]
      split_ifs with hpos
      · rw [List.append_assoc]
      · rfl

/-- The tasks are chosen as `Queues.balanceOnce` chooses them. -/
theorem selectTransfer_answered (h : queues.Sound c) (hc : c.Connected) (hw : w ∈ c.workers)
    (hid : service.workerId = w) (hpeers : service.peers = c.peersOf w)
    (hqueue : service.queue = queues w)
    (hstatuses : StatusesAnswered b json around queues service service.peers) :
    ((∃ service', service.selectTransfer b json around = (service', .ok none) ∧
        service'.queue = queues w) ∧
      ∀ now, queues.balanceOnce c ⟨w, around.count, around.count_mem, now⟩ = (queues, none)) ∨
    ∃ service' peer count, service.selectTransfer b json around =
        (service', .ok (some (peer, (queues w).candidates count))) ∧
      service'.queue = (queues w).setAside count ∧ peer ∈ c.workers ∧ peer ≠ w ∧
      ∀ now, queues.balanceOnce c ⟨w, around.count, around.count_mem, now⟩ =
        queues.transfer w peer ((queues w).setAside count) ((queues w).candidates count) now := by
  obtain ⟨status, hok, _, hwait⟩ := h.exists_status hc hw
  have hselect : service.selectTransfer b json around = _ := rfl
  conv_rhs at hselect => rw [selectTransfer, hqueue, hid, hok]
  dsimp only at hselect
  rw [hwait, OVERLOAD_WAIT_SECONDS] at hselect
  rcases Nat.lt_or_ge (queues.sizes w) 8 with hfew | hmany
  · rw [if_pos (by omega)] at hselect
    exact .inl ⟨⟨service, hselect, hqueue⟩, fun now => Queues.balanceOnce_of_lt h hc hw hfew⟩
  rw [if_neg (by omega)] at hselect
  have hasked := askPeers_answered hstatuses []
  have hkept := queue_askPeers b json around service service.peers []
  generalize askPeers b json around service service.peers [] = result at hselect hasked hkept
  obtain ⟨service', result⟩ := result
  dsimp only at hasked hkept
  subst hasked
  rw [hpeers, List.nil_append] at hselect
  dsimp only at hselect
  cases hleast : Heap.least Node.peerLe (queues.statuses (c.peersOf w)) with
  | none =>
      rw [hleast] at hselect
      exact .inl ⟨⟨service', hselect, hkept.trans hqueue⟩,
        fun now => Queues.balanceOnce_of_none h hc hw hleast⟩
  | some selected =>
      obtain ⟨available, peer⟩ := selected
      obtain ⟨hpeer, hne, hroom, havailable, _⟩ := Queues.least_statuses h hc hw hleast
      have hone := around.count_mem.1
      rw [MIN_TRANSFER_COUNT] at hone
      have hpos : 0 < min (around.count : ℤ) available := by omega
      have hcall : ∀ now, queues.balanceOnce c ⟨w, around.count, around.count_mem, now⟩ =
          if (queues w).candidates (min (around.count : ℤ) available) = [] then (queues, none)
          else queues.transfer w peer ((queues w).setAside (min (around.count : ℤ) available))
            ((queues w).candidates (min (around.count : ℤ) available)) now :=
        fun now => Queues.balanceOnce_of_some h hc hw hmany hleast
      rw [hleast] at hselect
      dsimp only at hselect
      generalize min (around.count : ℤ) available = count at hpos hselect hcall
      rw [hkept, hqueue, ReadyQueue.peekTransferCandidates_eq hpos] at hselect
      dsimp only at hselect
      rw [← ReadyQueue.candidates, h.reserveAll hw] at hselect
      dsimp only at hselect
      by_cases hnone : (queues w).candidates count = []
      · rw [if_pos hnone] at hselect
        refine .inl ⟨⟨_, hselect, ReadyQueue.setAside_of_eq_nil hnone⟩, fun now => ?_⟩
        rw [hcall, if_pos hnone]
      · rw [if_neg hnone] at hselect
        refine .inr ⟨_, peer, count, hselect, rfl, hpeer, hne, fun now => ?_⟩
        rw [hcall, if_neg hnone]

/-! ### The transfer -/

theorem mapM_of_valid (hvalid : ∀ task ∈ reserved, task.postInit = .ok task) :
    (reserved.map fun task => Value.dict task.toDict).mapM (TaskRecord.fromDict b) =
      .ok reserved := by
  induction reserved with
  | nil => rfl
  | cons task rest ih =>
      rw [List.map_cons, List.mapM_cons,
        TaskRecord.fromDict_toDict b (hvalid task List.mem_cons_self),
        ih fun task' htask' => hvalid task' (List.mem_cons_of_mem _ htask')]
      rfl

theorem acceptTransfer_of_valid (hmessage : message.payload = transferPayload reserved)
    (hvalid : ∀ task ∈ reserved, task.postInit = .ok task)
    (haccept : receiver.acceptTransfer b message = .ok (receiver', payload)) :
    receiver'.queue = (receiver.queue.tryEnqueueMany
        (reserved.map (TaskRecord.restamp receiver.clock.read))).2 ∧
      payload.accepted = (receiver.queue.tryEnqueueMany
        (reserved.map (TaskRecord.restamp receiver.clock.read))).1.accepted ∧
      payload.taskIds = if payload.accepted then reserved.map TaskRecord.taskId else [] := by
  obtain ⟨raw, decoded, hraw, hdecoded, rfl, rfl⟩ := acceptTransfer_eq_ok_iff.1 haccept
  rw [hmessage] at hraw
  rw [rawTasks_transferPayload hraw, mapM_of_valid hvalid] at hdecoded
  cases hdecoded
  refine ⟨rfl, rfl, ?_⟩
  rw [ackPayload, List.map_map]
  rfl

theorem transferAccepted_of_toDict {response : Message} {taskIds : List TaskId}
    (htype : response.messageType = .ACK) (hsender : response.senderId = peer)
    (hpayload : response.payload = payload.toDict)
    (htaskIds : payload.taskIds = if payload.accepted then taskIds else []) :
    transferAccepted peer response.requestId taskIds (some response) = .ok payload.accepted := by
  have hack : acknowledges peer response.requestId response = payload.accepted := by
    simp [acknowledges, htype, hsender, hpayload, AckPayload.toDict, Object.getD, Object.get,
      List.lookup_cons, Value.equalsStr, Value.isTrue]
  rw [transferAccepted, hack]
  cases haccepted : payload.accepted with
  | false => rfl
  | true =>
      rw [haccepted, if_pos rfl] at htaskIds
      have hget : response.payload.getD "task_ids" (.list []) = .list (taskIds.map .str) := by
        simp [hpayload, htaskIds, AckPayload.toDict, Object.getD, Object.get, List.lookup_cons]
      have hset : Value.toSet (.list (taskIds.map .str)) = .ok (taskIds.map .str) := by
        have hfind : (taskIds.map Value.str).find? Value.unhashable = none := by
          simp [List.find?_eq_none, Value.unhashable]
        rw [Value.toSet, hfind]
      have hsame : sameIds (taskIds.map .str) taskIds = true := by
        simp [sameIds, Value.equalsStr]
      rw [if_pos rfl, hget, hset, Except.map, hsame]

theorem transferTasks_answered (hwell : (queues peer).WellFormed) (hne : peer ≠ w)
    {sender : ReadyQueue TaskRecord} (hqueue : service.queue = sender)
    (hvalid : ∀ task ∈ reserved, task.postInit = .ok task)
    (hreceiver : receiver.queue = queues peer)
    (hanswered : TransferAnswered b json service around peer reserved receiver receiver') :
    (service.transferTasks b json around peer reserved).1.queue =
        (queues.transfer w peer sender reserved receiver.clock.read).1 w ∧
      receiver'.queue = (queues.transfer w peer sender reserved receiver.clock.read).1 peer := by
  obtain ⟨service', response, message, payload, hrequest, hmessage, haccept, htype, hsender,
    hrequestId, hpayload⟩ := hanswered
  obtain ⟨hqueue', haccepted, htaskIds⟩ := acceptTransfer_of_valid hmessage hvalid haccept
  have hkept := (request_cases b json service .P2P_TRANSFER around.requestId
    (transferPayload reserved) around.transfer).1
  rw [hrequest, hqueue] at hkept
  have hevaluated := transferAccepted_of_toDict htype hsender hpayload htaskIds
  rw [hrequestId] at hevaluated
  rw [hreceiver] at hqueue' haccepted
  rw [transferTasks, hrequest, Queues.transfer]
  dsimp only at hkept ⊢
  rw [settle, hevaluated, ← haccepted]
  cases hdecision : payload.accepted with
  | false =>
      rw [hdecision] at haccepted
      have hsame : receiver'.queue = queues peer := by
        obtain ⟨_, hrefused⟩ | ⟨htrue, _⟩ := ReadyQueue.tryEnqueueMany_cases hwell
          (reserved.map (TaskRecord.restamp receiver.clock.read))
        · exact hqueue'.trans hrefused
        · rw [htrue] at haccepted
          cases haccepted
      rw [if_neg Bool.false_ne_true]
      dsimp only
      rw [Function.update_self, Function.update_of_ne hne]
      exact ⟨congrArg (ReadyQueue.releaseAll · _) hkept, hsame⟩
  | true =>
      rw [if_pos rfl]
      dsimp only
      rw [Function.update_self, Function.update_of_ne hne, Function.update_self]
      refine ⟨?_, hqueue'⟩
      have hnotify := queue_notifyQueueChanged json (service'.confirmTransfer peer
        around.requestId (reserved.map TaskRecord.taskId)) around.sends
      generalize (service'.confirmTransfer peer around.requestId
        (reserved.map TaskRecord.taskId)).notifyQueueChanged json around.sends = result
        at hnotify ⊢
      obtain ⟨service'', failure⟩ := result
      cases failure with
      | none => exact hnotify.trans (congrArg (ReadyQueue.confirmAll · _) hkept)
      | some e => exact hnotify.trans (congrArg (ReadyQueue.confirmAll · _) hkept)

/-- **A call whose requests are answered** does to the queues of the worker and of the receiver
what `Queues.balanceOnce` does, and that leaves all other queues as they are. -/
theorem balanceOnce_answered (h : queues.Sound c) (hc : c.Connected) (hw : w ∈ c.workers)
    (hid : service.workerId = w) (hpeers : service.peers = c.peersOf w)
    (hqueue : service.queue = queues w)
    (hvalid : ∀ task, task ∈ (queues w).normal ∨ task ∈ (queues w).priority →
      task.postInit = .ok task)
    (hstatuses : StatusesAnswered b json around queues service service.peers) :
    ((service.balanceOnce b json around).1.queue = queues w ∧
      ∀ now, queues.balanceOnce c ⟨w, around.count, around.count_mem, now⟩ = (queues, none)) ∨
    ∃ service' peer reserved, service.selectTransfer b json around =
        (service', .ok (some (peer, reserved))) ∧ peer ∈ c.workers ∧ peer ≠ w ∧
      ∀ receiver receiver', receiver.queue = queues peer →
        TransferAnswered b json service' around peer reserved receiver receiver' →
          let next := queues.balanceOnce c
            ⟨w, around.count, around.count_mem, receiver.clock.read⟩
          (service.balanceOnce b json around).1.queue = next.1 w ∧
            receiver'.queue = next.1 peer ∧
            ∀ v, v ≠ w → v ≠ peer → next.1 v = queues v := by
  obtain ⟨⟨service', hselect, hkept⟩, hcall⟩ |
    ⟨service', peer, count, hselect, hset, hpeer, hne, hcall⟩ :=
      selectTransfer_answered h hc hw hid hpeers hqueue hstatuses
  · refine .inl ⟨?_, hcall⟩
    rw [balanceOnce, hselect]
    exact hkept
  · refine .inr ⟨service', peer, _, hselect, hpeer, hne, ?_⟩
    intro receiver receiver' hreceiver hanswered
    have hcandidates : ∀ task ∈ (queues w).candidates count, task.postInit = .ok task := by
      intro task htask
      refine hvalid task ((List.mem_append.1 htask).imp ?_ ?_)
      · exact fun hmem => (List.drop_sublist _ _).subset hmem
      · exact fun hmem => (List.drop_sublist _ _).subset hmem
    obtain ⟨hsender, hreceived⟩ := transferTasks_answered (h peer hpeer).1 hne hset hcandidates
      hreceiver hanswered
    dsimp only
    rw [balanceOnce, hselect, hcall]
    exact ⟨hsender, hreceived, fun v hv hvpeer => Queues.transfer_of_ne hv hvpeer⟩

end

end P2PService

end KVStore
