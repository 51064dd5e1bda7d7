import KVStore.Worker.Balance
import KVStore.Worker.Order

/-!
# Repeated transfers

`acknowledgement` is the part of `_handle_connection` up to the `ACK` of a transfer, and
`handleRequest_eq` says what the handler does with it. A history of the service is any
sequence of requests and of queue operations by the other threads. The answer to a transfer
is looked up and kept under its request id, so a repeated request gets the first answer and
adds nothing to the queue.
-/

namespace KVStore

open Python Except

namespace P2PService

/-- The service when the `ACK` of a transfer is sent, and its payload. -/
def acknowledgement (b : Builtins) (service : P2PService) (message : Message) :
    Option (P2PService × AckPayload) :=
  match service.clock.observe message.logicalClock with
  | .error _ => none
  | .ok clock =>
      let service := { service with clock := clock }
      if service.peers ≠ [] ∧ message.senderId ∉ service.peers then none
      else if message.messageType = .P2P_TRANSFER then
        match service.handledTransfers.lookup message.requestId with
        | some previous => some (service, previous)
        | none => (service.acceptTransfer b message).toOption
      else none

/-- What the handler does after the response to a transfer, if it is a new one. -/
def afterResponse (b : Builtins) (json : Json) (sends : Sends) (senderId : WorkerId)
    (payload : AckPayload) (fresh : Bool) : P2PService × Outcome → P2PService × Outcome
  | (service, .responded none) =>
      if fresh = true then
        let (service, failure) := service.concludeTransfer b json sends senderId payload
        (service, .responded failure)
      else
        (service, .responded none)
  | failed => failed

/-- A transfer that was handled, with the payload of its `ACK` and the tasks that were
appended to the queue. -/
structure Handled where
  requestId : RequestId
  ack : AckPayload
  batch : List TaskRecord

/-- What can happen to the service: a request is handled, or another thread calls the queue,
moves the clock, counts, or loses the Master. -/
inductive Event
  | request (message : Message) (sends : Sends)
  | queue (call : ReadyQueue.Call TaskRecord)
  | others (clock : FloatClock) (stats : StatsCollector) (connected : Bool)

def step (b : Builtins) (json : Json) (service : P2PService) : Event → Option P2PService
  | .request message sends => some (service.handleRequest b json sends message).1
  | .queue call => some { service with queue := (service.queue.perform call).2 }
  | .others clock stats connected =>
      some { service with clock := clock, stats := stats, connected := connected }

def handled (b : Builtins) (service : P2PService) : Event → List Handled
  | .request message _ =>
      (service.acknowledgement b message).toList.map fun (acknowledged, payload) =>
        { requestId := message.requestId
          ack := payload
          batch := acknowledged.queue.normal.drop service.queue.normal.length }
  | _ => []

section

variable {b : Builtins} {json : Json} {service service' : P2PService} {sends : Sends}
variable {message : Message} {payload : AckPayload}

theorem afterResponse_false (senderId : WorkerId) (result : P2PService × Outcome) :
    afterResponse b json sends senderId payload false result = result := by
  unfold afterResponse
  split <;> rfl

theorem handleRequest_eq (h : service.acknowledgement b message = some (service', payload)) :
    service.handleRequest b json sends message =
      afterResponse b json sends message.senderId payload
        (decide (service.handledTransfers.lookup message.requestId = none))
        (service'.respond json .ACK message.requestId payload.toDict sends) := by
  unfold acknowledgement at h
  unfold handleRequest
  cases hobserve : service.clock.observe message.logicalClock with
  | error e =>
      rw [hobserve] at h
      cases h
  | ok clock =>
      rw [hobserve] at h
      dsimp only at h ⊢
      split_ifs at h with hsender htype
      rw [if_neg hsender, htype]
      dsimp only
      cases hlookup : service.handledTransfers.lookup message.requestId with
      | some previous =>
          rw [hlookup] at h
          cases h
          simp only [reduceCtorEq, decide_false, afterResponse_false]
      | none =>
          rw [hlookup] at h
          cases haccept : acceptTransfer b { service with clock := clock } message with
          | error e =>
              rw [haccept] at h
              cases h
          | ok accepted =>
              rw [haccept] at h
              cases h
              rw [decide_eq_true rfl]
              dsimp only
              generalize respond json service' .ACK message.requestId payload.toDict sends =
                result
              obtain ⟨responded, outcome⟩ := result
              cases outcome with
              | refused e => rfl
              | responded failure => cases failure <;> rfl

theorem exists_respond (messageType : MessageType) (requestId : RequestId) (payload : Object) :
    ∃ clock, (service.respond json messageType requestId payload sends).1 =
      { service with clock := clock } :=
  exists_send json service messageType requestId payload sends.response

theorem handleRequest_of_none (h : service.acknowledgement b message = none) :
    ∃ clock, (service.handleRequest b json sends message).1 = { service with clock := clock } := by
  unfold acknowledgement at h
  unfold handleRequest
  cases hobserve : service.clock.observe message.logicalClock with
  | error e => exact ⟨service.clock, rfl⟩
  | ok clock =>
      rw [hobserve] at h
      dsimp only at h ⊢
      split_ifs at h ⊢ with hsender htype
      · exact ⟨clock, rfl⟩
      · rw [htype]
        dsimp only
        cases hlookup : service.handledTransfers.lookup message.requestId with
        | some previous =>
            rw [hlookup] at h
            cases h
        | none =>
            rw [hlookup] at h
            cases haccept : acceptTransfer b { service with clock := clock } message with
            | error e => exact ⟨clock, rfl⟩
            | ok accepted =>
                rw [haccept] at h
                cases h
      · cases hmessage : message.messageType with
        | P2P_STATUS_REQUEST =>
            dsimp only
            split
            · exact ⟨clock, rfl⟩
            · exact exists_respond .P2P_STATUS_RESPONSE message.requestId _
        | P2P_TRANSFER => exact absurd hmessage htype
        | _ => exact ⟨clock, rfl⟩

theorem exists_afterResponse (senderId : WorkerId) (fresh : Bool) (requestId : RequestId) :
    ∃ clock stats, (afterResponse b json sends senderId payload fresh
      (service.respond json .ACK requestId payload.toDict sends)).1 =
        { service with clock := clock, stats := stats } := by
  have hrespond : ∃ clock, (service.respond json .ACK requestId payload.toDict sends).1 =
      { service with clock := clock } := exists_respond .ACK requestId payload.toDict
  obtain ⟨clock, hresponse⟩ := hrespond
  generalize service.respond json .ACK requestId payload.toDict sends = result at hresponse
  obtain ⟨responded, outcome⟩ := result
  cases hresponse
  unfold afterResponse
  split
  · rename_i heq
    cases heq
    split_ifs
    · exact exists_concludeTransfer b json { service with clock := clock } sends senderId payload
    · exact ⟨clock, service.stats, rfl⟩
  · exact ⟨clock, service.stats, rfl⟩

/-- A transfer whose request id is known gets the answer that is kept; any other answer is
kept now, and the batch is what it added to the queue. -/
theorem acknowledgement_cases (h : service.acknowledgement b message = some (service', payload)) :
    service'.handledTransfers.lookup message.requestId = some payload ∧
      (service.handledTransfers.lookup message.requestId = some payload ∧
          service'.handledTransfers = service.handledTransfers ∧
          service'.queue = service.queue ∨
        service.handledTransfers.lookup message.requestId = none ∧
          service'.handledTransfers =
            service.handledTransfers.insert message.requestId payload) := by
  unfold acknowledgement at h
  cases hobserve : service.clock.observe message.logicalClock with
  | error e =>
      rw [hobserve] at h
      cases h
  | ok clock =>
      rw [hobserve] at h
      dsimp only at h
      split_ifs at h with hsender htype
      cases hlookup : service.handledTransfers.lookup message.requestId with
      | some previous =>
          rw [hlookup] at h
          cases h
          exact ⟨hlookup, .inl ⟨rfl, rfl, rfl⟩⟩
      | none =>
          rw [hlookup] at h
          cases haccept : acceptTransfer b { service with clock := clock } message with
          | error e =>
              rw [haccept] at h
              cases h
          | ok accepted =>
              rw [haccept] at h
              cases h
              obtain ⟨_, _, _, _, rfl, _⟩ := acceptTransfer_eq_ok_iff.1 haccept
              exact ⟨AList.lookup_insert _, .inr ⟨rfl, rfl⟩⟩

/-- A handled transfer: its answer is kept, and unless this is the first one under its
request id nothing is appended to the queue. -/
theorem handled_request (json : Json) (x : Handled)
    (hx : x ∈ service.handled b (.request message sends)) :
    let after := (service.handleRequest b json sends message).1
    after.handledTransfers.lookup x.requestId = some x.ack ∧
      (∀ r, r ≠ x.requestId →
        after.handledTransfers.lookup r = service.handledTransfers.lookup r) ∧
      (service.handledTransfers.lookup x.requestId = some x.ack ∧ x.batch = [] ∨
        service.handledTransfers.lookup x.requestId = none) := by
  cases hack : service.acknowledgement b message with
  | none => simp [handled, hack] at hx
  | some acknowledged =>
      obtain ⟨service', payload⟩ := acknowledged
      simp only [handled, hack, Option.toList_some, List.map_cons, List.map_nil,
        List.mem_singleton] at hx
      subst hx
      obtain ⟨clock, stats, hafter⟩ : ∃ clock stats, (afterResponse b json sends
          message.senderId payload
          (decide (service.handledTransfers.lookup message.requestId = none))
          (service'.respond json .ACK message.requestId payload.toDict sends)).1 =
            { service' with clock := clock, stats := stats } := exists_afterResponse _ _ _
      rw [← handleRequest_eq hack] at hafter
      dsimp only
      rw [hafter]
      dsimp only
      obtain ⟨hkept, hfirst⟩ := acknowledgement_cases hack
      obtain ⟨hknown, htransfers, hqueue⟩ | ⟨hnew, htransfers⟩ := hfirst
      · refine ⟨hkept, fun r _ => by rw [htransfers], .inl ⟨hknown, ?_⟩⟩
        rw [hqueue, List.drop_length]
      · refine ⟨hkept, fun r hr => ?_, .inr hnew⟩
        rw [htransfers, AList.lookup_insert_ne hr]

/-- The answers to all transfers handled so far are kept, and under each request id at most
one of them brought tasks. -/
structure Kept (log : List Handled) (service : P2PService) : Prop where
  lookup : ∀ x ∈ log, service.handledTransfers.lookup x.requestId = some x.ack
  once : ∀ r, (log.filter fun x => x.requestId = r ∧ x.batch ≠ []).length ≤ 1

theorem Kept.handle {log : List Handled} (h : Kept log service) {x : Handled}
    (hkept : service'.handledTransfers.lookup x.requestId = some x.ack)
    (hothers : ∀ r, r ≠ x.requestId →
      service'.handledTransfers.lookup r = service.handledTransfers.lookup r)
    (hfirst : service.handledTransfers.lookup x.requestId = some x.ack ∧ x.batch = [] ∨
      service.handledTransfers.lookup x.requestId = none) :
    Kept (log ++ [x]) service' := by
  constructor
  · intro y hy
    rw [List.mem_append, List.mem_singleton] at hy
    obtain hy | rfl := hy
    · have hlookup := h.lookup y hy
      by_cases hid : y.requestId = x.requestId
      · obtain ⟨hknown, _⟩ | hnew := hfirst
        · rw [hid] at hlookup ⊢
          rw [hkept, ← hknown, hlookup]
        · rw [hid, hnew] at hlookup
          cases hlookup
      · rw [hothers _ hid, hlookup]
    · exact hkept
  · intro r
    rw [List.filter_append, List.length_append]
    by_cases hnew : x.requestId = r ∧ x.batch ≠ []
    · have hnone : service.handledTransfers.lookup r = none := by
        obtain ⟨_, hempty⟩ | hnone := hfirst
        · exact absurd hempty hnew.2
        · rw [← hnew.1, hnone]
      -- nothing was handled under this request id before
      have hlog : log.filter (fun y => y.requestId = r ∧ y.batch ≠ []) = [] := by
        rw [List.filter_eq_nil_iff]
        intro y hy hr
        have hlookup := h.lookup y hy
        rw [(of_decide_eq_true hr).1, hnone] at hlookup
        cases hlookup
      rw [hlog, List.length_nil, zero_add]
      exact List.length_filter_le _ [x]
    · rw [List.filter_singleton, decide_eq_false hnew]
      exact h.once r

theorem Kept.step {log : List Handled} (h : Kept log service) {event : Event}
    (hstep : service.step b json event = some service') :
    Kept (log ++ service.handled b event) service' := by
  cases event with
  | request message sends =>
      cases hstep
      cases hack : service.acknowledgement b message with
      | none =>
          have hsame : (service.handleRequest b json sends message).1.handledTransfers =
              service.handledTransfers := by
            have hquiet : ∃ clock, (service.handleRequest b json sends message).1 =
                { service with clock := clock } := handleRequest_of_none hack
            obtain ⟨clock, hafter⟩ := hquiet
            rw [hafter]
          have hnone : service.handled b (.request message sends) = [] := by
            simp [handled, hack]
          rw [hnone, List.append_nil]
          exact ⟨fun x hx => by rw [hsame, h.lookup x hx], h.once⟩
      | some acknowledged =>
          obtain ⟨x, hx⟩ : ∃ x, service.handled b (.request message sends) = [x] := by
            simp [handled, hack]
          obtain ⟨hkept, hothers, hfirst⟩ := handled_request json x
            (by rw [hx, List.mem_singleton])
          rw [hx]
          exact h.handle hkept hothers hfirst
  | queue call =>
      cases hstep
      change Kept (log ++ []) _
      rw [List.append_nil]
      exact ⟨h.lookup, h.once⟩
  | others clock stats connected =>
      cases hstep
      change Kept (log ++ []) _
      rw [List.append_nil]
      exact ⟨h.lookup, h.once⟩

theorem exists_run (b : Builtins) (json : Json) (service : P2PService) (events : List Event) :
    ∃ after, Transition.run (step b json) service events = some after := by
  induction events generalizing service with
  | nil => exact ⟨service, rfl⟩
  | cons event events ih =>
      have hstep : ∃ next, service.step b json event = some next := by
        cases event with
        | request message sends => exact ⟨_, rfl⟩
        | queue call => exact ⟨_, rfl⟩
        | others clock stats connected => exact ⟨_, rfl⟩
      obtain ⟨next, hnext⟩ := hstep
      obtain ⟨after, hafter⟩ := ih next
      exact ⟨after, Transition.run_cons_eq_some_iff.2 ⟨next, hnext, hafter⟩⟩

end

/-- **Transfers are idempotent.** Whatever requests arrive, in whatever order and with
whatever queue calls in between: the answers to the transfers of one request id are equal, and
at most one of these transfers appends tasks to the queue. -/
theorem transfers_idempotent (b : Builtins) (json : Json) (service : P2PService)
    (events : List Event) :
    let log := Transition.outputs (step b json) (handled b) service events
    (∃ after, Transition.run (step b json) service events = some after) ∧
      (∀ x ∈ log, ∀ y ∈ log, x.requestId = y.requestId → x.ack = y.ack) ∧
      ∀ r, (log.filter fun x => x.requestId = r ∧ x.batch ≠ []).length ≤ 1 := by
  obtain ⟨after, hrun⟩ := exists_run b json service events
  have hempty : Kept [] service := ⟨by simp, by simp⟩
  have hkept : Kept ([] ++ Transition.outputs (step b json) (handled b) service events) after :=
    Transition.invariant_outputs (fun log service event service' h hstep => h.step hstep) hempty
      hrun
  rw [List.nil_append] at hkept
  refine ⟨⟨after, hrun⟩, fun x hx y hy hid => ?_, hkept.once⟩
  have hack := hkept.lookup x hx
  rw [hid, hkept.lookup y hy] at hack
  exact (Option.some.inj hack).symm

end P2PService

end KVStore
