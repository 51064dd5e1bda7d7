import KVStore.Library.Delivery
import KVStore.Worker.P2P
import KVStore.Worker.QueueInvariant

/-!
# What one worker does

For every step of a worker's threads: what it changes, said once. `Sound` is the
invariant of one node: its queue is well formed, the processing slot is the task
in the processor's hands, and the reservations are the tasks in the monitor's
hands.
-/

namespace KVStore

/-- What identifies a copy: the task, to whom the Master assigned it, and in which
dispatch. The time stamp is left out, since every worker on the way sets it anew. -/
abbrev Token := Delivery.Parcel TaskId WorkerId

def Copy.token (copy : Copy) : Token :=
  ⟨copy.task.taskId, copy.task.assignmentWorkerId, copy.dispatch⟩

def tokens (copies : Multiset Copy) : Multiset Token := copies.map Copy.token

@[simp] theorem tokens_zero : tokens 0 = 0 := rfl

@[simp] theorem tokens_cons (copy : Copy) (copies : Multiset Copy) :
    tokens (copy ::ₘ copies) = copy.token ::ₘ tokens copies :=
  Multiset.map_cons _ _ _

@[simp] theorem tokens_add (copies others : Multiset Copy) :
    tokens (copies + others) = tokens copies + tokens others :=
  Multiset.map_add _ _ _

@[simp] theorem token_restamp (now : ℚ) (copy : Copy) :
    (copy.restamp now).token = copy.token := rfl

theorem postInit_eq_ok {task kept : Task} (h : task.postInit = .ok kept) :
    kept = { task with key := Task.lower task.key } := by
  unfold Task.postInit at h
  simp only at h
  split_ifs at h
  cases h
  rfl

theorem token_fromDict {copy decoded : Copy} (h : copy.fromDict = .ok decoded) :
    decoded.token = copy.token := by
  unfold Copy.fromDict at h
  cases hpost : copy.task.postInit with
  | error e =>
      rw [hpost] at h
      cases h
  | ok kept =>
      rw [hpost] at h
      cases h
      rw [postInit_eq_ok hpost]
      rfl

theorem forall₂_of_mapM_eq_ok {ε α β : Type*} {f : α → Except ε β} {l : List α}
    {l' : List β} (h : l.mapM f = .ok l') : List.Forall₂ (fun a b => f a = .ok b) l l' := by
  induction l generalizing l' with
  | nil =>
      cases h
      exact .nil
  | cons a l ih =>
      rw [List.mapM_cons] at h
      cases ha : f a with
      | error e =>
          rw [ha] at h
          cases h
      | ok b =>
          cases hl : l.mapM f with
          | error e =>
              rw [ha, hl] at h
              cases h
          | ok bs =>
              rw [ha, hl] at h
              cases h
              exact .cons ha (ih hl)

/-- What a peer makes of the copies that were sent: each is checked again and gets a
new time stamp. -/
def TakenOver (sent taken : List Copy) : Prop :=
  ∃ now decoded, List.Forall₂ (fun a b => a.fromDict = .ok b) sent decoded ∧
    taken = decoded.map (Copy.restamp now)

theorem TakenOver.map_token {sent taken : List Copy} (h : TakenOver sent taken) :
    taken.map Copy.token = sent.map Copy.token := by
  obtain ⟨now, decoded, hdecoded, rfl⟩ := h
  induction hdecoded with
  | nil => rfl
  | cons hab _ ih =>
      rw [List.map_cons, List.map_cons, List.map_cons, ih, token_restamp,
        token_fromDict hab]

theorem map_taskId_eq_of_map_token_eq {xs ys : List Copy}
    (h : xs.map Copy.token = ys.map Copy.token) :
    xs.map HasTaskId.taskId = ys.map HasTaskId.taskId := by
  have hids := congrArg (List.map Delivery.Parcel.item) h
  rwa [List.map_map, List.map_map] at hids

namespace Monitor

def reserved : Monitor → List Copy
  | .idle => []
  | .asking _ _ => []
  | .awaitingStatus _ _ _ _ => []
  | .reserving _ _ reserved => reserved
  | .awaitingAck _ _ reserved => reserved
  | .confirming _ _ _ remaining => remaining
  | .releasing _ _ _ remaining => remaining

/-- The transfer that was sent and is not settled yet. -/
def transfer : Monitor → Option (RequestId × WorkerId × List Copy)
  | .awaitingAck requestId peer reserved => some (requestId, peer, reserved)
  | .confirming requestId peer reserved _ => some (requestId, peer, reserved)
  | .releasing requestId peer reserved _ => some (requestId, peer, reserved)
  | _ => none

end Monitor

/-- The task in the processor's hands. -/
def Processor.copy : Processor → Option Copy
  | .idle => none
  | .working copy => some copy
  | .reported copy => some copy

namespace Node

open HasTaskId

structure Sound (node : Node) : Prop where
  wellFormed : node.queue.WellFormed
  processing : node.queue.processingTaskId = node.processor.copy.map taskId
  reserved : node.queue.aside = ↑node.monitor.reserved
  remaining : ∀ requestId peer reserved,
    node.monitor.transfer = some (requestId, peer, reserved) →
    (node.monitor.reserved : Multiset Copy) ≤ ↑reserved

theorem sound_init : Sound {} := by
  have hinit : ReadyQueue.init (τ := Copy) DEFAULT_QUEUE_CAPACITY =
      .ok { capacity := DEFAULT_QUEUE_CAPACITY.toNat } := rfl
  refine ⟨(ReadyQueue.wellFormed_init hinit).1, rfl, rfl, ?_⟩
  intro requestId peer reserved h
  cases h

section

variable {node node' : Node} {w : WorkerId} {requestId : RequestId}

theorem aside_of_reserved_eq {q q' : ReadyQueue Copy} (h : q'.reserved = q.reserved) :
    q'.aside = q.aside := by
  rw [ReadyQueue.aside, ReadyQueue.aside, h]

theorem Sound.lookup_reserved (h : node.Sound) (copy : Copy)
    (hcopy : copy ∈ node.monitor.reserved) :
    ∃ p, node.queue.reserved.lookup (taskId copy) = some (copy, p) := by
  have hmem : copy ∈ node.queue.aside := by
    rw [h.reserved]
    exact hcopy
  obtain ⟨⟨x, p⟩, hx, rfl⟩ := List.mem_map.1 (Multiset.mem_coe.1 hmem)
  obtain ⟨t, ht⟩ := Dict.mem_values_iff.1 hx
  have hid := h.wellFormed.reserved_id t x p ht
  exact ⟨p, by rw [hid, ht]⟩

theorem aside_erase {q : ReadyQueue Copy} {t : TaskId} {copy : Copy} {p : Bool}
    (h : q.reserved.lookup t = some (copy, p)) {q' : ReadyQueue Copy}
    (hq' : q'.reserved = q.reserved.erase t) : q.aside = copy ::ₘ q'.aside := by
  rw [ReadyQueue.aside, ReadyQueue.aside, hq', Multiset.cons_coe, Multiset.coe_eq_coe]
  exact (Dict.perm_erase h).2.map Prod.fst

/-- What the P2P threads leave alone. -/
structure SameProcessing (node node' : Node) : Prop where
  processor : node'.processor = node.processor
  admitted : node'.admitted = node.admitted
  finished : node'.finished = node.finished

theorem SameProcessing.refl (node : Node) : node.SameProcessing node := ⟨rfl, rfl, rfl⟩

/-! ### Steps of the monitor thread -/

/-- What a step of `balance_once` that waits for no answer can do. -/
inductive Balanced (w : WorkerId) (requestId : RequestId) (node : Node) :
    Node → Option P2PRequest → Prop
  | think (monitor : Monitor) (request : Option P2PRequest)
      (hfree : ∀ rid peer reserved, node.monitor ≠ .awaitingAck rid peer reserved)
      (hbefore : node.monitor.reserved = []) (hafter : monitor.reserved = [])
      (htransfer : monitor.transfer = none)
      (hrequest : request = none ∨
        ∃ peer, request = some ⟨requestId, w, peer, .statusRequest⟩) :
      Balanced w requestId node { node with monitor := monitor } request
  | reserve (peer : WorkerId) (t : TaskId) (rest : List TaskId) (reserved : List Copy)
      (hmonitor : node.monitor = .reserving peer (t :: rest) reserved) :
      Balanced w requestId node
        { node with
          queue := (node.queue.reserveForTransfer t).2
          monitor := .reserving peer rest
            (reserved ++ (node.queue.reserveForTransfer t).1.toList) } none
  | transfer (peer : WorkerId) (reserved : List Copy)
      (hmonitor : node.monitor = .reserving peer [] reserved) :
      Balanced w requestId node
        { node with monitor := .awaitingAck requestId peer reserved }
        (some ⟨requestId, w, peer, .transfer reserved⟩)
  | confirm (rid : RequestId) (peer : WorkerId) (reserved : List Copy) (copy : Copy)
      (rest : List Copy) (hmonitor : node.monitor = .confirming rid peer reserved (copy :: rest)) :
      Balanced w requestId node
        { node with
          queue := (node.queue.confirmRemoved (taskId copy)).2
          monitor := .confirming rid peer reserved rest } none
  | release (rid : RequestId) (peer : WorkerId) (reserved : List Copy) (copy : Copy)
      (rest : List Copy) (hmonitor : node.monitor = .releasing rid peer reserved (copy :: rest)) :
      Balanced w requestId node
        { node with
          queue := (node.queue.releaseReservation (taskId copy)).2
          monitor := .releasing rid peer reserved rest } none

theorem balanceStep_effect {peers : List WorkerId} {count : ℕ}
    {request : Option P2PRequest} {changed : Bool}
    (h : node.balanceStep peers w requestId count = some (node', request, changed)) :
    Balanced w requestId node node' request := by
  unfold balanceStep at h
  cases hmonitor : node.monitor with
  | idle =>
      have hsame : { node with monitor := .idle } = node := by
        rw [← hmonitor]
      simp only [hmonitor] at h
      split at h
      · cases h
      · split_ifs at h
        · cases h
          have heffect : Balanced w requestId node { node with monitor := .idle } none :=
            .think _ _ (by simp [hmonitor]) (by rw [hmonitor]; rfl) rfl rfl (.inl rfl)
          rwa [hsame] at heffect
        · cases h
          exact .think _ _ (by simp [hmonitor]) (by rw [hmonitor]; rfl) rfl rfl (.inl rfl)
  | asking rest statuses =>
      cases rest with
      | cons peer rest =>
          simp only [hmonitor] at h
          cases h
          exact .think _ _ (by simp [hmonitor]) (by rw [hmonitor]; rfl) rfl rfl (.inr ⟨peer, rfl⟩)
      | nil =>
          simp only [hmonitor] at h
          split at h
          · cases h
            exact .think _ _ (by simp [hmonitor]) (by rw [hmonitor]; rfl) rfl rfl (.inl rfl)
          · split_ifs at h
            split at h
            · cases h
            · cases h
              exact .think _ _ (by simp [hmonitor]) (by rw [hmonitor]; rfl) rfl rfl (.inl rfl)
  | awaitingStatus rid peer rest statuses =>
      simp only [hmonitor] at h
      cases h
  | awaitingAck rid peer reserved =>
      simp only [hmonitor] at h
      cases h
  | reserving peer candidates reserved =>
      cases candidates with
      | cons t rest =>
          simp only [hmonitor] at h
          cases h
          exact .reserve peer t rest reserved hmonitor
      | nil =>
          simp only [hmonitor] at h
          split_ifs at h with hempty
          · cases h
            exact .think _ _ (by simp [hmonitor]) (by rw [hmonitor]; exact hempty) rfl rfl
              (.inl rfl)
          · cases h
            exact .transfer peer reserved hmonitor
  | confirming rid peer reserved remaining =>
      cases remaining with
      | cons copy rest =>
          simp only [hmonitor] at h
          cases h
          exact .confirm rid peer reserved copy rest hmonitor
      | nil =>
          simp only [hmonitor] at h
          cases h
          exact .think _ _ (by simp [hmonitor]) (by rw [hmonitor]; rfl) rfl rfl (.inl rfl)
  | releasing rid peer reserved remaining =>
      cases remaining with
      | cons copy rest =>
          simp only [hmonitor] at h
          cases h
          exact .release rid peer reserved copy rest hmonitor
      | nil =>
          simp only [hmonitor] at h
          cases h
          exact .think _ _ (by simp [hmonitor]) (by rw [hmonitor]; rfl) rfl rfl (.inl rfl)

theorem Balanced.sameProcessing {request : Option P2PRequest}
    (heffect : Balanced w requestId node node' request) :
    SameProcessing node node' ∧ node'.received = node.received := by
  cases heffect <;> exact ⟨⟨rfl, rfl, rfl⟩, rfl⟩

theorem reserve_spec (h : node.Sound) {peer : WorkerId} {t : TaskId}
    {rest : List TaskId} {reserved : List Copy}
    (hmonitor : node.monitor = .reserving peer (t :: rest) reserved) :
    let q := node.queue.reserveForTransfer t
    q.2.WellFormed ∧ q.2.processingTaskId = node.queue.processingTaskId ∧
      q.2.aside = ↑(reserved ++ q.1.toList) ∧
      node.queue.waiting = ↑q.1.toList + q.2.waiting := by
  intro q
  have haside : node.queue.aside = ↑reserved := by
    rw [h.reserved, hmonitor]
    rfl
  obtain hq | ⟨copy, p, hsome, _, _, hwf, _, hwaiting, hfresh, hreserved, hprocessing, _⟩ :=
    ReadyQueue.reserveForTransfer_cases h.wellFormed t
  · have hq' : q = (none, node.queue) := hq
    rw [hq']
    refine ⟨h.wellFormed, rfl, ?_, ?_⟩
    · simpa using haside
    · simp
  · have hlist : q.1.toList = [copy] := by
      rw [show q.1 = some copy from hsome]
      rfl
    refine ⟨hwf, hprocessing, ?_, ?_⟩
    · have hperm := Multiset.coe_eq_coe.1 haside
      rw [ReadyQueue.aside, show q.2.reserved = node.queue.reserved.insert t (copy, p) from
        hreserved, Dict.values_insert_of_notMem hfresh, List.map_cons, hlist]
      exact Multiset.coe_eq_coe.2
        ((hperm.cons copy).trans (List.perm_append_singleton copy reserved).symm)
    · rw [hlist]
      exact hwaiting

theorem confirm_spec (h : node.Sound) {rid : RequestId} {peer : WorkerId}
    {reserved rest : List Copy} {copy : Copy}
    (hmonitor : node.monitor = .confirming rid peer reserved (copy :: rest)) :
    let q := (node.queue.confirmRemoved (taskId copy)).2
    q.WellFormed ∧ q.processingTaskId = node.queue.processingTaskId ∧
      q.aside = ↑rest ∧ q.waiting = node.queue.waiting := by
  intro q
  obtain ⟨p, hlookup⟩ := h.lookup_reserved copy
    (by rw [hmonitor]; exact List.mem_cons_self)
  obtain ⟨_, hnone, _⟩ | ⟨other, b, _, hlookup', hwf, _, hnormal, hpriority, hreserved,
    hprocessing, _⟩ := ReadyQueue.confirmRemoved_cases h.wellFormed (taskId copy)
  · rw [hlookup] at hnone
    cases hnone
  · refine ⟨hwf, hprocessing, ?_, ?_⟩
    · have hcons := aside_erase hlookup hreserved
      rw [h.reserved, hmonitor] at hcons
      exact (Multiset.cons_inj_right copy).1 hcons.symm
    · rw [ReadyQueue.waiting, ReadyQueue.waiting, hnormal, hpriority]

theorem release_spec (h : node.Sound) {rid : RequestId} {peer : WorkerId}
    {reserved rest : List Copy} {copy : Copy}
    (hmonitor : node.monitor = .releasing rid peer reserved (copy :: rest)) :
    let q := (node.queue.releaseReservation (taskId copy)).2
    q.WellFormed ∧ q.processingTaskId = node.queue.processingTaskId ∧
      q.aside = ↑rest ∧ q.waiting = copy ::ₘ node.queue.waiting := by
  intro q
  obtain ⟨p, hlookup⟩ := h.lookup_reserved copy
    (by rw [hmonitor]; exact List.mem_cons_self)
  obtain ⟨_, hnone, _⟩ | ⟨other, b, _, hlookup', hwf, _, hwaiting, _, _, hreserved,
    hprocessing, _⟩ := ReadyQueue.releaseReservation_cases h.wellFormed (taskId copy)
  · rw [hlookup] at hnone
    cases hnone
  · rw [hlookup] at hlookup'
    cases hlookup'
    refine ⟨hwf, hprocessing, ?_, hwaiting⟩
    have hcons := aside_erase hlookup hreserved
    rw [h.reserved, hmonitor] at hcons
    exact (Multiset.cons_inj_right copy).1 hcons.symm

theorem sound_balanced (h : node.Sound) {request : Option P2PRequest}
    (heffect : Balanced w requestId node node' request) : node'.Sound := by
  cases heffect with
  | think monitor request _ hbefore hafter htransfer _ =>
      refine ⟨h.wellFormed, h.processing, ?_, ?_⟩
      · rw [h.reserved, hbefore, hafter]
      · intro rid peer reserved hsome
        rw [show monitor.transfer = _ from hsome] at htransfer
        cases htransfer
  | reserve peer t rest reserved hmonitor =>
      obtain ⟨hwf, hprocessing, haside, _⟩ := reserve_spec h hmonitor
      refine ⟨hwf, hprocessing.trans h.processing, haside, ?_⟩
      intro rid peer' reserved' hsome
      cases hsome
  | transfer peer reserved hmonitor =>
      have haside := h.reserved
      rw [hmonitor] at haside
      refine ⟨h.wellFormed, h.processing, haside, ?_⟩
      intro rid peer' reserved' hsome
      cases hsome
      exact le_rfl
  | confirm rid peer reserved copy rest hmonitor =>
      obtain ⟨hwf, hprocessing, haside, _⟩ := confirm_spec h hmonitor
      refine ⟨hwf, hprocessing.trans h.processing, haside, ?_⟩
      intro rid' peer' reserved' hsome
      cases hsome
      have hle := h.remaining rid peer reserved (by rw [hmonitor]; rfl)
      rw [hmonitor] at hle
      exact (Multiset.le_cons_self _ copy).trans hle
  | release rid peer reserved copy rest hmonitor =>
      obtain ⟨hwf, hprocessing, haside, _⟩ := release_spec h hmonitor
      refine ⟨hwf, hprocessing.trans h.processing, haside, ?_⟩
      intro rid' peer' reserved' hsome
      cases hsome
      have hle := h.remaining rid peer reserved (by rw [hmonitor]; rfl)
      rw [hmonitor] at hle
      exact (Multiset.le_cons_self _ copy).trans hle

/-- What an answer, or the lack of one, makes the monitor do. -/
inductive Answered (node : Node) (response : Option P2PResponse) : Node → Prop
  | status (monitor : Monitor) (hbefore : node.monitor.reserved = [])
      (hnone : node.monitor.transfer = none) (hafter : monitor.reserved = [])
      (htransfer : monitor.transfer = none) :
      Answered node response { node with monitor := monitor }
  | accepted (rid : RequestId) (peer : WorkerId) (reserved : List Copy)
      (hmonitor : node.monitor = .awaitingAck rid peer reserved)
      (hverdict : transferAccepted rid peer (reserved.map taskId) response = true) :
      Answered node response { node with monitor := .confirming rid peer reserved reserved }
  | refused (rid : RequestId) (peer : WorkerId) (reserved : List Copy)
      (hmonitor : node.monitor = .awaitingAck rid peer reserved)
      (hverdict : transferAccepted rid peer (reserved.map taskId) response = false) :
      Answered node response { node with monitor := .releasing rid peer reserved reserved }

theorem answered_effect {rid : RequestId} (hawaited : node.awaited = some rid)
    (response : Option P2PResponse) :
    Answered node response (node.answered response) := by
  unfold awaited at hawaited
  cases hmonitor : node.monitor with
  | awaitingStatus rid' peer rest statuses =>
      unfold answered
      simp only [hmonitor]
      exact .status _ (by rw [hmonitor]; rfl) (by rw [hmonitor]; rfl) rfl rfl
  | awaitingAck rid' peer reserved =>
      unfold answered
      simp only [hmonitor]
      split_ifs with hverdict
      · exact .accepted rid' peer reserved hmonitor hverdict
      · exact .refused rid' peer reserved hmonitor (by simpa using hverdict)
  | idle => simp [hmonitor] at hawaited
  | asking rest statuses => simp [hmonitor] at hawaited
  | reserving peer candidates reserved => simp [hmonitor] at hawaited
  | confirming rid' peer reserved remaining => simp [hmonitor] at hawaited
  | releasing rid' peer reserved remaining => simp [hmonitor] at hawaited

theorem Answered.sameProcessing {response : Option P2PResponse}
    (heffect : Answered node response node') :
    SameProcessing node node' ∧ node'.received = node.received := by
  cases heffect <;> exact ⟨⟨rfl, rfl, rfl⟩, rfl⟩

theorem Sound.with_monitor (h : node.Sound) {monitor : Monitor}
    (hreserved : monitor.reserved = node.monitor.reserved)
    (hremaining : ∀ rid peer reserved, monitor.transfer = some (rid, peer, reserved) →
      (monitor.reserved : Multiset Copy) ≤ ↑reserved) :
    Sound { node with monitor := monitor } :=
  ⟨h.wellFormed, h.processing, by rw [h.reserved, hreserved], hremaining⟩

theorem sound_answered (h : node.Sound) {response : Option P2PResponse}
    (heffect : Answered node response node') : node'.Sound := by
  cases heffect with
  | status monitor hbefore _ hafter htransfer =>
      refine h.with_monitor (hafter.trans hbefore.symm) ?_
      intro rid peer reserved hsome
      rw [htransfer] at hsome
      cases hsome
  | accepted rid peer reserved hmonitor _ =>
      refine h.with_monitor (by rw [hmonitor]; rfl) ?_
      intro rid' peer' reserved' hsome
      cases hsome
      exact le_rfl
  | refused rid peer reserved hmonitor _ =>
      refine h.with_monitor (by rw [hmonitor]; rfl) ?_
      intro rid' peer' reserved' hsome
      cases hsome
      exact le_rfl

/-! ### Steps of the server thread -/

inductive Handled (w : WorkerId) (node : Node) (request : P2PRequest) :
    Node → Option P2PResponse → Bool → Prop
  | ignored (response : Option P2PResponse)
      (hresponse : ∀ r, response = some r → r.messageType ≠ .ACK) :
      Handled w node request node response false
  | repeated (previous : AckPayload)
      (hlookup : node.handledTransfers.lookup request.requestId = some previous) :
      Handled w node request node
        (some (ackResponse w request.requestId previous)) false
  | refused (payload : AckPayload) (hpayload : payload.accepted = false) :
      Handled w node request
        { node with
          handledTransfers := node.handledTransfers.insert request.requestId payload }
        (some (ackResponse w request.requestId payload)) false
  | accepted (raw tasks : List Copy) (reason : Option String)
      (hraw : request.payload = .transfer raw) (htaken : TakenOver raw tasks)
      (haccepted : (node.queue.tryEnqueueMany tasks).1.accepted = true) :
      Handled w node request
        { node with
          queue := (node.queue.tryEnqueueMany tasks).2
          handledTransfers := node.handledTransfers.insert request.requestId
            ⟨true, tasks.map taskId, reason⟩
          received := node.received ++ [(request.requestId, tasks)] }
        (some (ackResponse w request.requestId ⟨true, tasks.map taskId, reason⟩)) true

theorem handleConnection_effect (h : node.Sound) (peers : List WorkerId) (w : WorkerId)
    (request : P2PRequest) (now : ℚ) :
    let handled := node.handleConnection peers w request now
    Handled w node request handled.1 handled.2.1 handled.2.2 := by
  intro handled
  have hhandled : handled = node.handleConnection peers w request now := rfl
  unfold handleConnection at hhandled
  split_ifs at hhandled with hunknown
  · rw [hhandled]
    exact .ignored none (by simp)
  cases hpayload : request.payload with
  | statusRequest =>
      simp only [hpayload] at hhandled
      split at hhandled
      · rw [hhandled]
        exact .ignored none (by simp)
      · rw [hhandled]
        refine .ignored _ ?_
        rintro r hr
        cases hr
        simp
  | transfer raw =>
      simp only [hpayload] at hhandled
      cases hlookup : node.handledTransfers.lookup request.requestId with
      | some previous =>
          simp only [hlookup] at hhandled
          rw [hhandled]
          exact .repeated previous hlookup
      | none =>
          simp only [hlookup] at hhandled
          split_ifs at hhandled with hcount
          · cases hmap : raw.mapM Copy.fromDict with
            | error e =>
                simp only [hmap] at hhandled
                rw [hhandled]
                exact .ignored none (by simp)
            | ok decoded =>
                simp only [hmap] at hhandled
                have hforall := forall₂_of_mapM_eq_ok hmap
                rw [hhandled]
                obtain ⟨hno, hsame⟩ | ⟨hyes, _⟩ := ReadyQueue.tryEnqueueMany_cases
                  h.wellFormed (decoded.map (Copy.restamp now))
                · simp only [hno, hsame, Bool.false_eq_true, if_false]
                  exact .refused _ rfl
                · simp only [hyes, if_true]
                  exact .accepted raw _ _ hpayload ⟨now, decoded, hforall, rfl⟩ hyes
          · rw [hhandled]
            exact .ignored none (by simp)

theorem Handled.sameProcessing {request : P2PRequest} {response : Option P2PResponse}
    {changed : Bool} (heffect : Handled w node request node' response changed) :
    SameProcessing node node' ∧ node'.monitor = node.monitor := by
  cases heffect <;> exact ⟨⟨rfl, rfl, rfl⟩, rfl⟩

theorem Handled.received (h : node.Sound) {request : P2PRequest}
    {response : Option P2PResponse} {changed : Bool}
    (heffect : Handled w node request node' response changed) :
    node'.received = node.received ∨
      ∃ batch, node'.received = node.received ++ [(request.requestId, batch)] ∧
        ∀ copy ∈ batch, copy ∈ node'.queue.waiting := by
  cases heffect with
  | ignored response _ => exact .inl rfl
  | repeated previous _ => exact .inl rfl
  | refused payload _ => exact .inl rfl
  | accepted raw tasks reason _ _ haccepted =>
      refine .inr ⟨tasks, rfl, fun copy hcopy => ?_⟩
      obtain ⟨hno, _⟩ | ⟨_, _, _, _, hwaiting, _⟩ :=
        ReadyQueue.tryEnqueueMany_cases h.wellFormed tasks
      · rw [haccepted] at hno
        cases hno
      · rw [hwaiting]
        exact Multiset.mem_add.2 (.inl hcopy)

theorem sound_handled (h : node.Sound) {request : P2PRequest}
    {response : Option P2PResponse} {changed : Bool}
    (heffect : Handled w node request node' response changed) : node'.Sound := by
  cases heffect with
  | ignored response _ => exact h
  | repeated previous _ => exact h
  | refused payload _ => exact ⟨h.wellFormed, h.processing, h.reserved, h.remaining⟩
  | accepted raw tasks reason _ _ haccepted =>
      obtain ⟨hno, _⟩ | ⟨_, _, hwf, _, _, _, _, hreserved, hprocessing, _⟩ :=
        ReadyQueue.tryEnqueueMany_cases h.wellFormed tasks
      · rw [haccepted] at hno
        cases hno
      · exact ⟨hwf, hprocessing.trans h.processing,
          (aside_of_reserved_eq hreserved).trans h.reserved, h.remaining⟩

/-! ### Steps of the other threads -/

theorem sound_enqueue (h : node.Sound) (copy : Copy) (priority : Bool) :
    (node.enqueue copy priority).Sound := by
  unfold enqueue
  obtain ⟨_, hsame, _⟩ | ⟨_, _, hwf, _, _, hreserved, hprocessing, _⟩ :=
    ReadyQueue.tryEnqueue_cases h.wellFormed copy priority
  · rw [hsame]
    exact ⟨h.wellFormed, h.processing, h.reserved, h.remaining⟩
  · exact ⟨hwf, hprocessing.trans h.processing,
      (aside_of_reserved_eq hreserved).trans h.reserved, h.remaining⟩

theorem dequeue_cases (h : node.Sound) (hstep : node.dequeue = some node') :
    node.processor = .idle ∧ (node' = node ∨
      ∃ copy, node'.processor = .working copy ∧ node'.Sound ∧
        node.queue.waiting = copy ::ₘ node'.queue.waiting ∧
        node'.queue.aside = node.queue.aside ∧
        node' = { node with queue := node'.queue, processor := .working copy }) := by
  unfold dequeue at hstep
  cases hprocessor : node.processor with
  | working copy => simp [hprocessor] at hstep
  | reported copy => simp [hprocessor] at hstep
  | idle =>
      refine ⟨rfl, ?_⟩
      have hfree : node.queue.processingTaskId = none := by
        rw [h.processing, hprocessor]
        rfl
      simp only [hprocessor] at hstep
      obtain ⟨hq, _⟩ | ⟨copy, hsome, _, hwf, _, hwaiting, hreserved, hprocessing, _⟩ :=
        ReadyQueue.dequeueForProcessing_cases h.wellFormed hfree
      · rw [hq] at hstep
        cases hstep
        exact .inl rfl
      · simp only [hsome] at hstep
        cases hstep
        exact .inr ⟨copy, rfl, ⟨hwf, hprocessing,
          (aside_of_reserved_eq hreserved).trans h.reserved, h.remaining⟩, hwaiting,
          aside_of_reserved_eq hreserved, rfl⟩

theorem report_cases (hstep : node.report = some node') :
    ∃ copy, node.processor = .working copy ∧
      node' = { node with processor := .reported copy } := by
  unfold report at hstep
  cases hprocessor : node.processor with
  | working copy =>
      simp only [hprocessor] at hstep
      cases hstep
      exact ⟨copy, rfl, rfl⟩
  | reported copy => simp [hprocessor] at hstep
  | idle => simp [hprocessor] at hstep

theorem sound_report (h : node.Sound) (hstep : node.report = some node') :
    node'.Sound := by
  obtain ⟨copy, hprocessor, rfl⟩ := report_cases hstep
  refine ⟨h.wellFormed, ?_, h.reserved, h.remaining⟩
  rw [h.processing, hprocessor]
  rfl

theorem markDone_cases (h : node.Sound) (hstep : node.markDone = some node') :
    ∃ copy, node.processor = .reported copy ∧ node'.Sound ∧
      node'.queue.waiting = node.queue.waiting ∧ node'.queue.aside = node.queue.aside ∧
      node' = { node with
        queue := node'.queue
        processor := .idle
        finished := node.finished ++ [copy] } := by
  unfold markDone at hstep
  cases hprocessor : node.processor with
  | working copy => simp [hprocessor] at hstep
  | idle => simp [hprocessor] at hstep
  | reported copy =>
      simp only [hprocessor] at hstep
      cases hstep
      obtain ⟨hwf, hnormal, hpriority, hreserved, hprocessing, _⟩ :=
        ReadyQueue.markProcessingDone_spec h.wellFormed
      exact ⟨copy, rfl, ⟨hwf, hprocessing, h.reserved, h.remaining⟩, rfl, rfl, rfl⟩

end

end Node

end KVStore
