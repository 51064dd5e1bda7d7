import KVStore.Worker.Circulation

/-!
# What a step does to one queue

The copies in a queue are those in its deques and the reserved ones; their number is the
size that the worker reports. A queue gains a copy when it admits one and a batch when
the server thread takes it over, and loses one when the processor takes it or the
monitor removes it after a handover. No other step changes it.
-/

namespace KVStore

open HasTaskId

/-- The monitor removes what it handed over, and reports when it is through. -/
def Monitor.isConfirming : Monitor → Bool
  | .confirming _ _ _ _ => true
  | _ => false

theorem Monitor.isConfirming_iff {monitor : Monitor} : monitor.isConfirming = true ↔
    ∃ rid peer reserved remaining, monitor = .confirming rid peer reserved remaining := by
  cases monitor with
  | confirming rid peer reserved remaining =>
      exact iff_of_true rfl ⟨rid, peer, reserved, remaining, rfl⟩
  | _ => exact iff_of_false nofun nofun

def Node.queued (node : Node) : Multiset Copy := node.queue.waiting + node.queue.aside

theorem Node.Answered.queue {node node' : Node} {response : Option P2PResponse}
    (heffect : node.Answered response node') : node'.queue = node.queue := by
  cases heffect <;> rfl

theorem Node.Answered.standing {node node' : Node} {response : Option P2PResponse}
    {rid : RequestId} (heffect : node.Answered response node')
    (hawaited : node.awaited = some rid) :
    node'.server = node.server ∧ node.monitor.isConfirming = false := by
  refine ⟨by cases heffect <;> rfl, ?_⟩
  unfold Node.awaited at hawaited
  cases hmonitor : node.monitor with
  | confirming => simp [hmonitor] at hawaited
  | _ => rfl

theorem Node.card_queued (node : Node) : node.queued.card = node.queue.sizeLocked := by
  rw [Node.queued, Multiset.card_add, ReadyQueue.waiting, ReadyQueue.aside, Multiset.coe_card,
    Multiset.coe_card, List.length_append, List.length_map, ReadyQueue.sizeLocked]
  congr 1
  exact (Dict.length_values _)

theorem ReadyQueue.capacity_perform {τ : Type*} [HasTaskId τ] [DecidableEq τ]
    (q : ReadyQueue τ) (call : ReadyQueue.Call τ) : (q.perform call).2.capacity = q.capacity := by
  cases call with
  | tryEnqueue task priority =>
      change (q.tryEnqueue task priority).2.capacity = _
      unfold tryEnqueue
      split_ifs <;> rfl
  | tryEnqueueMany tasks =>
      change (q.tryEnqueueMany tasks).2.capacity = _
      unfold tryEnqueueMany
      dsimp only
      split_ifs <;> rfl
  | dequeueForProcessing =>
      change q.dequeueForProcessing.2.capacity = _
      unfold dequeueForProcessing
      split <;> rfl
  | markProcessingDone => rfl
  | peekTransferCandidates count => rfl
  | reserveForTransfer t =>
      change (q.reserveForTransfer t).2.capacity = _
      unfold reserveForTransfer
      split
      · rfl
      · split <;> rfl
  | confirmRemoved t =>
      change (q.confirmRemoved t).2.capacity = _
      unfold confirmRemoved
      split <;> rfl
  | releaseReservation t =>
      change (q.releaseReservation t).2.capacity = _
      unfold releaseReservation
      split <;> rfl

theorem Node.Handled.capacity {node node' : Node} {w : WorkerId} {request : P2PRequest}
    {response : Option P2PResponse} {changed : Bool}
    (heffect : Node.Handled w node request node' response changed) :
    node'.queue.capacity = node.queue.capacity := by
  cases heffect with
  | ignored => rfl
  | repeated => rfl
  | refused => rfl
  | accepted raw tasks => exact ReadyQueue.capacity_perform _ (.tryEnqueueMany tasks)

theorem ReadyQueue.accepted_or_duplicate {τ : Type*} [HasTaskId τ] {q : ReadyQueue τ} (task : τ)
    (priority : Bool) (hroom : ¬ q.capacity ≤ q.sizeLocked) :
    (q.tryEnqueue task priority).1.accepted = true ∨
      (q.tryEnqueue task priority).1.reason = some "duplicate" := by
  unfold tryEnqueue
  by_cases hactive : taskId task ∈ q.activeTaskIds
  · rw [if_pos hactive]
    exact .inr rfl
  · rw [if_neg hactive, if_neg hroom]
    exact .inl rfl

namespace Net

def Action.worker : Action → Option WorkerId
  | .enqueue w _ _ => some w
  | .dequeue w => some w
  | .report w => some w
  | .markDone w => some w
  | .balance w _ _ => some w
  | .receive w => some w
  | .giveUp w => some w
  | .serve w _ _ => some w
  | .respond w => some w
  | .respondFail w => some w
  | .loseRequest _ => none
  | .loseReply _ => none

/-- What becomes of the copies in the queue of `w`. -/
inductive Shift (c : Config) (n : Net) (w : WorkerId) : Action → Multiset Copy → Prop
  | kept (a : Action) : Shift c n w a (n.nodes w).queued
  | enqueued (copy : Copy) (priority : Bool)
      (haccepted : ((n.nodes w).queue.tryEnqueue copy priority).1.accepted = true) :
      Shift c n w (.enqueue w copy priority) (copy ::ₘ (n.nodes w).queued)
  | dequeued (copy : Copy) (rest : Multiset Copy)
      (hqueued : (n.nodes w).queued = copy ::ₘ rest) : Shift c n w (.dequeue w) rest
  | confirmed (requestId : RequestId) (count : ℕ) (rid : RequestId) (peer : WorkerId)
      (reserved remaining : List Copy) (copy : Copy) (rest : Multiset Copy)
      (hmonitor : (n.nodes w).monitor = .confirming rid peer reserved (copy :: remaining))
      (hqueued : (n.nodes w).queued = copy ::ₘ rest) :
      Shift c n w (.balance w requestId count) rest
  | taken (requestId : RequestId) (now : ℚ) (request : P2PRequest) (raw tasks : List Copy)
      (hfind : n.requests.find? (fun r => r.requestId = requestId ∧ r.receiver = w) =
        some request)
      (hraw : request.payload = .transfer raw) (htaken : TakenOver raw tasks)
      (haccepted : ((n.nodes w).queue.tryEnqueueMany tasks).1.accepted = true)
      (hchanged : ((n.nodes w).handleConnection (c.peersOf w) w request now).2.2 = true) :
      Shift c n w (.serve w requestId now) (↑tasks + (n.nodes w).queued)

section

variable {c : Config} {n n' : Net} {w : WorkerId} {node : Node}

/-- The steps of the monitor keep the queue, but for the removal after a handover. -/
theorem shift_balance (h : (n.nodes w).Sound) {requestId : RequestId} {count : ℕ}
    {request : Option P2PRequest}
    (heffect : Node.Balanced w requestId (n.nodes w) node request) :
    Shift c n w (.balance w requestId count) node.queued := by
  have hkept : node.queued = (n.nodes w).queued →
      Shift c n w (.balance w requestId count) node.queued := by
    intro hsame
    rw [hsame]
    exact .kept _
  cases heffect with
  | think monitor request _ _ _ _ _ => exact hkept rfl
  | reserve peer t rest reserved hmonitor =>
      apply hkept
      obtain ⟨_, _, haside, hwaiting⟩ := Node.reserve_spec h hmonitor
      have haside' : (n.nodes w).queue.aside = ↑reserved := by
        rw [h.reserved, hmonitor]
        rfl
      rw [Node.queued, Node.queued, hwaiting, haside', haside, ← Multiset.coe_add]
      abel
  | transfer peer reserved _ => exact hkept rfl
  | confirm rid peer reserved copy rest hmonitor =>
      obtain ⟨_, _, haside, hwaiting⟩ := Node.confirm_spec h hmonitor
      have haside' : (n.nodes w).queue.aside = ↑(copy :: rest) := by
        rw [h.reserved, hmonitor]
        rfl
      refine .confirmed requestId count rid peer reserved rest copy _ hmonitor ?_
      rw [Node.queued, Node.queued, hwaiting, haside', haside, ← Multiset.cons_coe,
        Multiset.add_cons]
  | release rid peer reserved copy rest hmonitor =>
      apply hkept
      obtain ⟨_, _, haside, hwaiting⟩ := Node.release_spec h hmonitor
      have haside' : (n.nodes w).queue.aside = ↑(copy :: rest) := by
        rw [h.reserved, hmonitor]
        rfl
      rw [Node.queued, Node.queued, hwaiting, haside', haside, ← Multiset.cons_coe,
        Multiset.cons_add, Multiset.add_cons]

theorem shift_setNode {a : Action} {v : WorkerId}
    (hnode : w = v → Shift c n w a node.queued) :
    Shift c n w a ((n.setNode v node).nodes w).queued := by
  rw [nodes_setNode]
  split_ifs with hv
  · exact hnode hv
  · exact .kept a

theorem shift_step (h : n.Protocol) {a : Action} (hstep : step c n a = some n')
    (w : WorkerId) : Shift c n w a (n'.nodes w).queued := by
  cases stepped_of_step hstep with
  | enqueue v copy priority _ =>
      apply shift_setNode
      rintro rfl
      obtain ⟨_, hsame, _⟩ | ⟨hyes, _, _, _, hwaiting, hreserved, _⟩ :=
        ReadyQueue.tryEnqueue_cases (h.sound w).wellFormed copy priority
      · have hqueued : ((n.nodes w).enqueue copy priority).queued = (n.nodes w).queued := by
          simp only [Node.enqueue, Node.queued, hsame]
        rw [hqueued]
        exact .kept _
      · have hqueued : ((n.nodes w).enqueue copy priority).queued =
            copy ::ₘ (n.nodes w).queued := by
          simp only [Node.enqueue, Node.queued, hwaiting, Node.aside_of_reserved_eq hreserved,
            Multiset.cons_add]
        rw [hqueued]
        exact .enqueued copy priority hyes
  | dequeue v node _ hnode =>
      apply shift_setNode
      rintro rfl
      obtain ⟨_, rfl | ⟨copy, _, _, hwaiting, haside, _⟩⟩ := Node.dequeue_cases (h.sound w) hnode
      · exact .kept _
      · refine .dequeued copy _ ?_
        rw [Node.queued, Node.queued, hwaiting, haside, Multiset.cons_add]
  | report v node _ hnode =>
      apply shift_setNode
      rintro rfl
      obtain ⟨copy, _, rfl⟩ := Node.report_cases hnode
      exact .kept _
  | markDone v node _ hnode =>
      apply shift_setNode
      rintro rfl
      obtain ⟨copy, _, _, hwaiting, haside, _⟩ := Node.markDone_cases (h.sound w) hnode
      rw [Node.queued, hwaiting, haside]
      exact .kept _
  | balance v requestId count node request changed _ _ hnode =>
      rw [nodes_send]
      apply shift_setNode
      rintro rfl
      exact shift_balance (h.sound w) (Node.balanceStep_effect hnode)
  | receive v rid reply _ hawaited _ =>
      have hqueue := (Node.answered_effect hawaited reply.response).queue
      apply shift_setNode
      rintro rfl
      rw [Node.queued, hqueue]
      exact .kept _
  | giveUp v rid _ hawaited =>
      have hqueue := (Node.answered_effect hawaited none).queue
      apply shift_setNode
      rintro rfl
      rw [Node.queued, hqueue]
      exact .kept _
  | serve v requestId now request _ _ hfind =>
      have heffect := Node.handleConnection_effect (h.sound v) (c.peersOf v) v request now
      apply shift_setNode
      rintro rfl
      revert heffect
      generalize hhandled : (n.nodes w).handleConnection (c.peersOf w) w request now = handled
      obtain ⟨node, response, changed⟩ := handled
      intro heffect
      cases heffect with
      | ignored response _ => exact .kept _
      | repeated previous _ => exact .kept _
      | refused payload _ => exact .kept _
      | accepted raw tasks reason hraw htaken haccepted =>
          obtain ⟨hno, _⟩ | ⟨_, _, _, _, hwaiting, _, _, hreserved, _⟩ :=
            ReadyQueue.tryEnqueueMany_cases (h.sound w).wellFormed tasks
          · rw [haccepted] at hno
            cases hno
          · have hqueued : ((n.nodes w).queue.tryEnqueueMany tasks).2.waiting +
                ((n.nodes w).queue.tryEnqueueMany tasks).2.aside = ↑tasks + (n.nodes w).queued := by
              rw [Node.queued, hwaiting, Node.aside_of_reserved_eq hreserved, add_assoc]
            have hfind' : n.requests.find?
                (fun r => r.requestId = requestId ∧ r.receiver = w) = some request := hfind
            have htaken' :=
              Shift.taken (c := c) (w := w) requestId now request raw tasks hfind' hraw htaken
                haccepted (by rw [hhandled])
            rwa [← hqueued] at htaken'
  | respond v served _ _ =>
      apply shift_setNode
      rintro rfl
      exact .kept _
  | respondFail v served _ _ =>
      apply shift_setNode
      rintro rfl
      exact .kept _
  | loseRequest requestId =>
      exact .kept _
  | loseReply requestId =>
      exact .kept _

theorem processing_step (h : n.Protocol) {a : Action} (hstep : step c n a = some n')
    {copy : Copy} (hcopy : (n'.nodes w).processor.copy = some copy) :
    (n.nodes w).processor.copy = some copy ∨
      (a = .dequeue w ∧ copy ∈ (n.nodes w).queued) := by
  have hsame : ∀ (v : WorkerId) (node : Node), n'.nodes = (n.setNode v node).nodes →
      node.processor = (n.nodes v).processor → (n.nodes w).processor.copy = some copy := by
    intro v node hnodes hprocessor
    rw [hnodes, nodes_setNode] at hcopy
    split_ifs at hcopy with hv
    · rw [hv, ← hprocessor]
      exact hcopy
    · exact hcopy
  cases stepped_of_step hstep with
  | enqueue v copy' priority _ =>
      exact .inl (hsame v _ rfl rfl)
  | dequeue v node _ hnode =>
      obtain ⟨_, rfl | ⟨taken, hworking, _, hwaiting, _, _⟩⟩ :=
        Node.dequeue_cases (h.sound v) hnode
      · exact .inl (hsame v _ rfl rfl)
      · rw [nodes_setNode] at hcopy
        split_ifs at hcopy with hv
        · subst hv
          rw [hworking] at hcopy
          cases hcopy
          refine .inr ⟨rfl, Multiset.mem_add.2 (.inl ?_)⟩
          rw [hwaiting]
          exact Multiset.mem_cons_self _ _
        · exact .inl hcopy
  | report v node _ hnode =>
      obtain ⟨reported, hworking, rfl⟩ := Node.report_cases hnode
      rw [nodes_setNode] at hcopy
      split_ifs at hcopy with hv
      · subst hv
        rw [hworking]
        exact .inl hcopy
      · exact .inl hcopy
  | markDone v node _ hnode =>
      obtain ⟨done, _, _, _, _, heq⟩ := Node.markDone_cases (h.sound v) hnode
      rw [nodes_setNode] at hcopy
      split_ifs at hcopy with hv
      · rw [heq] at hcopy
        cases hcopy
      · exact .inl hcopy
  | balance v requestId count node request changed _ _ hnode =>
      have hprocessor := (Node.balanceStep_effect hnode).sameProcessing.1.processor
      exact .inl (hsame v node (nodes_send _ _) hprocessor)
  | receive v rid reply _ hawaited _ =>
      have hprocessor := (Node.answered_effect hawaited reply.response).sameProcessing.1.processor
      exact .inl (hsame v _ rfl hprocessor)
  | giveUp v rid _ hawaited =>
      have hprocessor := (Node.answered_effect hawaited none).sameProcessing.1.processor
      exact .inl (hsame v _ rfl hprocessor)
  | serve v requestId now request _ _ hfind =>
      have heffect := Node.handleConnection_effect (h.sound v) (c.peersOf v) v request now
      have hprocessor := heffect.sameProcessing.1.processor
      exact .inl (hsame v _ rfl hprocessor)
  | respond v served _ _ =>
      exact .inl (hsame v _ rfl rfl)
  | respondFail v served _ _ =>
      exact .inl (hsame v _ rfl rfl)
  | loseRequest requestId =>
      exact .inl hcopy
  | loseReply requestId =>
      exact .inl hcopy

theorem nodes_step_of_ne {a : Action} (hstep : step c n a = some n')
    (ha : ∀ v, a.worker = some v → w ≠ v) : n'.nodes w = n.nodes w := by
  have hother : ∀ v, a.worker = some v → ∀ (n₁ : Net) (node : Node),
      n₁.nodes = (n.setNode v node).nodes → n₁.nodes w = n.nodes w := by
    intro v hv n₁ node hnodes
    rw [hnodes, nodes_setNode_of_ne n (ha v hv)]
  cases stepped_of_step hstep with
  | enqueue v copy priority _ =>
      exact hother v rfl _ _ rfl
  | dequeue v node _ _ =>
      exact hother v rfl _ node rfl
  | report v node _ _ =>
      exact hother v rfl _ node rfl
  | markDone v node _ _ =>
      exact hother v rfl _ node rfl
  | balance v requestId count node request changed _ _ _ =>
      exact hother v rfl _ node (nodes_send _ _)
  | receive v rid reply _ _ _ =>
      exact hother v rfl _ _ rfl
  | giveUp v rid _ _ =>
      exact hother v rfl _ _ rfl
  | serve v requestId now request _ _ _ =>
      exact hother v rfl _ _ rfl
  | respond v served _ _ =>
      exact hother v rfl _ _ rfl
  | respondFail v served _ _ =>
      exact hother v rfl _ _ rfl
  | loseRequest requestId =>
      rfl
  | loseReply requestId =>
      rfl

/-- The server thread that changed its queue has to answer, and the monitor that removes
tasks has to go through all of them. -/
theorem standing_step (h : n.Protocol) {a : Action} (hstep : step c n a = some n') :
    ((n.nodes w).server.map Prod.snd = some true →
      (n'.nodes w).server = (n.nodes w).server ∨ a = .respond w ∨ a = .respondFail w) ∧
    ((n.nodes w).monitor.isConfirming = true → (n'.nodes w).monitor.isConfirming = true ∨
      ∃ requestId count rid peer reserved, a = .balance w requestId count ∧
        (n.nodes w).monitor = .confirming rid peer reserved []) := by
  by_cases ha : a.worker = some w
  swap
  · have hsame : n'.nodes w = n.nodes w :=
      nodes_step_of_ne hstep fun v hv heq => ha (by rw [hv, heq])
    rw [hsame]
    exact ⟨fun _ => .inl rfl, .inl⟩
  have hnode : ∀ {node : Node}, n'.nodes = (n.setNode w node).nodes →
      node.server = (n.nodes w).server →
      ((n.nodes w).monitor.isConfirming = true → node.monitor.isConfirming = true ∨
        ∃ requestId count rid peer reserved, a = .balance w requestId count ∧
          (n.nodes w).monitor = .confirming rid peer reserved []) →
      ((n.nodes w).server.map Prod.snd = some true →
        (n'.nodes w).server = (n.nodes w).server ∨ a = .respond w ∨ a = .respondFail w) ∧
      ((n.nodes w).monitor.isConfirming = true → (n'.nodes w).monitor.isConfirming = true ∨
        ∃ requestId count rid peer reserved, a = .balance w requestId count ∧
          (n.nodes w).monitor = .confirming rid peer reserved []) := by
    intro node hnodes hserver hmonitor
    rw [hnodes, nodes_setNode_self]
    exact ⟨fun _ => .inl hserver, hmonitor⟩
  cases stepped_of_step hstep with
  | enqueue v copy priority _ =>
      cases ha
      exact hnode rfl rfl .inl
  | dequeue v node _ hdequeue =>
      cases ha
      obtain ⟨_, rfl | ⟨copy, _, _, _, _, heq⟩⟩ := Node.dequeue_cases (h.sound w) hdequeue
      · exact hnode rfl rfl .inl
      · exact hnode rfl (by rw [heq]) fun hconfirming => .inl (by rw [heq]; exact hconfirming)
  | report v node _ hreport =>
      cases ha
      obtain ⟨copy, _, rfl⟩ := Node.report_cases hreport
      exact hnode rfl rfl .inl
  | markDone v node _ hdone =>
      cases ha
      obtain ⟨copy, _, _, _, _, heq⟩ := Node.markDone_cases (h.sound w) hdone
      exact hnode rfl (by rw [heq]) fun hconfirming => .inl (by rw [heq]; exact hconfirming)
  | balance v requestId count node request changed _ _ hbalance =>
      cases ha
      cases Node.balanceStep_effect hbalance with
      | think monitor _ hfree hbefore hafter htransfer hrequest =>
          refine hnode (nodes_send _ _) rfl fun hconfirming => .inr ?_
          obtain ⟨rid, peer, reserved, remaining, hmonitor⟩ :=
            Monitor.isConfirming_iff.1 hconfirming
          rw [hmonitor] at hbefore
          cases hbefore
          exact ⟨requestId, count, rid, peer, reserved, rfl, hmonitor⟩
      | reserve peer t rest reserved hmonitor =>
          refine hnode (nodes_send _ _) rfl fun hconfirming => ?_
          rw [hmonitor] at hconfirming
          cases hconfirming
      | transfer peer reserved hmonitor =>
          refine hnode (nodes_send _ _) rfl fun hconfirming => ?_
          rw [hmonitor] at hconfirming
          cases hconfirming
      | confirm rid peer reserved copy rest hmonitor =>
          exact hnode (nodes_send _ _) rfl fun _ => .inl rfl
      | release rid peer reserved copy rest hmonitor =>
          refine hnode (nodes_send _ _) rfl fun hconfirming => ?_
          rw [hmonitor] at hconfirming
          cases hconfirming
  | receive v rid reply _ hawaited _ =>
      cases ha
      obtain ⟨hserver, hconfirming⟩ :=
        (Node.answered_effect hawaited reply.response).standing hawaited
      exact hnode rfl hserver fun hold => absurd hold (by rw [hconfirming]; decide)
  | giveUp v rid _ hawaited =>
      cases ha
      obtain ⟨hserver, hconfirming⟩ := (Node.answered_effect hawaited none).standing hawaited
      exact hnode rfl hserver fun hold => absurd hold (by rw [hconfirming]; decide)
  | serve v requestId now request _ hfree hfind =>
      cases ha
      have heffect := Node.handleConnection_effect (h.sound w) (c.peersOf w) w request now
      have hmonitor := heffect.sameProcessing.2
      refine ⟨fun hserved => ?_, fun hconfirming => .inl ?_⟩
      · rw [hfree] at hserved
        cases hserved
      · change (((n.setNode w _).nodes w).monitor).isConfirming = true
        rw [nodes_setNode_self]
        change ((n.nodes w).handleConnection (c.peersOf w) w request now).1.monitor.isConfirming =
          true
        rw [hmonitor, hconfirming]
  | respond v served _ _ =>
      cases ha
      refine ⟨fun _ => .inr (.inl rfl), fun hconfirming => .inl ?_⟩
      change (((n.setNode w _).nodes w).monitor).isConfirming = true
      rw [nodes_setNode_self]
      exact hconfirming
  | respondFail v served _ _ =>
      cases ha
      refine ⟨fun _ => .inr (.inr rfl), fun hconfirming => .inl ?_⟩
      rw [nodes_setNode_self]
      exact hconfirming
  | loseRequest requestId => cases ha
  | loseReply requestId => cases ha

theorem capacity_step (h : n.Protocol) {a : Action} (hstep : step c n a = some n')
    (w : WorkerId) : (n'.nodes w).queue.capacity = (n.nodes w).queue.capacity := by
  have hnode : ∀ (v : WorkerId) (node : Node), n'.nodes = (n.setNode v node).nodes →
      node.queue.capacity = (n.nodes v).queue.capacity →
      (n'.nodes w).queue.capacity = (n.nodes w).queue.capacity := by
    intro v node hnodes hcapacity
    rw [hnodes, nodes_setNode]
    split_ifs with hv
    · rw [hv, hcapacity]
    · rfl
  cases stepped_of_step hstep with
  | enqueue v copy priority _ =>
      exact hnode v _ rfl (ReadyQueue.capacity_perform _ (.tryEnqueue copy priority))
  | dequeue v node _ hdequeue =>
      refine hnode v node rfl ?_
      unfold Node.dequeue at hdequeue
      split at hdequeue
      · split at hdequeue
        · cases hdequeue
          exact ReadyQueue.capacity_perform _ .dequeueForProcessing
        · cases hdequeue
          rfl
      · cases hdequeue
  | report v node _ hreport =>
      obtain ⟨copy, _, rfl⟩ := Node.report_cases hreport
      exact hnode v _ rfl rfl
  | markDone v node _ hdone =>
      refine hnode v node rfl ?_
      unfold Node.markDone at hdone
      split at hdone
      · cases hdone
        exact ReadyQueue.capacity_perform _ .markProcessingDone
      · cases hdone
  | balance v requestId count node request changed _ _ hbalance =>
      refine hnode v node (nodes_send _ _) ?_
      cases Node.balanceStep_effect hbalance with
      | think => rfl
      | reserve peer t => exact ReadyQueue.capacity_perform _ (.reserveForTransfer t)
      | transfer => rfl
      | confirm _ _ _ copy => exact ReadyQueue.capacity_perform _ (.confirmRemoved (taskId copy))
      | release _ _ _ copy =>
          exact ReadyQueue.capacity_perform _ (.releaseReservation (taskId copy))
  | receive v rid reply _ hawaited _ =>
      have hqueue := (Node.answered_effect hawaited reply.response).queue
      exact hnode v _ rfl (congrArg ReadyQueue.capacity hqueue)
  | giveUp v rid _ hawaited =>
      have hqueue := (Node.answered_effect hawaited none).queue
      exact hnode v _ rfl (congrArg ReadyQueue.capacity hqueue)
  | serve v requestId now request _ _ hfind =>
      refine hnode v _ rfl ?_
      have heffect := Node.handleConnection_effect (h.sound v) (c.peersOf v) v request now
      exact heffect.capacity
  | respond v served _ _ =>
      exact hnode v _ rfl rfl
  | respondFail v served _ _ =>
      exact hnode v _ rfl rfl
  | loseRequest requestId =>
      rfl
  | loseReply requestId =>
      rfl

end

end Net

end KVStore
