import Mathlib.Algebra.Order.BigOperators.Group.Finset
import Mathlib.Algebra.Order.Sub.Basic
import Mathlib.Data.Multiset.OrderedMonoid
import Mathlib.Tactic.Abel
import KVStore.Library.Custody
import KVStore.Worker.Protocol

/-!
# Who carries a task

A reserved task is carried by its sender until the peer has enqueued the batch,
and by the peer from then on: what the sender still has reserved is a ghost. With
this reading every step keeps the tasks that are carried, except that a sender who
gave up may put back a batch that its peer has enqueued all the same. While no sender gives
up the copies are conserved exactly.
-/

namespace KVStore

open HasTaskId

/-- The task whose result is not sent yet. -/
def Processor.unreported : Processor → Multiset Copy
  | .working copy => {copy}
  | _ => 0

def Processor.concluded : Processor → Multiset Copy
  | .reported copy => {copy}
  | _ => 0

/-- The copies whose result was sent. -/
def Node.spent (node : Node) : Multiset Copy :=
  node.processor.concluded + ↑node.finished

/-- All copies in one worker's keeping, or finished by it. -/
def Node.kept (node : Node) : Multiset Copy :=
  node.queue.waiting + node.queue.aside + ↑node.processor.copy.toList + ↑node.finished

theorem Node.SameProcessing.spent {node node' : Node} (h : node.SameProcessing node') :
    node'.spent = node.spent := by
  rw [Node.spent, Node.spent, h.processor, h.finished]

namespace Net

def Delivered (n : Net) (monitor : Monitor) : Prop :=
  ∃ rid peer reserved, monitor.transfer = some (rid, peer, reserved) ∧ n.Accepted peer rid

instance (n : Net) (monitor : Monitor) : Decidable (n.Delivered monitor) :=
  match h : monitor.transfer with
  | none => isFalse fun ⟨_, _, _, hsome, _⟩ => by
      rw [h] at hsome
      cases hsome
  | some (rid, peer, reserved) =>
      decidable_of_iff (n.Accepted peer rid)
        ⟨fun hacc => ⟨rid, peer, reserved, h, hacc⟩, fun ⟨_, _, _, hsome, hacc⟩ => by
          rw [h] at hsome
          cases hsome
          exact hacc⟩

/-- The reserved copies that no peer has enqueued. -/
def unsettled (n : Net) (node : Node) : Multiset Copy :=
  if n.Delivered node.monitor then 0 else node.queue.aside

/-- The copies a node carries: each may still be processed here or handed over. -/
def carried (n : Net) (node : Node) : Multiset Copy :=
  node.queue.waiting + n.unsettled node + node.processor.unreported

/-- The tokens of the copies that a worker carries. -/
def live (n : Net) (w : WorkerId) : Multiset Token := tokens (n.carried (n.nodes w))

def liveTotal (c : Config) (n : Net) : Multiset Token :=
  Custody.total c.workers.toFinset n.live

def spentTotal (c : Config) (n : Net) : Multiset Token :=
  Custody.total c.workers.toFinset fun w => tokens (n.nodes w).spent

def admittedTotal (c : Config) (n : Net) : Multiset Token :=
  Custody.total c.workers.toFinset fun w => tokens ↑(n.nodes w).admitted

def arrivals (n : Net) : Action → Multiset Copy
  | .enqueue w copy priority =>
      if ((n.nodes w).queue.tryEnqueue copy priority).1.accepted then {copy} else 0
  | _ => 0

def departures (n : Net) : Action → Multiset Copy
  | .report w => (n.nodes w).processor.unreported
  | _ => 0

/-- No sender has given up on a transfer: it waits as long as the transfer is in
flight, and puts a batch back only when its peer has refused it. -/
structure Calm (c : Config) (n : Net) : Prop where
  waiting : ∀ rid s v copies, ⟨rid, s, v, .transfer copies⟩ ∈ n.requests →
    s ∈ c.workers ∧ (n.nodes s).monitor = .awaitingAck rid v copies
  releasing : ∀ w rid peer reserved remaining,
    (n.nodes w).monitor = .releasing rid peer reserved remaining →
    n.Settled rid ∧ ¬ n.Accepted peer rid

section

variable {c : Config} {n n' : Net} {w : WorkerId} {node node' : Node}

theorem delivered_congr {monitor monitor' : Monitor}
    (htransfer : monitor'.transfer = monitor.transfer) :
    n.Delivered monitor' ↔ n.Delivered monitor := by
  rw [Delivered, Delivered, htransfer]

theorem delivered_setNode (hreceived : node.received = (n.nodes w).received)
    (monitor : Monitor) : (n.setNode w node).Delivered monitor ↔ n.Delivered monitor := by
  simp only [Delivered, accepted_setNode hreceived]

theorem carried_setNode (hreceived : node.received = (n.nodes w).received) (node' : Node) :
    (n.setNode w node).carried node' = n.carried node' := by
  simp only [carried, unsettled, delivered_setNode hreceived]

theorem live_setNode (hreceived : node.received = (n.nodes w).received) (v : WorkerId) :
    (n.setNode w node).live v = if v = w then tokens (n.carried node) else n.live v := by
  rw [live, live, carried_setNode hreceived, nodes_setNode]
  split_ifs <;> rfl

theorem liveTotal_setNode (hw : w ∈ c.workers)
    (hreceived : node.received = (n.nodes w).received) {taken given : Multiset Token}
    (hchange : tokens (n.carried (n.nodes w)) + taken = tokens (n.carried node) + given) :
    n.liveTotal c + taken = (n.setNode w node).liveTotal c + given := by
  refine Custody.total_exchange (List.mem_toFinset.2 hw) ?_ ?_
  · intro v _ hv
    rw [live_setNode hreceived, if_neg hv]
  · rw [live_setNode hreceived, if_pos rfl]
    exact hchange

theorem carried_congr (hwaiting : node'.queue.waiting = node.queue.waiting)
    (haside : node'.queue.aside = node.queue.aside)
    (htransfer : node'.monitor.transfer = node.monitor.transfer)
    (hprocessor : node'.processor.unreported = node.processor.unreported) :
    n.carried node' = n.carried node := by
  simp only [carried, unsettled, delivered_congr htransfer, hwaiting, haside, hprocessor]

theorem liveTotal_setNode_same (hw : w ∈ c.workers)
    (hreceived : node.received = (n.nodes w).received)
    (hcarried : n.carried node = n.carried (n.nodes w)) :
    (n.setNode w node).liveTotal c = n.liveTotal c := by
  have hchange : n.liveTotal c + 0 = (n.setNode w node).liveTotal c + 0 :=
    liveTotal_setNode hw hreceived (by rw [hcarried])
  rw [add_zero, add_zero] at hchange
  exact hchange.symm

theorem not_delivered_of_transfer_eq_none {monitor : Monitor}
    (h : monitor.transfer = none) : ¬ n.Delivered monitor := by
  rintro ⟨_, _, _, hsome, _⟩
  rw [h] at hsome
  cases hsome

theorem carried_of_not_delivered (h : ¬ n.Delivered node.monitor) :
    n.carried node = node.queue.waiting + node.queue.aside + node.processor.unreported := by
  rw [carried, unsettled, if_neg h]

theorem carried_of_delivered (h : n.Delivered node.monitor) :
    n.carried node = node.queue.waiting + node.processor.unreported := by
  rw [carried, unsettled, if_pos h, add_zero]

theorem unsettled_of_reserved_eq_nil (h : node.Sound) (hnil : node.monitor.reserved = []) :
    n.unsettled node = 0 := by
  have haside : node.queue.aside = 0 := by
    rw [h.reserved, hnil]
    rfl
  rw [unsettled, haside, ite_self]

theorem liveTotal_congr (hnodes : n'.nodes = n.nodes) : n'.liveTotal c = n.liveTotal c := by
  obtain ⟨nodes, _, _, _⟩ := n
  obtain ⟨nodes', _, _, _⟩ := n'
  cases hnodes
  rfl

/-! ### Steps -/

theorem live_balance (h : n.Protocol) (hw : w ∈ c.workers) {requestId : RequestId}
    {request : Option P2PRequest} (hfresh : requestId ∉ n.sent.map P2PRequest.requestId)
    (heffect : Node.Balanced w requestId (n.nodes w) node request) :
    ∃ surplus, n.liveTotal c + surplus = ((n.setNode w node).send request).liveTotal c ∧
      (n.Calm c → surplus = 0) := by
  have hsound := h.sound w
  have hsame := heffect.sameProcessing.2
  have hkept : n.carried node = n.carried (n.nodes w) →
      ∃ surplus, n.liveTotal c + surplus = ((n.setNode w node).send request).liveTotal c ∧
        (n.Calm c → surplus = 0) := by
    intro hcarried
    refine ⟨0, ?_, fun _ => rfl⟩
    rw [add_zero, liveTotal_congr (nodes_send _ _), liveTotal_setNode_same hw hsame hcarried]
  have hsound' := Node.sound_balanced hsound heffect
  cases heffect with
  | think monitor request _ hbefore hafter _ _ =>
      refine hkept ?_
      rw [carried, carried, unsettled_of_reserved_eq_nil hsound hbefore,
        unsettled_of_reserved_eq_nil hsound' hafter]
  | reserve peer t rest reserved hmonitor =>
      refine hkept ?_
      obtain ⟨_, _, haside, hwaiting⟩ := Node.reserve_spec hsound hmonitor
      have haside' : (n.nodes w).queue.aside = ↑reserved := by
        rw [hsound.reserved, hmonitor]
        rfl
      rw [carried_of_not_delivered (not_delivered_of_transfer_eq_none rfl),
        carried_of_not_delivered (not_delivered_of_transfer_eq_none (by rw [hmonitor]; rfl)),
        hwaiting, haside', haside, ← Multiset.coe_add]
      abel
  | transfer peer reserved hmonitor =>
      refine hkept ?_
      have hnot : ¬ n.Delivered (.awaitingAck requestId peer reserved) := by
        rintro ⟨_, _, _, hsome, hacc⟩
        cases hsome
        exact hfresh (h.accepted_settled hacc).1
      rw [carried_of_not_delivered hnot,
        carried_of_not_delivered (not_delivered_of_transfer_eq_none (by rw [hmonitor]; rfl))]
  | confirm rid peer reserved copy rest hmonitor =>
      refine hkept ?_
      obtain ⟨_, _, _, hwaiting⟩ := Node.confirm_spec hsound hmonitor
      have hacc := h.confirming w rid peer reserved _ hmonitor
      rw [carried_of_delivered ⟨rid, peer, reserved, rfl, hacc⟩,
        carried_of_delivered ⟨rid, peer, reserved, by rw [hmonitor]; rfl, hacc⟩, hwaiting]
  | release rid peer reserved copy rest hmonitor =>
      obtain ⟨_, _, haside, hwaiting⟩ := Node.release_spec hsound hmonitor
      by_cases hacc : n.Accepted peer rid
      · -- the sender gave up on a batch that was enqueued: now both have the copy
        refine ⟨{copy.token}, ?_, fun hcalm =>
          absurd hacc (hcalm.releasing w rid peer reserved _ hmonitor).2⟩
        rw [liveTotal_congr (nodes_send _ _), ← add_zero (liveTotal c (n.setNode w _))]
        refine liveTotal_setNode hw hsame ?_
        rw [carried_of_delivered ⟨rid, peer, reserved, by rw [hmonitor]; rfl, hacc⟩,
          carried_of_delivered ⟨rid, peer, reserved, rfl, hacc⟩, hwaiting, Multiset.cons_add,
          tokens_cons, add_zero, add_comm, Multiset.singleton_add]
      · refine hkept ?_
        have haside' : (n.nodes w).queue.aside = ↑(copy :: rest) := by
          rw [hsound.reserved, hmonitor]
          rfl
        have hnot : ∀ remaining, ¬ n.Delivered (.releasing rid peer reserved remaining) := by
          rintro remaining ⟨_, _, _, hsome, hacc'⟩
          cases hsome
          exact hacc hacc'
        rw [carried_of_not_delivered (hnot _), carried_of_not_delivered (by
          rw [hmonitor]; exact hnot _), hwaiting, haside, haside', ← Multiset.cons_coe,
          Multiset.cons_add, Multiset.add_cons]

/-- When a peer enqueues a batch, what the sender still has of it turns into ghosts. -/
theorem liveTotal_accept (h : n.Protocol) {rid : RequestId} {s : WorkerId}
    {copies : List Copy} (hsent : ⟨rid, s, w, .transfer copies⟩ ∈ n.sent)
    (hnot : ∀ v, ¬ n.Accepted v rid) (batch : List Copy) :
    ∃ ghosts ≤ tokens ↑copies,
      n.liveTotal c = (n.accept w rid batch).liveTotal c + ghosts ∧
      (s ∈ c.workers → (n.nodes s).monitor = .awaitingAck rid w copies →
        ghosts = tokens ↑copies) := by
  let n' := n.accept w rid batch
  have hnode : ∀ v, (n'.nodes v).queue = (n.nodes v).queue ∧
      (n'.nodes v).monitor = (n.nodes v).monitor ∧
      (n'.nodes v).processor = (n.nodes v).processor := by
    intro v
    rw [nodes_accept]
    exact ⟨rfl, rfl, rfl⟩
  -- only a monitor that has sent this transfer sees a difference
  have hdelivered : ∀ monitor : Monitor, n'.Delivered monitor ↔
      n.Delivered monitor ∨ ∃ reserved, monitor.transfer = some (rid, w, reserved) := by
    intro monitor
    constructor
    · rintro ⟨rid', peer, reserved, hsome, hacc⟩
      rcases (accepted_accept n w peer rid rid' batch).1 hacc with hacc | ⟨rfl, rfl⟩
      · exact .inl ⟨rid', peer, reserved, hsome, hacc⟩
      · exact .inr ⟨reserved, hsome⟩
    · rintro (⟨rid', peer, reserved, hsome, hacc⟩ | ⟨reserved, hsome⟩)
      · exact ⟨rid', peer, reserved, hsome,
          (accepted_accept n w peer rid rid' batch).2 (.inl hacc)⟩
      · exact ⟨rid, w, reserved, hsome,
          (accepted_accept n w w rid rid batch).2 (.inr ⟨rfl, rfl⟩)⟩
  have hsender : ∀ v reserved, (n.nodes v).monitor.transfer = some (rid, w, reserved) →
      v = s ∧ reserved = copies := by
    intro v reserved hsome
    have hrequest := h.eq_of_requestId (h.transfer v rid w reserved hsome) hsent rfl
    cases hrequest
    exact ⟨rfl, rfl⟩
  have hlive : ∀ v, (∀ reserved, (n.nodes v).monitor.transfer ≠ some (rid, w, reserved)) →
      n'.live v = n.live v := by
    intro v hno
    obtain ⟨hqueue, hmonitor, hprocessor⟩ := hnode v
    have hsame : n'.Delivered (n.nodes v).monitor ↔ n.Delivered (n.nodes v).monitor := by
      rw [hdelivered, or_iff_left]
      rintro ⟨reserved, hsome⟩
      exact hno reserved hsome
    simp only [live, carried, unsettled, hqueue, hmonitor, hprocessor, hsame]
  by_cases hinvolved : s ∈ c.workers ∧
      ∃ reserved, (n.nodes s).monitor.transfer = some (rid, w, reserved)
  · obtain ⟨hs, reserved, hsome⟩ := hinvolved
    obtain ⟨-, rfl⟩ := hsender s reserved hsome
    have haside := (h.sound s).reserved
    refine ⟨tokens (n.nodes s).queue.aside, ?_, ?_, ?_⟩
    · rw [haside]
      exact Multiset.map_le_map ((h.sound s).remaining rid w reserved hsome)
    · obtain ⟨hqueue, hmonitor, hprocessor⟩ := hnode s
      have hbefore : ¬ n.Delivered (n.nodes s).monitor := by
        rintro ⟨rid', peer, reserved', hsome', hacc⟩
        rw [hsome] at hsome'
        cases hsome'
        exact hnot w hacc
      have hafter : n'.Delivered (n'.nodes s).monitor := by
        rw [hmonitor]
        exact (hdelivered _).2 (.inr ⟨reserved, hsome⟩)
      refine (add_zero _).symm.trans (Custody.total_exchange (List.mem_toFinset.2 hs) ?_ ?_)
      · intro v _ hv
        refine hlive v ?_
        rintro reserved' hsome'
        exact hv (hsender v reserved' hsome').1
      · rw [live, live, carried_of_not_delivered hbefore, carried_of_delivered hafter, hqueue,
          hprocessor, ← tokens_add, add_zero, add_right_comm]
    · intro _ hawaiting
      rw [haside, hawaiting]
      rfl
  · refine ⟨0, Multiset.zero_le _, ?_, ?_⟩
    · rw [add_zero]
      refine (Custody.total_congr ?_).symm
      intro v hv
      refine hlive v ?_
      intro reserved hsome
      obtain ⟨rfl, -⟩ := hsender v reserved hsome
      exact hinvolved ⟨List.mem_toFinset.1 hv, reserved, hsome⟩
    · intro hs hawaiting
      exact absurd ⟨hs, copies, by rw [hawaiting]; rfl⟩ hinvolved

theorem live_served (h : n.Protocol) (hw : w ∈ c.workers) {request : P2PRequest}
    (hrequest : request ∈ n.requests) (hreceiver : request.receiver = w)
    {response : Option P2PResponse} {changed : Bool}
    (heffect : Node.Handled w (n.nodes w) request node response changed) :
    ∃ surplus, n.liveTotal c + surplus =
        (n.served w request.requestId node response changed).liveTotal c ∧
      (n.Calm c → surplus = 0) := by
  have hkept : ∀ node : Node, node.received = (n.nodes w).received →
      n.carried node = n.carried (n.nodes w) →
      ∃ surplus, n.liveTotal c + surplus = (n.setNode w node).liveTotal c ∧
        (n.Calm c → surplus = 0) := by
    intro node hreceived hcarried
    exact ⟨0, by rw [add_zero, liveTotal_setNode_same hw hreceived hcarried], fun _ => rfl⟩
  cases heffect with
  | ignored response _ => exact hkept _ rfl (carried_congr rfl rfl rfl rfl)
  | repeated previous _ => exact hkept _ rfl (carried_congr rfl rfl rfl rfl)
  | refused payload _ => exact hkept _ rfl (carried_congr rfl rfl rfl rfl)
  | accepted raw tasks reason hraw htaken haccepted =>
      have htokens : tokens ↑tasks = tokens ↑raw := by
        rw [tokens, tokens, Multiset.map_coe, Multiset.map_coe, htaken.map_token]
      have hrequest' : request = ⟨request.requestId, request.senderId, w, .transfer raw⟩ := by
        rw [← hreceiver, ← hraw]
      have hsent : ⟨request.requestId, request.senderId, w, .transfer raw⟩ ∈ n.sent :=
        hrequest' ▸ h.requests_sent request hrequest
      have hnot : ∀ v, ¬ n.Accepted v request.requestId := fun v hacc =>
        (h.accepted_settled hacc).2 request hrequest rfl
      obtain ⟨ghosts, hle, htotal, hcalm⟩ := liveTotal_accept (c := c) h hsent hnot tasks
      let n₂ := n.accept w request.requestId tasks
      obtain ⟨hno, _⟩ | ⟨_, _, _, _, hwaiting, _, _, hreserved, _, _⟩ :=
        ReadyQueue.tryEnqueueMany_cases (h.sound w).wellFormed tasks
      · rw [haccepted] at hno
        cases hno
      refine ⟨tokens ↑raw - ghosts, ?_, ?_⟩
      · rw [served_eq_accept _ _ _ _ _ _ tasks, htotal, add_assoc, add_tsub_cancel_of_le hle,
          ← htokens, ← add_zero (liveTotal c (setNode _ w _))]
        refine liveTotal_setNode (n := n₂) hw ?_ ?_
        · rw [show n₂ = n.accept w request.requestId tasks from rfl, nodes_accept, if_pos rfl]
        · rw [add_zero, ← tokens_add]
          refine congrArg tokens ?_
          simp only [n₂, nodes_accept, carried, unsettled, hwaiting,
            Node.aside_of_reserved_eq hreserved]
          abel
      · intro hc
        obtain ⟨hs, hawaiting⟩ := hc.waiting _ _ _ _ (hrequest' ▸ hrequest)
        rw [hcalm hs hawaiting]
        exact tsub_self _

theorem carried_answered (h : n.Protocol) {response : Option P2PResponse}
    (heffect : Node.Answered (n.nodes w) response node) :
    n.carried node = n.carried (n.nodes w) := by
  have hsound := h.sound w
  have hsound' := Node.sound_answered hsound heffect
  cases heffect with
  | status monitor hbefore _ hafter _ =>
      rw [carried, carried, unsettled_of_reserved_eq_nil hsound hbefore,
        unsettled_of_reserved_eq_nil hsound' hafter]
  | accepted rid peer reserved hmonitor _ =>
      exact carried_congr rfl rfl (by rw [hmonitor]; rfl) rfl
  | refused rid peer reserved hmonitor _ =>
      exact carried_congr rfl rfl (by rw [hmonitor]; rfl) rfl

/-- What a step does to the copies that are carried, spent and admitted. -/
structure Flow (c : Config) (n n' : Net) (arrived departed : Multiset Token) : Prop where
  live : ∃ surplus, n.liveTotal c + arrived + surplus = n'.liveTotal c + departed ∧
    (n.Calm c → surplus = 0)
  spent : n'.spentTotal c = n.spentTotal c + departed
  admitted : n'.admittedTotal c = n.admittedTotal c + arrived

theorem Flow.of_nodes {arrived departed : Multiset Token} (h : Flow c n n' arrived departed)
    {n₂ : Net} (hnodes : n₂.nodes = n'.nodes) : Flow c n n₂ arrived departed := by
  refine ⟨?_, ?_, ?_⟩
  · rw [liveTotal_congr hnodes]
    exact h.live
  · rw [spentTotal, hnodes]
    exact h.spent
  · rw [admittedTotal, hnodes]
    exact h.admitted

theorem flow_setNode (hw : w ∈ c.workers) (hreceived : node.received = (n.nodes w).received)
    {arrived departed : Multiset Copy}
    (hcarried : n.carried (n.nodes w) + arrived = n.carried node + departed)
    (hspent : node.spent = (n.nodes w).spent + departed)
    (hadmitted : (node.admitted : Multiset Copy) = ↑(n.nodes w).admitted + arrived) :
    Flow c n (n.setNode w node) (tokens arrived) (tokens departed) := by
  have hother : ∀ v, v ≠ w → (n.setNode w node).nodes v = n.nodes v := fun v hv =>
    nodes_setNode_of_ne n hv node
  have hmem := List.mem_toFinset.2 hw
  refine ⟨⟨0, ?_, fun _ => rfl⟩, ?_, ?_⟩
  · rw [add_zero]
    refine liveTotal_setNode hw hreceived ?_
    rw [← tokens_add, ← tokens_add, hcarried]
  · refine (add_zero _).symm.trans (Custody.total_exchange hmem ?_ ?_).symm
    · intro v _ hv
      rw [hother v hv]
    · rw [nodes_setNode_self, hspent, tokens_add, add_zero]
  · refine (add_zero _).symm.trans (Custody.total_exchange hmem ?_ ?_).symm
    · intro v _ hv
      rw [hother v hv]
    · rw [nodes_setNode_self, hadmitted, tokens_add, add_zero]

theorem flow_setNode_same (hw : w ∈ c.workers)
    (hreceived : node.received = (n.nodes w).received)
    (hcarried : n.carried node = n.carried (n.nodes w))
    (hspent : node.spent = (n.nodes w).spent)
    (hadmitted : node.admitted = (n.nodes w).admitted) :
    Flow c n (n.setNode w node) (tokens 0) (tokens 0) :=
  flow_setNode hw hreceived (by rw [hcarried]) (by rw [hspent, add_zero])
    (by rw [hadmitted, Multiset.add_zero])

theorem flow_of_live (hlive : ∃ surplus, n.liveTotal c + surplus = n'.liveTotal c ∧
      (n.Calm c → surplus = 0))
    (hsame : ∀ v, (n.nodes v).SameProcessing (n'.nodes v)) : Flow c n n' 0 0 := by
  refine ⟨?_, ?_, ?_⟩
  · rw [add_zero, add_zero]
    exact hlive
  · rw [add_zero]
    exact Custody.total_congr fun v _ => by rw [(hsame v).spent]
  · rw [add_zero]
    exact Custody.total_congr fun v _ => by rw [(hsame v).admitted]

theorem sameProcessing_setNode (h : (n.nodes w).SameProcessing node) (v : WorkerId) :
    (n.nodes v).SameProcessing ((n.setNode w node).nodes v) := by
  rw [nodes_setNode]
  split_ifs with hv
  · exact hv ▸ h
  · exact .refl _

theorem flow_step (h : n.Protocol) {a : Action} (hstep : step c n a = some n') :
    Flow c n n' (tokens (n.arrivals a)) (tokens (n.departures a)) := by
  cases stepped_of_step hstep with
  | enqueue w copy priority hw =>
      obtain ⟨hno, hsame, _⟩ | ⟨hyes, _, _, _, hwaiting, hreserved, _⟩ :=
        ReadyQueue.tryEnqueue_cases (h.sound w).wellFormed copy priority
      · simp only [arrivals, departures, hno, Bool.false_eq_true, if_false]
        exact flow_setNode_same hw rfl (by simp only [Node.enqueue, hsame]; rfl) rfl
          (by simp only [Node.enqueue, hno, Bool.false_eq_true, if_false])
      · simp only [arrivals, departures, hyes, if_true]
        refine flow_setNode hw ?_ ?_ ?_ ?_
        · rfl
        · simp only [Node.enqueue, carried, unsettled, hwaiting,
            Node.aside_of_reserved_eq hreserved, add_zero]
          rw [Multiset.cons_add, Multiset.cons_add, add_comm, Multiset.singleton_add]
        · exact (add_zero _).symm
        · simp only [Node.enqueue, hyes, if_true]
          rfl
  | dequeue w node hw hnode =>
      obtain ⟨hidle, rfl | ⟨copy, hworking, _, hwaiting, haside, heq⟩⟩ :=
        Node.dequeue_cases (h.sound w) hnode
      · exact flow_setNode_same hw rfl rfl rfl rfl
      · rw [heq]
        refine flow_setNode_same hw rfl ?_ ?_ rfl
        · simp only [carried, unsettled, hwaiting, haside, hidle, Processor.unreported,
            add_zero, Multiset.cons_add]
          rw [add_comm, Multiset.singleton_add]
        · simp only [Node.spent, hidle, Processor.concluded]
  | report w node hw hnode =>
      obtain ⟨copy, hworking, rfl⟩ := Node.report_cases hnode
      simp only [arrivals, departures, hworking]
      refine flow_setNode hw ?_ ?_ ?_ ?_
      · rfl
      · simp only [carried, unsettled, hworking, Processor.unreported, add_zero]
      · simp only [Node.spent, hworking, Processor.concluded, Processor.unreported, zero_add]
        rw [add_comm]
      · exact (add_zero _).symm
  | markDone w node hw hnode =>
      obtain ⟨copy, hreported, _, hwaiting, haside, heq⟩ :=
        Node.markDone_cases (h.sound w) hnode
      rw [heq]
      refine flow_setNode_same hw rfl (carried_congr hwaiting haside rfl ?_) ?_ rfl
      · rw [hreported]
        rfl
      · simp only [Node.spent, hreported, Processor.concluded, zero_add, ← Multiset.coe_add,
          Multiset.coe_singleton]
        rw [add_comm]
  | balance w requestId count node request changed hw hfresh hnode =>
      have heffect := Node.balanceStep_effect hnode
      refine flow_of_live (live_balance h hw hfresh heffect) fun v => ?_
      rw [nodes_send]
      exact sameProcessing_setNode heffect.sameProcessing.1 v
  | receive w rid reply hw hawaited _ =>
      have heffect := Node.answered_effect hawaited reply.response
      obtain ⟨hsame, hreceived⟩ := heffect.sameProcessing
      exact (flow_setNode_same hw hreceived (carried_answered h heffect) hsame.spent
        hsame.admitted).of_nodes rfl
  | giveUp w rid hw hawaited =>
      have heffect := Node.answered_effect hawaited none
      obtain ⟨hsame, hreceived⟩ := heffect.sameProcessing
      exact flow_setNode_same hw hreceived (carried_answered h heffect) hsame.spent
        hsame.admitted
  | serve w requestId now request hw _ hfind =>
      have hmem := List.mem_of_find?_eq_some hfind
      have hfound : request.requestId = requestId ∧ request.receiver = w := by
        simpa using List.find?_some hfind
      have heffect := Node.handleConnection_effect (h.sound w) (c.peersOf w) w request now
      have hlive := live_served h hw hmem hfound.2 heffect
      rw [hfound.1] at hlive
      obtain ⟨hprocessor, hadmitted, hfinished⟩ := heffect.sameProcessing.1
      exact flow_of_live hlive (sameProcessing_setNode ⟨hprocessor, hadmitted, hfinished⟩)
  | respond w served hw _ =>
      have hflow : Flow c n (n.setNode w { n.nodes w with server := none }) 0 0 :=
        flow_setNode_same hw rfl (carried_congr rfl rfl rfl rfl) rfl rfl
      exact hflow.of_nodes rfl
  | respondFail w served hw _ =>
      exact flow_setNode_same hw rfl (carried_congr rfl rfl rfl rfl) rfl rfl
  | loseRequest requestId =>
      exact flow_of_live ⟨0, add_zero _, fun _ => rfl⟩ fun _ => .refl _
  | loseReply requestId =>
      exact flow_of_live ⟨0, add_zero _, fun _ => rfl⟩ fun _ => .refl _

/-! ### Runs in which no sender gives up -/

theorem calm_init (c : Config) : init.Calm c := by
  refine ⟨?_, ?_⟩
  · intro rid s v copies h
    cases h
  · intro w rid peer reserved remaining h
    cases h

theorem Calm.of_same_monitor (h : n.Calm c)
    (hrequests : ∀ request ∈ n'.requests, request ∈ n.requests)
    (hmonitor : ∀ v, (n'.nodes v).monitor = (n.nodes v).monitor)
    (hsettled : ∀ rid, n.Settled rid → n'.Settled rid)
    (haccepted : ∀ v rid, n.Settled rid → n'.Accepted v rid → n.Accepted v rid) :
    n'.Calm c := by
  refine ⟨?_, ?_⟩
  · intro rid s v copies hmem
    rw [hmonitor]
    exact h.waiting rid s v copies (hrequests _ hmem)
  · intro w rid peer reserved remaining hrel
    rw [hmonitor] at hrel
    obtain ⟨hs, hnot⟩ := h.releasing w rid peer reserved remaining hrel
    exact ⟨hsettled rid hs, fun hacc => hnot (haccepted peer rid hs hacc)⟩

theorem Calm.setNode_local (h : n.Calm c)
    (hreceived : node.received = (n.nodes w).received)
    (hmonitor : node.monitor = (n.nodes w).monitor) : (n.setNode w node).Calm c := by
  refine h.of_same_monitor (fun _ hr => hr) ?_ (fun _ hs => hs) ?_
  · intro v
    rw [nodes_setNode]
    split_ifs with hv
    · rw [hmonitor, hv]
    · rfl
  · intro v rid _ hacc
    exact (accepted_setNode hreceived v rid).1 hacc

theorem Calm.setNode_monitor (h : n.Calm c)
    (hreceived : node.received = (n.nodes w).received)
    (hwaiting : ∀ rid v copies, ⟨rid, w, v, .transfer copies⟩ ∈ n.requests →
      node.monitor = .awaitingAck rid v copies)
    (hreleasing : ∀ rid peer reserved remaining,
      node.monitor = .releasing rid peer reserved remaining →
      n.Settled rid ∧ ¬ n.Accepted peer rid) : (n.setNode w node).Calm c := by
  refine ⟨?_, ?_⟩
  · intro rid s v copies hmem
    obtain ⟨hs, hawaiting⟩ := h.waiting rid s v copies hmem
    refine ⟨hs, ?_⟩
    rw [nodes_setNode]
    split_ifs with hv
    · exact hwaiting rid v copies (hv ▸ hmem)
    · exact hawaiting
  · intro v rid peer reserved remaining hrel
    rw [accepted_setNode hreceived]
    rw [nodes_setNode] at hrel
    split_ifs at hrel
    · exact hreleasing rid peer reserved remaining hrel
    · exact h.releasing v rid peer reserved remaining hrel

theorem Calm.send (h : n.Calm c) {request : P2PRequest}
    (hfresh : request.requestId ∉ n.sent.map P2PRequest.requestId)
    (hrequest : ∀ rid s v copies, ⟨rid, s, v, .transfer copies⟩ = request →
      s ∈ c.workers ∧ (n.nodes s).monitor = .awaitingAck rid v copies) :
    (n.send (some request)).Calm c := by
  refine ⟨?_, ?_⟩
  · intro rid s v copies hmem
    rcases List.mem_append.1 hmem with hmem | hmem
    · exact h.waiting rid s v copies hmem
    · exact hrequest rid s v copies (List.mem_singleton.1 hmem)
  · intro w rid peer reserved remaining hrel
    obtain ⟨hs, hnot⟩ := h.releasing w rid peer reserved remaining hrel
    exact ⟨hs.send hfresh, hnot⟩

theorem calm_balance (hcalm : n.Calm c) (hw : w ∈ c.workers)
    {requestId : RequestId} {request : Option P2PRequest}
    (hfresh : requestId ∉ n.sent.map P2PRequest.requestId)
    (heffect : Node.Balanced w requestId (n.nodes w) node request) :
    ((n.setNode w node).send request).Calm c := by
  have hreceived := heffect.sameProcessing.2
  -- a monitor that moves by itself has no transfer in flight
  have hidle : ∀ rid v copies, ⟨rid, w, v, .transfer copies⟩ ∉ n.requests := by
    intro rid v copies hmem
    have hawaiting := (hcalm.waiting rid w v copies hmem).2
    cases heffect with
    | think monitor request hfree _ _ _ _ => exact hfree rid v copies hawaiting
    | reserve peer t rest reserved hmonitor => simp [hawaiting] at hmonitor
    | transfer peer reserved hmonitor => simp [hawaiting] at hmonitor
    | confirm rid peer reserved copy rest hmonitor => simp [hawaiting] at hmonitor
    | release rid peer reserved copy rest hmonitor => simp [hawaiting] at hmonitor
  have hreleasing : ∀ rid peer reserved remaining,
      node.monitor = .releasing rid peer reserved remaining →
      n.Settled rid ∧ ¬ n.Accepted peer rid := by
    intro rid peer reserved remaining hrel
    cases heffect with
    | think monitor request _ _ _ htransfer _ =>
        rw [show monitor = _ from hrel] at htransfer
        cases htransfer
    | reserve peer t rest reserved hmonitor => cases hrel
    | transfer peer reserved hmonitor => cases hrel
    | confirm rid peer reserved copy rest hmonitor => cases hrel
    | release rid peer reserved copy rest hmonitor =>
        cases hrel
        exact hcalm.releasing w rid peer reserved _ hmonitor
  have hset : (n.setNode w node).Calm c :=
    hcalm.setNode_monitor hreceived (fun rid v copies hmem => absurd hmem (hidle rid v copies))
      hreleasing
  cases heffect with
  | think monitor request _ _ _ _ hrequest =>
      rcases hrequest with rfl | ⟨peer, rfl⟩
      · exact hset
      · refine hset.send hfresh ?_
        intro rid s v copies heq
        cases heq
  | reserve peer t rest reserved _ => exact hset
  | transfer peer reserved _ =>
      refine hset.send hfresh ?_
      intro rid s v copies heq
      cases heq
      exact ⟨hw, by rw [nodes_setNode_self]⟩
  | confirm rid peer reserved copy rest _ => exact hset
  | release rid peer reserved copy rest _ => exact hset

theorem calm_step (h : n.Protocol) (hcalm : n.Calm c) {a : Action}
    (hstays : ∀ w, a ≠ .giveUp w) (hstep : step c n a = some n') : n'.Calm c := by
  cases stepped_of_step hstep with
  | enqueue w copy priority _ =>
      exact hcalm.setNode_local rfl rfl
  | dequeue w node _ hnode =>
      obtain ⟨_, rfl | ⟨copy, _, _, _, _, heq⟩⟩ := Node.dequeue_cases (h.sound w) hnode
      · exact hcalm.setNode_local rfl rfl
      · rw [heq]
        exact hcalm.setNode_local rfl rfl
  | report w node _ hnode =>
      obtain ⟨copy, _, rfl⟩ := Node.report_cases hnode
      exact hcalm.setNode_local rfl rfl
  | markDone w node _ hnode =>
      obtain ⟨copy, _, _, _, _, heq⟩ := Node.markDone_cases (h.sound w) hnode
      rw [heq]
      exact hcalm.setNode_local rfl rfl
  | balance w requestId count node request changed hw hfresh hnode =>
      exact calm_balance hcalm hw hfresh (Node.balanceStep_effect hnode)
  | receive w rid reply _ hawaited hfind =>
      have hmem := List.mem_of_find?_eq_some hfind
      have hconn : reply.connection = rid := by simpa using List.find?_some hfind
      obtain ⟨hsettled, htruth⟩ := h.reply reply (.inl hmem)
      have heffect := Node.answered_effect hawaited reply.response
      have hrid : ∀ rid' peer reserved,
          (n.nodes w).monitor = .awaitingAck rid' peer reserved → rid' = reply.connection := by
        intro rid' peer reserved hmonitor
        rw [Node.awaited, hmonitor] at hawaited
        exact (Option.some.inj hawaited).trans hconn.symm
      have hset : (n.setNode w ((n.nodes w).answered reply.response)).Calm c := by
        refine hcalm.setNode_monitor heffect.sameProcessing.2 ?_ ?_
        · -- the transfer that is answered is not in flight any more
          intro rid' v copies hflight
          have hawaiting := (hcalm.waiting rid' w v copies hflight).2
          exact absurd (hrid rid' v copies hawaiting) (hsettled.2 _ hflight)
        · intro rid' peer reserved remaining hrel
          generalize (n.nodes w).answered reply.response = node at heffect hrel
          cases heffect with
          | status monitor _ _ _ htransfer =>
              rw [show monitor = _ from hrel] at htransfer
              cases htransfer
          | accepted rid'' peer' reserved' _ _ => cases hrel
          | refused rid'' peer' reserved' hmonitor hverdict =>
              cases hrel
              have hsent := h.transfer w rid' peer reserved (by rw [hmonitor]; rfl)
              obtain rfl := hrid rid' peer reserved hmonitor
              refine ⟨hsettled, fun hacc => ?_⟩
              rw [(htruth w peer reserved hsent).2 hacc] at hverdict
              cases hverdict
      exact hset.of_same_monitor (fun _ hr => hr) (fun _ => rfl) (fun _ hs => hs)
        (fun _ _ _ hacc => hacc)
  | giveUp w => exact absurd rfl (hstays w)
  | serve w requestId now request _ _ hfind =>
      have hmem := List.mem_of_find?_eq_some hfind
      have hfound : request.requestId = requestId ∧ request.receiver = w := by
        simpa using List.find?_some hfind
      have heffect := Node.handleConnection_effect (h.sound w) (c.peersOf w) w request now
      have hsub : ∀ r ∈ n.requests.filter (·.requestId ≠ requestId), r ∈ n.requests :=
        fun r hr => (List.mem_filter.1 hr).1
      refine hcalm.of_same_monitor hsub ?_
        (fun _ hs => hs.of_subset rfl hsub) ?_
      · intro v
        have hmonitor := heffect.sameProcessing.2
        simp only [nodes_setNode]
        split_ifs with hv
        · rw [hmonitor, hv]
        · rfl
      · intro v rid hs hacc
        have hne : requestId ≠ rid := hfound.1 ▸ hs.2 request hmem
        simp only [Accepted, nodes_setNode] at hacc ⊢
        split_ifs at hacc with hv
        · subst hv
          rcases heffect.received (h.sound v) with hsame | ⟨batch, hmore, _⟩
          · rwa [hsame] at hacc
          · rw [hmore, List.map_append] at hacc
            exact (List.mem_append.1 hacc).resolve_right fun hlast =>
              hne (hfound.1.symm.trans (List.mem_singleton.1 hlast).symm)
        · exact hacc
  | respond w served _ _ =>
      have hset : (n.setNode w { n.nodes w with server := none }).Calm c :=
        hcalm.setNode_local rfl rfl
      exact hset.of_same_monitor (fun _ hr => hr) (fun _ => rfl) (fun _ hs => hs)
        (fun _ _ _ hacc => hacc)
  | respondFail w served _ _ =>
      exact hcalm.setNode_local rfl rfl
  | loseRequest requestId =>
      have hsub : ∀ r ∈ n.requests.filter (·.requestId ≠ requestId), r ∈ n.requests :=
        fun r hr => (List.mem_filter.1 hr).1
      exact hcalm.of_same_monitor hsub (fun _ => rfl)
        (fun _ hs => hs.of_subset rfl hsub) (fun _ _ _ hacc => hacc)
  | loseReply requestId =>
      exact hcalm.of_same_monitor (fun _ hr => hr) (fun _ => rfl) (fun _ hs => hs)
        (fun _ _ _ hacc => hacc)

/-! ### No copy is lost -/

theorem carried_add_spent_le_kept (n : Net) (node : Node) :
    n.carried node + node.spent ≤ node.kept := by
  have hprocessor : node.processor.unreported + node.processor.concluded =
      ↑node.processor.copy.toList := by
    cases node.processor <;> rfl
  have hunsettled : n.unsettled node ≤ node.queue.aside := by
    rw [unsettled]
    split_ifs
    · exact Multiset.zero_le _
    · exact le_rfl
  calc n.carried node + node.spent
      = node.queue.waiting + n.unsettled node +
          (node.processor.unreported + node.processor.concluded) + ↑node.finished := by
        rw [carried, Node.spent, ← add_assoc, ← add_assoc]
    _ ≤ node.kept := by
        rw [Node.kept, hprocessor]
        gcongr

def keptTotal (c : Config) (n : Net) : Multiset Token :=
  Custody.total c.workers.toFinset fun w => tokens (n.nodes w).kept

theorem live_add_spent_le_keptTotal (c : Config) (n : Net) :
    n.liveTotal c + n.spentTotal c ≤ n.keptTotal c := by
  rw [liveTotal, spentTotal, keptTotal, Custody.total, Custody.total, Custody.total,
    ← Finset.sum_add_distrib]
  refine Finset.sum_le_sum fun w _ => ?_
  rw [live, ← tokens_add]
  exact Multiset.map_le_map (carried_add_spent_le_kept n (n.nodes w))

/-- The queue of `w` has accepted the copy, alone or in a batch. -/
def Took (n : Net) (w : WorkerId) (copy : Copy) : Prop :=
  copy ∈ (n.nodes w).admitted ∨ ∃ rid batch, (rid, batch) ∈ (n.nodes w).received ∧ copy ∈ batch

/-- A step adds to the copies that are carried or spent, and takes none away. -/
theorem Flow.le {arrived departed : Multiset Token} (h : Flow c n n' arrived departed) :
    n.liveTotal c + n.spentTotal c + arrived ≤ n'.liveTotal c + n'.spentTotal c := by
  obtain ⟨⟨surplus, hlive, _⟩, hspent, _⟩ := h
  calc n.liveTotal c + n.spentTotal c + arrived
      ≤ n.liveTotal c + n.spentTotal c + arrived + surplus := Multiset.le_add_right _ _
    _ = n.liveTotal c + arrived + surplus + n.spentTotal c := by abel
    _ = n'.liveTotal c + n'.spentTotal c := by
        rw [hlive, hspent]
        abel

/-- The protocol, and the books: what was accepted is carried or spent. -/
structure Accounted (c : Config) (n : Net) : Prop where
  protocol : n.Protocol
  admitted : n.admittedTotal c ≤ n.liveTotal c + n.spentTotal c
  received : ∀ v rid batch, (rid, batch) ∈ (n.nodes v).received → ∀ copy ∈ batch,
    copy.token ∈ n.liveTotal c + n.spentTotal c

theorem accounted_init (c : Config) : init.Accounted c := by
  refine ⟨.init, ?_, ?_⟩
  · rw [admittedTotal, Custody.total, Finset.sum_eq_zero]
    · exact Multiset.zero_le _
    · intro w _
      rfl
  · intro v rid batch h
    cases h

theorem received_step (h : n.Protocol) {a : Action} (hstep : step c n a = some n')
    (v : WorkerId) : (n'.nodes v).received = (n.nodes v).received ∨
      v ∈ c.workers ∧ ∃ rid batch,
        (n'.nodes v).received = (n.nodes v).received ++ [(rid, batch)] ∧
        ∀ copy ∈ batch, copy ∈ (n'.nodes v).queue.waiting := by
  have hsame : ∀ {w node}, node.received = (n.nodes w).received →
      ((n.setNode w node).nodes v).received = (n.nodes v).received := by
    intro w node hreceived
    rw [nodes_setNode]
    split_ifs with hv
    · rw [hreceived, hv]
    · rfl
  cases stepped_of_step hstep with
  | enqueue w copy priority _ =>
      exact .inl (hsame rfl)
  | dequeue w node _ hnode =>
      obtain ⟨_, rfl | ⟨copy, _, _, _, _, heq⟩⟩ := Node.dequeue_cases (h.sound w) hnode
      · exact .inl (hsame rfl)
      · rw [heq]
        exact .inl (hsame rfl)
  | report w node _ hnode =>
      obtain ⟨copy, _, rfl⟩ := Node.report_cases hnode
      exact .inl (hsame rfl)
  | markDone w node _ hnode =>
      obtain ⟨copy, _, _, _, _, heq⟩ := Node.markDone_cases (h.sound w) hnode
      rw [heq]
      exact .inl (hsame rfl)
  | balance w requestId count node request changed _ _ hnode =>
      rw [nodes_send]
      exact .inl (hsame (Node.balanceStep_effect hnode).sameProcessing.2)
  | receive w rid reply _ hawaited _ =>
      exact .inl (hsame (Node.answered_effect hawaited reply.response).sameProcessing.2)
  | giveUp w rid _ hawaited =>
      exact .inl (hsame (Node.answered_effect hawaited none).sameProcessing.2)
  | serve w requestId now request hw _ _ =>
      have heffect := Node.handleConnection_effect (h.sound w) (c.peersOf w) w request now
      simp only [nodes_setNode]
      split_ifs with hv
      · rw [hv]
        rcases heffect.received (h.sound w) with hreceived | ⟨batch, hreceived, hwaiting⟩
        · exact .inl hreceived
        · exact .inr ⟨hw, request.requestId, batch, hreceived, hwaiting⟩
      · exact .inl rfl
  | respond w served _ _ =>
      exact .inl (hsame (Eq.refl (n.nodes w).received))
  | respondFail w served _ _ =>
      exact .inl (hsame rfl)
  | loseRequest requestId =>
      exact .inl rfl
  | loseReply requestId =>
      exact .inl rfl

theorem accounted_step (h : n.Accounted c) {a : Action} (hstep : step c n a = some n') :
    n'.Accounted c := by
  have hflow := flow_step h.protocol hstep
  have hle := hflow.le
  refine ⟨protocol_step h.protocol hstep, ?_, ?_⟩
  · rw [hflow.admitted]
    exact (add_le_add_left h.admitted _).trans hle
  · intro v rid batch hmem copy hcopy
    have hkeep : copy.token ∈ n.liveTotal c + n.spentTotal c →
        copy.token ∈ n'.liveTotal c + n'.spentTotal c := fun hold =>
      Multiset.mem_of_le hle (Multiset.mem_add.2 (.inl hold))
    rcases received_step h.protocol hstep v with hsame | ⟨hv, rid', batch', hmore, hwaiting⟩
    · rw [hsame] at hmem
      exact hkeep (h.received v rid batch hmem copy hcopy)
    · rw [hmore] at hmem
      rcases List.mem_append.1 hmem with hmem | hmem
      · exact hkeep (h.received v rid batch hmem copy hcopy)
      · cases List.mem_singleton.1 hmem
        refine Multiset.mem_add.2 (.inl (Custody.mem_total.2 ⟨v, List.mem_toFinset.2 hv, ?_⟩))
        refine Multiset.mem_map_of_mem _ ?_
        rw [carried, add_assoc]
        exact Multiset.mem_add.2 (.inl (hwaiting copy hcopy))

theorem accounted_run {acts : List Action} (hrun : Transition.run (step c) init acts = some n) :
    n.Accounted c :=
  Transition.invariant_run (fun _ _ _ h hstep => accounted_step h hstep) (accounted_init c)
    hrun

/-- What holds of a handover, whatever is lost or comes late: every task that a
worker's queue has accepted is waiting, reserved or being processed at some worker, or
was finished by it, and none is counted twice; and a sender that drops a task with
`confirm_removed` does so for a batch that its peer has enqueued, once and as a
whole. -/
structure HandoverSafe (c : Config) (n : Net) : Prop where
  kept : ∀ s ∈ c.workers, ∀ copy, n.Took s copy →
    ∃ r ∈ c.workers, copy.token ∈ tokens (n.nodes r).kept
  counted : n.admittedTotal c ≤ n.keptTotal c
  confirmed : ∀ s rid r reserved copy rest,
    (n.nodes s).monitor = .confirming rid r reserved (copy :: rest) →
    copy ∈ reserved ∧ ((n.nodes r).received.map Prod.fst).count rid = 1 ∧
      ∃ batch, (rid, batch) ∈ (n.nodes r).received ∧ TakenOver reserved batch

/-- **P2P handover.** Every run of the workers' P2P services is safe. -/
theorem handover_safe {acts : List Action}
    (hrun : Transition.run (step c) init acts = some n) : n.HandoverSafe c := by
  have h := accounted_run hrun
  have hkept := live_add_spent_le_keptTotal c n
  refine ⟨?_, h.admitted.trans hkept, ?_⟩
  · intro s hs copy htook
    refine Custody.mem_total.1 (Multiset.mem_of_le hkept ?_) |>.imp fun r hr =>
      ⟨List.mem_toFinset.1 hr.1, hr.2⟩
    rcases htook with hadmitted | ⟨rid, batch, hmem, hcopy⟩
    · refine Multiset.mem_of_le h.admitted (Custody.mem_total.2 ⟨s, List.mem_toFinset.2 hs, ?_⟩)
      exact Multiset.mem_map_of_mem _ hadmitted
    · exact h.received s rid batch hmem copy hcopy
  · intro s rid r reserved copy rest hmonitor
    have hle := (h.protocol.sound s).remaining rid r reserved (by rw [hmonitor]; rfl)
    rw [hmonitor] at hle
    have hsent := h.protocol.transfer s rid r reserved (by rw [hmonitor]; rfl)
    have hacc := h.protocol.confirming s rid r reserved _ hmonitor
    exact ⟨Multiset.mem_of_le hle (Multiset.mem_coe.2 List.mem_cons_self),
      List.count_eq_one_of_mem (h.protocol.nodup_received r) hacc,
      h.protocol.batch_of_accepted hsent hacc⟩

end

/-- Two workers that are each other's peers. -/
def pair : Config where
  workers := ["worker1", "worker2"]
  peers := fun _ => ["worker1", "worker2"]

/-- Eight tasks make `worker1` overloaded. -/
def overload : List Action :=
  (List.range 8).map fun k =>
    .enqueue "worker1" ⟨{ taskId := s!"task-{k}", key := "00ff", value := 1 }, k⟩ false

/-- A round of `balance_once` of `worker1` up to the answer of `worker2`; `r` makes its
request ids. -/
def round (r : ℕ → RequestId) : List Action :=
  [.balance "worker1" (r 0) 1, .balance "worker1" (r 1) 1, .serve "worker2" (r 1) 0,
    .respond "worker2", .receive "worker1", .balance "worker1" (r 2) 1,
    .balance "worker1" (r 3) 1, .balance "worker1" (r 4) 1, .serve "worker2" (r 4) 0,
    .respond "worker2"]

/-- The answer to a first transfer is lost and both workers have the task; a second
transfer is acknowledged. -/
def lostAck : List Action :=
  overload ++ round (fun k => s!"first-{k}") ++
    [.loseReply "first-4", .giveUp "worker1", .balance "worker1" "first-5" 1,
      .balance "worker1" "first-6" 1, .dequeue "worker2", .report "worker2",
      .markDone "worker2"] ++
    round (fun k => s!"second-{k}") ++ [.receive "worker1"]

set_option maxRecDepth 100000 in
theorem handover_safe_lost_ack :
    ∃ n, Transition.run (step pair) init lostAck = some n ∧ n.HandoverSafe pair ∧
      (n.nodes "worker2").received.length = 2 := by
  have hp : (Transition.run (step pair) init lostAck).any
      (fun n => (n.nodes "worker2").received.length = 2) = true := by decide +kernel
  obtain ⟨n, hn, hreceived⟩ := (Option.any_eq_true _ _).1 hp
  exact ⟨n, hn, handover_safe hn, of_decide_eq_true hreceived⟩

end Net

end KVStore
