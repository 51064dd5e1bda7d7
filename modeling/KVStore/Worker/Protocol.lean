import KVStore.Worker.Node

/-!
# The handover protocol

`Protocol` relates what a sender waits for, what its peer has enqueued and what
is in flight. A request id names one request for ever. Once a request is settled,
that is delivered or lost, the peer's decision on it is final, and every answer
that is still on its way says what that decision was.
-/

namespace KVStore

open HasTaskId

namespace Net

def Accepted (n : Net) (v : WorkerId) (requestId : RequestId) : Prop :=
  requestId ∈ (n.nodes v).received.map Prod.fst

instance (n : Net) (v : WorkerId) (requestId : RequestId) :
    Decidable (n.Accepted v requestId) :=
  inferInstanceAs (Decidable (_ ∈ _))

/-- The request was sent and is no longer in flight. -/
def Settled (n : Net) (requestId : RequestId) : Prop :=
  requestId ∈ n.sent.map P2PRequest.requestId ∧
    ∀ request ∈ n.requests, request.requestId ≠ requestId

/-- The reply is in flight or about to be sent. -/
def Replying (n : Net) (reply : P2PReply) : Prop :=
  reply ∈ n.replies ∨ ∃ w changed, (n.nodes w).server = some (reply, changed)

/-- The reply says what the receiver of its request decided. -/
def Truthful (n : Net) (reply : P2PReply) : Prop :=
  ∀ s v copies, ⟨reply.connection, s, v, .transfer copies⟩ ∈ n.sent →
    (Node.transferAccepted reply.connection v (copies.map taskId) reply.response = true ↔
      n.Accepted v reply.connection)

structure Protocol (n : Net) : Prop where
  sound : ∀ w, (n.nodes w).Sound
  nodup_sent : (n.sent.map P2PRequest.requestId).Nodup
  requests_sent : ∀ request ∈ n.requests, request ∈ n.sent
  nodup_received : ∀ v, ((n.nodes v).received.map Prod.fst).Nodup
  received : ∀ v rid batch, (rid, batch) ∈ (n.nodes v).received → n.Settled rid ∧
    ∃ s copies, ⟨rid, s, v, .transfer copies⟩ ∈ n.sent ∧ TakenOver copies batch
  handled : ∀ v rid payload, (n.nodes v).handledTransfers.lookup rid = some payload →
    n.Settled rid
  reply : ∀ reply, n.Replying reply → n.Settled reply.connection ∧ n.Truthful reply
  transfer : ∀ w rid peer reserved,
    (n.nodes w).monitor.transfer = some (rid, peer, reserved) →
    ⟨rid, w, peer, .transfer reserved⟩ ∈ n.sent
  confirming : ∀ w rid peer reserved remaining,
    (n.nodes w).monitor = .confirming rid peer reserved remaining → n.Accepted peer rid

theorem nodes_setNode (n : Net) (w v : WorkerId) (node : Node) :
    (n.setNode w node).nodes v = if v = w then node else n.nodes v := by
  simp only [setNode, Function.update_apply]

@[simp] theorem nodes_setNode_self (n : Net) (w : WorkerId) (node : Node) :
    (n.setNode w node).nodes w = node := by
  rw [nodes_setNode, if_pos rfl]

theorem nodes_setNode_of_ne (n : Net) {w v : WorkerId} (h : v ≠ w) (node : Node) :
    (n.setNode w node).nodes v = n.nodes v := by
  rw [nodes_setNode, if_neg h]

@[simp] theorem requests_setNode (n : Net) (w : WorkerId) (node : Node) :
    (n.setNode w node).requests = n.requests := rfl

@[simp] theorem replies_setNode (n : Net) (w : WorkerId) (node : Node) :
    (n.setNode w node).replies = n.replies := rfl

@[simp] theorem sent_setNode (n : Net) (w : WorkerId) (node : Node) :
    (n.setNode w node).sent = n.sent := rfl

@[simp] theorem nodes_send (n : Net) (request : Option P2PRequest) :
    (n.send request).nodes = n.nodes := by
  cases request <;> rfl

theorem setNode_send (n : Net) (w : WorkerId) (node : Node)
    (request : Option P2PRequest) :
    (n.setNode w node).send request = (n.send request).setNode w node := by
  cases request <;> rfl

theorem Settled.of_subset {n n' : Net} {rid : RequestId} (h : n.Settled rid)
    (hsent : n'.sent = n.sent) (hrequests : ∀ request ∈ n'.requests, request ∈ n.requests) :
    n'.Settled rid :=
  ⟨by rw [hsent]; exact h.1, fun request hr => h.2 request (hrequests request hr)⟩

theorem Settled.send {n : Net} {request : P2PRequest} {rid : RequestId} (h : n.Settled rid)
    (hfresh : request.requestId ∉ n.sent.map P2PRequest.requestId) :
    (n.send (some request)).Settled rid := by
  refine ⟨?_, fun r hr => ?_⟩
  · rw [Net.send, List.map_append]
    exact List.mem_append_left _ h.1
  · rcases List.mem_append.1 hr with hr | hr
    · exact h.2 r hr
    · rw [List.mem_singleton.1 hr]
      rintro rfl
      exact hfresh h.1

theorem accepted_setNode {n : Net} {w : WorkerId} {node : Node}
    (hreceived : node.received = (n.nodes w).received) (v : WorkerId) (rid : RequestId) :
    (n.setNode w node).Accepted v rid ↔ n.Accepted v rid := by
  rw [Accepted, Accepted, nodes_setNode]
  split_ifs with hv
  · rw [hreceived, hv]
  · rfl

/-- The request is taken off the network. -/
def withdraw (n : Net) (rid : RequestId) : Net :=
  { n with requests := n.requests.filter (·.requestId ≠ rid) }

def accept (n : Net) (w : WorkerId) (rid : RequestId) (batch : List Copy) : Net :=
  n.setNode w { n.nodes w with received := (n.nodes w).received ++ [(rid, batch)] }

theorem nodes_accept (n : Net) (w v : WorkerId) (rid : RequestId) (batch : List Copy) :
    (n.accept w rid batch).nodes v = { n.nodes v with
      received :=
        if v = w then (n.nodes v).received ++ [(rid, batch)] else (n.nodes v).received } := by
  rw [accept, nodes_setNode]
  split_ifs with hv
  · rw [hv]
  · rfl

theorem accepted_accept (n : Net) (w v : WorkerId) (rid rid' : RequestId)
    (batch : List Copy) :
    (n.accept w rid batch).Accepted v rid' ↔ n.Accepted v rid' ∨ (v = w ∧ rid' = rid) := by
  rw [Accepted, Accepted, nodes_accept]
  split_ifs with hv
  · simp [hv]
  · simp [hv]

namespace Protocol

variable {n n' : Net} {w : WorkerId} {node : Node}

theorem init : Protocol Net.init := by
  refine ⟨fun _ => Node.sound_init, List.nodup_nil, ?_, fun _ => List.nodup_nil, ?_, ?_, ?_,
    ?_, ?_⟩
  · intro request h
    cases h
  · intro v rid batch h
    cases h
  · intro v rid payload h
    cases h
  · rintro reply (h | ⟨w, changed, h⟩)
    · cases h
    · cases h
  · intro w rid peer reserved h
    cases h
  · intro w rid peer reserved remaining h
    cases h

theorem eq_of_requestId (h : n.Protocol) {r r' : P2PRequest} (hr : r ∈ n.sent)
    (hr' : r' ∈ n.sent) (hid : r.requestId = r'.requestId) : r = r' :=
  List.inj_on_of_nodup_map h.nodup_sent hr hr' hid

theorem accepted_settled (h : n.Protocol) {v : WorkerId} {rid : RequestId}
    (hacc : n.Accepted v rid) : n.Settled rid := by
  obtain ⟨⟨_, batch⟩, hmem, rfl⟩ := List.mem_map.1 hacc
  exact (h.received v _ batch hmem).1

theorem batch_of_accepted (h : n.Protocol) {s v : WorkerId} {rid : RequestId}
    {copies : List Copy} (hsent : ⟨rid, s, v, .transfer copies⟩ ∈ n.sent)
    (hacc : n.Accepted v rid) :
    ∃ batch, (rid, batch) ∈ (n.nodes v).received ∧ TakenOver copies batch := by
  obtain ⟨⟨_, batch⟩, hmem, rfl⟩ := List.mem_map.1 hacc
  obtain ⟨_, s', copies', hsent', htaken⟩ := h.received v _ batch hmem
  have hsame := h.eq_of_requestId hsent hsent' rfl
  cases hsame
  exact ⟨batch, hmem, htaken⟩

/-- A node is replaced by one that has received the same: its cache only knows
settled requests, its pending reply is truthful, and its monitor knows no more than
what was sent. -/
theorem setNode (h : n.Protocol) (hsound : node.Sound)
    (hreceived : node.received = (n.nodes w).received)
    (hhandled : ∀ rid payload, node.handledTransfers.lookup rid = some payload →
      n.Settled rid)
    (hserver : ∀ reply changed, node.server = some (reply, changed) →
      n.Settled reply.connection ∧ n.Truthful reply)
    (htransfer : ∀ rid peer reserved, node.monitor.transfer = some (rid, peer, reserved) →
      ⟨rid, w, peer, .transfer reserved⟩ ∈ n.sent)
    (hconfirming : ∀ rid peer reserved remaining,
      node.monitor = .confirming rid peer reserved remaining → n.Accepted peer rid) :
    (n.setNode w node).Protocol := by
  have hsame : ∀ v, ((n.setNode w node).nodes v).received = (n.nodes v).received := by
    intro v
    rw [nodes_setNode]
    split_ifs with hv
    · rw [hreceived, hv]
    · rfl
  have hacc := accepted_setNode hreceived
  refine ⟨?_, h.nodup_sent, h.requests_sent, ?_, ?_, ?_, ?_, ?_, ?_⟩
  · intro v
    rw [nodes_setNode]
    split_ifs
    · exact hsound
    · exact h.sound v
  · intro v
    rw [hsame]
    exact h.nodup_received v
  · intro v rid batch hmem
    rw [hsame] at hmem
    exact h.received v rid batch hmem
  · intro v rid payload hlookup
    rw [nodes_setNode] at hlookup
    split_ifs at hlookup with hv
    · exact hhandled rid payload hlookup
    · exact h.handled v rid payload hlookup
  · rintro reply hreply
    have hold : n.Settled reply.connection ∧ n.Truthful reply := by
      rcases hreply with hreply | ⟨v, changed, hreply⟩
      · exact h.reply reply (.inl hreply)
      · rw [nodes_setNode] at hreply
        split_ifs at hreply with hv
        · exact hserver reply changed hreply
        · exact h.reply reply (.inr ⟨v, changed, hreply⟩)
    refine ⟨hold.1, fun s v copies hsent => ?_⟩
    rw [hacc]
    exact hold.2 s v copies hsent
  · intro v rid peer reserved hsome
    rw [nodes_setNode] at hsome
    split_ifs at hsome with hv
    · exact hv ▸ htransfer rid peer reserved hsome
    · exact h.transfer v rid peer reserved hsome
  · intro v rid peer reserved remaining hmonitor
    rw [hacc]
    rw [nodes_setNode] at hmonitor
    split_ifs at hmonitor with hv
    · exact hconfirming rid peer reserved remaining hmonitor
    · exact h.confirming v rid peer reserved remaining hmonitor

theorem setNode_same (h : n.Protocol) (hsound : node.Sound)
    (hreceived : node.received = (n.nodes w).received)
    (hhandled : node.handledTransfers = (n.nodes w).handledTransfers)
    (hserver : node.server = (n.nodes w).server)
    (htransfer : ∀ rid peer reserved, node.monitor.transfer = some (rid, peer, reserved) →
      ⟨rid, w, peer, .transfer reserved⟩ ∈ n.sent)
    (hconfirming : ∀ rid peer reserved remaining,
      node.monitor = .confirming rid peer reserved remaining → n.Accepted peer rid) :
    (n.setNode w node).Protocol :=
  h.setNode hsound hreceived
    (fun rid payload hlookup => h.handled w rid payload (hhandled ▸ hlookup))
    (fun reply changed hreply => h.reply reply (.inr ⟨w, changed, hserver ▸ hreply⟩))
    htransfer hconfirming

theorem setNode_local (h : n.Protocol) (hsound : node.Sound)
    (hreceived : node.received = (n.nodes w).received)
    (hhandled : node.handledTransfers = (n.nodes w).handledTransfers)
    (hserver : node.server = (n.nodes w).server)
    (hmonitor : node.monitor = (n.nodes w).monitor) : (n.setNode w node).Protocol :=
  h.setNode_same hsound hreceived hhandled hserver
    (fun rid peer reserved hsome => h.transfer w rid peer reserved (hmonitor ▸ hsome))
    (fun rid peer reserved remaining hsome =>
      h.confirming w rid peer reserved remaining (hmonitor ▸ hsome))

theorem lose (h : n.Protocol) (hnodes : n'.nodes = n.nodes) (hsent : n'.sent = n.sent)
    (hrequests : ∀ request ∈ n'.requests, request ∈ n.requests)
    (hreplies : ∀ reply ∈ n'.replies, reply ∈ n.replies) : n'.Protocol := by
  have hsettled : ∀ rid, n.Settled rid → n'.Settled rid :=
    fun rid hs => hs.of_subset hsent hrequests
  refine ⟨?_, ?_, ?_, ?_, ?_, ?_, ?_, ?_, ?_⟩
  · rw [hnodes]
    exact h.sound
  · rw [hsent]
    exact h.nodup_sent
  · intro request hr
    rw [hsent]
    exact h.requests_sent request (hrequests request hr)
  · rw [hnodes]
    exact h.nodup_received
  · intro v rid batch hmem
    rw [hnodes] at hmem
    obtain ⟨hs, hbatch⟩ := h.received v rid batch hmem
    rw [hsent]
    exact ⟨hsettled rid hs, hbatch⟩
  · intro v rid payload hlookup
    rw [hnodes] at hlookup
    exact hsettled rid (h.handled v rid payload hlookup)
  · intro reply hreply
    have hold : n.Replying reply := by
      rcases hreply with hreply | ⟨v, changed, hreply⟩
      · exact .inl (hreplies reply hreply)
      · exact .inr ⟨v, changed, by rw [← hnodes, hreply]⟩
    obtain ⟨hs, htruth⟩ := h.reply reply hold
    refine ⟨hsettled _ hs, ?_⟩
    intro s v copies hmem
    rw [hsent] at hmem
    rw [Accepted, hnodes]
    exact htruth s v copies hmem
  · intro v rid peer reserved hsome
    rw [hnodes] at hsome
    rw [hsent]
    exact h.transfer v rid peer reserved hsome
  · intro v rid peer reserved remaining hmonitor
    rw [hnodes] at hmonitor
    rw [Accepted, hnodes]
    exact h.confirming v rid peer reserved remaining hmonitor

theorem post (h : n.Protocol) {reply : P2PReply} (hsettled : n.Settled reply.connection)
    (htruth : n.Truthful reply) :
    Protocol { n with replies := n.replies ++ [reply] } := by
  refine ⟨h.sound, h.nodup_sent, h.requests_sent, h.nodup_received, h.received, h.handled,
    ?_, h.transfer, h.confirming⟩
  rintro other (hmem | hserver)
  · rcases List.mem_append.1 hmem with hmem | hmem
    · exact h.reply other (.inl hmem)
    · rw [List.mem_singleton.1 hmem]
      exact ⟨hsettled, htruth⟩
  · exact h.reply other (.inr hserver)

theorem send (h : n.Protocol) {request : P2PRequest}
    (hfresh : request.requestId ∉ n.sent.map P2PRequest.requestId) :
    (n.send (some request)).Protocol := by
  have hsettled : ∀ rid, n.Settled rid → (n.send (some request)).Settled rid :=
    fun rid hs => hs.send hfresh
  have hold : ∀ s v copies rid, rid ∈ n.sent.map P2PRequest.requestId →
      ⟨rid, s, v, P2PPayload.transfer copies⟩ ∈ (n.send (some request)).sent →
      ⟨rid, s, v, P2PPayload.transfer copies⟩ ∈ n.sent := by
    intro s v copies rid hrid hmem
    rcases List.mem_append.1 hmem with hmem | hmem
    · exact hmem
    · rw [← List.mem_singleton.1 hmem] at hfresh
      exact absurd hrid hfresh
  refine ⟨h.sound, ?_, ?_, h.nodup_received, ?_, ?_, ?_, ?_, h.confirming⟩
  · rw [Net.send, List.map_append]
    refine List.nodup_append_comm.1 (List.nodup_cons.2 ⟨hfresh, h.nodup_sent⟩)
  · intro r hr
    rcases List.mem_append.1 hr with hr | hr
    · exact List.mem_append_left _ (h.requests_sent r hr)
    · exact List.mem_append_right _ hr
  · intro v rid batch hmem
    obtain ⟨hs, s, copies, hsent, htaken⟩ := h.received v rid batch hmem
    exact ⟨hsettled rid hs, s, copies, List.mem_append_left _ hsent, htaken⟩
  · intro v rid payload hlookup
    exact hsettled rid (h.handled v rid payload hlookup)
  · intro reply hreply
    obtain ⟨hs, htruth⟩ := h.reply reply hreply
    exact ⟨hsettled _ hs, fun s v copies hmem =>
      htruth s v copies (hold s v copies _ hs.1 hmem)⟩
  · intro v rid peer reserved hsome
    exact List.mem_append_left _ (h.transfer v rid peer reserved hsome)

/-- A settled request that nobody has decided on is accepted by its receiver. -/
theorem receive (h : n.Protocol) {rid : RequestId} {batch : List Copy}
    (hsettled : n.Settled rid) (hnot : ∀ v, ¬ n.Accepted v rid)
    (hreply : ∀ reply, n.Replying reply → reply.connection ≠ rid)
    (hbatch : ∃ s copies, ⟨rid, s, w, .transfer copies⟩ ∈ n.sent ∧
      TakenOver copies batch) :
    (n.accept w rid batch).Protocol := by
  have hacc := fun v rid' => n.accepted_accept w v rid rid' batch
  refine ⟨?_, h.nodup_sent, h.requests_sent, ?_, ?_, ?_, ?_, ?_, ?_⟩
  · intro v
    rw [nodes_accept]
    exact ⟨(h.sound v).wellFormed, (h.sound v).processing, (h.sound v).reserved,
      (h.sound v).remaining⟩
  · intro v
    rw [nodes_accept]
    split_ifs
    · rw [List.map_append]
      exact List.nodup_append_comm.1 (List.nodup_cons.2 ⟨hnot v, h.nodup_received v⟩)
    · exact h.nodup_received v
  · intro v rid' batch' hmem
    rw [nodes_accept] at hmem
    split_ifs at hmem with hv
    · rcases List.mem_append.1 hmem with hmem | hmem
      · exact h.received v rid' batch' hmem
      · cases List.mem_singleton.1 hmem
        exact ⟨hsettled, hv ▸ hbatch⟩
    · exact h.received v rid' batch' hmem
  · intro v rid' payload hlookup
    rw [nodes_accept] at hlookup
    exact h.handled v rid' payload hlookup
  · rintro reply hrep
    have hold : n.Replying reply := by
      rcases hrep with hrep | ⟨v, changed, hrep⟩
      · exact .inl hrep
      · rw [nodes_accept] at hrep
        exact .inr ⟨v, changed, hrep⟩
    obtain ⟨hs, htruth⟩ := h.reply reply hold
    refine ⟨hs, fun s v copies hmem => ?_⟩
    rw [hacc, or_iff_left (fun heq => hreply reply hold heq.2)]
    exact htruth s v copies hmem
  · intro v rid' peer reserved hsome
    rw [nodes_accept] at hsome
    exact h.transfer v rid' peer reserved hsome
  · intro v rid' peer reserved remaining hm
    rw [nodes_accept] at hm
    exact (hacc peer rid').2 (.inl (h.confirming v rid' peer reserved remaining hm))

end Protocol

/-! ### Steps -/

/-- What each step of a thread, or fault of the network, finds and leaves. -/
inductive Stepped (c : Config) (n : Net) : Action → Net → Prop
  | enqueue (w : WorkerId) (copy : Copy) (priority : Bool) (hw : w ∈ c.workers) :
      Stepped c n (.enqueue w copy priority) (n.setNode w ((n.nodes w).enqueue copy priority))
  | dequeue (w : WorkerId) (node : Node) (hw : w ∈ c.workers)
      (hnode : (n.nodes w).dequeue = some node) : Stepped c n (.dequeue w) (n.setNode w node)
  | report (w : WorkerId) (node : Node) (hw : w ∈ c.workers)
      (hnode : (n.nodes w).report = some node) : Stepped c n (.report w) (n.setNode w node)
  | markDone (w : WorkerId) (node : Node) (hw : w ∈ c.workers)
      (hnode : (n.nodes w).markDone = some node) : Stepped c n (.markDone w) (n.setNode w node)
  | balance (w : WorkerId) (requestId : RequestId) (count : ℕ) (node : Node)
      (request : Option P2PRequest) (changed : Bool) (hw : w ∈ c.workers)
      (hfresh : requestId ∉ n.sent.map P2PRequest.requestId)
      (hnode : (n.nodes w).balanceStep (c.peersOf w) w requestId count =
        some (node, request, changed)) :
      Stepped c n (.balance w requestId count) ((n.setNode w node).send request)
  | receive (w : WorkerId) (rid : RequestId) (reply : P2PReply) (hw : w ∈ c.workers)
      (hawaited : (n.nodes w).awaited = some rid)
      (hfind : n.replies.find? (·.connection = rid) = some reply) :
      Stepped c n (.receive w)
        { n.setNode w ((n.nodes w).answered reply.response) with
          replies := n.replies.filter (·.connection ≠ rid) }
  | giveUp (w : WorkerId) (rid : RequestId) (hw : w ∈ c.workers)
      (hawaited : (n.nodes w).awaited = some rid) :
      Stepped c n (.giveUp w) (n.setNode w ((n.nodes w).answered none))
  | serve (w : WorkerId) (requestId : RequestId) (now : ℚ) (request : P2PRequest)
      (hw : w ∈ c.workers) (hfree : (n.nodes w).server = none)
      (hfind : n.requests.find? (fun r => r.requestId = requestId ∧ r.receiver = w) =
        some request) :
      Stepped c n (.serve w requestId now)
        { n.setNode w
            { ((n.nodes w).handleConnection (c.peersOf w) w request now).1 with
              server := some
                (⟨requestId, ((n.nodes w).handleConnection (c.peersOf w) w request now).2.1⟩,
                  ((n.nodes w).handleConnection (c.peersOf w) w request now).2.2) } with
          requests := n.requests.filter (·.requestId ≠ requestId) }
  | respond (w : WorkerId) (served : P2PReply × Bool) (hw : w ∈ c.workers)
      (hserver : (n.nodes w).server = some served) :
      Stepped c n (.respond w)
        { n.setNode w { n.nodes w with server := none } with
          replies := n.replies ++ [served.1] }
  | respondFail (w : WorkerId) (served : P2PReply × Bool) (hw : w ∈ c.workers)
      (hserver : (n.nodes w).server = some served) :
      Stepped c n (.respondFail w) (n.setNode w { n.nodes w with server := none })
  | loseRequest (requestId : RequestId) :
      Stepped c n (.loseRequest requestId)
        { n with requests := n.requests.filter (·.requestId ≠ requestId) }
  | loseReply (requestId : RequestId) :
      Stepped c n (.loseReply requestId)
        { n with replies := n.replies.filter (·.connection ≠ requestId) }

theorem stepped_of_step {c : Config} {n n' : Net} {a : Action} (hstep : step c n a = some n') :
    Stepped c n a n' := by
  cases a with
  | enqueue w copy priority =>
      rw [step] at hstep
      split_ifs at hstep with hw
      cases hstep
      exact .enqueue w copy priority hw
  | dequeue w =>
      rw [step] at hstep
      split_ifs at hstep with hw
      obtain ⟨node, hnode, rfl⟩ := Option.map_eq_some_iff.1 hstep
      exact .dequeue w node hw hnode
  | report w =>
      rw [step] at hstep
      split_ifs at hstep with hw
      obtain ⟨node, hnode, rfl⟩ := Option.map_eq_some_iff.1 hstep
      exact .report w node hw hnode
  | markDone w =>
      rw [step] at hstep
      split_ifs at hstep with hw
      obtain ⟨node, hnode, rfl⟩ := Option.map_eq_some_iff.1 hstep
      exact .markDone w node hw hnode
  | balance w requestId count =>
      rw [step] at hstep
      split_ifs at hstep with hguard
      obtain ⟨⟨node, request, changed⟩, hnode, rfl⟩ := Option.map_eq_some_iff.1 hstep
      exact .balance w requestId count node request changed hguard.1 hguard.2 hnode
  | receive w =>
      rw [step] at hstep
      split_ifs at hstep with hw
      obtain ⟨rid, hawaited, hstep⟩ := Option.bind_eq_some_iff.1 hstep
      obtain ⟨reply, hfind, rfl⟩ := Option.map_eq_some_iff.1 hstep
      exact .receive w rid reply hw hawaited hfind
  | giveUp w =>
      rw [step] at hstep
      split_ifs at hstep with hw
      obtain ⟨rid, hawaited, rfl⟩ := Option.map_eq_some_iff.1 hstep
      exact .giveUp w rid hw hawaited
  | serve w requestId now =>
      rw [step] at hstep
      split_ifs at hstep with hguard
      obtain ⟨request, hfind, rfl⟩ := Option.map_eq_some_iff.1 hstep
      exact .serve w requestId now request hguard.1 hguard.2 hfind
  | respond w =>
      rw [step] at hstep
      split_ifs at hstep with hw
      obtain ⟨served, hserver, rfl⟩ := Option.map_eq_some_iff.1 hstep
      exact .respond w served hw hserver
  | respondFail w =>
      rw [step] at hstep
      split_ifs at hstep with hw
      obtain ⟨served, hserver, rfl⟩ := Option.map_eq_some_iff.1 hstep
      exact .respondFail w served hw hserver
  | loseRequest requestId =>
      cases hstep
      exact .loseRequest requestId
  | loseReply requestId =>
      cases hstep
      exact .loseReply requestId

section Steps

variable {c : Config} {n n' : Net} {w : WorkerId}

theorem protocol_balance (h : n.Protocol) {requestId : RequestId} {node : Node}
    {request : Option P2PRequest}
    (hfresh : requestId ∉ n.sent.map P2PRequest.requestId)
    (heffect : Node.Balanced w requestId (n.nodes w) node request) :
    ((n.setNode w node).send request).Protocol := by
  have hsound := Node.sound_balanced (h.sound w) heffect
  rw [setNode_send]
  have hsend : (n.send request).Protocol := by
    cases heffect with
    | think monitor request _ _ _ _ hrequest =>
        rcases hrequest with rfl | ⟨peer, rfl⟩
        · exact h
        · exact h.send hfresh
    | reserve peer t rest reserved _ => exact h
    | transfer peer reserved _ => exact h.send hfresh
    | confirm rid peer reserved copy rest _ => exact h
    | release rid peer reserved copy rest _ => exact h
  cases heffect with
  | think monitor request _ _ _ htransfer _ =>
      refine hsend.setNode_same hsound (by rw [nodes_send]) (by rw [nodes_send])
        (by rw [nodes_send]) ?_ ?_
      · intro rid peer reserved hsome
        rw [show monitor.transfer = _ from hsome] at htransfer
        cases htransfer
      · intro rid peer reserved remaining hmonitor
        rw [show monitor = _ from hmonitor] at htransfer
        cases htransfer
  | reserve peer t rest reserved _ =>
      refine hsend.setNode_same hsound rfl rfl rfl ?_ ?_
      · intro rid peer' reserved' hsome
        cases hsome
      · intro rid peer' reserved' remaining hmonitor
        cases hmonitor
  | transfer peer reserved _ =>
      refine hsend.setNode_same hsound rfl rfl rfl ?_ ?_
      · intro rid peer' reserved' hsome
        cases hsome
        exact List.mem_append_right _ (List.mem_singleton.2 rfl)
      · intro rid peer' reserved' remaining hmonitor
        cases hmonitor
  | confirm rid peer reserved copy rest hmonitor =>
      refine hsend.setNode_same hsound rfl rfl rfl ?_ ?_
      · intro rid' peer' reserved' hsome
        cases hsome
        exact h.transfer w rid peer reserved (by rw [hmonitor]; rfl)
      · intro rid' peer' reserved' remaining hmonitor'
        cases hmonitor'
        exact h.confirming w rid peer reserved _ hmonitor
  | release rid peer reserved copy rest hmonitor =>
      refine hsend.setNode_same hsound rfl rfl rfl ?_ ?_
      · intro rid' peer' reserved' hsome
        cases hsome
        exact h.transfer w rid peer reserved (by rw [hmonitor]; rfl)
      · intro rid' peer' reserved' remaining hmonitor'
        cases hmonitor'

theorem protocol_answered (h : n.Protocol) {node : Node}
    {response : Option P2PResponse}
    (htruth : ∀ rid peer reserved, (n.nodes w).monitor = .awaitingAck rid peer reserved →
      Node.transferAccepted rid peer (reserved.map taskId) response = true →
      n.Accepted peer rid)
    (heffect : Node.Answered (n.nodes w) response node) : (n.setNode w node).Protocol := by
  have hsound := Node.sound_answered (h.sound w) heffect
  cases heffect with
  | status monitor _ _ _ htransfer =>
      refine h.setNode_same hsound rfl rfl rfl ?_ ?_
      · intro rid peer reserved hsome
        rw [show monitor.transfer = _ from hsome] at htransfer
        cases htransfer
      · intro rid peer reserved remaining hmonitor
        rw [show monitor = _ from hmonitor] at htransfer
        cases htransfer
  | accepted rid peer reserved hmonitor hverdict =>
      refine h.setNode_same hsound rfl rfl rfl ?_ ?_
      · intro rid' peer' reserved' hsome
        cases hsome
        exact h.transfer w rid peer reserved (by rw [hmonitor]; rfl)
      · intro rid' peer' reserved' remaining hmonitor'
        cases hmonitor'
        exact htruth rid peer reserved hmonitor hverdict
  | refused rid peer reserved hmonitor hverdict =>
      refine h.setNode_same hsound rfl rfl rfl ?_ ?_
      · intro rid' peer' reserved' hsome
        cases hsome
        exact h.transfer w rid peer reserved (by rw [hmonitor]; rfl)
      · intro rid' peer' reserved' remaining hmonitor'
        cases hmonitor'

def served (n : Net) (w : WorkerId) (requestId : RequestId) (node : Node)
    (response : Option P2PResponse) (changed : Bool) : Net :=
  (n.withdraw requestId).setNode w
    { node with server := some (⟨requestId, response⟩, changed) }

theorem served_eq_accept (n : Net) (w : WorkerId) (requestId : RequestId) (node : Node)
    (response : Option P2PResponse) (changed : Bool) (batch : List Copy) :
    n.served w requestId node response changed =
      ((n.withdraw requestId).accept w requestId batch).setNode w
        { node with server := some (⟨requestId, response⟩, changed) } := by
  simp only [served, accept, setNode, Function.update_idem]

theorem protocol_served (h : n.Protocol) {request : P2PRequest}
    (hrequest : request ∈ n.requests) (hreceiver : request.receiver = w)
    {node : Node} {response : Option P2PResponse} {changed : Bool}
    (heffect : Node.Handled w (n.nodes w) request node response changed) :
    (n.served w request.requestId node response changed).Protocol := by
  have hsent := h.requests_sent request hrequest
  have hflight : ∀ rid, n.Settled rid → rid ≠ request.requestId :=
    fun rid hs heq => hs.2 request hrequest heq.symm
  have hnot : ∀ v, ¬ n.Accepted v request.requestId := fun v hacc =>
    hflight _ (h.accepted_settled hacc) rfl
  let n₁ := n.withdraw request.requestId
  have h₁ : n₁.Protocol := h.lose rfl rfl
    (fun r hr => (List.mem_filter.1 hr).1) (fun _ hr => hr)
  have hsettled : n₁.Settled request.requestId := by
    refine ⟨List.mem_map_of_mem hsent, fun r hr => ?_⟩
    simpa using (List.mem_filter.1 hr).2
  have hreply : ∀ reply, n₁.Replying reply → reply.connection ≠ request.requestId :=
    fun reply hr => hflight _ (h.reply reply hr).1
  -- the cache after an entry for the request was added
  have hcache : ∀ (n₂ : Net) (payload : AckPayload), n₂.Settled request.requestId →
      (∀ rid payload, (n.nodes w).handledTransfers.lookup rid = some payload →
        n₂.Settled rid) →
      ∀ rid kept, ((n.nodes w).handledTransfers.insert request.requestId payload).lookup
        rid = some kept → n₂.Settled rid := by
    intro n₂ payload hs hold rid kept hlookup
    rw [Dict.lookup_insert_eq_ite] at hlookup
    split_ifs at hlookup with hrid
    · exact hrid ▸ hs
    · exact hold rid kept hlookup
  -- an answer that refuses, or is none, is truthful: nobody has the batch
  have hrefuse : ∀ response : Option P2PResponse,
      (∀ v copies, Node.transferAccepted request.requestId v copies response = false) →
      n₁.Truthful ⟨request.requestId, response⟩ := by
    intro response hno s v copies _
    rw [hno]
    exact iff_of_false (by simp) (hnot v)
  have hack : ∀ payload : AckPayload, payload.accepted = false →
      ∀ v copies, Node.transferAccepted request.requestId v copies
        (some (Node.ackResponse w request.requestId payload)) = false := by
    intro payload hpayload v copies
    simp [Node.transferAccepted, Node.ackResponse, hpayload]
  have hsound := Node.sound_handled (h.sound w) heffect
  have hpending : ∀ node : Node, node.Sound → ∀ pending,
      Node.Sound { node with server := pending } :=
    fun node hs pending => ⟨hs.wellFormed, hs.processing, hs.reserved, hs.remaining⟩
  cases heffect with
  | ignored response hresponse =>
      refine h₁.setNode (hpending _ hsound _) rfl (h₁.handled w) ?_ (h₁.transfer w)
        (h₁.confirming w)
      rintro reply changed hr
      cases hr
      refine ⟨hsettled, hrefuse response fun v copies => ?_⟩
      cases response with
      | none => rfl
      | some r => simp [Node.transferAccepted, hresponse r rfl]
  | repeated previous hlookup =>
      exact absurd rfl (hflight _ (h.handled w _ previous hlookup))
  | refused payload hpayload =>
      refine h₁.setNode (hpending _ hsound _) rfl
        (hcache n₁ payload hsettled (h₁.handled w)) ?_ (h₁.transfer w) (h₁.confirming w)
      rintro reply changed hr
      cases hr
      exact ⟨hsettled, hrefuse _ (hack payload hpayload)⟩
  | accepted raw tasks reason hraw htaken _ =>
      have hids : tasks.map taskId = raw.map taskId :=
        map_taskId_eq_of_map_token_eq htaken.map_token
      have hrequest' : request = ⟨request.requestId, request.senderId, w, .transfer raw⟩ := by
        rw [← hreceiver, ← hraw]
      have h₂ := h₁.receive (w := w) hsettled hnot hreply
        ⟨request.senderId, raw, hrequest' ▸ hsent, htaken⟩
      rw [served_eq_accept _ _ _ _ _ _ tasks]
      let n₂ := n₁.accept w request.requestId tasks
      have hreceived : (n₂.nodes w).received =
          (n.nodes w).received ++ [(request.requestId, tasks)] := by
        rw [show n₂ = n₁.accept w request.requestId tasks from rfl, nodes_accept, if_pos rfl]
        rfl
      refine h₂.setNode (hpending _ hsound _) hreceived.symm
        (hcache n₂ _ hsettled (h₁.handled w)) ?_ (h₁.transfer w) ?_
      · rintro reply changed hr
        cases hr
        refine ⟨hsettled, fun s v copies hmem => ?_⟩
        -- the only request of that id is the accepted one
        have hsame := h.eq_of_requestId hmem hsent rfl
        rw [hrequest'] at hsame
        cases hsame
        refine iff_of_true ?_ ?_
        · simp [Node.transferAccepted, Node.ackResponse, hids]
        · rw [Accepted, hreceived, List.map_append]
          exact List.mem_append_right _ (List.mem_singleton.2 rfl)
      · intro rid peer reserved remaining hmonitor
        have hold := h₁.confirming w rid peer reserved remaining hmonitor
        exact (accepted_accept n₁ w peer _ rid tasks).2 (.inl hold)

theorem protocol_step (h : n.Protocol) {a : Action} (hstep : step c n a = some n') :
    n'.Protocol := by
  cases stepped_of_step hstep with
  | enqueue w copy priority _ =>
      exact h.setNode_local (Node.sound_enqueue (h.sound w) copy priority) rfl rfl rfl rfl
  | dequeue w node _ hnode =>
      obtain ⟨_, rfl | ⟨copy, _, hsound, _, _, heq⟩⟩ := Node.dequeue_cases (h.sound w) hnode
      · exact h.setNode_local (h.sound w) rfl rfl rfl rfl
      · rw [heq] at hsound ⊢
        exact h.setNode_local hsound rfl rfl rfl rfl
  | report w node _ hnode =>
      have hsound := Node.sound_report (h.sound w) hnode
      obtain ⟨copy, _, rfl⟩ := Node.report_cases hnode
      exact h.setNode_local hsound rfl rfl rfl rfl
  | markDone w node _ hnode =>
      obtain ⟨copy, _, hsound, _, _, heq⟩ := Node.markDone_cases (h.sound w) hnode
      rw [heq] at hsound ⊢
      exact h.setNode_local hsound rfl rfl rfl rfl
  | balance w requestId count node request changed _ hfresh hnode =>
      exact protocol_balance h hfresh (Node.balanceStep_effect hnode)
  | receive w rid reply _ hawaited hfind =>
      have hmem := List.mem_of_find?_eq_some hfind
      have hconn : reply.connection = rid := by simpa using List.find?_some hfind
      have hanswered := Node.answered_effect hawaited reply.response
      have h₁ : (n.setNode w ((n.nodes w).answered reply.response)).Protocol := by
        refine protocol_answered h ?_ hanswered
        intro rid' peer reserved hmonitor hverdict
        have hrid : rid' = rid := by
          rw [Node.awaited, hmonitor] at hawaited
          exact Option.some.inj hawaited
        have htruth := (h.reply reply (.inl hmem)).2 w peer reserved
        rw [hconn, ← hrid] at htruth
        exact (htruth (h.transfer w rid' peer reserved (by rw [hmonitor]; rfl))).1 hverdict
      exact h₁.lose rfl rfl (fun _ hr => hr) (fun _ hr => (List.mem_filter.1 hr).1)
  | giveUp w rid _ hawaited =>
      refine protocol_answered h ?_ (Node.answered_effect hawaited none)
      intro rid' peer reserved _ hverdict
      cases hverdict
  | serve w requestId now request _ _ hfind =>
      have hmem := List.mem_of_find?_eq_some hfind
      have hfound : request.requestId = requestId ∧ request.receiver = w := by
        simpa using List.find?_some hfind
      have hserved := protocol_served h hmem hfound.2
        (Node.handleConnection_effect (h.sound w) (c.peersOf w) w request now)
      rw [hfound.1] at hserved
      exact hserved
  | respond w served _ hserver =>
      obtain ⟨reply, changed⟩ := served
      have hsound := h.sound w
      have h₁ : (n.setNode w { n.nodes w with server := none }).Protocol :=
        h.setNode ⟨hsound.wellFormed, hsound.processing, hsound.reserved, hsound.remaining⟩
          rfl (h.handled w) (by rintro reply changed hr; cases hr) (h.transfer w)
          (h.confirming w)
      obtain ⟨hsettled, htruth⟩ := h.reply reply (.inr ⟨w, changed, hserver⟩)
      have hsame : ∀ v rid, (n.setNode w { n.nodes w with server := none }).Accepted v rid ↔
          n.Accepted v rid := accepted_setNode rfl
      exact h₁.post hsettled fun s v copies hmem =>
        (htruth s v copies hmem).trans (hsame v reply.connection).symm
  | respondFail w served _ hserver =>
      obtain ⟨reply, changed⟩ := served
      have hsound := h.sound w
      exact h.setNode ⟨hsound.wellFormed, hsound.processing, hsound.reserved,
        hsound.remaining⟩ rfl (h.handled w) (by rintro reply changed hr; cases hr)
        (h.transfer w) (h.confirming w)
  | loseRequest requestId =>
      exact h.lose rfl rfl (fun _ hr => (List.mem_filter.1 hr).1) (fun _ hr => hr)
  | loseReply requestId =>
      exact h.lose rfl rfl (fun _ hr => hr) (fun _ hr => (List.mem_filter.1 hr).1)

end Steps

end Net

end KVStore
