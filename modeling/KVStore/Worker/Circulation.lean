import KVStore.Worker.Handover

/-!
# Where copies can come from

Ghosts included: the copies that are in some worker's deques, reserved or being
processed, and those in a transfer that is in flight. No step makes a copy out of
nothing, so whatever holds of all copies when they are admitted holds of them
wherever they turn up.
-/

namespace KVStore

open HasTaskId

def Node.holdings (node : Node) : Multiset Copy :=
  node.queue.waiting + node.queue.aside + node.processor.unreported

def P2PRequest.copies (request : P2PRequest) : List Copy :=
  match request.payload with
  | .statusRequest => []
  | .transfer copies => copies

namespace Node

variable {node node' : Node} {w : WorkerId} {response : Option P2PResponse}

theorem Answered.holdings (heffect : Answered node response node') :
    node'.holdings = node.holdings := by
  cases heffect <;> rfl

theorem Handled.holdings (h : node.Sound) {request : P2PRequest} {changed : Bool}
    (heffect : Handled w node request node' response changed) {x : Token}
    (hx : x ∈ tokens node'.holdings) : x ∈ tokens node.holdings ∨ x ∈ tokens ↑request.copies := by
  cases heffect with
  | ignored response _ => exact .inl hx
  | repeated previous _ => exact .inl hx
  | refused payload _ => exact .inl hx
  | accepted raw tasks reason hraw htaken haccepted =>
      obtain ⟨hno, _⟩ | ⟨_, _, _, _, hwaiting, _, _, hreserved, _⟩ :=
        ReadyQueue.tryEnqueueMany_cases h.wellFormed tasks
      · rw [haccepted] at hno
        cases hno
      have htokens : tokens ↑tasks = tokens ↑request.copies := by
        rw [P2PRequest.copies, hraw, tokens, tokens, Multiset.map_coe, Multiset.map_coe,
          htaken.map_token]
      rw [Node.holdings, hwaiting, aside_of_reserved_eq hreserved, add_assoc, add_assoc,
        tokens_add, htokens, ← add_assoc] at hx
      exact (Multiset.mem_add.1 hx).symm

end Node

namespace Net

/-- The tokens of all copies that the workers have or send to each other. -/
def circulating (c : Config) (n : Net) : Multiset Token :=
  Custody.total c.workers.toFinset (fun w => tokens (n.nodes w).holdings) +
    tokens ↑(n.requests.flatMap P2PRequest.copies)

section

variable {c : Config} {n n' : Net} {w : WorkerId} {node : Node} {x : Token}

theorem mem_circulating : x ∈ n.circulating c ↔
    (∃ w ∈ c.workers, x ∈ tokens (n.nodes w).holdings) ∨
      ∃ request ∈ n.requests, x ∈ tokens ↑request.copies := by
  rw [circulating, Multiset.mem_add, Custody.mem_total]
  simp only [List.mem_toFinset, tokens, Multiset.mem_map, Multiset.mem_coe, List.mem_flatMap]
  constructor
  · rintro (h | ⟨copy, ⟨request, hr, hcopy⟩, rfl⟩)
    · exact .inl h
    · exact .inr ⟨request, hr, copy, hcopy, rfl⟩
  · rintro (h | ⟨request, hr, copy, hcopy, rfl⟩)
    · exact .inl h
    · exact .inr ⟨copy, ⟨request, hr, hcopy⟩, rfl⟩

theorem mem_circulating_of_holdings (hw : w ∈ c.workers)
    (hx : x ∈ tokens (n.nodes w).holdings) : x ∈ n.circulating c :=
  mem_circulating.2 (.inl ⟨w, hw, hx⟩)

theorem circulating_setNode {arrived : Multiset Token}
    (hnode : ∀ x ∈ tokens node.holdings, x ∈ n.circulating c ∨ x ∈ arrived)
    (hnodes : n'.nodes = (n.setNode w node).nodes)
    (hrequests : ∀ request ∈ n'.requests, request ∈ n.requests)
    (hx : x ∈ n'.circulating c) : x ∈ n.circulating c ∨ x ∈ arrived := by
  rcases mem_circulating.1 hx with ⟨v, hv, hx⟩ | ⟨request, hr, hx⟩
  · rw [hnodes, nodes_setNode] at hx
    split_ifs at hx
    · exact hnode x hx
    · exact .inl (mem_circulating_of_holdings hv hx)
  · exact .inl (mem_circulating.2 (.inr ⟨request, hrequests request hr, hx⟩))

theorem circulating_setNode_le (hw : w ∈ c.workers)
    (hle : node.holdings ≤ (n.nodes w).holdings)
    (hnodes : n'.nodes = (n.setNode w node).nodes)
    (hrequests : ∀ request ∈ n'.requests, request ∈ n.requests)
    (hx : x ∈ n'.circulating c) : x ∈ n.circulating c ∨ x ∈ tokens 0 :=
  circulating_setNode (fun _ hy => .inl (mem_circulating_of_holdings hw
    (Multiset.mem_of_le (Multiset.map_le_map hle) hy))) hnodes hrequests hx

theorem holdings_balanced (h : (n.nodes w).Sound) {requestId : RequestId}
    {request : Option P2PRequest}
    (heffect : Node.Balanced w requestId (n.nodes w) node request) :
    node.holdings ≤ (n.nodes w).holdings ∧
      ∀ r ∈ request, (r.copies : Multiset Copy) ≤ (n.nodes w).holdings := by
  have hprocessor := heffect.sameProcessing.1.processor
  cases heffect with
  | think monitor request _ _ _ _ hrequest =>
      refine ⟨le_rfl, ?_⟩
      rcases hrequest with rfl | ⟨peer, rfl⟩
      · intro r hr
        cases hr
      · rintro r ⟨⟩
        exact Multiset.zero_le _
  | reserve peer t rest reserved hmonitor =>
      obtain ⟨_, _, haside, hwaiting⟩ := Node.reserve_spec h hmonitor
      have haside' : (n.nodes w).queue.aside = ↑reserved := by
        rw [h.reserved, hmonitor]
        rfl
      refine ⟨le_of_eq ?_, fun r hr => by cases hr⟩
      rw [Node.holdings, Node.holdings, hwaiting, haside', haside, ← Multiset.coe_add]
      abel
  | transfer peer reserved hmonitor =>
      refine ⟨le_rfl, ?_⟩
      rintro r ⟨⟩
      have haside : (n.nodes w).queue.aside = ↑reserved := by
        rw [h.reserved, hmonitor]
        rfl
      rw [Node.holdings, haside, add_assoc, add_left_comm]
      exact Multiset.le_add_right _ _
  | confirm rid peer reserved copy rest hmonitor =>
      obtain ⟨_, _, haside, hwaiting⟩ := Node.confirm_spec h hmonitor
      have haside' : (n.nodes w).queue.aside = ↑(copy :: rest) := by
        rw [h.reserved, hmonitor]
        rfl
      refine ⟨?_, fun r hr => by cases hr⟩
      rw [Node.holdings, Node.holdings, hwaiting, haside', haside, ← Multiset.cons_coe]
      gcongr
      exact Multiset.le_cons_self _ _
  | release rid peer reserved copy rest hmonitor =>
      obtain ⟨_, _, haside, hwaiting⟩ := Node.release_spec h hmonitor
      have haside' : (n.nodes w).queue.aside = ↑(copy :: rest) := by
        rw [h.reserved, hmonitor]
        rfl
      refine ⟨le_of_eq ?_, fun r hr => by cases hr⟩
      rw [Node.holdings, Node.holdings, hwaiting, haside', haside, ← Multiset.cons_coe,
        Multiset.cons_add, Multiset.add_cons]

theorem circulating_served (h : n.Protocol) (hw : w ∈ c.workers) {request : P2PRequest}
    (hmem : request ∈ n.requests) {requestId : RequestId} {response : Option P2PResponse}
    {changed : Bool}
    (heffect : Node.Handled w (n.nodes w) request node response changed)
    (hx : x ∈ (n.served w requestId node response changed).circulating c) :
    x ∈ n.circulating c := by
  have hserved : x ∈ n.circulating c ∨ x ∈ tokens 0 := by
    refine circulating_setNode ?_ (Eq.refl (n.served w requestId node response changed).nodes)
      (fun _ hr => (List.mem_filter.1 hr).1) hx
    intro y hy
    refine .inl ?_
    rcases heffect.holdings (h.sound w) hy with hy | hy
    · exact mem_circulating_of_holdings hw hy
    · exact mem_circulating.2 (.inr ⟨request, hmem, hy⟩)
  exact hserved.resolve_right (Multiset.notMem_zero x)

theorem mem_workers_of_enqueue {copy : Copy} {priority : Bool}
    (hstep : step c n (.enqueue w copy priority) = some n') : w ∈ c.workers := by
  rw [step] at hstep
  split_ifs at hstep with hw
  exact hw

theorem mem_workers_of_report (hstep : step c n (.report w) = some n') : w ∈ c.workers := by
  rw [step] at hstep
  split_ifs at hstep with hw
  exact hw

/-- No step makes a copy out of nothing. -/
theorem circulating_step (h : n.Protocol) {a : Action} (hstep : step c n a = some n')
    (hx : x ∈ n'.circulating c) : x ∈ n.circulating c ∨ x ∈ tokens (n.arrivals a) := by
  cases stepped_of_step hstep with
  | enqueue w copy priority hw =>
      refine circulating_setNode ?_ rfl (fun _ hr => hr) hx
      intro y hy
      obtain ⟨hno, hsame, _⟩ | ⟨hyes, _, _, _, hwaiting, hreserved, _⟩ :=
        ReadyQueue.tryEnqueue_cases (h.sound w).wellFormed copy priority
      · have hholdings : ((n.nodes w).enqueue copy priority).holdings =
            (n.nodes w).holdings := by
          simp only [Node.enqueue, Node.holdings, hsame]
        exact .inl (mem_circulating_of_holdings hw (hholdings ▸ hy))
      · have hholdings : ((n.nodes w).enqueue copy priority).holdings =
            copy ::ₘ (n.nodes w).holdings := by
          simp only [Node.enqueue, Node.holdings, hwaiting, Node.aside_of_reserved_eq hreserved,
            Multiset.cons_add]
        rw [hholdings, tokens_cons] at hy
        rcases Multiset.mem_cons.1 hy with rfl | hy
        · refine .inr ?_
          simp only [arrivals, hyes, if_true]
          exact Multiset.mem_singleton_self _
        · exact .inl (mem_circulating_of_holdings hw hy)
  | dequeue w node hw hnode =>
      refine circulating_setNode_le hw (le_of_eq ?_) rfl (fun _ hr => hr) hx
      obtain ⟨hidle, rfl | ⟨copy, hworking, _, hwaiting, haside, heq⟩⟩ :=
        Node.dequeue_cases (h.sound w) hnode
      · rfl
      · rw [heq]
        simp only [Node.holdings, hwaiting, haside, hidle, Processor.unreported, add_zero,
          Multiset.cons_add]
        rw [add_comm, Multiset.singleton_add]
  | report w node hw hnode =>
      obtain ⟨copy, hworking, rfl⟩ := Node.report_cases hnode
      refine circulating_setNode_le hw ?_ rfl (fun _ hr => hr) hx
      simp only [Node.holdings, Processor.unreported, add_zero]
      exact Multiset.le_add_right _ _
  | markDone w node hw hnode =>
      obtain ⟨copy, hreported, _, hwaiting, haside, heq⟩ :=
        Node.markDone_cases (h.sound w) hnode
      refine circulating_setNode_le hw (le_of_eq ?_) rfl (fun _ hr => hr) hx
      rw [heq]
      simp only [Node.holdings, hwaiting, haside, hreported, Processor.unreported]
  | balance w requestId count node request changed hw _ hnode =>
      obtain ⟨hle, hrequest⟩ := holdings_balanced (h.sound w) (Node.balanceStep_effect hnode)
      have hmine : ∀ copies : Multiset Copy, copies ≤ (n.nodes w).holdings →
          x ∈ tokens copies → x ∈ n.circulating c := fun copies hcopies hmem =>
        mem_circulating_of_holdings hw
          (Multiset.mem_of_le (Multiset.map_le_map hcopies) hmem)
      rcases mem_circulating.1 hx with ⟨v, hv, hy⟩ | ⟨r, hr, hy⟩
      · rw [nodes_send, nodes_setNode] at hy
        split_ifs at hy
        · exact .inl (hmine _ hle hy)
        · exact .inl (mem_circulating_of_holdings hv hy)
      · refine .inl ?_
        cases request with
        | none => exact mem_circulating.2 (.inr ⟨r, hr, hy⟩)
        | some r' =>
            rcases List.mem_append.1 hr with hr | hr
            · exact mem_circulating.2 (.inr ⟨r, hr, hy⟩)
            · rw [List.mem_singleton.1 hr] at hy
              exact hmine _ (hrequest r' rfl) hy
  | receive w rid reply hw hawaited _ =>
      have heffect := Node.answered_effect hawaited reply.response
      refine circulating_setNode_le hw (le_of_eq ?_) rfl (fun _ hr => hr) hx
      exact heffect.holdings
  | giveUp w rid hw hawaited =>
      have heffect := Node.answered_effect hawaited none
      refine circulating_setNode_le hw (le_of_eq ?_) rfl (fun _ hr => hr) hx
      exact heffect.holdings
  | serve w requestId now request hw _ hfind =>
      have hmem := List.mem_of_find?_eq_some hfind
      have heffect := Node.handleConnection_effect (h.sound w) (c.peersOf w) w request now
      exact .inl (circulating_served h hw hmem heffect hx)
  | respond w served hw _ =>
      refine circulating_setNode_le hw (le_of_eq ?_) rfl (fun _ hr => hr) hx
      rfl
  | respondFail w served hw _ =>
      refine circulating_setNode_le hw (le_of_eq ?_) rfl (fun _ hr => hr) hx
      rfl
  | loseRequest requestId =>
      refine .inl (mem_circulating.2 ((mem_circulating.1 hx).imp_right ?_))
      rintro ⟨r, hr, hx⟩
      exact ⟨r, (List.mem_filter.1 hr).1, hx⟩
  | loseReply requestId =>
      exact .inl hx

theorem concluded_step (h : n.Protocol) {a : Action} (hstep : step c n a = some n')
    (v : WorkerId) :
    (n'.nodes v).processor.concluded ≤ (n.nodes v).processor.concluded ∨
      v ∈ c.workers ∧
        (n'.nodes v).processor.concluded = (n.nodes v).processor.unreported := by
  have hother : ∀ {w node}, v ≠ w →
      ((n.setNode w node).nodes v).processor.concluded ≤ (n.nodes v).processor.concluded := by
    intro w node hv
    rw [nodes_setNode_of_ne n hv]
  have hsame : ∀ {w node}, (n.nodes w).SameProcessing node →
      ((n.setNode w node).nodes v).processor.concluded ≤ (n.nodes v).processor.concluded := by
    intro w node hprocessing
    rw [(sameProcessing_setNode hprocessing v).processor]
  cases stepped_of_step hstep with
  | enqueue w copy priority _ =>
      by_cases hv : v = w
      · subst hv
        rw [nodes_setNode_self]
        exact .inl le_rfl
      · exact .inl (hother hv)
  | dequeue w node _ hnode =>
      by_cases hv : v = w
      · subst hv
        rw [nodes_setNode_self]
        obtain ⟨_, rfl | ⟨copy, hworking, _⟩⟩ := Node.dequeue_cases (h.sound v) hnode
        · exact .inl le_rfl
        · rw [hworking]
          exact .inl (Multiset.zero_le _)
      · exact .inl (hother hv)
  | report w node hw hnode =>
      by_cases hv : v = w
      · subst hv
        rw [nodes_setNode_self]
        obtain ⟨copy, hworking, rfl⟩ := Node.report_cases hnode
        exact .inr ⟨hw, by rw [hworking]; rfl⟩
      · exact .inl (hother hv)
  | markDone w node _ hnode =>
      by_cases hv : v = w
      · subst hv
        rw [nodes_setNode_self]
        obtain ⟨copy, _, _, _, _, heq⟩ := Node.markDone_cases (h.sound v) hnode
        rw [heq]
        exact .inl (Multiset.zero_le _)
      · exact .inl (hother hv)
  | balance w requestId count node request changed _ _ hnode =>
      rw [nodes_send]
      exact .inl (hsame (Node.balanceStep_effect hnode).sameProcessing.1)
  | receive w rid reply _ hawaited _ =>
      exact .inl (hsame (Node.answered_effect hawaited reply.response).sameProcessing.1)
  | giveUp w rid _ hawaited =>
      exact .inl (hsame (Node.answered_effect hawaited none).sameProcessing.1)
  | serve w requestId now request _ _ _ =>
      have heffect := Node.handleConnection_effect (h.sound w) (c.peersOf w) w request now
      obtain ⟨hprocessor, hadmitted, hfinished⟩ := heffect.sameProcessing.1
      exact .inl (hsame ⟨hprocessor, hadmitted, hfinished⟩)
  | respond w served _ _ =>
      have hprocessing : (n.nodes w).SameProcessing { n.nodes w with server := none } :=
        ⟨rfl, rfl, rfl⟩
      exact .inl (hsame hprocessing)
  | respondFail w served _ _ =>
      exact .inl (hsame ⟨rfl, rfl, rfl⟩)
  | loseRequest requestId =>
      exact .inl le_rfl
  | loseReply requestId =>
      exact .inl le_rfl

end

end Net

end KVStore
