import KVStore.Cluster.Effect

/-!
# Every copy goes back to a dispatch

The copies in the system are those in the distributor's hands, on the links and with
the workers. Each of them carries the number of a dispatch, and says truthfully which
task was dispatched to which worker. This holds in every run, with faults; `Traced`
joins it with the Master's view, in which an assigned task is assigned to the worker
of its latest dispatch.
-/

namespace KVStore

open HasTaskId

namespace Link

/-- The copies on the link whose result is not sent: tasks on their way, and one that
the receiver thread could not enqueue. -/
def outbox (link : Link) : Multiset Copy :=
  ↑(link.toWorker.map TaskMessage.copy) + ↑link.overflow.toList

/-- The copies whose results are on their way to the Master. -/
def inbox (link : Link) : Multiset Copy :=
  ↑(link.toMaster.filterMap WorkerMessage.copy)

section

variable {link : Link} {message : TaskMessage} {result : WorkerMessage} {copy : Copy}

theorem outbox_of_receive {rest : List TaskMessage} (h : link.toWorker = message :: rest) :
    link.outbox = message.copy ::ₘ outbox { link with toWorker := rest } := by
  rw [outbox, outbox, h, List.map_cons, ← Multiset.cons_coe, Multiset.cons_add]

theorem outbox_send (link : Link) (message : TaskMessage) :
    outbox { link with toWorker := link.toWorker ++ [message] } =
      message.copy ::ₘ link.outbox := by
  rw [outbox, outbox, List.map_append, ← Multiset.coe_add, add_right_comm, add_comm]
  rfl

theorem outbox_overflow (link : Link) (h : link.overflow = none) (copy : Copy) :
    outbox { link with overflow := some copy } = copy ::ₘ link.outbox := by
  have hnone : (↑(none : Option Copy).toList : Multiset Copy) = 0 := rfl
  rw [outbox, outbox, h, hnone, add_zero, add_comm]
  rfl

theorem outbox_of_overflow (h : link.overflow = some copy) :
    link.outbox = copy ::ₘ outbox { link with overflow := none } := by
  have hnone : (↑(none : Option Copy).toList : Multiset Copy) = 0 := rfl
  rw [outbox, outbox, h, hnone, add_zero, add_comm]
  rfl

theorem inbox_send (link : Link) (h : result.copy = some copy) :
    inbox { link with toMaster := link.toMaster ++ [result] } = copy ::ₘ link.inbox := by
  rw [inbox, inbox, List.filterMap_append, ← Multiset.coe_add, add_comm, List.filterMap_cons,
    h, List.filterMap_nil]
  rfl

theorem inbox_of_deliver {rest : List WorkerMessage} (h : link.toMaster = result :: rest)
    (hcopy : result.copy = some copy) :
    link.inbox = copy ::ₘ inbox { link with toMaster := rest } := by
  rw [inbox, inbox, h, List.filterMap_cons, hcopy, Multiset.cons_coe]

end

theorem SameMail.outbox {link link' : Link} (h : link.SameMail link') :
    link'.outbox = link.outbox := by
  rw [Link.outbox, Link.outbox, h.toWorker, h.overflow]

theorem SameMail.inbox {link link' : Link} (h : link.SameMail link') :
    link'.inbox = link.inbox := by
  rw [Link.inbox, Link.inbox, h.toMaster]

end Link

namespace System

/-- The parcel that the distributor is about to send. -/
def slotTokens (s : System) : Multiset Token :=
  match s.slot with
  | none => 0
  | some (assignment, k) => {⟨assignment.task.taskId, some assignment.worker, k⟩}

/-- The tokens of all copies in the system, ghosts included. -/
def circulating (c : Config) (s : System) : Multiset Token :=
  s.slotTokens +
    Custody.total c.workers.toFinset (fun w => tokens ((s.links w).outbox + (s.links w).inbox)) +
    s.net.circulating c

/-- The token names a dispatch, and says what was dispatched to whom. -/
def Issued (s : System) (x : Token) : Prop :=
  ∃ w, x.holder = some w ∧ w ≠ "" ∧ s.dispatches[x.number]? = some (x.item, w)

/-- The `k`-th dispatch sent the task to the worker, and is the task's latest. -/
def IsLatest (s : System) (t : TaskId) (w : WorkerId) (k : ℕ) : Prop :=
  s.dispatches[k]? = some (t, w) ∧
    ∀ k' w', k < k' → s.dispatches[k']? ≠ some (t, w')

/-- What the distributor is about to send is the latest dispatch, and the record of the
task still says so. -/
structure SlotOk (c : Config) (s : System) (assignment : Master.Assignment) (k : ℕ) :
    Prop where
  length : k + 1 = s.dispatches.length
  dispatch : s.dispatches[k]? = some (assignment.task.taskId, assignment.worker)
  worker : assignment.worker ∈ c.workers ∧ assignment.worker ≠ ""
  record : ∃ task, s.master.tasks.lookup assignment.task.taskId = some task ∧
    task.assignmentWorkerId = some assignment.worker

structure Traced (c : Config) (s : System) : Prop where
  governed : Master.Governed c.workers s.master
  protocol : s.net.Protocol
  slot : ∀ assignment k, s.slot = some (assignment, k) → s.SlotOk c assignment k
  issued : ∀ x ∈ s.circulating c, s.Issued x
  concluded : ∀ w ∈ c.workers, ∀ x ∈ tokens (s.net.nodes w).processor.concluded, s.Issued x
  addressed : ∀ w, ∀ message ∈ (s.links w).toWorker,
    message.copy.task.assignmentWorkerId = some w ∧ message.copy.task.Valid
  unlinked : ∀ w, w ∉ c.workers → (s.links w).outbox + (s.links w).inbox = 0
  assigned : ∀ t w, s.master.place t = some (.assigned w) → ∃ k, s.IsLatest t w k
  pending : ∀ t, s.master.place t = some .pending →
    ∀ (k : ℕ) (w : WorkerId), s.dispatches[k]? ≠ some (t, w)

section

variable {c : Config} {s s' : System} {a : Action} {w : WorkerId} {x : Token}

theorem mem_circulating : x ∈ s.circulating c ↔
    x ∈ s.slotTokens ∨
      (∃ w ∈ c.workers, x ∈ tokens ((s.links w).outbox + (s.links w).inbox)) ∨
      x ∈ s.net.circulating c := by
  rw [circulating, Multiset.mem_add, Multiset.mem_add, Custody.mem_total, or_assoc]
  simp only [List.mem_toFinset]

theorem Issued.mono (h : s.Issued x) {more : List (TaskId × WorkerId)}
    (hdispatches : s'.dispatches = s.dispatches ++ more) : s'.Issued x := by
  obtain ⟨w, hw, hne, hget⟩ := h
  obtain ⟨hlt, _⟩ := List.getElem?_eq_some_iff.1 hget
  refine ⟨w, hw, hne, ?_⟩
  rw [hdispatches, List.getElem?_append_left hlt, hget]

theorem Issued.number_lt (h : s.Issued x) : x.number < s.dispatches.length := by
  obtain ⟨w, _, _, hget⟩ := h
  exact (List.getElem?_eq_some_iff.1 hget).1

theorem circulating_of_moves (hn : s.net.Protocol) {net : Net} {fault : Bool}
    (h : s.net.Moves c net fault) (hx : x ∈ net.circulating c) : x ∈ s.net.circulating c := by
  rcases h with rfl | ⟨b, hstep, hb, _⟩
  · exact hx
  · refine (Net.circulating_step hn hstep hx).resolve_right ?_
    rw [Net.arrivals_of_isInternal hb]
    exact Multiset.notMem_zero x

theorem circulating_of_linksWith (hx : x ∈ s'.circulating c) (link : Link)
    (hlinks : s.LinksWith s' w link)
    (hslot : ∀ y ∈ s'.slotTokens, y ∈ s.circulating c)
    (hnet : ∀ y ∈ s'.net.circulating c, y ∈ s.circulating c)
    (hmail : w ∈ c.workers → ∀ y ∈ tokens (link.outbox + link.inbox), y ∈ s.circulating c) :
    x ∈ s.circulating c := by
  rcases mem_circulating.1 hx with hx | ⟨v, hv, hx⟩ | hx
  · exact hslot x hx
  · have hsame := hlinks v
    rw [links_setLink] at hsame
    rw [hsame.outbox, hsame.inbox] at hx
    split_ifs at hx with heq
    · exact hmail (heq ▸ hv) x hx
    · exact mem_circulating.2 (.inr (.inl ⟨v, hv, hx⟩))
  · exact hnet x hx

theorem linksWith_setLink (s : System) (w : WorkerId) (link : Link) :
    s.LinksWith (s.setLink w link) w link := fun _ => .refl _

theorem linksWith_sendMaster (s : System) (w : WorkerId) (link : Link)
    (message : WorkerMessage) :
    s.LinksWith ((s.setLink w link).sendMaster w message) w
      { link with toMaster := link.toMaster ++ [message] } := by
  intro v
  simp only [sendMaster, links_setLink, if_true]
  split_ifs
  · exact .refl _
  · exact .refl _

/-- A step only adds the parcel of a new dispatch to the copies in the system. -/
theorem circulating_effect (h : s.Traced c) (heff : Effect c s a s')
    (hx : x ∈ s'.circulating c) :
    x ∈ s.circulating c ∨
      ∃ t w, w ≠ "" ∧ s'.dispatches = s.dispatches ++ [(t, w)] ∧
        x = ⟨t, some w, s.dispatches.length⟩ := by
  have hslot : ∀ y ∈ s.slotTokens, y ∈ s.circulating c := fun y hy =>
    mem_circulating.2 (.inl hy)
  have hmail : ∀ {v}, v ∈ c.workers → ∀ y ∈ tokens ((s.links v).outbox + (s.links v).inbox),
      y ∈ s.circulating c := fun hv y hy => mem_circulating.2 (.inr (.inl ⟨_, hv, hy⟩))
  have hnet : ∀ y ∈ s.net.circulating c, y ∈ s.circulating c := fun y hy =>
    mem_circulating.2 (.inr (.inr hy))
  -- the mail on the link of `w`, when some of it was taken off
  have hless : ∀ {v} {copies : Multiset Copy}, v ∈ c.workers →
      copies ≤ (s.links v).outbox + (s.links v).inbox →
      ∀ y ∈ tokens copies, y ∈ s.circulating c := fun hv hle y hy =>
    hmail hv y (Multiset.mem_of_le (Multiset.map_le_map hle) hy)
  have htaken : ∀ {v message rest}, (s.links v).toWorker = message :: rest → v ∈ c.workers →
      ∀ y ∈ tokens (({ s.links v with toWorker := rest } : Link).outbox + (s.links v).inbox),
        y ∈ s.circulating c := by
    intro v message rest hmessages hv
    refine hless hv ?_
    rw [Link.outbox_of_receive hmessages]
    exact add_le_add_left (Multiset.le_cons_self _ _) _
  cases heff with
  | quiet _ _ _ hwork hsame _ _ hmoves hlinks =>
      refine .inl ?_
      rcases mem_circulating.1 hx with hx | ⟨v, hv, hx⟩ | hx
      · rw [slotTokens, hsame] at hx
        exact hslot x hx
      · rw [(hlinks v).outbox, (hlinks v).inbox] at hx
        exact hmail hv x hx
      · exact hnet x (circulating_of_moves h.protocol hmoves hx)
  | assigned now t p task w master hfree hwaiting htask hconnected hassigned =>
      rcases mem_circulating.1 hx with hx | ⟨v, hv, hx⟩ | hx
      · have hid : task.taskId = t := h.governed.consistent.task_id t task htask
        refine .inr ⟨t, w, (h.governed.worker w (by rw [hconnected]; rfl)).2, rfl, ?_⟩
        rw [Multiset.mem_singleton.1 hx, ← hid]
        rfl
      · exact .inl (hmail hv x hx)
      · exact .inl (hnet x hx)
  | sent assignment k task hpending htask =>
      refine .inl (circulating_of_linksWith hx { s.links assignment.worker with
        toWorker := (s.links assignment.worker).toWorker ++
          [⟨⟨task, k⟩, assignment.priority⟩] } (w := assignment.worker) (fun _ => .refl _)
        (fun y hy => absurd hy (Multiset.notMem_zero y)) hnet ?_)
      intro hw y hy
      obtain ⟨_, _, _, task', htask', hassignment⟩ := h.slot assignment k hpending
      rw [htask] at htask'
      cases htask'
      have hid : task.taskId = assignment.task.taskId :=
        h.governed.consistent.task_id _ task htask
      rw [Link.outbox_send, Multiset.cons_add, tokens_cons] at hy
      rcases Multiset.mem_cons.1 hy with rfl | hy
      · refine hslot _ ?_
        rw [slotTokens, hpending, Copy.token, hid, hassignment]
        exact Multiset.mem_singleton_self _
      · exact hmail hw y hy
  | judged w message rest copy b master hmessages hcopy hb hmaster =>
      refine .inl (circulating_of_linksWith hx { s.links w with toMaster := rest }
        (fun _ => .refl _) hslot hnet ?_)
      intro hw
      refine hless hw ?_
      rw [Link.inbox_of_deliver hmessages hcopy]
      exact add_le_add_right (Multiset.le_cons_self _ _) _
  | admitted w now message rest copy _ hmessages htoken hsame hnew hstep haccepted hlinks =>
      refine .inl (circulating_of_linksWith hx _ hlinks ?_ ?_ ?_)
      · rw [slotTokens, hsame.slot]
        exact hslot
      · intro y hy
        rcases Net.circulating_step h.protocol hstep hy with hy | hy
        · exact hnet y hy
        · simp only [Net.arrivals, haccepted, if_true] at hy
          rw [Multiset.mem_singleton.1 hy, htoken]
          refine hmail (Net.mem_workers_of_enqueue hstep) _ ?_
          rw [Link.outbox_of_receive hmessages, Multiset.cons_add, tokens_cons]
          exact Multiset.mem_cons_self _ _
      · exact htaken hmessages
  | duplicate w now message rest _ hmessages hsame hactive hstep hlinks =>
      refine .inl (circulating_of_linksWith hx _ hlinks ?_ ?_ ?_)
      · rw [slotTokens, hsame.slot]
        exact hslot
      · rw [hstep]
        exact hnet
      · exact htaken hmessages
  | full w now message rest copy _ hmessages htoken hsame hfree hnew hstep hlinks =>
      refine .inl (circulating_of_linksWith hx _ hlinks ?_ ?_ ?_)
      · rw [slotTokens, hsame.slot]
        exact hslot
      · rw [hstep]
        exact hnet
      · intro hw y hy
        refine hmail hw y ?_
        rw [Link.outbox_of_receive hmessages, Multiset.cons_add, tokens_cons, ← htoken,
          ← tokens_cons, ← Multiset.cons_add]
        rwa [← Link.outbox_overflow { s.links w with toWorker := rest } hfree copy]
  | malformed w now message rest e hmessages herror =>
      exact .inl (circulating_of_linksWith hx _ (linksWith_setLink s w _) hslot hnet
        (htaken hmessages))
  | overflowed w copy hoverflow =>
      refine .inl (circulating_of_linksWith hx _ (linksWith_sendMaster s w _ _) hslot hnet ?_)
      intro hw y hy
      refine hmail hw y ?_
      rw [Link.inbox_send _ rfl, Multiset.add_cons, ← Multiset.cons_add] at hy
      rwa [Link.outbox_of_overflow hoverflow]
  | concluded w succeeded copy message net hworking hcopy hstep =>
      refine .inl (circulating_of_linksWith hx
        { s.links w with toMaster := (s.links w).toMaster ++ [message] } (fun _ => .refl _) hslot
        ?_ ?_)
      · intro y hy
        exact hnet y ((Net.circulating_step h.protocol hstep hy).resolve_right
          (Multiset.notMem_zero y))
      · intro hw y hy
        rw [Link.inbox_send _ hcopy, Multiset.add_cons, tokens_cons] at hy
        rcases Multiset.mem_cons.1 hy with rfl | hy
        · refine hnet _ (Net.mem_circulating_of_holdings hw (Multiset.mem_map_of_mem _ ?_))
          rw [Node.holdings, hworking]
          exact Multiset.mem_add.2 (.inr (Multiset.mem_singleton_self copy))
        · exact hmail hw y hy
  | disconnected _ ha w order master slot hkept hmaster =>
      refine .inl ?_
      rcases mem_circulating.1 hx with hx | ⟨v, hv, hx⟩ | hx
      · rcases hkept with rfl | rfl
        · exact hslot x hx
        · exact absurd hx (Multiset.notMem_zero x)
      · exact hmail hv x hx
      · exact hnet x hx
  | cut w =>
      refine .inl (circulating_of_linksWith hx _ (linksWith_setLink s w _) hslot hnet ?_)
      intro hw
      refine hless hw (add_le_add ?_ (Multiset.zero_le _))
      exact add_le_add_left (Multiset.zero_le _) _

/-- A step that assigns nothing. -/
structure Unassigned (s s' : System) : Prop where
  dispatches : s'.dispatches = s.dispatches
  slot : s'.slot = s.slot ∨ s'.slot = none
  assigned : ∀ t w, s'.master.place t = some (.assigned w) →
    s.master.place t = some (.assigned w)
  pending : ∀ t, s'.master.place t = some .pending → s.master.place t = some .pending
  record : ∀ t task, s.master.tasks.lookup t = some task →
    ∃ task', s'.master.tasks.lookup t = some task' ∧
      task'.assignmentWorkerId = task.assignmentWorkerId

theorem unassigned_of_sameWork (hwork : s.master.SameWork s'.master)
    (hdispatches : s'.dispatches = s.dispatches) (hslot : s'.slot = s.slot ∨ s'.slot = none) :
    s.Unassigned s' := by
  refine ⟨hdispatches, hslot, ?_, ?_, ?_⟩
  · intro t w ht
    rwa [hwork.place] at ht
  · intro t ht
    rwa [hwork.place] at ht
  · intro t task htask
    exact ⟨task, by rw [hwork.tasks, htask], rfl⟩

theorem unassigned_of_step (hm : s.master.Consistent) {b : Master.Action}
    (hb : ∀ now, b ≠ .nextAssignment now) (hstep : s.master.step b = some s'.master)
    (hdispatches : s'.dispatches = s.dispatches) (hslot : s'.slot = s.slot ∨ s'.slot = none) :
    s.Unassigned s' := by
  obtain ⟨_, heff⟩ := Master.step_effect hm hstep
  exact ⟨hdispatches, hslot, fun t w ht => heff.assigned_of_assigned hb ht,
    fun t ht => (heff.pending ht).1, fun t task htask => heff.record hm hb htask⟩

theorem Effect.unassigned (hm : s.master.Consistent) (heff : Effect c s a s') :
    s.Unassigned s' ∨ ∃ now t p task w, s.slot = none ∧
      Ledger.Waiting s.master.place t ∧ s.master.tasks.lookup t = some task ∧
      s.master.connection w = some true ∧
      Master.Assigned s.master (Master.sentTo w now task) w s'.master ∧
      s'.slot = some (⟨Master.sentTo w now task, w, p⟩, s.dispatches.length) ∧
      s'.dispatches = s.dispatches ++ [(t, w)] := by
  cases heff with
  | quiet _ _ _ hwork hslot hdispatches _ _ _ =>
      exact .inl (unassigned_of_sameWork hwork hdispatches (.inl hslot))
  | assigned now t p task w master hslot hwaiting htask hconnected hassigned =>
      exact .inr ⟨now, t, p, task, w, hslot, hwaiting, htask, hconnected, hassigned, rfl, rfl⟩
  | sent assignment k task _ _ =>
      exact .inl (unassigned_of_sameWork (.refl _) rfl (.inr rfl))
  | judged w message rest copy b master _ _ hb hmaster =>
      refine .inl (unassigned_of_step hm (fun now hnow => ?_) hmaster rfl (.inl rfl))
      rcases hb with rfl | ⟨reason, rfl⟩ <;> cases hnow
  | admitted w now message rest copy _ _ _ hsame _ _ _ _ =>
      exact .inl (unassigned_of_sameWork (hsame.master ▸ .refl _) hsame.dispatches
        (.inl hsame.slot))
  | duplicate w now message rest _ _ hsame _ _ _ =>
      exact .inl (unassigned_of_sameWork (hsame.master ▸ .refl _) hsame.dispatches
        (.inl hsame.slot))
  | full w now message rest copy _ _ _ hsame _ _ _ _ =>
      exact .inl (unassigned_of_sameWork (hsame.master ▸ .refl _) hsame.dispatches
        (.inl hsame.slot))
  | malformed w now message rest e _ _ =>
      exact .inl (unassigned_of_sameWork (.refl _) rfl (.inl rfl))
  | overflowed w copy _ => exact .inl (unassigned_of_sameWork (.refl _) rfl (.inl rfl))
  | concluded w succeeded copy message net _ _ _ =>
      exact .inl (unassigned_of_sameWork (.refl _) rfl (.inl rfl))
  | disconnected _ _ w order master slot hslot hmaster =>
      exact .inl (unassigned_of_step hm (fun now hnow => by cases hnow) hmaster rfl hslot)
  | cut w => exact .inl (unassigned_of_sameWork (.refl _) rfl (.inl rfl))

theorem IsLatest.append {t u : TaskId} {v : WorkerId} {k : ℕ} (h : s.IsLatest t w k)
    (hne : t ≠ u) (hdispatches : s'.dispatches = s.dispatches ++ [(u, v)]) :
    s'.IsLatest t w k := by
  obtain ⟨hget, hlatest⟩ := h
  have hlt := (List.getElem?_eq_some_iff.1 hget).1
  refine ⟨by rw [hdispatches, List.getElem?_append_left hlt, hget], ?_⟩
  intro k' w' hk' hget'
  rw [hdispatches, List.getElem?_append] at hget'
  split_ifs at hget' with hlt'
  · exact hlatest k' w' hk' hget'
  · obtain ⟨_, heq⟩ := List.getElem?_eq_some_iff.1 hget'
    rw [List.getElem_singleton] at heq
    cases heq
    exact hne rfl

theorem isLatest_new {t : TaskId} (hdispatches : s'.dispatches = s.dispatches ++ [(t, w)]) :
    s'.IsLatest t w s.dispatches.length := by
  refine ⟨by rw [hdispatches, List.getElem?_concat_length], ?_⟩
  intro k' w' hk' hget
  obtain ⟨hlt, _⟩ := List.getElem?_eq_some_iff.1 hget
  rw [hdispatches, List.length_append, List.length_singleton] at hlt
  exact absurd hk' (Nat.not_lt.2 (Nat.le_of_lt_succ hlt))

theorem Traced.slot_step (h : s.Traced c) (heff : Effect c s a s')
    {assignment : Master.Assignment} {k : ℕ} (hslot : s'.slot = some (assignment, k)) :
    s'.SlotOk c assignment k := by
  obtain hnone | ⟨now, t, p, task, w, _, _, htask, hconnected, hassigned, hslot', hdispatches⟩ :=
    heff.unassigned h.governed.consistent
  · rcases hnone.slot with hsame | hfree
    · rw [hsame] at hslot
      obtain ⟨hlength, hdispatch, hworker, task, htask, hassignment⟩ :=
        h.slot assignment k hslot
      obtain ⟨task', htask', hsame'⟩ := hnone.record _ task htask
      exact ⟨by rw [hnone.dispatches, hlength], by rw [hnone.dispatches, hdispatch], hworker,
        task', htask', hsame'.trans hassignment⟩
    · rw [hfree] at hslot
      cases hslot
  · rw [hslot'] at hslot
    cases hslot
    have hid : (Master.sentTo w now task).taskId = t :=
      h.governed.consistent.task_id t task htask
    refine ⟨?_, ?_, h.governed.worker w (by rw [hconnected]; rfl), Master.sentTo w now task,
      ?_, rfl⟩
    · rw [hdispatches, List.length_append, List.length_singleton]
    · rw [hdispatches, List.getElem?_concat_length, hid]
    · rw [hassigned.tasks, hid, AList.lookup_insert]

theorem Traced.place_step (h : s.Traced c) (heff : Effect c s a s') :
    (∀ t w, s'.master.place t = some (.assigned w) → ∃ k, s'.IsLatest t w k) ∧
    ∀ t, s'.master.place t = some .pending →
      ∀ (k : ℕ) (w : WorkerId), s'.dispatches[k]? ≠ some (t, w) := by
  obtain hnone | ⟨now, t, p, task, w, _, hwaiting, htask, _, hassigned, _, hdispatches⟩ :=
    heff.unassigned h.governed.consistent
  · have hlatest : ∀ t w k, s'.IsLatest t w k ↔ s.IsLatest t w k := by
      intro t w k
      rw [IsLatest, IsLatest, hnone.dispatches]
    refine ⟨fun t w ht => ?_, fun t ht => ?_⟩
    · simp only [hlatest]
      exact h.assigned t w (hnone.assigned t w ht)
    · rw [hnone.dispatches]
      exact h.pending t (hnone.pending t ht)
  · have hid : (Master.sentTo w now task).taskId = t :=
      h.governed.consistent.task_id t task htask
    have hplace := hassigned.place
    rw [hid] at hplace
    refine ⟨fun u v hu => ?_, fun u hu k v hget => ?_⟩
    · by_cases hut : u = t
      · subst hut
        rw [hplace, Function.update_self] at hu
        cases hu
        exact ⟨_, isLatest_new hdispatches⟩
      · rw [hplace, Function.update_of_ne hut] at hu
        obtain ⟨k, hk⟩ := h.assigned u v hu
        exact ⟨k, hk.append hut hdispatches⟩
    · have hut : u ≠ t := by
        rintro rfl
        rw [hplace, Function.update_self] at hu
        cases hu
      rw [hplace, Function.update_of_ne hut] at hu
      rw [hdispatches, List.getElem?_append] at hget
      split_ifs at hget
      · exact h.pending u hu k v hget
      · obtain ⟨_, heq⟩ := List.getElem?_eq_some_iff.1 hget
        rw [List.getElem_singleton] at heq
        cases heq
        exact hut rfl

theorem Effect.netStep (heff : Effect c s a s') :
    s'.net = s.net ∨ ∃ b, s.net.step c b = some s'.net := by
  cases heff with
  | quiet _ _ _ _ _ _ _ hmoves _ => exact hmoves.imp_right fun ⟨b, hb, _⟩ => ⟨b, hb⟩
  | assigned => exact .inl rfl
  | sent => exact .inl rfl
  | judged => exact .inl rfl
  | admitted w now message rest copy _ _ _ _ _ hnet _ _ => exact .inr ⟨_, hnet⟩
  | duplicate _ _ _ _ _ _ _ _ hnet _ => exact .inl hnet
  | full _ _ _ _ _ _ _ _ _ _ _ hnet _ => exact .inl hnet
  | malformed => exact .inl rfl
  | overflowed => exact .inl rfl
  | concluded w succeeded copy message net _ _ hnet => exact .inr ⟨_, hnet⟩
  | disconnected => exact .inl rfl
  | cut => exact .inl rfl

/-- A `TASK` message was on its way before, or is what the distributor had to send. -/
theorem Effect.toWorker (heff : Effect c s a s') {v : WorkerId} {message : TaskMessage}
    (hmessage : message ∈ (s'.links v).toWorker) :
    message ∈ (s.links v).toWorker ∨
      ∃ assignment k task, a = .sendTask ∧ s.slot = some (assignment, k) ∧
        s.master.tasks.lookup assignment.task.taskId = some task ∧ v = assignment.worker ∧
        message = ⟨⟨task, k⟩, assignment.priority⟩ := by
  have hlinked : ∀ {w} (link : Link), s.LinksWith s' w link →
      (∀ m ∈ link.toWorker, m ∈ (s.links w).toWorker) → message ∈ (s.links v).toWorker := by
    intro w link hlinks hsub
    rw [(hlinks v).toWorker, links_setLink] at hmessage
    split_ifs at hmessage with hv
    · exact hv ▸ hsub message hmessage
    · exact hmessage
  cases heff with
  | quiet _ _ _ _ _ _ _ _ hlinks => exact .inl ((hlinks v).toWorker ▸ hmessage)
  | assigned => exact .inl hmessage
  | sent assignment k task hslot htask =>
      simp only [links_setLink] at hmessage
      split_ifs at hmessage with hv
      · rcases List.mem_append.1 hmessage with hold | hnew
        · exact .inl (hv ▸ hold)
        · exact .inr ⟨assignment, k, task, rfl, hslot, htask, hv, List.mem_singleton.1 hnew⟩
      · exact .inl hmessage
  | judged w message rest copy b master _ _ _ _ =>
      exact .inl (hlinked { s.links w with toMaster := rest } (fun _ => .refl _)
        fun m hm => hm)
  | admitted w now message rest copy _ hmail _ _ _ _ _ hlinks =>
      exact .inl (hlinked _ hlinks fun m hm => hmail ▸ List.mem_cons_of_mem _ hm)
  | duplicate w now message rest _ hmail _ _ _ hlinks =>
      exact .inl (hlinked _ hlinks fun m hm => hmail ▸ List.mem_cons_of_mem _ hm)
  | full w now message rest copy _ hmail _ _ _ _ _ hlinks =>
      exact .inl (hlinked _ hlinks fun m hm => hmail ▸ List.mem_cons_of_mem _ hm)
  | malformed w now message rest e hmail _ =>
      exact .inl (hlinked _ (linksWith_setLink s w _) fun m hm =>
        hmail ▸ List.mem_cons_of_mem _ hm)
  | overflowed w copy _ =>
      exact .inl (hlinked _ (linksWith_sendMaster s w _ _) fun m hm => hm)
  | concluded w succeeded copy message net _ _ _ =>
      exact .inl (hlinked { s.links w with toMaster := (s.links w).toMaster ++ [message] }
        (fun _ => .refl _) fun m hm => hm)
  | disconnected => exact .inl hmessage
  | cut w => exact .inl (hlinked _ (linksWith_setLink s w _) fun m hm => by cases hm)

theorem Traced.mem_workers (h : s.Traced c) (copy : Copy)
    (hcopy : copy ∈ (s.links w).outbox + (s.links w).inbox) : w ∈ c.workers := by
  by_contra hw
  rw [h.unlinked w hw] at hcopy
  exact Multiset.notMem_zero copy hcopy

theorem Traced.mem_workers_of_toWorker (h : s.Traced c) {message : TaskMessage}
    {rest : List TaskMessage} (hmail : (s.links w).toWorker = message :: rest) :
    w ∈ c.workers := by
  refine h.mem_workers message.copy (Multiset.mem_add.2 (.inl ?_))
  rw [Link.outbox_of_receive hmail]
  exact Multiset.mem_cons_self _ _

theorem Traced.mem_workers_of_toMaster (h : s.Traced c) {message : WorkerMessage}
    {rest : List WorkerMessage} {copy : Copy} (hmail : (s.links w).toMaster = message :: rest)
    (hcopy : message.copy = some copy) : w ∈ c.workers := by
  refine h.mem_workers copy (Multiset.mem_add.2 (.inr ?_))
  rw [Link.inbox_of_deliver hmail hcopy]
  exact Multiset.mem_cons_self copy _

theorem Traced.mem_workers_of_overflow (h : s.Traced c) {copy : Copy}
    (hoverflow : (s.links w).overflow = some copy) : w ∈ c.workers := by
  refine h.mem_workers copy (Multiset.mem_add.2 (.inl ?_))
  rw [Link.outbox_of_overflow hoverflow]
  exact Multiset.mem_cons_self copy _

theorem Traced.unlinked_step (h : s.Traced c) (heff : Effect c s a s') {v : WorkerId}
    (hv : v ∉ c.workers) : (s'.links v).outbox + (s'.links v).inbox = 0 := by
  have hold := h.unlinked v hv
  have hother : ∀ {w} (link : Link), s.LinksWith s' w link → w ∈ c.workers →
      (s'.links v).outbox + (s'.links v).inbox = 0 := by
    intro w link hlinks hw
    have hne : v ≠ w := fun heq => hv (heq ▸ hw)
    have hsame := hlinks v
    rw [links_setLink, if_neg hne] at hsame
    rw [hsame.outbox, hsame.inbox, hold]
  cases heff with
  | quiet _ _ _ _ _ _ _ _ hlinks => rw [(hlinks v).outbox, (hlinks v).inbox, hold]
  | assigned => exact hold
  | sent assignment k task hslot _ =>
      exact hother { s.links assignment.worker with
        toWorker := (s.links assignment.worker).toWorker ++
          [⟨⟨task, k⟩, assignment.priority⟩] } (fun _ => .refl _)
        (h.slot assignment k hslot).worker.1
  | judged w message rest copy b master hmail hcopy _ _ =>
      exact hother { s.links w with toMaster := rest } (fun _ => .refl _)
        (h.mem_workers_of_toMaster hmail hcopy)
  | admitted w now message rest copy _ hmail _ _ _ _ _ hlinks =>
      exact hother _ hlinks (h.mem_workers_of_toWorker hmail)
  | duplicate w now message rest _ hmail _ _ _ hlinks =>
      exact hother _ hlinks (h.mem_workers_of_toWorker hmail)
  | full w now message rest copy _ hmail _ _ _ _ _ hlinks =>
      exact hother _ hlinks (h.mem_workers_of_toWorker hmail)
  | malformed w now message rest e hmail _ =>
      exact hother _ (linksWith_setLink s w _) (h.mem_workers_of_toWorker hmail)
  | overflowed w copy hoverflow =>
      exact hother _ (linksWith_sendMaster s w _ _) (h.mem_workers_of_overflow hoverflow)
  | concluded w succeeded copy message net _ _ hnet =>
      exact hother { s.links w with toMaster := (s.links w).toMaster ++ [message] }
        (fun _ => .refl _) (Net.mem_workers_of_report hnet)
  | disconnected => exact hold
  | cut w =>
      rw [links_setLink]
      split_ifs with heq
      · subst heq
        refine Multiset.le_zero.1 (hold ▸ add_le_add ?_ (Multiset.zero_le _))
        exact add_le_add_left (Multiset.zero_le _) _
      · exact hold

theorem traced_step (h : s.Traced c) (hstep : step c s a = some s') : s'.Traced c := by
  obtain ⟨hgoverned, hprotocol, heff⟩ := step_effect h.governed h.protocol hstep
  obtain ⟨hassigned, hpending⟩ := h.place_step heff
  have hmono : ∀ y, s.Issued y → s'.Issued y := by
    intro y hy
    obtain hnone | ⟨_, _, _, _, _, _, _, _, _, _, _, hdispatches⟩ :=
      heff.unassigned h.governed.consistent
    · exact hy.mono (hnone.dispatches.trans (List.append_nil _).symm)
    · exact hy.mono hdispatches
  refine ⟨hgoverned, hprotocol, fun assignment k => h.slot_step heff, ?_, ?_, ?_,
    fun w => h.unlinked_step heff, hassigned, hpending⟩
  · intro x hx
    rcases circulating_effect h heff hx with hold | ⟨t, w, hw, hdispatches, rfl⟩
    · exact hmono x (h.issued x hold)
    · exact ⟨w, rfl, hw, by rw [hdispatches, List.getElem?_concat_length]⟩
  · intro w hw x hx
    refine hmono x ?_
    rcases heff.netStep with hnet | ⟨b, hnet⟩
    · exact h.concluded w hw x (hnet ▸ hx)
    · rcases Net.concluded_step h.protocol hnet w with hle | ⟨_, heq⟩
      · exact h.concluded w hw x (Multiset.mem_of_le (Multiset.map_le_map hle) hx)
      · refine h.issued x (mem_circulating.2 (.inr (.inr ?_)))
        refine Net.mem_circulating_of_holdings hw ?_
        rw [heq] at hx
        rw [Node.holdings, tokens_add]
        exact Multiset.mem_add.2 (.inr hx)
  · intro w message hmessage
    rcases heff.toWorker hmessage with hold | ⟨assignment, k, task, _, hslot, htask, rfl, rfl⟩
    · exact h.addressed w message hold
    · obtain ⟨_, _, _, task', htask', hassignment⟩ := h.slot assignment k hslot
      rw [htask] at htask'
      cases htask'
      exact ⟨hassignment, h.governed.valid _ task htask⟩

theorem start_eq_ok {count : ℕ} {rng : RandomSource} (hstart : start c count rng = .ok s) :
    ∃ master, Master.start count rng c.workers = .ok master ∧ s = { master := master } := by
  unfold start at hstart
  cases hmaster : Master.start count rng c.workers with
  | error e =>
      rw [hmaster] at hstart
      cases hstart
  | ok master =>
      rw [hmaster] at hstart
      cases hstart
      exact ⟨master, rfl, rfl⟩

theorem traced_start {count : ℕ} {rng : RandomSource} (hstart : start c count rng = .ok s) :
    s.Traced c := by
  obtain ⟨master, hmaster, rfl⟩ := start_eq_ok hstart
  have hstarted := Master.started_of_start hmaster
  refine ⟨hstarted.governed, .init, ?_, ?_, ?_, ?_, fun _ _ => rfl, ?_, ?_⟩
  · intro assignment k hslot
    cases hslot
  · intro x hx
    rcases mem_circulating.1 hx with hx | ⟨w, _, hx⟩ | hx
    · exact absurd hx (Multiset.notMem_zero x)
    · exact absurd hx (Multiset.notMem_zero x)
    · rcases Net.mem_circulating.1 hx with ⟨w, _, hx⟩ | ⟨request, hr, _⟩
      · exact absurd hx (Multiset.notMem_zero x)
      · cases hr
  · intro w _ x hx
    exact absurd hx (Multiset.notMem_zero x)
  · intro w message hmessage
    cases hmessage
  · intro t w ht
    cases hstarted.place t _ ht
  · intro t _ k w hget
    cases hget

theorem traced_run {count : ℕ} {rng : RandomSource} {s₀ : System} {acts : List Action}
    (hstart : start c count rng = .ok s₀) (hrun : Transition.run (step c) s₀ acts = some s) :
    s.Traced c :=
  Transition.invariant_run (fun _ _ _ h hstep => traced_step h hstep) (traced_start hstart) hrun

end

end System

end KVStore
