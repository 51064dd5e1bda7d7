import KVStore.Cluster.FaultFree

/-!
# After a worker is lost

The Master requeues the tasks that it has recorded with the lost worker, and a handover
between workers changes no record. So a lost worker takes the tasks with it that others
handed over to it; and a worker that is sent a task which it has already taken over keeps the
copy that names the first worker.
-/

namespace KVStore

open HasTaskId

/-- The copies that keep the task active in the queue of the node. -/
def Node.activeCopies (node : Node) : Multiset Copy :=
  node.queue.waiting + node.queue.aside + ↑node.processor.copy.toList

namespace System

def idsOf (copies : Multiset Copy) : Multiset TaskId := copies.map taskId

/-- The task is not done, and its only copy is with `w`: waiting, reserved or being
processed, with no result sent. -/
structure OnlyOn (c : Config) (s : System) (w : WorkerId) (t : TaskId) : Prop where
  unfinished : ∃ state ∈ s.master.taskState.lookup t, state ≠ .done
  here : w ∈ c.workers ∧ t ∈ idsOf (s.net.nodes w).holdings
  elsewhere : ∀ v ∈ c.workers, v ≠ w → t ∉ idsOf (s.net.nodes v).holdings
  mail : ∀ v ∈ c.workers, t ∉ idsOf ((s.links v).outbox + (s.links v).inbox)
  unchosen : ∀ x ∈ s.slotTokens, x.item ≠ t
  transfers : t ∉ idsOf ↑(s.net.requests.flatMap P2PRequest.copies)

/-- The task waits to be retried. -/
def Retried (s : System) (t : TaskId) : Prop :=
  s.master.taskState.lookup t = some .retry ∧ t ∈ s.master.retryIds

instance (c : Config) (s : System) (w : WorkerId) (t : TaskId) :
    Decidable (s.OnlyOn c w t) :=
  decidable_of_iff ((∃ state ∈ s.master.taskState.lookup t, state ≠ .done) ∧
      (w ∈ c.workers ∧ t ∈ idsOf (s.net.nodes w).holdings) ∧
      (∀ v ∈ c.workers, v ≠ w → t ∉ idsOf (s.net.nodes v).holdings) ∧
      (∀ v ∈ c.workers, t ∉ idsOf ((s.links v).outbox + (s.links v).inbox)) ∧
      (∀ x ∈ s.slotTokens, x.item ≠ t) ∧
      t ∉ idsOf ↑(s.net.requests.flatMap P2PRequest.copies))
    ⟨fun ⟨h₁, h₂, h₃, h₄, h₅, h₆⟩ => ⟨h₁, h₂, h₃, h₄, h₅, h₆⟩,
      fun ⟨h₁, h₂, h₃, h₄, h₅, h₆⟩ => ⟨h₁, h₂, h₃, h₄, h₅, h₆⟩⟩

instance (s : System) (t : TaskId) : Decidable (s.Retried t) :=
  inferInstanceAs (Decidable (_ ∧ _))

/-- Every copy for which the queue of `w` ignores the next `TASK` message names the
same assignment as the message. -/
def Agrees (s : System) (w : WorkerId) : Prop :=
  ∀ message ∈ (s.links w).toWorker.head?, ∀ copy ∈ (s.net.nodes w).activeCopies,
    taskId copy = message.copy.task.taskId →
    copy.task.assignmentWorkerId = message.copy.task.assignmentWorkerId

/-- The Master sent every such copy to `w` itself: none was taken over from a peer to
which the task had been dispatched. -/
def OwnCopies (s : System) (w : WorkerId) : Prop :=
  ∀ message ∈ (s.links w).toWorker.head?, ∀ copy ∈ (s.net.nodes w).activeCopies,
    taskId copy = message.copy.task.taskId →
    s.dispatches[copy.dispatch]? = some (taskId copy, w)

section

variable {c : Config} {s s' s₀ : System} {acts : List Action} {count : ℕ}
  {rng : RandomSource} {w : WorkerId} {t : TaskId}

theorem retried_iff (hm : s.master.Consistent) :
    s.Retried t ↔ s.master.place t = some .retry := by
  constructor
  · rintro ⟨hstate, _⟩
    exact hm.toRecords.state_retry_iff.1 hstate
  · intro hplace
    exact ⟨hm.toRecords.state_retry_iff.2 hplace, (hm.queues.mem_retry t).2 hplace⟩

theorem Traced.dispatched (h : s.Traced c) (hw : w ∈ c.workers)
    (ht : t ∈ idsOf (s.net.nodes w).holdings) :
    ∃ (k : ℕ) (v : WorkerId), s.dispatches[k]? = some (t, v) := by
  obtain ⟨copy, hcopy, rfl⟩ := Multiset.mem_map.1 ht
  obtain ⟨v, _, _, hdispatch⟩ := h.issued copy.token (mem_circulating.2 (.inr (.inr
    (Net.mem_circulating_of_holdings hw (Multiset.mem_map_of_mem _ hcopy)))))
  exact ⟨_, v, hdispatch⟩

/-- A task that only one worker has is assigned or waits to be retried. -/
theorem OnlyOn.place (h : s.Traced c) (honly : s.OnlyOn c w t) :
    s.master.place t = some .retry ∨ ∃ v, s.master.place t = some (.assigned v) := by
  obtain ⟨k, v, hdispatch⟩ := h.dispatched honly.here.1 honly.here.2
  obtain ⟨state, hstate, hopen⟩ := honly.unfinished
  obtain ⟨p, hplace, rfl⟩ := h.governed.consistent.toRecords.place_of_state hstate
  cases p with
  | pending => exact absurd hdispatch (h.pending t hplace k v)
  | retry => exact .inl hplace
  | assigned v => exact .inr ⟨v, hplace⟩
  | done => exact absurd rfl hopen

theorem place_disconnect (h : s.Traced c) (hw : s.master.connection w = some true)
    {order : List TaskId} (hstep : step c s (.disconnect w order) = some s') :
    s'.master.place = Ledger.release s.master.place w := by
  obtain ⟨master, hmaster, rfl⟩ := Option.map_eq_some_iff.1 hstep
  obtain ⟨worker, hworker, hmaster⟩ := Option.bind_eq_some_iff.1 hmaster
  split_ifs at hmaster with horder
  obtain ⟨hlost, _⟩ | ⟨_, m', hm', _, hdisconnected⟩ :=
    Master.disconnectWorker_cases h.governed.consistent hworker horder.1 horder.2
  · rw [Master.connection, hworker, Option.map_some, hlost] at hw
    cases hw
  · rw [hm'] at hmaster
    cases hmaster
    exact hdisconnected.place

/-- **Crash recovery.** When the connection of `w` is lost, a task whose only copy is with
`w` is retried if and only if the Master has it assigned to no other worker. -/
theorem recovered_iff (hstart : start c count rng = .ok s₀)
    (hrun : Transition.run (step c) s₀ acts = some s)
    (hw : s.master.connection w = some true) {order : List TaskId}
    (hstep : step c s (.disconnect w order) = some s') (honly : s.OnlyOn c w t) :
    s'.Retried t ↔ ∀ v, s.master.HeldBy t v → v = w := by
  have h := traced_run hstart hrun
  have h' := traced_step h hstep
  rw [retried_iff h'.governed.consistent, place_disconnect h hw hstep, Ledger.release]
  simp only [Master.heldBy_iff h.governed.consistent]
  rcases honly.place h with hretry | ⟨v, hassigned⟩
  · refine iff_of_true ?_ fun v hv => ?_
    · rw [hretry, if_neg (by simp)]
    · rw [hretry] at hv
      cases hv
  · simp only [hassigned, Option.some.injEq, Place.assigned.injEq]
    constructor
    · intro hretry u hu
      split_ifs at hretry with hvw
      · exact hu.symm.trans hvw
      · cases hretry
    · intro hall
      rw [if_pos (hall v rfl)]

theorem Traced.issued_of_active (h : s.Traced c) (hw : w ∈ c.workers) {copy : Copy}
    (hcopy : copy ∈ (s.net.nodes w).activeCopies) : s.Issued copy.token := by
  have hprocessor : (↑(s.net.nodes w).processor.copy.toList : Multiset Copy) =
      (s.net.nodes w).processor.unreported + (s.net.nodes w).processor.concluded := by
    cases (s.net.nodes w).processor <;> rfl
  have hsplit : (s.net.nodes w).activeCopies =
      (s.net.nodes w).holdings + (s.net.nodes w).processor.concluded := by
    rw [Node.activeCopies, Node.holdings, hprocessor, add_assoc, add_assoc, add_assoc]
  rw [hsplit] at hcopy
  rcases Multiset.mem_add.1 hcopy with hheld | hconcluded
  · exact h.issued _ (mem_circulating.2 (.inr (.inr
      (Net.mem_circulating_of_holdings hw (Multiset.mem_map_of_mem _ hheld)))))
  · exact h.concluded w hw _ (Multiset.mem_map_of_mem _ hconcluded)

/-- **The two filters.** When a worker ignores a `TASK` message as a duplicate, the
copies that it keeps name the assignment of the message if and only if the Master sent
them to this worker itself. -/
theorem agrees_iff (hstart : start c count rng = .ok s₀)
    (hrun : Transition.run (step c) s₀ acts = some s) {now : ℚ}
    (hdrop : s.Drops (.receiveTask w now)) : s.Agrees w ↔ s.OwnCopies w := by
  have h := traced_run hstart hrun
  obtain ⟨message, hhead, _⟩ := hdrop
  have hmem := List.mem_of_mem_head? hhead
  obtain ⟨haddressed, _⟩ := h.addressed w message hmem
  obtain ⟨rest, hmail⟩ : ∃ rest, (s.links w).toWorker = message :: rest :=
    List.head?_eq_some_iff.1 hhead
  have hw := h.mem_workers_of_toWorker hmail
  have hcopies : ∀ copy ∈ (s.net.nodes w).activeCopies,
      copy.task.assignmentWorkerId = message.copy.task.assignmentWorkerId ↔
        s.dispatches[copy.dispatch]? = some (taskId copy, w) := by
    intro copy hcopy
    obtain ⟨v, hv, _, hdispatch⟩ := h.issued_of_active hw hcopy
    have hholder : copy.task.assignmentWorkerId = some v := hv
    have hissued : s.dispatches[copy.dispatch]? = some (taskId copy, v) := hdispatch
    rw [hholder, haddressed, hissued]
    simp
  have honly : ∀ message' ∈ (s.links w).toWorker.head?, message' = message := by
    intro message' hhead'
    exact Option.some.inj (hhead'.symm.trans hhead)
  constructor
  · intro hagrees message' hhead' copy hcopy hid
    exact (hcopies copy hcopy).1 (honly message' hhead' ▸ hagrees message' hhead' copy hcopy hid)
  · intro hown message' hhead' copy hcopy hid
    rw [honly message' hhead']
    exact (hcopies copy hcopy).2 (hown message' hhead' copy hcopy hid)

end

/-- The handover is acknowledged, and `worker1` removes the task. -/
def acknowledged : List Action :=
  handover ++ [.respond "worker2", .receiveReply "worker1", .balance "worker1" "r7" 1,
    .balance "worker1" "r7" 1]

/-- The tasks that the Master has recorded with `worker1` at that time. -/
def recordedOfWorker1 : List TaskId :=
  ["task-0029", "task-0001", "task-0005", "task-0009", "task-0013", "task-0017",
    "task-0021", "task-0025"]

/-- The tasks that the Master has recorded with `worker2` at that time. -/
def recordedOfWorker2 : List TaskId :=
  ["task-0002", "task-0006", "task-0010", "task-0014", "task-0018", "task-0022",
    "task-0026"]

set_option maxRecDepth 100000 in
theorem exists_acknowledged :
    ∃ s₀ s, start four 29 .first = .ok s₀ ∧
      Transition.run (step four) s₀ acknowledged = some s ∧
      (s.master.connection "worker1" = some true ∧ s.OnlyOn four "worker1" "task-0001" ∧
        (step four s (.disconnect "worker1" recordedOfWorker1)).isSome) ∧
      s.master.connection "worker2" = some true ∧ s.OnlyOn four "worker2" "task-0029" ∧
        (step four s (.disconnect "worker2" recordedOfWorker2)).any
          (fun s' => decide (¬ s'.Retried "task-0029")) = true :=
  exists_reached four 29 .first acknowledged (by decide +kernel)

/-- `worker1` is lost with a task that was sent to it. -/
theorem recovered_iff_worker1 :
    ∃ s₀ s s', start four 29 .first = .ok s₀ ∧
      Transition.run (step four) s₀ acknowledged = some s ∧
      step four s (.disconnect "worker1" recordedOfWorker1) = some s' ∧
      (s'.Retried "task-0001" ↔ ∀ v, s.master.HeldBy "task-0001" v → v = "worker1") := by
  obtain ⟨s₀, s, hstart, hrun, ⟨hconnected, honly, hnext⟩, _⟩ := exists_acknowledged
  obtain ⟨s', hstep⟩ := Option.isSome_iff_exists.1 hnext
  exact ⟨s₀, s, s', hstart, hrun, hstep, recovered_iff hstart hrun hconnected hstep honly⟩

/-- `worker2` is lost with the task that it took over. -/
theorem not_recovered_worker2 :
    ∃ s₀ s s', start four 29 .first = .ok s₀ ∧
      (∀ a ∈ acknowledged, a.isFault = false) ∧
      Transition.run (step four) s₀ acknowledged = some s ∧
      s.master.connection "worker2" = some true ∧
      step four s (.disconnect "worker2" recordedOfWorker2) = some s' ∧
      s.OnlyOn four "worker2" "task-0029" ∧ ¬ s'.Retried "task-0029" := by
  obtain ⟨s₀, s, hstart, hrun, _, hconnected, honly, hnext⟩ := exists_acknowledged
  obtain ⟨s', hstep, hlost⟩ := (Option.any_eq_true _ _).1 hnext
  exact ⟨s₀, s, s', hstart, by decide, hrun, hconnected, hstep, honly, of_decide_eq_true hlost⟩

/-- `worker1` is lost, its task is sent to `worker2`, which still has it, and `worker2`
takes the messages before it. -/
def resent : List Action :=
  acknowledged ++ [.disconnect "worker1" recordedOfWorker1, .nextAssignment 1, .sendTask] ++
    receiving "worker2" 7

instance (s : System) (w : WorkerId) : Decidable (s.Agrees w) :=
  inferInstanceAs (Decidable (∀ message ∈ _, ∀ copy ∈ _, _ → _))

instance (s : System) (w : WorkerId) (now : ℚ) : Decidable (s.Drops (.receiveTask w now)) :=
  inferInstanceAs (Decidable (∃ message ∈ (s.links w).toWorker.head?,
    message.copy.task.taskId ∈ (s.net.nodes w).queue.activeTaskIds))

set_option maxRecDepth 100000 in
/-- A `TASK` message is ignored for a copy that is still being processed. -/
theorem agrees_iff_reassigned :
    ∃ s₀ s, start four 1 .first = .ok s₀ ∧
      Transition.run (step four) s₀ reassigned = some s ∧
      (s.Agrees "worker1" ↔ s.OwnCopies "worker1") := by
  obtain ⟨s₀, s, hstart, hrun, hdrop⟩ := exists_reached four 1 .first reassigned
    (p := fun s => s.Drops (.receiveTask "worker1" 0)) (by decide +kernel)
  exact ⟨s₀, s, hstart, hrun, agrees_iff hstart hrun hdrop⟩

set_option maxRecDepth 100000 in
/-- `worker2` ignores the task that is assigned to it, and keeps the copy that names
`worker1`. -/
theorem not_agrees_resent :
    ∃ s₀ s, start four 29 .first = .ok s₀ ∧
      Transition.run (step four) s₀ resent = some s ∧
      s.Drops (.receiveTask "worker2" 0) ∧ (step four s (.receiveTask "worker2" 0)).isSome ∧
      ¬ s.Agrees "worker2" := by
  obtain ⟨s₀, s, hstart, hrun, hdrop, hstep, hnot⟩ := exists_reached four 29 .first resent
    (p := fun s => s.Drops (.receiveTask "worker2" 0) ∧
      (step four s (.receiveTask "worker2" 0)).isSome ∧ ¬ s.Agrees "worker2")
    (by decide +kernel)
  exact ⟨s₀, s, hstart, hrun, hdrop, hstep, hnot⟩

end System

end KVStore
