import KVStore.Cluster.Carriers

/-!
# Runs without faults

No connection is lost, no message is lost, and every sender waits for the answer to its
transfer. Then a task never has two carriers, a dispatch never has two results, and
the Master acts upon every result that it is sent. A task can still lose its last
carrier: a worker remembers the id of a task that it has reported or handed over for a
while, and ignores the `TASK` message of a new assignment of the same task.
-/

namespace KVStore

namespace System

/-- What holds in every state of a run without faults. -/
structure Undisturbed (c : Config) (s : System) : Prop where
  traced : s.Traced c
  calm : s.net.Calm c
  sole : (s.delivery c).Sole

/-- Every task has one carrier at most, every dispatch one result at most, and the
result that the Master handles next is acted upon. -/
structure AtMostOnce (c : Config) (s : System) : Prop where
  carriers : ∀ t, ((s.carriers c).map Delivery.Parcel.item).count t ≤ 1
  results : ∀ k, (s.results.map Copy.dispatch).count k ≤ 1
  accepted : ∀ w copy, s.nextResult w = some copy → s.Accepts w copy

/-- Every assigned task has a carrier. -/
def AllCarried (c : Config) (s : System) : Prop :=
  ∀ t, s.master.taskState.lookup t = some .assigned → ∃ x ∈ s.carriers c, x.item = t

section

variable {c : Config} {s s' s₀ : System} {a : Action} {acts : List Action} {count : ℕ}
  {rng : RandomSource}

theorem carriers_start (hstart : start c count rng = .ok s) : s.carriers c = 0 := by
  obtain ⟨master, _, rfl⟩ := start_eq_ok hstart
  have hmail : ∀ box : Link → Multiset Copy, box {} = 0 →
      mail c box { master := master } = 0 := fun box hbox =>
    Custody.total_eq_zero fun w _ => by rw [hbox, tokens_zero]
  have hlive : Net.init.liveTotal c = 0 := by
    refine Custody.total_eq_zero fun w _ => ?_
    have hunsettled : Net.init.unsettled {} = 0 :=
      Net.unsettled_of_reserved_eq_nil Node.sound_init rfl
    change tokens (0 + Net.init.unsettled {} + 0) = 0
    rw [hunsettled]
    rfl
  rw [carriers, unsent, hmail Link.outbox rfl, hmail Link.inbox rfl, hlive]
  rfl

theorem undisturbed_start (hstart : start c count rng = .ok s) : s.Undisturbed c := by
  have hcarriers : (s.delivery c).carriers = 0 := carriers_start hstart
  have hunsent : (s.delivery c).unsent = 0 := (add_eq_zero.1 hcarriers).1
  have htraced := traced_start hstart
  obtain ⟨master, _, rfl⟩ := start_eq_ok hstart
  refine ⟨htraced, Net.calm_init c, ?_, ?_, ?_, ?_⟩
  · intro x hx
    rw [hcarriers] at hx
    exact absurd hx (Multiset.notMem_zero x)
  · rw [hcarriers]
    exact Multiset.nodup_zero
  · rw [hunsent]
    exact Multiset.nodup_zero
  · intro k hk
    rw [hunsent] at hk
    exact absurd hk (Multiset.notMem_zero k)

theorem undisturbed_step (h : s.Undisturbed c) (ha : a.isFault = false)
    (hstep : step c s a = some s') : s'.Undisturbed c := by
  obtain ⟨_, _, heff⟩ := step_effect h.traced.governed h.traced.protocol hstep
  refine ⟨traced_step h.traced hstep, calm_effect h.traced.protocol h.calm ha heff, ?_⟩
  rcases delivery_effect h.traced h.calm ha heff with ⟨hsame, _⟩ | ⟨e, hparcel, _⟩
  · rw [hsame]
    exact h.sole
  · exact (h.sole.step hparcel).1

theorem undisturbed_run (hstart : start c count rng = .ok s₀)
    (hrun : Transition.run (step c) s₀ acts = some s)
    (hfault : ∀ a ∈ acts, a.isFault = false) : s.Undisturbed c :=
  Transition.invariant_along (P := fun _ a => a.isFault = false)
    (fun _ _ _ h ha hstep => undisturbed_step h ha hstep) (undisturbed_start hstart)
    (Transition.along_of_forall s₀ acts fun _ a ha => hfault a ha) hrun

theorem mem_inbox_of_nextResult {w : WorkerId} {copy : Copy}
    (h : s.nextResult w = some copy) : copy ∈ (s.links w).inbox := by
  obtain ⟨message, hhead, hcopy⟩ := Option.bind_eq_some_iff.1 h
  exact Multiset.mem_coe.2
    (List.mem_filterMap.2 ⟨message, List.mem_of_mem_head? hhead, hcopy⟩)

theorem Undisturbed.atMostOnce (h : s.Undisturbed c) : s.AtMostOnce c := by
  obtain ⟨htraced, _, hsole⟩ := h
  refine ⟨fun t => ?_, fun k => ?_, fun w copy hnext => ?_⟩
  · exact Multiset.nodup_iff_count_le_one.1 hsole.nodup_item t
  · have hnodup := (Multiset.nodup_add.1 hsole.nodup_number).1
    exact List.nodup_iff_count_le_one.1 (Multiset.coe_nodup.1 hnodup) k
  · have hinbox := mem_inbox_of_nextResult hnext
    have hmail : copy ∈ (s.links w).outbox + (s.links w).inbox :=
      Multiset.mem_add.2 (.inr hinbox)
    have hundelivered : copy.token ∈ (s.delivery c).undelivered :=
      Custody.mem_total.2 ⟨w, List.mem_toFinset.2 (htraced.mem_workers copy hmail),
        Multiset.mem_map_of_mem _ hinbox⟩
    have hcurrent := hsole.undelivered_current hundelivered
    exact (Master.acceptedTask_isSome_iff htraced.governed.consistent).2
      ((current_iff _ (htraced.issued_of_mail hmail) w).1 hcurrent)

/-- **At most once.** In a run without faults no task has two carriers, no dispatch has
two results, and no result is ignored as stale. -/
theorem at_most_once (hstart : start c count rng = .ok s₀)
    (hrun : Transition.run (step c) s₀ acts = some s)
    (hfault : ∀ a ∈ acts, a.isFault = false) : s.AtMostOnce c :=
  (undisturbed_run hstart hrun hfault).atMostOnce

theorem allCarried_iff (h : s.Traced c) : s.AllCarried c ↔ (s.delivery c).Covered := by
  have hrecords := h.governed.consistent.toRecords
  constructor
  · intro hall t w ht
    exact hall t (hrecords.state_assigned_iff.2 ⟨w, ht⟩)
  · intro hcovered t ht
    obtain ⟨w, hplace⟩ := hrecords.state_assigned_iff.1 ht
    exact hcovered t w hplace

def four : Config where
  workers := ["worker1", "worker2", "worker3", "worker4"]
  peers := fun _ => ["worker1", "worker2", "worker3", "worker4"]

/-- The distributor assigns and sends `k` tasks. -/
def dispatching (k : ℕ) : List Action :=
  (List.replicate k [.nextAssignment 0, .sendTask]).flatten

/-- The receiver thread of `w` takes `k` tasks and reports its queue each time. -/
def receiving (w : WorkerId) (k : ℕ) : List Action :=
  (List.replicate k [.receiveTask w 0, .snapshot w .receiver, .sendStatus w .receiver]).flatten

def asking (w p : WorkerId) (requestId : RequestId) : List Action :=
  [.balance w requestId 1, .serve p requestId 0, .respond p, .receiveReply w]

/-- `worker1` has eight tasks and hands the last of them over to `worker2`, up to the
answer of `worker2`. -/
def handover : List Action :=
  dispatching 29 ++ receiving "worker1" 8 ++ [.balance "worker1" "r0" 1] ++
    asking "worker1" "worker2" "r2" ++ asking "worker1" "worker3" "r3" ++
    asking "worker1" "worker4" "r4" ++
    [.balance "worker1" "r5" 1, .balance "worker1" "r5" 1, .balance "worker1" "r6" 1,
      .serve "worker2" "r6" 0]

set_option maxRecDepth 100000 in
/-- The task is with both workers, and counts once. -/
theorem at_most_once_handover :
    ∃ s₀ s, start four 29 .first = .ok s₀ ∧ Transition.run (step four) s₀ handover = some s ∧
      s.AtMostOnce four ∧ (s.net.nodes "worker1").queue.reserved.keys = ["task-0029"] ∧
      (s.net.nodes "worker2").queue.normal.map HasTaskId.taskId = ["task-0029"] := by
  obtain ⟨s₀, s, hstart, hrun, hboth⟩ := exists_reached four 29 .first handover
    (p := fun s => (s.net.nodes "worker1").queue.reserved.keys = ["task-0029"] ∧
      (s.net.nodes "worker2").queue.normal.map HasTaskId.taskId = ["task-0029"])
    (by decide +kernel)
  exact ⟨s₀, s, hstart, hrun, at_most_once hstart hrun (by decide), hboth⟩

/-- **No lost task.** In a run without faults every assigned task has a carrier in
every state, if and only if no step ignores a `TASK` message as a duplicate. -/
theorem all_carried_iff (hstart : start c count rng = .ok s₀)
    (hrun : Transition.run (step c) s₀ acts = some s)
    (hfault : ∀ a ∈ acts, a.isFault = false) :
    Transition.Visits (step c) (AllCarried c) s₀ acts ↔
      Transition.Along (step c) (fun s a => ¬ s.Drops a) s₀ acts := by
  have hstarted := undisturbed_start hstart
  have hcovered : (s₀.delivery c).Covered := by
    intro t w ht
    obtain ⟨master, hmaster, rfl⟩ := start_eq_ok hstart
    cases (Master.started_of_start hmaster).place t _ ht
  refine Transition.visits_iff_along (I := fun s => s.Undisturbed c ∧ (s.delivery c).Covered)
    (fun s h => (allCarried_iff h.1.traced).2 h.2) ?_ ?_ ⟨hstarted, hcovered⟩ hrun
  · intro s a ha s' ⟨h, hcovered⟩ hkept hstep
    have h' := undisturbed_step h (hfault a ha) hstep
    obtain ⟨_, _, heff⟩ := step_effect h.traced.governed h.traced.protocol hstep
    refine ⟨h', ?_⟩
    rcases delivery_effect h.traced h.calm (hfault a ha) heff with
      ⟨hsame, _⟩ | ⟨e, hparcel, hdrop⟩
    · rwa [hsame]
    · exact hcovered.step h.sole hparcel fun he => hkept (hdrop.1 he)
  · intro s a ha s' ⟨h, _⟩ hdropped hstep hall
    have h' := undisturbed_step h (hfault a ha) hstep
    obtain ⟨_, _, heff⟩ := step_effect h.traced.governed h.traced.protocol hstep
    rcases delivery_effect h.traced h.calm (hfault a ha) heff with
      ⟨_, hkept⟩ | ⟨e, hparcel, hdrop⟩
    · exact hdropped hkept
    · obtain rfl := hdrop.2 (not_not.1 hdropped)
      exact h.sole.not_covered_of_drop hparcel ((allCarried_iff h'.traced).1 hall)

/-- A run in which `worker1` fails the task, `worker2` fails it too, and `worker1` is
sent it again before it has marked the first copy done. -/
def reassigned : List Action :=
  [.nextAssignment 0, .sendTask, .receiveTask "worker1" 0, .dequeue "worker1",
    .snapshot "worker1" .processor, .sendStatus "worker1" .processor,
    .sendResult "worker1" false, .deliver "worker1", .deliver "worker1",
    .nextAssignment 1, .sendTask, .receiveTask "worker2" 0, .dequeue "worker2",
    .snapshot "worker2" .processor, .sendStatus "worker2" .processor,
    .sendResult "worker2" false, .deliver "worker2", .deliver "worker2",
    .nextAssignment 2, .sendTask]

theorem all_carried_iff_reassigned :
    ∃ s₀ s, start four 1 .first = .ok s₀ ∧
      Transition.run (step four) s₀ reassigned = some s ∧
      (Transition.Visits (step four) (AllCarried four) s₀ reassigned ↔
        Transition.Along (step four) (fun s a => ¬ s.Drops a) s₀ reassigned) := by
  obtain ⟨s₀, s, hstart, hrun, -⟩ := exists_reached four 1 .first reassigned
    (p := fun _ => True) (by decide +kernel)
  exact ⟨s₀, s, hstart, hrun, all_carried_iff hstart hrun (by decide)⟩

/-- `worker1` ignores the new assignment as a duplicate of the copy that it has
reported, and marks that copy done. -/
def ignored : List Action :=
  reassigned ++ [.snapshot "worker1" .receiver, .sendStatus "worker1" .receiver,
    .receiveTask "worker1" 0, .markDone "worker1"]

set_option maxRecDepth 100000 in
theorem not_all_carried_ignored :
    ∃ s₀ s, start four 1 .first = .ok s₀ ∧ (∀ a ∈ ignored, a.isFault = false) ∧
      Transition.run (step four) s₀ ignored = some s ∧ ¬ s.AllCarried four := by
  obtain ⟨s₀, s, hstart, hrun, hassigned, hnone⟩ := exists_reached four 1 .first ignored
    (p := fun s => s.master.taskState.lookup "task-0001" = some .assigned ∧
      s.carriers four = 0) (by decide +kernel)
  refine ⟨s₀, s, hstart, by decide, hrun, fun hall => ?_⟩
  obtain ⟨x, hx, _⟩ := hall "task-0001" hassigned
  rw [hnone] at hx
  exact Multiset.notMem_zero x hx

end

end System

end KVStore
