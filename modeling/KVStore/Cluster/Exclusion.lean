import KVStore.Cluster.FaultFree
import KVStore.Cluster.Queues

/-!
# The worker that failed a task last

The record of a failed task names the worker that failed it, and the Master does not
choose that worker for the next attempt. Copies keep the name on their way, but nothing
keeps a copy away from the worker it names: a worker hands its tasks over to any peer.
As long as no step brings a copy to the worker it names, no worker processes one.
-/

namespace KVStore

namespace System

/-- The step brings these copies into the hands of the worker: a `TASK` message that is
sent to it, or a transfer that its server thread accepts. -/
def handed (c : Config) (s : System) : Action → Option (WorkerId × List Copy)
  | .sendTask =>
      s.slot.bind fun pending =>
        (s.master.tasks.lookup pending.1.task.taskId).map fun task =>
          (pending.1.worker, [⟨task, pending.2⟩])
  | .serve w requestId now =>
      (s.net.requests.find? fun request =>
        request.requestId = requestId ∧ request.receiver = w).bind fun request =>
        if ((s.net.nodes w).handleConnection (c.peersOf w) w request now).2.2 = true then
          some (w, request.copies)
        else
          none
  | _ => none

/-- The step brings a copy to the worker that failed its task last. -/
def Returns (c : Config) (s : System) (a : Action) : Prop :=
  ∃ batch ∈ s.handed c a, ∃ copy ∈ batch.2, copy.task.previousWorkerId = some batch.1

instance (c : Config) (s : System) (a : Action) : Decidable (s.Returns c a) :=
  inferInstanceAs (Decidable (∃ batch ∈ s.handed c a, _))

/-- No worker processes a copy of a task that it failed last. -/
def Respected (s : System) : Prop :=
  ∀ w copy, (s.net.nodes w).processor.copy = some copy → copy.task.previousWorkerId ≠ some w

/-- No copy is with the worker it names, or on the way to it from the Master. -/
structure Excluded (c : Config) (s : System) : Prop where
  traced : s.Traced c
  mail : ∀ w, ∀ message ∈ (s.links w).toWorker, message.copy.task.previousWorkerId ≠ some w
  queued : ∀ w, ∀ copy ∈ (s.net.nodes w).queued, copy.task.previousWorkerId ≠ some w
  processed : s.Respected

section

variable {c : Config} {s s' s₀ : System} {a : Action} {w : WorkerId} {count : ℕ}
  {rng : RandomSource} {acts : List Action}

theorem previousWorkerId_fromDict {copy decoded : Copy} (h : copy.fromDict = .ok decoded) :
    decoded.task.previousWorkerId = copy.task.previousWorkerId := by
  unfold Copy.fromDict at h
  cases hpost : copy.task.postInit with
  | error e =>
      rw [hpost] at h
      cases h
  | ok kept =>
      rw [hpost] at h
      cases h
      rw [postInit_eq_ok hpost]

/-- A copy that was taken over names whom the copy that was sent named. -/
theorem exists_sent_of_takenOver {sent taken : List Copy} (h : TakenOver sent taken)
    {copy : Copy} (hcopy : copy ∈ taken) :
    ∃ original ∈ sent, original.task.previousWorkerId = copy.task.previousWorkerId := by
  obtain ⟨now, decoded, hdecoded, rfl⟩ := h
  obtain ⟨fresh, hfresh, rfl⟩ := List.mem_map.1 hcopy
  clear hcopy
  induction hdecoded with
  | nil => cases hfresh
  | cons hab _ ih =>
      rcases List.mem_cons.1 hfresh with rfl | hrest
      · exact ⟨_, List.mem_cons_self, (previousWorkerId_fromDict hab).symm⟩
      · obtain ⟨original, horiginal, hname⟩ := ih hrest
        exact ⟨original, List.mem_cons_of_mem _ horiginal, hname⟩

theorem Excluded.queued_step (h : s.Excluded c) (ha : ¬ s.Returns c a)
    (hstep : step c s a = some s') {copy : Copy} (hcopy : copy ∈ (s'.net.nodes w).queued) :
    copy.task.previousWorkerId ≠ some w := by
  rcases System.queued_step h.traced.protocol hstep w with hsame | ⟨b, hdrives, hshift⟩
  · exact h.queued w copy (hsame ▸ hcopy)
  generalize (s'.net.nodes w).queued = queued at hshift hcopy
  cases hshift with
  | kept => exact h.queued w copy hcopy
  | enqueued admitted priority haccepted =>
      rcases Multiset.mem_cons.1 hcopy with rfl | hold
      · cases hdrives with
        | receiveTask _ now message rest decoded hmail hdecoded =>
            intro hname
            have hsent := h.mail w message (hmail ▸ List.mem_cons_self)
            exact hsent (previousWorkerId_fromDict hdecoded ▸ hname)
      · exact h.queued w copy hold
  | dequeued taken _ hqueued =>
      exact h.queued w copy (hqueued ▸ Multiset.mem_cons_of_mem hcopy)
  | confirmed _ _ _ _ _ _ removed _ _ hqueued =>
      exact h.queued w copy (hqueued ▸ Multiset.mem_cons_of_mem hcopy)
  | taken requestId now request raw tasks hfind hraw htaken haccepted hchanged =>
      rcases Multiset.mem_add.1 hcopy with hnew | hold
      · cases hdrives with
        | serve =>
            intro hname
            obtain ⟨original, horiginal, hsame⟩ := exists_sent_of_takenOver htaken hnew
            apply ha
            have hhanded : s.handed c (.serve w requestId now) = some (w, raw) := by
              simp only [handed, hfind, Option.bind_some, hchanged, if_true]
              rw [P2PRequest.copies, hraw]
            exact ⟨(w, raw), hhanded, original, horiginal, hsame.trans hname⟩
      · exact h.queued w copy hold

theorem excluded_step (h : s.Excluded c) (ha : ¬ s.Returns c a)
    (hstep : step c s a = some s') : s'.Excluded c := by
  obtain ⟨_, _, heff⟩ := step_effect h.traced.governed h.traced.protocol hstep
  refine ⟨traced_step h.traced hstep, ?_, fun v copy => h.queued_step ha hstep, ?_⟩
  · intro v message hmessage
    rcases heff.toWorker hmessage with hold | ⟨assignment, k, task, rfl, hslot, htask, rfl, rfl⟩
    · exact h.mail v message hold
    · intro hname
      apply ha
      have hhanded : s.handed c .sendTask = some (assignment.worker, [⟨task, k⟩]) := by
        simp only [handed, hslot, htask, Option.bind_some, Option.map_some]
      exact ⟨_, hhanded, _, List.mem_singleton_self _, hname⟩
  · intro v copy hcopy
    rcases net_step hstep with hsame | ⟨b, _, hnet⟩
    · exact h.processed v copy (hsame ▸ hcopy)
    · rcases Net.processing_step h.traced.protocol hnet hcopy with hold | ⟨_, hqueued⟩
      · exact h.processed v copy hold
      · exact h.queued v copy hqueued

theorem excluded_start (hstart : start c count rng = .ok s) : s.Excluded c := by
  have htraced := traced_start hstart
  obtain ⟨master, _, rfl⟩ := start_eq_ok hstart
  refine ⟨htraced, ?_, ?_, ?_⟩
  · intro v message hmessage
    cases hmessage
  · intro v copy hcopy
    exact absurd hcopy (Multiset.notMem_zero copy)
  · intro v copy hcopy
    cases hcopy

/-- **Exclusion end to end.** As long as no step brings a copy to the worker that failed
its task last, no worker processes a task that it failed last. -/
theorem respected_along (hstart : start c count rng = .ok s₀)
    (hkept : Transition.Along (step c) (fun s a => ¬ s.Returns c a) s₀ acts) :
    Transition.Visits (step c) Respected s₀ acts :=
  Transition.visits_along (I := Excluded c) (fun _ h => h.processed)
    (fun _ _ _ h ha hstep => excluded_step h ha hstep) (excluded_start hstart) hkept

/-- `worker1` and `worker2` fail the task in turn, and it is sent to `worker1` again. -/
theorem respected_along_reassigned :
    ∃ s₀ s, start four 1 .first = .ok s₀ ∧
      Transition.run (step four) s₀ reassigned = some s ∧
      Transition.Visits (step four) Respected s₀ reassigned := by
  obtain ⟨s₀, s, hstart, hrun, -⟩ := exists_reached four 1 .first reassigned
    (p := fun _ => True) (by decide +kernel)
  have halong : (start four 1 .first).toOption.any (fun s₀ =>
      decide (Transition.Along (step four) (fun s a => ¬ s.Returns four a) s₀ reassigned)) =
        true := by decide +kernel
  rw [hstart] at halong
  exact ⟨s₀, s, hstart, hrun, respected_along hstart (of_decide_eq_true halong)⟩

/-- `worker1` gets the next task and fails it, and the task goes to `worker2`. -/
def failing : List Action :=
  dispatching 1 ++ receiving "worker1" 1 ++
    [.dequeue "worker1", .snapshot "worker1" .processor, .sendStatus "worker1" .processor,
      .sendResult "worker1" false, .deliver "worker1", .deliver "worker1", .deliver "worker1",
      .markDone "worker1", .snapshot "worker1" .processor, .sendStatus "worker1" .processor,
      .deliver "worker1"] ++ dispatching 1

/-- `worker3` and `worker4` are gone. `worker1` fails eight tasks, which makes `worker2`
overloaded, and `worker2` hands the last of them back to `worker1`. -/
def handedBack : List Action :=
  [.disconnect "worker3" [], .disconnect "worker4" []] ++
    (List.replicate 8 failing).flatten ++ receiving "worker2" 8 ++
    [.balance "worker2" "r0" 1] ++ asking "worker2" "worker1" "r1" ++
    [.balance "worker2" "r3" 1, .giveUp "worker2", .balance "worker2" "r4" 1, .giveUp "worker2",
      .balance "worker2" "r5" 1, .balance "worker2" "r5" 1, .balance "worker2" "r6" 1,
      .serve "worker1" "r6" 0, .dequeue "worker1"]

set_option maxRecDepth 100000 in
/-- `worker1` processes a task that it failed last. -/
theorem not_respected_handedBack :
    ∃ s₀ s copy, start four 8 .first = .ok s₀ ∧
      Transition.run (step four) s₀ handedBack = some s ∧
      (s.net.nodes "worker1").processor.copy = some copy ∧
      copy.task.previousWorkerId = some "worker1" ∧ ¬ s.Respected := by
  obtain ⟨s₀, s, hstart, hrun, hbad⟩ := exists_reached four 8 .first handedBack
    (p := fun s => (s.net.nodes "worker1").processor.copy.any
      (fun copy => copy.task.previousWorkerId = some "worker1") = true) (by decide +kernel)
  obtain ⟨copy, hcopy, hname⟩ := (Option.any_eq_true _ _).1 hbad
  have hname : copy.task.previousWorkerId = some "worker1" := of_decide_eq_true hname
  exact ⟨s₀, s, copy, hstart, hrun, hcopy, hname, fun h => h _ copy hcopy hname⟩

end

end System

end KVStore
