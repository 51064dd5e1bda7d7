import KVStore.Cluster.FaultFree

/-!
# Which copy a result is of

The Master compares the task and the worker of a result with its current assignment,
and not the assignment itself. So it takes the result of an earlier copy for that of the
current one when the task has been sent to the same worker twice. While no worker is
sent a task again of which an earlier copy that names it is still somewhere, every
result that is acted upon is of the latest dispatch.
-/

namespace KVStore

open HasTaskId

namespace System

/-- The assignment that the step makes. -/
def chosen (s : System) : Action → Option Master.Assignment
  | .nextAssignment now => (s.master.nextAssignmentLocked now).bind Prod.fst
  | _ => none

/-- The step assigns a task again to a worker that a copy which is still somewhere
names. -/
def Repeats (c : Config) (s : System) (a : Action) : Prop :=
  ∃ assignment ∈ s.chosen a, ∃ x ∈ s.circulating c,
    x.item = assignment.task.taskId ∧ x.holder = some assignment.worker

instance (c : Config) (s : System) (a : Action) : Decidable (s.Repeats c a) :=
  have (assignment : Master.Assignment) : Decidable (∃ x ∈ s.circulating c,
      x.item = assignment.task.taskId ∧ x.holder = some assignment.worker) :=
    Multiset.decidableExistsMultiset
  inferInstanceAs (Decidable (∃ assignment ∈ s.chosen a, _))

/-- No task was dispatched again to the worker that a copy of it names. -/
structure Unrepeated (c : Config) (s : System) : Prop where
  traced : s.Traced c
  last : ∀ x ∈ s.circulating c, ∀ w k, x.holder = some w → x.number < k →
    s.dispatches[k]? ≠ some (x.item, w)

section

variable {c : Config} {s s' s₀ : System} {a : Action} {acts : List Action} {count : ℕ}
  {rng : RandomSource} {w : WorkerId} {copy : Copy}

theorem dispatches_step (hstep : step c s a = some s') :
    s'.dispatches = s.dispatches ∨
      ∃ assignment ∈ s.chosen a,
        s'.dispatches = s.dispatches ++ [(assignment.task.taskId, assignment.worker)] := by
  cases stepped_of_step hstep with
  | nextAssignment now next _ _ hnext =>
      obtain ⟨x, master⟩ := next
      cases x with
      | none => exact .inl rfl
      | some assignment =>
          refine .inr ⟨assignment, ?_, rfl⟩
          rw [chosen, hnext]
          rfl
  | moved _ b net _ _ =>
      rw [dispatches_withDue]
      exact .inl rfl
  | _ => exact .inl rfl

theorem unrepeated_step (h : s.Unrepeated c) (ha : ¬ s.Repeats c a)
    (hstep : step c s a = some s') : s'.Unrepeated c := by
  obtain ⟨_, _, heff⟩ := step_effect h.traced.governed h.traced.protocol hstep
  refine ⟨traced_step h.traced hstep, fun x hx w k hholder hk hget => ?_⟩
  rcases circulating_effect h.traced heff hx with hold | ⟨t, v, _, hdispatches, rfl⟩
  · rcases dispatches_step hstep with hsame | ⟨assignment, hchosen, hmore⟩
    · rw [hsame] at hget
      exact h.last x hold w k hholder hk hget
    · rw [hmore, List.getElem?_append] at hget
      split_ifs at hget
      · exact h.last x hold w k hholder hk hget
      · -- the new dispatch is of this task, to the worker that the copy names
        obtain ⟨_, hnew⟩ := List.getElem?_eq_some_iff.1 hget
        rw [List.getElem_singleton] at hnew
        obtain ⟨hitem, hworker⟩ := Prod.mk.inj hnew
        exact ha ⟨assignment, hchosen, x, hold, hitem.symm, hholder.trans (hworker ▸ rfl)⟩
  · obtain ⟨hlt, _⟩ := List.getElem?_eq_some_iff.1 hget
    rw [hdispatches, List.length_append, List.length_singleton] at hlt
    exact absurd hk (Nat.not_lt.2 (Nat.le_of_lt_succ hlt))

theorem unrepeated_start (hstart : start c count rng = .ok s) : s.Unrepeated c := by
  refine ⟨traced_start hstart, fun x _ w k _ _ hget => ?_⟩
  obtain ⟨master, _, rfl⟩ := start_eq_ok hstart
  cases hget

/-- The dispatch of a copy is the latest one to the worker that it names; and when the
Master has the task with that worker, it is the latest of all. -/
theorem Unrepeated.isLatest (h : s.Unrepeated c) {x : Token} (hx : x ∈ s.circulating c)
    (hholder : x.holder = some w) (hplace : s.master.place x.item = some (.assigned w)) :
    s.IsLatest x.item w x.number := by
  obtain ⟨v, hv, _, hissued⟩ := h.traced.issued x hx
  rw [hholder] at hv
  cases hv
  obtain ⟨k, hk⟩ := h.traced.assigned x.item w hplace
  rcases Nat.lt_trichotomy x.number k with hlt | rfl | hgt
  · exact absurd hk.1 (h.last x hx w k hholder hlt)
  · exact hk
  · exact absurd hissued (hk.2 x.number w hgt)

/-- **Current results.** In a run that never sends a task again to a worker that a copy
of it names, every result that the Master acts upon is of the latest dispatch. -/
theorem accepts_latest (hstart : start c count rng = .ok s₀)
    (hrun : Transition.run (step c) s₀ acts = some s)
    (halong : Transition.Along (step c) (fun s a => ¬ s.Repeats c a) s₀ acts)
    (hnext : s.nextResult w = some copy) (haccepts : s.Accepts w copy) :
    s.IsLatest (taskId copy) (assignmentOrSelf w copy) copy.dispatch := by
  have h : s.Unrepeated c := Transition.invariant_along
    (fun _ _ _ h ha hstep => unrepeated_step h ha hstep) (unrepeated_start hstart) halong hrun
  have hmail : copy ∈ (s.links w).outbox + (s.links w).inbox :=
    Multiset.mem_add.2 (.inr (mem_inbox_of_nextResult hnext))
  have hplace := (Master.acceptedTask_isSome_iff h.traced.governed.consistent).1 haccepts
  have hx : copy.token ∈ s.circulating c := mem_circulating.2 (.inr (.inl
    ⟨w, h.traced.mem_workers copy hmail, Multiset.mem_map_of_mem _ hmail⟩))
  exact h.isLatest hx ((h.traced.issued_of_mail hmail).holder w) hplace

end

instance (s : System) (w : WorkerId) (copy : Copy) : Decidable (s.Accepts w copy) :=
  inferInstanceAs (Decidable (_ = true))

/-- `worker1` processes the task that it is sent. -/
def processed : List Action :=
  [.nextAssignment 0, .sendTask, .receiveTask "worker1" 0, .dequeue "worker1",
    .snapshot "worker1" .processor, .sendStatus "worker1" .processor,
    .sendResult "worker1" true, .deliver "worker1"]

/-- The result of the task that `worker1` was sent is acted upon. -/
theorem accepts_latest_processed :
    ∃ s₀ s copy, start four 1 .first = .ok s₀ ∧
      Transition.run (step four) s₀ processed = some s ∧
      s.nextResult "worker1" = some copy ∧ s.Accepts "worker1" copy ∧
      s.IsLatest (taskId copy) (assignmentOrSelf "worker1" copy) copy.dispatch := by
  obtain ⟨s₀, s, hstart, hrun, hnext⟩ := exists_reached four 1 .first processed
    (p := fun s => (s.nextResult "worker1").any
      (fun copy => decide (s.Accepts "worker1" copy)) = true) (by decide +kernel)
  obtain ⟨copy, hcopy, haccepts⟩ := (Option.any_eq_true _ _).1 hnext
  have halong : (start four 1 .first).toOption.all (fun s₀ =>
      decide (Transition.Along (step four) (fun s a => ¬ s.Repeats four a) s₀ processed)) =
        true := by decide +kernel
  rw [hstart] at halong
  exact ⟨s₀, s, copy, hstart, hrun, hcopy, of_decide_eq_true haccepts,
    accepts_latest hstart hrun (of_decide_eq_true halong) hcopy (of_decide_eq_true haccepts)⟩

/-- `worker1` gives up on the handover and keeps the task, `worker2` fails it, and the Master
sends it to `worker1` again, which ignores it and reports the result of the first copy. -/
def returned : List Action :=
  handover ++ [.giveUp "worker1", .balance "worker1" "r7" 1, .balance "worker1" "r7" 1,
    .respond "worker2", .dequeue "worker2", .snapshot "worker2" .processor,
    .sendStatus "worker2" .processor, .sendResult "worker2" false, .deliver "worker2",
    .deliver "worker2", .deliver "worker1", .nextAssignment 1, .sendTask] ++
    receiving "worker1" 1 ++ [.dequeue "worker1", .snapshot "worker1" .processor,
    .sendStatus "worker1" .processor, .sendResult "worker1" true] ++
    List.replicate 9 (.deliver "worker1")

set_option maxRecDepth 100000 in
/-- The Master acts upon the result of the 29th dispatch after the task was dispatched
once more. -/
theorem not_latest_returned :
    ∃ s₀ s copy, start four 29 .first = .ok s₀ ∧
      Transition.run (step four) s₀ returned = some s ∧
      s.nextResult "worker1" = some copy ∧ s.Accepts "worker1" copy ∧
      ¬ s.IsLatest (taskId copy) (assignmentOrSelf "worker1" copy) copy.dispatch := by
  obtain ⟨s₀, s, hstart, hrun, hlater, hnext⟩ := exists_reached four 29 .first returned
    (p := fun s => s.dispatches[29]? = some ("task-0029", "worker1") ∧
      (s.nextResult "worker1").any (fun copy => decide (s.Accepts "worker1" copy ∧
        copy.dispatch = 28 ∧ taskId copy = "task-0029")) = true) (by decide +kernel)
  obtain ⟨copy, hcopy, hp⟩ := (Option.any_eq_true _ _).1 hnext
  obtain ⟨haccepts, hdispatch, hid⟩ := of_decide_eq_true hp
  refine ⟨s₀, s, copy, hstart, hrun, hcopy, haccepts, fun hlatest => ?_⟩
  rw [hdispatch, hid] at hlatest
  exact hlatest.2 29 "worker1" (by decide) hlater

end System

end KVStore
