import KVStore.Worker.ReadyQueue

/-!
# The order of processing

A run is any sequence of calls, in any order and at any time. `accepted` and `taken` list
what the calls of a run put into a deque and what `dequeue_for_processing` took out of it,
for each of the two classes. Without `release_reservation` a deque is only appended to at
its end, popped at its head, and thinned out by reservations, so what was taken and what
still waits is a subsequence of what was accepted.
-/

namespace KVStore

namespace ReadyQueue

variable {τ : Type*} [HasTaskId τ]

def deque (priority : Bool) (q : ReadyQueue τ) : List τ :=
  if priority then q.priority else q.normal

/-- The tasks that a call adds to the class. -/
def accepted (priority : Bool) (q : ReadyQueue τ) : Call τ → List τ
  | .tryEnqueue task p =>
      if p = priority ∧ (q.tryEnqueue task p).1.accepted = true then [task] else []
  | .tryEnqueueMany tasks =>
      if priority = false ∧ (q.tryEnqueueMany tasks).1.accepted = true then tasks else []
  | _ => []

variable [DecidableEq τ]

/-- The task that a call takes from the class for processing: the one returned, if the
deque of the class is the one that changed. -/
def taken (priority : Bool) (q : ReadyQueue τ) : Call τ → List τ
  | .dequeueForProcessing =>
      if q.dequeueForProcessing.2.deque priority = q.deque priority then []
      else q.dequeueForProcessing.1.toList
  | _ => []

def performStep (q : ReadyQueue τ) (call : Call τ) : Option (ReadyQueue τ) :=
  some (q.perform call).2

section

variable {q : ReadyQueue τ} {call : Call τ}

omit [DecidableEq τ] in
theorem deque_tryEnqueue (priority p : Bool) (task : τ) :
    (q.tryEnqueue task p).2.deque priority =
      q.deque priority ++ accepted priority q (.tryEnqueue task p) := by
  unfold accepted tryEnqueue
  split_ifs <;> cases priority <;> cases p <;> simp_all [deque, resultLocked]

omit [DecidableEq τ] in
theorem deque_tryEnqueueMany (priority : Bool) (tasks : List τ) :
    (q.tryEnqueueMany tasks).2.deque priority =
      q.deque priority ++ accepted priority q (.tryEnqueueMany tasks) := by
  unfold accepted tryEnqueueMany
  dsimp only
  split_ifs <;> cases priority <;> simp_all [deque, resultLocked]

theorem deque_dequeueForProcessing (priority : Bool) :
    taken priority q .dequeueForProcessing ++ q.dequeueForProcessing.2.deque priority =
      q.deque priority := by
  unfold taken dequeueForProcessing
  cases hpriority : q.priority with
  | nil =>
      cases hnormal : q.normal with
      | nil => cases priority <;> simp [deque, hpriority, hnormal]
      | cons task rest => cases priority <;> simp [deque, hpriority, hnormal]
  | cons task rest => cases priority <;> simp [deque, hpriority]

theorem deque_reserveForTransfer (priority : Bool) (t : TaskId) :
    ((q.reserveForTransfer t).2.deque priority).Sublist (q.deque priority) := by
  unfold reserveForTransfer
  split
  · cases priority
    · exact List.erase_sublist
    · exact List.Sublist.refl _
  · split
    · cases priority
      · exact List.Sublist.refl _
      · exact List.erase_sublist
    · exact List.Sublist.refl _

omit [HasTaskId τ] [DecidableEq τ] in
theorem deque_confirmRemoved (priority : Bool) (t : TaskId) :
    (q.confirmRemoved t).2.deque priority = q.deque priority := by
  unfold confirmRemoved
  split <;> rfl

/-- One call: what it takes and what it leaves come, in order, from what was there and
what it adds. -/
theorem deque_perform (priority : Bool) (hcall : ∀ t, call ≠ .releaseReservation t) :
    (taken priority q call ++ (q.perform call).2.deque priority).Sublist
      (q.deque priority ++ accepted priority q call) := by
  cases call with
  | tryEnqueue task p =>
      have h := deque_tryEnqueue (q := q) priority p task
      exact h ▸ List.Sublist.refl _
  | tryEnqueueMany tasks =>
      have h := deque_tryEnqueueMany (q := q) priority tasks
      exact h ▸ List.Sublist.refl _
  | dequeueForProcessing =>
      have h := deque_dequeueForProcessing (q := q) priority
      exact h.symm ▸ List.sublist_append_left _ _
  | markProcessingDone => exact List.sublist_append_left _ _
  | peekTransferCandidates count => exact List.sublist_append_left _ _
  | reserveForTransfer t =>
      exact (deque_reserveForTransfer priority t).trans (List.sublist_append_left _ _)
  | confirmRemoved t =>
      have h := deque_confirmRemoved (q := q) priority t
      exact h ▸ List.sublist_append_left _ _
  | releaseReservation t => exact absurd rfl (hcall t)

theorem taken_sublist (priority : Bool) {calls : List (Call τ)}
    (hcalls : ∀ t, .releaseReservation t ∉ calls) :
    (Transition.outputs performStep (taken priority) q calls).Sublist
      (q.deque priority ++ Transition.outputs performStep (accepted priority) q calls) := by
  induction calls generalizing q with
  | nil => exact List.nil_sublist _
  | cons call calls ih =>
      have hcall : ∀ t, call ≠ .releaseReservation t := by
        rintro t rfl
        exact hcalls t List.mem_cons_self
      have hstep := deque_perform (q := q) priority hcall
      have hrest := ih (q := (q.perform call).2)
        fun t ht => hcalls t (List.mem_cons_of_mem call ht)
      have hall := (hrest.append_left (taken priority q call)).trans
        (List.append_assoc _ _ _ ▸ hstep.append_right _)
      rw [List.append_assoc] at hall
      exact hall

/-- A normal task is only taken when no priority task waits. -/
theorem priority_eq_nil_of_taken (h : taken false q call ≠ []) : q.priority = [] := by
  cases call with
  | dequeueForProcessing =>
      cases hpriority : q.priority with
      | nil => rfl
      | cons task rest =>
          refine absurd ?_ h
          unfold taken dequeueForProcessing
          rw [hpriority]
          exact if_pos rfl
  | _ => exact absurd rfl h

end

/-- **Processing order.** In any run of calls without `release_reservation`, the tasks
dequeued from a class are a subsequence of the ones it accepted, in the order of their
acceptance, and a normal task is dequeued only while the priority deque is empty. -/
theorem processing_order {capacity : ℤ} {q₀ : ReadyQueue τ} {calls : List (Call τ)}
    (hinit : init capacity = .ok q₀) (hcalls : ∀ t, .releaseReservation t ∉ calls) :
    (∀ priority, (Transition.outputs performStep (taken priority) q₀ calls).Sublist
      (Transition.outputs performStep (accepted priority) q₀ calls)) ∧
    Transition.Along performStep (fun q call => taken false q call ≠ [] → q.priority = [])
      q₀ calls := by
  constructor
  · intro priority
    have hempty : q₀.deque priority = [] := by
      unfold init at hinit
      split_ifs at hinit
      cases hinit
      cases priority <;> rfl
    have h := taken_sublist (q := q₀) priority hcalls
    rwa [hempty, List.nil_append] at h
  · exact Transition.along_of_forall q₀ calls fun _ _ _ h => priority_eq_nil_of_taken h

/-- A reservation takes a task out of the middle, and a priority task comes first. -/
theorem processing_order_three :
    ∃ q₀ : ReadyQueue Task, init 10 = .ok q₀ ∧
      (Transition.outputs performStep (taken false) q₀
        [.tryEnqueueMany
          [{ taskId := "a", key := "0000", value := 1 },
            { taskId := "b", key := "0001", value := 1 },
            { taskId := "c", key := "0002", value := 1 }],
          .reserveForTransfer "b",
          .tryEnqueue { taskId := "d", key := "0003", value := 1 } true,
          .dequeueForProcessing, .dequeueForProcessing, .dequeueForProcessing]).Sublist
      (Transition.outputs performStep (accepted false) q₀
        [.tryEnqueueMany
          [{ taskId := "a", key := "0000", value := 1 },
            { taskId := "b", key := "0001", value := 1 },
            { taskId := "c", key := "0002", value := 1 }],
          .reserveForTransfer "b",
          .tryEnqueue { taskId := "d", key := "0003", value := 1 } true,
          .dequeueForProcessing, .dequeueForProcessing, .dequeueForProcessing]) :=
  have hinit : init 10 = .ok ({ capacity := 10 } : ReadyQueue Task) := rfl
  ⟨_, hinit, (processing_order hinit (by simp)).1 false⟩

end ReadyQueue

end KVStore
