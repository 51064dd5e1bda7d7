import KVStore.Master.Partition

/-!
# The discipline of the distributor

`events` lists what a locked section means for the dispatches: a task is dispatched,
or comes back because its worker failed it or was disconnected. Over a whole run, the
dispatches without priority follow the deque, and a task is dispatched with priority
only when its last dispatch came back.
-/

namespace KVStore

namespace Master

/-- A dispatch, or the return of a task from the worker it was assigned to. -/
inductive Event
  | dispatched (assignment : Assignment)
  | returned (t : TaskId) (w : WorkerId)
deriving DecidableEq

/-- The assignment that the section makes. -/
def dispatchOf (m : Master) : Action → Option Assignment
  | .nextAssignment now => (m.nextAssignmentLocked now).bind Prod.fst
  | _ => none

/-- The returns that the section makes: the task of a failure that is acted upon, or
the tasks of a worker that is disconnected. -/
def returnsOf (m : Master) : Action → List (TaskId × WorkerId)
  | .handleFailure w payload =>
      let assignment := payload.assignmentWorkerId.getD w
      (m.acceptedTask payload.taskId assignment).toList.map fun _ =>
        (payload.taskId, assignment)
  | .disconnectWorker w order =>
      if m.connection w = some true then order.map fun t => (t, w) else []
  | _ => []

def events (m : Master) (a : Action) : List Event :=
  (m.dispatchOf a).toList.map .dispatched ++
    (m.returnsOf a).map fun back => .returned back.1 back.2

def trace (m : Master) (acts : List Action) : List Event :=
  Transition.outputs step events m acts

/-- The dispatch of a task that was not failed before. -/
def Event.fresh : Event → Option TaskId
  | .dispatched assignment =>
      if assignment.priority = true then none else some assignment.task.taskId
  | .returned _ _ => none

/-- The last dispatch of the task went to this worker, and `after` is what followed. -/
def LastSent (tr : List Event) (t : TaskId) (w : WorkerId) (after : List Event) : Prop :=
  ∃ before assignment, tr = before ++ .dispatched assignment :: after ∧
    assignment.task.taskId = t ∧ assignment.worker = w ∧
    ∀ other, .dispatched other ∈ after → other.task.taskId ≠ t

def CameBack (tr : List Event) (t : TaskId) : Prop :=
  ∃ w after, LastSent tr t w after ∧ .returned t w ∈ after

/-- Every dispatch with priority is of a task that came back from the dispatch before. -/
def RetriesReturned (tr : List Event) : Prop :=
  ∀ i assignment, tr[i]? = some (.dispatched assignment) → assignment.priority = true →
    CameBack (tr.take i) assignment.task.taskId

/-- A worker that `_choose_worker_locked` may choose for the task. -/
structure MayTake (m : Master) (task : Task) (c : WorkerConnection) : Prop where
  registered : m.workers.lookup c.workerId = some c
  connected : c.connected = true
  room : c.status.queueSize < c.status.queueCapacity
  notPrevious : task.previousWorkerId ≠ some c.workerId

/-- A dispatch as the locked section may make it. -/
structure WellChosen (m : Master) (assignment : Assignment) : Prop where
  waiting : m.taskState.lookup assignment.task.taskId =
    some (if assignment.priority = true then .retry else .pending)
  retryFirst : m.taskState.lookup assignment.task.taskId = some .pending →
    ∀ t, m.taskState.lookup t ≠ some .retry
  worker : ∃ c, MayTake m assignment.task c ∧ c.workerId = assignment.worker ∧
    ∀ other, MayTake m assignment.task other →
      other.status.availableCapacity < c.status.availableCapacity ∨
        (other.status.availableCapacity = c.status.availableCapacity ∧
          c.workerId ≤ other.workerId)

/-- The recorded size of every queue is one that a queue can have. -/
def SizesFit (m : Master) : Prop :=
  ∀ w c, m.workers.lookup w = some c →
    0 ≤ c.status.queueSize ∧ c.status.queueSize ≤ c.status.queueCapacity

section Trace

variable {tr more : List Event} {t : TaskId} {w : WorkerId} {assignment : Assignment}

theorem LastSent.append {after : List Event} (h : LastSent tr t w after)
    (hmore : ∀ other, .dispatched other ∈ more → other.task.taskId ≠ t) :
    LastSent (tr ++ more) t w (after ++ more) := by
  obtain ⟨before, assignment, rfl, hid, hworker, hafter⟩ := h
  refine ⟨before, assignment, by simp, hid, hworker, ?_⟩
  intro other hother
  rcases List.mem_append.1 hother with hother | hother
  · exact hafter other hother
  · exact hmore other hother

theorem lastSent_dispatched (tr : List Event) (assignment : Assignment) :
    LastSent (tr ++ [.dispatched assignment]) assignment.task.taskId assignment.worker [] :=
  ⟨tr, assignment, rfl, rfl, rfl, by simp⟩

theorem CameBack.append (h : CameBack tr t)
    (hmore : ∀ other, .dispatched other ∈ more → other.task.taskId ≠ t) :
    CameBack (tr ++ more) t := by
  obtain ⟨w, after, hlast, hback⟩ := h
  exact ⟨w, after ++ more, hlast.append hmore, List.mem_append_left more hback⟩

theorem cameBack_returned {after : List Event} (h : LastSent tr t w after)
    (hmore : ∀ other, .dispatched other ∉ more) (hback : .returned t w ∈ more) :
    CameBack (tr ++ more) t :=
  ⟨w, after ++ more, h.append fun other hother => absurd hother (hmore other),
    List.mem_append_right after hback⟩

theorem RetriesReturned.append (h : RetriesReturned tr)
    (hmore : ∀ i assignment, more[i]? = some (.dispatched assignment) →
      assignment.priority = true → i = 0 ∧ CameBack tr assignment.task.taskId) :
    RetriesReturned (tr ++ more) := by
  intro i assignment hi hpriority
  rw [List.getElem?_append] at hi
  split_ifs at hi with hlt
  · rw [List.take_append_of_le_length hlt.le]
    exact h i assignment hi hpriority
  · obtain ⟨hzero, hback⟩ := hmore _ assignment hi hpriority
    have hlength : i = tr.length := by omega
    rw [hlength, List.take_left]
    exact hback

end Trace

section Step

variable {m m' : Master} {a : Action} {t : TaskId} {w : WorkerId} {tr : List Event}

instance : Std.Total chooseLe where
  total a b := by
    unfold chooseLe
    rcases lt_trichotomy a.status.availableCapacity b.status.availableCapacity with h | h | h
    · exact .inr (.inl h)
    · rcases String.le_total a.workerId b.workerId with hid | hid
      · exact .inl (.inr ⟨h, hid⟩)
      · exact .inr (.inr ⟨h.symm, hid⟩)
    · exact .inl (.inl h)

instance : IsTrans WorkerConnection chooseLe where
  trans a b c hab hbc := by
    unfold chooseLe at *
    rcases hab with hab | ⟨hab, hid⟩ <;> rcases hbc with hbc | ⟨hbc, hid'⟩
    · exact .inl (hbc.trans hab)
    · exact .inl (hbc ▸ hab)
    · exact .inl (hab ▸ hbc)
    · exact .inr ⟨hab.trans hbc, String.le_trans hid hid'⟩

theorem eligible_iff {task : Task} {c : WorkerConnection} :
    eligible task c = true ↔ c.connected = true ∧
      c.status.queueSize < c.status.queueCapacity ∧ task.previousWorkerId ≠ some c.workerId := by
  simp only [eligible, Bool.and_eq_true, decide_eq_true_eq, and_assoc, ne_eq]
  refine and_congr_right fun _ => and_congr_right fun _ => not_congr eq_comm

theorem MayTake.mem_eligible {task : Task} {c : WorkerConnection} (h : MayTake m task c) :
    c ∈ m.workers.values.filter (eligible task) :=
  List.mem_filter.2 ⟨Dict.mem_values_iff.2 ⟨_, h.registered⟩,
    eligible_iff.2 ⟨h.connected, h.room, h.notPrevious⟩⟩

theorem not_retry_of_head (h : Consistent m) (hhead : m.head = some (t, false)) (u : TaskId) :
    m.taskState.lookup u ≠ some .retry := by
  intro hu
  have hmem := (h.queues.mem_retry u).2 (h.state_retry_iff.1 hu)
  unfold head at hhead
  split at hhead
  · cases hhead
  · next hretry _ =>
      rw [hretry] at hmem
      cases hmem
  · cases hhead

theorem wellChosen (h : Consistent m) {now : ℚ} {assignment : Assignment}
    (hres : m.nextAssignmentLocked now = some (some assignment, m')) :
    WellChosen m assignment := by
  obtain ⟨_, hnone⟩ | ⟨_, _, _, _, _, _, _, hnone, _⟩ |
    ⟨t, p, task, c, hhead, htask, hchoose, m₁, hsome, _⟩ := nextAssignmentLocked_cases h now
  · rw [hres] at hnone
    cases hnone
  · rw [hres] at hnone
    cases hnone
  · rw [hres] at hsome
    cases hsome
    have hid : task.taskId = t := h.task_id t task htask
    have hstate : m.taskState.lookup t = some (if p = true then .retry else .pending) := by
      rw [(state_of_place (place_head h hhead)).1]
      cases p <;> rfl
    refine ⟨?_, ?_, c, ?_, rfl, ?_⟩
    · change m.taskState.lookup task.taskId = _
      rw [hid, hstate]
    · change m.taskState.lookup task.taskId = _ → _
      rw [hid, hstate]
      cases p with
      | true => intro hpending; cases hpending
      | false => exact fun _ => not_retry_of_head h hhead
    · obtain ⟨hc, helig⟩ := chooseWorkerLocked_eq_some h hchoose
      obtain ⟨hconnected, hroom, hprevious⟩ := eligible_iff.1 helig
      exact ⟨hc, hconnected, hroom, hprevious⟩
    · intro other hother
      have hmem : MayTake m task other :=
        ⟨hother.registered, hother.connected, hother.room, hother.notPrevious⟩
      obtain hlt | ⟨heq, hle⟩ := Heap.rel_of_least_eq_some chooseLe hchoose hmem.mem_eligible
      · exact .inl hlt
      · exact .inr ⟨heq.symm, hle⟩

theorem normalTasks_queueRetryLocked (m : Master) (t : TaskId) :
    (m.queueRetryLocked t).normalTasks = m.normalTasks := by
  unfold queueRetryLocked
  split_ifs <;> rfl

theorem normalTasks_requeueLocked (h : requeueLocked w m t = some m') :
    m'.normalTasks = m.normalTasks := by
  unfold requeueLocked at h
  split_ifs at h
  · obtain ⟨task, _, rfl⟩ := Option.map_eq_some_iff.1 h
    exact normalTasks_queueRetryLocked _ _
  · cases h
    rfl

theorem normalTasks_foldlM_requeueLocked {order : List TaskId}
    (h : order.foldlM (requeueLocked w) m = some m') : m'.normalTasks = m.normalTasks := by
  induction order generalizing m with
  | nil =>
      cases h
      rfl
  | cons t order ih =>
      rw [List.foldlM_cons] at h
      obtain ⟨m₁, hm₁, hrest⟩ := Option.bind_eq_some_iff.1 h
      rw [ih hrest, normalTasks_requeueLocked hm₁]

theorem normalTasks_disconnectWorker {c : WorkerConnection} {order : List TaskId}
    (h : m.disconnectWorker c order = some m') : m'.normalTasks = m.normalTasks := by
  unfold disconnectWorker at h
  split_ifs at h
  · cases h
    rfl
  · obtain ⟨m₁, hm₁, rfl⟩ := Option.map_eq_some_iff.1 h
    have hfold : m₁.normalTasks = _ := normalTasks_foldlM_requeueLocked hm₁
    exact hfold

theorem normalTasks_handleFailure (m : Master) (w : WorkerId) (payload : ResultPayload) :
    (m.handleFailure w payload).normalTasks = m.normalTasks := by
  unfold handleFailure
  split
  · rfl
  · exact normalTasks_queueRetryLocked _ _

theorem normalTasks_handleSuccess (m : Master) (w : WorkerId) (payload : ResultPayload) :
    (m.handleSuccess w payload).normalTasks = m.normalTasks := by
  unfold handleSuccess
  split <;> rfl

/-- The events so far and the state agree: the deque holds what was not dispatched yet,
and the last dispatch of a task says where it is. -/
structure History (ids : List TaskId) (tr : List Event) (m : Master) : Prop where
  consistent : Consistent m
  normal : tr.filterMap Event.fresh ++ m.normalTasks = ids
  assigned : ∀ t w, m.place t = some (.assigned w) → ∃ after, LastSent tr t w after
  retry : ∀ t, m.place t = some .retry → CameBack tr t
  retries : RetriesReturned tr

variable {ids : List TaskId}

/-- A step without a dispatch, in which the tasks that became retries came back. -/
theorem History.append_returned (h : History ids tr m) (hcons : Consistent m')
    (hdispatch : m.dispatchOf a = none) (hnormal : m'.normalTasks = m.normalTasks)
    (hassigned : ∀ t w, m'.place t = some (.assigned w) → m.place t = some (.assigned w))
    (hretry : ∀ t, m'.place t = some .retry → m.place t = some .retry ∨
      ∃ w, m.place t = some (.assigned w) ∧ (t, w) ∈ m.returnsOf a) :
    History ids (tr ++ m.events a) m' := by
  have hevents : m.events a = (m.returnsOf a).map fun back => .returned back.1 back.2 := by
    rw [events, hdispatch]
    rfl
  have hnone : ∀ other, .dispatched other ∉ m.events a := by
    intro other hother
    rw [hevents] at hother
    obtain ⟨back, _, heq⟩ := List.mem_map.1 hother
    cases heq
  have hkept : ∀ t, ∀ other, .dispatched other ∈ m.events a → other.task.taskId ≠ t :=
    fun t other hother => absurd hother (hnone other)
  refine ⟨hcons, ?_, ?_, ?_, ?_⟩
  · have hfresh : (m.events a).filterMap Event.fresh = [] := by
      rw [hevents, List.filterMap_map]
      exact List.filterMap_eq_nil_iff.2 fun _ _ => rfl
    rw [List.filterMap_append, hfresh, List.append_nil, hnormal, h.normal]
  · intro t w ht
    obtain ⟨after, hlast⟩ := h.assigned t w (hassigned t w ht)
    exact ⟨_, hlast.append (hkept t)⟩
  · intro t ht
    rcases hretry t ht with hold | ⟨w, hplace, hback⟩
    · exact (h.retry t hold).append (hkept t)
    · obtain ⟨after, hlast⟩ := h.assigned t w hplace
      refine cameBack_returned hlast hnone ?_
      rw [hevents]
      exact List.mem_map.2 ⟨(t, w), hback, rfl⟩
  · apply h.retries.append
    intro i assignment hi _
    exact absurd (List.mem_of_getElem? hi) (hnone assignment)

theorem History.append_quiet (h : History ids tr m) (hcons : Consistent m')
    (hdispatch : m.dispatchOf a = none) (hnormal : m'.normalTasks = m.normalTasks)
    (hplace : m'.place = m.place) : History ids (tr ++ m.events a) m' := by
  refine h.append_returned hcons hdispatch hnormal ?_ ?_
  · intro t w ht
    rwa [hplace] at ht
  · intro t ht
    exact .inl (hplace ▸ ht)

theorem History.append_dispatched (h : History ids tr m) {now : ℚ} {p : Bool} {task : Task}
    {c : WorkerConnection} (hhead : m.head = some (t, p))
    (htask : m.tasks.lookup t = some task)
    (hres : m.nextAssignmentLocked now =
      some (some ⟨sentTo c.workerId now task, c.workerId, p⟩, m'))
    (hcons : Consistent m') (hassigned : Assigned m (sentTo c.workerId now task) c.workerId m')
    (hnormal : m'.normalTasks = if p then m.normalTasks else m.normalTasks.tail) :
    History ids (tr ++ m.events (.nextAssignment now)) m' := by
  have hid : (sentTo c.workerId now task).taskId = t := h.consistent.task_id t task htask
  have hplace := hassigned.place
  rw [hid] at hplace
  let assignment : Assignment := ⟨sentTo c.workerId now task, c.workerId, p⟩
  have hevents : m.events (.nextAssignment now) = [.dispatched assignment] := by
    rw [events, dispatchOf, hres]
    rfl
  have hkept : ∀ u, u ≠ t → ∀ other, .dispatched other ∈ m.events (.nextAssignment now) →
      other.task.taskId ≠ u := by
    intro u hu other hother
    rw [hevents] at hother
    cases List.mem_singleton.1 hother
    exact fun heq => hu (heq.symm.trans hid)
  refine ⟨hcons, ?_, ?_, ?_, ?_⟩
  · rw [← h.normal, List.filterMap_append, hevents, hnormal]
    cases p with
    | true => simp [Event.fresh, assignment]
    | false =>
        have hlist : m.normalTasks = t :: m.normalTasks.tail := by
          unfold head at hhead
          split at hhead
          · cases hhead
          · next u rest _ hlist =>
              cases hhead
              rw [hlist]
              rfl
          · cases hhead
        have hfresh : [Event.dispatched assignment].filterMap Event.fresh = [t] := by
          rw [← hid]
          rfl
        rw [hfresh, if_neg Bool.false_ne_true, List.append_assoc, List.singleton_append, ← hlist]
  · intro u w hu
    by_cases hut : u = t
    · subst hut
      rw [hplace, Function.update_self] at hu
      cases hu
      have hlast := lastSent_dispatched tr assignment
      rw [← hevents, hid] at hlast
      exact ⟨_, hlast⟩
    · rw [hplace, Function.update_of_ne hut] at hu
      obtain ⟨after, hlast⟩ := h.assigned u w hu
      exact ⟨_, hlast.append (hkept u hut)⟩
  · intro u hu
    have hut : u ≠ t := by
      rintro rfl
      rw [hplace, Function.update_self] at hu
      cases hu
    rw [hplace, Function.update_of_ne hut] at hu
    exact (h.retry u hu).append (hkept u hut)
  · apply h.retries.append
    intro i other hi hpriority
    rw [hevents] at hi
    obtain ⟨hlt, heq⟩ := List.getElem?_eq_some_iff.1 hi
    have hzero : i = 0 := by simpa using hlt
    subst hzero
    cases heq
    have hp : p = true := hpriority
    subst hp
    refine ⟨rfl, ?_⟩
    change CameBack tr (sentTo c.workerId now task).taskId
    rw [hid]
    exact h.retry t (place_head h.consistent hhead)

theorem history_step (h : History ids tr m) (hstep : step m a = some m') :
    History ids (tr ++ m.events a) m' := by
  cases a with
  | nextAssignment now =>
      obtain ⟨_, hres⟩ | ⟨t, p, task, _, _, _, m₁, hres, hcons, hback, _, hnormal⟩ |
        ⟨t, p, task, c, hhead, htask, _, m₁, hres, hcons, hassigned, _, hnormal⟩ :=
        nextAssignmentLocked_cases h.consistent now
      all_goals
        rw [step, hres] at hstep
        cases hstep
      · exact h.append_quiet h.consistent (by rw [dispatchOf, hres]; rfl) rfl rfl
      · exact h.append_quiet hcons (by rw [dispatchOf, hres]; rfl) hnormal hback.place
      · exact h.append_dispatched hhead htask hres hcons hassigned hnormal
  | disconnectWorker w order =>
      obtain ⟨c, hc, hstep⟩ := Option.bind_eq_some_iff.1 hstep
      split_ifs at hstep with horder
      have hnormal := normalTasks_disconnectWorker hstep
      obtain ⟨_, hres⟩ | ⟨hcon, m₁, hres, hcons, hdisc⟩ :=
        disconnectWorker_cases h.consistent hc horder.1 horder.2
      all_goals
        rw [hres] at hstep
        cases hstep
      · exact h.append_quiet h.consistent rfl rfl rfl
      · refine h.append_returned hcons rfl hnormal ?_ ?_
        · intro t v ht
          rw [hdisc.place, Ledger.release] at ht
          split_ifs at ht
          · cases ht
          · exact ht
        · intro t ht
          rw [hdisc.place, Ledger.release] at ht
          split_ifs at ht with hplace
          · refine .inr ⟨w, hplace, ?_⟩
            have hconnection : m.connection w = some true := by
              rw [connection, hc, Option.map_some, hcon]
            rw [returnsOf, if_pos hconnection]
            refine List.mem_map.2 ⟨t, ?_, rfl⟩
            rw [← List.mem_toFinset, horder.2]
            exact (h.consistent.holders.mem_assigned w c hc t).2 hplace
          · exact .inl ht
  | handleSuccess w payload =>
      obtain ⟨c, _, rfl⟩ := Option.map_eq_some_iff.1 hstep
      have hnormal := normalTasks_handleSuccess m w payload
      obtain ⟨_, hres⟩ | ⟨task, _, _, hcons, hfin⟩ :=
        handleSuccess_cases h.consistent w payload
      · rw [hres]
        exact h.append_quiet h.consistent rfl rfl rfl
      · refine h.append_returned hcons rfl hnormal ?_ ?_
        all_goals
          intro t
          rw [hfin.place]
          by_cases ht : t = payload.taskId
        · subst ht
          intro v hv
          rw [Function.update_self] at hv
          cases hv
        · intro v hv
          rwa [Function.update_of_ne ht] at hv
        · subst ht
          rw [Function.update_self]
          intro hv
          cases hv
        · rw [Function.update_of_ne ht]
          exact .inl
  | handleFailure w payload =>
      obtain ⟨c, _, rfl⟩ := Option.map_eq_some_iff.1 hstep
      have hnormal := normalTasks_handleFailure m w payload
      obtain ⟨_, hres⟩ | ⟨task, hplace, _, hcons, hreq, _⟩ :=
        handleFailure_cases h.consistent w payload
      · rw [hres]
        exact h.append_quiet h.consistent rfl rfl rfl
      · refine h.append_returned hcons rfl hnormal ?_ ?_
        all_goals
          intro t
          rw [hreq.place]
          by_cases ht : t = payload.taskId
        · subst ht
          intro v hv
          rw [Function.update_self] at hv
          cases hv
        · intro v hv
          rwa [Function.update_of_ne ht] at hv
        · subst ht
          intro _
          refine .inr ⟨_, hplace, ?_⟩
          obtain ⟨accepted, haccepted⟩ := Option.isSome_iff_exists.1
            ((acceptedTask_isSome_iff h.consistent).2 hplace)
          simp only [returnsOf, haccepted, Option.toList_some, List.map_cons, List.map_nil]
          exact List.mem_singleton_self _
        · rw [Function.update_of_ne ht]
          exact .inl
  | queueStatus w payload =>
      obtain ⟨c, _, rfl⟩ := Option.map_eq_some_iff.1 hstep
      obtain ⟨e, hres⟩ | ⟨hres, _⟩ := handleQueueStatus_cases m w payload
      · rw [hres]
        exact h.append_quiet h.consistent rfl rfl rfl
      · rw [hres]
        exact h.append_quiet (consistent_status h.consistent w payload) rfl rfl rfl

/-- What the Master has recorded of the queue of a worker. -/
def status (m : Master) (w : WorkerId) : Option WorkerStatus :=
  (m.workers.lookup w).map WorkerConnection.status

theorem status_eq_of_lookup {g : WorkerConnection → WorkerConnection}
    (h : m'.workers.lookup w = (m.workers.lookup w).map g)
    (hg : ∀ c, (g c).status = c.status) : m'.status w = m.status w := by
  rw [status, h, Option.map_map, status]
  congr 1
  funext c
  exact hg c

/-- A recorded status changes by a dispatch to the worker, which has room, or by its
report, which is valid. -/
theorem status_step (h : Consistent m) (hstep : step m a = some m') (w : WorkerId) :
    m'.status w = m.status w ∨
    (∃ now assignment status, a = .nextAssignment now ∧
      m.nextAssignmentLocked now = some (some assignment, m') ∧ assignment.worker = w ∧
      m.status w = some status ∧ status.queueSize < status.queueCapacity ∧
      m'.status w = some { status with queueSize := status.queueSize + 1 }) ∨
    ∃ payload, a = .queueStatus w payload ∧ payload.postInit = .ok payload ∧
      m'.status w = (m.status w).map fun _ => payload := by
  cases a with
  | nextAssignment now =>
      obtain ⟨_, hres⟩ | ⟨t, p, task, _, _, _, m₁, hres, _, hback, _⟩ |
        ⟨t, p, task, c, _, _, hchoose, m₁, hres, _, hassigned, _⟩ :=
        nextAssignmentLocked_cases h now
      all_goals
        rw [step, hres] at hstep
        cases hstep
      · exact .inl rfl
      · refine .inl ?_
        rw [status, status, hback.workers]
      · have hworkers := hassigned.workers w
        split_ifs at hworkers with hw
        · subst hw
          obtain ⟨hc, helig⟩ := chooseWorkerLocked_eq_some h hchoose
          refine .inr (.inl ⟨now, _, c.status, rfl, hres, rfl, ?_, (eligible_iff.1 helig).2.1, ?_⟩)
          · rw [status, hc]
            rfl
          · rw [status, hworkers, hc]
            rfl
        · exact .inl (by rw [status, hworkers, status])
  | disconnectWorker v order =>
      obtain ⟨c, hc, hstep⟩ := Option.bind_eq_some_iff.1 hstep
      split_ifs at hstep with horder
      obtain ⟨_, hres⟩ | ⟨_, m₁, hres, _, hdisc⟩ :=
        disconnectWorker_cases h hc horder.1 horder.2
      all_goals
        rw [hres] at hstep
        cases hstep
      · exact .inl rfl
      · have hworkers := hdisc.workers w
        split_ifs at hworkers with hw
        · exact .inl (status_eq_of_lookup hworkers fun _ => rfl)
        · exact .inl (by rw [status, hworkers, status])
  | handleSuccess v payload =>
      obtain ⟨c, _, rfl⟩ := Option.map_eq_some_iff.1 hstep
      obtain ⟨_, hres⟩ | ⟨task, _, _, _, hfin⟩ := handleSuccess_cases h v payload
      · exact .inl (by rw [hres])
      · exact .inl (status_eq_of_lookup (hfin.workers w) fun _ => rfl)
  | handleFailure v payload =>
      obtain ⟨c, _, rfl⟩ := Option.map_eq_some_iff.1 hstep
      obtain ⟨_, hres⟩ | ⟨task, _, _, _, _, hworkers⟩ := handleFailure_cases h v payload
      · exact .inl (by rw [hres])
      · exact .inl (status_eq_of_lookup (hworkers w) fun _ => rfl)
  | queueStatus v payload =>
      obtain ⟨c, _, rfl⟩ := Option.map_eq_some_iff.1 hstep
      obtain ⟨e, hres⟩ | ⟨hres, _⟩ := handleQueueStatus_cases m v payload
      · exact .inl (by rw [hres])
      · by_cases hw : w = v
        · subst hw
          refine .inr (.inr ⟨payload, rfl, ?_, ?_⟩)
          · cases hpost : payload.postInit with
            | error e =>
                rw [handleQueueStatus, hpost] at hres
                cases hres
            | ok kept => rw [(WorkerStatus.postInit_eq_ok hpost).1]
          · rw [hres]
            simp only [status, Dict.lookup_modify, if_true, Option.map_map]
            rfl
        · refine .inl ?_
          rw [hres]
          simp only [status, Dict.lookup_modify, if_neg hw]

theorem status_queueStatus {payload : WorkerStatus}
    (hstep : step m (.queueStatus w payload) = some m')
    (hvalid : payload.postInit = .ok payload) (hid : payload.workerId = w) :
    m'.status w = some payload := by
  obtain ⟨c, hc, rfl⟩ := Option.map_eq_some_iff.1 hstep
  have hok : m.handleQueueStatus w payload = .ok { m with
      workers := m.workers.modify w fun connection => { connection with status := payload } } := by
    simp [handleQueueStatus, hvalid, hid, Except.bind]
  rw [hok]
  simp only [status, Dict.lookup_modify, if_true, hc, Option.map_some]

theorem Effect.connected (heff : Effect m a m') (hw : m'.connection w = some true) :
    m.connection w = some true := by
  cases heff with
  | same _ _ h => rwa [h.connection] at hw
  | assigned now t p task c _ _ _ _ h => rwa [h.connection] at hw
  | finished v payload task _ _ _ h => rwa [h.connection] at hw
  | failed v payload task _ _ _ _ hconnection => rwa [hconnection] at hw
  | disconnected v order _ _ h =>
      rw [h.connection] at hw
      simp only at hw
      split_ifs at hw
      · obtain ⟨_, _, hfalse⟩ := Option.map_eq_some_iff.1 hw
        cases hfalse
      · exact hw

theorem connection_disconnectWorker (h : Consistent m) {order : List TaskId}
    (hstep : step m (.disconnectWorker w order) = some m') : m'.connection w ≠ some true := by
  obtain ⟨c, hc, hstep⟩ := Option.bind_eq_some_iff.1 hstep
  split_ifs at hstep with horder
  intro hw
  obtain ⟨hcon, hres⟩ | ⟨_, m₁, hres, _, hdisc⟩ := disconnectWorker_cases h hc horder.1 horder.2
  all_goals
    rw [hres] at hstep
    cases hstep
  · rw [connection, hc, Option.map_some, hcon] at hw
    cases hw
  · rw [hdisc.connection] at hw
    simp only [if_true] at hw
    obtain ⟨_, _, hfalse⟩ := Option.map_eq_some_iff.1 hw
    cases hfalse

theorem sizesFit_iff : SizesFit m ↔ ∀ w status, m.status w = some status →
    0 ≤ status.queueSize ∧ status.queueSize ≤ status.queueCapacity := by
  constructor
  · intro h w status hstatus
    obtain ⟨c, hc, rfl⟩ := Option.map_eq_some_iff.1 hstatus
    exact h w c hc
  · intro h w c hc
    exact h w c.status (by rw [status, hc, Option.map_some])

theorem sizesFit_step (h : Consistent m) (hfit : SizesFit m) (hstep : step m a = some m') :
    SizesFit m' := by
  rw [sizesFit_iff] at hfit ⊢
  intro w status hstatus
  rcases status_step h hstep w with hsame | ⟨_, _, old, _, _, _, hold, hroom, hnew⟩ |
    ⟨payload, _, hvalid, hnew⟩
  · exact hfit w status (hsame ▸ hstatus)
  · rw [hnew] at hstatus
    cases hstatus
    exact ⟨Int.le_add_one (hfit w old hold).1, hroom⟩
  · rw [hnew] at hstatus
    obtain ⟨_, _, rfl⟩ := Option.map_eq_some_iff.1 hstatus
    exact (WorkerStatus.postInit_eq_ok hvalid).2.2

theorem normalTasks_foldl_addTask (m : Master) (tasks : List Task) :
    (tasks.foldl addTask m).normalTasks = m.normalTasks ++ tasks.map Task.taskId := by
  induction tasks generalizing m with
  | nil => simp
  | cons task tasks ih =>
      rw [List.foldl_cons, ih, addTask, List.map_cons, List.append_assoc]
      rfl

theorem normalTasks_foldlM_registerWorker {ws : List WorkerId}
    (hok : ws.foldlM registerWorker m = .ok m') : m'.normalTasks = m.normalTasks := by
  induction ws generalizing m with
  | nil =>
      cases hok
      rfl
  | cons w ws ih =>
      rw [List.foldlM_cons] at hok
      cases hreg : m.registerWorker w with
      | error e =>
          rw [hreg] at hok
          cases hok
      | ok m₁ =>
          rw [hreg] at hok
          have hone : m₁.normalTasks = m.normalTasks := by
            unfold registerWorker at hreg
            split_ifs at hreg
            cases hpost : WorkerStatus.postInit { workerId := w, queueSize := 0 } with
            | error e =>
                rw [hpost] at hreg
                cases hreg
            | ok status =>
                rw [hpost] at hreg
                cases hreg
                rfl
          rw [ih hok, hone]

theorem normalTasks_start {count : ℕ} {rng : RandomSource} {ws : List WorkerId}
    (hstart : start count rng ws = .ok m) :
    m.normalTasks = (generated count rng).map Task.taskId := by
  unfold start prepareTasks at hstart
  cases hgen : generateTasks count rng with
  | error e =>
      rw [show generateTasks (Master.taskCount { taskCount := count }) rng =
        .error e from hgen] at hstart
      cases hstart
  | ok tasks =>
      rw [show generateTasks (Master.taskCount { taskCount := count }) rng =
        .ok tasks from hgen] at hstart
      obtain ⟨_, rfl⟩ := generateTasks_eq_ok_iff.1 hgen
      have hregistered := normalTasks_foldlM_registerWorker hstart
      rw [hregistered, normalTasks_foldl_addTask]
      rfl

theorem history_start {count : ℕ} {rng : RandomSource} {ws : List WorkerId}
    (hstart : start count rng ws = .ok m) :
    History ((generated count rng).map Task.taskId) [] m := by
  have hstarted := started_of_start hstart
  refine ⟨hstarted.consistent, normalTasks_start hstart, ?_, ?_, ?_⟩
  · intro t w ht
    cases hstarted.place t _ ht
  · intro t ht
    cases hstarted.place t _ ht
  · intro i assignment hi
    cases hi

theorem sizesFit_start {count : ℕ} {rng : RandomSource} {ws : List WorkerId}
    (hstart : start count rng ws = .ok m) : SizesFit m := by
  intro w c hc
  obtain ⟨_, _, hsize, hcapacity⟩ := (started_of_start hstart).fresh w c hc
  rw [hsize, hcapacity]
  exact ⟨le_rfl, by decide⟩

/-- **Dispatch discipline.** In every run the dispatches without priority are a prefix of
the generated tasks, without repetitions; a dispatch with priority follows the return of
the task from its last dispatch; every dispatch is well chosen; and the recorded sizes
fit throughout. -/
theorem dispatch_discipline {count : ℕ} {rng : RandomSource} {ws : List WorkerId} {m₀ : Master}
    {acts : List Action} (hstart : start count rng ws = .ok m₀)
    (hrun : Transition.run step m₀ acts = some m) :
    (trace m₀ acts).filterMap Event.fresh <+: (generated count rng).map Task.taskId ∧
    ((trace m₀ acts).filterMap Event.fresh).Nodup ∧
    RetriesReturned (trace m₀ acts) ∧
    Transition.Along step (fun m a => ∀ assignment ∈ m.dispatchOf a, WellChosen m assignment)
      m₀ acts ∧
    Transition.Visits step SizesFit m₀ acts := by
  have hhistory : History ((generated count rng).map Task.taskId) ([] ++ trace m₀ acts) m :=
    Transition.invariant_outputs (fun _ _ _ _ h hstep => history_step h hstep)
      (history_start hstart) hrun
  rw [List.nil_append] at hhistory
  have hbefore : (trace m₀ acts).filterMap Event.fresh <+:
      (generated count rng).map Task.taskId := ⟨_, hhistory.normal⟩
  refine ⟨hbefore, hbefore.sublist.nodup (nodup_map_taskId_generated count rng),
    hhistory.retries, ?_, ?_⟩
  · refine Transition.along_invariant (I := Consistent) ?_
      (fun _ _ _ h hstep => (step_effect h hstep).1) acts (started_of_start hstart).consistent
    intro m a h assignment hassignment
    cases a with
    | nextAssignment now =>
        obtain ⟨⟨_, m'⟩, hres, rfl⟩ := Option.bind_eq_some_iff.1 hassignment
        exact wellChosen h hres
    | disconnectWorker _ _ => cases hassignment
    | handleSuccess _ _ => cases hassignment
    | handleFailure _ _ => cases hassignment
    | queueStatus _ _ => cases hassignment
  · exact Transition.visits_along (P := fun _ _ => True) (I := fun m => Consistent m ∧ SizesFit m)
      (fun _ h => h.2)
      (fun _ _ _ h _ hstep => ⟨(step_effect h.1 hstep).1, sizesFit_step h.1 h.2 hstep⟩)
      ⟨(started_of_start hstart).consistent, sizesFit_start hstart⟩
      (Transition.along_of_forall _ _ fun _ _ _ => trivial)

/-- Three tasks, of which the first is failed, sent out again before the third, and lost
with its second worker. -/
def retried : List Action :=
  [.nextAssignment 0, .nextAssignment 1, .handleFailure "worker1" { taskId := "task-0001" },
    .nextAssignment 2, .queueStatus "worker1" { workerId := "worker1", queueSize := 10 },
    .nextAssignment 3, .disconnectWorker "worker2" ["task-0002", "task-0001", "task-0003"]]

theorem dispatch_discipline_retried :
    ∃ m₀ m, start 3 .first ["worker1", "worker2"] = .ok m₀ ∧
      Transition.run step m₀ retried = some m ∧
      m.retryIds = ["task-0002", "task-0001", "task-0003"] ∧
      RetriesReturned (trace m₀ retried) := by
  obtain ⟨m₀, m, hstart, hrun, hids⟩ := exists_reached 3 .first ["worker1", "worker2"] retried
    (p := fun m => m.retryIds = ["task-0002", "task-0001", "task-0003"]) (by decide +kernel)
  exact ⟨m₀, m, hstart, hrun, hids, (dispatch_discipline hstart hrun).2.2.1⟩

end Step

end Master

end KVStore
