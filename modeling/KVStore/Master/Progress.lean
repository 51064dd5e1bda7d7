import KVStore.Master.Store

/-!
# When the distribution can still finish

A continuation may use the distributor, status reports of connected workers and
their successes for tasks assigned to them. Each round of such a continuation
finishes one more task, unless some retried task was last held by the only
connected worker: `_choose_worker_locked` never gives a task back to its previous
worker, so that task stays where it is.
-/

namespace KVStore

namespace Master

/-- The steps that a continuation is made of. -/
def Helpful (m : Master) : Action → Prop
  | .nextAssignment _ => True
  | .queueStatus w _ => m.connection w = some true
  | .handleSuccess w payload =>
      m.connection w = some true ∧ HeldBy m payload.taskId w
  | .handleFailure _ _ => False
  | .disconnectWorker _ _ => False

/-- The store can still become complete. -/
def Completable (m : Master) : Prop :=
  ∃ acts m', Transition.Along step Helpful m acts ∧
    Transition.run step m acts = some m' ∧ m'.storeComplete

/-- Each retried task has a connected worker other than its previous one. -/
def RetriesAssignable (m : Master) : Prop :=
  ∀ t task, m.taskState.lookup t = some .retry → m.tasks.lookup t = some task →
    ∃ w, m.connection w = some true ∧ some w ≠ task.previousWorkerId

section Effects

variable {m m' : Master} {a : Action}

theorem Effect.connection_of_helpful (heff : Effect m a m') (ha : Helpful m a) :
    m'.connection = m.connection := by
  cases heff with
  | same _ _ hsame => exact hsame.connection
  | assigned now u p task c _ _ _ _ hassigned => exact hassigned.connection
  | finished v payload task _ _ _ hfin => exact hfin.connection
  | failed v payload task _ _ _ _ hconnection => exact hconnection
  | disconnected v order _ _ _ => exact ha.elim

end Effects

/-! ### A blocked retry stays blocked -/

/-- No connected worker may take the retried task `t`. -/
structure Blocked (t : TaskId) (task : Task) (m : Master) : Prop where
  place : m.place t = some .retry
  record : m.tasks.lookup t = some task
  connected : ∀ w, m.connection w = some true → some w = task.previousWorkerId

theorem blocked_step {m m' : Master} {a : Action} {t : TaskId} {task : Task}
    (h : Consistent m) (hblocked : Blocked t task m) (ha : Helpful m a)
    (heff : Effect m a m') : Blocked t task m' := by
  have hconnection := heff.connection_of_helpful ha
  have hconnected : ∀ w, m'.connection w = some true →
      some w = task.previousWorkerId := by
    rw [hconnection]
    exact hblocked.connected
  cases heff with
  | same _ _ hsame =>
      exact ⟨by rw [hsame.place, hblocked.place], by rw [hsame.tasks, hblocked.record],
        hconnected⟩
  | assigned now u p other c _ hhead hother hchoose hassigned =>
      have hid : (sentTo c.workerId now other).taskId = u := h.task_id u other hother
      have hne : t ≠ u := by
        rintro rfl
        rw [hblocked.record] at hother
        cases hother
        obtain ⟨hc, helig⟩ := chooseWorkerLocked_eq_some h hchoose
        simp only [eligible, Bool.and_eq_true, decide_eq_true_eq] at helig
        refine helig.2 (hblocked.connected _ ?_)
        rw [connection, hc, Option.map_some, helig.1.1]
      refine ⟨?_, ?_, hconnected⟩
      · rw [hassigned.place, hid, Function.update_of_ne hne, hblocked.place]
      · rw [hassigned.tasks, hid, AList.lookup_insert_ne hne, hblocked.record]
  | finished w payload other _ hplace _ hfin =>
      have hne : t ≠ payload.taskId := by
        rintro rfl
        rw [hblocked.place] at hplace
        cases hplace
      refine ⟨?_, by rw [hfin.tasks, hblocked.record], hconnected⟩
      rw [hfin.place, Function.update_of_ne hne, hblocked.place]
  | failed w payload other _ _ _ _ _ => exact ha.elim
  | disconnected w order _ _ _ => exact ha.elim

theorem blocked_run {m m' : Master} {acts : List Action} {t : TaskId} {task : Task}
    (h : Consistent m) (hblocked : Blocked t task m)
    (halong : Transition.Along step Helpful m acts)
    (hrun : Transition.run step m acts = some m') : Blocked t task m' := by
  have hinv : Consistent m' ∧ Blocked t task m' := by
    refine Transition.invariant_along (I := fun m => Consistent m ∧ Blocked t task m)
      (fun m a m' hm ha hstep => ?_) ⟨h, hblocked⟩ halong hrun
    obtain ⟨hcons, heff⟩ := step_effect hm.1 hstep
    exact ⟨hcons, blocked_step hm.1 hm.2 ha heff⟩
  exact hinv.2

/-! ### Otherwise every round finishes a task -/

/-- What is kept along a run, and what a continuation relies on. -/
structure Ongoing (tasks : List Task) (m : Master) : Prop where
  consistent : Consistent m
  describes : Describes tasks m
  storeExact : StoreExact tasks m
  pending_previous : ∀ t task, m.place t = some .pending →
    m.tasks.lookup t = some task → task.previousWorkerId = none
  worker_name : ∀ w, (m.connection w).isSome → w ≠ ""

def openIds (tasks : List Task) (m : Master) : Finset TaskId :=
  (tasks.map Task.taskId).toFinset.filter fun t => m.taskState.lookup t ≠ some .done

section Ongoing

variable {m m' : Master} {tasks : List Task} {a : Action} {t : TaskId} {w : WorkerId}

theorem Ongoing.step (h : Ongoing tasks m) (hstep : step m a = some m') :
    Ongoing tasks m' := by
  obtain ⟨hcons, heff⟩ := step_effect h.consistent hstep
  refine ⟨hcons, h.describes.step heff,
    storeExact_step h.consistent h.describes h.storeExact hcons heff, ?_, ?_⟩
  · intro t task ht htask
    obtain ⟨hplace, hsame⟩ := heff.pending ht
    exact h.pending_previous t task hplace (hsame ▸ htask)
  · intro w hw
    exact h.worker_name w (heff.known w ▸ hw)

theorem Started.ongoing {count : ℕ} {rng : RandomSource} {ws : List WorkerId}
    (h : Started count rng ws m) : Ongoing (generated count rng) m := by
  refine ⟨h.consistent, h.describes, h.storeExact, ?_, ?_⟩
  · intro t task _ htask
    exact previousWorkerId_of_mem_generated ((h.tasks t task).1 htask).1
  · intro w hw
    rw [connection, Option.isSome_map, Option.isSome_iff_exists] at hw
    obtain ⟨c, hc⟩ := hw
    exact (h.fresh w c hc).workerId_ne

theorem ongoing_run {count : ℕ} {rng : RandomSource} {ws : List WorkerId}
    {m₀ : Master} {acts : List Action} (hstart : start count rng ws = .ok m₀)
    (hrun : Transition.run Master.step m₀ acts = some m) :
    Ongoing (generated count rng) m :=
  Transition.invariant_run (fun _ _ _ hm hstep => hm.step hstep)
    (started_of_start hstart).ongoing hrun

theorem Ongoing.mem_ids (h : Ongoing tasks m) (ht : (m.place t).isSome) :
    t ∈ (tasks.map Task.taskId).toFinset := by
  obtain ⟨p, hp⟩ := Option.isSome_iff_exists.1 ht
  obtain ⟨_, record, hrecord⟩ := state_of_place hp
  obtain ⟨task, htask, hid, _⟩ := (h.describes.contents t record.key record.value).1
    (by rw [Master.contents, hrecord, Option.map_some])
  exact List.mem_toFinset.2 (List.mem_map.2 ⟨task, htask, hid⟩)

theorem Ongoing.storeComplete_iff (h : Ongoing tasks m) :
    m.storeComplete ↔ openIds tasks m = ∅ := by
  rw [h.storeExact.storeComplete_iff h.describes, openIds, Finset.filter_eq_empty_iff]
  simp

theorem finish_held (h : Ongoing tasks m) (ht : m.place t = some (.assigned w)) :
    Helpful m (.handleSuccess w { taskId := t }) ∧
      ∃ m', Master.step m (.handleSuccess w { taskId := t }) = some m' ∧
        (∀ u, m'.place u = Function.update m.place t (some .done) u) ∧
        m'.tasks = m.tasks ∧ m'.connection = m.connection := by
  obtain ⟨c, hc, hcon⟩ := h.consistent.holders.holder t w ht
  constructor
  · refine ⟨?_, (heldBy_iff h.consistent).2 ht⟩
    rw [connection, hc, Option.map_some, hcon]
  · obtain ⟨hnot, _⟩ | ⟨task, _, _, _, hfin⟩ :=
      handleSuccess_cases h.consistent w { taskId := t }
    · exact absurd ht hnot
    · refine ⟨_, ?_, fun u => by rw [hfin.place], hfin.tasks, hfin.connection⟩
      rw [Master.step, hc, Option.map_some]

theorem report_empty (h : Ongoing tasks m) (hw : m.connection w = some true) :
    ∃ m', Master.step m (.queueStatus w { workerId := w, queueSize := 0 }) = some m' ∧
      m'.place = m.place ∧ m'.tasks = m.tasks ∧ m'.connection = m.connection ∧
      m'.head = m.head ∧
      ∃ c, m'.workers.lookup w = some c ∧ ∀ task : Task,
        some w ≠ task.previousWorkerId → eligible task c = true := by
  have hname : w ≠ "" := h.worker_name w (by rw [hw]; rfl)
  obtain ⟨c, hc, hcon⟩ := Option.map_eq_some_iff.1 hw
  have hvalid : WorkerStatus.postInit { workerId := w, queueSize := 0 } =
      .ok { workerId := w, queueSize := 0 } := by
    simp [WorkerStatus.postInit, hname, DEFAULT_QUEUE_CAPACITY]
  let m' : Master := { m with workers := m.workers.modify w fun c =>
    { c with status := { workerId := w, queueSize := 0 } } }
  have hok : m.handleQueueStatus w { workerId := w, queueSize := 0 } = .ok m' := by
    rw [handleQueueStatus, hvalid]
    simp [Except.bind, m']
  refine ⟨m', ?_, rfl, rfl, ?_, rfl, ?_⟩
  · simp only [Master.step, hc, Option.map_some, hok]
  · funext v
    simp only [connection, m', Dict.lookup_modify]
    split_ifs
    · rw [Option.map_map]
      rfl
    · rfl
  · refine ⟨{ c with status := { workerId := w, queueSize := 0 } }, ?_, ?_⟩
    · rw [Dict.lookup_modify, if_pos rfl, hc, Option.map_some]
    · intro task htask
      have hid : c.workerId = w := h.consistent.worker_id w c hc
      simp [eligible, hcon, hid, htask, DEFAULT_QUEUE_CAPACITY]

theorem assign_head (h : Ongoing tasks m) (hconn : ∃ w, m.connection w = some true)
    (hretries : RetriesAssignable m) (hwait : ∃ t, Ledger.Waiting m.place t) :
    ∃ acts m' t w, Transition.Along Master.step Helpful m acts ∧
      Transition.run Master.step m acts = some m' ∧ Ongoing tasks m' ∧
      Ledger.Waiting m.place t ∧
      m'.place = Function.update m.place t (some (.assigned w)) ∧
      (∀ u, u ≠ t → m'.tasks.lookup u = m.tasks.lookup u) ∧
      m'.connection = m.connection := by
  obtain ⟨⟨t, p⟩, hhead⟩ : ∃ e, m.head = some e := by
    cases hhead : m.head with
    | none =>
        obtain ⟨t, ht⟩ := hwait
        exact absurd ht ((head_eq_none_iff h.consistent).1 hhead t)
    | some e => exact ⟨e, rfl⟩
  obtain ⟨hstate, task, htask⟩ := state_of_place (place_head h.consistent hhead)
  -- some connected worker is not excluded for the head
  obtain ⟨w, hw, hprev⟩ : ∃ w, m.connection w = some true ∧
      some w ≠ task.previousWorkerId := by
    cases p with
    | true => exact hretries t task hstate htask
    | false =>
        obtain ⟨w, hw⟩ := hconn
        refine ⟨w, hw, ?_⟩
        rw [h.pending_previous t task (place_head h.consistent hhead) htask]
        simp
  obtain ⟨m₁, hstep₁, hplace₁, htasks₁, hconn₁, hhead₁, c, hc, helig⟩ :=
    report_empty h hw
  have h₁ := h.step hstep₁
  obtain ⟨hnone, _⟩ | ⟨u, q, task', hhead', htask', hchoose, _⟩ |
    ⟨u, q, task', d, hhead', htask', hchoose, m₂, hres, _, hassigned, _⟩ :=
    nextAssignmentLocked_cases h₁.consistent 0
  · rw [hhead₁, hhead] at hnone
    cases hnone
  · rw [hhead₁, hhead] at hhead'
    cases hhead'
    rw [htasks₁, htask] at htask'
    cases htask'
    have hnot := chooseWorkerLocked_eq_none_iff.1 hchoose w c hc
    rw [helig task hprev] at hnot
    cases hnot
  · rw [hhead₁, hhead] at hhead'
    cases hhead'
    have hstep₂ : Master.step m₁ (.nextAssignment 0) = some m₂ := by
      rw [Master.step, hres]
      rfl
    have hid : (sentTo d.workerId 0 task').taskId = t :=
      h₁.consistent.task_id t task' htask'
    refine ⟨[.queueStatus w { workerId := w, queueSize := 0 }, .nextAssignment 0], m₂, t,
      d.workerId, ⟨hw, fun m₃ _ => ⟨trivial, fun _ _ => trivial⟩⟩, ?_,
      h₁.step hstep₂, waiting_head h.consistent hhead, ?_, ?_, ?_⟩
    · rw [Transition.run_cons, hstep₁, Option.bind_some, Transition.run_cons, hstep₂]
      rfl
    · rw [hassigned.place, hid, hplace₁]
    · intro v hv
      rw [hassigned.tasks, hid, AList.lookup_insert_ne hv, htasks₁]
    · rw [hassigned.connection, hconn₁]

theorem openIds_ssubset (h : Ongoing tasks m) (h' : Ongoing tasks m')
    {p : Place WorkerId} (ht : m.place t = some p) (hp : p ≠ .done)
    (hplace : ∀ u, m'.place u = Function.update m.place t (some .done) u) :
    openIds tasks m' ⊂ openIds tasks m := by
  have hdone : ∀ u, m'.taskState.lookup u = some .done ↔
      u = t ∨ m.taskState.lookup u = some .done := by
    intro u
    rw [h'.consistent.state_done_iff, h.consistent.state_done_iff, hplace]
    by_cases hu : u = t
    · subst hu
      simp
    · rw [Function.update_of_ne hu]
      simp [hu]
  rw [Finset.ssubset_iff_of_subset]
  · refine ⟨t, ?_, ?_⟩
    · refine Finset.mem_filter.2 ⟨h.mem_ids (by rw [ht]; rfl), ?_⟩
      rw [Ne, h.consistent.state_done_iff, ht, Option.some.injEq]
      exact hp
    · intro hmem
      exact (Finset.mem_filter.1 hmem).2 ((hdone t).2 (.inl rfl))
  · intro u hu
    obtain ⟨hmem, hnot⟩ := Finset.mem_filter.1 hu
    exact Finset.mem_filter.2 ⟨hmem, fun hu => hnot ((hdone u).2 (.inr hu))⟩

/-- Retries stay assignable when no task starts to wait and the workers and the
records of the waiting tasks stay. -/
theorem RetriesAssignable.mono (h : Ongoing tasks m) (h' : Ongoing tasks m')
    (hretries : RetriesAssignable m)
    (hplace : ∀ u, m'.place u = some .retry → m.place u = some .retry)
    (htasks : ∀ u, m'.place u = some .retry → m'.tasks.lookup u = m.tasks.lookup u)
    (hconn : m'.connection = m.connection) : RetriesAssignable m' := by
  intro u task hu htask
  rw [h'.consistent.state_retry_iff] at hu
  rw [hconn]
  refine hretries u task (h.consistent.state_retry_iff.2 (hplace u hu)) ?_
  rw [← htasks u hu, htask]

/-- One round: some open task is finished. -/
theorem round (h : Ongoing tasks m) (hconn : ∃ w, m.connection w = some true)
    (hretries : RetriesAssignable m) (hopen : ¬ m.storeComplete) :
    ∃ acts m', Transition.Along Master.step Helpful m acts ∧
      Transition.run Master.step m acts = some m' ∧ Ongoing tasks m' ∧
      m'.connection = m.connection ∧ RetriesAssignable m' ∧
      openIds tasks m' ⊂ openIds tasks m := by
  -- finishing a task that is assigned is one success of its holder
  have hheld : ∀ m₁ t w, Ongoing tasks m₁ → RetriesAssignable m₁ →
      m₁.place t = some (.assigned w) →
      ∃ acts m', Transition.Along Master.step Helpful m₁ acts ∧
        Transition.run Master.step m₁ acts = some m' ∧ Ongoing tasks m' ∧
        m'.connection = m₁.connection ∧ RetriesAssignable m' ∧
        openIds tasks m' ⊂ openIds tasks m₁ := by
    intro m₁ t w h₁ hr₁ ht
    obtain ⟨hhelp, m', hstep, hplace, htasks, hconn'⟩ := finish_held h₁ ht
    have h' := h₁.step hstep
    have hkeep : ∀ u, m'.place u = some .retry → m₁.place u = some .retry := by
      intro u hu
      rw [hplace] at hu
      by_cases hut : u = t
      · subst hut
        simp at hu
      · rwa [Function.update_of_ne hut] at hu
    refine ⟨[.handleSuccess w { taskId := t }], m', ⟨hhelp, fun _ _ => trivial⟩, ?_, h',
      hconn', hr₁.mono h₁ h' hkeep (fun u _ => by rw [htasks]) hconn',
      openIds_ssubset h₁ h' ht (by simp) hplace⟩
    rw [Transition.run_cons, hstep]
    rfl
  by_cases hassigned : ∃ t w, m.place t = some (.assigned w)
  · obtain ⟨t, w, ht⟩ := hassigned
    exact hheld m t w h hretries ht
  · -- an open task waits, because none is assigned
    have hwait : ∃ t, Ledger.Waiting m.place t := by
      rw [h.storeComplete_iff, ← Ne, ← Finset.nonempty_iff_ne_empty] at hopen
      obtain ⟨t, ht⟩ := hopen
      obtain ⟨hmem, hnot⟩ := Finset.mem_filter.1 ht
      obtain ⟨task, htask, hid⟩ := List.mem_map.1 (List.mem_toFinset.1 hmem)
      obtain ⟨record, hrecord, _⟩ := Option.map_eq_some_iff.1
        ((h.describes.contents t task.key task.value).2 ⟨task, htask, hid, rfl, rfl⟩)
      obtain ⟨p, hp⟩ := Option.isSome_iff_exists.1
        (h.consistent.placed t (h.consistent.recorded t (by rw [hrecord]; rfl)))
      cases p with
      | pending => exact ⟨t, .inl hp⟩
      | retry => exact ⟨t, .inr hp⟩
      | assigned w => exact absurd ⟨t, w, hp⟩ hassigned
      | done => exact absurd (h.consistent.state_done_iff.2 hp) hnot
    obtain ⟨acts, m₁, t, w, halong, hrun, h₁, ht, hplace, htasks, hconn₁⟩ :=
      assign_head h hconn hretries hwait
    have hkeep : ∀ u, m₁.place u = some .retry → u ≠ t ∧ m.place u = some .retry := by
      intro u hu
      rw [hplace] at hu
      by_cases hut : u = t
      · subst hut
        simp at hu
      · rw [Function.update_of_ne hut] at hu
        exact ⟨hut, hu⟩
    have hr₁ : RetriesAssignable m₁ := hretries.mono h h₁ (fun u hu => (hkeep u hu).2)
      (fun u hu => htasks u (hkeep u hu).1) hconn₁
    have hopen₁ : openIds tasks m₁ = openIds tasks m := by
      refine Finset.filter_congr fun u _ => ?_
      rw [Ne, Ne, h₁.consistent.state_done_iff, h.consistent.state_done_iff, hplace]
      by_cases hut : u = t
      · subst hut
        rcases ht with ht | ht <;> simp [ht]
      · rw [Function.update_of_ne hut]
    obtain ⟨more, m₂, halong₂, hrun₂, h₂, hconn₂, hr₂, hlt⟩ :=
      hheld m₁ t w h₁ hr₁ (by rw [hplace, Function.update_self])
    exact ⟨acts ++ more, m₂, Transition.along_append halong hrun halong₂,
      Transition.run_append_eq_some_iff.2 ⟨m₁, hrun, hrun₂⟩, h₂, hconn₂.trans hconn₁, hr₂,
      hopen₁ ▸ hlt⟩

/-- Rounds end with a complete store: each one finishes a task. -/
theorem completable_of_retriesAssignable (h : Ongoing tasks m)
    (hconn : ∃ w, m.connection w = some true) (hretries : RetriesAssignable m) :
    Completable m := by
  induction hn : (openIds tasks m).card using Nat.strong_induction_on generalizing m with
  | _ n ih =>
      by_cases hcomplete : m.storeComplete
      · exact ⟨[], m, trivial, rfl, hcomplete⟩
      · obtain ⟨acts, m₁, halong, hrun, h₁, hconn₁, hr₁, hlt⟩ :=
          round h hconn hretries hcomplete
        have hcard : (openIds tasks m₁).card < n := hn ▸ Finset.card_lt_card hlt
        obtain ⟨more, m₂, halong₂, hrun₂, hdone⟩ :=
          ih _ hcard h₁ (hconn₁ ▸ hconn) hr₁ rfl
        exact ⟨acts ++ more, m₂, Transition.along_append halong hrun halong₂,
          Transition.run_append_eq_some_iff.2 ⟨m₁, hrun, hrun₂⟩, hdone⟩

theorem not_completable_of_blocked (h : Ongoing tasks m) {task : Task}
    (hblocked : Blocked t task m) : ¬ Completable m := by
  rintro ⟨acts, m', halong, hrun, hcomplete⟩
  have hblocked' := blocked_run h.consistent hblocked halong hrun
  have h' : Ongoing tasks m' :=
    Transition.invariant_run (fun _ _ _ hm hstep => hm.step hstep) h hrun
  rw [h'.storeComplete_iff] at hcomplete
  have hmem : t ∈ openIds tasks m' := by
    refine Finset.mem_filter.2 ⟨h'.mem_ids (by rw [hblocked'.place]; rfl), ?_⟩
    rw [Ne, h'.consistent.state_done_iff, hblocked'.place]
    simp
  rw [hcomplete] at hmem
  exact Finset.notMem_empty t hmem

end Ongoing

/-- **Progress.** While a worker is connected, the store can still become complete
exactly when each retried task has a connected worker other than its previous
one. -/
theorem completable_iff {count : ℕ} {rng : RandomSource} {ws : List WorkerId}
    {m₀ m : Master} {acts : List Action} (hstart : start count rng ws = .ok m₀)
    (hrun : Transition.run step m₀ acts = some m)
    (hconn : ∃ w, m.connection w = some true) :
    Completable m ↔ RetriesAssignable m := by
  have h := ongoing_run hstart hrun
  refine ⟨fun hcompletable t task ht htask => ?_,
    completable_of_retriesAssignable h hconn⟩
  by_contra hnone
  push Not at hnone
  exact not_completable_of_blocked h
    ⟨h.consistent.state_retry_iff.1 ht, htask, hnone⟩ hcompletable

/-- A task failed by one of two connected workers. -/
theorem completable_iff_two_workers :
    ∃ m₀ m, start 1 .first ["worker1", "worker2"] = .ok m₀ ∧
      Transition.run step m₀ [.nextAssignment 0,
        .handleFailure "worker1" { taskId := "task-0001" }] = some m ∧
      (Completable m ↔ RetriesAssignable m) := by
  obtain ⟨m₀, m, hstart, hrun, hconn⟩ := exists_reached 1 .first ["worker1", "worker2"]
    [.nextAssignment 0, .handleFailure "worker1" { taskId := "task-0001" }]
    (p := fun m => m.connection "worker1" = some true) (by decide)
  exact ⟨m₀, m, hstart, hrun, completable_iff hstart hrun ⟨"worker1", hconn⟩⟩

/-- The last connected worker fails the last task: nothing can finish it. -/
theorem not_completable_last_worker :
    ∃ m₀ m, start 1 .first ["worker1", "worker2", "worker3", "worker4"] = .ok m₀ ∧
      Transition.run step m₀ [.disconnectWorker "worker2" [],
        .disconnectWorker "worker3" [], .disconnectWorker "worker4" [],
        .nextAssignment 0, .handleFailure "worker1" { taskId := "task-0001" }] = some m ∧
      m.connection "worker1" = some true ∧ ¬ m.storeComplete ∧ ¬ Completable m := by
  obtain ⟨m₀, m, hstart, hrun, hconn, hopen, hplace, hprev, honly⟩ := exists_reached 1 .first
    ["worker1", "worker2", "worker3", "worker4"]
    [.disconnectWorker "worker2" [], .disconnectWorker "worker3" [],
      .disconnectWorker "worker4" [], .nextAssignment 0,
      .handleFailure "worker1" { taskId := "task-0001" }]
    (p := fun m => m.connection "worker1" = some true ∧ ¬ m.storeComplete ∧
      m.place "task-0001" = some .retry ∧
      (m.tasks.lookup "task-0001").map Task.previousWorkerId = some (some "worker1") ∧
      ∀ c ∈ m.workers.values, c.connected = true → c.workerId = "worker1") (by decide)
  refine ⟨m₀, m, hstart, hrun, hconn, hopen, ?_⟩
  have h := ongoing_run hstart hrun
  obtain ⟨task, htask, hprevious⟩ := Option.map_eq_some_iff.1 hprev
  refine not_completable_of_blocked h ⟨hplace, htask, fun w hw => ?_⟩
  obtain ⟨c, hc, hcon⟩ := Option.map_eq_some_iff.1 hw
  rw [hprevious, ← h.consistent.worker_id w c hc,
    honly c (Dict.mem_values_iff.2 ⟨w, hc⟩) hcon]

end Master

end KVStore
