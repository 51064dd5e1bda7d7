import KVStore.Master.Partition

/-!
# The store holds exactly the finished tasks

Only an accepted success writes to the store, and it writes the key and value the
Master itself generated. Keys of generated tasks are distinct, so no write meets
an earlier one, and the number of entries counts the finished tasks.
-/

namespace KVStore

namespace Master

/-- What a locked section does to the store: nothing, or it finishes one task and
files the recorded value of that task under its recorded key. -/
theorem Effect.stored {m m' : Master} {a : Action} (h : Consistent m)
    (heff : Effect m a m') :
    (m'.store = m.store ∧ ∀ u, m'.place u = some .done ↔ m.place u = some .done) ∨
    (∃ t task, m.place t ≠ some .done ∧ m.tasks.lookup t = some task ∧
      m'.store = m.store.insert task.key task.value ∧
      ∀ u, m'.place u = some .done ↔ u = t ∨ m.place u = some .done) := by
  -- a task that moves between two other places is not done before or after
  have hmove : ∀ t p q, m.place t = some p → p ≠ .done → q ≠ .done → ∀ u,
      Function.update m.place t (some q) u = some .done ↔ m.place u = some .done := by
    intro t p q hp hpd hqd u
    by_cases hu : u = t
    · subst hu
      simp [hp, hpd, hqd]
    · rw [Function.update_of_ne hu]
  cases heff with
  | same _ _ hsame => exact .inl ⟨hsame.store, fun u => by rw [hsame.place]⟩
  | assigned now t p task c _ hhead htask _ hassigned =>
      refine .inl ⟨hassigned.store, fun u => ?_⟩
      rw [hassigned.place]
      have hid : (sentTo c.workerId now task).taskId = t := h.task_id t task htask
      rw [hid]
      rcases waiting_head h hhead with hwait | hwait
      · exact hmove t _ _ hwait (by simp) (by simp) u
      · exact hmove t _ _ hwait (by simp) (by simp) u
  | finished w payload task _ hplace htask hfin =>
      refine .inr ⟨payload.taskId, task, by simp [hplace], htask, hfin.store, fun u => ?_⟩
      rw [hfin.place]
      by_cases hu : u = payload.taskId
      · subst hu
        simp
      · rw [Function.update_of_ne hu]
        simp [hu]
  | failed w payload task _ hplace _ hreq _ =>
      refine .inl ⟨hreq.store, fun u => ?_⟩
      rw [hreq.place]
      exact hmove _ _ _ hplace (by simp) (by simp) u
  | disconnected w order _ _ hdisc =>
      refine .inl ⟨hdisc.store, fun u => ?_⟩
      rw [hdisc.place, Ledger.release]
      split_ifs with hu
      · simp [hu]
      · rfl

/-- The store is the graph of key and value over the finished tasks of `tasks`. -/
def StoreExact (tasks : List Task) (m : Master) : Prop :=
  ∀ k v, m.store.lookup k = some v ↔
    ∃ task ∈ tasks, m.taskState.lookup task.taskId = some .done ∧
      task.key = k ∧ task.value = v

/-- The Master's records are those of `tasks`, whose ids and keys are distinct. -/
structure Describes (tasks : List Task) (m : Master) : Prop where
  contents : ∀ t k v, m.contents t = some (k, v) ↔
    ∃ task ∈ tasks, task.taskId = t ∧ task.key = k ∧ task.value = v
  nodup_id : (tasks.map Task.taskId).Nodup
  nodup_key : (tasks.map Task.key).Nodup
  taskCount : m.taskCount = tasks.length

section Store

variable {m m' : Master} {tasks : List Task} {a : Action}

theorem eq_of_nodup_map {β : Type*} {f : Task → β} (hnodup : (tasks.map f).Nodup)
    {s t : Task} (hs : s ∈ tasks) (ht : t ∈ tasks) (h : f s = f t) : s = t :=
  List.inj_on_of_nodup_map hnodup hs ht h

theorem Describes.step (h : Describes tasks m) (heff : Effect m a m') :
    Describes tasks m' where
  contents := by
    rw [heff.contents]
    exact h.contents
  nodup_id := h.nodup_id
  nodup_key := h.nodup_key
  taskCount := heff.taskCount.trans h.taskCount

theorem storeExact_step (h : Consistent m) (hdesc : Describes tasks m)
    (hstore : StoreExact tasks m) (hcons' : Consistent m') (heff : Effect m a m') :
    StoreExact tasks m' := by
  intro k v
  have hdone : ∀ t, m'.taskState.lookup t = some .done ↔ m'.place t = some .done :=
    fun t => hcons'.state_done_iff
  have hdone₀ : ∀ t, m.place t = some .done ↔ m.taskState.lookup t = some .done :=
    fun t => h.state_done_iff.symm
  simp only [hdone]
  obtain ⟨hsame, hplace⟩ | ⟨t, record, hnot, hrecord, hinsert, hplace⟩ := heff.stored h
  · simp only [hplace, hdone₀, hsame]
    exact hstore k v
  · obtain ⟨task, htask, hid, hkey, hvalue⟩ := (hdesc.contents t record.key record.value).1
      (by rw [Master.contents, hrecord, Option.map_some])
    rw [hinsert, Dict.lookup_insert_eq_ite]
    simp only [hplace, hdone₀]
    by_cases hk : k = record.key
    · rw [if_pos hk]
      constructor
      · intro hv
        exact ⟨task, htask, .inl hid, hkey.trans hk.symm, by rw [hvalue, Option.some.inj hv]⟩
      · rintro ⟨other, hother, _, hok, hov⟩
        have heq : other = task := eq_of_nodup_map hdesc.nodup_key hother htask
          (by rw [hok, hk, hkey])
        rw [← hov, heq, hvalue]
    · rw [if_neg hk, hstore]
      -- the newly finished task has another key, so it is not among those with key `k`
      refine exists_congr fun other => and_congr_right fun hother => ?_
      refine and_congr_left ?_
      rintro ⟨hok, _⟩
      have hne : other.taskId ≠ t := by
        intro heq
        have hsame : other = task := eq_of_nodup_map hdesc.nodup_id hother htask
          (heq.trans hid.symm)
        exact hk (by rw [← hok, hsame, hkey])
      simp [hne]

theorem storeExact_run (h : Consistent m) (hdesc : Describes tasks m)
    (hstore : StoreExact tasks m) {acts : List Action}
    (hrun : Transition.run step m acts = some m') :
    Describes tasks m' ∧ StoreExact tasks m' := by
  have hinv : Consistent m' ∧ Describes tasks m' ∧ StoreExact tasks m' := by
    refine Transition.invariant_run
      (I := fun m => Consistent m ∧ Describes tasks m ∧ StoreExact tasks m)
      (fun m a m' hm hstep => ?_) ⟨h, hdesc, hstore⟩ hrun
    obtain ⟨hm, hd, hs⟩ := hm
    obtain ⟨hcons', heff⟩ := step_effect hm hstep
    exact ⟨hcons', hd.step heff, storeExact_step hm hd hs hcons' heff⟩
  exact hinv.2

theorem StoreExact.mono (h : StoreExact tasks m) (h' : StoreExact tasks m')
    (hdone : ∀ t, m.taskState.lookup t = some .done → m'.taskState.lookup t = some .done)
    {k : String} {v : ℤ} (hk : m.store.lookup k = some v) : m'.store.lookup k = some v := by
  obtain ⟨task, htask, ht, hkey, hvalue⟩ := (h k v).1 hk
  exact (h' k v).2 ⟨task, htask, hdone _ ht, hkey, hvalue⟩

theorem done_run (h : Consistent m) {acts : List Action}
    (hrun : Transition.run step m acts = some m') {t : TaskId}
    (ht : m.taskState.lookup t = some .done) : m'.taskState.lookup t = some .done := by
  have hcons' := consistent_run h hrun
  obtain ⟨es, hes⟩ := ledger_refinement h hrun
  rw [hcons'.state_done_iff]
  exact Ledger.done_run hes (h.state_done_iff.1 ht)

theorem StoreExact.size (h : StoreExact tasks m) (hdesc : Describes tasks m) :
    m.store.size = (tasks.filter fun task =>
      m.taskState.lookup task.taskId = some .done).length := by
  have hkeys : m.store.keys.toFinset = ((tasks.filter fun task =>
      m.taskState.lookup task.taskId = some .done).map Task.key).toFinset := by
    ext k
    rw [List.mem_toFinset, List.mem_toFinset, Dict.mem_keys_iff, List.mem_map]
    constructor
    · rintro ⟨v, hv⟩
      obtain ⟨task, htask, hdone, hkey, _⟩ := (h k v).1 hv
      exact ⟨task, List.mem_filter.2 ⟨htask, decide_eq_true hdone⟩, hkey⟩
    · rintro ⟨task, htask, hkey⟩
      obtain ⟨htask, hdone⟩ := List.mem_filter.1 htask
      exact ⟨task.value, (h k task.value).2
        ⟨task, htask, of_decide_eq_true hdone, hkey, rfl⟩⟩
  have hnodup : ((tasks.filter fun task =>
      m.taskState.lookup task.taskId = some .done).map Task.key).Nodup :=
    hdesc.nodup_key.sublist (List.filter_sublist.map _)
  rw [Dict.size_eq_card, hkeys, List.toFinset_card_of_nodup hnodup, List.length_map]

theorem StoreExact.storeComplete_iff (h : StoreExact tasks m)
    (hdesc : Describes tasks m) :
    m.storeComplete ↔
      ∀ task ∈ tasks, m.taskState.lookup task.taskId = some .done := by
  rw [storeComplete, h.size hdesc, hdesc.taskCount, List.length_filter_eq_length_iff]
  simp only [decide_eq_true_eq]

end Store

section Start

variable {count : ℕ} {rng : RandomSource} {ws : List WorkerId} {m : Master}

theorem Started.describes (h : Started count rng ws m) :
    Describes (generated count rng) m where
  contents := by
    intro t k v
    rw [contents, Option.map_eq_some_iff]
    constructor
    · rintro ⟨task, htask, hkv⟩
      obtain ⟨hmem, hid⟩ := (h.tasks t task).1 htask
      exact ⟨task, hmem, hid, congrArg Prod.fst hkv, congrArg Prod.snd hkv⟩
    · rintro ⟨task, hmem, hid, hk, hv⟩
      exact ⟨task, (h.tasks t task).2 ⟨hmem, hid⟩, by rw [hk, hv]⟩
  nodup_id := nodup_map_taskId_generated count rng
  nodup_key := nodup_map_key_generated count rng
  taskCount := by rw [h.taskCount, length_generated rng h.admitted.2]

theorem Started.storeExact (h : Started count rng ws m) :
    StoreExact (generated count rng) m := by
  intro k v
  rw [h.store]
  refine iff_of_false (by simp) ?_
  rintro ⟨task, _, hdone, _⟩
  have hplace := h.consistent.state_done_iff.1 hdone
  cases h.place _ _ hplace

/-- **Store correctness.** In every reachable state the store is the map from key
to value over the finished tasks; later steps neither reopen a finished task nor
change an entry; and the test that ends the distribution says that all generated
tasks are finished. -/
theorem store_exact {m₀ : Master} {acts : List Action}
    (hstart : start count rng ws = .ok m₀)
    (hrun : Transition.run step m₀ acts = some m) :
    (∀ k v, m.store.lookup k = some v ↔
      ∃ task ∈ generated count rng, m.taskState.lookup task.taskId = some .done ∧
        task.key = k ∧ task.value = v) ∧
    (∀ later m', Transition.run step m later = some m' →
      (∀ t, m.taskState.lookup t = some .done → m'.taskState.lookup t = some .done) ∧
      ∀ k v, m.store.lookup k = some v → m'.store.lookup k = some v) ∧
    (m.storeComplete ↔
      ∀ task ∈ generated count rng, m.taskState.lookup task.taskId = some .done) := by
  have h₀ := started_of_start hstart
  have hcons := consistent_run h₀.consistent hrun
  obtain ⟨hdesc, hexact⟩ := storeExact_run h₀.consistent h₀.describes h₀.storeExact hrun
  refine ⟨hexact, ?_, hexact.storeComplete_iff hdesc⟩
  intro later m' hlater
  have hexact' := (storeExact_run hcons hdesc hexact hlater).2
  have hdone := fun t => done_run hcons hlater (t := t)
  exact ⟨hdone, fun k v hk => hexact.mono hexact' hdone hk⟩

/-- A success, its repetition under another key, and a late failure. -/
theorem store_exact_repeated_result :
    ∃ m₀ m, start 1 .first ["worker1"] = .ok m₀ ∧
      Transition.run step m₀ [.nextAssignment 0,
        .handleSuccess "worker1" { taskId := "task-0001" },
        .handleSuccess "worker1" { taskId := "task-0001", key := some "ffff" },
        .handleFailure "worker1" { taskId := "task-0001" }] = some m ∧
      (m.storeComplete ↔ ∀ task ∈ generated 1 .first,
        m.taskState.lookup task.taskId = some .done) := by
  obtain ⟨m₀, m, hstart, hrun, _⟩ := exists_reached 1 .first ["worker1"]
    [.nextAssignment 0, .handleSuccess "worker1" { taskId := "task-0001" },
      .handleSuccess "worker1" { taskId := "task-0001", key := some "ffff" },
      .handleFailure "worker1" { taskId := "task-0001" }]
    (p := fun _ => True) (by decide)
  exact ⟨m₀, m, hstart, hrun, (store_exact hstart hrun).2.2⟩

end Start

end Master

end KVStore
