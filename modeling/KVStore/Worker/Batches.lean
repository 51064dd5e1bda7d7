import KVStore.Worker.QueueInvariant

/-!
# Batches of the ready queue

`enqueueEach` puts the tasks of a list into the queue one after another. Both it and
`tryEnqueueMany` are read through `Fits`, the condition under which the list has a place:
its ids are distinct and new, and there is room for all of it. The condition splits along the
list, so what the batch checks up front is what the single calls check one by one.
-/

namespace KVStore

open HasTaskId

namespace ReadyQueue

variable {τ : Type*} [HasTaskId τ]

/-- The tasks go in one by one, without priority, whatever became of the ones before. -/
def enqueueEach (q : ReadyQueue τ) : List τ → List QueueChangeResult × ReadyQueue τ
  | [] => ([], q)
  | task :: tasks =>
      let (result, q) := q.tryEnqueue task false
      let (results, q) := q.enqueueEach tasks
      (result :: results, q)

def AcceptsEach (q : ReadyQueue τ) (tasks : List τ) : Prop :=
  ∀ result ∈ (q.enqueueEach tasks).1, result.accepted = true

/-- The list has a place in the queue. -/
structure Fits (q : ReadyQueue τ) (tasks : List τ) : Prop where
  nodup : (tasks.map taskId).Nodup
  new : ∀ task ∈ tasks, taskId task ∉ q.activeTaskIds
  room : q.sizeLocked + tasks.length ≤ q.capacity

/-- The tasks wait at the end of the normal deque. -/
def append (q : ReadyQueue τ) (tasks : List τ) : ReadyQueue τ :=
  { q with
    normal := q.normal ++ tasks
    activeTaskIds := q.activeTaskIds ∪ (tasks.map taskId).toFinset }

section Batches

variable {q : ReadyQueue τ} {task : τ} {tasks : List τ}

theorem enqueueEach_cons (q : ReadyQueue τ) (task : τ) (tasks : List τ) :
    q.enqueueEach (task :: tasks) =
      ((q.tryEnqueue task false).1 :: ((q.tryEnqueue task false).2.enqueueEach tasks).1,
        ((q.tryEnqueue task false).2.enqueueEach tasks).2) := rfl

theorem acceptsEach_cons :
    q.AcceptsEach (task :: tasks) ↔
      (q.tryEnqueue task false).1.accepted = true ∧
        (q.tryEnqueue task false).2.AcceptsEach tasks := by
  rw [AcceptsEach, AcceptsEach, enqueueEach_cons, List.forall_mem_cons]

@[simp] theorem append_nil (q : ReadyQueue τ) : q.append [] = q := by
  simp [append]

theorem append_cons (q : ReadyQueue τ) (task : τ) (tasks : List τ) :
    q.append (task :: tasks) = (q.append [task]).append tasks := by
  simp [append, Finset.insert_union]

theorem sizeLocked_append (q : ReadyQueue τ) (tasks : List τ) :
    (q.append tasks).sizeLocked = q.sizeLocked + tasks.length := by
  simp only [append, sizeLocked, List.length_append]
  omega

theorem fits_singleton :
    q.Fits [task] ↔ taskId task ∉ q.activeTaskIds ∧ q.sizeLocked < q.capacity := by
  constructor
  · intro h
    exact ⟨h.new task List.mem_cons_self, h.room⟩
  · rintro ⟨hnew, hroom⟩
    refine ⟨List.nodup_singleton _, ?_, hroom⟩
    intro other hother
    rw [List.mem_singleton.1 hother]
    exact hnew

theorem fits_cons :
    q.Fits (task :: tasks) ↔ q.Fits [task] ∧ (q.append [task]).Fits tasks := by
  have hactive : ∀ t, t ∈ (q.append [task]).activeTaskIds ↔
      t = taskId task ∨ t ∈ q.activeTaskIds := by
    intro t
    simp [append, or_comm]
  have hsize := sizeLocked_append q [task]
  constructor
  · intro h
    obtain ⟨hfirst, hnodup⟩ := List.nodup_cons.1 h.nodup
    have hroom := h.room
    rw [List.length_cons] at hroom
    refine ⟨fits_singleton.2 ⟨h.new task List.mem_cons_self, by omega⟩, hnodup, ?_, ?_⟩
    · intro other hother hmem
      obtain heq | hmem := (hactive _).1 hmem
      · exact hfirst (heq ▸ List.mem_map_of_mem hother)
      · exact h.new other (List.mem_cons_of_mem _ hother) hmem
    · rw [hsize, List.length_singleton]
      change q.sizeLocked + 1 + tasks.length ≤ q.capacity
      omega
  · rintro ⟨hone, hrest⟩
    have hroom := hrest.room
    rw [hsize, List.length_singleton] at hroom
    change q.sizeLocked + 1 + tasks.length ≤ q.capacity at hroom
    refine ⟨?_, ?_, ?_⟩
    · rw [List.map_cons, List.nodup_cons]
      refine ⟨fun hmem => ?_, hrest.nodup⟩
      obtain ⟨other, hother, heq⟩ := List.mem_map.1 hmem
      exact hrest.new other hother ((hactive _).2 (.inl heq))
    · intro other hother
      obtain rfl | hother := List.mem_cons.1 hother
      · exact (fits_singleton.1 hone).1
      · exact fun hmem => hrest.new other hother ((hactive _).2 (.inr hmem))
    · rw [List.length_cons]
      omega

theorem tryEnqueue_spec (q : ReadyQueue τ) (task : τ) :
    ((q.tryEnqueue task false).1.accepted = true ↔ q.Fits [task]) ∧
      (q.Fits [task] → (q.tryEnqueue task false).2 = q.append [task]) := by
  rw [fits_singleton]
  unfold tryEnqueue
  by_cases hactive : taskId task ∈ q.activeTaskIds
  · rw [if_pos hactive]
    exact ⟨⟨nofun, fun h => absurd hactive h.1⟩, fun h => absurd hactive h.1⟩
  rw [if_neg hactive]
  by_cases hfull : q.capacity ≤ q.sizeLocked
  · rw [if_pos hfull]
    have hno : ¬ q.sizeLocked < q.capacity := Nat.not_lt_of_le hfull
    exact ⟨⟨nofun, fun h => absurd h.2 hno⟩, fun h => absurd h.2 hno⟩
  rw [if_neg hfull]
  refine ⟨⟨fun _ => ⟨hactive, Nat.lt_of_not_le hfull⟩, fun _ => rfl⟩, fun _ => ?_⟩
  simp [append]

/-- A batch is accepted exactly when it has a place; refused, it changes nothing. -/
theorem tryEnqueueMany_spec (q : ReadyQueue τ) (tasks : List τ) :
    ((q.tryEnqueueMany tasks).1.accepted = true ↔ q.Fits tasks) ∧
      (q.Fits tasks → (q.tryEnqueueMany tasks).2 = q.append tasks) ∧
      (¬ q.Fits tasks → (q.tryEnqueueMany tasks).2 = q) := by
  unfold tryEnqueueMany
  dsimp only
  by_cases hnodup : (tasks.map taskId).Nodup
  swap
  · rw [if_pos hnodup]
    have hno : ¬ q.Fits tasks := fun h => hnodup h.nodup
    exact ⟨⟨nofun, fun h => absurd h hno⟩, fun h => absurd h hno, fun _ => rfl⟩
  rw [if_neg (not_not.2 hnodup)]
  by_cases hany : (tasks.map taskId).any (· ∈ q.activeTaskIds) = true
  · rw [if_pos hany]
    have hno : ¬ q.Fits tasks := by
      intro h
      obtain ⟨t, ht, hmem⟩ := List.any_eq_true.1 hany
      obtain ⟨task, htask, rfl⟩ := List.mem_map.1 ht
      exact h.new task htask (of_decide_eq_true hmem)
    exact ⟨⟨nofun, fun h => absurd h hno⟩, fun h => absurd h hno, fun _ => rfl⟩
  rw [if_neg hany]
  by_cases hfull : q.capacity < q.sizeLocked + tasks.length
  · rw [if_pos hfull]
    have hno : ¬ q.Fits tasks := fun h => absurd h.room (Nat.not_le_of_lt hfull)
    exact ⟨⟨nofun, fun h => absurd h hno⟩, fun h => absurd h hno, fun _ => rfl⟩
  rw [if_neg hfull]
  have hfits : q.Fits tasks := by
    refine ⟨hnodup, ?_, Nat.le_of_not_lt hfull⟩
    simpa using hany
  exact ⟨⟨fun _ => hfits, fun _ => rfl⟩, fun _ => rfl, fun h => absurd hfits h⟩

theorem enqueueEach_spec (tasks : List τ) {q : ReadyQueue τ} (hsize : q.sizeLocked ≤ q.capacity) :
    (q.AcceptsEach tasks ↔ q.Fits tasks) ∧
      (q.Fits tasks → (q.enqueueEach tasks).2 = q.append tasks) := by
  induction tasks generalizing q with
  | nil =>
      have hfits : q.Fits [] := ⟨List.nodup_nil, fun _ h => absurd h List.not_mem_nil, hsize⟩
      exact ⟨⟨fun _ => hfits, fun _ _ h => absurd h List.not_mem_nil⟩,
        fun _ => (append_nil q).symm⟩
  | cons task tasks ih =>
      obtain ⟨haccepted, hstate⟩ := tryEnqueue_spec q task
      have hlater : q.Fits [task] → ((q.append [task]).AcceptsEach tasks ↔
            (q.append [task]).Fits tasks) ∧
          ((q.append [task]).Fits tasks →
            ((q.append [task]).enqueueEach tasks).2 = (q.append [task]).append tasks) := by
        intro hone
        refine ih ?_
        rw [sizeLocked_append]
        exact hone.room
      rw [fits_cons, acceptsEach_cons, enqueueEach_cons, haccepted]
      refine ⟨and_congr_right fun hone => ?_, fun ⟨hone, hrest⟩ => ?_⟩
      · rw [hstate hone]
        exact (hlater hone).1
      · rw [hstate hone, append_cons q task tasks]
        exact (hlater hone).2 hrest

/-- **Batches.** A queue in order accepts a list at once if and only if it accepts its tasks
one after another, and ends in the same state; otherwise the batch changes nothing. -/
theorem tryEnqueueMany_iff_each (h : q.WellFormed) (tasks : List τ) :
    ((q.tryEnqueueMany tasks).1.accepted = true ↔ q.AcceptsEach tasks) ∧
      ((q.tryEnqueueMany tasks).1.accepted = true →
        (q.tryEnqueueMany tasks).2 = (q.enqueueEach tasks).2) ∧
      ((q.tryEnqueueMany tasks).1.accepted = false → (q.tryEnqueueMany tasks).2 = q) := by
  obtain ⟨hmany, hadded, hrefused⟩ := tryEnqueueMany_spec q tasks
  obtain ⟨heach, hsame⟩ := enqueueEach_spec tasks h.size_le
  refine ⟨hmany.trans heach.symm, fun haccepted => ?_, fun hno => ?_⟩
  · have hfits := hmany.1 haccepted
    rw [hadded hfits, hsame hfits]
  · refine hrefused fun hfits => ?_
    rw [hmany.2 hfits] at hno
    cases hno

end Batches

/-- A queue of capacity two takes a batch of two tasks, and refuses one of three and one that
names a task twice. -/
theorem tryEnqueueMany_iff_each_two :
    ∃ (q : ReadyQueue Task) (a b c : Task), init 2 = .ok q ∧
      q.AcceptsEach [a, b] ∧ (q.tryEnqueueMany [a, b]).2 = (q.enqueueEach [a, b]).2 ∧
      ¬ q.AcceptsEach [a, b, c] ∧ (q.tryEnqueueMany [a, b, c]).2 = q ∧
      ¬ q.AcceptsEach [a, a] ∧ (q.tryEnqueueMany [a, a]).2 = q := by
  obtain ⟨q, hinit⟩ : ∃ q : ReadyQueue Task, init 2 = .ok q := ⟨_, rfl⟩
  have h := (wellFormed_init hinit).1
  cases hinit
  let a : Task := { taskId := "a", key := "0000", value := 1 }
  let b : Task := { taskId := "b", key := "0001", value := 1 }
  let c : Task := { taskId := "c", key := "0002", value := 1 }
  obtain ⟨htwo, hsame, _⟩ := tryEnqueueMany_iff_each h [a, b]
  obtain ⟨hthree, _, hfull⟩ := tryEnqueueMany_iff_each h [a, b, c]
  obtain ⟨htwice, _, hduplicate⟩ := tryEnqueueMany_iff_each h [a, a]
  exact ⟨_, a, b, c, rfl, htwo.1 rfl, hsame rfl, mt hthree.2 (by decide), hfull rfl,
    mt htwice.2 (by decide), hduplicate rfl⟩

end ReadyQueue

end KVStore
