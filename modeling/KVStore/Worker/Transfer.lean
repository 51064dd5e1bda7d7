import KVStore.Worker.QueueInvariant

/-!
# What a transfer does to the sender's queue

`reserveAll`, `releaseAll` and `confirmAll` are the loops of `balance_once` over the
candidates and over the reserved tasks. The candidates are the ends of the two deques;
reserving cuts them off, confirming forgets them, and releasing puts them back at the heads
of their deques, one after the other.
-/

namespace KVStore

open HasTaskId

namespace ReadyQueue

variable {τ : Type*} [HasTaskId τ]

def reserveAll [DecidableEq τ] (q : ReadyQueue τ) : List TaskId → List τ × ReadyQueue τ
  | [] => ([], q)
  | t :: rest =>
      let (selected, q) := q.reserveForTransfer t
      let (reserved, q) := q.reserveAll rest
      (selected.toList ++ reserved, q)

def releaseAll (q : ReadyQueue τ) (taskIds : List TaskId) : ReadyQueue τ :=
  taskIds.foldl (fun q t => (q.releaseReservation t).2) q

def confirmAll (q : ReadyQueue τ) (taskIds : List TaskId) : ReadyQueue τ :=
  taskIds.foldl (fun q t => (q.confirmRemoved t).2) q

/-- The candidates are reserved, and all of them are released. -/
def failedTransfer [DecidableEq τ] (q : ReadyQueue τ) (count : ℤ) :
    Except String (ReadyQueue τ) :=
  (q.peekTransferCandidates count).map fun candidates =>
    let (reserved, q) := q.reserveAll (candidates.map taskId)
    q.releaseAll (reserved.map taskId)

/-! ### The candidates -/

def normalCandidates (q : ReadyQueue τ) (count : ℤ) : List τ := lastMany count.toNat q.normal

/-- The candidates from the priority deque, which make up for missing normal tasks. -/
def priorityCandidates (q : ReadyQueue τ) (count : ℤ) : List τ :=
  lastMany (count.toNat - q.normal.length) q.priority

/-- The entries under which tasks of a class are reserved. -/
def entriesOf (priority : Bool) (tasks : List τ) : List (TaskId × τ × Bool) :=
  tasks.map fun task => (taskId task, task, priority)

def ofClass (priority : Bool) (entries : List (TaskId × τ × Bool)) : List τ :=
  entries.filterMap fun e => if e.2.2 = priority then some e.2.1 else none

def candidateEntries (q : ReadyQueue τ) (count : ℤ) : List (TaskId × τ × Bool) :=
  entriesOf false (q.normalCandidates count) ++ entriesOf true (q.priorityCandidates count)

def setAside (q : ReadyQueue τ) (count : ℤ) : ReadyQueue τ :=
  { q with
    normal := q.normal.take (q.normal.length - count.toNat)
    priority := q.priority.take (q.priority.length - (count.toNat - q.normal.length))
    reserved := Dict.insertAll q.reserved (q.candidateEntries count) }

section

variable {q : ReadyQueue τ} {count : ℤ}

omit [HasTaskId τ] in
theorem length_lastMany (n : ℕ) (xs : List τ) : (lastMany n xs).length = min n xs.length := by
  rw [lastMany, List.length_drop]
  omega

omit [HasTaskId τ] in
theorem take_append_lastMany (n : ℕ) (xs : List τ) :
    xs.take (xs.length - n) ++ lastMany n xs = xs := List.take_append_drop _ _

omit [HasTaskId τ] in
theorem peekTransferCandidates_eq (h : 0 < count) :
    q.peekTransferCandidates count =
      .ok (q.normalCandidates count ++ q.priorityCandidates count) := by
  have hlength := length_lastMany count.toNat q.normal
  unfold peekTransferCandidates normalCandidates priorityCandidates
  rw [if_neg h.not_ge]
  dsimp only
  split_ifs with hshort
  · rw [hlength, min_eq_right (by omega)]
  · have hnone : count.toNat - q.normal.length = 0 := by omega
    have hnil : lastMany 0 q.priority = [] := List.drop_length
    rw [hnone, hnil, List.append_nil]

omit [HasTaskId τ] in
theorem peekTransferCandidates_eq_ok_iff {candidates : List τ} :
    q.peekTransferCandidates count = .ok candidates ↔
      0 < count ∧ candidates = q.normalCandidates count ++ q.priorityCandidates count := by
  by_cases h : 0 < count
  · rw [peekTransferCandidates_eq h, Except.ok.injEq]
    exact ⟨fun heq => ⟨h, heq.symm⟩, fun heq => heq.2.symm⟩
  · refine iff_of_false ?_ fun heq => h heq.1
    rw [peekTransferCandidates, if_pos (not_lt.1 h)]
    simp

theorem map_fst_entriesOf (priority : Bool) (tasks : List τ) :
    (entriesOf priority tasks).map Prod.fst = tasks.map taskId := by
  rw [entriesOf, List.map_map]
  rfl

theorem ofClass_entriesOf (priority p : Bool) (tasks : List τ) :
    ofClass priority (entriesOf p tasks) = if p = priority then tasks else [] := by
  rw [ofClass, entriesOf, List.filterMap_map]
  split_ifs with h
  · simp [h]
  · simp [h]

theorem map_fst_candidateEntries : (q.candidateEntries count).map Prod.fst =
    (q.normalCandidates count ++ q.priorityCandidates count).map taskId := by
  rw [candidateEntries, List.map_append, map_fst_entriesOf, map_fst_entriesOf, List.map_append]

theorem ofClass_false_candidateEntries :
    ofClass false (q.candidateEntries count) = q.normalCandidates count := by
  rw [candidateEntries, ofClass, List.filterMap_append]
  have hnormal := ofClass_entriesOf false false (q.normalCandidates count)
  have hpriority := ofClass_entriesOf false true (q.priorityCandidates count)
  rw [ofClass] at hnormal hpriority
  rw [hnormal, hpriority]
  exact List.append_nil _

theorem ofClass_true_candidateEntries :
    ofClass true (q.candidateEntries count) = q.priorityCandidates count := by
  rw [candidateEntries, ofClass, List.filterMap_append]
  have hnormal := ofClass_entriesOf true false (q.normalCandidates count)
  have hpriority := ofClass_entriesOf true true (q.priorityCandidates count)
  rw [ofClass] at hnormal hpriority
  rw [hnormal, hpriority]
  rfl

omit [HasTaskId τ] in
theorem take_of_lastMany_eq_nil {n : ℕ} {xs : List τ} (h : lastMany n xs = []) :
    xs.take (xs.length - n) = xs := by
  have happend := take_append_lastMany n xs
  rwa [h, List.append_nil] at happend

theorem setAside_of_eq_nil (h : q.normalCandidates count ++ q.priorityCandidates count = []) :
    q.setAside count = q := by
  obtain ⟨hnormal, hpriority⟩ := List.append_eq_nil_iff.1 h
  rw [setAside, candidateEntries, hnormal, hpriority, take_of_lastMany_eq_nil hnormal,
    take_of_lastMany_eq_nil hpriority]
  rfl

theorem WellFormed.candidates (h : q.WellFormed) (count : ℤ) :
    ((q.candidateEntries count).map Prod.fst).Nodup ∧
      ∀ t ∈ (q.candidateEntries count).map Prod.fst, t ∉ q.reserved := by
  have hsub : ((q.candidateEntries count).map Prod.fst).Sublist
      (q.normal.map taskId ++ q.priority.map taskId) := by
    rw [map_fst_candidateEntries, List.map_append]
    exact ((List.drop_sublist _ _).map _).append ((List.drop_sublist _ _).map _)
  refine ⟨hsub.nodup h.nodup_deques, fun t ht => ?_⟩
  rcases List.mem_append.1 (hsub.subset ht) with hmem | hmem
  · obtain ⟨task, htask, rfl⟩ := List.mem_map.1 hmem
    exact h.notMem_reserved (.inl htask)
  · obtain ⟨task, htask, rfl⟩ := List.mem_map.1 hmem
    exact h.notMem_reserved (.inr htask)

end

/-! ### Reserving -/

section

variable [DecidableEq τ] {q : ReadyQueue τ} {before after : List τ} {task : τ}

theorem find_middle (h : ((before ++ task :: after).map taskId).Nodup) :
    (before ++ task :: after).find? (taskId · = taskId task) = some task ∧
      (before ++ task :: after).erase task = before ++ after := by
  rw [List.map_append, List.map_cons] at h
  have hnot : ∀ other ∈ before, taskId other ≠ taskId task := by
    intro other hother heq
    exact (List.nodup_append'.1 h).2.2 (List.mem_map_of_mem hother)
      (heq ▸ List.mem_cons_self)
  constructor
  · rw [List.find?_append, List.find?_eq_none.2 (fun other hother => by simp [hnot other hother])]
    simp
  · rw [List.erase_append_right _ fun hmem => hnot task hmem rfl, List.erase_cons_head]

theorem reserveForTransfer_normal (h : (q.normal.map taskId).Nodup)
    (hnormal : q.normal = before ++ task :: after) :
    q.reserveForTransfer (taskId task) = (some task, { q with
      normal := before ++ after
      reserved := q.reserved.insert (taskId task) (task, false) }) := by
  obtain ⟨hfind, herase⟩ := find_middle (hnormal ▸ h)
  unfold reserveForTransfer
  rw [hnormal, hfind]
  simp only [herase]

theorem reserveForTransfer_priority (hnot : taskId task ∉ q.normal.map taskId)
    (h : (q.priority.map taskId).Nodup) (hpriority : q.priority = before ++ task :: after) :
    q.reserveForTransfer (taskId task) = (some task, { q with
      priority := before ++ after
      reserved := q.reserved.insert (taskId task) (task, true) }) := by
  obtain ⟨hfind, herase⟩ := find_middle (hpriority ▸ h)
  have hnone : q.normal.find? (taskId · = taskId task) = none := by
    refine List.find?_eq_none.2 fun other hother => ?_
    rw [decide_eq_true_eq]
    exact fun heq => hnot (heq ▸ List.mem_map_of_mem hother)
  unfold reserveForTransfer
  rw [hnone, hpriority, hfind]
  simp only [herase]

theorem reserveAll_append (q : ReadyQueue τ) (ids more : List TaskId) :
    q.reserveAll (ids ++ more) =
      ((q.reserveAll ids).1 ++ ((q.reserveAll ids).2.reserveAll more).1,
        ((q.reserveAll ids).2.reserveAll more).2) := by
  induction ids generalizing q with
  | nil => rfl
  | cons t ids ih =>
      rw [List.cons_append, reserveAll, reserveAll]
      simp only [ih, List.append_assoc]

theorem reserveAll_normal {tasks : List τ} (h : (q.normal.map taskId).Nodup)
    (hnormal : q.normal = before ++ tasks) :
    q.reserveAll (tasks.map taskId) = (tasks, { q with
      normal := before
      reserved := Dict.insertAll q.reserved (entriesOf false tasks) }) := by
  induction tasks generalizing q with
  | nil =>
      rw [List.append_nil] at hnormal
      subst hnormal
      rfl
  | cons task tasks ih =>
      have hsub : ((before ++ tasks).map taskId).Nodup := by
        refine List.Sublist.nodup ?_ (hnormal ▸ h)
        exact (List.Sublist.append_left (List.sublist_cons_self task tasks) before).map _
      rw [List.map_cons, reserveAll, reserveForTransfer_normal h hnormal]
      dsimp only
      rw [ih hsub rfl]
      rfl

theorem reserveAll_priority {tasks : List τ}
    (hnot : ∀ task ∈ tasks, taskId task ∉ q.normal.map taskId)
    (h : (q.priority.map taskId).Nodup) (hpriority : q.priority = before ++ tasks) :
    q.reserveAll (tasks.map taskId) = (tasks, { q with
      priority := before
      reserved := Dict.insertAll q.reserved (entriesOf true tasks) }) := by
  induction tasks generalizing q with
  | nil =>
      rw [List.append_nil] at hpriority
      subst hpriority
      rfl
  | cons task tasks ih =>
      have hsub : ((before ++ tasks).map taskId).Nodup := by
        refine List.Sublist.nodup ?_ (hpriority ▸ h)
        exact (List.Sublist.append_left (List.sublist_cons_self task tasks) before).map _
      rw [List.map_cons, reserveAll,
        reserveForTransfer_priority (hnot task List.mem_cons_self) h hpriority]
      dsimp only
      have hothers : ∀ other ∈ tasks, taskId other ∉ q.normal.map taskId :=
        fun other hother => hnot other (List.mem_cons_of_mem task hother)
      rw [ih (q := { q with
        priority := before ++ tasks
        reserved := q.reserved.insert (taskId task) (task, true) }) hothers hsub rfl]
      rfl

theorem reserveAll_candidates (h : q.WellFormed) (count : ℤ) :
    q.reserveAll ((q.normalCandidates count ++ q.priorityCandidates count).map taskId) =
      (q.normalCandidates count ++ q.priorityCandidates count, q.setAside count) := by
  obtain ⟨hnormal, hpriority, hdisjoint⟩ := List.nodup_append'.1 h.nodup_deques
  have hfirst := reserveAll_normal hnormal (take_append_lastMany count.toNat q.normal).symm
  have hnot : ∀ task ∈ q.priorityCandidates count,
      taskId task ∉ (q.normal.take (q.normal.length - count.toNat)).map taskId := by
    intro task htask hmem
    exact hdisjoint (((List.take_sublist _ q.normal).map taskId).subset hmem)
      (List.mem_map_of_mem ((List.drop_sublist _ _).subset htask))
  have hsecond := reserveAll_priority
    (q := { q with
      normal := q.normal.take (q.normal.length - count.toNat)
      reserved := Dict.insertAll q.reserved (entriesOf false (q.normalCandidates count)) })
    hnot hpriority (take_append_lastMany _ q.priority).symm
  rw [List.map_append, reserveAll_append, normalCandidates, hfirst]
  dsimp only
  rw [← normalCandidates, hsecond, setAside, candidateEntries, Dict.insertAll_append]

end

/-! ### Releasing and confirming -/

section

variable {q : ReadyQueue τ} {d : Dict TaskId (τ × Bool)} {entries : List (TaskId × τ × Bool)}

omit [HasTaskId τ] in
theorem reserved_cons {t : TaskId} {e : τ × Bool} (hnot : t ∉ entries.map Prod.fst)
    (hfresh : t ∉ d) (hreserved : q.reserved = Dict.insertAll d ((t, e) :: entries)) :
    q.reserved.lookup t = some e ∧ q.reserved.erase t = Dict.insertAll d entries := by
  rw [hreserved]
  exact ⟨Dict.lookup_insertAll_cons hnot e d, Dict.erase_insertAll_cons hnot hfresh e⟩

omit [HasTaskId τ] in
/-- Each reserved task goes back to the head of its deque. -/
theorem releaseAll_eq (hnodup : (entries.map Prod.fst).Nodup)
    (hfresh : ∀ t ∈ entries.map Prod.fst, t ∉ d)
    (hreserved : q.reserved = Dict.insertAll d entries) :
    q.releaseAll (entries.map Prod.fst) = { q with
      normal := (ofClass false entries).reverse ++ q.normal
      priority := (ofClass true entries).reverse ++ q.priority
      reserved := d } := by
  induction entries generalizing q with
  | nil =>
      rw [Dict.insertAll_nil] at hreserved
      subst hreserved
      rfl
  | cons e entries ih =>
      obtain ⟨t, task, p⟩ := e
      rw [List.map_cons] at hnodup hfresh ⊢
      obtain ⟨hnot, hrest⟩ := List.nodup_cons.1 hnodup
      obtain ⟨hlookup, herase⟩ := reserved_cons hnot (hfresh t List.mem_cons_self) hreserved
      have hih := ih (q := (q.releaseReservation t).2) hrest
        (fun u hu => hfresh u (List.mem_cons_of_mem t hu))
        (by rw [releaseReservation, hlookup]; exact herase)
      rw [releaseAll] at hih ⊢
      rw [List.foldl_cons, hih, releaseReservation, hlookup]
      cases p <;> simp [ofClass]

omit [HasTaskId τ] in
theorem confirmAll_eq (hnodup : (entries.map Prod.fst).Nodup)
    (hfresh : ∀ t ∈ entries.map Prod.fst, t ∉ d)
    (hreserved : q.reserved = Dict.insertAll d entries) :
    q.confirmAll (entries.map Prod.fst) = { q with
      reserved := d
      activeTaskIds := q.activeTaskIds \ (entries.map Prod.fst).toFinset } := by
  induction entries generalizing q with
  | nil =>
      rw [Dict.insertAll_nil] at hreserved
      subst hreserved
      simp [confirmAll]
  | cons e entries ih =>
      obtain ⟨t, task, p⟩ := e
      rw [List.map_cons] at hnodup hfresh ⊢
      obtain ⟨hnot, hrest⟩ := List.nodup_cons.1 hnodup
      obtain ⟨hlookup, herase⟩ := reserved_cons hnot (hfresh t List.mem_cons_self) hreserved
      have hih := ih (q := (q.confirmRemoved t).2) hrest
        (fun u hu => hfresh u (List.mem_cons_of_mem t hu))
        (by rw [confirmRemoved, hlookup]; exact herase)
      rw [confirmAll] at hih ⊢
      rw [List.foldl_cons, hih, confirmRemoved, hlookup]
      simp only [List.toFinset_cons, Finset.sdiff_insert, Finset.erase_sdiff_comm]

end

/-! ### The queue while the candidates are reserved -/

section

variable {q : ReadyQueue τ} {count : ℤ} {task : τ}

theorem releaseAll_setAside (h : q.WellFormed) (count : ℤ) :
    (q.setAside count).releaseAll
        ((q.normalCandidates count ++ q.priorityCandidates count).map taskId) =
      { q with
        normal := (q.normalCandidates count).reverse ++
          q.normal.take (q.normal.length - count.toNat)
        priority := (q.priorityCandidates count).reverse ++
          q.priority.take (q.priority.length - (count.toNat - q.normal.length)) } := by
  obtain ⟨hnodup, hfresh⟩ := h.candidates count
  have hrelease := releaseAll_eq (q := q.setAside count) hnodup hfresh rfl
  rw [map_fst_candidateEntries, ofClass_false_candidateEntries, ofClass_true_candidateEntries]
    at hrelease
  exact hrelease

theorem confirmAll_setAside (h : q.WellFormed) (count : ℤ) :
    (q.setAside count).confirmAll
        ((q.normalCandidates count ++ q.priorityCandidates count).map taskId) =
      { q.setAside count with
        reserved := q.reserved
        activeTaskIds := q.activeTaskIds \
          ((q.normalCandidates count ++ q.priorityCandidates count).map taskId).toFinset } := by
  obtain ⟨hnodup, hfresh⟩ := h.candidates count
  have hconfirm := confirmAll_eq (q := q.setAside count) hnodup hfresh rfl
  rw [map_fst_candidateEntries] at hconfirm
  exact hconfirm

end

/-! ### A transfer that fails -/

section

variable [DecidableEq τ] {q q' : ReadyQueue τ} {count : ℤ}

theorem failedTransfer_eq (h : q.WellFormed) (hcount : 0 < count) :
    q.failedTransfer count = .ok { q with
      normal := (q.normalCandidates count).reverse ++
        q.normal.take (q.normal.length - count.toNat)
      priority := (q.priorityCandidates count).reverse ++
        q.priority.take (q.priority.length - (count.toNat - q.normal.length)) } := by
  rw [failedTransfer, peekTransferCandidates_eq hcount, Except.map]
  simp only [reserveAll_candidates h, releaseAll_setAside h]

omit [HasTaskId τ] [DecidableEq τ] in
/-- Putting the end of a list in front of it, reversed, leaves the list as it was only if
nothing is moved or there is nothing to reorder. -/
theorem reverse_lastMany_append_iff {xs : List τ} (hnodup : xs.Nodup) (n : ℕ) :
    (lastMany n xs).reverse ++ xs.take (xs.length - n) = xs ↔ n = 0 ∨ xs.length ≤ 1 := by
  constructor
  · intro heq
    by_contra hnot
    rw [not_or, not_le] at hnot
    obtain ⟨hn, hlength⟩ := hnot
    have hhead := congrArg List.head? heq
    have hlast : (lastMany n xs).reverse.head? = xs.getLast? := by
      rw [List.head?_reverse, lastMany, List.getLast?_drop, if_neg (by omega)]
    match xs with
    | a :: b :: rest =>
        rw [List.head?_append, hlast, List.getLast?_cons_cons, List.head?_cons,
          List.getLast?_eq_some_getLast (List.cons_ne_nil b rest), Option.some_or,
          Option.some.injEq] at hhead
        exact (List.nodup_cons.1 hnodup).1 (hhead ▸ List.getLast_mem _)
  · rintro (rfl | hlength)
    · simp [lastMany]
    · match xs with
      | [] => simp [lastMany]
      | [a] => cases n <;> simp [lastMany]

/-- **A failed transfer.** It leaves the two deques as they were if and only if at most one
normal task waits and no priority task is moved past another one. -/
theorem failedTransfer_unchanged_iff (h : q.WellFormed)
    (hfailed : q.failedTransfer count = .ok q') :
    (q'.normal = q.normal ∧ q'.priority = q.priority) ↔
      q.normal.length ≤ 1 ∧ (count ≤ q.normal.length ∨ q.priority.length ≤ 1) := by
  have hcount : 0 < count := by
    by_contra hnot
    rw [failedTransfer, peekTransferCandidates, if_pos (not_lt.1 hnot)] at hfailed
    cases hfailed
  rw [failedTransfer_eq h hcount] at hfailed
  cases hfailed
  obtain ⟨hnormal, hpriority, _⟩ := List.nodup_append'.1 h.nodup_deques
  have hnormal' := reverse_lastMany_append_iff hnormal.of_map count.toNat
  have hpriority' := reverse_lastMany_append_iff hpriority.of_map
    (count.toNat - q.normal.length)
  dsimp only [normalCandidates, priorityCandidates]
  rw [hnormal', hpriority']
  omega

end

/-- Eight normal tasks arrive. -/
def eightTasks : List (Call Task) :=
  ["a", "b", "c", "d", "e", "f", "g", "h"].map fun t =>
    .tryEnqueue { taskId := t, key := "0000", value := 1 } false

/-- The transfer of two of the eight tasks fails, and the newest two are now processed
first. -/
theorem not_failedTransfer_unchanged_eight :
    ∃ q₀ q q' : ReadyQueue Task, init 10 = .ok q₀ ∧
      Transition.run step q₀ eightTasks = some q ∧ q.failedTransfer 2 = .ok q' ∧
      q.normal.map taskId = ["a", "b", "c", "d", "e", "f", "g", "h"] ∧
      q'.normal.map taskId = ["h", "g", "a", "b", "c", "d", "e", "f"] :=
  ⟨_, _, _, rfl, rfl, rfl, rfl, rfl⟩

theorem failedTransfer_unchanged_iff_eight :
    ∃ q₀ q q' : ReadyQueue Task, init 10 = .ok q₀ ∧
      Transition.run step q₀ eightTasks = some q ∧ q.failedTransfer 2 = .ok q' ∧
      ((q'.normal = q.normal ∧ q'.priority = q.priority) ↔
        q.normal.length ≤ 1 ∧ ((2 : ℤ) ≤ q.normal.length ∨ q.priority.length ≤ 1)) := by
  obtain ⟨q₀, hinit⟩ : ∃ q₀ : ReadyQueue Task, init 10 = .ok q₀ := ⟨_, rfl⟩
  obtain ⟨q, hrun⟩ : ∃ q, Transition.run step q₀ eightTasks = some q := ⟨_, rfl⟩
  have h := wellFormed_run (wellFormed_init hinit).1 hrun
  have hfailed := failedTransfer_eq h (show (0 : ℤ) < 2 by decide)
  exact ⟨q₀, q, _, hinit, hrun, hfailed, failedTransfer_unchanged_iff h hfailed⟩

end ReadyQueue

end KVStore
