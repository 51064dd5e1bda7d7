import KVStore.Common.Models
import KVStore.Library.Digits

/-!
# Task generation

`generateTasks` is `generate_tasks` of the Master. The random source is a
parameter: `sample` and `randint` may answer anything that `random.sample` and
`random.randint` document, which is what the fields of `RandomSource` say. Task
ids and keys are numerals with at least four digits, so distinct indices and
distinct sampled numbers give distinct ids and distinct keys.
-/

namespace KVStore

open Digits

/-- The random source of the Master: `sample population count` is
`random.sample(range(population), count)` and `randint i` is the `i`-th draw of
`random.randint(1, 100)`. -/
structure RandomSource where
  sample : ℕ → ℕ → List ℕ
  randint : ℕ → ℤ
  length_sample : ∀ population count, count ≤ population →
    (sample population count).length = count
  lt_of_mem_sample : ∀ population count, ∀ key ∈ sample population count,
    key < population
  nodup_sample : ∀ population count, (sample population count).Nodup
  randint_mem : ∀ i, 1 ≤ randint i ∧ randint i ≤ 100

/-- A source that samples the first numbers and always draws seven. -/
def RandomSource.first : RandomSource where
  sample population count := (List.range count).filter (· < population)
  randint _ := 7
  length_sample := by
    intro population count h
    rw [List.filter_eq_self.2, List.length_range]
    intro key hkey
    exact decide_eq_true (Nat.lt_of_lt_of_le (List.mem_range.1 hkey) h)
  lt_of_mem_sample := by
    intro population count key hkey
    exact of_decide_eq_true (List.mem_filter.1 hkey).2
  nodup_sample := fun _ _ => List.nodup_range.filter _
  randint_mem := fun _ => by decide

/-- `f"task-{index:04d}"`. -/
def formatTaskId (index : ℕ) : TaskId :=
  String.ofList (['t', 'a', 's', 'k', '-'] ++ zeroPad 10 4 index)

/-- `f"{key:04x}"`. -/
def formatKey (key : ℕ) : String := String.ofList (zeroPad 16 4 key)

/-- The arguments `generate_tasks` gives to the constructor of one task. -/
def rawTask (rng : RandomSource) (index key : ℕ) : Task where
  taskId := formatTaskId index
  key := formatKey key
  value := rng.randint index

def generateTasks (count : ℕ) (rng : RandomSource) : Except String (List Task) :=
  if ¬ (1 ≤ count ∧ count ≤ 65536) then
    .error "작업 수는 1개 이상 65536개 이하여야 합니다"
  else
    let keys := rng.sample 65536 count
    (keys.zipIdx 1).mapM fun e => (rawTask rng e.2 e.1).postInit

theorem formatTaskId_injective : Function.Injective formatTaskId := by
  intro m n h
  have hlist := List.append_cancel_left (String.ofList_injective h)
  exact zeroPad_injective (by decide) (by decide) 4 hlist

theorem formatKey_injective : Function.Injective formatKey := by
  intro m n h
  exact zeroPad_injective (by decide) (by decide) 4 (String.ofList_injective h)

theorem formatTaskId_ne_empty (index : ℕ) : formatTaskId index ≠ "" := by
  intro h
  have hlist := congrArg String.toList h
  rw [formatTaskId, String.toList_ofList] at hlist
  exact absurd hlist (by simp)

theorem mem_hexDigits_digitChar {d : ℕ} (hd : d < 16) :
    Nat.digitChar d ∈ Task.hexDigits ∧ (Nat.digitChar d).toLower = Nat.digitChar d := by
  interval_cases d <;> decide

theorem lower_formatKey (key : ℕ) : Task.lower (formatKey key) = formatKey key := by
  have hmap : (zeroPad 16 4 key).map Char.toLower = zeroPad 16 4 key := by
    refine (List.map_congr_left (g := id) ?_).trans (List.map_id _)
    intro c hc
    obtain ⟨d, hd, rfl⟩ := mem_zeroPad (by decide) hc
    exact (mem_hexDigits_digitChar hd).2
  simp [Task.lower, formatKey, hmap]

theorem postInit_rawTask (rng : RandomSource) (index : ℕ) {key : ℕ}
    (hkey : key < 65536) :
    (rawTask rng index key).postInit = .ok (rawTask rng index key) := by
  have hlow := lower_formatKey key
  have hlen : (zeroPad 16 4 key).length = 4 :=
    length_zeroPad (by decide) (by decide) hkey
  have hhex : ¬ ∃ c ∈ zeroPad 16 4 key, c ∉ Task.hexDigits := by
    rintro ⟨c, hc, hnot⟩
    obtain ⟨d, hd, rfl⟩ := mem_zeroPad (by decide) hc
    exact hnot (mem_hexDigits_digitChar hd).1
  have hkeyOk : ¬ ((formatKey key).toList.length ≠ 4 ∨
      (formatKey key).toList.any (fun c => c ∉ Task.hexDigits) = true) := by
    simpa [formatKey, hlen] using hhex
  simp only [Task.postInit, rawTask, hlow]
  rw [if_neg (formatTaskId_ne_empty index), if_neg hkeyOk,
    if_neg (not_not.2 (rng.randint_mem index)), if_neg (by decide),
    if_neg (by decide)]

theorem mapM_eq_ok {ε α β : Type*} {f : α → Except ε β} {g : α → β} {l : List α}
    (h : ∀ a ∈ l, f a = .ok (g a)) : l.mapM f = .ok (l.map g) := by
  induction l with
  | nil => rfl
  | cons a l ih =>
      have hrest := ih fun b hb => h b (List.mem_cons_of_mem a hb)
      rw [List.mapM_cons, h a (by simp), hrest]
      rfl

/-- The tasks that the Master generates for an admitted count. -/
def generated (count : ℕ) (rng : RandomSource) : List Task :=
  ((rng.sample 65536 count).zipIdx 1).map fun e => rawTask rng e.2 e.1

/-- For an admitted count generation never fails; for any other count it does. -/
theorem generateTasks_eq_ok_iff {count : ℕ} {rng : RandomSource}
    {tasks : List Task} :
    generateTasks count rng = .ok tasks ↔
      (1 ≤ count ∧ count ≤ 65536) ∧ tasks = generated count rng := by
  unfold generateTasks
  by_cases hcount : 1 ≤ count ∧ count ≤ 65536
  · rw [if_neg (not_not.2 hcount)]
    have hall : ∀ e ∈ (rng.sample 65536 count).zipIdx 1,
        (rawTask rng e.2 e.1).postInit = .ok (rawTask rng e.2 e.1) := by
      intro e he
      have hkey : e.1 ∈ rng.sample 65536 count := List.fst_mem_of_mem_zipIdx he
      exact postInit_rawTask rng e.2 (rng.lt_of_mem_sample _ _ _ hkey)
    simp only [mapM_eq_ok hall, Except.ok.injEq, hcount, true_and, generated]
    exact eq_comm
  · simp [hcount]

theorem length_generated {count : ℕ} (rng : RandomSource)
    (hcount : count ≤ 65536) : (generated count rng).length = count := by
  rw [generated, List.length_map, List.length_zipIdx,
    rng.length_sample _ _ hcount]

theorem nodup_map_taskId_generated (count : ℕ) (rng : RandomSource) :
    ((generated count rng).map Task.taskId).Nodup := by
  have hids : (generated count rng).map Task.taskId =
      (((rng.sample 65536 count).zipIdx 1).map Prod.snd).map formatTaskId := by
    rw [generated, List.map_map, List.map_map]
    rfl
  rw [hids, List.zipIdx_map_snd]
  exact List.Nodup.map formatTaskId_injective List.nodup_range'

theorem nodup_map_key_generated (count : ℕ) (rng : RandomSource) :
    ((generated count rng).map Task.key).Nodup := by
  have hkeys : (generated count rng).map Task.key =
      (((rng.sample 65536 count).zipIdx 1).map Prod.fst).map formatKey := by
    rw [generated, List.map_map, List.map_map]
    rfl
  rw [hkeys, List.zipIdx_map_fst]
  exact List.Nodup.map formatKey_injective (rng.nodup_sample 65536 count)

theorem postInit_of_mem_generated {count : ℕ} {rng : RandomSource} {task : Task}
    (h : task ∈ generated count rng) : task.postInit = .ok task := by
  obtain ⟨e, he, rfl⟩ := List.mem_map.1 h
  exact postInit_rawTask rng e.2 (rng.lt_of_mem_sample _ _ _ (List.fst_mem_of_mem_zipIdx he))

theorem previousWorkerId_of_mem_generated {count : ℕ} {rng : RandomSource}
    {task : Task} (h : task ∈ generated count rng) :
    task.previousWorkerId = none := by
  obtain ⟨e, _, rfl⟩ := List.mem_map.1 h
  rfl

theorem attempt_of_mem_generated {count : ℕ} {rng : RandomSource} {task : Task}
    (h : task ∈ generated count rng) : task.attempt = 0 := by
  obtain ⟨e, _, rfl⟩ := List.mem_map.1 h
  rfl

end KVStore
