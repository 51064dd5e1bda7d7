import KVStore.Worker.Launcher
import Mathlib.Algebra.BigOperators.Group.Finset.Basic
import Mathlib.Algebra.Order.BigOperators.Group.Finset

/-!
# The end of the launcher after an error

A worker that was told to stop, and has no receiver running, has only so many steps to go. So has
`run_workers` once an error has stopped all four workers: what is left of each worker, of its
service and of the thread that runs it adds up to at most 52, and every step towards the end
lowers this sum.
-/

namespace KVStore

open Python

/-! ### The rest of a worker -/

namespace WorkerRuntime

section

variable {b : Builtins} {json : Json} {s s' : WorkerRuntime} {log : List LogEntry}
  {event : Event}

/-- `_shutdown` is set before the threads were started, and they will not be. -/
structure Unstarted (s : WorkerRuntime) : Prop where
  shutdown : s.shutdown = true
  receiver : s.receiver = .notStarted
  processor : s.processor = .notStarted
  main : s.main = .connecting ∨ s.main = .ended

/-- The worker was told to stop, and its receiver is not running. -/
def Halting (s : WorkerRuntime) : Prop := s.Ending ∨ s.Unstarted

theorem Story.halting (h : s.Story log) (hshutdown : s.shutdown = true)
    (hreceiver : s.receiver ≠ .receiving) : s.Halting := by
  cases hnow : s.receiver with
  | receiving => exact absurd hnow hreceiver
  | ended => exact .inl (h.ending hshutdown hnow)
  | notStarted =>
      refine .inr ?_
      cases h with
      | connecting main _ processor => exact ⟨hshutdown, hnow, processor, .inl main⟩
      | gaveUp main _ processor => exact ⟨hshutdown, hnow, processor, .inr main⟩
      | joiningReceiver _ receiver => exact absurd hnow receiver
      | joiningProcessor _ receiver => exact absurd (hnow.symm.trans receiver) nofun
      | ended _ receiver => exact absurd (hnow.symm.trans receiver) nofun

theorem Unstarted.left_le (h : s.Unstarted) : s.left ≤ 3 := by
  rw [left, h.processor]
  rcases h.main with hmain | hmain
  · rw [hmain]
    decide
  · rw [hmain]
    decide

theorem Halting.left_le (h : s.Halting) : s.left ≤ 6 := by
  rcases h with hending | hunstarted
  · exact hending.left_le
  · exact hunstarted.left_le.trans (by decide)

theorem Halting.unstarted (h : s.Halting) (hreceiver : s.receiver = .notStarted) :
    s.Unstarted := by
  rcases h with hending | hunstarted
  · exact absurd (hreceiver.symm.trans hending.receiver) nofun
  · exact hunstarted

theorem Halting.step (h : s.Halting) (hstep : s.step b json event = some s') :
    s'.Halting ∧ (if event.inRun = true then 1 else 0) + s'.left ≤ s.left := by
  obtain ⟨entries, hadvanced⟩ : ∃ entries, s.Advanced b json s' event entries :=
    ⟨_, advanced_of_step hstep⟩
  rcases h with hending | hunstarted
  · have huses := hending.uses hadvanced
    exact ⟨.inl huses.ending, huses.left⟩
  have hshutdown := shutdown_of_step hstep hunstarted.shutdown
  have hsame : s'.main = s.main → s'.receiver = s.receiver → s'.processor = s.processor →
      event.inRun = false →
      s'.Halting ∧ (if event.inRun = true then 1 else 0) + s'.left ≤ s.left := by
    intro hmain hreceiver hprocessor hevent
    refine ⟨.inr ⟨hshutdown, hreceiver.trans hunstarted.receiver,
      hprocessor.trans hunstarted.processor, hmain ▸ hunstarted.main⟩, ?_⟩
    rw [hevent, if_neg Bool.false_ne_true, left, left, hmain, hprocessor, Nat.zero_add]
  have hmain : ∀ {p : MainThread}, p = .joiningReceiver ∨ p = .joiningProcessor → s.main ≠ p := by
    intro p hp hmain
    rcases hunstarted.main with hother | hother <;> rw [hmain] at hother <;>
      rcases hp with rfl | rfl <;> cases hother
  have hreceiver : s.receiver ≠ .receiving := by
    rw [hunstarted.receiver]
    rintro ⟨⟩
  cases hadvanced with
  | aside inRun same => exact hsame same.main same.receiver same.processor inRun
  | stopped state => exact hsame (by rw [state]; rfl) (by rw [state]; rfl) (by rw [state]; rfl) rfl
  | received receiving => exact absurd receiving hreceiver
  | told _ receiving => exact absurd receiving hreceiver
  | processed running => exact absurd hunstarted.processor running.1
  | registered connecting main =>
      rw [WorkerRuntime.step, perform, proceed, connecting] at hstep
      have hstate := Option.some.inj hstep
      rw [← hstate] at main
      exact absurd (shutdown_of_joiningReceiver main) (ne_false_of_eq_true hunstarted.shutdown)
  | gaveUp connecting main receiver processor =>
      refine ⟨.inr ⟨hshutdown, receiver.trans hunstarted.receiver,
        processor.trans hunstarted.processor, .inr main⟩, ?_⟩
      rw [left, left, connecting, main, processor, hunstarted.processor, Event.inRun, if_pos rfl]
      decide
  | joined joining => exact absurd joining (hmain (.inl rfl))
  | ended joining => exact absurd joining (hmain (.inr rfl))

theorem Halting.of_same (h : s.Halting) (hmain : s'.main = s.main)
    (hreceiver : s'.receiver = s.receiver) (hprocessor : s'.processor = s.processor)
    (hshutdown : s'.shutdown = true) : s'.Halting := by
  rcases h with hending | hunstarted
  · refine .inl ⟨hshutdown, hreceiver.trans hending.receiver, ?_, hprocessor ▸ hending.processor⟩
    rw [hmain, hprocessor]
    exact hending.main
  · exact .inr ⟨hshutdown, hreceiver.trans hunstarted.receiver,
      hprocessor.trans hunstarted.processor, hmain ▸ hunstarted.main⟩

theorem Halting.shutdown (h : s.Halting) : s.shutdown = true :=
  h.elim Ending.shutdown Unstarted.shutdown

/-- As long as `run` is not over, one of its threads can go on. -/
theorem Halting.progress (h : s.Halting) (b : Builtins) (json : Json) :
    s.main = .ended ∨ ∃ event : Event, event.inRun = true ∧ (s.step b json event).isSome := by
  rcases h with hending | hunstarted
  · exact hending.progress b json
  rcases hunstarted.main with hmain | hmain
  · refine .inr ⟨.main "" { answer := { sock := { incoming := [] } } }, rfl, ?_⟩
    rw [WorkerRuntime.step, perform, proceed, hmain]
    rfl
  · exact .inl hmain

end

end WorkerRuntime

namespace Launcher

/-! ### The rest of all workers -/

/-- The action is not one of the servers, monitors and receivers. -/
def Action.advances : Action → Bool
  | .worker _ event _ => event.inRun
  | .start | .bind _ | .serve _ | .refuse _ | .record _ | .stop _ _ | .join => true

/-- How many such steps are left once all workers are told to stop. -/
def load (s : Launcher) : ℕ :=
  (WORKER_COUNT - s.started) + (WORKER_COUNT - s.joined) +
    (∑ i ∈ Finset.range WORKER_COUNT, ((s.runtimes i).left + (s.services i).rank) +
      ∑ i ∈ Finset.range WORKER_COUNT, (s.threads i).rank)

/-- All workers were told to stop, and no receiver is running. -/
def Halted (s : Launcher) : Prop := ∀ i < WORKER_COUNT, (s.runtimes i).Halting

section

variable {b : Builtins} {json : Json} {s s' : Launcher} {a : Action} {raised : List ℕ} {i : ℕ}

theorem add_sum_le {n d : ℕ} {f g : ℕ → ℕ} (hi : i < n) (hterm : d + g i ≤ f i)
    (hothers : ∀ j, j ≠ i → g j = f j) :
    d + ∑ j ∈ Finset.range n, g j ≤ ∑ j ∈ Finset.range n, f j := by
  have hmem := Finset.mem_range.2 hi
  have hrest : ∑ j ∈ (Finset.range n).erase i, g j = ∑ j ∈ (Finset.range n).erase i, f j :=
    Finset.sum_congr rfl fun j hj => hothers j (Finset.ne_of_mem_erase hj)
  rw [← Finset.add_sum_erase _ g hmem, ← Finset.add_sum_erase _ f hmem, hrest]
  omega

theorem halted_of_stopped (h : s.Supervised raised) (hstopped : s.Stopped WORKER_COUNT)
    (hreceivers : ∀ j < WORKER_COUNT, (s.runtimes j).receiver ≠ .receiving) : s.Halted := by
  intro j hj
  obtain ⟨_, hstory⟩ := (h.thread j).story
  exact hstory.halting (hstopped j hj) (hreceivers j hj)

theorem Halted.left_le (hhalted : s.Halted) (h : s.Supervised raised) (hi : i < WORKER_COUNT) :
    (s.runtimes i).left + (s.services i).rank ≤ 6 := by
  have hhalting := hhalted i hi
  by_cases hservice : s.services i = .started
  · rw [hservice]
    exact hhalting.left_le
  · have hleft := (hhalting.unstarted ((h.thread i).service hservice).1).left_le
    have hrank : (s.services i).rank ≤ 2 := by
      cases s.services i <;> decide
    omega

theorem Halted.load_le (hhalted : s.Halted) (h : s.Supervised raised) : s.load ≤ 52 := by
  have hruntimes :
      ∑ i ∈ Finset.range WORKER_COUNT, ((s.runtimes i).left + (s.services i).rank) ≤ 24 :=
    le_of_le_of_eq (b := ∑ i ∈ Finset.range WORKER_COUNT, 6)
      (Finset.sum_le_sum fun i hi => hhalted.left_le h (Finset.mem_range.1 hi)) rfl
  have hthread : ∀ thread : RunThread, thread.rank ≤ 5 := by
    intro thread
    cases thread with
    | stopping next => exact (Nat.sub_le _ _).trans (by decide)
    | _ => decide
  have hthreads : ∑ i ∈ Finset.range WORKER_COUNT, (s.threads i).rank ≤ 20 :=
    le_of_le_of_eq (b := ∑ i ∈ Finset.range WORKER_COUNT, 5)
      (Finset.sum_le_sum fun i _ => hthread (s.threads i)) rfl
  have hcount : WORKER_COUNT = 4 := rfl
  rw [load]
  omega

theorem Halted.service (hhalted : s.Halted) (h : s.Supervised raised) {next : ServiceStart}
    (hstepped : ServiceStepped s s' i next) : s'.Halted ∧ 1 + s'.load ≤ s.load := by
  obtain ⟨hlt, _, hrank, hstate⟩ := hstepped
  subst hstate
  refine ⟨hhalted, ?_⟩
  have hservices := add_sum_le (d := 1)
    (f := fun j => (s.runtimes j).left + (s.services j).rank)
    (g := fun j => (s.runtimes j).left + (Function.update s.services i next j).rank)
    (hlt.trans_le h.started)
    (by
      rw [Function.update_self]
      omega)
    fun j hj => by rw [Function.update_of_ne hj]
  rw [load, load]
  dsimp only at hservices ⊢
  omega

theorem Halted.refuse (hhalted : s.Halted) (h : s.Supervised raised) (hrefused : Refused s s' i) :
    s'.Halted ∧ 1 + s'.load ≤ s.load := by
  have hi := h.thread i
  have hlt := hrefused.lt.trans_le h.started
  obtain ⟨hreceiver, hmain⟩ := hi.service hrefused.unstarted
  have hunstarted := (hhalted i hlt).unstarted hreceiver
  have hconnecting := hmain.resolve_right (hi.running.1 hrefused.running)
  have hleft : 1 + (s'.runtimes i).left ≤ (s.runtimes i).left := by
    rw [hrefused.runtime]
    change 1 + (0 + (s.runtimes i).processor.rank) ≤ _
    rw [WorkerRuntime.left, hconnecting, MainThread.rank]
    omega
  constructor
  · intro j hj
    by_cases hji : j = i
    · rw [hji, hrefused.runtime]
      exact .inr ⟨hunstarted.shutdown, hunstarted.receiver, hunstarted.processor, .inr rfl⟩
    · rw [(hrefused.others j hji).1]
      exact hhalted j hj
  · have hruntimes := add_sum_le (d := 1)
      (f := fun j => (s.runtimes j).left + (s.services j).rank)
      (g := fun j => (s'.runtimes j).left + (s'.services j).rank) hlt
      (by
        rw [hrefused.services]
        omega)
      fun j hj => by rw [(hrefused.others j hj).1, hrefused.services]
    have hthreads := add_sum_le (d := 0) (f := fun j => (s.threads j).rank)
      (g := fun j => (s'.threads j).rank) hlt
      (by
        rw [hrefused.thread, hrefused.running]
        exact le_rfl)
      fun j hj => by rw [(hrefused.others j hj).2]
    rw [load, load, hrefused.started, hrefused.joined]
    omega

theorem Halted.step (hhalted : s.Halted) (h : s.Supervised raised)
    (hstep : s.step b json a = some s') :
    s'.Halted ∧ (if a.advances = true then 1 else 0) + s'.load ≤ s.load := by
  have hdown : ∀ n, n < WORKER_COUNT → 1 + (WORKER_COUNT - (n + 1)) ≤ WORKER_COUNT - n := by
    intro n hn
    omega
  cases stepped_of_step hstep with
  | start lt state =>
      subst state
      refine ⟨hhalted, ?_⟩
      have hone := hdown s.started lt
      rw [Action.advances, if_pos rfl, load, load]
      dsimp only
      omega
  | join _ lt _ state =>
      subst state
      refine ⟨hhalted, ?_⟩
      have hone := hdown s.joined lt
      rw [Action.advances, if_pos rfl, load, load]
      dsimp only
      omega
  | bind i stepped => exact hhalted.service h stepped
  | serve i stepped => exact hhalted.service h stepped
  | refuse i refused => exact hhalted.refuse h refused
  | record i failing state =>
      subst state
      refine ⟨hhalted, ?_⟩
      have hlt := ((h.thread i).started (failing ▸ nofun)).trans_le h.started
      have hthreads := add_sum_le (d := 1) (f := fun j => (s.threads j).rank)
        (g := fun j => (Function.update s.threads i (.stopping 0) j).rank) hlt
        (by
          rw [Function.update_self, failing]
          decide)
        fun j hj => by rw [Function.update_of_ne hj]
      rw [Action.advances, if_pos rfl, load, load]
      dsimp only at hthreads ⊢
      omega
  | stop i next breaks stopping state =>
      have hstepped := stopStepped state
      have hlt := ((h.thread i).started (stopping ▸ nofun)).trans_le h.started
      obtain ⟨_, hnext, _⟩ := (h.thread i).stopping next stopping
      have hone := hdown next hnext
      constructor
      · intro j hj
        rcases hstepped.runtime j with hsame | hsame <;> rw [hsame]
        · exact hhalted j hj
        · exact (hhalted j hj).of_same rfl rfl rfl rfl
      · have hthreads := add_sum_le (d := 1) (f := fun j => (s.threads j).rank)
          (g := fun j => (s'.threads j).rank) hlt
          (by
            rw [hstepped.thread, stopping]
            split_ifs
            · exact le_trans (Nat.le_add_right _ _) hone
            · exact hone
            · exact le_trans (Nat.le_add_right _ _) hone)
          fun j hj => by rw [hstepped.others j hj]
        rw [Action.advances, if_pos rfl, load, load, hstepped.started, hstepped.joined,
          hstepped.services,
          Finset.sum_congr rfl fun j _ => congrArg (· + (s.services j).rank) (hstepped.left j)]
        omega
  | worker i event breaks log stepped =>
      have hlt := stepped.lt.trans_le h.started
      have hshare : (s.share i).Halting :=
        (hhalted i hlt).of_same rfl rfl rfl (hhalted i hlt).shutdown
      obtain ⟨hhalting, hleft⟩ := hshare.step (step_of_perform stepped.perform)
      constructor
      · intro j hj
        by_cases hji : j = i
        · exact hji ▸ hhalting
        · rw [(stepped.others j hji).1]
          exact hhalted j hj
      · have hruntimes := add_sum_le (f := fun j => (s.runtimes j).left + (s.services j).rank)
          (g := fun j => (s'.runtimes j).left + (s.services j).rank) hlt
          ((Nat.add_assoc _ _ _).symm.trans_le (Nat.add_le_add_right hleft _))
          fun j hj => by rw [(stepped.others j hj).1]
        have hthreads := add_sum_le (d := 0) (f := fun j => (s.threads j).rank)
          (g := fun j => (s'.threads j).rank) hlt
          (by
            rw [stepped.thread, Nat.zero_add]
            split_ifs with hrunning
            · rw [hrunning.1]
              exact le_rfl
            · exact Nat.zero_le _
            · exact le_rfl)
          fun j hj => by rw [(stepped.others j hj).2]
        rw [Action.advances, load, load, stepped.started, stepped.joined, stepped.services]
        omega

/-- Before the last thread is joined, something can go on. -/
theorem Halted.progress (hhalted : s.Halted) (h : s.Supervised raised) (b : Builtins)
    (json : Json) :
    s.joined = WORKER_COUNT ∨ ∃ a : Action, a.advances = true ∧ (s.step b json a).isSome := by
  by_cases hstarted : s.started < WORKER_COUNT
  · exact .inr ⟨.start, rfl, by rw [Launcher.step, if_pos hstarted]; rfl⟩
  have hall : s.started = WORKER_COUNT := le_antisymm h.started (not_lt.1 hstarted)
  by_cases hjoined : s.joined = WORKER_COUNT
  · exact .inl hjoined
  have hlt : s.joined < WORKER_COUNT := lt_of_le_of_ne h.joined_le hjoined
  refine .inr ?_
  have hbefore : s.joined < s.started := hlt.trans_eq hall.symm
  cases hthread : s.threads s.joined with
  | ended => exact ⟨.join, rfl, by rw [Launcher.step, if_pos ⟨hall, hlt, hthread ▸ rfl⟩]; rfl⟩
  | broken => exact ⟨.join, rfl, by rw [Launcher.step, if_pos ⟨hall, hlt, hthread ▸ rfl⟩]; rfl⟩
  | failing => exact ⟨.record s.joined, rfl, by rw [Launcher.step, if_pos hthread]; rfl⟩
  | stopping next =>
      exact ⟨.stop s.joined false, rfl, by rw [Launcher.step, stepStop, hthread]; rfl⟩
  | running =>
      cases hservice : s.services s.joined with
      | idle =>
          exact ⟨.bind s.joined, rfl, by
            rw [Launcher.step, if_pos ⟨hbefore, hthread, hservice⟩]; rfl⟩
      | starting =>
          exact ⟨.serve s.joined, rfl, by
            rw [Launcher.step, if_pos ⟨hbefore, hthread, hservice⟩]; rfl⟩
      | started =>
          have hshare : (s.share s.joined).Halting :=
            (hhalted s.joined hlt).of_same rfl rfl rfl (hhalted s.joined hlt).shutdown
          rcases hshare.progress b json with hended | ⟨event, hevent, hstep⟩
          · exact absurd hended ((h.thread s.joined).running.1 hthread)
          rw [WorkerRuntime.step, Option.isSome_map] at hstep
          obtain ⟨result, hperform⟩ := Option.isSome_iff_exists.1 hstep
          have hready : s.ready s.joined event = true := by
            cases event with
            | stop => cases hevent
            | main requestId exchange => exact decide_eq_true hservice
            | _ => exact decide_eq_true (by rw [hservice]; decide)
          refine ⟨.worker s.joined event false, hevent, ?_⟩
          rw [Launcher.step, if_pos ⟨hbefore, hready, fun h => absurd h Bool.false_ne_true⟩,
            stepWorker, hperform]
          rfl

theorem Halted.run (hhalted : s.Halted) (h : s.Supervised raised) {actions : List Action}
    (hrun : Transition.run (Launcher.step b json) s actions = some s') :
    s'.Halted ∧ (∃ raised', s'.Supervised raised') ∧ s.errors <+: s'.errors ∧
      actions.countP Action.advances + s'.load ≤ s.load := by
  induction actions generalizing s raised with
  | nil =>
      cases hrun
      exact ⟨hhalted, ⟨raised, h⟩, List.prefix_refl _, (Nat.zero_add _).le⟩
  | cons a actions ih =>
      obtain ⟨t, hstep, hrest⟩ := Transition.run_cons_eq_some_iff.1 hrun
      obtain ⟨hnext, hless⟩ := hhalted.step h hstep
      obtain ⟨hend, hsupervised, herrors, hcount⟩ := ih hnext (h.step hstep) hrest
      refine ⟨hend, hsupervised, List.IsPrefix.trans ?_ herrors, ?_⟩
      · cases stepped_of_step hstep with
        | start _ state => rw [state]
        | bind i stepped => rw [stepped.state]
        | serve i stepped => rw [stepped.state]
        | refuse i refused => rw [refused.errors]
        | worker i event breaks log stepped => rw [stepped.errors]
        | record i _ state => exact state ▸ List.prefix_append _ _
        | stop i next breaks _ state => rw [state]
        | join _ _ _ state => rw [state]
      · rw [List.countP_cons]
        omega

/-- Once a worker has failed and has stopped the others, and their receivers have seen the end of
their connections, `run_workers` comes to its end in at most 52 steps, whatever the servers and
monitors do meanwhile, and raises the first error. -/
theorem ends_of_error {configs : List WorkerConfig} {s₀ : Launcher} {before later : List Action}
    (hinit : init configs = .ok s₀)
    (hrun : Transition.run (Launcher.step b json) s₀ before = some s)
    (herror : i ∈ s.errors) (hended : s.threads i = .ended)
    (hreceivers : ∀ j < WORKER_COUNT, (s.runtimes j).receiver ≠ .receiving)
    (hlater : Transition.run (Launcher.step b json) s later = some s') :
    later.countP Action.advances ≤ 52 ∧
      (s'.result = some s.errors.head? ∨
        ∃ a : Action, a.advances = true ∧ (s'.step b json a).isSome) := by
  have h := supervised_of_run hinit hrun
  have hstopped : s.Stopped WORKER_COUNT := by
    rcases (h.thread i).recorded herror with ⟨next, hstopping⟩ | hbroken | ⟨_, hstopped⟩
    · exact absurd (hended.symm.trans hstopping) nofun
    · exact absurd (hended.symm.trans hbroken) nofun
    · exact hstopped
  have hhalted := halted_of_stopped h hstopped hreceivers
  obtain ⟨hend, ⟨_, hsupervised⟩, ⟨more, hmore⟩, hcount⟩ := hhalted.run h hlater
  refine ⟨by have := hhalted.load_le h; omega, ?_⟩
  refine (hend.progress hsupervised b json).imp_left fun hjoined => ?_
  obtain ⟨first, rest, hfirst⟩ := List.exists_cons_of_ne_nil (List.ne_nil_of_mem herror)
  rw [result, if_pos hjoined, ← hmore, hfirst]
  rfl

end

/-- The other threads come to their ends after the first has stopped them. -/
theorem ends_of_error_refused :
    ∃ s₀ s s', init fourConfigs = .ok s₀ ∧
      Transition.run (Launcher.step Builtins.plain
        (WorkerRuntime.plainJson [WorkerRuntime.registered])) s₀ untilStopped = some s ∧
      Transition.run (Launcher.step Builtins.plain
        (WorkerRuntime.plainJson [WorkerRuntime.registered])) s untilJoined = some s' ∧
      untilJoined.countP Action.advances ≤ 52 ∧
      (s'.result = some s.errors.head? ∨ ∃ a : Action, a.advances = true ∧
        (s'.step Builtins.plain
          (WorkerRuntime.plainJson [WorkerRuntime.registered]) a).isSome) := by
  obtain ⟨s₀, hinit, htest⟩ : ∃ s₀, init fourConfigs = .ok s₀ ∧
      (Transition.run (Launcher.step Builtins.plain
        (WorkerRuntime.plainJson [WorkerRuntime.registered])) s₀ untilStopped).any
        (fun s => (Transition.run (Launcher.step Builtins.plain
          (WorkerRuntime.plainJson [WorkerRuntime.registered])) s untilJoined).any
          fun _ => decide (0 ∈ s.errors ∧ s.threads 0 = .ended ∧
            ∀ j < WORKER_COUNT, (s.runtimes j).receiver ≠ .receiving)) = true := by
    refine ⟨_, rfl, ?_⟩
    decide +kernel
  obtain ⟨s, hrun, htest⟩ := (Option.any_eq_true _ _).1 htest
  obtain ⟨s', hlater, htest⟩ := (Option.any_eq_true _ _).1 htest
  obtain ⟨herror, hended, hreceivers⟩ := of_decide_eq_true htest
  exact ⟨s₀, s, s', hinit, hrun, hlater,
    ends_of_error hinit hrun herror hended hreceivers hlater⟩

end Launcher

end KVStore
