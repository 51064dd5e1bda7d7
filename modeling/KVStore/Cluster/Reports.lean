import KVStore.Cluster.FaultFree
import KVStore.Cluster.Queues
import KVStore.Library.Gauge
import KVStore.Master.Dispatch

/-!
# The Master's view of the queues

The Master counts up the size of a queue when it assigns a task to the worker, and takes
over the sizes that the worker reports. A thread that changed its queue takes a snapshot
and sends it in a second step, so the reports of two threads can leave in the wrong
order. As long as the last report that is owed is true, the view is right whenever
nothing is owed and nothing is on its way.
-/

namespace KVStore

open HasTaskId

def WorkerMessage.status : WorkerMessage → Option WorkerStatus
  | .queueStatus status => some status
  | _ => none

def Link.statuses (link : Link) : List WorkerStatus :=
  link.toMaster.filterMap WorkerMessage.status

namespace System

def threads : List Thread := [.receiver, .processor, .server, .monitor]

/-- Some thread of the worker changed the queue and has not reported it yet. -/
def Owes (s : System) (w : WorkerId) : Prop :=
  (∃ thread ∈ threads, ¬ s.Quiet w thread) ∨
    (s.net.nodes w).server.map Prod.snd = some true ∨
    (s.net.nodes w).monitor.isConfirming = true

instance (s : System) (w : WorkerId) : Decidable (s.Owes w) :=
  inferInstanceAs (Decidable (_ ∨ _))

def recordedSize (s : System) (w : WorkerId) : ℤ :=
  ((s.master.status w).map WorkerStatus.queueSize).getD 0

def pendingFor (s : System) (w : WorkerId) : ℕ :=
  ((s.slot.toList.map fun pending => pending.1.worker).filter (· = w)).length

/-- The queue of the worker and what the Master makes of it. -/
def gauge (s : System) (w : WorkerId) : Gauge where
  size := (s.net.nodes w).queue.sizeLocked
  owed := s.Owes w
  reports := (s.links w).statuses.map WorkerStatus.queueSize
  estimate := s.recordedSize w
  inflight := (s.links w).toWorker.length + s.pendingFor w

/-- The report that a step takes from the thread as the last one that was owed. -/
def lastReport (s : System) (w : WorkerId) : Action → Option WorkerStatus
  | .sendStatus v thread =>
      if v = w ∧ ¬ (s.setReporting w thread .quiet).Owes w then
        match (s.links w).reporting thread with
        | .ready status => some status
        | _ => none
      else
        none
  | _ => none

/-- The step sends an outdated size as the last report that was owed, drops a report
because the answer to a peer could not be sent, or loses what is on its way. -/
def Misleads (s : System) (w : WorkerId) (a : Action) : Prop :=
  (∃ status ∈ s.lastReport w a, status.queueSize ≠ (s.net.nodes w).queue.sizeLocked) ∨
    (a = .respondFail w ∧ (s.net.nodes w).server.map Prod.snd = some true) ∨ a = .cut w

instance (s : System) (w : WorkerId) (a : Action) : Decidable (s.Misleads w a) :=
  inferInstanceAs (Decidable (_ ∨ _))

/-- The worker is connected, processes no task, no thread of it is about to change its
queue or to send, and no message to or from it is on its way. -/
structure Settled (s : System) (w : WorkerId) : Prop where
  connected : s.master.connection w = some true
  processor : (s.net.nodes w).processor = .idle
  server : (s.net.nodes w).server = none
  monitor : (s.net.nodes w).monitor.isConfirming = false
  quiet : ∀ thread, s.Quiet w thread
  slot : ∀ assignment k, s.slot = some (assignment, k) → assignment.worker ≠ w
  toWorker : (s.links w).toWorker = []
  toMaster : (s.links w).toMaster = []
  overflow : (s.links w).overflow = none

/-- The Master has recorded the real size of the queue. -/
def SeesQueue (s : System) (w : WorkerId) : Prop :=
  s.recordedSize w = (s.net.nodes w).queue.sizeLocked

instance (s : System) (w : WorkerId) : Decidable (s.SeesQueue w) :=
  inferInstanceAs (Decidable (_ = _))

/-- The worker on whose connection or by one of whose threads the step is taken. -/
def Action.worker : Action → Option WorkerId
  | .deliver w => some w
  | .receiveTask w _ => some w
  | .sendOverflow w => some w
  | .dequeue w => some w
  | .sendResult w _ => some w
  | .markDone w => some w
  | .balance w _ _ => some w
  | .receiveReply w => some w
  | .serve w _ _ => some w
  | .respond w => some w
  | .snapshot w _ => some w
  | .sendStatus w _ => some w
  | .cut w => some w
  | .giveUp w => some w
  | .respondFail w => some w
  | _ => none

/-- The locked section of the Master that a step of the system is made of. -/
inductive Asks (s : System) : Action → Master.Action → Prop
  | nextAssignment (now : ℚ) : Asks s (.nextAssignment now) (.nextAssignment now)
  | status (w : WorkerId) (status : WorkerStatus) (rest : List WorkerMessage)
      (hmail : (s.links w).toMaster = .queueStatus status :: rest) :
      Asks s (.deliver w) (.queueStatus w status)
  | judged (w : WorkerId) (message : WorkerMessage) (rest : List WorkerMessage) (copy : Copy)
      (b : Master.Action) (hmail : (s.links w).toMaster = message :: rest)
      (hcopy : message.copy = some copy) (hb : Judges w copy b) : Asks s (.deliver w) b
  | disconnect (w : WorkerId) (order : List TaskId) :
      Asks s (.disconnect w order) (.disconnectWorker w order)
  | sendFail (assignment : Master.Assignment) (k : ℕ) (order : List TaskId)
      (hslot : s.slot = some (assignment, k)) :
      Asks s (.sendFail order) (.disconnectWorker assignment.worker order)

section

variable {c : Config} {s s' : System} {a : Action} {w v : WorkerId} {thread : Thread}

theorem mem_threads (thread : Thread) : thread ∈ threads := by
  cases thread <;> decide

theorem owes_of_reporting (thread : Thread)
    (h : (s.links w).reporting thread ≠ .quiet) : s.Owes w :=
  .inl ⟨thread, mem_threads thread, h⟩

theorem Owes.of_same (h : s.Owes w) (hreporting : (s'.links w).reporting = (s.links w).reporting)
    (hserver : (s'.net.nodes w).server = (s.net.nodes w).server)
    (hmonitor : (s.net.nodes w).monitor.isConfirming = true →
      (s'.net.nodes w).monitor.isConfirming = true) : s'.Owes w := by
  rcases h with ⟨thread, hthread, hquiet⟩ | hserved | hconfirming
  · refine .inl ⟨thread, hthread, ?_⟩
    rwa [Quiet, hreporting]
  · exact .inr (.inl (hserver ▸ hserved))
  · exact .inr (.inr (hmonitor hconfirming))

theorem setReporting_links_self (s : System) (w : WorkerId) (thread : Thread) (r : Reporting) :
    ((s.setReporting w thread r).links w).reporting thread = r := by
  simp only [setReporting, links_setLink, if_true, Function.update_self]

theorem owes_of_due (s : System) (w : WorkerId) (thread : Thread) :
    (s.setReporting w thread .due).Owes w := by
  refine owes_of_reporting thread ?_
  rw [setReporting_links_self]
  simp

theorem owes_of_dueThread {b : Net.Action} (hstep : step c s a = some s')
    (hb : a.netAction = some b) (hdue : s.dueThread s'.net a = some (w, thread)) : s'.Owes w := by
  rw [(moved_of_step hstep hb).2, hdue]
  exact owes_of_due _ w thread

theorem links_setReporting_of_ne (s : System) (h : w ≠ v) (thread : Thread) (r : Reporting) :
    (s.setReporting v thread r).links w = s.links w := by
  simp only [setReporting, links_setLink, if_neg h]

theorem setReporting_mail (s : System) (w : WorkerId) (thread : Thread) (r : Reporting)
    (v : WorkerId) :
    ((s.setReporting v thread r).links w).toWorker = (s.links w).toWorker ∧
      ((s.setReporting v thread r).links w).toMaster = (s.links w).toMaster := by
  simp only [setReporting, links_setLink]
  split_ifs with hw
  · rw [hw]
    exact ⟨rfl, rfl⟩
  · exact ⟨rfl, rfl⟩

theorem withDue_mail (s : System) (due : Option (WorkerId × Thread)) (v : WorkerId) :
    ((s.withDue due).links v).toWorker = (s.links v).toWorker ∧
      ((s.withDue due).links v).toMaster = (s.links v).toMaster := by
  cases due with
  | none => exact ⟨rfl, rfl⟩
  | some due => exact setReporting_mail s v due.2 .due due.1

theorem Drives.worker {b : Net.Action} (h : s.Drives a b) : b.worker = a.worker := by
  cases h <;> rfl

theorem nodes_step_of_ne (hstep : step c s a = some s') (ha : a.worker ≠ some w) :
    s'.net.nodes w = s.net.nodes w := by
  rcases net_step hstep with hsame | ⟨b, hdrives, hnet⟩
  · rw [hsame]
  · refine Net.nodes_step_of_ne hnet fun v hv heq => ha ?_
    rw [← hdrives.worker, hv, heq]

theorem links_setLink_of_ne (s : System) (h : w ≠ v) (link : Link) :
    (s.setLink v link).links w = s.links w := by
  rw [links_setLink, if_neg h]

theorem links_sendMaster_of_ne (s : System) (h : w ≠ v) (message : WorkerMessage) :
    (s.sendMaster v message).links w = s.links w := by
  simp only [sendMaster, links_setLink, if_neg h]

theorem worker_of_dueThread {net : Net} {due : WorkerId × Thread}
    (h : s.dueThread net a = some due) : a.worker = some due.1 := by
  cases a with
  | dequeue u =>
      rw [dueThread] at h
      split at h <;> cases h
      rfl
  | markDone u =>
      cases h
      rfl
  | balance u requestId count =>
      rw [dueThread] at h
      split at h <;> cases h
      rfl
  | respond u =>
      rw [dueThread] at h
      split at h <;> cases h
      rfl
  | _ => cases h

theorem links_withDue_of_ne {s₁ : System} {net : Net} (ha : a.worker ≠ some w) :
    (s₁.withDue (s.dueThread net a)).links w = s₁.links w := by
  cases hdue : s.dueThread net a with
  | none => rfl
  | some due =>
      have hne : w ≠ due.1 := fun heq => ha (heq ▸ worker_of_dueThread hdue)
      exact links_setReporting_of_ne s₁ hne due.2 .due

theorem links_step_of_ne (hstep : step c s a = some s') (ha : a.worker ≠ some w)
    (hsend : a ≠ .sendTask) : s'.links w = s.links w := by
  have hne : ∀ {u : WorkerId}, a.worker = some u → w ≠ u := fun hu heq => ha (heq ▸ hu)
  cases stepped_of_step hstep with
  | nextAssignment now next => rw [links_assigned]
  | sendTask => exact absurd rfl hsend
  | status u => exact links_setLink_of_ne s (hne rfl) _
  | judged u => exact links_setLink_of_ne s (hne rfl) _
  | malformed u => exact links_setLink_of_ne s (hne rfl) _
  | answered u =>
      rw [links_setReporting_of_ne _ (hne rfl)]
      exact links_setLink_of_ne s (hne rfl) _
  | refused u =>
      rw [links_setLink_of_ne _ (hne rfl)]
      exact links_setLink_of_ne s (hne rfl) _
  | sendOverflow u => rw [links_sendMaster_of_ne _ (hne rfl), links_setLink_of_ne s (hne rfl)]
  | sendResult u => exact links_sendMaster_of_ne _ (hne rfl) _
  | moved => exact links_withDue_of_ne ha
  | snapshot u => exact links_setReporting_of_ne s (hne rfl) _ _
  | sendStatus u =>
      rw [links_sendMaster_of_ne _ (hne rfl), links_setReporting_of_ne s (hne rfl)]
  | disconnect => rfl
  | sendFail => rfl
  | cut u => exact links_setLink_of_ne s (hne rfl) _

theorem master_step (hstep : step c s a = some s') :
    (s'.master = s.master ∨ ∃ b, s.Asks a b ∧ s.master.step b = some s'.master) ∧
      (s'.slot = s.slot ∨ (∃ now, a = .nextAssignment now) ∨ a = .sendTask ∨
        ∃ order, a = .sendFail order) := by
  cases stepped_of_step hstep with
  | nextAssignment now next _ _ hnext =>
      refine ⟨.inr ⟨_, .nextAssignment now, ?_⟩, .inr (.inl ⟨now, rfl⟩)⟩
      rw [Master.step, hnext, master_assigned]
      rfl
  | sendTask => exact ⟨.inl rfl, .inr (.inr (.inl rfl))⟩
  | status u status rest master hmail hmaster =>
      exact ⟨.inr ⟨_, .status u status rest hmail, hmaster⟩, .inl rfl⟩
  | judged u message rest copy b master hmail hcopy hb hmaster =>
      exact ⟨.inr ⟨b, .judged u message rest copy b hmail hcopy hb, hmaster⟩, .inl rfl⟩
  | moved =>
      rw [master_withDue, slot_withDue]
      exact ⟨.inl rfl, .inl rfl⟩
  | disconnect u order master hmaster =>
      exact ⟨.inr ⟨_, .disconnect u order, hmaster⟩, .inl rfl⟩
  | sendFail assignment k order master hslot hmaster =>
      exact ⟨.inr ⟨_, .sendFail assignment k order hslot, hmaster⟩,
        .inr (.inr (.inr ⟨order, rfl⟩))⟩
  | _ => exact ⟨.inl rfl, .inl rfl⟩

/-- What a step does to the reports on a link: none, one arrives, one leaves, or all are
lost. -/
inductive Posts (s : System) (w : WorkerId) : Action → List WorkerStatus → Prop
  | kept (a : Action) (hsend : ∀ thread, a ≠ .sendStatus w thread)
      (hdeliver : ∀ status rest, a = .deliver w →
        (s.links w).toMaster ≠ .queueStatus status :: rest) : Posts s w a (s.links w).statuses
  | arrived (status : WorkerStatus) (rest : List WorkerMessage)
      (hmail : (s.links w).toMaster = .queueStatus status :: rest) :
      Posts s w (.deliver w) (rest.filterMap WorkerMessage.status)
  | left (thread : Thread) (status : WorkerStatus)
      (hready : (s.links w).reporting thread = .ready status) :
      Posts s w (.sendStatus w thread) ((s.links w).statuses ++ [status])
  | lost : Posts s w (.cut w) []

theorem status_of_copy {message : WorkerMessage} {copy : Copy}
    (hcopy : message.copy = some copy) : message.status = none := by
  cases message <;> first | rfl | cases hcopy

theorem statuses_sendMaster {message : WorkerMessage} (hnone : message.status = none) :
    ((s.sendMaster w message).links w).statuses = (s.links w).statuses := by
  simp only [sendMaster, links_setLink, if_true, Link.statuses, List.filterMap_append,
    List.filterMap_cons, hnone, List.filterMap_nil, List.append_nil]

theorem toWorker_sendMaster (message : WorkerMessage) :
    ((s.sendMaster w message).links w).toWorker = (s.links w).toWorker := by
  simp only [sendMaster, links_setLink, if_true]

theorem mail_step (hstep : step c s a = some s') (w : WorkerId) :
    s.Posts w a (s'.links w).statuses ∧
      ((s'.links w).toWorker = (s.links w).toWorker ∨ a = .sendTask ∨
        (∃ now, a = .receiveTask w now) ∨ a = .cut w) := by
  have hquiet : ∀ {statuses : List WorkerStatus}, statuses = (s.links w).statuses →
      (∀ thread, a ≠ .sendStatus w thread) → (∀ u, a ≠ .deliver u) → s.Posts w a statuses := by
    rintro _ rfl hsend hdeliver
    exact .kept a hsend fun _ _ hw => absurd hw (hdeliver w)
  by_cases ha : a.worker = some w
  swap
  · by_cases hsend : a = .sendTask
    · subst hsend
      refine ⟨hquiet ?_ nofun nofun, .inr (.inl rfl)⟩
      cases stepped_of_step hstep with
      | sendTask assignment k task _ _ =>
          simp only [links_setLink]
          split_ifs with hw
          · rw [hw]
            rfl
          · rfl
      | moved _ _ _ hb _ => cases hb
    · rw [links_step_of_ne hstep ha hsend]
      refine ⟨.kept a ?_ ?_, .inl rfl⟩
      · rintro thread rfl
        exact ha rfl
      · rintro status rest rfl
        exact absurd rfl ha
  cases stepped_of_step hstep with
  | nextAssignment => cases ha
  | sendTask => cases ha
  | disconnect => cases ha
  | sendFail => cases ha
  | status u status rest master hmail _ =>
      cases ha
      rw [links_handled_self]
      exact ⟨.arrived status rest hmail, .inl rfl⟩
  | judged u message rest copy b master hmail hcopy _ _ =>
      cases ha
      have hnone := status_of_copy hcopy
      have hstatuses : (s.links w).statuses = rest.filterMap WorkerMessage.status := by
        rw [Link.statuses, hmail, List.filterMap_cons, hnone]
      rw [links_handled_self, Link.statuses, ← hstatuses]
      refine ⟨.kept _ nofun fun status rest' _ heq => ?_, .inl rfl⟩
      rw [hmail] at heq
      cases heq
      cases hnone
  | malformed u now message rest e _ _ =>
      cases ha
      refine ⟨hquiet ?_ nofun nofun, .inr (.inr (.inl ⟨now, rfl⟩))⟩
      rw [links_setLink_self]
      rfl
  | answered u now message rest decoded net _ _ _ _ =>
      cases ha
      refine ⟨hquiet ?_ nofun nofun, .inr (.inr (.inl ⟨now, rfl⟩))⟩
      rw [Link.statuses, (setReporting_mail _ w .receiver .due w).2, links_received_self]
      rfl
  | refused u now message rest decoded net _ _ _ _ _ =>
      cases ha
      refine ⟨hquiet ?_ nofun nofun, .inr (.inr (.inl ⟨now, rfl⟩))⟩
      rw [links_setLink_self, links_received_self]
      rfl
  | sendOverflow u copy _ =>
      cases ha
      refine ⟨hquiet ?_ nofun nofun, .inl ?_⟩
      · rw [statuses_sendMaster rfl, links_setLink_self]
        rfl
      · rw [toWorker_sendMaster, links_setLink_self]
  | sendResult u succeeded copy message net _ hcopy _ =>
      cases ha
      refine ⟨hquiet ?_ nofun nofun, .inl ?_⟩
      · rw [statuses_sendMaster (status_of_copy hcopy)]
      · rw [toWorker_sendMaster]
  | moved _ b net hb _ =>
      refine ⟨hquiet ?_ ?_ ?_, .inl ?_⟩
      · rw [Link.statuses, (withDue_mail _ _ w).2]
        rfl
      · rintro thread rfl
        cases hb
      · rintro u rfl
        cases hb
      · rw [(withDue_mail _ _ w).1]
  | snapshot u thread status _ =>
      cases ha
      refine ⟨hquiet ?_ nofun nofun, .inl ?_⟩
      · rw [Link.statuses, (setReporting_mail s w _ _ w).2]
        rfl
      · rw [(setReporting_mail s w _ _ w).1]
  | sendStatus u thread status hready =>
      cases ha
      obtain ⟨htoWorker, htoMaster⟩ := setReporting_mail s w thread .quiet w
      refine ⟨?_, .inl ?_⟩
      · have hstatuses : (((s.setReporting w thread .quiet).sendMaster w
            (.queueStatus status)).links w).statuses = (s.links w).statuses ++ [status] := by
          simp only [sendMaster, links_setLink, if_true, Link.statuses, List.filterMap_append,
            htoMaster]
          rfl
        rw [hstatuses]
        exact .left thread status hready
      · rw [toWorker_sendMaster, htoWorker]
  | cut u =>
      cases ha
      refine ⟨?_, .inr (.inr (.inr rfl))⟩
      rw [links_setLink_self]
      exact .lost

/-- Where a step leaves a thread with its report. -/
inductive Stands (s : System) (w : WorkerId) (thread : Thread) : Action → Reporting → Prop
  | kept (a : Action) : Stands s w thread a ((s.links w).reporting thread)
  | due (a : Action) : Stands s w thread a .due
  | ready (status : WorkerStatus)
      (hsnapshot : (s.net.nodes w).queue.snapshotStatus w = .ok status) :
      Stands s w thread (.snapshot w thread) (.ready status)
  | quiet (status : WorkerStatus) (hready : (s.links w).reporting thread = .ready status) :
      Stands s w thread (.sendStatus w thread) .quiet

theorem reporting_setReporting (s : System) (w v : WorkerId) (thread other : Thread)
    (r : Reporting) : ((s.setReporting v other r).links w).reporting thread =
      if w = v ∧ thread = other then r else (s.links w).reporting thread := by
  simp only [setReporting, links_setLink]
  by_cases hw : w = v
  · subst hw
    rw [if_pos rfl]
    change Function.update (s.links w).reporting other r thread = _
    rw [Function.update_apply]
    simp only [true_and]
  · rw [if_neg hw, if_neg fun h => hw h.1]

theorem reporting_step (hstep : step c s a = some s') (w : WorkerId) (thread : Thread) :
    s.Stands w thread a ((s'.links w).reporting thread) := by
  have hkept : ∀ {r : Reporting}, r = (s.links w).reporting thread →
      s.Stands w thread a r := by
    rintro _ rfl
    exact .kept a
  by_cases ha : a.worker = some w
  swap
  · by_cases hsend : a = .sendTask
    · subst hsend
      cases stepped_of_step hstep with
      | sendTask assignment k task _ _ =>
          apply hkept
          simp only [links_setLink]
          split_ifs with hw
          · rw [hw]
          · rfl
      | moved _ _ _ hb _ => cases hb
    · rw [links_step_of_ne hstep ha hsend]
      exact .kept a
  cases stepped_of_step hstep with
  | nextAssignment => cases ha
  | sendTask => cases ha
  | disconnect => cases ha
  | sendFail => cases ha
  | status u status rest =>
      cases ha
      apply hkept
      rw [links_handled_self]
  | judged u message rest =>
      cases ha
      apply hkept
      rw [links_handled_self]
  | malformed u now message rest =>
      cases ha
      apply hkept
      rw [links_setLink_self]
  | answered u now message rest =>
      cases ha
      rw [reporting_setReporting]
      split_ifs
      · exact .due _
      · apply hkept
        rw [links_received_self]
  | refused u now message rest =>
      cases ha
      apply hkept
      rw [links_setLink_self, links_received_self]
  | sendOverflow u copy =>
      cases ha
      apply hkept
      simp only [sendMaster, links_setLink, if_true]
  | sendResult u succeeded copy message =>
      cases ha
      apply hkept
      simp only [sendMaster, links_setLink, if_true]
  | moved _ b net =>
      cases s.dueThread net a with
      | none => exact .kept a
      | some due =>
          rw [withDue, reporting_setReporting]
          split_ifs
          · exact .due a
          · exact .kept a
  | snapshot u other status hsnapshot =>
      cases ha
      rw [reporting_setReporting]
      split_ifs with hcase
      · obtain ⟨_, rfl⟩ := hcase
        exact .ready status hsnapshot
      · exact .kept _
  | sendStatus u other status hready =>
      cases ha
      have hlink : (((s.setReporting w other .quiet).sendMaster w
          (.queueStatus status)).links w).reporting thread =
          ((s.setReporting w other .quiet).links w).reporting thread := by
        simp only [sendMaster, links_setLink, if_true]
      rw [hlink, reporting_setReporting]
      split_ifs with hcase
      · obtain ⟨_, rfl⟩ := hcase
        exact .quiet status hready
      · exact .kept _
  | cut u =>
      cases ha
      apply hkept
      rw [links_setLink_self]

/-- What the reports rest on: the queues have the usual capacity, the Master knows it, and
every report on its way, or about to be sent, is a valid one of its sender. -/
structure Attested (c : Config) (s : System) : Prop where
  traced : s.Traced c
  capacity : ∀ w, ((s.net.nodes w).queue.capacity : ℤ) = DEFAULT_QUEUE_CAPACITY
  recorded : ∀ w status, s.master.status w = some status →
    status.queueCapacity = DEFAULT_QUEUE_CAPACITY
  sent : ∀ w, ∀ status ∈ (s.links w).statuses,
    status.workerId = w ∧ status.postInit = .ok status
  ready : ∀ w thread status, (s.links w).reporting thread = .ready status →
    status.workerId = w ∧ status.postInit = .ok status

/-- What a report is owed for is reported, unless the answer to a peer fails. -/
theorem owes_step (h : s.net.Protocol) (hstep : step c s a = some s') (howes : s.Owes w)
    (hpaid : ¬ s'.Owes w) : (∃ thread, a = .sendStatus w thread) ∨
      (a = .respondFail w ∧ (s.net.nodes w).server.map Prod.snd = some true) := by
  rcases howes with ⟨thread, _, hquiet⟩ | hserved | hconfirming
  · have hstands := reporting_step hstep w thread
    generalize hr : (s'.links w).reporting thread = r at hstands
    cases hstands with
    | kept => exact absurd (owes_of_reporting thread (fun heq => hquiet (hr.symm.trans heq))) hpaid
    | due => exact absurd (owes_of_reporting thread (by rw [hr]; simp)) hpaid
    | ready status _ => exact absurd (owes_of_reporting thread (by rw [hr]; simp)) hpaid
    | quiet status _ => exact .inl ⟨thread, rfl⟩
  · rcases net_step hstep with hsame | ⟨b, hdrives, hnet⟩
    · exact absurd (.inr (.inl (hsame ▸ hserved))) hpaid
    · rcases (Net.standing_step h hnet).1 hserved with hkept | rfl | rfl
      · exact absurd (.inr (.inl (hkept ▸ hserved))) hpaid
      · cases hdrives
        have hdue : s.dueThread s'.net (.respond w) = some (w, .server) := by
          obtain ⟨⟨reply, changed⟩, hserver, hchanged⟩ := Option.map_eq_some_iff.1 hserved
          cases hchanged
          rw [dueThread, hserver]
        exact absurd (owes_of_dueThread hstep rfl hdue) hpaid
      · cases hdrives
        exact .inr ⟨rfl, hserved⟩
  · rcases net_step hstep with hsame | ⟨b, hdrives, hnet⟩
    · exact absurd (.inr (.inr (hsame ▸ hconfirming))) hpaid
    · rcases (Net.standing_step h hnet).2 hconfirming with
        hkept | ⟨requestId, count, _, _, _, rfl, hm⟩
      · exact absurd (.inr (.inr hkept)) hpaid
      · cases hdrives
        have hdue : s.dueThread s'.net (.balance w requestId count) = some (w, .monitor) := by
          rw [dueThread, hm]
        exact absurd (owes_of_dueThread hstep rfl hdue) hpaid

/-- The size of a queue only changes when a report of it is owed afterwards. -/
theorem size_step (h : s.net.Protocol) (hstep : step c s a = some s') (hpaid : ¬ s'.Owes w) :
    (s'.net.nodes w).queue.sizeLocked = (s.net.nodes w).queue.sizeLocked := by
  suffices hqueued : (s'.net.nodes w).queued = (s.net.nodes w).queued by
    rw [← Node.card_queued, hqueued, Node.card_queued]
  rcases queued_step h hstep w with hsame | ⟨b, hdrives, hshift⟩
  · exact hsame
  generalize hqueued : (s'.net.nodes w).queued = queued at hshift
  cases hshift with
  | kept => rfl
  | enqueued copy priority haccepted =>
      cases hdrives with
      | receiveTask _ now message rest decoded hmail hdecoded =>
          cases stepped_of_step hstep with
          | malformed _ _ _ _ e hmail' herror =>
              cases hmail.symm.trans hmail'
              cases hdecoded.symm.trans herror
          | answered => exact absurd (owes_of_due _ w .receiver) hpaid
          | refused _ _ _ _ _ _ _ hmail' hdecoded' _ hresult =>
              cases hmail.symm.trans hmail'
              cases hdecoded.symm.trans hdecoded'
              exact absurd (.inl haccepted) hresult
          | moved _ _ _ hb _ => cases hb
  | dequeued copy _ hcopy =>
      cases hdrives
      have hnet := (moved_of_step hstep rfl).1
      rw [Net.step] at hnet
      split_ifs at hnet
      obtain ⟨node, hnode, hnodes⟩ := Option.map_eq_some_iff.1 hnet
      have hself : s'.net.nodes w = node := by
        rw [← hnodes, Net.nodes_setNode_self]
      obtain ⟨_, rfl | ⟨taken, hworking, _⟩⟩ := Node.dequeue_cases (h.sound w) hnode
      · rw [← hqueued, hself]
      · have hdue : s.dueThread s'.net (.dequeue w) = some (w, .processor) := by
          rw [dueThread, hself, hworking]
        exact absurd (owes_of_dueThread hstep rfl hdue) hpaid
  | confirmed requestId count rid peer reserved remaining copy _ hmonitor _ =>
      cases hdrives
      have hnet := (moved_of_step hstep rfl).1
      have hconfirming : (s.net.nodes w).monitor.isConfirming = true := by
        rw [hmonitor]
        rfl
      rcases (Net.standing_step h hnet).2 hconfirming with hkept | ⟨_, _, _, _, _, _, hm⟩
      · exact absurd (.inr (.inr hkept)) hpaid
      · rw [hmonitor] at hm
        cases hm
  | taken requestId now request raw tasks hfind hraw htaken haccepted hchanged =>
      cases hdrives
      have hnet := (moved_of_step hstep rfl).1
      rw [Net.step] at hnet
      split_ifs at hnet
      rw [hfind, Option.map_some] at hnet
      refine absurd (.inr (.inl ?_)) hpaid
      rw [← Option.some.inj hnet]
      change ((Net.setNode _ w _).nodes w).server.map Prod.snd = some true
      rw [Net.nodes_setNode_self]
      exact congrArg some hchanged

theorem status_step (h : s.Traced c) (hstep : step c s a = some s') (w : WorkerId) :
    s'.master.status w = s.master.status w ∨
    (∃ now assignment status, a = .nextAssignment now ∧
      s.master.nextAssignmentLocked now = some (some assignment, s'.master) ∧
      assignment.worker = w ∧ s.master.status w = some status ∧
      status.queueSize < status.queueCapacity ∧
      s'.master.status w = some { status with queueSize := status.queueSize + 1 }) ∨
    ∃ status rest, a = .deliver w ∧ (s.links w).toMaster = .queueStatus status :: rest ∧
      status.postInit = .ok status ∧
      s'.master.status w = (s.master.status w).map fun _ => status := by
  rcases (master_step hstep).1 with hsame | ⟨b, hasks, hmaster⟩
  · exact .inl (by rw [hsame])
  rcases Master.status_step h.governed.consistent hmaster w with hsame |
    ⟨now, assignment, status, rfl, hres, hworker, hold, hroom, hnew⟩ |
    ⟨status, rfl, hvalid, hnew⟩
  · exact .inl hsame
  · cases hasks with
    | nextAssignment =>
        exact .inr (.inl ⟨now, assignment, status, rfl, hres, hworker, hold, hroom, hnew⟩)
    | judged _ _ _ _ _ _ _ hb => rcases hb with hb | ⟨_, hb⟩ <;> cases hb
  · cases hasks with
    | status _ _ rest hmail => exact .inr (.inr ⟨status, rest, rfl, hmail, hvalid, hnew⟩)
    | judged _ _ _ _ _ _ _ hb => rcases hb with hb | ⟨_, hb⟩ <;> cases hb

theorem snapshotStatus_eq_ok {q : ReadyQueue Copy} {status : WorkerStatus}
    (h : q.snapshotStatus w = .ok status) :
    status.workerId = w ∧ status.postInit = .ok status := by
  have hvalid := h
  rw [ReadyQueue.snapshotStatus] at hvalid
  obtain ⟨rfl, _⟩ := WorkerStatus.postInit_eq_ok hvalid
  exact ⟨rfl, h⟩

theorem attested_step (h : s.Attested c) (hstep : step c s a = some s') : s'.Attested c := by
  refine ⟨traced_step h.traced hstep, ?_, ?_, ?_, ?_⟩
  · intro v
    rcases net_step hstep with hsame | ⟨b, _, hnet⟩
    · rw [hsame]
      exact h.capacity v
    · rw [Net.capacity_step h.traced.protocol hnet v]
      exact h.capacity v
  · intro v status hstatus
    rcases status_step h.traced hstep v with hsame | ⟨_, _, old, _, _, _, hold, _, hnew⟩ |
      ⟨report, _, _, _, hvalid, hnew⟩
    · exact h.recorded v status (hsame ▸ hstatus)
    · rw [hnew] at hstatus
      cases hstatus
      exact h.recorded v old hold
    · rw [hnew] at hstatus
      obtain ⟨_, _, rfl⟩ := Option.map_eq_some_iff.1 hstatus
      exact (WorkerStatus.postInit_eq_ok hvalid).2.1
  · intro v status hstatus
    have hposts := (mail_step hstep v).1
    generalize (s'.links v).statuses = statuses at hposts hstatus
    cases hposts with
    | kept => exact h.sent v status hstatus
    | arrived report rest hmail =>
        refine h.sent v status ?_
        rw [Link.statuses, hmail]
        exact List.mem_cons_of_mem report hstatus
    | left thread report hready =>
        rcases List.mem_append.1 hstatus with hold | hnew
        · exact h.sent v status hold
        · rw [List.mem_singleton.1 hnew]
          exact h.ready v thread report hready
    | lost => cases hstatus
  · intro v thread status hready
    have hstands := reporting_step hstep v thread
    generalize (s'.links v).reporting thread = r at hstands hready
    cases hstands with
    | kept => exact h.ready v thread status hready
    | due => cases hready
    | ready report hsnapshot =>
        cases hready
        exact snapshotStatus_eq_ok hsnapshot
    | quiet => cases hready

theorem attested_start {count : ℕ} {rng : RandomSource} (hstart : start c count rng = .ok s) :
    s.Attested c := by
  have htraced := traced_start hstart
  obtain ⟨master, hmaster, rfl⟩ := start_eq_ok hstart
  refine ⟨htraced, fun _ => rfl, ?_, ?_, ?_⟩
  · intro v status hstatus
    obtain ⟨conn, hconn, rfl⟩ := Option.map_eq_some_iff.1 hstatus
    exact ((Master.started_of_start hmaster).fresh v conn hconn).queueCapacity
  · intro v status hstatus
    cases hstatus
  · intro v thread status hready
    cases hready

theorem pendingFor_of_slot (hslot : s'.slot = s.slot) : s'.pendingFor w = s.pendingFor w := by
  rw [pendingFor, hslot, pendingFor]

theorem pendingFor_some {assignment : Master.Assignment} {k : ℕ}
    (hslot : s.slot = some (assignment, k)) :
    s.pendingFor w = if assignment.worker = w then 1 else 0 := by
  rw [pendingFor, hslot]
  by_cases hw : assignment.worker = w <;> simp [hw]

theorem gauge_quiet (h : s.Attested c) (ha : ¬ s.Misleads w a) (hstep : step c s a = some s')
    (hsend : ∀ thread, a ≠ .sendStatus w thread)
    (hstatuses : (s'.links w).statuses = (s.links w).statuses)
    (hstatus : s'.master.status w = s.master.status w)
    (hinflight : (s'.links w).toWorker.length + s'.pendingFor w =
      (s.links w).toWorker.length + s.pendingFor w) :
    Gauge.Step DEFAULT_QUEUE_CAPACITY (s.gauge w) (s'.gauge w) := by
  have hreports : (s'.gauge w).reports = (s.gauge w).reports :=
    congrArg (List.map WorkerStatus.queueSize) hstatuses
  have hestimate : (s'.gauge w).estimate = (s.gauge w).estimate := by
    change s'.recordedSize w = s.recordedSize w
    rw [recordedSize, hstatus, recordedSize]
  by_cases hpaid : s'.Owes w
  · exact .changed _ hpaid hreports hestimate
  · refine .calm _ ?_ (fun howes => ?_) hreports hestimate hinflight
    · exact congrArg Nat.cast (size_step h.traced.protocol hstep hpaid)
    · rcases owes_step h.traced.protocol hstep howes hpaid with ⟨thread, rfl⟩ | hfail
      · exact absurd rfl (hsend thread)
      · exact absurd (.inr (.inl hfail)) ha

/-- The receiver thread takes a task from the link: a report is due, or the queue is full. -/
theorem gauge_receiveTask (h : s.Attested c) {now : ℚ}
    (hstep : step c s (.receiveTask w now) = some s')
    (hstatuses : (s'.links w).statuses = (s.links w).statuses)
    (hstatus : s'.master.status w = s.master.status w) :
    Gauge.Step DEFAULT_QUEUE_CAPACITY (s.gauge w) (s'.gauge w) := by
  have hreports : (s'.gauge w).reports = (s.gauge w).reports :=
    congrArg (List.map WorkerStatus.queueSize) hstatuses
  have hestimate : (s'.gauge w).estimate = (s.gauge w).estimate := by
    change s'.recordedSize w = s.recordedSize w
    rw [recordedSize, hstatus, recordedSize]
  by_cases hpaid : s'.Owes w
  · exact .changed _ hpaid hreports hestimate
  have hsize := size_step h.traced.protocol hstep hpaid
  refine .refused _ ?_ (congrArg Nat.cast hsize) (fun howes => ?_) hreports hestimate
  · rw [← h.capacity w]
    refine Int.ofNat_le.2 ?_
    cases stepped_of_step hstep with
    | malformed _ _ message rest e hmail herror =>
        have hvalid := (h.traced.addressed w message (hmail ▸ List.mem_cons_self)).2
        rw [Copy.fromDict, show message.copy.task.postInit = .ok message.copy.task from hvalid]
          at herror
        cases herror
    | answered => exact absurd (owes_of_due _ w .receiver) hpaid
    | refused _ _ _ _ _ _ _ _ _ _ hresult =>
        by_contra hroom
        exact hresult (ReadyQueue.accepted_or_duplicate _ _ hroom)
    | moved _ _ _ hb _ => cases hb
  · rcases owes_step h.traced.protocol hstep howes hpaid with ⟨thread, hs⟩ | ⟨hf, _⟩
    · cases hs
    · cases hf

theorem gauge_nextAssignment (h : s.Attested c) {now : ℚ}
    (hstep : step c s (.nextAssignment now) = some s') :
    Gauge.Step DEFAULT_QUEUE_CAPACITY (s.gauge w) (s'.gauge w) := by
  obtain ⟨next, hslot, hnext, rfl⟩ : ∃ next, s.slot = none ∧
      s.master.nextAssignmentLocked now = some next ∧ s' = s.assigned next := by
    cases stepped_of_step hstep with
    | nextAssignment _ next hslot _ hnext => exact ⟨next, hslot, hnext, rfl⟩
    | moved _ _ _ hb _ => cases hb
  have hfree : s.pendingFor w = 0 := by
    rw [pendingFor, hslot]
    rfl
  obtain ⟨_, hres⟩ | ⟨t, p, task, _, _, _, master, hres, _, hback, _⟩ |
    ⟨t, p, task, conn, _, _, hchoose, master, hres, _, hassigned, _⟩ :=
    Master.nextAssignmentLocked_cases h.traced.governed.consistent now
  all_goals
    rw [hres] at hnext
    cases hnext
  · exact .calm _ rfl id rfl rfl rfl
  · refine .calm _ rfl id rfl ?_ rfl
    change recordedSize { s with master := master } w = s.recordedSize w
    rw [recordedSize, recordedSize, Master.status, Master.status, hback.workers]
  · have hworkers := hassigned.workers w
    obtain ⟨hconn, helig⟩ :=
      Master.chooseWorkerLocked_eq_some h.traced.governed.consistent hchoose
    split_ifs at hworkers with hw
    · subst hw
      have hstatus : s.master.status conn.workerId = some conn.status := by
        rw [Master.status, hconn, Option.map_some]
      have hnew : master.status conn.workerId =
          some { conn.status with queueSize := conn.status.queueSize + 1 } := by
        rw [Master.status, hworkers, hconn]
        rfl
      refine .sent _ rfl id rfl ?_ ?_ ?_
      · change s.recordedSize conn.workerId < _
        rw [recordedSize, hstatus, ← h.recorded _ _ hstatus]
        exact (Master.eligible_iff.1 helig).2.1
      · change ((master.status conn.workerId).map WorkerStatus.queueSize).getD 0 =
          s.recordedSize conn.workerId + 1
        rw [recordedSize, hstatus, hnew]
        rfl
      · change _ + pendingFor _ _ = _ + _ + 1
        rw [pendingFor_some rfl, if_pos rfl, hfree]
        rfl
    · refine .calm _ rfl id rfl ?_ ?_
      · change ((master.status w).map WorkerStatus.queueSize).getD 0 = s.recordedSize w
        rw [recordedSize, Master.status, hworkers, Master.status]
      · change _ + pendingFor _ _ = _ + _
        rw [pendingFor_some rfl, if_neg fun heq => hw heq.symm, hfree]
        rfl

theorem gauge_sendTask (hstep : step c s .sendTask = some s') :
    Gauge.Step DEFAULT_QUEUE_CAPACITY (s.gauge w) (s'.gauge w) := by
  obtain ⟨assignment, k, task, hslot, rfl⟩ : ∃ (assignment : Master.Assignment) (k : ℕ)
      (task : Task), s.slot = some (assignment, k) ∧
        s' = { s.setLink assignment.worker { s.links assignment.worker with
            toWorker := (s.links assignment.worker).toWorker ++
              [⟨⟨task, k⟩, assignment.priority⟩] } with
          slot := none } := by
    cases stepped_of_step hstep with
    | sendTask assignment k task hslot _ => exact ⟨assignment, k, task, hslot, rfl⟩
    | moved _ _ _ hb _ => cases hb
  have hlink : ∀ link : Link, (System.links { s.setLink assignment.worker link with
      slot := none } w) = if w = assignment.worker then link else s.links w :=
    fun link => links_setLink s assignment.worker w link
  refine .calm _ rfl (fun howes => ?_) ?_ rfl ?_
  · refine Owes.of_same howes ?_ rfl id
    rw [hlink]
    split_ifs with hw
    · rw [hw]
    · rfl
  · change List.map _ (Link.statuses _) = List.map _ (Link.statuses _)
    rw [hlink]
    split_ifs with hw
    · rw [hw]
      rfl
    · rfl
  · change (Link.toWorker _).length + 0 = (Link.toWorker _).length + s.pendingFor w
    rw [hlink, pendingFor_some hslot]
    split_ifs with hw hw' hw'
    · rw [hw, List.length_append]
      rfl
    · exact absurd hw.symm hw'
    · exact absurd hw'.symm hw
    · rfl

theorem gauge_arrived (h : s.Attested c) (hstep : step c s (.deliver w) = some s')
    {status : WorkerStatus} {rest : List WorkerMessage}
    (hmail : (s.links w).toMaster = .queueStatus status :: rest)
    (hstatuses : (s'.links w).statuses = rest.filterMap WorkerMessage.status) :
    Gauge.Step DEFAULT_QUEUE_CAPACITY (s.gauge w) (s'.gauge w) := by
  have hmine : status ∈ (s.links w).statuses := by
    rw [Link.statuses, hmail]
    exact List.mem_cons_self
  obtain ⟨hid, hvalid⟩ := h.sent w status hmine
  obtain ⟨master, hmaster, rfl⟩ : ∃ master, s.master.step (.queueStatus w status) = some master ∧
      s' = s.handled w rest master := by
    cases stepped_of_step hstep with
    | status _ _ _ master hmail' hmaster =>
        cases hmail.symm.trans hmail'
        exact ⟨master, hmaster, rfl⟩
    | judged _ _ _ copy b master hmail' hcopy =>
        cases hmail.symm.trans hmail'
        cases hcopy
    | moved _ _ _ hb _ => cases hb
  have hnew := Master.status_queueStatus hmaster hvalid hid
  refine .observed _ status.queueSize rfl (fun howes => ?_) ?_ ?_ ?_
  · refine Owes.of_same howes ?_ rfl id
    rw [links_handled_self]
  · change List.map _ (Link.statuses _) = _ :: List.map _ (Link.statuses _)
    rw [hstatuses, Link.statuses, hmail]
    rfl
  · change ((master.status w).map WorkerStatus.queueSize).getD 0 = status.queueSize
    rw [hnew]
    rfl
  · change ((s.handled w rest master).links w).toWorker.length + _ = _
    rw [links_handled_self]
    rfl

theorem gauge_left (h : s.Attested c) (ha : ¬ s.Misleads w (.sendStatus w thread))
    (hstep : step c s (.sendStatus w thread) = some s') {status : WorkerStatus}
    (hready : (s.links w).reporting thread = .ready status)
    (hstatuses : (s'.links w).statuses = (s.links w).statuses ++ [status]) :
    Gauge.Step DEFAULT_QUEUE_CAPACITY (s.gauge w) (s'.gauge w) := by
  obtain ⟨_, hvalid⟩ := h.ready w thread status hready
  obtain ⟨_, hcapacity, _, hsize⟩ := WorkerStatus.postInit_eq_ok hvalid
  obtain rfl : s' = (s.setReporting w thread .quiet).sendMaster w (.queueStatus status) := by
    cases stepped_of_step hstep with
    | sendStatus _ _ _ hready' =>
        cases hready.symm.trans hready'
        rfl
    | moved _ _ _ hb _ => cases hb
  have hlink : (((s.setReporting w thread .quiet).sendMaster w (.queueStatus status)).links w) =
      { (s.setReporting w thread .quiet).links w with
        toMaster := ((s.setReporting w thread .quiet).links w).toMaster ++
          [.queueStatus status] } := by
    simp only [sendMaster, links_setLink, if_true]
  refine .reported _ status.queueSize rfl (hcapacity ▸ hsize) (fun hpaid => ?_) ?_ rfl ?_
  · by_contra hne
    refine ha (.inl ⟨status, ?_, hne⟩)
    have hlast : ¬ (s.setReporting w thread .quiet).Owes w := by
      intro howes
      refine hpaid (Owes.of_same howes ?_ rfl id)
      rw [hlink]
    simp only [lastReport, true_and, hlast, not_false_eq_true, if_true, hready]
    rfl
  · change List.map _ (Link.statuses _) = List.map _ (Link.statuses _) ++ [_]
    rw [hstatuses, List.map_append]
    rfl
  · change (Link.toWorker _).length + _ = _
    rw [hlink]
    change ((s.setReporting w thread .quiet).links w).toWorker.length + _ = _
    rw [(setReporting_mail s w thread .quiet w).1]
    rfl

theorem pendingFor_sendFail (h : s.Traced c) {order : List TaskId}
    (hstep : step c s (.sendFail order) = some s')
    (hconnected : s'.master.connection w = some true) : s'.pendingFor w = s.pendingFor w := by
  cases stepped_of_step hstep with
  | sendFail assignment k _ master hslot hmaster =>
      have hne : assignment.worker ≠ w := by
        rintro rfl
        exact Master.connection_disconnectWorker h.governed.consistent hmaster hconnected
      rw [pendingFor_some hslot, if_neg hne]
      rfl
  | moved _ _ _ hb _ => cases hb

theorem gauge_step (h : s.Attested c) (ha : ¬ s.Misleads w a) (hstep : step c s a = some s')
    (hconnected : s'.master.connection w = some true) :
    Gauge.Step DEFAULT_QUEUE_CAPACITY (s.gauge w) (s'.gauge w) := by
  by_cases hsend : a = .sendTask
  · subst hsend
    exact gauge_sendTask hstep
  obtain ⟨hposts, hqueued⟩ := mail_step hstep w
  have hslot := (master_step hstep).2
  generalize hstatuses : (s'.links w).statuses = statuses at hposts
  cases hposts with
  | lost => exact absurd (.inr (.inr rfl)) ha
  | left thread status hready => exact gauge_left h ha hstep hready hstatuses
  | arrived status rest hmail => exact gauge_arrived h hstep hmail hstatuses
  | kept _ hquiet hdeliver =>
      rcases status_step h.traced hstep w with hsame | ⟨now, _, _, rfl, _⟩ |
        ⟨status, rest, hw, hreport, _⟩
      · have hpending : (∃ now, a = .nextAssignment now) ∨ s'.pendingFor w = s.pendingFor w := by
          rcases hslot with hslot | hnext | hsend' | ⟨order, rfl⟩
          · exact .inr (pendingFor_of_slot hslot)
          · exact .inl hnext
          · exact absurd hsend' hsend
          · exact .inr (pendingFor_sendFail h.traced hstep hconnected)
        rcases hpending with ⟨now, rfl⟩ | hpending
        · exact gauge_nextAssignment h hstep
        · rcases hqueued with hsent | hsend' | ⟨now, rfl⟩ | rfl
          · exact gauge_quiet h ha hstep hquiet hstatuses hsame (by rw [hsent, hpending])
          · exact absurd hsend' hsend
          · exact gauge_receiveTask h hstep hstatuses hsame
          · exact absurd (.inr (.inr rfl)) ha
      · exact gauge_nextAssignment h hstep
      · exact absurd hreport (hdeliver status rest hw)

/-- The view of the Master tracks the queue, as long as the worker is connected. -/
def TracksQueue (s : System) (w : WorkerId) : Prop :=
  s.master.connection w = some true → (s.gauge w).Tracks DEFAULT_QUEUE_CAPACITY

theorem tracksQueue_step (h : s.Attested c) (htracks : s.TracksQueue w)
    (ha : ¬ s.Misleads w a) (hstep : step c s a = some s') : s'.TracksQueue w := by
  intro hconnected
  refine (htracks ?_).step (gauge_step h ha hstep hconnected)
  rcases (master_step hstep).1 with hsame | ⟨b, _, hmaster⟩
  · rwa [hsame] at hconnected
  · exact (Master.step_effect h.traced.governed.consistent hmaster).2.connected hconnected

theorem tracksQueue_start {count : ℕ} {rng : RandomSource} (hstart : start c count rng = .ok s) :
    s.TracksQueue w := by
  obtain ⟨master, hmaster, rfl⟩ := start_eq_ok hstart
  intro hconnected
  obtain ⟨conn, hconn, _⟩ := Option.map_eq_some_iff.1 hconnected
  have hstatus : master.status w = some conn.status := by
    rw [Master.status, hconn, Option.map_some]
  have hzero : (gauge { master := master } w).estimate = 0 := by
    change ((master.status w).map WorkerStatus.queueSize).getD 0 = 0
    rw [hstatus]
    exact ((Master.started_of_start hmaster).fresh w conn hconn).queueSize
  refine ⟨?_, ?_, ?_, ?_⟩
  · rw [hzero]
    decide
  · intro k hk
    cases hk
  · intro _ k hk
    cases hk
  · intro _ _
    rw [hzero]
    exact ⟨le_rfl, le_rfl⟩

/-- **Settled views are right.** In a run in which no step misleads the Master about `w`,
it has recorded the real size of the queue of `w` whenever `w` is settled. -/
theorem settled_along {count : ℕ} {rng : RandomSource} {s₀ : System} {acts : List Action}
    (hstart : start c count rng = .ok s₀)
    (hkept : Transition.Along (step c) (fun s a => ¬ s.Misleads w a) s₀ acts) :
    Transition.Visits (step c) (fun s => s.Settled w → s.SeesQueue w) s₀ acts := by
  refine Transition.visits_along (I := fun s => s.Attested c ∧ s.TracksQueue w) ?_
    (fun s a s' h ha hstep => ⟨attested_step h.1 hstep, tracksQueue_step h.1 h.2 ha hstep⟩)
    ⟨attested_start hstart, tracksQueue_start hstart⟩ hkept
  intro s ⟨_, htracks⟩ hsettled
  have hpaid : ¬ s.Owes w := by
    rintro (⟨thread, _, hdue⟩ | hserved | hconfirming)
    · exact hdue (hsettled.quiet thread)
    · rw [hsettled.server] at hserved
      cases hserved
    · rw [hsettled.monitor] at hconfirming
      cases hconfirming
  have hpending : s.pendingFor w = 0 := by
    cases hslot : s.slot with
    | none =>
        rw [pendingFor, hslot]
        rfl
    | some pending => rw [pendingFor_some hslot, if_neg (hsettled.slot _ _ hslot)]
  refine (htracks hsettled.connected).settled hpaid ?_ ?_
  · change List.map _ (Link.statuses _) = []
    rw [Link.statuses, hsettled.toMaster]
    rfl
  · change (Link.toWorker _).length + _ = 0
    rw [hsettled.toWorker, hpending]
    rfl

instance (s : System) (w : WorkerId) : Decidable (s.Settled w) :=
  decidable_of_iff
    (s.master.connection w = some true ∧ (s.net.nodes w).processor = .idle ∧
      (s.net.nodes w).server = none ∧ (s.net.nodes w).monitor.isConfirming = false ∧
      (∀ thread ∈ threads, s.Quiet w thread) ∧
      (∀ pending ∈ s.slot, pending.1.worker ≠ w) ∧
      (s.links w).toWorker = [] ∧ (s.links w).toMaster = [] ∧ (s.links w).overflow = none) <| by
    constructor
    · rintro ⟨h₁, h₂, h₃, h₄, hquiet, hslot, h₅, h₆, h₇⟩
      exact ⟨h₁, h₂, h₃, h₄, fun thread => hquiet thread (mem_threads thread),
        fun assignment k hk => hslot (assignment, k) hk, h₅, h₆, h₇⟩
    · intro h
      exact ⟨h.connected, h.processor, h.server, h.monitor, fun thread _ => h.quiet thread,
        fun pending hk => h.slot pending.1 pending.2 hk, h.toWorker, h.toMaster, h.overflow⟩

/-- `worker1` gets a task; the processor takes it before the receiver thread has sent its
report. -/
def accepting : List Action :=
  dispatching 1 ++ [.receiveTask "worker1" 0, .snapshot "worker1" .receiver,
    .dequeue "worker1", .snapshot "worker1" .processor]

/-- The processor finishes the task. -/
def finishing : List Action :=
  [.sendResult "worker1" true, .markDone "worker1", .snapshot "worker1" .processor,
    .sendStatus "worker1" .processor]

/-- The receiver thread sends its report while the processor still owes one. -/
def inOrder : List Action :=
  accepting ++ [.sendStatus "worker1" .receiver, .sendStatus "worker1" .processor] ++ finishing ++
    List.replicate 4 (.deliver "worker1")

/-- The report of the receiver thread is overtaken by those of the processor. -/
def overtaken : List Action :=
  accepting ++ [.sendStatus "worker1" .processor] ++ finishing ++
    [.sendStatus "worker1" .receiver] ++ List.replicate 4 (.deliver "worker1")

set_option maxRecDepth 100000 in
theorem settled_along_inOrder :
    ∃ s₀ s, start four 2 .first = .ok s₀ ∧ Transition.run (step four) s₀ inOrder = some s ∧
      s.Settled "worker1" ∧
      Transition.Visits (step four) (fun s => s.Settled "worker1" → s.SeesQueue "worker1")
        s₀ inOrder := by
  obtain ⟨s₀, s, hstart, hrun, hsettled⟩ := exists_reached four 2 .first inOrder
    (p := fun s => s.Settled "worker1") (by decide +kernel)
  have halong : (start four 2 .first).toOption.any (fun s₀ =>
      decide (Transition.Along (step four) (fun s a => ¬ s.Misleads "worker1" a) s₀ inOrder)) =
        true := by decide +kernel
  rw [hstart] at halong
  exact ⟨s₀, s, hstart, hrun, hsettled, settled_along hstart (of_decide_eq_true halong)⟩

set_option maxRecDepth 100000 in
/-- Without any fault, the Master is left with one task in a queue that is empty. -/
theorem not_seesQueue_overtaken :
    ∃ s₀ s, start four 2 .first = .ok s₀ ∧ Transition.run (step four) s₀ overtaken = some s ∧
      (∀ a ∈ overtaken, a.isFault = false) ∧ s.Settled "worker1" ∧
      s.recordedSize "worker1" = 1 ∧ (s.net.nodes "worker1").queue.sizeLocked = 0 ∧
      ¬ s.SeesQueue "worker1" := by
  obtain ⟨s₀, s, hstart, hrun, hsettled, hrecorded, hreal, hbad⟩ :=
    exists_reached four 2 .first overtaken
      (p := fun s => s.Settled "worker1" ∧ s.recordedSize "worker1" = 1 ∧
        (s.net.nodes "worker1").queue.sizeLocked = 0 ∧ ¬ s.SeesQueue "worker1")
      (by decide +kernel)
  exact ⟨s₀, s, hstart, hrun, by decide, hsettled, hrecorded, hreal, hbad⟩

end

end System

end KVStore
