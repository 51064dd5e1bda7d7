import KVStore.Cluster.System

/-!
# The steps of the system, one by one

`Stepped` lists what each step finds and leaves. What every step preserves is shown by
its cases, without looking into the definitions of the steps again.
-/

namespace KVStore

namespace System

def assigned (s : System) : Option Master.Assignment × Master → System
  | (none, master) => { s with master := master }
  | (some assignment, master) =>
      { s with
        master := master
        slot := some (assignment, s.dispatches.length)
        dispatches := s.dispatches ++ [(assignment.task.taskId, assignment.worker)] }

def received (s : System) (w : WorkerId) (rest : List TaskMessage) (net : Net) : System :=
  { s.setLink w { s.links w with toWorker := rest } with net := net }

def handled (s : System) (w : WorkerId) (rest : List WorkerMessage) (master : Master) : System :=
  { s.setLink w { s.links w with toMaster := rest } with master := master }

/-- The step of the workers that is all that a step does to them, but for a report that
is due afterwards. -/
def Action.netAction : Action → Option Net.Action
  | .dequeue w => some (.dequeue w)
  | .markDone w => some (.markDone w)
  | .balance w requestId count => some (.balance w requestId count)
  | .receiveReply w => some (.receive w)
  | .serve w requestId now => some (.serve w requestId now)
  | .respond w => some (.respond w)
  | .giveUp w => some (.giveUp w)
  | .respondFail w => some (.respondFail w)
  | .loseRequest requestId => some (.loseRequest requestId)
  | .loseReply requestId => some (.loseReply requestId)
  | _ => none

/-- The thread whose report is due after such a step. -/
def dueThread (s : System) (net : Net) : Action → Option (WorkerId × Thread)
  | .dequeue w =>
      match (net.nodes w).processor with
      | .working _ => some (w, .processor)
      | _ => none
  | .markDone w => some (w, .processor)
  | .balance w _ _ =>
      match (s.net.nodes w).monitor with
      | .confirming _ _ _ [] => some (w, .monitor)
      | _ => none
  | .respond w =>
      match (s.net.nodes w).server with
      | some (_, true) => some (w, .server)
      | _ => none
  | _ => none

def withDue (s : System) : Option (WorkerId × Thread) → System
  | none => s
  | some (w, thread) => s.setReporting w thread .due

/-- The locked sections that handle the result of `copy` from `w`. -/
def Judges (w : WorkerId) (copy : Copy) (b : Master.Action) : Prop :=
  b = .handleSuccess w (successPayload w copy) ∨
    ∃ reason, b = .handleFailure w (failPayload w copy reason)

/-- What each step finds and leaves. -/
inductive Stepped (c : Config) (s : System) : Action → System → Prop
  | nextAssignment (now : ℚ) (next : Option Master.Assignment × Master) (hslot : s.slot = none)
      (hnow : 0 ≤ now) (hnext : s.master.nextAssignmentLocked now = some next) :
      Stepped c s (.nextAssignment now) (s.assigned next)
  | sendTask (assignment : Master.Assignment) (k : ℕ) (task : Task)
      (hslot : s.slot = some (assignment, k))
      (htask : s.master.tasks.lookup assignment.task.taskId = some task) :
      Stepped c s .sendTask
        { s.setLink assignment.worker { s.links assignment.worker with
            toWorker := (s.links assignment.worker).toWorker ++
              [⟨⟨task, k⟩, assignment.priority⟩] } with
          slot := none }
  | status (w : WorkerId) (status : WorkerStatus) (rest : List WorkerMessage) (master : Master)
      (hmail : (s.links w).toMaster = .queueStatus status :: rest)
      (hmaster : s.master.step (.queueStatus w status) = some master) :
      Stepped c s (.deliver w) (s.handled w rest master)
  | judged (w : WorkerId) (message : WorkerMessage) (rest : List WorkerMessage) (copy : Copy)
      (b : Master.Action) (master : Master) (hmail : (s.links w).toMaster = message :: rest)
      (hcopy : message.copy = some copy) (hb : Judges w copy b)
      (hmaster : s.master.step b = some master) :
      Stepped c s (.deliver w) (s.handled w rest master)
  | malformed (w : WorkerId) (now : ℚ) (message : TaskMessage) (rest : List TaskMessage)
      (e : String) (hmail : (s.links w).toWorker = message :: rest)
      (hdecoded : message.copy.fromDict = .error e) :
      Stepped c s (.receiveTask w now) (s.setLink w { s.links w with toWorker := rest })
  | answered (w : WorkerId) (now : ℚ) (message : TaskMessage) (rest : List TaskMessage)
      (decoded : Copy) (net : Net) (hmail : (s.links w).toWorker = message :: rest)
      (hdecoded : message.copy.fromDict = .ok decoded)
      (hnet : s.net.step c (.enqueue w (decoded.restamp now) message.priority) = some net)
      (hresult : ((s.net.nodes w).queue.tryEnqueue (decoded.restamp now)
          message.priority).1.accepted = true ∨
        ((s.net.nodes w).queue.tryEnqueue (decoded.restamp now)
          message.priority).1.reason = some "duplicate") :
      Stepped c s (.receiveTask w now) ((s.received w rest net).setReporting w .receiver .due)
  | refused (w : WorkerId) (now : ℚ) (message : TaskMessage) (rest : List TaskMessage)
      (decoded : Copy) (net : Net) (hfree : (s.links w).overflow = none)
      (hmail : (s.links w).toWorker = message :: rest)
      (hdecoded : message.copy.fromDict = .ok decoded)
      (hnet : s.net.step c (.enqueue w (decoded.restamp now) message.priority) = some net)
      (hresult : ¬ (((s.net.nodes w).queue.tryEnqueue (decoded.restamp now)
          message.priority).1.accepted = true ∨
        ((s.net.nodes w).queue.tryEnqueue (decoded.restamp now)
          message.priority).1.reason = some "duplicate")) :
      Stepped c s (.receiveTask w now)
        ((s.received w rest net).setLink w { (s.received w rest net).links w with
          overflow := some (decoded.restamp now) })
  | sendOverflow (w : WorkerId) (copy : Copy) (hoverflow : (s.links w).overflow = some copy) :
      Stepped c s (.sendOverflow w)
        ((s.setLink w { s.links w with overflow := none }).sendMaster w
          (.resultFail copy "queue overflow"))
  | sendResult (w : WorkerId) (succeeded : Bool) (copy : Copy) (message : WorkerMessage)
      (net : Net) (hworking : (s.net.nodes w).processor = .working copy)
      (hcopy : message.copy = some copy) (hnet : s.net.step c (.report w) = some net) :
      Stepped c s (.sendResult w succeeded) (({ s with net := net } : System).sendMaster w message)
  | moved (a : Action) (b : Net.Action) (net : Net) (hb : a.netAction = some b)
      (hnet : s.net.step c b = some net) :
      Stepped c s a (({ s with net := net } : System).withDue (s.dueThread net a))
  | snapshot (w : WorkerId) (thread : Thread) (status : WorkerStatus)
      (hsnapshot : (s.net.nodes w).queue.snapshotStatus w = .ok status) :
      Stepped c s (.snapshot w thread) (s.setReporting w thread (.ready status))
  | sendStatus (w : WorkerId) (thread : Thread) (status : WorkerStatus)
      (hready : (s.links w).reporting thread = .ready status) :
      Stepped c s (.sendStatus w thread)
        ((s.setReporting w thread .quiet).sendMaster w (.queueStatus status))
  | disconnect (w : WorkerId) (order : List TaskId) (master : Master)
      (hmaster : s.master.step (.disconnectWorker w order) = some master) :
      Stepped c s (.disconnect w order) { s with master := master }
  | sendFail (assignment : Master.Assignment) (k : ℕ) (order : List TaskId) (master : Master)
      (hslot : s.slot = some (assignment, k))
      (hmaster : s.master.step (.disconnectWorker assignment.worker order) = some master) :
      Stepped c s (.sendFail order) { s with slot := none, master := master }
  | cut (w : WorkerId) :
      Stepped c s (.cut w) (s.setLink w { s.links w with toWorker := [], toMaster := [] })

section Steps

variable {c : Config} {s s' : System} {a : Action} {w : WorkerId}

theorem master_assigned (s : System) (next : Option Master.Assignment × Master) :
    (s.assigned next).master = next.2 := by
  obtain ⟨x, master⟩ := next
  cases x <;> rfl

theorem links_assigned (s : System) (next : Option Master.Assignment × Master) :
    (s.assigned next).links = s.links := by
  obtain ⟨x, master⟩ := next
  cases x <;> rfl

theorem net_assigned (s : System) (next : Option Master.Assignment × Master) :
    (s.assigned next).net = s.net := by
  obtain ⟨x, master⟩ := next
  cases x <;> rfl

theorem master_withDue (s : System) (due : Option (WorkerId × Thread)) :
    (s.withDue due).master = s.master := by
  cases due <;> rfl

theorem slot_withDue (s : System) (due : Option (WorkerId × Thread)) :
    (s.withDue due).slot = s.slot := by
  cases due <;> rfl

theorem dispatches_withDue (s : System) (due : Option (WorkerId × Thread)) :
    (s.withDue due).dispatches = s.dispatches := by
  cases due <;> rfl

theorem net_withDue (s : System) (due : Option (WorkerId × Thread)) :
    (s.withDue due).net = s.net := by
  cases due <;> rfl

theorem links_setLink (s : System) (w v : WorkerId) (link : Link) :
    (s.setLink w link).links v = if v = w then link else s.links v := by
  simp only [setLink, Function.update_apply]

theorem links_setLink_self (s : System) (w : WorkerId) (link : Link) :
    (s.setLink w link).links w = link := by
  rw [links_setLink, if_pos rfl]

theorem links_handled_self (s : System) (w : WorkerId) (rest : List WorkerMessage)
    (master : Master) : (s.handled w rest master).links w = { s.links w with toMaster := rest } :=
  links_setLink_self s w _

theorem links_received_self (s : System) (w : WorkerId) (rest : List TaskMessage) (net : Net) :
    (s.received w rest net).links w = { s.links w with toWorker := rest } :=
  links_setLink_self s w _

theorem stepped_of_netStep {b : Net.Action} {f : System → System}
    (hstep : (s.netStep c b).map f = some s') (hb : a.netAction = some b)
    (hf : ∀ net, f { s with net := net } =
      ({ s with net := net } : System).withDue (s.dueThread net a)) : Stepped c s a s' := by
  obtain ⟨s₁, hs₁, rfl⟩ := Option.map_eq_some_iff.1 hstep
  obtain ⟨net, hnet, rfl⟩ := Option.map_eq_some_iff.1 hs₁
  rw [hf net]
  exact .moved a b net hb hnet

theorem stepped_of_internal {b : Net.Action} (hstep : s.netStep c b = some s')
    (hb : a.netAction = some b) (hdue : ∀ net, s.dueThread net a = none) : Stepped c s a s' := by
  refine stepped_of_netStep (f := id) (by rw [hstep, Option.map_some, id]) hb fun net => ?_
  rw [hdue, withDue, id]

theorem stepped_of_deliver (hstep : s.deliver w = some s') : Stepped c s (.deliver w) s' := by
  unfold deliver at hstep
  cases hmail : (s.links w).toMaster with
  | nil => simp [hmail] at hstep
  | cons message rest =>
      simp only [hmail] at hstep
      cases message with
      | queueStatus status =>
          obtain ⟨master, hmaster, rfl⟩ := Option.map_eq_some_iff.1 hstep
          exact .status w status rest master hmail hmaster
      | resultSuccess copy =>
          obtain ⟨master, hmaster, rfl⟩ := Option.map_eq_some_iff.1 hstep
          exact .judged w _ rest copy _ master hmail rfl (.inl rfl) hmaster
      | resultFail copy reason =>
          obtain ⟨master, hmaster, rfl⟩ := Option.map_eq_some_iff.1 hstep
          exact .judged w _ rest copy _ master hmail rfl (.inr ⟨reason, rfl⟩) hmaster

theorem stepped_of_receiveTask {now : ℚ} (hstep : s.receiveTask c w now = some s') :
    Stepped c s (.receiveTask w now) s' := by
  unfold receiveTask at hstep
  split_ifs at hstep with hguard
  cases hmail : (s.links w).toWorker with
  | nil => simp [hmail] at hstep
  | cons message rest =>
      simp only [hmail] at hstep
      cases hdecoded : message.copy.fromDict with
      | error e =>
          simp only [hdecoded] at hstep
          cases hstep
          exact .malformed w now message rest e hmail hdecoded
      | ok decoded =>
          simp only [hdecoded] at hstep
          obtain ⟨s₁, hs₁, rfl⟩ := Option.map_eq_some_iff.1 hstep
          obtain ⟨net, hnet, rfl⟩ := Option.map_eq_some_iff.1 hs₁
          split_ifs with hresult
          · exact .answered w now message rest decoded net hmail hdecoded hnet hresult
          · exact .refused w now message rest decoded net hguard.2.1 hmail hdecoded hnet hresult

theorem stepped_of_step (hstep : step c s a = some s') : Stepped c s a s' := by
  cases a with
  | nextAssignment now =>
      rw [step, System.nextAssignment] at hstep
      split_ifs at hstep with hguard
      obtain ⟨⟨x, master⟩, hnext, rfl⟩ := Option.map_eq_some_iff.1 hstep
      cases x <;> exact .nextAssignment now _ hguard.1 hguard.2.1 hnext
  | sendTask =>
      obtain ⟨⟨assignment, k⟩, hslot, hstep⟩ := Option.bind_eq_some_iff.1 hstep
      obtain ⟨task, htask, rfl⟩ := Option.map_eq_some_iff.1 hstep
      exact .sendTask assignment k task hslot htask
  | deliver w => exact stepped_of_deliver hstep
  | receiveTask w now => exact stepped_of_receiveTask hstep
  | sendOverflow w =>
      obtain ⟨copy, hoverflow, rfl⟩ := Option.map_eq_some_iff.1 hstep
      exact .sendOverflow w copy hoverflow
  | dequeue w =>
      rw [step, System.dequeue] at hstep
      split_ifs at hstep
      refine stepped_of_netStep hstep rfl fun net => ?_
      cases h : (net.nodes w).processor <;> simp only [dueThread, h, withDue]
  | sendResult w succeeded =>
      rw [step, System.sendResult] at hstep
      by_cases hquiet : s.Quiet w .processor
      swap
      · rw [if_neg hquiet] at hstep
        cases hstep
      rw [if_pos hquiet] at hstep
      cases hworking : (s.net.nodes w).processor with
      | idle => simp [hworking] at hstep
      | reported copy => simp [hworking] at hstep
      | working copy =>
          simp only [hworking] at hstep
          obtain ⟨s₁, hs₁, rfl⟩ := Option.map_eq_some_iff.1 hstep
          obtain ⟨net, hnet, rfl⟩ := Option.map_eq_some_iff.1 hs₁
          refine .sendResult w succeeded copy _ net hworking ?_ hnet
          cases succeeded <;> rfl
  | markDone w =>
      rw [step, System.markDone] at hstep
      split_ifs at hstep
      exact stepped_of_netStep hstep rfl fun _ => rfl
  | balance w requestId count =>
      rw [step, System.balance] at hstep
      split_ifs at hstep
      refine stepped_of_netStep hstep rfl fun net => ?_
      rw [dueThread]
      generalize (s.net.nodes w).monitor = monitor
      cases monitor with
      | confirming _ _ _ remaining => cases remaining <;> rfl
      | _ => rfl
  | receiveReply w => exact stepped_of_internal hstep rfl fun _ => rfl
  | serve w requestId now =>
      rw [step, System.serve] at hstep
      split_ifs at hstep
      exact stepped_of_internal hstep rfl fun _ => rfl
  | respond w =>
      refine stepped_of_netStep hstep rfl fun net => ?_
      rw [dueThread]
      generalize (s.net.nodes w).server = server
      rcases server with _ | ⟨_, _ | _⟩ <;> rfl
  | snapshot w thread =>
      rw [step, System.snapshot] at hstep
      split at hstep
      · split at hstep
        · next status hsnapshot =>
            cases hstep
            exact .snapshot w thread status hsnapshot
        · cases hstep
      · cases hstep
  | sendStatus w thread =>
      rw [step, System.sendStatus] at hstep
      split at hstep
      · next status hready =>
          cases hstep
          exact .sendStatus w thread status hready
      · cases hstep
  | disconnect w order =>
      obtain ⟨master, hmaster, rfl⟩ := Option.map_eq_some_iff.1 hstep
      exact .disconnect w order master hmaster
  | sendFail order =>
      obtain ⟨⟨assignment, k⟩, hslot, hstep⟩ := Option.bind_eq_some_iff.1 hstep
      obtain ⟨master, hmaster, rfl⟩ := Option.map_eq_some_iff.1 hstep
      exact .sendFail assignment k order master hslot hmaster
  | cut w =>
      cases hstep
      exact .cut w
  | giveUp w => exact stepped_of_internal hstep rfl fun _ => rfl
  | respondFail w => exact stepped_of_internal hstep rfl fun _ => rfl
  | loseRequest requestId => exact stepped_of_internal hstep rfl fun _ => rfl
  | loseReply requestId => exact stepped_of_internal hstep rfl fun _ => rfl

/-- A step that makes the workers take the step `b` and does no more than that. -/
theorem moved_of_step {b : Net.Action} (hstep : step c s a = some s')
    (hb : a.netAction = some b) :
    s.net.step c b = some s'.net ∧
      s' = ({ s with net := s'.net } : System).withDue (s.dueThread s'.net a) := by
  cases stepped_of_step hstep with
  | moved _ b' net hb' hnet =>
      cases hb.symm.trans hb'
      rw [net_withDue]
      exact ⟨hnet, rfl⟩
  | _ => cases hb

end Steps

end System

end KVStore
