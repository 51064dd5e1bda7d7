import KVStore.Cluster.Steps
import KVStore.Master.Records
import KVStore.Worker.Circulation

/-!
# What a step of the system does

Most steps only move a thread on: they report a queue, ask a peer, or put a task
back. `Effect` lists the others, which assign a task, move a copy between the Master
and a worker, or lose something, and `step_effect` says that there is nothing else.
-/

namespace KVStore

open HasTaskId

/-- The links carry the same copies. -/
structure Link.SameMail (link link' : Link) : Prop where
  toWorker : link'.toWorker = link.toWorker
  overflow : link'.overflow = link.overflow
  toMaster : link'.toMaster.filterMap WorkerMessage.copy =
    link.toMaster.filterMap WorkerMessage.copy

theorem Link.SameMail.refl (link : Link) : link.SameMail link := ⟨rfl, rfl, rfl⟩

namespace Net

/-- A step that neither admits a copy nor sends a result. -/
def Action.isInternal : Action → Bool
  | .enqueue _ _ _ => false
  | .report _ => false
  | _ => true

theorem arrivals_of_isInternal {n : Net} {b : Action} (h : b.isInternal = true) :
    n.arrivals b = 0 := by
  cases b <;> first | rfl | cases h

theorem departures_of_isInternal {n : Net} {b : Action} (h : b.isInternal = true) :
    n.departures b = 0 := by
  cases b <;> first | rfl | cases h

/-- The workers' own steps: none, or one that neither admits a copy nor sends a
result, and that gives up waiting only if that is a fault. -/
def Moves (c : Config) (n n' : Net) (fault : Bool) : Prop :=
  n' = n ∨ ∃ b, step c n b = some n' ∧ b.isInternal = true ∧
    ∀ w, b = .giveUp w → fault = true

end Net

namespace System

/-- The step leaves the Master, the distributor and the results as they are. -/
structure SameMaster (s s' : System) : Prop where
  master : s'.master = s.master
  slot : s'.slot = s.slot
  dispatches : s'.dispatches = s.dispatches
  results : s'.results = s.results

/-- The links are those of `s`, but the one of `w` carries what `link` does. -/
def LinksWith (s s' : System) (w : WorkerId) (link : Link) : Prop :=
  ∀ v, ((s.setLink w link).links v).SameMail (s'.links v)

/-- What one step can do. -/
inductive Effect (c : Config) (s : System) : Action → System → Prop
  | quiet (a : Action) (s' : System) (ha : ∀ w now, a ≠ .receiveTask w now)
      (hwork : s.master.SameWork s'.master) (hslot : s'.slot = s.slot)
      (hdispatches : s'.dispatches = s.dispatches) (hresults : s'.results = s.results)
      (hnet : s.net.Moves c s'.net a.isFault)
      (hlinks : ∀ v, (s.links v).SameMail (s'.links v)) : Effect c s a s'
  | assigned (now : ℚ) (t : TaskId) (p : Bool) (task : Task) (w : WorkerId)
      (master : Master) (hslot : s.slot = none)
      (hwaiting : Ledger.Waiting s.master.place t)
      (htask : s.master.tasks.lookup t = some task)
      (hconnected : s.master.connection w = some true)
      (h : Master.Assigned s.master (Master.sentTo w now task) w master) :
      Effect c s (.nextAssignment now)
        { s with
          master := master
          slot := some (⟨Master.sentTo w now task, w, p⟩, s.dispatches.length)
          dispatches := s.dispatches ++ [(t, w)] }
  | sent (assignment : Master.Assignment) (k : ℕ) (task : Task)
      (hslot : s.slot = some (assignment, k))
      (htask : s.master.tasks.lookup assignment.task.taskId = some task) :
      Effect c s .sendTask
        { s.setLink assignment.worker { s.links assignment.worker with
            toWorker := (s.links assignment.worker).toWorker ++
              [⟨⟨task, k⟩, assignment.priority⟩] } with
          slot := none }
  | judged (w : WorkerId) (message : WorkerMessage) (rest : List WorkerMessage)
      (copy : Copy) (b : Master.Action) (master : Master)
      (hmail : (s.links w).toMaster = message :: rest) (hcopy : message.copy = some copy)
      (hb : Judges w copy b) (hmaster : s.master.step b = some master) :
      Effect c s (.deliver w)
        { s.setLink w { s.links w with toMaster := rest } with master := master }
  | admitted (w : WorkerId) (now : ℚ) (message : TaskMessage) (rest : List TaskMessage)
      (copy : Copy) (s' : System) (hmail : (s.links w).toWorker = message :: rest)
      (htoken : copy.token = message.copy.token) (hsame : s.SameMaster s')
      (hnew : message.copy.task.taskId ∉ (s.net.nodes w).queue.activeTaskIds)
      (hnet : s.net.step c (.enqueue w copy message.priority) = some s'.net)
      (haccepted :
        ((s.net.nodes w).queue.tryEnqueue copy message.priority).1.accepted = true)
      (hlinks : s.LinksWith s' w { s.links w with toWorker := rest }) :
      Effect c s (.receiveTask w now) s'
  | duplicate (w : WorkerId) (now : ℚ) (message : TaskMessage) (rest : List TaskMessage)
      (s' : System) (hmail : (s.links w).toWorker = message :: rest)
      (hsame : s.SameMaster s')
      (hactive : message.copy.task.taskId ∈ (s.net.nodes w).queue.activeTaskIds)
      (hnet : s'.net = s.net)
      (hlinks : s.LinksWith s' w { s.links w with toWorker := rest }) :
      Effect c s (.receiveTask w now) s'
  | full (w : WorkerId) (now : ℚ) (message : TaskMessage) (rest : List TaskMessage)
      (copy : Copy) (s' : System) (hmail : (s.links w).toWorker = message :: rest)
      (htoken : copy.token = message.copy.token) (hsame : s.SameMaster s')
      (hfree : (s.links w).overflow = none)
      (hnew : message.copy.task.taskId ∉ (s.net.nodes w).queue.activeTaskIds)
      (hnet : s'.net = s.net)
      (hlinks : s.LinksWith s' w
        { s.links w with toWorker := rest, overflow := some copy }) :
      Effect c s (.receiveTask w now) s'
  | malformed (w : WorkerId) (now : ℚ) (message : TaskMessage) (rest : List TaskMessage)
      (e : String) (hmail : (s.links w).toWorker = message :: rest)
      (herror : message.copy.fromDict = .error e) :
      Effect c s (.receiveTask w now) (s.setLink w { s.links w with toWorker := rest })
  | overflowed (w : WorkerId) (copy : Copy) (hoverflow : (s.links w).overflow = some copy) :
      Effect c s (.sendOverflow w)
        ((s.setLink w { s.links w with overflow := none }).sendMaster w
          (.resultFail copy "queue overflow"))
  | concluded (w : WorkerId) (succeeded : Bool) (copy : Copy) (message : WorkerMessage)
      (net : Net) (hworking : (s.net.nodes w).processor = .working copy)
      (hcopy : message.copy = some copy) (hnet : s.net.step c (.report w) = some net) :
      Effect c s (.sendResult w succeeded) (({ s with net := net } : System).sendMaster w message)
  | disconnected (a : Action) (ha : a.isFault = true) (w : WorkerId) (order : List TaskId)
      (master : Master) (slot : Option (Master.Assignment × ℕ))
      (hslot : slot = s.slot ∨ slot = none)
      (hmaster : s.master.step (.disconnectWorker w order) = some master) :
      Effect c s a { s with master := master, slot := slot }
  | cut (w : WorkerId) :
      Effect c s (.cut w) (s.setLink w { s.links w with toWorker := [], toMaster := [] })

section Step

variable {c : Config} {s s' : System} {a : Action} {w : WorkerId}

theorem sameMail_setLink {link : Link} (h : (s.links w).SameMail link) (v : WorkerId) :
    (s.links v).SameMail ((s.setLink w link).links v) := by
  rw [links_setLink]
  split_ifs with hv
  · exact hv ▸ h
  · exact .refl _

theorem sameMail_setReporting (s : System) (w : WorkerId) (thread : Thread) (r : Reporting)
    (v : WorkerId) : (s.links v).SameMail ((s.setReporting w thread r).links v) := by
  have hsame : (s.links w).SameMail { s.links w with
      reporting := Function.update (s.links w).reporting thread r } := ⟨rfl, rfl, rfl⟩
  exact sameMail_setLink hsame v

theorem effect_moved {b : Net.Action} {net : Net} (hb : a.netAction = some b)
    (hnet : s.net.step c b = some net) :
    Effect c s a (({ s with net := net } : System).withDue (s.dueThread net a)) := by
  have hinternal : b.isInternal = true := by
    cases a <;> cases hb <;> rfl
  have hgiveUp : ∀ w, b = .giveUp w → a.isFault = true := by
    rintro w rfl
    cases a <;> cases hb
    rfl
  have ha : ∀ w now, a ≠ .receiveTask w now := by
    rintro w now rfl
    cases hb
  have hmoves : s.net.Moves c net a.isFault := .inr ⟨b, hnet, hinternal, hgiveUp⟩
  cases s.dueThread net a with
  | none => exact .quiet _ _ ha (.refl _) rfl rfl rfl hmoves fun v => .refl _
  | some due =>
      exact .quiet _ _ ha (.refl _) rfl rfl rfl hmoves
        (sameMail_setReporting s due.1 due.2 .due)

theorem effect_of_links (ha : ∀ w now, a ≠ .receiveTask w now)
    (hlinks : ∀ v, (s.links v).SameMail (s'.links v))
    (hmaster : s'.master = s.master) (hslot : s'.slot = s.slot)
    (hdispatches : s'.dispatches = s.dispatches) (hresults : s'.results = s.results)
    (hnet : s'.net = s.net) : Effect c s a s' :=
  .quiet a s' ha (hmaster ▸ .refl _) hslot hdispatches hresults (.inl hnet) hlinks

theorem effect_nextAssignment (hm : Master.Governed c.workers s.master) {now : ℚ}
    {next : Option Master.Assignment × Master} (hslot : s.slot = none)
    (hnext : s.master.nextAssignmentLocked now = some next) :
    Effect c s (.nextAssignment now) (s.assigned next) := by
  obtain ⟨_, hres⟩ | ⟨t, p, task, _, _, _, master, hres, _, hback, _⟩ |
    ⟨t, p, task, conn, hhead, htask, hchoose, master, hres, _, hassigned, _⟩ :=
    Master.nextAssignmentLocked_cases hm.consistent now
  · rw [hres] at hnext
    cases hnext
    exact .quiet _ _ nofun (.refl _) rfl rfl rfl (.inl rfl) fun v => .refl _
  · rw [hres] at hnext
    cases hnext
    exact .quiet _ _ nofun hback.sameWork rfl rfl rfl (.inl rfl) fun v => .refl _
  · rw [hres] at hnext
    cases hnext
    obtain ⟨hconn, helig⟩ := Master.chooseWorkerLocked_eq_some hm.consistent hchoose
    have hid : (Master.sentTo conn.workerId now task).taskId = t :=
      hm.consistent.task_id t task htask
    have hconnected : s.master.connection conn.workerId = some true := by
      rw [Master.connection, hconn, Option.map_some]
      simp only [Master.eligible, Bool.and_eq_true] at helig
      rw [helig.1.1]
    have heffect : Effect c s (.nextAssignment now) _ :=
      .assigned now t p task conn.workerId master hslot
        (Master.waiting_head hm.consistent hhead) htask hconnected hassigned
    rw [← hid] at heffect
    exact heffect

theorem effect_status (hm : Master.Governed c.workers s.master) {status : WorkerStatus}
    {rest : List WorkerMessage} {master : Master}
    (hmail : (s.links w).toMaster = .queueStatus status :: rest)
    (hmaster : s.master.step (.queueStatus w status) = some master) :
    Effect c s (.deliver w) (s.handled w rest master) := by
  have hwork : s.master.SameWork master := by
    obtain ⟨_, heff⟩ := Master.step_effect hm.consistent hmaster
    cases heff with
    | same _ _ h => exact h
  have hsame : (s.links w).SameMail { s.links w with toMaster := rest } :=
    ⟨rfl, rfl, by rw [hmail]; rfl⟩
  exact .quiet _ _ nofun hwork rfl rfl rfl (.inl rfl) (sameMail_setLink hsame)

theorem net_of_refused {copy : Copy} {priority : Bool} {net : Net}
    (hsound : (s.net.nodes w).Sound)
    (hnet : s.net.step c (.enqueue w copy priority) = some net)
    (hno : ((s.net.nodes w).queue.tryEnqueue copy priority).1.accepted = false) :
    net = s.net := by
  cases Net.stepped_of_step hnet with
  | enqueue =>
      obtain ⟨_, hsame, _⟩ | ⟨hyes, _⟩ :=
        ReadyQueue.tryEnqueue_cases hsound.wellFormed copy priority
      · have hnode : (s.net.nodes w).enqueue copy priority = s.net.nodes w := by
          rw [Node.enqueue, hsame, hno]
          rfl
        rw [hnode, Net.setNode, Function.update_eq_self]
      · rw [hno] at hyes
        cases hyes

section ReceiveTask

variable {now : ℚ} {message : TaskMessage} {rest : List TaskMessage} {decoded : Copy} {net : Net}

theorem token_received (hdecoded : message.copy.fromDict = .ok decoded) :
    (decoded.restamp now).token = message.copy.token := by
  rw [token_restamp, token_fromDict hdecoded]

theorem taskId_received (hdecoded : message.copy.fromDict = .ok decoded) :
    taskId (decoded.restamp now) = message.copy.task.taskId :=
  congrArg Delivery.Parcel.item (token_received hdecoded)

theorem effect_answered (hn : s.net.Protocol) (hmail : (s.links w).toWorker = message :: rest)
    (hdecoded : message.copy.fromDict = .ok decoded)
    (hnet : s.net.step c (.enqueue w (decoded.restamp now) message.priority) = some net)
    (hresult : ((s.net.nodes w).queue.tryEnqueue (decoded.restamp now)
        message.priority).1.accepted = true ∨
      ((s.net.nodes w).queue.tryEnqueue (decoded.restamp now)
        message.priority).1.reason = some "duplicate") :
    Effect c s (.receiveTask w now)
      ((s.received w rest net).setReporting w .receiver .due) := by
  have hlinks := sameMail_setReporting (s.received w rest net) w .receiver .due
  have hid : taskId (decoded.restamp now) = message.copy.task.taskId := taskId_received hdecoded
  obtain ⟨hno, _, hreason⟩ | ⟨hyes, hactive, _⟩ :=
    ReadyQueue.tryEnqueue_cases (hn.sound w).wellFormed (decoded.restamp now) message.priority
  · rcases hreason with ⟨hactive, _⟩ | ⟨_, hfull⟩
    · exact .duplicate w now message rest _ hmail ⟨rfl, rfl, rfl, rfl⟩ (hid ▸ hactive)
        (net_of_refused (hn.sound w) hnet hno) hlinks
    · rcases hresult with hyes | hduplicate
      · exact absurd (hno.symm.trans hyes) (by simp)
      · exact absurd (hfull.symm.trans hduplicate) (by simp)
  · exact .admitted w now message rest (decoded.restamp now) _ hmail (token_received hdecoded)
      ⟨rfl, rfl, rfl, rfl⟩ (hid ▸ hactive) hnet hyes hlinks

theorem effect_refused (hn : s.net.Protocol) (hfree : (s.links w).overflow = none)
    (hmail : (s.links w).toWorker = message :: rest)
    (hdecoded : message.copy.fromDict = .ok decoded)
    (hnet : s.net.step c (.enqueue w (decoded.restamp now) message.priority) = some net)
    (hresult : ¬ (((s.net.nodes w).queue.tryEnqueue (decoded.restamp now)
        message.priority).1.accepted = true ∨
      ((s.net.nodes w).queue.tryEnqueue (decoded.restamp now)
        message.priority).1.reason = some "duplicate")) :
    Effect c s (.receiveTask w now)
      ((s.received w rest net).setLink w { (s.received w rest net).links w with
        overflow := some (decoded.restamp now) }) := by
  have hid : taskId (decoded.restamp now) = message.copy.task.taskId := taskId_received hdecoded
  obtain ⟨hno, _, hreason⟩ | ⟨hyes, _⟩ :=
    ReadyQueue.tryEnqueue_cases (hn.sound w).wellFormed (decoded.restamp now) message.priority
  · rcases hreason with ⟨_, hduplicate⟩ | ⟨hactive, _⟩
    · exact absurd (.inr hduplicate) hresult
    · refine .full w now message rest (decoded.restamp now) _ hmail (token_received hdecoded)
        ⟨rfl, rfl, rfl, rfl⟩ hfree (hid ▸ hactive) (net_of_refused (hn.sound w) hnet hno)
        fun v => ?_
      rw [links_received_self]
      simp only [received, links_setLink]
      split_ifs
      · exact .refl _
      · exact .refl _
  · exact absurd (.inl hyes) hresult

end ReceiveTask

theorem governed_step (hm : Master.Governed c.workers s.master) (hstep : step c s a = some s') :
    Master.Governed c.workers s'.master := by
  cases stepped_of_step hstep with
  | nextAssignment now next _ hnow hnext =>
      rw [master_assigned]
      refine hm.step (a := .nextAssignment now) ?_ (by rw [Master.step, hnext]; rfl)
      rintro _ ⟨⟩
      exact hnow
  | status w status rest master _ hmaster => exact hm.step (fun now hnow => by cases hnow) hmaster
  | judged w message rest copy b master _ _ hb hmaster =>
      refine hm.step (fun now hnow => ?_) hmaster
      rcases hb with rfl | ⟨reason, rfl⟩ <;> cases hnow
  | disconnect w order master hmaster => exact hm.step (fun now hnow => by cases hnow) hmaster
  | sendFail assignment k order master _ hmaster =>
      exact hm.step (fun now hnow => by cases hnow) hmaster
  | moved _ b net _ _ =>
      rw [master_withDue]
      exact hm
  | _ => exact hm

theorem protocol_step (hn : s.net.Protocol) (hstep : step c s a = some s') :
    s'.net.Protocol := by
  cases stepped_of_step hstep with
  | nextAssignment now next =>
      rw [net_assigned]
      exact hn
  | answered w now message rest decoded net _ _ hnet => exact Net.protocol_step hn hnet
  | refused w now message rest decoded net _ _ _ hnet => exact Net.protocol_step hn hnet
  | sendResult w succeeded copy message net _ _ hnet => exact Net.protocol_step hn hnet
  | moved _ b net _ hnet =>
      rw [net_withDue]
      exact Net.protocol_step hn hnet
  | _ => exact hn

theorem step_effect (hm : Master.Governed c.workers s.master) (hn : s.net.Protocol)
    (hstep : step c s a = some s') :
    Master.Governed c.workers s'.master ∧ s'.net.Protocol ∧ Effect c s a s' := by
  refine ⟨governed_step hm hstep, protocol_step hn hstep, ?_⟩
  cases stepped_of_step hstep with
  | nextAssignment now next hslot _ hnext => exact effect_nextAssignment hm hslot hnext
  | sendTask assignment k task hslot htask => exact .sent assignment k task hslot htask
  | status w status rest master hmail hmaster => exact effect_status hm hmail hmaster
  | judged w message rest copy b master hmail hcopy hb hmaster =>
      exact .judged w message rest copy b master hmail hcopy hb hmaster
  | malformed w now message rest e hmail hdecoded =>
      exact .malformed w now message rest e hmail hdecoded
  | answered w now message rest decoded net hmail hdecoded hnet hresult =>
      exact effect_answered hn hmail hdecoded hnet hresult
  | refused w now message rest decoded net hfree hmail hdecoded hnet hresult =>
      exact effect_refused hn hfree hmail hdecoded hnet hresult
  | sendOverflow w copy hoverflow => exact .overflowed w copy hoverflow
  | sendResult w succeeded copy message net hworking hcopy hnet =>
      exact .concluded w succeeded copy message net hworking hcopy hnet
  | moved _ b net hb hnet => exact effect_moved hb hnet
  | snapshot w thread status _ =>
      exact effect_of_links nofun (sameMail_setReporting s w thread _) rfl rfl rfl rfl rfl
  | sendStatus w thread status _ =>
      refine effect_of_links nofun (fun v => ?_) rfl rfl rfl (List.append_nil _) rfl
      have hready := sameMail_setReporting s w thread .quiet
      simp only [sendMaster, links_setLink]
      split_ifs with hv
      · subst hv
        obtain ⟨htoWorker, hoverflow, htoMaster⟩ := hready v
        exact ⟨htoWorker, hoverflow, by
          rw [List.filterMap_append, htoMaster]
          exact List.append_nil _⟩
      · exact hready v
  | disconnect w order master hmaster =>
      exact .disconnected _ rfl w order master s.slot (.inl rfl) hmaster
  | sendFail assignment k order master hslot hmaster =>
      exact .disconnected _ rfl assignment.worker order master none (.inr rfl) hmaster
  | cut w => exact .cut w

end Step

end System

end KVStore
