import KVStore.Cluster.Provenance

/-!
# Carriers in a run without faults

`delivery` looks at the system as parcels on their way: a task that was chosen and not
reported yet is an unsent parcel, wherever its copy is, and a result is undelivered
until the Master handles it. A reserved task is counted once. Without faults every
step of the system is a step of the parcels or none, and the receiver thread that
ignores a duplicate is the only one that drops a parcel.
-/

namespace KVStore

open HasTaskId

namespace System

def mail (c : Config) (box : Link → Multiset Copy) (s : System) : Multiset Token :=
  Custody.total c.workers.toFinset fun w => tokens (box (s.links w))

/-- The parcels whose result is not sent: with the distributor, on their way to a
worker, or carried by one. -/
def unsent (c : Config) (s : System) : Multiset Token :=
  s.slotTokens + s.mail c Link.outbox + s.net.liveTotal c

/-- The system as parcels on their way. -/
def delivery (c : Config) (s : System) : Delivery.State TaskId WorkerId where
  ledger := s.master.place
  unsent := s.unsent c
  undelivered := s.mail c Link.inbox
  concluded := s.results.map Copy.dispatch
  issued := s.dispatches.length

def carriers (c : Config) (s : System) : Multiset Token := s.unsent c + s.mail c Link.inbox

/-- The worker is about to ignore its next `TASK` message as a duplicate. -/
def Drops (s : System) : Action → Prop
  | .receiveTask w _ => ∃ message ∈ (s.links w).toWorker.head?,
      message.copy.task.taskId ∈ (s.net.nodes w).queue.activeTaskIds
  | _ => False

/-- The result that the Master handles next on the connection of `w`. -/
def nextResult (s : System) (w : WorkerId) : Option Copy :=
  (s.links w).toMaster.head?.bind WorkerMessage.copy

/-- The Master acts upon the result of `copy` from `w`. -/
def Accepts (s : System) (w : WorkerId) (copy : Copy) : Prop :=
  (s.master.acceptedTask copy.task.taskId (assignmentOrSelf w copy)).isSome

section

variable {c : Config} {s s' : System} {a : Action} {w : WorkerId} {copy : Copy}
  {box : Link → Multiset Copy}

theorem delivery_congr (hplace : s'.master.place = s.master.place)
    (hunsent : s'.unsent c = s.unsent c)
    (hundelivered : s'.mail c Link.inbox = s.mail c Link.inbox)
    (hresults : s'.results = s.results) (hdispatches : s'.dispatches = s.dispatches) :
    s'.delivery c = s.delivery c := by
  rw [delivery, delivery, hplace, hunsent, hundelivered, hresults, hdispatches]

theorem mail_congr (hbox : ∀ {link link' : Link}, link.SameMail link' → box link' = box link)
    (hlinks : ∀ v, (s.links v).SameMail (s'.links v)) : s'.mail c box = s.mail c box :=
  Custody.total_congr fun v _ => by rw [hbox (hlinks v)]

theorem mail_exchange
    (hbox : ∀ {link link' : Link}, link.SameMail link' → box link' = box link)
    (hw : w ∈ c.workers) {link : Link} (hlinks : s.LinksWith s' w link)
    {taken given : Multiset Token}
    (hchange : tokens (box (s.links w)) + taken = tokens (box link) + given) :
    s.mail c box + taken = s'.mail c box + given := by
  refine Custody.total_exchange (List.mem_toFinset.2 hw) ?_ ?_
  · intro v _ hv
    rw [hbox (hlinks v), links_setLink, if_neg hv]
  · rw [hbox (hlinks w), links_setLink, if_pos rfl]
    exact hchange

theorem mail_same (hbox : ∀ {link link' : Link}, link.SameMail link' → box link' = box link)
    (hw : w ∈ c.workers) {link : Link} (hlinks : s.LinksWith s' w link)
    (hsame : box link = box (s.links w)) : s'.mail c box = s.mail c box := by
  have hexchange : s.mail c box + 0 = s'.mail c box + 0 :=
    mail_exchange hbox hw hlinks (by rw [hsame])
  rw [add_zero, add_zero] at hexchange
  exact hexchange.symm

theorem slotTokens_eq {assignment : Master.Assignment} {k : ℕ}
    (h : s.slot = some (assignment, k)) :
    s.slotTokens = {⟨assignment.task.taskId, some assignment.worker, k⟩} := by
  rw [slotTokens, h]

theorem slotTokens_eq_zero (h : s.slot = none) : s.slotTokens = 0 := by
  rw [slotTokens, h]

theorem slotTokens_congr (hslot : s'.slot = s.slot) : s'.slotTokens = s.slotTokens := by
  rw [slotTokens, hslot, slotTokens]

theorem liveTotal_of_calm (hn : s.net.Protocol) (hcalm : s.net.Calm c) {b : Net.Action}
    {net : Net} (hstep : s.net.step c b = some net) :
    s.net.liveTotal c + tokens (s.net.arrivals b) =
      net.liveTotal c + tokens (s.net.departures b) := by
  obtain ⟨surplus, hlive, hzero⟩ := (Net.flow_step hn hstep).live
  rw [← hlive, hzero hcalm, add_zero]

theorem liveTotal_of_moves (hn : s.net.Protocol) (hcalm : s.net.Calm c) {net : Net}
    {fault : Bool} (hmoves : s.net.Moves c net fault) :
    net.liveTotal c = s.net.liveTotal c := by
  rcases hmoves with rfl | ⟨b, hstep, hb, _⟩
  · rfl
  · have hlive := liveTotal_of_calm hn hcalm hstep
    rw [Net.arrivals_of_isInternal hb, Net.departures_of_isInternal hb, tokens_zero, add_zero,
      add_zero] at hlive
    exact hlive.symm

theorem calm_effect (hn : s.net.Protocol) (hcalm : s.net.Calm c) (ha : a.isFault = false)
    (heff : Effect c s a s') : s'.net.Calm c := by
  cases heff with
  | quiet _ _ _ _ _ _ _ hmoves _ =>
      rcases hmoves with hsame | ⟨b, hstep, _, hgiveUp⟩
      · rwa [hsame]
      · refine Net.calm_step hn hcalm (fun w hw => ?_) hstep
        rw [hgiveUp w hw] at ha
        cases ha
  | assigned => exact hcalm
  | sent => exact hcalm
  | judged => exact hcalm
  | admitted w now message rest copy _ _ _ _ _ hnet _ _ =>
      exact Net.calm_step hn hcalm (fun w hw => by cases hw) hnet
  | duplicate _ _ _ _ _ _ _ _ hnet _ => rwa [hnet]
  | full _ _ _ _ _ _ _ _ _ _ _ hnet _ => rwa [hnet]
  | malformed => exact hcalm
  | overflowed => exact hcalm
  | concluded w succeeded copy message net _ _ hnet =>
      exact Net.calm_step hn hcalm (fun w hw => by cases hw) hnet
  | disconnected => exact hcalm
  | cut => exact hcalm

theorem Issued.holder (h : s.Issued copy.token) (w : WorkerId) :
    copy.token.holder = some (assignmentOrSelf w copy) := by
  obtain ⟨v, hv, hne, _⟩ := h
  have hassignment : copy.task.assignmentWorkerId = some v := hv
  rw [hv, assignmentOrSelf, hassignment]
  simp only [if_neg hne]

theorem current_iff (L : Ledger TaskId WorkerId) (h : s.Issued copy.token) (w : WorkerId) :
    Delivery.Current L copy.token ↔
      L copy.task.taskId = some (.assigned (assignmentOrSelf w copy)) := by
  constructor
  · rintro ⟨v, hv, hplace⟩
    rw [h.holder w] at hv
    cases hv
    exact hplace
  · intro hplace
    exact ⟨_, h.holder w, hplace⟩

theorem Traced.issued_of_mail (h : s.Traced c)
    (hcopy : copy ∈ (s.links w).outbox + (s.links w).inbox) : s.Issued copy.token :=
  h.issued _ (mem_circulating.2 (.inr (.inl
    ⟨w, h.mem_workers copy hcopy, Multiset.mem_map_of_mem _ hcopy⟩)))

/-- What the Master makes of a result is what becomes of its parcel. -/
theorem delivery_judged (h : s.Traced c) {message : WorkerMessage}
    {rest : List WorkerMessage} {b : Master.Action} {master : Master}
    (hmail : (s.links w).toMaster = message :: rest) (hcopy : message.copy = some copy)
    (hb : Judges w copy b) (hmaster : s.master.step b = some master)
    (hs' : s' = { s.setLink w { s.links w with toMaster := rest } with master := master }) :
    ∃ e, (s.delivery c).Step e (s'.delivery c) ∧ e ≠ .drop := by
  have hw := h.mem_workers_of_toMaster hmail hcopy
  have hinbox := Link.inbox_of_deliver hmail hcopy
  have hissued : s.Issued copy.token :=
    h.issued_of_mail (w := w) (Multiset.mem_add.2 (.inr (hinbox ▸ Multiset.mem_cons_self _ _)))
  have hcurrent := current_iff s.master.place hissued w
  let link := { s.links w with toMaster := rest }
  have hlinks : s.LinksWith s' w link := by
    rw [hs']
    exact fun _ => .refl _
  have hunsent : s'.unsent c = s.unsent c := by
    rw [unsent, mail_same Link.SameMail.outbox hw hlinks rfl, unsent, hs']
    rfl
  have hundelivered : s.mail c Link.inbox = copy.token ::ₘ s'.mail c Link.inbox := by
    have hexchange : s.mail c Link.inbox + 0 = s'.mail c Link.inbox + {copy.token} := by
      refine mail_exchange Link.SameMail.inbox hw hlinks ?_
      rw [hinbox, tokens_cons, add_zero, ← Multiset.singleton_add, add_comm]
    rw [← add_zero (s.mail c Link.inbox), hexchange, add_comm, Multiset.singleton_add]
  have hresults : s'.results = s.results := by rw [hs']; rfl
  have hdispatches : s'.dispatches = s.dispatches := by rw [hs']; rfl
  have hledger : s'.master = master := by rw [hs']
  -- the ledger moves the task, or the result is stale
  have hplace : (s.master.place copy.task.taskId ≠
        some (.assigned (assignmentOrSelf w copy)) ∧ master = s.master) ∨
      s.master.place copy.task.taskId = some (.assigned (assignmentOrSelf w copy)) ∧
        ∃ p, (∀ v, p ≠ Place.assigned v) ∧
          master.place = Function.update s.master.place copy.task.taskId (some p) := by
    rcases hb with rfl | ⟨reason, rfl⟩
    · obtain ⟨_, _, rfl⟩ := Option.map_eq_some_iff.1 hmaster
      obtain hstale | ⟨task, hassigned, _, _, hfinished⟩ :=
        Master.handleSuccess_cases h.governed.consistent w (successPayload w copy)
      · exact .inl hstale
      · exact .inr ⟨hassigned, .done, by simp, hfinished.place⟩
    · obtain ⟨_, _, rfl⟩ := Option.map_eq_some_iff.1 hmaster
      obtain hstale | ⟨task, hassigned, _, _, hrequeued, _⟩ :=
        Master.handleFailure_cases h.governed.consistent w (failPayload w copy reason)
      · exact .inl hstale
      · exact .inr ⟨hassigned, .retry, by simp, hrequeued.place⟩
  rcases hplace with ⟨hstale, hsame⟩ | ⟨hassigned, p, hp, hupdate⟩
  · refine ⟨.ignore, .ignore copy.token _ (fun hc => hstale (hcurrent.1 hc)) ?_ hunsent
      hundelivered ?_ ?_, by simp⟩
    · exact congrArg Master.place (hledger.trans hsame)
    · exact congrArg (List.map Copy.dispatch) hresults
    · exact congrArg List.length hdispatches
  · refine ⟨.accept, .accept copy.token p _ (hcurrent.2 hassigned) ?_ hp hunsent
      hundelivered ?_ ?_, by simp⟩
    · exact (congrArg Master.place hledger).trans hupdate
    · exact congrArg (List.map Copy.dispatch) hresults
    · exact congrArg List.length hdispatches

theorem not_drops_of_not_receive (h : ∀ w now, a ≠ .receiveTask w now) : ¬ s.Drops a := by
  cases a with
  | receiveTask w now => exact absurd rfl (h w now)
  | _ => exact id

theorem drops_receiveTask {message : TaskMessage} {rest : List TaskMessage} {now : ℚ}
    (hmail : (s.links w).toWorker = message :: rest) :
    s.Drops (.receiveTask w now) ↔
      message.copy.task.taskId ∈ (s.net.nodes w).queue.activeTaskIds := by
  simp [Drops, hmail]

theorem unsent_exchange (hw : w ∈ c.workers) {link : Link} (hlinks : s.LinksWith s' w link)
    (hslot : s'.slot = s.slot) {mailed unmailed kept left : Multiset Token}
    (houtbox : tokens (Link.outbox (s.links w)) + mailed =
      tokens (Link.outbox link) + unmailed)
    (hnet : s.net.liveTotal c + kept = s'.net.liveTotal c + left) :
    s.unsent c + (mailed + kept) = s'.unsent c + (unmailed + left) := by
  have hmail := mail_exchange Link.SameMail.outbox hw hlinks houtbox
  calc s.unsent c + (mailed + kept)
      = s.slotTokens + (s.mail c Link.outbox + mailed) + (s.net.liveTotal c + kept) := by
        rw [unsent]
        abel
    _ = s'.unsent c + (unmailed + left) := by
        rw [hmail, hnet, unsent, slotTokens_congr hslot]
        abel

theorem tokens_outbox_of_receive {message : TaskMessage} {rest : List TaskMessage}
    (hmail : (s.links w).toWorker = message :: rest) :
    tokens (Link.outbox (s.links w)) =
      tokens (Link.outbox { s.links w with toWorker := rest }) + {message.copy.token} := by
  rw [Link.outbox_of_receive hmail, tokens_cons, add_comm, Multiset.singleton_add]

theorem delivery_assigned {t : TaskId} {p : Bool} {task : Task} (hslot : s.slot = none)
    (hwaiting : Ledger.Waiting s.master.place t) (hid : task.taskId = t)
    (hplace : s'.master.place = Function.update s.master.place t (some (.assigned w)))
    (hslot' : s'.slot = some (⟨task, w, p⟩, s.dispatches.length))
    (hdispatches : s'.dispatches = s.dispatches ++ [(t, w)])
    (hresults : s'.results = s.results) (hnet : s'.net = s.net)
    (hlinks : s'.links = s.links) : (s.delivery c).Step .issue (s'.delivery c) := by
  have hmail : ∀ box, s'.mail c box = s.mail c box := by
    intro box
    rw [mail, mail, hlinks]
  refine .issue t w _ hwaiting hplace ?_ (hmail _) (congrArg (List.map Copy.dispatch) hresults)
    ((congrArg List.length hdispatches).trans List.length_append)
  calc s'.unsent c
      = {⟨t, some w, s.dispatches.length⟩} + s.mail c Link.outbox + s.net.liveTotal c := by
        rw [unsent, slotTokens_eq hslot', hid, hmail, hnet]
    _ = ⟨t, some w, s.dispatches.length⟩ ::ₘ s.unsent c := by
        rw [unsent, slotTokens_eq_zero hslot, zero_add, add_assoc, Multiset.singleton_add]

theorem delivery_sent (h : s.Traced c) {assignment : Master.Assignment} {k : ℕ} {task : Task}
    (hslot : s.slot = some (assignment, k))
    (htask : s.master.tasks.lookup assignment.task.taskId = some task)
    (hmaster : s'.master = s.master) (hslot' : s'.slot = none)
    (hdispatches : s'.dispatches = s.dispatches) (hresults : s'.results = s.results)
    (hnet : s'.net = s.net)
    (hlinks : s.LinksWith s' assignment.worker { s.links assignment.worker with
      toWorker := (s.links assignment.worker).toWorker ++
        [⟨⟨task, k⟩, assignment.priority⟩] }) : s'.delivery c = s.delivery c := by
  obtain ⟨_, _, hworker, task', htask', hassignment⟩ := h.slot assignment k hslot
  rw [htask] at htask'
  cases htask'
  have hid : task.taskId = assignment.task.taskId :=
    h.governed.consistent.task_id _ task htask
  have htokens : s.slotTokens = {Copy.token ⟨task, k⟩} := by
    rw [slotTokens_eq hslot, Copy.token, hid, hassignment]
  have houtbox : s.mail c Link.outbox + {Copy.token ⟨task, k⟩} =
      s'.mail c Link.outbox + 0 := by
    refine mail_exchange Link.SameMail.outbox hworker.1 hlinks ?_
    rw [Link.outbox_send, tokens_cons, add_zero, add_comm, Multiset.singleton_add]
  refine delivery_congr (congrArg Master.place hmaster) ?_
    (mail_same Link.SameMail.inbox hworker.1 hlinks rfl) hresults hdispatches
  rw [unsent, unsent, slotTokens_eq_zero hslot', htokens, hnet, zero_add, add_comm {_}, houtbox,
    add_zero]

theorem step_conclude (hw : w ∈ c.workers) {message : WorkerMessage}
    (hcopy : message.copy = some copy) (hunsent : s.unsent c = copy.token ::ₘ s'.unsent c)
    (hmaster : s'.master = s.master) (hdispatches : s'.dispatches = s.dispatches)
    (hresults : s'.results = s.results ++ [copy]) (link : Link)
    (hlink : link.toMaster = (s.links w).toMaster)
    (hlinks : s.LinksWith s' w { link with toMaster := link.toMaster ++ [message] }) :
    (s.delivery c).Step .conclude (s'.delivery c) := by
  refine .conclude copy.token _ (congrArg Master.place hmaster) hunsent ?_ ?_
    (congrArg List.length hdispatches)
  · have hinbox : s.mail c Link.inbox + {copy.token} = s'.mail c Link.inbox + 0 := by
      refine mail_exchange Link.SameMail.inbox hw hlinks ?_
      rw [Link.inbox_send link hcopy, tokens_cons, add_zero, add_comm, Multiset.singleton_add,
        Link.inbox, Link.inbox, hlink]
    rw [add_zero, add_comm, Multiset.singleton_add] at hinbox
    exact hinbox.symm
  · exact (congrArg (List.map Copy.dispatch) hresults).trans List.map_append

theorem delivery_overflowed (hw : w ∈ c.workers)
    (hoverflow : (s.links w).overflow = some copy) :
    (s.delivery c).Step .conclude (delivery c
      ((s.setLink w { s.links w with overflow := none }).sendMaster w
        (.resultFail copy "queue overflow"))) := by
  have hlinks := linksWith_sendMaster s w { s.links w with overflow := none }
    (.resultFail copy "queue overflow")
  refine step_conclude hw rfl ?_ rfl rfl rfl { s.links w with overflow := none } rfl hlinks
  have houtbox : tokens (Link.outbox (s.links w)) + 0 =
      tokens (Link.outbox { s.links w with overflow := none }) + {copy.token} := by
    rw [Link.outbox_of_overflow hoverflow, tokens_cons, add_zero, add_comm,
      Multiset.singleton_add]
  have hunsent := unsent_exchange hw hlinks rfl houtbox (Eq.refl (s.net.liveTotal c + 0))
  rwa [add_zero, add_zero, add_zero, add_comm _ {_}, Multiset.singleton_add] at hunsent

theorem delivery_concluded (hw : w ∈ c.workers) {message : WorkerMessage} {net : Net}
    (hcopy : message.copy = some copy)
    (hlive : s.net.liveTotal c + 0 = net.liveTotal c + {copy.token}) :
    (s.delivery c).Step .conclude (delivery c
      (({ s with net := net } : System).sendMaster w message)) := by
  let s' := ({ s with net := net } : System).sendMaster w message
  have hlinks : s.LinksWith s' w { s.links w with
      toMaster := (s.links w).toMaster ++ [message] } := fun _ => .refl _
  change (s.delivery c).Step .conclude (s'.delivery c)
  refine step_conclude hw hcopy ?_ rfl rfl ?_ (s.links w) rfl hlinks
  · have hunsent : s.unsent c + (0 + 0) = s'.unsent c + (0 + {copy.token}) :=
      unsent_exchange hw hlinks rfl rfl hlive
    rwa [add_zero, add_zero, zero_add, add_comm _ {_}, Multiset.singleton_add] at hunsent
  · rw [show s'.results = s.results ++ message.copy.toList from rfl, hcopy, Option.toList_some]

/-- A step without a fault, seen from the parcels. -/
theorem delivery_effect (h : s.Traced c) (hcalm : s.net.Calm c) (ha : a.isFault = false)
    (heff : Effect c s a s') :
    (s'.delivery c = s.delivery c ∧ ¬ s.Drops a) ∨
      ∃ e, (s.delivery c).Step e (s'.delivery c) ∧ (e = .drop ↔ s.Drops a) := by
  cases heff with
  | quiet _ _ hquiet hwork hslot hdispatches hresults hmoves hlinks =>
      refine .inl ⟨delivery_congr hwork.place ?_ (mail_congr Link.SameMail.inbox hlinks)
        hresults hdispatches, not_drops_of_not_receive hquiet⟩
      rw [unsent, slotTokens_congr hslot, mail_congr Link.SameMail.outbox hlinks,
        liveTotal_of_moves h.protocol hcalm hmoves, unsent]
  | assigned now t p task w master hslot hwaiting htask hconnected hassigned =>
      have hid : (Master.sentTo w now task).taskId = t :=
        h.governed.consistent.task_id t task htask
      refine .inr ⟨.issue, delivery_assigned hslot hwaiting hid ?_ rfl rfl rfl rfl rfl,
        iff_of_false (by simp) id⟩
      rw [← hid]
      exact hassigned.place
  | sent assignment k task hslot htask =>
      exact .inl ⟨delivery_sent h hslot htask rfl rfl rfl rfl rfl fun _ => .refl _, id⟩
  | judged w message rest copy b master hmail hcopy hb hmaster =>
      obtain ⟨e, hstep, he⟩ := delivery_judged h hmail hcopy hb hmaster rfl
      exact .inr ⟨e, hstep, iff_of_false he id⟩
  | admitted w now message rest copy _ hmail htoken hsame hnew hnet haccepted hlinks =>
      have hw := h.mem_workers_of_toWorker hmail
      have hlive := liveTotal_of_calm h.protocol hcalm hnet
      simp only [Net.arrivals, haccepted, if_true, Net.departures, tokens_zero] at hlive
      have hunsent := unsent_exchange hw hlinks hsame.slot
        ((add_zero _).trans (tokens_outbox_of_receive hmail)) hlive
      refine .inl ⟨delivery_congr (congrArg Master.place hsame.master) ?_
        (mail_same Link.SameMail.inbox hw hlinks rfl) hsame.results hsame.dispatches,
        (drops_receiveTask hmail).not.2 hnew⟩
      rw [zero_add, add_zero, ← htoken] at hunsent
      exact (add_right_cancel hunsent).symm
  | duplicate w now message rest _ hmail hsame hactive hnet hlinks =>
      have hw := h.mem_workers_of_toWorker hmail
      have hunsent := unsent_exchange hw hlinks hsame.slot
        ((add_zero _).trans (tokens_outbox_of_receive hmail))
        (congrArg (· + 0) (congrArg (Net.liveTotal c) hnet.symm))
      refine .inr ⟨.drop, .drop message.copy.token _ (congrArg Master.place hsame.master) ?_
        (mail_same Link.SameMail.inbox hw hlinks rfl)
        (congrArg (List.map Copy.dispatch) hsame.results)
        (congrArg List.length hsame.dispatches),
        iff_of_true rfl ((drops_receiveTask hmail).2 hactive)⟩
      rw [add_zero, add_zero, add_zero, add_comm _ {_}, Multiset.singleton_add] at hunsent
      exact hunsent
  | full w now message rest copy _ hmail htoken hsame hfree hnew hnet hlinks =>
      have hw := h.mem_workers_of_toWorker hmail
      have houtbox : tokens (Link.outbox (s.links w)) + 0 =
          tokens (Link.outbox { s.links w with toWorker := rest, overflow := some copy }) + 0 := by
        rw [Link.outbox_overflow { s.links w with toWorker := rest } hfree, tokens_cons, htoken,
          tokens_outbox_of_receive hmail, add_comm _ {_}, Multiset.singleton_add]
      have hunsent := unsent_exchange hw hlinks hsame.slot houtbox
        (congrArg (· + 0) (congrArg (Net.liveTotal c) hnet.symm))
      refine .inl ⟨delivery_congr (congrArg Master.place hsame.master) ?_
        (mail_same Link.SameMail.inbox hw hlinks rfl) hsame.results hsame.dispatches,
        (drops_receiveTask hmail).not.2 hnew⟩
      exact (add_right_cancel hunsent).symm
  | malformed w now message rest e hmail herror =>
      obtain ⟨_, hvalid⟩ := h.addressed w message (hmail ▸ List.mem_cons_self)
      rw [Copy.fromDict, hvalid] at herror
      cases herror
  | overflowed w copy hoverflow =>
      have hw := h.mem_workers_of_overflow hoverflow
      exact .inr ⟨.conclude, delivery_overflowed hw hoverflow, iff_of_false (by simp) id⟩
  | concluded w succeeded copy message net hworking hcopy hnet =>
      have hw := Net.mem_workers_of_report hnet
      have hlive := liveTotal_of_calm h.protocol hcalm hnet
      simp only [Net.arrivals, Net.departures, hworking] at hlive
      exact .inr ⟨.conclude, delivery_concluded hw hcopy hlive, iff_of_false (by simp) id⟩
  | disconnected _ hfault w order master slot hslot hmaster =>
      rw [hfault] at ha
      cases ha
  | cut w => cases ha

end

end System

end KVStore
