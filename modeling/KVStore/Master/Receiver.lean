import KVStore.Common.Refusals
import KVStore.Master.Accounts

/-!
# The messages that the Master receives

`handleMessage` is `_handle_message` on any message that `receive_message` returns: the
entries of its payload are any JSON values. What it has written when it raises an exception
stays written, and so it is when the line about a result cannot be put out. `receive` is a
round of the receive loop, which reports the exceptions in `RECEIVE_CATCHES` and goes on.
-/

namespace KVStore

open Python Except

/-- The classes in the `except` clause around `_handle_message`. -/
def RECEIVE_CATCHES : List ErrorKind := [.keyError, .typeError, .valueError]

/-- What the receiver threads of the Master write. -/
structure Receiver where
  master : Master
  stats : StatsCollector := {}

namespace Receiver

/-- The counters of a worker, as `_handle_message` reads them. -/
def readP2p (b : Builtins) (p2p : Object) : Except PyError StatsCollector.P2pSnapshot := do
  let sentEvents ← (p2p.getD "sent_events" (.int 0)).toInt b
  let sentTasks ← (p2p.getD "sent_tasks" (.int 0)).toInt b
  let receivedEvents ← (p2p.getD "received_events" (.int 0)).toInt b
  let receivedTasks ← (p2p.getD "received_tasks" (.int 0)).toInt b
  .ok { sentEvents, sentTasks, receivedEvents, receivedTasks }

/-- The counters that come with a status. -/
def updateP2p (b : Builtins) (stats : StatsCollector) (w : WorkerId) (payload : Object) :
    Except PyError StatsCollector :=
  match payload.get "p2p_statistics" with
  | some (.dict p2p) => readP2p b p2p >>= stats.updateP2pSnapshot w
  | _ => .ok stats

/-- The branch for `QUEUE_STATUS`. The status is kept before the counters are read. -/
def handleQueueStatus (b : Builtins) (s : Receiver) (w : WorkerId) (payload : Object) :
    Receiver × Option PyError :=
  match WorkerStatus.fromDict b payload with
  | .error e => (s, some e)
  | .ok status =>
      match s.master.handleQueueStatus w status with
      | .error text => (s, some ⟨.valueError, text⟩)
      | .ok master =>
          match updateP2p b s.stats w payload with
          | .error e => ({ s with master := master }, some e)
          | .ok stats => ({ s with master := master, stats := stats }, none)

/-- The coercions of `_handle_success` and, with a reason, of `_handle_failure`. -/
def readResult (b : Builtins) (w : WorkerId) (succeeded : Bool) (data : Object) :
    Except PyError (ResultPayload × PyFloat) := do
  let taskId ← (← data.item "task_id").toStr b
  let reason ← if succeeded then .ok none
    else ((data.getD "reason" (.str "processing failure")).toStr b).map some
  let waitSeconds ← (data.getD "wait_seconds" (.float (.finite 0))).toFloat b
  let assignmentWorkerId ← (data.getD "assignment_worker_id" (.str w)).toStr b
  .ok ({ taskId := taskId, assignmentWorkerId := some assignmentWorkerId, reason := reason },
    waitSeconds)

def reasonText (reason : String) : String :=
  if reason = "20% rule" then "20% 실패 규칙"
  else if reason = "queue overflow" then "Queue 용량 초과"
  else reason

/-- The line about a result that was taken over. -/
def resultLine (w : WorkerId) (succeeded : Bool) (payload : ResultPayload) : String :=
  if succeeded then payload.taskId ++ "을 " ++ w ++ "가 처리했습니다."
  else payload.taskId ++ "이 " ++ w ++ "에서 실패하여 우선 재할당합니다: " ++
    reasonText (payload.reason.getD "processing failure") ++ "."

/-- `_handle_success` and `_handle_failure`. The line of progress holds numbers only, and is
left out. -/
def handleResult (b : Builtins) (s : Receiver) (w : WorkerId) (succeeded : Bool)
    (message : Message) : Receiver × Option PyError :=
  match readResult b w succeeded message.payload with
  | .error e => (s, some e)
  | .ok (payload, waitSeconds) =>
      ({ master := if succeeded then s.master.handleSuccess w payload
          else s.master.handleFailure w payload
         stats :=
          match Accounts.resultCall s.master w succeeded payload message.requestId waitSeconds with
          | none => s.stats
          | some call => Accounts.perform s.stats call },
        match s.master.acceptedTask payload.taskId (payload.assignmentWorkerId.getD w) with
        | none => none
        | some _ => b.print (resultLine w succeeded payload))

/-- `_handle_message` -/
def handleMessage (b : Builtins) (s : Receiver) (w : WorkerId) (message : Message) :
    Receiver × Option PyError :=
  match message.messageType with
  | .QUEUE_STATUS => s.handleQueueStatus b w message.payload
  | .RESULT_SUCCESS => s.handleResult b w true message
  | .RESULT_FAIL => s.handleResult b w false message
  | _ => (s, none)

/-- A round of `_receive_loop` with a message on the connection of `w`; an exception that is
returned ends the receiver thread. -/
def receive (b : Builtins) (s : Receiver) (w : WorkerId) (message : Message) :
    Receiver × Option PyError :=
  if message.senderId ≠ w then
    (s, b.print (w ++ "의 송신자 정보가 일치하지 않아 무시했습니다."))
  else
    match s.handleMessage b w message with
    | (s, none) => (s, none)
    | (s, some e) =>
        (s, if e.kind ∈ RECEIVE_CATCHES then
            b.print (w ++ "의 잘못된 메시지를 거부했습니다: " ++ e.text)
          else some e)

structure Same (s s' : Receiver) : Prop where
  taskState : s'.master.taskState = s.master.taskState
  tasks : s'.master.tasks = s.master.tasks
  normalTasks : s'.master.normalTasks = s.master.normalTasks
  retryTasks : s'.master.retryTasks = s.master.retryTasks
  retryOrder : s'.master.retryOrder = s.master.retryOrder
  store : s'.master.store = s.master.store
  workers : ∀ v, s'.master.workers.lookup v = s.master.workers.lookup v
  stats : s'.stats = s.stats

/-- The counters for which an `OverflowError` is raised: the first one that is not converted
is infinite. -/
def UnforeseenP2p (b : Builtins) (p2p : Object) : Prop :=
  (p2p.getD "sent_events" (.int 0)).IsInfinite ∨
    ((p2p.getD "sent_events" (.int 0)).toInt b).Succeeds ∧
      ((p2p.getD "sent_tasks" (.int 0)).IsInfinite ∨
        ((p2p.getD "sent_tasks" (.int 0)).toInt b).Succeeds ∧
          ((p2p.getD "received_events" (.int 0)).IsInfinite ∨
            ((p2p.getD "received_events" (.int 0)).toInt b).Succeeds ∧
              (p2p.getD "received_tasks" (.int 0)).IsInfinite))

/-- The counters that are not taken over: one is not converted, or one is negative. -/
def RefusedP2p (b : Builtins) (p2p : Object) : Prop :=
  ∀ values, readP2p b p2p = .ok values →
    values.sentEvents < 0 ∨ values.sentTasks < 0 ∨ values.receivedEvents < 0 ∨
      values.receivedTasks < 0

/-- The reports that stop the receiver or leave a trace although they are rejected: the
status itself overflows, or the status is accepted and the counters that come with it
overflow, or the status is a new one and its counters are refused. -/
def UnforeseenStatus (b : Builtins) (s : Receiver) (w : WorkerId) (payload : Object) : Prop :=
  WorkerStatus.Unforeseen b payload ∨
    ∃ status p2p, WorkerStatus.fromDict b payload = .ok status ∧ status.workerId = w ∧
      payload.get "p2p_statistics" = some (.dict p2p) ∧
        (UnforeseenP2p b p2p ∨
          RefusedP2p b p2p ∧ ∃ c, s.master.workers.lookup w = some c ∧ c.status ≠ status)

/-- The results that stop the receiver: the waiting time is an integer beyond the largest
float, and what is read before it can be read. -/
def UnforeseenResult (b : Builtins) (succeeded : Bool) (payload : Object) : Prop :=
  ∃ taskId, payload.get "task_id" = some taskId ∧ (taskId.toStr b).Succeeds ∧
    (succeeded = true ∨
      ((payload.getD "reason" (.str "processing failure")).toStr b).Succeeds) ∧
    (payload.getD "wait_seconds" (.float (.finite 0))).IsTooLarge

/-- The results that are taken over and then rejected: the task was assigned, and its id, the
worker or the reason of the failure cannot be printed. -/
def UnprintableResult (b : Builtins) (s : Receiver) (w : WorkerId) (succeeded : Bool)
    (data : Object) : Prop :=
  ∃ payload waitSeconds, readResult b w succeeded data = .ok (payload, waitSeconds) ∧
    (s.master.acceptedTask payload.taskId (payload.assignmentWorkerId.getD w)).isSome ∧
    ¬ (Printable payload.taskId ∧ Printable w ∧
      (succeeded = true ∨ Printable (payload.reason.getD "processing failure")))

/-- The messages that are rejected with a trace, or stop the receiver. -/
def Unforeseen (b : Builtins) (s : Receiver) (w : WorkerId) (message : Message) : Prop :=
  (message.messageType = .QUEUE_STATUS ∧ s.UnforeseenStatus b w message.payload) ∨
  (message.messageType = .RESULT_SUCCESS ∧ (UnforeseenResult b true message.payload ∨
    s.UnprintableResult b w true message.payload)) ∨
  (message.messageType = .RESULT_FAIL ∧ (UnforeseenResult b false message.payload ∨
    s.UnprintableResult b w false message.payload))

section

variable {b : Builtins} {s : Receiver} {w : WorkerId} {message : Message} {payload : Object}

theorem escapes_readResult (succeeded : Bool) :
    (readResult b w succeeded payload).Escapes (handled RECEIVE_CATCHES) ↔
      UnforeseenResult b succeeded payload := by
  have hvalue : ErrorKind.valueError ∈ RECEIVE_CATCHES := by simp [RECEIVE_CATCHES]
  have hkey : ErrorKind.keyError ∈ RECEIVE_CATCHES := by simp [RECEIVE_CATCHES]
  have htype : ErrorKind.typeError ∈ RECEIVE_CATCHES := by simp [RECEIVE_CATCHES]
  have hoverflow : ErrorKind.overflowError ∉ RECEIVE_CATCHES := by simp [RECEIVE_CATCHES]
  unfold readResult UnforeseenResult Succeeds
  cases succeeded <;>
    simp only [escapes_bind, escapes_item, escapes_map, not_escapes_toStr hvalue,
      escapes_toFloat hvalue hoverflow, not_escapes_ok, hkey, htype, item_eq_ok_iff, false_or,
      and_false, or_false, not_true_eq_false, false_and, exists_false, exists_and_right, if_true,
      Bool.false_eq_true, if_false, true_or, true_and, exists_map_eq_ok, Except.ok.injEq,
      exists_eq']

theorem escapes_readP2p {p2p : Object} :
    (readP2p b p2p).Escapes (handled RECEIVE_CATCHES) ↔ UnforeseenP2p b p2p := by
  have hvalue : ErrorKind.valueError ∈ RECEIVE_CATCHES := by simp [RECEIVE_CATCHES]
  have htype : ErrorKind.typeError ∈ RECEIVE_CATCHES := by simp [RECEIVE_CATCHES]
  have hoverflow : ErrorKind.overflowError ∉ RECEIVE_CATCHES := by simp [RECEIVE_CATCHES]
  unfold readP2p UnforeseenP2p Succeeds
  simp only [escapes_bind, escapes_toInt hvalue hoverflow, not_escapes_ok, htype, and_false,
    or_false, not_true_eq_false, false_and, exists_false, exists_and_right]

theorem reportable_readResult {succeeded : Bool} :
    ¬ (readResult b w succeeded payload).Escapes reportable := by
  have hkey : Printable "task_id" := by decide
  unfold readResult
  cases succeeded <;>
    simp [escapes_bind, escapes_map, reportable_item hkey, reportable_toStr, reportable_toFloat,
      not_escapes_ok]

theorem reportable_updateP2p {stats : StatsCollector} :
    ¬ (updateP2p b stats w payload).Escapes reportable := by
  have hnegative : ∀ values, ¬ (stats.updateP2pSnapshot w values).Escapes reportable := by
    intro values
    unfold StatsCollector.updateP2pSnapshot
    split_ifs
    · exact fun h => escapes_error.1 h (printable_ofList.2 (by decide) :
        Printable "P2P statistics cannot be negative")
    · exact not_escapes_ok _
  unfold updateP2p
  split
  · simp [readP2p, escapes_bind, reportable_toInt, hnegative, not_escapes_ok]
  · exact not_escapes_ok _

theorem printable_of_masterStatus {m : Master} {status : WorkerStatus} {text : String}
    (h : m.handleQueueStatus w status = .error text) : Printable text := by
  unfold Master.handleQueueStatus at h
  cases hpost : status.postInit with
  | error text' =>
      rw [hpost] at h
      cases h
      exact printable_of_statusPostInit hpost
  | ok kept =>
      rw [hpost] at h
      change (if _ then _ else _) = _ at h
      split_ifs at h
      cases h
      exact printable_ofList.2 (by decide)

theorem updateP2p_spec (b : Builtins) (stats : StatsCollector) (w : WorkerId) {p2p : Object}
    (h : payload.get "p2p_statistics" = some (.dict p2p)) :
    ((updateP2p b stats w payload).Escapes (handled RECEIVE_CATCHES) ↔ UnforeseenP2p b p2p) ∧
      ((∃ e, updateP2p b stats w payload = .error e) ↔ RefusedP2p b p2p) := by
  have hnegative : ∀ values, ¬ (stats.updateP2pSnapshot w values).Escapes
      (handled RECEIVE_CATCHES) := by
    intro values
    unfold StatsCollector.updateP2pSnapshot
    split_ifs
    · simp [escapes_error, mem_handled, RECEIVE_CATCHES]
    · exact not_escapes_ok _
  have hupdate : updateP2p b stats w payload = readP2p b p2p >>= stats.updateP2pSnapshot w := by
    rw [updateP2p, h]
  rw [hupdate, escapes_bind, escapes_readP2p]
  refine ⟨by simp [hnegative], ?_⟩
  unfold RefusedP2p
  cases hread : readP2p b p2p with
  | error e =>
      refine iff_of_true ⟨e, rfl⟩ fun values hvalues => ?_
      cases hvalues
  | ok values =>
      simp only [Except.ok.injEq, forall_eq']
      change (∃ e, stats.updateP2pSnapshot w values = .error e) ↔ _
      unfold StatsCollector.updateP2pSnapshot
      split_ifs with hneg
      · exact iff_of_true ⟨_, rfl⟩ hneg
      · refine iff_of_false ?_ hneg
        rintro ⟨e, he⟩
        cases he

theorem same_iff {status : WorkerStatus} :
    Same s { s with master := { s.master with
      workers := s.master.workers.modify w fun connection =>
        { connection with status := status } } } ↔
      ∀ c, s.master.workers.lookup w = some c → c.status = status := by
  constructor
  · intro h c hc
    have hsame := h.workers w
    rw [Dict.lookup_modify, if_pos rfl, hc] at hsame
    exact (congrArg WorkerConnection.status (Option.some.inj hsame)).symm
  · intro h
    refine ⟨rfl, rfl, rfl, rfl, rfl, rfl, fun v => ?_, rfl⟩
    rw [Dict.lookup_modify]
    split_ifs with hv
    · subst hv
      cases hc : s.master.workers.lookup v with
      | none => rfl
      | some c => rw [Option.map_some, ← h c hc]
    · rfl

theorem handleStatus_iff :
    (∀ e, (s.handleQueueStatus b w payload).2 = some e →
        e.kind ∈ RECEIVE_CATCHES ∧ Same s (s.handleQueueStatus b w payload).1) ↔
      ¬ s.UnforeseenStatus b w payload := by
  have hescapes : (WorkerStatus.fromDict b payload).Escapes (handled RECEIVE_CATCHES) ↔
      WorkerStatus.Unforeseen b payload := WorkerStatus.escapes_fromDict
    (by simp [RECEIVE_CATCHES]) (by simp [RECEIVE_CATCHES]) (by simp [RECEIVE_CATCHES])
    (by simp [RECEIVE_CATCHES])
  have hrefl : Same s s := ⟨rfl, rfl, rfl, rfl, rfl, rfl, fun _ => rfl, rfl⟩
  unfold handleQueueStatus UnforeseenStatus
  cases hstatus : WorkerStatus.fromDict b payload with
  | error e =>
      rw [hstatus, escapes_error, mem_handled] at hescapes
      rw [← hescapes]
      simp [hrefl]
  | ok status =>
      have hforeseen : ¬ WorkerStatus.Unforeseen b payload := by
        rw [← hescapes, hstatus]
        exact not_escapes_ok status
      have hpost := WorkerStatus.postInit_of_fromDict hstatus
      by_cases hw : status.workerId = w
      · have hmaster : s.master.handleQueueStatus w status = .ok { s.master with
            workers := s.master.workers.modify w fun connection =>
              { connection with status := status } } := by
          rw [Master.handleQueueStatus, hpost]
          exact if_neg (not_not.2 hw)
        simp only [hmaster]
        by_cases hdict : ∃ p2p, payload.get "p2p_statistics" = some (.dict p2p)
        · obtain ⟨p2p, hp2p⟩ := hdict
          obtain ⟨hunforeseen, hrefused⟩ := updateP2p_spec b s.stats w hp2p
          have hiff : (WorkerStatus.Unforeseen b payload ∨ ∃ status' p2p',
              (Except.ok status : Except PyError WorkerStatus) = .ok status' ∧
              status'.workerId = w ∧ payload.get "p2p_statistics" = some (.dict p2p') ∧
              (UnforeseenP2p b p2p' ∨ RefusedP2p b p2p' ∧
                ∃ c, s.master.workers.lookup w = some c ∧ c.status ≠ status')) ↔
              UnforeseenP2p b p2p ∨ RefusedP2p b p2p ∧
                ∃ c, s.master.workers.lookup w = some c ∧ c.status ≠ status := by
            simp [hforeseen, hw, hp2p]
          rw [hiff, ← hunforeseen, ← hrefused]
          cases hupdate : updateP2p b s.stats w payload with
          | error e =>
              rw [escapes_error, mem_handled, not_or, not_not]
              constructor
              · intro h
                obtain ⟨hkind, hsame⟩ := h e rfl
                refine ⟨hkind, ?_⟩
                rintro ⟨_, c, hc, hne⟩
                exact hne (same_iff.1 hsame c hc)
              · rintro ⟨hkind, hnot⟩ e' he'
                cases he'
                refine ⟨hkind, same_iff.2 fun c hc => ?_⟩
                by_contra hne
                exact hnot ⟨⟨e, rfl⟩, c, hc, hne⟩
          | ok stats =>
              refine iff_of_true (fun e he => ?_) ?_
              · cases he
              · rintro (h | ⟨⟨e, he⟩, _⟩)
                · exact not_escapes_ok stats h
                · cases he
        · have hupdate : updateP2p b s.stats w payload = .ok s.stats := by
            unfold updateP2p
            split
            · exact absurd ⟨_, ‹_›⟩ hdict
            · rfl
          simp only [hupdate]
          refine iff_of_true (fun e he => ?_) ?_
          · cases he
          · rintro (h | ⟨_, p2p, _, _, hp2p, _⟩)
            · exact hforeseen h
            · exact hdict ⟨p2p, hp2p⟩
      · have hmaster : s.master.handleQueueStatus w status =
            .error "QUEUE_STATUS worker_id mismatch" := by
          rw [Master.handleQueueStatus, hpost]
          exact if_pos hw
        simp only [hmaster]
        refine iff_of_true (fun e he => ?_) ?_
        · cases he
          exact ⟨by simp [RECEIVE_CATCHES], hrefl⟩
        · rintro (h | ⟨status', _, heq, hid, _⟩)
          · exact hforeseen h
          · cases heq
            exact hw hid

theorem printable_reasonText {reason : String} :
    Printable (reasonText reason) ↔ Printable reason := by
  unfold reasonText
  split_ifs with hrule hoverflow
  · rw [hrule]
    exact iff_of_true (printable_ofList.2 (by decide)) (by decide)
  · rw [hoverflow]
    exact iff_of_true (printable_ofList.2 (by decide)) (by decide)
  · exact Iff.rfl

theorem printable_resultLine {succeeded : Bool} {result : ResultPayload} :
    Printable (resultLine w succeeded result) ↔ Printable result.taskId ∧ Printable w ∧
      (succeeded = true ∨ Printable (result.reason.getD "processing failure")) := by
  have hparts : ∀ part ∈ ["을 ", "가 처리했습니다.", "이 ", "에서 실패하여 우선 재할당합니다: ", "."],
      Printable part := by decide +kernel
  unfold resultLine
  cases succeeded <;> simp [hparts, printable_reasonText, and_assoc]

theorem taskState_of_acceptedTask {m : Master} {result : ResultPayload} {task : Task}
    (h : m.acceptedTask result.taskId (result.assignmentWorkerId.getD w) = some task) :
    m.taskState.lookup result.taskId = some .assigned ∧
      (m.handleSuccess w result).taskState.lookup result.taskId = some .done ∧
      (m.handleFailure w result).taskState.lookup result.taskId = some .retry := by
  have hassigned : m.taskState.lookup result.taskId = some .assigned := by
    unfold Master.acceptedTask at h
    split at h
    · split_ifs at h with hguard
      exact hguard.1
    · cases h
  refine ⟨hassigned, ?_, ?_⟩
  · simp only [Master.handleSuccess, h, Master.clearAssignmentLocked, AList.lookup_insert]
  · simp only [Master.handleFailure, h, Master.clearAssignmentLocked, Master.queueRetryLocked,
      hassigned, Option.some.injEq, reduceCtorEq, if_false, AList.lookup_insert]

theorem not_same_of_acceptedTask {s' : Receiver} {succeeded : Bool} {result : ResultPayload}
    {task : Task}
    (h : s.master.acceptedTask result.taskId (result.assignmentWorkerId.getD w) = some task)
    (hmaster : s'.master = if succeeded then s.master.handleSuccess w result
      else s.master.handleFailure w result) : ¬ Same s s' := by
  intro hsame
  obtain ⟨hassigned, hdone, hretry⟩ := taskState_of_acceptedTask h
  rw [← hsame.taskState, hmaster] at hassigned
  cases succeeded with
  | true =>
      rw [if_pos rfl, hdone] at hassigned
      cases hassigned
  | false =>
      rw [if_neg Bool.false_ne_true, hretry] at hassigned
      cases hassigned

theorem handleResult_iff (succeeded : Bool) :
    (∀ e, (s.handleResult b w succeeded message).2 = some e →
        e.kind ∈ RECEIVE_CATCHES ∧ Same s (s.handleResult b w succeeded message).1) ↔
      ¬ (UnforeseenResult b succeeded message.payload ∨
        s.UnprintableResult b w succeeded message.payload) := by
  rw [← escapes_readResult (w := w), UnprintableResult]
  unfold handleResult
  cases hread : readResult b w succeeded message.payload with
  | error e =>
      rw [escapes_error, mem_handled]
      constructor
      · rintro h (hcaught | ⟨_, _, hok, _⟩)
        · exact hcaught (h e rfl).1
        · cases hok
      · intro h e' he'
        cases he'
        exact ⟨not_not.1 fun hcaught => h (.inl hcaught),
          ⟨rfl, rfl, rfl, rfl, rfl, rfl, fun _ => rfl, rfl⟩⟩
  | ok result =>
      obtain ⟨payload, waitSeconds⟩ := result
      simp only [not_escapes_ok, false_or, Except.ok.injEq, Prod.mk.injEq]
      cases haccepted :
          s.master.acceptedTask payload.taskId (payload.assignmentWorkerId.getD w) with
      | none =>
          refine iff_of_true (fun e he => ?_) ?_
          · cases he
          · rintro ⟨_, _, ⟨rfl, rfl⟩, hsome, _⟩
            rw [haccepted] at hsome
            cases hsome
      | some task =>
          by_cases hline : Printable (resultLine w succeeded payload)
          · refine iff_of_true (fun e he => ?_) ?_
            · rw [b.print_of_printable hline] at he
              cases he
            · rintro ⟨_, _, ⟨rfl, rfl⟩, _, hnot⟩
              exact hnot (printable_resultLine.1 hline)
          · refine iff_of_false (fun h => ?_) (not_not.2 ?_)
            · exact not_same_of_acceptedTask haccepted rfl
                (h ⟨.valueError, b.encodeError _⟩ (if_neg hline)).2
            · exact ⟨payload, waitSeconds, ⟨rfl, rfl⟩, by rw [haccepted]; rfl,
                mt printable_resultLine.2 hline⟩

/-- **A rejected message.** The exception is one that the receive loop reports, and nothing
has changed, if and only if the message is none of the unforeseen ones. -/
theorem rejected_unchanged_iff (b : Builtins) (s : Receiver) (w : WorkerId)
    (message : Message) :
    (∀ e, (s.handleMessage b w message).2 = some e →
        e.kind ∈ RECEIVE_CATCHES ∧ Same s (s.handleMessage b w message).1) ↔
      ¬ s.Unforeseen b w message := by
  unfold handleMessage Unforeseen
  cases htype : message.messageType with
  | QUEUE_STATUS => simpa using handleStatus_iff
  | RESULT_SUCCESS => simpa using handleResult_iff true
  | RESULT_FAIL => simpa using handleResult_iff false
  | _ => simp

theorem caught_of_handleMessage {e : PyError} (h : ¬ s.Unforeseen b w message)
    (he : (s.handleMessage b w message).2 = some e) : e.kind ∈ RECEIVE_CATCHES := by
  unfold handleMessage at he
  unfold Unforeseen at h
  cases htype : message.messageType with
  | QUEUE_STATUS =>
      simp only [htype, true_and, reduceCtorEq, false_and, or_self, or_false] at h he
      exact (handleStatus_iff.2 h e he).1
  | RESULT_SUCCESS =>
      simp only [htype, reduceCtorEq, false_and, true_and, or_false, false_or] at h he
      exact ((handleResult_iff true).2 h e he).1
  | RESULT_FAIL =>
      simp only [htype, reduceCtorEq, false_and, true_and, false_or] at h he
      exact ((handleResult_iff false).2 h e he).1
  | _ => simp [htype] at he

theorem printable_of_handleMessage {e : PyError} (h : (s.handleMessage b w message).2 = some e) :
    Printable e.text := by
  have hresult : ∀ succeeded, (s.handleResult b w succeeded message).2 = some e →
      Printable e.text := by
    intro succeeded h
    unfold handleResult at h
    split at h
    · rename_i e' hread
      cases h
      by_contra htext
      exact reportable_readResult ⟨e, hread, htext⟩
    · rename_i payload waitSeconds _
      cases haccepted :
          s.master.acceptedTask payload.taskId (payload.assignmentWorkerId.getD w) with
      | none =>
          simp only [haccepted] at h
          cases h
      | some task =>
          simp only [haccepted] at h
          exact (Builtins.print_eq_some h).2.2
  unfold handleMessage at h
  split at h
  · unfold handleQueueStatus at h
    split at h
    · rename_i e' hstatus
      cases h
      by_contra htext
      exact WorkerStatus.reportable_fromDict ⟨e, hstatus, htext⟩
    · rename_i status hstatus
      split at h
      · rename_i text hmaster
        cases h
        exact printable_of_masterStatus hmaster
      · split at h
        · rename_i e' hupdate
          cases h
          by_contra htext
          exact reportable_updateP2p ⟨e, hupdate, htext⟩
        · cases h
  · exact hresult true h
  · exact hresult false h
  · cases h

/-- The receiver thread outlives the messages that raise no `OverflowError`. The name of the
worker can be printed, as it was sent in the `ACK`. -/
theorem receive_survives (hw : Printable w) (h : ¬ s.Unforeseen b w message) :
    (s.receive b w message).2 = none := by
  unfold receive
  split_ifs
  · exact b.print_of_printable (printable_append.2 ⟨hw, printable_ofList.2 (by decide)⟩)
  · cases hhandled : s.handleMessage b w message with
    | mk s' failure =>
        cases failure with
        | none => rfl
        | some e =>
            have he : (s.handleMessage b w message).2 = some e := by rw [hhandled]
            dsimp only
            rw [if_pos (caught_of_handleMessage h he)]
            exact b.print_of_printable (printable_append.2
              ⟨printable_append.2 ⟨hw, printable_ofList.2 (by decide)⟩,
                printable_of_handleMessage he⟩)

/-! ### The messages as steps of the Master and its collector -/

/-- The accounts get to where the receiver is, and no call of `w` is pending. -/
def Follows (a : Accounts) (w : WorkerId) (s : Receiver) : Prop :=
  ∃ acts a', Transition.run Accounts.step a acts = some a' ∧ a'.calls.lookup w = none ∧
    a'.master = s.master ∧ a'.stats = s.stats

theorem Follows.of_record {a a' : Accounts} {act : Accounts.Action} {call : StatsCall}
    (hact : Accounts.step a act = some a') (hcall : a'.calls.lookup w = some call)
    (hmaster : a'.master = s.master) (hstats : Accounts.perform a'.stats call = s.stats) :
    Follows a w s := by
  refine ⟨[act, .record w], { a' with
    stats := Accounts.perform a'.stats call
    calls := a'.calls.erase w }, ?_, ?_, hmaster, hstats⟩
  · rw [Transition.run_cons_eq_some_iff]
    refine ⟨a', hact, ?_⟩
    rw [Transition.run_cons_eq_some_iff]
    refine ⟨_, ?_, rfl⟩
    rw [Accounts.step, Accounts.record, hcall]
    rfl
  · rw [Dict.lookup_erase_eq_ite, if_pos rfl]

theorem Follows.of_step {a a' : Accounts} {act : Accounts.Action}
    (hact : Accounts.step a act = some a') (hcall : a'.calls.lookup w = none)
    (hmaster : a'.master = s.master) (hstats : a'.stats = s.stats) : Follows a w s :=
  ⟨[act], a', Transition.run_cons_eq_some_iff.2 ⟨a', hact, rfl⟩, hcall, hmaster, hstats⟩

section

variable {a : Accounts}

theorem follows_refl (hidle : a.calls.lookup w = none) :
    Follows a w { master := a.master, stats := a.stats } :=
  ⟨[], a, rfl, hidle, rfl, rfl⟩

theorem follows_handleResult (hidle : a.calls.lookup w = none) (hw : w ∈ a.master.workers)
    (b : Builtins) (succeeded : Bool) (message : Message) :
    Follows a w
      (handleResult b { master := a.master, stats := a.stats } w succeeded message).1 := by
  unfold handleResult
  cases hread : readResult b w succeeded message.payload with
  | error e => exact follows_refl hidle
  | ok result =>
      obtain ⟨payload, waitSeconds⟩ := result
      obtain ⟨c, hc⟩ := Option.isSome_iff_exists.1 (AList.lookup_isSome.2 hw)
      have hmaster : a.master.step (if succeeded then .handleSuccess w payload
          else .handleFailure w payload) = some (if succeeded then
            a.master.handleSuccess w payload else a.master.handleFailure w payload) := by
        cases succeeded <;> simp [Master.step, hc]
      cases hcall : Accounts.resultCall a.master w succeeded payload message.requestId
          waitSeconds with
      | none =>
          have hresult : Accounts.step a
              (.result w succeeded payload message.requestId waitSeconds) =
              some { a with master := if succeeded then a.master.handleSuccess w payload
                else a.master.handleFailure w payload } := by
            rw [Accounts.step, Accounts.result, if_pos hidle, hmaster, Option.map_some, hcall]
          exact Follows.of_step hresult hidle rfl (by simp only [hcall])
      | some call =>
          have hresult : Accounts.step a
              (.result w succeeded payload message.requestId waitSeconds) =
              some { a with
                master := if succeeded then a.master.handleSuccess w payload
                  else a.master.handleFailure w payload
                calls := a.calls.insert w call
                overflows := if call = .overflow w then a.overflows + 1 else a.overflows } := by
            rw [Accounts.step, Accounts.result, if_pos hidle, hmaster, Option.map_some, hcall]
          exact Follows.of_record hresult (AList.lookup_insert _) rfl (by simp only [hcall])

theorem follows_handleQueueStatus (hidle : a.calls.lookup w = none)
    (hw : w ∈ a.master.workers) (b : Builtins) (payload : Object) :
    Follows a w
      (handleQueueStatus b { master := a.master, stats := a.stats } w payload).1 := by
  unfold handleQueueStatus
  cases hstatus : WorkerStatus.fromDict b payload with
  | error e => exact follows_refl hidle
  | ok status =>
      cases hmaster : a.master.handleQueueStatus w status with
      | error text =>
          simp only [hmaster]
          exact follows_refl hidle
      | ok m =>
          have hfiled : ∀ p2p, Accounts.step a (.queueStatus w status p2p) = some (match p2p with
              | none => { a with master := m }
              | some values =>
                  { a with master := m, calls := a.calls.insert w (.snapshot w values) }) := by
            intro p2p
            simp only [Accounts.step, Accounts.queueStatus, hidle, hw, hmaster, and_self, if_true]
            cases p2p <;> rfl
          simp only [hmaster]
          cases hupdate : updateP2p b a.stats w payload with
          | error e => exact Follows.of_step (hfiled none) hidle rfl rfl
          | ok stats =>
              simp only
              unfold updateP2p at hupdate
              split at hupdate
              · obtain ⟨values, _, hvalues⟩ := bind_eq_ok_iff.1 hupdate
                refine Follows.of_record (hfiled (some values)) (AList.lookup_insert _) rfl ?_
                simp only [Accounts.perform, hvalues]
              · cases hupdate
                exact Follows.of_step (hfiled none) hidle rfl rfl

end

/-- What `handleMessage` does is what the accounts do in at most two steps. -/
theorem follows_handleMessage {a : Accounts} (hidle : a.calls.lookup w = none)
    (hw : w ∈ a.master.workers) (b : Builtins) (message : Message) :
    Follows a w (handleMessage b { master := a.master, stats := a.stats } w message).1 := by
  unfold handleMessage
  split
  · exact follows_handleQueueStatus hidle hw b message.payload
  · exact follows_handleResult hidle hw b true message
  · exact follows_handleResult hidle hw b false message
  · exact follows_refl hidle

end

/-- A status whose counters are no numbers. -/
def listedStatus : Message where
  messageType := .QUEUE_STATUS
  senderId := "worker1"
  requestId := "r1"
  payload := [("worker_id", .str "worker1"), ("queue_size", .int 3),
    ("p2p_statistics", .dict [("sent_events", .list [])])]

/-- The message is rejected with a `TypeError`, and the Master keeps the status. -/
theorem not_rejected_unchanged_listedStatus :
    ∃ m, Master.start 1 .first ["worker1", "worker2", "worker3", "worker4"] = .ok m ∧
      Message.fromDict Builtins.plain listedStatus.toDict = .ok listedStatus ∧
      ((handleMessage Builtins.plain { master := m } "worker1" listedStatus).2.map
        PyError.kind) = some .typeError ∧
      ((handleMessage Builtins.plain { master := m } "worker1"
        listedStatus).1.master.workers.lookup "worker1").map
          (fun c => c.status.queueSize) = some 3 ∧
      (m.workers.lookup "worker1").map (fun c => c.status.queueSize) = some 0 := by
  obtain ⟨m₀, m, hstart, hrun, herror, hkept, hbefore⟩ := Master.exists_reached 1 .first
    ["worker1", "worker2", "worker3", "worker4"] []
    (p := fun m => ((handleMessage Builtins.plain { master := m } "worker1" listedStatus).2.map
        PyError.kind) = some .typeError ∧
      ((handleMessage Builtins.plain { master := m } "worker1"
        listedStatus).1.master.workers.lookup "worker1").map
          (fun c => c.status.queueSize) = some 3 ∧
      (m.workers.lookup "worker1").map (fun c => c.status.queueSize) = some 0)
    (by decide +kernel)
  cases hrun
  exact ⟨m₀, hstart, Message.fromDict_toDict _ rfl, herror, hkept, hbefore⟩

end Receiver

end KVStore
