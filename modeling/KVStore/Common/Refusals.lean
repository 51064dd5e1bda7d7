import KVStore.Common.Protocol
import KVStore.Library.Escapes

/-!
# Values that a codec does not foresee

`from_dict` is run on whatever JSON decodes to, under an `except` clause with a list of
classes. For each codec and each clause that it is run under, the values are described for
which the exception is in none of the classes: the first entry that cannot be used decides.
-/

namespace KVStore

open Python Except Framing

/-! ### `Task.from_dict` where `TypeError` and `ValueError` are caught -/

/-- The entries for which `Task.from_dict` raises another exception. -/
def TaskRecord.UnforeseenEntries (b : Builtins) (data : Object) : Prop :=
  (optionalStr b (data.get "previous_worker_id")).Succeeds ∧
  (optionalStr b (data.get "assignment_worker_id")).Succeeds ∧
  (data.get "task_id" = none ∨
    ∃ taskId, data.get "task_id" = some taskId ∧ (taskId.toStr b).Succeeds ∧
      (data.get "key" = none ∨
        ∃ key, data.get "key" = some key ∧ (key.toStr b).Succeeds ∧
          (data.get "value" = none ∨
            ∃ value, data.get "value" = some value ∧
              (value.IsInfinite ∨
                (value.toInt b).Succeeds ∧
                  ((data.getD "attempt" (.int 0)).IsInfinite ∨
                    ((data.getD "attempt" (.int 0)).toInt b).Succeeds ∧
                      (data.getD "enqueued_at" (.float (.finite 0))).IsTooLarge)))))

/-- The values for which it does: what is no dictionary, and a dictionary in which the first
entry in disorder is missing, infinite or too large. -/
def TaskRecord.Unforeseen (b : Builtins) (v : Value) : Prop :=
  (∀ data, v ≠ .dict data) ∨ ∃ data, v = .dict data ∧ TaskRecord.UnforeseenEntries b data

section

variable {b : Builtins} {kinds : List ErrorKind}

theorem not_escapes_optionalStr {v : Option Value} (hvalue : .valueError ∈ kinds) :
    ¬ (optionalStr b v).Escapes (handled kinds) := by
  unfold optionalStr
  split
  · exact not_escapes_ok _
  · exact not_escapes_ok _
  · rw [escapes_map]
    exact not_escapes_toStr hvalue

theorem TaskRecord.kind_of_postInit {task : TaskRecord} {e : PyError}
    (h : task.postInit = .error e) : e.kind = .valueError := by
  unfold TaskRecord.postInit at h
  simp only at h
  split_ifs at h <;> cases h <;> rfl

theorem asDict_eq_ok_iff {v : Value} {data : Object} : v.asDict = .ok data ↔ v = .dict data := by
  cases v <;> simp [Value.asDict]

theorem TaskRecord.escapes_fromDict {v : Value} (hvalue : .valueError ∈ kinds)
    (htype : .typeError ∈ kinds) (hkey : .keyError ∉ kinds) (hattribute : .attributeError ∉ kinds)
    (hoverflow : .overflowError ∉ kinds) :
    (TaskRecord.fromDict b v).Escapes (handled kinds) ↔ TaskRecord.Unforeseen b v := by
  have hpost : ∀ task : TaskRecord, ¬ task.postInit.Escapes (handled kinds) := by
    rintro task ⟨e, he, hcaught⟩
    rw [mem_handled, TaskRecord.kind_of_postInit he] at hcaught
    exact hcaught hvalue
  unfold TaskRecord.fromDict TaskRecord.Unforeseen TaskRecord.UnforeseenEntries Succeeds
  simp only [escapes_bind, escapes_asDict hattribute, not_escapes_optionalStr hvalue,
    escapes_item, not_escapes_toStr hvalue, escapes_toInt hvalue hoverflow,
    escapes_toFloat hvalue hoverflow, hpost, hkey, htype, asDict_eq_ok_iff,
    item_eq_ok_iff, false_or, and_false, or_false, not_false_eq_true, true_and, not_true_eq_false,
    false_and, exists_false, exists_and_right]

end

/-! ### `RegisterPayload.from_dict` where only `ValueError` is caught -/

def WorkerEndpoint.Unforeseen (b : Builtins) (data : Object) : Prop :=
  data.get "host" = none ∨
    ∃ host, data.get "host" = some host ∧ (host.toStr b).Succeeds ∧
      (data.get "port" = none ∨
        ∃ port, data.get "port" = some port ∧ (port.IsInfinite ∨ port.IsNoNumber))

/-- The payloads for which `RegisterPayload.from_dict` raises another exception. -/
def RegisterPayload.Unforeseen (b : Builtins) (data : Object) : Prop :=
  ∃ endpoint, data.get "p2p_endpoint" = some (.dict endpoint) ∧
    (data.get "worker_id" = none ∨
      ∃ workerId, data.get "worker_id" = some workerId ∧ (workerId.toStr b).Succeeds ∧
        (WorkerEndpoint.Unforeseen b endpoint ∨
          (WorkerEndpoint.fromDict b endpoint).Succeeds ∧
            ((data.getD "queue_capacity" (.int DEFAULT_QUEUE_CAPACITY)).IsInfinite ∨
              (data.getD "queue_capacity" (.int DEFAULT_QUEUE_CAPACITY)).IsNoNumber)))

section

variable {b : Builtins} {kinds : List ErrorKind}

theorem WorkerEndpoint.kind_of_postInit {endpoint : WorkerEndpoint} {e : PyError}
    (h : endpoint.postInit = .error e) : e.kind = .valueError := by
  unfold WorkerEndpoint.postInit at h
  split_ifs at h <;> cases h <;> rfl

theorem RegisterPayload.kind_of_postInit {payload : RegisterPayload} {e : PyError}
    (h : payload.postInit = .error e) : e.kind = .valueError := by
  unfold RegisterPayload.postInit at h
  split_ifs at h <;> cases h <;> rfl

theorem WorkerEndpoint.escapes_fromDict {data : Object} (hvalue : .valueError ∈ kinds)
    (htype : .typeError ∉ kinds) (hkey : .keyError ∉ kinds) (hoverflow : .overflowError ∉ kinds) :
    (WorkerEndpoint.fromDict b data).Escapes (handled kinds) ↔
      WorkerEndpoint.Unforeseen b data := by
  have hpost : ∀ endpoint : WorkerEndpoint, ¬ endpoint.postInit.Escapes (handled kinds) := by
    rintro endpoint ⟨e, he, hcaught⟩
    rw [mem_handled, WorkerEndpoint.kind_of_postInit he] at hcaught
    exact hcaught hvalue
  unfold WorkerEndpoint.fromDict WorkerEndpoint.Unforeseen Succeeds
  simp only [escapes_bind, escapes_item, not_escapes_toStr hvalue,
    escapes_toInt hvalue hoverflow, hpost, hkey, htype, item_eq_ok_iff, false_or, and_false,
    or_false, not_false_eq_true, true_and, exists_false, exists_and_right]

theorem RegisterPayload.escapes_fromDict {data : Object} (hvalue : .valueError ∈ kinds)
    (htype : .typeError ∉ kinds) (hkey : .keyError ∉ kinds) (hoverflow : .overflowError ∉ kinds) :
    (RegisterPayload.fromDict b data).Escapes (handled kinds) ↔
      RegisterPayload.Unforeseen b data := by
  have hpost : ∀ payload : RegisterPayload, ¬ payload.postInit.Escapes (handled kinds) := by
    rintro payload ⟨e, he, hcaught⟩
    rw [mem_handled, RegisterPayload.kind_of_postInit he] at hcaught
    exact hcaught hvalue
  unfold RegisterPayload.fromDict RegisterPayload.Unforeseen Succeeds
  split
  · rename_i endpoint hendpoint
    simp only [escapes_bind, escapes_item, not_escapes_toStr hvalue,
      escapes_toInt hvalue hoverflow, hpost, hkey, htype, item_eq_ok_iff, false_or, and_false,
      or_false, not_false_eq_true, true_and, exists_false, exists_and_right,
      WorkerEndpoint.escapes_fromDict hvalue htype hkey hoverflow, hendpoint, Option.some.injEq,
      Value.dict.injEq, exists_eq_left']
  · rename_i hendpoint
    refine iff_of_false (fun h => escapes_error.1 h hvalue) ?_
    rintro ⟨endpoint, h, _⟩
    exact hendpoint endpoint h

end

/-! ### `WorkerStatus.from_dict` and `Message.from_dict` where only `OverflowError` and
`AttributeError` are not caught -/

/-- The payloads for which `WorkerStatus.from_dict` raises an `OverflowError`. -/
def WorkerStatus.Unforeseen (b : Builtins) (data : Object) : Prop :=
  (optionalStr b (data.get "processing_task_id")).Succeeds ∧
    ∃ workerId, data.get "worker_id" = some workerId ∧ (workerId.toStr b).Succeeds ∧
      ∃ queueSize, data.get "queue_size" = some queueSize ∧
        (queueSize.IsInfinite ∨ (queueSize.toInt b).Succeeds ∧
          (data.getD "queue_capacity" (.int DEFAULT_QUEUE_CAPACITY)).IsInfinite)

/-- The objects for which `Message.from_dict` does. -/
def Message.Unforeseen (b : Builtins) (data : Object) : Prop :=
  (∃ payload, data.getD "payload" (.dict []) = .dict payload) ∧
    ((data.getD "version" (.int PROTOCOL_VERSION)).IsInfinite ∨
      ((data.getD "version" (.int PROTOCOL_VERSION)).toInt b).Succeeds ∧
        ∃ type, data.get "type" = some type ∧
          ∃ s, type.toStr b = .ok s ∧ (MessageType.ofValue b s).Succeeds ∧
            ∃ senderId, data.get "sender_id" = some senderId ∧ (senderId.toStr b).Succeeds ∧
              ∃ requestId, data.get "request_id" = some requestId ∧
                (requestId.toStr b).Succeeds ∧
                  (data.getD "logical_clock" (.float (.finite 0))).IsTooLarge)

section

variable {b : Builtins} {kinds : List ErrorKind}

theorem not_escapes_raiseValueError {α : Type} {x : Except String α}
    (hvalue : .valueError ∈ kinds) : ¬ (raiseValueError x).Escapes (handled kinds) := by
  cases x with
  | error text => exact fun h => escapes_error.1 h hvalue
  | ok a => exact not_escapes_ok a

theorem WorkerStatus.escapes_fromDict {data : Object} (hvalue : .valueError ∈ kinds)
    (htype : .typeError ∈ kinds) (hkey : .keyError ∈ kinds) (hoverflow : .overflowError ∉ kinds) :
    (WorkerStatus.fromDict b data).Escapes (handled kinds) ↔ WorkerStatus.Unforeseen b data := by
  unfold WorkerStatus.fromDict WorkerStatus.Unforeseen Succeeds
  simp only [escapes_bind, not_escapes_optionalStr hvalue, escapes_item,
    not_escapes_toStr hvalue, escapes_toInt hvalue hoverflow, not_escapes_raiseValueError hvalue,
    hkey, htype, item_eq_ok_iff, false_or, and_false, or_false, not_true_eq_false, false_and,
    exists_false, exists_and_right]

theorem WorkerStatus.postInit_of_fromDict {data : Object} {status : WorkerStatus}
    (h : WorkerStatus.fromDict b data = .ok status) : status.postInit = .ok status := by
  unfold WorkerStatus.fromDict at h
  simp only [bind_eq_ok_iff] at h
  obtain ⟨_, _, _, _, _, _, _, _, _, _, _, _, h⟩ := h
  generalize hraw : WorkerStatus.postInit _ = checked at h
  cases checked with
  | error text => cases h
  | ok kept =>
      cases h
      have hsame := (WorkerStatus.postInit_eq_ok hraw).1
      rw [← hsame] at hraw
      exact hraw

theorem Message.kind_of_postInit {message : Message} {e : PyError}
    (h : message.postInit = .error e) : e.kind = .valueError := by
  unfold Message.postInit at h
  split_ifs at h <;> cases h <;> rfl

theorem not_escapes_ofValue {s : String} (hvalue : .valueError ∈ kinds) :
    ¬ (MessageType.ofValue b s).Escapes (handled kinds) := by
  unfold MessageType.ofValue
  split
  · exact not_escapes_ok _
  · exact fun h => escapes_error.1 h hvalue

theorem Message.escapes_fromDict {data : Object} (hvalue : .valueError ∈ kinds)
    (htype : .typeError ∈ kinds) (hkey : .keyError ∈ kinds) (hoverflow : .overflowError ∉ kinds) :
    (Message.fromDict b data).Escapes (handled kinds) ↔ Message.Unforeseen b data := by
  have hpost : ∀ message : Message, ¬ message.postInit.Escapes (handled kinds) := by
    rintro message ⟨e, he, hcaught⟩
    rw [mem_handled, Message.kind_of_postInit he] at hcaught
    exact hcaught hvalue
  unfold Message.fromDict Message.Unforeseen Succeeds
  split
  · rename_i payload hpayload
    simp only [escapes_bind, escapes_item, not_escapes_toStr hvalue,
      escapes_toInt hvalue hoverflow, escapes_toFloat hvalue hoverflow, hpost,
      not_escapes_ofValue hvalue, hkey, htype, item_eq_ok_iff, false_or, and_false, or_false,
      not_true_eq_false, false_and, exists_false, exists_and_right, hpayload,
      Value.dict.injEq, exists_eq', true_and]
  · rename_i hpayload
    refine iff_of_false (fun h => escapes_error.1 h hvalue) ?_
    rintro ⟨⟨payload, h⟩, _⟩
    exact hpayload payload h

theorem kind_of_encodeMessage {json : Json} {message : Message} {e : PyError}
    (h : encodeMessage json message = .error e) : e.kind = .protocolError := by
  unfold encodeMessage at h
  split at h
  · cases h
    rfl
  · split_ifs at h
    cases h
    rfl

theorem sendMessage_of_error {json : Json} {failure : Option OSErrorText} {message : Message}
    {e : PyError} (hpost : message.postInit = .ok message)
    (hencode : encodeMessage json message = .error e) :
    sendMessage json failure message = .error e := by
  simp only [sendMessage, hpost, bind, Except.bind, hencode]

theorem sendMessage_of_ok {json : Json} {failure : Option OSErrorText} {message : Message}
    {frame : List UInt8} (hpost : message.postInit = .ok message)
    (hencode : encodeMessage json message = .ok frame) :
    sendMessage json failure message =
      match failure with
      | none => .ok message
      | some failure => .error ⟨.osError, failure.text⟩ := by
  cases failure with
  | none => simp only [sendMessage, hpost, bind, Except.bind, hencode]
  | some failure => simp only [sendMessage, hpost, bind, Except.bind, hencode]

theorem kind_of_sendMessage {json : Json} {failure : Option OSErrorText} {message : Message}
    {e : PyError} (h : sendMessage json failure message = .error e) :
    e.kind = .valueError ∨ e.kind = .protocolError ∨ e.kind = .osError := by
  unfold sendMessage at h
  cases hpost : message.postInit with
  | error e' =>
      rw [hpost] at h
      cases h
      exact .inl (Message.kind_of_postInit hpost)
  | ok message' =>
      rw [hpost] at h
      cases hencode : encodeMessage json message' with
      | error e' =>
          simp only [bind, Except.bind, hencode] at h
          cases h
          exact .inr (.inl (kind_of_encodeMessage hencode))
      | ok frame =>
          simp only [bind, Except.bind, hencode] at h
          cases failure with
          | none => cases h
          | some text =>
              cases h
              exact .inr (.inr rfl)

/-- A message that cannot be made or encoded is not handed to the socket. -/
theorem sendMessage_cases (json : Json) (failure : Option OSErrorText) (message : Message) :
    (∃ kept, sendMessage json none message = .ok kept ∧
      sendMessage json failure message =
        match failure with
        | none => .ok kept
        | some failure => .error ⟨.osError, failure.text⟩) ∨
    ∃ e, sendMessage json none message = .error e ∧ sendMessage json failure message = .error e ∧
      e.kind ≠ .osError := by
  cases hpost : message.postInit with
  | error e =>
      refine .inr ⟨e, ?_, ?_, by rw [Message.kind_of_postInit hpost]; decide⟩ <;>
        simp only [sendMessage, hpost, bind, Except.bind]
  | ok kept =>
      cases hencode : encodeMessage json kept with
      | error e =>
          refine .inr ⟨e, ?_, ?_, by rw [kind_of_encodeMessage hencode]; decide⟩ <;>
            simp only [sendMessage, hpost, bind, Except.bind, hencode]
      | ok frame =>
          refine .inl ⟨kept, ?_, ?_⟩
          · simp only [sendMessage, hpost, bind, Except.bind, hencode]
          · cases failure <;> simp only [sendMessage, hpost, bind, Except.bind, hencode]

/-- The text is nested too deeply, or it is such an object. -/
def Json.Unforeseen (b : Builtins) (json : Json) (payload : List UInt8) : Prop :=
  json.loads payload = .error .tooDeep ∨
    ∃ decoded, json.loads payload = .ok (.dict decoded) ∧ Message.Unforeseen b decoded

/-- The first frame is complete and of an allowed size, and holds such a text. -/
def Connection.Unforeseen (b : Builtins) (json : Json) (conn : Connection) : Prop :=
  ∃ payload, HoldsFrame conn.sock.incoming payload ∧ json.Unforeseen b payload

theorem Message.postInit_of_fromDict {data : Object} {message : Message}
    (h : Message.fromDict b data = .ok message) : message.postInit = .ok message := by
  have hsame : ∀ m m' : Message, m.postInit = .ok m' → m'.postInit = .ok m' := by
    intro m m' hpost
    have heq : m' = m := by
      unfold Message.postInit at hpost
      split_ifs at hpost
      cases hpost
      rfl
    rw [heq] at hpost ⊢
    exact hpost
  unfold Message.fromDict at h
  split at h
  · simp only [bind_eq_ok_iff] at h
    obtain ⟨_, _, _, _, _, _, _, _, _, _, _, _, _, _, _, _, _, _, h⟩ := h
    exact hsame _ _ h
  · cases h

theorem Message.valid_of_postInit {message message' : Message}
    (h : message.postInit = .ok message') :
    message.requestId ≠ "" ∧ message.logicalClock.lt (.finite 0) = false := by
  unfold Message.postInit at h
  split_ifs at h with _ _ hid hclock
  exact ⟨hid, Bool.eq_false_iff.2 hclock⟩

theorem postInit_of_decodeMessage {json : Json} {payload : List UInt8} {message : Message}
    (h : decodeMessage b json payload = .ok message) : message.postInit = .ok message := by
  unfold decodeMessage at h
  split at h
  · split at h
    · cases h
      exact Message.postInit_of_fromDict ‹_›
    · split_ifs at h
  · cases h
  · cases h

theorem Connection.postInit_of_receive {json : Json} {conn : Connection} {message : Message}
    (h : conn.receive b json = .ok message) : message.postInit = .ok message := by
  have hreceive : (receiveMessage b json conn.sock).1 = .ok message := by
    unfold Connection.receive at h
    split at h
    · split_ifs at h
    · exact h
  by_cases hframe : ∃ payload, HoldsFrame conn.sock.incoming payload
  · obtain ⟨payload, hholds⟩ := hframe
    rw [receiveMessage_of_holdsFrame b json hholds] at hreceive
    exact postInit_of_decodeMessage hreceive
  · obtain ⟨e, he, _⟩ := receiveMessage_of_not_holdsFrame b json (not_exists.1 hframe)
    rw [he] at hreceive
    cases hreceive

/-- `receive_message` turns the other exceptions into a `ProtocolError`. -/
theorem escapes_decodeMessage {json : Json} {payload : List UInt8}
    (hprotocol : .protocolError ∈ kinds) (hoverflow : .overflowError ∉ kinds)
    (hrecursion : .recursionError ∉ kinds) :
    (decodeMessage b json payload).Escapes (handled kinds) ↔ json.Unforeseen b payload := by
  have hfrom : ∀ decoded, Message.Unforeseen b decoded ↔
      (Message.fromDict b decoded).Escapes
        (handled [.keyError, .typeError, .valueError]) := fun decoded =>
    (Message.escapes_fromDict (by simp) (by simp) (by simp) (by simp)).symm
  unfold decodeMessage Json.Unforeseen
  split
  · rename_i decoded hloads
    simp only [hloads, reduceCtorEq, false_or, Except.ok.injEq, Value.dict.injEq,
      exists_eq_left', hfrom]
    cases hmessage : Message.fromDict b decoded with
    | ok message => exact iff_of_false (not_escapes_ok _) (not_escapes_ok _)
    | error e =>
        by_cases hcaught : e.kind ∈ [ErrorKind.keyError, .typeError, .valueError]
        · refine iff_of_false ?_ fun h => escapes_error.1 h hcaught
          simp only [if_pos hcaught, escapes_error, mem_handled]
          exact fun h => h hprotocol
        · -- the exceptions that can be left are in no clause without `OverflowError`
          have hleft : (Message.fromDict b decoded).Escapes
              (handled ([.keyError, .typeError, .valueError] ++ kinds)) := by
            rw [Message.escapes_fromDict (by simp) (by simp) (by simp) (by simp [hoverflow]),
              hfrom, hmessage]
            exact escapes_error.2 hcaught
          rw [hmessage, escapes_error, mem_handled, List.mem_append, not_or] at hleft
          simp only [if_neg hcaught]
          exact iff_of_true (escapes_error.2 hleft.2) (escapes_error.2 hcaught)
  · rename_i hloads
    exact iff_of_true (escapes_error.2 hrecursion) (.inl hloads)
  · rename_i hloads hshallow
    refine iff_of_false (fun h => escapes_error.1 h hprotocol) ?_
    rintro (h | ⟨decoded, h, _⟩)
    · exact hshallow h
    · exact hloads decoded h

theorem Connection.escapes_receive {json : Json} {conn : Connection}
    (heof : .eofError ∈ kinds) (hos : .osError ∈ kinds) (hprotocol : .protocolError ∈ kinds)
    (hoverflow : .overflowError ∉ kinds) (hrecursion : .recursionError ∉ kinds) :
    (conn.receive b json).Escapes (handled kinds) ↔ conn.Unforeseen b json := by
  -- what breaks the connection takes the place of an exception that is caught by one that is
  have hsame : (conn.receive b json).Escapes (handled kinds) ↔
      (receiveMessage b json conn.sock).1.Escapes (handled kinds) := by
    unfold Connection.receive
    split
    · rename_i e failure hsock _
      rw [hsock]
      split_ifs with hkind
      · refine iff_of_false (fun h => escapes_error.1 h hos) fun h => escapes_error.1 h ?_
        rw [mem_handled, hkind]
        exact heof
      · exact Iff.rfl
    · exact Iff.rfl
  rw [hsame, Connection.Unforeseen]
  by_cases hframe : ∃ payload, HoldsFrame conn.sock.incoming payload
  · obtain ⟨payload, hholds⟩ := hframe
    have hiff : (decodeMessage b json payload).Escapes (handled kinds) ↔ _ :=
      escapes_decodeMessage hprotocol hoverflow hrecursion
    rw [receiveMessage_of_holdsFrame b json hholds, hiff]
    constructor
    · exact fun h => ⟨payload, hholds, h⟩
    · rintro ⟨payload', hholds', h⟩
      rw [← hiff, ← receiveMessage_of_holdsFrame b json hholds,
        receiveMessage_of_holdsFrame b json hholds']
      exact (escapes_decodeMessage hprotocol hoverflow hrecursion).2 h
  · obtain ⟨e, he, _, hkind⟩ := receiveMessage_of_not_holdsFrame b json (not_exists.1 hframe)
    rw [he]
    refine iff_of_false (fun h => escapes_error.1 h ?_) ?_
    · rcases hkind with ⟨hkind, _⟩ | hkind
      · exact mem_handled.2 (hkind ▸ heof)
      · exact mem_handled.2 (hkind ▸ hprotocol)
    · rintro ⟨payload, hholds, _⟩
      exact hframe ⟨payload, hholds⟩

/-! ### The texts of the exceptions -/

theorem reportable_optionalStr {v : Option Value} : ¬ (optionalStr b v).Escapes reportable := by
  unfold optionalStr
  split
  · exact not_escapes_ok _
  · exact not_escapes_ok _
  · rw [escapes_map]
    exact reportable_toStr

theorem TaskRecord.reportable_postInit {task : TaskRecord} :
    ¬ task.postInit.Escapes reportable := by
  unfold TaskRecord.postInit
  simp only
  split_ifs <;> simp only [escapes_error, mem_reportable, not_escapes_ok, not_not,
    not_false_eq_true] <;> exact printable_ofList.2 (by decide)

theorem TaskRecord.reportable_fromDict {v : Value} :
    ¬ (TaskRecord.fromDict b v).Escapes reportable := by
  have hkeys : ∀ key ∈ ["task_id", "key", "value"], Printable key := by decide
  unfold TaskRecord.fromDict
  simp [escapes_bind, reportable_asDict, reportable_optionalStr, reportable_item, hkeys,
    reportable_toStr, reportable_toInt, reportable_toFloat, TaskRecord.reportable_postInit]

theorem printable_value (messageType : MessageType) : Printable messageType.value := by
  cases messageType <;> exact printable_ofList.2 (by decide)

theorem reportable_ofValue {s : String} : ¬ (MessageType.ofValue b s).Escapes reportable := by
  unfold MessageType.ofValue
  split
  · exact not_escapes_ok _
  · exact fun h => escapes_error.1 h (printable_append.2
      ⟨b.printable_quote s, printable_ofList.2 (by decide)⟩)

theorem Message.reportable_postInit {message : Message} :
    ¬ message.postInit.Escapes reportable := by
  have hversion : Printable ("unsupported protocol version: " ++ toString message.version) :=
    printable_append.2 ⟨printable_ofList.2 (by decide), printable_toString_int _⟩
  unfold Message.postInit
  split_ifs <;> simp only [escapes_error, mem_reportable, not_escapes_ok, not_not,
    not_false_eq_true, hversion] <;> exact printable_ofList.2 (by decide)

theorem Message.reportable_fromDict {data : Object} :
    ¬ (Message.fromDict b data).Escapes reportable := by
  have hkeys : ∀ key ∈ ["type", "sender_id", "request_id"], Printable key := by decide
  unfold Message.fromDict
  split
  · simp [escapes_bind, reportable_item, hkeys, reportable_toStr, reportable_toInt,
      reportable_toFloat, reportable_ofValue, Message.reportable_postInit]
  · exact fun h => escapes_error.1 h (printable_ofList.2 (by decide) :
      Printable "payload must be an object")

theorem printable_of_statusPostInit {status : WorkerStatus} {text : String}
    (h : status.postInit = .error text) : Printable text := by
  unfold WorkerStatus.postInit at h
  split_ifs at h <;> cases h <;> exact printable_ofList.2 (by decide)

theorem WorkerStatus.reportable_fromDict {data : Object} :
    ¬ (WorkerStatus.fromDict b data).Escapes reportable := by
  have hkeys : ∀ key ∈ ["worker_id", "queue_size"], Printable key := by decide
  have hpost : ∀ status : WorkerStatus,
      ¬ (raiseValueError status.postInit).Escapes reportable := by
    intro status
    cases hstatus : status.postInit with
    | error text => exact fun h => escapes_error.1 h (printable_of_statusPostInit hstatus)
    | ok kept => exact not_escapes_ok kept
  unfold WorkerStatus.fromDict
  simp [escapes_bind, reportable_optionalStr, reportable_item, hkeys, reportable_toStr,
    reportable_toInt, hpost]

theorem reportable_encodeMessage {json : Json} {message : Message} :
    ¬ (encodeMessage json message).Escapes reportable := by
  unfold encodeMessage
  split
  · exact fun h => escapes_error.1 h (printable_ofList.2 (by decide) :
      Printable "message payload is not JSON serializable")
  · split_ifs
    · exact fun h => escapes_error.1 h (printable_ofList.2 (by decide) :
        Printable "message payload size is outside the allowed range")
    · exact not_escapes_ok _

theorem reportable_sendMessage {json : Json} {failure : Option OSErrorText} {message : Message} :
    ¬ (sendMessage json failure message).Escapes reportable := by
  unfold sendMessage
  simp only [escapes_bind, Message.reportable_postInit, reportable_encodeMessage, false_or]
  rintro ⟨message, _, frame, _, h⟩
  cases failure with
  | none => exact not_escapes_ok _ h
  | some failure => exact escapes_error.1 h failure.printable

theorem reportable_decodeMessage {json : Json} {payload : List UInt8} :
    ¬ (decodeMessage b json payload).Escapes reportable := by
  have hinvalid : Printable "invalid message payload" := printable_ofList.2 (by decide)
  unfold decodeMessage
  split
  · rename_i decoded _
    cases hmessage : Message.fromDict b decoded with
    | ok message => exact not_escapes_ok _
    | error e =>
        have htext : ¬ (Message.fromDict b decoded).Escapes reportable :=
          Message.reportable_fromDict
        rw [hmessage] at htext
        dsimp only
        split_ifs
        · exact fun h => escapes_error.1 h hinvalid
        · exact htext
  · exact fun h => escapes_error.1 h (printable_ofList.2 (by decide) :
      Printable "maximum recursion depth exceeded")
  · exact fun h => escapes_error.1 h hinvalid

/-- What `receive_message` raises can be printed, whatever was received. -/
theorem Connection.reportable_receive {json : Json} {conn : Connection} :
    ¬ (conn.receive b json).Escapes reportable := by
  have hsock : ¬ (receiveMessage b json conn.sock).1.Escapes reportable := by
    by_cases hframe : ∃ payload, HoldsFrame conn.sock.incoming payload
    · obtain ⟨payload, hholds⟩ := hframe
      rw [receiveMessage_of_holdsFrame b json hholds]
      exact reportable_decodeMessage
    · obtain ⟨e, he, htext, _⟩ := receiveMessage_of_not_holdsFrame b json (not_exists.1 hframe)
      rw [he]
      exact fun h => escapes_error.1 h htext
  unfold Connection.receive
  split
  · rename_i e failure he _
    rw [he] at hsock
    split_ifs
    · exact fun h => escapes_error.1 h failure.printable
    · exact hsock
  · exact hsock

end

end KVStore
