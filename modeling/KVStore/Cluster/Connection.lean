import KVStore.Cluster.System
import KVStore.Common.Stream
import KVStore.Worker.Runtime

/-!
# The connection between the Master and a worker

What the Master and the threads of a worker give to `_send`, and what comes of it on the other
side of the connection. In `System` the connection is a list of messages in each direction;
here it is shown to behave as one, although several threads write to it piece by piece.
-/

namespace KVStore

open Python Pipe

/-- A message, up to its header. -/
inductive Content
  | task (task : Task) (priority : Bool)
  | terminate
  | queueStatus (status : WorkerStatus) (stats : WorkerStats)
  | resultSuccess (task : TaskRecord) (w : WorkerId) (waitSeconds : ℚ)
  | resultFail (task : TaskRecord) (w : WorkerId) (reason : String) (waitSeconds : ℚ)

namespace Content

def messageType : Content → MessageType
  | task _ _ => .TASK
  | terminate => .TERMINATE
  | queueStatus _ _ => .QUEUE_STATUS
  | resultSuccess _ _ _ => .RESULT_SUCCESS
  | resultFail _ _ _ _ => .RESULT_FAIL

def payload : Content → Object
  | task assigned priority =>
      [("task", .dict assigned.record.toDict), ("priority", .bool priority)]
  | terminate => []
  | queueStatus status stats =>
      status.toDict ++ [("p2p_statistics", .dict
        [("sent_events", .int stats.p2pTransfersSent), ("sent_tasks", .int stats.p2pTasksSent),
          ("received_events", .int stats.p2pTransfersReceived),
          ("received_tasks", .int stats.p2pTasksReceived)])]
  | resultSuccess processed w waitSeconds =>
      [("task_id", .str processed.taskId), ("key", .str processed.key),
        ("value", .int processed.value), ("worker_id", .str w),
        ("assignment_worker_id", .str (processed.assignmentOr w)),
        ("wait_seconds", .float (.finite waitSeconds))]
  | resultFail failed w reason waitSeconds =>
      [("task_id", .str failed.taskId), ("worker_id", .str w),
        ("assignment_worker_id", .str (failed.assignmentOr w)), ("reason", .str reason),
        ("wait_seconds", .float (.finite waitSeconds))]

/-- The message that `_send` makes of it at the clock reading `now`. -/
def message (content : Content) (senderId : String) (requestId : RequestId) (now : ℚ) :
    Message where
  messageType := content.messageType
  senderId := senderId
  requestId := requestId
  logicalClock := .finite now
  payload := content.payload

theorem jsonNative_optionalValue (s : Option String) : Value.JsonNative (optionalValue s) := by
  cases s with
  | none => exact .null
  | some s => exact .str s

theorem jsonNative_task (assigned : Task) :
    Value.JsonNative (.dict assigned.record.toDict) := by
  have hkeys : ["task_id", "key", "value", "attempt", "previous_worker_id",
      "assignment_worker_id", "enqueued_at"].Nodup := by decide
  refine .dict _ hkeys ?_
  simp only [TaskRecord.toDict, List.forall_mem_cons]
  exact ⟨.str _, .str _, .int _, .int _, jsonNative_optionalValue _, jsonNative_optionalValue _,
    .float _, List.forall_mem_nil _⟩

theorem jsonNative_payload (content : Content) : Value.JsonNative (.dict content.payload) := by
  cases content with
  | task assigned priority =>
      have hkeys : ["task", "priority"].Nodup := by decide
      refine .dict _ hkeys ?_
      simp only [payload, List.forall_mem_cons]
      exact ⟨jsonNative_task assigned, .bool _, List.forall_mem_nil _⟩
  | terminate => exact .dict [] List.nodup_nil (List.forall_mem_nil _)
  | queueStatus status stats =>
      have hkeys : ["worker_id", "queue_size", "queue_capacity", "processing_task_id",
          "p2p_statistics"].Nodup := by decide
      have hcounts : ["sent_events", "sent_tasks", "received_events", "received_tasks"].Nodup := by
        decide
      refine .dict _ hkeys ?_
      simp only [payload, WorkerStatus.toDict, List.cons_append, List.nil_append,
        List.forall_mem_cons]
      refine ⟨.str _, .int _, .int _, jsonNative_optionalValue _, .dict _ hcounts ?_,
        List.forall_mem_nil _⟩
      simp only [List.forall_mem_cons]
      exact ⟨.int _, .int _, .int _, .int _, List.forall_mem_nil _⟩
  | resultSuccess processed w waitSeconds =>
      have hkeys : ["task_id", "key", "value", "worker_id", "assignment_worker_id",
          "wait_seconds"].Nodup := by decide
      refine .dict _ hkeys ?_
      simp only [payload, List.forall_mem_cons]
      exact ⟨.str _, .str _, .int _, .str _, .str _, .float _, List.forall_mem_nil _⟩
  | resultFail failed w reason waitSeconds =>
      have hkeys : ["task_id", "worker_id", "assignment_worker_id", "reason",
          "wait_seconds"].Nodup := by decide
      refine .dict _ hkeys ?_
      simp only [payload, List.forall_mem_cons]
      exact ⟨.str _, .str _, .str _, .str _, .float _, List.forall_mem_nil _⟩

theorem native_message (content : Content) (senderId : String) (requestId : RequestId)
    (now : ℚ) : (content.message senderId requestId now).Native :=
  ⟨⟨now, rfl⟩, content.jsonNative_payload⟩

end Content

namespace WorkerRuntime

theorem sendResultSuccess_eq_send (json : Json) (service : P2PService) (task : TaskRecord)
    (waitSeconds : ℚ) (requestId : RequestId) (failure : Option OSErrorText) :
    sendResultSuccess json service task (.finite waitSeconds) requestId failure =
      service.send json .RESULT_SUCCESS requestId
        (Content.resultSuccess task service.workerId waitSeconds).payload failure :=
  rfl

theorem sendResultFail_eq_send (json : Json) (service : P2PService) (task : TaskRecord)
    (reason : String) (waitSeconds : ℚ) (requestId : RequestId) (failure : Option OSErrorText) :
    sendResultFail json service task reason (.finite waitSeconds) requestId failure =
      service.send json .RESULT_FAIL requestId
        (Content.resultFail task service.workerId reason waitSeconds).payload failure :=
  rfl

end WorkerRuntime

/-! ### What arrives -/

namespace Connection

/-- One direction of a connection, with the threads `τ` that send on it. -/
abbrev Wire (τ : Type*) := Pipe.State τ UInt8 Message PyError

/-- The threads give nothing but what the program sends to `_send`. -/
def Made {τ : Type*} : Pipe.Action τ Message → Prop
  | .start _ message => ∃ content senderId requestId now,
      message = Content.message content senderId requestId now
  | _ => True

variable {τ : Type*} [DecidableEq τ] (b : Builtins) {json : Json} {wire wire' : Wire τ}
  {actions more : List (Pipe.Action τ Message)}

theorem whole_of_run (hjson : json.RoundTrips) (hmade : ∀ a ∈ actions, Made a)
    (hrun : Transition.run (State.step (messageCodec b json)) {} actions = some wire) :
    wire.Whole (messageCodec b json) := by
  refine State.whole_run (State.whole_init _) (fun a ha => ?_) hrun
  have hcontent := hmade a ha
  cases a with
  | start t message =>
      obtain ⟨content, senderId, requestId, now, rfl⟩ := hcontent
      exact fun frame hframe =>
        delimits_frame b hjson (content.native_message senderId requestId now) hframe
  | _ => trivial

/-- **Frames are never torn.** However the threads, the pieces that they write and the chunks
that the reader takes interleave, what the reader has received are the first of the messages
that were sent, in the order in which the threads had the lock; it never finds a frame invalid,
and it is told that the stream has ended only after the connection broke. -/
theorem received_in_order (hjson : json.RoundTrips) (hmade : ∀ a ∈ actions, Made a)
    (hrun : Transition.run (State.step (messageCodec b json)) {} actions = some wire) :
    wire.received <+: wire.sent ∧
      (wire.ended = none ∨ wire.ended = some connectionClosed ∧ wire.broken = true) :=
  (whole_of_run b hjson hmade hrun).received_isPrefix

theorem roundTrips_terminateJson : terminateJson.RoundTrips := by
  intro v text _ hdumps
  simp only [terminateJson] at hdumps ⊢
  split at hdumps
  · split_ifs at hdumps with hq
    cases hdumps
    rw [if_pos rfl, hq]
    rfl
  · cases hdumps

theorem made_terminate {t : Thread} : Made (.start t terminate) :=
  ⟨.terminate, "master", "r1", 3, rfl⟩

/-- The receiver's frame arrives in three chunks. Of the processor's frame, five bytes do. -/
def interrupted : List (Pipe.Action Thread Message) :=
  [.start .receiver terminate, .write .receiver 6, .recv 3, .write .receiver 102,
    .start .processor terminate, .recv 1, .recv 104, .write .processor 10, .cut 5, .recv 4,
    .recv 1, .eof]

theorem received_in_order_interrupted :
    ∃ wire : Wire Thread,
      Transition.run (State.step (messageCodec Builtins.plain terminateJson)) {} interrupted =
        some wire ∧
        (wire.received.length = 1 ∧ wire.sent.length = 2 ∧ wire.ended.isSome = true) ∧
        wire.received <+: wire.sent ∧
        (wire.ended = none ∨ wire.ended = some connectionClosed ∧ wire.broken = true) := by
  have hany : (Transition.run (State.step (messageCodec Builtins.plain terminateJson)) {}
      interrupted).any (fun wire => wire.received.length = 1 ∧ wire.sent.length = 2 ∧
        wire.ended.isSome = true) = true := by decide +kernel
  obtain ⟨wire, hrun, hwire⟩ := (Option.any_eq_true _ _).1 hany
  refine ⟨wire, hrun, of_decide_eq_true hwire, ?_⟩
  refine received_in_order Builtins.plain roundTrips_terminateJson (fun a ha => ?_) hrun
  simp only [interrupted, List.mem_cons, List.not_mem_nil, or_false] at ha
  rcases ha with rfl | rfl | rfl | rfl | rfl | rfl | rfl | rfl | rfl | rfl | rfl | rfl
  all_goals first | exact made_terminate | trivial

/-- **Delivery.** As long as the connection is not broken, writing and reading on comes to an
end after a bounded number of pieces and chunks, whatever their sizes, and then all that was
sent has been received. -/
theorem received_all (hjson : json.RoundTrips) (hmade : ∀ a ∈ actions, Made a)
    (hrun : Transition.run (State.step (messageCodec b json)) {} actions = some wire)
    (hwhole : wire.broken = false) (hmore : ∀ a ∈ more, State.IsTransfer a)
    (hrest : Transition.run (State.step (messageCodec b json)) wire more = some wire') :
    more.length ≤ wire.load ∧ wire'.sent = wire.sent ∧
      ((∀ a, State.IsTransfer a → State.step (messageCodec b json) wire' a = none) →
        wire'.received = wire.sent) :=
  (whole_of_run b hjson hmade hrun).drains hwhole hmore hrest

/-- A frame that is being written, and its way to the reader. -/
theorem received_all_terminate :
    ∃ wire wire' : Wire Thread, wire.received.length = 0 ∧ wire'.received.length = 1 ∧
      wire'.received = wire.sent := by
  have hany : (Transition.run (State.step (messageCodec Builtins.plain terminateJson)) {}
      [.start Thread.server terminate, .write .server 6]).any (fun wire =>
        wire.broken = false ∧ wire.received.length = 0 ∧ (Transition.run
          (State.step (messageCodec Builtins.plain terminateJson)) wire
          [.recv 4, .write .server 102, .recv 2, .recv 102]).any (fun wire' =>
            wire'.received.length = 1 ∧ wire'.writing.isNone = true ∧ wire'.flight = [])) =
      true := by decide +kernel
  obtain ⟨wire, hrun, hwire⟩ := (Option.any_eq_true _ _).1 hany
  obtain ⟨hwhole, hnone, hrest⟩ := of_decide_eq_true hwire
  obtain ⟨wire', hrun', hwire'⟩ := (Option.any_eq_true _ _).1 hrest
  obtain ⟨hone, hwriting, hflight⟩ := of_decide_eq_true hwire'
  refine ⟨wire, wire', hnone, hone, ?_⟩
  obtain ⟨_, _, hall⟩ := received_all Builtins.plain roundTrips_terminateJson (by
    intro a ha
    simp only [List.mem_cons, List.not_mem_nil, or_false] at ha
    rcases ha with rfl | rfl
    · exact made_terminate
    · trivial) hrun hwhole (by
    intro a ha
    simp only [List.mem_cons, List.not_mem_nil, or_false] at ha
    rcases ha with rfl | rfl | rfl | rfl <;> trivial) hrun'
  exact hall fun a ha =>
    State.step_eq_none_of_idle (Option.isNone_iff_eq_none.1 hwriting) hflight ha

end Connection

end KVStore
