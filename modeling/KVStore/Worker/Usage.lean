import KVStore.Worker.Batches
import KVStore.Worker.Idempotence
import Mathlib.Algebra.Order.Group.Multiset

/-!
# The tasks stored in the ready queue

A task enters or leaves the queue when the ids it stores change. Of the calls of the other
threads only an accepted one, a batch that `Fits` and the removal of a reserved task do so.
-/

namespace KVStore

open HasTaskId Python

namespace ReadyQueue

variable {τ : Type*} [HasTaskId τ]

def stored (q : ReadyQueue τ) : Multiset TaskId :=
  ↑(q.normal.map taskId ++ q.priority.map taskId ++ q.reserved.keys)

/-- More than 70% of the capacity is in use. -/
def Above (q : ReadyQueue τ) : Prop := 7 * q.capacity < 10 * q.sizeLocked

instance (q : ReadyQueue τ) : Decidable q.Above :=
  inferInstanceAs (Decidable (7 * q.capacity < 10 * q.sizeLocked))

/-- What the calls other than those of the processor leave alone. -/
structure Keeps (q q' : ReadyQueue τ) : Prop where
  wellFormed : q'.WellFormed
  processing : q'.processingTaskId = q.processingTaskId
  capacity : q'.capacity = q.capacity

section Stored

variable {q q' : ReadyQueue τ} {t : TaskId} {task : τ}

theorem card_stored (q : ReadyQueue τ) : q.stored.card = q.sizeLocked := by
  simp [stored, sizeLocked_eq, add_assoc]

theorem coe_ids (q : ReadyQueue τ) :
    (↑q.ids : Multiset TaskId) = q.stored + ↑q.processingTaskId.toList :=
  (Multiset.coe_add _ _).symm

theorem Keeps.refl (h : q.WellFormed) : q.Keeps q := ⟨h, rfl, rfl⟩

theorem stored_eq_of_perm (added removed : List TaskId)
    (hids : (removed ++ q'.ids).Perm (added ++ q.ids))
    (hprocessing : q'.processingTaskId = q.processingTaskId) :
    ↑removed + q'.stored = ↑added + q.stored := by
  have hcoe := Multiset.coe_eq_coe.2 hids
  rw [← Multiset.coe_add, ← Multiset.coe_add, coe_ids, coe_ids, hprocessing, ← add_assoc,
    ← add_assoc] at hcoe
  exact add_right_cancel hcoe

theorem stored_append (q : ReadyQueue τ) (tasks : List τ) :
    (q.append tasks).stored = ↑(tasks.map taskId) + q.stored := by
  rw [stored, stored, Multiset.coe_add, Multiset.coe_eq_coe]
  simp only [append, List.map_append]
  rw [← List.append_assoc, ← List.append_assoc]
  exact (List.perm_append_comm.append_right _).append_right _

theorem keeps_tryEnqueue (h : q.WellFormed) (task : τ) (priority : Bool) :
    q.Keeps (q.tryEnqueue task priority).2 := by
  obtain ⟨_, hsame, _⟩ | ⟨_, _, hwf, _, _, _, hprocessing, hcapacity⟩ :=
    tryEnqueue_cases h task priority
  · rw [hsame]
    exact .refl h
  · exact ⟨hwf, hprocessing, hcapacity⟩

theorem tryEnqueue_warn (q : ReadyQueue τ) (task : τ) (priority : Bool) :
    (q.tryEnqueue task priority).1.warn = (q.tryEnqueue task priority).2.warnLocked := by
  unfold tryEnqueue
  split_ifs <;> rfl

theorem fits_map {tasks : List τ} {f : τ → τ} (hf : ∀ task, taskId (f task) = taskId task) :
    q.Fits (tasks.map f) ↔ q.Fits tasks := by
  have hids : (tasks.map f).map taskId = tasks.map taskId := by
    rw [List.map_map]
    exact List.map_congr_left fun task _ => hf task
  have hnew : (∀ task ∈ tasks.map f, taskId task ∉ q.activeTaskIds) ↔
      ∀ task ∈ tasks, taskId task ∉ q.activeTaskIds := by
    simp [hf]
  constructor
  · intro h
    exact ⟨hids ▸ h.nodup, hnew.1 h.new, by simpa using h.room⟩
  · intro h
    exact ⟨hids.symm ▸ h.nodup, hnew.2 h.new, by simpa using h.room⟩

/-- A batch moves tasks and leaves more than 70% in use exactly if it fits and does so. -/
theorem tryEnqueueMany_above {tasks : List τ} (hne : tasks ≠ []) :
    ((q.tryEnqueueMany tasks).2.stored ≠ q.stored ∧ (q.tryEnqueueMany tasks).2.Above) ↔
      q.Fits tasks ∧ 7 * q.capacity < 10 * (q.sizeLocked + tasks.length) := by
  obtain ⟨_, hadded, hrefused⟩ := tryEnqueueMany_spec q tasks
  by_cases hfits : q.Fits tasks
  · have hstored : (q.append tasks).stored ≠ q.stored := by
      rw [stored_append]
      simpa using hne
    rw [hadded hfits, Above, sizeLocked_append]
    exact ⟨fun h => ⟨hfits, h.2⟩, fun h => ⟨hstored, h.2⟩⟩
  · rw [hrefused hfits]
    exact ⟨fun h => absurd rfl h.1, fun h => absurd h.1 hfits⟩

theorem keeps_tryEnqueueMany (h : q.WellFormed) (tasks : List τ) :
    q.Keeps (q.tryEnqueueMany tasks).2 := by
  obtain ⟨_, hsame⟩ | ⟨_, _, hwf, _, _, _, _, _, hprocessing, hcapacity⟩ :=
    tryEnqueueMany_cases h tasks
  · rw [hsame]
    exact .refl h
  · exact ⟨hwf, hprocessing, hcapacity⟩

theorem reserveForTransfer_keeps [DecidableEq τ] (h : q.WellFormed) (t : TaskId) :
    q.Keeps (q.reserveForTransfer t).2 ∧ (q.reserveForTransfer t).2.stored = q.stored := by
  obtain hsame | ⟨_, _, _, _, _, hwf, hids, _, _, _, hprocessing, hcapacity, _⟩ :=
    reserveForTransfer_cases h t
  · rw [hsame]
    exact ⟨.refl h, rfl⟩
  · refine ⟨⟨hwf, hprocessing, hcapacity⟩, ?_⟩
    have hstored := stored_eq_of_perm [] [] hids hprocessing
    simpa using hstored

theorem releaseReservation_keeps (h : q.WellFormed) (t : TaskId) :
    q.Keeps (q.releaseReservation t).2 ∧ (q.releaseReservation t).2.stored = q.stored := by
  obtain ⟨_, _, hsame⟩ | ⟨_, _, _, _, hwf, hids, _, _, _, _, hprocessing, hcapacity⟩ :=
    releaseReservation_cases h t
  · rw [hsame]
    exact ⟨.refl h, rfl⟩
  · refine ⟨⟨hwf, hprocessing, hcapacity⟩, ?_⟩
    have hstored := stored_eq_of_perm [] [] hids hprocessing
    simpa using hstored

theorem confirmRemoved_keeps (h : q.WellFormed) (t : TaskId) :
    q.Keeps (q.confirmRemoved t).2 ∧
      (t ∉ q.reserved → (q.confirmRemoved t).2 = q) ∧
      (t ∈ q.reserved → q.stored = t ::ₘ (q.confirmRemoved t).2.stored) := by
  obtain ⟨_, hnone, hsame⟩ | ⟨_, _, _, hsome, hwf, hids, _, _, _, hprocessing, hcapacity⟩ :=
    confirmRemoved_cases h t
  · have hnot := AList.lookup_eq_none.1 hnone
    refine ⟨?_, fun _ => hsame, fun hmem => absurd hmem hnot⟩
    rw [hsame]
    exact .refl h
  · have hmem : t ∈ q.reserved := AList.lookup_isSome.1 (by rw [hsome]; rfl)
    refine ⟨⟨hwf, hprocessing, hcapacity⟩, fun hnot => absurd hmem hnot, fun _ => ?_⟩
    have hstored := stored_eq_of_perm [] [t] hids.symm hprocessing
    simpa using hstored.symm

/-- A removal moves a task and leaves more than 70% in use exactly if the task is reserved and
the queue without it is that full. -/
theorem confirmRemoved_above (h : q.WellFormed) (t : TaskId) :
    ((q.confirmRemoved t).2.stored ≠ q.stored ∧ (q.confirmRemoved t).2.Above) ↔
      t ∈ q.reserved ∧ 7 * q.capacity < 10 * (q.sizeLocked - 1) := by
  obtain ⟨hkeeps, hsame, hremoved⟩ := confirmRemoved_keeps h t
  by_cases hreserved : t ∈ q.reserved
  · have hsize : q.sizeLocked = (q.confirmRemoved t).2.sizeLocked + 1 := by
      rw [← card_stored, ← card_stored, hremoved hreserved, Multiset.card_cons]
    have hstored : (q.confirmRemoved t).2.stored ≠ q.stored := by
      intro heq
      rw [← card_stored, ← card_stored, heq] at hsize
      omega
    rw [Above, hkeeps.capacity, hsize, Nat.add_sub_cancel]
    exact ⟨fun h => ⟨hreserved, h.2⟩, fun h => ⟨hstored, h.2⟩⟩
  · rw [hsame hreserved]
    exact ⟨fun h => absurd rfl h.1, fun h => absurd h.1 hreserved⟩

omit [HasTaskId τ] in
/-- With the capacity of the assignment the comparison of floats is exact. -/
theorem warnLocked_iff (h : (q.capacity : ℤ) = DEFAULT_QUEUE_CAPACITY) :
    q.warnLocked = true ↔ q.Above := by
  have hcapacity : q.capacity = 10 := Int.ofNat_inj.1 h
  have hround : roundDouble (roundDouble 10 * WARN_THRESHOLD_RATIO) = 7 * 2 ^ 52 := by
    decide +kernel
  rw [warnLocked, Above, hcapacity, hround, decide_eq_true_iff]
  omega

end Stored

end ReadyQueue

namespace P2PService

/-- The tasks of a transfer that a peer may send and that is not handled yet, if all of them
are well formed. -/
def newBatch (b : Builtins) (json : Json) (service : P2PService) (conn : Connection) :
    Option (List TaskRecord) :=
  match conn.receive b json with
  | .error _ => none
  | .ok message =>
      if (service.peers ≠ [] ∧ message.senderId ∉ service.peers) ∨
          message.messageType ≠ .P2P_TRANSFER ∨
          service.handledTransfers.lookup message.requestId ≠ none then
        none
      else
        ((rawTasks message.payload).bind fun raw => raw.mapM (TaskRecord.fromDict b)).toOption

variable {b : Builtins} {json : Json} {service : P2PService} {sends : Sends}
variable {message : Message}

theorem ne_nil_of_rawTasks {payload : Object} {raw : List Value}
    (h : rawTasks payload = .ok raw) : raw ≠ [] := by
  rintro rfl
  unfold rawTasks at h
  split at h
  · rename_i raw' _
    split_ifs at h with hsize
    cases h
    exact absurd hsize.1 (by decide)
  · cases h

theorem acceptTransfer_queue (b : Builtins) (service : P2PService) (message : Message) :
    match ((rawTasks message.payload).bind fun raw =>
        raw.mapM (TaskRecord.fromDict b)).toOption with
    | none => ∃ e, service.acceptTransfer b message = .error e
    | some tasks => tasks ≠ [] ∧ ∃ service' payload,
        service.acceptTransfer b message = .ok (service', payload) ∧
          service'.workerId = service.workerId ∧
          service'.queue = (service.queue.tryEnqueueMany
            (tasks.map (TaskRecord.restamp service.clock.read))).2 := by
  unfold acceptTransfer
  cases hraw : rawTasks message.payload with
  | error e => exact ⟨e, rfl⟩
  | ok raw =>
      change match (raw.mapM (TaskRecord.fromDict b)).toOption with | none => _ | some tasks => _
      cases hdecoded : raw.mapM (TaskRecord.fromDict b) with
      | error e =>
          refine ⟨e, ?_⟩
          change (raw.mapM (TaskRecord.fromDict b)).bind _ = _
          rw [hdecoded]
          rfl
      | ok tasks =>
          refine ⟨?_, ?_⟩
          · rintro rfl
            cases raw with
            | nil => exact ne_nil_of_rawTasks hraw rfl
            | cons v rest =>
                rw [List.mapM_cons, Except.bind_eq_ok_iff] at hdecoded
                obtain ⟨task, _, hdecoded⟩ := hdecoded
                obtain ⟨tasks, _, hdecoded⟩ := Except.bind_eq_ok_iff.1 hdecoded
                cases hdecoded
          · change ∃ service' payload, (raw.mapM (TaskRecord.fromDict b)).bind _ = _ ∧ _
            rw [hdecoded]
            exact ⟨_, _, rfl, rfl, rfl⟩

/-- The queue has taken the new batch of the connection, or stayed as it is if there is
none. -/
def TakesBatch (b : Builtins) (json : Json) (service : P2PService) (conn : Connection)
    (service' : P2PService) : Prop :=
  service'.workerId = service.workerId ∧
    ((service.newBatch b json conn = none ∧ service'.queue = service.queue) ∨
      ∃ tasks now, service.newBatch b json conn = some tasks ∧ tasks ≠ [] ∧
        service'.queue =
          (service.queue.tryEnqueueMany (tasks.map (TaskRecord.restamp now))).2)

theorem takesBatch_acknowledgement (service : P2PService) {conn : Connection}
    (hreceive : conn.receive b json = .ok message) :
    match service.acknowledgement b message with
    | none => service.newBatch b json conn = none
    | some (service', _) => service.TakesBatch b json conn service' := by
  obtain ⟨clock, hobserve⟩ := service.clock.observe_of_nonneg
    (Message.valid_of_postInit (Connection.postInit_of_receive hreceive)).2
  unfold TakesBatch newBatch acknowledgement
  rw [hreceive, hobserve]
  dsimp only
  by_cases hsender : service.peers ≠ [] ∧ message.senderId ∉ service.peers
  · rw [if_pos hsender, if_pos (.inl hsender)]
  rw [if_neg hsender]
  by_cases htype : message.messageType = .P2P_TRANSFER
  · rw [if_pos htype]
    cases hlookup : service.handledTransfers.lookup message.requestId with
    | some previous =>
        rw [if_pos (.inr (.inr nofun))]
        exact ⟨rfl, .inl ⟨rfl, rfl⟩⟩
    | none =>
        rw [if_neg (by simp [hsender, htype])]
        have haccept := acceptTransfer_queue b { service with clock := clock } message
        cases hbatch : ((rawTasks message.payload).bind fun raw =>
            raw.mapM (TaskRecord.fromDict b)).toOption with
        | none =>
            rw [hbatch] at haccept
            obtain ⟨e, haccept⟩ := haccept
            dsimp only
            rw [haccept]
            rfl
        | some tasks =>
            rw [hbatch] at haccept
            obtain ⟨hne, service', payload, haccept, hworker, hqueue⟩ := haccept
            dsimp only
            rw [haccept]
            exact ⟨hworker, .inr ⟨tasks, clock.read, rfl, hne, hqueue⟩⟩
  · rw [if_neg htype, if_pos (.inr (.inl htype))]

theorem takesBatch_handleConnection (b : Builtins) (json : Json) (service : P2PService)
    (conn : Connection) (sends : Sends) :
    service.TakesBatch b json conn (service.handleConnection b json conn sends).1 := by
  unfold handleConnection
  cases hreceive : conn.receive b json with
  | error e => exact ⟨rfl, .inl ⟨by rw [newBatch, hreceive], rfl⟩⟩
  | ok message =>
      have htakes := takesBatch_acknowledgement service hreceive
      dsimp only
      cases hack : service.acknowledgement b message with
      | none =>
          have hsame : ∃ clock, (service.handleRequest b json sends message).1 =
              { service with clock := clock } := handleRequest_of_none hack
          obtain ⟨clock, hsame⟩ := hsame
          rw [hack] at htakes
          rw [hsame]
          exact ⟨rfl, .inl ⟨htakes, rfl⟩⟩
      | some acknowledged =>
          obtain ⟨service', payload⟩ := acknowledged
          have hafter : ∃ clock stats, (service.handleRequest b json sends message).1 =
              { service' with clock := clock, stats := stats } := by
            rw [handleRequest_eq hack]
            exact exists_afterResponse _ _ _
          obtain ⟨clock, stats, hafter⟩ := hafter
          rw [hack] at htakes
          rw [hafter]
          exact htakes

end P2PService

end KVStore
