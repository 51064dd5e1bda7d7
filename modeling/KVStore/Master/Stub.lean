import KVStore.Common.Refusals
import KVStore.Library.Dict
import KVStore.Library.Transition

/-!
# The registration check

`RegistrationServer` of the registration check: one handler thread for each connection, and the
registered workers in a dictionary under a lock. Between two uses of the lock the handlers run
in any order.
-/

namespace KVStore

open Python Except Framing

structure RegisteredWorker where
  workerId : WorkerId
  host : String
  port : ℤ
deriving DecidableEq

/-- The worker that a payload names. -/
def RegisterPayload.registeredWorker (payload : RegisterPayload) : RegisteredWorker where
  workerId := payload.workerId
  host := payload.p2pEndpoint.host
  port := payload.p2pEndpoint.port

abbrev RegistrationState := Dict WorkerId RegisteredWorker

def RegistrationState.register (workers : RegistrationState) (payload : RegisterPayload) :
    Except PyError (RegisteredWorker × RegistrationState) :=
  let worker := payload.registeredWorker
  match workers.lookup worker.workerId with
  | some existing =>
      if existing ≠ worker then
        .error ⟨.valueError, "worker_id already registered: " ++ worker.workerId⟩
      else
        .ok (worker, workers.insert worker.workerId worker)
  | none => .ok (worker, workers.insert worker.workerId worker)

/-- The classes in the `except` clause of `handle`. -/
def HANDLE_CATCHES : List ErrorKind := [.eofError, .protocolError, .valueError]

/-- Where `handle` stands. `closed` has the message that was sent, if one was sent to its end. -/
inductive RegistrationHandler
  | accepted (conn : Connection)
  | received (message : Message)
  | registered (message : Message) (worker : RegisteredWorker)
  | counted (message : Message) (worker : RegisteredWorker) (registeredWorkers : ℕ)
  | refused (requestId : RequestId) (e : PyError)
  | closed (sent : Option Message)

namespace RegistrationHandler

def ack (requestId : RequestId) (worker : RegisteredWorker) (registeredWorkers : ℕ) :
    Message where
  messageType := .ACK
  senderId := "master"
  requestId := requestId
  payload := [("acknowledged_type", .str MessageType.REGISTER.value),
    ("worker_id", .str worker.workerId), ("registered_workers", .int registeredWorkers)]

def error (requestId : RequestId) (e : PyError) : Message where
  messageType := .ERROR
  senderId := "master"
  requestId := requestId
  payload := [("error", .str e.text)]

/-- An exception in the `try` block is answered, or ends the thread. -/
def fail (requestId : RequestId) (e : PyError) : RegistrationHandler :=
  if e.kind ∈ HANDLE_CATCHES then .refused requestId e else .closed none

/-- `handle` up to its next use of the lock, with the `OSError` of `sendall`, if it raises
one. -/
def handle (b : Builtins) (json : Json) (workers : RegistrationState)
    (failure : Option OSErrorText) : RegistrationHandler → RegistrationState × RegistrationHandler
  | accepted conn =>
      match conn.receive b json with
      | .ok message => (workers, received message)
      | .error e => (workers, fail "unknown" e)
  | received message =>
      if message.messageType ≠ .REGISTER then
        (workers, fail message.requestId ⟨.valueError, "the first message must be REGISTER"⟩)
      else
        match RegisterPayload.fromDict b message.payload with
        | .error e => (workers, fail message.requestId e)
        | .ok registration =>
            match workers.register registration with
            | .error e => (workers, fail message.requestId e)
            | .ok (worker, workers) => (workers, registered message worker)
  | registered message worker => (workers, counted message worker workers.size)
  | counted message worker registeredWorkers =>
      match sendMessage json failure (ack message.requestId worker registeredWorkers) with
      | .ok response => (workers, closed (some response))
      | .error e => (workers, fail message.requestId e)
  | refused requestId e =>
      match sendMessage json failure (error requestId e) with
      | .ok response => (workers, closed (some response))
      | .error _ => (workers, closed none)
  | closed sent => (workers, closed sent)

/-- How often the handler can still go on. -/
def rank : RegistrationHandler → ℕ
  | accepted _ => 5
  | received _ => 4
  | registered _ _ => 3
  | counted _ _ _ => 2
  | refused _ _ => 1
  | closed _ => 0

/-- The type of the answer that was sent. -/
def answerType : RegistrationHandler → Option MessageType
  | closed sent => sent.map Message.messageType
  | _ => none

end RegistrationHandler

/-- The handlers are numbered by their connections. -/
structure RegistrationServer where
  workers : RegistrationState
  handlers : ℕ → RegistrationHandler

namespace RegistrationServer

def start (conns : ℕ → Connection) : RegistrationServer where
  workers := ∅
  handlers := fun number => .accepted (conns number)

/-- The handler that goes on, and the `OSError` of its `sendall`, if it raises one. -/
structure Turn where
  number : ℕ
  failure : Option OSErrorText := none

def step (b : Builtins) (json : Json) (s : RegistrationServer) (turn : Turn) :
    Option RegistrationServer :=
  match s.handlers turn.number with
  | .closed _ => none
  | handler =>
      let (workers, handler) := handler.handle b json s.workers turn.failure
      some { workers, handlers := Function.update s.handlers turn.number handler }

/-! ### What holds of the answers -/

/-- The entries stay as they are. -/
structure Extends (workers workers' : RegistrationState) : Prop where
  lookup : ∀ w worker, workers.lookup w = some worker → workers'.lookup w = some worker
  size : workers.size ≤ workers'.size

/-- The connection delivered a `REGISTER` for the worker. -/
structure Registers (b : Builtins) (json : Json) (conn : Connection) (message : Message)
    (worker : RegisteredWorker) : Prop where
  receive : conn.receive b json = .ok message
  messageType : message.messageType = .REGISTER
  payload : ∃ registration, RegisterPayload.fromDict b message.payload = .ok registration ∧
    worker = registration.registeredWorker

/-- Why a client is refused. -/
inductive Refusal (b : Builtins) (json : Json) (workers : RegistrationState) (conn : Connection) :
    RequestId → PyError → Prop
  | unreadable (e : PyError) (receive : conn.receive b json = .error e) :
      Refusal b json workers conn "unknown" e
  | unexpected (message : Message) (receive : conn.receive b json = .ok message)
      (messageType : message.messageType ≠ .REGISTER) :
      Refusal b json workers conn message.requestId
        ⟨.valueError, "the first message must be REGISTER"⟩
  | invalid (message : Message) (e : PyError) (receive : conn.receive b json = .ok message)
      (messageType : message.messageType = .REGISTER)
      (payload : RegisterPayload.fromDict b message.payload = .error e) :
      Refusal b json workers conn message.requestId e
  | taken (message : Message) (worker existing : RegisteredWorker)
      (registers : Registers b json conn message worker)
      (lookup : workers.lookup worker.workerId = some existing) (ne : existing ≠ worker) :
      Refusal b json workers conn message.requestId
        ⟨.valueError, "worker_id already registered: " ++ worker.workerId⟩
  | unanswerable (message : Message) (worker : RegisteredWorker) (registeredWorkers : ℕ)
      (e : PyError) (registers : Registers b json conn message worker)
      (lookup : workers.lookup worker.workerId = some worker)
      (pos : 0 < registeredWorkers) (le : registeredWorkers ≤ workers.size)
      (encode : encodeMessage json
        (RegistrationHandler.ack message.requestId worker registeredWorkers) = .error e) :
      Refusal b json workers conn message.requestId e

/-- What a handler knows, at each point. -/
inductive Stands (b : Builtins) (json : Json) (workers : RegistrationState) (conn : Connection) :
    RegistrationHandler → Prop
  | accepted : Stands b json workers conn (.accepted conn)
  | received (message : Message) (receive : conn.receive b json = .ok message) :
      Stands b json workers conn (.received message)
  | registered (message : Message) (worker : RegisteredWorker)
      (registers : Registers b json conn message worker)
      (lookup : workers.lookup worker.workerId = some worker) :
      Stands b json workers conn (.registered message worker)
  | counted (message : Message) (worker : RegisteredWorker) (registeredWorkers : ℕ)
      (registers : Registers b json conn message worker)
      (lookup : workers.lookup worker.workerId = some worker)
      (pos : 0 < registeredWorkers) (le : registeredWorkers ≤ workers.size) :
      Stands b json workers conn (.counted message worker registeredWorkers)
  | refused (requestId : RequestId) (e : PyError)
      (refusal : Refusal b json workers conn requestId e) (kind : e.kind ∈ HANDLE_CATCHES) :
      Stands b json workers conn (.refused requestId e)
  | acknowledged (message : Message) (worker : RegisteredWorker) (registeredWorkers : ℕ)
      (registers : Registers b json conn message worker)
      (lookup : workers.lookup worker.workerId = some worker)
      (pos : 0 < registeredWorkers) (le : registeredWorkers ≤ workers.size) :
      Stands b json workers conn (.closed
        (some (RegistrationHandler.ack message.requestId worker registeredWorkers)))
  | answered (requestId : RequestId) (e : PyError)
      (refusal : Refusal b json workers conn requestId e) :
      Stands b json workers conn (.closed (some (RegistrationHandler.error requestId e)))
  | silent : Stands b json workers conn (.closed none)

def Enrolled (b : Builtins) (json : Json) (conns : ℕ → Connection)
    (workers : RegistrationState) : Prop :=
  ∀ w worker, workers.lookup w = some worker →
    worker.workerId = w ∧ ∃ number message, Registers b json (conns number) message worker

section

variable {b : Builtins} {json : Json} {conns : ℕ → Connection} {conn : Connection}
  {s s' : RegistrationServer} {workers workers' : RegistrationState} {number : ℕ}

theorem Extends.refl (workers : RegistrationState) : Extends workers workers where
  lookup := fun _ _ h => h
  size := le_rfl

theorem Extends.trans {workers₁ workers₂ workers₃ : RegistrationState}
    (h : Extends workers₁ workers₂) (h' : Extends workers₂ workers₃) :
    Extends workers₁ workers₃ where
  lookup := fun w worker hw => h'.lookup w worker (h.lookup w worker hw)
  size := h.size.trans h'.size

theorem register_eq_ok {payload : RegisterPayload} {worker : RegisteredWorker}
    (h : workers.register payload = .ok (worker, workers')) :
    worker = payload.registeredWorker ∧
      (∀ w, workers'.lookup w =
        if w = worker.workerId then some worker else workers.lookup w) ∧
      Extends workers workers' := by
  have hinsert : worker = payload.registeredWorker ∧
      workers' = workers.insert worker.workerId worker ∧
      (workers.lookup worker.workerId = none ∨ workers.lookup worker.workerId = some worker) := by
    unfold RegistrationState.register at h
    dsimp only at h
    cases hlookup : workers.lookup payload.registeredWorker.workerId with
    | none =>
        rw [hlookup] at h
        cases h
        exact ⟨rfl, rfl, .inl hlookup⟩
    | some existing =>
        rw [hlookup] at h
        dsimp only at h
        split_ifs at h with hsame
        cases h
        rw [not_not] at hsame
        subst hsame
        exact ⟨rfl, rfl, .inr hlookup⟩
  obtain ⟨hworker, rfl, hold⟩ := hinsert
  have hlookup : ∀ w, (workers.insert worker.workerId worker).lookup w =
      if w = worker.workerId then some worker else workers.lookup w :=
    fun w => Dict.lookup_insert_eq_ite w _ _ _
  refine ⟨hworker, hlookup, fun w other hother => ?_, ?_⟩
  · rw [hlookup]
    split_ifs with hw
    · subst hw
      rcases hold with hnone | hsome
      · rw [hnone] at hother
        cases hother
      · exact hsome.symm.trans hother
    · exact hother
  · rw [Dict.size_eq_card, Dict.size_eq_card]
    refine Finset.card_le_card fun w hw => ?_
    rw [List.mem_toFinset, Dict.mem_keys_iff] at hw ⊢
    rw [hlookup]
    split_ifs
    · exact ⟨_, rfl⟩
    · exact hw

theorem register_eq_error {payload : RegisterPayload} {e : PyError}
    (h : workers.register payload = .error e) :
    ∃ existing, workers.lookup payload.registeredWorker.workerId = some existing ∧
      existing ≠ payload.registeredWorker ∧ e = ⟨.valueError,
        "worker_id already registered: " ++ payload.registeredWorker.workerId⟩ := by
  unfold RegistrationState.register at h
  dsimp only at h
  cases hlookup : workers.lookup payload.registeredWorker.workerId with
  | none =>
      rw [hlookup] at h
      cases h
  | some existing =>
      rw [hlookup] at h
      dsimp only at h
      split_ifs at h with hne
      cases h
      exact ⟨existing, rfl, hne, rfl⟩

theorem Refusal.mono (hext : Extends workers workers') {requestId : RequestId} {e : PyError}
    (h : Refusal b json workers conn requestId e) : Refusal b json workers' conn requestId e := by
  cases h with
  | unreadable _ receive => exact .unreadable _ receive
  | unexpected message receive messageType => exact .unexpected message receive messageType
  | invalid message _ receive messageType payload =>
      exact .invalid message _ receive messageType payload
  | taken message worker existing registers lookup ne =>
      exact .taken message worker existing registers (hext.lookup _ _ lookup) ne
  | unanswerable message worker n _ registers lookup pos le encode =>
      exact .unanswerable message worker n _ registers (hext.lookup _ _ lookup) pos
        (le.trans hext.size) encode

/-- What the others register changes nothing for a handler. -/
theorem Stands.mono (hext : Extends workers workers') {handler : RegistrationHandler}
    (h : Stands b json workers conn handler) : Stands b json workers' conn handler := by
  cases h with
  | accepted => exact .accepted
  | received message receive => exact .received message receive
  | registered message worker registers lookup =>
      exact .registered message worker registers (hext.lookup _ _ lookup)
  | counted message worker n registers lookup pos le =>
      exact .counted message worker n registers (hext.lookup _ _ lookup) pos (le.trans hext.size)
  | refused requestId e refusal kind => exact .refused requestId e (refusal.mono hext) kind
  | acknowledged message worker n registers lookup pos le =>
      exact .acknowledged message worker n registers (hext.lookup _ _ lookup) pos
        (le.trans hext.size)
  | answered requestId e refusal => exact .answered requestId e (refusal.mono hext)
  | silent => exact .silent

theorem Refusal.stands_fail {requestId : RequestId} {e : PyError}
    (h : Refusal b json workers conn requestId e) :
    Stands b json workers conn (RegistrationHandler.fail requestId e) := by
  unfold RegistrationHandler.fail
  split_ifs with hkind
  · exact .refused requestId e h hkind
  · exact .silent

theorem postInit_reply {requestId : RequestId} (h : requestId ≠ "") (messageType : MessageType)
    (payload : Object) :
    Message.postInit { messageType, senderId := "master", requestId, payload } =
      .ok { messageType, senderId := "master", requestId, payload } := by
  unfold Message.postInit
  rw [if_neg (not_not.2 rfl), if_neg (show "master" ≠ "" by decide), if_neg h,
    if_neg (by simp [PyFloat.lt])]

theorem sendMessage_reply {requestId : RequestId} (h : requestId ≠ "") (json : Json)
    (failure : Option OSErrorText) (messageType : MessageType) (payload : Object) :
    let reply : Message := { messageType, senderId := "master", requestId, payload }
    sendMessage json failure reply = .ok reply ∨
      (∃ e, sendMessage json failure reply = .error e ∧ encodeMessage json reply = .error e) ∨
      ∃ e, sendMessage json failure reply = .error e ∧ e.kind = .osError := by
  intro reply
  have hpost : reply.postInit = .ok reply := postInit_reply h messageType payload
  cases hencode : encodeMessage json reply with
  | error e => exact .inr (.inl ⟨e, sendMessage_of_error hpost hencode, rfl⟩)
  | ok frame =>
      cases failure with
      | none => exact .inl (sendMessage_of_ok hpost hencode)
      | some text => exact .inr (.inr ⟨_, sendMessage_of_ok hpost hencode, rfl⟩)

theorem requestId_ne_of_receive {message : Message} (h : conn.receive b json = .ok message) :
    message.requestId ≠ "" :=
  (Message.valid_of_postInit (Connection.postInit_of_receive h)).1

theorem Refusal.requestId_ne {requestId : RequestId} {e : PyError}
    (h : Refusal b json workers conn requestId e) : requestId ≠ "" := by
  cases h with
  | unreadable => decide
  | unexpected message receive => exact requestId_ne_of_receive receive
  | invalid message _ receive => exact requestId_ne_of_receive receive
  | taken message _ _ registers => exact requestId_ne_of_receive registers.receive
  | unanswerable message _ _ _ registers => exact requestId_ne_of_receive registers.receive

/-- What a turn of a handler does. -/
structure Handled (b : Builtins) (json : Json) (workers : RegistrationState) (conn : Connection)
    (handler : RegistrationHandler) (workers' : RegistrationState)
    (handler' : RegistrationHandler) : Prop where
  grows : Extends workers workers'
  stands : Stands b json workers' conn handler'
  rank : handler'.rank < handler.rank
  enrolled : ∀ w worker, workers'.lookup w = some worker → workers.lookup w = some worker ∨
    (worker.workerId = w ∧ ∃ message, Registers b json conn message worker)

theorem Handled.of_same (handler : RegistrationHandler) {handler' : RegistrationHandler}
    (hstands : Stands b json workers conn handler') (hrank : handler'.rank < handler.rank) :
    Handled b json workers conn handler workers handler' where
  grows := .refl workers
  stands := hstands
  rank := hrank
  enrolled := fun _ _ h => .inl h

theorem Refusal.handled {requestId : RequestId} {e : PyError}
    (h : Refusal b json workers conn requestId e) {handler : RegistrationHandler}
    (hrank : 1 < handler.rank) :
    Handled b json workers conn handler workers (RegistrationHandler.fail requestId e) := by
  refine .of_same handler h.stands_fail ?_
  unfold RegistrationHandler.fail
  split_ifs
  · exact hrank
  · exact lt_trans Nat.zero_lt_one hrank

theorem handled_of_stands {handler : RegistrationHandler}
    (h : Stands b json workers conn handler) (hopen : ∀ sent, handler ≠ .closed sent)
    (failure : Option OSErrorText) :
    Handled b json workers conn handler (handler.handle b json workers failure).1
      (handler.handle b json workers failure).2 := by
  cases h with
  | accepted =>
      unfold RegistrationHandler.handle
      dsimp only
      cases hreceive : conn.receive b json with
      | ok message =>
          exact .of_same (.accepted conn) (.received message hreceive) (Nat.lt_succ_self 4)
      | error e =>
          have hrank : 1 < (RegistrationHandler.accepted conn).rank := by
            simp [RegistrationHandler.rank]
          exact (Refusal.unreadable e hreceive).handled hrank
  | received message hreceive =>
      have hrank : 1 < (RegistrationHandler.received message).rank := by
        simp [RegistrationHandler.rank]
      unfold RegistrationHandler.handle
      dsimp only
      by_cases htype : message.messageType = .REGISTER
      swap
      · rw [if_pos htype]
        exact (Refusal.unexpected message hreceive htype).handled hrank
      rw [if_neg (not_not.2 htype)]
      cases hpayload : RegisterPayload.fromDict b message.payload with
      | error e => exact (Refusal.invalid message e hreceive htype hpayload).handled hrank
      | ok registration =>
          dsimp only
          cases hregister : workers.register registration with
          | error e =>
              obtain ⟨existing, hlookup, hne, rfl⟩ := register_eq_error hregister
              have hregisters : Registers b json conn message registration.registeredWorker :=
                ⟨hreceive, htype, registration, hpayload, rfl⟩
              exact (Refusal.taken message _ existing hregisters hlookup hne).handled hrank
          | ok result =>
              obtain ⟨worker, workers'⟩ := result
              obtain ⟨hworker, hlookup, hext⟩ := register_eq_ok hregister
              have hregisters : Registers b json conn message worker :=
                ⟨hreceive, htype, registration, hpayload, hworker⟩
              refine ⟨hext, .registered message worker hregisters ?_, Nat.lt_succ_self 3,
                fun w other h => ?_⟩
              · dsimp only
                rw [hlookup, if_pos rfl]
              · dsimp only at h
                rw [hlookup] at h
                split_ifs at h with hw
                · cases h
                  exact .inr ⟨hw.symm, message, hregisters⟩
                · exact .inl h
  | registered message worker hregisters hlookup =>
      have hpos : 0 < workers.size := by
        rw [Dict.size_eq_card, Finset.card_pos]
        exact ⟨worker.workerId, List.mem_toFinset.2 (Dict.mem_keys_iff.2 ⟨_, hlookup⟩)⟩
      exact .of_same (.registered message worker)
        (.counted message worker workers.size hregisters hlookup hpos le_rfl) (Nat.lt_succ_self 2)
  | counted message worker n hregisters hlookup hpos hle =>
      unfold RegistrationHandler.handle
      rcases sendMessage_reply (requestId_ne_of_receive hregisters.receive) json failure
        (RegistrationHandler.ack message.requestId worker n).messageType
        (RegistrationHandler.ack message.requestId worker n).payload with
        hsent | ⟨e, hsent, hencode⟩ | ⟨e, hsent, hos⟩
      · dsimp only [RegistrationHandler.ack] at hsent ⊢
        rw [hsent]
        exact .of_same (.counted message worker n)
          (.acknowledged message worker n hregisters hlookup hpos hle) Nat.zero_lt_two
      · dsimp only [RegistrationHandler.ack] at hsent ⊢
        rw [hsent]
        exact (Refusal.unanswerable message worker n e hregisters hlookup hpos hle hencode).handled
          (by simp [RegistrationHandler.rank])
      · dsimp only [RegistrationHandler.ack] at hsent ⊢
        rw [hsent]
        dsimp only
        rw [RegistrationHandler.fail, if_neg (by rw [hos]; decide)]
        exact .of_same (.counted message worker n) .silent Nat.zero_lt_two
  | refused requestId e hrefusal hkind =>
      unfold RegistrationHandler.handle
      have hsilent : Handled b json workers conn (.refused requestId e) workers (.closed none) :=
        .of_same (.refused requestId e) .silent Nat.zero_lt_one
      rcases sendMessage_reply hrefusal.requestId_ne json failure
        (RegistrationHandler.error requestId e).messageType
        (RegistrationHandler.error requestId e).payload with
        hsent | ⟨e', hsent, _⟩ | ⟨e', hsent, _⟩
      · dsimp only [RegistrationHandler.error] at hsent ⊢
        rw [hsent]
        exact .of_same (.refused requestId e) (.answered requestId e hrefusal) Nat.zero_lt_one
      · dsimp only [RegistrationHandler.error] at hsent ⊢
        rw [hsent]
        exact hsilent
      · dsimp only [RegistrationHandler.error] at hsent ⊢
        rw [hsent]
        exact hsilent
  | acknowledged => exact absurd rfl (hopen _)
  | answered => exact absurd rfl (hopen _)
  | silent => exact absurd rfl (hopen _)

/-! ### Whole runs -/

structure Coherent (b : Builtins) (json : Json) (conns : ℕ → Connection)
    (s : RegistrationServer) : Prop where
  stands : ∀ number, Stands b json s.workers (conns number) (s.handlers number)
  enrolled : Enrolled b json conns s.workers

theorem coherent_start (b : Builtins) (json : Json) (conns : ℕ → Connection) :
    Coherent b json conns (start conns) where
  stands := fun _ => .accepted
  enrolled := fun w worker h => by
    rw [start, AList.lookup_empty] at h
    cases h

theorem step_cases {turn : Turn} (hstep : s.step b json turn = some s') :
    (∀ sent, s.handlers turn.number ≠ .closed sent) ∧
      s' = { workers := ((s.handlers turn.number).handle b json s.workers turn.failure).1
             handlers := Function.update s.handlers turn.number
              ((s.handlers turn.number).handle b json s.workers turn.failure).2 } := by
  unfold step at hstep
  split at hstep
  · cases hstep
  · rename_i hopen
    exact ⟨hopen, (Option.some.inj hstep).symm⟩

theorem Coherent.handled (h : s.Coherent b json conns) {turn : Turn}
    (hstep : s.step b json turn = some s') :
    Handled b json s.workers (conns turn.number) (s.handlers turn.number) s'.workers
        (s'.handlers turn.number) ∧
      ∀ number, number ≠ turn.number → s'.handlers number = s.handlers number := by
  obtain ⟨hopen, rfl⟩ := step_cases hstep
  refine ⟨?_, fun number hne => Function.update_of_ne hne _ _⟩
  have hhandled := handled_of_stands (h.stands turn.number) hopen turn.failure
  dsimp only
  rwa [Function.update_self]

theorem Coherent.step (h : s.Coherent b json conns) {turn : Turn}
    (hstep : s.step b json turn = some s') : s'.Coherent b json conns := by
  obtain ⟨hhandled, hothers⟩ := h.handled hstep
  constructor
  · intro number
    by_cases hnumber : number = turn.number
    · rw [hnumber]
      exact hhandled.stands
    · rw [hothers number hnumber]
      exact (h.stands number).mono hhandled.grows
  · intro w worker hlookup
    rcases hhandled.enrolled w worker hlookup with hold | ⟨hw, message, hregisters⟩
    · exact h.enrolled w worker hold
    · exact ⟨hw, turn.number, message, hregisters⟩

theorem coherent_of_run {turns : List Turn}
    (hrun : Transition.run (step b json) (start conns) turns = some s) :
    s.Coherent b json conns :=
  Transition.invariant_run (fun _ _ _ h => h.step) (coherent_start b json conns) hrun

theorem Coherent.extends_of_run (h : s.Coherent b json conns) {turns : List Turn}
    (hrun : Transition.run (RegistrationServer.step b json) s turns = some s') :
    Extends s.workers s'.workers :=
  Transition.relation_run (R := fun s s' => Extends s.workers s'.workers)
    (fun s => .refl s.workers)
    (fun s t u (h : Extends s.workers t.workers) (h' : Extends t.workers u.workers) => h.trans h')
    (fun _ _ _ h => h.step) (fun _ _ _ h hstep => (h.handled hstep).1.grows) h hrun

/-- The turns of a handler lower its rank. -/
theorem Coherent.countP_add_rank_le (h : s.Coherent b json conns) {turns : List Turn}
    (hrun : Transition.run (RegistrationServer.step b json) s turns = some s') (number : ℕ) :
    turns.countP (fun turn => turn.number = number) + (s'.handlers number).rank ≤
      (s.handlers number).rank := by
  induction turns generalizing s with
  | nil =>
      cases hrun
      exact (Nat.zero_add _).le
  | cons turn turns ih =>
      obtain ⟨t, hstep, hrest⟩ := Transition.run_cons_eq_some_iff.1 hrun
      obtain ⟨hhandled, hothers⟩ := h.handled hstep
      have hle := ih (h.step hstep) hrest
      rw [List.countP_cons]
      by_cases hnumber : turn.number = number
      · have hlt := hhandled.rank
        rw [hnumber] at hlt
        rw [if_pos (by simpa using hnumber)]
        omega
      · rw [hothers number (Ne.symm hnumber)] at hle
        rw [if_neg (by simpa using hnumber)]
        exact hle

theorem isSome_step (hopen : ∀ sent, s.handlers number ≠ .closed sent)
    (failure : Option OSErrorText) : (s.step b json ⟨number, failure⟩).isSome = true := by
  unfold step
  split
  · rename_i sent hclosed
    exact absurd hclosed (hopen sent)
  · rfl

/-- **The registration check.** Whatever the clients send and in whatever order the handlers run,
an `ACK` was sent for a worker that is registered, an `ERROR` for one of the refusals, and each
entry is from a `REGISTER` that a connection delivered. The entries stay as they are. A handler
ends in five turns, and no handler waits for another one. -/
theorem answers_of_run {turns : List Turn}
    (hrun : Transition.run (step b json) (start conns) turns = some s) :
    (∀ number, Stands b json s.workers (conns number) (s.handlers number)) ∧
      Enrolled b json conns s.workers ∧
      (∀ more s', Transition.run (step b json) s more = some s' →
        Extends s.workers s'.workers) ∧
      ∀ number, turns.countP (fun turn => turn.number = number) ≤ 5 ∧
        ((∃ sent, s.handlers number = .closed sent) ∨
          ∀ failure, (s.step b json ⟨number, failure⟩).isSome = true) := by
  have h := coherent_of_run hrun
  refine ⟨h.stands, h.enrolled, fun more s' hmore => h.extends_of_run hmore, fun number => ?_⟩
  have hcount := (coherent_start b json conns).countP_add_rank_le hrun number
  refine ⟨le_trans (Nat.le_add_right _ _) hcount, ?_⟩
  by_cases hclosed : ∃ sent, s.handlers number = .closed sent
  · exact .inl hclosed
  · exact .inr (isSome_step (not_exists.1 hclosed))

end

/-! ### Two clients with one name -/

def registerText (requestId host : String) : List UInt8 :=
  ascii ["\x7b\"version\":1,", "\"type\":", "\"REGISTER\",", "\"sender_id\":", "\"worker1\",",
    "\"request_id\":\"", requestId, "\",", "\"logical_clock\":", "0.0,\"payload\":",
    "\x7b\"worker_id\":", "\"worker1\",", "\"p2p_endpoint\":", "\x7b\"host\":\"", host,
    "\",\"port\":6001\x7d,", "\"queue_capacity\":", "10\x7d\x7d"]

def ackText : List UInt8 :=
  ascii ["\x7b\"version\":1,", "\"type\":\"ACK\",", "\"sender_id\":", "\"master\",",
    "\"request_id\":", "\"r0\",", "\"logical_clock\":", "0.0,\"payload\":",
    "\x7b\"acknowledged", "_type\":", "\"REGISTER\",", "\"worker_id\":", "\"worker1\",",
    "\"registered_", "workers\":1\x7d\x7d"]

def errorText : List UInt8 :=
  ascii ["\x7b\"version\":1,", "\"type\":\"ERROR\",", "\"sender_id\":", "\"master\",",
    "\"request_id\":", "\"r1\",", "\"logical_clock\":", "0.0,\"payload\":", "\x7b\"error\":",
    "\"worker_id ", "already ", "registered: ", "worker1\"\x7d\x7d"]

/-- A `REGISTER` of the worker from one of two hosts. -/
def registerMessage (requestId host : String) : Message where
  messageType := .REGISTER
  senderId := "worker1"
  requestId := requestId
  payload := RegisterPayload.toDict
    { workerId := "worker1", p2pEndpoint := { host := host, port := 6001 } }

/-- What `json` does with the messages of the two clients, given their texts. -/
def jsonOfTexts (first second ack error : List UInt8) : Json where
  dumps
    | .dict [("version", .int 1), ("type", .str "REGISTER"), ("sender_id", .str "worker1"),
        ("request_id", .str requestId), ("logical_clock", .float (.finite q)),
        ("payload", .dict [("worker_id", .str "worker1"), ("p2p_endpoint", .dict
          [("host", .str host), ("port", .int 6001)]), ("queue_capacity", .int 10)])] =>
        if q ≠ 0 then none
        else if requestId = "r0" ∧ host = "10.0.0.1" then some first
        else if requestId = "r1" ∧ host = "10.0.0.2" then some second
        else none
    | .dict [("version", .int 1), ("type", .str "ACK"), ("sender_id", .str "master"),
        ("request_id", .str "r0"), ("logical_clock", .float (.finite q)),
        ("payload", .dict [("acknowledged_type", .str "REGISTER"), ("worker_id", .str "worker1"),
          ("registered_workers", .int 1)])] => if q ≠ 0 then none else some ack
    | .dict [("version", .int 1), ("type", .str "ERROR"), ("sender_id", .str "master"),
        ("request_id", .str "r1"), ("logical_clock", .float (.finite q)),
        ("payload", .dict [("error", .str "worker_id already registered: worker1")])] =>
        if q ≠ 0 then none else some error
    | _ => none
  loads text :=
    if text = first then
      .ok (.dict (registerMessage "r0" "10.0.0.1").toDict)
    else if text = second then
      .ok (.dict (registerMessage "r1" "10.0.0.2").toDict)
    else if text = ack then
      .ok (.dict (RegistrationHandler.ack "r0" ⟨"worker1", "10.0.0.1", 6001⟩ 1).toDict)
    else if text = error then
      .ok (.dict (RegistrationHandler.error "r1"
        ⟨.valueError, "worker_id already registered: worker1"⟩).toDict)
    else .error .invalid

def checkJson : Json :=
  jsonOfTexts (registerText "r0" "10.0.0.1") (registerText "r1" "10.0.0.2") ackText errorText

def checkConns (number : ℕ) : Connection where
  sock :=
    { incoming :=
        if number = 0 then packLength (registerText "r0" "10.0.0.1").length ++
          registerText "r0" "10.0.0.1"
        else if number = 1 then packLength (registerText "r1" "10.0.0.2").length ++
          registerText "r1" "10.0.0.2"
        else []
      chunks := [] }

/-- The first client registers between the two steps of the second one. -/
def checkTurns : List Turn :=
  [⟨0, none⟩, ⟨1, none⟩, ⟨0, none⟩, ⟨1, none⟩, ⟨0, none⟩, ⟨1, none⟩, ⟨0, none⟩]

theorem answers_of_run_two :
    ∃ s, Transition.run (step Builtins.plain checkJson) (start checkConns) checkTurns = some s ∧
      (s.workers.size = 1 ∧ (s.handlers 0).answerType = some .ACK ∧
        (s.handlers 1).answerType = some .ERROR) ∧
      ∀ number, Stands Builtins.plain checkJson s.workers (checkConns number)
        (s.handlers number) := by
  have hany : (Transition.run (step Builtins.plain checkJson) (start checkConns) checkTurns).any
      (fun s => s.workers.size = 1 ∧ (s.handlers 0).answerType = some .ACK ∧
        (s.handlers 1).answerType = some .ERROR) = true := by decide +kernel
  obtain ⟨s, hrun, hs⟩ := (Option.any_eq_true _ _).1 hany
  exact ⟨s, hrun, of_decide_eq_true hs, (answers_of_run hrun).1⟩

end RegistrationServer

end KVStore
