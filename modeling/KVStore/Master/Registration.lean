import KVStore.Common.Clock
import KVStore.Common.Refusals
import KVStore.Master.Start

/-!
# The registration of the workers

`acceptWorkers` is the loop of `_accept_workers` over the connections that come in, each
with any bytes that a client can send. An exception in `ACCEPT_CATCHES` is answered with an
`ERROR` after the entry of the connection is taken back; any other one, and one that is
raised while the answer is made, ends the loop. The line about a registered worker can always
be put out, as its name was sent in the `ACK` before. The end of the loop by `stop` is left out.
-/

namespace KVStore

open Python Except

def EXPECTED_WORKERS : ℕ := 4

/-- The classes in the `except` clause of `_accept_workers`. -/
def ACCEPT_CATCHES : List ErrorKind := [.eofError, .osError, .protocolError, .valueError]

/-- What a client sends, and the `OSError` of `sendall` for the `ACK` and for the `ERROR`, if
it raises one. -/
structure Client where
  conn : Connection
  ack : Option OSErrorText := none
  reply : Option OSErrorText := none

/-- The Master during the registration. The connections are numbered; `socks` holds the
number of the connection for each entry of `_workers`. -/
structure Registration where
  master : Master
  socks : Dict WorkerId ℕ := ∅
  clock : FloatClock := {}

/-- How a connection ends: with an `ACK` that was sent, with an exception that is caught, or
with one that ends the loop. -/
inductive Admission
  | acknowledged (w : WorkerId)
  | refused (e : PyError)
  | aborted (e : PyError)
deriving DecidableEq

def Admission.workerId : Admission → Option WorkerId
  | .acknowledged w => some w
  | _ => none

namespace Registration

/-- `_remove_unconfirmed_worker` -/
def removeUnconfirmedWorker (s : Registration) (number : ℕ) : Registration :=
  match s.socks.keys.find? fun w => s.socks.lookup w = some number with
  | some w =>
      { s with
        master := { s.master with workers := s.master.workers.erase w }
        socks := s.socks.erase w }
  | none => s

/-- `_register_worker` -/
def registerWorker (b : Builtins) (s : Registration) (number : ℕ) (message : Message) :
    Except PyError (Registration × WorkerId) :=
  if message.messageType ≠ .REGISTER then
    .error ⟨.valueError, "first message must be REGISTER"⟩
  else do
    let payload ← RegisterPayload.fromDict b message.payload
    if payload.workerId ≠ message.senderId then
      .error ⟨.valueError, "sender_id and worker_id must match"⟩
    else do
      let master ← raiseValueError (s.master.registerWorker payload.workerId)
      .ok ({ s with master := master, socks := s.socks.insert payload.workerId number },
        payload.workerId)

/-- A message of the Master. -/
def newMessage (messageType : MessageType) (requestId : RequestId) (payload : Object)
    (clock : FloatClock) : Message where
  messageType := messageType
  senderId := "master"
  requestId := requestId
  logicalClock := clock.read
  payload := payload

/-- `_send` and `_send_registration_error`, without the `try` statement of the latter: the
clock is advanced, and a message is made and sent. -/
def send (json : Json) (s : Registration) (messageType : MessageType) (requestId : RequestId)
    (payload : Object) (failure : Option OSErrorText) : Registration × Except PyError Message :=
  match s.clock.advance (.finite COMMUNICATION_DELAY_SECONDS) with
  | .error e => (s, .error e)
  | .ok clock =>
      ({ s with clock := clock },
        sendMessage json failure (newMessage messageType requestId payload clock))

def ackPayload (s : Registration) (w : WorkerId) : Object :=
  [("acknowledged_type", .str MessageType.REGISTER.value), ("worker_id", .str w),
    ("registered_workers", .int s.master.workers.size)]

/-- The `try` block of `_accept_workers`: the request id known by then, and the worker that
was acknowledged. -/
def tryRegister (b : Builtins) (json : Json) (s : Registration) (number : ℕ) (client : Client) :
    Registration × RequestId × Except PyError WorkerId :=
  match client.conn.receive b json with
  | .error e => (s, "unknown", .error e)
  | .ok message =>
      match s.clock.observe message.logicalClock with
      | .error e => (s, message.requestId, .error e)
      | .ok clock =>
          match registerWorker b { s with clock := clock } number message with
          | .error e => ({ s with clock := clock }, message.requestId, .error e)
          | .ok (s, w) =>
              match s.send json .ACK message.requestId (s.ackPayload w) client.ack with
              | (s, .error e) => (s, message.requestId, .error e)
              | (s, .ok _) => (s, message.requestId, .ok w)

/-- One round of the loop. -/
def attend (b : Builtins) (json : Json) (s : Registration) (number : ℕ) (client : Client) :
    Registration × Admission :=
  match s.tryRegister b json number client with
  | (s, _, .ok w) => (s, .acknowledged w)
  | (s, requestId, .error e) =>
      if e.kind ∈ ACCEPT_CATCHES then
        match (s.removeUnconfirmedWorker number).send json .ERROR requestId
            [("error", .str e.text)] client.reply with
        | (s, .ok _) => (s, .refused e)
        | (s, .error e') => (s, if e'.kind = .osError then .refused e else .aborted e')
      else
        (s, .aborted e)

structure Visit where
  number : ℕ
  client : Client
  before : Registration
  after : Registration
  admission : Admission

/-- `_accept_workers`: the state when the loop ends or waits for the next connection, and the
rounds. -/
def acceptWorkers (b : Builtins) (json : Json) :
    Registration → ℕ → List Client → Registration × List Visit
  | s, _, [] => (s, [])
  | s, number, client :: rest =>
      if EXPECTED_WORKERS ≤ s.master.workers.size then
        (s, [])
      else
        let (after, admission) := s.attend b json number client
        let visit : Visit := { number, client, before := s, after, admission }
        match admission with
        | .aborted _ => (after, [visit])
        | _ =>
            let (final, visits) := acceptWorkers b json after (number + 1) rest
            (final, visit :: visits)

/-! ### What ends the loop -/

/-- The first message of the client raises an exception that is not caught: the frame holds
a text that is nested too deeply, an object that `Message.from_dict` does not foresee, or a
`REGISTER` with a payload that `RegisterPayload.from_dict` does not foresee. -/
def Uncaught (b : Builtins) (json : Json) (client : Client) : Prop :=
  client.conn.Unforeseen b json ∨
    ∃ message, client.conn.receive b json = .ok message ∧ message.messageType = .REGISTER ∧
      RegisterPayload.Unforeseen b message.payload

/-- The client is refused, and the `ERROR` with the reason cannot be encoded as a frame. -/
def Unanswerable (b : Builtins) (json : Json) (s : Registration) (number : ℕ)
    (client : Client) : Prop :=
  ∃ s' requestId e clock, s.tryRegister b json number client = (s', requestId, .error e) ∧
    e.kind ∈ ACCEPT_CATCHES ∧
    s'.clock.advance (.finite COMMUNICATION_DELAY_SECONDS) = .ok clock ∧
    ¬ (encodeMessage json
      (newMessage .ERROR requestId [("error", .str e.text)] clock)).Succeeds

section

variable {b : Builtins} {json : Json} {s s' : Registration} {number : ℕ} {client : Client}
variable {requestId : RequestId} {payload : Object} {failure : Option OSErrorText} {e : PyError}

theorem postInit_newMessage (messageType : MessageType) (payload : Object)
    (clock : FloatClock) (h : requestId ≠ "") :
    (newMessage messageType requestId payload clock).postInit =
      .ok (newMessage messageType requestId payload clock) := by
  unfold Message.postInit
  rw [if_neg (by simp [newMessage]), if_neg (by simp [newMessage]), if_neg (by simpa [newMessage]),
    if_neg (by simp [newMessage, FloatClock.read, clock.nonneg])]

theorem send_cases (json : Json) (s : Registration) (messageType : MessageType)
    (payload : Object) (failure : Option OSErrorText) (h : requestId ≠ "") :
    ∃ clock, s.clock.advance (.finite COMMUNICATION_DELAY_SECONDS) = .ok clock ∧
      (s.send json messageType requestId payload failure).1 = { s with clock := clock } ∧
      ((∃ e, encodeMessage json (newMessage messageType requestId payload clock) = .error e ∧
          e.kind = .protocolError ∧
          (s.send json messageType requestId payload failure).2 = .error e) ∨
        ((encodeMessage json (newMessage messageType requestId payload clock)).Succeeds ∧
          ∀ e, (s.send json messageType requestId payload failure).2 = .error e →
            e.kind = .osError)) := by
  obtain ⟨clock, hclock⟩ := s.clock.advance_communicationDelay
  have hpost := postInit_newMessage messageType payload clock h
  have hsend : s.send json messageType requestId payload failure =
      ({ s with clock := clock },
        sendMessage json failure (newMessage messageType requestId payload clock)) := by
    rw [send, hclock]
  refine ⟨clock, hclock, congrArg Prod.fst hsend, ?_⟩
  rw [hsend]
  cases hencode : encodeMessage json (newMessage messageType requestId payload clock) with
  | error e =>
      exact .inl ⟨e, rfl, kind_of_encodeMessage hencode, sendMessage_of_error hpost hencode⟩
  | ok frame =>
      refine .inr ⟨⟨frame, rfl⟩, fun e he => ?_⟩
      simp only [sendMessage_of_ok hpost hencode] at he
      cases failure with
      | none => cases he
      | some text =>
          cases he
          rfl

theorem escapes_registerWorker (b : Builtins) (s : Registration) (number : ℕ)
    (message : Message) :
    (registerWorker b s number message).Escapes (handled ACCEPT_CATCHES) ↔
      message.messageType = .REGISTER ∧ RegisterPayload.Unforeseen b message.payload := by
  unfold registerWorker
  by_cases htype : message.messageType = .REGISTER
  · have hrest : ∀ payload : RegisterPayload, ¬ Escapes (handled ACCEPT_CATCHES)
        (if payload.workerId ≠ message.senderId then
          .error ⟨.valueError, "sender_id and worker_id must match"⟩
        else do
          let master ← raiseValueError (s.master.registerWorker payload.workerId)
          .ok ({ s with master := master, socks := s.socks.insert payload.workerId number },
            payload.workerId)) := by
      intro payload
      split_ifs
      · simp [escapes_error, mem_handled, ACCEPT_CATCHES]
      · simp [escapes_bind, not_escapes_raiseValueError, not_escapes_ok, ACCEPT_CATCHES]
    rw [if_neg (not_not.2 htype), escapes_bind, RegisterPayload.escapes_fromDict
      (by simp [ACCEPT_CATCHES]) (by simp [ACCEPT_CATCHES]) (by simp [ACCEPT_CATCHES])
      (by simp [ACCEPT_CATCHES])]
    constructor
    · rintro (h | ⟨payload, _, h⟩)
      · exact ⟨htype, h⟩
      · exact absurd h (hrest payload)
    · exact fun h => .inl h.2
  · rw [if_pos htype]
    refine iff_of_false ?_ fun h => htype h.1
    simp [escapes_error, mem_handled, ACCEPT_CATCHES]

theorem registerWorker_eq_ok {message : Message} {w : WorkerId}
    (h : registerWorker b s number message = .ok (s', w)) :
    ∃ m, s.master.registerWorker w = .ok m ∧
      s' = { s with master := m, socks := s.socks.insert w number } := by
  unfold registerWorker at h
  split_ifs at h
  obtain ⟨payload, _, h⟩ := bind_eq_ok_iff.1 h
  split_ifs at h
  obtain ⟨m, hm, h⟩ := bind_eq_ok_iff.1 h
  cases h
  cases hmaster : s.master.registerWorker payload.workerId with
  | error text =>
      rw [hmaster] at hm
      cases hm
  | ok m' =>
      rw [hmaster] at hm
      cases hm
      exact ⟨m, rfl, rfl⟩

/-- The `try` block leaves the workers as they were, or has registered one. -/
theorem tryRegister_cases (b : Builtins) (json : Json) (s : Registration) (number : ℕ)
    (client : Client) :
    (∃ clock requestId e,
      s.tryRegister b json number client = ({ s with clock := clock }, requestId, .error e) ∧
        requestId ≠ "" ∧ (e.kind ∉ ACCEPT_CATCHES ↔ Uncaught b json client)) ∨
    (∃ clock requestId w m result, s.tryRegister b json number client =
        ({ s with clock := clock, master := m, socks := s.socks.insert w number },
          requestId, result) ∧
        requestId ≠ "" ∧ s.master.registerWorker w = .ok m ∧
        (result = .ok w ∨ ∃ e, result = .error e ∧ e.kind ∈ ACCEPT_CATCHES) ∧
        ¬ Uncaught b json client) := by
  have hreceive : (client.conn.receive b json).Escapes (handled ACCEPT_CATCHES) ↔
      client.conn.Unforeseen b json := Connection.escapes_receive (by simp [ACCEPT_CATCHES])
    (by simp [ACCEPT_CATCHES]) (by simp [ACCEPT_CATCHES]) (by simp [ACCEPT_CATCHES])
    (by simp [ACCEPT_CATCHES])
  unfold tryRegister
  cases hmessage : client.conn.receive b json with
  | error e =>
      have huncaught : Uncaught b json client ↔ client.conn.Unforeseen b json := by
        refine ⟨fun h => h.resolve_right ?_, .inl⟩
        rintro ⟨message, h, _⟩
        rw [hmessage] at h
        cases h
      rw [hmessage, escapes_error] at hreceive
      exact .inl ⟨s.clock, "unknown", e, rfl, by simp, hreceive.trans huncaught.symm⟩
  | ok message =>
      have huncaught : Uncaught b json client ↔
          message.messageType = .REGISTER ∧ RegisterPayload.Unforeseen b message.payload := by
        constructor
        · rintro (h | ⟨message', h, hregister⟩)
          · rw [← hreceive, hmessage] at h
            exact absurd h (not_escapes_ok message)
          · rw [hmessage] at h
            cases h
            exact hregister
        · exact fun h => .inr ⟨message, hmessage, h⟩
      obtain ⟨hid, hnonneg⟩ :=
        Message.valid_of_postInit (Connection.postInit_of_receive hmessage)
      obtain ⟨clock, hclock⟩ := s.clock.observe_of_nonneg hnonneg
      have hregister := escapes_registerWorker b { s with clock := clock } number message
      rw [← huncaught] at hregister
      simp only [hclock]
      cases hresult : registerWorker b { s with clock := clock } number message with
      | error e =>
          rw [hresult, escapes_error] at hregister
          exact .inl ⟨clock, message.requestId, e, rfl, hid, hregister⟩
      | ok registered =>
          obtain ⟨s', w⟩ := registered
          obtain ⟨m, hm, rfl⟩ := registerWorker_eq_ok hresult
          rw [hresult] at hregister
          have hcaught := mt hregister.2 (not_escapes_ok _)
          obtain ⟨clock', _, hstate, hsent⟩ := send_cases json
            { master := m, socks := s.socks.insert w number, clock := clock : Registration } .ACK
            (ackPayload { master := m, socks := s.socks.insert w number, clock } w) client.ack hid
          dsimp only
          generalize send json _ MessageType.ACK message.requestId _ client.ack = sent
            at hstate hsent ⊢
          obtain ⟨s', outcome⟩ := sent
          cases hstate
          cases outcome with
          | ok _ =>
              exact .inr ⟨clock', message.requestId, w, m, .ok w, rfl, hid, hm, .inl rfl, hcaught⟩
          | error e =>
              refine .inr ⟨clock', message.requestId, w, m, .error e, rfl, hid, hm,
                .inr ⟨e, rfl, ?_⟩, hcaught⟩
              rcases hsent with ⟨e', _, hkind, heq⟩ | ⟨_, hos⟩
              · cases heq
                simp [ACCEPT_CATCHES, hkind]
              · simp [ACCEPT_CATCHES, hos e rfl]

/-! ### What a round leaves behind -/

/-- The entries of `_workers` are those of the connections in `visits` that were
acknowledged. -/
structure Numbered (visits : List Visit) (number : ℕ) (s : Registration) : Prop where
  registered : ∀ w, w ∈ s.socks ↔ w ∈ s.master.workers
  earlier : ∀ w n, s.socks.lookup w = some n → n < number
  acknowledged : ∀ w n, s.socks.lookup w = some n →
    ∃ visit ∈ visits, visit.number = n ∧ visit.admission = .acknowledged w
  size_le : s.master.workers.size ≤ EXPECTED_WORKERS

/-- The client ends the loop. -/
def Unforeseen (b : Builtins) (json : Json) (s : Registration) (number : ℕ)
    (client : Client) : Prop :=
  Uncaught b json client ∨ Unanswerable b json s number client

variable {visits : List Visit}

theorem masterRegisterWorker_eq_ok {m m' : Master} {w : WorkerId}
    (h : m.registerWorker w = .ok m') :
    w ∉ m.workers ∧ ∃ c, m' = { m with workers := m.workers.insert w c } := by
  unfold Master.registerWorker at h
  split_ifs at h with hmem
  cases hpost : WorkerStatus.postInit { workerId := w, queueSize := 0 } with
  | error text =>
      rw [hpost] at h
      cases h
  | ok status =>
      rw [hpost] at h
      cases h
      exact ⟨hmem, _, rfl⟩

theorem removeUnconfirmedWorker_of_ne (h : ∀ w, s.socks.lookup w ≠ some number) :
    s.removeUnconfirmedWorker number = s := by
  unfold removeUnconfirmedWorker
  rw [List.find?_eq_none.2 fun w _ => by simpa using h w]

theorem removeUnconfirmedWorker_registered {w : WorkerId} {m : Master} {clock : FloatClock}
    (hnew : w ∉ s.socks) (h : s.master.registerWorker w = .ok m) :
    removeUnconfirmedWorker
        { s with clock := clock, master := m, socks := s.socks.insert w number } number =
      { s with clock := clock } := by
  obtain ⟨hfresh, c, rfl⟩ := masterRegisterWorker_eq_ok h
  have hfind : (s.socks.insert w number).keys.find?
      (fun v => (s.socks.insert w number).lookup v = some number) = some w := by
    rw [Dict.keys_insert_of_notMem hnew]
    simp
  unfold removeUnconfirmedWorker
  simp only [hfind, Dict.erase_insert hfresh, Dict.erase_insert hnew]

theorem attend_of_caught {s' : Registration}
    (htry : s.tryRegister b json number client = (s', requestId, .error e))
    (hid : requestId ≠ "") (hcaught : e.kind ∈ ACCEPT_CATCHES)
    (hremove : s'.removeUnconfirmedWorker number = { s with clock := s'.clock }) :
    (∃ clock, s.attend b json number client = ({ s with clock := clock }, .refused e) ∧
        ¬ Unanswerable b json s number client) ∨
      ∃ clock e', s.attend b json number client = ({ s with clock := clock }, .aborted e') ∧
        Unanswerable b json s number client := by
  obtain ⟨clock, hclock, hstate, hsent⟩ := send_cases json
    (s'.removeUnconfirmedWorker number) .ERROR [("error", .str e.text)] client.reply hid
  have hround : s.attend b json number client =
      match (s'.removeUnconfirmedWorker number).send json .ERROR requestId
          [("error", .str e.text)] client.reply with
      | (s, .ok _) => (s, .refused e)
      | (s, .error e') => (s, if e'.kind = .osError then .refused e else .aborted e') := by
    simp only [attend, htry, if_pos hcaught]
  rw [hremove] at hclock hstate hsent hround
  have hanswerable : (encodeMessage json
      (newMessage .ERROR requestId [("error", .str e.text)] clock)).Succeeds →
      ¬ Unanswerable b json s number client := by
    rintro hsucceeds ⟨s'', requestId', e', clock', htry', _, hclock', hnot⟩
    rw [htry] at htry'
    cases htry'
    rw [hclock] at hclock'
    cases hclock'
    exact hnot hsucceeds
  generalize send json { s with clock := s'.clock } .ERROR requestId _ _ = sent
    at hround hstate hsent
  obtain ⟨s'', outcome⟩ := sent
  have hkept : s'' = { s with clock := clock } := hstate
  subst hkept
  rcases hsent with ⟨e', hencode, hkind, heq⟩ | ⟨hsucceeds, hos⟩
  · cases heq
    refine .inr ⟨clock, e', ?_, s', requestId, e, clock, htry, hcaught, hclock, ?_⟩
    · rw [hround]
      simp only [hkind, reduceCtorEq, if_false]
    · rintro ⟨frame, hframe⟩
      rw [hframe] at hencode
      cases hencode
  · refine .inl ⟨clock, ?_, hanswerable hsucceeds⟩
    rw [hround]
    cases outcome with
    | ok message => rfl
    | error e' => simp only [hos e' rfl, if_true]

/-- A round registers a worker, or it leaves the Master as it was. -/
theorem attend_cases (h : Numbered visits number s) (b : Builtins) (json : Json)
    (client : Client) :
    (∃ w m clock, s.attend b json number client =
        ({ s with clock := clock, master := m, socks := s.socks.insert w number },
          .acknowledged w) ∧
        w ∉ s.socks ∧ s.master.registerWorker w = .ok m ∧
        ¬ Unforeseen b json s number client) ∨
      (∃ clock e, s.attend b json number client = ({ s with clock := clock }, .refused e) ∧
        ¬ Unforeseen b json s number client) ∨
      ∃ clock e, s.attend b json number client = ({ s with clock := clock }, .aborted e) ∧
        Unforeseen b json s number client := by
  have hfree : ∀ w, s.socks.lookup w ≠ some number :=
    fun w hw => (h.earlier w number hw).ne rfl
  obtain ⟨clock, requestId, e, htry, hid, hkind⟩ |
      ⟨clock, requestId, w, m, result, htry, hid, hm, hresult, hcaught⟩ :=
    tryRegister_cases b json s number client
  · by_cases hcaught : e.kind ∈ ACCEPT_CATCHES
    · have huncaught : ¬ Uncaught b json client := fun hnot => hkind.2 hnot hcaught
      refine .inr ((attend_of_caught htry hid hcaught ?_).imp ?_ ?_)
      · exact removeUnconfirmedWorker_of_ne (s := { s with clock := clock }) hfree
      · rintro ⟨clock', hround, hanswerable⟩
        exact ⟨clock', e, hround, not_or.2 ⟨huncaught, hanswerable⟩⟩
      · rintro ⟨clock', e', hround, hnot⟩
        exact ⟨clock', e', hround, .inr hnot⟩
    · refine .inr (.inr ⟨clock, e, ?_, .inl (hkind.1 hcaught)⟩)
      simp only [attend, htry, if_neg hcaught]
  · have hnew : w ∉ s.socks := fun hw =>
      (masterRegisterWorker_eq_ok hm).1 ((h.registered w).1 hw)
    rcases hresult with rfl | ⟨e, rfl, he⟩
    · refine .inl ⟨w, m, clock, ?_, hnew, hm, not_or.2 ⟨hcaught, ?_⟩⟩
      · simp only [attend, htry]
      · rintro ⟨_, _, _, _, htry', _⟩
        rw [htry] at htry'
        cases htry'
    · refine .inr ((attend_of_caught htry hid he ?_).imp ?_ ?_)
      · exact removeUnconfirmedWorker_registered hnew hm
      · rintro ⟨clock', hround, hanswerable⟩
        exact ⟨clock', e, hround, not_or.2 ⟨hcaught, hanswerable⟩⟩
      · rintro ⟨clock', e', hround, hnot⟩
        exact ⟨clock', e', hround, .inr hnot⟩

/-! ### The loop -/

variable {final : Registration} {past : List Visit} {clients : List Client}

/-- What is known of a round that was run. -/
structure Visit.Run (b : Builtins) (json : Json) (visit : Visit) : Prop where
  attend : visit.before.attend b json visit.number visit.client = (visit.after, visit.admission)
  numbered : ∃ past, Numbered past visit.number visit.before

theorem numbered_attend (visit : Visit) (h : Numbered past visit.number visit.before)
    (hroom : ¬ EXPECTED_WORKERS ≤ visit.before.master.workers.size)
    (hround : visit.before.attend b json visit.number visit.client =
      (visit.after, visit.admission)) :
    Numbered (past ++ [visit]) (visit.number + 1) visit.after := by
  have hkept : ∀ w n, visit.before.socks.lookup w = some n → ∃ earlier ∈ past ++ [visit],
      earlier.number = n ∧ earlier.admission = .acknowledged w := by
    intro w n hw
    obtain ⟨earlier, hearlier, hack⟩ := h.acknowledged w n hw
    exact ⟨earlier, List.mem_append_left _ hearlier, hack⟩
  have hsame : visit.after.master = visit.before.master →
      visit.after.socks = visit.before.socks →
      Numbered (past ++ [visit]) (visit.number + 1) visit.after := by
    intro hmaster hsocks
    exact {
      registered := by
        rw [hsocks, hmaster]
        exact h.registered
      earlier := by
        rw [hsocks]
        exact fun w n hw => (h.earlier w n hw).trans (Nat.lt_succ_self _)
      acknowledged := by
        rw [hsocks]
        exact hkept
      size_le := by
        rw [hmaster]
        exact h.size_le }
  obtain ⟨w, m, clock, hcase, hnew, hm, _⟩ | ⟨clock, e, hcase, _⟩ | ⟨clock, e, hcase, _⟩ :=
    attend_cases h b json visit.client
  · rw [hround] at hcase
    obtain ⟨hafter, hack⟩ := Prod.mk.inj hcase
    obtain ⟨hfresh, c, rfl⟩ := masterRegisterWorker_eq_ok hm
    have hentry : ∀ v n, (visit.before.socks.insert w visit.number).lookup v = some n →
        (v = w ∧ n = visit.number) ∨ visit.before.socks.lookup v = some n := by
      intro v n hv
      rw [Dict.lookup_insert_eq_ite] at hv
      split_ifs at hv with hvw
      · exact .inl ⟨hvw, (Option.some.inj hv).symm⟩
      · exact .inr hv
    rw [hafter]
    refine ⟨fun v => ?_, fun v n hv => ?_, fun v n hv => ?_, ?_⟩
    · rw [AList.mem_insert, AList.mem_insert, h.registered v]
    · rcases hentry v n hv with ⟨_, rfl⟩ | hold
      · exact Nat.lt_succ_self _
      · exact (h.earlier v n hold).trans (Nat.lt_succ_self _)
    · rcases hentry v n hv with ⟨rfl, rfl⟩ | hold
      · exact ⟨visit, List.mem_append_right _ (List.mem_singleton_self visit), rfl, hack⟩
      · exact hkept v n hold
    · rw [Dict.size_insert hfresh]
      exact not_le.1 hroom
  · rw [hround] at hcase
    obtain ⟨hafter, _⟩ := Prod.mk.inj hcase
    exact hsame (by rw [hafter]) (by rw [hafter])
  · rw [hround] at hcase
    obtain ⟨hafter, _⟩ := Prod.mk.inj hcase
    exact hsame (by rw [hafter]) (by rw [hafter])

theorem acceptWorkers_spec (h : Numbered past number s)
    (hrun : acceptWorkers b json s number clients = (final, visits)) :
    (∃ number', Numbered (past ++ visits) number' final) ∧
      ∀ visit ∈ visits, visit.Run b json := by
  induction clients generalizing past number s visits with
  | nil =>
      cases hrun
      rw [List.append_nil]
      exact ⟨⟨number, h⟩, by simp⟩
  | cons client rest ih =>
      rw [acceptWorkers] at hrun
      split_ifs at hrun with hroom
      · cases hrun
        rw [List.append_nil]
        exact ⟨⟨number, h⟩, by simp⟩
      · generalize hround : s.attend b json number client = admitted at hrun
        obtain ⟨after, admission⟩ := admitted
        let visit : Visit := { number, client, before := s, after, admission }
        have hvisit : visit.Run b json := ⟨hround, past, h⟩
        have hafter : Numbered (past ++ [visit]) (number + 1) after :=
          numbered_attend visit h hroom hround
        have hgoes : ∀ visits', acceptWorkers b json after (number + 1) rest = (final, visits') →
            (∃ number', Numbered (past ++ visit :: visits') number' final) ∧
              ∀ other ∈ visit :: visits', other.Run b json := by
          intro visits' hrest
          obtain ⟨hfinal, hall⟩ := ih hafter hrest
          rw [List.append_assoc, List.singleton_append] at hfinal
          exact ⟨hfinal, List.forall_mem_cons.2 ⟨hvisit, hall⟩⟩
        cases admission with
        | aborted e =>
            cases hrun
            exact ⟨⟨number + 1, hafter⟩, List.forall_mem_singleton.2 hvisit⟩
        | acknowledged w =>
            cases hrun
            exact hgoes _ rfl
        | refused e =>
            cases hrun
            exact hgoes _ rfl

theorem workers_of_not_acknowledged {visit : Visit}
    (h : Numbered past visit.number visit.before)
    (hround : visit.before.attend b json visit.number visit.client =
      (visit.after, visit.admission)) (hnot : ∀ w, visit.admission ≠ .acknowledged w) :
    visit.after.master.workers = visit.before.master.workers := by
  obtain ⟨w, _, _, hcase, _⟩ | ⟨_, _, hcase, _⟩ | ⟨_, _, hcase, _⟩ :=
    attend_cases h b json visit.client
  · rw [hround] at hcase
    exact absurd (Prod.mk.inj hcase).2 (hnot w)
  · rw [hround] at hcase
    rw [(Prod.mk.inj hcase).1]
  · rw [hround] at hcase
    rw [(Prod.mk.inj hcase).1]

/-- The registration is atomic and survives its clients. -/
structure Atomic (final : Registration) (visits : List Visit) : Prop where
  survives : ∀ visit ∈ visits, ∀ e, visit.admission ≠ .aborted e
  rollback : ∀ visit ∈ visits, (∀ w, visit.admission ≠ .acknowledged w) →
    visit.after.master.workers = visit.before.master.workers
  complete : EXPECTED_WORKERS ≤ final.master.workers.size →
    final.master.workers.size = EXPECTED_WORKERS ∧ final.master.workers.keys.Nodup ∧
      ∀ w ∈ final.master.workers, ∃ visit ∈ visits,
        visit.admission = .acknowledged w ∧ final.socks.lookup w = some visit.number

def fresh (m : Master) (clock : FloatClock) : Registration where
  master := { m with workers := ∅ }
  clock := clock

theorem numbered_fresh (m : Master) (clock : FloatClock) : Numbered [] 0 (fresh m clock) := by
  refine ⟨fun w => Iff.rfl, fun w n hw => ?_, fun w n hw => ?_, Nat.zero_le _⟩
  · cases hw
  · cases hw

/-- **Registration.** Whatever the clients send and whichever sends fail: the registration
is atomic, and it survives if and only if no client sends what is not foreseen and every
refusal can be answered. -/
theorem atomic_iff (b : Builtins) (json : Json) (m : Master) (clock : FloatClock)
    (clients : List Client) :
    Atomic (acceptWorkers b json (fresh m clock) 0 clients).1
        (acceptWorkers b json (fresh m clock) 0 clients).2 ↔
      ∀ visit ∈ (acceptWorkers b json (fresh m clock) 0 clients).2,
        ¬ Unforeseen b json visit.before visit.number visit.client := by
  generalize hrun : acceptWorkers b json (fresh m clock) 0 clients = run
  obtain ⟨final, visits⟩ := run
  obtain ⟨⟨number, hfinal⟩, hvisits⟩ := acceptWorkers_spec (numbered_fresh m clock) hrun
  rw [List.nil_append] at hfinal
  constructor
  · intro hatomic visit hvisit
    obtain ⟨hround, past, hbefore⟩ := hvisits visit hvisit
    obtain ⟨_, _, _, _, _, _, h⟩ | ⟨_, _, _, h⟩ | ⟨_, e, hcase, _⟩ :=
      attend_cases hbefore b json visit.client
    · exact h
    · exact h
    · rw [hround] at hcase
      exact absurd (Prod.mk.inj hcase).2 (hatomic.survives visit hvisit e)
  · intro hforeseen
    refine ⟨fun visit hvisit e he => ?_, fun visit hvisit hnot => ?_, fun hended => ?_⟩
    · obtain ⟨hround, past, hbefore⟩ := hvisits visit hvisit
      obtain ⟨_, _, _, hcase, _⟩ | ⟨_, _, hcase, _⟩ | ⟨_, _, _, h⟩ :=
        attend_cases hbefore b json visit.client
      · rw [hround, he] at hcase
        cases (Prod.mk.inj hcase).2
      · rw [hround, he] at hcase
        cases (Prod.mk.inj hcase).2
      · exact hforeseen visit hvisit h
    · obtain ⟨hround, past, hbefore⟩ := hvisits visit hvisit
      exact workers_of_not_acknowledged hbefore hround hnot
    · refine ⟨le_antisymm hfinal.size_le hended, AList.keys_nodup _, fun w hw => ?_⟩
      obtain ⟨n, hn⟩ := Option.isSome_iff_exists.1
        (AList.lookup_isSome.2 ((hfinal.registered w).2 hw))
      obtain ⟨visit, hvisit, hnumber, hack⟩ := hfinal.acknowledged w n hn
      exact ⟨visit, hvisit, hack, by rw [hnumber]; exact hn⟩

/-! ### The Master when the loop ends -/

/-- The Master has registered the acknowledged workers, one after the other. -/
theorem foldlM_acceptWorkers (h : Numbered past number s)
    (hrun : acceptWorkers b json s number clients = (final, visits)) :
    (visits.filterMap fun visit => visit.admission.workerId).foldlM
      Master.registerWorker s.master = .ok final.master := by
  induction clients generalizing past number s visits with
  | nil =>
      cases hrun
      rfl
  | cons client rest ih =>
      rw [acceptWorkers] at hrun
      split_ifs at hrun with hroom
      · cases hrun
        rfl
      · generalize hround : s.attend b json number client = admitted at hrun
        obtain ⟨after, admission⟩ := admitted
        have hafter := numbered_attend { number, client, before := s, after, admission }
          h hroom hround
        obtain ⟨w, m, clock, hcase, _, hm, _⟩ | ⟨clock, e, hcase, _⟩ | ⟨clock, e, hcase, _⟩ :=
          attend_cases h b json client
        · rw [hround] at hcase
          cases hcase
          cases hrun
          simp only [List.filterMap_cons, Admission.workerId]
          rw [List.foldlM_cons, hm]
          exact ih hafter rfl
        · rw [hround] at hcase
          cases hcase
          cases hrun
          simp only [List.filterMap_cons, Admission.workerId]
          exact ih (s := { s with clock := clock }) hafter rfl
        · rw [hround] at hcase
          cases hcase
          cases hrun
          rfl

theorem workers_foldl_addTask (tasks : List Task) (m : Master) :
    (tasks.foldl Master.addTask m).workers = m.workers := by
  induction tasks generalizing m with
  | nil => rfl
  | cons task rest ih => exact ih (m.addTask task)

/-- The registration leads to the state in which distribution starts. -/
theorem start_of_acceptWorkers {count : ℕ} {rng : RandomSource} {m : Master}
    {clock : FloatClock} (hm : Master.prepareTasks { taskCount := count } rng = .ok m)
    (hrun : acceptWorkers b json { master := m, clock := clock } 0 clients = (final, visits)) :
    Master.start count rng (visits.filterMap fun visit => visit.admission.workerId) =
      .ok final.master := by
  have hworkers : m.workers = ∅ := by
    unfold Master.prepareTasks at hm
    cases hgenerate : generateTasks count rng with
    | error text =>
        rw [show generateTasks (Master.taskCount { taskCount := count }) rng =
          generateTasks count rng from rfl, hgenerate] at hm
        cases hm
    | ok tasks =>
        rw [show generateTasks (Master.taskCount { taskCount := count }) rng =
          generateTasks count rng from rfl, hgenerate] at hm
        cases hm
        exact workers_foldl_addTask tasks _
  have hfresh : fresh m clock = { master := m, clock := clock } := by
    rw [fresh, ← hworkers]
  have hfold := foldlM_acceptWorkers (numbered_fresh m clock) (hfresh ▸ hrun)
  rw [hfresh] at hfold
  rw [Master.start, hm]
  exact hfold

end

/-- A `REGISTER` without `worker_id`. -/
def namelessText : List UInt8 := ascii
  ["\x7b\"type\":\"REGISTER\",\"sender_id\":\"worker1\",\"request_id\":\"r1\",",
    "\"payload\":\x7b\"p2p_endpoint\":\x7b\x7d\x7d\x7d"]

def namelessJson : Json where
  dumps _ := none
  loads text := if text = namelessText then
      .ok (.dict [("type", .str "REGISTER"), ("sender_id", .str "worker1"),
        ("request_id", .str "r1"), ("payload", .dict [("p2p_endpoint", .dict [])])])
    else
      .error .invalid

/-- The registration of one client that sends it. -/
def namelessRun : Registration × List Visit :=
  acceptWorkers Builtins.plain namelessJson (fresh { taskCount := 1 } {}) 0 [{ conn := { sock :=
      { incoming := Framing.packLength namelessText.length ++ namelessText, chunks := [] } } }]

/-- The client ends the registration with a `KeyError`. -/
theorem not_atomic_nameless : ¬ Atomic namelessRun.1 namelessRun.2 := by
  have hadmissions : namelessRun.2.map Visit.admission =
      [.aborted ⟨.keyError, "'worker_id'"⟩] := by decide +kernel
  intro h
  obtain ⟨visit, hvisit, hadmission⟩ := List.mem_map.1
    (hadmissions ▸ List.mem_singleton_self (Admission.aborted ⟨.keyError, "'worker_id'"⟩))
  exact h.survives visit hvisit _ hadmission

end Registration

end KVStore
