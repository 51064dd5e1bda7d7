import KVStore.Master.Stub

/-!
# The registration check, from both sides

`register_worker` of the smoke client, and what its result says of the server: a client is
accepted exactly if no other endpoint came first under its name.
-/

namespace KVStore

open Python Framing RegistrationServer

/-- The arguments of `register_worker`, without the address of the Master, and the request id
that it draws. -/
structure SmokeClient where
  workerId : WorkerId
  p2pHost : String
  p2pPort : ℤ
  requestId : RequestId

/-- The `OSError` of `create_connection` and of `sendall`, if they raise one, and what comes
back on the connection. -/
structure ServerLink where
  refused : Option OSErrorText := none
  failure : Option OSErrorText := none
  answer : Connection

/-- How `register_worker` ends: it returns, raises one of its two `RuntimeError`s, or another
exception. -/
inductive Enrolment
  | returned (response : Message)
  | mismatched
  | rejected (payload : Object)
  | raised (e : PyError)

namespace SmokeClient

def registration (client : SmokeClient) : Except PyError RegisterPayload := do
  let p2pEndpoint ← WorkerEndpoint.postInit { host := client.p2pHost, port := client.p2pPort }
  RegisterPayload.postInit { workerId := client.workerId, p2pEndpoint }

def request (client : SmokeClient) : Except PyError Message := do
  let registration ← client.registration
  Message.postInit
    { messageType := .REGISTER
      senderId := client.workerId
      requestId := client.requestId
      payload := registration.toDict }

def registerWorker (b : Builtins) (json : Json) (client : SmokeClient) (link : ServerLink) :
    Enrolment :=
  match client.request with
  | .error e => .raised e
  | .ok request =>
      match link.refused with
      | some failure => .raised ⟨.osError, failure.text⟩
      | none =>
          match sendMessage json link.failure request with
          | .error e => .raised e
          | .ok request =>
              match link.answer.receive b json with
              | .error e => .raised e
              | .ok response =>
                  if response.requestId ≠ request.requestId then .mismatched
                  else if response.messageType ≠ .ACK then .rejected response.payload
                  else .returned response

/-- The entry that the client asks for. -/
def registeredWorker (client : SmokeClient) : RegisteredWorker where
  workerId := client.workerId
  host := client.p2pHost
  port := client.p2pPort

end SmokeClient

/-! ### A frame that arrives -/

section

variable {b : Builtins} {json : Json} {conn : Connection} {message : Message}
  {frame : List UInt8}

theorem exists_payload_of_encodeMessage (h : encodeMessage json message = .ok frame) :
    ∃ payload, frame = packLength payload.length ++ payload ∧ payload.length ≠ 0 ∧
      payload.length ≤ MAX_FRAME_BYTES := by
  unfold encodeMessage at h
  split at h
  · cases h
  rename_i payload _
  split_ifs at h with hsize
  cases h
  rw [not_or, not_lt] at hsize
  exact ⟨payload, rfl, fun hlength => hsize.1 (List.length_eq_zero_iff.1 hlength), hsize.2⟩

theorem Connection.incoming_of_receive {received : Message}
    (hencode : encodeMessage json message = .ok frame) (hpart : conn.sock.incoming <+: frame)
    (h : conn.receive b json = .ok received) : conn.sock.incoming = frame := by
  obtain ⟨payload, rfl, hne, hmax⟩ := exists_payload_of_encodeMessage hencode
  by_contra hcut
  have htake := List.prefix_iff_eq_take.1 hpart
  have hlt : conn.sock.incoming.length < (packLength payload.length ++ payload).length :=
    lt_of_le_of_ne hpart.length_le fun hlength => hcut (hpart.eq_of_length hlength)
  obtain ⟨chunks, heof⟩ := receiveMessage_cut b json hne hmax hlt conn.sock.chunks
  rw [← htake] at heof
  rw [Connection.receive, heof] at h
  dsimp only at h
  split at h
  · split_ifs at h
  · cases h

theorem Connection.receive_of_frame (hjson : json.RoundTrips) (hmessage : message.Sendable)
    (hencode : encodeMessage json message = .ok frame) (hall : conn.sock.incoming = frame) :
    conn.receive b json = .ok message := by
  obtain ⟨payload, rfl, hne, hmax, hdecode⟩ := encodeMessage_eq_ok b hjson hmessage hencode
  obtain ⟨chunks, hreceive⟩ := receiveMessage_frame b json hne hmax [] conn.sock.chunks
  rw [List.append_nil, ← hall, hdecode] at hreceive
  rw [Connection.receive, hreceive]

end

/-! ### What the client learns -/

/-- What reaches the client is a part of a frame, and all of it only if the handler has sent it
to its end. -/
def Reply (json : Json) (handler : RegistrationHandler) (bytes : List UInt8) : Prop :=
  ∃ response frame, encodeMessage json response = .ok frame ∧ bytes <+: frame ∧
    (handler = .closed (some response) ∨ bytes ≠ frame)

/-- The client is on the connection with this number. What reaches the server is a part of the
frame that the client sends. -/
structure Served (json : Json) (conns : ℕ → Connection) (s : RegistrationServer) (number : ℕ)
    (client : SmokeClient) (link : ServerLink) : Prop where
  asked : ∀ request frame, client.request = .ok request →
    encodeMessage json request = .ok frame → (conns number).sock.incoming <+: frame
  answered : Reply json (s.handlers number) link.answer.sock.incoming

/-- The request and the answer arrive, and the `ACK` fits into a frame. -/
structure Delivered (json : Json) (conns : ℕ → Connection) (s : RegistrationServer)
    (number : ℕ) (client : SmokeClient) (link : ServerLink) : Prop where
  connected : link.refused = none ∧ link.failure = none
  asked : ∃ request, client.request = .ok request ∧
    encodeMessage json request = .ok (conns number).sock.incoming
  answered : ∃ response, s.handlers number = .closed (some response) ∧
    encodeMessage json response = .ok link.answer.sock.incoming
  fits : ∀ registeredWorkers, 0 < registeredWorkers → registeredWorkers ≤ s.workers.size →
    (encodeMessage json (RegistrationHandler.ack client.requestId client.registeredWorker
      registeredWorkers)).Succeeds

section

variable {b : Builtins} {json : Json} {conns : ℕ → Connection} {s : RegistrationServer}
  {number : ℕ} {client : SmokeClient} {link : ServerLink} {request response : Message}
  {frame : List UInt8}

/-- What the client sends. -/
structure SmokeClient.Requests (client : SmokeClient) (request : Message) : Prop where
  eq : request =
    { messageType := .REGISTER
      senderId := client.workerId
      requestId := client.requestId
      payload := RegisterPayload.toDict
        { workerId := client.workerId
          p2pEndpoint := { host := client.p2pHost, port := client.p2pPort } } }
  sendable : request.Sendable
  payload : ∀ b, RegisterPayload.fromDict b request.payload = .ok
    { workerId := client.workerId
      p2pEndpoint := { host := client.p2pHost, port := client.p2pPort } }

theorem jsonNative_toDict (registration : RegisterPayload) :
    Value.JsonNative (.dict registration.toDict) := by
  have hendpoint : Value.JsonNative (.dict registration.p2pEndpoint.toDict) := by
    refine .dict _ (show ["host", "port"].Nodup by decide) fun e he => ?_
    simp only [WorkerEndpoint.toDict, List.mem_cons, List.not_mem_nil, or_false] at he
    rcases he with rfl | rfl
    · exact .str _
    · exact .int _
  refine .dict _ (show ["worker_id", "p2p_endpoint", "queue_capacity"].Nodup by decide)
    fun e he => ?_
  simp only [RegisterPayload.toDict, List.mem_cons, List.not_mem_nil, or_false] at he
  rcases he with rfl | rfl | rfl
  · exact .str _
  · exact hendpoint
  · exact .int _

theorem Message.eq_of_postInit {message message' : Message}
    (h : message.postInit = .ok message') : message' = message := by
  unfold Message.postInit at h
  split_ifs at h
  exact (Except.ok.inj h).symm

theorem SmokeClient.requests_of_request (h : client.request = .ok request) :
    client.Requests request := by
  obtain ⟨registration, hregistration, hmessage⟩ := Except.bind_eq_ok_iff.1 h
  obtain ⟨endpoint, hendpoint, hpayload⟩ := Except.bind_eq_ok_iff.1 hregistration
  obtain rfl : endpoint = { host := client.p2pHost, port := client.p2pPort } := by
    unfold WorkerEndpoint.postInit at hendpoint
    split_ifs at hendpoint
    exact (Except.ok.inj hendpoint).symm
  have hkept : registration =
      { workerId := client.workerId
        p2pEndpoint := { host := client.p2pHost, port := client.p2pPort } } := by
    unfold RegisterPayload.postInit at hpayload
    split_ifs at hpayload
    exact (Except.ok.inj hpayload).symm
  subst hkept
  have heq := Message.eq_of_postInit hmessage
  refine ⟨heq, ⟨?_, ⟨0, ?_⟩, ?_⟩, fun b => ?_⟩
  · rw [heq] at hmessage ⊢
    exact hmessage
  · rw [heq]
  · rw [heq]
    exact jsonNative_toDict _
  · rw [heq]
    exact RegisterPayload.fromDict_toDict b hendpoint hpayload

theorem sendable_ack {requestId : RequestId} (h : requestId ≠ "") (worker : RegisteredWorker)
    (n : ℕ) : (RegistrationHandler.ack requestId worker n).Sendable where
  valid := postInit_reply h _ _
  clock := ⟨0, rfl⟩
  payload := by
    refine .dict _ (show ["acknowledged_type", "worker_id", "registered_workers"].Nodup by decide)
      fun e he => ?_
    simp only [RegistrationHandler.ack, List.mem_cons, List.not_mem_nil, or_false] at he
    rcases he with rfl | rfl | rfl
    · exact .str _
    · exact .str _
    · exact .int _

theorem sendable_error {requestId : RequestId} (h : requestId ≠ "") (e : PyError) :
    (RegistrationHandler.error requestId e).Sendable where
  valid := postInit_reply h _ _
  clock := ⟨0, rfl⟩
  payload := by
    refine .dict _ (show ["error"].Nodup by decide) fun entry hentry => ?_
    rw [List.mem_singleton.1 hentry]
    exact .str _

theorem SmokeClient.Requests.registers (h : client.Requests request) {conn : Connection}
    (hreceive : conn.receive b json = .ok request) :
    Registers b json conn request client.registeredWorker where
  receive := hreceive
  messageType := by rw [h.eq]
  payload := ⟨_, h.payload b, rfl⟩

theorem RegistrationServer.Registers.eq_of_requests {conn : Connection} {message : Message}
    {worker : RegisteredWorker} (h : Registers b json conn message worker)
    (hreceive : conn.receive b json = .ok request) (hrequests : client.Requests request) :
    message = request ∧ worker = client.registeredWorker := by
  have hmessage : message = request := Except.ok.inj (h.receive.symm.trans hreceive)
  refine ⟨hmessage, ?_⟩
  obtain ⟨registration, hpayload, rfl⟩ := h.payload
  rw [hmessage, hrequests.payload b] at hpayload
  rw [← Except.ok.inj hpayload]
  rfl

/-- What has happened when `register_worker` has got an answer. -/
theorem SmokeClient.exists_answer_of_returned
    (h : client.registerWorker b json link = .returned response) :
    ∃ request frame, client.request = .ok request ∧ encodeMessage json request = .ok frame ∧
      link.answer.receive b json = .ok response ∧ response.requestId = client.requestId ∧
      response.messageType = .ACK := by
  unfold registerWorker at h
  cases hrequest : client.request with
  | error e =>
      rw [hrequest] at h
      cases h
  | ok request =>
      rw [hrequest] at h
      dsimp only at h
      cases hrefused : link.refused with
      | some text =>
          rw [hrefused] at h
          cases h
      | none =>
          rw [hrefused] at h
          dsimp only at h
          have hrequests := requests_of_request hrequest
          cases hencode : encodeMessage json request with
          | error e =>
              rw [sendMessage_of_error hrequests.sendable.valid hencode] at h
              cases h
          | ok frame =>
              rw [sendMessage_of_ok hrequests.sendable.valid hencode] at h
              cases hfailure : link.failure with
              | some text =>
                  rw [hfailure] at h
                  cases h
              | none =>
                  rw [hfailure] at h
                  dsimp only at h
                  cases hanswer : link.answer.receive b json with
                  | error e =>
                      rw [hanswer] at h
                      cases h
                  | ok answer =>
                      rw [hanswer] at h
                      dsimp only at h
                      split_ifs at h with hid htype
                      cases h
                      rw [not_not] at hid htype
                      refine ⟨request, frame, rfl, hencode, rfl, ?_, htype⟩
                      rw [hid, hrequests.eq]

theorem registered_of_returned (hjson : json.RoundTrips) (hs : s.Coherent b json conns)
    (hserved : Served json conns s number client link)
    (hreturned : client.registerWorker b json link = .returned response) :
    s.workers.lookup client.workerId = some client.registeredWorker ∧
      ∃ n, 0 < n ∧ n ≤ s.workers.size ∧
        response = RegistrationHandler.ack client.requestId client.registeredWorker n := by
  obtain ⟨request, frame, hrequest, hencode, hanswer, hid, htype⟩ :=
    SmokeClient.exists_answer_of_returned hreturned
  have hrequests := SmokeClient.requests_of_request hrequest
  obtain ⟨reply, replyFrame, hreply, hpart, hsent⟩ := hserved.answered
  have hwhole := Connection.incoming_of_receive hreply hpart hanswer
  have hstands := hs.stands number
  rw [hsent.resolve_right (not_not.2 hwhole)] at hstands
  cases hstands with
  | acknowledged message worker n registers lookup pos le =>
      have hall := Connection.incoming_of_receive hencode
        (hserved.asked request frame hrequest hencode) registers.receive
      have hreceive := Connection.receive_of_frame (b := b) hjson hrequests.sendable hencode hall
      have hmessage := requestId_ne_of_receive registers.receive
      obtain ⟨rfl, rfl⟩ := registers.eq_of_requests hreceive hrequests
      have hresponse := hanswer.symm.trans
        (Connection.receive_of_frame hjson (sendable_ack hmessage _ n) hreply hwhole)
      refine ⟨lookup, n, pos, le, ?_⟩
      rw [Except.ok.inj hresponse, hrequests.eq]
  | answered requestId e refusal =>
      have hresponse := hanswer.symm.trans
        (Connection.receive_of_frame hjson (sendable_error refusal.requestId_ne e) hreply hwhole)
      rw [Except.ok.inj hresponse] at htype
      cases htype

/-- **First come, first served.** In every run of the server, a client that is told that it is
registered is registered with its endpoint, and the number that it is told is not too large. Of
the clients with one name, those that are told so have the same endpoint. -/
theorem agreement_of_run (hjson : json.RoundTrips) {turns : List Turn}
    (hrun : Transition.run (step b json) (start conns) turns = some s) :
    (∀ number client link response, Served json conns s number client link →
      client.registerWorker b json link = .returned response →
        s.workers.lookup client.workerId = some client.registeredWorker ∧
          ∃ n, 0 < n ∧ n ≤ s.workers.size ∧
            response = RegistrationHandler.ack client.requestId client.registeredWorker n) ∧
      ∀ number client link response number' client' link' response',
        Served json conns s number client link → Served json conns s number' client' link' →
        client.registerWorker b json link = .returned response →
        client'.registerWorker b json link' = .returned response' →
        client.workerId = client'.workerId →
          client.p2pHost = client'.p2pHost ∧ client.p2pPort = client'.p2pPort := by
  have hs := coherent_of_run hrun
  refine ⟨fun number client link response hserved hreturned =>
    registered_of_returned hjson hs hserved hreturned, ?_⟩
  intro number client link response number' client' link' response' hserved hserved' hreturned
    hreturned' hname
  have hlookup := (registered_of_returned hjson hs hserved hreturned).1
  rw [hname, (registered_of_returned hjson hs hserved' hreturned').1] at hlookup
  have hentry := Option.some.inj hlookup
  exact ⟨congrArg RegisteredWorker.host hentry.symm, congrArg RegisteredWorker.port hentry.symm⟩

/-- `register_worker` on a connection where nothing is lost. -/
theorem SmokeClient.registerWorker_of_delivered (hjson : json.RoundTrips)
    (hrequest : client.request = .ok request)
    (hconnected : link.refused = none ∧ link.failure = none)
    (hencode : encodeMessage json request = .ok frame) (hresponse : response.Sendable)
    (hreply : encodeMessage json response = .ok link.answer.sock.incoming)
    (hid : response.requestId = client.requestId) :
    client.registerWorker b json link =
      if response.messageType ≠ .ACK then .rejected response.payload else .returned response := by
  have hrequests := requests_of_request hrequest
  have hsame : response.requestId = request.requestId := by rw [hid, hrequests.eq]
  unfold registerWorker
  rw [hrequest]
  dsimp only
  rw [hconnected.1, hconnected.2]
  dsimp only
  rw [sendMessage_of_ok hrequests.sendable.valid hencode]
  dsimp only
  rw [Connection.receive_of_frame hjson hresponse hreply rfl]
  dsimp only
  rw [if_neg (not_not.2 hsame)]

/-- Where nothing is lost, a client is registered, or another endpoint came first under its
name. -/
theorem returned_or_rejected (hjson : json.RoundTrips) {turns : List Turn}
    (hrun : Transition.run (step b json) (start conns) turns = some s)
    (h : Delivered json conns s number client link) :
    (s.workers.lookup client.workerId = some client.registeredWorker ∧
      ∃ n, 0 < n ∧ n ≤ s.workers.size ∧ client.registerWorker b json link =
        .returned (RegistrationHandler.ack client.requestId client.registeredWorker n)) ∨
    ((∃ existing, s.workers.lookup client.workerId = some existing ∧
        existing ≠ client.registeredWorker) ∧
      client.registerWorker b json link =
        .rejected [("error", .str ("worker_id already registered: " ++ client.workerId))]) := by
  obtain ⟨request, hrequest, hencode⟩ := h.asked
  obtain ⟨response, hclosed, hreply⟩ := h.answered
  have hrequests := SmokeClient.requests_of_request hrequest
  have hid : request.requestId = client.requestId := by rw [hrequests.eq]
  have hreceive := Connection.receive_of_frame (b := b) hjson hrequests.sendable hencode rfl
  have hne := requestId_ne_of_receive hreceive
  have hstands := (coherent_of_run hrun).stands number
  rw [hclosed] at hstands
  cases hstands with
  | acknowledged message worker n registers lookup pos le =>
      obtain ⟨rfl, rfl⟩ := registers.eq_of_requests hreceive hrequests
      refine .inl ⟨lookup, n, pos, le, ?_⟩
      rw [SmokeClient.registerWorker_of_delivered hjson hrequest h.connected hencode
        (sendable_ack hne _ n) hreply hid, if_neg (by simp [RegistrationHandler.ack]), hid]
  | answered requestId e refusal =>
      cases refusal with
      | unreadable _ receive =>
          rw [hreceive] at receive
          cases receive
      | unexpected message receive messageType =>
          obtain rfl : message = request := Except.ok.inj (receive.symm.trans hreceive)
          exact absurd (by rw [hrequests.eq]) messageType
      | invalid message _ receive _ payload =>
          obtain rfl : message = request := Except.ok.inj (receive.symm.trans hreceive)
          rw [hrequests.payload b] at payload
          cases payload
      | taken message worker existing registers lookup ne =>
          obtain ⟨rfl, rfl⟩ := registers.eq_of_requests hreceive hrequests
          refine .inr ⟨⟨existing, lookup, ne⟩, ?_⟩
          rw [SmokeClient.registerWorker_of_delivered hjson hrequest h.connected hencode
            (sendable_error hne _) hreply hid, if_pos (by simp [RegistrationHandler.error])]
          rfl
      | unanswerable message worker n _ registers lookup pos le encode =>
          obtain ⟨rfl, rfl⟩ := registers.eq_of_requests hreceive hrequests
          obtain ⟨frame, hfits⟩ := h.fits n pos le
          rw [hid, hfits] at encode
          cases encode

end

/-! ### Two clients with one name -/

theorem roundTrips_jsonOfTexts {first second ack error : List UInt8} (hsecond : second ≠ first)
    (hack : ack ≠ first ∧ ack ≠ second) (herror : error ≠ first ∧ error ≠ second ∧ error ≠ ack) :
    (jsonOfTexts first second ack error).RoundTrips := by
  intro v text _ hdumps
  unfold jsonOfTexts at hdumps ⊢
  dsimp only at hdumps ⊢
  split at hdumps
  · split_ifs at hdumps with hq hr hr'
    · cases hdumps
      obtain ⟨rfl, rfl⟩ := hr
      rw [if_pos rfl, not_not.1 hq]
      rfl
    · cases hdumps
      obtain ⟨rfl, rfl⟩ := hr'
      rw [if_neg hsecond, if_pos rfl, not_not.1 hq]
      rfl
  · split_ifs at hdumps with hq
    cases hdumps
    rw [if_neg hack.1, if_neg hack.2, if_pos rfl, not_not.1 hq]
    rfl
  · split_ifs at hdumps with hq
    cases hdumps
    rw [if_neg herror.1, if_neg herror.2.1, if_neg herror.2.2, if_pos rfl, not_not.1 hq]
    rfl
  · cases hdumps

theorem roundTrips_checkJson : checkJson.RoundTrips :=
  roundTrips_jsonOfTexts (by decide +kernel) (by decide +kernel) (by decide +kernel)

/-- The client that comes first, and what comes back to it. -/
def checkClient : SmokeClient where
  workerId := "worker1"
  p2pHost := "10.0.0.1"
  p2pPort := 6001
  requestId := "r0"

def checkLink : ServerLink where
  answer := { sock := { incoming := packLength ackText.length ++ ackText, chunks := [] } }

theorem encodeMessage_checkClient :
    encodeMessage checkJson (registerMessage "r0" "10.0.0.1") =
      .ok (checkConns 0).sock.incoming := by
  decide +kernel

theorem encodeMessage_checkAck :
    encodeMessage checkJson (RegistrationHandler.ack "r0" checkClient.registeredWorker 1) =
      .ok checkLink.answer.sock.incoming := by
  decide +kernel

theorem exists_run_checkClient :
    ∃ s, Transition.run (step Builtins.plain checkJson) (start checkConns) checkTurns = some s ∧
      s.workers.size = 1 ∧ s.workers.lookup "worker1" = some checkClient.registeredWorker ∧
      s.handlers 0 =
        .closed (some (RegistrationHandler.ack "r0" checkClient.registeredWorker 1)) := by
  have hany : (Transition.run (step Builtins.plain checkJson) (start checkConns) checkTurns).any
      (fun s => s.workers.size = 1 ∧
        s.workers.lookup "worker1" = some checkClient.registeredWorker ∧
        (s.handlers 0).answerType = some .ACK) = true := by decide +kernel
  obtain ⟨s, hrun, hs⟩ := (Option.any_eq_true _ _).1 hany
  obtain ⟨hsize, hlookup, htype⟩ := of_decide_eq_true hs
  refine ⟨s, hrun, hsize, hlookup, ?_⟩
  have hrequests : checkClient.Requests (registerMessage "r0" "10.0.0.1") :=
    SmokeClient.requests_of_request rfl
  have hreceive := Connection.receive_of_frame (b := Builtins.plain) roundTrips_checkJson
    hrequests.sendable encodeMessage_checkClient rfl
  have hstands := (coherent_of_run hrun).stands 0
  cases hhandler : s.handlers 0 with
  | closed sent =>
      rw [hhandler] at hstands htype
      cases hstands with
      | acknowledged message worker n registers _ pos le =>
          obtain ⟨rfl, rfl⟩ := registers.eq_of_requests hreceive hrequests
          obtain rfl : n = 1 := by omega
          rfl
      | answered => cases htype
      | silent => cases htype
  | _ =>
      rw [hhandler] at htype
      cases htype

theorem agreement_of_run_two :
    ∃ s, Transition.run (step Builtins.plain checkJson) (start checkConns) checkTurns = some s ∧
      s.workers.lookup "worker1" = some checkClient.registeredWorker := by
  obtain ⟨s, hrun, _, _, hclosed⟩ := exists_run_checkClient
  have hserved : Served checkJson checkConns s 0 checkClient checkLink := by
    refine ⟨fun request frame hrequest hencode => ?_, _, _, encodeMessage_checkAck,
      List.prefix_refl _, .inl hclosed⟩
    obtain rfl : registerMessage "r0" "10.0.0.1" = request := Except.ok.inj hrequest
    rw [encodeMessage_checkClient] at hencode
    rw [← Except.ok.inj hencode]
  have hreturned := SmokeClient.registerWorker_of_delivered (b := Builtins.plain)
    roundTrips_checkJson (show checkClient.request = _ from rfl) ⟨rfl, rfl⟩
    encodeMessage_checkClient (sendable_ack (by decide) _ 1) encodeMessage_checkAck rfl
  exact ⟨s, hrun, ((agreement_of_run roundTrips_checkJson hrun).1 0 checkClient checkLink _ hserved
    hreturned).1⟩

theorem returned_or_rejected_two :
    ∃ s, Transition.run (step Builtins.plain checkJson) (start checkConns) checkTurns = some s ∧
      ∃ n, checkClient.registerWorker Builtins.plain checkJson checkLink =
        .returned (RegistrationHandler.ack "r0" checkClient.registeredWorker n) := by
  obtain ⟨s, hrun, hsize, hlookup, hclosed⟩ := exists_run_checkClient
  have hdelivered : Delivered checkJson checkConns s 0 checkClient checkLink := by
    refine ⟨⟨rfl, rfl⟩, ⟨_, rfl, encodeMessage_checkClient⟩, ⟨_, hclosed, encodeMessage_checkAck⟩,
      fun n hpos hle => ?_⟩
    obtain rfl : n = 1 := by omega
    exact ⟨_, encodeMessage_checkAck⟩
  rcases returned_or_rejected roundTrips_checkJson hrun hdelivered with
    ⟨_, n, _, _, hreturned⟩ | ⟨⟨existing, hexisting, hne⟩, _⟩
  · exact ⟨s, hrun, n, hreturned⟩
  · exact absurd (Option.some.inj (hexisting.symm.trans hlookup)) hne

end KVStore
