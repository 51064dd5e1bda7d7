import KVStore.Common.Messages
import KVStore.Library.Framing

/-!
# Frames

A message is sent as one frame: the length of its JSON text in four bytes and the text.
`json.dumps` and `json.loads` are parameters, with the conversion to and from UTF-8; what
is assumed of them is that a text of JSON-native values is read back as it was. The sender
and the receiver each check the length of a frame.
-/

namespace KVStore

open Python Framing

/-- How a text is not read: it is nested too deeply, so that `json.loads` or `str` raises
`RecursionError`, or it is no JSON text, which is a `ValueError`. -/
inductive JsonError
  | tooDeep
  | invalid

/-- `dumps` is `none` when it raises `TypeError` or `ValueError`, as it does on a surrogate. How
deep a text can be nested belongs to the interpreter. -/
structure Json where
  dumps : Value → Option (List UInt8)
  loads : List UInt8 → Except JsonError Value

/-- `json.loads(json.dumps(v)) = v` on JSON-native values. -/
def Json.RoundTrips (json : Json) : Prop :=
  ∀ v text, v.JsonNative → json.dumps v = some text → json.loads text = .ok v

def HEADER_SIZE : ℕ := 4

def MAX_FRAME_BYTES : ℕ := 1048576

def encodeMessage (json : Json) (message : Message) : Except PyError (List UInt8) :=
  match json.dumps (.dict message.toDict) with
  | none => .error ⟨.protocolError, "message payload is not JSON serializable"⟩
  | some payload =>
      if payload = [] ∨ MAX_FRAME_BYTES < payload.length then
        .error ⟨.protocolError, "message payload size is outside the allowed range"⟩
      else
        .ok (packLength payload.length ++ payload)

def recvExact (sock : Socket) (size : ℕ) : Except PyError (List UInt8) × Socket :=
  match sock.recvExact size with
  | (some bytes, sock) => (.ok bytes, sock)
  | (none, sock) =>
      (.error ⟨.eofError, "connection closed while receiving a protocol frame"⟩, sock)

/-- The `try` block of `receive_message`. -/
def decodeMessage (b : Builtins) (json : Json) (rawPayload : List UInt8) :
    Except PyError Message :=
  let invalid : PyError := ⟨.protocolError, "invalid message payload"⟩
  match json.loads rawPayload with
  | .ok (.dict decoded) =>
      match Message.fromDict b decoded with
      | .ok message => .ok message
      | .error e =>
          if e.kind ∈ [.keyError, .typeError, .valueError] then .error invalid else .error e
  -- no clause catches it; the text goes on with what was being decoded
  | .error .tooDeep => .error ⟨.recursionError, "maximum recursion depth exceeded"⟩
  | _ => .error invalid

def receiveMessage (b : Builtins) (json : Json) (sock : Socket) :
    Except PyError Message × Socket :=
  match recvExact sock HEADER_SIZE with
  | (.error e, sock) => (.error e, sock)
  | (.ok header, sock) =>
      let payloadSize := unpackLength header
      if payloadSize = 0 ∨ MAX_FRAME_BYTES < payloadSize then
        (.error ⟨.protocolError, "invalid frame size: " ++ toString payloadSize⟩, sock)
      else
        match recvExact sock payloadSize with
        | (.error e, sock) => (.error e, sock)
        | (.ok rawPayload, sock) => (decodeMessage b json rawPayload, sock)

/-- The stream starts with a complete frame of an allowed size. -/
def HoldsFrame (incoming payload : List UInt8) : Prop :=
  ∃ header rest, incoming = header ++ payload ++ rest ∧ header.length = HEADER_SIZE ∧
    unpackLength header = payload.length ∧ payload.length ≠ 0 ∧
    payload.length ≤ MAX_FRAME_BYTES

/-- The stream ends inside its first frame. -/
def CutOff (incoming : List UInt8) : Prop :=
  incoming.length < HEADER_SIZE ∨
    (unpackLength (incoming.take HEADER_SIZE) ≠ 0 ∧
      unpackLength (incoming.take HEADER_SIZE) ≤ MAX_FRAME_BYTES ∧
        incoming.length < HEADER_SIZE + unpackLength (incoming.take HEADER_SIZE))

/-- What arrives on a connection, and the `OSError` that `recv` raises after it, unless the
peer closes the connection. -/
structure Connection where
  sock : Socket
  broken : Option OSErrorText := none

/-- `receive_message` on a connection that can break. -/
def Connection.receive (b : Builtins) (json : Json) (conn : Connection) :
    Except PyError Message :=
  match (receiveMessage b json conn.sock).1, conn.broken with
  | .error e, some failure =>
      if e.kind = .eofError then .error ⟨.osError, failure.text⟩ else .error e
  | received, _ => received

/-- A new message is made and sent; `failure` is the `OSError` of `sendall`, if it raises
one. -/
def sendMessage (json : Json) (failure : Option OSErrorText) (message : Message) :
    Except PyError Message := do
  let message ← message.postInit
  let _ ← encodeMessage json message
  match failure with
  | none => .ok message
  | some failure => .error ⟨.osError, failure.text⟩

/-- `receive_message` up to `n` times: the messages, and the exception that ended it. -/
def receiveMessages (b : Builtins) (json : Json) :
    ℕ → Socket → List Message × Option PyError × Socket
  | 0, sock => ([], none, sock)
  | n + 1, sock =>
      match receiveMessage b json sock with
      | (.error e, sock) => ([], some e, sock)
      | (.ok message, sock) =>
          let (messages, e, sock) := receiveMessages b json n sock
          (message :: messages, e, sock)

/-- The message passed its validators when it was made, its clock is finite and its payload
is JSON-native. -/
structure Message.Sendable (message : Message) : Prop where
  valid : message.postInit = .ok message
  clock : ∃ q, message.logicalClock = .finite q
  payload : Value.JsonNative (.dict message.payload)

section

variable (b : Builtins) {json : Json} {message : Message} {frame : List UInt8}

theorem Message.Sendable.jsonNative (h : message.Sendable) :
    Value.JsonNative (.dict message.toDict) := by
  obtain ⟨q, hq⟩ := h.clock
  have hkeys : ["version", "type", "sender_id", "request_id", "logical_clock",
      "payload"].Nodup := by decide
  refine .dict _ hkeys ?_
  intro e he
  simp only [Message.toDict, List.mem_cons, List.not_mem_nil, or_false] at he
  rcases he with rfl | rfl | rfl | rfl | rfl | rfl
  · exact .int _
  · exact .str _
  · exact .str _
  · exact .str _
  · rw [hq]
    exact .float q
  · exact h.payload

/-- A frame is a length that the receiver allows, and a text that it reads back. -/
theorem encodeMessage_eq_ok (hjson : json.RoundTrips) (hmessage : message.Sendable)
    (h : encodeMessage json message = .ok frame) :
    ∃ payload, frame = packLength payload.length ++ payload ∧ payload.length ≠ 0 ∧
      payload.length ≤ MAX_FRAME_BYTES ∧ decodeMessage b json payload = .ok message := by
  unfold encodeMessage at h
  split at h
  · cases h
  rename_i payload hdumps
  split_ifs at h with hsize
  cases h
  rw [not_or, not_lt] at hsize
  refine ⟨payload, rfl, fun hlength => hsize.1 (List.length_eq_zero_iff.1 hlength), hsize.2, ?_⟩
  have hloads := hjson _ _ hmessage.jsonNative hdumps
  simp only [decodeMessage, hloads, Message.fromDict_toDict b hmessage.valid]

theorem recvExact_of_le (sock : Socket) (size : ℕ) (h : size ≤ sock.incoming.length) :
    ∃ chunks, recvExact sock size = (.ok (sock.incoming.take size),
      { incoming := sock.incoming.drop size, chunks := chunks }) := by
  obtain ⟨chunks, hrecv⟩ := sock.recvExact_spec size
  rw [if_pos h] at hrecv
  exact ⟨chunks, by rw [recvExact, hrecv]⟩

theorem recvExact_of_lt (sock : Socket) (size : ℕ) (h : sock.incoming.length < size) :
    ∃ chunks, recvExact sock size =
      (.error ⟨.eofError, "connection closed while receiving a protocol frame"⟩,
        { incoming := [], chunks := chunks }) := by
  obtain ⟨chunks, hrecv⟩ := sock.recvExact_spec size
  rw [if_neg h.not_ge, List.drop_of_length_le h.le] at hrecv
  exact ⟨chunks, by rw [recvExact, hrecv]⟩

theorem unpackLength_header {payload : List UInt8} (hmax : payload.length ≤ MAX_FRAME_BYTES) :
    unpackLength (packLength payload.length) = payload.length := by
  refine unpackLength_packLength (hmax.trans_lt ?_)
  decide

theorem receiveMessage_header (json : Json) {header payload : List UInt8}
    (hheader : header.length = HEADER_SIZE) (hsize : unpackLength header = payload.length)
    (hne : payload.length ≠ 0) (hmax : payload.length ≤ MAX_FRAME_BYTES) (rest : List UInt8)
    (chunks : List ℕ) :
    ∃ chunks', receiveMessage b json
        { incoming := header ++ payload ++ rest, chunks := chunks } =
      (decodeMessage b json payload, { incoming := rest, chunks := chunks' }) := by
  obtain ⟨chunks₁, hfirst⟩ := recvExact_of_le
    { incoming := header ++ payload ++ rest, chunks := chunks } HEADER_SIZE
    (by
      rw [List.length_append, List.length_append, hheader]
      omega)
  have htake : (header ++ payload ++ rest).take HEADER_SIZE = header := by
    rw [List.append_assoc]
    exact List.take_left' hheader
  have hdrop : (header ++ payload ++ rest).drop HEADER_SIZE = payload ++ rest := by
    rw [List.append_assoc]
    exact List.drop_left' hheader
  simp only [htake, hdrop] at hfirst
  obtain ⟨chunks₂, hbody⟩ := recvExact_of_le
    { incoming := payload ++ rest, chunks := chunks₁ } payload.length
    (by
      rw [List.length_append]
      omega)
  simp only [List.take_left, List.drop_left] at hbody
  refine ⟨chunks₂, ?_⟩
  rw [receiveMessage, hfirst]
  simp only [hsize]
  rw [if_neg (not_or.2 ⟨hne, hmax.not_gt⟩), hbody]

theorem receiveMessage_frame (json : Json) {payload : List UInt8} (hne : payload.length ≠ 0)
    (hmax : payload.length ≤ MAX_FRAME_BYTES) (rest : List UInt8) (chunks : List ℕ) :
    ∃ chunks', receiveMessage b json
        { incoming := packLength payload.length ++ payload ++ rest, chunks := chunks } =
      (decodeMessage b json payload, { incoming := rest, chunks := chunks' }) :=
  receiveMessage_header b json (length_packLength _) (unpackLength_header hmax) hne hmax rest
    chunks

theorem receiveMessage_of_holdsFrame (json : Json) {sock : Socket} {payload : List UInt8}
    (h : HoldsFrame sock.incoming payload) :
    (receiveMessage b json sock).1 = decodeMessage b json payload := by
  obtain ⟨header, rest, hincoming, hheader, hsize, hne, hmax⟩ := h
  obtain ⟨chunks, hframe⟩ := receiveMessage_header b json hheader hsize hne hmax rest sock.chunks
  rw [← hincoming] at hframe
  rw [hframe]

/-- Without one the stream ends inside the frame, or the size is refused. -/
theorem receiveMessage_of_not_holdsFrame (json : Json) {sock : Socket}
    (h : ∀ payload, ¬ HoldsFrame sock.incoming payload) :
    ∃ e, (receiveMessage b json sock).1 = .error e ∧ Printable e.text ∧
      (e.kind = .eofError ∧ CutOff sock.incoming ∨ e.kind = .protocolError) := by
  have hclosed : Printable "connection closed while receiving a protocol frame" :=
    printable_ofList.2 (by decide)
  by_cases hheader : HEADER_SIZE ≤ sock.incoming.length
  swap
  · obtain ⟨chunks, hfirst⟩ := recvExact_of_lt sock HEADER_SIZE (not_le.1 hheader)
    rw [receiveMessage, hfirst]
    exact ⟨_, rfl, hclosed, .inl ⟨rfl, .inl (not_le.1 hheader)⟩⟩
  obtain ⟨chunks, hfirst⟩ := recvExact_of_le sock HEADER_SIZE hheader
  rw [receiveMessage, hfirst]
  by_cases hallowed : unpackLength (sock.incoming.take HEADER_SIZE) = 0 ∨
      MAX_FRAME_BYTES < unpackLength (sock.incoming.take HEADER_SIZE)
  · simp only [if_pos hallowed]
    exact ⟨_, rfl, printable_append.2 ⟨printable_ofList.2 (by decide), printable_toString _⟩,
      .inr rfl⟩
  simp only [if_neg hallowed]
  rw [not_or, not_lt] at hallowed
  by_cases hbody : unpackLength (sock.incoming.take HEADER_SIZE) ≤
      (sock.incoming.drop HEADER_SIZE).length
  · refine absurd ?_ (h ((sock.incoming.drop HEADER_SIZE).take
      (unpackLength (sock.incoming.take HEADER_SIZE))))
    refine ⟨sock.incoming.take HEADER_SIZE, (sock.incoming.drop HEADER_SIZE).drop
      (unpackLength (sock.incoming.take HEADER_SIZE)), ?_, ?_, ?_⟩
    · rw [List.append_assoc, List.take_append_drop, List.take_append_drop]
    · rw [List.length_take, min_eq_left hheader]
    · rw [List.length_take, min_eq_left hbody]
      exact ⟨rfl, hallowed⟩
  · obtain ⟨chunks', hsecond⟩ := recvExact_of_lt
      { incoming := sock.incoming.drop HEADER_SIZE, chunks := chunks } _ (not_le.1 hbody)
    rw [hsecond]
    refine ⟨_, rfl, hclosed, .inl ⟨rfl, .inr ⟨hallowed.1, hallowed.2, ?_⟩⟩⟩
    rw [List.length_drop] at hbody
    omega

theorem receiveMessage_cut (json : Json) {payload : List UInt8} (hne : payload.length ≠ 0)
    (hmax : payload.length ≤ MAX_FRAME_BYTES) {cut : ℕ}
    (hcut : cut < (packLength payload.length ++ payload).length) (chunks : List ℕ) :
    ∃ chunks', receiveMessage b json
        { incoming := (packLength payload.length ++ payload).take cut, chunks := chunks } =
      (.error ⟨.eofError, "connection closed while receiving a protocol frame"⟩,
        { incoming := [], chunks := chunks' }) := by
  have hlength : ((packLength payload.length ++ payload).take cut).length = cut := by
    rw [List.length_take, min_eq_left hcut.le]
  by_cases hshort : cut < HEADER_SIZE
  · obtain ⟨chunks₁, hheader⟩ := recvExact_of_lt
      { incoming := (packLength payload.length ++ payload).take cut, chunks := chunks }
      HEADER_SIZE (by rwa [hlength])
    exact ⟨chunks₁, by rw [receiveMessage, hheader]⟩
  · have hheader_le : HEADER_SIZE ≤ cut := not_lt.1 hshort
    obtain ⟨chunks₁, hheader⟩ := recvExact_of_le
      { incoming := (packLength payload.length ++ payload).take cut, chunks := chunks }
      HEADER_SIZE (by rwa [hlength])
    have htake : ((packLength payload.length ++ payload).take cut).take HEADER_SIZE =
        packLength payload.length := by
      rw [List.take_take, min_eq_left hheader_le]
      exact List.take_left' (length_packLength _)
    have hdrop : (((packLength payload.length ++ payload).take cut).drop HEADER_SIZE).length <
        payload.length := by
      rw [List.length_append, length_packLength] at hcut
      rw [List.length_drop, hlength, HEADER_SIZE]
      omega
    simp only [htake] at hheader
    obtain ⟨chunks₂, hbody⟩ := recvExact_of_lt
      { incoming := ((packLength payload.length ++ payload).take cut).drop HEADER_SIZE
        chunks := chunks₁ } payload.length hdrop
    refine ⟨chunks₂, ?_⟩
    rw [receiveMessage, hheader]
    simp only [unpackLength_header hmax]
    rw [if_neg (not_or.2 ⟨hne, hmax.not_gt⟩), hbody]

/-- The frames of the messages are received one after the other, up to what follows. -/
theorem receiveMessages_frames (hjson : json.RoundTrips) {messages : List Message}
    {frames : List (List UInt8)} (hsendable : ∀ message ∈ messages, message.Sendable)
    (hframes : List.Forall₂ (fun message frame => encodeMessage json message = .ok frame)
      messages frames) (n : ℕ) (rest : List UInt8) (chunks : List ℕ) :
    ∃ chunks', receiveMessages b json (messages.length + n)
        { incoming := frames.flatten ++ rest, chunks := chunks } =
      (let (more, e, sock) := receiveMessages b json n { incoming := rest, chunks := chunks' }
       (messages ++ more, e, sock)) := by
  induction hframes generalizing chunks with
  | nil =>
      refine ⟨chunks, ?_⟩
      simp
  | cons hframe _ ih =>
      rename_i message frame messages frames _
      obtain ⟨payload, rfl, hne, hmax, hdecode⟩ := encodeMessage_eq_ok b hjson
        (hsendable message List.mem_cons_self) hframe
      obtain ⟨chunks₁, hreceive⟩ := receiveMessage_frame b json hne hmax
        (frames.flatten ++ rest) chunks
      obtain ⟨chunks₂, hmore⟩ := ih
        (fun other hother => hsendable other (List.mem_cons_of_mem message hother)) chunks₁
      refine ⟨chunks₂, ?_⟩
      have hcount : (message :: messages).length + n = (messages.length + n) + 1 := by
        rw [List.length_cons]
        omega
      rw [hcount, List.flatten_cons, List.append_assoc, receiveMessages, hreceive, hdecode]
      simp only [hmore, List.cons_append]

/-- **The wire format.** However the frames arrive, the messages are received in order and
every byte is consumed; if the stream ends inside a frame, the messages before it are
received and then `EOFError` is raised. The records that travel in the payloads are
recovered from their dictionaries. -/
theorem wire_round_trip (hjson : json.RoundTrips) {messages : List Message}
    {frames : List (List UInt8)} (hsendable : ∀ message ∈ messages, message.Sendable)
    (hframes : List.Forall₂ (fun message frame => encodeMessage json message = .ok frame)
      messages frames) :
    (∀ chunks, ∃ chunks', receiveMessages b json messages.length
      { incoming := frames.flatten, chunks := chunks } =
        (messages, none, { incoming := [], chunks := chunks' })) ∧
    (∀ before frame after, frames = before ++ frame :: after → ∀ cut < frame.length,
      ∀ n chunks, ∃ chunks', receiveMessages b json (before.length + (n + 1))
        { incoming := before.flatten ++ frame.take cut, chunks := chunks } =
          (messages.take before.length,
            some ⟨.eofError, "connection closed while receiving a protocol frame"⟩,
            { incoming := [], chunks := chunks' })) ∧
    (∀ task : TaskRecord, task.postInit = .ok task →
      TaskRecord.fromDict b (.dict task.toDict) = .ok task) ∧
    (∀ status : WorkerStatus, status.postInit = .ok status →
      WorkerStatus.fromDict b status.toDict = .ok status) ∧
    (∀ payload : RegisterPayload, payload.p2pEndpoint.postInit = .ok payload.p2pEndpoint →
      payload.postInit = .ok payload →
        RegisterPayload.fromDict b payload.toDict = .ok payload) := by
  refine ⟨fun chunks => ?_, fun before frame after hsplit cut hcut n chunks => ?_,
    fun task => TaskRecord.fromDict_toDict b, fun status => WorkerStatus.fromDict_toDict b,
    fun payload => RegisterPayload.fromDict_toDict b⟩
  · obtain ⟨chunks', hall⟩ := receiveMessages_frames b hjson hsendable hframes 0 [] chunks
    refine ⟨chunks', ?_⟩
    rw [List.append_nil, Nat.add_zero] at hall
    rw [hall, receiveMessages]
    simp
  · subst hsplit
    obtain ⟨received, lost, hbefore, hlost, rfl⟩ :
        ∃ received lost, List.Forall₂ (fun message frame => encodeMessage json message = .ok frame)
          received before ∧ List.Forall₂ (fun message frame =>
            encodeMessage json message = .ok frame) lost (frame :: after) ∧
          messages = received ++ lost := by
      refine ⟨_, _, List.forall₂_take_append messages before (frame :: after) hframes,
        List.forall₂_drop_append messages before (frame :: after) hframes, ?_⟩
      rw [List.take_append_drop]
    have hlength : received.length = before.length := hbefore.length_eq
    cases hlost with
    | cons hframe _ =>
        rename_i message rest _
        obtain ⟨payload, rfl, hne, hmax, _⟩ := encodeMessage_eq_ok b hjson
          (hsendable message (by simp)) hframe
        obtain ⟨chunks₁, hall⟩ := receiveMessages_frames b hjson
          (fun other hother => hsendable other (List.mem_append_left _ hother)) hbefore (n + 1)
          ((packLength payload.length ++ payload).take cut) chunks
        obtain ⟨chunks₂, heof⟩ := receiveMessage_cut b json hne hmax hcut chunks₁
        refine ⟨chunks₂, ?_⟩
        rw [hlength] at hall
        rw [hall, receiveMessages, heof, ← hlength, List.take_left]
        simp

end

def terminate : Message where
  messageType := .TERMINATE
  senderId := "master"
  requestId := "r1"
  logicalClock := .finite 3

/-- A text in parts, as it is on the wire. -/
def ascii (parts : List String) : List UInt8 :=
  parts.flatMap fun part => part.toList.map fun character => UInt8.ofNat character.toNat

def terminateText : List UInt8 := ascii
  ["\x7b\"version\":1,\"type\":\"TERMINATE\",\"sender_id\":\"master\",",
    "\"request_id\":\"r1\",\"logical_clock\":3.0,\"payload\":\x7b\x7d\x7d"]

def terminateJson : Json where
  dumps
    | .dict [("version", .int 1), ("type", .str "TERMINATE"), ("sender_id", .str "master"),
        ("request_id", .str "r1"), ("logical_clock", .float (.finite q)),
        ("payload", .dict [])] => if q = 3 then some terminateText else none
    | _ => none
  loads text := if text = terminateText then .ok (.dict terminate.toDict) else .error .invalid

/-- Two messages arrive in chunks of seven bytes or less; the second one is cut. -/
theorem wire_round_trip_terminate :
    ∃ frame, encodeMessage terminateJson terminate = .ok frame ∧
      ∃ chunks', receiveMessages Builtins.plain
          terminateJson 2 { incoming := frame ++ frame.take 50, chunks := List.replicate 40 7 } =
        ([terminate], some ⟨.eofError, "connection closed while receiving a protocol frame"⟩,
          { incoming := [], chunks := chunks' }) := by
  have hjson : terminateJson.RoundTrips := by
    intro v text _ hdumps
    simp only [terminateJson] at hdumps ⊢
    split at hdumps
    · split_ifs at hdumps with hq
      cases hdumps
      rw [if_pos rfl, hq]
      rfl
    · cases hdumps
  have hsendable : terminate.Sendable := ⟨rfl, ⟨3, rfl⟩, .dict [] List.nodup_nil (by simp)⟩
  have hencode : encodeMessage terminateJson terminate =
      .ok (packLength terminateText.length ++ terminateText) := by decide +kernel
  refine ⟨_, hencode, ?_⟩
  have hboth : ∀ message ∈ [terminate, terminate], message.Sendable := by simp [hsendable]
  obtain ⟨_, hcut, _⟩ := wire_round_trip Builtins.plain hjson
    hboth (.cons hencode (.cons hencode .nil))
  have hlast := hcut [packLength terminateText.length ++ terminateText]
    (packLength terminateText.length ++ terminateText) [] rfl 50 (by decide +kernel) 0
    (List.replicate 40 7)
  simpa using hlast

end KVStore
