import KVStore.Common.Protocol
import KVStore.Library.Pipe

/-!
# A connection, byte by byte

The receiver, the processor, the P2P server and the monitor of a worker all send to the Master,
each in a `sendall` under the send lock; the Master's distributor sends to the worker in the
same way. `receive_message` on the other side takes what `recv` returns. After an `OSError` of
`sendall` the connection is lost: the sockets have no timeout by then.

Whatever the threads, the pieces and the chunks are, whole messages arrive in the order of the
lock, up to the point where the connection breaks.
-/

namespace KVStore

open Python Framing Pipe

def connectionClosed : PyError :=
  ⟨.eofError, "connection closed while receiving a protocol frame"⟩

/-- Where `receive_message` stands with the bytes that it has received: how many it asks `recv`
for next, or how it ends. -/
def frameProgress (b : Builtins) (json : Json) (received : List UInt8) :
    Progress Message PyError :=
  if received.length < HEADER_SIZE then
    .more (HEADER_SIZE - received.length)
  else
    let payloadSize := unpackLength (received.take HEADER_SIZE)
    if payloadSize = 0 ∨ MAX_FRAME_BYTES < payloadSize then
      .invalid ⟨.protocolError, "invalid frame size: " ++ toString payloadSize⟩
    else if received.length < HEADER_SIZE + payloadSize then
      .more (HEADER_SIZE + payloadSize - received.length)
    else
      match decodeMessage b json ((received.drop HEADER_SIZE).take payloadSize) with
      | .ok message => .complete message
      | .error e => .invalid e

/-- A message is made, encoded and written. -/
def messageCodec (b : Builtins) (json : Json) : Codec UInt8 Message PyError where
  encode message := (message.postInit >>= encodeMessage json).toOption
  progress := frameProgress b json
  eof := connectionClosed

/-- Its clock is finite and its payload is JSON-native. -/
structure Message.Native (message : Message) : Prop where
  clock : ∃ q, message.logicalClock = .finite q
  payload : Value.JsonNative (.dict message.payload)

section

variable (b : Builtins) {json : Json} {message : Message} {frame : List UInt8}

/-- Read in steps or at once, the bytes are the same message. -/
theorem receiveMessage_eq_frameProgress (json : Json) (sock : Socket) :
    (receiveMessage b json sock).1 =
      match frameProgress b json sock.incoming with
      | .more _ => .error connectionClosed
      | .complete message => .ok message
      | .invalid e => .error e := by
  unfold frameProgress
  by_cases hheader : sock.incoming.length < HEADER_SIZE
  · obtain ⟨chunks, hfirst⟩ := recvExact_of_lt sock HEADER_SIZE hheader
    rw [if_pos hheader, receiveMessage, hfirst]
    rfl
  rw [if_neg hheader]
  rw [not_lt] at hheader
  obtain ⟨chunks, hfirst⟩ := recvExact_of_le sock HEADER_SIZE hheader
  rw [receiveMessage, hfirst]
  dsimp only
  by_cases hallowed : unpackLength (sock.incoming.take HEADER_SIZE) = 0 ∨
      MAX_FRAME_BYTES < unpackLength (sock.incoming.take HEADER_SIZE)
  · rw [if_pos hallowed, if_pos hallowed]
  rw [if_neg hallowed, if_neg hallowed]
  by_cases hbody : sock.incoming.length <
      HEADER_SIZE + unpackLength (sock.incoming.take HEADER_SIZE)
  · obtain ⟨chunks', hsecond⟩ := recvExact_of_lt
      { incoming := sock.incoming.drop HEADER_SIZE, chunks := chunks }
      (unpackLength (sock.incoming.take HEADER_SIZE)) (by
        rw [List.length_drop]
        omega)
    rw [if_pos hbody, hsecond]
    rfl
  · obtain ⟨chunks', hsecond⟩ := recvExact_of_le
      { incoming := sock.incoming.drop HEADER_SIZE, chunks := chunks }
      (unpackLength (sock.incoming.take HEADER_SIZE)) (by
        rw [List.length_drop]
        omega)
    rw [if_neg hbody, hsecond]
    dsimp only
    cases decodeMessage b json ((sock.incoming.drop HEADER_SIZE).take
      (unpackLength (sock.incoming.take HEADER_SIZE))) <;> rfl

/-- Inside a frame `receive_message` never asks for more than the frame still has. -/
theorem frameProgress_inside (json : Json) {payload before after : List UInt8}
    (hne : payload.length ≠ 0) (hmax : payload.length ≤ MAX_FRAME_BYTES)
    (hframe : packLength payload.length ++ payload = before ++ after) (hafter : after ≠ []) :
    ∃ n, frameProgress b json before = .more n ∧ 0 < n ∧ n ≤ after.length := by
  have hpos := List.length_pos_of_ne_nil hafter
  have hlength := congrArg List.length hframe
  rw [List.length_append, List.length_append, length_packLength] at hlength
  unfold frameProgress
  by_cases hheader : before.length < HEADER_SIZE
  · rw [if_pos hheader]
    refine ⟨_, rfl, by omega, ?_⟩
    rw [HEADER_SIZE]
    omega
  rw [if_neg hheader]
  rw [not_lt] at hheader
  have htake : before.take HEADER_SIZE = packLength payload.length := by
    have hboth := congrArg (List.take HEADER_SIZE) hframe
    rw [List.take_append_of_le_length hheader] at hboth
    rw [← hboth]
    exact List.take_left' (length_packLength _)
  dsimp only
  rw [htake, unpackLength_header hmax, if_neg (not_or.2 ⟨hne, hmax.not_gt⟩), HEADER_SIZE,
    if_pos (by omega)]
  exact ⟨_, rfl, by omega, by omega⟩

theorem delimits_frame (hjson : json.RoundTrips) (hnative : message.Native)
    (h : (messageCodec b json).encode message = some frame) :
    (messageCodec b json).Delimits message frame := by
  have hencode : ∃ made, message.postInit = .ok made ∧ encodeMessage json made = .ok frame := by
    simp only [messageCodec] at h
    cases hmade : message.postInit with
    | error e =>
        rw [hmade] at h
        cases h
    | ok made =>
        rw [hmade] at h
        change (encodeMessage json made).toOption = some frame at h
        refine ⟨made, rfl, ?_⟩
        cases hframe : encodeMessage json made with
        | error e =>
            rw [hframe] at h
            cases h
        | ok bytes =>
            rw [hframe] at h
            cases h
            rfl
  obtain ⟨made, hmade, hencode⟩ := hencode
  have hsame : made = message := by
    unfold Message.postInit at hmade
    split_ifs at hmade
    cases hmade
    rfl
  subst hsame
  obtain ⟨payload, rfl, hne, hmax, hdecode⟩ :=
    encodeMessage_eq_ok b hjson ⟨hmade, hnative.clock, hnative.payload⟩ hencode
  refine ⟨?_, fun before after hframe hafter =>
    frameProgress_inside b json hne hmax hframe hafter, ?_⟩
  · intro hnil
    have hlength := congrArg List.length hnil
    rw [List.length_append, length_packLength, List.length_nil] at hlength
    omega
  · have htake : (packLength payload.length ++ payload).take HEADER_SIZE =
        packLength payload.length := List.take_left' (length_packLength _)
    have hdrop : (packLength payload.length ++ payload).drop HEADER_SIZE = payload :=
      List.drop_left' (length_packLength _)
    change frameProgress b json (packLength payload.length ++ payload) = _
    rw [frameProgress, htake, hdrop, unpackLength_header hmax, List.length_append,
      length_packLength, if_neg (by rw [HEADER_SIZE]; omega)]
    dsimp only
    rw [if_neg (not_or.2 ⟨hne, hmax.not_gt⟩), if_neg (by rw [HEADER_SIZE]; omega),
      List.take_length, hdecode]

end

end KVStore
