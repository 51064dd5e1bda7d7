import KVStore.Common.Refusals

/-!
# How `receive_message` fails

The receive loops catch `EOFError` and `ProtocolError` to tell a bad frame from a crash.
`receptions_declared_iff` says for which streams `receive_message` ends in one of the declared
ways. Two exceptions are in no clause of the decoder: the `OverflowError` of the coercions, and
the `RecursionError` that deep nesting leads to.
-/

namespace KVStore

open Python Except Framing

namespace Reception

/-- The declared ways: a message that satisfies the validators, an `EOFError` if the stream
ends inside the frame, or a `ProtocolError`. -/
def Declared (incoming : List UInt8) : Except PyError Message → Prop
  | .ok message =>
      message.version = PROTOCOL_VERSION ∧ message.senderId ≠ "" ∧ message.requestId ≠ "" ∧
        message.logicalClock.lt (.finite 0) = false
  | .error e => e.kind = .eofError ∧ CutOff incoming ∨ e.kind = .protocolError

variable {b : Builtins} {json : Json} {sock : Socket} {payload incoming : List UInt8}

theorem declared_returned {message : Message} (h : decodeMessage b json payload = .ok message) :
    Declared incoming (.ok message) := by
  have hpost := postInit_of_decodeMessage h
  unfold Message.postInit at hpost
  split_ifs at hpost with hversion hsender hrequest hclock
  exact ⟨not_not.1 hversion, hsender, hrequest, Bool.eq_false_iff.2 hclock⟩

/-- The decoder raises `ProtocolError`, except on a text that is unforeseen. -/
theorem declared_decodeMessage_iff :
    Declared incoming (decodeMessage b json payload) ↔ ¬ json.Unforeseen b payload := by
  constructor
  · intro hdeclared hunforeseen
    have hescape : (decodeMessage b json payload).Escapes (handled [.eofError, .protocolError]) :=
      (escapes_decodeMessage (by simp) (by simp) (by simp)).2 hunforeseen
    obtain ⟨e, he, hescapes⟩ := hescape
    rw [he] at hdeclared
    refine hescapes (mem_handled.2 ?_)
    obtain ⟨heof, _⟩ | hprotocol := hdeclared
    · rw [heof]
      exact List.mem_cons_self
    · rw [hprotocol]
      exact List.mem_cons_of_mem _ List.mem_cons_self
  · intro hforeseen
    cases hdecode : decodeMessage b json payload with
    | ok message => exact declared_returned hdecode
    | error e =>
        have hescape : (decodeMessage b json payload).Escapes
            (handled [.protocolError]) ↔ _ :=
          escapes_decodeMessage (by simp) (by simp) (by simp)
        rw [← hescape, hdecode, escapes_error, not_not, mem_handled,
          List.mem_singleton] at hforeseen
        exact .inr hforeseen

theorem declared_of_holdsFrame (h : HoldsFrame sock.incoming payload) :
    Declared sock.incoming (receiveMessage b json sock).1 ↔ ¬ json.Unforeseen b payload := by
  rw [receiveMessage_of_holdsFrame b json h, declared_decodeMessage_iff]

/-- **Only declared failures.** A call of `receive_message` ends in one of the declared ways
exactly if the stream does not start with a complete frame whose text is unforeseen. -/
theorem receptions_declared_iff (b : Builtins) (json : Json) (sock : Socket) :
    Declared sock.incoming (receiveMessage b json sock).1 ↔
      ¬ ∃ payload, HoldsFrame sock.incoming payload ∧ json.Unforeseen b payload := by
  by_cases hframe : ∃ payload, HoldsFrame sock.incoming payload
  · obtain ⟨payload, hholds⟩ := hframe
    constructor
    · rintro hdeclared ⟨payload', hholds', hunforeseen⟩
      exact (declared_of_holdsFrame hholds').1 hdeclared hunforeseen
    · intro hforeseen
      refine (declared_of_holdsFrame hholds).2 fun hunforeseen => hforeseen ?_
      exact ⟨payload, hholds, hunforeseen⟩
  · obtain ⟨e, hraised, _, hdeclared⟩ :=
      receiveMessage_of_not_holdsFrame b json (not_exists.1 hframe)
    rw [hraised]
    refine iff_of_true hdeclared ?_
    rintro ⟨payload, hholds, _⟩
    exact hframe ⟨payload, hholds⟩

/-- `{"version":Infinity}` -/
def infiniteText : List UInt8 := ascii ["\x7b\"version\":Infinity\x7d"]

def infiniteJson : Json where
  dumps _ := none
  loads text :=
    if text = infiniteText then .ok (.dict [("version", .float (.infinite false))])
    else .error .invalid

/-- On an infinite version the `OverflowError` of `int` leaves `receive_message`. -/
theorem not_receptions_declared_infinite :
    (receiveMessage Builtins.plain infiniteJson
        { incoming := packLength infiniteText.length ++ infiniteText }).1 =
        .error ⟨.overflowError, "cannot convert float infinity to integer"⟩ ∧
      ¬ Declared (packLength infiniteText.length ++ infiniteText)
        (receiveMessage Builtins.plain infiniteJson
          { incoming := packLength infiniteText.length ++ infiniteText }).1 := by
  have hframe : HoldsFrame (packLength infiniteText.length ++ infiniteText) infiniteText :=
    ⟨packLength infiniteText.length, [], (List.append_nil _).symm, rfl, by decide +kernel,
      by decide +kernel, by decide +kernel⟩
  have hraised : (receiveMessage Builtins.plain infiniteJson
      { incoming := packLength infiniteText.length ++ infiniteText }).1 =
        .error ⟨.overflowError, "cannot convert float infinity to integer"⟩ := by
    rw [receiveMessage_of_holdsFrame _ _ hframe]
    rfl
  refine ⟨hraised, ?_⟩
  rw [hraised]
  rintro (⟨heof, _⟩ | hprotocol)
  · cases heof
  · cases hprotocol

end Reception

end KVStore
