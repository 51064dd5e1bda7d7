import KVStore.Cluster.Provenance
import KVStore.Worker.Shift

/-!
# What a step of the system does to one queue

Every step of the system makes the workers do one step of their own at most.
`Drives` says which one; with it, what is known of the workers' steps is known of the
steps of the system.
-/

namespace KVStore

open HasTaskId

namespace System

/-- The step of the workers that a step of the system is made of. -/
inductive Drives (s : System) : Action → Net.Action → Prop
  | receiveTask (w : WorkerId) (now : ℚ) (message : TaskMessage) (rest : List TaskMessage)
      (decoded : Copy) (hmail : (s.links w).toWorker = message :: rest)
      (hdecoded : message.copy.fromDict = .ok decoded) :
      Drives s (.receiveTask w now) (.enqueue w (decoded.restamp now) message.priority)
  | dequeue (w : WorkerId) : Drives s (.dequeue w) (.dequeue w)
  | sendResult (w : WorkerId) (succeeded : Bool) :
      Drives s (.sendResult w succeeded) (.report w)
  | markDone (w : WorkerId) : Drives s (.markDone w) (.markDone w)
  | balance (w : WorkerId) (requestId : RequestId) (count : ℕ) :
      Drives s (.balance w requestId count) (.balance w requestId count)
  | receiveReply (w : WorkerId) : Drives s (.receiveReply w) (.receive w)
  | serve (w : WorkerId) (requestId : RequestId) (now : ℚ) :
      Drives s (.serve w requestId now) (.serve w requestId now)
  | respond (w : WorkerId) : Drives s (.respond w) (.respond w)
  | giveUp (w : WorkerId) : Drives s (.giveUp w) (.giveUp w)
  | respondFail (w : WorkerId) : Drives s (.respondFail w) (.respondFail w)
  | loseRequest (requestId : RequestId) :
      Drives s (.loseRequest requestId) (.loseRequest requestId)
  | loseReply (requestId : RequestId) : Drives s (.loseReply requestId) (.loseReply requestId)

section

variable {c : Config} {s s' : System} {a : Action} {w : WorkerId}

theorem drives_of_netAction {b : Net.Action} (hb : a.netAction = some b) : s.Drives a b := by
  cases a <;> cases hb <;> constructor

theorem net_step (hstep : step c s a = some s') :
    s'.net = s.net ∨ ∃ b, s.Drives a b ∧ s.net.step c b = some s'.net := by
  cases stepped_of_step hstep with
  | nextAssignment now next => exact .inl (net_assigned s next)
  | answered w now message rest decoded net hmail hdecoded hnet =>
      exact .inr ⟨_, .receiveTask w now message rest decoded hmail hdecoded, hnet⟩
  | refused w now message rest decoded net _ hmail hdecoded hnet =>
      exact .inr ⟨_, .receiveTask w now message rest decoded hmail hdecoded, hnet⟩
  | sendResult w succeeded copy message net _ _ hnet =>
      exact .inr ⟨_, .sendResult w succeeded, hnet⟩
  | moved _ b net hb hnet =>
      rw [net_withDue]
      exact .inr ⟨b, drives_of_netAction hb, hnet⟩
  | _ => exact .inl rfl

/-- What becomes of the copies in the queue of `w`. -/
theorem queued_step (h : s.net.Protocol) (hstep : step c s a = some s') (w : WorkerId) :
    (s'.net.nodes w).queued = (s.net.nodes w).queued ∨
      ∃ b, s.Drives a b ∧ s.net.Shift c w b (s'.net.nodes w).queued := by
  rcases net_step hstep with hsame | ⟨b, hdrives, hnet⟩
  · exact .inl (by rw [hsame])
  · exact .inr ⟨b, hdrives, Net.shift_step h hnet w⟩

end

end System

end KVStore
