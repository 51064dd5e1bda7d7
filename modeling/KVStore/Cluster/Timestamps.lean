import KVStore.Common.Clock
import KVStore.Library.Transition
import Mathlib.Data.Finset.Insert
import Mathlib.Tactic.Linarith

/-!
# Logical time on the messages

A thread that sends a message advances the clock of its node, reads it, builds the message
and writes it to the socket; the clock may move between any two of these steps, because
other threads use it too and nodes may share it. The Master and the worker send on their
connection under a lock. `REGISTER` and the answer to a failed registration are sent
without it, by the only thread that knows the socket, so that they too have the
connection for themselves. P2P messages are sent without a lock.

The state records what was sent, and what each node had observed at each of the steps of a
send.
-/

namespace KVStore

inductive Party
  | master
  | worker (w : WorkerId)
deriving DecidableEq

inductive Channel
  | toWorker (w : WorkerId)
  | toMaster (w : WorkerId)
  | peer (sender receiver : WorkerId)
deriving DecidableEq

namespace Channel

def sender : Channel → Party
  | .toWorker _ => .master
  | .toMaster w => .worker w
  | .peer w _ => .worker w

def receiver : Channel → Party
  | .toWorker w => .worker w
  | .toMaster _ => .master
  | .peer _ w => .worker w

/-- Only one thread at a time sends on the channel. -/
def exclusive : Channel → Bool
  | .toWorker _ => true
  | .toMaster _ => true
  | .peer _ _ => false

end Channel

/-- Messages are numbered in the order in which they are sent. -/
abbrev MessageNumber := ℕ

/-- A message that was sent, with the messages that its sender had observed when it
advanced the clock, when it read the clock and when it wrote to the socket. -/
structure SentMessage where
  channel : Channel
  timestamp : ℚ
  knownAtAdvance : Finset MessageNumber
  knownAtRead : Finset MessageNumber
  knownAtSend : Finset MessageNumber
deriving DecidableEq

/-- Where a thread stands in a send. -/
inductive Position
  | idle
  | started (channel : Channel)
  | advanced (channel : Channel) (known : Finset MessageNumber)
  | stamped (channel : Channel) (known seen : Finset MessageNumber) (timestamp : ℚ)
deriving DecidableEq

structure ThreadId where
  party : Party
  index : ℕ
deriving DecidableEq

/-- The clocks, where each thread stands, which thread has a channel for itself, what was
sent and what each party has observed. -/
structure Timeline where
  clocks : ℕ → LogicalClock
  threads : ThreadId → Position := fun _ => .idle
  holder : Channel → Option ThreadId := fun _ => none
  sent : List SentMessage := []
  observed : Party → Finset MessageNumber := fun _ => ∅

namespace Timeline

inductive Action
  | start (t : ThreadId) (channel : Channel)
  | advance (t : ThreadId)
  | read (t : ThreadId)
  | send (t : ThreadId)
  | fail (t : ThreadId)
  | observe (t : ThreadId) (k : MessageNumber)
  | elapse (t : ThreadId) (seconds : ℚ)
deriving DecidableEq

def setThread (s : Timeline) (t : ThreadId) (position : Position) : Timeline :=
  { s with threads := Function.update s.threads t position }

def release (s : Timeline) (channel : Channel) : Timeline :=
  { s with holder := Function.update s.holder channel none }

section

-- Which clock a party uses; several parties may share one.
variable (clockOf : Party → ℕ)

def now (s : Timeline) (p : Party) : ℚ := (s.clocks (clockOf p)).read

def setClock (s : Timeline) (p : Party) (clock : LogicalClock) : Timeline :=
  { s with clocks := Function.update s.clocks (clockOf p) clock }

def startSend (s : Timeline) (t : ThreadId) (channel : Channel) : Option Timeline :=
  if s.threads t = .idle ∧ channel.sender = t.party ∧
      (channel.exclusive = true → s.holder channel = none) then
    some { s.setThread t (.started channel) with
      holder := if channel.exclusive = true then Function.update s.holder channel (some t)
        else s.holder }
  else
    none

/-- `clock.advance(COMMUNICATION_DELAY_SECONDS)` -/
def advanceClock (s : Timeline) (t : ThreadId) : Option Timeline :=
  match s.threads t, (s.clocks (clockOf t.party)).advance COMMUNICATION_DELAY_SECONDS with
  | .started channel, .ok clock =>
      some ((s.setClock clockOf t.party clock).setThread t
        (.advanced channel (s.observed t.party)))
  | _, _ => none

/-- The message is built with `logical_clock=self.clock.read()`. -/
def readClock (s : Timeline) (t : ThreadId) : Option Timeline :=
  match s.threads t with
  | .advanced channel known =>
      some (s.setThread t
        (.stamped channel known (s.observed t.party) (s.now clockOf t.party)))
  | _ => none

/-- The message is written to the socket and the lock is released. -/
def send (s : Timeline) (t : ThreadId) : Option Timeline :=
  match s.threads t with
  | .stamped channel known seen timestamp =>
      some { (s.setThread t .idle).release channel with
        sent := s.sent ++ [⟨channel, timestamp, known, seen, s.observed t.party⟩] }
  | _ => none

def fail (s : Timeline) (t : ThreadId) : Option Timeline :=
  match s.threads t with
  | .stamped channel _ _ _ => some ((s.setThread t .idle).release channel)
  | _ => none

/-- `clock.observe(message.logical_clock)` for a message that was received. -/
def observe (s : Timeline) (t : ThreadId) (k : MessageNumber) : Option Timeline :=
  (s.sent[k]?).bind fun message =>
    if s.threads t = .idle ∧ message.channel.receiver = t.party then
      match (s.clocks (clockOf t.party)).observe message.timestamp with
      | .ok clock =>
          some { s.setClock clockOf t.party clock with
            observed := Function.update s.observed t.party (insert k (s.observed t.party)) }
      | .error _ => none
    else
      none

/-- `clock.advance` for the time that processing or waiting takes. -/
def elapse (s : Timeline) (t : ThreadId) (seconds : ℚ) : Option Timeline :=
  if s.threads t = .idle then
    match (s.clocks (clockOf t.party)).advance seconds with
    | .ok clock => some (s.setClock clockOf t.party clock)
    | .error _ => some s
  else
    none

def step (s : Timeline) : Action → Option Timeline
  | .start t channel => s.startSend t channel
  | .advance t => s.advanceClock clockOf t
  | .read t => s.readClock clockOf t
  | .send t => s.send t
  | .fail t => s.fail t
  | .observe t k => s.observe clockOf t k
  | .elapse t seconds => s.elapse clockOf t seconds

end

def timestampOf (s : Timeline) (k : MessageNumber) : ℚ :=
  ((s.sent[k]?).map SentMessage.timestamp).getD 0

/-- The messages of one channel, in the order in which they were sent. -/
def sentOn (s : Timeline) (channel : Channel) : List SentMessage :=
  s.sent.filter fun message => message.channel = channel

/-- Each message of the list was sent, and its sender knew of the one before it. -/
def Chain (s : Timeline) (known : SentMessage → Finset MessageNumber) :
    List MessageNumber → Prop :=
  List.IsChain fun j k => ∃ message ∈ s.sent[k]?, j ∈ known message

instance (s : Timeline) (known : SentMessage → Finset MessageNumber) (ks : List MessageNumber) :
    Decidable (s.Chain known ks) :=
  inferInstanceAs (Decidable (List.IsChain (fun j k => ∃ message ∈ s.sent[k]?, j ∈ known message)
    ks))

/-! ### What holds in every state -/

/-- The thread has the channel for itself, if the channel is exclusive. -/
def Holds (s : Timeline) (t : ThreadId) (channel : Channel) : Prop :=
  channel.sender = t.party ∧ (channel.exclusive = true → s.holder channel = some t)

/-- `bound` is late enough for a message on the channel that follows those sent on it. -/
def Follows (s : Timeline) (channel : Channel) (bound : ℚ) : Prop :=
  channel.exclusive = true →
    ∀ message ∈ s.sentOn channel, message.timestamp + COMMUNICATION_DELAY_SECONDS ≤ bound

/-- `bound` is late enough for a message that is sent after those in `known`. -/
def Succeeds (s : Timeline) (known : Finset MessageNumber) (bound : ℚ) : Prop :=
  ∀ k ∈ known, s.timestampOf k + COMMUNICATION_DELAY_SECONDS ≤ bound

/-- What a thread in the middle of a send can rely on. -/
def Fine (clockOf : Party → ℕ) (s : Timeline) (t : ThreadId) : Position → Prop
  | .idle => True
  | .started channel => s.Holds t channel
  | .advanced channel known => s.Holds t channel ∧ known ⊆ s.observed t.party ∧
      s.Follows channel (s.now clockOf t.party) ∧ s.Succeeds known (s.now clockOf t.party)
  | .stamped channel known seen timestamp => s.Holds t channel ∧
      known ⊆ seen ∧ seen ⊆ s.observed t.party ∧
      s.Follows channel timestamp ∧ s.Succeeds known timestamp ∧
      (∀ k ∈ seen, s.timestampOf k ≤ timestamp) ∧ timestamp ≤ s.now clockOf t.party

/-- The invariant. -/
structure Ordered (clockOf : Party → ℕ) (s : Timeline) : Prop where
  fine : ∀ t, s.Fine clockOf t (s.threads t)
  observed_lt : ∀ p, ∀ k ∈ s.observed p, k < s.sent.length
  observed_le : ∀ p, ∀ k ∈ s.observed p, s.timestampOf k ≤ s.now clockOf p
  sent_le : ∀ message ∈ s.sent, message.timestamp ≤ s.now clockOf message.channel.sender
  known_subset : ∀ message ∈ s.sent, message.knownAtAdvance ⊆ message.knownAtRead
  known_lt : ∀ message ∈ s.sent, ∀ k ∈ message.knownAtRead, k < s.sent.length
  succeeds : ∀ message ∈ s.sent, s.Succeeds message.knownAtAdvance message.timestamp
  read_le : ∀ message ∈ s.sent, ∀ k ∈ message.knownAtRead, s.timestampOf k ≤ message.timestamp
  spaced : ∀ channel, channel.exclusive = true → (s.sentOn channel).Pairwise fun a b =>
    a.timestamp + COMMUNICATION_DELAY_SECONDS ≤ b.timestamp

section

variable {clockOf : Party → ℕ} {s s' : Timeline} {t u : ThreadId} {channel : Channel}

/-- What a step of the thread `u` leaves the other threads. -/
structure Later (clockOf : Party → ℕ) (u : ThreadId) (s s' : Timeline) : Prop where
  now_le : ∀ p, s.now clockOf p ≤ s'.now clockOf p
  observed : ∀ p, s.observed p ⊆ s'.observed p
  timestampOf : ∀ k < s.sent.length, s'.timestampOf k = s.timestampOf k
  holder : ∀ t ≠ u, ∀ channel, channel.exclusive = true →
    s.holder channel = some t → s'.holder channel = some t
  sentOn : ∀ t ≠ u, ∀ channel, channel.exclusive = true →
    s.holder channel = some t → s'.sentOn channel = s.sentOn channel

theorem Holds.later (h : s.Holds t channel) (hlater : Later clockOf u s s') (htu : t ≠ u) :
    s'.Holds t channel :=
  ⟨h.1, fun hexclusive => hlater.holder t htu channel hexclusive (h.2 hexclusive)⟩

theorem Follows.later {bound bound' : ℚ} (h : s.Follows channel bound)
    (hholds : s.Holds t channel) (hlater : Later clockOf u s s') (htu : t ≠ u)
    (hbound : bound ≤ bound') : s'.Follows channel bound' := by
  intro hexclusive message hmessage
  rw [hlater.sentOn t htu channel hexclusive (hholds.2 hexclusive)] at hmessage
  exact (h hexclusive message hmessage).trans hbound

theorem Succeeds.later {known : Finset MessageNumber} {bound bound' : ℚ}
    (h : s.Succeeds known bound) (hknown : ∀ k ∈ known, k < s.sent.length)
    (hlater : Later clockOf u s s') (hbound : bound ≤ bound') : s'.Succeeds known bound' := by
  intro k hk
  rw [hlater.timestampOf k (hknown k hk)]
  exact (h k hk).trans hbound

theorem Fine.later {position : Position} (h : s.Fine clockOf t position)
    (hlt : ∀ k ∈ s.observed t.party, k < s.sent.length) (hlater : Later clockOf u s s')
    (htu : t ≠ u) : s'.Fine clockOf t position := by
  have hnow := hlater.now_le t.party
  have hobserved := hlater.observed t.party
  cases position with
  | idle => trivial
  | started channel => exact Holds.later h hlater htu
  | advanced channel known =>
      obtain ⟨hholds, hknown, hfollows, hsucceeds⟩ := h
      exact ⟨hholds.later hlater htu, hknown.trans hobserved,
        hfollows.later hholds hlater htu hnow,
        hsucceeds.later (fun k hk => hlt k (hknown hk)) hlater hnow⟩
  | stamped channel known seen timestamp =>
      obtain ⟨hholds, hknown, hseen, hfollows, hsucceeds, hread, hstamp⟩ := h
      refine ⟨hholds.later hlater htu, hknown, hseen.trans hobserved,
        hfollows.later hholds hlater htu le_rfl,
        hsucceeds.later (fun k hk => hlt k (hseen (hknown hk))) hlater le_rfl,
        fun k hk => ?_, hstamp.trans hnow⟩
      rw [hlater.timestampOf k (hlt k (hseen hk))]
      exact hread k hk

theorem now_setClock_self (s : Timeline) (p : Party) (clock : LogicalClock) :
    (s.setClock clockOf p clock).now clockOf p = clock.read := by
  simp only [now, setClock, Function.update_self]

theorem now_le_setClock {p : Party} {clock : LogicalClock}
    (h : s.now clockOf p ≤ clock.read) (q : Party) :
    s.now clockOf q ≤ (s.setClock clockOf p clock).now clockOf q := by
  simp only [now, setClock]
  by_cases hq : clockOf q = clockOf p
  · rw [hq, Function.update_self]
    exact h
  · rw [Function.update_of_ne hq]

/-- The parts of the invariant that only speak of what was sent hold on, and the rest as
well when the clocks go forward and the thread that moved is fine. -/
theorem Ordered.same_sent (h : s.Ordered clockOf) (hlater : Later clockOf u s s')
    (hsent : s'.sent = s.sent) (hthreads : ∀ t ≠ u, s'.threads t = s.threads t)
    (hfine : s'.Fine clockOf u (s'.threads u))
    (hobserved : ∀ p, ∀ k ∈ s'.observed p, k ∈ s.observed p ∨
      (k < s.sent.length ∧ s.timestampOf k ≤ s'.now clockOf p)) : s'.Ordered clockOf := by
  have hstamp : ∀ k, s'.timestampOf k = s.timestampOf k := fun k => by
    rw [timestampOf, hsent, timestampOf]
  have hon : ∀ channel, s'.sentOn channel = s.sentOn channel := fun channel => by
    rw [sentOn, hsent, sentOn]
  refine ⟨fun t => ?_, fun p k hk => ?_, fun p k hk => ?_, fun message hmessage => ?_,
    ?_, ?_, fun message hmessage k hk => ?_, fun message hmessage k hk => ?_,
    fun channel hexclusive => ?_⟩
  · by_cases htu : t = u
    · rw [htu]
      exact hfine
    · rw [hthreads t htu]
      exact (h.fine t).later (h.observed_lt t.party) hlater htu
  · rw [hsent]
    rcases hobserved p k hk with hold | ⟨hlt, _⟩
    · exact h.observed_lt p k hold
    · exact hlt
  · rw [hstamp]
    rcases hobserved p k hk with hold | ⟨_, hle⟩
    · exact (h.observed_le p k hold).trans (hlater.now_le p)
    · exact hle
  · rw [hsent] at hmessage
    exact (h.sent_le message hmessage).trans (hlater.now_le _)
  · rw [hsent]
    exact h.known_subset
  · rw [hsent]
    exact h.known_lt
  · rw [hsent] at hmessage
    rw [hstamp]
    exact h.succeeds message hmessage k hk
  · rw [hsent] at hmessage
    rw [hstamp]
    exact h.read_le message hmessage k hk
  · rw [hon]
    exact h.spaced channel hexclusive

theorem ordered_startSend (h : s.Ordered clockOf) (hstep : s.startSend t channel = some s') :
    s'.Ordered clockOf := by
  unfold startSend at hstep
  split at hstep
  swap
  · cases hstep
  rename_i hguard
  cases hstep
  obtain ⟨_, hsender, hfree⟩ := hguard
  have hlater : Later clockOf t s { s.setThread t (.started channel) with
      holder := if channel.exclusive = true then Function.update s.holder channel (some t)
        else s.holder } := by
    refine ⟨fun _ => le_rfl, fun _ => subset_rfl, fun _ _ => rfl, fun u _ other hother hu => ?_,
      fun _ _ _ _ _ => rfl⟩
    change (if channel.exclusive = true then Function.update s.holder channel (some t)
        else s.holder) other = some u
    split_ifs with hexclusive
    · have hne : other ≠ channel := by
        rintro rfl
        rw [hfree hexclusive] at hu
        cases hu
      rw [Function.update_of_ne hne]
      exact hu
    · exact hu
  refine h.same_sent hlater rfl (fun u hu => Function.update_of_ne hu _ _) ?_
    (fun _ _ hk => .inl hk)
  change Fine _ _ _ (Function.update s.threads t (.started channel) t)
  rw [Function.update_self]
  refine ⟨hsender, fun hexclusive => ?_⟩
  change (if channel.exclusive = true then Function.update s.holder channel (some t)
      else s.holder) channel = some t
  rw [if_pos hexclusive, Function.update_self]

theorem ordered_advanceClock (h : s.Ordered clockOf)
    (hstep : s.advanceClock clockOf t = some s') : s'.Ordered clockOf := by
  unfold advanceClock at hstep
  split at hstep
  · rename_i channel clock hthread hclock
    cases hstep
    obtain ⟨_, hread⟩ := LogicalClock.read_advance hclock
    have hnow : s.now clockOf t.party ≤ clock.read := LogicalClock.read_le_advance hclock
    have hlater : Later clockOf t s ((s.setClock clockOf t.party clock).setThread t
        (.advanced channel (s.observed t.party))) :=
      ⟨now_le_setClock hnow, fun _ => subset_rfl, fun _ _ => rfl, fun _ _ _ _ hu => hu,
        fun _ _ _ _ _ => rfl⟩
    refine h.same_sent hlater rfl (fun u hu => Function.update_of_ne hu _ _) ?_
      (fun _ _ hk => .inl hk)
    change Fine _ _ _ (Function.update s.threads t (.advanced channel (s.observed t.party)) t)
    rw [Function.update_self]
    have hholds : s.Holds t channel := by
      have hfine := h.fine t
      rw [hthread] at hfine
      exact hfine
    have hself : now clockOf ((s.setClock clockOf t.party clock).setThread t
        (.advanced channel (s.observed t.party))) t.party =
          s.now clockOf t.party + COMMUNICATION_DELAY_SECONDS :=
      (now_setClock_self s t.party clock).trans hread
    refine ⟨hholds, subset_rfl, fun _ message hmessage => ?_, fun k hk => ?_⟩
    · obtain ⟨hsent, hchannel⟩ := List.mem_filter.1 hmessage
      have hle := h.sent_le message hsent
      rw [of_decide_eq_true hchannel, hholds.1] at hle
      rw [hself]
      exact add_le_add hle le_rfl
    · rw [hself]
      exact add_le_add (h.observed_le t.party k hk) le_rfl
  · cases hstep

theorem ordered_readClock (h : s.Ordered clockOf) (hstep : s.readClock clockOf t = some s') :
    s'.Ordered clockOf := by
  unfold readClock at hstep
  split at hstep
  · rename_i channel known hthread
    cases hstep
    have hfine := h.fine t
    rw [hthread] at hfine
    obtain ⟨hholds, hknown, hfollows, hsucceeds⟩ := hfine
    have hlater : Later clockOf t s (s.setThread t
        (.stamped channel known (s.observed t.party) (s.now clockOf t.party))) :=
      ⟨fun _ => le_rfl, fun _ => subset_rfl, fun _ _ => rfl, fun _ _ _ _ hu => hu,
        fun _ _ _ _ _ => rfl⟩
    refine h.same_sent hlater rfl (fun u hu => Function.update_of_ne hu _ _) ?_
      (fun _ _ hk => .inl hk)
    change Fine _ _ _ (Function.update s.threads t
      (.stamped channel known (s.observed t.party) (s.now clockOf t.party)) t)
    rw [Function.update_self]
    exact ⟨hholds, hknown, subset_rfl, hfollows, hsucceeds,
      fun k hk => h.observed_le t.party k hk, le_rfl⟩
  · cases hstep

theorem holder_release (hholds : s.Holds t channel) (hut : u ≠ t) {other : Channel}
    (hother : other.exclusive = true) (hu : s.holder other = some u) :
    (Function.update s.holder channel none) other = some u := by
  have hne : other ≠ channel := by
    rintro rfl
    rw [hholds.2 hother] at hu
    exact hut (Option.some.inj hu).symm
  rw [Function.update_of_ne hne]
  exact hu

theorem ordered_fail (h : s.Ordered clockOf) (hstep : s.fail t = some s') :
    s'.Ordered clockOf := by
  unfold fail at hstep
  split at hstep
  · rename_i channel known seen timestamp hthread
    cases hstep
    have hfine := h.fine t
    rw [hthread] at hfine
    have hlater : Later clockOf t s ((s.setThread t .idle).release channel) :=
      ⟨fun _ => le_rfl, fun _ => subset_rfl, fun _ _ => rfl,
        fun u hu other hother hheld => holder_release hfine.1 hu hother hheld,
        fun _ _ _ _ _ => rfl⟩
    refine h.same_sent hlater rfl (fun u hu => Function.update_of_ne hu _ _) ?_
      (fun _ _ hk => .inl hk)
    change Fine _ _ _ (Function.update s.threads t .idle t)
    rw [Function.update_self]
    trivial
  · cases hstep

theorem ordered_observe (h : s.Ordered clockOf) {k : MessageNumber}
    (hstep : s.observe clockOf t k = some s') : s'.Ordered clockOf := by
  obtain ⟨message, hmessage, hstep⟩ := Option.bind_eq_some_iff.1 hstep
  split at hstep
  swap
  · cases hstep
  rename_i hguard
  split at hstep
  · rename_i clock hclock
    cases hstep
    have hread := LogicalClock.read_observe hclock
    have hlater : Later clockOf t s { s.setClock clockOf t.party clock with
        observed := Function.update s.observed t.party (insert k (s.observed t.party)) } := by
      refine ⟨now_le_setClock (LogicalClock.read_le_observe hclock), fun p => ?_,
        fun _ _ => rfl, fun _ _ _ _ hu => hu, fun _ _ _ _ _ => rfl⟩
      change s.observed p ⊆ Function.update s.observed t.party (insert k (s.observed t.party)) p
      by_cases hp : p = t.party
      · rw [hp, Function.update_self]
        exact Finset.subset_insert _ _
      · rw [Function.update_of_ne hp]
    refine h.same_sent hlater rfl (fun _ _ => rfl) ?_ (fun p j hj => ?_)
    · change Fine _ _ _ (s.threads t)
      rw [hguard.1]
      trivial
    · change j ∈ Function.update s.observed t.party (insert k (s.observed t.party)) p at hj
      by_cases hp : p = t.party
      · rw [hp, Function.update_self] at hj
        rcases Finset.mem_insert.1 hj with rfl | hold
        · refine .inr ⟨(List.getElem?_eq_some_iff.1 hmessage).1, ?_⟩
          have hself : now clockOf { s.setClock clockOf t.party clock with
              observed := Function.update s.observed t.party (insert j (s.observed t.party)) }
                t.party = max (s.now clockOf t.party) message.timestamp :=
            (now_setClock_self s t.party clock).trans hread
          rw [hp, hself, timestampOf, hmessage]
          exact le_max_right _ _
        · rw [hp]
          exact .inl hold
      · rw [Function.update_of_ne hp] at hj
        exact .inl hj
  · cases hstep

theorem ordered_elapse (h : s.Ordered clockOf) {seconds : ℚ}
    (hstep : s.elapse clockOf t seconds = some s') : s'.Ordered clockOf := by
  unfold elapse at hstep
  split at hstep
  swap
  · cases hstep
  rename_i hidle
  split at hstep
  · rename_i clock hclock
    cases hstep
    have hlater : Later clockOf t s (s.setClock clockOf t.party clock) :=
      ⟨now_le_setClock (LogicalClock.read_le_advance hclock), fun _ => subset_rfl,
        fun _ _ => rfl, fun _ _ _ _ hu => hu, fun _ _ _ _ _ => rfl⟩
    refine h.same_sent hlater rfl (fun _ _ => rfl) ?_ (fun _ _ hk => .inl hk)
    change Fine _ _ _ (s.threads t)
    rw [hidle]
    trivial
  · cases hstep
    exact h

theorem timestampOf_append (s : Timeline) {message : SentMessage} {k : MessageNumber}
    (hk : k < s.sent.length) (hsent : s'.sent = s.sent ++ [message]) :
    s'.timestampOf k = s.timestampOf k := by
  rw [timestampOf, hsent, List.getElem?_append_left hk, timestampOf]

theorem sentOn_append (s : Timeline) {message : SentMessage}
    (hsent : s'.sent = s.sent ++ [message]) (channel : Channel) :
    s'.sentOn channel =
      if message.channel = channel then s.sentOn channel ++ [message] else s.sentOn channel := by
  rw [sentOn, hsent, List.filter_append, ← sentOn]
  split_ifs with hchannel
  · simp [hchannel]
  · simp [hchannel]

theorem ordered_send (h : s.Ordered clockOf) (hstep : s.send t = some s') :
    s'.Ordered clockOf := by
  unfold send at hstep
  split at hstep
  swap
  · cases hstep
  rename_i channel known seen timestamp hthread
  have hfine := h.fine t
  rw [hthread] at hfine
  obtain ⟨hholds, hknown, hseen, hfollows, hsucceeds, hread, hstamp⟩ := hfine
  obtain ⟨message, hmessage⟩ : ∃ message : SentMessage,
      message = ⟨channel, timestamp, known, seen, s.observed t.party⟩ := ⟨_, rfl⟩
  rw [← hmessage] at hstep
  have hchannel : message.channel = channel := by rw [hmessage]
  have htimestamp : message.timestamp = timestamp := by rw [hmessage]
  generalize hafter : { (s.setThread t .idle).release channel with
    sent := s.sent ++ [message] } = after at hstep
  cases hstep
  have hsent : s'.sent = s.sent ++ [message] := by rw [← hafter]
  have hlength : s'.sent.length = s.sent.length + 1 := by
    rw [hsent, List.length_append, List.length_singleton]
  have hnow : ∀ p, s'.now clockOf p = s.now clockOf p := by
    rw [← hafter]
    exact fun _ => rfl
  have hobserved : s'.observed = s.observed := by rw [← hafter]; rfl
  have hold : ∀ k < s.sent.length, s'.timestampOf k = s.timestampOf k :=
    fun k hk => timestampOf_append s hk hsent
  have hlater : Later clockOf t s s' := by
    refine ⟨fun p => (hnow p).ge, fun p => (congrFun hobserved p).ge, hold,
      fun u hu other hother hheld => ?_, fun u hu other hother hheld => ?_⟩
    · rw [← hafter]
      exact holder_release hholds hu hother hheld
    · rw [sentOn_append s hsent, if_neg]
      rw [hchannel]
      rintro rfl
      rw [hholds.2 hother] at hheld
      exact hu (Option.some.inj hheld).symm
  have hmem : ∀ other ∈ s'.sent, other ∈ s.sent ∨ other = message := by
    intro other hother
    rw [hsent, List.mem_append, List.mem_singleton] at hother
    exact hother
  refine ⟨fun u => ?_, fun p k hk => ?_, fun p k hk => ?_, fun other hother => ?_,
    fun other hother => ?_, fun other hother k hk => ?_, fun other hother k hk => ?_,
    fun other hother k hk => ?_, fun other hother => ?_⟩
  · by_cases hut : u = t
    · have hthreads : s'.threads u = .idle := by
        rw [← hafter, hut]
        exact Function.update_self t _ s.threads
      rw [hthreads]
      trivial
    · have hthreads : s'.threads u = s.threads u := by
        rw [← hafter]
        exact Function.update_of_ne hut _ s.threads
      rw [hthreads]
      exact (h.fine u).later (h.observed_lt u.party) hlater hut
  · rw [hobserved] at hk
    rw [hlength]
    exact (h.observed_lt p k hk).trans (Nat.lt_succ_self _)
  · rw [hobserved] at hk
    rw [hold k (h.observed_lt p k hk), hnow]
    exact h.observed_le p k hk
  · rw [hnow]
    rcases hmem other hother with hother | rfl
    · exact h.sent_le other hother
    · rw [htimestamp, hchannel, hholds.1]
      exact hstamp
  · rcases hmem other hother with hother | rfl
    · exact h.known_subset other hother
    · rw [hmessage]
      exact hknown
  · rw [hlength]
    rcases hmem other hother with hother | rfl
    · exact (h.known_lt other hother k hk).trans (Nat.lt_succ_self _)
    · rw [hmessage] at hk
      exact (h.observed_lt t.party k (hseen hk)).trans (Nat.lt_succ_self _)
  · rcases hmem other hother with hother | rfl
    · rw [hold k (h.known_lt other hother k (h.known_subset other hother hk))]
      exact h.succeeds other hother k hk
    · rw [htimestamp]
      rw [hmessage] at hk
      rw [hold k (h.observed_lt t.party k (hseen (hknown hk)))]
      exact hsucceeds k hk
  · rcases hmem other hother with hother | rfl
    · rw [hold k (h.known_lt other hother k hk)]
      exact h.read_le other hother k hk
    · rw [htimestamp]
      rw [hmessage] at hk
      rw [hold k (h.observed_lt t.party k (hseen hk))]
      exact hread k hk
  · rw [sentOn_append s hsent]
    split_ifs with hsame
    · refine List.pairwise_append.2 ⟨h.spaced other hother, List.pairwise_singleton _ _, ?_⟩
      intro a ha b hb
      rw [List.mem_singleton.1 hb, htimestamp]
      rw [hchannel] at hsame
      subst hsame
      exact hfollows hother a ha
    · exact h.spaced other hother

theorem ordered_step (h : s.Ordered clockOf) {a : Action} (hstep : step clockOf s a = some s') :
    s'.Ordered clockOf := by
  cases a with
  | start t channel => exact ordered_startSend h hstep
  | advance t => exact ordered_advanceClock h hstep
  | read t => exact ordered_readClock h hstep
  | send t => exact ordered_send h hstep
  | fail t => exact ordered_fail h hstep
  | observe t k => exact ordered_observe h hstep
  | elapse t seconds => exact ordered_elapse h hstep

theorem now_le_step {a : Action} (hstep : step clockOf s a = some s') (p : Party) :
    s.now clockOf p ≤ s'.now clockOf p := by
  cases a with
  | start t channel =>
      rw [step, startSend] at hstep
      split at hstep <;> cases hstep
      rfl
  | advance t =>
      rw [step, advanceClock] at hstep
      split at hstep
      · rename_i hclock
        cases hstep
        exact now_le_setClock (LogicalClock.read_le_advance hclock) p
      · cases hstep
  | read t =>
      rw [step, readClock] at hstep
      split at hstep <;> cases hstep
      rfl
  | send t =>
      rw [step, send] at hstep
      split at hstep <;> cases hstep
      rfl
  | fail t =>
      rw [step, fail] at hstep
      split at hstep <;> cases hstep
      rfl
  | observe t k =>
      obtain ⟨message, _, hstep⟩ := Option.bind_eq_some_iff.1 hstep
      split at hstep
      swap
      · cases hstep
      split at hstep
      · rename_i hclock
        cases hstep
        exact now_le_setClock (LogicalClock.read_le_observe hclock) p
      · cases hstep
  | elapse t seconds =>
      rw [step, elapse] at hstep
      split at hstep
      swap
      · cases hstep
      split at hstep
      · rename_i hclock
        cases hstep
        exact now_le_setClock (LogicalClock.read_le_advance hclock) p
      · cases hstep
        rfl

theorem now_le_run {acts : List Action} (hrun : Transition.run (step clockOf) s acts = some s')
    (p : Party) : s.now clockOf p ≤ s'.now clockOf p :=
  Transition.relation_run (I := fun _ => True)
    (R := fun s s' => s.now clockOf p ≤ s'.now clockOf p) (fun _ => le_rfl)
    (fun _ _ _ => le_trans) (fun _ _ _ _ _ => trivial)
    (fun _ _ _ _ hstep => now_le_step hstep p) trivial hrun

theorem ordered_start (clocks : ℕ → LogicalClock) : Ordered clockOf { clocks } := by
  refine ⟨fun _ => trivial, ?_, ?_, ?_, ?_, ?_, ?_, ?_, ?_⟩
  · intro p k hk
    exact absurd hk (Finset.notMem_empty k)
  · intro p k hk
    exact absurd hk (Finset.notMem_empty k)
  all_goals
    intro message hmessage
    try cases hmessage
  exact List.Pairwise.nil

theorem ordered_run {clocks : ℕ → LogicalClock} {acts : List Action}
    (hrun : Transition.run (step clockOf) { clocks } acts = some s) : s.Ordered clockOf :=
  Transition.invariant_run (fun _ _ _ h hstep => ordered_step h hstep) (ordered_start clocks) hrun

/-- A chain in which each message knew the one before it when its timestamp was made up. -/
theorem le_of_chain (known : SentMessage → Finset MessageNumber) (delay : ℚ)
    (hlink : ∀ message ∈ s.sent, ∀ k ∈ known message,
      s.timestampOf k + delay ≤ message.timestamp)
    (first : MessageNumber) (rest : List MessageNumber) (hchain : s.Chain known (first :: rest)) :
    s.timestampOf first + rest.length * delay ≤
      s.timestampOf ((first :: rest).getLast (List.cons_ne_nil _ _)) := by
  induction rest generalizing first with
  | nil => simp
  | cons k rest ih =>
      obtain ⟨⟨message, hmessage, hknown⟩, hrest⟩ := List.isChain_cons_cons.1 hchain
      have hlast := ih k hrest
      have hstamp : s.timestampOf k = message.timestamp := by
        rw [timestampOf, Option.mem_def.1 hmessage]
        rfl
      have hgain := hlink message (List.mem_of_getElem? hmessage) first hknown
      rw [List.getLast_cons (List.cons_ne_nil k rest), List.length_cons]
      push_cast
      linarith

/-- **The logical clocks.** On one direction of a Master-Worker connection each timestamp is
at least one delay above the one before it; along a chain of messages, each of which is
begun by a node that has observed the one before it, the timestamps grow by a delay each
time; and they do not fall as long as the one before is observed before the clock is read.
The clocks never go back. -/
theorem timestamps_grow (clocks : ℕ → LogicalClock) {acts : List Action}
    (hrun : Transition.run (step clockOf) { clocks } acts = some s) :
    (∀ channel, channel.exclusive = true → (s.sentOn channel).Pairwise fun a b =>
      a.timestamp < b.timestamp ∧ a.timestamp + COMMUNICATION_DELAY_SECONDS ≤ b.timestamp) ∧
    (∀ first rest, s.Chain SentMessage.knownAtAdvance (first :: rest) →
      s.timestampOf first + rest.length * COMMUNICATION_DELAY_SECONDS ≤
        s.timestampOf ((first :: rest).getLast (List.cons_ne_nil _ _))) ∧
    (∀ first rest, s.Chain SentMessage.knownAtRead (first :: rest) →
      s.timestampOf first ≤ s.timestampOf ((first :: rest).getLast (List.cons_ne_nil _ _))) ∧
    (∀ acts₁ acts₂ s₁, acts = acts₁ ++ acts₂ →
      Transition.run (step clockOf) { clocks } acts₁ = some s₁ →
      ∀ p, s₁.now clockOf p ≤ s.now clockOf p) := by
  have hordered : s.Ordered clockOf := ordered_run hrun
  refine ⟨fun channel hexclusive => ?_, fun first rest hchain => ?_,
    fun first rest hchain => ?_, fun acts₁ acts₂ s₁ hacts hrun₁ p => ?_⟩
  · refine (hordered.spaced channel hexclusive).imp fun hspace => ⟨?_, hspace⟩
    exact (lt_add_of_pos_right _ communicationDelay_pos).trans_le hspace
  · exact le_of_chain _ _ hordered.succeeds first rest hchain
  · have hle := le_of_chain SentMessage.knownAtRead 0
      (fun message hmessage k hk => by
        rw [add_zero]
        exact hordered.read_le message hmessage k hk) first rest hchain
    rwa [mul_zero, add_zero] at hle
  · rw [hacts] at hrun
    obtain ⟨s₂, hrun₂, hrest⟩ := Transition.run_append_eq_some_iff.1 hrun
    rw [hrun₁] at hrun₂
    cases hrun₂
    exact now_le_run hrest p

theorem exists_run (clockOf : Party → ℕ) (clocks : ℕ → LogicalClock) (acts : List Action)
    {p : Timeline → Prop} [DecidablePred p]
    (h : (Transition.run (step clockOf) { clocks } acts).any (fun s => decide (p s)) = true) :
    ∃ s, Transition.run (step clockOf) { clocks } acts = some s ∧ p s := by
  obtain ⟨s, hs, hp⟩ := (Option.any_eq_true _ _).1 h
  exact ⟨s, hs, of_decide_eq_true hp⟩

end

/-- The Master and the workers each have a clock of their own. -/
def ownClocks : Party → ℕ
  | .master => 0
  | .worker w => w.length + 1

/-- The thread sends a message on the channel, with nothing in between. -/
def sending (t : ThreadId) (channel : Channel) : List Action :=
  [.start t channel, .advance t, .read t, .send t]

/-- The Master sends two messages to `worker1`, which answers the second one. -/
def answered : List Action :=
  sending ⟨.master, 0⟩ (.toWorker "worker1") ++ sending ⟨.master, 0⟩ (.toWorker "worker1") ++
    [.observe ⟨.worker "worker1", 0⟩ 1] ++ sending ⟨.worker "worker1", 0⟩ (.toMaster "worker1")

theorem timestamps_grow_answered :
    ∃ s, Transition.run (step ownClocks) { clocks := fun _ => {} } answered = some s ∧
      s.Chain SentMessage.knownAtAdvance [1, 2] ∧
      s.timestampOf 1 + (1 : ℕ) * COMMUNICATION_DELAY_SECONDS ≤ s.timestampOf 2 := by
  obtain ⟨s, hrun, hchain⟩ := exists_run ownClocks (fun _ => {}) answered
    (p := fun s => s.Chain SentMessage.knownAtAdvance [1, 2]) (by decide +kernel)
  obtain ⟨_, hgrow, _⟩ := timestamps_grow (fun _ => {}) hrun
  exact ⟨s, hrun, hchain, hgrow 1 [2] hchain⟩

/-- A thread of `worker1` advances the clock; then the receiver thread observes the
message of the Master, and the first thread reads the clock. -/
def interleaved : List Action :=
  sending ⟨.master, 0⟩ (.toWorker "worker1") ++
    [.start ⟨.worker "worker1", 1⟩ (.toMaster "worker1"), .advance ⟨.worker "worker1", 1⟩,
      .observe ⟨.worker "worker1", 0⟩ 0, .read ⟨.worker "worker1", 1⟩,
      .send ⟨.worker "worker1", 1⟩]

/-- The message of `worker1` is sent after it observed the one of the Master, and has the
same timestamp. -/
theorem not_timestamps_grow_interleaved :
    ∃ s, Transition.run (step ownClocks) { clocks := fun _ => {} } interleaved = some s ∧
      s.Chain SentMessage.knownAtSend [0, 1] ∧
      ¬ s.timestampOf 0 + (1 : ℕ) * COMMUNICATION_DELAY_SECONDS ≤ s.timestampOf 1 :=
  exists_run ownClocks (fun _ => {}) interleaved
    (p := fun s => s.Chain SentMessage.knownAtSend [0, 1] ∧
      ¬ s.timestampOf 0 + (1 : ℕ) * COMMUNICATION_DELAY_SECONDS ≤ s.timestampOf 1)
    (by decide +kernel)

end Timeline

end KVStore
