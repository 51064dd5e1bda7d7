import KVStore.Library.Transition
import Mathlib.Data.List.Basic
import Mathlib.Data.List.Flatten
import Mathlib.Data.List.Forall2
import Mathlib.Tactic.Linarith

/-!
# Messages over a byte stream

Several threads write to one connection and one thread reads from it. A message is written as
a frame, under a lock, in pieces of any size. The reader collects the bytes of a frame in
chunks of any size, and knows from those it has how many it still needs; so it never reads
beyond the frame. The connection can break: of the bytes on their way a first part still
arrives, nothing more can be written, and then the reader is told that the stream has ended.

What is received is at any time a prefix of what was sent, in the order of the lock, and it
is all of it when no byte is left on the way.
-/

namespace Pipe

/-- What the reader knows from the bytes of a frame that it has. -/
inductive Progress (μ ε : Type*)
  | more (n : ℕ)
  | complete (message : μ)
  | invalid (e : ε)

/-- `encode` is `none` if the message is refused before anything is written, and `eof` is what
the reader is told at the end of the stream. -/
structure Codec (β μ ε : Type*) where
  encode : μ → Option (List β)
  progress : List β → Progress μ ε
  eof : ε

variable {τ β μ ε : Type*}

/-- Inside the frame the reader asks for some of the bytes that it still has, and with all of
them the reader has the message. -/
structure Codec.Delimits (c : Codec β μ ε) (message : μ) (frame : List β) : Prop where
  ne_nil : frame ≠ []
  more : ∀ before after, frame = before ++ after → after ≠ [] →
    ∃ n, c.progress before = .more n ∧ 0 < n ∧ n ≤ after.length
  complete : c.progress frame = .complete message

/-- `writing` is the thread that has the lock with the rest of its frame, `flight` are the
bytes on their way and `collected` those that the reader has of the next frame. `sent` are the
messages whose frames were begun, in order, and `received` those that the reader has made. -/
structure State (τ β μ ε : Type*) where
  writing : Option (τ × List β) := none
  flight : List β := []
  collected : List β := []
  broken : Bool := false
  ended : Option ε := none
  sent : List μ := []
  received : List μ := []

/-- `cut n` breaks the connection, and `n` bytes of those on their way still arrive. -/
inductive Action (τ μ : Type*)
  | start (t : τ) (message : μ)
  | write (t : τ) (n : ℕ)
  | fail (t : τ)
  | recv (n : ℕ)
  | eof
  | cut (n : ℕ)

namespace State

def unwritten (s : State τ β μ ε) : List β :=
  match s.writing with
  | none => []
  | some (_, rest) => rest

/-- The thread takes the lock; a message that cannot be encoded leaves nothing behind. -/
def start (c : Codec β μ ε) (s : State τ β μ ε) (t : τ) (message : μ) :
    Option (State τ β μ ε) :=
  if s.writing.isNone then
    match c.encode message with
    | none => some s
    | some frame => some { s with writing := some (t, frame), sent := s.sent ++ [message] }
  else
    none

def write [DecidableEq τ] (s : State τ β μ ε) (t : τ) (n : ℕ) : Option (State τ β μ ε) :=
  match s.writing with
  | none => none
  | some (u, rest) =>
      if u = t ∧ s.broken = false ∧ 0 < n ∧ n ≤ rest.length then
        some { s with
          writing := if n = rest.length then none else some (u, rest.drop n)
          flight := s.flight ++ rest.take n }
      else
        none

/-- The rest of the frame cannot be written. -/
def fail [DecidableEq τ] (s : State τ β μ ε) (t : τ) : Option (State τ β μ ε) :=
  match s.writing with
  | none => none
  | some (u, _) => if u = t then some { s with writing := none, broken := true } else none

def recv (c : Codec β μ ε) (s : State τ β μ ε) (n : ℕ) : Option (State τ β μ ε) :=
  match s.ended, c.progress s.collected with
  | none, .more needed =>
      if 0 < n ∧ n ≤ needed ∧ n ≤ s.flight.length then
        let collected := s.collected ++ s.flight.take n
        match c.progress collected with
        | .more _ => some { s with flight := s.flight.drop n, collected := collected }
        | .complete message =>
            some { s with
              flight := s.flight.drop n
              collected := []
              received := s.received ++ [message] }
        | .invalid e =>
            some { s with flight := s.flight.drop n, collected := collected, ended := some e }
      else
        none
  | _, _ => none

def eof (c : Codec β μ ε) (s : State τ β μ ε) : Option (State τ β μ ε) :=
  if s.ended.isNone ∧ s.broken = true ∧ s.flight.isEmpty then
    some { s with ended := some c.eof }
  else
    none

def step [DecidableEq τ] (c : Codec β μ ε) (s : State τ β μ ε) :
    Action τ μ → Option (State τ β μ ε)
  | .start t message => s.start c t message
  | .write t n => s.write t n
  | .fail t => s.fail t
  | .recv n => s.recv c n
  | .eof => s.eof c
  | .cut n => some { s with broken := true, flight := s.flight.take n }

/-! ### The bytes of the pending messages -/

/-- The frames of the messages that were not received yet, and where their bytes are: the
reader is inside the first of them, and it is told of nothing but the end of a broken
stream. -/
structure Intact (c : Codec β μ ε) (s : State τ β μ ε) (pending : List μ)
    (frames : List (List β)) : Prop where
  sent : s.sent = s.received ++ pending
  delimits : List.Forall₂ c.Delimits pending frames
  bytes : s.broken = false → s.collected ++ s.flight ++ s.unwritten = frames.flatten
  arriving : s.collected ++ s.flight <+: frames.flatten
  inside : s.collected = [] ∨
    ∃ frame rest, frames = frame :: rest ∧ s.collected.length < frame.length
  ended : s.ended = none ∨ s.ended = some c.eof ∧ s.broken = true
  writing : ∀ t rest, s.writing = some (t, rest) → rest ≠ []

section

variable {c : Codec β μ ε} {s s' : State τ β μ ε} {pending : List μ} {frames : List (List β)}
  {message : μ} {frame : List β}

theorem Intact.exists_frame (h : s.Intact c pending frames) (hflight : s.flight ≠ []) :
    ∃ message messages frame others after, pending = message :: messages ∧
      frames = frame :: others ∧ frame = s.collected ++ after ∧ after ≠ [] ∧
      c.Delimits message frame ∧ List.Forall₂ c.Delimits messages others ∧
      s.flight <+: after ++ others.flatten := by
  cases hframes : frames with
  | nil =>
      -- without a frame no byte can be on its way
      have harriving := h.arriving
      rw [hframes, List.flatten_nil, List.prefix_nil, List.append_eq_nil_iff] at harriving
      exact absurd harriving.2 hflight
  | cons frame others =>
      have hdelimits := h.delimits
      rw [hframes] at hdelimits
      cases hdelimits with
      | cons hframe hothers =>
          rename_i message messages
          have harriving := h.arriving
          rw [hframes, List.flatten_cons] at harriving
          have hshort : s.collected.length < frame.length := by
            obtain hnil | ⟨frame', others', heq, hlt⟩ := h.inside
            · rw [hnil]
              exact List.length_pos_of_ne_nil hframe.ne_nil
            · rw [hframes] at heq
              cases heq
              exact hlt
          have hprefix : s.collected <+: frame :=
            List.prefix_of_prefix_length_le ((List.prefix_append _ _).trans harriving)
              (List.prefix_append _ _) hshort.le
          obtain ⟨after, hafter⟩ := hprefix
          refine ⟨message, messages, frame, others, after, rfl, rfl, hafter.symm, ?_, hframe,
            hothers, ?_⟩
          · rintro rfl
            rw [List.append_nil] at hafter
            rw [hafter] at hshort
            exact lt_irrefl _ hshort
          · rw [← hafter, List.append_assoc] at harriving
            exact (List.prefix_append_right_inj _).1 harriving

theorem Intact.start (h : s.Intact c pending frames) {t : τ}
    (hmessage : ∀ frame, c.encode message = some frame → c.Delimits message frame)
    (hstep : s.start c t message = some s') :
    ∃ pending' frames', s'.Intact c pending' frames' := by
  unfold State.start at hstep
  split_ifs at hstep with hfree
  rw [Option.isNone_iff_eq_none] at hfree
  split at hstep
  · cases hstep
    exact ⟨pending, frames, h⟩
  · rename_i frame hencode
    cases hstep
    have hdelimits := hmessage frame hencode
    refine ⟨pending ++ [message], frames ++ [frame], ?_, ?_, ?_, ?_, ?_, h.ended, ?_⟩
    · rw [h.sent, List.append_assoc]
    · exact List.rel_append h.delimits (.cons hdelimits .nil)
    · intro hwhole
      have hbytes := h.bytes hwhole
      rw [unwritten, hfree, List.append_nil] at hbytes
      rw [List.flatten_append, ← hbytes, List.flatten_singleton]
      rfl
    · rw [List.flatten_append]
      exact h.arriving.trans (List.prefix_append _ _)
    · obtain hnil | ⟨first, rest, rfl, hlt⟩ := h.inside
      · exact .inl hnil
      · exact .inr ⟨first, rest ++ [frame], List.cons_append, hlt⟩
    · intro u rest hwriting
      cases hwriting
      exact hdelimits.ne_nil

theorem Intact.write [DecidableEq τ] (h : s.Intact c pending frames) {t : τ} {n : ℕ}
    (hstep : s.write t n = some s') : s'.Intact c pending frames := by
  unfold State.write at hstep
  split at hstep
  · cases hstep
  rename_i u rest hwriting
  split_ifs at hstep with hpiece hlast
  all_goals cases hstep
  all_goals obtain ⟨_, hwhole, hpos, hle⟩ := hpiece
  all_goals have hbytes := h.bytes hwhole
  all_goals rw [unwritten, hwriting] at hbytes
  · -- the last piece of the frame
    have htake : rest.take n = rest := List.take_of_length_le hlast.ge
    have hall : s.collected ++ (s.flight ++ rest.take n) = frames.flatten := by
      rw [htake, ← hbytes, List.append_assoc]
    refine ⟨h.sent, h.delimits, fun _ => ?_, ?_, h.inside, h.ended, ?_⟩
    · rw [unwritten, List.append_nil]
      exact hall
    · exact hall ▸ List.prefix_rfl
    · intro v other hv
      cases hv
  · have hall : s.collected ++ (s.flight ++ rest.take n) ++ rest.drop n = frames.flatten := by
      rw [← hbytes]
      simp only [List.append_assoc, List.take_append_drop]
    refine ⟨h.sent, h.delimits, fun _ => hall, ?_, h.inside, h.ended, ?_⟩
    · exact hall ▸ List.prefix_append _ _
    · intro v other hv
      cases hv
      intro hnil
      have hlength := congrArg List.length hnil
      rw [List.length_drop, List.length_nil] at hlength
      omega

theorem Intact.fail [DecidableEq τ] (h : s.Intact c pending frames) {t : τ}
    (hstep : s.fail t = some s') : s'.Intact c pending frames := by
  unfold State.fail at hstep
  split at hstep
  · cases hstep
  split_ifs at hstep
  cases hstep
  refine ⟨h.sent, h.delimits, fun hwhole => absurd hwhole (by simp), h.arriving, h.inside, ?_, ?_⟩
  · exact h.ended.imp id fun hended => ⟨hended.1, rfl⟩
  · intro u other hu
    cases hu

theorem Intact.cut (h : s.Intact c pending frames) (n : ℕ) :
    { s with broken := true, flight := s.flight.take n }.Intact c pending frames := by
  refine ⟨h.sent, h.delimits, fun hwhole => absurd hwhole (by simp), ?_, h.inside, ?_, h.writing⟩
  · refine List.IsPrefix.trans ?_ h.arriving
    exact (List.prefix_append_right_inj _).2 (List.take_prefix _ _)
  · exact h.ended.imp id fun hended => ⟨hended.1, rfl⟩

theorem Intact.eof (h : s.Intact c pending frames) (hstep : s.eof c = some s') :
    s'.Intact c pending frames := by
  unfold State.eof at hstep
  split_ifs at hstep with hcut
  cases hstep
  exact ⟨h.sent, h.delimits, h.bytes, h.arriving, h.inside, .inr ⟨rfl, hcut.2.1⟩, h.writing⟩

/-- A chunk is a part of what the reader's frame still has; with all of it the message is
made. -/
theorem Intact.recv (h : s.Intact c pending frames) {n : ℕ} (hstep : s.recv c n = some s') :
    (s'.Intact c pending frames ∧ s'.received = s.received) ∨
      ∃ message messages frame others, pending = message :: messages ∧
        frames = frame :: others ∧ s'.Intact c messages others ∧
        s'.received = s.received ++ [message] := by
  unfold State.recv at hstep
  split at hstep
  swap
  · cases hstep
  rename_i needed hended hneeded
  split_ifs at hstep with hchunk
  obtain ⟨hpos, hle, hflight⟩ := hchunk
  have hne : s.flight ≠ [] := by
    intro hnil
    rw [hnil, List.length_nil] at hflight
    omega
  obtain ⟨message, messages, frame, others, after, rfl, rfl, hframe, hafter, hdelimits, hothers,
    hcoming⟩ := h.exists_frame hne
  obtain ⟨needed', hneeded', _, hle'⟩ := hdelimits.more _ _ hframe hafter
  rw [hneeded] at hneeded'
  cases hneeded'
  -- the chunk is the first part of what the frame still has
  have hchunk : s.flight.take n = after.take n := by
    obtain ⟨rest, hrest⟩ := hcoming
    have htake := congrArg (List.take n) hrest
    rw [List.take_append_of_le_length hflight,
      List.take_append_of_le_length (hle.trans hle')] at htake
    exact htake
  have hsplit : frame = s.collected ++ s.flight.take n ++ after.drop n := by
    rw [hchunk, List.append_assoc, List.take_append_drop, hframe]
  have hbytes : s.collected ++ s.flight.take n ++ s.flight.drop n = s.collected ++ s.flight := by
    rw [List.append_assoc, List.take_append_drop]
  dsimp only at hstep
  by_cases hall : after.drop n = []
  · rw [hall, List.append_nil] at hsplit
    rw [← hsplit, hdelimits.complete] at hstep
    cases hstep
    rw [← hsplit] at hbytes
    refine .inr ⟨message, messages, frame, others, rfl, rfl, ?_, rfl⟩
    refine ⟨?_, hothers, ?_, ?_, .inl rfl, .inl hended, h.writing⟩
    · rw [h.sent, List.append_assoc, List.singleton_append]
    · intro hwhole
      have hold := h.bytes hwhole
      rw [← hbytes, List.flatten_cons, List.append_assoc] at hold
      exact List.append_cancel_left hold
    · have hold := h.arriving
      rw [← hbytes, List.flatten_cons] at hold
      exact (List.prefix_append_right_inj _).1 hold
  · obtain ⟨more, hmore, _⟩ := hdelimits.more _ _ hsplit hall
    rw [hmore] at hstep
    cases hstep
    refine .inl ⟨⟨h.sent, h.delimits, ?_, ?_, ?_, .inl hended, h.writing⟩, rfl⟩
    · intro hwhole
      rw [← h.bytes hwhole, ← hbytes]
      rfl
    · rw [hbytes]
      exact h.arriving
    · refine .inr ⟨frame, others, rfl, ?_⟩
      change (s.collected ++ s.flight.take n).length < frame.length
      have hmissing := List.length_pos_of_ne_nil hall
      have hlength := congrArg List.length hsplit
      rw [List.length_append] at hlength
      omega

/-! ### Runs -/

/-- Some frames account for all that was sent and not received. -/
def Whole (c : Codec β μ ε) (s : State τ β μ ε) : Prop :=
  ∃ pending frames, s.Intact c pending frames

theorem whole_init (c : Codec β μ ε) : ({} : State τ β μ ε).Whole c := by
  refine ⟨[], [], rfl, .nil, fun _ => rfl, List.prefix_rfl, .inl rfl, .inl rfl, ?_⟩
  intro t rest hwriting
  cases hwriting

/-- What has been received was sent, in that order and each message once; nothing else ever
ends the reader than the end of a broken stream. -/
theorem Whole.received_isPrefix (h : s.Whole c) :
    s.received <+: s.sent ∧ (s.ended = none ∨ s.ended = some c.eof ∧ s.broken = true) := by
  obtain ⟨pending, frames, h⟩ := h
  rw [h.sent]
  exact ⟨List.prefix_append _ _, h.ended⟩

theorem Whole.received_eq_sent (h : s.Whole c) (hwhole : s.broken = false)
    (hwriting : s.writing = none) (hflight : s.flight = []) : s.received = s.sent := by
  obtain ⟨pending, frames, h⟩ := h
  have hbytes := h.bytes hwhole
  rw [unwritten, hwriting, hflight, List.append_nil, List.append_nil] at hbytes
  cases hframes : frames with
  | nil =>
      have hdelimits := h.delimits
      rw [hframes] at hdelimits
      rw [h.sent, List.forall₂_nil_right_iff.1 hdelimits, List.append_nil]
  | cons frame others =>
      -- the reader would have all of the frame that it is in
      have hdelimits := h.delimits
      rw [hframes] at hdelimits
      cases hdelimits with
      | cons hframe _ =>
          rw [hframes, List.flatten_cons] at hbytes
          obtain hnil | ⟨frame', others', heq, hlt⟩ := h.inside
          · rw [hnil] at hbytes
            have hempty := (List.append_eq_nil_iff.1 hbytes.symm).1
            exact absurd hempty hframe.ne_nil
          · rw [hframes] at heq
            cases heq
            rw [hbytes, List.length_append] at hlt
            omega

/-- The frame of a message that a thread starts to send is read back as the message. -/
def Readable (c : Codec β μ ε) : Action τ μ → Prop
  | .start _ message => ∀ frame, c.encode message = some frame → c.Delimits message frame
  | _ => True

variable [DecidableEq τ]

theorem whole_step {a : Action τ μ} (h : s.Whole c) (ha : Readable c a)
    (hstep : step c s a = some s') : s'.Whole c := by
  obtain ⟨pending, frames, h⟩ := h
  cases a with
  | start t message => exact h.start ha hstep
  | write t n => exact ⟨_, _, h.write hstep⟩
  | fail t => exact ⟨_, _, h.fail hstep⟩
  | recv n =>
      obtain ⟨hsame, _⟩ | ⟨_, messages, _, others, _, _, hnext, _⟩ := h.recv hstep
      · exact ⟨_, _, hsame⟩
      · exact ⟨messages, others, hnext⟩
  | eof => exact ⟨_, _, h.eof hstep⟩
  | cut n =>
      cases hstep
      exact ⟨_, _, h.cut n⟩

theorem whole_run {actions : List (Action τ μ)} (h : s.Whole c)
    (hactions : ∀ a ∈ actions, Readable c a)
    (hrun : Transition.run (step c) s actions = some s') : s'.Whole c :=
  Transition.invariant_along (fun _ _ _ h ha hstep => whole_step h ha hstep) h
    (Transition.along_of_forall s actions fun _ => hactions) hrun

/-! ### What is on its way arrives -/

/-- A piece is written or a chunk is read. -/
def IsTransfer : Action τ μ → Prop
  | .write _ _ => True
  | .recv _ => True
  | _ => False

/-- A byte that is not written yet has two ways to go. -/
def load (s : State τ β μ ε) : ℕ := 2 * s.unwritten.length + s.flight.length

theorem load_write {t : τ} {n : ℕ} (hstep : s.write t n = some s') :
    s'.load < s.load ∧ s'.sent = s.sent ∧ s'.broken = s.broken := by
  unfold State.write at hstep
  split at hstep
  · cases hstep
  rename_i u rest hwriting
  split_ifs at hstep with hpiece hlast
  all_goals cases hstep
  all_goals refine ⟨?_, rfl, rfl⟩
  all_goals rw [load, load, unwritten, unwritten, hwriting]
  all_goals simp only [List.length_append, List.length_take, List.length_drop, List.length_nil]
  all_goals omega

omit [DecidableEq τ] in
theorem load_recv {n : ℕ} (hstep : s.recv c n = some s') :
    s'.load < s.load ∧ s'.sent = s.sent ∧ s'.broken = s.broken := by
  unfold State.recv at hstep
  split at hstep
  swap
  · cases hstep
  split_ifs at hstep with hchunk
  dsimp only at hstep
  split at hstep
  all_goals cases hstep
  all_goals refine ⟨?_, rfl, rfl⟩
  all_goals change 2 * s.unwritten.length + (s.flight.drop n).length < _
  all_goals rw [load, List.length_drop]
  all_goals omega

theorem load_step {a : Action τ μ} (ha : IsTransfer a) (hstep : step c s a = some s') :
    s'.load < s.load ∧ s'.sent = s.sent ∧ s'.broken = s.broken := by
  cases a with
  | write t n => exact load_write hstep
  | recv n => exact load_recv hstep
  | start t message => exact ha.elim
  | fail t => exact ha.elim
  | eof => exact ha.elim
  | cut n => exact ha.elim

theorem Whole.received_of_stuck (h : s.Whole c) (hwhole : s.broken = false)
    (hstuck : ∀ a : Action τ μ, IsTransfer a → step c s a = none) : s.received = s.sent := by
  have hwriting : s.writing = none := by
    cases hwriting : s.writing with
    | none => rfl
    | some held =>
        obtain ⟨t, rest⟩ := held
        obtain ⟨_, _, hintact⟩ := h
        have hlength := List.length_pos_of_ne_nil (hintact.writing t rest hwriting)
        have hnone := hstuck (.write t 1) trivial
        rw [step, State.write, hwriting] at hnone
        simp only [hwhole, Nat.one_pos, true_and] at hnone
        rw [if_pos (Nat.succ_le_of_lt hlength)] at hnone
        cases hnone
  refine h.received_eq_sent hwhole hwriting ?_
  by_contra hflight
  obtain ⟨pending, frames, hintact⟩ := h
  obtain ⟨_, _, _, _, after, _, _, hframe, hafter, hdelimits, _⟩ := hintact.exists_frame hflight
  obtain ⟨needed, hneeded, hpos, _⟩ := hdelimits.more _ _ hframe hafter
  have hended : s.ended = none := by
    obtain hended | ⟨_, hbroken⟩ := hintact.ended
    · exact hended
    · rw [hwhole] at hbroken
      cases hbroken
  have hnone := hstuck (.recv 1) trivial
  rw [step, State.recv, hended, hneeded] at hnone
  simp only [Nat.one_pos, true_and] at hnone
  rw [if_pos ⟨hpos, List.length_pos_of_ne_nil hflight⟩] at hnone
  split at hnone <;> cases hnone

theorem step_eq_none_of_idle (hwriting : s.writing = none) (hflight : s.flight = [])
    {a : Action τ μ} (ha : IsTransfer a) : step c s a = none := by
  cases a with
  | write t n => rw [step, State.write, hwriting]
  | recv n =>
      rw [step, State.recv]
      split
      · rw [if_neg]
        rw [hflight, List.length_nil]
        omega
      · rfl
  | start t message => exact ha.elim
  | fail t => exact ha.elim
  | eof => exact ha.elim
  | cut n => exact ha.elim

/-- Transfers come to an end, and when none is possible any more all has been received. -/
theorem Whole.drains (h : s.Whole c) (hwhole : s.broken = false) {actions : List (Action τ μ)}
    (hactions : ∀ a ∈ actions, IsTransfer a)
    (hrun : Transition.run (step c) s actions = some s') :
    actions.length ≤ s.load ∧ s'.sent = s.sent ∧
      ((∀ a : Action τ μ, IsTransfer a → step c s' a = none) → s'.received = s.sent) := by
  suffices hloads : actions.length + s'.load ≤ s.load ∧ s'.sent = s.sent ∧ s'.broken = false by
    obtain ⟨hle, hsent, hwhole'⟩ := hloads
    refine ⟨by omega, hsent, fun hstuck => ?_⟩
    have hreadable : ∀ a ∈ actions, Readable c a := by
      intro a ha
      have htransfer := hactions a ha
      cases a with
      | start t message => exact htransfer.elim
      | _ => trivial
    rw [← hsent]
    exact (whole_run h hreadable hrun).received_of_stuck hwhole' hstuck
  clear h
  induction actions generalizing s with
  | nil =>
      cases hrun
      exact ⟨by rw [List.length_nil, zero_add], rfl, hwhole⟩
  | cons a actions ih =>
      obtain ⟨u, hu, hut⟩ := Transition.run_cons_eq_some_iff.1 hrun
      obtain ⟨hless, hsent, hbroken⟩ := load_step (hactions a List.mem_cons_self) hu
      obtain ⟨hle, hsent', hbroken'⟩ := ih (hbroken.trans hwhole)
        (fun b hb => hactions b (List.mem_cons_of_mem a hb)) hut
      refine ⟨?_, hsent'.trans hsent, hbroken'⟩
      rw [List.length_cons]
      omega

end

end State

end Pipe
