import KVStore.Library.Digits
import KVStore.Library.Dict
import KVStore.Library.Lines
import KVStore.Library.Python
import KVStore.Library.Transition
import Mathlib.Algebra.Group.Nat.Defs
import Mathlib.Algebra.Order.Group.Abs

/-!
# The logger

`NodeLogger` writes every line to a file and shows a part of them on the console. Its methods
hold a lock, so a run of several threads is a sequence of calls. A line that cannot be encoded
is counted, and then the call raises an exception. `upper` is `str.upper`.
-/

namespace Python.PyFloat

/-- `f"{x:.{digits}f}"` -/
def fixed (x : PyFloat) (digits : ℕ) : List Char :=
  match x with
  | .finite q =>
      let n := (roundHalfEven (|q| * 10 ^ digits)).natAbs
      (if q < 0 then ['-'] else []) ++ Nat.toDigits 10 (n / 10 ^ digits) ++
        '.' :: Digits.zeroPad 10 digits (n % 10 ^ digits)
  | .infinite true => "-inf".toList
  | .infinite false => "inf".toList
  | .nan => "nan".toList

theorem mem_fixed {x : PyFloat} {digits : ℕ} {c : Char} (h : c ∈ x.fixed digits) :
    c ∈ "0123456789.-infa".toList := by
  have hdigits : ∀ {d : ℕ}, d < 10 → Nat.digitChar d ∈ "0123456789.-infa".toList := by
    intro d hd
    interval_cases d <;> decide
  -- not by deciding it for every character
  have hword : ∀ {word : List Char}, word.all (· ∈ "0123456789.-infa".toList) = true → c ∈ word →
      c ∈ "0123456789.-infa".toList :=
    fun hall hc => of_decide_eq_true (List.all_eq_true.1 hall c hc)
  cases x with
  | finite q =>
      rw [fixed, List.mem_append, List.mem_append, List.mem_cons] at h
      obtain (hsign | hwhole) | rfl | hpart := h
      · split_ifs at hsign
        · rw [List.mem_singleton.1 hsign]
          decide
        · cases hsign
      · obtain ⟨d, hd, rfl⟩ := Digits.mem_toDigits (by omega) hwhole
        exact hdigits hd
      · decide
      · obtain ⟨d, hd, rfl⟩ := Digits.mem_zeroPad (by omega) hpart
        exact hdigits hd
  | infinite negative =>
      cases negative with
      | true => exact hword (by decide) (show c ∈ "-inf".toList from h)
      | false => exact hword (by decide) (show c ∈ "inf".toList from h)
  | nan => exact hword (by decide) (show c ∈ "nan".toList from h)

end Python.PyFloat

namespace KVStore

open Python

def VALID_STATUSES : List String := ["INFO", "SUCCESS", "FAIL", "WARN"]

def ALWAYS_CONSOLE_EVENTS : List String := ["INIT", "CONNECT", "PROGRESS", "STAT", "TERMINATE"]

/-- The two formats of a line, which differ in the unit of the clock. -/
def formatLine (unit : String) (upper : String → String) (clock : PyFloat)
    (node event status message : String) : Except PyError String :=
  if upper status ∉ VALID_STATUSES then
    .error ⟨.valueError, "유효하지 않은 STATUS: '" ++ status ++
      "'. 과제 규격상 INFO, SUCCESS, FAIL, WARN만 사용할 수 있습니다."⟩
  else
    .ok ("[" ++ String.ofList (clock.fixed 2) ++ unit ++ "] " ++ node ++ " | " ++ event ++ " | " ++
      upper status ++ " | " ++ message)

def formatLogLine : (String → String) → PyFloat → String → String → String → String →
    Except PyError String :=
  formatLine ""

def formatConsoleLogLine : (String → String) → PyFloat → String → String → String → String →
    Except PyError String :=
  formatLine "초"

/-- `file` is the content of the log file, and `isOpen` says that there is a handle for it that
is not closed. -/
structure NodeLogger where
  nodeName : String
  printToConsole : Bool := true
  isOpen : Bool
  file : String
  console : List String := []
  consoleCounts : Dict (String × String) ℕ := ∅

namespace NodeLogger

/-- A new logger. A file that exists already is continued. -/
def init (nodeName : String) (file : Option String) (printToConsole : Bool) : NodeLogger where
  nodeName := nodeName
  printToConsole := printToConsole
  isOpen := file.isSome
  file := file.getD ""

/-- Whether the `count`-th line with this event and status is shown. -/
def shows (key : String × String) (count : ℕ) : Bool :=
  if key.1 ∈ ALWAYS_CONSOLE_EVENTS then true
  else if (key.1 = "PROC" ∨ key.1 = "RESULT") ∧ key.2 = "FAIL" then count ≤ 5 ∨ count % 100 = 0
  else if key.1 = "LB" ∧ key.2 = "SUCCESS" then count ≤ 5 ∨ count % 10 = 0
  else if key.1 = "QUEUE" ∧ key.2 = "WARN" then count ≤ 3
  else key.2 = "FAIL"

/-- `_should_print`, which counts the line. -/
def shouldPrint (upper : String → String) (s : NodeLogger) (event status : String) :
    Bool × NodeLogger :=
  let key := (upper event, upper status)
  let count := (s.consoleCounts.lookup key).getD 0 + 1
  (shows key count, { s with consoleCounts := s.consoleCounts.insert key count })

def print (b : Builtins) (upper : String → String) (s : NodeLogger) (clock : PyFloat)
    (node event status message : String) : NodeLogger × Option PyError :=
  if s.printToConsole then
    match s.shouldPrint upper event status with
    | (false, s) => (s, none)
    | (true, s) =>
        match formatConsoleLogLine upper clock node event status message with
        | .error e => (s, some e)
        | .ok line =>
            match b.print line with
            | some e => (s, some e)
            | none => ({ s with console := s.console ++ [line] }, none)
  else
    (s, none)

def append (b : Builtins) (s : NodeLogger) (line : String) : NodeLogger × Option PyError :=
  if s.isOpen then
    match b.print (line ++ "\n") with
    | some e => (s, some e)
    | none => ({ s with file := s.file ++ (line ++ "\n") }, none)
  else
    (s, none)

/-- What `log` and `__call__` share. -/
def emit (b : Builtins) (upper : String → String) (s : NodeLogger) (clock : PyFloat)
    (node event status message : String) : NodeLogger × Except PyError String :=
  match formatLogLine upper clock node event status message with
  | .error e => (s, .error e)
  | .ok line =>
      match s.print b upper clock node event status message with
      | (s, some e) => (s, .error e)
      | (s, none) =>
          match s.append b line with
          | (s, some e) => (s, .error e)
          | (s, none) => (s, .ok line)

def log (b : Builtins) (upper : String → String) (s : NodeLogger) (clock : PyFloat)
    (event status message : String) : NodeLogger × Except PyError String :=
  s.emit b upper clock s.nodeName event status message

/-- `__call__` -/
def call (b : Builtins) (upper : String → String) (s : NodeLogger) (clock : PyFloat)
    (node event status message : String) : NodeLogger × Except PyError Unit :=
  let (s, result) :=
    s.emit b upper clock (if node = "" then s.nodeName else node) event status message
  (s, result.map fun _ => ())

def close (s : NodeLogger) : NodeLogger := { s with isOpen := false }

inductive Action
  | log (clock : PyFloat) (event status message : String)
  | call (clock : PyFloat) (node event status message : String)
  | close

/-- The state after a call from outside. An exception goes to the caller. -/
def perform (b : Builtins) (upper : String → String) (s : NodeLogger) : Action → NodeLogger
  | .log clock event status message => (s.log b upper clock event status message).1
  | .call clock node event status message => (s.call b upper clock node event status message).1
  | .close => s.close

def step (b : Builtins) (upper : String → String) (s : NodeLogger) (a : Action) :
    Option NodeLogger :=
  some (s.perform b upper a)

end NodeLogger

/-! ### Reading a log -/

structure LogRecord where
  time : List Char
  node : List Char
  event : List Char
  status : List Char
  message : List Char
deriving DecidableEq

namespace LogRecord

def line (r : LogRecord) : List Char :=
  '[' :: r.time ++ ']' :: (' ' :: r.node ++ [' ']) ++ '|' :: (' ' :: r.event ++ [' ']) ++
    '|' :: (' ' :: r.status ++ [' ']) ++ '|' :: ' ' :: r.message

def trim (part : List Char) : List Char := part.tail.dropLast

/-- What is read from a line. The message is all that follows the third bar. -/
def ofLine (line : List Char) : Option LogRecord :=
  match line.splitOn '|' with
  | head :: event :: status :: message =>
      match head.splitOn ']' with
      | time :: node =>
          some
            { time := time.tail
              node := trim ([']'].intercalate node)
              event := trim event
              status := trim status
              message := (['|'].intercalate message).tail }
      | [] => none
  | _ => none

/-- The separators do not occur where they would be taken for others. -/
structure Plain (r : LogRecord) : Prop where
  time : ']' ∉ r.time ∧ '|' ∉ r.time ∧ '\n' ∉ r.time
  node : '|' ∉ r.node ∧ '\n' ∉ r.node
  event : '|' ∉ r.event ∧ '\n' ∉ r.event
  status : '|' ∉ r.status ∧ '\n' ∉ r.status
  message : '\n' ∉ r.message

theorem trim_blanks (part : List Char) : trim (' ' :: part ++ [' ']) = part := by
  rw [trim, List.cons_append, List.tail_cons, List.dropLast_concat]

theorem ofLine_line {r : LogRecord} (h : r.Plain) : ofLine r.line = some r := by
  have hblanks : ∀ {part : List Char}, '|' ∉ part → '|' ∉ ' ' :: part ++ [' '] := by
    intro part hpart
    simp [hpart]
  have hhead : '|' ∉ '[' :: r.time ++ ']' :: (' ' :: r.node ++ [' ']) := by
    simp [h.time.2.1, h.node.1]
  have htime : ']' ∉ '[' :: r.time := by simp [h.time.1]
  have hline : r.line = ('[' :: r.time ++ ']' :: (' ' :: r.node ++ [' '])) ++
      '|' :: ((' ' :: r.event ++ [' ']) ++
        '|' :: ((' ' :: r.status ++ [' ']) ++ '|' :: ' ' :: r.message)) := by
    simp [line]
  rw [ofLine, hline, List.splitOn_append_cons_self_of_not_mem hhead,
    List.splitOn_append_cons_self_of_not_mem (hblanks h.event.1),
    List.splitOn_append_cons_self_of_not_mem (hblanks h.status.1)]
  dsimp only
  rw [List.splitOn_append_cons_self_of_not_mem htime]
  dsimp only
  rw [List.intercalate_splitOn, List.intercalate_splitOn, trim_blanks, trim_blanks, trim_blanks,
    List.tail_cons, List.tail_cons]

theorem newline_notMem_line {r : LogRecord} (h : r.Plain) : '\n' ∉ r.line := by
  simp [line, h.time.2.2, h.node.2, h.event.2, h.status.2, h.message]

/-- What is read from the complete lines of a log. -/
def readAll (text : List Char) : List (Option LogRecord) := (Lines.read '\n' text).map ofLine

theorem readAll_terminated {records : List LogRecord} (h : ∀ r ∈ records, r.Plain) :
    readAll (Lines.terminated '\n' (records.map line)) = records.map some := by
  rw [readAll, Lines.read_terminated, List.map_map]
  · exact List.map_congr_left fun r hr => ofLine_line (h r hr)
  · intro l hl
    obtain ⟨r, hr, rfl⟩ := List.mem_map.1 hl
    exact newline_notMem_line (h r hr)

end LogRecord

namespace NodeLogger

/-! ### The file -/

/-- What a call is to write. -/
structure Entry where
  clock : PyFloat
  node : String
  event : String
  status : String
  message : String

def Action.entry (nodeName : String) : Action → Option Entry
  | .log clock event status message => some { clock, node := nodeName, event, status, message }
  | .call clock node event status message =>
      some { clock, node := if node = "" then nodeName else node, event, status, message }
  | .close => none

/-- The parts of the line that a caller chooses can be encoded. -/
def Entry.Printable (x : Entry) : Prop :=
  Python.Printable x.node ∧ Python.Printable x.event ∧ Python.Printable x.message

instance (x : Entry) : Decidable x.Printable := inferInstanceAs (Decidable (_ ∧ _))

def Entry.record (upper : String → String) (x : Entry) : LogRecord :=
  ⟨x.clock.fixed 2, x.node.toList, x.event.toList, (upper x.status).toList, x.message.toList⟩

/-- The record that a call makes, if it is accepted and its line can be encoded. -/
def recordOf (upper : String → String) (nodeName : String) (a : Action) : Option LogRecord :=
  (a.entry nodeName).bind fun x =>
    if upper x.status ∈ VALID_STATUSES ∧ x.Printable then some (x.record upper) else none

/-- The line for the console, under the event and the status that it is counted under. -/
def consoleOf (upper : String → String) (nodeName : String) (a : Action) :
    Option ((String × String) × String) :=
  (a.entry nodeName).bind fun x =>
    (formatConsoleLogLine upper x.clock x.node x.event x.status x.message).toOption.map
      ((upper x.event, upper x.status), ·)

/-- The call does not close the logger. -/
def Action.writes : Action → Bool
  | .close => false
  | _ => true

section

variable {b : Builtins} {upper : String → String} {s s' : NodeLogger}

/-- How many lines with this event and status were counted. -/
def counted (s : NodeLogger) (key : String × String) : ℕ := (s.consoleCounts.lookup key).getD 0

def shown (s : NodeLogger) (key : String × String) : Bool :=
  s.printToConsole && shows key (s.counted key + 1)

theorem Entry.lines (x : Entry) (hstatus : upper x.status ∈ VALID_STATUSES) :
    ∃ text line, formatLogLine upper x.clock x.node x.event x.status x.message = .ok text ∧
      formatConsoleLogLine upper x.clock x.node x.event x.status x.message = .ok line ∧
      text.toList = (x.record upper).line ∧
      (Python.Printable text ↔ x.Printable) ∧ (Python.Printable line ↔ x.Printable) := by
  have hclock : Python.Printable (String.ofList (x.clock.fixed 2)) := by
    intro h
    rw [String.toList_ofList] at h
    exact absurd (PyFloat.mem_fixed h) (by decide)
  have hvalid : ∀ status ∈ VALID_STATUSES, Python.Printable status := by decide
  have hparts : ∀ part ∈ ["[", "] ", " | ", "초", ""], Python.Printable part := by decide
  refine ⟨_, _, if_neg (not_not.2 hstatus), if_neg (not_not.2 hstatus), ?_, ?_, ?_⟩
  · simp [Entry.record, LogRecord.line, String.toList_append]
  · simp [Entry.Printable, hparts, hclock, hvalid _ hstatus, and_assoc]
  · simp [Entry.Printable, hparts, hclock, hvalid _ hstatus, and_assoc]

/-- What an accepted call does: the line is counted, and it is shown and written if it can be
encoded. -/
structure Written (s s' : NodeLogger) (upper : String → String) (x : Entry) (line : String) :
    Prop where
  nodeName : s'.nodeName = s.nodeName
  printToConsole : s'.printToConsole = s.printToConsole
  isOpen : s'.isOpen = s.isOpen
  file : s'.file.toList = s.file.toList ++
    if s.isOpen ∧ x.Printable then (x.record upper).line ++ ['\n'] else []
  console : s'.console = s.console ++
    if s.shown (upper x.event, upper x.status) ∧ x.Printable then [line] else []
  counts : s'.consoleCounts =
    if s.printToConsole then
      s.consoleCounts.insert (upper x.event, upper x.status)
        (s.counted (upper x.event, upper x.status) + 1)
    else s.consoleCounts

theorem print_spec {x : Entry} {line : String} (b : Builtins) (s : NodeLogger)
    (hline : formatConsoleLogLine upper x.clock x.node x.event x.status x.message = .ok line)
    (hprintable : Python.Printable line ↔ x.Printable) :
    ∃ s' failure, s.print b upper x.clock x.node x.event x.status x.message = (s', failure) ∧
      (failure ≠ none → ¬ x.Printable) ∧ s' =
      { s with
        console := s.console ++
          if s.shown (upper x.event, upper x.status) ∧ x.Printable then [line] else []
        consoleCounts :=
          if s.printToConsole then
            s.consoleCounts.insert (upper x.event, upper x.status)
              (s.counted (upper x.event, upper x.status) + 1)
          else s.consoleCounts } := by
  unfold print shouldPrint shown counted
  rw [hline]
  dsimp only
  generalize shows (upper x.event, upper x.status)
    ((s.consoleCounts.lookup (upper x.event, upper x.status)).getD 0 + 1) = shown
  by_cases hconsole : s.printToConsole = true
  swap
  · have hquiet : ¬ ((s.printToConsole && shown) = true ∧ x.Printable) := by simp [hconsole]
    exact ⟨s, none, if_neg hconsole, fun h => absurd rfl h,
      by rw [if_neg hquiet, if_neg hconsole, List.append_nil]⟩
  rw [if_pos hconsole, if_pos hconsole]
  cases shown with
  | false => exact ⟨_, none, rfl, fun h => absurd rfl h, by simp⟩
  | true =>
      by_cases hx : x.Printable
      · simp only [b.print_of_printable (hprintable.2 hx)]
        exact ⟨_, none, rfl, fun h => absurd rfl h, by simp [hconsole, hx]⟩
      · simp only [Builtins.print, if_neg (mt hprintable.1 hx)]
        exact ⟨_, _, rfl, fun _ => hx, by simp [hx]⟩

theorem written_emit (b : Builtins) (s : NodeLogger) {x : Entry}
    (hstatus : upper x.status ∈ VALID_STATUSES) :
    ∃ line, formatConsoleLogLine upper x.clock x.node x.event x.status x.message = .ok line ∧
      (Python.Printable line ↔ x.Printable) ∧
      Written s (s.emit b upper x.clock x.node x.event x.status x.message).1 upper x line := by
  obtain ⟨text, line, htext, hline, hrecord, hfile, hconsole⟩ := x.lines hstatus
  obtain ⟨s₁, failure, hprint, hfailure, hs₁⟩ := print_spec b s hline hconsole
  refine ⟨line, hline, hconsole, ?_⟩
  rw [emit, htext]
  simp only [hprint]
  have hnewline : Python.Printable (text ++ "\n") ↔ x.Printable := by
    rw [printable_append, hfile]
    exact and_iff_left (by decide)
  subst hs₁
  cases failure with
  | some e =>
      have hx := hfailure (Option.some_ne_none e)
      exact ⟨rfl, rfl, rfl, by simp [hx], rfl, rfl⟩
  | none =>
      unfold append
      by_cases hopen : s.isOpen = true
      swap
      · exact ⟨by simp [hopen], by simp [hopen], by simp [hopen], by simp [hopen],
          by simp [hopen], by simp [hopen]⟩
      by_cases hx : x.Printable
      · simp only [hopen, if_true, b.print_of_printable (hnewline.2 hx)]
        exact ⟨rfl, rfl, hopen.symm, by simp [hopen, hx, ← hrecord, String.toList_append], rfl,
          rfl⟩
      · simp only [hopen, if_true, Builtins.print, if_neg (mt hnewline.1 hx)]
        exact ⟨rfl, rfl, hopen.symm, by simp [hx], rfl, rfl⟩

/-- A call with a wrong status is refused. -/
theorem emit_of_status (b : Builtins) (s : NodeLogger) {x : Entry}
    (hstatus : upper x.status ∉ VALID_STATUSES) :
    (s.emit b upper x.clock x.node x.event x.status x.message).1 = s ∧
      formatConsoleLogLine upper x.clock x.node x.event x.status x.message =
        .error ⟨.valueError, "유효하지 않은 STATUS: '" ++ x.status ++
          "'. 과제 규격상 INFO, SUCCESS, FAIL, WARN만 사용할 수 있습니다."⟩ := by
  refine ⟨?_, if_pos hstatus⟩
  rw [emit, formatLogLine, formatLine, if_pos hstatus]

/-- What a call does. -/
inductive Called (upper : String → String) (s s' : NodeLogger) (a : Action) : Prop
  | closed (close : a.writes = false) (state : s' = s.close)
  | refused (writes : a.writes = true) (record : recordOf upper s.nodeName a = none)
      (console : consoleOf upper s.nodeName a = none) (state : s' = s)
  | written (writes : a.writes = true) (x : Entry) (line : String)
      (entry : a.entry s.nodeName = some x)
      (record : recordOf upper s.nodeName a =
        if x.Printable then some (x.record upper) else none)
      (console : consoleOf upper s.nodeName a =
        some ((upper x.event, upper x.status), line))
      (printable : Python.Printable line ↔ x.Printable) (written : Written s s' upper x line)

theorem called_of_entry {a : Action} {x : Entry} (hwrites : a.writes = true)
    (hentry : a.entry s.nodeName = some x)
    (hstate : s' = (s.emit b upper x.clock x.node x.event x.status x.message).1) :
    Called upper s s' a := by
  by_cases hstatus : upper x.status ∈ VALID_STATUSES
  · obtain ⟨line, hline, hprintable, hwritten⟩ := written_emit b s hstatus
    refine .written hwrites x line hentry ?_ ?_ hprintable (hstate ▸ hwritten)
    · simp only [recordOf, hentry, Option.bind_some, hstatus, true_and]
    · rw [consoleOf, hentry, Option.bind_some, hline]
      rfl
  · obtain ⟨hsame, hline⟩ := emit_of_status b s hstatus
    refine .refused hwrites ?_ ?_ (hstate.trans hsame)
    · simp only [recordOf, hentry, Option.bind_some, hstatus, false_and, if_false]
    · rw [consoleOf, hentry, Option.bind_some, hline]
      rfl

theorem called_of_step {a : Action} (hstep : s.step b upper a = some s') :
    Called upper s s' a := by
  obtain rfl := Option.some.inj hstep
  cases a with
  | close => exact .closed rfl rfl
  | log clock event status message => exact called_of_entry rfl rfl rfl
  | call clock node event status message => exact called_of_entry rfl rfl rfl

def recordsOf (upper : String → String) (nodeName : String) (calls : List Action) :
    List LogRecord :=
  (calls.takeWhile Action.writes).filterMap (recordOf upper nodeName)

theorem recordsOf_cons_of_writes (nodeName : String) {a : Action} (h : a.writes = true)
    (calls : List Action) : recordsOf upper nodeName (a :: calls) =
      (recordOf upper nodeName a).toList ++ recordsOf upper nodeName calls := by
  rw [recordsOf, List.takeWhile_cons, if_pos h, recordsOf]
  cases hrecord : recordOf upper nodeName a with
  | none => rw [List.filterMap_cons_none hrecord]; rfl
  | some r => rw [List.filterMap_cons_some hrecord]; rfl

theorem recordsOf_cons_of_closes (nodeName : String) {a : Action} (h : a.writes = false)
    (calls : List Action) : recordsOf upper nodeName (a :: calls) = [] := by
  rw [recordsOf, List.takeWhile_cons, if_neg (by simp [h]), List.filterMap_nil]

/-- The file keeps what it was and gets the lines of the accepted calls, in their order. -/
theorem file_of_run {calls : List Action} (hrun : Transition.run (step b upper) s calls = some s') :
    s'.file.toList = s.file.toList ++ Lines.terminated '\n'
      (if s.isOpen then (recordsOf upper s.nodeName calls).map LogRecord.line else []) := by
  induction calls generalizing s with
  | nil =>
      cases hrun
      split_ifs <;> exact (List.append_nil _).symm
  | cons a calls ih =>
      obtain ⟨t, hstep, hrest⟩ := Transition.run_cons_eq_some_iff.1 hrun
      have hfile := ih hrest
      cases called_of_step hstep with
      | closed close state =>
          subst state
          have hclosed : s.close.isOpen = false := rfl
          rw [hfile, hclosed, if_neg Bool.false_ne_true, recordsOf_cons_of_closes _ close]
          split_ifs <;> rfl
      | refused writes record _ state =>
          subst state
          rw [hfile, recordsOf_cons_of_writes _ writes, record]
          rfl
      | written writes x line _ record _ _ written =>
          rw [hfile, written.file, written.isOpen, written.nodeName, List.append_assoc,
            recordsOf_cons_of_writes _ writes, record]
          by_cases hx : x.Printable <;> by_cases hopen : s.isOpen = true <;>
            simp [hx, hopen, Lines.terminated]

/-- The separators do not occur in the parts that a caller chooses. -/
def Action.Plain : Action → Prop
  | .log _ event _ message => ('|' ∉ event.toList ∧ '\n' ∉ event.toList) ∧ '\n' ∉ message.toList
  | .call _ node event _ message =>
      ('|' ∉ node.toList ∧ '\n' ∉ node.toList) ∧ ('|' ∉ event.toList ∧ '\n' ∉ event.toList) ∧
        '\n' ∉ message.toList
  | .close => True

theorem plain_of_recordOf {nodeName : String}
    (hname : '|' ∉ nodeName.toList ∧ '\n' ∉ nodeName.toList) {a : Action} (ha : a.Plain)
    {r : LogRecord} (hr : recordOf upper nodeName a = some r) : r.Plain := by
  have htime : ∀ clock : PyFloat,
      ']' ∉ clock.fixed 2 ∧ '|' ∉ clock.fixed 2 ∧ '\n' ∉ clock.fixed 2 := fun clock =>
    ⟨fun h => absurd (PyFloat.mem_fixed h) (by decide),
      fun h => absurd (PyFloat.mem_fixed h) (by decide),
      fun h => absurd (PyFloat.mem_fixed h) (by decide)⟩
  have hstatus : ∀ {status : String}, status ∈ VALID_STATUSES →
      '|' ∉ status.toList ∧ '\n' ∉ status.toList := by
    decide
  obtain ⟨x, hx, hr⟩ := Option.bind_eq_some_iff.1 hr
  rw [Option.ite_none_right_eq_some] at hr
  obtain ⟨⟨hvalid, _⟩, hr⟩ := hr
  obtain rfl := Option.some.inj hr
  cases a with
  | close => cases hx
  | log clock event status message =>
      obtain ⟨hevent, hmessage⟩ := ha
      cases hx
      exact ⟨htime clock, hname, hevent, hstatus hvalid, hmessage⟩
  | call clock node event status message =>
      obtain ⟨hnode, hevent, hmessage⟩ := ha
      cases hx
      refine ⟨htime clock, ?_, hevent, hstatus hvalid, hmessage⟩
      dsimp only [Entry.record]
      split_ifs
      exacts [hname, hnode]

/-- A log file reads as the records it had before and one for each accepted call that can be
encoded until the logger is closed. A file that is cut off reads as a first part of them. -/
theorem read_log {nodeName : String} {printToConsole : Bool} {old : List LogRecord}
    {calls : List Action}
    (hname : '|' ∉ nodeName.toList ∧ '\n' ∉ nodeName.toList) (hold : ∀ r ∈ old, r.Plain)
    (hcalls : ∀ a ∈ calls, a.Plain)
    (hrun : Transition.run (step b upper) (init nodeName
      (some (String.ofList (Lines.terminated '\n' (old.map LogRecord.line)))) printToConsole)
      calls = some s') :
    LogRecord.readAll s'.file.toList = (old ++ recordsOf upper nodeName calls).map some ∧
      ∀ part, part <+: s'.file.toList →
        LogRecord.readAll part <+: (old ++ recordsOf upper nodeName calls).map some := by
  have hfile : s'.file.toList = Lines.terminated '\n'
      ((old ++ recordsOf upper nodeName calls).map LogRecord.line) := by
    rw [file_of_run hrun, List.map_append, Lines.terminated_append]
    exact congrArg (· ++ _) (String.toList_ofList)
  have hread : LogRecord.readAll s'.file.toList =
      (old ++ recordsOf upper nodeName calls).map some := by
    rw [hfile]
    refine LogRecord.readAll_terminated fun r hr => (List.mem_append.1 hr).elim (hold r) ?_
    intro hr
    obtain ⟨a, ha, hrecord⟩ := List.mem_filterMap.1 hr
    exact plain_of_recordOf hname (hcalls a (List.takeWhile_subset _ ha)) hrecord
  refine ⟨hread, ?_⟩
  rintro part ⟨more, hmore⟩
  rw [← hread, ← hmore]
  exact (Lines.read_isPrefix '\n' part more).map LogRecord.ofLine

/-- A file that is continued: one line has a wrong status, and one comes after the end. -/
def continued : List Action :=
  [.call (.finite 0) "" "INIT" "INFO" "port=5000 | workers=4", .log (.finite 1) "STAT" "DEBUG" "",
    .call (.finite (5 / 2)) "Worker1" "CONNECT" "SUCCESS" "", .close,
    .log (.finite 3) "TERMINATE" "INFO" ""]

def firstRecord : LogRecord :=
  ⟨"0.00".toList, "Master".toList, "TERMINATE".toList, "SUCCESS".toList, []⟩

theorem read_log_continued :
    ∃ s', Transition.run (step Builtins.plain id) (init "Master"
      (some (String.ofList (Lines.terminated '\n' ([firstRecord].map LogRecord.line)))) false)
      continued = some s' ∧
    LogRecord.readAll s'.file.toList =
      [some firstRecord,
        some ⟨"0.00".toList, "Master".toList, "INIT".toList, "INFO".toList,
          "port=5000 | workers=4".toList⟩,
        some ⟨"2.50".toList, "Worker1".toList, "CONNECT".toList, "SUCCESS".toList, []⟩] := by
  have hplain : ∀ r ∈ [firstRecord], r.Plain := by
    intro r hr
    rw [List.mem_singleton.1 hr]
    exact ⟨by decide, by decide, by decide, by decide, by decide⟩
  have hcalls : ∀ a ∈ continued, a.Plain := by
    simp [continued, Action.Plain]
  obtain ⟨s', hrun⟩ : ∃ s', Transition.run (step Builtins.plain id) (init "Master"
      (some (String.ofList (Lines.terminated '\n' ([firstRecord].map LogRecord.line)))) false)
      continued = some s' := ⟨_, rfl⟩
  exact ⟨s', hrun, (read_log (by decide) hplain hcalls hrun).1.trans (by decide +kernel)⟩

/-! ### The console -/

def displayed (key : String × String) (n : ℕ) : ℕ :=
  if key.1 ∈ ALWAYS_CONSOLE_EVENTS then n
  else if (key.1 = "PROC" ∨ key.1 = "RESULT") ∧ key.2 = "FAIL" then min n 5 + n / 100
  else if key.1 = "LB" ∧ key.2 = "SUCCESS" then min n 5 + n / 10
  else if key.1 = "QUEUE" ∧ key.2 = "WARN" then min n 3
  else if key.2 = "FAIL" then n
  else 0

theorem displayed_succ (key : String × String) (n : ℕ) :
    displayed key (n + 1) = displayed key n + if shows key (n + 1) then 1 else 0 := by
  unfold displayed shows
  by_cases halways : key.1 ∈ ALWAYS_CONSOLE_EVENTS
  · rw [if_pos halways, if_pos halways, if_pos halways, if_pos rfl]
  rw [if_neg halways, if_neg halways, if_neg halways]
  by_cases htask : (key.1 = "PROC" ∨ key.1 = "RESULT") ∧ key.2 = "FAIL"
  · rw [if_pos htask, if_pos htask, if_pos htask]
    simp only [decide_eq_true_eq]
    split_ifs <;> omega
  rw [if_neg htask, if_neg htask, if_neg htask]
  by_cases hbalance : key.1 = "LB" ∧ key.2 = "SUCCESS"
  · rw [if_pos hbalance, if_pos hbalance, if_pos hbalance]
    simp only [decide_eq_true_eq]
    split_ifs <;> omega
  rw [if_neg hbalance, if_neg hbalance, if_neg hbalance]
  by_cases hqueue : key.1 = "QUEUE" ∧ key.2 = "WARN"
  · rw [if_pos hqueue, if_pos hqueue, if_pos hqueue]
    simp only [decide_eq_true_eq]
    split_ifs <;> omega
  rw [if_neg hqueue, if_neg hqueue, if_neg hqueue]
  by_cases hfail : key.2 = "FAIL"
  · rw [if_pos hfail, if_pos hfail, if_pos (decide_eq_true hfail)]
  · rw [if_neg hfail, if_neg hfail, if_neg (by simp [hfail])]

/-- The lines that could be shown, each under its event and status. -/
def consoleLines (upper : String → String) (nodeName : String) (calls : List Action) :
    List ((String × String) × String) :=
  calls.filterMap (consoleOf upper nodeName)

theorem consoleLines_cons (nodeName : String) (a : Action) (calls : List Action) :
    consoleLines upper nodeName (a :: calls) =
      (consoleOf upper nodeName a).toList ++ consoleLines upper nodeName calls := by
  unfold consoleLines
  cases hconsole : consoleOf upper nodeName a with
  | none => rw [List.filterMap_cons_none hconsole]; rfl
  | some entry => rw [List.filterMap_cons_some hconsole]; rfl

theorem counted_insert {s s' : NodeLogger} {key : String × String}
    (h : s'.consoleCounts = s.consoleCounts.insert key (s.counted key + 1)) (k : String × String) :
    s'.counted k = s.counted k + if key = k then 1 else 0 := by
  rw [counted, h, Dict.lookup_insert_eq_ite]
  by_cases hk : k = key
  · rw [if_pos hk, if_pos hk.symm, hk]
    rfl
  · rw [if_neg hk, if_neg (Ne.symm hk)]
    rfl

/-- What is shown when these lines are written. -/
structure Console (s s' : NodeLogger) (lines shown : List ((String × String) × String)) :
    Prop where
  printToConsole : s'.printToConsole = s.printToConsole
  console : s'.console = s.console ++ (shown.map Prod.snd).filter (Python.Printable ·)
  sublist : shown.Sublist lines
  silent : s.printToConsole = false → shown = []
  counted : s.printToConsole = true → ∀ key,
    s'.counted key = s.counted key + (lines.map Prod.fst).count key
  count : s.printToConsole = true → ∀ key,
    (shown.map Prod.fst).count key + displayed key (s.counted key) = displayed key (s'.counted key)

theorem Console.of_eq (hprint : s'.printToConsole = s.printToConsole)
    (hconsole : s'.console = s.console) (hcounts : s'.consoleCounts = s.consoleCounts) :
    Console s s' [] [] where
  printToConsole := hprint
  console := by rw [hconsole, List.map_nil, List.filter_nil, List.append_nil]
  sublist := List.nil_sublist _
  silent := fun _ => rfl
  counted := fun _ key => congrArg (fun counts => (counts.lookup key).getD 0) hcounts
  count := fun _ key => by
    have hcounted : s'.counted key = s.counted key :=
      congrArg (fun counts => (counts.lookup key).getD 0) hcounts
    rw [hcounted]
    exact Nat.zero_add _

theorem Console.trans {t : NodeLogger}
    {lines lines' shown shown' : List ((String × String) × String)}
    (h : Console s t lines shown) (h' : Console t s' lines' shown') :
    Console s s' (lines ++ lines') (shown ++ shown') where
  printToConsole := h'.printToConsole.trans h.printToConsole
  console := by rw [h'.console, h.console, List.append_assoc, List.map_append, List.filter_append]
  sublist := h.sublist.append h'.sublist
  silent := fun hprint => by
    rw [h.silent hprint, h'.silent (h.printToConsole.trans hprint), List.nil_append]
  counted := fun hprint key => by
    rw [h'.counted (h.printToConsole.trans hprint), h.counted hprint, List.map_append,
      List.count_append, Nat.add_assoc]
  count := fun hprint key => by
    have hfirst := h.count hprint key
    have hsecond := h'.count (h.printToConsole.trans hprint) key
    rw [List.map_append, List.count_append]
    omega

theorem Console.of_line {key : String × String} {line : String}
    (hprint : s'.printToConsole = s.printToConsole)
    (hconsole : s'.console = s.console ++
      if s.shown key ∧ Python.Printable line then [line] else [])
    (hcounts : s'.consoleCounts =
      if s.printToConsole then s.consoleCounts.insert key (s.counted key + 1)
      else s.consoleCounts) :
    Console s s' [(key, line)] (if s.shown key then [(key, line)] else []) where
  printToConsole := hprint
  console := by
    rw [hconsole]
    by_cases hshown : s.shown key = true <;> by_cases hline : Python.Printable line <;>
      simp [hshown, hline]
  sublist := by
    split_ifs
    · exact List.Sublist.refl _
    · exact List.nil_sublist _
  silent := fun hoff => if_neg (by rw [shown, hoff, Bool.false_and]; exact Bool.false_ne_true)
  counted := fun hon k => by
    rw [if_pos hon] at hcounts
    rw [counted_insert hcounts, List.map_singleton, List.count_singleton]
    simp
  count := fun hon k => by
    rw [if_pos hon] at hcounts
    rw [counted_insert hcounts]
    by_cases hk : key = k
    · subst hk
      rw [if_pos rfl, displayed_succ, Nat.add_comm, shown, hon, Bool.true_and]
      refine congrArg _ ?_
      split_ifs
      · rw [List.map_singleton, List.count_singleton_self]
      · rfl
    · rw [if_neg hk]
      split_ifs
      · rw [List.map_singleton, List.count_singleton, if_neg (by simpa using hk), Nat.zero_add]
        rfl
      · exact Nat.zero_add _

theorem exists_console_of_step {a : Action} (hstep : s.step b upper a = some s') :
    ∃ shown, Console s s' (consoleOf upper s.nodeName a).toList shown := by
  cases called_of_step hstep with
  | closed close state =>
      subst state
      have hnone : consoleOf upper s.nodeName a = none := by
        cases a with
        | close => rfl
        | log => cases close
        | call => cases close
      rw [hnone]
      exact ⟨[], .of_eq rfl rfl rfl⟩
  | refused _ _ hnone state =>
      subst state
      rw [hnone]
      exact ⟨[], .of_eq rfl rfl rfl⟩
  | written _ x line _ _ console printable written =>
      rw [console]
      refine ⟨_, .of_line written.printToConsole ?_ written.counts⟩
      rw [written.console]
      simp only [printable]

theorem nodeName_of_step {a : Action} (hstep : s.step b upper a = some s') :
    s'.nodeName = s.nodeName := by
  cases called_of_step hstep with
  | closed _ state => rw [state]; rfl
  | refused _ _ _ state => rw [state]
  | written _ _ _ _ _ _ _ written => exact written.nodeName

theorem exists_console_of_run {calls : List Action}
    (hrun : Transition.run (step b upper) s calls = some s') :
    ∃ shown, Console s s' (consoleLines upper s.nodeName calls) shown := by
  induction calls generalizing s with
  | nil =>
      cases hrun
      exact ⟨[], .of_eq rfl rfl rfl⟩
  | cons a calls ih =>
      obtain ⟨t, hstep, hrest⟩ := Transition.run_cons_eq_some_iff.1 hrun
      obtain ⟨first, hfirst⟩ := exists_console_of_step hstep
      obtain ⟨rest, hrest⟩ := ih hrest
      rw [nodeName_of_step hstep] at hrest
      rw [consoleLines_cons]
      exact ⟨first ++ rest, hfirst.trans hrest⟩

/-- The console is to show some of the accepted lines in their order. For each event and status
their number is fixed by how many there were. It shows those of them that can be encoded. -/
theorem console_log {nodeName : String} {file : Option String} {printToConsole : Bool}
    {calls : List Action}
    (hrun : Transition.run (step b upper) (init nodeName file printToConsole) calls = some s') :
    ∃ shown : List ((String × String) × String),
      s'.console = (shown.map Prod.snd).filter (Python.Printable ·) ∧
      shown.Sublist (consoleLines upper nodeName calls) ∧
      ∀ key, (shown.map Prod.fst).count key =
        if printToConsole then
          displayed key (((consoleLines upper nodeName calls).map Prod.fst).count key)
        else 0 := by
  obtain ⟨shown, hshown⟩ := exists_console_of_run hrun
  refine ⟨shown, hshown.console, hshown.sublist, fun key => ?_⟩
  have hcounted : (init nodeName file printToConsole).counted key = 0 := by
    rw [counted, init, AList.lookup_empty]
    rfl
  have hzero : displayed key 0 = 0 := by
    simp [displayed]
  cases printToConsole with
  | false => rw [hshown.silent rfl, if_neg Bool.false_ne_true, List.map_nil, List.count_nil]
  | true =>
      have hcount := hshown.count rfl key
      rw [hshown.counted rfl, hcounted, hzero, Nat.zero_add, Nat.add_zero] at hcount
      rw [if_pos rfl, hcount]
      rfl

/-- Seven failures of a task, of which five are shown. -/
def failing : List Action := List.replicate 7 (.log (.finite 1) "PROC" "FAIL" "task_id=1")

theorem console_log_failing :
    ∃ s', Transition.run (step Builtins.plain id) (init "Worker1" none true) failing = some s' ∧
      ∃ shown : List ((String × String) × String),
        s'.console = (shown.map Prod.snd).filter (Python.Printable ·) ∧
        (shown.map Prod.fst).count ("PROC", "FAIL") = 5 := by
  obtain ⟨s', hrun⟩ : ∃ s',
      Transition.run (step Builtins.plain id) (init "Worker1" none true) failing = some s' :=
    ⟨_, rfl⟩
  obtain ⟨shown, hconsole, -, hcount⟩ := console_log hrun
  exact ⟨s', hrun, shown, hconsole, (hcount _).trans (by decide +kernel)⟩

end

end NodeLogger

end KVStore
