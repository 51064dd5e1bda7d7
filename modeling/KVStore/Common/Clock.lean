import KVStore.Common.Models
import KVStore.Library.Python
import Mathlib.Algebra.Order.Ring.Rat

/-!
# The logical clock

`LogicalClock` counts virtual seconds. Each method runs under the lock of the clock, so
it is one step here. The errors are the texts of the `ValueError`s. `FloatClock` is the same
clock with the floats that a message can bring, infinity and NaN among them.
-/

namespace KVStore

open Python

def COMMUNICATION_DELAY_SECONDS : ℚ := 1

theorem communicationDelay_pos : 0 < COMMUNICATION_DELAY_SECONDS := by decide

structure LogicalClock where
  value : ℚ := 0
  nonneg : 0 ≤ value := by decide
deriving DecidableEq

namespace LogicalClock

def init (initial : ℚ) : Except String LogicalClock :=
  if h : initial < 0 then
    .error "initial clock value must be non-negative"
  else
    .ok ⟨initial, not_lt.1 h⟩

def read (clock : LogicalClock) : ℚ := clock.value

def advance (clock : LogicalClock) (seconds : ℚ) : Except String LogicalClock :=
  if h : seconds < 0 then
    .error "clock cannot advance by a negative duration"
  else
    .ok ⟨clock.value + seconds, add_nonneg clock.nonneg (not_lt.1 h)⟩

def observe (clock : LogicalClock) (remoteValue : ℚ) : Except String LogicalClock :=
  if remoteValue < 0 then
    .error "remote clock value must be non-negative"
  else
    .ok ⟨max clock.value remoteValue, le_max_of_le_left clock.nonneg⟩

variable {clock clock' : LogicalClock} {seconds remoteValue : ℚ}

theorem read_advance (h : clock.advance seconds = .ok clock') :
    0 ≤ seconds ∧ clock'.read = clock.read + seconds := by
  unfold advance at h
  split_ifs at h with hneg
  cases h
  exact ⟨not_lt.1 hneg, rfl⟩

theorem read_observe (h : clock.observe remoteValue = .ok clock') :
    clock'.read = max clock.read remoteValue := by
  unfold observe at h
  split_ifs at h
  cases h
  rfl

theorem read_le_advance (h : clock.advance seconds = .ok clock') : clock.read ≤ clock'.read := by
  obtain ⟨hseconds, hread⟩ := read_advance h
  rw [hread]
  exact le_add_of_nonneg_right hseconds

theorem read_le_observe (h : clock.observe remoteValue = .ok clock') :
    clock.read ≤ clock'.read := by
  rw [read_observe h]
  exact le_max_left _ _

end LogicalClock

theorem add_nonneg_float {x y : PyFloat} (hx : x.lt (.finite 0) = false)
    (hy : y.lt (.finite 0) = false) : (x.add y).lt (.finite 0) = false := by
  cases x with
  | finite p =>
      cases y with
      | finite q =>
          simp only [PyFloat.lt, decide_eq_false_iff_not, not_lt] at hx hy
          simpa [PyFloat.add, PyFloat.lt] using add_nonneg hx hy
      | infinite negative => exact hy
      | nan => rfl
  | infinite negative =>
      cases y with
      | finite q => exact hx
      | infinite negative' =>
          rw [PyFloat.add]
          split_ifs
          · exact hx
          · rfl
      | nan => rfl
  | nan => cases y <;> rfl

theorem max_nonneg_float {x y : PyFloat} (hx : x.lt (.finite 0) = false)
    (hy : y.lt (.finite 0) = false) : (x.max y).lt (.finite 0) = false := by
  unfold PyFloat.max
  split_ifs
  · exact hy
  · exact hx

theorem zero_nonneg_float : (PyFloat.finite 0).lt (.finite 0) = false := by decide

structure FloatClock where
  value : PyFloat := .finite 0
  nonneg : value.lt (.finite 0) = false := by exact zero_nonneg_float
deriving DecidableEq

namespace FloatClock

def read (clock : FloatClock) : PyFloat := clock.value

def advance (clock : FloatClock) (seconds : PyFloat) : Except PyError FloatClock :=
  if h : seconds.lt (.finite 0) = true then
    .error ⟨.valueError, "clock cannot advance by a negative duration"⟩
  else
    .ok ⟨clock.value.add seconds, add_nonneg_float clock.nonneg (Bool.eq_false_iff.2 h)⟩

def observe (clock : FloatClock) (remoteValue : PyFloat) : Except PyError FloatClock :=
  if h : remoteValue.lt (.finite 0) = true then
    .error ⟨.valueError, "remote clock value must be non-negative"⟩
  else
    .ok ⟨clock.value.max remoteValue, max_nonneg_float clock.nonneg (Bool.eq_false_iff.2 h)⟩

theorem advance_communicationDelay (clock : FloatClock) :
    ∃ clock', clock.advance (.finite COMMUNICATION_DELAY_SECONDS) = .ok clock' := by
  have hdelay : (PyFloat.finite COMMUNICATION_DELAY_SECONDS).lt (.finite 0) ≠ true := by decide
  exact ⟨_, dif_neg hdelay⟩

theorem observe_of_nonneg (clock : FloatClock) {remoteValue : PyFloat}
    (h : remoteValue.lt (.finite 0) = false) :
    ∃ clock', clock.observe remoteValue = .ok clock' :=
  ⟨_, dif_neg (Bool.eq_false_iff.1 h)⟩

theorem nonneg_of_observe {clock clock' : FloatClock} {remoteValue : PyFloat}
    (h : clock.observe remoteValue = .ok clock') : remoteValue.lt (.finite 0) = false := by
  unfold observe at h
  split_ifs at h with hnegative
  exact Bool.eq_false_iff.2 hnegative

theorem observe_eq_error {clock : FloatClock} {remoteValue : PyFloat} {e : PyError}
    (h : clock.observe remoteValue = .error e) :
    remoteValue.lt (.finite 0) = true ∧ e.kind = .valueError ∧ Printable e.text := by
  unfold observe at h
  split_ifs at h with hnegative
  cases h
  exact ⟨hnegative, rfl, printable_ofList.2 (by decide)⟩

end FloatClock

namespace LogicalClock

def toFloat (clock : LogicalClock) : FloatClock where
  value := .finite clock.value
  nonneg := by simpa [PyFloat.lt] using clock.nonneg

/-- On finite values the two clocks agree. -/
theorem toFloat_advance (clock : LogicalClock) (seconds : ℚ) :
    (clock.advance seconds).toOption.map toFloat =
      (clock.toFloat.advance (.finite seconds)).toOption := by
  by_cases h : seconds < 0
  · simp [advance, FloatClock.advance, PyFloat.lt, h, Except.toOption]
  · simp [advance, FloatClock.advance, PyFloat.lt, PyFloat.add, toFloat, h, Except.toOption]

theorem toFloat_observe (clock : LogicalClock) (remoteValue : ℚ) :
    (clock.observe remoteValue).toOption.map toFloat =
      (clock.toFloat.observe (.finite remoteValue)).toOption := by
  by_cases h : remoteValue < 0
  · simp [observe, FloatClock.observe, PyFloat.lt, h, Except.toOption]
  · by_cases hlt : clock.value < remoteValue
    · simp [observe, FloatClock.observe, PyFloat.lt, PyFloat.max, toFloat, h, Except.toOption,
        hlt, max_eq_right hlt.le]
    · simp [observe, FloatClock.observe, PyFloat.lt, PyFloat.max, toFloat, h, Except.toOption,
        hlt, max_eq_left (not_lt.1 hlt)]

end LogicalClock

end KVStore
