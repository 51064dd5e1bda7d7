import KVStore.Library.Text
import Mathlib.Data.Rat.Defs
import Mathlib.Algebra.Order.Ring.Rat
import Mathlib.Data.Rat.Floor

/-!
# Python values

The values that Python's `json` decodes to, the exceptions, and the coercions `str`, `int`
and `float`. A finite float is the rational number that it stands for; arithmetic on floats
is exact, and the sign of zero is not kept. A dictionary is a list of entries, of which the
first with a key counts; `JsonNative` says that there is only one.

The parts of the built-ins that print and parse are the fields of `Builtins`: nothing here
depends on what they return, but for two of them that what they return can be printed.
-/

namespace Python

inductive PyFloat
  | finite (q : ℚ)
  | infinite (negative : Bool)
  | nan
deriving DecidableEq

inductive Value
  | null
  | bool (b : Bool)
  | int (n : ℤ)
  | float (x : PyFloat)
  | str (s : String)
  | list (xs : List Value)
  | dict (entries : List (String × Value))

abbrev Object := List (String × Value)

/-- The exception classes that are told apart. None of them is a subclass of another. -/
inductive ErrorKind
  | keyError
  | typeError
  | valueError
  | overflowError
  | attributeError
  | eofError
  | osError
  | protocolError
  | recursionError
deriving DecidableEq

/-- An exception and its `str`. -/
structure PyError where
  kind : ErrorKind
  text : String
deriving DecidableEq

/-- What an `OSError` says. The text is the operating system's. -/
structure OSErrorText where
  text : String
  printable : Printable text := by decide

/-- Printing and parsing. `repr` is `str` of a value that is no string; it fails with a
`ValueError` on an integer with too many digits, as `intOfStr` does. A value for which `repr`
would run out of recursion depth counts as one that was nested too deeply for the decoder.
`quote` is `repr` of a string, which writes a surrogate as an escape, and `encodeError` is the
text of the `UnicodeEncodeError` for a string that holds one. -/
structure Builtins where
  repr : Value → Option String
  quote : String → String
  intOfStr : String → Option ℤ
  floatOfStr : String → Option PyFloat
  encodeError : String → String
  printable_quote (s : String) : Printable (quote s)
  printable_encodeError (s : String) : Printable (encodeError s)

namespace Builtins

/-- The exception that `print(s)` raises, or writing `s` to a file in UTF-8: a
`UnicodeEncodeError`, which is a `ValueError`. -/
def print (b : Builtins) (s : String) : Option PyError :=
  if Printable s then none else some ⟨.valueError, b.encodeError s⟩

/-- Built-ins that take no string for a numeral. -/
def plain : Builtins where
  repr _ := none
  quote s := if Printable s then "'" ++ s ++ "'" else "''"
  intOfStr _ := none
  floatOfStr _ := none
  encodeError _ := "surrogates not allowed"
  printable_quote s := by
    split_ifs with hs
    · simp only [printable_append]
      exact ⟨⟨by decide, hs⟩, by decide⟩
    · decide
  printable_encodeError _ := by decide

theorem print_of_printable (b : Builtins) {s : String} (h : Printable s) : b.print s = none :=
  if_pos h

theorem print_eq_some {b : Builtins} {s : String} {e : PyError} (h : b.print s = some e) :
    ¬ Printable s ∧ e.kind = .valueError ∧ Printable e.text := by
  unfold print at h
  split_ifs at h with hs
  cases h
  exact ⟨hs, rfl, b.printable_encodeError s⟩

end Builtins

namespace PyFloat

/-- `x < y` -/
def lt : PyFloat → PyFloat → Bool
  | .nan, _ => false
  | _, .nan => false
  | .finite x, .finite y => decide (x < y)
  | .finite _, .infinite negative => !negative
  | .infinite negative, .finite _ => negative
  | .infinite negative, .infinite negative' => negative && !negative'

/-- `x + y` -/
def add : PyFloat → PyFloat → PyFloat
  | .finite x, .finite y => .finite (x + y)
  | .finite _, .infinite negative => .infinite negative
  | .infinite negative, .finite _ => .infinite negative
  | .infinite negative, .infinite negative' =>
      if negative = negative' then .infinite negative else .nan
  | _, _ => .nan

/-- `x - y` -/
def sub (x : PyFloat) : PyFloat → PyFloat
  | .finite y => x.add (.finite (-y))
  | .infinite negative => x.add (.infinite !negative)
  | .nan => .nan

/-- `max(x, y)`, which is `x` unless `y` is greater. -/
def max (x y : PyFloat) : PyFloat := if x.lt y = true then y else x

/-- `x / n` for a positive integer `n`. -/
def divNat (x : PyFloat) (n : ℕ) : PyFloat :=
  match x with
  | .finite q => .finite (q / n)
  | x => x

/-- The nearest integer, and the even one of two that are equally near. -/
def roundHalfEven (q : ℚ) : ℤ :=
  let low := ⌊q⌋
  if q - low < 1 / 2 then low
  else if 1 / 2 < q - low then low + 1
  else if low % 2 = 0 then low else low + 1

/-- `round(x, digits)` -/
def round (x : PyFloat) (digits : ℕ) : PyFloat :=
  match x with
  | .finite q => .finite (roundHalfEven (q * 10 ^ digits) / 10 ^ digits)
  | x => x

end PyFloat

namespace Value

def typeName : Value → String
  | .null => "NoneType"
  | .bool _ => "bool"
  | .int _ => "int"
  | .float _ => "float"
  | .str _ => "str"
  | .list _ => "list"
  | .dict _ => "dict"

/-- The floats in the value are finite, and its dictionaries have distinct keys. -/
inductive JsonNative : Value → Prop
  | null : JsonNative .null
  | bool (b : Bool) : JsonNative (.bool b)
  | int (n : ℤ) : JsonNative (.int n)
  | float (q : ℚ) : JsonNative (.float (.finite q))
  | str (s : String) : JsonNative (.str s)
  | list (xs : List Value) (h : ∀ x ∈ xs, JsonNative x) : JsonNative (.list xs)
  | dict (entries : Object) (hkeys : (entries.map Prod.fst).Nodup)
      (h : ∀ e ∈ entries, JsonNative e.2) : JsonNative (.dict entries)

/-- `str(v)` -/
def toStr (b : Builtins) : Value → Except PyError String
  | .str s => .ok s
  | v =>
      match b.repr v with
      | some s => .ok s
      | none => .error ⟨.valueError,
          "Exceeds the limit (4300 digits) for integer string conversion; " ++
            "use sys.set_int_max_str_digits() to increase the limit"⟩

/-- `int(v)` -/
def toInt (b : Builtins) : Value → Except PyError ℤ
  | .bool x => .ok (if x = true then 1 else 0)
  | .int n => .ok n
  | .float (.finite q) => .ok (q.num.tdiv q.den)
  | .float (.infinite _) => .error ⟨.overflowError, "cannot convert float infinity to integer"⟩
  | .float .nan => .error ⟨.valueError, "cannot convert float NaN to integer"⟩
  | .str s =>
      match b.intOfStr s with
      | some n => .ok n
      | none => .error ⟨.valueError, "invalid literal for int() with base 10: " ++ b.quote s⟩
  | v => .error ⟨.typeError, "int() argument must be a string, a bytes-like object or " ++
      "a real number, not '" ++ v.typeName ++ "'"⟩

/-- The integer is rounded to a number beyond the largest finite float. -/
def TooLarge (n : ℤ) : Prop := 2 ^ 1024 - 2 ^ 970 ≤ |n|

instance (n : ℤ) : Decidable (TooLarge n) := inferInstanceAs (Decidable (_ ≤ _))

/-- `float(v)` -/
def toFloat (b : Builtins) : Value → Except PyError PyFloat
  | .bool x => .ok (.finite (if x = true then 1 else 0))
  | .int n =>
      if TooLarge n then .error ⟨.overflowError, "int too large to convert to float"⟩
      else .ok (.finite n)
  | .float x => .ok x
  | .str s =>
      match b.floatOfStr s with
      | some x => .ok x
      | none => .error ⟨.valueError, "could not convert string to float: " ++ b.quote s⟩
  | v => .error ⟨.typeError, "float() argument must be a string or a real number, not '" ++
      v.typeName ++ "'"⟩

/-- `hash(v)` raises a `TypeError`. -/
def unhashable : Value → Bool
  | .list _ => true
  | .dict _ => true
  | _ => false

/-- The elements of `set(v)`, with repetitions. -/
def toSet : Value → Except PyError (List Value)
  | .list xs =>
      match xs.find? unhashable with
      | some x => .error ⟨.typeError, "unhashable type: '" ++ x.typeName ++ "'"⟩
      | none => .ok xs
  | .str s => .ok ((codePoints s).map fun point => .str (ofCodePoints [point]))
  | .dict entries => .ok (entries.map fun e => .str e.1)
  | v => .error ⟨.typeError, "'" ++ v.typeName ++ "' object is not iterable"⟩

/-- `v == s` for a string `s`. -/
def equalsStr : Value → String → Bool
  | .str s', s => s' = s
  | _, _ => false

/-- `bool(v)` -/
def truthy : Value → Bool
  | .null => false
  | .bool x => x
  | .int n => n ≠ 0
  | .float x => x ≠ .finite 0
  | .str s => s ≠ ""
  | .list xs => !xs.isEmpty
  | .dict entries => !entries.isEmpty

/-- `v is True` -/
def isTrue : Value → Bool
  | .bool x => x
  | _ => false

/-- `v.get`, up to the attribute lookup. -/
def asDict : Value → Except PyError Object
  | .dict entries => .ok entries
  | v => .error ⟨.attributeError, "'" ++ v.typeName ++ "' object has no attribute 'get'"⟩

end Value

namespace Object

/-- `d.get(key)` -/
def get (entries : Object) (key : String) : Option Value := entries.lookup key

/-- `d.get(key, default)` -/
def getD (entries : Object) (key : String) (default : Value) : Value :=
  (entries.get key).getD default

/-- `d[key]` -/
def item (entries : Object) (key : String) : Except PyError Value :=
  match entries.get key with
  | some v => .ok v
  | none => .error ⟨.keyError, "'" ++ key ++ "'"⟩

end Object

section

variable {b : Builtins} {v : Value} {e : PyError}

/-! ### Which exceptions the coercions raise -/

theorem kind_of_toStr (h : v.toStr b = .error e) : e.kind = .valueError := by
  cases v with
  | str s => cases h
  | _ =>
      unfold Value.toStr at h
      split at h
      · cases h
      · split at h <;> cases h
        rfl

theorem kind_of_toInt (h : v.toInt b = .error e) :
    e.kind = .valueError ∨ e.kind = .typeError ∨
      (e.kind = .overflowError ∧ ∃ negative, v = .float (.infinite negative)) := by
  cases v with
  | bool x => cases h
  | int n => cases h
  | float x =>
      cases x with
      | finite q => cases h
      | infinite negative =>
          cases h
          exact .inr (.inr ⟨rfl, negative, rfl⟩)
      | nan =>
          cases h
          exact .inl rfl
  | str s =>
      simp only [Value.toInt] at h
      split at h <;> cases h
      exact .inl rfl
  | _ =>
      cases h
      exact .inr (.inl rfl)

theorem kind_of_toFloat (h : v.toFloat b = .error e) :
    e.kind = .valueError ∨ e.kind = .typeError ∨
      (e.kind = .overflowError ∧ ∃ n, v = .int n ∧ Value.TooLarge n) := by
  cases v with
  | bool x => cases h
  | int n =>
      simp only [Value.toFloat] at h
      split_ifs at h with hlarge
      cases h
      exact .inr (.inr ⟨rfl, n, rfl, hlarge⟩)
  | float x => cases h
  | str s =>
      simp only [Value.toFloat] at h
      split at h <;> cases h
      exact .inl rfl
  | _ =>
      cases h
      exact .inr (.inl rfl)

theorem kind_of_asDict (h : v.asDict = .error e) : e.kind = .attributeError := by
  cases v with
  | dict entries => cases h
  | _ =>
      cases h
      rfl

end

end Python
