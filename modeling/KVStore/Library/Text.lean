import Mathlib.Data.Int.Notation
import Mathlib.Data.List.Basic

/-!
# Python strings

A Python string is a list of code points, surrogates among them, and a string with a surrogate
cannot be encoded in UTF-8. A `Char` is no surrogate. So a Python string is kept as a `String`
in which `surrogateMark` and a second character stand for a surrogate, and `escapeMark` and a
second character for each of the two marks; any other character stands for itself. Joining
two strings and comparing them are as in Python.
-/

namespace Python

/-- U+D7FE, which is not assigned. -/
def escapeMark : Char := Char.ofNat 0xd7fe

/-- U+D7FF, which is not assigned. -/
def surrogateMark : Char := Char.ofNat 0xd7ff

/-- A code point of a Python string; `surrogate n` is U+D800 + `n`. -/
inductive CodePoint
  | scalar (c : Char)
  | surrogate (n : Fin 2048)
deriving DecidableEq

def CodePoint.write : CodePoint → List Char
  | .surrogate n => [surrogateMark, Char.ofNat n]
  | .scalar c =>
      if c = escapeMark then [escapeMark, '0']
      else if c = surrogateMark then [escapeMark, '1']
      else [c]

@[simp]
theorem CodePoint.write_surrogate (n : Fin 2048) :
    (surrogate n).write = [surrogateMark, Char.ofNat n] := rfl

theorem CodePoint.write_scalar (c : Char) : (scalar c).write =
    if c = escapeMark then [escapeMark, '0']
    else if c = surrogateMark then [escapeMark, '1']
    else [c] := rfl

/-- The string with these code points. -/
def ofCodePoints (points : List CodePoint) : String :=
  String.ofList (points.flatMap CodePoint.write)

def readCodePoints : List Char → List CodePoint
  | [] => []
  | [c] => [.scalar c]
  | c :: d :: rest =>
      if c = surrogateMark then .surrogate (Fin.ofNat 2048 d.toNat) :: readCodePoints rest
      else if c = escapeMark then
        .scalar (if d = '0' then escapeMark else surrogateMark) :: readCodePoints rest
      else .scalar c :: readCodePoints (d :: rest)

/-- `list(s)`, as code points. -/
def codePoints (s : String) : List CodePoint := readCodePoints s.toList

/-- The string can be encoded in UTF-8, and so it can be printed: it holds no surrogate. -/
def Printable (s : String) : Prop := surrogateMark ∉ s.toList

instance (s : String) : Decidable (Printable s) := inferInstanceAs (Decidable (¬ _))

theorem surrogateMark_ne_escapeMark : surrogateMark ≠ escapeMark := by decide

theorem toNat_ofNat_fin (n : Fin 2048) : (Char.ofNat n).toNat = n := by
  have hlt : (n : ℕ) < 0xd800 := Nat.lt_trans n.isLt (by decide)
  rw [Char.ofNat, dif_pos (.inl hlt)]
  rfl

theorem readCodePoints_write (point : CodePoint) (rest : List Char) :
    readCodePoints (point.write ++ rest) = point :: readCodePoints rest := by
  cases point with
  | surrogate n =>
      have hn : Fin.ofNat 2048 n = n := Fin.ext (Nat.mod_eq_of_lt n.isLt)
      simp only [CodePoint.write_surrogate, List.cons_append, List.nil_append, readCodePoints,
        if_true, toNat_ofNat_fin, hn]
  | scalar c =>
      rw [CodePoint.write_scalar]
      split_ifs with hescape hsurrogate
      · simp [readCodePoints, surrogateMark_ne_escapeMark.symm, hescape]
      · simp [readCodePoints, surrogateMark_ne_escapeMark.symm, hsurrogate]
      · cases rest with
        | nil => rfl
        | cons d rest => simp [readCodePoints, hescape, hsurrogate]

theorem codePoints_ofCodePoints (points : List CodePoint) :
    codePoints (ofCodePoints points) = points := by
  rw [codePoints, ofCodePoints, String.toList_ofList]
  induction points with
  | nil => rfl
  | cons point points ih => rw [List.flatMap_cons, readCodePoints_write, ih]

/-- Different Python strings are kept as different strings. -/
theorem ofCodePoints_injective : Function.Injective ofCodePoints :=
  Function.LeftInverse.injective codePoints_ofCodePoints

theorem ofCodePoints_append (points more : List CodePoint) :
    ofCodePoints (points ++ more) = ofCodePoints points ++ ofCodePoints more := by
  rw [ofCodePoints, List.flatMap_append, String.ofList_append, ofCodePoints, ofCodePoints]

theorem surrogateMark_mem_write {point : CodePoint} :
    surrogateMark ∈ point.write ↔ ∃ n, point = .surrogate n := by
  cases point with
  | surrogate n => simp
  | scalar c =>
      refine iff_of_false ?_ (by simp)
      rw [CodePoint.write_scalar]
      split_ifs with _ hsurrogate
      · decide
      · decide
      · exact fun h => hsurrogate (List.mem_singleton.1 h).symm

/-- What cannot be encoded are the strings with a surrogate. -/
theorem printable_ofCodePoints {points : List CodePoint} :
    Printable (ofCodePoints points) ↔ ∀ n, .surrogate n ∉ points := by
  rw [Printable, ofCodePoints, String.toList_ofList, List.mem_flatMap]
  simp only [surrogateMark_mem_write]
  constructor
  · intro h n hn
    exact h ⟨_, hn, n, rfl⟩
  · rintro h ⟨_, hn, n, rfl⟩
    exact h n hn

/-- The form in which a literal is decided. -/
theorem printable_ofList {chars : List Char} :
    Printable (String.ofList chars) ↔ surrogateMark ∉ chars := by
  rw [Printable, String.toList_ofList]

@[simp]
theorem printable_append {s t : String} : Printable (s ++ t) ↔ Printable s ∧ Printable t := by
  rw [Printable, String.toList_append, List.mem_append, not_or, Printable, Printable]

theorem printable_toString (n : ℕ) : Printable (toString n) := by
  intro h
  rw [Nat.toString_eq_ofList_toDigits, String.toList_ofList] at h
  have hdigit := Nat.isDigit_of_mem_toDigits (by decide) (by decide) h
  revert hdigit
  decide

theorem printable_toString_int (n : ℤ) : Printable (toString n) := by
  cases n with
  | ofNat n => exact printable_toString n
  | negSucc n => exact printable_append.2 ⟨by decide, printable_toString (n + 1)⟩

end Python
