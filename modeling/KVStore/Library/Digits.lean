import Mathlib.Algebra.Order.Group.Nat
import Mathlib.Tactic.IntervalCases

/-!
# Zero-padded numerals

`zeroPad b width n` is the base-`b` numeral of `n`, filled up with zeros on the
left to at least `width` characters: the format `0{width}d` for `b = 10` and
`0{width}x` for `b = 16`. Numerals longer than `width` are not cut, so reading
the digits back gives `n`, and the format is injective with no bound on `n`. So is
`toString` on the integers, also behind a separator that is no digit.
-/

namespace Digits

def digitValue (c : Char) : ℕ :=
  ((List.range 16).find? fun d => Nat.digitChar d = c).getD 0

def value (b : ℕ) (cs : List Char) : ℕ :=
  cs.foldl (fun v c => b * v + digitValue c) 0

/-- The base-`b` numeral of `n`, at least `width` characters long. -/
def zeroPad (b width n : ℕ) : List Char :=
  List.replicate (width - (Nat.toDigits b n).length) '0' ++ Nat.toDigits b n

theorem digitValue_digitChar {d : ℕ} (hd : d < 16) :
    digitValue (Nat.digitChar d) = d := by
  interval_cases d <;> decide

theorem value_append_singleton (b : ℕ) (cs : List Char) (c : Char) :
    value b (cs ++ [c]) = b * value b cs + digitValue c := by
  simp [value]

theorem value_toDigits {b : ℕ} (hb : 1 < b) (hb' : b ≤ 16) (n : ℕ) :
    value b (Nat.toDigits b n) = n := by
  induction n using Nat.strong_induction_on with
  | _ n ih =>
      by_cases hn : n < b
      · rw [Nat.toDigits_of_lt_base hn]
        simpa [value] using digitValue_digitChar (lt_of_lt_of_le hn hb')
      · have hle : b ≤ n := Nat.le_of_not_lt hn
        have hlt : n / b < n := Nat.div_lt_self (by omega) hb
        have hmod : n % b < 16 := lt_of_lt_of_le (Nat.mod_lt n (by omega)) hb'
        rw [Nat.toDigits_of_base_le hb hle, value_append_singleton, ih _ hlt,
          digitValue_digitChar hmod]
        exact Nat.div_add_mod n b

theorem value_replicate_zero_append (b k : ℕ) (cs : List Char) :
    value b (List.replicate k '0' ++ cs) = value b cs := by
  have hzero : digitValue '0' = 0 := by decide
  have hrep : (List.replicate k '0').foldl (fun v c => b * v + digitValue c) 0 = 0 := by
    induction k with
    | zero => rfl
    | succ k ih => simpa [List.replicate_succ, hzero] using ih
  rw [value, List.foldl_append, hrep, value]

/-- Padding does not change the number that is read back. -/
theorem value_zeroPad {b : ℕ} (hb : 1 < b) (hb' : b ≤ 16) (width n : ℕ) :
    value b (zeroPad b width n) = n := by
  rw [zeroPad, value_replicate_zero_append, value_toDigits hb hb']

theorem zeroPad_injective {b : ℕ} (hb : 1 < b) (hb' : b ≤ 16) (width : ℕ) :
    Function.Injective (zeroPad b width) := by
  intro m n h
  rw [← value_zeroPad hb hb' width m, h, value_zeroPad hb hb']

theorem length_zeroPad {b width n : ℕ} (hb : 1 < b) (hw : 0 < width)
    (hn : n < b ^ width) : (zeroPad b width n).length = width := by
  have hlen : (Nat.toDigits b n).length ≤ width :=
    (Nat.length_toDigits_le_iff hb hw).2 hn
  rw [zeroPad, List.length_append, List.length_replicate]
  omega

theorem mem_toDigits {b : ℕ} (hb : 1 < b) {n : ℕ} {c : Char}
    (hc : c ∈ Nat.toDigits b n) : ∃ d, d < b ∧ c = Nat.digitChar d := by
  induction n using Nat.strong_induction_on with
  | _ n ih =>
      by_cases hn : n < b
      · rw [Nat.toDigits_of_lt_base hn, List.mem_singleton] at hc
        exact ⟨n, hn, hc⟩
      · have hle : b ≤ n := Nat.le_of_not_lt hn
        rw [Nat.toDigits_of_base_le hb hle, List.mem_append,
          List.mem_singleton] at hc
        rcases hc with hc | hc
        · exact ih (n / b) (Nat.div_lt_self (by omega) hb) hc
        · exact ⟨n % b, Nat.mod_lt n (by omega), hc⟩

theorem mem_zeroPad {b : ℕ} (hb : 1 < b) {width n : ℕ} {c : Char}
    (hc : c ∈ zeroPad b width n) : ∃ d, d < b ∧ c = Nat.digitChar d := by
  rw [zeroPad, List.mem_append] at hc
  rcases hc with hc | hc
  · exact ⟨0, by omega, List.eq_of_mem_replicate hc⟩
  · exact mem_toDigits hb hc

theorem toDigits_injective {b : ℕ} (hb : 1 < b) (hb' : b ≤ 16) :
    Function.Injective (Nat.toDigits b) := by
  intro m n h
  rw [← value_toDigits hb hb' m, h, value_toDigits hb hb']

/-! ### Numerals with a sign -/

theorem toList_toString (n : ℤ) :
    (toString n).toList = match n with
      | .ofNat m => Nat.toDigits 10 m
      | .negSucc m => '-' :: Nat.toDigits 10 (m + 1) := by
  cases n with
  | ofNat m => exact Nat.toList_repr
  | negSucc m =>
      change ("-" ++ (m + 1).repr).toList = _
      rw [String.toList_append, Nat.toList_repr]
      rfl

theorem notMem_toString {c : Char} (hdigit : c.isDigit = false) (hsign : c ≠ '-') (n : ℤ) :
    c ∉ (toString n).toList := by
  have hdigits : ∀ m, c ∉ Nat.toDigits 10 m := by
    intro m hmem
    rw [Nat.isDigit_of_mem_toDigits (by decide) (by decide) hmem] at hdigit
    cases hdigit
  rw [toList_toString]
  cases n with
  | ofNat m => exact hdigits m
  | negSucc m =>
      rw [List.mem_cons, not_or]
      exact ⟨hsign, hdigits _⟩

theorem toString_injective : Function.Injective (toString : ℤ → String) := by
  have hsign : ∀ m n, Nat.toDigits 10 m ≠ '-' :: Nat.toDigits 10 n := by
    intro m n h
    have hdigit := Nat.isDigit_of_mem_toDigits (b := 10) (n := m) (c := '-') (by decide)
      (by decide) (by rw [h]; exact List.mem_cons_self)
    cases hdigit
  intro m n h
  have hlist := congrArg String.toList h
  rw [toList_toString, toList_toString] at hlist
  cases m with
  | ofNat m =>
      cases n with
      | ofNat n => exact congrArg _ (toDigits_injective (by decide) (by decide) hlist)
      | negSucc n => exact absurd hlist (hsign _ _)
  | negSucc m =>
      cases n with
      | ofNat n => exact absurd hlist.symm (hsign _ _)
      | negSucc n =>
          have hdigits := toDigits_injective (by decide) (by decide)
            ((List.cons_inj_right _).1 hlist)
          rw [Nat.succ_inj.1 hdigits]

/-- What stands behind the last separator. -/
theorem append_cons_inj {α : Type*} {c : α} {xs ys us vs : List α} (hus : c ∉ us) (hvs : c ∉ vs)
    (h : xs ++ c :: us = ys ++ c :: vs) : xs = ys ∧ us = vs := by
  induction xs generalizing ys with
  | nil =>
      cases ys with
      | nil => exact ⟨rfl, (List.cons.inj h).2⟩
      | cons y ys =>
          refine absurd ?_ hus
          rw [(List.cons.inj h).2]
          exact List.mem_append_right ys List.mem_cons_self
  | cons x xs ih =>
      cases ys with
      | nil =>
          refine absurd ?_ hvs
          rw [← (List.cons.inj h).2]
          exact List.mem_append_right xs List.mem_cons_self
      | cons y ys =>
          obtain ⟨rfl, htail⟩ := List.cons.inj h
          obtain ⟨rfl, hsame⟩ := ih htail
          exact ⟨rfl, hsame⟩

end Digits
