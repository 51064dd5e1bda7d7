import KVStore.Library.Python
import Mathlib.Data.Set.Basic

/-!
# Exceptions that are not caught

`x.Escapes caught` says that the computation `x` raises an exception which is not in
`caught`. There is one rule for each way in which computations are put together, and one
for each coercion of a Python value.
-/

namespace Except

universe u

variable {ε : Type*} {α β : Type u} {caught : Set ε} {x : Except ε α}

/-- The computation returns a value. -/
def Succeeds (x : Except ε α) : Prop := ∃ a, x = .ok a

/-- The computation raises an exception that is not caught. -/
def Escapes (caught : Set ε) (x : Except ε α) : Prop := ∃ e, x = .error e ∧ e ∉ caught

theorem not_escapes_ok (a : α) : ¬ (ok a : Except ε α).Escapes caught := by
  rintro ⟨e, h, _⟩
  cases h

theorem escapes_error {e : ε} : (error e : Except ε α).Escapes caught ↔ e ∉ caught := by
  constructor
  · rintro ⟨e', h, hcaught⟩
    cases h
    exact hcaught
  · intro h
    exact ⟨e, rfl, h⟩

/-- The second computation only runs when the first one returned. -/
theorem escapes_bind {f : α → Except ε β} :
    (x >>= f).Escapes caught ↔ x.Escapes caught ∨ ∃ a, x = .ok a ∧ (f a).Escapes caught := by
  cases x with
  | error e =>
      rw [escapes_error]
      constructor
      · intro h
        exact .inl (escapes_error.1 h)
      · rintro (h | ⟨a, ha, _⟩)
        · exact escapes_error.2 h
        · cases ha
  | ok a =>
      constructor
      · intro h
        exact .inr ⟨a, rfl, h⟩
      · rintro (h | ⟨a', ha, h⟩)
        · exact absurd h (not_escapes_ok a)
        · cases ha
          exact h

theorem bind_eq_ok_iff {f : α → Except ε β} {c : β} :
    x >>= f = .ok c ↔ ∃ a, x = .ok a ∧ f a = .ok c := by
  cases x with
  | error e =>
      refine iff_of_false (fun h => ?_) ?_
      · cases h
      · rintro ⟨a, h, _⟩
        cases h
  | ok a =>
      constructor
      · intro h
        exact ⟨a, rfl, h⟩
      · rintro ⟨a', h, hf⟩
        cases h
        exact hf

theorem exists_map_eq_ok {f : α → β} : (∃ c, x.map f = .ok c) ↔ ∃ a, x = .ok a := by
  cases x with
  | error e =>
      refine iff_of_false ?_ ?_
      · rintro ⟨c, h⟩
        cases h
      · rintro ⟨a, h⟩
        cases h
  | ok a => exact iff_of_true ⟨f a, rfl⟩ ⟨a, rfl⟩

theorem escapes_map {f : α → β} : (x.map f).Escapes caught ↔ x.Escapes caught := by
  cases x with
  | error e => exact escapes_error.trans escapes_error.symm
  | ok a => exact iff_of_false (not_escapes_ok _) (not_escapes_ok _)

theorem escapes_inter {other : Set ε} :
    x.Escapes (caught ∩ other) ↔ x.Escapes caught ∨ x.Escapes other := by
  cases x with
  | error e => simp only [escapes_error, Set.mem_inter_iff, not_and_or]
  | ok a => simp only [not_escapes_ok, or_self]

/-- The list is computed up to the first element with an exception. -/
theorem escapes_mapM {f : α → Except ε β} {xs : List α} :
    (xs.mapM f).Escapes caught ↔
      ∃ before a after, xs = before ++ a :: after ∧ (∀ a' ∈ before, (f a').Succeeds) ∧
        (f a).Escapes caught := by
  induction xs with
  | nil =>
      refine iff_of_false (not_escapes_ok []) ?_
      rintro ⟨before, a, after, h, _⟩
      exact absurd h.symm (List.append_ne_nil_of_right_ne_nil before (List.cons_ne_nil a after))
  | cons head tail ih =>
      rw [List.mapM_cons, escapes_bind]
      constructor
      · rintro (h | ⟨y, hy, h⟩)
        · exact ⟨[], head, tail, rfl, by simp, h⟩
        · rcases escapes_bind.1 h with h | ⟨ys, _, h⟩
          · obtain ⟨before, a, after, rfl, hbefore, ha⟩ := ih.1 h
            refine ⟨head :: before, a, after, rfl, ?_, ha⟩
            intro a' ha'
            rcases List.mem_cons.1 ha' with rfl | ha'
            · exact ⟨y, hy⟩
            · exact hbefore a' ha'
          · exact absurd h (not_escapes_ok _)
      · rintro ⟨before, a, after, hsplit, hbefore, ha⟩
        cases before with
        | nil =>
            cases hsplit
            exact .inl ha
        | cons first before =>
            cases hsplit
            obtain ⟨y, hy⟩ := hbefore head List.mem_cons_self
            refine .inr ⟨y, hy, escapes_bind.2 (.inl (ih.2 ⟨before, a, after, rfl, ?_, ha⟩))⟩
            exact fun a' ha' => hbefore a' (List.mem_cons_of_mem head ha')

end Except

namespace Python

open Except

/-- The exceptions that an `except` clause with these classes catches. -/
def handled (kinds : List ErrorKind) : Set PyError := {e | e.kind ∈ kinds}

theorem mem_handled {kinds : List ErrorKind} {e : PyError} :
    e ∈ handled kinds ↔ e.kind ∈ kinds := Iff.rfl

/-- The exceptions whose text can be printed. -/
def reportable : Set PyError := {e | Printable e.text}

theorem mem_reportable {e : PyError} : e ∈ reportable ↔ Printable e.text := Iff.rfl

def Value.IsInfinite (v : Value) : Prop := ∃ negative, v = .float (.infinite negative)

/-- An integer beyond the largest finite float. -/
def Value.IsTooLarge (v : Value) : Prop := ∃ n, v = .int n ∧ Value.TooLarge n

/-- The value is none that `int` and `float` convert: no number, no `bool` and no string. -/
def Value.IsNoNumber (v : Value) : Prop :=
  v = .null ∨ (∃ xs, v = .list xs) ∨ ∃ entries, v = .dict entries

section

variable {b : Builtins} {v : Value} {kinds : List ErrorKind}

theorem not_escapes_toStr (hvalue : .valueError ∈ kinds) :
    ¬ (v.toStr b).Escapes (handled kinds) := by
  rintro ⟨e, h, hkind⟩
  rw [mem_handled, kind_of_toStr h] at hkind
  exact hkind hvalue

theorem isNoNumber_of_toInt {e : PyError} (h : v.toInt b = .error e)
    (hkind : e.kind = .typeError) : v.IsNoNumber := by
  cases v with
  | null => exact .inl rfl
  | list xs => exact .inr (.inl ⟨xs, rfl⟩)
  | dict entries => exact .inr (.inr ⟨entries, rfl⟩)
  | bool x => cases h
  | int n => cases h
  | float x => cases x <;> cases h <;> cases hkind
  | str s =>
      rw [Value.toInt] at h
      split at h <;> cases h
      cases hkind

theorem isNoNumber_of_toFloat {e : PyError} (h : v.toFloat b = .error e)
    (hkind : e.kind = .typeError) : v.IsNoNumber := by
  cases v with
  | null => exact .inl rfl
  | list xs => exact .inr (.inl ⟨xs, rfl⟩)
  | dict entries => exact .inr (.inr ⟨entries, rfl⟩)
  | bool x => cases h
  | int n =>
      rw [Value.toFloat] at h
      split_ifs at h
      cases h
      cases hkind
  | float x => cases h
  | str s =>
      rw [Value.toFloat] at h
      split at h <;> cases h
      cases hkind

theorem escapes_toInt (hvalue : .valueError ∈ kinds) (hoverflow : .overflowError ∉ kinds) :
    (v.toInt b).Escapes (handled kinds) ↔
      v.IsInfinite ∨ (.typeError ∉ kinds ∧ v.IsNoNumber) := by
  constructor
  · rintro ⟨e, h, hkind⟩
    rw [mem_handled] at hkind
    rcases kind_of_toInt h with heq | heq | ⟨_, negative, rfl⟩
    · exact absurd (heq ▸ hvalue) hkind
    · exact .inr ⟨heq ▸ hkind, isNoNumber_of_toInt h heq⟩
    · exact .inl ⟨negative, rfl⟩
  · rintro (⟨negative, rfl⟩ | ⟨htype, rfl | ⟨xs, rfl⟩ | ⟨entries, rfl⟩⟩)
    · exact escapes_error.2 hoverflow
    · exact escapes_error.2 htype
    · exact escapes_error.2 htype
    · exact escapes_error.2 htype

theorem escapes_toFloat (hvalue : .valueError ∈ kinds) (hoverflow : .overflowError ∉ kinds) :
    (v.toFloat b).Escapes (handled kinds) ↔
      v.IsTooLarge ∨ (.typeError ∉ kinds ∧ v.IsNoNumber) := by
  constructor
  · rintro ⟨e, h, hkind⟩
    rw [mem_handled] at hkind
    rcases kind_of_toFloat h with heq | heq | ⟨_, n, rfl, hlarge⟩
    · exact absurd (heq ▸ hvalue) hkind
    · exact .inr ⟨heq ▸ hkind, isNoNumber_of_toFloat h heq⟩
    · exact .inl ⟨n, rfl, hlarge⟩
  · rintro (⟨n, rfl, hlarge⟩ | ⟨htype, rfl | ⟨xs, rfl⟩ | ⟨entries, rfl⟩⟩)
    · rw [Value.toFloat, if_pos hlarge]
      exact escapes_error.2 hoverflow
    · exact escapes_error.2 htype
    · exact escapes_error.2 htype
    · exact escapes_error.2 htype

theorem escapes_asDict (hattribute : .attributeError ∉ kinds) :
    v.asDict.Escapes (handled kinds) ↔ ∀ entries, v ≠ .dict entries := by
  constructor
  · rintro hescapes entries rfl
    exact not_escapes_ok entries hescapes
  · intro h
    cases hv : v.asDict with
    | error e => exact escapes_error.2 fun hcaught => hattribute (kind_of_asDict hv ▸ hcaught)
    | ok entries =>
        cases v with
        | dict entries' => exact absurd rfl (h entries')
        | _ => cases hv

theorem item_eq_ok_iff {entries : Object} {key : String} :
    entries.item key = .ok v ↔ entries.get key = some v := by
  unfold Object.item
  cases entries.get key with
  | none => simp
  | some v' => simp

theorem escapes_item {entries : Object} {key : String} :
    (entries.item key).Escapes (handled kinds) ↔
      .keyError ∉ kinds ∧ entries.get key = none := by
  unfold Object.item
  cases h : entries.get key with
  | none => simp [escapes_error, mem_handled]
  | some v => exact iff_of_false (not_escapes_ok v) (by simp)

/-! ### The texts of the exceptions -/

theorem printable_typeName (v : Value) : Printable v.typeName := by
  cases v <;> simp only [Value.typeName] <;> decide

theorem reportable_toStr : ¬ (v.toStr b).Escapes reportable := by
  have htext : Printable ("Exceeds the limit (4300 digits) for integer string conversion; " ++
      "use sys.set_int_max_str_digits() to increase the limit") :=
    printable_append.2 ⟨printable_ofList.2 (by decide), printable_ofList.2 (by decide)⟩
  cases v with
  | str s => exact not_escapes_ok s
  | _ =>
      unfold Value.toStr
      split
      · exact not_escapes_ok _
      · split
        · exact not_escapes_ok _
        · exact fun h => escapes_error.1 h htext

theorem reportable_toInt : ¬ (v.toInt b).Escapes reportable := by
  have htype : ∀ v : Value, Printable ("int() argument must be a string, a bytes-like object or " ++
      "a real number, not '" ++ v.typeName ++ "'") := by
    intro v
    simp only [printable_append]
    exact ⟨⟨⟨printable_ofList.2 (by decide), by decide⟩, printable_typeName v⟩, by decide⟩
  cases v with
  | bool x => exact not_escapes_ok _
  | int n => exact not_escapes_ok _
  | float x =>
      cases x with
      | finite q => exact not_escapes_ok _
      | infinite negative =>
          exact fun h => escapes_error.1 h (printable_ofList.2 (by decide) :
            Printable "cannot convert float infinity to integer")
      | nan =>
          exact fun h => escapes_error.1 h (printable_ofList.2 (by decide) :
            Printable "cannot convert float NaN to integer")
  | str s =>
      simp only [Value.toInt]
      split
      · exact not_escapes_ok _
      · exact fun h => escapes_error.1 h (printable_append.2
          ⟨printable_ofList.2 (by decide), b.printable_quote s⟩)
  | _ => exact fun h => escapes_error.1 h (htype _)

theorem reportable_toFloat : ¬ (v.toFloat b).Escapes reportable := by
  have htype : ∀ v : Value, Printable ("float() argument must be a string or a real number, " ++
      "not '" ++ v.typeName ++ "'") := by
    intro v
    simp only [printable_append]
    exact ⟨⟨⟨printable_ofList.2 (by decide), by decide⟩, printable_typeName v⟩, by decide⟩
  cases v with
  | bool x => exact not_escapes_ok _
  | int n =>
      simp only [Value.toFloat]
      split_ifs
      · exact fun h => escapes_error.1 h (printable_ofList.2 (by decide) :
          Printable "int too large to convert to float")
      · exact not_escapes_ok _
  | float x => exact not_escapes_ok _
  | str s =>
      simp only [Value.toFloat]
      split
      · exact not_escapes_ok _
      · exact fun h => escapes_error.1 h (printable_append.2
          ⟨printable_ofList.2 (by decide), b.printable_quote s⟩)
  | _ => exact fun h => escapes_error.1 h (htype _)

theorem reportable_asDict : ¬ v.asDict.Escapes reportable := by
  cases v with
  | dict entries => exact not_escapes_ok entries
  | _ =>
      exact fun h => escapes_error.1 h (printable_append.2
        ⟨printable_append.2 ⟨by decide, printable_typeName _⟩, printable_ofList.2 (by decide)⟩)

theorem reportable_item {entries : Object} {key : String} (hkey : Printable key) :
    ¬ (entries.item key).Escapes reportable := by
  unfold Object.item
  cases entries.get key with
  | none =>
      exact fun h => escapes_error.1 h (printable_append.2
        ⟨printable_append.2 ⟨by decide, hkey⟩, by decide⟩)
  | some v => exact not_escapes_ok v

end

end Python
