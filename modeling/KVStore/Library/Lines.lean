import Mathlib.Data.List.Infix

/-!
# Lines of a text

A text is a list of characters in which each line is followed by a separator. `read` gives the
lines that are complete, so that a text that was cut off reads as a first part of the lines.
-/

namespace Lines

variable {α : Type*} (sep : α)

/-- Each line is followed by the separator. -/
def terminated (lines : List (List α)) : List α := lines.flatMap (· ++ [sep])

theorem terminated_append (lines more : List (List α)) :
    terminated sep (lines ++ more) = terminated sep lines ++ terminated sep more :=
  List.flatMap_append

variable [DecidableEq α]

def read (text : List α) : List (List α) := (text.splitOn sep).dropLast

theorem read_nil : read sep [] = [] := by
  rw [read, List.splitOn_nil, List.dropLast_singleton]

variable {sep}

theorem splitOn_terminated_append {lines : List (List α)} (h : ∀ line ∈ lines, sep ∉ line)
    (rest : List α) : (terminated sep lines ++ rest).splitOn sep = lines ++ rest.splitOn sep := by
  induction lines with
  | nil => rfl
  | cons line lines ih =>
      obtain ⟨hline, hlines⟩ := List.forall_mem_cons.1 h
      rw [terminated, List.flatMap_cons, List.append_assoc, List.append_assoc,
        List.singleton_append, List.splitOn_append_cons_self_of_not_mem hline,
        List.cons_append]
      exact congrArg _ (ih hlines)

/-- What follows the last separator is not read. -/
theorem read_terminated_append {lines : List (List α)} (h : ∀ line ∈ lines, sep ∉ line)
    (rest : List α) : read sep (terminated sep lines ++ rest) = lines ++ read sep rest := by
  rw [read, splitOn_terminated_append h,
    List.dropLast_append_of_ne_nil (List.splitOn_ne_nil sep rest), read]

theorem read_terminated {lines : List (List α)} (h : ∀ line ∈ lines, sep ∉ line) :
    read sep (terminated sep lines) = lines := by
  have hread := read_terminated_append h []
  rwa [List.append_nil, read_nil, List.append_nil] at hread

theorem exists_terminated (sep : α) (text : List α) : ∃ lines rest,
    text = terminated sep lines ++ rest ∧ (∀ line ∈ lines, sep ∉ line) ∧ sep ∉ rest := by
  induction text with
  | nil => exact ⟨[], [], rfl, List.forall_mem_nil _, List.not_mem_nil⟩
  | cons c text ih =>
      obtain ⟨lines, rest, rfl, hlines, hrest⟩ := ih
      by_cases hc : c = sep
      · exact ⟨[] :: lines, rest, by simp [terminated, hc],
          List.forall_mem_cons.2 ⟨List.not_mem_nil, hlines⟩, hrest⟩
      have hcons : ∀ {line : List α}, sep ∉ line → sep ∉ c :: line := fun hline =>
        List.not_mem_cons_of_ne_of_not_mem (Ne.symm hc) hline
      cases lines with
      | nil => exact ⟨[], c :: rest, rfl, List.forall_mem_nil _, hcons hrest⟩
      | cons line lines =>
          obtain ⟨hline, hlines⟩ := List.forall_mem_cons.1 hlines
          exact ⟨(c :: line) :: lines, rest, rfl,
            List.forall_mem_cons.2 ⟨hcons hline, hlines⟩, hrest⟩

/-- A text that is cut off reads as a first part of what it would have been read as. -/
theorem read_isPrefix (sep : α) (text more : List α) :
    read sep text <+: read sep (text ++ more) := by
  obtain ⟨lines, rest, rfl, hlines, hrest⟩ := exists_terminated sep text
  rw [List.append_assoc, read_terminated_append hlines, read_terminated_append hlines, read,
    List.splitOn_eq_singleton hrest, List.dropLast_singleton, List.append_nil]
  exact List.prefix_append _ _

end Lines
