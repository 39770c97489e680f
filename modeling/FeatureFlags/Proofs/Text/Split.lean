import FeatureFlags.Text.Split

namespace FeatureFlags.Text

theorem split_eq_splitOn (separator : Char) (text : List Char) :
    split separator text = text.splitOn separator := by
  induction text with
  | nil => rfl
  | cons c rest ih =>
    rw [List.splitOn_cons_eq_if_modifyHead, ← ih, split]
    by_cases same : c = separator <;> simp [same]

variable {separator : Char} {text left part : List Char}

theorem split_of_not_mem (free : separator ∉ text) : split separator text = [text] := by
  rw [split_eq_splitOn, List.splitOn_eq_singleton free]

theorem split_append (free : separator ∉ left) (rest : List Char) :
    split separator (left ++ separator :: rest) = left :: split separator rest := by
  rw [split_eq_splitOn, split_eq_splitOn, List.splitOn_append_cons_self_of_not_mem free]

theorem intercalate_split (separator : Char) (text : List Char) :
    [separator].intercalate (split separator text) = text := by
  rw [split_eq_splitOn, List.intercalate_splitOn]

theorem not_mem_of_mem_split (member : part ∈ split separator text) : separator ∉ part := by
  induction text generalizing part with
  | nil =>
    rw [split, List.mem_singleton] at member
    simp [member]
  | cons c rest ih =>
    by_cases same : c = separator
    · rw [same, split_separator] at member
      rcases List.mem_cons.mp member with rfl | later
      · exact List.not_mem_nil
      · exact ih later
    · rw [split_other same] at member
      obtain ⟨first, others, parts⟩ := List.exists_cons_of_ne_nil (split_ne_nil separator rest)
      rw [parts, List.modifyHead_cons] at member
      rcases List.mem_cons.mp member with rfl | later
      · have free : separator ∉ first := ih (by simp [parts])
        simp [Ne.symm same, free]
      · exact ih (by simp [parts, later])

theorem mem_of_mem_split {c : Char} (member : part ∈ split separator text) (present : c ∈ part) :
    c ∈ text := by
  rw [← intercalate_split separator text]
  generalize split separator text = parts at member
  induction parts with
  | nil => exact absurd member List.not_mem_nil
  | cons first others ih =>
    cases others with
    | nil =>
      rw [List.mem_singleton] at member
      rw [List.intercalate_singleton, ← member]
      exact present
    | cons second rest =>
      rw [List.intercalate_cons_cons, List.append_assoc]
      rcases List.mem_cons.mp member with rfl | later
      · exact List.mem_append_left _ present
      · exact List.mem_append_right _ (List.mem_append_right _ (ih later))

theorem length_split (separator : Char) (text : List Char) :
    (split separator text).length = text.count separator + 1 := by
  induction text with
  | nil => rfl
  | cons c rest ih =>
    by_cases same : c = separator
    · rw [same, split_separator, List.length_cons, ih, List.count_cons_self]
    · rw [split_other same, List.length_modifyHead, ih, List.count_cons_of_ne same]

end FeatureFlags.Text
