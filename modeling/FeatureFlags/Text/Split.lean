namespace FeatureFlags.Text

/-- The parts between the separators; a text without one is its own only part. -/
def split (separator : Char) : List Char → List (List Char)
  | [] => [[]]
  | c :: rest =>
    if c = separator then [] :: split separator rest
    else (split separator rest).modifyHead (c :: ·)

theorem split_separator (separator : Char) (rest : List Char) :
    split separator (separator :: rest) = [] :: split separator rest := by
  simp [split]

theorem split_other {separator c : Char} (other : c ≠ separator) (rest : List Char) :
    split separator (c :: rest) = (split separator rest).modifyHead (c :: ·) := by
  simp [split, other]

theorem split_ne_nil (separator : Char) (text : List Char) : split separator text ≠ [] := by
  induction text with
  | nil => simp [split]
  | cons c rest ih =>
    by_cases same : c = separator
    · simp [split, same]
    · rw [split_other same]
      cases parts : split separator rest with
      | nil => exact absurd parts ih
      | cons part others => simp

end FeatureFlags.Text
