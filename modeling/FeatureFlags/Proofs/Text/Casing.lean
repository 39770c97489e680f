import FeatureFlags.Proofs.Text.Trim
import FeatureFlags.Text.Casing

namespace FeatureFlags.Text

theorem isBlank_eq_false {c : Char}
    (apart : ∀ range ∈ blankRanges, c.toNat < range.first ∨ range.last < c.toNat) : isBlank c = false := by
  rw [Bool.eq_false_iff]
  intro blank
  obtain ⟨range, member, low, high⟩ := inRanges_iff.mp blank
  have outside := apart range member
  omega

namespace CapitalRun

variable {run : CapitalRun} {c : Char}

def misses (run : CapitalRun) (range : CharRange) : Prop :=
  0 < range.first ∧ (run.last < range.first ∨ range.last < run.first) ∧
    (run.target + (run.last - run.first) < range.first ∨ range.last < run.target)

instance (run : CapitalRun) (range : CharRange) : Decidable (run.misses range) :=
  inferInstanceAs (Decidable (_ ∧ _))

theorem misses_blanks : ∀ run ∈ capitalRuns, ∀ range ∈ blankRanges, run.misses range := by
  decide +kernel

theorem bounds_of_covers (covered : run.covers c = true) : run.first ≤ c.toNat ∧ c.toNat ≤ run.last := by
  simp only [covers, Bool.and_eq_true, decide_eq_true_eq] at covered
  exact covered.1

theorem toNat_small (run : CapitalRun) (c : Char) :
    (run.small c).toNat = run.target + (c.toNat - run.first) ∨ (run.small c).toNat = 0 := by
  rw [small]
  generalize run.target + (c.toNat - run.first) = code
  -- A number that is no code point gives the null character, which is not blank either.
  by_cases valid : code.isValidChar
  · left
    rw [Char.ofNat, dif_pos valid]
    rfl
  · right
    rw [Char.ofNat, dif_neg valid]
    rfl

theorem isBlank_of_covers (member : run ∈ capitalRuns) (covered : run.covers c = true) :
    isBlank c = false ∧ isBlank (run.small c) = false := by
  obtain ⟨low, high⟩ := bounds_of_covers covered
  constructor <;> apply isBlank_eq_false <;> intro range blanks
  · obtain ⟨-, capitals, -⟩ := misses_blanks run member range blanks
    omega
  · obtain ⟨positive, -, letters⟩ := misses_blanks run member range blanks
    rcases toNat_small run c with code | code <;> omega

end CapitalRun

theorem lowercaseChar_ne_nil (c : Char) : lowercaseChar c ≠ [] := by
  unfold lowercaseChar
  split
  · simp
  · split <;> simp

/-- Lowercasing neither makes blanks nor takes them away. -/
theorem isBlank_of_mem_lowercaseChar {c small : Char} (member : small ∈ lowercaseChar c) :
    isBlank small = isBlank c := by
  unfold lowercaseChar at member
  split at member
  · rename_i dotted
    rw [dotted]
    simp only [List.mem_cons, List.not_mem_nil, or_false] at member
    rcases member with rfl | rfl <;> decide
  · split at member
    · rename_i run found
      have covered := List.find?_some (p := fun run : CapitalRun => run.covers c) found
      obtain ⟨capital, letter⟩ := CapitalRun.isBlank_of_covers (List.mem_of_find?_eq_some found) covered
      rw [List.mem_singleton.mp member, capital, letter]
    · rw [List.mem_singleton.mp member]

theorem lowercaseAfter_cons (before : List Char) (c : Char) (rest : List Char) :
    ∃ image, lowercaseAfter before (c :: rest) = image ++ lowercaseAfter (c :: before) rest ∧
      image ≠ [] ∧ ∀ small ∈ image, isBlank small = isBlank c := by
  rw [lowercaseAfter]
  split
  · rename_i sigma
    refine ⟨[if startsCased before && !startsCased rest then 'ς' else 'σ'], rfl, by simp, ?_⟩
    intro small member
    rw [List.mem_singleton.mp member, sigma]
    split <;> decide
  · exact ⟨lowercaseChar c, rfl, lowercaseChar_ne_nil c, fun small => isBlank_of_mem_lowercaseChar⟩

theorem lowercaseAfter_eq_nil_iff {before text : List Char} : lowercaseAfter before text = [] ↔ text = [] := by
  cases text with
  | nil => simp [lowercaseAfter]
  | cons c rest =>
    obtain ⟨image, whole, nonempty, -⟩ := lowercaseAfter_cons before c rest
    simp [whole, nonempty]

theorem startsBlank_lowercaseAfter (before text : List Char) :
    startsBlank (lowercaseAfter before text) = startsBlank text := by
  cases text with
  | nil => rfl
  | cons c rest =>
    obtain ⟨image, whole, nonempty, blanks⟩ := lowercaseAfter_cons before c rest
    obtain ⟨first, others, rfl⟩ := List.exists_cons_of_ne_nil nonempty
    rw [whole]
    exact blanks first List.mem_cons_self

theorem endsBlank_lowercaseAfter (before text : List Char) :
    endsBlank (lowercaseAfter before text) = endsBlank text := by
  induction text generalizing before with
  | nil => rfl
  | cons c rest ih =>
    obtain ⟨image, whole, nonempty, blanks⟩ := lowercaseAfter_cons before c rest
    rw [whole]
    cases rest with
    | nil =>
      have last : image.getLast? = some (image.getLast nonempty) := List.getLast?_eq_some_getLast nonempty
      rw [lowercaseAfter, List.append_nil, endsBlank, last]
      exact blanks _ (List.getLast_mem nonempty)
    | cons next others =>
      have more : lowercaseAfter (c :: before) (next :: others) ≠ [] := by
        simp [lowercaseAfter_eq_nil_iff]
      rw [endsBlank, List.getLast?_append_of_ne_nil _ more]
      exact ih (c :: before)

theorem lowercase_eq_nil_iff {text : List Char} : lowercase text = [] ↔ text = [] := lowercaseAfter_eq_nil_iff

theorem startsBlank_lowercase (text : List Char) : startsBlank (lowercase text) = startsBlank text :=
  startsBlank_lowercaseAfter [] text

theorem endsBlank_lowercase (text : List Char) : endsBlank (lowercase text) = endsBlank text :=
  endsBlank_lowercaseAfter [] text

end FeatureFlags.Text
