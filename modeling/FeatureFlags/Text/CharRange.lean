namespace FeatureFlags.Text

/-- The characters whose code points lie from `first` to `last`, both included. -/
structure CharRange where
  first : Nat
  last : Nat
deriving DecidableEq, Repr

def CharRange.contains (range : CharRange) (c : Char) : Bool :=
  decide (range.first ≤ c.toNat) && decide (c.toNat ≤ range.last)

def inRanges (ranges : List CharRange) (c : Char) : Bool :=
  ranges.any (·.contains c)

theorem CharRange.contains_iff {range : CharRange} {c : Char} :
    range.contains c = true ↔ range.first ≤ c.toNat ∧ c.toNat ≤ range.last := by
  simp [contains]

theorem inRanges_iff {ranges : List CharRange} {c : Char} :
    inRanges ranges c = true ↔ ∃ range ∈ ranges, range.first ≤ c.toNat ∧ c.toNat ≤ range.last := by
  simp [inRanges, CharRange.contains_iff]

end FeatureFlags.Text
