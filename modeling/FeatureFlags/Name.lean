import FeatureFlags.Text.Casing

namespace FeatureFlags

/-- What names are compared by: two spellings that differ only in case are one name. -/
def nameKey (name : String) : String := String.ofList (Text.lowercase name.toList)

def sameName (left right : String) : Bool := nameKey left == nameKey right

theorem sameName_iff {left right : String} :
    sameName left right = true ↔ nameKey left = nameKey right := by
  simp [sameName]

theorem sameName_refl (name : String) : sameName name name = true := by
  simp [sameName]

theorem sameName_comm (left right : String) : sameName left right = sameName right left := by
  rw [Bool.eq_iff_iff, sameName_iff, sameName_iff, eq_comm]

theorem sameName_congr_right {name other : String} (same : nameKey name = nameKey other)
    {left : String} : sameName left name = sameName left other := by
  simp [sameName, same]

end FeatureFlags
