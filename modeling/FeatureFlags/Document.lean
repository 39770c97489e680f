import FeatureFlags.Catalog
import FeatureFlags.Document.Draft

namespace FeatureFlags

variable {σ : Type} [Criterion σ]

/-- The catalog that the rows describe, or all that is wrong with them: faults of rows first, then
    what the checks of the specifications find. -/
def parse (registry : Registry σ) (rows : List String) : Except Problems (Catalog σ) :=
  let scanned := Draft.scan registry {} (rows.map .ofRow)
  let problems := Problem.ofFaults 1 scanned.1 ++ scanned.2.failures.map .invalidParameter
  match Problems.ofList? problems with
  | some problems => .error problems
  | none => .ok (.ofFeatures scanned.2.features.values)

end FeatureFlags
