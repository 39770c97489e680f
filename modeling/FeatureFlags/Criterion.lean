import FeatureFlags.Parameters

namespace FeatureFlags

/-- States that vote and take parameters. A refused assignment gives the state it leaves behind. -/
class Criterion (σ : Type) where
  vote : σ → Bool
  assign : σ → String → String → Except DuplicateParameter Unit × σ
  check : σ → String → Except InvalidParameter Unit

end FeatureFlags
