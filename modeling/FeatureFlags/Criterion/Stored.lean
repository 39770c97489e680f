import FeatureFlags.Criterion

namespace FeatureFlags

/-- A vote and a check that depend on stored parameters alone. -/
class ParameterRule (ρ : Type) where
  holds : ρ → Parameters → Bool
  check : ρ → Parameters → String → Except InvalidParameter Unit

/-- A rule with the parameters it has been given. -/
structure Stored (ρ : Type) where
  rule : ρ
  parameters : Parameters := {}
deriving DecidableEq, Repr

namespace Stored

variable {ρ : Type}

def assign (stored : Stored ρ) (name value : String) : Except DuplicateParameter Unit × Stored ρ :=
  match stored.parameters.insert name value with
  | .error duplicate => (.error duplicate, stored)
  | .ok parameters => (.ok (), { stored with parameters })

instance [ParameterRule ρ] : Criterion (Stored ρ) where
  vote stored := ParameterRule.holds stored.rule stored.parameters
  assign := assign
  check stored feature := ParameterRule.check stored.rule stored.parameters feature

end Stored

end FeatureFlags
