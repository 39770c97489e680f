import FeatureFlags.Criterion.Stored
import FeatureFlags.Specification

namespace FeatureFlags

variable {σ : Type} [Criterion σ]

namespace Specification

def after (specification : Specification σ) (settings : List (String × String)) : Specification σ :=
  settings.foldl (fun specification setting => (specification.assign setting.1 setting.2).2)
    specification

theorem after_append (specification : Specification σ) (settings later : List (String × String)) :
    specification.after (settings ++ later) = (specification.after settings).after later :=
  List.foldl_append

/-- Whatever was assigned before, a refused parameter leaves the state as it is. -/
def Steady (specification : Specification σ) : Prop :=
  ∀ (settings : List (String × String)) (name value : String) (duplicate : DuplicateParameter),
    ((specification.after settings).assign name value).1 = .error duplicate →
      ((specification.after settings).assign name value).2 = specification.after settings

theorem Steady.after {specification : Specification σ} (steady : specification.Steady)
    (settings : List (String × String)) : (specification.after settings).Steady := by
  intro later
  rw [← after_append]
  exact steady (settings ++ later)

/-- Stored parameters are never half assigned. -/
theorem steady_stored {ρ : Type} [ParameterRule ρ] (specification : Specification (Stored ρ)) :
    specification.Steady := by
  intro settings name value duplicate refused
  generalize specification.after settings = reached at refused ⊢
  cases reached with
  | constant vote => rfl
  | custom stored =>
    simp only [Specification.assign, Criterion.assign, Stored.assign] at refused ⊢
    cases answer : stored.parameters.insert name value with
    | ok parameters => simp [answer] at refused
    | error _ => rfl

end Specification

end FeatureFlags
