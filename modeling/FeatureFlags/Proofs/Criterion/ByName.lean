import FeatureFlags.Proofs.Criterion.Stored
import FeatureFlags.Registry
import Mathlib.Data.List.Find
import Mathlib.Data.List.Nodup

namespace FeatureFlags

namespace Parameters

theorem get?_insertAll_perm {settings other : List (String × String)} (perm : settings.Perm other)
    (distinct : (settings.map (nameKey ·.1)).Nodup) (parameters : Parameters) :
    (parameters.insertAll settings).get? = (parameters.insertAll other).get? := by
  funext name
  have once : {setting ∈ settings | sameName setting.1 name = true}.Subsingleton := by
    rintro left ⟨here, sameLeft⟩ right ⟨there, sameRight⟩
    exact List.inj_on_of_nodup_map distinct here there
      ((sameName_iff.mp sameLeft).trans (sameName_iff.mp sameRight).symm)
  rw [get?_insertAll, get?_insertAll, List.find?_eq_find?_of_perm perm once]

end Parameters

/-- The vote of the rule and whether it accepts depend on what is found under names, and not on the
    spelling of the flag. -/
structure ReadsByName {ρ : Type} [ParameterRule ρ] (rule : ρ) : Prop where
  holds : ∀ left right : Parameters, left.get? = right.get? →
    ParameterRule.holds rule left = ParameterRule.holds rule right
  check : ∀ (left right : Parameters) (flag spelling : String), left.get? = right.get? →
    nameKey flag = nameKey spelling →
      (ParameterRule.check rule left flag).isOk = (ParameterRule.check rule right spelling).isOk

variable {ρ : Type} [ParameterRule ρ]

namespace Specification

def ReadsByName : Specification (Stored ρ) → Prop
  | constant _ => True
  | custom stored => FeatureFlags.ReadsByName stored.rule

variable {specification : Specification (Stored ρ)} {settings other : List (String × String)}

theorem ReadsByName.vote_fill (byName : specification.ReadsByName) (perm : settings.Perm other)
    (distinct : (settings.map (nameKey ·.1)).Nodup) :
    (specification.fill settings).vote = (specification.fill other).vote := by
  cases specification with
  | constant vote => rfl
  | custom stored => exact byName.holds _ _ (Parameters.get?_insertAll_perm perm distinct _)

theorem ReadsByName.check_fill (byName : specification.ReadsByName) (perm : settings.Perm other)
    (distinct : (settings.map (nameKey ·.1)).Nodup) {flag spelling : String}
    (same : nameKey flag = nameKey spelling) :
    ((specification.fill settings).check flag).isOk = ((specification.fill other).check spelling).isOk := by
  cases specification with
  | constant vote => rfl
  | custom stored =>
    exact byName.check _ _ flag spelling (Parameters.get?_insertAll_perm perm distinct _) same

end Specification

def Registry.ReadsByName (registry : Registry (Stored ρ)) : Prop :=
  ∀ name prototype, registry.find? name = some prototype → prototype.ReadsByName

end FeatureFlags
