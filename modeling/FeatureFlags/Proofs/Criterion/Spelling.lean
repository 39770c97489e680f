import FeatureFlags.Proofs.Criterion.Rule

namespace FeatureFlags

def InvalidParameter.caseless (invalid : InvalidParameter) : InvalidParameter :=
  { invalid with feature := nameKey invalid.feature }

variable {ρ : Type} [ParameterRule ρ]

/-- What the check finds does not depend on how the flag is spelled, but for the flag's name in it. -/
def IgnoresSpelling (rule : ρ) : Prop :=
  ∀ (parameters : Parameters) (flag spelling : String), nameKey flag = nameKey spelling →
    (ParameterRule.check rule parameters flag).mapError InvalidParameter.caseless =
      (ParameterRule.check rule parameters spelling).mapError InvalidParameter.caseless

namespace Specification

def IgnoresSpelling : Specification (Stored ρ) → Prop
  | constant _ => True
  | custom stored => FeatureFlags.IgnoresSpelling stored.rule

variable {specification : Specification (Stored ρ)} {flag spelling name other : String}

theorem IgnoresSpelling.check (ignores : specification.IgnoresSpelling)
    (same : nameKey flag = nameKey spelling) :
    (specification.check flag).mapError InvalidParameter.caseless =
      (specification.check spelling).mapError InvalidParameter.caseless := by
  cases specification with
  | constant vote => rfl
  | custom stored => exact ignores stored.parameters flag spelling same

theorem IgnoresSpelling.assign (ignores : specification.IgnoresSpelling) (name value : String) :
    (specification.assign name value).2.IgnoresSpelling := by
  cases specification with
  | constant vote => trivial
  | custom stored =>
    simp only [Specification.assign, Criterion.assign, Stored.assign]
    cases stored.parameters.insert name value with
    | error duplicate => exact ignores
    | ok parameters => exact ignores

theorem assign_congr (same : nameKey name = nameKey other) (specification : Specification (Stored ρ))
    (value : String) :
    (specification.assign name value).1.isOk = (specification.assign other value).1.isOk ∧
      (specification.assign name value).2 = (specification.assign other value).2 := by
  cases specification with
  | constant vote => exact ⟨rfl, rfl⟩
  | custom stored =>
    have inserted : stored.parameters.values.insert name value =
        stored.parameters.values.insert other value := by
      rw [NameTable.insert, NameTable.insert, same]
    simp only [Specification.assign, Criterion.assign, Stored.assign, Parameters.insert,
      Parameters.contains_congr same, inserted]
    cases stored.parameters.values.contains other <;> exact ⟨rfl, rfl⟩

end Specification

def Registry.IgnoresSpelling (registry : Registry (Stored ρ)) : Prop :=
  ∀ name prototype, registry.find? name = some prototype → prototype.IgnoresSpelling

namespace Rule

variable {flag spelling : String}

theorem mapError_require (same : nameKey flag = nameKey spelling) (parameters : Parameters)
    (name : String) :
    (parameters.require flag name).mapError InvalidParameter.caseless =
      (parameters.require spelling name).mapError InvalidParameter.caseless := by
  rw [Parameters.require, Parameters.require]
  cases parameters.get? name with
  | none => simp [Except.mapError, InvalidParameter.caseless, same]
  | some raw => rfl

theorem mapError_checkFields (same : nameKey flag = nameKey spelling) (parameters : Parameters)
    (fields : List (String × ValueType)) :
    (checkFields parameters flag fields).mapError InvalidParameter.caseless =
      (checkFields parameters spelling fields).mapError InvalidParameter.caseless := by
  induction fields with
  | nil => rfl
  | cons field rest ih =>
    rcases field with ⟨name, type⟩
    simp only [checkFields, Parameters.requireRead, Parameters.require]
    cases parameters.get? name with
    | none => simp [Except.mapError, InvalidParameter.caseless, same]
    | some raw =>
      dsimp only
      cases type.read raw with
      | error _ => simp [Except.mapError, InvalidParameter.caseless, same]
      | ok _ => exact ih

theorem mapError_checkNamedRange (same : nameKey flag = nameKey spelling) (parameters : Parameters) :
    (checkNamedRange parameters flag).mapError InvalidParameter.caseless =
      (checkNamedRange parameters spelling).mapError InvalidParameter.caseless := by
  rw [checkNamedRange, checkNamedRange]
  cases ["Min", "Max"].filterMap (boundFault? parameters) with
  | nil => rfl
  | cons fault faults => simp [Except.mapError, InvalidParameter.caseless, same]

theorem ignoresSpelling (rule : Rule) : IgnoresSpelling rule := by
  intro parameters flag spelling same
  change (rule.check parameters flag).mapError _ = (rule.check parameters spelling).mapError _
  cases rule with
  | range => exact mapError_checkFields same parameters _
  | namedRange => exact mapError_checkNamedRange same parameters
  | typed fields => exact mapError_checkFields same parameters fields
  | equals parameter value =>
    have required := mapError_require same parameters parameter
    have kept : ∀ result : Except InvalidParameter String, (result.map fun _ => ()).mapError
        InvalidParameter.caseless = (result.mapError InvalidParameter.caseless).map fun _ => () := by
      intro result
      cases result <;> rfl
    rw [check, check, kept, kept, required]

end Rule

theorem Registry.ignoresSpelling (registry : Registry (Stored Rule)) : registry.IgnoresSpelling := by
  intro name prototype _
  cases prototype with
  | constant vote => trivial
  | custom stored => exact stored.rule.ignoresSpelling

end FeatureFlags
