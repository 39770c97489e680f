import FeatureFlags.Criterion.Rule
import FeatureFlags.Proofs.Criterion.ByName

namespace FeatureFlags

namespace Parameters

variable {left right : Parameters} {ε α : Type}

theorem read?_congr (same : left.get? = right.get?) (reader : String → Except ε α) (name : String) :
    left.read? reader name = right.read? reader name := by
  rw [read?, read?, same]

theorem isOk_require (same : left.get? = right.get?) (flag spelling name : String) :
    (left.require flag name).isOk = (right.require spelling name).isOk := by
  rw [require, require, same]
  cases right.get? name <;> rfl

theorem isOk_requireRead (same : left.get? = right.get?) (reader : String → Except ε α)
    (flag spelling name : String) :
    (left.requireRead reader flag name).isOk = (right.requireRead reader spelling name).isOk := by
  simp only [requireRead, require, same]
  cases right.get? name with
  | none => rfl
  | some raw =>
    dsimp only
    cases reader raw <;> rfl

end Parameters

namespace Rule

variable {left right : Parameters}

theorem isOk_checkFields (same : left.get? = right.get?) (flag spelling : String)
    (fields : List (String × ValueType)) :
    (checkFields left flag fields).isOk = (checkFields right spelling fields).isOk := by
  induction fields with
  | nil => rfl
  | cons field rest ih =>
    rcases field with ⟨name, type⟩
    have here := Parameters.isOk_requireRead same type.read flag spelling name
    rw [checkFields, checkFields]
    cases first : left.requireRead type.read flag name <;>
      cases second : right.requireRead type.read spelling name
    · rfl
    · rw [first, second] at here
      exact absurd here Bool.false_ne_true
    · rw [first, second] at here
      exact absurd here.symm Bool.false_ne_true
    · exact ih

theorem isOk_checkNamedRange (same : left.get? = right.get?) (flag spelling : String) :
    (checkNamedRange left flag).isOk = (checkNamedRange right spelling).isOk := by
  have faults : boundFault? left = boundFault? right := by
    funext name
    rw [boundFault?, boundFault?, Parameters.read?_congr same]
  rw [checkNamedRange, checkNamedRange, faults]
  cases ["Min", "Max"].filterMap (boundFault? right) <;> rfl

theorem readsByName (rule : Rule) : ReadsByName rule where
  holds left right same := by
    change rule.holds left = rule.holds right
    cases rule with
    | range | namedRange =>
      simp only [holds, ordered, Parameters.read?_congr same]
    | equals parameter value => rw [holds, holds, same]
    | typed fields =>
      have typed : wellTyped left = wellTyped right := by
        funext field
        rw [wellTyped, wellTyped, Parameters.read?_congr same]
      rw [holds, holds, typed]
  check left right flag spelling same _ := by
    change (rule.check left flag).isOk = (rule.check right spelling).isOk
    cases rule with
    | range => exact isOk_checkFields same flag spelling _
    | namedRange => exact isOk_checkNamedRange same flag spelling
    | equals parameter value =>
      have here := Parameters.isOk_require same flag spelling parameter
      have mapped : ∀ result : Except InvalidParameter String,
          (result.map fun _ => ()).isOk = result.isOk := by
        intro result
        cases result <;> rfl
      rw [check, check, mapped, mapped, here]
    | typed fields => exact isOk_checkFields same flag spelling fields

end Rule

namespace Registry

theorem readsByName (registry : Registry (Stored Rule)) : registry.ReadsByName := by
  intro name prototype _
  cases prototype with
  | constant vote => trivial
  | custom stored => exact stored.rule.readsByName

def ranged : Registry (Stored Rule) := initial.register "range" (.custom ⟨.range, {}⟩)

end Registry

end FeatureFlags
