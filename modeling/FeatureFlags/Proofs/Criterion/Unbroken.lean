import FeatureFlags.Proofs.Criterion.Checked
import FeatureFlags.Proofs.Name.Table
import FeatureFlags.Proofs.Text.Unbroken

namespace FeatureFlags

open Text

structure InvalidParameter.IsUnbroken (invalid : InvalidParameter) : Prop where
  feature : Unbroken invalid.feature
  reason : Unbroken invalid.reason.text

namespace Specification

/-- The check of a flag on one line reports on one line, if only texts on one line were assigned before. -/
def ReportsUnbroken {σ : Type} [Criterion σ] (specification : Specification σ) : Prop :=
  ∀ (settings : List (String × String)) (flag : String) (invalid : InvalidParameter),
    (∀ setting ∈ settings, Unbroken setting.1 ∧ Unbroken setting.2) → Unbroken flag →
      (specification.after settings).check flag = .error invalid → invalid.IsUnbroken

theorem after_constant {σ : Type} [Criterion σ] (vote : Bool) (settings : List (String × String)) :
    (constant vote : Specification σ).after settings = constant vote := by
  induction settings with
  | nil => rfl
  | cons setting rest ih => exact ih

theorem reportsUnbroken_constant {σ : Type} [Criterion σ] (vote : Bool) :
    (constant vote : Specification σ).ReportsUnbroken := by
  intro settings flag invalid _ _ failed
  rw [after_constant] at failed
  exact absurd failed (by simp [check])

end Specification

namespace Parameters

def IsUnbroken (parameters : Parameters) : Prop :=
  ∀ name raw, parameters.get? name = some raw → Unbroken raw

variable {parameters grown : Parameters} {name value flag : String} {invalid : InvalidParameter}

theorem isUnbroken_empty : IsUnbroken {} := fun _ _ present => absurd present (by simp [get?, NameTable.find?])

theorem IsUnbroken.insert (whole : parameters.IsUnbroken) (unbroken : Unbroken value)
    (grows : parameters.insert name value = .ok grown) : grown.IsUnbroken := by
  intro other raw present
  unfold Parameters.insert at grows
  split at grows
  · exact absurd grows (by simp)
  · obtain rfl := Except.ok.inj grows
    rw [get?, NameTable.find?_insert] at present
    split at present
    · exact Option.some.inj present ▸ unbroken
    · exact whole other raw present

theorem isUnbroken_of_require (named : Unbroken name) (onLine : Unbroken flag)
    (failed : parameters.require flag name = .error invalid) : invalid.IsUnbroken := by
  unfold require at failed
  split at failed
  · obtain rfl := Except.error.inj failed
    have before : Unbroken "Missing parameter '" := by decide
    exact ⟨onLine, (before.append named).append (by decide)⟩
  · exact absurd failed (by simp)

theorem isUnbroken_of_requireRead {ε α : Type} {reader : String → Except ε α} (whole : parameters.IsUnbroken)
    (named : Unbroken name) (onLine : Unbroken flag)
    (failed : parameters.requireRead reader flag name = .error invalid) : invalid.IsUnbroken := by
  unfold requireRead at failed
  split at failed
  · rename_i missing
    exact Except.error.inj failed ▸ isUnbroken_of_require named onLine missing
  · rename_i raw required
    split at failed
    · obtain rfl := Except.error.inj failed
      have kept := whole name raw (require_eq_ok_iff.mp required)
      have before : Unbroken "Parameter '" := by decide
      have between : Unbroken "' has invalid value '" := by decide
      exact ⟨onLine, (((before.append named).append between).append kept).append (by decide)⟩
    · exact absurd failed (by simp)

end Parameters

namespace Rule

def NamesUnbroken : Rule → Prop
  | range | namedRange => True
  | equals parameter _ => Unbroken parameter
  | typed fields => ∀ field ∈ fields, Unbroken field.1

variable {parameters : Parameters} {flag : String} {invalid : InvalidParameter}

theorem isUnbroken_of_checkFields (whole : parameters.IsUnbroken) (onLine : Unbroken flag)
    {fields : List (String × ValueType)} (named : ∀ field ∈ fields, Unbroken field.1)
    (failed : checkFields parameters flag fields = .error invalid) : invalid.IsUnbroken := by
  induction fields with
  | nil => exact absurd failed (by simp [checkFields])
  | cons field rest ih =>
    obtain ⟨here, later⟩ := List.forall_mem_cons.mp named
    rw [checkFields] at failed
    split at failed
    · rename_i first
      exact Except.error.inj failed ▸ Parameters.isUnbroken_of_requireRead whole here onLine first
    · exact ih later failed

theorem unbroken_of_boundFault? {name fault : String} (named : Unbroken name)
    (found : boundFault? parameters name = some fault) : Unbroken fault := by
  have quote : Unbroken "'" := by decide
  unfold boundFault? at found
  split at found
  · obtain rfl := Option.some.inj found
    exact (quote.append named).append (by decide)
  · obtain rfl := Option.some.inj found
    exact (quote.append named).append (by decide)
  · exact absurd found (by simp)

theorem isUnbroken_of_checkNamedRange (onLine : Unbroken flag)
    (failed : checkNamedRange parameters flag = .error invalid) : invalid.IsUnbroken := by
  unfold checkNamedRange at failed
  split at failed
  · exact absurd failed (by simp)
  · obtain rfl := Except.error.inj failed
    have faults : ∀ fault ∈ ["Min", "Max"].filterMap (boundFault? parameters), Unbroken fault := by
      intro fault member
      obtain ⟨name, listed, found⟩ := List.mem_filterMap.mp member
      have named : ∀ name ∈ ["Min", "Max"], Unbroken name := by decide
      exact unbroken_of_boundFault? (named name listed) found
    have before : Unbroken "myspec: " := by decide
    have listed := unbroken_intercalate (by decide : Unbroken ", ") faults
    exact ⟨onLine, (before.append listed).append (by decide)⟩

theorem isUnbroken_of_check {rule : Rule} (named : rule.NamesUnbroken) (whole : parameters.IsUnbroken)
    (onLine : Unbroken flag) (failed : check rule parameters flag = .error invalid) :
    invalid.IsUnbroken := by
  cases rule with
  | range => exact isUnbroken_of_checkFields whole onLine (by decide) failed
  | namedRange => exact isUnbroken_of_checkNamedRange onLine failed
  | typed fields => exact isUnbroken_of_checkFields whole onLine named failed
  | equals parameter value =>
    rw [check] at failed
    cases answer : parameters.require flag parameter with
    | ok _ =>
      rw [answer] at failed
      exact absurd failed (by simp [Except.map])
    | error missing =>
      rw [answer] at failed
      exact Except.error.inj failed ▸ Parameters.isUnbroken_of_require named onLine answer

end Rule

theorem Stored.rule_assign {ρ : Type} (stored : Stored ρ) (name value : String) :
    (stored.assign name value).2.rule = stored.rule := by
  unfold assign
  split <;> rfl

structure Stored.IsUnbroken (stored : Stored Rule) : Prop where
  rule : stored.rule.NamesUnbroken
  parameters : stored.parameters.IsUnbroken

theorem Stored.IsUnbroken.assign {stored : Stored Rule} (whole : stored.IsUnbroken) {value : String}
    (unbroken : Unbroken value) (name : String) : (stored.assign name value).2.IsUnbroken := by
  refine ⟨(stored.rule_assign name value).symm ▸ whole.rule, ?_⟩
  unfold Stored.assign
  split
  · exact whole.parameters
  · rename_i grows
    exact whole.parameters.insert unbroken grows

theorem Specification.reportsUnbroken_custom {stored : Stored Rule} (whole : stored.IsUnbroken) :
    (custom stored).ReportsUnbroken := by
  intro settings flag invalid unbroken onLine failed
  induction settings generalizing stored with
  | nil => exact Rule.isUnbroken_of_check whole.rule whole.parameters onLine failed
  | cons setting rest ih =>
    obtain ⟨here, later⟩ := List.forall_mem_cons.mp unbroken
    exact ih (whole.assign here.2 setting.1) later failed

namespace Registry

def ReportsUnbroken {σ : Type} [Criterion σ] (registry : Registry σ) : Prop :=
  ∀ name prototype, registry.find? name = some prototype → prototype.ReportsUnbroken

theorem reportsUnbroken_ranged : Registry.ranged.ReportsUnbroken := by
  intro name prototype found
  have listed := NameTable.mem_values_of_find? found
  have prototypes : Registry.ranged.prototypes.values =
      [.constant true, .constant false, .custom ⟨.range, {}⟩] := by decide +kernel
  simp only [prototypes, List.mem_cons, List.not_mem_nil, or_false] at listed
  rcases listed with rfl | rfl | rfl
  · exact Specification.reportsUnbroken_constant true
  · exact Specification.reportsUnbroken_constant false
  · exact Specification.reportsUnbroken_custom ⟨trivial, Parameters.isUnbroken_empty⟩

end Registry

end FeatureFlags
