import FeatureFlags.Criterion.Rule
import FeatureFlags.Proofs.Document.Refusal
import FeatureFlags.Proofs.Feature.Grown
import FeatureFlags.Proofs.Value

namespace FeatureFlags

structure Criterion.Obeys {σ ρ : Type} [Criterion σ] [ParameterRule ρ] (rule : ρ) (embed : Parameters → σ) :
    Prop where
  stores : Criterion.StoresIn embed
  vote : ∀ parameters, Criterion.vote (embed parameters) = ParameterRule.holds rule parameters
  check : ∀ parameters flag,
    Criterion.check (embed parameters) flag = ParameterRule.check rule parameters flag

theorem Stored.obeys {ρ : Type} [ParameterRule ρ] (rule : ρ) :
    Criterion.Obeys rule fun parameters => (⟨rule, parameters⟩ : Stored ρ) where
  stores := Stored.storesIn rule
  vote _ := rfl
  check _ _ := rfl

theorem Specification.after_stored {σ : Type} [Criterion σ] {embed : Parameters → σ}
    (stores : Criterion.StoresIn embed) (initial : Parameters) (settings : List (String × String)) :
    ∃ parameters, (Specification.custom (embed initial)).after settings = .custom (embed parameters) := by
  induction settings generalizing initial with
  | nil => exact ⟨initial, rfl⟩
  | cons setting rest ih =>
    rw [after, List.foldl_cons, assign_stored stores]
    split
    · exact ih initial
    · exact ih ⟨initial.values.insert setting.1 setting.2⟩

namespace Parameters

structure HasInteger (parameters : Parameters) (type : IntegerType) (name : String)
    (value : Int) : Prop where
  text : ∃ raw, parameters.get? name = some raw ∧ type.Denotes raw.toList value
  least : type.least ≤ value
  greatest : value ≤ type.greatest
  read : parameters.read? type.read name = some (.ok value)

variable {parameters : Parameters}

theorem hasInteger_of_read? {type : IntegerType} {name : String} {value : Int}
    (read : parameters.read? type.read name = some (.ok value)) :
    parameters.HasInteger type name value := by
  obtain ⟨raw, present, accepted⟩ := Option.map_eq_some_iff.mp read
  obtain ⟨denotes, least, greatest⟩ := IntegerType.read_eq_ok_iff.mp accepted
  exact ⟨⟨raw, present, denotes⟩, least, greatest, read⟩

end Parameters

namespace Rule

variable {parameters : Parameters} {flag : String}

/-- The check asks of every field what the vote asks of it. -/
theorem checkFields_eq_ok_iff {fields : List (String × ValueType)} :
    checkFields parameters flag fields = .ok () ↔
      ∀ field ∈ fields, ∃ value, parameters.read? field.2.read field.1 = some (.ok value) := by
  induction fields with
  | nil => simp [checkFields]
  | cons field rest ih =>
    rcases field with ⟨name, type⟩
    rw [checkFields, List.forall_mem_cons, ← ih]
    simp only [← Parameters.requireRead_eq_ok_iff flag]
    cases parameters.requireRead type.read flag name <;> simp

theorem hasInteger_of_read?_integer {type : IntegerType} {name : String} {value : Value}
    (read : parameters.read? (ValueType.integer type).read name = some (.ok value)) :
    ∃ integer, parameters.HasInteger type name integer := by
  obtain ⟨raw, present, accepted⟩ := Option.map_eq_some_iff.mp read
  rw [ValueType.read] at accepted
  cases integer : type.read raw with
  | error _ =>
    rw [integer] at accepted
    exact absurd accepted (by simp [Except.map])
  | ok value =>
    refine ⟨value, Parameters.hasInteger_of_read? ?_⟩
    rw [Parameters.read?, present, Option.map_some, integer]

theorem ordered_eq {least greatest : Int} (low : parameters.HasInteger boundType "Min" least)
    (high : parameters.HasInteger boundType "Max" greatest) :
    ordered parameters = decide (least ≤ greatest) := by
  rw [ordered, low.read, high.read]

theorem bounds_of_check (passed : check range parameters flag = .ok ()) :
    ∃ least greatest, parameters.HasInteger boundType "Min" least ∧
      parameters.HasInteger boundType "Max" greatest ∧
        holds range parameters = decide (least ≤ greatest) := by
  have fields := checkFields_eq_ok_iff.mp passed
  obtain ⟨_, low⟩ := fields _ List.mem_cons_self
  obtain ⟨_, high⟩ := fields _ (List.mem_cons_of_mem _ List.mem_cons_self)
  obtain ⟨least, low⟩ := hasInteger_of_read?_integer low
  obtain ⟨greatest, high⟩ := hasInteger_of_read?_integer high
  exact ⟨least, greatest, low, high, ordered_eq low high⟩

example : boundType.least = -2 ^ 63 ∧ boundType.greatest = 2 ^ 63 - 1 := by decide

end Rule

end FeatureFlags
