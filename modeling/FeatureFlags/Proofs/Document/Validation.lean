import FeatureFlags.Proofs.Criterion.Checked
import FeatureFlags.Proofs.Name.Table

namespace FeatureFlags

variable {σ : Type} [Criterion σ]

theorem Feature.failures_eq_nil_iff {feature : Feature σ} :
    feature.failures = [] ↔
      ∀ attached ∈ feature.attached, attached.specification.check feature.name = .ok () := by
  rw [failures, List.filterMap_eq_nil_iff]
  apply forall₂_congr
  intro attached _
  cases attached.specification.check feature.name <;> simp

theorem Draft.failures_eq_nil_iff {draft : Draft σ} :
    draft.failures = [] ↔ ∀ feature ∈ draft.features.values, ∀ attached ∈ feature.attached,
      attached.specification.check feature.name = .ok () := by
  simp only [failures, List.flatMap_eq_nil_iff, Feature.failures_eq_nil_iff]

namespace Registry

variable {registry : Registry σ} {rows : List String} {lines : List Line}

theorem failures_of_accepted {catalog : Catalog σ} (accepted : parse registry rows = .ok catalog) :
    (registry.declared (rows.map .ofRow)).failures = [] := by
  have sound := (parse_eq_ok_iff.mp accepted).1
  rw [problems, List.append_eq_nil_iff, List.map_eq_nil_iff] at sound
  exact sound.2

end Registry

theorem bounds_of_range {embed : Parameters → σ} (obeys : Criterion.Obeys Rule.range embed)
    {initial : Parameters} {settings : List (String × String)} {flag : String}
    (passed : ((Specification.custom (embed initial)).after settings).check flag = .ok ()) :
    ∃ parameters least greatest,
      (Specification.custom (embed initial)).after settings = .custom (embed parameters) ∧
      parameters.HasInteger Rule.boundType "Min" least ∧
      parameters.HasInteger Rule.boundType "Max" greatest ∧
      ((Specification.custom (embed initial)).after settings).vote = decide (least ≤ greatest) := by
  obtain ⟨parameters, reached⟩ := Specification.after_stored obeys.stores initial settings
  rw [reached, Specification.check, obeys.check] at passed
  obtain ⟨least, greatest, low, high, holds⟩ := Rule.bounds_of_check passed
  refine ⟨parameters, least, greatest, reached, low, high, ?_⟩
  rw [reached, Specification.vote, obeys.vote]
  exact holds

/-- Only checked specifications are asked for their votes: an accepted document has the features that were
    checked, each specification has passed, and so a range votes on two bounds that are there. A failed check
    refuses the document. -/
theorem parse_checked (registry : Registry σ) (rows : List String) :
    (∀ catalog, parse registry rows = .ok catalog →
      catalog.toList = (Draft.scan registry {} (rows.map .ofRow)).2.features.values ∧
      (∀ query feature, catalog.find? query = some feature → feature ∈ catalog.toList) ∧
      ∀ feature ∈ catalog.toList, ∀ attached ∈ feature.attached,
        attached.specification.check feature.name = .ok () ∧
        ∀ (embed : Parameters → σ) (preset : Parameters), Criterion.Obeys Rule.range embed →
          registry.find? attached.name = some (.custom (embed preset)) →
            ∃ parameters least greatest, attached.specification = .custom (embed parameters) ∧
              parameters.HasInteger Rule.boundType "Min" least ∧
              parameters.HasInteger Rule.boundType "Max" greatest ∧
              attached.specification.vote = decide (least ≤ greatest)) ∧
    ((∀ fault ∈ (Draft.scan registry {} (rows.map .ofRow)).1, fault = none) →
      (∃ feature ∈ (Draft.scan registry {} (rows.map .ofRow)).2.features.values,
        ∃ attached ∈ feature.attached, attached.specification.check feature.name ≠ .ok ()) →
      ∃ refusal, parse registry rows = .error refusal ∧
        refusal.toList =
          (Draft.scan registry {} (rows.map .ofRow)).2.failures.map .invalidParameter) := by
  rw [Registry.scan_empty]
  constructor
  · intro catalog accepted
    have passed := Draft.failures_eq_nil_iff.mp (Registry.failures_of_accepted accepted)
    obtain ⟨-, rfl⟩ := Registry.parse_eq_ok_iff.mp accepted
    refine ⟨rfl, fun query feature found => NameTable.mem_values_of_find? found, ?_⟩
    intro feature member attached present
    have checked := passed feature member attached present
    refine ⟨checked, ?_⟩
    -- What is attached is still the prototype of its name, with other parameters.
    intro embed preset obeys range
    obtain ⟨declaration, -, reaching, known, -, reached⟩ := Registry.exists_after_of_declared member present
    have prototype := Option.some.inj (known.symm.trans range)
    rw [reached, prototype] at checked ⊢
    exact bounds_of_range obeys checked
  · rintro faultless ⟨feature, member, attached, present, failed⟩
    have listed : registry.problems (rows.map .ofRow) =
        (registry.declared (rows.map .ofRow)).failures.map .invalidParameter := by
      rw [Registry.problems, Problem.ofFaults_eq_nil_iff.mpr faultless, List.nil_append]
    have wrong : registry.problems (rows.map .ofRow) ≠ [] := by
      rw [listed, Ne, List.map_eq_nil_iff]
      exact fun nothing => failed (Draft.failures_eq_nil_iff.mp nothing feature member attached present)
    rw [← listed]
    exact Registry.exists_parse_eq_error wrong

theorem parse_checked_ranged :
    (∃ catalog, parse .ranged ["F = range", "f.Range.Min = -3", "f.range.max = +2"] = .ok catalog ∧
      catalog.toList.length = 1 ∧
      ∀ feature ∈ catalog.toList, ∀ attached ∈ feature.attached, ∃ parameters least greatest,
        attached.specification = .custom ⟨.range, parameters⟩ ∧
        parameters.HasInteger Rule.boundType "Min" least ∧
        parameters.HasInteger Rule.boundType "Max" greatest ∧
        attached.specification.vote = decide (least ≤ greatest)) ∧
    ∃ refusal, parse .ranged ["f = range", "f.range.Min = 1"] = .error refusal := by
  constructor
  · have sound : (parse .ranged ["F = range", "f.Range.Min = -3", "f.range.max = +2"]).isOk = true := by
      decide +kernel
    obtain ⟨catalog, accepted⟩ := exists_ok_of_isOk sound
    obtain ⟨same, -, checked⟩ := (parse_checked .ranged _).1 catalog accepted
    have ranges : ∀ feature ∈ (Draft.scan .ranged {}
        (["F = range", "f.Range.Min = -3", "f.range.max = +2"].map .ofRow)).2.features.values,
          ∀ attached ∈ feature.attached,
            Registry.ranged.find? attached.name = some (.custom ⟨.range, {}⟩) := by
      decide +kernel
    refine ⟨catalog, accepted, ?_, ?_⟩
    · rw [same]
      decide +kernel
    · intro feature member attached present
      exact (checked feature member attached present).2 _ {} (Stored.obeys Rule.range)
        (ranges feature (same ▸ member) attached present)
  · obtain ⟨refusal, refused, -⟩ := (parse_checked .ranged ["f = range", "f.range.Min = 1"]).2
      (by decide +kernel) (by decide +kernel)
    exact ⟨refusal, refused⟩

end FeatureFlags
