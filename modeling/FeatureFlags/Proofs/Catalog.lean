import FeatureFlags.Criterion.Rule
import FeatureFlags.Proofs.Catalog.Replacement
import FeatureFlags.Proofs.Document.Summary

namespace FeatureFlags

namespace Report

def Leads (report : Report) : Prop :=
  ∃ reasons, report.print = report.flag ++ " = " ++ toString report.enabled ++ reasons

theorem leads_unknown (flag : String) : (unknown flag).Leads := by
  have answer : " = " ++ (toString false ++ " (unknown flag)") = " = false (unknown flag)" := by decide
  refine ⟨" (unknown flag)", ?_⟩
  simp only [print, unknown, Bool.not_false, ↓reduceIte, String.append_assoc, answer]

variable {σ : Type} [Criterion σ]

theorem leads_ofFeature (feature : Feature σ) : (ofFeature feature).Leads := by
  cases silent : feature.votes.isEmpty with
  | true =>
    have answer : " = " ++ (toString false ++ " (no specifications)") = " = false (no specifications)" := by
      decide
    refine ⟨" (no specifications)", ?_⟩
    simp only [print, ofFeature, silent, Bool.not_true, Bool.false_and, Bool.false_eq_true, ↓reduceIte,
      String.append_assoc, answer]
  | false =>
    refine ⟨" [" ++ ", ".intercalate (feature.votes.map printVote) ++ "]", ?_⟩
    simp [print, ofFeature, silent, String.append_assoc]

end Report

namespace Catalog

variable {σ : Type} [Criterion σ] {catalog : Catalog σ} {query : String}

theorem report_of_none (missing : catalog.find? query = none) : catalog.report query = .unknown query := by
  rw [report, missing]

theorem report_of_some {feature : Feature σ} (found : catalog.find? query = some feature) :
    catalog.report query = .ofFeature feature := by
  rw [report, found]

theorem found_report (catalog : Catalog σ) (query : String) :
    (catalog.report query).found = (catalog.find? query).isSome := by
  cases found : catalog.find? query with
  | none =>
    rw [report_of_none found]
    rfl
  | some feature =>
    rw [report_of_some found]
    rfl

theorem enabled_report (catalog : Catalog σ) (query : String) :
    (catalog.report query).enabled = catalog.isEnabled query := by
  rw [isEnabled_eq_votes]
  cases found : catalog.find? query with
  | none =>
    rw [report_of_none found]
    rfl
  | some feature =>
    rw [report_of_some found]
    rfl

theorem leads_report (catalog : Catalog σ) (query : String) : (catalog.report query).Leads := by
  cases found : catalog.find? query with
  | none =>
    rw [report_of_none found]
    exact Report.leads_unknown query
  | some feature =>
    rw [report_of_some found]
    exact Report.leads_ofFeature feature

theorem report_congr {other : String} (same : nameKey query = nameKey other)
    (found : (catalog.report query).found = true) : catalog.report query = catalog.report other := by
  rw [found_report, Option.isSome_iff_exists] at found
  obtain ⟨feature, found⟩ := found
  have again : catalog.find? other = some feature := by
    rw [← found, find?, find?, NameTable.find?, NameTable.find?, same]
  rw [report_of_some found, report_of_some again]

/-- A report says of every question what the short answer says: its decision is the answer, its votes are
    those of the feature that is asked for, all of them, and its text starts with both. -/
theorem report_explains (catalog : Catalog σ) (query : String) :
    (catalog.report query).enabled = catalog.isEnabled query ∧
    (catalog.report query).found = catalog.contains query ∧
    catalog.contains query = (catalog.find? query).isSome ∧
    ((catalog.report query).enabled = true ↔ (catalog.report query).found = true ∧
      (catalog.report query).votes ≠ [] ∧ ∀ vote ∈ (catalog.report query).votes, vote.2 = true) ∧
    (catalog.find? query = none →
      (catalog.report query).flag = query ∧ (catalog.report query).votes = []) ∧
    (∀ feature, catalog.find? query = some feature → (catalog.report query).flag = feature.name ∧
      (catalog.report query).votes =
        feature.attached.map fun attached => (attached.name, attached.specification.vote)) ∧
    (∃ reasons, (catalog.report query).print =
      (catalog.report query).flag ++ " = " ++ toString (catalog.isEnabled query) ++ reasons) ∧
    (∀ other, nameKey query = nameKey other → (catalog.report query).found = true →
      catalog.report query = catalog.report other) ∧
    ∀ features, catalog = ofFeatures features → (catalog.report query).found = true →
      ∃ feature ∈ features, nameKey feature.name = nameKey query ∧
        (catalog.report query).flag = feature.name := by
  have enabled := enabled_report catalog query
  refine ⟨enabled, ?_, contains_eq_isSome catalog query, ?_, ?_, ?_, ?_, ?_, ?_⟩
  · rw [found_report, contains_eq_isSome]
  · cases found : catalog.find? query with
    | none => simp [report_of_none found, Report.unknown]
    | some feature => simp [report_of_some found, Report.ofFeature]
  · intro missing
    rw [report_of_none missing]
    exact ⟨rfl, rfl⟩
  · intro feature found
    rw [report_of_some found]
    exact ⟨rfl, rfl⟩
  · rw [← enabled]
    exact leads_report catalog query
  · exact fun other same found => report_congr same found
  · rintro features rfl found
    rw [found_report, Option.isSome_iff_exists] at found
    obtain ⟨feature, found⟩ := found
    rw [report_of_some found]
    rw [find?_ofFeatures] at found
    exact ⟨feature, List.mem_reverse.mp (List.mem_of_find?_eq_some found),
      sameName_iff.mp (List.find?_some (p := fun feature : Feature σ => sameName feature.name query) found), rfl⟩

theorem report_explains_replaced :
    ∃ features : List (Feature (Stored Rule)), ∃ catalog, catalog = ofFeatures features ∧
      (catalog.report "x").flag = "X" ∧ (catalog.report "x").votes = [("false", false)] ∧
      catalog.report "x" = catalog.report "X" ∧
      (∃ feature ∈ features, nameKey feature.name = nameKey "x" ∧
        (catalog.report "x").flag = feature.name) ∧
      (catalog.report "y").flag = "y" ∧ (catalog.report "y").votes = [] := by
  have explained := report_explains (ofFeatures
    [({ name := "x", attached := [{ name := "true", specification := .constant true }] } : Feature (Stored Rule)),
     { name := "X", attached := [{ name := "false", specification := .constant false }] }])
  obtain ⟨-, -, -, -, -, known, -, same, declared⟩ := explained "x"
  obtain ⟨-, -, -, -, unknown, -⟩ := explained "y"
  have last := known ⟨"X", [{ name := "false", specification := .constant false }]⟩ (by decide +kernel)
  exact ⟨_, _, rfl, last.1, last.2, same "X" (by decide +kernel) (by decide +kernel),
    declared _ rfl (by decide +kernel), unknown (by decide +kernel)⟩

end Catalog

end FeatureFlags
