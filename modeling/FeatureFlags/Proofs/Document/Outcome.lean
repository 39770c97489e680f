import FeatureFlags.Document
import FeatureFlags.Proofs.Document.Declared
import Mathlib.Data.List.Induction

namespace FeatureFlags

theorem exists_ok_of_isOk {ε α : Type} {result : Except ε α} (accepted : result.isOk = true) :
    ∃ value, result = .ok value := by
  cases result with
  | error _ => exact absurd accepted Bool.false_ne_true
  | ok value => exact ⟨value, rfl⟩

theorem exists_ok_of_any {ε α : Type} {result : Except ε α} {holds : α → Bool}
    (accepted : result.toOption.any holds = true) : ∃ value, result = .ok value ∧ holds value = true := by
  cases result with
  | error _ => exact absurd accepted Bool.false_ne_true
  | ok value => exact ⟨value, rfl, accepted⟩

namespace Problems

theorem ofList?_eq_none_iff {problems : List Problem} : ofList? problems = none ↔ problems = [] := by
  cases problems <;> simp [ofList?]

theorem ofList?_eq_some_iff {problems : List Problem} {refusal : Problems} :
    ofList? problems = some refusal ↔ problems = refusal.toList := by
  rcases refusal with ⟨first, others⟩
  cases problems <;> simp [ofList?, toList]

def ofResult {α : Type} : Except Problems α → List Problem
  | .ok _ => []
  | .error problems => problems.toList

end Problems

theorem Problem.ofFaults_eq_nil_iff {line : Nat} {faults : List (Option Fault)} :
    ofFaults line faults = [] ↔ ∀ fault ∈ faults, fault = none := by
  induction faults generalizing line with
  | nil => simp [ofFaults]
  | cons fault rest ih => cases fault <;> simp [ofFaults, ih]

variable {σ : Type}

theorem Catalog.ofFeatures_map {names : List String} (distinct : (names.map nameKey).Nodup)
    {feature : String → Feature σ} (named : ∀ name, (feature name).name = name) :
    Catalog.ofFeatures (names.map feature) = ⟨.ofNames names feature⟩ := by
  induction names using List.reverseRecOn with
  | nil => rfl
  | append_singleton names name ih =>
    rw [List.map_append, List.nodup_append] at distinct
    have fresh : nameKey name ∉ names.map nameKey := fun present =>
      distinct.2.2 _ present _ List.mem_cons_self rfl
    have grown := NameTable.insert_ofNames_new fresh feature
    simp only [ofFeatures, Catalog.mk.injEq] at ih ⊢
    rw [List.map_append, List.foldl_append, ih distinct.1, List.map_singleton, List.foldl_cons,
      List.foldl_nil, named, grown]

namespace Registry

variable [Criterion σ] {registry : Registry σ}

def problems (registry : Registry σ) (lines : List Line) : List Problem :=
  Problem.ofFaults 1 (registry.faultsAfter [] lines) ++
    (registry.declared lines).failures.map .invalidParameter

theorem ofFeatures_declared (lines : List Line) :
    Catalog.ofFeatures (registry.declared lines).features.values =
      ⟨(registry.declared lines).features⟩ := by
  rw [declared, NameTable.values_ofNames]
  exact Catalog.ofFeatures_map nodup_map_nameKey_flags fun _ => rfl

theorem flags_declared (lines : List Line) :
    (Catalog.mk (registry.declared lines).features).flags = registry.flags lines := by
  rw [Catalog.flags, Catalog.toList, declared, NameTable.values_ofNames, List.map_map]
  exact List.map_id _

theorem parse_eq (rows : List String) :
    parse registry rows =
      match Problems.ofList? (registry.problems (rows.map .ofRow)) with
      | some problems => .error problems
      | none => .ok ⟨(registry.declared (rows.map .ofRow)).features⟩ := by
  have scanned := scan_empty registry (rows.map .ofRow)
  rw [problems]
  split
  · rename_i listed
    simp only [parse, scanned, listed]
  · rename_i nothing
    simp only [parse, scanned, nothing, ofFeatures_declared]

theorem parse_eq_ok_iff {rows : List String} {catalog : Catalog σ} :
    parse registry rows = .ok catalog ↔
      registry.problems (rows.map .ofRow) = [] ∧
        catalog = ⟨(registry.declared (rows.map .ofRow)).features⟩ := by
  rw [parse_eq, ← Problems.ofList?_eq_none_iff]
  cases Problems.ofList? (registry.problems (rows.map .ofRow)) <;> simp [eq_comm]

theorem exists_parse_eq_ok_iff {rows : List String} :
    (∃ catalog, parse registry rows = .ok catalog) ↔ registry.problems (rows.map .ofRow) = [] := by
  simp [parse_eq_ok_iff]

theorem parse_eq_error_iff {rows : List String} {refusal : Problems} :
    parse registry rows = .error refusal ↔
      registry.problems (rows.map .ofRow) = refusal.toList := by
  rw [parse_eq, ← Problems.ofList?_eq_some_iff]
  cases Problems.ofList? (registry.problems (rows.map .ofRow)) <;> simp

theorem exists_parse_eq_error {rows : List String} (wrong : registry.problems (rows.map .ofRow) ≠ []) :
    ∃ refusal, parse registry rows = .error refusal ∧
      refusal.toList = registry.problems (rows.map .ofRow) := by
  obtain ⟨first, others, parts⟩ := List.exists_cons_of_ne_nil wrong
  exact ⟨⟨first, others⟩, parse_eq_error_iff.mpr parts, parts.symm⟩

theorem ofResult_parse (rows : List String) :
    Problems.ofResult (parse registry rows) = registry.problems (rows.map .ofRow) := by
  cases result : parse registry rows with
  | ok catalog => exact (parse_eq_ok_iff.mp result).1.symm
  | error refusal => exact (parse_eq_error_iff.mp result).symm

end Registry

end FeatureFlags
