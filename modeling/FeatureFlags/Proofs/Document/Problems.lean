import FeatureFlags.Proofs.Criterion.Stored
import FeatureFlags.Proofs.Document.Outcome

namespace FeatureFlags

variable {ρ : Type}

def Line.sets (flag specification parameter : String) (line : Line) : Bool :=
  (line.setting? flag specification).any (sameName ·.1 parameter)

namespace Registry

def textFault (registry : Registry (Stored ρ)) (earlier : List Line) : Line → Option Fault
  | .ignored => none
  | .missingEqualSign => some .missingEqualSign
  | .multipleEqualSigns => some .multipleEqualSigns
  | .assignment [_] name =>
    if registry.contains name then none else some (.unknownSpecification name)
  | .assignment [flag, specification, parameter] _ =>
    match registry.latest? earlier flag specification with
    | none => some (.undeclaredSpecification flag)
    | some declaration =>
      if declaration.prototype.hasParameter parameter ||
          declaration.later.any (·.sets flag specification parameter) then
        some (.parameterDeclaredTwice parameter)
      else none
  | .assignment _ _ => some .wrongParameterUsage

theorem any_settings_of_latest? {registry : Registry (Stored ρ)} {lines : List Line}
    {flag specification : String} {declaration : Declaration (Stored ρ)}
    (latest : registry.latest? lines flag specification = some declaration) (parameter : String) :
    declaration.settings.any (sameName ·.1 parameter) =
      declaration.later.any (·.sets flag specification parameter) := by
  obtain ⟨sameFlag, sameSpecification⟩ := Declaration.isFor_iff.mp (isFor_of_latest? latest)
  rw [Declaration.settings_of_isOpen (isOpen_of_latest? latest), List.any_filterMap]
  congr 1
  funext line
  rw [Line.sets, Line.setting?_congr sameFlag sameSpecification]
  cases line.setting? flag specification <;> rfl

variable [ParameterRule ρ]

/-- All that the text of the lines shows to be wrong: at most one fault for each line, then the checks
    of the specifications, by first declaration of the flag and by declaration. -/
def textProblems (registry : Registry (Stored ρ)) (lines : List Line) : List Problem :=
  (lines.zipIdx.filterMap fun (line, index) =>
    (registry.textFault (lines.take index) line).map (.atLine (index + 1))) ++
  (registry.flags lines).flatMap fun flag =>
    ((registry.declarations lines).filter (·.isOn flag)).filterMap fun declaration =>
      match (declaration.prototype.fill declaration.settings).check flag with
      | .error invalid => some (.invalidParameter invalid)
      | .ok () => none

variable {registry : Registry (Stored ρ)}

theorem faultAfter_eq_textFault (earlier : List Line) (line : Line) :
    registry.faultAfter earlier line = registry.textFault earlier line := by
  cases line using Line.byKind with
  | inert line fault inert => cases inert <;> rfl
  | declaration => rfl
  | parameter flag specification parameter value =>
    simp only [faultAfter, textFault]
    cases latest : registry.latest? earlier flag specification with
    | none => rfl
    | some declaration =>
      have state := Attached.filled_assignAll declaration.name declaration.prototype declaration.settings
      dsimp only
      rw [← any_settings_of_latest? latest]
      simp only [Bool.or_eq_true]
      by_cases present : declaration.prototype.hasParameter parameter = true ∨
          declaration.settings.any (sameName ·.1 parameter) = true
      · rw [Declaration.attached, state.refused value present, if_pos present]
      · rw [Declaration.attached, state.accepted value present, if_neg present]

theorem ofFaults_faultsAfter (earlier lines : List Line) :
    Problem.ofFaults (earlier.length + 1) (registry.faultsAfter earlier lines) =
      (lines.zipIdx earlier.length).filterMap fun (line, index) =>
        (registry.textFault ((earlier ++ lines).take index) line).map (.atLine (index + 1)) := by
  induction lines generalizing earlier with
  | nil => rfl
  | cons line later ih =>
    have rest := ih (earlier ++ [line])
    rw [List.length_append, List.length_singleton, List.append_assoc, List.singleton_append] at rest
    have before : (earlier ++ line :: later).take earlier.length = earlier := List.take_left
    rw [faultsAfter, List.zipIdx_cons, List.filterMap_cons]
    dsimp only
    rw [before, ← rest, faultAfter_eq_textFault]
    cases registry.textFault earlier line <;> rfl

theorem failures_declared (lines : List Line) :
    (registry.declared lines).failures.map .invalidParameter =
      (registry.flags lines).flatMap fun flag =>
        ((registry.declarations lines).filter (·.isOn flag)).filterMap fun declaration =>
          match (declaration.prototype.fill declaration.settings).check flag with
          | .error invalid => some (Problem.invalidParameter invalid)
          | .ok () => none := by
  rw [Draft.failures, declared, NameTable.values_ofNames, List.flatMap_map, List.map_flatMap]
  congr 1
  funext flag
  rw [Feature.failures, featureOn, attachedOn, List.filterMap_map, List.map_filterMap]
  congr 1
  funext declaration
  have state := Attached.filled_assignAll declaration.name declaration.prototype declaration.settings
  rw [Function.comp_apply, Declaration.attached, state.filled]
  cases (declaration.prototype.fill declaration.settings).check flag <;> rfl

theorem problems_eq_textProblems (lines : List Line) :
    registry.problems lines = registry.textProblems lines := by
  rw [problems, failures_declared, textProblems, List.append_left_inj]
  exact ofFaults_faultsAfter [] lines

end Registry

/-- A document is refused exactly for the problems that its text shows. -/
theorem parse_problems [ParameterRule ρ] (registry : Registry (Stored ρ)) (rows : List String) :
    ((∃ catalog, parse registry rows = .ok catalog) ↔
        registry.textProblems (rows.map .ofRow) = []) ∧
      ((∃ refusal, parse registry rows = .error refusal) ↔
        registry.textProblems (rows.map .ofRow) ≠ []) ∧
      ∀ refusal, parse registry rows = .error refusal →
        refusal.toList = registry.textProblems (rows.map .ofRow) := by
  rw [← Registry.problems_eq_textProblems]
  refine ⟨?_, ?_, ?_⟩
  · simp [Registry.parse_eq_ok_iff]
  · simp only [Registry.parse_eq_error_iff]
    constructor
    · rintro ⟨refusal, same⟩
      simp [same, Problems.toList]
    · intro wrong
      obtain ⟨first, others, same⟩ := List.exists_cons_of_ne_nil wrong
      exact ⟨⟨first, others⟩, same⟩
  · intro refusal refused
    exact (Registry.parse_eq_error_iff.mp refused).symm

end FeatureFlags
