import FeatureFlags.Proofs.Document.Acceptance
import Mathlib.Data.Multiset.Basic

namespace FeatureFlags

theorem Catalog.isEnabled_eq_votes {σ : Type} [Criterion σ] (catalog : Catalog σ) (flag : String) :
    catalog.isEnabled flag =
      (!(catalog.report flag).votes.isEmpty && (catalog.report flag).votes.all (·.2)) := by
  rw [isEnabled, report]
  cases catalog.find? flag with
  | none => rfl
  | some feature =>
    simp [Feature.isEnabled, Report.ofFeature, Feature.votes, Function.comp_def]

variable {ρ : Type}

/-- What a declaration amounts to, whatever the spelling of its names and the order of its
    parameters. -/
structure Summary (ρ : Type) where
  flag : String
  name : String
  prototype : Specification (Stored ρ)
  settings : Multiset (String × String)

namespace Summary

noncomputable def final (summary : Summary ρ) : Specification (Stored ρ) :=
  summary.prototype.fill summary.settings.toList

variable [ParameterRule ρ]

noncomputable def vote (summary : Summary ρ) : String × Bool := (summary.name, summary.final.vote)

structure Sound (summary : Summary ρ) : Prop where
  takes : summary.prototype.Takes summary.settings.toList
  passes : ∀ flag, nameKey flag = summary.flag → (summary.final.check flag).isOk = true

end Summary

namespace Declaration

variable {declaration : Declaration (Stored ρ)}

def summary (declaration : Declaration (Stored ρ)) : Summary ρ :=
  ⟨nameKey declaration.flag, nameKey declaration.name, declaration.prototype, declaration.settings⟩

theorem perm_settings (declaration : Declaration (Stored ρ)) :
    declaration.summary.settings.toList.Perm declaration.settings :=
  Multiset.coe_eq_coe.mp (Multiset.coe_toList _)

variable [ParameterRule ρ]

theorem sound_summary_iff (byName : declaration.prototype.ReadsByName) :
    declaration.summary.Sound ↔ declaration.prototype.Takes declaration.settings ∧
      ∀ flag, nameKey flag = nameKey declaration.flag →
        ((declaration.prototype.fill declaration.settings).check flag).isOk = true := by
  constructor
  · rintro ⟨takes, passes⟩
    refine ⟨takes.perm declaration.perm_settings, ?_⟩
    intro flag same
    rw [← byName.check_fill declaration.perm_settings takes.distinct rfl]
    exact passes flag same
  · rintro ⟨takes, passes⟩
    have reordered := takes.perm declaration.perm_settings.symm
    refine ⟨reordered, ?_⟩
    intro flag same
    have accepted := passes flag same
    rw [← byName.check_fill declaration.perm_settings reordered.distinct rfl] at accepted
    exact accepted

theorem vote_summary (byName : declaration.prototype.ReadsByName) (sound : declaration.summary.Sound) :
    declaration.summary.vote =
      (nameKey declaration.name, declaration.attached.specification.vote) := by
  have state := Attached.filled_assignAll declaration.name declaration.prototype declaration.settings
  have same := byName.vote_fill declaration.perm_settings sound.takes.distinct
  rw [Summary.vote, Summary.final, attached, state.filled]
  exact congrArg _ same

end Declaration

namespace Registry

variable {registry : Registry (Stored ρ)} {lines : List Line}

def summaries (registry : Registry (Stored ρ)) (lines : List Line) : List (Summary ρ) :=
  (registry.declarations lines).map Declaration.summary

theorem nameKey_mem_flags_iff_summaries {key : String} :
    key ∈ (registry.flags lines).map nameKey ↔ key ∈ (registry.summaries lines).map (·.flag) := by
  simp [flags, nameKey_mem_firstSpellings_iff, summaries, Declaration.summary]

variable [ParameterRule ρ]

theorem problems_eq_nil_iff (byName : registry.ReadsByName) (lines : List Line) :
    registry.problems lines = [] ↔
      registry.wellPlaced [] lines = true ∧ ∀ summary ∈ registry.summaries lines, summary.Sound := by
  have checks : ∀ declaration ∈ registry.declarations lines, declaration.summary.Sound ↔
      declaration.prototype.Takes declaration.settings ∧
        ∀ flag, nameKey flag = nameKey declaration.flag →
          ((declaration.prototype.fill declaration.settings).check flag).isOk = true :=
    fun _ member => Declaration.sound_summary_iff (byName _ _ (find?_of_mem member))
  rw [problems, List.append_eq_nil_iff, Problem.ofFaults_eq_nil_iff, faultless_iff,
    List.map_eq_nil_iff, and_assoc, summaries, List.forall_mem_map]
  apply and_congr_right'
  constructor
  · rintro ⟨takes, passed⟩ declaration member
    exact (checks declaration member).mpr
      ⟨takes declaration member, (failures_eq_nil_iff byName takes).mp passed declaration member⟩
  · intro sound
    have takes : ∀ declaration ∈ registry.declarations lines,
        declaration.prototype.Takes declaration.settings :=
      fun declaration member => ((checks declaration member).mp (sound declaration member)).1
    refine ⟨takes, (failures_eq_nil_iff byName takes).mpr ?_⟩
    exact fun declaration member => ((checks declaration member).mp (sound declaration member)).2

theorem votes_report_declared (byName : registry.ReadsByName)
    (sound : ∀ summary ∈ registry.summaries lines, summary.Sound) (query : String) :
    ((Catalog.mk (registry.declared lines).features).report query).votes.map
        (fun vote => (nameKey vote.1, vote.2)) =
      ((registry.summaries lines).filter (·.flag == nameKey query)).map Summary.vote := by
  have attached : ((Catalog.mk (registry.declared lines).features).report query).votes =
      (registry.attachedOn lines query).map fun attached =>
        (attached.name, attached.specification.vote) := by
    rw [Catalog.report, Catalog.find?, find?_declared]
    cases found : (registry.flags lines).find? (sameName · query) with
    | none =>
      rw [attachedOn_eq_nil (isNone_find?_sameName.mp found)]
      rfl
    | some spelling => rfl
  have on : ∀ declaration : Declaration (Stored ρ),
      (declaration.summary.flag == nameKey query) = declaration.isOn query := fun _ => rfl
  rw [attached, attachedOn, List.map_map, List.map_map, summaries, List.filter_map, List.map_map]
  simp only [Function.comp_def, on]
  apply List.map_congr_left
  intro declaration member
  have present := (List.mem_filter.mp member).1
  rw [Declaration.vote_summary (byName _ _ (find?_of_mem present))
    (sound _ (List.mem_map_of_mem present)), Declaration.name_attached]

end Registry

end FeatureFlags
