import FeatureFlags.Criterion.Rule
import FeatureFlags.Proofs.Criterion.Steady
import FeatureFlags.Proofs.Feature.Grown

namespace FeatureFlags

theorem set_eq_self {α : Type} {items : List α} {index : Nat} {item : α} (here : items[index]? = some item) :
    items.set index item = items := by
  obtain ⟨inside, rfl⟩ := List.getElem?_eq_some_iff.mp here
  exact List.set_getElem_self inside

variable {σ : Type} [Criterion σ]

/-- Constants, which refuse nothing, and stores, which name what they refuse as it was given. -/
inductive Specification.RefusesAsGiven : Specification σ → Prop where
  | constant (vote : Bool) : RefusesAsGiven (.constant vote)
  | stored {embed : Parameters → σ} (stores : Criterion.StoresIn embed) (parameters : Parameters) :
    RefusesAsGiven (.custom (embed parameters))

theorem Specification.RefusesAsGiven.cause_eq {specification : Specification σ} {name value : String}
    {cause : DuplicateParameter} (given : specification.RefusesAsGiven)
    (refused : (specification.assign name value).1 = .error cause) : cause = ⟨name⟩ := by
  cases given with
  | constant vote => cases refused
  | stored stores parameters =>
    rw [assign_stored stores] at refused
    split at refused
    · exact (Except.error.inj refused).symm
    · cases refused

namespace Attached

variable {attached : Attached σ} {name value : String}

theorem assign_eq_ok_iff :
    (attached.assign name value).1 = .ok () ↔
      nameKey name ∉ attached.assigned ∧ (attached.specification.assign name value).1 = .ok () := by
  rcases attached.assign_cases name value with
    ⟨tracked, result⟩ | ⟨untracked, ⟨cause, answer, result⟩ | ⟨answer, result⟩⟩
  · simp [result, tracked]
  · simp [result, answer]
  · simp [result, answer, untracked]

theorem assign_eq_error_iff :
    (∃ cause, (attached.assign name value).1 = .error cause) ↔
      nameKey name ∈ attached.assigned ∨
        ∃ cause, (attached.specification.assign name value).1 = .error cause := by
  rcases attached.assign_cases name value with
    ⟨tracked, result⟩ | ⟨untracked, ⟨cause, answer, result⟩ | ⟨answer, result⟩⟩
  · simp [result, tracked]
  · simp [result, answer]
  · simp [result, answer, untracked]

theorem cause_eq_of_assign {cause : DuplicateParameter}
    (given : nameKey name ∈ attached.assigned ∨ attached.specification.RefusesAsGiven)
    (refused : (attached.assign name value).1 = .error cause) : cause = ⟨name⟩ := by
  rcases attached.assign_cases name value with
    ⟨-, result⟩ | ⟨untracked, ⟨own, answer, result⟩ | ⟨-, result⟩⟩ <;> rw [result] at refused
  · exact (Except.error.inj refused).symm
  · rw [← Except.error.inj refused]
    exact (given.resolve_left untracked).cause_eq answer
  · cases refused

end Attached

namespace Feature

/-- What becomes of a feature when a parameter is handed to the specification at the index, with the answer:
    the rest of the feature stays, and the specification has the parameter exactly if it was not given it
    before and accepts it now. -/
structure HandedTo (feature : Feature σ) (index : Nat) (host : Attached σ) (name value : String)
    (answer : Except AssignError Unit × Feature σ) : Prop where
  flag : answer.2.name = feature.name
  names : answer.2.attachedNames = feature.attachedNames
  others : ∀ other, other ≠ index → answer.2.attached[other]? = feature.attached[other]?
  accepted_iff : answer.1 = .ok () ↔
    nameKey name ∉ host.assigned ∧ (host.specification.assign name value).1 = .ok ()
  refused_iff : (∃ cause, answer.1 = .error (.duplicate cause)) ↔
    nameKey name ∈ host.assigned ∨ ∃ cause, (host.specification.assign name value).1 = .error cause
  cause : nameKey name ∈ host.assigned ∨ host.specification.RefusesAsGiven →
    ∀ cause, answer.1 = .error (.duplicate cause) → cause = ⟨name⟩
  accepted : answer.1 = .ok () → answer.2.attached[index]? = some { host with
    specification := (host.specification.assign name value).2
    assigned := host.assigned ++ [nameKey name] }

variable {feature : Feature σ} {index : Nat} {host : Attached σ} {name value : String}

omit [Criterion σ] in
theorem attachedNames_set (here : feature.attached[index]? = some host) {next : Attached σ}
    (same : next.name = host.name) :
    attachedNames { feature with attached := feature.attached.set index next } = feature.attachedNames := by
  have named : (feature.attached.map (·.name))[index]? = some next.name := by
    rw [List.getElem?_map, here, Option.map_some, same]
  rw [attachedNames, attachedNames, List.map_set, set_eq_self named]

theorem handedTo (here : feature.attached[index]? = some host) (name value : String) :
    feature.HandedTo index host name value
      ((host.assign name value).1.mapError .duplicate,
        { feature with attached := feature.attached.set index (host.assign name value).2 }) where
  flag := rfl
  names := attachedNames_set here (host.name_assign name value)
  others other different := List.getElem?_set_ne (Ne.symm different)
  accepted_iff := by
    rw [← Attached.assign_eq_ok_iff]
    cases (host.assign name value).1 <;> simp [Except.mapError]
  refused_iff := by
    rw [← Attached.assign_eq_error_iff]
    cases (host.assign name value).1 <;> simp [Except.mapError]
  cause given cause refused := by
    cases answer : (host.assign name value).1 with
    | ok _ =>
      rw [answer] at refused
      cases refused
    | error own =>
      rw [answer] at refused
      cases refused
      exact Attached.cause_eq_of_assign given answer
  accepted taken := by
    cases answer : (host.assign name value).1 with
    | ok _ =>
      rw [List.getElem?_set_self (List.getElem?_eq_some_iff.mp here).1, (Attached.assign_of_ok answer).2.2]
    | error _ =>
      rw [answer] at taken
      cases taken

/-- A refused parameter leaves a feature as it is, if its specifications stay as they are when they refuse. -/
theorem assign_of_refused {specification : String} {error : AssignError}
    (steady : ∀ attached ∈ feature.attached, ∀ cause,
      (attached.specification.assign name value).1 = .error cause →
        (attached.specification.assign name value).2 = attached.specification)
    (refused : (feature.assign specification name value).1 = .error error) :
    (feature.assign specification name value).2 = feature := by
  rcases feature.assign_cases specification name value with
    ⟨index, host, latest, answer⟩ | ⟨-, answer⟩ <;> rw [answer] at refused ⊢
  cases outcome : (host.assign name value).1 with
  | ok _ =>
    rw [outcome] at refused
    cases refused
  | error _ =>
    have kept := Attached.assign_of_error (steady host (List.mem_of_getElem? latest.here)) outcome
    rw [kept, set_eq_self latest.here]

/-- A parameter is handed to the last specification of the name and changes nothing else; without one it is
    refused under the name that was given for the specification. A refusal leaves the feature as it is, if the
    specifications leave themselves as they are when they refuse. -/
theorem assign_routed (feature : Feature σ) (specification name value : String) :
    ((∀ attached ∈ feature.attached, nameKey attached.name ≠ nameKey specification) →
      (feature.assign specification name value).1 = .error (.undeclaredSpecification specification)) ∧
    ((∃ attached ∈ feature.attached, nameKey attached.name = nameKey specification) →
      ∃ index host, Attached.IsLatest specification feature.attached index host ∧
        feature.HandedTo index host name value (feature.assign specification name value)) ∧
    ((∀ attached ∈ feature.attached, ∀ cause, (attached.specification.assign name value).1 = .error cause →
        (attached.specification.assign name value).2 = attached.specification) →
      ∀ error, (feature.assign specification name value).1 = .error error →
        (feature.assign specification name value).2 = feature) := by
  refine ⟨?_, ?_, fun steady _ refused => assign_of_refused steady refused⟩
  · intro different
    rcases feature.assign_cases specification name value with ⟨_, host, latest, -⟩ | ⟨-, answer⟩
    · exact absurd (sameName_iff.mp latest.named) (different host (List.mem_of_getElem? latest.here))
    · rw [answer]
  · rintro ⟨attached, member, same⟩
    rcases feature.assign_cases specification name value with ⟨index, host, latest, answer⟩ | ⟨others, -⟩
    · exact ⟨index, host, latest, answer ▸ handedTo latest.here name value⟩
    · exact absurd (sameName_iff.mpr same) (ne_of_eq_of_ne (others attached member) Bool.false_ne_true)

theorem assign_routed_preset :
    ∃ feature : Feature (Stored Rule), feature.attachedNames = ["Range", "RANGE"] ∧
      (∃ index host, Attached.IsLatest "range" feature.attached index host ∧
        feature.HandedTo index host "MIN" "3" (feature.assign "range" "MIN" "3")) ∧
      (feature.assign "range" "MIN" "3").1 = .error (.duplicate ⟨"MIN"⟩) ∧
      (feature.assign "range" "MIN" "3").2 = feature ∧
      (feature.assign "equals" "MIN" "3").1 = .error (.undeclaredSpecification "equals") := by
  have routed := assign_routed (⟨"f", [⟨"Range", .custom ⟨.range, {}⟩, []⟩,
    ⟨"RANGE", .custom ⟨.range, .ofList [("Min", "1")]⟩, []⟩]⟩ : Feature (Stored Rule))
  have refused : ((⟨"f", [⟨"Range", .custom ⟨.range, {}⟩, []⟩,
      ⟨"RANGE", .custom ⟨.range, .ofList [("Min", "1")]⟩, []⟩]⟩ : Feature (Stored Rule)).assign
        "range" "MIN" "3").1 = .error (.duplicate ⟨"MIN"⟩) := by
    decide +kernel
  obtain ⟨-, handed, kept⟩ := routed "range" "MIN" "3"
  refine ⟨_, rfl, handed ?_, refused, kept ?_ _ refused, (routed "equals" "MIN" "3").1 (by decide +kernel)⟩
  · exact ⟨_, List.mem_cons_self, by decide +kernel⟩
  · exact fun attached _ cause => attached.specification.steady_stored [] "MIN" "3" cause

end Feature

end FeatureFlags
