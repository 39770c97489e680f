import FeatureFlags.Proofs.Criterion.Rule
import FeatureFlags.Proofs.Document.Outcome
import FeatureFlags.Proofs.Feature.Assign
import Mathlib.Data.List.Forall2

namespace FeatureFlags

variable {σ : Type} [Criterion σ]

namespace Specification

def assignAll (specification : Specification σ) :
    List (String × String) → Except DuplicateParameter (Specification σ)
  | [] => .ok specification
  | (name, value) :: rest =>
    let answer := specification.assign name value
    match answer.1 with
    | .ok () => answer.2.assignAll rest
    | .error duplicate => .error duplicate

theorem assignAll_concat {specification middle : Specification σ} {settings : List (String × String)}
    (reached : specification.assignAll settings = .ok middle) {name value : String}
    (accepted : (middle.assign name value).1 = .ok ()) :
    specification.assignAll (settings ++ [(name, value)]) = .ok (middle.assign name value).2 := by
  induction settings generalizing specification with
  | nil =>
    rw [assignAll, Except.ok.injEq] at reached
    subst middle
    simp only [List.nil_append, assignAll, accepted]
  | cons setting rest ih =>
    rcases setting with ⟨first, given⟩
    simp only [List.cons_append, assignAll] at reached ⊢
    cases answer : (specification.assign first given).1 with
    | ok _ =>
      rw [answer] at reached
      exact ih reached
    | error _ =>
      rw [answer] at reached
      exact absurd reached (by simp)

end Specification

structure Declaration.Built (registry : Registry σ) (declaration : Declaration σ)
    (attached : Attached σ) : Prop where
  name : attached.name = declaration.name
  prototype : registry.find? declaration.name = some declaration.prototype
  assigned : declaration.prototype.assignAll declaration.settings = .ok attached.specification

namespace Registry

variable {registry : Registry σ} {lines : List Line}

theorem assignAll_of_faultless (faultless : ∀ fault ∈ registry.faultsAfter [] lines, fault = none)
    {declaration : Declaration σ} (member : declaration ∈ registry.declarations lines) :
    declaration.prototype.assignAll declaration.settings =
      .ok declaration.attached.specification := by
  induction lines using List.reverseRecOn generalizing declaration with
  | nil => exact absurd member List.not_mem_nil
  | append_singleton lines line ih =>
    rw [faultsAfter_concat] at faultless
    have before : ∀ fault ∈ registry.faultsAfter [] lines, fault = none :=
      fun fault present => faultless fault (List.mem_append_left _ present)
    have here : registry.faultAfter lines line = none :=
      faultless _ (List.mem_append_right _ List.mem_cons_self)
    rw [declarations_concat] at member
    rcases List.mem_append.mp member with old | new
    · obtain ⟨earlier, present, rfl⟩ := List.mem_map.mp old
      have reached := ih before present
      rcases settings_extend_cases present line with
        same | ⟨flag, specification, name, value, rfl, latest, grown⟩
      · rw [Declaration.attached_extend_of_settings same, same]
        exact reached
      · have accepted : (earlier.attached.assign name value).1 = .ok () := by
          simp only [faultAfter, latest] at here
          cases answer : (earlier.attached.assign name value).1 with
          | ok _ => rfl
          | error _ => simp [answer] at here
        obtain ⟨-, taken, next⟩ := Attached.assign_of_ok accepted
        rw [Declaration.attached_extend_concat grown, grown, next]
        exact Specification.assignAll_concat reached taken
    · obtain ⟨-, -, after⟩ := Declaration.ofLine?_eq_some_iff.mp (Option.mem_toList.mp new)
      have nothing : declaration.settings = [] := by
        rw [Declaration.settings, after]
        rfl
      rw [Declaration.attached, nothing]
      rfl

theorem exists_faultAfter_mem (registry : Registry σ) {line : Line} (earlier : List Line)
    (member : line ∈ lines) :
    ∃ before, registry.faultAfter before line ∈ registry.faultsAfter earlier lines := by
  induction lines generalizing earlier with
  | nil => exact absurd member List.not_mem_nil
  | cons head later ih =>
    rcases List.mem_cons.mp member with rfl | member
    · exact ⟨earlier, List.mem_cons_self⟩
    · obtain ⟨before, present⟩ := ih (earlier ++ [head]) member
      exact ⟨before, List.mem_cons_of_mem _ present⟩

theorem known_of_faultless (faultless : ∀ fault ∈ registry.faultsAfter [] lines, fault = none)
    {flag name : String} (member : Line.assignment [flag] name ∈ lines) :
    ∃ prototype, registry.find? name = some prototype := by
  obtain ⟨before, present⟩ := exists_faultAfter_mem registry [] member
  have known := faultless _ present
  rw [faultAfter] at known
  split at known
  · rename_i contained
    rw [contains, ← NameTable.isSome_find?] at contained
    exact Option.isSome_iff_exists.mp contained
  · exact absurd known (by simp)

theorem isEnabled_declared (lines : List Line) (query : String) :
    (Catalog.mk (registry.declared lines).features).isEnabled query = true ↔
      (∃ declaration ∈ registry.declarations lines, declaration.isOn query = true) ∧
        ∀ declaration ∈ registry.declarations lines, declaration.isOn query = true →
          declaration.attached.specification.vote = true := by
  have present : nameKey query ∈ (registry.flags lines).map nameKey ↔
      ∃ declaration ∈ registry.declarations lines, declaration.isOn query = true :=
    nameKey_mem_flags_iff
  rw [Catalog.isEnabled, Catalog.find?, find?_declared, ← present]
  cases found : (registry.flags lines).find? (sameName · query) with
  | none =>
    have missing := isNone_find?_sameName.mp found
    simp [missing]
  | some spelling =>
    have declared := nameKey_mem_of_find? found
    obtain ⟨declaration, member, on⟩ := present.mp declared
    have attached : registry.attachedOn lines query ≠ [] := by
      intro empty
      rw [attachedOn, List.map_eq_nil_iff, List.filter_eq_nil_iff] at empty
      exact empty declaration member on
    rw [Option.map_some, Option.any_some, Feature.isEnabled, Bool.and_eq_true, Bool.not_eq_true',
      List.isEmpty_eq_false_iff]
    simp only [attached, declared, ne_eq, not_false_eq_true, true_and]
    simp only [attachedOn, List.all_map, List.all_eq_true, List.mem_filter, and_imp,
      Function.comp_apply]

end Registry

/-- The features, in the order of their first declarations, are what the declarations and their
    parameters make of the prototypes; nothing else in the document counts. -/
theorem parse_meaning (registry : Registry σ) (rows : List String) (catalog : Catalog σ)
    (accepted : parse registry rows = .ok catalog) :
    (registry.declarations (rows.map .ofRow)).map (fun declaration =>
        (declaration.flag, declaration.name)) = (rows.map .ofRow).filterMap Line.declaration? ∧
      catalog.flags =
        firstSpellings (((rows.map .ofRow).filterMap Line.declaration?).map (·.1)) ∧
      (∀ feature ∈ catalog.toList,
        List.Forall₂ (Declaration.Built registry)
          ((registry.declarations (rows.map .ofRow)).filter (·.isOn feature.name))
          feature.attached) ∧
      ∀ query, catalog.isEnabled query = true ↔
        (∃ declaration ∈ registry.declarations (rows.map .ofRow), declaration.isOn query = true) ∧
          ∀ declaration ∈ registry.declarations (rows.map .ofRow), declaration.isOn query = true →
            ∃ final, declaration.prototype.assignAll declaration.settings = .ok final ∧
              final.vote = true := by
  obtain ⟨sound, rfl⟩ := Registry.parse_eq_ok_iff.mp accepted
  have faultless : ∀ fault ∈ registry.faultsAfter [] (rows.map .ofRow), fault = none :=
    Problem.ofFaults_eq_nil_iff.mp (List.append_eq_nil_iff.mp sound).1
  have declared := Registry.map_declarations fun flag name =>
    Registry.known_of_faultless faultless
  have flags : (registry.declarations (rows.map .ofRow)).map (·.flag) =
      ((rows.map .ofRow).filterMap Line.declaration?).map (·.1) := by
    rw [← declared, List.map_map]
    rfl
  refine ⟨declared, ?_, ?_, ?_⟩
  · rw [Registry.flags_declared, ← flags]
    rfl
  · intro feature member
    rw [Catalog.toList, Registry.declared, NameTable.values_ofNames] at member
    obtain ⟨flag, -, rfl⟩ := List.mem_map.mp member
    rw [Registry.featureOn, Registry.attachedOn, List.forall₂_map_right_iff, List.forall₂_same]
    intro declaration member
    have present := (List.mem_filter.mp member).1
    exact ⟨declaration.name_attached, Registry.find?_of_mem present,
      Registry.assignAll_of_faultless faultless present⟩
  · intro query
    rw [Registry.isEnabled_declared]
    apply and_congr_right'
    apply forall₂_congr
    intro declaration member
    rw [Registry.assignAll_of_faultless faultless member]
    simp

theorem parse_meaning_ranged :
    ∃ catalog, parse .ranged ["F = range", "f.Range.Min = 1", "f.range.max = 2", "f = true"] =
        .ok catalog ∧
      catalog.flags = ["F"] ∧ catalog.isEnabled "f" = true := by
  have sound : (parse .ranged
      ["F = range", "f.Range.Min = 1", "f.range.max = 2", "f = true"]).isOk = true := by
    decide +kernel
  obtain ⟨catalog, accepted⟩ := exists_ok_of_isOk sound
  obtain ⟨-, flags, -, enabled⟩ := parse_meaning .ranged _ catalog accepted
  have declares : ∃ declaration ∈ Registry.ranged.declarations
      (["F = range", "f.Range.Min = 1", "f.range.max = 2", "f = true"].map .ofRow),
        declaration.isOn "f" = true := by
    decide +kernel
  have votes : ∀ declaration ∈ Registry.ranged.declarations
      (["F = range", "f.Range.Min = 1", "f.range.max = 2", "f = true"].map .ofRow),
        (declaration.prototype.assignAll declaration.settings).toOption.any (·.vote) = true := by
    decide +kernel
  refine ⟨catalog, accepted, ?_, (enabled "f").mpr ⟨declares, ?_⟩⟩
  · rw [flags]
    decide +kernel
  · intro declaration member _
    have vote := votes declaration member
    cases reached : declaration.prototype.assignAll declaration.settings with
    | error duplicate =>
      rw [reached] at vote
      exact absurd vote Bool.false_ne_true
    | ok final =>
      rw [reached] at vote
      exact ⟨final, rfl, vote⟩

end FeatureFlags
