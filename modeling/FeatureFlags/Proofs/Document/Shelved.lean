import FeatureFlags.Document.Shelved
import FeatureFlags.Proofs.Catalog.Replacement
import FeatureFlags.Proofs.Criterion.Rule
import FeatureFlags.Proofs.Document.Outcome

namespace FeatureFlags.Shelf

variable {σ : Type} [Criterion σ]

theorem read_of_inert {registry : Registry σ} {line : Line} {fault : Option Fault} (inert : line.Inert fault)
    (shelf : Shelf (Feature σ)) : shelf.read registry line = some (fault, shelf) := by
  cases inert <;> rfl

section OfTable

variable {registry : Registry σ}

omit [Criterion σ] in
theorem declare_ofTable (draft : Draft σ) (flag name : String) :
    (ofTable draft.features).declare registry flag name =
      some ((draft.declare registry flag name).1, ofTable (draft.declare registry flag name).2.features) := by
  rw [declare, Draft.declare]
  cases registry.find? name with
  | none => rfl
  | some specification => exact update?_entry_ofTable draft.features flag { name := flag } _

theorem assign_ofTable (draft : Draft σ) (flag specification parameter value : String) :
    (ofTable draft.features).assign flag specification parameter value =
      some ((draft.assign flag specification parameter value).1,
        ofTable (draft.assign flag specification parameter value).2.features) := by
  rw [assign, position?_ofTable, Draft.assign]
  cases found : draft.features.position? (nameKey flag) with
  | none =>
    have missing : draft.features.find? flag = none := by
      rw [NameTable.find?_eq_position?, found, Option.bind_none]
    rw [missing]
  | some place =>
    obtain ⟨feature, here⟩ := NameTable.exists_find?_of_position? found
    rw [here]
    exact update?_ofTable found here _

theorem read_ofTable (draft : Draft σ) (line : Line) :
    (ofTable draft.features).read registry line =
      some ((draft.read registry line).1, ofTable (draft.read registry line).2.features) := by
  cases line using Line.byKind with
  | inert line fault inert => rw [read_of_inert inert, inert.read]
  | declaration flag name => exact declare_ofTable draft flag name
  | parameter flag specification name value => exact assign_ofTable draft flag specification name value

theorem scan_ofTable (draft : Draft σ) (lines : List Line) :
    scan registry (ofTable draft.features) lines =
      some ((draft.scan registry lines).1, ofTable (draft.scan registry lines).2.features) := by
  induction lines generalizing draft with
  | nil => rfl
  | cons line later ih =>
    rw [scan, read_ofTable, Draft.scan]
    dsimp only
    rw [ih, Option.map_some]

def ofDeclared (registry : Registry σ) (lines : List Line) : Shelf (Feature σ) :=
  ofTable (registry.declared lines).features

theorem scan_empty (lines : List Line) :
    scan registry {} lines = some ((Draft.scan registry {} lines).1, ofDeclared registry lines) := by
  have made : (Draft.scan registry {} lines).2 = registry.declared lines :=
    congrArg Prod.snd (Registry.scan_empty registry lines)
  rw [ofDeclared, ← made]
  exact scan_ofTable {} lines

end OfTable

section Reachable

variable {registry : Registry σ} {shelf next : Shelf (Feature σ)} {line : Line}

theorem Reachable.read {fault : Option Fault} (reached : shelf.Reachable)
    (result : shelf.read registry line = some (fault, next)) : next.Reachable := by
  cases line using Line.byKind with
  | inert line other inert =>
    rw [read_of_inert inert] at result
    cases result
    exact reached
  | declaration flag name =>
    rw [Shelf.read, declare] at result
    cases found : registry.find? name with
    | none =>
      rw [found] at result
      cases result
      exact reached
    | some specification =>
      rw [found] at result
      exact .updated (.entered reached flag) (fun _ => rfl) result
  | parameter flag specification name value =>
    rw [Shelf.read, assign] at result
    cases found : shelf.position? flag with
    | none =>
      rw [found] at result
      cases result
      exact reached
    | some place =>
      rw [found] at result
      refine .updated reached ?_ result
      exact fun feature => feature.name_assign specification name value

theorem Reachable.scan {faults : List (Option Fault)} {lines : List Line} (reached : shelf.Reachable)
    (result : shelf.scan registry lines = some (faults, next)) : next.Reachable := by
  induction lines generalizing shelf faults with
  | nil =>
    cases result
    exact reached
  | cons line later ih =>
    rw [Shelf.scan] at result
    cases step : shelf.read registry line with
    | none =>
      rw [step] at result
      cases result
    | some answer =>
      rw [step, Option.map_eq_some_iff] at result
      obtain ⟨rest, scanned, same⟩ := result
      cases same
      exact ih (reached.read step) scanned

theorem reachable_ofDeclared (registry : Registry σ) (lines : List Line) :
    (ofDeclared registry lines).Reachable := Reachable.empty.scan (scan_empty lines)

end Reachable

section Declared

variable {registry : Registry σ} {lines : List Line}

theorem values_ofDeclared (registry : Registry σ) (lines : List Line) :
    (ofDeclared registry lines).values = (registry.flags lines).map (registry.featureOn lines) := by
  rw [ofDeclared, ofTable, Registry.declared, NameTable.values_ofNames]

theorem entry_ofDeclared_iff (registry : Registry σ) (lines : List Line) (flag : String) :
    ((ofDeclared registry lines).entry flag { name := flag }).1 = (ofDeclared registry lines).values.length ↔
      ∀ declaration ∈ registry.declarations lines, nameKey declaration.flag ≠ nameKey flag := by
  have declared : nameKey flag ∈ (registry.flags lines).map nameKey ↔
      ∃ declaration ∈ registry.declarations lines, nameKey declaration.flag = nameKey flag := by
    simp only [Registry.nameKey_mem_flags_iff, Declaration.isOn_iff]
  have known : (∃ declaration ∈ registry.declarations lines, nameKey declaration.flag = nameKey flag) ↔
      ∃ feature ∈ (ofDeclared registry lines).values, nameKey feature.name = nameKey flag := by
    rw [← declared, values_ofDeclared, List.mem_map]
    simp only [List.mem_map, exists_exists_and_eq_and]
    rfl
  rw [(reachable_ofDeclared registry lines).aligned.fresh flag, ← not_iff_not]
  simpa using known.symm

theorem attached_ne_nil_of_mem_values {feature : Feature σ}
    (member : feature ∈ (ofDeclared registry lines).values) : feature.attached ≠ [] := by
  rw [values_ofDeclared] at member
  obtain ⟨flag, listed, rfl⟩ := List.mem_map.mp member
  obtain ⟨declaration, present, on⟩ := Registry.nameKey_mem_flags_iff.mp (List.mem_map_of_mem listed)
  exact List.ne_nil_of_mem (List.mem_map_of_mem (List.mem_filter.mpr ⟨present, on⟩))

theorem ofFeatures_ofDeclared (registry : Registry σ) (lines : List Line) :
    ofFeatures (ofDeclared registry lines).values = some (ofDeclared registry lines) := by
  rw [ofFeatures_eq, ofDeclared]
  exact congrArg (fun catalog : Catalog σ => some (ofTable catalog.features)) (Registry.ofFeatures_declared lines)

end Declared

/-- However flags are entered and features changed, the index of a shelf has the place of each feature under
    its name and nothing else, so that a flag is entered at the end exactly if it is new. Documents are read
    onto a shelf as into a draft, without ever missing a place; after every line each feature has a
    specification. The features of a document make a catalog in their order, none in the place of another. -/
theorem scan_aligned (registry : Registry σ) (rows : List String) :
    (∀ shelf : Shelf (Feature σ), shelf.Reachable → shelf.Aligned) ∧
    ∃ shelf : Shelf (Feature σ), shelf.Reachable ∧
      scan registry {} (rows.map .ofRow) = some ((Draft.scan registry {} (rows.map .ofRow)).1, shelf) ∧
      shelf.values = (Draft.scan registry {} (rows.map .ofRow)).2.features.values ∧
      (∀ flag, (shelf.entry flag { name := flag }).1 = shelf.values.length ↔
        ∀ declaration ∈ registry.declarations (rows.map .ofRow), nameKey declaration.flag ≠ nameKey flag) ∧
      (∀ feature ∈ shelf.values, feature.attached ≠ []) ∧
      (∀ before feature after, shelf.values = before ++ feature :: after →
        ∃ earlier, ofFeatures before = some earlier ∧ earlier.position? feature.name = none) ∧
      ofFeatures shelf.values = some shelf ∧
      ∀ catalog, parse registry rows = .ok catalog → catalog.toList = shelf.values := by
  have reached := reachable_ofDeclared registry (rows.map .ofRow)
  refine ⟨fun _ reached => reached.aligned, ofDeclared registry (rows.map .ofRow), reached, scan_empty _, ?_,
    entry_ofDeclared_iff registry _, fun _ member => attached_ne_nil_of_mem_values member, ?_,
    ofFeatures_ofDeclared registry _, ?_⟩
  · rw [Registry.scan_empty]
    rfl
  · exact fun _ _ _ parts => position?_ofFeatures_of_distinct reached.aligned.distinct parts
  · intro catalog accepted
    obtain ⟨-, rfl⟩ := Registry.parse_eq_ok_iff.mp accepted
    rfl

theorem scan_aligned_ranged :
    ∃ shelf : Shelf (Feature (Stored Rule)), shelf.index.entries = [("f", 0), ("g", 1)] ∧
      (∃ first second, shelf.values = [first, second] ∧
        ∃ earlier, ofFeatures [first] = some earlier ∧ earlier.position? second.name = none) ∧
      ∃ catalog, parse .ranged ["F = range", "f.range.Min = 1", "G = true", "f.RANGE.max = 2"] = .ok catalog ∧
        catalog.toList = shelf.values := by
  obtain ⟨aligned, shelf, reached, -, values, -, -, apart, -, same⟩ :=
    scan_aligned .ranged ["F = range", "f.range.Min = 1", "G = true", "f.RANGE.max = 2"]
  have names : shelf.values.map (fun feature => nameKey feature.name) = ["f", "g"] := by
    rw [values]
    decide +kernel
  have sound : (parse .ranged ["F = range", "f.range.Min = 1", "G = true", "f.RANGE.max = 2"]).isOk = true := by
    decide +kernel
  obtain ⟨catalog, accepted⟩ := exists_ok_of_isOk sound
  have length : shelf.values.length = 2 := by
    rw [← List.length_map fun feature : Feature (Stored Rule) => nameKey feature.name, names]
    rfl
  obtain ⟨first, second, parts⟩ := List.length_eq_two.mp length
  refine ⟨shelf, ?_, ⟨first, second, parts, apart [first] second [] parts⟩, catalog, accepted,
    same catalog accepted⟩
  rw [(aligned shelf reached).indexed, names]
  rfl

end FeatureFlags.Shelf
