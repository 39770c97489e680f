import FeatureFlags.Proofs.Document.Independence
import FeatureFlags.Proofs.Text.Casing

namespace FeatureFlags

open Text

section Spelling

variable {name other : String}

theorem lowercase_eq_of_nameKey_eq (same : nameKey name = nameKey other) :
    lowercase name.toList = lowercase other.toList := String.ofList_injective same

theorem eq_empty_of_nameKey_eq (same : nameKey name = nameKey other) (empty : name = "") : other = "" := by
  have nothing : lowercase other.toList = [] := by
    rw [← lowercase_eq_of_nameKey_eq same, empty]
    rfl
  exact String.toList_eq_nil_iff.mp (lowercase_eq_nil_iff.mp nothing)

theorem startsBlank_of_nameKey_eq (same : nameKey name = nameKey other) :
    startsBlank name.toList = startsBlank other.toList := by
  rw [← startsBlank_lowercase, lowercase_eq_of_nameKey_eq same, startsBlank_lowercase]

theorem endsBlank_of_nameKey_eq (same : nameKey name = nameKey other) :
    endsBlank name.toList = endsBlank other.toList := by
  rw [← endsBlank_lowercase, lowercase_eq_of_nameKey_eq same, endsBlank_lowercase]

end Spelling

namespace Line

structure IsValue (text : String) : Prop where
  unequal : '=' ∉ text.toList
  trimmed : trim text.toList = text.toList

variable {row flag value : String} {key : List String}

theorem isValue_of_ofRow (read : ofRow row = .assignment key value) : IsValue value := by
  obtain ⟨-, one, -, rfl⟩ := ofRow_eq_assignment_iff.mp read
  have present : '=' ∈ row.toList := List.count_pos_iff.mp (by omega)
  obtain ⟨left, right, sides, free⟩ := List.eq_append_cons_of_mem present
  rw [sides, List.count_append, List.count_cons_self, List.count_eq_zero_of_not_mem free] at one
  have bare : '=' ∉ right := List.count_eq_zero.mp (by omega)
  rw [sides, rightSide_append free]
  constructor <;> rw [String.toList_ofList]
  · exact fun member => bare (mem_of_mem_trim member)
  · exact trim_trim right

theorem isFlag_of_ofRow (read : ofRow row = .assignment [flag] value) : IsFlag flag := by
  obtain ⟨skipped, -, key, -⟩ := ofRow_eq_assignment_iff.mp read
  have isKey := isKeyOf_segments (not_mem_leftSide row.toList)
  rw [← key] at isKey
  have whole : flag.toList = leftSide row.toList := by simpa using isKey.joined (by simp)
  obtain ⟨nonempty, uncommented⟩ := not_or.mp (mt isSkipped_iff.mpr (Bool.eq_false_iff.mp skipped))
  obtain ⟨undotted, unequal⟩ := isKey.plain flag List.mem_cons_self
  rw [← whole] at nonempty uncommented
  refine { undotted, unequal, uncommented, nonempty := ?_, trimmed := ?_ }
  · exact fun empty => nonempty (String.toList_eq_nil_iff.mpr empty)
  · rw [whole, leftSide, trim_trim]

end Line

variable {σ : Type}

namespace Registry

variable {registry : Registry σ} {rows : List String} {flag specification : String}

theorem names_of_mem_declarations {declaration : Declaration σ}
    (member : declaration ∈ registry.declarations (rows.map .ofRow)) :
    Line.IsFlag declaration.flag ∧ Line.IsValue declaration.name := by
  obtain ⟨line, present, declares⟩ := exists_line_of_mem_declarations member
  obtain ⟨row, -, rfl⟩ := List.mem_map.mp present
  have read := Line.declaration?_eq_some_iff.mp declares
  exact ⟨Line.isFlag_of_ofRow read, Line.isValue_of_ofRow read⟩

/-- A reference that is empty or has blanks at its ends is to nothing that rows can declare. -/
theorem latest?_of_spaced
    (spaced : flag = "" ∨ endsBlank flag.toList = true ∨ startsBlank specification.toList = true ∨
      endsBlank specification.toList = true) :
    registry.latest? (rows.map .ofRow) flag specification = none := by
  rw [latest?_eq_none_iff]
  intro declaration member
  rw [Bool.eq_false_iff]
  intro suits
  obtain ⟨sameFlag, sameSpecification⟩ := Declaration.isFor_iff.mp suits
  obtain ⟨isFlag, isValue⟩ := names_of_mem_declarations member
  -- Names of one key have blanks at the same ends, and declared names have none there.
  have flagEnds := trim_eq_self_iff_ends.mp isFlag.trimmed
  have valueEnds := trim_eq_self_iff_ends.mp isValue.trimmed
  rw [endsBlank_of_nameKey_eq sameFlag] at flagEnds
  rw [startsBlank_of_nameKey_eq sameSpecification, endsBlank_of_nameKey_eq sameSpecification] at valueEnds
  rcases spaced with empty | ends | starts | ends
  · exact isFlag.nonempty (eq_empty_of_nameKey_eq sameFlag.symm empty)
  · exact absurd ends (by simp [flagEnds])
  · exact absurd starts (by simp [valueEnds])
  · exact absurd ends (by simp [valueEnds])

end Registry

/-- Whatever rows have been read, flags and specifications are declared by names of the form that rows give
    to them. So no row can assign to a flag or a specification that it names by nothing or with blanks at the
    ends of the name. -/
theorem scan_names [Criterion σ] (registry : Registry σ) (rows : List String) :
    (∀ count, ∀ feature ∈ (Draft.scan registry {} ((rows.take count).map .ofRow)).2.features.values,
      Line.IsFlag feature.name ∧ ∀ attached ∈ feature.attached, Line.IsValue attached.name) ∧
    ∀ index row flag specification parameter value, rows[index]? = some row →
      Line.ofRow row = .assignment [flag, specification, parameter] value →
      (flag = "" ∨ endsBlank flag.toList = true ∨ startsBlank specification.toList = true ∨
        endsBlank specification.toList = true) →
      ∃ refusal, parse registry rows = .error refusal ∧
        refusal.toList.filter (·.line? == some (index + 1)) =
          [.atLine (index + 1) (.undeclaredSpecification flag)] := by
  constructor
  · intro count feature member
    rw [Registry.scan_empty] at member
    obtain ⟨declaration, declared, same⟩ := Registry.exists_declaration_of_feature member
    refine ⟨same ▸ (Registry.names_of_mem_declarations declared).1, ?_⟩
    intro attached present
    obtain ⟨declaration, declared, rfl⟩ := Registry.exists_declaration_of_attached member present
    rw [declaration.name_attached]
    exact (Registry.names_of_mem_declarations declared).2
  · intro index row flag specification parameter value here read spaced
    have fault : (registry.faultsAfter [] (rows.map .ofRow))[index]? =
        some (some (.undeclaredSpecification flag)) := by
      rw [Registry.getElem?_faultsAfter, List.nil_append, ← List.map_take, List.getElem?_map, here,
        Option.map_some, Option.map_some, read, Registry.faultAfter, Registry.latest?_of_spaced spaced]
    have found := registry.filter_problems_at (rows.map .ofRow) index
    rw [fault] at found
    have wrong : registry.problems (rows.map .ofRow) ≠ [] := by
      intro nothing
      rw [nothing] at found
      exact absurd found (by simp)
    obtain ⟨refusal, refused, listed⟩ := Registry.exists_parse_eq_error wrong
    refine ⟨refusal, refused, ?_⟩
    rw [listed]
    exact found

theorem scan_names_spaced :
    (∀ feature ∈ (Draft.scan .ranged {} ((["f = true", "f . true.x = 1"].take 1).map .ofRow)).2.features.values,
      Line.IsFlag feature.name ∧ ∀ attached ∈ feature.attached, Line.IsValue attached.name) ∧
    ∃ refusal, parse .ranged ["f = true", "f . true.x = 1"] = .error refusal ∧
      refusal.toList.filter (·.line? == some 2) = [.atLine 2 (.undeclaredSpecification "f ")] := by
  have names := scan_names .ranged ["f = true", "f . true.x = 1"]
  exact ⟨names.1 1, names.2 1 _ "f " " true" "x" "1" rfl (by decide +kernel) (by decide +kernel)⟩

end FeatureFlags
