import FeatureFlags.Document.Draft
import FeatureFlags.Proofs.Name.Spellings
import Mathlib.Data.List.TakeWhile

namespace FeatureFlags

namespace Line

def declaration? : Line → Option (String × String)
  | assignment [flag] name => some (flag, name)
  | _ => none

def declares (flag name : String) (line : Line) : Bool :=
  match line.declaration? with
  | some (other, specification) => sameName other flag && sameName specification name
  | none => false

def setting? (flag name : String) : Line → Option (String × String)
  | assignment [other, specification, parameter] value =>
    if sameName other flag && sameName specification name then some (parameter, value) else none
  | _ => none

/-- What the lines after a declaration set on it. The next one of its flag and name takes over. -/
def settings (flag name : String) (lines : List Line) : List (String × String) :=
  (lines.takeWhile (!·.declares flag name)).filterMap (·.setting? flag name)

/-- Neither a declaration nor a parameter; the fault is then that of the line alone. -/
inductive Inert : Line → Option Fault → Prop where
  | ignored : Inert .ignored none
  | missingEqualSign : Inert .missingEqualSign (some .missingEqualSign)
  | multipleEqualSigns : Inert .multipleEqualSigns (some .multipleEqualSigns)
  | noSegment {value : String} : Inert (.assignment [] value) (some .wrongParameterUsage)
  | twoSegments {flag specification value : String} :
    Inert (.assignment [flag, specification] value) (some .wrongParameterUsage)
  | manySegments {flag specification name next : String} {rest : List String} {value : String} :
    Inert (.assignment (flag :: specification :: name :: next :: rest) value) (some .wrongParameterUsage)

@[elab_as_elim]
theorem byKind {motive : Line → Prop} (line : Line)
    (inert : ∀ line fault, Inert line fault → motive line)
    (declaration : ∀ flag name, motive (.assignment [flag] name))
    (parameter : ∀ flag specification name value, motive (.assignment [flag, specification, name] value)) :
    motive line := by
  match line with
  | .ignored => exact inert _ _ .ignored
  | .missingEqualSign => exact inert _ _ .missingEqualSign
  | .multipleEqualSigns => exact inert _ _ .multipleEqualSigns
  | .assignment [] _ => exact inert _ _ .noSegment
  | .assignment [flag] name => exact declaration flag name
  | .assignment [_, _] _ => exact inert _ _ .twoSegments
  | .assignment [flag, specification, name] value => exact parameter flag specification name value
  | .assignment (_ :: _ :: _ :: _ :: _) _ => exact inert _ _ .manySegments

namespace Inert

variable {line : Line} {fault : Option Fault}

theorem declaration? (inert : Inert line fault) : line.declaration? = none := by
  cases inert <;> rfl

theorem setting? (inert : Inert line fault) (flag name : String) : line.setting? flag name = none := by
  cases inert <;> rfl

theorem read {σ : Type} [Criterion σ] {registry : Registry σ} (inert : Inert line fault) (draft : Draft σ) :
    draft.read registry line = (fault, draft) := by
  cases inert <;> rfl

theorem of_length {key : List String} (one : key.length ≠ 1) (three : key.length ≠ 3) (value : String) :
    Inert (.assignment key value) (some .wrongParameterUsage) := by
  match key with
  | [] => exact .noSegment
  | [_] => exact absurd rfl one
  | [_, _] => exact .twoSegments
  | [_, _, _] => exact absurd rfl three
  | _ :: _ :: _ :: _ :: _ => exact .manySegments

end Inert

variable {flag name other specification : String}

theorem declaration?_eq_some_iff {line : Line} :
    line.declaration? = some (flag, name) ↔ line = .assignment [flag] name := by
  constructor
  · intro declares
    unfold declaration? at declares
    split at declares
    · obtain ⟨rfl, rfl⟩ := Prod.mk.inj (Option.some.inj declares)
      rfl
    · exact absurd declares (by simp)
  · rintro rfl
    rfl

theorem declares_iff {line : Line} :
    line.declares flag name = true ↔ ∃ other specification,
      line.declaration? = some (other, specification) ∧
        nameKey other = nameKey flag ∧ nameKey specification = nameKey name := by
  unfold declares
  cases line.declaration? with
  | none => simp
  | some names => simp [sameName_iff, Prod.ext_iff, and_assoc]

theorem setting?_of_declares {line : Line} (declares : line.declares flag name = true)
    (other specification : String) : line.setting? other specification = none := by
  unfold Line.declares declaration? at declares
  split at declares
  · rename_i found
    split at found
    · rfl
    · exact absurd found (by simp)
  · exact absurd declares (by simp)

theorem declares_congr (sameFlag : nameKey flag = nameKey other)
    (sameSpecification : nameKey name = nameKey specification) (line : Line) :
    line.declares flag name = line.declares other specification := by
  unfold declares
  split
  · rw [sameName_congr_right sameFlag, sameName_congr_right sameSpecification]
  · rfl

theorem setting?_congr (sameFlag : nameKey flag = nameKey other)
    (sameSpecification : nameKey name = nameKey specification) (line : Line) :
    line.setting? flag name = line.setting? other specification := by
  unfold setting?
  split
  · rw [sameName_congr_right sameFlag, sameName_congr_right sameSpecification]
  · rfl

theorem setting?_eq_some_iff {parameter value : String} {line : Line} :
    line.setting? flag name = some (parameter, value) ↔ ∃ other specification,
      line = assignment [other, specification, parameter] value ∧
        nameKey other = nameKey flag ∧ nameKey specification = nameKey name := by
  constructor
  · intro sets
    unfold setting? at sets
    split at sets
    · rename_i other specification given raw
      split at sets
      · rename_i same
        obtain ⟨rfl, rfl⟩ := Prod.mk.inj (Option.some.inj sets)
        simp only [Bool.and_eq_true, sameName_iff] at same
        exact ⟨other, specification, rfl, same⟩
      · exact absurd sets (by simp)
    · exact absurd sets (by simp)
  · rintro ⟨other, specification, rfl, sameFlag, sameSpecification⟩
    simp [setting?, sameName, sameFlag, sameSpecification]

theorem settings_congr (sameFlag : nameKey flag = nameKey other)
    (sameSpecification : nameKey name = nameKey specification) (lines : List Line) :
    settings flag name lines = settings other specification lines := by
  unfold settings
  simp only [declares_congr sameFlag sameSpecification, setting?_congr sameFlag sameSpecification]

theorem settings_cons (line : Line) (later : List Line) :
    settings flag name (line :: later) =
      if line.declares flag name then []
      else (line.setting? flag name).toList ++ settings flag name later := by
  cases declares : line.declares flag name
  · cases found : line.setting? flag name <;> simp [settings, declares, found]
  · simp [settings, declares]

theorem settings_concat (lines : List Line) (line : Line) :
    settings flag name (lines ++ [line]) =
      if lines.any (·.declares flag name) then settings flag name lines
      else settings flag name lines ++ (line.setting? flag name).toList := by
  induction lines with
  | nil =>
    rw [List.nil_append, settings_cons]
    cases declares : line.declares flag name
    · simp [settings]
    · simp [settings, setting?_of_declares declares]
  | cons head later ih =>
    rw [List.cons_append, settings_cons, settings_cons, ih, List.any_cons]
    cases head.declares flag name
    · simp only [Bool.false_eq_true, ↓reduceIte, Bool.false_or]
      split
      · rfl
      · rw [List.append_assoc]
    · simp only [↓reduceIte, Bool.true_or]

end Line

/-- A line that declares a registered specification, with the lines that come after it. -/
structure Declaration (σ : Type) where
  flag : String
  name : String
  prototype : Specification σ
  later : List Line

namespace Declaration

variable {σ : Type} {registry : Registry σ} {flag name : String}

def ofLine? (registry : Registry σ) (line : Line) (later : List Line) : Option (Declaration σ) := do
  let (flag, name) ← line.declaration?
  let prototype ← registry.find? name
  return ⟨flag, name, prototype, later⟩

def isOn (flag : String) (declaration : Declaration σ) : Bool := sameName declaration.flag flag

def isFor (flag name : String) (declaration : Declaration σ) : Bool :=
  declaration.isOn flag && sameName declaration.name name

def settings (declaration : Declaration σ) : List (String × String) :=
  Line.settings declaration.flag declaration.name declaration.later

def extend (line : Line) (declaration : Declaration σ) : Declaration σ :=
  { declaration with later := declaration.later ++ [line] }

def isOpen (declaration : Declaration σ) : Bool :=
  !declaration.later.any (·.declares declaration.flag declaration.name)

@[simp] theorem isOn_extend (line : Line) (declaration : Declaration σ) :
    (declaration.extend line).isOn flag = declaration.isOn flag := rfl

theorem isOn_iff {declaration : Declaration σ} :
    declaration.isOn flag = true ↔ nameKey declaration.flag = nameKey flag := sameName_iff

theorem isFor_iff {declaration : Declaration σ} :
    declaration.isFor flag name = true ↔
      nameKey declaration.flag = nameKey flag ∧ nameKey declaration.name = nameKey name := by
  simp [isFor, isOn, sameName]

theorem ofLine?_of_inert {line : Line} {fault : Option Fault} (inert : line.Inert fault) (later : List Line) :
    ofLine? registry line later = none := by
  rw [ofLine?, inert.declaration?]
  rfl

theorem ofLine?_eq_some_iff {line : Line} {later : List Line} {declaration : Declaration σ} :
    ofLine? registry line later = some declaration ↔
      line.declaration? = some (declaration.flag, declaration.name) ∧
        registry.find? declaration.name = some declaration.prototype ∧ declaration.later = later := by
  rcases declaration with ⟨flag, name, prototype, after⟩
  simp only [ofLine?, Option.bind_eq_bind, Option.bind_eq_some_iff, Option.pure_def,
    Option.some.injEq, mk.injEq]
  constructor
  · rintro ⟨⟨_, _⟩, declared, _, found, rfl, rfl, rfl, rfl⟩
    exact ⟨declared, found, rfl⟩
  · rintro ⟨declared, found, rfl⟩
    exact ⟨_, declared, _, found, rfl, rfl, rfl, rfl⟩

theorem ofLine?_extend (line next : Line) (later : List Line) :
    ofLine? registry line (later ++ [next]) = (ofLine? registry line later).map (extend next) := by
  cases declared : line.declaration? with
  | none => simp [ofLine?, declared]
  | some names => cases found : registry.find? names.2 <;> simp [ofLine?, declared, found, extend]

theorem setting?_parameter (declaration : Declaration σ) (flag specification name value : String) :
    (Line.assignment [flag, specification, name] value).setting? declaration.flag declaration.name =
      if declaration.isFor flag specification then some (name, value) else none := by
  rw [Line.setting?, sameName_comm flag, sameName_comm specification]
  rfl

theorem settings_extend (line : Line) (declaration : Declaration σ) :
    (declaration.extend line).settings =
      if declaration.isOpen then
        declaration.settings ++ (line.setting? declaration.flag declaration.name).toList
      else declaration.settings := by
  simp only [settings, extend, Line.settings_concat, isOpen]
  by_cases taken : declaration.later.any (·.declares declaration.flag declaration.name) = true
  · simp only [taken, ↓reduceIte, Bool.not_true, Bool.false_eq_true]
  · simp only [taken, Bool.false_eq_true, ↓reduceIte, Bool.not_false]

theorem settings_of_isOpen {declaration : Declaration σ} (current : declaration.isOpen = true) :
    declaration.settings =
      declaration.later.filterMap (·.setting? declaration.flag declaration.name) := by
  have whole : declaration.later.takeWhile (!·.declares declaration.flag declaration.name) =
      declaration.later := by
    rw [List.takeWhile_eq_self_iff]
    simpa [isOpen] using current
  rw [settings, Line.settings, whole]

end Declaration

namespace Registry

variable {σ : Type} (registry : Registry σ)

def declarations : List Line → List (Declaration σ)
  | [] => []
  | line :: later => (Declaration.ofLine? registry line later).toList ++ declarations later

def flags (lines : List Line) : List String :=
  firstSpellings ((registry.declarations lines).map (·.flag))

def latest? (lines : List Line) (flag name : String) : Option (Declaration σ) :=
  (registry.declarations lines).reverse.find? (·.isFor flag name)

variable {registry} {flag name : String} {lines : List Line}

theorem latest?_congr {other specification : String} (sameFlag : nameKey flag = nameKey other)
    (sameSpecification : nameKey name = nameKey specification) :
    registry.latest? lines flag name = registry.latest? lines other specification := by
  unfold latest?
  congr 1
  funext declaration
  rw [Bool.eq_iff_iff, Declaration.isFor_iff, Declaration.isFor_iff, sameFlag, sameSpecification]

theorem find?_of_mem {declaration : Declaration σ} (member : declaration ∈ registry.declarations lines) :
    registry.find? declaration.name = some declaration.prototype := by
  induction lines with
  | nil => exact absurd member List.not_mem_nil
  | cons line later ih =>
    rcases List.mem_append.mp member with here | member
    · exact (Declaration.ofLine?_eq_some_iff.mp (Option.mem_toList.mp here)).2.1
    · exact ih member

theorem exists_line_of_mem_declarations {declaration : Declaration σ}
    (member : declaration ∈ registry.declarations lines) :
    ∃ line ∈ lines, line.declaration? = some (declaration.flag, declaration.name) := by
  induction lines with
  | nil => exact absurd member List.not_mem_nil
  | cons line later ih =>
    rcases List.mem_append.mp member with here | member
    · exact ⟨line, List.mem_cons_self, (Declaration.ofLine?_eq_some_iff.mp (Option.mem_toList.mp here)).1⟩
    · obtain ⟨line, present, declares⟩ := ih member
      exact ⟨line, List.mem_cons_of_mem _ present, declares⟩

theorem declarations_concat (lines : List Line) (line : Line) :
    registry.declarations (lines ++ [line]) =
      (registry.declarations lines).map (·.extend line) ++
        (Declaration.ofLine? registry line []).toList := by
  induction lines with
  | nil => simp [declarations]
  | cons head later ih =>
    simp only [List.cons_append, declarations, Declaration.ofLine?_extend, ih, List.map_append,
      List.append_assoc, Option.toList_map]

theorem nodup_map_nameKey_flags : ((registry.flags lines).map nameKey).Nodup :=
  nodup_map_nameKey_firstSpellings _

theorem nameKey_mem_flags_iff :
    nameKey flag ∈ (registry.flags lines).map nameKey ↔
      ∃ declaration ∈ registry.declarations lines, declaration.isOn flag = true := by
  simp [flags, nameKey_mem_firstSpellings_iff, Declaration.isOn_iff]

theorem flags_concat (lines : List Line) (line : Line) :
    registry.flags (lines ++ [line]) = firstSpellings ((registry.declarations lines).map (·.flag) ++
      ((Declaration.ofLine? registry line []).map (·.flag)).toList) := by
  rw [flags, declarations_concat, List.map_append, List.map_map, Option.toList_map]
  rfl

theorem flags_concat_of_undeclared {line : Line}
    (undeclared : Declaration.ofLine? registry line [] = none) :
    registry.flags (lines ++ [line]) = registry.flags lines := by
  rw [flags_concat, undeclared, Option.map_none, Option.toList_none, List.append_nil, flags]

theorem ofLine?_declaration {prototype : Specification σ} (known : registry.find? name = some prototype)
    (flag : String) (later : List Line) :
    Declaration.ofLine? registry (.assignment [flag] name) later =
      some ⟨flag, name, prototype, later⟩ := by
  simp [Declaration.ofLine?, Line.declaration?, known]

theorem flags_concat_declaration {prototype : Specification σ}
    (known : registry.find? name = some prototype) (lines : List Line) (flag : String) :
    registry.flags (lines ++ [.assignment [flag] name]) =
      if nameKey flag ∈ (registry.flags lines).map nameKey then registry.flags lines
      else registry.flags lines ++ [flag] := by
  rw [flags_concat, ofLine?_declaration known, Option.map_some, Option.toList_some,
    firstSpellings_concat]
  simp only [flags, nameKey_mem_firstSpellings_iff]

theorem latest?_cons (line : Line) (later : List Line) :
    registry.latest? (line :: later) flag name =
      (registry.latest? later flag name).or
        ((Declaration.ofLine? registry line later).filter (·.isFor flag name)) := by
  simp only [latest?, declarations, List.reverse_append, List.find?_append]
  cases Declaration.ofLine? registry line later with
  | none => rfl
  | some declaration => cases suits : declaration.isFor flag name <;> simp [suits, Option.filter]

theorem latest?_eq_none_iff :
    registry.latest? lines flag name = none ↔
      ∀ declaration ∈ registry.declarations lines, declaration.isFor flag name = false := by
  simp [latest?]

theorem mem_of_latest? {declaration : Declaration σ}
    (latest : registry.latest? lines flag name = some declaration) :
    declaration ∈ registry.declarations lines :=
  List.mem_reverse.mp (List.mem_of_find?_eq_some latest)

theorem isFor_of_latest? {declaration : Declaration σ}
    (latest : registry.latest? lines flag name = some declaration) :
    declaration.isFor flag name = true :=
  List.find?_some latest

theorem isSome_latest? {prototype : Specification σ} (known : registry.find? name = some prototype)
    (lines : List Line) (flag : String) :
    (registry.latest? lines flag name).isSome = lines.any (·.declares flag name) := by
  induction lines with
  | nil => rfl
  | cons line later ih =>
    rw [latest?_cons, Option.isSome_or, ih, List.any_cons, Bool.or_comm]
    congr 1
    unfold Line.declares Declaration.ofLine?
    cases line.declaration? with
    | none => rfl
    | some names =>
      cases suits : sameName names.2 name
      · cases found : registry.find? names.2 <;>
          simp [found, Option.filter, Declaration.isFor, suits]
      · have found : registry.find? names.2 = some prototype :=
          (find?_congr (sameName_iff.mp suits)).trans known
        cases on : sameName names.1 flag <;>
          simp [found, Option.filter, Declaration.isFor, Declaration.isOn, suits, on]

theorem isOpen_eq_isNone {declaration : Declaration σ}
    (known : registry.find? declaration.name = some declaration.prototype)
    (suits : declaration.isFor flag name = true) :
    declaration.isOpen = (registry.latest? declaration.later flag name).isNone := by
  obtain ⟨sameFlag, sameSpecification⟩ := Declaration.isFor_iff.mp suits
  rw [← latest?_congr sameFlag sameSpecification, Declaration.isOpen,
    ← isSome_latest? known declaration.later declaration.flag, Option.not_isSome]

theorem isOpen_of_latest? {declaration : Declaration σ}
    (latest : registry.latest? lines flag name = some declaration) : declaration.isOpen = true := by
  induction lines with
  | nil => exact absurd latest (by simp [latest?, declarations])
  | cons line later ih =>
    rw [latest?_cons, Option.or_eq_some_iff] at latest
    rcases latest with latest | ⟨last, here⟩
    · exact ih latest
    · obtain ⟨declared, suits⟩ := Option.filter_eq_some_iff.mp here
      obtain ⟨-, known, rfl⟩ := Declaration.ofLine?_eq_some_iff.mp declared
      rw [isOpen_eq_isNone known suits, last]
      rfl

theorem latest?_of_isOpen {declaration : Declaration σ}
    (member : declaration ∈ registry.declarations lines) (current : declaration.isOpen = true)
    (suits : declaration.isFor flag name = true) :
    registry.latest? lines flag name = some declaration := by
  induction lines with
  | nil => exact absurd member List.not_mem_nil
  | cons line later ih =>
    rw [latest?_cons, Option.or_eq_some_iff]
    rcases List.mem_append.mp member with here | member
    · right
      have declared := Option.mem_toList.mp here
      obtain ⟨-, known, rfl⟩ := Declaration.ofLine?_eq_some_iff.mp declared
      rw [isOpen_eq_isNone known suits, Option.isNone_iff_eq_none] at current
      exact ⟨current, Option.filter_eq_some_iff.mpr ⟨declared, suits⟩⟩
    · exact Or.inl (ih member)

/-- A further line leaves a declaration as it is or has a parameter for it, the latest of its kind. -/
theorem settings_extend_cases {declaration : Declaration σ}
    (member : declaration ∈ registry.declarations lines) (line : Line) :
    (declaration.extend line).settings = declaration.settings ∨
      ∃ flag specification name value, line = .assignment [flag, specification, name] value ∧
        registry.latest? lines flag specification = some declaration ∧
          (declaration.extend line).settings = declaration.settings ++ [(name, value)] := by
  rw [Declaration.settings_extend]
  cases current : declaration.isOpen
  · exact Or.inl rfl
  · cases sets : line.setting? declaration.flag declaration.name with
    | none => exact Or.inl (List.append_nil _)
    | some setting =>
      obtain ⟨flag, specification, form, sameFlag, sameSpecification⟩ := Line.setting?_eq_some_iff.mp sets
      have latest := latest?_of_isOpen member current
        (Declaration.isFor_iff.mpr ⟨sameFlag.symm, sameSpecification.symm⟩)
      exact Or.inr ⟨flag, specification, setting.1, setting.2, form, latest, rfl⟩

theorem settings_extend_parameter {declaration : Declaration σ}
    (member : declaration ∈ registry.declarations lines) (flag specification name value : String) :
    (declaration.extend (.assignment [flag, specification, name] value)).settings =
        declaration.settings ∨
      registry.latest? lines flag specification = some declaration ∧
        (declaration.extend (.assignment [flag, specification, name] value)).settings =
          declaration.settings ++ [(name, value)] := by
  rcases settings_extend_cases member (.assignment [flag, specification, name] value) with
    same | ⟨_, _, _, _, form, latest, grown⟩
  · exact Or.inl same
  · simp only [Line.assignment.injEq, List.cons.injEq, and_true] at form
    obtain ⟨⟨rfl, rfl, rfl⟩, rfl⟩ := form
    exact Or.inr ⟨latest, grown⟩

theorem map_declarations (known : ∀ flag name, Line.assignment [flag] name ∈ lines →
      ∃ prototype, registry.find? name = some prototype) :
    (registry.declarations lines).map (fun declaration => (declaration.flag, declaration.name)) =
      lines.filterMap Line.declaration? := by
  induction lines with
  | nil => rfl
  | cons line later ih =>
    have rest := ih fun flag name member => known flag name (List.mem_cons_of_mem _ member)
    rw [declarations, List.map_append, rest]
    cases declares : line.declaration? with
    | none => simp [Declaration.ofLine?, declares]
    | some names =>
      obtain rfl := Line.declaration?_eq_some_iff.mp declares
      obtain ⟨prototype, found⟩ := known names.1 names.2 List.mem_cons_self
      rw [ofLine?_declaration found]
      rfl

end Registry

end FeatureFlags
