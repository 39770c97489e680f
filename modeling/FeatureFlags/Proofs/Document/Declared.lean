import FeatureFlags.Proofs.Document.Routing

namespace FeatureFlags

variable {σ : Type} [Criterion σ]

namespace Registry

def featureOn (registry : Registry σ) (lines : List Line) (flag : String) : Feature σ :=
  ⟨flag, registry.attachedOn lines flag⟩

def declared (registry : Registry σ) (lines : List Line) : Draft σ :=
  ⟨.ofNames (registry.flags lines) (registry.featureOn lines)⟩

def faultAfter (registry : Registry σ) (earlier : List Line) : Line → Option Fault
  | .ignored => none
  | .missingEqualSign => some .missingEqualSign
  | .multipleEqualSigns => some .multipleEqualSigns
  | .assignment [_] name =>
    if registry.contains name then none else some (.unknownSpecification name)
  | .assignment [flag, specification, parameter] value =>
    match registry.latest? earlier flag specification with
    | none => some (.undeclaredSpecification flag)
    | some declaration =>
      match (declaration.attached.assign parameter value).1 with
      | .ok () => none
      | .error _ => some (.parameterDeclaredTwice parameter)
  | .assignment _ _ => some .wrongParameterUsage

def faultsAfter (registry : Registry σ) : List Line → List Line → List (Option Fault)
  | _, [] => []
  | earlier, line :: later =>
    registry.faultAfter earlier line :: faultsAfter registry (earlier ++ [line]) later

variable {registry : Registry σ} {flag name : String} {lines : List Line}

theorem faultAfter_of_inert {line : Line} {fault : Option Fault} (inert : line.Inert fault)
    (earlier : List Line) : registry.faultAfter earlier line = fault := by
  cases inert <;> rfl

theorem length_faultsAfter (earlier lines : List Line) :
    (registry.faultsAfter earlier lines).length = lines.length := by
  induction lines generalizing earlier with
  | nil => rfl
  | cons line later ih => rw [faultsAfter, List.length_cons, List.length_cons, ih]

theorem faultsAfter_concat (earlier lines : List Line) (line : Line) :
    registry.faultsAfter earlier (lines ++ [line]) =
      registry.faultsAfter earlier lines ++ [registry.faultAfter (earlier ++ lines) line] := by
  induction lines generalizing earlier with
  | nil => simp [faultsAfter]
  | cons head later ih => simp [faultsAfter, ih]

theorem getElem?_faultsAfter (earlier lines : List Line) (index : Nat) :
    (registry.faultsAfter earlier lines)[index]? =
      lines[index]?.map (registry.faultAfter (earlier ++ lines.take index)) := by
  induction lines generalizing earlier index with
  | nil => rfl
  | cons line later ih =>
    cases index with
    | zero => simp [faultsAfter]
    | succ index => simp [faultsAfter, ih]

theorem declared_concat_of_kept {line : Line}
    (undeclared : Declaration.ofLine? registry line [] = none)
    (kept : ∀ declaration ∈ registry.declarations lines,
      (declaration.extend line).attached = declaration.attached) :
    registry.declared (lines ++ [line]) = registry.declared lines := by
  rw [declared, declared, flags_concat_of_undeclared undeclared, Draft.mk.injEq]
  apply NameTable.ofNames_congr
  intro flag _
  rw [featureOn, featureOn, attachedOn_concat_of_kept undeclared]
  intro declaration member _
  exact kept declaration member

theorem declared_concat_of_silent {line : Line}
    (undeclared : Declaration.ofLine? registry line [] = none)
    (silent : ∀ flag name, line.setting? flag name = none) :
    registry.declared (lines ++ [line]) = registry.declared lines :=
  declared_concat_of_kept undeclared fun _ _ => Declaration.attached_extend_of_none (silent _ _)

theorem declared_concat_of_inert {line : Line} {fault : Option Fault} (inert : line.Inert fault) :
    registry.declared (lines ++ [line]) = registry.declared lines :=
  declared_concat_of_silent (Declaration.ofLine?_of_inert inert []) inert.setting?

theorem declared_concat_of_undeclared {specification : String}
    (undeclared : registry.latest? lines flag specification = none) (name value : String) :
    registry.declared (lines ++ [.assignment [flag, specification, name] value]) =
      registry.declared lines :=
  declared_concat_of_kept rfl fun _ member =>
    attached_extend_of_undeclared undeclared member name value

theorem find?_declared (lines : List Line) (flag : String) :
    (registry.declared lines).features.find? flag =
      ((registry.flags lines).find? (sameName · flag)).map fun spelling =>
        ⟨spelling, registry.attachedOn lines flag⟩ := by
  rw [declared, NameTable.find?_ofNames]
  cases found : (registry.flags lines).find? (sameName · flag) with
  | none => rfl
  | some spelling =>
    rw [Option.map_some, Option.map_some, featureOn, attachedOn_congr (nameKey_of_find? found)]

theorem exists_declaration_of_feature {feature : Feature σ}
    (member : feature ∈ (registry.declared lines).features.values) :
    ∃ declaration ∈ registry.declarations lines, declaration.flag = feature.name := by
  rw [declared, NameTable.values_ofNames] at member
  obtain ⟨flag, listed, rfl⟩ := List.mem_map.mp member
  exact List.mem_map.mp (mem_of_mem_firstSpellings listed)

theorem exists_declaration_of_attached {feature : Feature σ} {attached : Attached σ}
    (member : feature ∈ (registry.declared lines).features.values) (present : attached ∈ feature.attached) :
    ∃ declaration ∈ registry.declarations lines, declaration.attached = attached := by
  rw [declared, NameTable.values_ofNames] at member
  obtain ⟨flag, -, rfl⟩ := List.mem_map.mp member
  obtain ⟨declaration, listed, same⟩ := List.mem_map.mp present
  exact ⟨declaration, (List.mem_filter.mp listed).1, same⟩

/-- A declared flag keeps its place and its spelling when its feature is put back. -/
theorem insert_declared {spelling : String}
    (found : (registry.flags lines).find? (sameName · flag) = some spelling) (next : List Line)
    (frame : ∀ other, nameKey other ≠ nameKey flag →
      registry.attachedOn next other = registry.attachedOn lines other) :
    (registry.declared lines).features.insert flag ⟨spelling, registry.attachedOn next flag⟩ =
      .ofNames (registry.flags lines) (registry.featureOn next) := by
  have same := nameKey_of_find? found
  rw [declared, ← attachedOn_congr same]
  apply NameTable.insert_ofNames_known (registry.featureOn lines) (registry.featureOn next)
    nodup_map_nameKey_flags (List.mem_of_find?_eq_some found) same
  intro other _ different
  rw [featureOn, featureOn, frame other different]

theorem assign_declared (lines : List Line) (flag specification name value : String) :
    (registry.declared lines).assign flag specification name value =
      (registry.faultAfter lines (.assignment [flag, specification, name] value),
        registry.declared (lines ++ [.assignment [flag, specification, name] value])) := by
  simp only [Draft.assign, find?_declared, faultAfter]
  cases found : (registry.flags lines).find? (sameName · flag) with
  | none =>
    have undeclared : registry.latest? lines flag specification = none := by
      rw [latest?_eq_none_iff]
      intro declaration member
      rw [Bool.eq_false_iff]
      intro suits
      apply isNone_find?_sameName.mp found
      rw [nameKey_mem_flags_iff]
      exact ⟨declaration, member, Declaration.isOn_iff.mpr (Declaration.isFor_iff.mp suits).1⟩
    simp [undeclared, declared_concat_of_undeclared undeclared]
  | some spelling =>
    simp only [Option.map_some, Feature.assign, assignLast_attachedOn]
    cases latest : registry.latest? lines flag specification with
    | none =>
      have same := insert_declared found lines fun _ _ => rfl
      simp only [Option.map_none, declared_concat_of_undeclared latest, same]
      rfl
    | some declaration =>
      have sameFlags : registry.flags (lines ++ [.assignment [flag, specification, name] value]) =
          registry.flags lines := flags_concat_of_undeclared rfl
      have grown := insert_declared found _ fun other different =>
        attachedOn_concat_of_other different lines specification name value
      simp only [Option.map_some, grown]
      cases (declaration.attached.assign name value).1 <;> simp [Except.mapError, declared, sameFlags]

theorem attachedOn_concat_declaration {prototype : Specification σ}
    (known : registry.find? name = some prototype) (lines : List Line) (flag other : String) :
    registry.attachedOn (lines ++ [.assignment [flag] name]) other =
      registry.attachedOn lines other ++
        if sameName flag other then [{ name, specification := prototype }] else [] := by
  have kept : ∀ declaration : Declaration σ,
      (declaration.extend (.assignment [flag] name)).attached = declaration.attached :=
    fun declaration => Declaration.attached_extend_of_none rfl
  rw [attachedOn_concat, ofLine?_declaration known, Option.filter_some, Declaration.isOn]
  simp only [kept, attachedOn]
  split <;> rfl

theorem attachedOn_eq_nil (fresh : nameKey flag ∉ (registry.flags lines).map nameKey) :
    registry.attachedOn lines flag = [] := by
  rw [attachedOn, List.map_eq_nil_iff, List.filter_eq_nil_iff]
  intro declaration member on
  exact fresh (nameKey_mem_flags_iff.mpr ⟨declaration, member, on⟩)

theorem attach_declared {prototype : Specification σ} (known : registry.find? name = some prototype)
    (lines : List Line) (flag : String) :
    (registry.declared lines).attach flag name prototype =
      registry.declared (lines ++ [.assignment [flag] name]) := by
  have attached := attachedOn_concat_declaration known lines flag
  have frame : ∀ other, nameKey other ≠ nameKey flag →
      registry.attachedOn (lines ++ [.assignment [flag] name]) other =
        registry.attachedOn lines other := by
    intro other different
    have apart : sameName flag other = false := by simp [sameName, Ne.symm different]
    simp [attached, apart]
  have same := attached flag
  rw [sameName_refl, if_pos rfl] at same
  simp only [Draft.attach, find?_declared]
  cases found : (registry.flags lines).find? (sameName · flag) with
  | some spelling =>
    have present := nameKey_mem_of_find? found
    rw [Option.map_some, Option.getD_some, Feature.attach, ← same, insert_declared found _ frame, declared,
      flags_concat_declaration known, if_pos present]
  | none =>
    have fresh := isNone_find?_sameName.mp found
    have empty : attachedOn registry lines flag = [] := attachedOn_eq_nil fresh
    rw [empty, List.nil_append] at same
    have others : (registry.declared lines).features =
        .ofNames (registry.flags lines) (registry.featureOn (lines ++ [.assignment [flag] name])) := by
      apply NameTable.ofNames_congr
      intro other member
      rw [featureOn, featureOn, frame other fun equal => fresh (equal ▸ List.mem_map_of_mem member)]
    rw [others, Option.map_none, Option.getD_none, Feature.attach, List.nil_append, ← same, declared,
      flags_concat_declaration known, if_neg fresh]
    exact congrArg Draft.mk (NameTable.insert_ofNames_new fresh (registry.featureOn _))

theorem declare_declared (lines : List Line) (flag name : String) :
    (registry.declared lines).declare registry flag name =
      (registry.faultAfter lines (.assignment [flag] name),
        registry.declared (lines ++ [.assignment [flag] name])) := by
  simp only [Draft.declare, faultAfter, contains, ← NameTable.isSome_find?]
  cases known : registry.find? name with
  | none =>
    have unknown : registry.prototypes.find? name = none := known
    have undeclared : Declaration.ofLine? registry (.assignment [flag] name) [] = none := by
      simp [Declaration.ofLine?, Line.declaration?, known]
    rw [declared_concat_of_silent undeclared fun _ _ => rfl]
    simp [unknown]
  | some prototype =>
    have found : registry.prototypes.find? name = some prototype := known
    simp [found, attach_declared known]

theorem read_declared (lines : List Line) (line : Line) :
    (registry.declared lines).read registry line =
      (registry.faultAfter lines line, registry.declared (lines ++ [line])) := by
  cases line using Line.byKind with
  | inert line fault inert => rw [inert.read, faultAfter_of_inert inert, declared_concat_of_inert inert]
  | declaration flag name => exact declare_declared lines flag name
  | parameter flag specification name value => exact assign_declared lines flag specification name value

theorem declared_concat (lines : List Line) (line : Line) :
    registry.declared (lines ++ [line]) = ((registry.declared lines).read registry line).2 := by
  rw [read_declared]

theorem faultAfter_eq_read (lines : List Line) (line : Line) :
    registry.faultAfter lines line = ((registry.declared lines).read registry line).1 := by
  rw [read_declared]

theorem scan_declared (earlier lines : List Line) :
    Draft.scan registry (registry.declared earlier) lines =
      (registry.faultsAfter earlier lines, registry.declared (earlier ++ lines)) := by
  induction lines generalizing earlier with
  | nil => simp [Draft.scan, faultsAfter]
  | cons line later ih =>
    rw [Draft.scan, read_declared]
    simp only [ih, faultsAfter, List.append_assoc, List.cons_append, List.nil_append]

theorem scan_empty (registry : Registry σ) (lines : List Line) :
    Draft.scan registry {} lines = (registry.faultsAfter [] lines, registry.declared lines) :=
  scan_declared [] lines

end Registry

end FeatureFlags
