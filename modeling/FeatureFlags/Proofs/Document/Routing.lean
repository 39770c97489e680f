import FeatureFlags.Proofs.Document.Declaration
import FeatureFlags.Proofs.Feature.Assign

namespace FeatureFlags

variable {σ : Type} [Criterion σ]

namespace Attached

def assignAll (attached : Attached σ) (settings : List (String × String)) : Attached σ :=
  settings.foldl (fun attached setting => (attached.assign setting.1 setting.2).2) attached

theorem name_assignAll (attached : Attached σ) (settings : List (String × String)) :
    (attached.assignAll settings).name = attached.name := by
  induction settings generalizing attached with
  | nil => rfl
  | cons setting rest ih =>
    have later := ih (attached.assign setting.1 setting.2).2
    rw [name_assign] at later
    exact later

theorem assignAll_concat (attached : Attached σ) (settings : List (String × String))
    (setting : String × String) :
    attached.assignAll (settings ++ [setting]) =
      ((attached.assignAll settings).assign setting.1 setting.2).2 := by
  simp [assignAll]

end Attached

namespace Declaration

variable {flag name : String}

def attached (declaration : Declaration σ) : Attached σ :=
  Attached.assignAll { name := declaration.name, specification := declaration.prototype }
    declaration.settings

@[simp] theorem name_attached (declaration : Declaration σ) :
    declaration.attached.name = declaration.name := Attached.name_assignAll _ _

theorem goesBy_attached (declaration : Declaration σ) :
    declaration.attached.goesBy name = sameName declaration.name name := by
  simp [Attached.goesBy]

theorem attached_extend_of_settings {line : Line} {declaration : Declaration σ}
    (same : (declaration.extend line).settings = declaration.settings) :
    (declaration.extend line).attached = declaration.attached := by
  rw [attached, same]
  rfl

theorem attached_extend_of_taken {line : Line} {declaration : Declaration σ}
    (taken : declaration.isOpen = false) :
    (declaration.extend line).attached = declaration.attached :=
  attached_extend_of_settings (by simp [settings_extend, taken])

theorem attached_extend_of_none {line : Line} {declaration : Declaration σ}
    (silent : line.setting? declaration.flag declaration.name = none) :
    (declaration.extend line).attached = declaration.attached :=
  attached_extend_of_settings (by simp [settings_extend, silent])

theorem attached_extend_concat {line : Line} {declaration : Declaration σ} {name value : String}
    (grown : (declaration.extend line).settings = declaration.settings ++ [(name, value)]) :
    (declaration.extend line).attached = (declaration.attached.assign name value).2 := by
  rw [attached, grown, Attached.assignAll_concat]
  rfl

end Declaration

namespace Registry

variable {registry : Registry σ} {flag name : String}

def attachedOn (registry : Registry σ) (lines : List Line) (flag : String) : List (Attached σ) :=
  ((registry.declarations lines).filter (·.isOn flag)).map Declaration.attached

theorem attachedOn_congr {other : String} (same : nameKey flag = nameKey other) (lines : List Line) :
    registry.attachedOn lines flag = registry.attachedOn lines other := by
  have on : Declaration.isOn (σ := σ) flag = Declaration.isOn other := by
    funext declaration
    exact sameName_congr_right same
  rw [attachedOn, on]
  rfl

theorem attachedOn_cons (line : Line) (later : List Line) (flag : String) :
    registry.attachedOn (line :: later) flag =
      (((Declaration.ofLine? registry line later).filter (·.isOn flag)).map
        Declaration.attached).toList ++ registry.attachedOn later flag := by
  simp only [attachedOn, declarations, List.filter_append, List.map_append]
  cases Declaration.ofLine? registry line later with
  | none => rfl
  | some declaration => cases on : declaration.isOn flag <;> simp [on, Option.filter]

theorem attachedOn_concat (lines : List Line) (line : Line) (flag : String) :
    registry.attachedOn (lines ++ [line]) flag =
      ((registry.declarations lines).filter (·.isOn flag)).map (fun declaration =>
        (declaration.extend line).attached) ++
      (((Declaration.ofLine? registry line []).filter (·.isOn flag)).map
        Declaration.attached).toList := by
  simp only [attachedOn, declarations_concat, List.filter_append, List.map_append, List.filter_map,
    List.map_map]
  cases Declaration.ofLine? registry line [] with
  | none => rfl
  | some declaration => cases on : declaration.isOn flag <;> simp [on, Option.filter] <;> rfl

theorem attachedOn_concat_of_kept {lines : List Line} {line : Line} {flag : String}
    (undeclared : Declaration.ofLine? registry line [] = none)
    (kept : ∀ declaration ∈ registry.declarations lines, declaration.isOn flag = true →
      (declaration.extend line).attached = declaration.attached) :
    registry.attachedOn (lines ++ [line]) flag = registry.attachedOn lines flag := by
  rw [attachedOn_concat, undeclared, Option.filter_none, Option.map_none, Option.toList_none,
    List.append_nil, attachedOn]
  apply List.map_congr_left
  intro declaration member
  obtain ⟨member, on⟩ := List.mem_filter.mp member
  exact kept declaration member on

theorem attached_extend_of_latest {later : List Line} {declaration last : Declaration σ}
    {specification : String} (known : registry.find? declaration.name = some declaration.prototype)
    (after : declaration.later = later)
    (latest : registry.latest? later flag specification = some last) (name value : String) :
    (declaration.extend (.assignment [flag, specification, name] value)).attached =
      declaration.attached := by
  cases suits : declaration.isFor flag specification
  · apply Declaration.attached_extend_of_none
    rw [Declaration.setting?_parameter, suits]
    rfl
  · apply Declaration.attached_extend_of_taken
    rw [isOpen_eq_isNone known suits, after, latest]
    rfl

theorem attached_extend_of_undeclared {lines : List Line} {specification : String}
    (undeclared : registry.latest? lines flag specification = none) {declaration : Declaration σ}
    (member : declaration ∈ registry.declarations lines) (name value : String) :
    (declaration.extend (.assignment [flag, specification, name] value)).attached =
      declaration.attached := by
  apply Declaration.attached_extend_of_none
  rw [Declaration.setting?_parameter, latest?_eq_none_iff.mp undeclared declaration member]
  rfl

theorem attachedOn_concat_of_other {other : String} (different : nameKey other ≠ nameKey flag)
    (lines : List Line) (specification name value : String) :
    registry.attachedOn (lines ++ [.assignment [flag, specification, name] value]) other =
      registry.attachedOn lines other := by
  apply attachedOn_concat_of_kept rfl
  intro declaration _ on
  have apart : declaration.isFor flag specification = false := by
    rw [Bool.eq_false_iff]
    intro suits
    exact different ((Declaration.isOn_iff.mp on).symm.trans (Declaration.isFor_iff.mp suits).1)
  apply Declaration.attached_extend_of_none
  rw [Declaration.setting?_parameter, apart]
  rfl

/-- A parameter goes to the latest declaration of its specification on the flag, and to no other
    one. -/
theorem assignLast_attachedOn (lines : List Line) (flag specification name value : String) :
    Attached.assignLast specification name value (registry.attachedOn lines flag) =
      (registry.latest? lines flag specification).map fun declaration =>
        ((declaration.attached.assign name value).1,
          registry.attachedOn (lines ++ [.assignment [flag, specification, name] value]) flag) := by
  induction lines with
  | nil => rfl
  | cons line later ih =>
    rw [attachedOn_cons, latest?_cons, List.cons_append, attachedOn_cons, Declaration.ofLine?_extend]
    cases declared : Declaration.ofLine? registry line later with
    | none => simpa using ih
    | some declaration =>
      obtain ⟨-, known, after⟩ := Declaration.ofLine?_eq_some_iff.mp declared
      cases on : declaration.isOn flag
      · simpa [Option.filter, on, Declaration.isFor] using ih
      · -- A declaration on the flag gets the parameter only if the later lines have none to take it.
        cases latest : registry.latest? later flag specification with
        | some last =>
          have kept := attached_extend_of_latest known after latest name value
          simp [Option.filter, on, Attached.assignLast, ih, latest, kept]
        | none =>
          have others : registry.attachedOn
              (later ++ [.assignment [flag, specification, name] value]) flag =
                registry.attachedOn later flag :=
            attachedOn_concat_of_kept rfl fun _ member _ =>
              attached_extend_of_undeclared latest member name value
          cases named : sameName declaration.name specification
          · have silent : declaration.isFor flag specification = false := by
              simp [Declaration.isFor, named]
            simp [Option.filter, on, Attached.assignLast, Declaration.goesBy_attached, ih, latest, named,
              silent]
          · have suits : declaration.isFor flag specification = true := by
              simp [Declaration.isFor, on, named]
            have current : declaration.isOpen = true := by
              rw [isOpen_eq_isNone known suits, after, latest]
              rfl
            have advanced : (declaration.extend
                (.assignment [flag, specification, name] value)).attached =
                  (declaration.attached.assign name value).2 := by
              apply Declaration.attached_extend_concat
              rw [Declaration.settings_extend, current, if_pos rfl, Declaration.setting?_parameter,
                if_pos suits]
              rfl
            simp [Option.filter, on, Attached.assignLast, Declaration.goesBy_attached, ih, latest, named,
              suits, advanced, others]

end Registry

end FeatureFlags
