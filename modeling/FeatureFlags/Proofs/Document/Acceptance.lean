import FeatureFlags.Proofs.Criterion.ByName
import FeatureFlags.Proofs.Document.Problems

namespace FeatureFlags

namespace Registry

variable {σ : Type}

def placed (registry : Registry σ) (earlier : List Line) : Line → Bool
  | .ignored => true
  | .assignment [_] name => registry.contains name
  | .assignment [flag, specification, _] _ =>
    registry.contains specification && earlier.any (·.declares flag specification)
  | _ => false

def wellPlaced (registry : Registry σ) : List Line → List Line → Bool
  | _, [] => true
  | earlier, line :: later =>
    registry.placed earlier line && wellPlaced registry (earlier ++ [line]) later

variable {registry : Registry σ}

theorem placed_of_inert {line : Line} {fault : Option Fault} (inert : line.Inert fault) (earlier : List Line) :
    registry.placed earlier line = fault.isNone := by
  cases inert <;> rfl

theorem wellPlaced_concat (earlier lines : List Line) (line : Line) :
    registry.wellPlaced earlier (lines ++ [line]) =
      (registry.wellPlaced earlier lines && registry.placed (earlier ++ lines) line) := by
  induction lines generalizing earlier with
  | nil => simp [wellPlaced]
  | cons head later ih => simp [wellPlaced, ih, Bool.and_assoc]

theorem isSome_latest?_eq (registry : Registry σ) (lines : List Line) (flag name : String) :
    (registry.latest? lines flag name).isSome =
      (registry.contains name && lines.any (·.declares flag name)) := by
  rw [contains, ← NameTable.isSome_find?, ← find?]
  cases known : registry.find? name with
  | some prototype => rw [isSome_latest? known, Option.isSome_some, Bool.true_and]
  | none =>
    rw [Option.isSome_none, Bool.false_and, Option.isSome_eq_false_iff, Option.isNone_iff_eq_none,
      latest?_eq_none_iff]
    intro declaration member
    rw [Bool.eq_false_iff]
    intro suits
    have found := find?_of_mem member
    rw [find?_congr (Declaration.isFor_iff.mp suits).2, known] at found
    exact absurd found (by simp)

end Registry

variable {ρ : Type}

namespace Specification

structure Takes (prototype : Specification (Stored ρ)) (settings : List (String × String)) : Prop where
  distinct : (settings.map (nameKey ·.1)).Nodup
  unset : ∀ setting ∈ settings, prototype.hasParameter setting.1 = false

variable {prototype : Specification (Stored ρ)} {settings other : List (String × String)}

theorem takes_nil (prototype : Specification (Stored ρ)) : prototype.Takes [] :=
  ⟨List.nodup_nil, fun _ member => absurd member List.not_mem_nil⟩

theorem Takes.perm (takes : prototype.Takes settings) (perm : settings.Perm other) :
    prototype.Takes other :=
  ⟨(perm.map _).nodup_iff.mp takes.distinct, fun setting member =>
    takes.unset setting (perm.mem_iff.mpr member)⟩

theorem takes_concat_iff {name value : String} :
    prototype.Takes (settings ++ [(name, value)]) ↔
      prototype.Takes settings ∧
        ¬(prototype.hasParameter name = true ∨ settings.any (sameName ·.1 name) = true) := by
  have given : settings.any (sameName ·.1 name) = true ↔
      nameKey name ∈ settings.map (nameKey ·.1) := by
    simp only [List.any_eq_true, sameName_iff, List.mem_map]
  rw [given]
  constructor
  · rintro ⟨distinct, unset⟩
    rw [List.map_append, List.nodup_append] at distinct
    refine ⟨⟨distinct.1, fun setting member => unset setting (List.mem_append_left _ member)⟩, ?_⟩
    rintro (preset | repeated)
    · have fresh := unset (name, value) (List.mem_append_right _ List.mem_cons_self)
      exact absurd preset (by simp [fresh])
    · exact distinct.2.2 _ repeated _ List.mem_cons_self rfl
  · rintro ⟨takes, absent⟩
    obtain ⟨unset, fresh⟩ := not_or.mp absent
    refine ⟨?_, ?_⟩
    · rw [List.map_append, List.map_singleton, List.nodup_append]
      refine ⟨takes.distinct, List.nodup_singleton _, ?_⟩
      rintro key present _ last rfl
      rw [List.mem_singleton.mp last] at present
      exact fresh present
    · intro setting member
      rcases List.mem_append.mp member with before | last
      · exact takes.unset setting before
      · rw [List.mem_singleton.mp last]
        exact Bool.eq_false_iff.mpr unset

end Specification

namespace Registry

variable {registry : Registry (Stored ρ)}

theorem takes_of_silent {lines : List Line} {line : Line}
    (silent : ∀ flag name, line.setting? flag name = none)
    (takes : ∀ declaration ∈ registry.declarations lines,
      declaration.prototype.Takes declaration.settings)
    (declaration : Declaration (Stored ρ)) (member : declaration ∈ registry.declarations lines) :
    declaration.prototype.Takes (declaration.extend line).settings := by
  have same : (declaration.extend line).settings = declaration.settings := by
    simp [Declaration.settings_extend, silent]
  rw [same]
  exact takes declaration member

variable [ParameterRule ρ]

theorem faultAfter_eq_none_iff {lines : List Line}
    (takes : ∀ declaration ∈ registry.declarations lines,
      declaration.prototype.Takes declaration.settings) (line : Line) :
    registry.faultAfter lines line = none ↔
      registry.placed lines line = true ∧ ∀ declaration ∈ registry.declarations lines,
        declaration.prototype.Takes (declaration.extend line).settings := by
  cases line using Line.byKind with
  | inert line fault inert =>
    have kept : ∀ declaration ∈ registry.declarations lines, declaration.prototype.Takes
        (declaration.extend line).settings := takes_of_silent inert.setting? takes
    rw [faultAfter_of_inert inert, placed_of_inert inert, Option.isNone_iff_eq_none]
    exact ⟨fun faultless => ⟨faultless, kept⟩, And.left⟩
  | declaration flag name =>
    have kept : ∀ declaration ∈ registry.declarations lines, declaration.prototype.Takes
        (declaration.extend (.assignment [flag] name)).settings :=
      takes_of_silent (fun _ _ => rfl) takes
    simpa [faultAfter, placed] using fun _ => kept
  | parameter flag specification name value =>
    have known := registry.isSome_latest?_eq lines flag specification
    rw [faultAfter_eq_textFault, textFault, placed, ← known]
    cases latest : registry.latest? lines flag specification with
    | none => simp
    | some last =>
      have member := mem_of_latest? latest
      have suits := isFor_of_latest? latest
      have grown : (last.extend (.assignment [flag, specification, name] value)).settings =
          last.settings ++ [(name, value)] := by
        rw [Declaration.settings_extend, isOpen_of_latest? latest, if_pos rfl,
          Declaration.setting?_parameter, if_pos suits]
        rfl
      dsimp only
      rw [← any_settings_of_latest? latest, ite_eq_right_iff, Bool.or_eq_true]
      constructor
      · intro absent
        refine ⟨rfl, ?_⟩
        intro declaration member
        rcases settings_extend_parameter member flag specification name value with
          same | ⟨current, extended⟩
        · rw [same]
          exact takes declaration member
        · obtain rfl : last = declaration := Option.some.inj (latest.symm.trans current)
          rw [extended, Specification.takes_concat_iff]
          exact ⟨takes last member, fun present => absurd (absent present) (by simp)⟩
      · rintro ⟨-, extended⟩ present
        have taken := extended last member
        rw [grown, Specification.takes_concat_iff] at taken
        exact absurd present taken.2

/-- No line is at fault exactly if all lines have their places and no parameter is given twice. -/
theorem faultless_iff (lines : List Line) :
    (∀ fault ∈ registry.faultsAfter [] lines, fault = none) ↔
      registry.wellPlaced [] lines = true ∧ ∀ declaration ∈ registry.declarations lines,
        declaration.prototype.Takes declaration.settings := by
  induction lines using List.reverseRecOn with
  | nil => simp [faultsAfter, wellPlaced, declarations]
  | append_singleton lines line ih =>
    have fresh : ∀ declaration ∈ (Declaration.ofLine? registry line []).toList,
        declaration.prototype.Takes declaration.settings := by
      intro declaration member
      obtain ⟨-, -, after⟩ := Declaration.ofLine?_eq_some_iff.mp (Option.mem_toList.mp member)
      have nothing : declaration.settings = [] := by
        rw [Declaration.settings, after]
        rfl
      rw [nothing]
      exact Specification.takes_nil _
    rw [faultsAfter_concat, declarations_concat, wellPlaced_concat, Bool.and_eq_true, List.nil_append]
    simp only [List.forall_mem_append, List.forall_mem_map, List.forall_mem_singleton]
    constructor
    · rintro ⟨before, here⟩
      obtain ⟨placed, takes⟩ := ih.mp before
      obtain ⟨fits, extended⟩ := (faultAfter_eq_none_iff takes line).mp here
      exact ⟨⟨placed, fits⟩, extended, fresh⟩
    · rintro ⟨⟨placed, fits⟩, extended, -⟩
      -- What a declaration takes after the last line, it took before as well.
      have takes : ∀ declaration ∈ registry.declarations lines,
          declaration.prototype.Takes declaration.settings := by
        intro declaration member
        have taken := extended declaration member
        rcases settings_extend_cases member line with same | ⟨_, _, _, _, -, -, grown⟩
        · rw [same] at taken
          exact taken
        · rw [grown, Declaration.extend, Specification.takes_concat_iff] at taken
          exact taken.1
      exact ⟨ih.mpr ⟨placed, takes⟩, (faultAfter_eq_none_iff takes line).mpr ⟨fits, extended⟩⟩

theorem failures_eq_nil_iff (byName : registry.ReadsByName) {lines : List Line}
    (takes : ∀ declaration ∈ registry.declarations lines,
      declaration.prototype.Takes declaration.settings) :
    (registry.declared lines).failures = [] ↔ ∀ declaration ∈ registry.declarations lines,
      ∀ flag, nameKey flag = nameKey declaration.flag →
        ((declaration.prototype.fill declaration.settings).check flag).isOk = true := by
  have mapped : (registry.declared lines).failures.map Problem.invalidParameter = [] ↔
      (registry.declared lines).failures = [] := List.map_eq_nil_iff
  rw [← mapped, failures_declared]
  simp only [List.flatMap_eq_nil_iff, List.filterMap_eq_nil_iff, List.mem_filter, and_imp]
  constructor
  · intro passed declaration member flag same
    obtain ⟨spelling, listed, equal⟩ := List.mem_map.mp
      (nameKey_mem_flags_iff.mpr ⟨declaration, member, sameName_refl _⟩)
    have here := passed spelling listed declaration member (sameName_iff.mpr equal.symm)
    have spelled := (byName _ _ (find?_of_mem member)).check_fill (List.Perm.refl declaration.settings)
      (takes declaration member).distinct (same.trans equal.symm)
    rw [spelled]
    split at here
    · exact absurd here (by simp)
    · rename_i accepted
      rw [accepted]
      rfl
  · intro passed flag _ declaration member on
    have here := passed declaration member flag (Declaration.isOn_iff.mp on).symm
    split
    · rename_i refused
      rw [refused] at here
      exact absurd here Bool.false_ne_true
    · rfl

end Registry

end FeatureFlags
