import FeatureFlags.Proofs.Criterion.Rule
import FeatureFlags.Proofs.Criterion.Steady
import FeatureFlags.Proofs.Document.Outcome
import FeatureFlags.Proofs.Feature.Assign

namespace FeatureFlags

variable {σ : Type} [Criterion σ]

namespace Attached

/-- Some of the assignments reach the specification; those of a name that it has accepted do not. -/
theorem exists_after_assignAll (attached : Attached σ) (settings : List (String × String)) :
    ∃ reaching : List (String × String), reaching.Sublist settings ∧
      (attached.assignAll settings).specification = attached.specification.after reaching := by
  induction settings using List.reverseRecOn with
  | nil => exact ⟨[], List.Sublist.refl _, rfl⟩
  | append_singleton settings setting ih =>
    obtain ⟨reaching, within, same⟩ := ih
    rw [assignAll_concat]
    unfold assign
    split
    · exact ⟨reaching, within.trans (List.sublist_append_left _ _), same⟩
    · refine ⟨reaching ++ [setting], within.append (List.Sublist.refl _), ?_⟩
      rw [Specification.after_append, ← same]
      dsimp only
      split <;> rfl

theorem steady_assignAll {attached : Attached σ} (steady : attached.specification.Steady)
    (settings : List (String × String)) : (attached.assignAll settings).specification.Steady := by
  obtain ⟨reaching, -, reached⟩ := exists_after_assignAll attached settings
  rw [reached]
  exact steady.after reaching

end Attached

namespace Registry

def Steady (registry : Registry σ) : Prop :=
  ∀ name prototype, registry.find? name = some prototype → prototype.Steady

variable {registry : Registry σ} {lines : List Line}

theorem exists_after_of_declared {feature : Feature σ}
    (member : feature ∈ (registry.declared lines).features.values) {attached : Attached σ}
    (present : attached ∈ feature.attached) :
    ∃ declaration ∈ registry.declarations lines, ∃ reaching : List (String × String),
      registry.find? attached.name = some declaration.prototype ∧ reaching.Sublist declaration.settings ∧
        attached.specification = declaration.prototype.after reaching := by
  obtain ⟨declaration, listed, rfl⟩ := exists_declaration_of_attached member present
  obtain ⟨reaching, within, reached⟩ := Attached.exists_after_assignAll
    { name := declaration.name, specification := declaration.prototype } declaration.settings
  refine ⟨declaration, listed, reaching, ?_, within, reached⟩
  rw [declaration.name_attached]
  exact find?_of_mem listed

theorem steady_attached (steady : registry.Steady) {declaration : Declaration σ}
    (member : declaration ∈ registry.declarations lines) :
    declaration.attached.specification.Steady :=
  Attached.steady_assignAll (steady _ _ (find?_of_mem member)) _

theorem declared_concat_of_fault (steady : registry.Steady) {line : Line} {fault : Fault}
    (faulty : registry.faultAfter lines line = some fault) :
    registry.declared (lines ++ [line]) = registry.declared lines := by
  cases line using Line.byKind with
  | inert line fault inert => exact declared_concat_of_inert inert
  | declaration flag name =>
    apply declared_concat_of_silent _ fun _ _ => rfl
    cases found : registry.find? name with
    | none => simp [Declaration.ofLine?, Line.declaration?, found]
    | some prototype =>
      have known : registry.contains name = true := by
        rw [contains, ← NameTable.isSome_find?, ← find?, found]
        rfl
      simp [faultAfter, known] at faulty
  | parameter flag specification parameter value =>
    apply declared_concat_of_kept rfl
    intro declaration member
    rcases settings_extend_parameter member flag specification parameter value with
      same | ⟨latest, grown⟩
    · exact Declaration.attached_extend_of_settings same
    · have refused : ∃ duplicate, (declaration.attached.assign parameter value).1 = .error duplicate := by
        simp only [faultAfter, latest] at faulty
        cases answer : (declaration.attached.assign parameter value).1 with
        | ok _ => simp [answer] at faulty
        | error duplicate => exact ⟨duplicate, rfl⟩
      obtain ⟨duplicate, refused⟩ := refused
      rw [Declaration.attached_extend_concat grown]
      exact Attached.assign_of_error (steady_attached steady member [] _ _) refused

def cleared : List (Option Fault) → List Line → List Line :=
  List.zipWith fun fault line => if fault.isSome then .ignored else line

theorem scan_cleared (steady : registry.Steady) (earlier lines : List Line) :
    Draft.scan registry (registry.declared earlier)
        (cleared (registry.faultsAfter earlier lines) lines) =
      (lines.map fun _ => none, registry.declared (earlier ++ lines)) := by
  induction lines generalizing earlier with
  | nil => simp [cleared, faultsAfter, Draft.scan]
  | cons line later ih =>
    have rest := ih (earlier ++ [line])
    rw [List.append_assoc, List.singleton_append] at rest
    have step : (registry.declared earlier).read registry
        (if (registry.faultAfter earlier line).isSome then .ignored else line) =
          (none, registry.declared (earlier ++ [line])) := by
      cases faulty : registry.faultAfter earlier line with
      | none => rw [Option.isSome_none, if_neg Bool.false_ne_true, read_declared, faulty]
      | some fault =>
        rw [Option.isSome_some, if_pos rfl, declared_concat_of_fault steady faulty]
        rfl
    have unfolded : cleared (registry.faultsAfter earlier (line :: later)) (line :: later) =
        (if (registry.faultAfter earlier line).isSome then .ignored else line) ::
          cleared (registry.faultsAfter (earlier ++ [line]) later) later := rfl
    rw [unfolded, Draft.scan, step, rest]
    rfl

end Registry

namespace Problem

def reported (problems : List Problem) (line : Nat) : Bool :=
  problems.any (·.line? == some line)

theorem reported_ofFaults_of_lt {line start : Nat} (before : line < start)
    (faults : List (Option Fault)) : reported (ofFaults start faults) line = false := by
  induction faults generalizing start with
  | nil => rfl
  | cons fault rest ih =>
    have later := ih (Nat.lt_succ_of_lt before)
    cases fault with
    | none => exact later
    | some fault =>
      have apart : start ≠ line := by omega
      simpa [ofFaults, reported, line?, apart] using later

theorem reported_ofFaults_cons (start : Nat) (fault : Option Fault) (rest : List (Option Fault)) :
    reported (ofFaults start (fault :: rest)) start = fault.isSome := by
  cases fault with
  | none => exact reported_ofFaults_of_lt (Nat.lt_succ_self start) rest
  | some fault => simp [ofFaults, reported, line?]

theorem reported_ofFaults_cons_of_lt {line start : Nat} (after : start < line)
    (fault : Option Fault) (rest : List (Option Fault)) :
    reported (ofFaults start (fault :: rest)) line = reported (ofFaults (start + 1) rest) line := by
  cases fault with
  | none => rfl
  | some fault =>
    have apart : start ≠ line := by omega
    simp [ofFaults, reported, line?, apart]

def blank (problems : List Problem) (line : Nat) (rows : List String) : List String :=
  (rows.zipIdx line).map fun (row, line) => if reported problems line then "" else row

theorem map_ofRow_blank {problems : List Problem} {faults : List (Option Fault)} {start : Nat}
    (agree : ∀ line, start ≤ line → reported problems line = reported (ofFaults start faults) line)
    {rows : List String} (whole : faults.length = rows.length) :
    (blank problems start rows).map .ofRow = Registry.cleared faults (rows.map .ofRow) := by
  induction rows generalizing faults start with
  | nil =>
    obtain rfl := List.length_eq_zero_iff.mp whole
    rfl
  | cons row rows ih =>
    obtain ⟨fault, rest, rfl⟩ := List.exists_cons_of_length_eq_add_one whole
    have here : reported problems start = fault.isSome := by
      rw [agree start (Nat.le_refl start), reported_ofFaults_cons]
    have later := ih (fun line after => (agree line (Nat.le_of_succ_le after)).trans
      (reported_ofFaults_cons_of_lt after fault rest)) (Nat.succ.inj whole)
    have unfolded : blank problems start (row :: rows) =
        (if reported problems start then "" else row) :: blank problems (start + 1) rows := rfl
    rw [unfolded, List.map_cons, later, here]
    cases fault <;> rfl

theorem filter_ofFaults (start : Nat) (faults : List (Option Fault)) :
    (ofFaults start faults).filter (·.line?.isNone) = [] := by
  induction faults generalizing start with
  | nil => rfl
  | cons fault rest ih =>
    cases fault with
    | none => exact ih (start + 1)
    | some fault => exact ih (start + 1)

theorem ofFaults_map_none {α : Type} (items : List α) (start : Nat) :
    ofFaults start (items.map fun _ => none) = [] := by
  rw [ofFaults_eq_nil_iff]
  simp

end Problem

namespace Registry

def withoutFaults (registry : Registry σ) (rows : List String) : List String :=
  Problem.blank (Problems.ofResult (parse registry rows)) 1 rows

variable {registry : Registry σ}

theorem filter_problems (lines : List Line) :
    (registry.problems lines).filter (·.line?.isNone) =
      (registry.declared lines).failures.map .invalidParameter := by
  have checks : ∀ failures : List InvalidParameter,
      (failures.map Problem.invalidParameter).filter (·.line?.isNone) =
        failures.map .invalidParameter := by
    intro failures
    rw [List.filter_eq_self]
    intro problem member
    obtain ⟨_, _, rfl⟩ := List.mem_map.mp member
    rfl
  rw [problems, List.filter_append, Problem.filter_ofFaults, List.nil_append, checks]

theorem map_ofRow_withoutFaults (rows : List String) :
    (registry.withoutFaults rows).map .ofRow =
      cleared (registry.faultsAfter [] (rows.map .ofRow)) (rows.map .ofRow) := by
  rw [withoutFaults, ofResult_parse]
  apply Problem.map_ofRow_blank
  · intro line _
    rw [problems, Problem.reported, List.any_append]
    simp [Problem.line?, Problem.reported]
  · rw [length_faultsAfter, List.length_map]

end Registry

/-- A row at fault has no effect on the features and on the problems of the other rows. -/
theorem parse_withoutFaults (registry : Registry σ) (steady : registry.Steady) (rows : List String) :
    Draft.scan registry {} ((registry.withoutFaults rows).map .ofRow) =
        (rows.map fun _ => none, (Draft.scan registry {} (rows.map .ofRow)).2) ∧
      Problems.ofResult (parse registry (registry.withoutFaults rows)) =
        (Problems.ofResult (parse registry rows)).filter (·.line?.isNone) ∧
      ((∀ problem ∈ Problems.ofResult (parse registry rows), problem.line?.isSome = true) →
        ∃ catalog, parse registry (registry.withoutFaults rows) = .ok catalog) := by
  have whole : Draft.scan registry {} (rows.map .ofRow) =
      (registry.faultsAfter [] (rows.map .ofRow), registry.declared (rows.map .ofRow)) :=
    Registry.scan_declared [] (rows.map .ofRow)
  have cleared : Draft.scan registry {} ((registry.withoutFaults rows).map .ofRow) =
      (rows.map fun _ => none, registry.declared (rows.map .ofRow)) := by
    have scanned := Registry.scan_cleared steady [] (rows.map .ofRow)
    rw [← Registry.map_ofRow_withoutFaults, List.map_map] at scanned
    exact scanned
  have again : Draft.scan registry {} ((registry.withoutFaults rows).map .ofRow) =
      (registry.faultsAfter [] ((registry.withoutFaults rows).map .ofRow),
        registry.declared ((registry.withoutFaults rows).map .ofRow)) :=
    Registry.scan_declared [] ((registry.withoutFaults rows).map .ofRow)
  obtain ⟨faultless, same⟩ := Prod.mk.inj (again.symm.trans cleared)
  have remaining : registry.problems ((registry.withoutFaults rows).map .ofRow) =
      (registry.problems (rows.map .ofRow)).filter (·.line?.isNone) := by
    rw [Registry.filter_problems, Registry.problems, faultless, same, Problem.ofFaults_map_none, List.nil_append]
  refine ⟨?_, ?_, ?_⟩
  · rw [cleared, whole]
  · rw [Registry.ofResult_parse, Registry.ofResult_parse, remaining]
  · intro located
    rw [Registry.ofResult_parse] at located
    refine ⟨_, Registry.parse_eq_ok_iff.mpr ⟨?_, rfl⟩⟩
    rw [remaining, List.filter_eq_nil_iff]
    intro problem member
    rw [← Option.not_isSome, located problem member]
    decide

theorem parse_withoutFaults_ranged :
    ∃ catalog, parse .ranged (Registry.withoutFaults .ranged
      ["f.range.min = 0", "f = range", "f.Range.Min = 1", "f.range.MIN = 3", "f.range.max = 2", "g = h", "x"]) =
        .ok catalog := by
  have steady : Registry.Steady .ranged := fun _ prototype _ => prototype.steady_stored
  have result := parse_withoutFaults .ranged steady
    ["f.range.min = 0", "f = range", "f.Range.Min = 1", "f.range.MIN = 3", "f.range.max = 2", "g = h", "x"]
  exact result.2.2 (by decide +kernel)

end FeatureFlags
