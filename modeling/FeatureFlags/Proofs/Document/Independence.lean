import FeatureFlags.Proofs.Criterion.Rule
import FeatureFlags.Proofs.Document.Classification
import FeatureFlags.Proofs.Document.Refusal
import FeatureFlags.Proofs.Name.Table

namespace FeatureFlags

namespace Line

def flagKey? : Line → Option String
  | assignment (flag :: _) _ => some (nameKey flag)
  | _ => none

def only (key : String) (line : Line) : Line := if line.flagKey? = some key then line else .ignored

variable {key : String} {line : Line}

theorem only_of_about (about : line.flagKey? = some key) : line.only key = line := if_pos about

theorem only_of_other (other : line.flagKey? ≠ some key) : line.only key = .ignored := if_neg other

theorem flagKey?_of_declaration? {flag name : String} (declares : line.declaration? = some (flag, name)) :
    line.flagKey? = some (nameKey flag) := by
  unfold declaration? at declares
  split at declares
  · obtain ⟨rfl, -⟩ := Prod.mk.inj (Option.some.inj declares)
    rfl
  · exact absurd declares (by simp)

theorem eq_ignored_of_flagKey?_eq_none (silent : line.flagKey? = none)
    (signed : line ≠ .missingEqualSign) (single : line ≠ .multipleEqualSigns)
    (keyed : ∀ value, line ≠ .assignment [] value) : line = .ignored := by
  cases line with
  | ignored => rfl
  | missingEqualSign => exact absurd rfl signed
  | multipleEqualSigns => exact absurd rfl single
  | assignment segments value =>
    cases segments with
    | nil => exact absurd rfl (keyed value)
    | cons flag rest => exact absurd silent (by simp [flagKey?])

def rowsOn (key : String) (rows : List String) : List String :=
  rows.map fun row => if (ofRow row).flagKey? = some key then row else ""

example : rowsOn "f" ["F = true", "g = x", "f.true.a = 1"] = ["F = true", "", "f.true.a = 1"] := by
  decide +kernel

theorem map_ofRow_rowsOn (key : String) (rows : List String) :
    (rowsOn key rows).map ofRow = (rows.map ofRow).map (only key) := by
  have blank : ofRow "" = .ignored := by decide
  rw [rowsOn, List.map_map, List.map_map]
  apply List.map_congr_left
  intro row _
  rw [Function.comp_apply, Function.comp_apply, only]
  split
  · rfl
  · exact blank

end Line

variable {σ : Type} [Criterion σ]

namespace Draft

def only (key : String) (draft : Draft σ) : Draft σ := ⟨draft.features.only key⟩

variable {registry : Registry σ} {key : String} {line : Line}

/-- A line about the flag does to the flag's feature what it does to all features together. -/
theorem read_only (about : line.flagKey? = some key) (draft : Draft σ) :
    (draft.only key).read registry line =
      ((draft.read registry line).1, (draft.read registry line).2.only key) := by
  cases line using Line.byKind with
  | inert line fault inert => rw [inert.read, inert.read]
  | declaration flag name =>
    have same : nameKey flag = key := Option.some.inj about
    simp only [read, declare]
    cases registry.find? name with
    | none => rfl
    | some prototype =>
      simp only [attach, only, NameTable.find?_only same, NameTable.insert_only same]
  | parameter flag specification name value =>
    have same : nameKey flag = key := Option.some.inj about
    simp only [read, assign, only, NameTable.find?_only same]
    cases draft.features.find? flag with
    | none => rfl
    | some feature => simp only [NameTable.insert_only same]

theorem only_read_of_other (other : line.flagKey? ≠ some key) (draft : Draft σ) :
    (draft.read registry line).2.only key = draft.only key := by
  cases line using Line.byKind with
  | inert line fault inert => rw [inert.read]
  | declaration flag name =>
    have different : nameKey flag ≠ key := fun same => other (congrArg some same)
    simp only [read, declare]
    cases registry.find? name with
    | none => rfl
    | some prototype => simp only [attach, only, NameTable.only_insert_of_ne different]
  | parameter flag specification name value =>
    have different : nameKey flag ≠ key := fun same => other (congrArg some same)
    simp only [read, assign]
    cases draft.features.find? flag with
    | none => rfl
    | some feature => simp only [only, NameTable.only_insert_of_ne different]

def failuresOn (key : String) (draft : Draft σ) : List InvalidParameter :=
  (draft.features.values.filter fun feature => nameKey feature.name == key).flatMap Feature.failures

end Draft

namespace Registry

variable {registry : Registry σ} {key : String} {lines : List Line}

theorem declared_only (lines : List Line) :
    registry.declared (lines.map (Line.only key)) = (registry.declared lines).only key := by
  induction lines using List.reverseRecOn with
  | nil => rfl
  | append_singleton lines line ih =>
    rw [List.map_append, List.map_singleton, declared_concat, declared_concat, ih]
    by_cases about : line.flagKey? = some key
    · rw [Line.only_of_about about, Draft.read_only about]
    · rw [Line.only_of_other about, Draft.only_read_of_other about]
      rfl

theorem faultAfter_only {line : Line} (about : line.flagKey? = some key) (lines : List Line) :
    registry.faultAfter (lines.map (Line.only key)) line = registry.faultAfter lines line := by
  rw [faultAfter_eq_read, faultAfter_eq_read, declared_only, Draft.read_only about]

theorem getElem?_faultsAfter_only {index : Nat} {line : Line} (here : lines[index]? = some line)
    (about : line.flagKey? = some key) :
    (registry.faultsAfter [] (lines.map (Line.only key)))[index]? =
      (registry.faultsAfter [] lines)[index]? := by
  simp only [getElem?_faultsAfter, List.nil_append, List.getElem?_map, here, Option.map_some,
    Line.only_of_about about, ← List.map_take, faultAfter_only about]

theorem faultsAfter_eq_none_iff (lines : List Line) :
    (∀ fault ∈ registry.faultsAfter [] lines, fault = none) ↔
      ∀ index line, lines[index]? = some line → registry.faultAfter (lines.take index) line = none := by
  simp only [List.mem_iff_getElem?, getElem?_faultsAfter, List.nil_append, Option.map_eq_some_iff]
  constructor
  · intro faultless index line here
    exact faultless _ ⟨index, line, here, rfl⟩
  · rintro faultless _ ⟨index, line, here, rfl⟩
    exact faultless index line here

theorem failures_only (lines : List Line) :
    ((registry.declared lines).only key).failures = (registry.declared lines).failuresOn key := by
  simp only [Draft.failures, Draft.failuresOn, Draft.only, NameTable.only, NameTable.values, declared,
    NameTable.ofNames, List.filter_map, List.map_map]
  rfl

theorem failures_declared_eq_nil_iff (lines : List Line) :
    (registry.declared lines).failures = [] ↔
      ∀ flag ∈ registry.flags lines, (registry.declared lines).failuresOn (nameKey flag) = [] := by
  simp only [Draft.failures, Draft.failuresOn, declared, NameTable.values_ofNames, List.flatMap_eq_nil_iff,
    List.mem_filter, List.mem_map, and_imp]
  constructor
  · rintro passed flag _ feature other _
    exact passed feature other
  · rintro passed _ ⟨flag, member, rfl⟩
    exact passed flag member _ ⟨flag, member, rfl⟩ (beq_self_eq_true _)

omit [Criterion σ] in
theorem exists_line_of_mem_flags {flag : String} (member : flag ∈ registry.flags lines) :
    ∃ line ∈ lines, line.flagKey? = some (nameKey flag) := by
  obtain ⟨declaration, declared, on⟩ := nameKey_mem_flags_iff.mp (List.mem_map_of_mem member)
  obtain ⟨line, present, declares⟩ := exists_line_of_mem_declarations declared
  refine ⟨line, present, ?_⟩
  rw [Line.flagKey?_of_declaration? declares, Declaration.isOn_iff.mp on]

theorem problems_eq_nil_iff_faultless (lines : List Line) :
    registry.problems lines = [] ↔
      (∀ index line, lines[index]? = some line → registry.faultAfter (lines.take index) line = none) ∧
        (registry.declared lines).failures = [] := by
  rw [problems, List.append_eq_nil_iff, Problem.ofFaults_eq_nil_iff, faultsAfter_eq_none_iff,
    List.map_eq_nil_iff]

theorem problems_only_eq_nil (accepted : registry.problems lines = []) (key : String) :
    registry.problems (lines.map (Line.only key)) = [] := by
  rw [problems_eq_nil_iff_faultless] at accepted ⊢
  obtain ⟨faultless, passed⟩ := accepted
  constructor
  · intro index _ present
    rw [List.getElem?_map, Option.map_eq_some_iff] at present
    obtain ⟨line, here, rfl⟩ := present
    rw [← List.map_take]
    by_cases about : line.flagKey? = some key
    · rw [Line.only_of_about about, faultAfter_only about]
      exact faultless index line here
    · rw [Line.only_of_other about]
      rfl
  · rw [Draft.failures, List.flatMap_eq_nil_iff] at passed
    rw [declared_only, failures_only, Draft.failuresOn, List.flatMap_eq_nil_iff]
    exact fun feature member => passed feature (List.mem_of_mem_filter member)

theorem problems_eq_nil_of_only
    (read : ∀ line ∈ lines, line.flagKey? = none → line = .ignored)
    (parts : ∀ line ∈ lines, ∀ key, line.flagKey? = some key →
      registry.problems (lines.map (Line.only key)) = []) : registry.problems lines = [] := by
  rw [problems_eq_nil_iff_faultless]
  constructor
  · intro index line here
    have member := List.mem_of_getElem? here
    cases about : line.flagKey? with
    | none =>
      rw [read line member about]
      rfl
    | some key =>
      have faultless := ((problems_eq_nil_iff_faultless _).mp (parts line member key about)).1 index line
        (by rw [List.getElem?_map, here, Option.map_some, Line.only_of_about about])
      rwa [← List.map_take, faultAfter_only about] at faultless
  · rw [failures_declared_eq_nil_iff]
    intro flag member
    obtain ⟨line, present, about⟩ := exists_line_of_mem_flags member
    have passed := ((problems_eq_nil_iff_faultless _).mp (parts line present _ about)).2
    rwa [declared_only, failures_only] at passed

theorem signed_of_accepted (accepted : registry.problems lines = []) {line : Line} (member : line ∈ lines) :
    line ≠ .missingEqualSign ∧ line ≠ .multipleEqualSigns := by
  obtain ⟨index, here⟩ := List.mem_iff_getElem?.mp member
  have faultless := ((problems_eq_nil_iff_faultless _).mp accepted).1 index line here
  constructor <;> rintro rfl <;> exact absurd faultless (by simp [faultAfter])

theorem problems_eq_nil_iff_only (keyed : ∀ line ∈ lines, ∀ value, line ≠ .assignment [] value) :
    registry.problems lines = [] ↔
      (∀ line ∈ lines, line ≠ .missingEqualSign ∧ line ≠ .multipleEqualSigns) ∧
        ∀ line ∈ lines, ∀ key, line.flagKey? = some key →
          registry.problems (lines.map (Line.only key)) = [] := by
  constructor
  · intro accepted
    exact ⟨fun line member => signed_of_accepted accepted member,
      fun _ _ key _ => problems_only_eq_nil accepted key⟩
  · rintro ⟨signed, parts⟩
    apply problems_eq_nil_of_only _ parts
    intro line member silent
    obtain ⟨equalSign, single⟩ := signed line member
    exact Line.eq_ignored_of_flagKey?_eq_none silent equalSign single (keyed line member)

end Registry

namespace Problem

theorem filter_ofFaults_of_lt {line start : Nat} (before : line < start) (faults : List (Option Fault)) :
    (ofFaults start faults).filter (·.line? == some line) = [] := by
  have silent := reported_ofFaults_of_lt before faults
  rw [reported, List.any_eq_false] at silent
  exact List.filter_eq_nil_iff.mpr silent

theorem filter_ofFaults_at (start index : Nat) (faults : List (Option Fault)) :
    (ofFaults start faults).filter (·.line? == some (start + index)) =
      (faults[index]?.join.map (.atLine (start + index))).toList := by
  induction faults generalizing start index with
  | nil => rfl
  | cons fault rest ih =>
    cases index with
    | zero =>
      have later := filter_ofFaults_of_lt (Nat.lt_succ_self start) rest
      cases fault with
      | none => simpa [ofFaults] using later
      | some fault => simpa [ofFaults, List.filter_cons, line?] using later
    | succ index =>
      have later := ih (start + 1) index
      rw [Nat.add_right_comm, Nat.add_assoc] at later
      cases fault with
      | none => simpa [ofFaults] using later
      | some fault => simpa [ofFaults, List.filter_cons, line?] using later

end Problem

namespace Registry

variable {registry : Registry σ} {key : String}

theorem filter_problems_at (lines : List Line) (index : Nat) :
    (registry.problems lines).filter (·.line? == some (index + 1)) =
      ((registry.faultsAfter [] lines)[index]?.join.map (.atLine (index + 1))).toList := by
  have faults := Problem.filter_ofFaults_at 1 index (registry.faultsAfter [] lines)
  rw [Nat.add_comm] at faults
  have checks : ((registry.declared lines).failures.map Problem.invalidParameter).filter
      (·.line? == some (index + 1)) = [] := by
    simp [List.filter_eq_nil_iff, Problem.line?]
  rw [problems, List.filter_append, faults, checks, List.append_nil]

end Registry

/-- Flags do not meet: what is wrong with the rows and the checks of a flag, whether they are accepted and
    what becomes of them, is decided by the rows about the flag alone. -/
theorem parse_rowsOn (registry : Registry σ) (rows : List String) (key : String) :
    (∀ index row, rows[index]? = some row → (Line.ofRow row).flagKey? = some key →
      (Problems.ofResult (parse registry (Line.rowsOn key rows))).filter
          (·.line? == some (index + 1)) =
        (Problems.ofResult (parse registry rows)).filter (·.line? == some (index + 1))) ∧
    (Problems.ofResult (parse registry rows)).filter (·.line?.isNone) =
      (Draft.scan registry {} (rows.map .ofRow)).2.failures.map .invalidParameter ∧
    (Problems.ofResult (parse registry (Line.rowsOn key rows))).filter (·.line?.isNone) =
      ((Draft.scan registry {} (rows.map .ofRow)).2.failuresOn key).map .invalidParameter ∧
    ((∃ catalog, parse registry rows = .ok catalog) ↔
      (∀ row ∈ rows, Line.ofRow row ≠ .missingEqualSign ∧ Line.ofRow row ≠ .multipleEqualSigns) ∧
        ∀ row ∈ rows, ∀ flagKey, (Line.ofRow row).flagKey? = some flagKey →
          ∃ part, parse registry (Line.rowsOn flagKey rows) = .ok part) ∧
    ∀ catalog, parse registry rows = .ok catalog →
      ∃ part, parse registry (Line.rowsOn key rows) = .ok part ∧
        ∀ query, nameKey query = key → part.find? query = catalog.find? query ∧
          part.isEnabled query = catalog.isEnabled query ∧ part.report query = catalog.report query := by
  refine ⟨?_, ?_, ?_, ?_, ?_⟩
  · intro index row here about
    have line : (rows.map Line.ofRow)[index]? = some (Line.ofRow row) := by
      rw [List.getElem?_map, here, Option.map_some]
    rw [Registry.ofResult_parse, Registry.ofResult_parse, Registry.filter_problems_at,
      Registry.filter_problems_at, Line.map_ofRow_rowsOn, Registry.getElem?_faultsAfter_only line about]
  · rw [Registry.ofResult_parse, Registry.filter_problems, Registry.scan_empty]
  · rw [Registry.ofResult_parse, Registry.filter_problems, Line.map_ofRow_rowsOn, Registry.declared_only,
      Registry.failures_only, Registry.scan_empty]
  · have keyed : ∀ line ∈ rows.map Line.ofRow, ∀ value, line ≠ .assignment [] value := by
      rintro _ member
      obtain ⟨row, -, rfl⟩ := List.mem_map.mp member
      exact Line.ofRow_ne_assignment_nil row
    simp only [Registry.exists_parse_eq_ok_iff, Line.map_ofRow_rowsOn,
      Registry.problems_eq_nil_iff_only keyed, List.forall_mem_map]
  · intro catalog accepted
    obtain ⟨sound, rfl⟩ := Registry.parse_eq_ok_iff.mp accepted
    have part := Registry.problems_only_eq_nil sound key
    rw [← Line.map_ofRow_rowsOn] at part
    refine ⟨_, Registry.parse_eq_ok_iff.mpr ⟨part, rfl⟩, ?_⟩
    intro query same
    rw [Line.map_ofRow_rowsOn, Registry.declared_only]
    have found : Catalog.find? ⟨((registry.declared (rows.map .ofRow)).only key).features⟩ query =
        Catalog.find? ⟨(registry.declared (rows.map .ofRow)).features⟩ query :=
      NameTable.find?_only same _
    refine ⟨found, ?_, ?_⟩
    · rw [Catalog.isEnabled, Catalog.isEnabled, found]
    · rw [Catalog.report, Catalog.report, found]

end FeatureFlags
