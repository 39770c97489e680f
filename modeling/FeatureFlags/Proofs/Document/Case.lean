import FeatureFlags.Proofs.Criterion.Spelling
import FeatureFlags.Proofs.Document.Outcome
import FeatureFlags.Proofs.Name.Table

namespace FeatureFlags

/-- The lines differ at most in the case of names. Keys that are neither of one nor of three segments
    need only have the same number of them. -/
inductive Line.SameUpToCase : Line → Line → Prop where
  | refl (line : Line) : SameUpToCase line line
  | declaration {flag other name spelling : String} (flags : nameKey flag = nameKey other)
    (names : nameKey name = nameKey spelling) :
    SameUpToCase (.assignment [flag] name) (.assignment [other] spelling)
  | parameter {flag other specification spelling parameter given : String} (value : String)
    (flags : nameKey flag = nameKey other) (names : nameKey specification = nameKey spelling)
    (parameters : nameKey parameter = nameKey given) :
    SameUpToCase (.assignment [flag, specification, parameter] value)
      (.assignment [other, spelling, given] value)
  | malformed {key other : List String} (value given : String) (length : key.length = other.length)
    (one : key.length ≠ 1) (three : key.length ≠ 3) :
    SameUpToCase (.assignment key value) (.assignment other given)

def Fault.caseless : Fault → Fault
  | unknownSpecification name => unknownSpecification (nameKey name)
  | parameterDeclaredTwice parameter => parameterDeclaredTwice (nameKey parameter)
  | undeclaredSpecification feature => undeclaredSpecification (nameKey feature)
  | missingEqualSign => missingEqualSign
  | multipleEqualSigns => multipleEqualSigns
  | wrongParameterUsage => wrongParameterUsage

def Fault.SameUpToCase (fault other : Fault) : Prop := fault.caseless = other.caseless

namespace Problem

def caseless : Problem → Problem
  | atLine line fault => atLine line fault.caseless
  | invalidParameter cause => invalidParameter cause.caseless

def SameUpToCase (problem other : Problem) : Prop := problem.caseless = other.caseless

theorem ofFaults_sameUpToCase {faults others : List (Option Fault)}
    (same : List.Forall₂ (Option.Rel Fault.SameUpToCase) faults others) (line : Nat) :
    List.Forall₂ SameUpToCase (ofFaults line faults) (ofFaults line others) := by
  induction same generalizing line with
  | nil => exact .nil
  | cons here _ ih =>
    cases here with
    | none => exact ih (line + 1)
    | some fault => exact .cons (congrArg (atLine line) fault) (ih (line + 1))

end Problem

variable {ρ : Type} [ParameterRule ρ]

namespace Attached

structure Alike (left right : Attached (Stored ρ)) : Prop where
  name : nameKey left.name = nameKey right.name
  specification : left.specification = right.specification
  assigned : left.assigned = right.assigned
  ignores : left.specification.IgnoresSpelling

variable {left right : Attached (Stored ρ)} {name other specification spelling : String}

theorem Alike.goesBy (alike : left.Alike right) (same : nameKey name = nameKey other) :
    left.goesBy name = right.goesBy other := by
  rw [Attached.goesBy, Attached.goesBy, sameName, sameName, alike.name, same]

theorem Alike.assign (alike : left.Alike right) (same : nameKey name = nameKey other) (value : String) :
    (left.assign name value).1.isOk = (right.assign other value).1.isOk ∧
      (left.assign name value).2.Alike (right.assign other value).2 := by
  obtain ⟨verdict, state⟩ := Specification.assign_congr same right.specification value
  have ignores := alike.ignores.assign name value
  rw [alike.specification] at ignores
  rw [Attached.assign, Attached.assign, alike.specification, alike.assigned, same]
  split
  · exact ⟨rfl, alike⟩
  · cases first : (right.specification.assign name value).1 <;>
      cases second : (right.specification.assign other value).1
    · simp only [first, second]
      exact ⟨rfl, alike.name, state, rfl, ignores⟩
    · rw [first, second] at verdict
      exact absurd verdict Bool.false_ne_true
    · rw [first, second] at verdict
      exact absurd verdict.symm Bool.false_ne_true
    · simp only [first, second]
      exact ⟨trivial, alike.name, state, rfl, ignores⟩

theorem assignLast_alike {lefts rights : List (Attached (Stored ρ))}
    (alike : List.Forall₂ Alike lefts rights) (specifications : nameKey specification = nameKey spelling)
    (names : nameKey name = nameKey other) (value : String) :
    Option.Rel (fun first second => first.1.isOk = second.1.isOk ∧ List.Forall₂ Alike first.2 second.2)
      (assignLast specification name value lefts) (assignLast spelling other value rights) := by
  induction alike with
  | nil => exact .none
  | @cons left right lefts rights here later ih =>
    rw [assignLast, assignLast]
    generalize assignLast specification name value lefts = first,
      assignLast spelling other value rights = second at ih
    cases ih with
    | some rest => exact .some ⟨rest.1, .cons here rest.2⟩
    | none =>
      dsimp only
      rw [here.goesBy specifications]
      split
      · exact .some ⟨(here.assign names value).1, .cons (here.assign names value).2 later⟩
      · exact .none

end Attached

namespace Feature

structure Alike (left right : Feature (Stored ρ)) : Prop where
  name : nameKey left.name = nameKey right.name
  attached : List.Forall₂ Attached.Alike left.attached right.attached

variable {left right : Feature (Stored ρ)}

theorem Alike.attach (alike : left.Alike right) {name spelling : String}
    (names : nameKey name = nameKey spelling) {specification : Specification (Stored ρ)}
    (ignores : specification.IgnoresSpelling) :
    (left.attach name specification).Alike (right.attach spelling specification) where
  name := alike.name
  attached := List.rel_append alike.attached (.cons ⟨names, rfl, rfl, ignores⟩ .nil)

theorem Alike.failures (alike : left.Alike right) :
    List.Forall₂ (fun first second => first.caseless = second.caseless) left.failures right.failures := by
  apply List.rel_filterMap _ alike.attached
  intro first second same
  have found := same.ignores.check alike.name
  dsimp only
  rw [← same.specification]
  cases here : first.specification.check left.name <;>
    cases there : first.specification.check right.name <;>
      simp only [here, there, Except.mapError] at found ⊢
  · exact .some (Except.error.inj found)
  · exact absurd found (by simp)
  · exact absurd found (by simp)
  · exact .none

theorem Alike.votes (alike : left.Alike right) :
    left.votes.map (fun vote => (nameKey vote.1, vote.2)) =
      right.votes.map (fun vote => (nameKey vote.1, vote.2)) := by
  rw [← List.forall₂_eq_eq_eq, Feature.votes, Feature.votes, List.map_map, List.map_map]
  apply List.rel_map _ alike.attached
  intro first second same
  simp only [Function.comp_apply, same.name, same.specification]

theorem isEnabled_eq_votes (feature : Feature (Stored ρ)) :
    feature.isEnabled =
      (!(feature.votes.map fun vote => (nameKey vote.1, vote.2)).isEmpty &&
        (feature.votes.map fun vote => (nameKey vote.1, vote.2)).all (·.2)) := by
  simp [isEnabled, votes, Function.comp_def]

theorem Alike.isEnabled (alike : left.Alike right) : left.isEnabled = right.isEnabled := by
  rw [isEnabled_eq_votes, isEnabled_eq_votes, alike.votes]

end Feature

namespace Draft

def Alike (left right : Draft (Stored ρ)) : Prop := NameTable.Alike Feature.Alike left.features right.features

variable {registry : Registry (Stored ρ)} {left right : Draft (Stored ρ)}
  {flag other name spelling specification parameter given : String}

theorem Alike.attach (alike : left.Alike right) (flags : nameKey flag = nameKey other)
    (names : nameKey name = nameKey spelling) {prototype : Specification (Stored ρ)}
    (ignores : prototype.IgnoresSpelling) :
    (left.attach flag name prototype).Alike (right.attach other spelling prototype) := by
  have found := alike.find? flags
  have features : Feature.Alike ((left.features.find? flag).getD { name := flag })
      ((right.features.find? other).getD { name := other }) := by
    generalize left.features.find? flag = first, right.features.find? other = second at found
    cases found with
    | none => exact ⟨flags, .nil⟩
    | some features => exact features
  exact alike.insert flags (features.attach names ignores)

theorem Alike.declare (alike : left.Alike right) (ignores : registry.IgnoresSpelling)
    (flags : nameKey flag = nameKey other) (names : nameKey name = nameKey spelling) :
    Option.Rel Fault.SameUpToCase (left.declare registry flag name).1
        (right.declare registry other spelling).1 ∧
      (left.declare registry flag name).2.Alike (right.declare registry other spelling).2 := by
  rw [Draft.declare, Draft.declare, Registry.find?_congr names]
  cases found : registry.find? spelling with
  | none => exact ⟨.some (congrArg Fault.unknownSpecification names), alike⟩
  | some prototype => exact ⟨.none, alike.attach flags names (ignores _ _ found)⟩

theorem Alike.assign (alike : left.Alike right) (flags : nameKey flag = nameKey other)
    (names : nameKey specification = nameKey spelling) (parameters : nameKey parameter = nameKey given)
    (value : String) :
    Option.Rel Fault.SameUpToCase (left.assign flag specification parameter value).1
        (right.assign other spelling given value).1 ∧
      (left.assign flag specification parameter value).2.Alike
        (right.assign other spelling given value).2 := by
  have found := alike.find? flags
  have undeclared : Fault.SameUpToCase (.undeclaredSpecification flag) (.undeclaredSpecification other) :=
    congrArg Fault.undeclaredSpecification flags
  have twice : Fault.SameUpToCase (.parameterDeclaredTwice parameter) (.parameterDeclaredTwice given) :=
    congrArg Fault.parameterDeclaredTwice parameters
  rw [Draft.assign, Draft.assign]
  generalize left.features.find? flag = first, right.features.find? other = second at found
  cases found with
  | none => exact ⟨.some undeclared, alike⟩
  | @some feature counterpart features =>
    have answers := Attached.assignLast_alike features.attached names parameters value
    simp only [Feature.assign]
    generalize Attached.assignLast specification parameter value feature.attached = first,
      Attached.assignLast spelling given value counterpart.attached = second at answers
    cases answers with
    | none => exact ⟨.some undeclared, alike.insert flags features⟩
    | @some answer reply same =>
      rcases answer with ⟨_ | _, attached⟩ <;> rcases reply with ⟨_ | _, others⟩
      · exact ⟨.some twice, alike.insert flags ⟨features.name, same.2⟩⟩
      · exact absurd same.1 Bool.false_ne_true
      · exact absurd same.1.symm Bool.false_ne_true
      · exact ⟨.none, alike.insert flags ⟨features.name, same.2⟩⟩

theorem Alike.read (alike : left.Alike right) (ignores : registry.IgnoresSpelling) {line counterpart : Line}
    (lines : line.SameUpToCase counterpart) :
    Option.Rel Fault.SameUpToCase (left.read registry line).1 (right.read registry counterpart).1 ∧
      (left.read registry line).2.Alike (right.read registry counterpart).2 := by
  cases lines with
  | declaration flags names => exact alike.declare ignores flags names
  | parameter value flags names parameters => exact alike.assign flags names parameters value
  | @malformed key other value given length one three =>
    have wrong := Line.Inert.of_length one three value
    have counterpart := Line.Inert.of_length (length ▸ one) (length ▸ three) given
    rw [wrong.read, counterpart.read]
    exact ⟨.some rfl, alike⟩
  | refl =>
    cases line using Line.byKind with
    | inert line fault inert =>
      rw [inert.read, inert.read]
      refine ⟨?_, alike⟩
      cases fault with
      | none => exact .none
      | some fault => exact .some rfl
    | declaration flag name => exact alike.declare ignores rfl rfl
    | parameter flag specification parameter value => exact alike.assign rfl rfl rfl value

theorem Alike.scan (alike : left.Alike right) (ignores : registry.IgnoresSpelling) {lines others : List Line}
    (same : List.Forall₂ Line.SameUpToCase lines others) :
    List.Forall₂ (Option.Rel Fault.SameUpToCase) (Draft.scan registry left lines).1
        (Draft.scan registry right others).1 ∧
      (Draft.scan registry left lines).2.Alike (Draft.scan registry right others).2 := by
  induction same generalizing left right with
  | nil => exact ⟨.nil, alike⟩
  | cons here _ ih =>
    obtain ⟨fault, next⟩ := alike.read ignores here
    obtain ⟨faults, last⟩ := ih next
    exact ⟨.cons fault faults, last⟩

theorem Alike.failures (alike : left.Alike right) :
    List.Forall₂ (fun first second => first.caseless = second.caseless) left.failures right.failures :=
  List.rel_flatMap (NameTable.Alike.values alike) fun _ _ features => features.failures

theorem Alike.flags (alike : left.Alike right) :
    (Catalog.mk left.features).flags.map nameKey = (Catalog.mk right.features).flags.map nameKey := by
  rw [← List.forall₂_eq_eq_eq, Catalog.flags, Catalog.flags, List.map_map, List.map_map]
  apply List.rel_map _ (NameTable.Alike.values alike)
  intro first second features
  exact features.name

theorem Alike.votes (alike : left.Alike right) :
    List.Forall₂ (fun feature other => feature.votes.map (·.2) = other.votes.map (·.2))
      (Catalog.mk left.features).toList (Catalog.mk right.features).toList := by
  apply (NameTable.Alike.values alike).imp
  intro first second features
  have votes := congrArg (List.map (·.2)) features.votes
  rw [List.map_map, List.map_map] at votes
  exact votes

theorem Alike.isEnabled (alike : left.Alike right) {query other : String}
    (queries : nameKey query = nameKey other) :
    (Catalog.mk left.features).isEnabled query = (Catalog.mk right.features).isEnabled other := by
  have found := NameTable.Alike.find? alike queries
  rw [Catalog.isEnabled, Catalog.isEnabled, Catalog.find?, Catalog.find?]
  generalize left.features.find? query = first, right.features.find? other = second at found
  cases found with
  | none => rfl
  | some features => exact features.isEnabled

end Draft

namespace Registry

variable {registry : Registry (Stored ρ)} {lines others : List Line}

theorem declared_alike (ignores : registry.IgnoresSpelling)
    (same : List.Forall₂ Line.SameUpToCase lines others) :
    List.Forall₂ (Option.Rel Fault.SameUpToCase) (registry.faultsAfter [] lines)
        (registry.faultsAfter [] others) ∧
      (registry.declared lines).Alike (registry.declared others) := by
  have start : Draft.Alike ({} : Draft (Stored ρ)) {} := List.Forall₂.nil
  have scanned := start.scan ignores same
  rw [scan_empty, scan_empty] at scanned
  exact scanned

theorem problems_sameUpToCase (ignores : registry.IgnoresSpelling)
    (same : List.Forall₂ Line.SameUpToCase lines others) :
    List.Forall₂ Problem.SameUpToCase (registry.problems lines) (registry.problems others) := by
  obtain ⟨faults, drafts⟩ := declared_alike ignores same
  apply List.rel_append (Problem.ofFaults_sameUpToCase faults 1)
  apply List.rel_map _ drafts.failures
  intro first second found
  exact congrArg Problem.invalidParameter found

end Registry

/-- Documents that differ in the case of names only are accepted or refused together, with problems of the
    same kinds at the same lines, and their flags have the same votes. -/
theorem parse_sameUpToCase (registry : Registry (Stored ρ)) (ignores : registry.IgnoresSpelling)
    (rows others : List String)
    (same : List.Forall₂ (fun row other => (Line.ofRow row).SameUpToCase (.ofRow other)) rows others) :
    ((∃ catalog, parse registry rows = .ok catalog) ↔ ∃ catalog, parse registry others = .ok catalog) ∧
    (∀ catalog counterpart, parse registry rows = .ok catalog → parse registry others = .ok counterpart →
      catalog.flags.map nameKey = counterpart.flags.map nameKey ∧
      List.Forall₂ (fun feature other => feature.votes.map (·.2) = other.votes.map (·.2))
        catalog.toList counterpart.toList ∧
      ∀ query other, nameKey query = nameKey other →
        catalog.isEnabled query = counterpart.isEnabled other) ∧
    ∀ problems counterparts, parse registry rows = .error problems →
      parse registry others = .error counterparts →
        problems.toList.map Problem.caseless = counterparts.toList.map Problem.caseless := by
  have lines : List.Forall₂ Line.SameUpToCase (rows.map .ofRow) (others.map .ofRow) := by
    rw [List.forall₂_map_left_iff, List.forall₂_map_right_iff]
    exact same
  have problems := Registry.problems_sameUpToCase ignores lines
  refine ⟨?_, ?_, ?_⟩
  · rw [Registry.exists_parse_eq_ok_iff, Registry.exists_parse_eq_ok_iff, ← List.length_eq_zero_iff,
      ← List.length_eq_zero_iff, problems.length_eq]
  · intro catalog counterpart accepted agreed
    obtain ⟨-, rfl⟩ := Registry.parse_eq_ok_iff.mp accepted
    obtain ⟨-, rfl⟩ := Registry.parse_eq_ok_iff.mp agreed
    have drafts := (Registry.declared_alike ignores lines).2
    exact ⟨drafts.flags, drafts.votes, fun query other queries => drafts.isEnabled queries⟩
  · intro refusal counterpart refused agreed
    rw [Registry.parse_eq_error_iff] at refused agreed
    rw [← refused, ← agreed, ← List.forall₂_eq_eq_eq, List.forall₂_map_left_iff,
      List.forall₂_map_right_iff]
    exact problems

theorem parse_sameUpToCase_ranged :
    ∃ catalog, parse .ranged ["F = Range", "f.RANGE.Min = 1", "f.range.max = 2"] = .ok catalog ∧
      ∃ counterpart, parse .ranged ["f = range", "F.range.MIN = 1", "f.range.max = 2"] = .ok counterpart ∧
        catalog.flags.map nameKey = counterpart.flags.map nameKey ∧
        catalog.isEnabled "f" = counterpart.isEnabled "F" := by
  have declaration : (Line.ofRow "F = Range").SameUpToCase (.ofRow "f = range") := by
    have upper : Line.ofRow "F = Range" = .assignment ["F"] "Range" := by decide +kernel
    have lower : Line.ofRow "f = range" = .assignment ["f"] "range" := by decide +kernel
    rw [upper, lower]
    exact .declaration (by decide +kernel) (by decide +kernel)
  have parameter : (Line.ofRow "f.RANGE.Min = 1").SameUpToCase (.ofRow "F.range.MIN = 1") := by
    have upper : Line.ofRow "f.RANGE.Min = 1" = .assignment ["f", "RANGE", "Min"] "1" := by decide +kernel
    have lower : Line.ofRow "F.range.MIN = 1" = .assignment ["F", "range", "MIN"] "1" := by decide +kernel
    rw [upper, lower]
    exact .parameter "1" (by decide +kernel) (by decide +kernel) (by decide +kernel)
  have sound : (parse .ranged ["F = Range", "f.RANGE.Min = 1", "f.range.max = 2"]).isOk = true := by
    decide +kernel
  obtain ⟨catalog, accepted⟩ := exists_ok_of_isOk sound
  obtain ⟨both, agree, -⟩ := parse_sameUpToCase .ranged (Registry.ignoresSpelling _)
    ["F = Range", "f.RANGE.Min = 1", "f.range.max = 2"]
    ["f = range", "F.range.MIN = 1", "f.range.max = 2"]
    (.cons declaration (.cons parameter (.cons (.refl _) .nil)))
  obtain ⟨counterpart, agreed⟩ := both.mp ⟨catalog, accepted⟩
  obtain ⟨flags, -, enabled⟩ := agree catalog counterpart accepted agreed
  exact ⟨catalog, accepted, counterpart, agreed, flags, enabled "f" "F" (by decide +kernel)⟩

end FeatureFlags
