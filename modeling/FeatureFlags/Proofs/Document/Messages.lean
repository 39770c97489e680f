import FeatureFlags.Proofs.Criterion.Unbroken
import FeatureFlags.Proofs.Document.Classification

namespace FeatureFlags

open Text

namespace Line

def texts : Line → List String
  | assignment key value => value :: key
  | _ => []

theorem subset_of_mem_texts {row text : String} (member : text ∈ (ofRow row).texts) :
    text.toList ⊆ row.toList := by
  cases read : ofRow row with
  | ignored | missingEqualSign | multipleEqualSigns =>
    rw [read] at member
    exact absurd member List.not_mem_nil
  | assignment key value =>
    rw [read] at member
    obtain ⟨-, -, rfl, rfl⟩ := ofRow_eq_assignment_iff.mp read
    intro c present
    rcases List.mem_cons.mp member with rfl | segment
    · rw [String.toList_ofList] at present
      exact (List.dropWhile_sublist _).subset (List.mem_of_mem_tail (mem_of_mem_trim present))
    · obtain ⟨chars, listed, rfl⟩ := List.mem_map.mp segment
      obtain ⟨part, piece, within⟩ := sublist_of_mem_segments listed
      rw [String.toList_ofList] at present
      have left := mem_of_mem_split piece (within.subset present)
      exact (List.takeWhile_sublist _).subset (mem_of_mem_trim left)

def IsUnbroken (line : Line) : Prop := ∀ text ∈ line.texts, Unbroken text

theorem isUnbroken_ofRow {row : String} (unbroken : Unbroken row) : (ofRow row).IsUnbroken :=
  fun _ member => unbroken.of_subset (subset_of_mem_texts member)

theorem unbroken_of_mem_settings {flag name : String} {lines : List Line}
    (unbroken : ∀ line ∈ lines, line.IsUnbroken) :
    ∀ setting ∈ settings flag name lines, Unbroken setting.1 ∧ Unbroken setting.2 := by
  intro setting member
  obtain ⟨line, taken, sets⟩ := List.mem_filterMap.mp member
  obtain ⟨other, specification, rfl, -, -⟩ := setting?_eq_some_iff.mp sets
  have whole := unbroken _ ((List.takeWhile_sublist _).subset taken)
  exact ⟨whole _ (by simp [texts]), whole _ List.mem_cons_self⟩

end Line

theorem Fault.unbroken_message {fault : Fault}
    (named : ∀ subject, fault.subject? = some subject → Unbroken subject) (line : Nat) :
    Unbroken (fault.message line) := by
  have before : Unbroken " at line " := by decide
  have place : Unbroken (" at line " ++ toString line ++ ".") :=
    (before.append (unbroken_toString line)).append (by decide)
  have quoted : ∀ before subject after, Unbroken before → fault.subject? = some subject → Unbroken after →
      Unbroken (before ++ subject ++ after ++ (" at line " ++ toString line ++ ".")) :=
    fun _ subject _ before subjects after => ((before.append (named subject subjects)).append after).append place
  cases fault with
  | missingEqualSign => exact Unbroken.append (by decide) place
  | multipleEqualSigns => exact Unbroken.append (by decide) place
  | unknownSpecification name => exact quoted _ name _ (by decide) rfl (by decide)
  | wrongParameterUsage => exact (Unbroken.append (by decide) place).append (by decide)
  | parameterDeclaredTwice parameter => exact quoted _ parameter _ (by decide) rfl (by decide)
  | undeclaredSpecification feature => exact quoted _ feature _ (by decide) rfl (by decide)

theorem InvalidParameter.IsUnbroken.message {invalid : InvalidParameter} (whole : invalid.IsUnbroken) :
    Unbroken invalid.message := by
  have before : Unbroken "Invalid specification parameter for feature '" := by decide
  have between : Unbroken "'. " := by decide
  exact ((before.append whole.feature).append between).append whole.reason

theorem Problem.mem_ofFaults {problem : Problem} {start : Nat} {faults : List (Option Fault)}
    (member : problem ∈ ofFaults start faults) :
    ∃ line fault, problem = .atLine line fault ∧ some fault ∈ faults := by
  induction faults generalizing start with
  | nil => exact absurd member List.not_mem_nil
  | cons fault rest ih =>
    cases fault with
    | none =>
      obtain ⟨line, fault, same, listed⟩ := ih member
      exact ⟨line, fault, same, List.mem_cons_of_mem _ listed⟩
    | some fault =>
      rcases List.mem_cons.mp member with rfl | later
      · exact ⟨start, fault, rfl, List.mem_cons_self⟩
      · obtain ⟨line, fault, same, listed⟩ := ih later
        exact ⟨line, fault, same, List.mem_cons_of_mem _ listed⟩

variable {σ : Type} [Criterion σ]

theorem Feature.mem_failures_iff {feature : Feature σ} {invalid : InvalidParameter} :
    invalid ∈ feature.failures ↔
      ∃ attached ∈ feature.attached, attached.specification.check feature.name = .error invalid := by
  rw [failures, List.mem_filterMap]
  apply exists_congr
  intro attached
  cases attached.specification.check feature.name <;> simp

namespace Registry

variable {registry : Registry σ} {lines : List Line}

omit [Criterion σ] in
theorem later_subset_of_mem_declarations {declaration : Declaration σ}
    (member : declaration ∈ registry.declarations lines) : declaration.later ⊆ lines := by
  induction lines with
  | nil => exact absurd member List.not_mem_nil
  | cons line later ih =>
    rcases List.mem_append.mp member with here | member
    · obtain ⟨-, -, rfl⟩ := Declaration.ofLine?_eq_some_iff.mp (Option.mem_toList.mp here)
      exact List.subset_cons_self _ _
    · exact List.subset_cons_of_subset _ (ih member)

theorem subject_mem_texts {line : Line} {fault : Fault} {subject : String}
    (faulty : registry.faultAfter lines line = some fault) (names : fault.subject? = some subject) :
    subject ∈ line.texts := by
  cases line using Line.byKind with
  | inert line fault inert =>
    rw [faultAfter_of_inert inert] at faulty
    subst faulty
    cases inert <;> cases names
  | declaration flag name =>
    simp only [faultAfter] at faulty
    split at faulty
    · exact absurd faulty (by simp)
    · obtain rfl := Option.some.inj faulty
      obtain rfl := Option.some.inj names
      exact List.mem_cons_self
  | parameter flag specification parameter value =>
    simp only [faultAfter] at faulty
    split at faulty
    · obtain rfl := Option.some.inj faulty
      obtain rfl := Option.some.inj names
      simp [Line.texts]
    · split at faulty
      · exact absurd faulty (by simp)
      · obtain rfl := Option.some.inj faulty
        obtain rfl := Option.some.inj names
        simp [Line.texts]

theorem unbroken_of_fault (unbroken : ∀ line ∈ lines, line.IsUnbroken) {fault : Fault}
    (member : some fault ∈ registry.faultsAfter [] lines) (number : Nat) : Unbroken (fault.message number) := by
  obtain ⟨index, here⟩ := List.mem_iff_getElem?.mp member
  rw [getElem?_faultsAfter, Option.map_eq_some_iff] at here
  obtain ⟨line, present, faulty⟩ := here
  exact Fault.unbroken_message
    (fun _ names => unbroken line (List.mem_of_getElem? present) _ (subject_mem_texts faulty names)) number

theorem isUnbroken_of_mem_failures (reports : registry.ReportsUnbroken)
    (unbroken : ∀ line ∈ lines, line.IsUnbroken) {invalid : InvalidParameter}
    (member : invalid ∈ (registry.declared lines).failures) : invalid.IsUnbroken := by
  obtain ⟨feature, listed, failed⟩ := List.mem_flatMap.mp member
  obtain ⟨attached, present, failed⟩ := Feature.mem_failures_iff.mp failed
  obtain ⟨declaration, declared, reaching, known, within, reached⟩ := exists_after_of_declared listed present
  rw [reached] at failed
  -- The check is told of texts of lines only: settings, and the flag as its first declaration spells it.
  refine reports _ _ known reaching feature.name invalid ?_ ?_ failed
  · intro setting assigned
    have later := fun line after => unbroken line (later_subset_of_mem_declarations declared after)
    exact Line.unbroken_of_mem_settings later setting (within.subset assigned)
  · obtain ⟨first, declared, flag⟩ := exists_declaration_of_feature listed
    obtain ⟨line, source, declares⟩ := exists_line_of_mem_declarations declared
    obtain rfl := Line.declaration?_eq_some_iff.mp declares
    exact unbroken _ source _ (by simp [Line.texts, flag])

/-- No line break gets from unbroken lines into a message. -/
theorem unbroken_of_mem_problems (reports : registry.ReportsUnbroken)
    (unbroken : ∀ line ∈ lines, line.IsUnbroken) :
    ∀ problem ∈ registry.problems lines, Unbroken problem.message := by
  intro problem member
  rcases List.mem_append.mp member with atLine | failed
  · obtain ⟨number, fault, rfl, listed⟩ := Problem.mem_ofFaults atLine
    exact unbroken_of_fault unbroken listed number
  · obtain ⟨invalid, listed, rfl⟩ := List.mem_map.mp failed
    exact (isUnbroken_of_mem_failures reports unbroken listed).message

end Registry

theorem load_text_eq_error_iff {registry : Registry σ} {text : String} {refusal : Problems} :
    load registry (.text text) = .error (.config refusal) ↔
      parse registry (rowsOfText text) = .error refusal := by
  simp only [load, Source.read]
  cases parse registry (rowsOfText text) <;> simp [Except.mapError]

/-- A refused text has one line of message for each problem: line breaks in the message are between the
    problems only, so that the message can be taken apart again. -/
theorem load_message_lines (registry : Registry σ) (reports : registry.ReportsUnbroken) (text : String)
    (refusal : Problems) (refused : load registry (.text text) = .error (.config refusal)) :
    (split '\n' refusal.message.toList).map String.ofList = refusal.toList.map Problem.message ∧
      (split '\n' refusal.message.toList).length = refusal.size ∧ 1 ≤ refusal.size := by
  have unbroken : ∀ line ∈ (rowsOfText text).map Line.ofRow, line.IsUnbroken :=
    List.forall_mem_map.mpr fun row member => Line.isUnbroken_ofRow (unbroken_of_mem_rowsOfText member)
  have listed := Registry.parse_eq_error_iff.mp (load_text_eq_error_iff.mp refused)
  have messages := Registry.unbroken_of_mem_problems reports unbroken
  rw [listed] at messages
  have lines : (split '\n' refusal.message.toList).map String.ofList = refusal.toList.map Problem.message :=
    split_intercalate (by simp [Problems.toList]) (List.forall_mem_map.mpr messages)
  have counted := congrArg List.length lines
  rw [List.length_map, List.length_map] at counted
  exact ⟨lines, counted, by simp [Problems.size, Problems.toList]⟩

theorem load_message_lines_ranged :
    ∃ refusal, load Registry.ranged (.text "x\r\nf = range\nf.range.Min = y") = .error (.config refusal) ∧
      (split '\n' refusal.message.toList).map String.ofList =
        ["Missing equal sign at line 1.",
          "Invalid specification parameter for feature 'f'. Parameter 'Min' has invalid value 'y'."] := by
  have refused : load Registry.ranged (.text "x\r\nf = range\nf.range.Min = y") =
      .error (.config ⟨.atLine 1 .missingEqualSign, [.invalidParameter ⟨"f", .malformed "Min" "y"⟩]⟩) := by
    decide +kernel
  have lines := (load_message_lines .ranged Registry.reportsUnbroken_ranged _ _ refused).1
  exact ⟨_, refused, lines.trans (by decide +kernel)⟩

end FeatureFlags
