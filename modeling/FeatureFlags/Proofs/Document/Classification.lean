import FeatureFlags.Document.Line
import FeatureFlags.Proofs.Text.Split
import FeatureFlags.Proofs.Text.Trim
import Mathlib.Data.List.Basic

namespace FeatureFlags.Line

open Text

def leftSide (row : List Char) : List Char := trim (row.takeWhile (· != '='))

def rightSide (row : List Char) : List Char := trim (row.dropWhile (· != '=')).tail

structure IsKeyOf (left : List Char) (key : List String) : Prop where
  nonempty : key ≠ []
  plain : ∀ segment ∈ key, '.' ∉ segment.toList ∧ '=' ∉ segment.toList
  length : key.length = left.count '.' + 1
  joined : key.length ≠ 3 → (".".intercalate key).toList = left
  parameter : ∀ flag specification name, key = [flag, specification, name] →
    ∃ written : String, name.toList = trim written.toList ∧
      (".".intercalate [flag, specification, written]).toList = left

structure IsSegment (text : String) : Prop where
  undotted : '.' ∉ text.toList
  unequal : '=' ∉ text.toList

structure IsFlag (text : String) : Prop extends IsSegment text where
  nonempty : text ≠ ""
  trimmed : trim text.toList = text.toList
  uncommented : text.toList.head? ≠ some '#'

theorem isSkipped_iff {left : List Char} :
    isSkipped left = true ↔ left = [] ∨ left.head? = some '#' := by
  cases left <;> simp [isSkipped]

section Sides

variable {row left : List Char}

theorem bne_of_not_mem (free : '=' ∉ left) : ∀ c ∈ left, (c != '=') = true := by
  intro c member
  exact bne_iff_ne.mpr fun same => free (same ▸ member)

theorem leftSide_append (free : '=' ∉ left) (right : List Char) :
    leftSide (left ++ '=' :: right) = trim left := by
  rw [leftSide, List.takeWhile_append_of_pos (bne_of_not_mem free),
    List.takeWhile_cons_of_neg (by decide), List.append_nil]

theorem rightSide_append (free : '=' ∉ left) (right : List Char) :
    rightSide (left ++ '=' :: right) = trim right := by
  rw [rightSide, List.dropWhile_append_of_pos (bne_of_not_mem free),
    List.dropWhile_cons_of_neg (by decide), List.tail_cons]

theorem leftSide_of_not_mem (free : '=' ∉ row) : leftSide row = trim row := by
  rw [leftSide, List.takeWhile_eq_self_iff.mpr (bne_of_not_mem free)]

theorem not_mem_leftSide (row : List Char) : '=' ∉ leftSide row := by
  intro member
  have passed := List.mem_takeWhile_imp (mem_of_mem_trim member)
  exact absurd passed (by decide)

theorem ofChars_of_not_mem (free : '=' ∉ row) :
    ofChars row = if isSkipped (trim row) then .ignored else .missingEqualSign := by
  simp only [ofChars, split_of_not_mem free, List.headD_cons, List.tail_cons]

theorem ofChars_append (free : '=' ∉ left) (right : List Char) :
    ofChars (left ++ '=' :: right) =
      if isSkipped (trim left) then .ignored
      else if '=' ∈ right then .multipleEqualSigns
      else .assignment ((segments (trim left)).map String.ofList) (String.ofList (trim right)) := by
  simp only [ofChars, split_append free, List.headD_cons, List.tail_cons]
  by_cases again : '=' ∈ right
  · obtain ⟨middle, rest, rfl, first⟩ := List.eq_append_cons_of_mem again
    obtain ⟨part, others, parts⟩ := List.exists_cons_of_ne_nil (split_ne_nil '=' rest)
    simp only [split_append first, parts, again, ↓reduceIte]
  · simp only [split_of_not_mem again, again, ↓reduceIte]

/-- A row is read by the number of its equal signs, unless nothing stands left of the first one or a
    comment starts there. -/
theorem ofChars_eq (row : List Char) :
    ofChars row =
      if isSkipped (leftSide row) then .ignored
      else match row.count '=' with
        | 0 => .missingEqualSign
        | 1 => .assignment ((segments (leftSide row)).map String.ofList) (String.ofList (rightSide row))
        | _ => .multipleEqualSigns := by
  by_cases present : '=' ∈ row
  · obtain ⟨left, right, rfl, free⟩ := List.eq_append_cons_of_mem present
    have counted : (left ++ '=' :: right).count '=' = right.count '=' + 1 := by
      rw [List.count_append, List.count_cons_self, List.count_eq_zero_of_not_mem free, Nat.zero_add]
    rw [ofChars_append free, leftSide_append free, rightSide_append free, counted]
    cases more : right.count '=' with
    | zero => simp [List.count_eq_zero.mp more]
    | succ _ =>
      have again : '=' ∈ right := List.count_pos_iff.mp (by omega)
      simp [again]
  · rw [ofChars_of_not_mem present, leftSide_of_not_mem present, List.count_eq_zero_of_not_mem present]
    rfl

theorem ofRow_eq_assignment_iff {row value : String} {key : List String} :
    ofRow row = .assignment key value ↔
      isSkipped (leftSide row.toList) = false ∧ row.toList.count '=' = 1 ∧
        key = (segments (leftSide row.toList)).map String.ofList ∧
          value = String.ofList (rightSide row.toList) := by
  rw [ofRow, ofChars_eq]
  cases isSkipped (leftSide row.toList) with
  | true => simp
  | false =>
    rw [if_neg Bool.false_ne_true]
    split
    · rename_i unsigned
      simp [unsigned]
    · rename_i one
      simp only [assignment.injEq, one, true_and]
      constructor <;> rintro ⟨rfl, rfl⟩ <;> exact ⟨rfl, rfl⟩
    · rename_i several
      simp only [reduceCtorEq, false_iff, not_and]
      intro _ one
      exact absurd one several

end Sides

section Blank

variable {pad : List Char}

theorem ofChars_append_blank (blank : ∀ c ∈ pad, isBlank c = true) (row : List Char) :
    ofChars (row ++ pad) = ofChars row := by
  have unequal : '=' ∉ pad := not_mem_of_blank (by decide) blank
  by_cases present : '=' ∈ row
  · obtain ⟨left, right, rfl, free⟩ := List.eq_append_cons_of_mem present
    have again : '=' ∈ right ++ pad ↔ '=' ∈ right := by simp [unequal]
    rw [List.append_assoc, List.cons_append, ofChars_append free, ofChars_append free,
      trim_append_blank blank]
    simp only [again]
  · have free : '=' ∉ row ++ pad := by simp [present, unequal]
    rw [ofChars_of_not_mem free, ofChars_of_not_mem present, trim_append_blank blank]

theorem ofChars_blank_append (blank : ∀ c ∈ pad, isBlank c = true) (row : List Char) :
    ofChars (pad ++ row) = ofChars row := by
  have unequal : '=' ∉ pad := not_mem_of_blank (by decide) blank
  by_cases present : '=' ∈ row
  · obtain ⟨left, right, rfl, free⟩ := List.eq_append_cons_of_mem present
    have before : '=' ∉ pad ++ left := by simp [unequal, free]
    rw [← List.append_assoc, ofChars_append before, ofChars_append free, trim_blank_append blank]
  · have free : '=' ∉ pad ++ row := by simp [present, unequal]
    rw [ofChars_of_not_mem free, ofChars_of_not_mem present, trim_blank_append blank]

theorem ofChars_spaced_sign {left before after : List Char} (first : '=' ∉ left)
    (blankBefore : ∀ c ∈ before, isBlank c = true) (blankAfter : ∀ c ∈ after, isBlank c = true)
    (right : List Char) :
    ofChars (left ++ before ++ '=' :: (after ++ right)) = ofChars (left ++ '=' :: right) := by
  have unequalBefore : '=' ∉ before := not_mem_of_blank (by decide) blankBefore
  have unequalAfter : '=' ∉ after := not_mem_of_blank (by decide) blankAfter
  have free : '=' ∉ left ++ before := by simp [first, unequalBefore]
  have again : '=' ∈ after ++ right ↔ '=' ∈ right := by simp [unequalAfter]
  rw [ofChars_append free, ofChars_append first, trim_append_blank blankBefore, trim_blank_append blankAfter]
  simp only [again]

end Blank

section Segments

variable {left : List Char}

theorem segments_cases (left : List Char) :
    (∃ flag specification name, split '.' left = [flag, specification, name] ∧
        segments left = [flag, specification, trim name]) ∨
      (split '.' left).length ≠ 3 ∧ segments left = split '.' left := by
  unfold segments
  split
  · rename_i flag specification name parts
    exact Or.inl ⟨flag, specification, name, parts, rfl⟩
  · rename_i other
    right
    refine ⟨fun three => ?_, rfl⟩
    obtain ⟨flag, specification, name, parts⟩ := List.length_eq_three.mp three
    exact other flag specification name parts

theorem length_segments (left : List Char) : (segments left).length = left.count '.' + 1 := by
  rw [← length_split]
  rcases segments_cases left with ⟨flag, specification, name, parts, read⟩ | ⟨-, read⟩
  · rw [read, parts]
    rfl
  · rw [read]

theorem segments_ne_nil (left : List Char) : segments left ≠ [] := by
  have counted := length_segments left
  intro nothing
  rw [nothing, List.length_nil] at counted
  omega

theorem ofRow_ne_assignment_nil (row value : String) : ofRow row ≠ .assignment [] value := by
  rw [ofRow, ofChars_eq]
  split
  · simp
  · split <;> simp [segments_ne_nil]

/-- Each segment lies within a part, so the dots that part a key are in none of its segments. -/
theorem sublist_of_mem_segments {segment : List Char} (member : segment ∈ segments left) :
    ∃ part ∈ split '.' left, segment.Sublist part := by
  rcases segments_cases left with ⟨flag, specification, name, parts, read⟩ | ⟨-, read⟩
  · rw [read] at member
    rw [parts]
    simp only [List.mem_cons, List.not_mem_nil, or_false] at member
    rcases member with rfl | rfl | rfl
    · exact ⟨_, List.mem_cons_self, List.Sublist.refl _⟩
    · exact ⟨_, List.mem_cons_of_mem _ List.mem_cons_self, List.Sublist.refl _⟩
    · exact ⟨name, by simp, trim_sublist name⟩
  · rw [read] at member
    exact ⟨segment, member, List.Sublist.refl _⟩

theorem isKeyOf_segments (unequal : '=' ∉ left) : IsKeyOf left ((segments left).map String.ofList) where
  nonempty := by simpa using segments_ne_nil left
  plain := by
    simp only [List.forall_mem_map, String.toList_ofList]
    intro segment member
    obtain ⟨part, present, within⟩ := sublist_of_mem_segments member
    refine ⟨fun dot => not_mem_of_mem_split present (within.subset dot), fun equal => ?_⟩
    exact unequal (mem_of_mem_split present (within.subset equal))
  length := by rw [List.length_map, length_segments]
  joined := by
    intro other
    rw [List.length_map, length_segments, ← length_split] at other
    rcases segments_cases left with ⟨flag, specification, name, parts, -⟩ | ⟨-, read⟩
    · rw [parts] at other
      exact absurd rfl other
    · simp [read, Function.comp_def, intercalate_split]
  parameter := by
    intro flag specification name key
    rcases segments_cases left with ⟨first, second, third, parts, read⟩ | ⟨other, read⟩
    · rw [read] at key
      simp only [List.map_cons, List.map_nil, List.cons.injEq, and_true] at key
      obtain ⟨rfl, rfl, rfl⟩ := key
      refine ⟨String.ofList third, by simp, ?_⟩
      have whole := intercalate_split '.' left
      rw [parts] at whole
      simpa using whole
    · rw [read] at key
      have three := congrArg List.length key
      rw [List.length_map] at three
      exact absurd three other

end Segments

section Spaced

variable {left value : List Char}

theorem ofChars_spaced (unequal : '=' ∉ left) (trimmed : trim left = left)
    (read : isSkipped left = false) (single : '=' ∉ value) (bare : trim value = value) :
    ofChars (left ++ [' ', '=', ' '] ++ value) =
      .assignment ((segments left).map String.ofList) (String.ofList value) := by
  have space : ∀ c ∈ [' '], isBlank c = true := by
    intro c member
    obtain rfl := List.mem_singleton.mp member
    decide
  have regrouped : left ++ [' ', '=', ' '] ++ value = left ++ [' '] ++ '=' :: ([' '] ++ value) := by simp
  rw [regrouped, ofChars_spaced_sign unequal space space, ofChars_append unequal, trimmed, bare, read,
    if_neg Bool.false_ne_true, if_neg single]

theorem segments_of_not_mem (undotted : '.' ∉ left) : segments left = [left] := by
  rw [segments, split_of_not_mem undotted]

theorem segments_parameter {flag specification name : List Char} (undotted : '.' ∉ flag)
    (plain : '.' ∉ specification) (bare : '.' ∉ name) :
    segments (flag ++ '.' :: (specification ++ '.' :: name)) = [flag, specification, trim name] := by
  rw [segments, split_append undotted, split_append plain, split_of_not_mem bare]

theorem trim_key (flag specification name : List Char) :
    trim (flag ++ '.' :: (specification ++ '.' :: name)) =
      trimLeft flag ++ '.' :: (specification ++ '.' :: trimRight name) := by
  have dot : isBlank '.' = false := by decide
  have regrouped : trimLeft flag ++ '.' :: (specification ++ '.' :: name) =
      (trimLeft flag ++ '.' :: specification) ++ '.' :: name := by simp
  rw [trim, trimLeft_append_cons dot, regrouped, trimRight_append_cons dot, List.append_assoc,
    List.cons_append]

/-- A parameter after its dots leaves a key trimmed, even if it is empty. -/
theorem trim_parameter {flag specification name : List Char} (trimmed : trim flag = flag)
    (bare : trim name = name) :
    trim (flag ++ '.' :: (specification ++ '.' :: name)) =
      flag ++ '.' :: (specification ++ '.' :: name) := by
  rw [trim_key, (trim_eq_self_iff_sides.mp trimmed).1, (trim_eq_self_iff_sides.mp bare).2]

end Spaced

section Written

variable {flag value : String}

theorem isSkipped_append (isFlag : IsFlag flag) (rest : List Char) :
    isSkipped (flag.toList ++ rest) = false := by
  have nonempty : flag.toList ≠ [] := by simpa using isFlag.nonempty
  rw [Bool.eq_false_iff, Ne, isSkipped_iff, List.head?_append_of_ne_nil _ nonempty]
  simp [nonempty, isFlag.uncommented]

theorem ofRow_declaration (isFlag : IsFlag flag) (single : '=' ∉ value.toList)
    (bare : trim value.toList = value.toList) :
    ofRow (flag ++ " = " ++ value) = .assignment [flag] value := by
  have read := isSkipped_append isFlag []
  rw [List.append_nil] at read
  have row : (flag ++ " = " ++ value).toList = flag.toList ++ [' ', '=', ' '] ++ value.toList := by
    simp
  rw [ofRow, row, ofChars_spaced isFlag.unequal isFlag.trimmed read single bare,
    segments_of_not_mem isFlag.undotted]
  simp

theorem ofRow_parameter {specification parameter : String} (isFlag : IsFlag flag)
    (isSpecification : IsSegment specification) (isParameter : IsSegment parameter)
    (trimmed : trim parameter.toList = parameter.toList) (single : '=' ∉ value.toList)
    (bare : trim value.toList = value.toList) :
    ofRow (flag ++ "." ++ specification ++ "." ++ parameter ++ " = " ++ value) =
      .assignment [flag, specification, parameter] value := by
  have row : (flag ++ "." ++ specification ++ "." ++ parameter ++ " = " ++ value).toList =
      (flag.toList ++ '.' :: (specification.toList ++ '.' :: parameter.toList)) ++ [' ', '=', ' '] ++
        value.toList := by
    simp
  have unequal : '=' ∉ flag.toList ++ '.' :: (specification.toList ++ '.' :: parameter.toList) := by
    simp [isFlag.unequal, isSpecification.unequal, isParameter.unequal]
  rw [ofRow, row, ofChars_spaced unequal (trim_parameter isFlag.trimmed trimmed)
    (isSkipped_append isFlag _) single bare,
    segments_parameter isFlag.undotted isSpecification.undotted isParameter.undotted, trimmed]
  simp

end Written

/-- Rows are told apart by what stands left of the first equal sign and by the number of equal signs;
    flags, specifications, parameters and values are read as they are written. -/
theorem ofRow_classified :
    (∀ row : String,
      (ofRow row = .ignored ↔ leftSide row.toList = [] ∨ (leftSide row.toList).head? = some '#') ∧
      (ofRow row ≠ .ignored →
        (ofRow row = .missingEqualSign ↔ '=' ∉ row.toList) ∧
        (ofRow row = .multipleEqualSigns ↔ 2 ≤ row.toList.count '=') ∧
        ((∃ key value, ofRow row = .assignment key value) ↔ row.toList.count '=' = 1)) ∧
      ∀ key value, ofRow row = .assignment key value →
        value.toList = rightSide row.toList ∧ IsKeyOf (leftSide row.toList) key) ∧
    ∀ flag value : String, IsFlag flag → '=' ∉ value.toList → trim value.toList = value.toList →
      ofRow (flag ++ " = " ++ value) = .assignment [flag] value ∧
      ∀ specification parameter : String, IsSegment specification → IsSegment parameter →
        trim parameter.toList = parameter.toList →
          ofRow (flag ++ "." ++ specification ++ "." ++ parameter ++ " = " ++ value) =
            .assignment [flag, specification, parameter] value := by
  constructor
  · intro row
    rw [← isSkipped_iff, ofRow, ofChars_eq]
    cases skipped : isSkipped (leftSide row.toList)
    · rw [if_neg Bool.false_ne_true, ← List.count_eq_zero]
      have key := isKeyOf_segments (not_mem_leftSide row.toList)
      match counted : row.toList.count '=' with
      | 0 => simp
      | 1 =>
        simp only [reduceCtorEq, Bool.false_eq_true, assignment.injEq, and_imp]
        refine ⟨trivial, ?_, ?_⟩
        · simp
        · rintro _ _ rfl rfl
          exact ⟨String.toList_ofList, key⟩
      | n + 2 => simp
    · simp
  · intro flag value isFlag single bare
    refine ⟨ofRow_declaration isFlag single bare, ?_⟩
    intro specification parameter isSpecification isParameter trimmed
    exact ofRow_parameter isFlag isSpecification isParameter trimmed single bare

theorem ofRow_classified_inner_blanks :
    ofRow ("f" ++ "." ++ " range " ++ "." ++ "Min" ++ " = " ++ "1") =
      .assignment ["f", " range ", "Min"] "1" := by
  have isFlag : IsFlag "f" := {
    undotted := by decide
    unequal := by decide
    nonempty := by decide
    trimmed := by decide +kernel
    uncommented := by decide }
  have isSpecification : IsSegment " range " := ⟨by decide, by decide⟩
  have isParameter : IsSegment "Min" := ⟨by decide, by decide⟩
  obtain ⟨-, written⟩ := ofRow_classified.2 "f" "1" isFlag (by decide) (by decide +kernel)
  exact written " range " "Min" isSpecification isParameter (by decide +kernel)

example : ofRow "f. range . Min =1 " = .assignment ["f", " range ", "Min"] "1" := by decide +kernel

end FeatureFlags.Line
