import FeatureFlags.Proofs.Document.Source
import Mathlib.Data.List.Forall2
import Mathlib.Logic.Relation

namespace FeatureFlags

open Text

namespace Line

section Parameter

variable {flag specification name : List Char}

theorem isSkipped_append_cons (left : List Char) (c : Char) (rest : List Char) :
    isSkipped (left ++ c :: rest) = isSkipped (left ++ [c]) := by
  cases left <;> rfl

theorem ofChars_parameter (undotted : '.' ∉ flag ∧ '.' ∉ specification ∧ '.' ∉ name)
    (unequal : '=' ∉ flag ∧ '=' ∉ specification ∧ '=' ∉ name) (value : List Char) :
    ofChars (flag ++ '.' :: (specification ++ '.' :: name) ++ '=' :: value) =
      if isSkipped (trimLeft flag ++ ['.']) then .ignored
      else if '=' ∈ value then .multipleEqualSigns
      else .assignment [String.ofList (trimLeft flag), String.ofList specification, String.ofList (trim name)]
        (String.ofList (trim value)) := by
  have free : '=' ∉ flag ++ '.' :: (specification ++ '.' :: name) := by simp [unequal]
  have front : '.' ∉ trimLeft flag := fun dot => undotted.1 ((List.dropWhile_sublist _).subset dot)
  have back : '.' ∉ trimRight name := fun dot => undotted.2.2 ((trimRight_sublist name).subset dot)
  rw [ofChars_append free, trim_key, isSkipped_append_cons, segments_parameter front undotted.2.1 back,
    trim_trimRight]
  rfl

end Parameter

/-- White space put into a row where it does not count: at its ends, around the first equal sign, and around
    the last of three segments of a key. -/
inductive Padding : String → String → Prop where
  | ends {before after : String} (blankBefore : ∀ c ∈ before.toList, isBlank c = true)
    (blankAfter : ∀ c ∈ after.toList, isBlank c = true) (row : String) : Padding row (before ++ row ++ after)
  | sign {left before after : String} (first : '=' ∉ left.toList)
    (blankBefore : ∀ c ∈ before.toList, isBlank c = true) (blankAfter : ∀ c ∈ after.toList, isBlank c = true)
    (right : String) : Padding (left ++ "=" ++ right) (left ++ before ++ "=" ++ after ++ right)
  | parameter {flag specification name before after : String} (isFlag : IsSegment flag)
    (isSpecification : IsSegment specification) (isName : IsSegment name)
    (blankBefore : ∀ c ∈ before.toList, isBlank c = true) (blankAfter : ∀ c ∈ after.toList, isBlank c = true)
    (value : String) :
    Padding (flag ++ "." ++ specification ++ "." ++ name ++ "=" ++ value)
      (flag ++ "." ++ specification ++ "." ++ before ++ name ++ after ++ "=" ++ value)

theorem Padding.ofRow_eq {row padded : String} (padding : Padding row padded) : ofRow row = ofRow padded := by
  cases padding with
  | ends blankBefore blankAfter =>
    rw [ofRow, ofRow, String.toList_append, String.toList_append, ofChars_append_blank blankAfter,
      ofChars_blank_append blankBefore]
  | @sign left before after first blankBefore blankAfter right =>
    have spaced := ofChars_spaced_sign first blankBefore blankAfter right.toList
    simpa [ofRow] using spaced.symm
  | @parameter flag specification name before after isFlag isSpecification isName blankBefore blankAfter value =>
    have dot : isBlank '.' = false := by decide
    have equalSign : isBlank '=' = false := by decide
    have undotted : '.' ∉ before.toList ++ name.toList ++ after.toList := by
      simp [isName.undotted, not_mem_of_blank dot blankBefore, not_mem_of_blank dot blankAfter]
    have unequal : '=' ∉ before.toList ++ name.toList ++ after.toList := by
      simp [isName.unequal, not_mem_of_blank equalSign blankBefore, not_mem_of_blank equalSign blankAfter]
    have plain := ofChars_parameter ⟨isFlag.undotted, isSpecification.undotted, isName.undotted⟩
      ⟨isFlag.unequal, isSpecification.unequal, isName.unequal⟩ value.toList
    have spaced := ofChars_parameter ⟨isFlag.undotted, isSpecification.undotted, undotted⟩
      ⟨isFlag.unequal, isSpecification.unequal, unequal⟩ value.toList
    rw [trim_append_blank blankAfter, trim_blank_append blankBefore, ← plain] at spaced
    simpa [ofRow] using spaced.symm

theorem ofRow_eq_of_respaced {row other : String} (respaced : Relation.EqvGen Padding row other) :
    ofRow row = ofRow other := by
  induction respaced with
  | rel row padded padding => exact padding.ofRow_eq
  | refl row => rfl
  | symm row other _ ih => exact ih.symm
  | trans row middle other _ _ first second => exact first.trans second

end Line

/-- Documents that differ in white space only, and in each row only where it does not count, are accepted with
    one catalog or refused for the same problems at the same lines. -/
theorem parse_respaced {σ : Type} [Criterion σ] (registry : Registry σ) (rows other : List String)
    (respaced : List.Forall₂ (Relation.EqvGen Line.Padding) rows other) :
    parse registry rows = parse registry other := by
  apply parse_congr
  induction respaced with
  | nil => rfl
  | cons here _ ih => rw [List.map_cons, List.map_cons, Line.ofRow_eq_of_respaced here, ih]

theorem parse_respaced_mixed :
    parse .ranged [" # a = b\t", "f\u00a0=\u3000range", " f.range.\tMin =1 ", "a =\u2003b=c", " = y"] =
      .error ⟨.atLine 4 .multipleEqualSigns, [.invalidParameter ⟨"f", .missing "Max"⟩]⟩ := by
  have space : ∀ c ∈ " ".toList, isBlank c = true := List.all_eq_true.mp (by decide)
  have tab : ∀ c ∈ "\t".toList, isBlank c = true := List.all_eq_true.mp (by decide)
  have noBreak : ∀ c ∈ "\u00a0".toList, isBlank c = true := List.all_eq_true.mp (by decide)
  have em : ∀ c ∈ "\u2003".toList, isBlank c = true := List.all_eq_true.mp (by decide)
  have ideographic : ∀ c ∈ "\u3000".toList, isBlank c = true := List.all_eq_true.mp (by decide)
  have comment : Relation.EqvGen Line.Padding "# a=b" " # a = b\t" :=
    .trans _ "# a = b" _ (.rel _ _ (@Line.Padding.sign "# a" " " " " (by decide) space space "b"))
      (.rel _ _ (@Line.Padding.ends " " "\t" space tab "# a = b"))
  have declaration : Relation.EqvGen Line.Padding "f=range" "f\u00a0=\u3000range" :=
    .rel _ _ (@Line.Padding.sign "f" "\u00a0" "\u3000" (by decide) noBreak ideographic "range")
  have parameter : Relation.EqvGen Line.Padding "f.range.Min=1" " f.range.\tMin =1 " :=
    .trans _ "f.range.\tMin =1" _
      (.rel _ _ (@Line.Padding.parameter "f" "range" "Min" "\t" " " ⟨by decide, by decide⟩
        ⟨by decide, by decide⟩ ⟨by decide, by decide⟩ tab space "1"))
      (.rel _ _ (@Line.Padding.ends " " " " space space "f.range.\tMin =1"))
  have several : Relation.EqvGen Line.Padding "a=b=c" "a =\u2003b=c" :=
    .rel _ _ (@Line.Padding.sign "a" " " "\u2003" (by decide) space em "b=c")
  have orphan : Relation.EqvGen Line.Padding "=y" " = y" :=
    .rel _ _ (@Line.Padding.sign "" " " " " (by decide) space space "y")
  rw [← parse_respaced .ranged _ _
    (.cons comment (.cons declaration (.cons parameter (.cons several (.cons orphan .nil)))))]
  decide +kernel

end FeatureFlags
