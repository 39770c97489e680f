import FeatureFlags.Text.Blank
import Mathlib.Data.List.DropRight
import Mathlib.Data.List.TakeWhile

namespace FeatureFlags.Text

variable {text pad : List Char} {c : Char}

theorem not_mem_of_blank (bare : isBlank c = false) (blank : ∀ c ∈ pad, isBlank c = true) : c ∉ pad := by
  intro member
  rw [blank c member] at bare
  cases bare

theorem trimLeft_of_blank (blank : ∀ c ∈ pad, isBlank c = true) : trimLeft pad = [] :=
  List.dropWhile_eq_nil_iff.mpr blank

theorem trimRight_append_blank (blank : ∀ c ∈ pad, isBlank c = true) (text : List Char) :
    trimRight (text ++ pad) = trimRight text := by
  have reversed : ∀ c ∈ pad.reverse, isBlank c = true :=
    fun c member => blank c (List.mem_reverse.mp member)
  rw [trimRight, trimRight, List.reverse_append, List.dropWhile_append_of_pos reversed]

theorem trim_append_blank (blank : ∀ c ∈ pad, isBlank c = true) (text : List Char) :
    trim (text ++ pad) = trim text := by
  have front : trimLeft (text ++ pad) =
      if (trimLeft text).isEmpty then trimLeft pad else trimLeft text ++ pad := List.dropWhile_append
  rw [trim, trim, front]
  split
  · rename_i nothing
    rw [trimLeft_of_blank blank, List.isEmpty_iff.mp nothing]
  · exact trimRight_append_blank blank _

theorem trim_blank_append (blank : ∀ c ∈ pad, isBlank c = true) (text : List Char) :
    trim (pad ++ text) = trim text := by
  rw [trim, trim, trimLeft, List.dropWhile_append_of_pos blank]
  rfl

theorem trimLeft_append_cons (bare : isBlank c = false) (text rest : List Char) :
    trimLeft (text ++ c :: rest) = trimLeft text ++ c :: rest := by
  have stopped : trimLeft (c :: rest) = c :: rest := by rw [trimLeft_cons, bare, if_neg Bool.false_ne_true]
  rw [trimLeft, List.dropWhile_append]
  split
  · rename_i nothing
    rw [← trimLeft, stopped, trimLeft, List.isEmpty_iff.mp nothing, List.nil_append]
  · rfl

theorem trimRight_append_cons (bare : isBlank c = false) (text rest : List Char) :
    trimRight (text ++ c :: rest) = text ++ c :: trimRight rest := by
  have reversed : (text ++ c :: rest).reverse = rest.reverse ++ c :: text.reverse := by simp
  rw [trimRight, reversed, ← trimLeft, trimLeft_append_cons bare, trimLeft]
  simp [trimRight]

/-- What is dropped from the end would be dropped from there later. -/
theorem trim_trimRight (text : List Char) : trim (trimRight text) = trim text := by
  have parts : trimRight text ++ (text.reverse.takeWhile isBlank).reverse = text := by
    rw [trimRight, ← List.reverse_append, List.takeWhile_append_dropWhile, List.reverse_reverse]
  have blank : ∀ c ∈ (text.reverse.takeWhile isBlank).reverse, isBlank c = true :=
    fun c member => List.mem_takeWhile_imp (List.mem_reverse.mp member)
  rw [← trim_append_blank blank, parts]

theorem trimRight_sublist (text : List Char) : (trimRight text).Sublist text := by
  rw [trimRight, ← List.reverse_sublist, List.reverse_reverse]
  exact List.dropWhile_sublist _

theorem trim_sublist (text : List Char) : (trim text).Sublist text :=
  (trimRight_sublist _).trans (List.dropWhile_sublist _)

theorem mem_of_mem_trim (member : c ∈ trim text) : c ∈ text := (trim_sublist text).subset member

theorem trimLeft_eq_self_iff : trimLeft text = text ↔ ∀ c ∈ text.head?, isBlank c = false := by
  cases text with
  | nil => simp [trimLeft]
  | cons c rest =>
    cases blank : isBlank c
    · simp [trimLeft, blank]
    · have shorter : trimLeft rest ≠ c :: rest := by
        intro same
        have bound := (List.dropWhile_sublist isBlank (l := rest)).length_le
        rw [← trimLeft, same, List.length_cons] at bound
        omega
      simp [trimLeft_cons, blank, shorter]

theorem trimRight_eq_self_iff : trimRight text = text ↔ ∀ c ∈ text.getLast?, isBlank c = false := by
  rw [← List.head?_reverse, ← trimLeft_eq_self_iff, trimRight, ← trimLeft]
  exact List.reverse_eq_iff

theorem trim_eq_self_iff_sides : trim text = text ↔ trimLeft text = text ∧ trimRight text = text := by
  constructor
  · intro same
    have front : trimLeft text = text := by
      apply (List.dropWhile_sublist isBlank).eq_of_length_le
      have bound := (trimRight_sublist (trimLeft text)).length_le
      rw [← trim, same] at bound
      exact bound
    rw [trim, front] at same
    exact ⟨front, same⟩
  · rintro ⟨front, back⟩
    rw [trim, front, back]

def startsBlank (text : List Char) : Bool := text.head?.any isBlank

def endsBlank (text : List Char) : Bool := text.getLast?.any isBlank

theorem trim_eq_self_iff_ends :
    trim text = text ↔ startsBlank text = false ∧ endsBlank text = false := by
  rw [trim_eq_self_iff_sides, trimLeft_eq_self_iff, trimRight_eq_self_iff, startsBlank, endsBlank,
    Option.any_eq_false, Option.any_eq_false]
  rfl

theorem startsBlank_trimLeft (text : List Char) : startsBlank (trimLeft text) = false := by
  have stopped := List.head?_dropWhile_not isBlank text
  rw [startsBlank, trimLeft]
  split at stopped
  · rename_i first
    rw [first, Option.any_some, stopped]
  · rename_i nothing
    rw [nothing, Option.any_none]

theorem endsBlank_trimRight (text : List Char) : endsBlank (trimRight text) = false := by
  rw [endsBlank, trimRight, List.getLast?_reverse]
  exact startsBlank_trimLeft text.reverse

theorem startsBlank_of_start {text whole : List Char} (start : text <+: whole)
    (bare : startsBlank whole = false) : startsBlank text = false := by
  obtain ⟨rest, rfl⟩ := start
  cases text with
  | nil => rfl
  | cons c others => exact bare

theorem trim_trim (text : List Char) : trim (trim text) = trim text := by
  rw [trim_eq_self_iff_ends]
  exact ⟨startsBlank_of_start (List.rdropWhile_prefix isBlank _) (startsBlank_trimLeft text),
    endsBlank_trimRight _⟩

end FeatureFlags.Text
