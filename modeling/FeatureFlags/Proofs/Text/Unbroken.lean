import FeatureFlags.Document.Source
import FeatureFlags.Proofs.Text.Split

namespace FeatureFlags.Text

def Unbroken (text : String) : Prop := '\n' ∉ text.toList

instance (text : String) : Decidable (Unbroken text) := inferInstanceAs (Decidable ('\n' ∉ text.toList))

variable {left right text part : String}

theorem Unbroken.append (first : Unbroken left) (second : Unbroken right) : Unbroken (left ++ right) := by
  rw [Unbroken, String.toList_append, List.mem_append, not_or]
  exact ⟨first, second⟩

theorem Unbroken.of_subset (unbroken : Unbroken text) (within : part.toList ⊆ text.toList) : Unbroken part :=
  fun present => unbroken (within present)

theorem unbroken_toString (number : Nat) : Unbroken (toString number) := by
  intro present
  rw [Nat.toString_eq_ofList_toDigits, String.toList_ofList] at present
  exact absurd (Nat.isDigit_of_mem_toDigits (by decide) (by decide) present) (by decide)

theorem unbroken_intercalate {between : String} (joint : Unbroken between) {parts : List String}
    (unbroken : ∀ part ∈ parts, Unbroken part) : Unbroken (between.intercalate parts) := by
  induction parts with
  | nil => simp [Unbroken]
  | cons first others ih =>
    obtain ⟨here, later⟩ := List.forall_mem_cons.mp unbroken
    cases others with
    | nil => simpa using here
    | cons second rest =>
      rw [String.intercalate_cons_cons]
      exact (here.append joint).append (ih later)

theorem split_intercalate {lines : List String} (nonempty : lines ≠ [])
    (unbroken : ∀ line ∈ lines, Unbroken line) :
    (split '\n' ("\n".intercalate lines).toList).map String.ofList = lines := by
  have free : ∀ line ∈ lines.map String.toList, '\n' ∉ line := List.forall_mem_map.mpr unbroken
  have lists : lines.map String.toList ≠ [] := mt List.map_eq_nil_iff.mp nonempty
  have parted : split '\n' ("\n".intercalate lines).toList = lines.map String.toList := by
    rw [split_eq_splitOn, String.toList_intercalate]
    exact List.splitOn_intercalate '\n' free lists
  rw [parted, List.map_map]
  simp [Function.comp_def]

theorem dropCarriageReturn_subset (row : List Char) : dropCarriageReturn row ⊆ row := by
  unfold dropCarriageReturn
  split
  · exact List.dropLast_subset row
  · exact List.Subset.refl row

theorem exists_piece_of_mem_rowsOfPieces {row : List Char} {pieces : List (List Char)}
    (member : row ∈ rowsOfPieces pieces) : ∃ piece ∈ pieces, row ⊆ piece := by
  induction pieces with
  | nil => exact absurd member List.not_mem_nil
  | cons piece later ih =>
    cases later with
    | nil =>
      rw [rowsOfPieces] at member
      split at member
      · exact absurd member List.not_mem_nil
      · obtain rfl := List.mem_singleton.mp member
        exact ⟨row, List.mem_cons_self, List.Subset.refl row⟩
    | cons next pieces =>
      rcases List.mem_cons.mp member with rfl | later
      · exact ⟨piece, List.mem_cons_self, dropCarriageReturn_subset piece⟩
      · obtain ⟨other, present, within⟩ := ih later
        exact ⟨other, List.mem_cons_of_mem _ present, within⟩

theorem unbroken_of_mem_rowsOfText {row : String} (member : row ∈ rowsOfText text) : Unbroken row := by
  obtain ⟨chars, listed, rfl⟩ := List.mem_map.mp member
  obtain ⟨piece, present, within⟩ := exists_piece_of_mem_rowsOfPieces listed
  intro broken
  rw [String.toList_ofList] at broken
  exact not_mem_of_mem_split present (within broken)

end FeatureFlags.Text
