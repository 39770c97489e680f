import FeatureFlags.Proofs.Text.Split
import FeatureFlags.Text.Blank
import FeatureFlags.Text.Rows
import Mathlib.Data.List.Basic

namespace FeatureFlags.Text

inductive RowEnd where
  | lineFeed
  | carriageReturnLineFeed
deriving DecidableEq, Repr

namespace RowEnd

def text : RowEnd → String
  | lineFeed => "\n"
  | carriageReturnLineFeed => "\r\n"

/-- What is read of a row that ends so. A line feed takes a carriage return of the row with it. -/
def readBack (row : List Char) : RowEnd → List Char
  | lineFeed => dropCarriageReturn row
  | carriageReturnLineFeed => row

end RowEnd

variable {row : List Char}

theorem dropCarriageReturn_append (row : List Char) : dropCarriageReturn (row ++ ['\r']) = row := by
  simp [dropCarriageReturn]

theorem dropCarriageReturn_of_ne (other : row.getLast? ≠ some '\r') : dropCarriageReturn row = row := by
  rw [dropCarriageReturn, if_neg other]

theorem readBack_append (row : List Char) (ending : RowEnd) :
    ∃ pad, (∀ c ∈ pad, isBlank c = true) ∧ ending.readBack row ++ pad = row := by
  cases ending with
  | carriageReturnLineFeed => exact ⟨[], by simp, List.append_nil _⟩
  | lineFeed =>
    rw [RowEnd.readBack, dropCarriageReturn]
    split
    · rename_i last
      refine ⟨['\r'], fun c member => ?_, List.dropLast_append_getLast? '\r' last⟩
      obtain rfl := List.mem_singleton.mp member
      decide
    · exact ⟨[], by simp, List.append_nil _⟩

theorem readBack_of_ne (other : row.getLast? ≠ some '\r') (ending : RowEnd) :
    ending.readBack row = row := by
  cases ending with
  | carriageReturnLineFeed => rfl
  | lineFeed => exact dropCarriageReturn_of_ne other

theorem rows_append_lineFeed (single : '\n' ∉ row) (rest : List Char) :
    rows (row ++ '\n' :: rest) = dropCarriageReturn row :: rows rest := by
  obtain ⟨piece, pieces, parts⟩ := List.exists_cons_of_ne_nil (split_ne_nil '\n' rest)
  rw [rows, rows, split_append single, parts, rowsOfPieces]

theorem rows_append_rowEnd (single : '\n' ∉ row) (ending : RowEnd) (rest : List Char) :
    rows (row ++ ending.text.toList ++ rest) = ending.readBack row :: rows rest := by
  cases ending with
  | lineFeed =>
    have regrouped : row ++ RowEnd.lineFeed.text.toList ++ rest = row ++ '\n' :: rest := by
      simp [RowEnd.text]
    rw [regrouped, rows_append_lineFeed single, RowEnd.readBack]
  | carriageReturnLineFeed =>
    have regrouped : row ++ RowEnd.carriageReturnLineFeed.text.toList ++ rest =
        (row ++ ['\r']) ++ '\n' :: rest := by
      simp [RowEnd.text]
    have extended : '\n' ∉ row ++ ['\r'] := by simp [single]
    rw [regrouped, rows_append_lineFeed extended, dropCarriageReturn_append, RowEnd.readBack]

theorem rows_of_not_mem (single : '\n' ∉ row) : rows row = if row.isEmpty then [] else [row] := by
  rw [rows, split_of_not_mem single, rowsOfPieces]

end FeatureFlags.Text
