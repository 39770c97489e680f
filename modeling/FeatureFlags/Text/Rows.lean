import FeatureFlags.Text.Split

namespace FeatureFlags.Text

def dropCarriageReturn (row : List Char) : List Char :=
  if row.getLast? = some '\r' then row.dropLast else row

/-- Every piece but the last ended at a line feed, and a carriage return right before that belongs
    to the line end; the last one is a row only if there is something in it. -/
def rowsOfPieces : List (List Char) → List (List Char)
  | [] => []
  | [last] => if last.isEmpty then [] else [last]
  | piece :: next :: pieces => dropCarriageReturn piece :: rowsOfPieces (next :: pieces)

def rows (text : List Char) : List (List Char) := rowsOfPieces (split '\n' text)

end FeatureFlags.Text
