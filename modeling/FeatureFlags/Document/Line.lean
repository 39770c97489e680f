import FeatureFlags.Text.Blank
import FeatureFlags.Text.Split

namespace FeatureFlags

/-- What one row of a document says. -/
inductive Line where
  | ignored
  | missingEqualSign
  | multipleEqualSigns
  | assignment (key : List String) (value : String)
deriving DecidableEq, Repr

namespace Line

open Text

/-- Nothing is left of the equal sign, or a comment starts there. -/
def isSkipped : List Char → Bool
  | [] => true
  | c :: _ => c == '#'

/-- The segments of a key. The third of three names a parameter and is trimmed. -/
def segments (key : List Char) : List (List Char) :=
  match split '.' key with
  | [flag, specification, parameter] => [flag, specification, trim parameter]
  | parts => parts

def ofChars (row : List Char) : Line :=
  let sides := split '=' row
  let left := trim (sides.headD [])
  if isSkipped left then .ignored
  else
    match sides.tail with
    | [] => .missingEqualSign
    | [right] => .assignment ((segments left).map String.ofList) (String.ofList (trim right))
    | _ => .multipleEqualSigns

def ofRow (row : String) : Line := ofChars row.toList

end Line

end FeatureFlags
