import FeatureFlags.Document
import FeatureFlags.Text.Rows

namespace FeatureFlags

inductive ReadFailure where
  | notFound
  | invalidData
deriving DecidableEq, Repr

/-- Where the rows of a document come from. A file is given by its bytes, if it is there. -/
inductive Source where
  | rows (rows : List String)
  | text (text : String)
  | file (bytes? : Option ByteArray)

def rowsOfText (text : String) : List String := (Text.rows text.toList).map String.ofList

def Source.read : Source → Except ReadFailure (List String)
  | .rows lines => .ok lines
  | .text content => .ok (rowsOfText content)
  | .file none => .error .notFound
  | .file (some bytes) =>
    match String.fromUTF8? bytes with
    | none => .error .invalidData
    | some content => .ok (rowsOfText content)

inductive LoadError where
  | config (problems : Problems)
  | unreadable (failure : ReadFailure)
deriving DecidableEq, Repr

def load {σ : Type} [Criterion σ] (registry : Registry σ) (source : Source) :
    Except LoadError (Catalog σ) :=
  match source.read with
  | .error failure => .error (.unreadable failure)
  | .ok rows => (parse registry rows).mapError .config

end FeatureFlags
