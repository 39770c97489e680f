import FeatureFlags.Parameters

namespace FeatureFlags

/-- What is wrong with a row of a document. Names are given as the row writes them. -/
inductive Fault where
  | missingEqualSign
  | multipleEqualSigns
  | unknownSpecification (name : String)
  | wrongParameterUsage
  | parameterDeclaredTwice (parameter : String)
  | undeclaredSpecification (feature : String)
deriving DecidableEq, Repr

namespace Fault

def subject? : Fault → Option String
  | unknownSpecification name => some name
  | parameterDeclaredTwice parameter => some parameter
  | undeclaredSpecification feature => some feature
  | missingEqualSign | multipleEqualSigns | wrongParameterUsage => none

def message (fault : Fault) (line : Nat) : String :=
  let place := " at line " ++ toString line ++ "."
  match fault with
  | missingEqualSign => "Missing equal sign" ++ place
  | multipleEqualSigns => "More than one equal sign" ++ place
  | unknownSpecification name => "Unknown specification '" ++ name ++ "'" ++ place
  | wrongParameterUsage =>
    "Wrong parameter usage" ++ place ++
      " Use format [feature].[specification].[parametername] = [parametervalue]."
  | parameterDeclaredTwice parameter => "Parameter '" ++ parameter ++ "' declared twice" ++ place
  | undeclaredSpecification feature =>
    "Declare specification for feature '" ++ feature ++ "' before setting parameter" ++ place

end Fault

/-- Why a document is refused: a row at fault, counted from one, or a specification whose
    parameters do not suit it. -/
inductive Problem where
  | atLine (line : Nat) (fault : Fault)
  | invalidParameter (cause : InvalidParameter)
deriving DecidableEq, Repr

namespace Problem

def line? : Problem → Option Nat
  | atLine line _ => some line
  | invalidParameter _ => none

def subject? : Problem → Option String
  | atLine _ fault => fault.subject?
  | invalidParameter cause => some cause.feature

def message : Problem → String
  | atLine line fault => fault.message line
  | invalidParameter cause => cause.message

/-- The faults of consecutive rows, numbered from `line`. -/
def ofFaults (line : Nat) : List (Option Fault) → List Problem
  | [] => []
  | none :: rest => ofFaults (line + 1) rest
  | some fault :: rest => atLine line fault :: ofFaults (line + 1) rest

end Problem

/-- The problems of a refused document; there is at least one. -/
structure Problems where
  first : Problem
  others : List Problem
deriving DecidableEq, Repr

namespace Problems

def ofList? : List Problem → Option Problems
  | [] => none
  | first :: others => some ⟨first, others⟩

def toList (problems : Problems) : List Problem := problems.first :: problems.others

def size (problems : Problems) : Nat := problems.toList.length

def message (problems : Problems) : String :=
  "\n".intercalate (problems.toList.map Problem.message)

end Problems

end FeatureFlags
