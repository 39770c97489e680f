import FeatureFlags.Specification

namespace FeatureFlags

/-- A specification on a feature, under the name it was declared by. `assigned` holds the keys of
    the parameters it has accepted. -/
structure Attached (σ : Type) where
  name : String
  specification : Specification σ
  assigned : List String := []
deriving DecidableEq, Repr

inductive AssignError where
  | undeclaredSpecification (specification : String)
  | duplicate (cause : DuplicateParameter)
deriving DecidableEq, Repr

def AssignError.message : AssignError → String
  | undeclaredSpecification specification =>
    "specification '" ++ specification ++ "' is not declared on this feature"
  | duplicate cause => cause.message

namespace Attached

variable {σ : Type}

def goesBy (attached : Attached σ) (name : String) : Bool := sameName attached.name name

variable [Criterion σ]

/-- A parameter that was accepted before is refused without asking the specification. -/
def assign (attached : Attached σ) (name value : String) :
    Except DuplicateParameter Unit × Attached σ :=
  if nameKey name ∈ attached.assigned then (.error ⟨name⟩, attached)
  else
    let answer := attached.specification.assign name value
    match answer.1 with
    | .error duplicate => (.error duplicate, { attached with specification := answer.2 })
    | .ok () =>
      (.ok (), { attached with
        specification := answer.2
        assigned := attached.assigned ++ [nameKey name] })

/-- Assigns to the last specification of that name, if there is one. -/
def assignLast (specification name value : String) :
    List (Attached σ) → Option (Except DuplicateParameter Unit × List (Attached σ))
  | [] => none
  | attached :: rest =>
    match assignLast specification name value rest with
    | some (result, rest) => some (result, attached :: rest)
    | none =>
      if attached.goesBy specification then
        let answer := attached.assign name value
        some (answer.1, answer.2 :: rest)
      else none

end Attached

/-- A flag and the specifications that decide it, in the order in which they were attached. -/
structure Feature (σ : Type) where
  name : String
  attached : List (Attached σ) := []
deriving DecidableEq, Repr

namespace Feature

variable {σ : Type}

def size (feature : Feature σ) : Nat := feature.attached.length

def isEmpty (feature : Feature σ) : Bool := feature.attached.isEmpty

def attachedNames (feature : Feature σ) : List String := feature.attached.map (·.name)

def attach (feature : Feature σ) (name : String) (specification : Specification σ) : Feature σ :=
  { feature with attached := feature.attached ++ [{ name, specification }] }

def print (feature : Feature σ) : String :=
  feature.name ++ " = [" ++ ", ".intercalate feature.attachedNames ++ "]"

variable [Criterion σ]

def assign (feature : Feature σ) (specification name value : String) :
    Except AssignError Unit × Feature σ :=
  match Attached.assignLast specification name value feature.attached with
  | none => (.error (.undeclaredSpecification specification), feature)
  | some (result, attached) => (result.mapError .duplicate, { feature with attached })

def failures (feature : Feature σ) : List InvalidParameter :=
  feature.attached.filterMap fun attached =>
    match attached.specification.check feature.name with
    | .error invalid => some invalid
    | .ok () => none

def votes (feature : Feature σ) : List (String × Bool) :=
  feature.attached.map fun attached => (attached.name, attached.specification.vote)

/-- Enabled by at least one vote and no vote against. -/
def isEnabled (feature : Feature σ) : Bool :=
  !feature.attached.isEmpty && feature.attached.all (·.specification.vote)

end Feature

end FeatureFlags
