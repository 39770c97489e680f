import FeatureFlags.Document.Line
import FeatureFlags.Document.Problem
import FeatureFlags.Feature
import FeatureFlags.Name.Shelf
import FeatureFlags.Registry

namespace FeatureFlags.Shelf

variable {σ : Type}

/-! Documents are read onto a shelf here. A place that is not there would end the reading without a result. -/

/-- The flag keeps the spelling of its first declaration. -/
def declare (registry : Registry σ) (shelf : Shelf (Feature σ)) (flag name : String) :
    Option (Option Fault × Shelf (Feature σ)) :=
  match registry.find? name with
  | none => some (some (.unknownSpecification name), shelf)
  | some specification =>
    let entry := shelf.entry flag { name := flag }
    entry.2.update? entry.1 fun feature => (none, feature.attach name specification)

variable [Criterion σ]

def assign (shelf : Shelf (Feature σ)) (flag specification parameter value : String) :
    Option (Option Fault × Shelf (Feature σ)) :=
  match shelf.position? flag with
  | none => some (some (.undeclaredSpecification flag), shelf)
  | some place =>
    shelf.update? place fun feature =>
      let answer := feature.assign specification parameter value
      let fault := match answer.1 with
        | .ok () => none
        | .error (.undeclaredSpecification _) => some (.undeclaredSpecification flag)
        | .error (.duplicate _) => some (.parameterDeclaredTwice parameter)
      (fault, answer.2)

def read (registry : Registry σ) (shelf : Shelf (Feature σ)) :
    Line → Option (Option Fault × Shelf (Feature σ))
  | .ignored => some (none, shelf)
  | .missingEqualSign => some (some .missingEqualSign, shelf)
  | .multipleEqualSigns => some (some .multipleEqualSigns, shelf)
  | .assignment [flag] value => shelf.declare registry flag value
  | .assignment [flag, specification, parameter] value => shelf.assign flag specification parameter value
  | .assignment _ _ => some (some .wrongParameterUsage, shelf)

def scan (registry : Registry σ) :
    Shelf (Feature σ) → List Line → Option (List (Option Fault) × Shelf (Feature σ))
  | shelf, [] => some ([], shelf)
  | shelf, line :: lines =>
    match shelf.read registry line with
    | none => none
    | some (fault, next) => (scan registry next lines).map fun later => (fault :: later.1, later.2)

end FeatureFlags.Shelf
