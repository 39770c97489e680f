import FeatureFlags.Document.Line
import FeatureFlags.Document.Problem
import FeatureFlags.Feature
import FeatureFlags.Registry

namespace FeatureFlags

/-- The features that the rows read so far have declared. -/
structure Draft (σ : Type) where
  features : NameTable (Feature σ) := {}
deriving DecidableEq, Repr

namespace Draft

variable {σ : Type}

/-- The flag keeps the spelling of its first declaration. -/
def attach (draft : Draft σ) (flag name : String) (specification : Specification σ) : Draft σ :=
  let feature := (draft.features.find? flag).getD { name := flag }
  ⟨draft.features.insert flag (feature.attach name specification)⟩

def declare (registry : Registry σ) (draft : Draft σ) (flag name : String) :
    Option Fault × Draft σ :=
  match registry.find? name with
  | none => (some (.unknownSpecification name), draft)
  | some specification => (none, draft.attach flag name specification)

variable [Criterion σ]

def assign (draft : Draft σ) (flag specification parameter value : String) :
    Option Fault × Draft σ :=
  match draft.features.find? flag with
  | none => (some (.undeclaredSpecification flag), draft)
  | some feature =>
    let answer := feature.assign specification parameter value
    let fault := match answer.1 with
      | .ok () => none
      | .error (.undeclaredSpecification _) => some (.undeclaredSpecification flag)
      | .error (.duplicate _) => some (.parameterDeclaredTwice parameter)
    (fault, ⟨draft.features.insert flag answer.2⟩)

/-- Takes in one line: a key of one segment declares, one of three assigns. -/
def read (registry : Registry σ) (draft : Draft σ) : Line → Option Fault × Draft σ
  | .ignored => (none, draft)
  | .missingEqualSign => (some .missingEqualSign, draft)
  | .multipleEqualSigns => (some .multipleEqualSigns, draft)
  | .assignment [flag] value => draft.declare registry flag value
  | .assignment [flag, specification, parameter] value =>
    draft.assign flag specification parameter value
  | .assignment _ _ => (some .wrongParameterUsage, draft)

def scan (registry : Registry σ) : Draft σ → List Line → List (Option Fault) × Draft σ
  | draft, [] => ([], draft)
  | draft, line :: lines =>
    let step := draft.read registry line
    let later := scan registry step.2 lines
    (step.1 :: later.1, later.2)

def failures (draft : Draft σ) : List InvalidParameter :=
  draft.features.values.flatMap Feature.failures

end Draft

end FeatureFlags
