import FeatureFlags.Criterion.Stored
import FeatureFlags.Value

namespace FeatureFlags

/-- Rules over named parameters. `range` and `namedRange` vote alike, for `Min ≤ Max`, and differ in
    how they report: the first fault, or all faults under a name. -/
inductive Rule where
  | range
  | namedRange
  | equals (parameter value : String)
  | typed (fields : List (String × ValueType))
deriving DecidableEq, Repr

namespace Rule

def boundType : IntegerType := ⟨true, 64⟩

def ordered (parameters : Parameters) : Bool :=
  match parameters.read? boundType.read "Min", parameters.read? boundType.read "Max" with
  | some (.ok least), some (.ok greatest) => decide (least ≤ greatest)
  | _, _ => false

def wellTyped (parameters : Parameters) (field : String × ValueType) : Bool :=
  match parameters.read? field.2.read field.1 with
  | some (.ok _) => true
  | _ => false

def holds (rule : Rule) (parameters : Parameters) : Bool :=
  match rule with
  | range | namedRange => ordered parameters
  | equals parameter value => parameters.get? parameter == some value
  | typed fields => fields.all (wellTyped parameters)

/-- The first field that is missing or malformed. -/
def checkFields (parameters : Parameters) (feature : String) :
    List (String × ValueType) → Except InvalidParameter Unit
  | [] => .ok ()
  | (name, type) :: rest =>
    match parameters.requireRead type.read feature name with
    | .error invalid => .error invalid
    | .ok _ => checkFields parameters feature rest

def boundFault? (parameters : Parameters) (name : String) : Option String :=
  match parameters.read? boundType.read name with
  | none => some ("'" ++ name ++ "' is required")
  | some (.error _) => some ("'" ++ name ++ "' must be an integer")
  | some (.ok _) => none

def checkNamedRange (parameters : Parameters) (feature : String) : Except InvalidParameter Unit :=
  match ["Min", "Max"].filterMap (boundFault? parameters) with
  | [] => .ok ()
  | faults => .error ⟨feature, .other ("myspec: " ++ ", ".intercalate faults ++ ".")⟩

def check (rule : Rule) (parameters : Parameters) (feature : String) :
    Except InvalidParameter Unit :=
  match rule with
  | range =>
    checkFields parameters feature [("Min", .integer boundType), ("Max", .integer boundType)]
  | namedRange => checkNamedRange parameters feature
  | equals parameter _ => (parameters.require feature parameter).map fun _ => ()
  | typed fields => checkFields parameters feature fields

instance : ParameterRule Rule where
  holds := holds
  check := check

end Rule

end FeatureFlags
