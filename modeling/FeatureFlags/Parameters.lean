import FeatureFlags.Name.Table

namespace FeatureFlags

/-- A parameter that has a value already, as it was named this time. -/
structure DuplicateParameter where
  parameter : String
deriving DecidableEq, Repr

def DuplicateParameter.message (duplicate : DuplicateParameter) : String :=
  "parameter '" ++ duplicate.parameter ++ "' is already set"

inductive InvalidReason where
  | missing (parameter : String)
  | malformed (parameter raw : String)
  | other (text : String)
deriving DecidableEq, Repr

def InvalidReason.text : InvalidReason → String
  | missing parameter => "Missing parameter '" ++ parameter ++ "'."
  | malformed parameter raw => "Parameter '" ++ parameter ++ "' has invalid value '" ++ raw ++ "'."
  | other text => text

structure InvalidParameter where
  feature : String
  reason : InvalidReason
deriving DecidableEq, Repr

def InvalidParameter.message (invalid : InvalidParameter) : String :=
  "Invalid specification parameter for feature '" ++ invalid.feature ++ "'. " ++
    invalid.reason.text

/-- Raw values under names. A name is given a value once and keeps it. -/
structure Parameters where
  values : NameTable String := {}
deriving DecidableEq, Repr

namespace Parameters

def size (parameters : Parameters) : Nat := parameters.values.size

def isEmpty (parameters : Parameters) : Bool := parameters.values.isEmpty

def get? (parameters : Parameters) (name : String) : Option String := parameters.values.find? name

def insert (parameters : Parameters) (name value : String) :
    Except DuplicateParameter Parameters :=
  if parameters.values.contains name then .error ⟨name⟩
  else .ok ⟨parameters.values.insert name value⟩

/-- Takes in the values of a list under its names; a name that has a value keeps it. -/
def insertAll (parameters : Parameters) (pairs : List (String × String)) : Parameters :=
  pairs.foldl (fun parameters pair => (parameters.insert pair.1 pair.2).toOption.getD parameters)
    parameters

def ofList (pairs : List (String × String)) : Parameters := insertAll {} pairs

variable {ε α : Type}

def read? (parameters : Parameters) (reader : String → Except ε α) (name : String) :
    Option (Except ε α) :=
  (parameters.get? name).map reader

def require (parameters : Parameters) (feature name : String) : Except InvalidParameter String :=
  match parameters.get? name with
  | none => .error ⟨feature, .missing name⟩
  | some raw => .ok raw

def requireRead (parameters : Parameters) (reader : String → Except ε α) (feature name : String) :
    Except InvalidParameter α :=
  match parameters.require feature name with
  | .error invalid => .error invalid
  | .ok raw =>
    match reader raw with
    | .error _ => .error ⟨feature, .malformed name raw⟩
    | .ok value => .ok value

end Parameters

end FeatureFlags
