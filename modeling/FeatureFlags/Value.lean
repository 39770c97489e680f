namespace FeatureFlags

/-- Integers of a number of bits, in two's complement where they have a sign. -/
structure IntegerType where
  signed : Bool
  bits : Nat
deriving DecidableEq, Repr

namespace IntegerType

/-- How many of its values are not negative. -/
def magnitude (type : IntegerType) : Nat :=
  Nat.pow 2 (if type.signed then type.bits - 1 else type.bits)

def least (type : IntegerType) : Int := if type.signed then -(type.magnitude : Int) else 0

def greatest (type : IntegerType) : Int := (type.magnitude : Int) - 1

end IntegerType

inductive ReadError where
  | noDigits
  | invalidDigit
  | tooLarge
  | tooSmall
  | notBoolean
  | noCharacter
  | manyCharacters
deriving DecidableEq, Repr

def ReadError.message : ReadError → String
  | noDigits => "cannot parse integer from empty string"
  | invalidDigit => "invalid digit found in string"
  | tooLarge => "number too large to fit in target type"
  | tooSmall => "number too small to fit in target type"
  | notBoolean => "provided string was not `true` or `false`"
  | noCharacter => "cannot parse char from empty string"
  | manyCharacters => "too many characters in string"

def digit? (c : Char) : Option Nat :=
  if c.isDigit then some (c.toNat - '0'.toNat) else none

namespace IntegerType

/-- Reads on from the value of the digits so far. A bad digit is found before the value it would
    have given is compared with the bounds. -/
def readDigits (type : IntegerType) (negative : Bool) : Int → List Char → Except ReadError Int
  | value, [] => .ok value
  | value, c :: rest =>
    match digit? c with
    | none => .error .invalidDigit
    | some digit =>
      let next := if negative then value * 10 - digit else value * 10 + digit
      if next < type.least then .error .tooSmall
      else if type.greatest < next then .error .tooLarge
      else readDigits type negative next rest

/-- An optional sign, where a minus needs a type with a sign, and at least one digit. -/
def readText (type : IntegerType) : List Char → Except ReadError Int
  | [] => .error .noDigits
  | ['+'] | ['-'] => .error .invalidDigit
  | '+' :: digits => type.readDigits false 0 digits
  | '-' :: digits =>
    if type.signed then type.readDigits true 0 digits else .error .invalidDigit
  | digits => type.readDigits false 0 digits

def read (type : IntegerType) (text : String) : Except ReadError Int := type.readText text.toList

end IntegerType

inductive Value where
  | integer (value : Int)
  | boolean (value : Bool)
  | character (value : Char)
  | text (value : String)
deriving DecidableEq, Repr

def Value.print : Value → String
  | integer value => toString value
  | boolean value => toString value
  | character value => String.singleton value
  | text value => value

inductive ValueType where
  | integer (type : IntegerType)
  | boolean
  | character
  | text
deriving DecidableEq, Repr

def readBoolean (text : String) : Except ReadError Bool :=
  if text = "true" then .ok true
  else if text = "false" then .ok false
  else .error .notBoolean

def readCharacter (text : String) : Except ReadError Char :=
  match text.toList with
  | [] => .error .noCharacter
  | [c] => .ok c
  | _ => .error .manyCharacters

def ValueType.read (type : ValueType) (text : String) : Except ReadError Value :=
  match type with
  | integer bounds => (bounds.read text).map .integer
  | boolean => (readBoolean text).map .boolean
  | character => (readCharacter text).map .character
  | .text => .ok (.text text)

end FeatureFlags
