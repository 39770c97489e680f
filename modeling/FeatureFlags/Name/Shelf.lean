import FeatureFlags.Name.Table

namespace FeatureFlags

/-- Values in the order in which their names first came, and an index of where each name's value stands. -/
structure Shelf (α : Type) where
  values : List α := []
  index : NameTable Nat := {}
deriving DecidableEq, Repr

namespace Shelf

variable {α β : Type}

def position? (shelf : Shelf α) (name : String) : Option Nat := shelf.index.find? name

/-- The place of a name, which for a new name is the next one, and then holds a fresh value. Whether the name
    is new is seen from the place alone. -/
def entry (shelf : Shelf α) (name : String) (fresh : α) : Nat × Shelf α :=
  let next := shelf.values.length
  let place := (shelf.position? name).getD next
  let index := if shelf.index.contains name then shelf.index else shelf.index.insert name next
  (place, if place = next then ⟨shelf.values ++ [fresh], index⟩ else ⟨shelf.values, index⟩)

/-- Changes the value at a place, with an answer; a place beyond the last one gives nothing. -/
def update? (shelf : Shelf α) (place : Nat) (change : α → β × α) : Option (β × Shelf α) :=
  shelf.values[place]?.map fun value =>
    ((change value).1, { shelf with values := shelf.values.set place (change value).2 })

/-- A value takes the place of the one of its name, or comes last and is indexed. -/
def put? (shelf : Shelf α) (name : String) (value : α) : Option (Shelf α) :=
  match shelf.position? name with
  | some place => (shelf.update? place fun _ => ((), value)).map (·.2)
  | none => some ⟨shelf.values ++ [value], shelf.index.insert name shelf.values.length⟩

end Shelf

end FeatureFlags
