import FeatureFlags.Specification
import FeatureFlags.Text.Quoted

namespace FeatureFlags

/-- The specifications that a document can name. -/
structure Registry (σ : Type) where
  prototypes : NameTable (Specification σ)

namespace Registry

variable {σ : Type}

/-- A specification registered again under a name takes the place of the earlier one. -/
def register (registry : Registry σ) (name : String) (specification : Specification σ) :
    Registry σ :=
  ⟨registry.prototypes.insert name specification⟩

def initial : Registry σ :=
  (Registry.mk {}).register "true" (.constant true) |>.register "false" (.constant false)

def find? (registry : Registry σ) (name : String) : Option (Specification σ) :=
  registry.prototypes.find? name

def contains (registry : Registry σ) (name : String) : Bool := registry.prototypes.contains name

theorem find?_congr {registry : Registry σ} {name other : String}
    (same : nameKey name = nameKey other) : registry.find? name = registry.find? other := by
  simp only [find?, NameTable.find?, same]

def size (registry : Registry σ) : Nat := registry.prototypes.size

def isEmpty (registry : Registry σ) : Bool := registry.prototypes.isEmpty

/-- The keys of the registered names, by code point. -/
def names (registry : Registry σ) : List String :=
  registry.prototypes.keys.mergeSort fun left right => decide (left ≤ right)

def quoteName (name : String) : String := String.ofList (Text.quote name.toList)

def summary (registry : Registry σ) : String :=
  "SpecificationRegistry \x7b names: [" ++ ", ".intercalate (registry.names.map quoteName) ++
    "] \x7d"

end Registry

end FeatureFlags
