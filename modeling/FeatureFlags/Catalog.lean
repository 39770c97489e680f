import FeatureFlags.Name.Shelf
import FeatureFlags.Report

namespace FeatureFlags

/-- Finished features by name. -/
structure Catalog (σ : Type) where
  features : NameTable (Feature σ) := {}
deriving DecidableEq, Repr

namespace Catalog

variable {σ : Type}

/-- Of features with one name the last counts, in the place of the first. -/
def ofFeatures (features : List (Feature σ)) : Catalog σ :=
  ⟨features.foldl (fun table feature => table.insert feature.name feature) {}⟩

def size (catalog : Catalog σ) : Nat := catalog.features.size

def isEmpty (catalog : Catalog σ) : Bool := catalog.features.isEmpty

def toList (catalog : Catalog σ) : List (Feature σ) := catalog.features.values

def flags (catalog : Catalog σ) : List String := catalog.toList.map (·.name)

def contains (catalog : Catalog σ) (flag : String) : Bool := catalog.features.contains flag

def find? (catalog : Catalog σ) (flag : String) : Option (Feature σ) := catalog.features.find? flag

def summary (catalog : Catalog σ) : String :=
  "FeatureProvider(" ++ toString catalog.size ++ " features)"

def checkerSummary (catalog : Catalog σ) : String := "ToggleChecker(" ++ catalog.summary ++ ")"

variable [Criterion σ]

/-- An unknown flag is not enabled. -/
def isEnabled (catalog : Catalog σ) (flag : String) : Bool :=
  (catalog.find? flag).any (·.isEnabled)

def report (catalog : Catalog σ) (flag : String) : Report :=
  match catalog.find? flag with
  | none => .unknown flag
  | some feature => .ofFeature feature

end Catalog

/-- Features put on a shelf one after the other, each in the place of an earlier one of its name. -/
def Shelf.ofFeatures {σ : Type} (features : List (Feature σ)) : Option (Shelf (Feature σ)) :=
  features.foldlM (fun shelf feature => shelf.put? feature.name feature) {}

end FeatureFlags
