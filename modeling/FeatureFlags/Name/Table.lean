import FeatureFlags.Name

namespace FeatureFlags

/-- Values under names, in the order in which the names first came. Entries hold the names' keys. -/
structure NameTable (α : Type) where
  entries : List (String × α) := []
deriving DecidableEq, Repr

namespace NameTable

variable {α : Type}

def keys (table : NameTable α) : List String := table.entries.map (·.1)

def values (table : NameTable α) : List α := table.entries.map (·.2)

def size (table : NameTable α) : Nat := table.entries.length

def isEmpty (table : NameTable α) : Bool := table.entries.isEmpty

def contains (table : NameTable α) (name : String) : Bool :=
  table.entries.any (·.1 == nameKey name)

def find? (table : NameTable α) (name : String) : Option α :=
  table.entries.lookup (nameKey name)

/-- A known key keeps its place and takes the new value; a new one goes to the end. -/
def place (key : String) (value : α) : List (String × α) → List (String × α)
  | [] => [(key, value)]
  | (other, previous) :: rest =>
    if other = key then (key, value) :: rest else (other, previous) :: place key value rest

def insert (table : NameTable α) (name : String) (value : α) : NameTable α :=
  ⟨place (nameKey name) value table.entries⟩

theorem contains_iff {table : NameTable α} {name : String} :
    table.contains name = true ↔ nameKey name ∈ table.keys := by
  simp [contains, keys]

theorem isSome_find? (table : NameTable α) (name : String) :
    (table.find? name).isSome = table.contains name := by
  rw [Bool.eq_iff_iff, contains_iff, Option.isSome_iff_ne_none, ne_eq, find?, List.lookup_eq_none_iff]
  simp [keys]

theorem map_fst_place (key : String) (value : α) (entries : List (String × α)) :
    (place key value entries).map (·.1) =
      if key ∈ entries.map (·.1) then entries.map (·.1) else entries.map (·.1) ++ [key] := by
  induction entries with
  | nil => simp [place]
  | cons entry rest ih =>
    rcases entry with ⟨other, previous⟩
    by_cases equal : other = key
    · simp [place, equal]
    · have different : key ≠ other := Ne.symm equal
      simp only [place, equal, ↓reduceIte, List.map_cons, ih, List.mem_cons, different, false_or]
      split <;> simp

theorem keys_insert (table : NameTable α) (name : String) (value : α) :
    (table.insert name value).keys =
      if nameKey name ∈ table.keys then table.keys else table.keys ++ [nameKey name] :=
  map_fst_place (nameKey name) value table.entries

theorem lookup_place_same (key : String) (value : α) (entries : List (String × α)) :
    (place key value entries).lookup key = some value := by
  induction entries with
  | nil => simp [place]
  | cons entry rest ih =>
    rcases entry with ⟨other, previous⟩
    by_cases equal : other = key
    · simp [place, equal]
    · have apart : (key == other) = false := by simp [Ne.symm equal]
      simp [place, equal, List.lookup_cons, apart, ih]

theorem lookup_place_other {key other : String} (different : other ≠ key) (value : α)
    (entries : List (String × α)) :
    (place key value entries).lookup other = entries.lookup other := by
  have apart : (other == key) = false := by simp [different]
  induction entries with
  | nil => simp [place, List.lookup_cons, apart]
  | cons entry rest ih =>
    rcases entry with ⟨head, previous⟩
    by_cases equal : head = key
    · subst equal
      simp [place, List.lookup_cons, apart]
    · simp [place, equal, List.lookup_cons, ih]

theorem find?_insert (table : NameTable α) (name other : String) (value : α) :
    (table.insert name value).find? other =
      if sameName other name then some value else table.find? other := by
  by_cases same : nameKey other = nameKey name
  · simp [find?, insert, same, sameName, lookup_place_same]
  · simp [find?, insert, same, sameName, lookup_place_other]

end NameTable

end FeatureFlags
