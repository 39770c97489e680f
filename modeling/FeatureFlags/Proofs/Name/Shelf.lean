import FeatureFlags.Name.Shelf
import FeatureFlags.Proofs.Name.Table
import Mathlib.Data.List.Basic

namespace FeatureFlags.Shelf

variable {α β : Type}

def ofTable (table : NameTable α) : Shelf α := ⟨table.values, ⟨table.keys.zipIdx⟩⟩

theorem lookup_zipIdx (keys : List String) (key : String) (start : Nat) :
    (keys.zipIdx start).lookup key = (keys.idxOf? key).map (· + start) := by
  induction keys generalizing start with
  | nil => rfl
  | cons head rest ih =>
    rw [List.zipIdx_cons, List.lookup_cons, List.idxOf?_cons]
    by_cases equal : head = key
    · simp [equal]
    · have apart : (key == head) = false := by simp [Ne.symm equal]
      have behind : (head == key) = false := by simp [equal]
      simp only [apart, behind, ih, Bool.false_eq_true, ↓reduceIte, Option.map_map]
      congr 1
      funext place
      exact (Nat.add_right_comm place 1 start).symm

section OfTable

variable {table : NameTable α} {name : String} {place : Nat}

theorem position?_ofTable (table : NameTable α) (name : String) :
    (ofTable table).position? name = table.position? (nameKey name) := by
  rw [position?, NameTable.find?, ofTable, lookup_zipIdx, NameTable.position?]
  exact Option.map_id'

theorem contains_index_ofTable (table : NameTable α) (name : String) :
    (ofTable table).index.contains name = table.contains name := by
  rw [← NameTable.isSome_find?, ← NameTable.isSome_position?, ← position?_ofTable, position?]

theorem ofTable_insert_of_absent (absent : table.contains name = false) (value : α) :
    ofTable (table.insert name value) =
      ⟨table.values ++ [value], (ofTable table).index.insert name table.values.length⟩ := by
  have unindexed : (ofTable table).index.contains name = false := by rw [contains_index_ofTable, absent]
  have indexed := NameTable.entries_insert_of_absent unindexed table.values.length
  have grown := NameTable.entries_insert_of_absent absent value
  have length : table.entries.length = table.values.length := (List.length_map _).symm
  have values : (table.insert name value).values = table.values ++ [value] := by
    rw [NameTable.values, grown, List.map_append]
    rfl
  have keys : (table.insert name value).keys.zipIdx =
      table.keys.zipIdx ++ [(nameKey name, table.values.length)] := by
    rw [NameTable.keys, grown, List.map_append, List.zipIdx_append, List.length_map, length, Nat.zero_add]
    rfl
  rw [ofTable, values, keys]
  exact congrArg (Shelf.mk _) (congrArg NameTable.mk indexed.symm)

theorem ofTable_insert_of_position? (found : table.position? (nameKey name) = some place) (value : α) :
    ofTable (table.insert name value) = ⟨table.values.set place value, (ofTable table).index⟩ := by
  rw [ofTable, NameTable.values_insert_of_position? found, NameTable.keys_insert_of_position? found]
  rfl

theorem entry_ofTable_of_position? (found : table.position? (nameKey name) = some place) (fresh : α) :
    (ofTable table).entry name fresh = (place, ofTable table) := by
  have known := NameTable.contains_of_position? found
  have earlier : place ≠ (ofTable table).values.length := Nat.ne_of_lt (NameTable.position?_lt found)
  simp only [entry, position?_ofTable, found, contains_index_ofTable, known, ↓reduceIte, Option.getD_some,
    if_neg earlier]

theorem entry_ofTable_of_absent (absent : table.contains name = false) (fresh : α) :
    (ofTable table).entry name fresh = (table.values.length, ofTable (table.insert name fresh)) := by
  rw [ofTable_insert_of_absent absent]
  simp only [entry, position?_ofTable, NameTable.position?_of_absent absent, contains_index_ofTable, absent,
    Option.getD_none, Bool.false_eq_true, ↓reduceIte]
  rfl

theorem entry_ofTable_eq_next_iff (table : NameTable α) (name : String) (fresh : α) :
    ((ofTable table).entry name fresh).1 = (ofTable table).values.length ↔ table.contains name = false := by
  cases known : table.contains name with
  | true =>
    obtain ⟨place, found⟩ := NameTable.exists_position?_of_contains known
    have earlier : place ≠ (ofTable table).values.length := Nat.ne_of_lt (NameTable.position?_lt found)
    rw [entry_ofTable_of_position? found]
    exact ⟨fun last => absurd last earlier, fun absent => absurd absent Bool.false_ne_true.symm⟩
  | false =>
    rw [entry_ofTable_of_absent known]
    exact ⟨fun _ => rfl, fun _ => rfl⟩

theorem update?_ofTable {value : α} (found : table.position? (nameKey name) = some place)
    (here : table.find? name = some value) (change : α → β × α) :
    (ofTable table).update? place change =
      some ((change value).1, ofTable (table.insert name (change value).2)) := by
  rw [NameTable.find?_eq_position?, found, Option.bind_some] at here
  rw [ofTable_insert_of_position? found, update?]
  exact congrArg (Option.map _) here

/-- To enter a name and change what is then there is to insert the changed value, or the changed fresh one. -/
theorem update?_entry_ofTable (table : NameTable α) (name : String) (fresh : α) (change : α → β × α) :
    ((ofTable table).entry name fresh).2.update? ((ofTable table).entry name fresh).1 change =
      some ((change ((table.find? name).getD fresh)).1,
        ofTable (table.insert name (change ((table.find? name).getD fresh)).2)) := by
  cases known : table.contains name with
  | true =>
    obtain ⟨place, found⟩ := NameTable.exists_position?_of_contains known
    obtain ⟨value, here⟩ := NameTable.exists_find?_of_position? found
    rw [entry_ofTable_of_position? found, update?_ofTable found here, here, Option.getD_some]
  | false =>
    have missing : table.find? name = none := by
      rw [NameTable.find?_eq_position?, NameTable.position?_of_absent known, Option.bind_none]
    have last := NameTable.position?_insert_of_absent known fresh
    have here : (table.insert name fresh).find? name = some fresh := by
      rw [NameTable.find?_insert, if_pos (sameName_refl name)]
    have length : table.values.length = table.size := List.length_map _
    rw [entry_ofTable_of_absent known, length, update?_ofTable last here, NameTable.insert_insert, missing,
      Option.getD_none]

theorem put?_ofTable (table : NameTable α) (name : String) (value : α) :
    (ofTable table).put? name value = some (ofTable (table.insert name value)) := by
  rw [put?, position?_ofTable]
  cases known : table.contains name with
  | true =>
    obtain ⟨place, found⟩ := NameTable.exists_position?_of_contains known
    obtain ⟨previous, here⟩ := NameTable.exists_find?_of_position? found
    simp only [found, update?_ofTable found here, Option.map_some]
  | false =>
    rw [ofTable_insert_of_absent known, NameTable.position?_of_absent known]
    rfl

end OfTable

end FeatureFlags.Shelf
