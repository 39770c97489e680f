import FeatureFlags.Proofs.Feature.Frame
import FeatureFlags.Proofs.Name.Shelf

namespace FeatureFlags

variable {σ : Type}

structure NameTable.Keyed (table : NameTable (Feature σ)) : Prop where
  keys : table.keys = table.values.map fun feature => nameKey feature.name
  distinct : table.keys.Nodup

theorem NameTable.Keyed.insert {table : NameTable (Feature σ)} (keyed : table.Keyed) {name : String}
    {feature : Feature σ} (named : nameKey feature.name = nameKey name) : (table.insert name feature).Keyed where
  keys := by
    cases known : table.contains name with
    | true =>
      obtain ⟨place, found⟩ := exists_position?_of_contains known
      have here := (position?_eq_some_iff keyed.distinct).mp found
      rw [keys_insert_of_position? found, values_insert_of_position? found, List.map_set, ← keyed.keys, named,
        set_eq_self here]
    | false =>
      have unknown : nameKey name ∉ table.keys :=
        contains_iff.not.mp (ne_of_eq_of_ne known Bool.false_ne_true)
      rw [keys_insert, if_neg unknown, values, entries_insert_of_absent known, List.map_append, List.map_append,
        keyed.keys, List.map_singleton, List.map_singleton, named]
      rfl
  distinct := nodup_keys_insert keyed.distinct name feature

theorem NameTable.Keyed.contains_eq_false_iff {table : NameTable (Feature σ)} (keyed : table.Keyed)
    {flag : String} :
    table.contains flag = false ↔ ∀ feature ∈ table.values, nameKey feature.name ≠ nameKey flag := by
  rw [← Bool.not_eq_true, contains_iff, keyed.keys, List.mem_map]
  simp only [not_exists, not_and, ne_eq]

namespace Shelf

/-- What comes of an empty shelf when flags are entered, and features are changed under their names. -/
inductive Reachable : Shelf (Feature σ) → Prop where
  | empty : Reachable {}
  | entered {shelf : Shelf (Feature σ)} (reached : Reachable shelf) (flag : String) :
    Reachable (shelf.entry flag { name := flag }).2
  | updated {β : Type} {shelf next : Shelf (Feature σ)} {place : Nat} {answer : β}
    {change : Feature σ → β × Feature σ} (reached : Reachable shelf)
    (named : ∀ feature, (change feature).2.name = feature.name)
    (changed : shelf.update? place change = some (answer, next)) : Reachable next

/-- The index has each feature's name with the place of the feature, and no other name. So a flag is entered
    at the end exactly if no feature goes by it. -/
structure Aligned (shelf : Shelf (Feature σ)) : Prop where
  indexed : shelf.index.entries = (shelf.values.map fun feature => nameKey feature.name).zipIdx
  distinct : (shelf.values.map fun feature => nameKey feature.name).Nodup
  position : ∀ flag place, shelf.position? flag = some place ↔
    ∃ feature, shelf.values[place]? = some feature ∧ nameKey feature.name = nameKey flag
  entry : ∀ flag, ∃ feature,
    (shelf.entry flag { name := flag }).2.values[(shelf.entry flag { name := flag }).1]? = some feature ∧
      nameKey feature.name = nameKey flag
  fresh : ∀ flag, (shelf.entry flag { name := flag }).1 = shelf.values.length ↔
    ∀ feature ∈ shelf.values, nameKey feature.name ≠ nameKey flag

section OfTable

variable {table : NameTable (Feature σ)}

theorem aligned_ofTable (keyed : table.Keyed) : (ofTable table).Aligned where
  indexed := by rw [ofTable, keyed.keys]
  distinct := keyed.keys ▸ keyed.distinct
  position flag place := by
    rw [position?_ofTable, NameTable.position?_eq_some_iff keyed.distinct, keyed.keys, List.getElem?_map,
      Option.map_eq_some_iff]
    rfl
  entry flag := by
    cases known : table.contains flag with
    | true =>
      obtain ⟨place, found⟩ := NameTable.exists_position?_of_contains known
      have here := (NameTable.position?_eq_some_iff keyed.distinct).mp found
      rw [keyed.keys, List.getElem?_map, Option.map_eq_some_iff] at here
      rw [entry_ofTable_of_position? found]
      exact here
    | false =>
      rw [entry_ofTable_of_absent known, ofTable_insert_of_absent known]
      exact ⟨{ name := flag }, List.getElem?_concat_length, rfl⟩
  fresh flag := (entry_ofTable_eq_next_iff table flag _).trans keyed.contains_eq_false_iff

theorem Reachable.exists_table {shelf : Shelf (Feature σ)} (reached : shelf.Reachable) :
    ∃ table : NameTable (Feature σ), table.Keyed ∧ shelf = ofTable table := by
  induction reached with
  | empty => exact ⟨{}, ⟨rfl, List.nodup_nil⟩, rfl⟩
  | entered _ flag ih =>
    obtain ⟨table, keyed, rfl⟩ := ih
    cases known : table.contains flag with
    | true =>
      obtain ⟨place, found⟩ := NameTable.exists_position?_of_contains known
      exact ⟨table, keyed, by rw [entry_ofTable_of_position? found]⟩
    | false =>
      exact ⟨table.insert flag { name := flag }, keyed.insert rfl, by rw [entry_ofTable_of_absent known]⟩
  | @updated _ shelf next place answer change _ named changed ih =>
    obtain ⟨table, keyed, rfl⟩ := ih
    cases here : table.values[place]? with
    | none =>
      rw [update?, ofTable, here] at changed
      cases changed
    | some feature =>
      have found : table.position? (nameKey feature.name) = some place := by
        rw [NameTable.position?_eq_some_iff keyed.distinct, keyed.keys, List.getElem?_map, here]
        rfl
      have value : table.find? feature.name = some feature := by
        rw [NameTable.find?_eq_position?, found]
        exact here
      rw [update?_ofTable found value] at changed
      cases changed
      exact ⟨_, keyed.insert (by rw [named]), rfl⟩

theorem Reachable.aligned {shelf : Shelf (Feature σ)} (reached : shelf.Reachable) : shelf.Aligned := by
  obtain ⟨table, keyed, rfl⟩ := reached.exists_table
  exact aligned_ofTable keyed

end OfTable

section Aligned

variable {shelf : Shelf (Feature σ)}

theorem Aligned.mem_entries_iff (aligned : shelf.Aligned) {key : String}
    {place : Nat} :
    (key, place) ∈ shelf.index.entries ↔
      ∃ feature, shelf.values[place]? = some feature ∧ nameKey feature.name = key := by
  rw [aligned.indexed, List.mem_zipIdx_iff_getElem?, List.getElem?_map, Option.map_eq_some_iff]

theorem Aligned.nodup_keys (aligned : shelf.Aligned) : shelf.index.keys.Nodup := by
  rw [NameTable.keys, aligned.indexed, List.zipIdx_map_fst]
  exact aligned.distinct

end Aligned

end Shelf

end FeatureFlags
