import FeatureFlags.Name.Table
import Mathlib.Data.List.Forall2
import Mathlib.Data.List.Induction
import Mathlib.Data.List.Nodup

namespace FeatureFlags.NameTable

theorem mem_values_of_find? {α : Type} {table : NameTable α} {name : String} {value : α}
    (found : table.find? name = some value) : value ∈ table.values := by
  obtain ⟨before, after, entries, -⟩ := List.lookup_eq_some_iff.mp found
  rw [values, entries]
  simp

theorem place_of_absent {α : Type} {key : String} {entries : List (String × α)}
    (absent : key ∉ entries.map (·.1)) (value : α) : place key value entries = entries ++ [(key, value)] := by
  induction entries with
  | nil => rfl
  | cons entry rest ih =>
    rcases entry with ⟨other, previous⟩
    obtain ⟨different, absent⟩ := not_or.mp (List.mem_cons.not.mp absent)
    rw [place, if_neg (Ne.symm different), ih absent, List.cons_append]

theorem entries_insert_of_absent {α : Type} {table : NameTable α} {name : String}
    (absent : table.contains name = false) (value : α) :
    (table.insert name value).entries = table.entries ++ [(nameKey name, value)] :=
  place_of_absent (contains_iff.not.mp (ne_of_eq_of_ne absent Bool.false_ne_true)) value

section InsertAll

variable {α : Type}

def insertAll (table : NameTable α) (named : List (String × α)) : NameTable α :=
  named.foldl (fun table entry => table.insert entry.1 entry.2) table

theorem insertAll_concat (table : NameTable α) (named : List (String × α)) (last : String × α) :
    table.insertAll (named ++ [last]) = (table.insertAll named).insert last.1 last.2 := by
  simp only [insertAll, List.foldl_append, List.foldl_cons, List.foldl_nil]

theorem find?_insertAll (table : NameTable α) (named : List (String × α)) (name : String) :
    (table.insertAll named).find? name =
      ((named.reverse.find? (sameName name ·.1)).map (·.2)).or (table.find? name) := by
  induction named using List.reverseRecOn with
  | nil => rfl
  | append_singleton named last ih =>
    rw [insertAll_concat, find?_insert, ih, List.reverse_append, List.reverse_singleton,
      List.singleton_append, List.find?_cons]
    cases sameName name last.1 <;> rfl

theorem mem_keys_insert {table : NameTable α} {name key : String} {value : α} :
    key ∈ (table.insert name value).keys ↔ key ∈ table.keys ∨ key = nameKey name := by
  rw [keys_insert]
  split
  · rename_i known
    constructor
    · exact Or.inl
    · rintro (member | rfl)
      · exact member
      · exact known
  · rw [List.mem_append, List.mem_singleton]

theorem nodup_keys_insert {table : NameTable α} (distinct : table.keys.Nodup) (name : String) (value : α) :
    (table.insert name value).keys.Nodup := by
  rw [keys_insert]
  split
  · exact distinct
  · rename_i fresh
    exact distinct.append (List.nodup_singleton _) (List.disjoint_singleton.mpr fresh)

theorem mem_keys_insertAll {table : NameTable α} {named : List (String × α)} {key : String} :
    key ∈ (table.insertAll named).keys ↔ key ∈ table.keys ∨ key ∈ named.map fun entry => nameKey entry.1 := by
  induction named using List.reverseRecOn with
  | nil => simp [insertAll]
  | append_singleton named last ih =>
    rw [insertAll_concat, mem_keys_insert, ih, List.map_append, List.mem_append, List.map_singleton,
      List.mem_singleton, or_assoc]

theorem nodup_keys_insertAll {table : NameTable α} (distinct : table.keys.Nodup)
    (named : List (String × α)) : (table.insertAll named).keys.Nodup := by
  induction named using List.reverseRecOn with
  | nil => exact distinct
  | append_singleton named last ih =>
    rw [insertAll_concat]
    exact nodup_keys_insert ih last.1 last.2

end InsertAll

section Position

variable {α : Type} {table : NameTable α} {key : String} {place : Nat}

def position? (table : NameTable α) (key : String) : Option Nat := table.keys.idxOf? key

theorem find?_eq_position? (table : NameTable α) (name : String) :
    table.find? name = (table.position? (nameKey name)).bind (table.values[·]?) := by
  rw [find?, position?, keys, values]
  induction table.entries with
  | nil => rfl
  | cons entry rest ih =>
    rcases entry with ⟨other, value⟩
    rw [List.map_cons, List.map_cons, List.idxOf?_cons]
    by_cases equal : nameKey name = other
    · simp [equal]
    · have apart : (nameKey name == other) = false := by simp [equal]
      have behind : (other == nameKey name) = false := by simp [Ne.symm equal]
      simp only [List.lookup_cons, apart, behind, ih, Bool.false_eq_true, ↓reduceIte]
      cases (rest.map (·.1)).idxOf? (nameKey name) <;> rfl

theorem position?_eq_some_iff (distinct : table.keys.Nodup) :
    table.position? key = some place ↔ table.keys[place]? = some key := by
  rw [position?, List.idxOf?_eq_some_iff, List.getElem?_eq_some_iff]
  constructor
  · rintro ⟨inside, here, -⟩
    exact ⟨inside, here⟩
  · rintro ⟨inside, here⟩
    refine ⟨inside, here, fun other before again => ?_⟩
    have same : other = place := (List.Nodup.getElem_inj_iff distinct).mp (again.trans here.symm)
    exact absurd same (Nat.ne_of_lt before)

theorem isSome_position? (table : NameTable α) (name : String) :
    (table.position? (nameKey name)).isSome = table.contains name := by
  rw [Bool.eq_iff_iff, contains_iff, position?, List.isSome_idxOf?]

theorem exists_position?_of_contains {name : String} (known : table.contains name = true) :
    ∃ place, table.position? (nameKey name) = some place := by
  rwa [← isSome_position?, Option.isSome_iff_exists] at known

theorem contains_of_position? {name : String} (found : table.position? (nameKey name) = some place) :
    table.contains name = true := by
  rw [← isSome_position?, found, Option.isSome_some]

theorem position?_lt (found : table.position? key = some place) : place < table.values.length := by
  obtain ⟨inside, -⟩ := List.idxOf?_eq_some_iff.mp found
  rwa [keys, List.length_map, ← List.length_map (·.2)] at inside

theorem position?_of_absent {name : String} (absent : table.contains name = false) :
    table.position? (nameKey name) = none := by
  rw [← Option.not_isSome_iff_eq_none, isSome_position?, absent]
  exact Bool.false_ne_true

theorem position?_insert_of_absent {name : String} (absent : table.contains name = false) (value : α) :
    (table.insert name value).position? (nameKey name) = some table.size := by
  have unknown : nameKey name ∉ table.keys := contains_iff.not.mp (ne_of_eq_of_ne absent Bool.false_ne_true)
  have length : table.keys.length = table.size := List.length_map _
  rw [position?, keys_insert, if_neg unknown, ← length, List.idxOf?_eq_some_iff]
  refine ⟨by simp, by simp, fun other before same => unknown ?_⟩
  rw [List.getElem_append_left before] at same
  exact same ▸ List.getElem_mem before

theorem exists_find?_of_position? {name : String} (found : table.position? (nameKey name) = some place) :
    ∃ value, table.find? name = some value := by
  rw [← Option.isSome_iff_exists, isSome_find?, contains_of_position? found]

theorem values_insert_of_position? {name : String} (found : table.position? (nameKey name) = some place)
    (value : α) : (table.insert name value).values = table.values.set place value := by
  rw [position?, keys] at found
  rw [insert, values, values]
  dsimp only
  generalize table.entries = entries at found ⊢
  induction entries generalizing place with
  | nil => cases found
  | cons entry rest ih =>
    rcases entry with ⟨other, previous⟩
    rw [List.map_cons, List.idxOf?_cons] at found
    rw [NameTable.place]
    by_cases equal : other = nameKey name
    · subst equal
      rw [beq_self_eq_true, if_pos rfl, Option.some_inj] at found
      subst found
      rw [if_pos rfl, List.map_cons, List.map_cons, List.set_cons_zero]
    · rw [if_neg (beq_iff_eq.not.mpr equal), Option.map_eq_some_iff] at found
      obtain ⟨behind, found, rfl⟩ := found
      rw [if_neg equal, List.map_cons, List.map_cons, List.set_cons_succ, ih found]

theorem keys_insert_of_position? {name : String} (found : table.position? (nameKey name) = some place)
    (value : α) : (table.insert name value).keys = table.keys := by
  rw [keys_insert, if_pos (contains_iff.mp (contains_of_position? found))]

theorem insert_insert (table : NameTable α) (name : String) (value next : α) :
    (table.insert name value).insert name next = table.insert name next := by
  rw [insert, insert, insert]
  dsimp only
  induction table.entries with
  | nil => simp [NameTable.place]
  | cons entry rest ih =>
    rcases entry with ⟨other, previous⟩
    by_cases equal : other = nameKey name
    · simp [NameTable.place, equal]
    · simpa [NameTable.place, equal] using ih

end Position

section Only

variable {α : Type} {key other name : String}

def only (key : String) (table : NameTable α) : NameTable α := ⟨table.entries.filter (·.1 == key)⟩

theorem place_filter_same (value : α) (entries : List (String × α)) :
    place key value (entries.filter (·.1 == key)) = (place key value entries).filter (·.1 == key) := by
  induction entries with
  | nil => simp [place]
  | cons entry rest ih =>
    rcases entry with ⟨first, previous⟩
    by_cases equal : first = key
    · simp [place, equal]
    · have apart : (first == key) = false := by simp [equal]
      simp [place, equal, apart, ih]

theorem filter_place_other (different : other ≠ key) (value : α) (entries : List (String × α)) :
    (place other value entries).filter (·.1 == key) = entries.filter (·.1 == key) := by
  have apart : (other == key) = false := by simp [different]
  induction entries with
  | nil => simp [place, apart]
  | cons entry rest ih =>
    rcases entry with ⟨first, previous⟩
    by_cases equal : first = other
    · simp [place, equal, apart]
    · simp [place, equal, List.filter_cons, ih]

theorem lookup_filter (entries : List (String × α)) :
    (entries.filter (·.1 == key)).lookup key = entries.lookup key := by
  induction entries with
  | nil => rfl
  | cons entry rest ih =>
    rcases entry with ⟨first, value⟩
    by_cases equal : first = key
    · simp [equal]
    · have apart : (first == key) = false := by simp [equal]
      have absent : (key == first) = false := by simp [Ne.symm equal]
      simp [apart, List.lookup_cons, absent, ih]

theorem find?_only (same : nameKey name = key) (table : NameTable α) :
    (table.only key).find? name = table.find? name := by
  rw [find?, find?, same, only, lookup_filter]

theorem insert_only (same : nameKey name = key) (table : NameTable α) (value : α) :
    (table.only key).insert name value = (table.insert name value).only key := by
  rw [insert, insert, same, only, only, place_filter_same]

theorem only_insert_of_ne (different : nameKey name ≠ key) (table : NameTable α) (value : α) :
    (table.insert name value).only key = table.only key := by
  rw [insert, only, only, filter_place_other different]

end Only

section Alike

variable {α β : Type} {related : α → β → Prop} {left : NameTable α} {right : NameTable β}
  {name other : String}

def Alike (related : α → β → Prop) (left : NameTable α) (right : NameTable β) : Prop :=
  List.Forall₂ (fun first second => first.1 = second.1 ∧ related first.2 second.2) left.entries
    right.entries

theorem Alike.values (alike : Alike related left right) :
    List.Forall₂ related left.values right.values := by
  rw [NameTable.values, NameTable.values, List.forall₂_map_left_iff, List.forall₂_map_right_iff]
  exact alike.imp fun _ _ same => same.2

theorem Alike.find? (alike : Alike related left right) (same : nameKey name = nameKey other) :
    Option.Rel related (left.find? name) (right.find? other) := by
  rw [NameTable.find?, NameTable.find?, same]
  unfold Alike at alike
  generalize left.entries = first, right.entries = second at alike ⊢
  induction alike with
  | nil => exact .none
  | @cons first second _ _ here _ ih =>
    rcases first with ⟨key, value⟩
    rcases second with ⟨_, given⟩
    obtain ⟨rfl, values⟩ := here
    cases found : nameKey other == key
    · simpa [List.lookup_cons, found] using ih
    · simpa [List.lookup_cons, found] using Option.Rel.some values

theorem Alike.insert (alike : Alike related left right) (same : nameKey name = nameKey other)
    {value : α} {given : β} (values : related value given) :
    Alike related (left.insert name value) (right.insert other given) := by
  rw [NameTable.insert, NameTable.insert, same]
  unfold Alike at alike ⊢
  dsimp only
  generalize left.entries = first, right.entries = second at alike ⊢
  induction alike with
  | nil => exact .cons ⟨rfl, values⟩ .nil
  | @cons first second _ _ here later ih =>
    rcases first with ⟨key, value⟩
    rcases second with ⟨_, given⟩
    obtain ⟨rfl, previous⟩ := here
    rw [place, place]
    split
    · exact .cons ⟨rfl, values⟩ later
    · exact .cons ⟨rfl, previous⟩ ih

end Alike

end FeatureFlags.NameTable
