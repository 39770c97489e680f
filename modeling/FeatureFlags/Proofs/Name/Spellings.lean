import FeatureFlags.Proofs.Name.Table
import Mathlib.Data.Finset.Card

namespace FeatureFlags

/-- One spelling for each name, the first one, in the order in which the names first came. -/
def firstSpellings : List String → List String
  | [] => []
  | name :: rest => name :: (firstSpellings rest).filter fun other => !sameName other name

theorem nodup_map_nameKey_firstSpellings (names : List String) :
    ((firstSpellings names).map nameKey).Nodup := by
  induction names with
  | nil => exact List.nodup_nil
  | cons head rest ih =>
    rw [firstSpellings, List.map_cons, List.nodup_cons]
    constructor
    · intro member
      obtain ⟨other, kept, same⟩ := List.mem_map.mp member
      have different := (List.mem_filter.mp kept).2
      simp [sameName, same] at different
    · exact ih.sublist (List.filter_sublist.map nameKey)

theorem nameKey_mem_firstSpellings_iff {key : String} {names : List String} :
    key ∈ (firstSpellings names).map nameKey ↔ key ∈ names.map nameKey := by
  induction names with
  | nil => rfl
  | cons head rest ih =>
    by_cases same : key = nameKey head
    · simp [firstSpellings, same]
    · simp only [List.map_cons, List.mem_cons, same, false_or, ← ih, firstSpellings]
      constructor
      · intro member
        obtain ⟨other, kept, rfl⟩ := List.mem_map.mp member
        exact List.mem_map_of_mem (List.mem_filter.mp kept).1
      · intro member
        obtain ⟨other, kept, rfl⟩ := List.mem_map.mp member
        exact List.mem_map_of_mem (List.mem_filter.mpr ⟨kept, by simp [sameName, same]⟩)

theorem length_firstSpellings (names : List String) :
    (firstSpellings names).length = (names.map nameKey).toFinset.card := by
  have same : ((firstSpellings names).map nameKey).toFinset = (names.map nameKey).toFinset := by
    ext key
    rw [List.mem_toFinset, List.mem_toFinset, nameKey_mem_firstSpellings_iff]
  rw [← same, List.toFinset_card_of_nodup (nodup_map_nameKey_firstSpellings names), List.length_map]

theorem mem_of_mem_firstSpellings {name : String} {names : List String} (member : name ∈ firstSpellings names) :
    name ∈ names := by
  induction names with
  | nil => exact member
  | cons head rest ih =>
    rcases List.mem_cons.mp member with rfl | later
    · exact List.mem_cons_self
    · exact List.mem_cons_of_mem _ (ih (List.mem_filter.mp later).1)

theorem firstSpellings_concat (names : List String) (name : String) :
    firstSpellings (names ++ [name]) =
      if nameKey name ∈ names.map nameKey then firstSpellings names
      else firstSpellings names ++ [name] := by
  induction names with
  | nil => simp [firstSpellings]
  | cons head rest ih =>
    simp only [List.cons_append, firstSpellings, ih, List.map_cons, List.mem_cons]
    by_cases known : nameKey name ∈ rest.map nameKey
    · simp only [known, or_true, ↓reduceIte]
    · rw [if_neg known, List.filter_append]
      by_cases same : nameKey name = nameKey head
      · rw [if_pos (Or.inl same)]
        simp [same, sameName]
      · rw [if_neg (not_or.mpr ⟨same, known⟩)]
        simp [same, sameName]

def lastSpelling (names : List String) (name : String) : String :=
  (names.reverse.find? (sameName · name)).getD name

theorem nameKey_of_find? {names : List String} {name spelling : String}
    (found : names.find? (sameName · name) = some spelling) : nameKey spelling = nameKey name := by
  simpa only [sameName_iff] using List.find?_some found

theorem nameKey_mem_of_find? {names : List String} {name spelling : String}
    (found : names.find? (sameName · name) = some spelling) : nameKey name ∈ names.map nameKey := by
  rw [← nameKey_of_find? found]
  exact List.mem_map_of_mem (List.mem_of_find?_eq_some found)

theorem isNone_find?_sameName {names : List String} {name : String} :
    names.find? (sameName · name) = none ↔ nameKey name ∉ names.map nameKey := by
  simp [sameName]

namespace NameTable

variable {α : Type}

def ofNames (names : List String) (value : String → α) : NameTable α :=
  ⟨names.map fun name => (nameKey name, value name)⟩

@[simp] theorem keys_ofNames (names : List String) (value : String → α) :
    (ofNames names value).keys = names.map nameKey := by
  simp [keys, ofNames]

@[simp] theorem values_ofNames (names : List String) (value : String → α) :
    (ofNames names value).values = names.map value := by
  simp [values, ofNames]

theorem find?_ofNames (names : List String) (value : String → α) (name : String) :
    (ofNames names value).find? name = (names.find? (sameName · name)).map value := by
  induction names with
  | nil => rfl
  | cons head rest ih =>
    by_cases same : nameKey head = nameKey name
    · simp [ofNames, find?, same, sameName]
    · have apart : (nameKey name == nameKey head) = false := by simp [Ne.symm same]
      simpa [ofNames, find?, sameName, same, List.lookup_cons, apart] using ih

theorem ofNames_congr {names : List String} {value other : String → α}
    (agree : ∀ name ∈ names, value name = other name) : ofNames names value = ofNames names other := by
  simp only [ofNames, NameTable.mk.injEq]
  exact List.map_congr_left fun name member => by rw [agree name member]

theorem insert_ofNames_new {names : List String} {name : String}
    (fresh : nameKey name ∉ names.map nameKey) (value : String → α) :
    (ofNames names value).insert name (value name) = ofNames (names ++ [name]) value := by
  have absent : nameKey name ∉ (ofNames names value).entries.map (·.1) := by
    rw [ofNames, List.map_map]
    exact fresh
  rw [insert, place_of_absent absent, ofNames, ofNames, List.map_append, List.map_singleton]

theorem insert_ofNames_known (value next : String → α) {names : List String}
    (distinct : (names.map nameKey).Nodup) {spelling name : String} (known : spelling ∈ names)
    (same : nameKey spelling = nameKey name)
    (frame : ∀ other ∈ names, nameKey other ≠ nameKey name → next other = value other) :
    (ofNames names value).insert name (next spelling) = ofNames names next := by
  simp only [insert, ofNames, NameTable.mk.injEq]
  induction names with
  | nil => exact absurd known List.not_mem_nil
  | cons head rest ih =>
    obtain ⟨fresh, distinct⟩ := List.nodup_cons.mp distinct
    by_cases here : nameKey head = nameKey name
    · have first : spelling = head := by
        rcases List.mem_cons.mp known with first | later
        · exact first
        · have repeated : nameKey spelling ∈ rest.map nameKey := List.mem_map_of_mem later
          rw [same, ← here] at repeated
          exact absurd repeated fresh
      subst first
      have others : ∀ other ∈ rest, next other = value other := by
        intro other member
        apply frame other (List.mem_cons_of_mem _ member)
        intro equal
        exact fresh (by rw [same, ← equal]; exact List.mem_map_of_mem member)
      simp only [List.map_cons, place, here, ↓reduceIte, List.cons.injEq, true_and]
      exact List.map_congr_left fun other member => by rw [others other member]
    · have later : spelling ∈ rest := by
        rcases List.mem_cons.mp known with rfl | later
        · exact absurd same here
        · exact later
      simp only [List.map_cons, place, here, ↓reduceIte, frame head List.mem_cons_self here]
      rw [ih distinct later fun other member => frame other (List.mem_cons_of_mem _ member)]

end NameTable

end FeatureFlags
