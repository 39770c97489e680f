import FeatureFlags.Catalog
import FeatureFlags.Proofs.Feature.Shelf
import FeatureFlags.Proofs.Name.Spellings
import Mathlib.Data.List.Induction

namespace FeatureFlags

variable {σ : Type}

namespace Catalog

theorem features_ofFeatures_eq_insertAll (features : List (Feature σ)) :
    (ofFeatures features).features =
      NameTable.insertAll {} (features.map fun feature => (feature.name, feature)) := by
  rw [NameTable.insertAll, List.foldl_map]
  rfl

theorem ofFeatures_concat (features : List (Feature σ)) (feature : Feature σ) :
    (ofFeatures (features ++ [feature])).features =
      (ofFeatures features).features.insert feature.name feature := by
  simp only [features_ofFeatures_eq_insertAll, List.map_append, List.map_singleton, NameTable.insertAll_concat]

theorem find?_ofFeatures (features : List (Feature σ)) (query : String) :
    (ofFeatures features).find? query = features.reverse.find? (sameName ·.name query) := by
  rw [find?, features_ofFeatures_eq_insertAll, NameTable.find?_insertAll, ← List.map_reverse, List.find?_map,
    Option.map_map]
  change (Option.map id (features.reverse.find? fun feature => sameName query feature.name)).or none = _
  simp only [Option.map_id, id_eq, Option.or_none, sameName_comm query]

theorem contains_eq_isSome (catalog : Catalog σ) (query : String) :
    catalog.contains query = (catalog.find? query).isSome :=
  (NameTable.isSome_find? catalog.features query).symm

theorem find?_ofFeatures_eq_some_iff {features : List (Feature σ)} {query : String} {feature : Feature σ} :
    (ofFeatures features).find? query = some feature ↔
      ∃ before after, features = before ++ feature :: after ∧ nameKey feature.name = nameKey query ∧
        ∀ other ∈ after, nameKey other.name ≠ nameKey query := by
  rw [find?_ofFeatures, List.find?_eq_some_iff_append]
  constructor
  · rintro ⟨same, after, before, parts, others⟩
    refine ⟨before.reverse, after.reverse, ?_, sameName_iff.mp same, ?_⟩
    · rw [← List.reverse_reverse features, parts]
      simp
    · intro other member
      simpa [sameName] using others other (List.mem_reverse.mp member)
  · rintro ⟨before, after, rfl, same, others⟩
    refine ⟨sameName_iff.mpr same, after.reverse, before.reverse, by simp, ?_⟩
    intro other member
    simpa [sameName] using others other (List.mem_reverse.mp member)

theorem find?_ofFeatures_eq_none_iff {features : List (Feature σ)} {query : String} :
    (ofFeatures features).find? query = none ↔
      ∀ feature ∈ features, nameKey feature.name ≠ nameKey query := by
  rw [find?_ofFeatures, List.find?_eq_none]
  simp [sameName]

def lastNamed (features : List (Feature σ)) (name : String) : Feature σ :=
  (features.reverse.find? (sameName ·.name name)).getD { name }

theorem lastNamed_concat (features : List (Feature σ)) (feature : Feature σ) (name : String) :
    lastNamed (features ++ [feature]) name =
      if sameName feature.name name then feature else lastNamed features name := by
  rw [lastNamed, List.reverse_append, List.reverse_singleton, List.singleton_append, List.find?_cons]
  cases sameName feature.name name <;> rfl

theorem lastNamed_concat_of_same {feature : Feature σ} {name : String}
    (same : nameKey feature.name = nameKey name) (features : List (Feature σ)) :
    lastNamed (features ++ [feature]) name = feature := by
  rw [lastNamed_concat, if_pos (sameName_iff.mpr same)]

theorem lastNamed_concat_of_ne {feature : Feature σ} {name : String}
    (different : nameKey feature.name ≠ nameKey name) (features : List (Feature σ)) :
    lastNamed (features ++ [feature]) name = lastNamed features name := by
  rw [lastNamed_concat, if_neg (sameName_iff.not.mpr different)]

theorem name_lastNamed (features : List (Feature σ)) (name : String) :
    (lastNamed features name).name = lastSpelling (features.map (·.name)) name := by
  rw [lastNamed, lastSpelling, ← List.map_reverse, List.find?_map]
  change _ = (Option.map _ (features.reverse.find? (sameName ·.name name))).getD name
  cases features.reverse.find? (sameName ·.name name) <;> rfl

theorem nameKey_lastNamed (features : List (Feature σ)) (name : String) :
    nameKey (lastNamed features name).name = nameKey name := by
  rw [lastNamed]
  cases found : features.reverse.find? (sameName ·.name name) with
  | none => rfl
  | some feature =>
    have same : sameName feature.name name = true :=
      List.find?_some (p := fun feature : Feature σ => sameName feature.name name) found
    exact sameName_iff.mp same

/-- Each name has the place of its first feature, and there its last one. -/
theorem features_ofFeatures (features : List (Feature σ)) :
    (ofFeatures features).features =
      .ofNames (firstSpellings (features.map (·.name))) (lastNamed features) := by
  induction features using List.reverseRecOn with
  | nil => rfl
  | append_singleton features feature ih =>
    rw [ofFeatures_concat, ih, List.map_append, List.map_singleton, firstSpellings_concat]
    split
    · rename_i known
      obtain ⟨spelling, member, same⟩ := List.mem_map.mp (nameKey_mem_firstSpellings_iff.mpr known)
      have replaced := NameTable.insert_ofNames_known (lastNamed features)
        (lastNamed (features ++ [feature])) (nodup_map_nameKey_firstSpellings _) member same
      rw [lastNamed_concat_of_same same.symm] at replaced
      exact replaced fun other _ different => lastNamed_concat_of_ne (Ne.symm different) features
    · rename_i fresh
      have absent : nameKey feature.name ∉ (firstSpellings (features.map (·.name))).map nameKey := by
        rwa [nameKey_mem_firstSpellings_iff]
      have added := NameTable.insert_ofNames_new absent (lastNamed (features ++ [feature]))
      rw [lastNamed_concat_of_same rfl] at added
      rw [← added]
      congr 1
      apply NameTable.ofNames_congr
      intro other member
      have different : nameKey feature.name ≠ nameKey other :=
        fun again => absent (again ▸ List.mem_map_of_mem member)
      exact (lastNamed_concat_of_ne different features).symm

theorem toList_ofFeatures (features : List (Feature σ)) :
    (ofFeatures features).toList =
      (firstSpellings (features.map (·.name))).map (lastNamed features) := by
  rw [toList, features_ofFeatures, NameTable.values_ofNames]

theorem keyed_ofFeatures (features : List (Feature σ)) : (ofFeatures features).features.Keyed where
  keys := by
    change _ = (ofFeatures features).toList.map fun feature => nameKey feature.name
    rw [toList_ofFeatures, features_ofFeatures, NameTable.keys_ofNames, List.map_map]
    exact List.map_congr_left fun name _ => (nameKey_lastNamed features name).symm
  distinct := by
    rw [features_ofFeatures, NameTable.keys_ofNames]
    exact nodup_map_nameKey_firstSpellings _

theorem size_eq_length (catalog : Catalog σ) : catalog.size = catalog.toList.length :=
  (List.length_map _).symm

theorem size_ofFeatures (features : List (Feature σ)) :
    (ofFeatures features).size = (features.map fun feature => nameKey feature.name).toFinset.card := by
  rw [size_eq_length, toList_ofFeatures, List.length_map, length_firstSpellings, List.map_map]
  rfl

theorem flags_ofFeatures (features : List (Feature σ)) :
    (ofFeatures features).flags =
      (firstSpellings (features.map (·.name))).map (lastSpelling (features.map (·.name))) := by
  rw [flags, toList_ofFeatures, List.map_map]
  exact List.map_congr_left fun name _ => name_lastNamed features name

end Catalog

namespace Shelf

theorem ofFeatures_eq (features : List (Feature σ)) :
    ofFeatures features = some (ofTable (Catalog.ofFeatures features).features) := by
  have step : ∀ table : NameTable (Feature σ),
      features.foldlM (fun shelf feature => shelf.put? feature.name feature) (ofTable table) =
        some (ofTable (features.foldl (fun table feature => table.insert feature.name feature) table)) := by
    induction features with
    | nil => exact fun _ => rfl
    | cons feature rest ih =>
      intro table
      rw [List.foldlM_cons, put?_ofTable, List.foldl_cons]
      exact ih _
  exact step {}

theorem position?_ofFeatures_of_distinct {features before after : List (Feature σ)} {feature : Feature σ}
    (distinct : (features.map fun feature => nameKey feature.name).Nodup)
    (parts : features = before ++ feature :: after) :
    ∃ shelf, ofFeatures before = some shelf ∧ shelf.position? feature.name = none := by
  refine ⟨_, ofFeatures_eq before, ?_⟩
  rw [parts, List.map_append, List.nodup_append] at distinct
  have missing : (Catalog.ofFeatures before).find? feature.name = none := by
    rw [Catalog.find?_ofFeatures_eq_none_iff]
    intro other member same
    exact distinct.2.2 _ (List.mem_map_of_mem member) _ List.mem_cons_self same
  have absent : (Catalog.ofFeatures before).features.contains feature.name = false := by
    rw [← NameTable.isSome_find?]
    exact congrArg Option.isSome missing
  rw [position?_ofTable, NameTable.position?_of_absent absent]

end Shelf

/-- A catalog has one feature for each name among those it is made of: the last one, in the place of the first.
    It is kept as a list with an index, which has the places of the names and no other. -/
theorem Catalog.ofFeatures_replaces (features : List (Feature σ)) :
    (∃ shelf, Shelf.ofFeatures features = some shelf ∧ shelf.values = (ofFeatures features).toList ∧
      (∀ key place, (key, place) ∈ shelf.index.entries ↔
        ∃ feature, shelf.values[place]? = some feature ∧ nameKey feature.name = key) ∧
      shelf.index.keys.Nodup ∧
      (∀ entry ∈ shelf.index.entries, entry.2 < shelf.values.length) ∧
      ∀ query, (ofFeatures features).find? query = (shelf.position? query).bind (shelf.values[·]?)) ∧
    (∀ query feature, (ofFeatures features).find? query = some feature ↔
      ∃ before after, features = before ++ feature :: after ∧ nameKey feature.name = nameKey query ∧
        ∀ other ∈ after, nameKey other.name ≠ nameKey query) ∧
    (∀ query, (ofFeatures features).find? query = none ↔
      ∀ feature ∈ features, nameKey feature.name ≠ nameKey query) ∧
    (∀ query, (ofFeatures features).contains query = ((ofFeatures features).find? query).isSome) ∧
    (ofFeatures features).size = (features.map fun feature => nameKey feature.name).toFinset.card ∧
    (ofFeatures features).flags =
      (firstSpellings (features.map (·.name))).map (lastSpelling (features.map (·.name))) := by
  have aligned := Shelf.aligned_ofTable (keyed_ofFeatures features)
  refine ⟨⟨_, Shelf.ofFeatures_eq features, rfl, fun key place => aligned.mem_entries_iff,
      aligned.nodup_keys, ?_, ?_⟩,
    fun query feature => find?_ofFeatures_eq_some_iff, fun query => find?_ofFeatures_eq_none_iff,
    contains_eq_isSome _, size_ofFeatures features, flags_ofFeatures features⟩
  · rintro ⟨key, place⟩ listed
    obtain ⟨feature, here, -⟩ := aligned.mem_entries_iff.mp listed
    exact (List.getElem?_eq_some_iff.mp here).1
  · intro query
    rw [Shelf.position?_ofTable]
    exact NameTable.find?_eq_position? _ query

end FeatureFlags
