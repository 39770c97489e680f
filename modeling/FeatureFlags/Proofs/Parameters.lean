import FeatureFlags.Parameters
import FeatureFlags.Proofs.Name.Spellings
import Mathlib.Data.Finset.Card
import Mathlib.Data.List.Induction

namespace FeatureFlags

namespace Parameters

theorem contains_congr {name other : String} (same : nameKey name = nameKey other)
    (parameters : Parameters) :
    parameters.values.contains name = parameters.values.contains other := by
  simp only [NameTable.contains, same]

theorem contains_insert (values : NameTable String) (name value other : String) :
    (values.insert name value).contains other = (values.contains other || sameName name other) := by
  simp only [← NameTable.isSome_find?, NameTable.find?_insert, sameName_comm name]
  cases sameName other name <;> simp

theorem insertAll_concat (parameters : Parameters) (pairs : List (String × String)) (name value : String) :
    parameters.insertAll (pairs ++ [(name, value)]) =
      if (parameters.insertAll pairs).values.contains name then parameters.insertAll pairs
      else ⟨(parameters.insertAll pairs).values.insert name value⟩ := by
  have step : parameters.insertAll (pairs ++ [(name, value)]) =
      ((parameters.insertAll pairs).insert name value).toOption.getD (parameters.insertAll pairs) := by
    simp only [insertAll, List.foldl_append, List.foldl_cons, List.foldl_nil]
  rw [step, insert]
  split <;> rfl

theorem contains_insertAll (parameters : Parameters) (pairs : List (String × String)) (name : String) :
    (parameters.insertAll pairs).values.contains name =
      (parameters.values.contains name || pairs.any (sameName ·.1 name)) := by
  induction pairs using List.reverseRecOn with
  | nil => simp [insertAll]
  | append_singleton pairs pair ih =>
    rcases pair with ⟨other, value⟩
    rw [insertAll_concat, List.any_append, ← Bool.or_assoc, ← ih, List.any_cons, List.any_nil,
      Bool.or_false]
    split
    · rename_i present
      cases same : sameName other name
      · rw [Bool.or_false]
      · rw [← contains_congr (sameName_iff.mp same), present, Bool.or_true]
    · exact contains_insert _ _ _ _

theorem isSome_get? (parameters : Parameters) (name : String) :
    (parameters.get? name).isSome = parameters.values.contains name :=
  NameTable.isSome_find? _ _

theorem get?_insert (values : NameTable String) (name value other : String) :
    get? ⟨values.insert name value⟩ other =
      if sameName other name then some value else get? ⟨values⟩ other :=
  NameTable.find?_insert _ _ _ _

theorem get?_insertAll (parameters : Parameters) (settings : List (String × String)) (name : String) :
    (parameters.insertAll settings).get? name =
      (parameters.get? name).or ((settings.find? (sameName ·.1 name)).map (·.2)) := by
  induction settings using List.reverseRecOn with
  | nil => simp [insertAll]
  | append_singleton settings setting ih =>
    rcases setting with ⟨other, value⟩
    rw [insertAll_concat, List.find?_append, List.find?_singleton]
    by_cases present : (parameters.insertAll settings).values.contains other = true
    · rw [if_pos present, ih]
      cases same : sameName other name
      · simp
      · have found : ((parameters.get? name).or
            ((settings.find? (sameName ·.1 name)).map (·.2))).isSome = true := by
          rw [← ih, isSome_get?, ← contains_congr (sameName_iff.mp same), present]
        cases before : parameters.get? name with
        | some _ => rfl
        | none =>
          rw [before, Option.none_or, Option.isSome_map] at found
          obtain ⟨first, found⟩ := Option.isSome_iff_exists.mp found
          simp [found]
    · rw [if_neg present, get?_insert, sameName_comm]
      cases same : sameName other name
      · simpa using ih
      · have missing : (parameters.insertAll settings).get? name = none := by
          rw [← Option.not_isSome_iff_eq_none, isSome_get?, ← contains_congr (sameName_iff.mp same)]
          exact present
        rw [ih, Option.or_eq_none_iff, Option.map_eq_none_iff] at missing
        simp [missing]

section Insert

variable {parameters : Parameters} {name value : String}

theorem isOk_insert (parameters : Parameters) (name value : String) :
    (parameters.insert name value).isOk = !parameters.values.contains name := by
  rw [insert]
  cases parameters.values.contains name <;> rfl

theorem insert_eq_error {duplicate : DuplicateParameter}
    (refused : parameters.insert name value = .error duplicate) :
    duplicate = ⟨name⟩ ∧ parameters.values.contains name = true := by
  rw [insert] at refused
  split at refused
  · rename_i present
    exact ⟨(Except.error.inj refused).symm, present⟩
  · cases refused

theorem insertAll_concat_of_refused {pairs : List (String × String)} {duplicate : DuplicateParameter}
    (refused : (parameters.insertAll pairs).insert name value = .error duplicate) :
    parameters.insertAll (pairs ++ [(name, value)]) = parameters.insertAll pairs := by
  rw [insertAll_concat, if_pos (insert_eq_error refused).2]

theorem insertAll_concat_of_accepted {pairs : List (String × String)} {next : Parameters}
    (accepted : (parameters.insertAll pairs).insert name value = .ok next) :
    parameters.insertAll (pairs ++ [(name, value)]) = next := by
  rw [insert] at accepted
  rw [insertAll_concat]
  split at accepted
  · cases accepted
  · rename_i absent
    rw [if_neg absent]
    exact Except.ok.inj accepted

end Insert

section Given

variable {given : List (String × String)} {name : String}

theorem contains_ofList (given : List (String × String)) (name : String) :
    (ofList given).values.contains name = given.any (sameName ·.1 name) := by
  rw [ofList, contains_insertAll]
  rfl

theorem get?_ofList (given : List (String × String)) (name : String) :
    (ofList given).get? name = (given.find? (sameName ·.1 name)).map (·.2) := by
  rw [ofList, get?_insertAll]
  rfl

theorem keys_ofList (given : List (String × String)) :
    (ofList given).values.keys = (firstSpellings (given.map (·.1))).map nameKey := by
  induction given using List.reverseRecOn with
  | nil => rfl
  | append_singleton given pair ih =>
    rcases pair with ⟨name, value⟩
    have known : (ofList given).values.contains name = true ↔ nameKey name ∈ (given.map (·.1)).map nameKey := by
      rw [NameTable.contains_iff, ih, nameKey_mem_firstSpellings_iff]
    rw [ofList, insertAll_concat, ← ofList, List.map_append, List.map_singleton, firstSpellings_concat]
    by_cases present : (ofList given).values.contains name = true
    · rw [if_pos present, if_pos (known.mp present), ih]
    · rw [if_neg present, if_neg (known.not.mp present), NameTable.keys_insert,
        if_neg (NameTable.contains_iff.not.mp present), ih, List.map_append, List.map_singleton]

theorem size_ofList (given : List (String × String)) :
    (ofList given).size = (given.map fun pair => nameKey pair.1).toFinset.card := by
  have entries : (ofList given).size = (ofList given).values.keys.length := (List.length_map _).symm
  rw [entries, keys_ofList, List.length_map, length_firstSpellings, List.map_map]
  rfl

theorem exists_accepted_of_contains (present : (ofList given).values.contains name = true) :
    ∃ before pair after, given = before ++ pair :: after ∧
      ((ofList before).insert pair.1 pair.2).isOk = true ∧ nameKey pair.1 = nameKey name := by
  rw [contains_ofList, ← List.isSome_find?, Option.isSome_iff_exists] at present
  obtain ⟨pair, found⟩ := present
  obtain ⟨same, before, after, parts, others⟩ := List.find?_eq_some_iff_append.mp found
  refine ⟨before, pair, after, parts, ?_, sameName_iff.mp same⟩
  rw [isOk_insert, contains_ofList, Bool.not_eq_true', List.any_eq_false]
  intro other member again
  rw [sameName_congr_right (sameName_iff.mp same)] at again
  simpa [again] using others other member

theorem isOk_insert_ofList_iff (given : List (String × String)) (name value : String) :
    ((ofList given).insert name value).isOk = true ↔
      ∀ before pair after, given = before ++ pair :: after →
        ((ofList before).insert pair.1 pair.2).isOk = true → nameKey pair.1 ≠ nameKey name := by
  rw [isOk_insert, Bool.not_eq_true']
  constructor
  · rintro absent before pair after rfl - same
    rw [contains_ofList, List.any_eq_false] at absent
    exact absent pair (List.mem_append_right _ List.mem_cons_self) (sameName_iff.mpr same)
  · intro different
    by_contra present
    obtain ⟨before, pair, after, parts, accepted, same⟩ :=
      exists_accepted_of_contains (Bool.eq_true_of_not_eq_false present)
    exact different before pair after parts accepted same

theorem isEmpty_iff_size (parameters : Parameters) : parameters.isEmpty = true ↔ parameters.size = 0 := by
  rw [isEmpty, NameTable.isEmpty, List.isEmpty_iff, size, NameTable.size, List.length_eq_zero_iff]

end Given

section Read

variable {ε α : Type} {parameters : Parameters} {reader : String → Except ε α}

theorem require_eq_ok_iff {flag name raw : String} :
    parameters.require flag name = .ok raw ↔ parameters.get? name = some raw := by
  unfold require
  cases parameters.get? name <;> simp

/-- All that can become of a parameter that has to be read: it is missing, or its text is refused, or it has
    a value. -/
theorem requireRead_cases (parameters : Parameters) (reader : String → Except ε α) (flag name : String) :
    parameters.get? name = none ∧ parameters.read? reader name = none ∧
        parameters.requireRead reader flag name = .error ⟨flag, .missing name⟩ ∨
      (∃ raw error, parameters.get? name = some raw ∧ parameters.read? reader name = some (.error error) ∧
        parameters.requireRead reader flag name = .error ⟨flag, .malformed name raw⟩) ∨
      ∃ raw value, parameters.get? name = some raw ∧ parameters.read? reader name = some (.ok value) ∧
        parameters.requireRead reader flag name = .ok value := by
  unfold requireRead require read?
  cases parameters.get? name with
  | none => exact Or.inl ⟨rfl, rfl, rfl⟩
  | some raw =>
    rw [Option.map_some]
    dsimp only
    cases reader raw with
    | error error => exact Or.inr (Or.inl ⟨raw, error, rfl, rfl, rfl⟩)
    | ok value => exact Or.inr (Or.inr ⟨raw, value, rfl, rfl, rfl⟩)

theorem requireRead_eq_ok_iff (flag : String) {name : String} {value : α} :
    parameters.requireRead reader flag name = .ok value ↔
      parameters.read? reader name = some (.ok value) := by
  rcases parameters.requireRead_cases reader flag name with
    ⟨-, read, answer⟩ | ⟨raw, error, -, read, answer⟩ | ⟨raw, other, -, read, answer⟩ <;>
    simp [read, answer]

theorem requireRead_eq_missing_iff {flag name : String} :
    parameters.requireRead reader flag name = .error ⟨flag, .missing name⟩ ↔
      parameters.read? reader name = none := by
  rcases parameters.requireRead_cases reader flag name with
    ⟨-, read, answer⟩ | ⟨raw, error, -, read, answer⟩ | ⟨raw, other, -, read, answer⟩ <;>
    simp [read, answer]

theorem requireRead_eq_malformed_iff {flag name raw : String} :
    parameters.requireRead reader flag name = .error ⟨flag, .malformed name raw⟩ ↔
      parameters.get? name = some raw ∧ ∃ error, parameters.read? reader name = some (.error error) := by
  rcases parameters.requireRead_cases reader flag name with
    ⟨-, read, answer⟩ | ⟨other, error, found, read, answer⟩ | ⟨other, value, -, read, answer⟩
  · simp [read, answer]
  · simp [found, read, answer]
  · simp [read, answer]

end Read

end Parameters

theorem InvalidReason.text_missing_ne (name other raw : String) :
    (missing name).text ≠ (malformed other raw).text := by
  unfold text
  intro same
  have first := congrArg String.toList same
  simp only [String.toList_append] at first
  simp at first

/-- A store keeps the first value that it is given for a name, under every spelling of the name, and refuses
    all others. A parameter is there for a check exactly if it is found, and is read there as it is read
    elsewhere; a check tells a missing parameter from one that has another text than it should. -/
theorem Parameters.ofList_writes_once (given : List (String × String)) (name value : String) :
    (((ofList given).insert name value).isOk = true ↔
      ∀ before pair after, given = before ++ pair :: after →
        ((ofList before).insert pair.1 pair.2).isOk = true → nameKey pair.1 ≠ nameKey name) ∧
    (∀ duplicate, (ofList given).insert name value = .error duplicate →
      duplicate = ⟨name⟩ ∧ ofList (given ++ [(name, value)]) = ofList given) ∧
    (∀ next, (ofList given).insert name value = .ok next → ofList (given ++ [(name, value)]) = next) ∧
    (ofList given).get? name = (given.find? (sameName ·.1 name)).map (·.2) ∧
    (∀ later text, (ofList given).get? name = some text → (ofList (given ++ later)).get? name = some text) ∧
    (ofList given).size = (given.map fun pair => nameKey pair.1).toFinset.card ∧
    ((ofList given).isEmpty = true ↔ (ofList given).size = 0) ∧
    (∀ flag text, (ofList given).require flag name = .ok text ↔ (ofList given).get? name = some text) ∧
    ∀ (ε α : Type) (reader : String → Except ε α) (flag : String),
      (∀ result, (ofList given).read? reader name = some result ↔
        ∃ text, (ofList given).get? name = some text ∧ reader text = result) ∧
      (∀ result, (ofList given).requireRead reader flag name = .ok result ↔
        (ofList given).read? reader name = some (.ok result)) ∧
      ((ofList given).requireRead reader flag name = .error ⟨flag, .missing name⟩ ↔
        (ofList given).read? reader name = none) ∧
      ∀ raw, ((ofList given).requireRead reader flag name = .error ⟨flag, .malformed name raw⟩ ↔
          (ofList given).get? name = some raw ∧
            ∃ error, (ofList given).read? reader name = some (.error error)) ∧
        (InvalidReason.missing name).text ≠ (InvalidReason.malformed name raw).text := by
  refine ⟨isOk_insert_ofList_iff given name value, ?_, ?_, get?_ofList given name, ?_, size_ofList given,
    isEmpty_iff_size _, fun flag text => require_eq_ok_iff, ?_⟩
  · intro duplicate refused
    exact ⟨(insert_eq_error refused).1, insertAll_concat_of_refused refused⟩
  · intro next accepted
    exact insertAll_concat_of_accepted accepted
  · intro later text found
    have kept : ofList (given ++ later) = (ofList given).insertAll later := List.foldl_append
    rw [kept, get?_insertAll, found, Option.some_or]
  · intro ε α reader flag
    refine ⟨fun result => Option.map_eq_some_iff, fun result => requireRead_eq_ok_iff flag,
      requireRead_eq_missing_iff, ?_⟩
    intro raw
    exact ⟨requireRead_eq_malformed_iff, InvalidReason.text_missing_ne name name raw⟩

example : (Parameters.ofList [("Min", "1"), ("MIN", "2")]).get? "min" = some "1" := by decide +kernel

end FeatureFlags
