import FeatureFlags.Registry
import FeatureFlags.Proofs.Name.Table
import FeatureFlags.Proofs.Text.Quoted
import Mathlib.Data.Finset.Card
import Mathlib.Data.String.Basic

namespace FeatureFlags.Registry

variable {σ : Type}

def registerAll (registry : Registry σ) (registrations : List (String × Specification σ)) : Registry σ :=
  registrations.foldl (fun registry registration => registry.register registration.1 registration.2)
    registry

theorem prototypes_registerAll (registry : Registry σ) (registrations : List (String × Specification σ)) :
    (registry.registerAll registrations).prototypes = registry.prototypes.insertAll registrations :=
  (List.foldl_hom prototypes fun _ _ => rfl).symm

theorem find?_registerAll (registry : Registry σ) (registrations : List (String × Specification σ))
    (name : String) :
    (registry.registerAll registrations).find? name =
      ((registrations.reverse.find? (sameName name ·.1)).map (·.2)).or (registry.find? name) := by
  rw [find?, prototypes_registerAll, NameTable.find?_insertAll]
  rfl

theorem find?_registerAll_of_other {registrations : List (String × Specification σ)} {name : String}
    (other : ∀ registration ∈ registrations, nameKey registration.1 ≠ nameKey name)
    (registry : Registry σ) : (registry.registerAll registrations).find? name = registry.find? name := by
  have missing : registrations.reverse.find? (sameName name ·.1) = none := by
    rw [List.find?_eq_none]
    intro registration member same
    exact other registration (List.mem_reverse.mp member) (sameName_iff.mp same).symm
  rw [find?_registerAll, missing, Option.map_none, Option.none_or]

section Names

variable {registry : Registry σ} {key : String}

theorem mem_names : key ∈ registry.names ↔ key ∈ registry.prototypes.keys :=
  (List.mergeSort_perm _ _).mem_iff

theorem pairwise_names (distinct : registry.prototypes.keys.Nodup) : registry.names.Pairwise (· < ·) := by
  have ordered : registry.names.Pairwise fun left right => decide (left ≤ right) = true := by
    apply List.pairwise_mergeSort
    · intro left middle right first second
      rw [decide_eq_true_eq] at first second ⊢
      exact String.le_trans first second
    · intro left right
      rw [Bool.or_eq_true, decide_eq_true_eq, decide_eq_true_eq]
      exact String.le_total left right
  have once : registry.names.Nodup := (List.mergeSort_perm _ _).nodup_iff.mpr distinct
  apply (ordered.and once).imp
  rintro left right ⟨before, different⟩
  exact lt_of_le_of_ne (of_decide_eq_true before) different

theorem size_eq_card (distinct : registry.prototypes.keys.Nodup) :
    registry.size = registry.prototypes.keys.toFinset.card := by
  rw [List.toFinset_card_of_nodup distinct]
  exact (List.length_map _).symm

end Names

section Printed

open Text Text.Reader

theorem quoteName_injective : Function.Injective quoteName := by
  intro left right same
  have texts := String.ofList_injective same
  exact String.toList_inj.mp (quote_append_inj (congrArg (· ++ []) texts)).1

def readNames (text : String) : Option (List String) :=
  match word "SpecificationRegistry \x7b names: [".toList text.toList with
  | none => none
  | some (_, rest) =>
    match separated quoted (word ", ".toList) rest with
    | some (names, [']', ' ', '\x7d']) => some (names.map String.ofList)
    | _ => none

theorem readNames_summary {names : List String} (shown : names ≠ []) :
    readNames ("SpecificationRegistry \x7b names: [" ++ ", ".intercalate (names.map quoteName) ++ "] \x7d") =
      some names := by
  obtain ⟨first, others, rfl⟩ := List.exists_cons_of_ne_nil shown
  have listed : (", ".intercalate ((first :: others).map quoteName)).toList =
      ", ".toList.intercalate (((first :: others).map String.toList).map quote) := by
    rw [String.toList_intercalate, List.map_map, List.map_map]
    simp [Function.comp_def, quoteName]
  have read : separated quoted (word ", ".toList)
      (", ".toList.intercalate (((first :: others).map String.toList).map quote) ++ "] \x7d".toList) =
        some ((first :: others).map String.toList, "] \x7d".toList) :=
    separated_intercalate quoted_reads (word_append ", ".toList) (fun _ => List.cons_ne_nil _ _) rfl
      first.toList (others.map String.toList)
  rw [readNames, String.toList_append, String.toList_append, listed, List.append_assoc, word_append]
  dsimp only
  rw [read]
  simp [Function.comp_def]

end Printed

def builtin? (name : String) : Option (Specification σ) :=
  if sameName name "true" then some (.constant true)
  else if sameName name "false" then some (.constant false)
  else none

theorem find?_initial (name : String) : (initial : Registry σ).find? name = builtin? name := by
  have apart : nameKey "true" ≠ nameKey "false" := by decide +kernel
  rw [find?, initial, register, register, NameTable.find?_insert, NameTable.find?_insert, builtin?]
  by_cases yes : nameKey name = nameKey "true"
  · have no : sameName name "false" = false := by simp [sameName, yes, apart]
    rw [no, if_neg Bool.false_ne_true, if_pos (sameName_iff.mpr yes), if_pos (sameName_iff.mpr yes)]
  · rw [if_neg (sameName_iff.not.mpr yes), if_neg (sameName_iff.not.mpr yes)]
    rfl

def knownNames (registrations : List (String × Specification σ)) : List String :=
  "true" :: "false" :: registrations.map (·.1)

section Registered

variable (registrations : List (String × Specification σ))

theorem prototypes_registered :
    (initial.registerAll registrations).prototypes =
      .insertAll {} (("true", .constant true) :: ("false", .constant false) :: registrations) :=
  prototypes_registerAll initial registrations

theorem nodup_keys_registered : (initial.registerAll registrations).prototypes.keys.Nodup := by
  have nodup : ({} : NameTable (Specification σ)).keys.Nodup := List.nodup_nil
  rw [prototypes_registered]
  exact NameTable.nodup_keys_insertAll nodup _

theorem mem_keys_registered {key : String} :
    key ∈ (initial.registerAll registrations).prototypes.keys ↔
      key ∈ (knownNames registrations).map nameKey := by
  rw [prototypes_registered, NameTable.mem_keys_insertAll, knownNames]
  simp [NameTable.keys]

theorem contains_registered_iff {name : String} :
    (initial.registerAll registrations).contains name = true ↔
      nameKey name ∈ (knownNames registrations).map nameKey := by
  rw [contains, NameTable.contains_iff, mem_keys_registered]

theorem size_registered :
    (initial.registerAll registrations).size = ((knownNames registrations).map nameKey).toFinset.card := by
  rw [size_eq_card (nodup_keys_registered registrations)]
  congr 1
  ext key
  rw [List.mem_toFinset, List.mem_toFinset, mem_keys_registered]

theorem names_registered_ne_nil : (initial.registerAll registrations).names ≠ [] := by
  have known : nameKey "true" ∈ (initial.registerAll registrations).prototypes.keys :=
    (mem_keys_registered registrations).mpr List.mem_cons_self
  exact List.ne_nil_of_mem (mem_names.mpr known)

theorem readNames_registered :
    readNames (initial.registerAll registrations).summary = some (initial.registerAll registrations).names :=
  readNames_summary (names_registered_ne_nil registrations)

theorem eq_names_of_printed {names : List String}
    (printed : (initial.registerAll registrations).summary =
      "SpecificationRegistry \x7b names: [" ++ ", ".intercalate (names.map quoteName) ++ "] \x7d") :
    names = (initial.registerAll registrations).names := by
  have read := readNames_registered registrations
  rw [printed] at read
  cases names with
  | nil =>
    have nothing : readNames ("SpecificationRegistry \x7b names: [" ++ ", ".intercalate [] ++ "] \x7d") = none := by
      decide +kernel
    cases nothing.symm.trans read
  | cons first others =>
    rw [readNames_summary (List.cons_ne_nil first others), Option.some_inj] at read
    exact read

theorem isEmpty_registered : (initial.registerAll registrations).isEmpty = false := by
  have known : nameKey "true" ∈ (initial.registerAll registrations).prototypes.keys :=
    (mem_keys_registered registrations).mpr List.mem_cons_self
  obtain ⟨entry, present, -⟩ := List.mem_map.mp known
  rw [isEmpty, NameTable.isEmpty, List.isEmpty_eq_false_iff]
  exact List.ne_nil_of_mem present

/-- Whatever is registered in turn, the last specification of a name is found under every spelling of it, and
    one that was there from the beginning until it is replaced; `true` and `false` stay known. The names that
    can be read in the text are the keys of those that are known, each once, by code point; it is the text of
    no other names. -/
theorem registerAll_initial :
    (∀ name, (initial.registerAll registrations).find? name =
      ((registrations.reverse.find? (sameName name ·.1)).map (·.2)).or (builtin? name)) ∧
    (∀ name, (initial.registerAll registrations).contains name =
      ((initial.registerAll registrations).find? name).isSome) ∧
    (initial.registerAll registrations).contains "true" = true ∧
    (initial.registerAll registrations).contains "false" = true ∧
    (initial.registerAll registrations).isEmpty = false ∧
    (initial.registerAll registrations).size = ((knownNames registrations).map nameKey).toFinset.card ∧
    ∃ shown : List String,
      (initial.registerAll registrations).summary =
        "SpecificationRegistry \x7b names: [" ++ ", ".intercalate (shown.map quoteName) ++ "] \x7d" ∧
      readNames (initial.registerAll registrations).summary = some shown ∧
      (∀ names : List String, (initial.registerAll registrations).summary =
        "SpecificationRegistry \x7b names: [" ++ ", ".intercalate (names.map quoteName) ++ "] \x7d" →
          names = shown) ∧
      shown.Pairwise (· < ·) ∧ ∀ key, key ∈ shown ↔ key ∈ (knownNames registrations).map nameKey := by
  refine ⟨?_, fun name => (NameTable.isSome_find? _ name).symm, ?_, ?_, isEmpty_registered registrations,
    size_registered registrations, (initial.registerAll registrations).names, rfl,
    readNames_registered registrations, ?_, pairwise_names (nodup_keys_registered registrations), ?_⟩
  · intro name
    rw [find?_registerAll, find?_initial]
  · exact (contains_registered_iff registrations).mpr List.mem_cons_self
  · exact (contains_registered_iff registrations).mpr (List.mem_cons_of_mem _ List.mem_cons_self)
  · exact fun names printed => eq_names_of_printed registrations printed
  · intro key
    rw [mem_names, mem_keys_registered]

example : (initial.register "custom" (.constant true) : Registry Empty).summary =
    "SpecificationRegistry \x7b names: [\"custom\", \"false\", \"true\"] \x7d" := by
  have keys : (initial.register "custom" (.constant true) : Registry Empty).prototypes.keys =
      ["true", "false", "custom"] := by
    decide +kernel
  have sorted : (initial.register "custom" (.constant true) : Registry Empty).names =
      ["custom", "false", "true"] := by
    simp [names, keys, List.mergeSort, List.MergeSort.Internal.splitInTwo, List.splitAt, List.splitAt.go]
  unfold summary
  generalize (initial.register "custom" (.constant true) : Registry Empty).names = shown at sorted ⊢
  subst sorted
  decide +kernel

end Registered

end FeatureFlags.Registry
