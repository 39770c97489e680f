import FeatureFlags.Criterion.Stored
import FeatureFlags.Proofs.Feature.Assign
import FeatureFlags.Proofs.Name.Table
import Mathlib.Data.List.Nodup

namespace FeatureFlags

variable {σ : Type} [Criterion σ]

def Criterion.StoresIn (embed : Parameters → σ) : Prop :=
  ∀ parameters name value, Criterion.assign (embed parameters) name value =
    match parameters.insert name value with
    | .ok stored => (.ok (), embed stored)
    | .error duplicate => (.error duplicate, embed parameters)

theorem Stored.storesIn {ρ : Type} [ParameterRule ρ] (rule : ρ) :
    Criterion.StoresIn fun parameters => (⟨rule, parameters⟩ : Stored ρ) := by
  intro parameters name value
  simp only [Criterion.assign, Stored.assign]
  cases parameters.insert name value <;> rfl

theorem Specification.assign_stored {embed : Parameters → σ} (stores : Criterion.StoresIn embed)
    (parameters : Parameters) (name value : String) :
    (Specification.custom (embed parameters)).assign name value =
      if parameters.values.contains name then (.error ⟨name⟩, .custom (embed parameters))
      else (.ok (), .custom (embed ⟨parameters.values.insert name value⟩)) := by
  cases known : parameters.values.contains name <;>
    simp only [assign, stores parameters name value, Parameters.insert, known, Bool.false_eq_true, ↓reduceIte]

namespace Attached

/-- What becomes of an attached specification while parameters are assigned to it, of which the listed ones
    are accepted. -/
inductive Grown (start : Attached σ) : List (String × String) → Attached σ → Prop where
  | start : Grown start [] start
  | accepted {given : List (String × String)} {attached : Attached σ} {name value : String}
    (grown : Grown start given attached) (answer : (attached.assign name value).1 = .ok ()) :
    Grown start (given ++ [(name, value)]) (attached.assign name value).2
  | refused {given : List (String × String)} {attached : Attached σ} {name value : String}
    {duplicate : DuplicateParameter} (grown : Grown start given attached)
    (answer : (attached.assign name value).1 = .error duplicate) :
    Grown start given (attached.assign name value).2

namespace Grown

variable {start attached : Attached σ} {given : List (String × String)}

theorem name (grown : Grown start given attached) : attached.name = start.name := by
  induction grown with
  | start => rfl
  | accepted _ answer ih => rw [(assign_of_ok answer).2.2, ih]
  | refused _ answer ih => rw [(assign_of_refused answer).1, ih]

theorem assigned (grown : Grown start given attached) :
    attached.assigned = start.assigned ++ given.map fun pair => nameKey pair.1 := by
  induction grown with
  | start => rw [List.map_nil, List.append_nil]
  | accepted _ answer ih =>
    rw [(assign_of_ok answer).2.2, List.map_append, ← List.append_assoc, ← ih, List.map_singleton]
  | refused _ answer ih => rw [(assign_of_refused answer).2.1, ih]

theorem nodup (grown : Grown start given attached) (once : start.assigned.Nodup) :
    attached.assigned.Nodup := by
  induction grown with
  | start => exact once
  | accepted _ answer ih =>
    obtain ⟨untracked, -, result⟩ := assign_of_ok answer
    rw [result]
    exact List.nodup_append.mpr ⟨ih, List.nodup_singleton _,
      fun key member other new same => untracked (List.mem_singleton.mp new ▸ same ▸ member)⟩
  | refused _ answer ih => rw [(assign_of_refused answer).2.1]; exact ih

variable {embed : Parameters → σ} {initial : Parameters}

theorem stored (grown : Grown start given attached) (stores : Criterion.StoresIn embed)
    (kept : start.specification = .custom (embed initial)) :
    ∃ parameters, attached.specification = .custom (embed parameters) ∧
      parameters.values.entries =
        initial.values.entries ++ given.map (fun pair => (nameKey pair.1, pair.2)) ∧
      ∀ pair ∈ given, initial.values.contains pair.1 = false := by
  induction grown with
  | start => exact ⟨initial, kept, (List.append_nil _).symm, fun _ member => absurd member List.not_mem_nil⟩
  | @accepted given attached name value _ answer ih =>
    obtain ⟨parameters, state, entries, apart⟩ := ih
    obtain ⟨-, taken, result⟩ := assign_of_ok answer
    rw [state, Specification.assign_stored stores] at taken
    -- The store was asked and took the parameter, so it did not have the name.
    have absent : parameters.values.contains name = false := by
      cases known : parameters.values.contains name with
      | false => rfl
      | true => simp only [known, ↓reduceIte, reduceCtorEq] at taken
    refine ⟨⟨parameters.values.insert name value⟩, ?_, ?_, ?_⟩
    · rw [result, state, Specification.assign_stored stores, absent]
      rfl
    · rw [NameTable.entries_insert_of_absent absent, entries, List.map_append, List.map_singleton,
        List.append_assoc]
    · rw [NameTable.contains, entries, List.any_append, Bool.or_eq_false_iff] at absent
      exact List.forall_mem_append.mpr ⟨apart, List.forall_mem_singleton.mpr absent.1⟩
  | @refused given attached name value _ _ answer ih =>
    obtain ⟨parameters, state, entries, apart⟩ := ih
    refine ⟨parameters, ?_, entries, apart⟩
    -- A known name does not reach the store, and a store that refuses stays as it is.
    rcases (assign_of_refused answer).2.2 with same | ⟨duplicate, refused, left⟩
    · rw [same, state]
    · rw [state, Specification.assign_stored stores] at refused left
      split at left <;> rename_i known
      · exact left
      · simp only [known, Bool.false_eq_true, ↓reduceIte, reduceCtorEq] at refused

theorem accepts_untracked (grown : Grown start given attached) (stores : Criterion.StoresIn embed)
    (kept : start.specification = .custom (embed initial)) (empty : initial.isEmpty = true)
    {name : String} (untracked : nameKey name ∉ attached.assigned) (value : String) :
    (attached.specification.assign name value).1 = .ok () := by
  obtain ⟨parameters, state, entries, -⟩ := grown.stored stores kept
  have absent : parameters.values.contains name = false := by
    rw [Parameters.isEmpty, NameTable.isEmpty, List.isEmpty_iff] at empty
    rw [grown.assigned, List.mem_append, not_or] at untracked
    rw [NameTable.contains, entries, empty, List.nil_append, List.any_map, List.any_eq_false]
    intro pair member same
    exact untracked.2 (List.mem_map.mpr ⟨pair, member, beq_iff_eq.mp same⟩)
  rw [state, Specification.assign_stored stores, absent]
  rfl

end Grown

structure Keeps (start : Attached σ) (given : List (String × String)) (attached : Attached σ) : Prop where
  name : attached.name = start.name
  tracked : attached.assigned = given.map fun pair => nameKey pair.1
  once : attached.assigned.Nodup
  stored : ∀ embed initial, Criterion.StoresIn embed → start.specification = .custom (embed initial) →
    ∃ parameters, attached.specification = .custom (embed parameters) ∧
      parameters.values.entries =
        initial.values.entries ++ given.map (fun pair => (nameKey pair.1, pair.2)) ∧
      ∀ pair ∈ given, initial.values.contains pair.1 = false
  untracked : ∀ embed initial, Criterion.StoresIn embed → start.specification = .custom (embed initial) →
    initial.isEmpty = true → ∀ name value, nameKey name ∉ attached.assigned →
      (attached.specification.assign name value).1 = .ok ()

theorem Grown.keeps {start attached : Attached σ} {given : List (String × String)}
    (grown : Grown start given attached) (fresh : start.assigned = []) : Keeps start given attached where
  name := grown.name
  tracked := by rw [grown.assigned, fresh, List.nil_append]
  once := grown.nodup (fresh ▸ List.nodup_nil)
  stored _ _ stores kept := grown.stored stores kept
  untracked _ _ stores kept empty _ value untracked := grown.accepts_untracked stores kept empty untracked value

end Attached

end FeatureFlags
