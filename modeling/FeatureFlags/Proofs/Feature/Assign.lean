import FeatureFlags.Feature
import Mathlib.Data.List.Basic

namespace FeatureFlags

variable {σ : Type}

namespace Attached

structure IsLatest (specification : String) (attached : List (Attached σ)) (index : Nat)
    (host : Attached σ) : Prop where
  here : attached[index]? = some host
  named : host.goesBy specification = true
  last : ∀ later other, index < later → attached[later]? = some other →
    other.goesBy specification = false

variable {specification name value : String} {attached : List (Attached σ)}

theorem IsLatest.cons {index : Nat} {host : Attached σ} (latest : IsLatest specification attached index host)
    (head : Attached σ) : IsLatest specification (head :: attached) (index + 1) host where
  here := latest.here
  named := latest.named
  last
    | 0, _, before, _ => absurd before (Nat.not_lt_zero _)
    | later + 1, other, before, found => latest.last later other (Nat.lt_of_succ_lt_succ before) found

theorem isLatest_head {head : Attached σ} (named : head.goesBy specification = true)
    (others : ∀ other ∈ attached, other.goesBy specification = false) :
    IsLatest specification (head :: attached) 0 head where
  here := rfl
  named := named
  last
    | 0, _, before, _ => absurd before (Nat.lt_irrefl 0)
    | _ + 1, other, _, found => others other (List.mem_of_getElem? found)

theorem IsLatest.of_concat {index : Nat} {host attachedLast : Attached σ}
    (latest : IsLatest specification (attached ++ [attachedLast]) index host) :
    attachedLast.goesBy specification = true ∧ index = attached.length ∨
      attachedLast.goesBy specification = false ∧ IsLatest specification attached index host := by
  have here := latest.here
  rcases Nat.lt_trichotomy index attached.length with before | rfl | beyond
  · rw [List.getElem?_append_left before] at here
    refine Or.inr ⟨latest.last attached.length attachedLast before List.getElem?_concat_length,
      here, latest.named, ?_⟩
    intro later other after found
    refine latest.last later other after ?_
    rw [List.getElem?_append_left (List.getElem?_eq_some_iff.mp found).1, found]
  · rw [List.getElem?_concat_length] at here
    cases here
    exact Or.inl ⟨latest.named, rfl⟩
  · rw [List.getElem?_eq_none (by rw [List.length_append]; exact beyond)] at here
    cases here

variable [Criterion σ]

/-- A parameter is handed to the last specification of the name, if there is one, and to no other. -/
theorem assignLast_cases (specification name value : String) (attached : List (Attached σ)) :
    (∃ index host, IsLatest specification attached index host ∧
      assignLast specification name value attached =
        some ((host.assign name value).1, attached.set index (host.assign name value).2)) ∨
      (∀ other ∈ attached, other.goesBy specification = false) ∧
        assignLast specification name value attached = none := by
  induction attached with
  | nil => exact Or.inr ⟨fun _ member => absurd member List.not_mem_nil, rfl⟩
  | cons head rest ih =>
    rcases ih with ⟨index, host, latest, answer⟩ | ⟨others, none⟩
    · refine Or.inl ⟨index + 1, host, latest.cons head, ?_⟩
      rw [assignLast, answer, List.set_cons_succ]
    · cases named : head.goesBy specification with
      | true =>
        refine Or.inl ⟨0, head, isLatest_head named others, ?_⟩
        rw [assignLast, none]
        simp only [named, ↓reduceIte, List.set_cons_zero]
      | false =>
        refine Or.inr ⟨List.forall_mem_cons.mpr ⟨named, others⟩, ?_⟩
        rw [assignLast, none]
        simp only [named, Bool.false_eq_true, ↓reduceIte]

/-- All that can become of a parameter: it is known to be given, or the specification refuses it, or it is
    accepted. -/
theorem assign_cases (attached : Attached σ) (name value : String) :
    nameKey name ∈ attached.assigned ∧ attached.assign name value = (.error ⟨name⟩, attached) ∨
      nameKey name ∉ attached.assigned ∧
        ((∃ duplicate, (attached.specification.assign name value).1 = .error duplicate ∧
          attached.assign name value = (.error duplicate,
            { attached with specification := (attached.specification.assign name value).2 })) ∨
          (attached.specification.assign name value).1 = .ok () ∧
            attached.assign name value = (.ok (), { attached with
              specification := (attached.specification.assign name value).2
              assigned := attached.assigned ++ [nameKey name] })) := by
  by_cases tracked : nameKey name ∈ attached.assigned
  · exact Or.inl ⟨tracked, if_pos tracked⟩
  · refine Or.inr ⟨tracked, ?_⟩
    rw [assign, if_neg tracked]
    dsimp only
    cases answer : (attached.specification.assign name value).1 with
    | error duplicate => exact Or.inl ⟨duplicate, rfl, rfl⟩
    | ok _ => exact Or.inr ⟨rfl, rfl⟩

variable {attached : Attached σ}

theorem assign_of_ok (accepted : (attached.assign name value).1 = .ok ()) :
    nameKey name ∉ attached.assigned ∧ (attached.specification.assign name value).1 = .ok () ∧
      (attached.assign name value).2 = { attached with
        specification := (attached.specification.assign name value).2
        assigned := attached.assigned ++ [nameKey name] } := by
  rcases attached.assign_cases name value with
    ⟨-, result⟩ | ⟨untracked, ⟨_, -, result⟩ | ⟨taken, result⟩⟩ <;> rw [result] at accepted
  · cases accepted
  · cases accepted
  · exact ⟨untracked, taken, congrArg Prod.snd result⟩

/-- A refusal is not remembered, and what it leaves of the specification is what the specification leaves
    of itself. -/
theorem assign_of_refused {duplicate : DuplicateParameter}
    (refused : (attached.assign name value).1 = .error duplicate) :
    (attached.assign name value).2.name = attached.name ∧
      (attached.assign name value).2.assigned = attached.assigned ∧
      ((attached.assign name value).2.specification = attached.specification ∨
        ∃ cause, (attached.specification.assign name value).1 = .error cause ∧
          (attached.assign name value).2.specification = (attached.specification.assign name value).2) := by
  rcases attached.assign_cases name value with
    ⟨-, result⟩ | ⟨-, ⟨cause, answer, result⟩ | ⟨-, result⟩⟩ <;> rw [result] at refused ⊢
  · exact ⟨rfl, rfl, Or.inl rfl⟩
  · exact ⟨rfl, rfl, Or.inr ⟨cause, answer, rfl⟩⟩
  · cases refused

theorem name_assign (attached : Attached σ) (name value : String) :
    (attached.assign name value).2.name = attached.name := by
  rcases attached.assign_cases name value with ⟨-, result⟩ | ⟨-, ⟨_, -, result⟩ | ⟨-, result⟩⟩ <;>
    rw [result]

theorem assign_of_error {duplicate : DuplicateParameter}
    (steady : ∀ cause, (attached.specification.assign name value).1 = .error cause →
      (attached.specification.assign name value).2 = attached.specification)
    (refused : (attached.assign name value).1 = .error duplicate) :
    (attached.assign name value).2 = attached := by
  rcases attached.assign_cases name value with
    ⟨-, result⟩ | ⟨-, ⟨cause, answer, result⟩ | ⟨-, result⟩⟩ <;> rw [result] at refused ⊢
  · rw [steady cause answer]
  · cases refused

end Attached

theorem Feature.assign_cases [Criterion σ] (feature : Feature σ) (specification name value : String) :
    (∃ index host, Attached.IsLatest specification feature.attached index host ∧
      feature.assign specification name value =
        ((host.assign name value).1.mapError .duplicate,
          { feature with attached := feature.attached.set index (host.assign name value).2 })) ∨
      (∀ other ∈ feature.attached, other.goesBy specification = false) ∧
        feature.assign specification name value =
          (.error (.undeclaredSpecification specification), feature) := by
  rcases Attached.assignLast_cases specification name value feature.attached with
    ⟨index, host, latest, answer⟩ | ⟨others, none⟩
  · refine Or.inl ⟨index, host, latest, ?_⟩
    rw [assign, answer]
  · refine Or.inr ⟨others, ?_⟩
    rw [assign, none]

theorem Feature.name_assign [Criterion σ] (feature : Feature σ) (specification name value : String) :
    (feature.assign specification name value).2.name = feature.name := by
  rcases feature.assign_cases specification name value with ⟨_, _, -, answer⟩ | ⟨-, answer⟩ <;> rw [answer]

end FeatureFlags
