import FeatureFlags.Proofs.Feature.Grown

namespace FeatureFlags

variable {σ : Type}

inductive Event (σ : Type) where
  | attached (name : String) (specification : Specification σ)
  | offered (specification name value : String) (accepted : Bool)
deriving DecidableEq, Repr

def Event.attaches (specification : String) : Event σ → Bool
  | attached name _ => sameName name specification
  | offered .. => false

/-! Histories are lists of events with the latest first. -/

namespace History

def instances : List (Event σ) → List (Attached σ)
  | [] => []
  | .attached name specification :: earlier => instances earlier ++ [{ name, specification }]
  | .offered .. :: earlier => instances earlier

def host? (specification : String) : List (Event σ) → Option Nat
  | [] => none
  | .attached name _ :: earlier =>
    if sameName name specification then some (instances earlier).length else host? specification earlier
  | .offered .. :: earlier => host? specification earlier

def accepted (index : Nat) : List (Event σ) → List (String × String)
  | [] => []
  | .attached .. :: earlier => accepted index earlier
  | .offered specification name value answer :: earlier =>
    if answer = true ∧ host? specification earlier = some index then accepted index earlier ++ [(name, value)]
    else accepted index earlier

/-- A parameter is accepted only where a specification of the name was attached before. -/
def Hosted : List (Event σ) → Prop
  | [] => True
  | .attached .. :: earlier => Hosted earlier
  | .offered specification _ _ answer :: earlier =>
    (answer = true → (host? specification earlier).isSome) ∧ Hosted earlier

variable {specification : String} {history : List (Event σ)} {index : Nat}

theorem assigned_of_mem_instances {start : Attached σ} (member : start ∈ instances history) :
    start.assigned = [] := by
  induction history with
  | nil => cases member
  | cons event earlier ih =>
    cases event with
    | offered => exact ih member
    | attached name attached =>
      rcases List.mem_append.mp member with before | new
      · exact ih before
      · rw [List.mem_singleton.mp new]

theorem host?_lt (found : host? specification history = some index) : index < (instances history).length := by
  induction history with
  | nil => cases found
  | cons event earlier ih =>
    cases event with
    | offered => exact ih found
    | attached name _ =>
      rw [instances, List.length_append, List.length_singleton]
      rw [host?] at found
      split at found
      · cases found
        exact Nat.lt_succ_self _
      · exact Nat.lt_succ_of_lt (ih found)

theorem host?_of_isLatest {host : Attached σ}
    (latest : Attached.IsLatest specification (instances history) index host) :
    host? specification history = some index := by
  induction history generalizing host with
  | nil => cases latest.here
  | cons event earlier ih =>
    cases event with
    | offered => exact ih latest
    | attached name _ =>
      rcases Attached.IsLatest.of_concat latest with ⟨same, rfl⟩ | ⟨other, latest⟩
      · exact if_pos same
      · exact (if_neg (ne_of_eq_of_ne other Bool.false_ne_true)).trans (ih latest)

theorem accepted_eq_nil (beyond : (instances history).length ≤ index) : accepted index history = [] := by
  induction history with
  | nil => rfl
  | cons event earlier ih =>
    cases event with
    | attached name _ =>
      rw [instances, List.length_append] at beyond
      exact ih (Nat.le_of_add_right_le beyond)
    | offered other name value answer =>
      have elsewhere : ¬(answer = true ∧ host? other earlier = some index) := fun ⟨_, found⟩ =>
        Nat.not_lt_of_le beyond (host?_lt found)
      rw [accepted, if_neg elsewhere]
      exact ih beyond

theorem accepted_prefix_append (later earlier : List (Event σ)) (index : Nat) :
    accepted index earlier <+: accepted index (later ++ earlier) := by
  induction later with
  | nil => exact List.prefix_refl _
  | cons event rest ih =>
    cases event with
    | attached => exact ih
    | offered =>
      rw [List.cons_append, accepted]
      split
      · exact ih.trans (List.prefix_append _ _)
      · exact ih

theorem host?_append {between : List (Event σ)} (earlier : List (Event σ))
    (others : ∀ event ∈ between, event.attaches specification = false) :
    host? specification (between ++ earlier) = host? specification earlier := by
  induction between with
  | nil => rfl
  | cons event rest ih =>
    have unchanged := ih (List.forall_mem_cons.mp others).2
    cases event with
    | attached name _ =>
      have other : sameName name specification = false := (List.forall_mem_cons.mp others).1
      rw [List.cons_append, host?, other, if_neg Bool.false_ne_true, unchanged]
    | offered => exact unchanged

theorem host?_congr {other : String} (same : sameName other specification = true) (history : List (Event σ)) :
    host? other history = host? specification history := by
  induction history with
  | nil => rfl
  | cons event earlier ih =>
    cases event with
    | attached => rw [host?, host?, ih, sameName_congr_right (sameName_iff.mp same)]
    | offered => exact ih

theorem Hosted.of_append {later earlier : List (Event σ)} (hosted : Hosted (later ++ earlier)) :
    Hosted earlier := by
  induction later with
  | nil => exact hosted
  | cons event rest ih =>
    cases event with
    | attached => exact ih hosted
    | offered => exact ih hosted.2

end History

end FeatureFlags
