import FeatureFlags.Criterion.Stored
import FeatureFlags.Proofs.Document.Routing
import FeatureFlags.Proofs.Parameters

namespace FeatureFlags

theorem any_sameName_congr {name other : String} (same : nameKey name = nameKey other)
    (settings : List (String × String)) :
    settings.any (sameName ·.1 name) = settings.any (sameName ·.1 other) := by
  congr 1
  funext setting
  exact sameName_congr_right same

variable {ρ : Type}

namespace Specification

def hasParameter (name : String) : Specification (Stored ρ) → Bool
  | constant _ => false
  | custom stored => stored.parameters.values.contains name

def fill (settings : List (String × String)) : Specification (Stored ρ) → Specification (Stored ρ)
  | constant vote => constant vote
  | custom stored => custom { stored with parameters := stored.parameters.insertAll settings }

variable {specification : Specification (Stored ρ)} {settings : List (String × String)}
  {name other : String}

theorem hasParameter_congr (same : nameKey name = nameKey other) :
    specification.hasParameter name = specification.hasParameter other := by
  cases specification with
  | constant vote => rfl
  | custom stored => exact Parameters.contains_congr same _

theorem hasParameter_fill (present : specification.hasParameter name = true) :
    (specification.fill settings).hasParameter name = true := by
  cases specification with
  | constant vote => exact present
  | custom stored => rw [fill, hasParameter, Parameters.contains_insertAll, ← hasParameter, present,
      Bool.true_or]

theorem hasParameter_of_fill (present : (specification.fill settings).hasParameter name = true) :
    specification.hasParameter name = true ∨ settings.any (sameName ·.1 name) = true := by
  cases specification with
  | constant vote => exact Or.inl present
  | custom stored =>
    rw [fill, hasParameter, Parameters.contains_insertAll, Bool.or_eq_true] at present
    exact present

theorem fill_concat (value : String)
    (present : specification.hasParameter name = true ∨ settings.any (sameName ·.1 name) = true) :
    specification.fill (settings ++ [(name, value)]) = specification.fill settings := by
  cases specification with
  | constant vote => rfl
  | custom stored =>
    have kept : (stored.parameters.insertAll settings).values.contains name = true := by
      rw [Parameters.contains_insertAll, Bool.or_eq_true]
      exact present
    rw [fill, fill, Parameters.insertAll_concat, if_pos kept]

variable [ParameterRule ρ]

theorem assign_fill (specification : Specification (Stored ρ)) (settings : List (String × String))
    (name value : String) :
    (specification.fill settings).assign name value =
      if (specification.fill settings).hasParameter name then
        (.error ⟨name⟩, specification.fill settings)
      else (.ok (), specification.fill (settings ++ [(name, value)])) := by
  cases specification with
  | constant vote => rfl
  | custom stored =>
    simp only [fill, hasParameter, assign, Criterion.assign, Stored.assign, Parameters.insert,
      Parameters.insertAll_concat]
    by_cases present : (stored.parameters.insertAll settings).values.contains name = true
    · simp only [present, ↓reduceIte]
    · simp only [present, Bool.false_eq_true, ↓reduceIte]

end Specification

namespace Attached

variable [ParameterRule ρ]

/-- What settings make of a fresh specification: it has the first value of each name, and the names
    that it tracks are names that it was given. -/
structure Filled (prototype : Specification (Stored ρ)) (settings : List (String × String))
    (attached : Attached (Stored ρ)) : Prop where
  filled : attached.specification = prototype.fill settings
  given : ∀ name, nameKey name ∈ attached.assigned → settings.any (sameName ·.1 name) = true
  kept : ∀ name, settings.any (sameName ·.1 name) = true →
    nameKey name ∈ attached.assigned ∨ prototype.hasParameter name = true

namespace Filled

variable {prototype : Specification (Stored ρ)} {settings : List (String × String)}
  {attached : Attached (Stored ρ)} {name : String}

theorem refused (state : Filled prototype settings attached) (value : String)
    (present : prototype.hasParameter name = true ∨ settings.any (sameName ·.1 name) = true) :
    attached.assign name value = (.error ⟨name⟩, attached) := by
  unfold assign
  by_cases tracked : nameKey name ∈ attached.assigned
  · rw [if_pos tracked]
  · have preset : prototype.hasParameter name = true := by
      rcases present with preset | given
      · exact preset
      · exact (state.kept name given).resolve_left tracked
    rw [if_neg tracked, state.filled, Specification.assign_fill,
      if_pos (Specification.hasParameter_fill preset), ← state.filled]

theorem accepted (state : Filled prototype settings attached) (value : String)
    (absent : ¬(prototype.hasParameter name = true ∨ settings.any (sameName ·.1 name) = true)) :
    attached.assign name value = (.ok (), { attached with
      specification := prototype.fill (settings ++ [(name, value)])
      assigned := attached.assigned ++ [nameKey name] }) := by
  have untracked : nameKey name ∉ attached.assigned :=
    fun tracked => absent (Or.inr (state.given name tracked))
  have unset : ¬(prototype.fill settings).hasParameter name = true :=
    fun present => absent (Specification.hasParameter_of_fill present)
  rw [assign, if_neg untracked, state.filled, Specification.assign_fill, if_neg unset]

theorem next (state : Filled prototype settings attached) (name value : String) :
    Filled prototype (settings ++ [(name, value)]) (attached.assign name value).2 := by
  by_cases present : prototype.hasParameter name = true ∨ settings.any (sameName ·.1 name) = true
  · -- The list grows by a name that it has already, so only `given` and `kept` have to be told so.
    rw [state.refused value present]
    refine ⟨?_, ?_, ?_⟩
    · rw [Specification.fill_concat value present, state.filled]
    · intro other tracked
      simp [state.given other tracked]
    · intro other given
      rw [List.any_append, Bool.or_eq_true] at given
      rcases given with given | same
      · exact state.kept other given
      · have same : nameKey name = nameKey other := by simpa [sameName] using same
        rcases present with preset | given
        · exact Or.inr (Specification.hasParameter_congr same ▸ preset)
        · exact state.kept other (any_sameName_congr same settings ▸ given)
  · rw [state.accepted value present]
    refine ⟨rfl, ?_, ?_⟩
    · intro other tracked
      rw [List.any_append, Bool.or_eq_true]
      rcases List.mem_append.mp tracked with tracked | same
      · exact Or.inl (state.given other tracked)
      · have same := List.mem_singleton.mp same
        exact Or.inr (by simp [sameName, same])
    · intro other given
      rw [List.any_append, Bool.or_eq_true] at given
      rcases given with given | same
      · exact (state.kept other given).imp_left (List.mem_append_left _)
      · have same : nameKey name = nameKey other := by simpa [sameName] using same
        exact Or.inl (List.mem_append_right _ (List.mem_singleton.mpr same.symm))

end Filled

theorem filled_assignAll (name : String) (prototype : Specification (Stored ρ))
    (settings : List (String × String)) :
    Filled prototype settings (assignAll { name, specification := prototype } settings) := by
  induction settings using List.reverseRecOn with
  | nil => exact ⟨by cases prototype <;> rfl, by simp [assignAll], by simp⟩
  | append_singleton settings setting ih =>
    rw [assignAll_concat]
    exact ih.next setting.1 setting.2

end Attached

end FeatureFlags
