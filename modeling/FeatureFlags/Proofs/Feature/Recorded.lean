import FeatureFlags.Proofs.Feature.Session

namespace FeatureFlags

open History

variable {σ : Type} [Criterion σ]

/-- A specification that remembers the names of the parameters it was asked to take, with its answers. -/
structure Recorded (σ : Type) where
  inner : Specification σ
  calls : List (String × Bool) := []
deriving DecidableEq, Repr

instance : Criterion (Recorded σ) where
  vote recorded := recorded.inner.vote
  assign recorded name value :=
    let answer := recorded.inner.assign name value
    (answer.1, ⟨answer.2, recorded.calls ++ [(name, answer.1.isOk)]⟩)
  check recorded := recorded.inner.check

theorem Attached.assign_recorded (attached : Attached (Recorded σ)) {inner : Specification σ}
    {calls : List (String × Bool)} (state : attached.specification = .custom ⟨inner, calls⟩)
    (name value : String) :
    ∃ next, (attached.assign name value).2.specification = .custom ⟨next,
      if nameKey name ∈ attached.assigned then calls
      else calls ++ [(name, (attached.assign name value).1.isOk)]⟩ := by
  have asked : attached.specification.assign name value =
      ((inner.assign name value).1,
        .custom ⟨(inner.assign name value).2, calls ++ [(name, (inner.assign name value).1.isOk)]⟩) := by
    rw [state]
    rfl
  rcases attached.assign_cases name value with
    ⟨tracked, result⟩ | ⟨untracked, ⟨cause, answer, result⟩ | ⟨answer, result⟩⟩ <;> rw [result]
  · exact ⟨inner, by rw [if_pos tracked, state]⟩
  all_goals
    rw [asked] at answer
    refine ⟨(inner.assign name value).2, ?_⟩
    rw [if_neg untracked, asked, answer]

namespace History

variable {specification : String} {history : List (Event σ)} {index : Nat}

/-- The parameters that the specification at the index is asked to take, with the answers: all that come to it
    under names that it has not accepted. -/
def asked (index : Nat) : List (Event σ) → List (String × Bool)
  | [] => []
  | .attached .. :: earlier => asked index earlier
  | .offered specification name _ answer :: earlier =>
    if host? specification earlier = some index ∧ nameKey name ∉ (accepted index earlier).map (nameKey ·.1) then
      asked index earlier ++ [(name, answer)]
    else asked index earlier

omit [Criterion σ]

theorem exists_instance_of_host? (found : host? specification history = some index) :
    ∃ start, (instances history)[index]? = some start ∧ start.goesBy specification = true := by
  induction history with
  | nil => cases found
  | cons event earlier ih =>
    cases event with
    | offered => exact ih found
    | attached name prototype =>
      rw [instances]
      rw [host?] at found
      split at found
      · rename_i same
        cases found
        exact ⟨_, List.getElem?_concat_length, same⟩
      · obtain ⟨start, began, named⟩ := ih found
        refine ⟨start, ?_, named⟩
        rw [List.getElem?_append_left (List.getElem?_eq_some_iff.mp began).1, began]

theorem asked_eq_nil (beyond : (instances history).length ≤ index) : asked index history = [] := by
  induction history with
  | nil => rfl
  | cons event earlier ih =>
    cases event with
    | attached =>
      rw [instances, List.length_append] at beyond
      exact ih (Nat.le_of_add_right_le beyond)
    | offered other name value answer =>
      rw [asked, if_neg fun reached => Nat.not_lt_of_le beyond (host?_lt reached.1)]
      exact ih beyond

theorem mem_accepted_of_mem_asked {name : String} (taken : (name, true) ∈ asked index history) :
    nameKey name ∈ (accepted index history).map (nameKey ·.1) := by
  induction history with
  | nil => cases taken
  | cons event earlier ih =>
    cases event with
    | attached => exact ih taken
    | offered specification other value answer =>
      have kept := ((accepted_prefix_append [.offered specification other value answer] earlier index).map
        (nameKey ·.1)).subset
      rw [asked] at taken
      split at taken
      · rename_i reached
        rcases List.mem_append.mp taken with before | new
        · exact kept (ih before)
        · cases List.mem_singleton.mp new
          rw [accepted, if_pos ⟨rfl, reached.1⟩, List.map_append]
          exact List.mem_append_right _ List.mem_cons_self
      · exact kept (ih taken)

theorem pairwise_asked (index : Nat) (history : List (Event σ)) :
    (asked index history).Pairwise fun call later => call.2 = true → nameKey later.1 ≠ nameKey call.1 := by
  induction history with
  | nil => exact List.Pairwise.nil
  | cons event earlier ih =>
    cases event with
    | attached => exact ih
    | offered specification name value answer =>
      rw [asked]
      split
      · rename_i reached
        refine List.pairwise_append.mpr ⟨ih, List.pairwise_singleton _ _, ?_⟩
        rintro ⟨other, taken⟩ before last new rfl same
        rw [List.mem_singleton.mp new] at same
        exact reached.2 (same ▸ mem_accepted_of_mem_asked before)
      · exact ih

end History

namespace Building

structure Remembered (building : Building (Recorded σ)) : Prop where
  sound : building.Sound
  calls : ∀ (index : Nat) (attached : Attached (Recorded σ)), building.feature.attached[index]? = some attached →
    ∃ inner, attached.specification = .custom ⟨inner, asked index building.history⟩

theorem remembered_start (flag : String) : (start flag : Building (Recorded σ)).Remembered where
  sound := sound_start flag
  calls _ _ here := nomatch here

namespace Remembered

variable {building : Building (Recorded σ)}

theorem attach (remembered : building.Remembered) (name : String) (inner : Specification σ) :
    (building.attach name (.custom ⟨inner, []⟩)).Remembered where
  sound := remembered.sound.attach name _
  calls index attached here := by
    rw [Building.attach, Feature.attach] at here
    rw [Building.attach, asked]
    rcases Nat.lt_trichotomy index building.feature.attached.length with before | rfl | beyond
    · rw [List.getElem?_append_left before] at here
      exact remembered.calls index attached here
    · rw [List.getElem?_concat_length] at here
      cases here
      exact ⟨inner, by rw [asked_eq_nil (Nat.le_of_eq remembered.sound.count.symm)]⟩
    · rw [List.getElem?_eq_none (by rw [List.length_append]; exact beyond)] at here
      cases here

theorem assign (remembered : building.Remembered) (specification name value : String) :
    (building.assign specification name value).Remembered where
  sound := remembered.sound.assign specification name value
  calls := by
    have sound := remembered.sound
    rcases building.feature.assign_cases specification name value with
      ⟨place, host, latest, answer⟩ | ⟨others, answer⟩
    · have found := sound.host?_of_isLatest latest
      have began := List.getElem?_eq_getElem (sound.count ▸ (List.getElem?_eq_some_iff.mp latest.here).1)
      have tracked := (sound.keeps began latest.here).tracked
      rw [Building.assign, answer]
      intro index attached here
      rw [asked, found]
      -- The host is asked unless it has accepted the name, and the others are not asked.
      by_cases same : place = index
      · subst same
        rw [List.getElem?_set_self (List.getElem?_eq_some_iff.mp latest.here).1] at here
        cases here
        obtain ⟨inner, state⟩ := remembered.calls place host latest.here
        obtain ⟨next, after⟩ := host.assign_recorded state name value
        refine ⟨next, ?_⟩
        rw [after, tracked]
        by_cases known : nameKey name ∈ (accepted place building.history).map (nameKey ·.1)
        · rw [if_pos known, if_neg fun reached => reached.2 known]
        · rw [if_neg known, if_pos ⟨rfl, known⟩]
          cases (host.assign name value).1 <;> rfl
      · rw [List.getElem?_set_ne same] at here
        rw [if_neg fun reached => same (Option.some_inj.mp reached.1)]
        exact remembered.calls index attached here
    · rw [Building.assign, answer]
      intro index attached here
      rw [asked, if_neg]
      · exact remembered.calls index attached here
      · rintro ⟨found, -⟩
        obtain ⟨start, began, named⟩ := exists_instance_of_host? found
        have now := List.getElem?_eq_getElem (sound.count.symm ▸ (List.getElem?_eq_some_iff.mp began).1)
        have other := others _ (List.mem_of_getElem? now)
        rw [Attached.goesBy, (sound.grown index start _ began now).name] at other
        exact Bool.false_ne_true (other.symm.trans named)

end Remembered

end Building

namespace Session

def Step.recorded : Step σ → Step (Recorded σ)
  | .attach builder name specification => .attach builder name (.custom ⟨specification, []⟩)
  | .assign builder specification name value => .assign builder specification name value
  | .clone builder => .clone builder

theorem remembered_run (flag : String) (steps : List (Step σ)) :
    ∀ building ∈ run flag (steps.map .recorded), building.Remembered := by
  refine forall_mem_run (Building.remembered_start flag) ?_
    fun _ specification name value remembered => remembered.assign specification name value
  intro builder name specification member building remembered
  obtain ⟨step, -, same⟩ := List.mem_map.mp member
  cases step with
  | attach _ _ inner =>
    cases same
    exact remembered.attach name inner
  | assign => cases same
  | clone => cases same

/-- A specification is asked to take a parameter until it has accepted one of that name, and then no more. So it
    is asked once for each name exactly if no parameter comes to it again that it has refused. -/
theorem run_asks_until_accepted (flag : String) (steps : List (Step σ)) (building : Building (Recorded σ))
    (member : building ∈ run flag (steps.map .recorded)) (index : Nat) (attached : Attached (Recorded σ))
    (here : building.feature.attached[index]? = some attached) :
    ∃ inner calls, attached.specification = .custom ⟨inner, calls⟩ ∧ calls = asked index building.history ∧
      (calls.Pairwise fun call later => call.2 = true → nameKey later.1 ≠ nameKey call.1) ∧
      ((calls.map (nameKey ·.1)).Nodup ↔
        calls.Pairwise fun call later => call.2 = false → nameKey later.1 ≠ nameKey call.1) := by
  obtain ⟨inner, state⟩ := (remembered_run flag steps building member).calls index attached here
  have taken := pairwise_asked index building.history
  refine ⟨inner, _, state, rfl, taken, ?_⟩
  rw [List.Nodup, List.pairwise_map]
  constructor
  · intro once
    apply once.imp
    intro call later different _
    exact Ne.symm different
  · intro refused
    apply (taken.and refused).imp
    rintro ⟨name, answer⟩ later ⟨accepted, rejected⟩
    cases answer with
    | true => exact Ne.symm (accepted rfl)
    | false => exact Ne.symm (rejected rfl)

def attachPreset : Step (Stored Rule) := .attach 0 "range" (.custom ⟨.range, .ofList [("Min", "1")]⟩)

theorem run_asks_until_accepted_preset :
    ∃ building ∈ run "f" ([attachPreset, .assign 0 "range" "Max" "5", .assign 0 "Range" "MAX" "6",
        .assign 0 "range" "min" "2"].map .recorded),
      ∃ attached inner calls, building.feature.attached[0]? = some attached ∧
        attached.specification = .custom ⟨inner, calls⟩ ∧ calls = [("Max", true), ("min", false)] ∧
        (calls.map (nameKey ·.1)).Nodup := by
  have made : ⟨⟨"f",
          [⟨"range",
            .custom ⟨.custom ⟨.range, ⟨⟨[("min", "1"), ("max", "5")]⟩⟩⟩, [("Max", true), ("min", false)]⟩,
            ["max"]⟩]⟩,
        [.offered "range" "min" "2" false, .offered "Range" "MAX" "6" false, .offered "range" "Max" "5" true,
          .attached "range" (.custom ⟨.custom ⟨.range, .ofList [("Min", "1")]⟩, []⟩)]⟩ ∈
      run "f" ([attachPreset, .assign 0 "range" "Max" "5", .assign 0 "Range" "MAX" "6",
        .assign 0 "range" "min" "2"].map .recorded) := by
    decide +kernel
  obtain ⟨inner, calls, state, heard, -, once⟩ := run_asks_until_accepted "f" _ _ made 0 _ rfl
  have listed : calls = [("Max", true), ("min", false)] := by
    rw [heard]
    decide +kernel
  refine ⟨_, made, _, inner, calls, rfl, state, listed, once.mpr ?_⟩
  rw [listed]
  decide +kernel

theorem run_asks_refused_twice :
    ∃ building ∈ run "f" ([attachPreset, .assign 0 "range" "Min" "2", .assign 0 "Range" "MIN" "3"].map .recorded),
      building.feature.attached.map (·.specification) =
          [.custom ⟨.custom ⟨.range, .ofList [("Min", "1")]⟩, [("Min", false), ("MIN", false)]⟩] ∧
        nameKey "Min" = nameKey "MIN" := by
  decide +kernel

end Session

end FeatureFlags
