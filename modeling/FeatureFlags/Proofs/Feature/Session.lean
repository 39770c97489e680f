import FeatureFlags.Criterion.Rule
import FeatureFlags.Proofs.Feature.History
import Mathlib.Data.List.Induction

namespace FeatureFlags

open History

variable {σ : Type}

structure Building (σ : Type) where
  feature : Feature σ
  history : List (Event σ) := []
deriving DecidableEq, Repr

namespace Building

def start (flag : String) : Building σ := ⟨{ name := flag }, []⟩

def attach (building : Building σ) (name : String) (specification : Specification σ) : Building σ :=
  ⟨building.feature.attach name specification, .attached name specification :: building.history⟩

variable [Criterion σ]

def assign (building : Building σ) (specification name value : String) : Building σ :=
  let answer := building.feature.assign specification name value
  ⟨answer.2, .offered specification name value answer.1.isOk :: building.history⟩

structure Sound (building : Building σ) : Prop where
  count : building.feature.attached.length = (instances building.history).length
  grown : ∀ index start attached, (instances building.history)[index]? = some start →
    building.feature.attached[index]? = some attached →
    Attached.Grown start (accepted index building.history) attached
  hosted : Hosted building.history

theorem sound_start (flag : String) : (start flag : Building σ).Sound where
  count := rfl
  grown _ _ _ began := nomatch began
  hosted := True.intro

namespace Sound

variable {building : Building σ}

theorem attach (sound : building.Sound) (name : String) (specification : Specification σ) :
    (building.attach name specification).Sound where
  count := by
    rw [Building.attach, Feature.attach, instances, List.length_append, List.length_append, sound.count]
  grown index start attached began now := by
    rw [Building.attach, instances] at began
    rw [Building.attach, Feature.attach] at now
    rw [Building.attach, accepted]
    rcases Nat.lt_or_ge index (instances building.history).length with before | beyond
    · rw [List.getElem?_append_left before] at began
      rw [List.getElem?_append_left (sound.count ▸ before)] at now
      exact sound.grown index start attached began now
    · rw [List.getElem?_append_right beyond] at began
      rw [List.getElem?_append_right (sound.count ▸ beyond), sound.count, began] at now
      cases now
      rw [accepted_eq_nil beyond]
      exact .start
  hosted := sound.hosted

theorem host?_of_isLatest (sound : building.Sound) {specification : String} {index : Nat} {host : Attached σ}
    (latest : Attached.IsLatest specification building.feature.attached index host) :
    host? specification building.history = some index := by
  obtain ⟨inside, -⟩ := List.getElem?_eq_some_iff.mp latest.here
  have began := List.getElem?_eq_getElem (sound.count ▸ inside)
  refine History.host?_of_isLatest ⟨began, ?_, ?_⟩
  · rw [Attached.goesBy, ← (sound.grown index _ host began latest.here).name]
    exact latest.named
  · intro later other after found
    obtain ⟨within, -⟩ := List.getElem?_eq_some_iff.mp found
    have now := List.getElem?_eq_getElem (sound.count.symm ▸ within)
    rw [Attached.goesBy, ← (sound.grown later other _ found now).name]
    exact latest.last later _ after now

theorem assign (sound : building.Sound) (specification name value : String) :
    (building.assign specification name value).Sound := by
  rcases building.feature.assign_cases specification name value with
    ⟨index, host, latest, answer⟩ | ⟨-, answer⟩
  · have found := sound.host?_of_isLatest latest
    rw [Building.assign, answer]
    refine ⟨?_, ?_, fun _ => found ▸ rfl, sound.hosted⟩
    · rw [List.length_set, sound.count, instances]
    · intro other start attached began now
      rw [accepted, found]
      -- The specification at the index grows by what it accepts, and the others stay.
      by_cases same : index = other
      · subst same
        rw [List.getElem?_set_self (List.getElem?_eq_some_iff.mp latest.here).1] at now
        cases now
        have grown := sound.grown index start host began latest.here
        cases outcome : (host.assign name value).1 with
        | ok _ =>
          rw [if_pos ⟨rfl, rfl⟩]
          exact grown.accepted outcome
        | error _ =>
          rw [if_neg fun taken => Bool.false_ne_true taken.1]
          exact grown.refused outcome
      · rw [List.getElem?_set_ne same] at now
        rw [if_neg fun taken => same (Option.some_inj.mp taken.2)]
        exact sound.grown other start attached began now
  · rw [Building.assign, answer]
    refine ⟨sound.count, ?_, fun taken => absurd taken Bool.false_ne_true, sound.hosted⟩
    intro index start attached began now
    exact sound.grown index start attached began now

theorem keeps (sound : building.Sound) {index : Nat} {start attached : Attached σ}
    (began : (instances building.history)[index]? = some start)
    (now : building.feature.attached[index]? = some attached) :
    start.Keeps (accepted index building.history) attached :=
  (sound.grown index start attached began now).keeps
    (assigned_of_mem_instances (List.mem_of_getElem? began))

theorem nodup_accepted (sound : building.Sound) (index : Nat) :
    ((accepted index building.history).map fun pair => nameKey pair.1).Nodup := by
  rcases Nat.lt_or_ge index (instances building.history).length with inside | beyond
  · have began := List.getElem?_eq_getElem inside
    have now := List.getElem?_eq_getElem (sound.count.symm ▸ inside)
    have keeps := sound.keeps began now
    exact keeps.tracked ▸ keeps.once
  · rw [accepted_eq_nil beyond]
    exact List.nodup_nil

theorem exists_attached_between (sound : building.Sound) {later between earlier : List (Event σ)}
    {other again newer specification name value : String}
    (history : building.history = later ++ .offered other again newer true :: between ++
      .offered specification name value true :: earlier)
    (sameSpecification : sameName other specification = true) (sameParameter : sameName again name = true) :
    ∃ event ∈ between, event.attaches specification = true := by
  by_contra unattached
  have others : ∀ event ∈ between, event.attaches specification = false := by
    simpa only [not_exists, not_and, Bool.not_eq_true] using unattached
  have hosted := sound.hosted
  have once := sound.nodup_accepted
  rw [history, List.append_assoc, List.cons_append] at hosted once
  obtain ⟨index, found⟩ := Option.isSome_iff_exists.mp ((hosted.of_append.2.of_append).1 rfl)
  -- Both went to the specification at the index, which therefore accepted one name twice.
  have still : host? other (between ++ .offered specification name value true :: earlier) = some index := by
    rw [host?_congr sameSpecification, host?_append _ others]
    exact found
  have before :
      (name, value) ∈ accepted index (between ++ .offered specification name value true :: earlier) := by
    refine (accepted_prefix_append between _ index).subset ?_
    rw [accepted, if_pos ⟨rfl, found⟩]
    exact List.mem_append_right _ List.mem_cons_self
  have twice := (once index).sublist ((accepted_prefix_append later _ index).sublist.map _)
  rw [accepted, if_pos ⟨rfl, still⟩, List.map_append, List.nodup_append] at twice
  exact twice.2.2 _ (List.mem_map_of_mem before) _ List.mem_cons_self (sameName_iff.mp sameParameter).symm

end Sound

end Building

namespace Session

/-- What can be done with builders, which are numbered. -/
inductive Step (σ : Type) where
  | attach (builder : Nat) (name : String) (specification : Specification σ)
  | assign (builder : Nat) (specification name value : String)
  | clone (builder : Nat)
deriving DecidableEq, Repr

variable [Criterion σ]

/-- A clone comes last, with the history of its original. -/
def step (builders : List (Building σ)) : Step σ → List (Building σ)
  | .attach builder name specification => builders.modify builder (·.attach name specification)
  | .assign builder specification name value => builders.modify builder (·.assign specification name value)
  | .clone builder => builders ++ builders[builder]?.toList

def run (flag : String) (steps : List (Step σ)) : List (Building σ) := steps.foldl step [.start flag]

theorem forall_mem_modify {α : Type} {holds : α → Prop} {items : List α} (all : ∀ item ∈ items, holds item)
    {change : α → α} (kept : ∀ item, holds item → holds (change item)) (index : Nat) :
    ∀ item ∈ items.modify index change, holds item := by
  intro item member
  obtain ⟨place, here⟩ := List.mem_iff_getElem?.mp member
  rw [List.getElem?_modify] at here
  obtain ⟨previous, before, rfl⟩ := Option.map_eq_some_iff.mp here
  have held := all previous (List.mem_of_getElem? before)
  split
  · exact kept previous held
  · exact held

/-- What holds of an empty builder and is kept by what is done in a run holds of all its builders. -/
theorem forall_mem_run {holds : Building σ → Prop} {flag : String} {steps : List (Step σ)}
    (started : holds (.start flag))
    (attached : ∀ builder name specification, .attach builder name specification ∈ steps →
      ∀ building, holds building → holds (building.attach name specification))
    (assigned : ∀ building specification name value, holds building →
      holds (building.assign specification name value)) :
    ∀ building ∈ run flag steps, holds building := by
  induction steps using List.reverseRecOn with
  | nil => exact List.forall_mem_singleton.mpr started
  | append_singleton steps action ih =>
    have before : ∀ building ∈ run flag steps, holds building := ih fun builder name specification member =>
      attached builder name specification (List.mem_append_left _ member)
    rw [run, List.foldl_append]
    cases action with
    | attach builder name specification =>
      have last := attached builder name specification (List.mem_append_right _ List.mem_cons_self)
      exact forall_mem_modify before last builder
    | assign builder specification name value =>
      exact forall_mem_modify before (fun building => assigned building specification name value) builder
    | clone builder =>
      refine List.forall_mem_append.mpr ⟨before, fun building copied => before building ?_⟩
      exact List.mem_of_getElem? (Option.mem_toList.mp copied)

theorem sound_run (flag : String) (steps : List (Step σ)) : ∀ building ∈ run flag steps, building.Sound :=
  forall_mem_run (Building.sound_start flag) (fun _ name specification _ _ sound => sound.attach name specification)
    fun _ specification name value sound => sound.assign specification name value

/-- However builders are filled and cloned, a specification on them has the parameters that were accepted for
    it, each once, and takes a parameter again only after it was attached again. -/
theorem run_assigns_once (flag : String) (steps : List (Step σ)) (building : Building σ)
    (member : building ∈ run flag steps) :
    building.feature.attached.length = (instances building.history).length ∧
      (∀ index start attached, (instances building.history)[index]? = some start →
        building.feature.attached[index]? = some attached →
          Attached.Keeps start (accepted index building.history) attached) ∧
      ∀ later other again newer between specification name value earlier,
        building.history = later ++ .offered other again newer true :: between ++
            .offered specification name value true :: earlier →
          sameName other specification = true → sameName again name = true →
            ∃ event ∈ between, event.attaches specification = true := by
  have sound := sound_run flag steps building member
  refine ⟨sound.count, fun _ _ _ began now => sound.keeps began now, ?_⟩
  intro later other again newer between specification name value earlier history
  exact sound.exists_attached_between history

theorem run_assigns_once_cloned :
    ∃ building ∈ run (σ := Stored Rule) "f"
        [.attach 0 "Range" (.custom ⟨.range, {}⟩), .assign 0 "range" "Min" "1", .clone 0,
          .assign 1 "RANGE" "min" "2", .attach 1 "RANGE" (.custom ⟨.range, {}⟩), .assign 1 "range" "MIN" "3"],
      (∃ attached, building.feature.attached[1]? = some attached ∧ attached.assigned = ["min"] ∧
        (attached.specification.assign "Max" "4").1 = .ok ()) ∧
        ∃ event ∈ [Event.attached "RANGE" (.custom (⟨.range, {}⟩ : Stored Rule)),
          .offered "RANGE" "min" "2" false], event.attaches "range" = true := by
  have copied : ⟨⟨"f", [⟨"Range", .custom ⟨.range, ⟨⟨[("min", "1")]⟩⟩⟩, ["min"]⟩,
        ⟨"RANGE", .custom ⟨.range, ⟨⟨[("min", "3")]⟩⟩⟩, ["min"]⟩]⟩,
      [.offered "range" "MIN" "3" true, .attached "RANGE" (.custom ⟨.range, {}⟩),
        .offered "RANGE" "min" "2" false, .offered "range" "Min" "1" true,
        .attached "Range" (.custom ⟨.range, {}⟩)]⟩ ∈
      run (σ := Stored Rule) "f"
        [.attach 0 "Range" (.custom ⟨.range, {}⟩), .assign 0 "range" "Min" "1", .clone 0,
          .assign 1 "RANGE" "min" "2", .attach 1 "RANGE" (.custom ⟨.range, {}⟩),
          .assign 1 "range" "MIN" "3"] := by
    decide +kernel
  obtain ⟨-, keeps, between⟩ := run_assigns_once "f" _ _ copied
  have second := (keeps 1 _ _ rfl rfl).untracked _ _ (Stored.storesIn Rule.range) rfl rfl "Max" "4"
  exact ⟨_, copied, ⟨_, rfl, rfl, second (by decide +kernel)⟩,
    between [] _ _ _ _ _ _ _ _ rfl (by decide +kernel) (by decide +kernel)⟩

end Session

end FeatureFlags
