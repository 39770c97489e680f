import FeatureFlags.Proofs.Criterion.Rule
import FeatureFlags.Proofs.Document.Summary
import Mathlib.Logic.Relation

namespace FeatureFlags

inductive Exchange {α : Type} (free : α → α → Bool) : List α → List α → Prop where
  | swap {first second : α} (loose : free first second = true) (rest : List α) :
    Exchange free (first :: second :: rest) (second :: first :: rest)
  | cons (head : α) {rest other : List α} (exchange : Exchange free rest other) :
    Exchange free (head :: rest) (head :: other)

theorem Exchange.map {α β : Type} {image : α → β} {free : β → β → Bool} {items other : List α}
    (exchange : Exchange (fun first second => free (image first) (image second)) items other) :
    Exchange free (items.map image) (other.map image) := by
  induction exchange with
  | swap loose rest => exact .swap loose _
  | cons head _ ih => exact .cons _ ih

namespace Line

def hosts (line : Line) : Line → Bool
  | .assignment [flag, specification, _] _ => line.declares flag specification
  | _ => false

def apart (first second : Line) : Bool := !first.hosts second && !second.hosts first

def rowsApart (first second : String) : Bool := (ofRow first).apart (ofRow second)

variable {first second : Line} {flag name : String}

theorem apart_iff :
    first.apart second = true ↔ first.hosts second = false ∧ second.hosts first = false := by
  simp [apart]

theorem setting?_of_hosts_eq_false (free : first.hosts second = false)
    (declares : first.declares flag name = true) : second.setting? flag name = none := by
  rw [Option.eq_none_iff_forall_ne_some]
  rintro ⟨parameter, value⟩ sets
  obtain ⟨other, specification, rfl, sameFlag, sameSpecification⟩ := setting?_eq_some_iff.mp sets
  rw [hosts, declares_congr sameFlag sameSpecification, declares] at free
  exact absurd free (by decide)

theorem settings_perm {lines other : List Line} (exchange : Exchange apart lines other)
    (flag name : String) : (settings flag name lines).Perm (settings flag name other) := by
  induction exchange with
  | @swap first second loose rest =>
    obtain ⟨left, right⟩ := apart_iff.mp loose
    simp only [settings_cons]
    cases here : first.declares flag name
    · cases there : second.declares flag name
      · simpa using List.perm_append_comm_assoc _ _ _
      · simp [setting?_of_hosts_eq_false right there]
    · cases there : second.declares flag name
      · simp [setting?_of_hosts_eq_false left here]
      · simp
  | cons head _ ih =>
    rw [settings_cons, settings_cons]
    split
    · exact List.Perm.refl _
    · exact ih.append_left _

end Line

namespace Registry

section

variable {σ : Type} {registry : Registry σ} {earlier other : List Line}

theorem placed_mono (more : ∀ line ∈ earlier, line ∈ other) {line : Line}
    (placed : registry.placed earlier line = true) : registry.placed other line = true := by
  cases line using Line.byKind with
  | inert line fault inert => rwa [placed_of_inert inert] at placed ⊢
  | declaration => exact placed
  | parameter flag specification =>
    simp only [Registry.placed, Bool.and_eq_true, List.any_eq_true] at placed ⊢
    obtain ⟨known, declaration, member, declares⟩ := placed
    exact ⟨known, declaration, more declaration member, declares⟩

theorem placed_of_concat {line next : Line} (free : line.hosts next = false)
    (placed : registry.placed (earlier ++ [line]) next = true) : registry.placed earlier next = true := by
  cases next using Line.byKind with
  | inert line fault inert => rwa [placed_of_inert inert] at placed ⊢
  | declaration => exact placed
  | parameter flag specification =>
    have elsewhere : line.declares flag specification = false := free
    simpa [Registry.placed, elsewhere] using placed

theorem wellPlaced_mono {lines : List Line} (more : ∀ line ∈ earlier, line ∈ other)
    (placed : registry.wellPlaced earlier lines = true) : registry.wellPlaced other lines = true := by
  induction lines generalizing earlier other with
  | nil => rfl
  | cons line later ih =>
    rw [wellPlaced, Bool.and_eq_true] at placed ⊢
    refine ⟨placed_mono more placed.1, ih ?_ placed.2⟩
    intro present member
    rcases List.mem_append.mp member with before | last
    · exact List.mem_append_left _ (more present before)
    · exact List.mem_append_right _ last

theorem wellPlaced_exchange {lines next : List Line} (exchange : Exchange Line.apart lines next)
    (placed : registry.wellPlaced earlier lines = true) : registry.wellPlaced earlier next = true := by
  induction exchange generalizing earlier with
  | @swap first second loose rest =>
    obtain ⟨left, right⟩ := Line.apart_iff.mp loose
    simp only [wellPlaced, Bool.and_eq_true, List.append_assoc, List.singleton_append] at placed ⊢
    obtain ⟨fits, follows, others⟩ := placed
    refine ⟨placed_of_concat left follows, placed_mono (fun _ => List.mem_append_left _) fits, ?_⟩
    exact wellPlaced_mono (by simp [or_comm]) others
  | cons head _ ih =>
    rw [wellPlaced, Bool.and_eq_true] at placed ⊢
    exact ⟨placed.1, ih placed.2⟩

end

variable {ρ : Type} {registry : Registry (Stored ρ)}

def summary? (registry : Registry (Stored ρ)) (line : Line) (later : List Line) : Option (Summary ρ) := do
  let (flag, name) ← line.declaration?
  let prototype ← registry.find? name
  return ⟨nameKey flag, nameKey name, prototype, Line.settings flag name later⟩

theorem summaries_cons (line : Line) (later : List Line) :
    registry.summaries (line :: later) =
      (registry.summary? line later).toList ++ registry.summaries later := by
  rw [summaries, declarations, List.map_append, summary?, Declaration.ofLine?]
  cases line.declaration? with
  | none => rfl
  | some names =>
    rcases names with ⟨flag, name⟩
    cases found : registry.find? name <;> simp [found, Declaration.summary, Declaration.settings, summaries]

theorem summary?_congr {line : Line} {later other : List Line}
    (perm : ∀ flag name, line.declaration? = some (flag, name) →
      (Line.settings flag name later).Perm (Line.settings flag name other)) :
    registry.summary? line later = registry.summary? line other := by
  unfold summary?
  cases declared : line.declaration? with
  | none => rfl
  | some names =>
    have same : (Line.settings names.1 names.2 later : Multiset (String × String)) =
        Line.settings names.1 names.2 other :=
      Multiset.coe_eq_coe.mpr (perm names.1 names.2 declared)
    simp only [Option.bind_eq_bind, Option.bind_some, same]

theorem summary?_eq_of_declares {first second : Line} {flag name : String}
    (here : first.declares flag name = true) (there : second.declares flag name = true)
    {later other : List Line} (same : Line.settings flag name later = Line.settings flag name other) :
    registry.summary? first later = registry.summary? second other := by
  obtain ⟨flag₁, name₁, declared₁, sameFlag₁, sameName₁⟩ := Line.declares_iff.mp here
  obtain ⟨flag₂, name₂, declared₂, sameFlag₂, sameName₂⟩ := Line.declares_iff.mp there
  simp only [summary?, declared₁, declared₂, Option.bind_eq_bind, Option.bind_some, sameFlag₁, sameName₁,
    sameFlag₂, sameName₂, find?_congr sameName₁, find?_congr sameName₂,
    Line.settings_congr sameFlag₁ sameName₁, Line.settings_congr sameFlag₂ sameName₂, same]

theorem summary?_skip {first second : Line} (free : first.hosts second = false)
    (different : ∀ flag name, first.declares flag name = true → second.declares flag name = false)
    (rest : List Line) : registry.summary? first (second :: rest) = registry.summary? first rest := by
  apply summary?_congr
  intro flag name declared
  have declares : first.declares flag name = true :=
    Line.declares_iff.mpr ⟨flag, name, declared, rfl, rfl⟩
  rw [Line.settings_cons, different flag name declares,
    Line.setting?_of_hosts_eq_false free declares]
  exact List.Perm.refl _

theorem summaries_swap {first second : Line} (loose : first.apart second = true) (rest : List Line) :
    (registry.summaries (first :: second :: rest)).Perm (registry.summaries (second :: first :: rest)) := by
  obtain ⟨left, right⟩ := Line.apart_iff.mp loose
  simp only [summaries_cons]
  by_cases shared : ∃ flag name, first.declares flag name = true ∧ second.declares flag name = true
  · -- The declaration that comes first is taken over at once, whichever of the two it is.
    obtain ⟨flag, name, here, there⟩ := shared
    have taken : Line.settings flag name (second :: rest) = Line.settings flag name (first :: rest) := by
      rw [Line.settings_cons, Line.settings_cons, there, here, if_pos rfl, if_pos rfl]
    have same : registry.summary? second rest = registry.summary? first rest :=
      summary?_eq_of_declares there here rfl
    rw [summary?_eq_of_declares here there taken, same]
  · have notSecond : ∀ flag name, first.declares flag name = true → second.declares flag name = false :=
      fun flag name here => Bool.eq_false_iff.mpr fun there => shared ⟨flag, name, here, there⟩
    have notFirst : ∀ flag name, second.declares flag name = true → first.declares flag name = false :=
      fun flag name there => Bool.eq_false_iff.mpr fun here => shared ⟨flag, name, here, there⟩
    rw [summary?_skip left notSecond, summary?_skip right notFirst]
    exact List.perm_append_comm_assoc _ _ _

theorem summaries_perm {lines other : List Line} (exchange : Exchange Line.apart lines other) :
    (registry.summaries lines).Perm (registry.summaries other) := by
  induction exchange with
  | swap loose rest => exact summaries_swap loose rest
  | @cons head rest other exchange ih =>
    have same : registry.summary? head rest = registry.summary? head other :=
      summary?_congr fun flag name _ => Line.settings_perm exchange flag name
    rw [summaries_cons, summaries_cons, same]
    exact ih.append_left _

variable [ParameterRule ρ]

theorem accepted_exchange (byName : registry.ReadsByName) {lines other : List Line}
    (exchange : Exchange Line.apart lines other) (accepted : registry.problems lines = []) :
    registry.problems other = [] := by
  rw [problems_eq_nil_iff byName] at accepted ⊢
  refine ⟨wellPlaced_exchange exchange accepted.1, fun summary member => accepted.2 summary ?_⟩
  exact (summaries_perm exchange).mem_iff.mpr member

theorem accepted_reordered (byName : registry.ReadsByName) {rows other : List String}
    (reordered : Relation.ReflTransGen (Exchange Line.rowsApart) rows other)
    (accepted : registry.problems (rows.map .ofRow) = []) :
    registry.problems (other.map .ofRow) = [] ∧
      (registry.summaries (rows.map .ofRow)).Perm (registry.summaries (other.map .ofRow)) := by
  induction reordered with
  | refl => exact ⟨accepted, List.Perm.refl _⟩
  | @tail middle other _ last ih =>
    have exchange : Exchange Line.apart (middle.map .ofRow) (other.map .ofRow) := Exchange.map last
    exact ⟨accepted_exchange byName exchange ih.1, ih.2.trans (summaries_perm exchange)⟩

end Registry

/-- Rows that are apart may change places, one pair of neighbours after the other: the flags, their votes
    and what is enabled stay the same. -/
theorem parse_reordered {ρ : Type} [ParameterRule ρ] (registry : Registry (Stored ρ))
    (byName : registry.ReadsByName) (rows other : List String)
    (reordered : Relation.ReflTransGen (Exchange Line.rowsApart) rows other)
    (catalog : Catalog (Stored ρ)) (accepted : parse registry rows = .ok catalog) :
    ∃ rearranged, parse registry other = .ok rearranged ∧
      (catalog.flags.map nameKey).Perm (rearranged.flags.map nameKey) ∧
      (∀ query, ((catalog.report query).votes.map fun vote => (nameKey vote.1, vote.2)).Perm
        ((rearranged.report query).votes.map fun vote => (nameKey vote.1, vote.2))) ∧
      ∀ query, catalog.isEnabled query = rearranged.isEnabled query := by
  obtain ⟨clean, rfl⟩ := Registry.parse_eq_ok_iff.mp accepted
  obtain ⟨still, perm⟩ := Registry.accepted_reordered byName reordered clean
  have sound := ((Registry.problems_eq_nil_iff byName _).mp clean).2
  have soundAfter := ((Registry.problems_eq_nil_iff byName _).mp still).2
  have votes : ∀ query,
      (((Catalog.mk (registry.declared (rows.map .ofRow)).features).report query).votes.map
        fun vote => (nameKey vote.1, vote.2)).Perm
        (((Catalog.mk (registry.declared (other.map .ofRow)).features).report query).votes.map
          fun vote => (nameKey vote.1, vote.2)) := by
    intro query
    rw [Registry.votes_report_declared byName sound, Registry.votes_report_declared byName soundAfter]
    exact (perm.filter _).map _
  refine ⟨_, Registry.parse_eq_ok_iff.mpr ⟨still, rfl⟩, ?_, votes, ?_⟩
  · rw [Registry.flags_declared, Registry.flags_declared]
    apply (List.perm_ext_iff_of_nodup Registry.nodup_map_nameKey_flags
      Registry.nodup_map_nameKey_flags).mpr
    intro key
    rw [Registry.nameKey_mem_flags_iff_summaries, Registry.nameKey_mem_flags_iff_summaries]
    exact (perm.map _).mem_iff
  · intro query
    have agree : ∀ votes : List (String × Bool),
        (!votes.isEmpty && votes.all (·.2)) =
          (!(votes.map fun vote => (nameKey vote.1, vote.2)).isEmpty &&
            (votes.map fun vote => (nameKey vote.1, vote.2)).all (·.2)) := by
      intro votes
      simp [Function.comp_def]
    rw [Catalog.isEnabled_eq_votes, Catalog.isEnabled_eq_votes, agree, (votes query).isEmpty_eq,
      (votes query).all_eq, ← agree]

theorem parse_reordered_ranged :
    ∃ catalog, parse .ranged ["f = range", "g = true", "f.range.min = 1", "f.range.max = 2"] =
        .ok catalog ∧
      ∃ rearranged, parse .ranged ["g = true", "f = range", "f.range.max = 2", "f.range.min = 1"] =
          .ok rearranged ∧
        ∀ query, catalog.isEnabled query = rearranged.isEnabled query := by
  have sound : (parse .ranged
      ["f = range", "g = true", "f.range.min = 1", "f.range.max = 2"]).isOk = true := by
    decide +kernel
  obtain ⟨catalog, accepted⟩ := exists_ok_of_isOk sound
  have flags : Exchange Line.rowsApart ["f = range", "g = true", "f.range.min = 1", "f.range.max = 2"]
      ["g = true", "f = range", "f.range.min = 1", "f.range.max = 2"] := .swap (by decide +kernel) _
  have bounds : Exchange Line.rowsApart ["g = true", "f = range", "f.range.min = 1", "f.range.max = 2"]
      ["g = true", "f = range", "f.range.max = 2", "f.range.min = 1"] :=
    .cons _ (.cons _ (.swap (by decide +kernel) _))
  obtain ⟨rearranged, parsed, -, -, enabled⟩ := parse_reordered .ranged (Registry.readsByName _) _ _
    ((Relation.ReflTransGen.single flags).tail bounds) catalog accepted
  exact ⟨catalog, accepted, rearranged, parsed, enabled⟩

end FeatureFlags
