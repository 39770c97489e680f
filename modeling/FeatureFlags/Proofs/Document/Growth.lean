import FeatureFlags.Proofs.Criterion.Rule
import FeatureFlags.Proofs.Document.Outcome

namespace FeatureFlags

namespace Line

def onlyDeclares : Line → Bool
  | .ignored | .assignment [_] _ => true
  | _ => false

theorem setting?_of_onlyDeclares {line : Line} (declaring : line.onlyDeclares = true) (flag name : String) :
    line.setting? flag name = none := by
  cases line using byKind with
  | inert line fault inert => exact inert.setting? flag name
  | declaration => rfl
  | parameter => exact absurd declaring Bool.false_ne_true

end Line

variable {σ : Type} [Criterion σ]

structure Feature.Extends (feature later : Feature σ) : Prop where
  name : feature.name = later.name
  attached : feature.attached <+: later.attached

namespace Feature.Extends

variable {feature later : Feature σ}

theorem votes (extension : feature.Extends later) : feature.votes <+: later.votes :=
  extension.attached.map _

theorem isEnabled (extension : feature.Extends later) (present : feature.attached ≠ [])
    (enabled : later.isEnabled = true) : feature.isEnabled = true := by
  rw [Feature.isEnabled, Bool.and_eq_true, Bool.not_eq_true', List.isEmpty_eq_false_iff,
    List.all_eq_true] at enabled ⊢
  refine ⟨present, fun attached member => ?_⟩
  exact enabled.2 attached (extension.attached.subset member)

end Feature.Extends

namespace Registry

variable {registry : Registry σ} {lines more : List Line} {query : String}

omit [Criterion σ] in
theorem flags_prefix_append (lines more : List Line) :
    registry.flags lines <+: registry.flags (lines ++ more) := by
  induction more using List.reverseRecOn with
  | nil => simp only [List.append_nil, List.prefix_refl]
  | append_singleton more line ih =>
    apply ih.trans
    rw [← List.append_assoc, flags_concat]
    cases Declaration.ofLine? registry line [] with
    | none =>
      rw [Option.map_none, Option.toList_none, List.append_nil]
      exact List.prefix_refl _
    | some declaration =>
      rw [Option.map_some, Option.toList_some, firstSpellings_concat]
      split
      · exact List.prefix_refl _
      · exact List.prefix_append _ _

theorem attachedOn_prefix_concat {line : Line} (declaring : line.onlyDeclares = true) (lines : List Line)
    (flag : String) : registry.attachedOn lines flag <+: registry.attachedOn (lines ++ [line]) flag := by
  have kept : ∀ declaration : Declaration σ, (declaration.extend line).attached = declaration.attached :=
    fun declaration => Declaration.attached_extend_of_none (Line.setting?_of_onlyDeclares declaring _ _)
  rw [attachedOn_concat, attachedOn]
  simp only [kept]
  exact List.prefix_append _ _

theorem attachedOn_prefix_append (declaring : ∀ line ∈ more, line.onlyDeclares = true) (flag : String) :
    registry.attachedOn lines flag <+: registry.attachedOn (lines ++ more) flag := by
  induction more using List.reverseRecOn with
  | nil => simp only [List.append_nil, List.prefix_refl]
  | append_singleton more line ih =>
    rw [List.forall_mem_append] at declaring
    rw [← List.append_assoc]
    exact (ih declaring.1).trans
      (attachedOn_prefix_concat (declaring.2 line List.mem_cons_self) (lines ++ more) flag)

theorem attached_ne_nil_of_find?_declared {feature : Feature σ}
    (found : (registry.declared lines).features.find? query = some feature) : feature.attached ≠ [] := by
  rw [find?_declared, Option.map_eq_some_iff] at found
  obtain ⟨spelling, first, rfl⟩ := found
  obtain ⟨declaration, member, on⟩ := nameKey_mem_flags_iff.mp (nameKey_mem_of_find? first)
  exact List.ne_nil_of_mem (List.mem_map_of_mem (List.mem_filter.mpr ⟨member, on⟩))

theorem find?_declared_append (declaring : ∀ line ∈ more, line.onlyDeclares = true) {feature : Feature σ}
    (found : (registry.declared lines).features.find? query = some feature) :
    ∃ later, (registry.declared (lines ++ more)).features.find? query = some later ∧
      feature.Extends later := by
  rw [find?_declared, Option.map_eq_some_iff] at found
  obtain ⟨spelling, first, rfl⟩ := found
  have still := (flags_prefix_append lines more).find?_eq_some first
  refine ⟨⟨spelling, registry.attachedOn (lines ++ more) query⟩, ?_, rfl, ?_⟩
  · rw [find?_declared, still, Option.map_some]
  · exact attachedOn_prefix_append declaring query

end Registry

/-- Further declarations come after those that a document has: the flags keep their places, each keeps its
    votes and may get others. So they can disable a flag of the document, and never enable one. -/
theorem parse_append_declarations (registry : Registry σ) (rows more : List String)
    (declaring : ∀ row ∈ more, (Line.ofRow row).onlyDeclares = true) (catalog grown : Catalog σ)
    (accepted : parse registry rows = .ok catalog) (extended : parse registry (rows ++ more) = .ok grown) :
    catalog.flags <+: grown.flags ∧
      (∀ query feature, catalog.find? query = some feature →
        ∃ later, grown.find? query = some later ∧ feature.name = later.name ∧
          feature.votes <+: later.votes) ∧
      ∀ query, catalog.contains query = true → grown.isEnabled query = true →
        catalog.isEnabled query = true := by
  obtain ⟨-, rfl⟩ := Registry.parse_eq_ok_iff.mp accepted
  obtain ⟨-, rfl⟩ := Registry.parse_eq_ok_iff.mp extended
  rw [List.map_append]
  have lines : ∀ line ∈ more.map Line.ofRow, line.onlyDeclares = true := by
    simpa only [List.forall_mem_map] using declaring
  have kept : ∀ query feature, (registry.declared (rows.map .ofRow)).features.find? query = some feature →
      ∃ later, (registry.declared (rows.map .ofRow ++ more.map .ofRow)).features.find? query = some later ∧
        feature.Extends later := fun _ _ => Registry.find?_declared_append lines
  refine ⟨?_, ?_, ?_⟩
  · rw [Registry.flags_declared, Registry.flags_declared]
    exact Registry.flags_prefix_append _ _
  · intro query feature found
    obtain ⟨later, again, extension⟩ := kept query feature found
    exact ⟨later, again, extension.name, extension.votes⟩
  · intro query declared enabled
    rw [Catalog.contains, ← NameTable.isSome_find?, Option.isSome_iff_exists] at declared
    obtain ⟨feature, found⟩ := declared
    obtain ⟨later, again, extension⟩ := kept query feature found
    rw [Catalog.isEnabled, Catalog.find?, again, Option.any_some] at enabled
    rw [Catalog.isEnabled, Catalog.find?, found, Option.any_some]
    exact extension.isEnabled (Registry.attached_ne_nil_of_find?_declared found) enabled

theorem parse_append_declarations_ranged :
    ∃ catalog, parse .ranged ["F = range", "f.range.Min = 1", "f.range.max = 2", "g = false"] = .ok catalog ∧
      ∃ grown, parse .ranged (["F = range", "f.range.Min = 1", "f.range.max = 2", "g = false"] ++
          ["# more", "f = TRUE", "", "h = true", "G = true"]) = .ok grown ∧
        catalog.flags <+: grown.flags ∧ grown.isEnabled "f" = true ∧ catalog.isEnabled "f" = true := by
  have sound : (parse .ranged
      ["F = range", "f.range.Min = 1", "f.range.max = 2", "g = false"]).toOption.any (·.contains "f") = true := by
    decide +kernel
  have growing : (parse .ranged (["F = range", "f.range.Min = 1", "f.range.max = 2", "g = false"] ++
      ["# more", "f = TRUE", "", "h = true", "G = true"])).toOption.any (·.isEnabled "f") = true := by
    decide +kernel
  obtain ⟨catalog, accepted, declared⟩ := exists_ok_of_any sound
  obtain ⟨grown, extended, enabled⟩ := exists_ok_of_any growing
  obtain ⟨flags, -, before⟩ := parse_append_declarations .ranged _ _ (by decide +kernel) catalog grown
    accepted extended
  exact ⟨catalog, accepted, grown, extended, flags, enabled, before "f" declared enabled⟩

end FeatureFlags
