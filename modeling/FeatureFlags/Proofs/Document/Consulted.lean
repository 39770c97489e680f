import FeatureFlags.Document
import FeatureFlags.Proofs.Criterion.Rule
import FeatureFlags.Proofs.Document.Declaration
import FeatureFlags.Proofs.Registry

namespace FeatureFlags

namespace Line

def declaredNames (lines : List Line) : List String := (lines.filterMap declaration?).map (·.2)

theorem mem_declaredNames {lines : List Line} {line : Line} {flag name : String} (member : line ∈ lines)
    (declares : line.declaration? = some (flag, name)) : name ∈ declaredNames lines :=
  List.mem_map.mpr ⟨(flag, name), List.mem_filterMap.mpr ⟨line, member, declares⟩, rfl⟩

end Line

variable {σ : Type} [Criterion σ]

namespace Draft

variable {registry other : Registry σ}

theorem read_congr {line : Line}
    (agree : ∀ flag name, line.declaration? = some (flag, name) → registry.find? name = other.find? name)
    (draft : Draft σ) : draft.read registry line = draft.read other line := by
  cases line using Line.byKind with
  | inert line fault inert => rw [inert.read, inert.read]
  | declaration flag name => simp only [read, declare, agree flag name rfl]
  | parameter => rfl

theorem scan_congr {lines : List Line}
    (agree : ∀ name ∈ Line.declaredNames lines, registry.find? name = other.find? name) (draft : Draft σ) :
    scan registry draft lines = scan other draft lines := by
  induction lines generalizing draft with
  | nil => rfl
  | cons line later ih =>
    have here : draft.read registry line = draft.read other line :=
      read_congr (fun _ name declares => agree name (Line.mem_declaredNames List.mem_cons_self declares)) draft
    have rest : ∀ name ∈ Line.declaredNames later, registry.find? name = other.find? name := by
      intro name member
      obtain ⟨names, listed, rfl⟩ := List.mem_map.mp member
      obtain ⟨next, present, declares⟩ := List.mem_filterMap.mp listed
      exact agree names.2 (Line.mem_declaredNames (List.mem_cons_of_mem _ present) declares)
    rw [scan, scan, here, ih rest]

end Draft

theorem parse_congr_registry {registry other : Registry σ} {rows : List String}
    (agree : ∀ name ∈ Line.declaredNames (rows.map .ofRow), registry.find? name = other.find? name) :
    parse registry rows = parse other rows := by
  rw [parse, parse, Draft.scan_congr agree]

/-- What becomes of a document is decided by the specifications that it declares, whatever else is
    registered: registries that have the same under the declared names do the same with it, so that other
    names can be registered or replaced. A line that declares nothing, such as one with a parameter, does not
    ask for the names that it has. -/
theorem parse_consults (registry : Registry σ) (rows : List String) :
    (∀ other : Registry σ,
      (∀ name ∈ Line.declaredNames (rows.map .ofRow), registry.find? name = other.find? name) →
        parse registry rows = parse other rows) ∧
      (∀ registrations : List (String × Specification σ),
        (∀ registration ∈ registrations, ∀ name ∈ Line.declaredNames (rows.map .ofRow),
          nameKey registration.1 ≠ nameKey name) →
        parse (registry.registerAll registrations) rows = parse registry rows) ∧
      ∀ (other : Registry σ) (draft : Draft σ) (line : Line), line.declaration? = none →
        draft.read registry line = draft.read other line := by
  refine ⟨fun other agree => parse_congr_registry agree, ?_, ?_⟩
  · intro registrations different
    apply parse_congr_registry
    intro name declared
    apply Registry.find?_registerAll_of_other
    exact fun registration registered => different registration registered name declared
  · intro other draft line undeclared
    apply Draft.read_congr
    intro flag name declares
    rw [undeclared] at declares
    exact absurd declares (by simp)

/-- The document declares `Always` alone, and has `range` and `maybe` in the keys of parameters. -/
theorem parse_consults_replaced :
    parse (Registry.ranged.register "always" (.constant true))
        ["f = Always", "f.range.min = 1", "g.maybe.x = 2"] =
      parse (Registry.initial.register "ALWAYS" (.constant true))
        ["f = Always", "f.range.min = 1", "g.maybe.x = 2"] ∧
      parse ((Registry.ranged.register "always" (.constant true)).registerAll
          [("Range", .constant true), ("maybe", .constant false), ("TRUE", .constant false)])
          ["f = Always", "f.range.min = 1", "g.maybe.x = 2"] =
        parse (Registry.ranged.register "always" (.constant true))
          ["f = Always", "f.range.min = 1", "g.maybe.x = 2"] := by
  obtain ⟨agreeing, registered, -⟩ := parse_consults (Registry.ranged.register "always" (.constant true))
    ["f = Always", "f.range.min = 1", "g.maybe.x = 2"]
  exact ⟨agreeing _ (by decide +kernel), registered _ (by decide +kernel)⟩

end FeatureFlags
