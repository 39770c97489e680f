import FeatureFlags.Proofs.Criterion.Rule
import FeatureFlags.Proofs.Document.Outcome
import Mathlib.Order.Monotone.Basic

namespace FeatureFlags

inductive Insertion : List String → List String → Type where
  | nil : Insertion [] []
  | keep (row : String) {rows enlarged : List String} (rest : Insertion rows enlarged) :
    Insertion (row :: rows) (row :: enlarged)
  | insert (row : String) (ignored : Line.ofRow row = .ignored) {rows enlarged : List String}
    (rest : Insertion rows enlarged) : Insertion rows (row :: enlarged)

namespace Insertion

variable {rows enlarged : List String}

/-- Where a row has gone, both counted from zero. -/
def position {rows enlarged : List String} : Insertion rows enlarged → Nat → Nat
  | nil, index => index
  | keep _ _, 0 => 0
  | keep _ rest, index + 1 => rest.position index + 1
  | insert _ _ rest, index => rest.position index + 1

/-- The number that the row of a number has got, both counted from one. -/
def line (insertion : Insertion rows enlarged) (number : Nat) : Nat := insertion.position (number - 1) + 1

theorem strictMono_position (insertion : Insertion rows enlarged) : StrictMono insertion.position := by
  induction insertion with
  | nil => exact strictMono_id
  | keep row rest ih =>
    intro first second before
    cases first with
    | zero =>
      obtain ⟨previous, rfl⟩ := Nat.exists_eq_add_of_lt before
      exact Nat.succ_pos _
    | succ first =>
      cases second with
      | zero => exact absurd before (Nat.not_lt_zero _)
      | succ second => exact Nat.succ_lt_succ (ih (Nat.lt_of_succ_lt_succ before))
  | insert row ignored rest ih => exact fun first second before => Nat.succ_lt_succ (ih before)

theorem getElem?_position (insertion : Insertion rows enlarged) {index : Nat} {row : String}
    (here : rows[index]? = some row) : enlarged[insertion.position index]? = some row := by
  induction insertion generalizing index with
  | nil => exact absurd here (by simp)
  | keep first rest ih =>
    cases index with
    | zero => exact here
    | succ index => exact ih here
  | insert first ignored rest ih => exact ih here

end Insertion

namespace Problem

def renumber (line : Nat → Nat) : Problem → Problem
  | atLine number fault => atLine (line number) fault
  | invalidParameter cause => invalidParameter cause

end Problem

namespace Problems

def renumber (line : Nat → Nat) (problems : Problems) : Problems :=
  ⟨problems.first.renumber line, problems.others.map (Problem.renumber line)⟩

theorem ofList?_map_renumber (line : Nat → Nat) (problems : List Problem) :
    ofList? (problems.map (Problem.renumber line)) = (ofList? problems).map (renumber line) := by
  cases problems <;> rfl

end Problems

variable {σ : Type} [Criterion σ] {rows enlarged : List String}

namespace Draft

theorem scan_enlarged (registry : Registry σ) (insertion : Insertion rows enlarged) (draft : Draft σ)
    {start first : Nat} {line : Nat → Nat}
    (moved : ∀ index, line (first + index) = start + insertion.position index) :
    Problem.ofFaults start (scan registry draft (enlarged.map .ofRow)).1 =
        (Problem.ofFaults first (scan registry draft (rows.map .ofRow)).1).map (Problem.renumber line) ∧
      (scan registry draft (enlarged.map .ofRow)).2 = (scan registry draft (rows.map .ofRow)).2 := by
  induction insertion generalizing draft start first with
  | nil => exact ⟨rfl, rfl⟩
  | @keep row rows enlarged rest ih =>
    have here : line first = start := moved 0
    have behind : ∀ index, line (first + 1 + index) = start + 1 + rest.position index := by
      intro index
      have next := moved (index + 1)
      rw [Insertion.position] at next
      rw [Nat.add_right_comm, Nat.add_assoc, next]
      omega
    obtain ⟨faults, same⟩ := ih (draft.read registry (Line.ofRow row)).2 behind
    refine ⟨?_, same⟩
    rw [List.map_cons, List.map_cons, scan, scan]
    cases (draft.read registry (Line.ofRow row)).1 with
    | none => exact faults
    | some fault =>
      simp only [Problem.ofFaults, List.map_cons, Problem.renumber, here, faults]
  | @insert row ignored rows enlarged rest ih =>
    have behind : ∀ index, line (first + index) = start + 1 + rest.position index := by
      intro index
      have next := moved index
      rw [Insertion.position] at next
      omega
    rw [List.map_cons, ignored]
    exact ih draft behind

end Draft

namespace Registry

theorem problems_enlarged (registry : Registry σ) (insertion : Insertion rows enlarged) :
    registry.problems (enlarged.map .ofRow) =
        (registry.problems (rows.map .ofRow)).map (Problem.renumber insertion.line) ∧
      registry.declared (enlarged.map .ofRow) = registry.declared (rows.map .ofRow) := by
  have moved : ∀ index, insertion.line (1 + index) = 1 + insertion.position index := by
    intro index
    rw [Insertion.line, Nat.add_sub_cancel_left, Nat.add_comm]
  obtain ⟨faults, same⟩ := Draft.scan_enlarged registry insertion {} moved
  simp only [scan_empty] at faults same
  refine ⟨?_, same⟩
  rw [problems, problems, faults, same, List.map_append, List.map_map]
  rfl

end Registry

/-- Ignored rows can be put in anywhere: a document is accepted as before, with the same catalog, or refused
    for the same problems in the same order, each at the place where its row has gone. -/
theorem parse_enlarged (registry : Registry σ) (insertion : Insertion rows enlarged) :
    StrictMono insertion.position ∧
      (∀ index row, rows[index]? = some row → enlarged[insertion.position index]? = some row) ∧
      parse registry enlarged = (parse registry rows).mapError (Problems.renumber insertion.line) := by
  refine ⟨insertion.strictMono_position, fun _ _ => insertion.getElem?_position, ?_⟩
  obtain ⟨problems, declared⟩ := registry.problems_enlarged insertion
  rw [Registry.parse_eq, Registry.parse_eq, problems, declared, Problems.ofList?_map_renumber]
  cases Problems.ofList? (registry.problems (rows.map .ofRow)) <;> rfl

theorem parse_enlarged_moved :
    parse .ranged ["# a = b", "f = range", " ", "x", "= y.z"] =
      .error ⟨.atLine 4 .missingEqualSign, [.invalidParameter ⟨"f", .missing "Min"⟩]⟩ := by
  obtain ⟨-, -, enlarged⟩ := parse_enlarged .ranged
    (.insert "# a = b" (by decide +kernel) (.keep "f = range" (.insert " " (by decide +kernel)
      (.keep "x" (.insert "= y.z" (by decide +kernel) .nil)))))
  rw [enlarged]
  decide +kernel

end FeatureFlags
