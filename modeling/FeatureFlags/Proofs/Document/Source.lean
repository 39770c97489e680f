import FeatureFlags.Document.Source
import FeatureFlags.Proofs.Criterion.Rule
import FeatureFlags.Proofs.Document.Classification
import FeatureFlags.Proofs.Document.Outcome
import FeatureFlags.Proofs.Text.Rows

namespace FeatureFlags

open Text

theorem Line.ofRow_readBack (row : String) (ending : RowEnd) :
    ofRow (String.ofList (ending.readBack row.toList)) = ofRow row := by
  obtain ⟨pad, blank, whole⟩ := readBack_append row.toList ending
  rw [ofRow, ofRow, String.toList_ofList, ← ofChars_append_blank blank, whole]

def textOf (ended : List (String × RowEnd)) (unended : Option String) : String :=
  String.join (ended.map fun (row, ending) => row ++ ending.text) ++ unended.getD ""

theorem toList_textOf_cons (row : String) (ending : RowEnd) (ended : List (String × RowEnd))
    (unended : Option String) :
    (textOf ((row, ending) :: ended) unended).toList =
      row.toList ++ ending.text.toList ++ (textOf ended unended).toList := by
  simp [textOf]

/-- All rows are read back; an empty one at the end of the text is no row there. -/
theorem rowsOfText_textOf {ended : List (String × RowEnd)} {unended : Option String}
    (single : ∀ row ∈ ended.map (·.1) ++ unended.toList, '\n' ∉ row.toList) :
    rowsOfText (textOf ended unended) =
      ended.map (fun (row, ending) => String.ofList (ending.readBack row.toList)) ++
        unended.toList.filter (· != "") := by
  induction ended with
  | nil =>
    cases unended with
    | none => rfl
    | some row =>
      have alone : '\n' ∉ row.toList := single row (by simp)
      have text : (textOf [] (some row)).toList = row.toList := by simp [textOf]
      rw [rowsOfText, text, rows_of_not_mem alone]
      by_cases empty : row = "" <;> simp [empty]
  | cons head ended ih =>
    rcases head with ⟨row, ending⟩
    have alone : '\n' ∉ row.toList := single row (by simp)
    have later := ih fun other member => single other (List.mem_cons_of_mem _ member)
    rw [rowsOfText, toList_textOf_cons, rows_append_rowEnd alone, List.map_cons, ← rowsOfText, later]
    rfl

section

variable {σ : Type} [Criterion σ] {registry : Registry σ} {rows other : List String}

theorem parse_congr (same : rows.map Line.ofRow = other.map Line.ofRow) :
    parse registry rows = parse registry other := by
  simp only [parse, same]

theorem Problem.ofFaults_concat_none (line : Nat) (faults : List (Option Fault)) :
    ofFaults line (faults ++ [none]) = ofFaults line faults := by
  induction faults generalizing line with
  | nil => rfl
  | cons fault rest ih => cases fault <;> simp [ofFaults, ih]

theorem parse_concat_ignored {row : String} (ignored : Line.ofRow row = .ignored) :
    parse registry (rows ++ [row]) = parse registry rows := by
  have lines : (rows ++ [row]).map Line.ofRow = rows.map Line.ofRow ++ [.ignored] := by
    rw [List.map_append, List.map_singleton, ignored]
  have declared : registry.declared (rows.map Line.ofRow ++ [.ignored]) =
      registry.declared (rows.map Line.ofRow) :=
    Registry.declared_concat_of_silent rfl fun _ _ => rfl
  have faults : registry.faultsAfter [] (rows.map Line.ofRow ++ [.ignored]) =
      registry.faultsAfter [] (rows.map Line.ofRow) ++ [none] := Registry.faultsAfter_concat _ _ _
  rw [Registry.parse_eq, Registry.parse_eq, Registry.problems, lines, faults, declared,
    Problem.ofFaults_concat_none, Registry.problems]

/-- An empty row at the end of a text is lost, and says nothing. -/
theorem parse_append_filter (unended : Option String) :
    parse registry (rows ++ unended.toList.filter (· != "")) = parse registry (rows ++ unended.toList) := by
  cases unended with
  | none => rfl
  | some row =>
    by_cases empty : row = ""
    · have blank : Line.ofRow "" = .ignored := by decide
      simp [empty, parse_concat_ignored blank]
    · simp [empty]

end

/-- A text is read as the list of its rows, whatever ends each of them. If no row ends with a carriage
    return, ended rows come back as they are. -/
theorem load_textOf {σ : Type} [Criterion σ] (registry : Registry σ) (ended : List (String × RowEnd))
    (unended : Option String)
    (single : ∀ row ∈ ended.map (·.1) ++ unended.toList, '\n' ∉ row.toList) :
    load registry (.text (textOf ended unended)) =
        (parse registry (ended.map (·.1) ++ unended.toList)).mapError .config ∧
      (unended = none → (∀ row ∈ ended.map (·.1), row.toList.getLast? ≠ some '\r') →
        (Source.text (textOf ended unended)).read = .ok (ended.map (·.1))) := by
  constructor
  · have same : (ended.map fun (row, ending) => String.ofList (ending.readBack row.toList)).map
        Line.ofRow = (ended.map (·.1)).map Line.ofRow := by
      rw [List.map_map, List.map_map]
      exact List.map_congr_left fun (row, ending) _ => Line.ofRow_readBack row ending
    rw [load, Source.read, rowsOfText_textOf single]
    dsimp only
    rw [parse_append_filter]
    congr 1
    apply parse_congr
    rw [List.map_append, List.map_append, same]
  · rintro rfl kept
    rw [Source.read, rowsOfText_textOf single, Option.toList_none, List.filter_nil, List.append_nil]
    congr 1
    apply List.map_congr_left
    intro (row, ending) member
    dsimp only
    rw [readBack_of_ne (kept row (List.mem_map_of_mem member)), String.ofList_toList]

theorem load_textOf_mixed :
    load Registry.ranged (.text (textOf [("f = true\r", .lineFeed), ("x", .carriageReturnLineFeed)]
        (some "f.true.a = 1"))) =
        (parse Registry.ranged ["f = true\r", "x", "f.true.a = 1"]).mapError .config ∧
      (Source.text (textOf [("f = true", .carriageReturnLineFeed), ("", .lineFeed)] none)).read =
        .ok ["f = true", ""] :=
  ⟨(load_textOf .ranged _ _ (by decide +kernel)).1,
    (load_textOf Registry.ranged _ none (by decide +kernel)).2 rfl (by decide +kernel)⟩

end FeatureFlags
