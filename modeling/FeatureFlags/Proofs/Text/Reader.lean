import FeatureFlags.Proofs.Text.Split
import Mathlib.Data.List.TakeWhile

namespace FeatureFlags.Text

abbrev Reader (α : Type) := List Char → Option (α × List Char)

namespace Reader

variable {α β : Type}

/-- Takes what is before the first `stop`, which may be nothing, and all of a text without one. -/
def TakesTill (stop : Char) (reader : Reader (List Char)) : Prop :=
  ∀ text, reader text = some (text.takeWhile (· != stop), text.dropWhile (· != stop))

structure TakesOne (c : Char) (reader : Reader Char) : Prop where
  present : ∀ rest, reader (c :: rest) = some (c, rest)
  absent : ∀ text, text.head? ≠ some c → reader text = none

/-- Takes a part, and then, as long as there is a mark, the mark and another part. -/
structure Alternates (part : Reader α) (mark : Reader β) (whole : Reader (List α)) : Prop where
  last : ∀ text first rest, part text = some (first, rest) → mark rest = none →
    whole text = some ([first], rest)
  next : ∀ text first rest between later others final, part text = some (first, rest) →
    mark rest = some (between, later) → whole later = some (others, final) →
      whole text = some (first :: others, final)

/-- The parts that are taken from a text; a text of which none can be taken is its own only part. -/
def partsOf (whole : Reader (List (List Char))) (text : List Char) : List (List Char) :=
  match whole text with
  | some (parts, _) => parts
  | none => [text]

end Reader

open Reader

theorem split_cases (separator : Char) (text : List Char) :
    text.dropWhile (· != separator) = [] ∧
        split separator text = [text.takeWhile (· != separator)] ∨
      ∃ later, text.dropWhile (· != separator) = separator :: later ∧ later.length < text.length ∧
        split separator text = text.takeWhile (· != separator) :: split separator later := by
  induction text with
  | nil => exact Or.inl ⟨rfl, rfl⟩
  | cons c rest ih =>
    by_cases same : c = separator
    · subst same
      refine Or.inr ⟨rest, ?_, Nat.lt_succ_self _, ?_⟩
      · simp
      · simp [split_separator]
    · have differs : (c != separator) = true := bne_iff_ne.mpr same
      simp only [List.dropWhile_cons, List.takeWhile_cons, differs, ↓reduceIte, split_other same]
      rcases ih with ⟨nothing, parts⟩ | ⟨later, behind, shorter, parts⟩
      · exact Or.inl ⟨nothing, by rw [parts, List.modifyHead_cons]⟩
      · exact Or.inr ⟨later, behind, Nat.lt_succ_of_lt shorter, by rw [parts, List.modifyHead_cons]⟩

section Alternating

variable {separator : Char} {part : Reader (List Char)} {mark : Reader Char}
  {whole : Reader (List (List Char))}

/-- Parts without the separator, taken as long as separators follow, are all the parts, and nothing is left. -/
theorem read_eq_split (till : TakesTill separator part) (one : TakesOne separator mark)
    (alternates : Alternates part mark whole) (text : List Char) :
    whole text = some (split separator text, []) := by
  induction size : text.length using Nat.strong_induction_on generalizing text with
  | _ size shorter =>
    have first := till text
    rcases split_cases separator text with ⟨nothing, parts⟩ | ⟨later, behind, before, parts⟩
    · rw [nothing] at first
      rw [parts]
      exact alternates.last text _ [] first (one.absent [] (by simp))
    · rw [behind] at first
      rw [parts]
      have rest : whole later = some (split separator later, []) := shorter later.length (size ▸ before) later rfl
      exact alternates.next text _ _ separator later _ [] first (one.present later) rest

end Alternating

/-- Splitting a text at a separator and joining parts by it undo each other: parts are free of the separator,
    and there is one more of them than there are separators. A reader that takes parts as long as separators
    follow never fails and takes these parts, so that no text is given up as its own only part. -/
theorem split_inverts_intercalate (separator : Char) :
    (∀ text, split separator text ≠ [] ∧ (∀ part ∈ split separator text, separator ∉ part) ∧
      (split separator text).length = text.count separator + 1 ∧
      [separator].intercalate (split separator text) = text) ∧
    (∀ parts, parts ≠ [] → (∀ part ∈ parts, separator ∉ part) →
      split separator ([separator].intercalate parts) = parts) ∧
    ∀ part mark whole, TakesTill separator part → TakesOne separator mark → Alternates part mark whole →
      ∀ text, whole text = some (split separator text, []) ∧ partsOf whole text = split separator text := by
  refine ⟨?_, ?_, ?_⟩
  · intro text
    exact ⟨split_ne_nil separator text, fun _ member => not_mem_of_mem_split member,
      length_split separator text, intercalate_split separator text⟩
  · intro parts nonempty free
    rw [split_eq_splitOn]
    exact List.splitOn_intercalate separator free nonempty
  · intro part mark whole till one alternates text
    have read := read_eq_split till one alternates text
    exact ⟨read, by rw [partsOf, read]⟩

namespace Reader

variable {α β : Type}

def takeTill (stop : Char) : Reader (List Char) := fun text =>
  some (text.takeWhile (· != stop), text.dropWhile (· != stop))

def takeOne (c : Char) : Reader Char
  | [] => none
  | first :: rest => if first = c then some (first, rest) else none

/-- A part that does not follow on a mark leaves the mark where it is. There has to be progress. -/
def separated (part : Reader α) (mark : Reader β) (text : List Char) : Option (List α × List Char) :=
  match part text with
  | none => none
  | some (first, rest) =>
    match mark rest with
    | none => some ([first], rest)
    | some (_, later) =>
      if later.length < text.length then
        match separated part mark later with
        | none => some ([first], rest)
        | some (others, final) => some (first :: others, final)
      else none
termination_by text.length

theorem takesTill_takeTill (stop : Char) : TakesTill stop (takeTill stop) := fun _ => rfl

theorem takesOne_takeOne (c : Char) : TakesOne c (takeOne c) where
  present rest := if_pos rfl
  absent
    | [], _ => rfl
    | first :: rest, other => if_neg fun same => other (by rw [List.head?_cons, same])

theorem alternates_separated {part : Reader α} {mark : Reader β}
    (progress : ∀ text first rest between later, part text = some (first, rest) →
      mark rest = some (between, later) → later.length < text.length) :
    Alternates part mark (separated part mark) where
  last text first rest taken ends := by
    rw [separated, taken]
    simp only [ends]
  next text first rest between later others final taken marked followed := by
    rw [separated, taken]
    simp only [marked, progress text first rest between later taken marked, ↓reduceIte, followed]

theorem alternates_takeTill (separator : Char) :
    Alternates (takeTill separator) (takeOne separator) (separated (takeTill separator) (takeOne separator)) := by
  apply alternates_separated
  intro text first rest between later taken marked
  obtain ⟨-, rfl⟩ := Prod.mk.inj (Option.some.inj taken)
  cases behind : text.dropWhile (· != separator) with
  | nil =>
    rw [behind] at marked
    cases marked
  | cons next others =>
    rw [behind, takeOne] at marked
    have within : (text.dropWhile (· != separator)).length ≤ text.length := List.length_dropWhile_le _ _
    rw [behind, List.length_cons] at within
    split at marked
    · obtain ⟨-, rfl⟩ := Prod.mk.inj (Option.some.inj marked)
      exact within
    · cases marked

end Reader

theorem split_inverts_intercalate_repeated :
    partsOf (separated (takeTill '=') (takeOne '=')) "=a==b".toList = [[], ['a'], [], ['b']] ∧
      split '=' (['='].intercalate [[], ['a'], [], ['b']]) = [[], ['a'], [], ['b']] := by
  obtain ⟨-, joined, read⟩ := split_inverts_intercalate '='
  refine ⟨?_, joined _ (by decide) (by decide)⟩
  rw [(read _ _ _ (takesTill_takeTill '=') (takesOne_takeOne '=') (alternates_takeTill '=') _).2]
  decide

end FeatureFlags.Text
