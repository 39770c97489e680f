import FeatureFlags.Proofs.Text.Reader
import FeatureFlags.Text.Quoted

namespace FeatureFlags.Text

def hexDigit (c : Char) : Nat :=
  if c.isDigit then c.toNat - '0'.toNat else c.toNat - 'a'.toNat + 10

def ofHexDigits (digits : List Char) : Nat := digits.foldl (fun value c => 16 * value + hexDigit c) 0

theorem hexDigit_digitChar : ∀ digit < 16, hexDigit (Nat.digitChar digit) = digit := by decide

theorem digitChar_ne_brace : ∀ digit < 16, Nat.digitChar digit ≠ '\x7d' := by decide

theorem ofHexDigits_toDigits (value : Nat) : ofHexDigits (Nat.toDigits 16 value) = value := by
  induction value using Nat.strong_induction_on with
  | _ value ih =>
    rw [Nat.toDigits_eq_if (by decide)]
    split
    · rename_i small
      rw [ofHexDigits, List.foldl_cons, List.foldl_nil, hexDigit_digitChar value small, Nat.mul_zero,
        Nat.zero_add]
    · have front := ih (value / 16) (by omega)
      rw [ofHexDigits] at front
      rw [ofHexDigits, List.foldl_append, front, List.foldl_cons, List.foldl_nil,
        hexDigit_digitChar _ (Nat.mod_lt value (by decide))]
      omega

theorem brace_not_mem_toDigits (value : Nat) : '\x7d' ∉ Nat.toDigits 16 value := by
  induction value using Nat.strong_induction_on with
  | _ value ih =>
    rw [Nat.toDigits_eq_if (by decide)]
    split
    · rename_i small
      rw [List.mem_singleton]
      exact (digitChar_ne_brace value small).symm
    · rw [List.mem_append, List.mem_singleton, not_or]
      exact ⟨ih (value / 16) (by omega), (digitChar_ne_brace _ (Nat.mod_lt value (by decide))).symm⟩

namespace Reader

variable {α β : Type}

def Reads (reader : Reader α) (write : α → List Char) : Prop :=
  ∀ item later, reader (write item ++ later) = some (item, later)

theorem Reads.append_inj {reader : Reader α} {write : α → List Char} (reads : reader.Reads write)
    {item other : α} {rest later : List Char} (same : write item ++ rest = write other ++ later) :
    item = other ∧ rest = later := by
  have read := reads item rest
  rw [same, reads, Option.some_inj, Prod.mk.injEq] at read
  exact ⟨read.1.symm, read.2.symm⟩

def word (expected : List Char) : Reader Unit := fun text =>
  if expected.isPrefixOf text then some ((), text.drop expected.length) else none

/-- Takes one after the other as long as there is one. There has to be progress. -/
def many (one : Reader α) (text : List Char) : List α × List Char :=
  match one text with
  | none => ([], text)
  | some (first, rest) =>
    if rest.length < text.length then (first :: (many one rest).1, (many one rest).2) else ([], text)
termination_by text.length

def escaped : Reader Char
  | '\\' :: '0' :: rest => some ('\x00', rest)
  | '\\' :: 't' :: rest => some ('\t', rest)
  | '\\' :: 'r' :: rest => some ('\r', rest)
  | '\\' :: 'n' :: rest => some ('\n', rest)
  | '\\' :: '"' :: rest => some ('"', rest)
  | '\\' :: '\\' :: rest => some ('\\', rest)
  | '\\' :: 'u' :: '\x7b' :: rest =>
    match rest.dropWhile (· != '\x7d') with
    | [] => none
    | _ :: later => some (Char.ofNat (ofHexDigits (rest.takeWhile (· != '\x7d'))), later)
  | '\\' :: _ | '"' :: _ | [] => none
  | c :: rest => some (c, rest)

def quoted : Reader (List Char)
  | '"' :: text =>
    match many escaped text with
    | (content, '"' :: rest) => some (content, rest)
    | _ => none
  | _ => none

theorem word_append (expected rest : List Char) : word expected (expected ++ rest) = some ((), rest) := by
  simp [word]

theorem many_flatMap {one : Reader α} {write : α → List Char} {rest : List Char}
    (reads : one.Reads write) (shown : ∀ item, write item ≠ []) (ends : one rest = none) (items : List α) :
    many one (items.flatMap write ++ rest) = (items, rest) := by
  induction items with
  | nil => rw [List.flatMap_nil, List.nil_append, many, ends]
  | cons item items ih =>
    have progress : 0 < (write item).length := List.length_pos_iff.mpr (shown item)
    rw [List.flatMap_cons, List.append_assoc, many, reads]
    simp only [ih, List.length_append]
    rw [if_pos (by omega)]

theorem separated_intercalate {part : Reader α} {mark : Reader β} {write : α → List Char}
    {between rest : List Char} {sign : β} (reads : part.Reads write)
    (marks : ∀ later, mark (between ++ later) = some (sign, later)) (shown : ∀ item, write item ≠ [])
    (ends : mark rest = none) (first : α) (items : List α) :
    separated part mark (between.intercalate ((first :: items).map write) ++ rest) =
      some (first :: items, rest) := by
  induction items generalizing first with
  | nil =>
    rw [List.map_singleton, List.intercalate_singleton, separated, reads]
    simp only [ends]
  | cons second items ih =>
    have progress : 0 < (write first).length := List.length_pos_iff.mpr (shown first)
    rw [List.map_cons, List.map_cons, List.intercalate_cons_cons, ← List.map_cons, List.append_assoc,
      List.append_assoc, separated, reads]
    simp only [marks, ih, List.length_append]
    rw [if_pos (by omega)]

theorem escaped_plain {c : Char} (backslash : c ≠ '\\') (quotationMark : c ≠ '"') (rest : List Char) :
    escaped (c :: rest) = some (c, rest) := by
  unfold escaped
  split <;> simp_all

theorem escaped_code {digits : List Char} (free : '\x7d' ∉ digits) (rest : List Char) :
    escaped ('\\' :: 'u' :: '\x7b' :: (digits ++ '\x7d' :: rest)) =
      some (Char.ofNat (ofHexDigits digits), rest) := by
  have before : ∀ c ∈ digits, (c != '\x7d') = true :=
    fun c member => bne_iff_ne.mpr fun same => free (same ▸ member)
  simp [escaped, List.takeWhile_append_of_pos before, List.dropWhile_append_of_pos before]

/-- The escape of a character ends where it can be told to end, whatever follows. -/
theorem escaped_reads : escaped.Reads escape := by
  intro c rest
  unfold escape
  split
  -- The short forms are read as they are written; only the other characters are shown in two ways.
  case h_7 _ _ _ _ _ quotationMark backslash =>
    split
    · exact escaped_plain backslash quotationMark rest
    · have read := escaped_code (brace_not_mem_toDigits c.toNat) rest
      rw [ofHexDigits_toDigits, Char.ofNat_toNat] at read
      simpa using read
  all_goals rfl

theorem escape_ne_nil (c : Char) : escape c ≠ [] := by
  intro empty
  have read := escaped_reads c []
  rw [empty] at read
  cases read

theorem quoted_reads : quoted.Reads quote := by
  intro text rest
  have content : many escaped (text.flatMap escape ++ '"' :: rest) = (text, '"' :: rest) :=
    many_flatMap escaped_reads escape_ne_nil rfl text
  simp [quote, quoted, content]

end Reader

theorem escape_prefix_code {c other : Char} {rest later : List Char}
    (same : escape c ++ rest = escape other ++ later) : c = other ∧ rest = later :=
  Reader.escaped_reads.append_inj same

theorem quote_append_inj {text other rest later : List Char}
    (same : quote text ++ rest = quote other ++ later) : text = other ∧ rest = later :=
  Reader.quoted_reads.append_inj same

end FeatureFlags.Text
