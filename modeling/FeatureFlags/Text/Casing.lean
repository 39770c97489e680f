import FeatureFlags.Text.Casing.CapitalRuns
import FeatureFlags.Text.Casing.Ranges

namespace FeatureFlags.Text

def isCased (c : Char) : Bool := inRanges casedRanges c

def isCaseIgnorable (c : Char) : Bool := inRanges caseIgnorableRanges c

namespace CapitalRun

def covers (run : CapitalRun) (c : Char) : Bool :=
  decide (run.first ≤ c.toNat) && decide (c.toNat ≤ run.last) &&
    (c.toNat - run.first) % run.stride == 0

def small (run : CapitalRun) (c : Char) : Char :=
  Char.ofNat (run.target + (c.toNat - run.first))

end CapitalRun

/-- The small letters of one character on its own; a capital dotted i keeps its dot as a mark. -/
def lowercaseChar (c : Char) : List Char :=
  if c = '\u0130' then ['i', '\u0307']
  else match capitalRuns.find? (·.covers c) with
    | some run => [run.small c]
    | none => [c]

/-- The nearest character that is not case-ignorable is a letter with case. -/
def startsCased (text : List Char) : Bool :=
  match text.dropWhile isCaseIgnorable with
  | c :: _ => isCased c
  | [] => false

/-- Lowercases what follows `before`, which is given from its end. A capital sigma at the end of a
    word has a small letter of its own. -/
def lowercaseAfter (before : List Char) : List Char → List Char
  | [] => []
  | c :: rest =>
    if c = 'Σ' then
      (if startsCased before && !startsCased rest then 'ς' else 'σ') ::
        lowercaseAfter (c :: before) rest
    else lowercaseChar c ++ lowercaseAfter (c :: before) rest

def lowercase (text : List Char) : List Char := lowercaseAfter [] text

end FeatureFlags.Text
