import FeatureFlags.Text.Quoted.Ranges

namespace FeatureFlags.Text

/-- The Hangul fillers, which are letters with nothing to show: the default-ignorable characters
    that no other rule keeps from being shown. -/
def fillerRanges : List CharRange := [⟨0x115f, 0x1160⟩, ⟨0x3164, 0x3164⟩, ⟨0xffa0, 0xffa0⟩]

/-- The sound marks of halfwidth kana, the only letters that extend the character before them. -/
def soundMarkRanges : List CharRange := [⟨0xff9e, 0xff9f⟩]

/-- Would run into the character before it. A letter has a place of its own. -/
def isCombining (c : Char) : Bool :=
  inRanges graphemeExtendRanges c && !inRanges soundMarkRanges c

/-- Shown as itself between quotes. -/
def isPrintable (c : Char) : Bool :=
  !inRanges unprintableRanges c && !inRanges fillerRanges c && !isCombining c

/-- The escape of a character between quotes: a short form where there is one, else its code point
    in hexadecimal unless it can be shown. -/
def escape (c : Char) : List Char :=
  match c with
  | '\x00' => ['\\', '0']
  | '\t' => ['\\', 't']
  | '\r' => ['\\', 'r']
  | '\n' => ['\\', 'n']
  | '"' => ['\\', '"']
  | '\\' => ['\\', '\\']
  | c =>
    if isPrintable c then [c]
    else ['\\', 'u', '\x7b'] ++ Nat.toDigits 16 c.toNat ++ ['\x7d']

def quote (text : List Char) : List Char := '"' :: text.flatMap escape ++ ['"']

end FeatureFlags.Text
