import FeatureFlags.Text.CharRange

namespace FeatureFlags.Text

/-- The Unicode property White_Space. -/
def blankRanges : List CharRange :=
  [⟨0x9, 0xd⟩, ⟨0x20, 0x20⟩, ⟨0x85, 0x85⟩, ⟨0xa0, 0xa0⟩, ⟨0x1680, 0x1680⟩, ⟨0x2000, 0x200a⟩,
   ⟨0x2028, 0x2029⟩, ⟨0x202f, 0x202f⟩, ⟨0x205f, 0x205f⟩, ⟨0x3000, 0x3000⟩]

def isBlank (c : Char) : Bool := inRanges blankRanges c

def trimLeft (text : List Char) : List Char := text.dropWhile isBlank

def trimRight (text : List Char) : List Char := (text.reverse.dropWhile isBlank).reverse

def trim (text : List Char) : List Char := trimRight (trimLeft text)

theorem trimLeft_cons (c : Char) (rest : List Char) :
    trimLeft (c :: rest) = if isBlank c then trimLeft rest else c :: rest := by
  cases blank : isBlank c <;> simp [trimLeft, blank]

end FeatureFlags.Text
