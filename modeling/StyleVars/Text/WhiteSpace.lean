import StyleVars.Text.WordChar

/-
  White space: the characters with the Unicode property White_Space, 25 in all.
-/

namespace StyleVars.Text

/-- The characters with the property White_Space, as closed ranges. -/
def whiteSpaceRanges : List (Nat × Nat) := [
  (0x9, 0xD), (0x20, 0x20), (0x85, 0x85), (0xA0, 0xA0), (0x1680, 0x1680), (0x2000, 0x200A),
  (0x2028, 0x2029), (0x202F, 0x202F), (0x205F, 0x205F), (0x3000, 0x3000)]

/-- A character with the Unicode property White_Space. -/
def isWhiteSpace (c : Char) : Bool := inRanges whiteSpaceRanges c.toNat

/-- Drops leading white space. -/
def dropWhiteSpace (t : List Char) : List Char := t.dropWhile isWhiteSpace

end StyleVars.Text
