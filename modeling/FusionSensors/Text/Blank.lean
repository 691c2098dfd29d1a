/-
# FusionSensors.Text.Blank -- white space in text lines

A line of a recording is skipped when it holds nothing but white space, in
the sense of the Unicode property White_Space: 25 characters in ten ranges.
-/
namespace FusionSensors.Text

set_option autoImplicit false

/-- The closed ranges of the property White_Space, ascending and apart. -/
def blankRanges : List (Nat × Nat) :=
  [(0x09, 0x0D), (0x20, 0x20), (0x85, 0x85), (0xA0, 0xA0), (0x1680, 0x1680), (0x2000, 0x200A),
   (0x2028, 0x2029), (0x202F, 0x202F), (0x205F, 0x205F), (0x3000, 0x3000)]

def isBlank (c : Char) : Bool :=
  blankRanges.any fun range => range.1 ≤ c.toNat && c.toNat ≤ range.2

/-- A line that holds white space only. -/
def isBlankLine (line : List Char) : Bool := line.all isBlank

/-- Every character that core calls white space is blank. -/
theorem isBlank_of_isWhitespace (c : Char) (h : c.isWhitespace = true) : isBlank c = true := by
  simp [Char.isWhitespace] at h
  rcases h with ((h | h) | h) | h <;> subst h <;> decide

example : (blankRanges.map fun range => range.2 + 1 - range.1).sum = 25 := by decide
example : isBlank (Char.ofNat 0x200B) = false := by decide

end FusionSensors.Text
