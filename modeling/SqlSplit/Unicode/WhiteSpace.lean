import SqlSplit.Unicode.Ranges

/-!
# White space

The characters with the Unicode property White_Space: besides the blank, the tab and the line
breaks these are the spaces of fixed width, the line and paragraph separators and the ideographic
space.
-/

namespace SqlSplit.Unicode

/-- The code points with the property White_Space. -/
def whiteSpace : Ranges :=
  [(0x9, 0xD), (0x20, 0x20), (0x85, 0x85), (0xA0, 0xA0), (0x1680, 0x1680), (0x2000, 0x200A),
    (0x2028, 0x2029), (0x202F, 0x202F), (0x205F, 0x205F), (0x3000, 0x3000)]

/-- Whether a character has the property White_Space. -/
def isWhiteSpace (c : Char) : Bool :=
  inRanges whiteSpace c.toNat

theorem whiteSpace_rising : whiteSpace.rising = true := by decide

end SqlSplit.Unicode
