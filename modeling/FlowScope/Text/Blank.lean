import FlowScope.Pieces

/-!
# Blanks, words and lines

A blank is a character with the `White_Space` property; a no-break space counts, a zero-width space
and a byte-order mark do not. Model files are read as lines of words, and settings are trimmed, by
this one class.
-/

namespace FlowScope.Text

/-- The ranges of the characters with the `White_Space` property. -/
def blankRanges : List (Nat × Nat) :=
  [(0x09, 0x0d), (0x20, 0x20), (0x85, 0x85), (0xa0, 0xa0), (0x1680, 0x1680), (0x2000, 0x200a),
   (0x2028, 0x2029), (0x202f, 0x202f), (0x205f, 0x205f), (0x3000, 0x3000)]

def isBlank (c : Char) : Bool :=
  blankRanges.any fun range => range.1 ≤ c.toNat && c.toNat ≤ range.2

/-- The text without the blanks at both ends. -/
def trim (cs : List Char) : List Char := trimmed isBlank cs

/-- The maximal runs of characters that are not blank. -/
def words (cs : List Char) : List (List Char) := fullPieces isBlank cs

/-- The text between line feeds. A line feed at the very end starts no further line. -/
def lines (cs : List Char) : List (List Char) := endedPieces (· = '\n') cs

end FlowScope.Text
