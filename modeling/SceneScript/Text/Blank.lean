/-!
# Blank characters and trimming

The blank characters are those with the Unicode `White_Space` property: the ASCII tab, line
feed, vertical tab, form feed, carriage return and space, the next-line control, no-break
space, ogham space, the spaces from en quad to hair space, the line and paragraph separators,
narrow no-break space, medium mathematical space and ideographic space. The zero-width space
`U+200B` is not blank. Trimming removes blanks from both ends of a text.
-/

namespace SceneScript
namespace Text

/-- The code point ranges of the `White_Space` property, in increasing order. -/
def blankRanges : List (Nat × Nat) :=
  [(0x0009, 0x000D), (0x0020, 0x0020), (0x0085, 0x0085), (0x00A0, 0x00A0),
   (0x1680, 0x1680), (0x2000, 0x200A), (0x2028, 0x2029), (0x202F, 0x202F),
   (0x205F, 0x205F), (0x3000, 0x3000)]

def inRanges (ranges : List (Nat × Nat)) (c : Char) : Bool :=
  ranges.any fun r => decide (r.1 ≤ c.toNat ∧ c.toNat ≤ r.2)

/-- Whether a character is blank (Unicode `White_Space`). -/
def isBlank (c : Char) : Bool :=
  inRanges blankRanges c

def trimChars (cs : List Char) : List Char :=
  ((cs.dropWhile isBlank).reverse.dropWhile isBlank).reverse

def trim (s : String) : String :=
  String.ofList (trimChars s.toList)

def isBlankText (s : String) : Bool :=
  s.toList.all isBlank

end Text
end SceneScript
