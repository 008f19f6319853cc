/-! # Blank characters and trimming

Source lines, conditions and replies are trimmed by the Unicode property `White_Space`. Texts are
handled as lists of characters:

* `isBlank`: the property, as its table of ranges;
* `trimStart`, `trimEnd`, `trim`: a text without the blanks at one or both of its ends;
* `indentation`: how many blanks a text starts with.
-/

namespace FarmScript.Text
set_option autoImplicit false

/-- The ranges of code points, ends included, that have the property `White_Space`. -/
def blankRanges : List (Nat × Nat) :=
  [(0x09, 0x0D), (0x20, 0x20), (0x85, 0x85), (0xA0, 0xA0), (0x1680, 0x1680), (0x2000, 0x200A),
    (0x2028, 0x2029), (0x202F, 0x202F), (0x205F, 0x205F), (0x3000, 0x3000)]

/-- Whether a character is white space. -/
def isBlank (c : Char) : Bool :=
  blankRanges.any fun (low, high) => low ≤ c.toNat && c.toNat ≤ high

/-! ## Trimming -/

/-- The text without its leading blanks. -/
def trimStart (text : List Char) : List Char := text.dropWhile isBlank

/-- The text without its trailing blanks. -/
def trimEnd (text : List Char) : List Char := (text.reverse.dropWhile isBlank).reverse

/-- The text without the blanks at its two ends. -/
def trim (text : List Char) : List Char := trimEnd (trimStart text)

/-- The number of blanks before the first other character. -/
def indentation (text : List Char) : Nat := (text.takeWhile isBlank).length

end FarmScript.Text
