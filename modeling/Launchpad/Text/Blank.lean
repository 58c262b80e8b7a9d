/-!
# Blank characters

Property values, argument texts and source names are trimmed before they are read. The characters
that count as blank are those with the Unicode property `White_Space`, so a no-break space or an
ideographic space is dropped and a zero-width space is kept.
-/

namespace Launchpad.Text

/-- The characters with the Unicode property `White_Space`. -/
def isBlank (c : Char) : Bool :=
  let point := c.toNat
  (0x9 ≤ point && point ≤ 0xd) || point == 0x20 || point == 0x85 || point == 0xa0 ||
    point == 0x1680 || (0x2000 ≤ point && point ≤ 0x200a) || point == 0x2028 ||
    point == 0x2029 || point == 0x202f || point == 0x205f || point == 0x3000

/-- Every character that the core library calls whitespace is blank. -/
theorem isBlank_of_isWhitespace {c : Char} (white : c.isWhitespace = true) : isBlank c = true := by
  simp only [Char.isWhitespace, Bool.or_eq_true, decide_eq_true_eq] at white
  rcases white with ((rfl | rfl) | rfl) | rfl <;> decide

/-- A text without the blank characters at its end. -/
def trimEndChars (text : List Char) : List Char :=
  (text.reverse.dropWhile isBlank).reverse

/-- A text without the blank characters at either end. -/
def trimChars (text : List Char) : List Char :=
  trimEndChars (text.dropWhile isBlank)

/-- The text without the blank characters at its end. -/
def trimEnd (text : String) : String := String.ofList (trimEndChars text.toList)

/-- The text without the blank characters at either end. -/
def trim (text : String) : String := String.ofList (trimChars text.toList)

/-- ASCII letters in lower case; every other character is kept. -/
def lower (text : String) : String := String.ofList (text.toList.map Char.toLower)

end Launchpad.Text
