import RuleEngine.Text.Alphabetic
import RuleEngine.Text.Numeric
import RuleEngine.Text.WhiteSpace

/-!
# Unicode character classes and trimming

Letters, numbers and white space by the Unicode tables, with the ASCII answers given directly.
-/

set_option autoImplicit false

namespace RuleEngine

namespace Text

/-- A letter by the Unicode property Alphabetic. -/
def isAlphabetic (c : Char) : Bool :=
  if c.toNat < 128 then c.isAlpha else CharRanges.alphabetic.contains c

/-- A number character: a decimal digit, letter number or other number. -/
def isNumeric (c : Char) : Bool :=
  if c.toNat < 128 then c.isDigit else CharRanges.numeric.contains c

def isAlphanumeric (c : Char) : Bool := isAlphabetic c || isNumeric c

/-- White space by the Unicode property White_Space. -/
def isWhiteSpace (c : Char) : Bool := CharRanges.whiteSpace.contains c

def trimList (cs : List Char) : List Char :=
  ((cs.dropWhile isWhiteSpace).reverse.dropWhile isWhiteSpace).reverse

/-- Drops white space at both ends of a text. -/
def trim (s : String) : String := String.ofList (trimList s.toList)

/-- Compares two texts with ASCII letters taken case-insensitively. -/
def equalsIgnoringAsciiCase (a b : String) : Bool :=
  a.toList.map Char.toLower == b.toList.map Char.toLower

end Text

end RuleEngine
