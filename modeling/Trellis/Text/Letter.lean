import Trellis.Unicode.Addition
import Trellis.Unicode.Property
/-!
Letters and numerals of all scripts.
-/

namespace Trellis.Text

open Unicode

/-- Whether a character is a letter or a mark that spells words with letters. -/
def isAlphabetic (c : Char) : Bool :=
  if c.toNat < 0x80 then c.isAlpha
  else Property.alphabetic.contains c.toNat || Addition.alphabetic.contains c.toNat

/-- Digits and other numerals. -/
def numerals : Ranges :=
  Category.decimalNumber ++ Category.letterNumber ++ Category.otherNumber ++ Addition.number

/-- Whether a character is a digit or another numeral. -/
def isNumeric (c : Char) : Bool :=
  if c.toNat < 0x80 then c.isDigit else numerals.contains c.toNat

def isAlphanumeric (c : Char) : Bool := isAlphabetic c || isNumeric c

end Trellis.Text
