import Trellis.Unicode.Addition
import Trellis.Unicode.Property
/-!
Quoted text for diagnostics. Quotes and backslashes are escaped, the usual control characters have
short escapes, and every other character that would not show by itself is written by its code point.
-/

namespace Trellis.Text

open Unicode

/-- Letters, marks, numerals, punctuation and symbols. -/
def graphic : Ranges :=
  Category.otherLetter ++ Category.lowercaseLetter ++ Category.uppercaseLetter ++
    Category.titlecaseLetter ++ Category.modifierLetter ++ Category.spacingMark ++
    Category.nonspacingMark ++ Category.enclosingMark ++ Category.decimalNumber ++
    Category.letterNumber ++ Category.otherNumber ++ Category.connectorPunctuation ++
    Category.dashPunctuation ++ Category.openPunctuation ++ Category.closePunctuation ++
    Category.initialPunctuation ++ Category.finalPunctuation ++ Category.otherPunctuation ++
    Category.mathSymbol ++ Category.currencySymbol ++ Category.modifierSymbol ++
    Category.otherSymbol ++ Addition.assigned

/-- Whether a character only extends the one before it. Letters have a form of their own. -/
def isExtender (n : Nat) : Bool :=
  (Property.graphemeExtend.contains n || Addition.graphemeExtend.contains n) &&
    !Category.modifierLetter.contains n

/-- Whether a character shows by itself: it is a graphic character that neither extends the one before it
nor goes unseen where it is not supported. The space shows as well, but no other separator. -/
def isVisible (c : Char) : Bool :=
  let n := c.toNat
  if n < 127 then 32 ≤ n
  else graphic.contains n && !isExtender n && !Property.defaultIgnorable.contains n

/-- The code point in hexadecimal between braces. -/
def codePointEscape (c : Char) : List Char :=
  '\\' :: 'u' :: '{' :: Nat.toDigits 16 c.toNat ++ ['}']

def quoteChar (c : Char) : List Char :=
  if c = '"' then ['\\', '"']
  else if c = '\\' then ['\\', '\\']
  else if c = '\n' then ['\\', 'n']
  else if c = '\r' then ['\\', 'r']
  else if c = '\t' then ['\\', 't']
  else if c.toNat = 0 then ['\\', '0']
  else if isVisible c then [c]
  else codePointEscape c

/-- The text in double quotes. -/
def quoted (s : String) : String :=
  String.ofList ('"' :: s.toList.flatMap quoteChar ++ ['"'])

/-- Items in brackets, separated by commas. -/
def bracketed (items : List String) : String :=
  "[" ++ ", ".intercalate items ++ "]"

end Trellis.Text
