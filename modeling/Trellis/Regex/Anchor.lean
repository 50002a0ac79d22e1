import Trellis.Regex.CharSet
/-!
Conditions on places in a text. A place is between two characters, either of which may be missing.
-/

namespace Trellis

/-- Which characters words are made of: those of all scripts, or those of ASCII. -/
inductive WordKind
  | allScripts
  | ascii
deriving DecidableEq, Repr

def WordKind.set : WordKind → CharSet
  | allScripts => CharSet.word
  | ascii => CharSet.asciiWord

/-- A condition on a place in the text, through the characters next to it. -/
inductive Anchor
  | textStart
  | textEnd
  | lineStart
  | lineEnd
  /-- The start of a line that ends in a carriage return, a line feed or both. -/
  | anyLineStart
  | anyLineEnd
  | wordBoundary (words : WordKind)
  | notWordBoundary (words : WordKind)
  | wordStart (words : WordKind)
  | wordEnd (words : WordKind)
  | noWordBefore (words : WordKind)
  | noWordAfter (words : WordKind)
deriving DecidableEq, Repr

namespace Anchor

/-- Whether there is a character next to a place and it is a member. -/
def meets (set : CharSet) : Option Char → Bool
  | none => false
  | some c => set.contains c

/-- Whether the condition holds between two neighbours. -/
def holds (before after : Option Char) : Anchor → Bool
  | textStart => before = none
  | textEnd => after = none
  | lineStart => before = none || before = some '\n'
  | lineEnd => after = none || after = some '\n'
  | anyLineStart =>
    before = none || before = some '\n' || (before = some '\r' && after ≠ some '\n')
  | anyLineEnd =>
    after = none || after = some '\r' || (after = some '\n' && before ≠ some '\r')
  | wordBoundary words => meets words.set before != meets words.set after
  | notWordBoundary words => meets words.set before == meets words.set after
  | wordStart words => !meets words.set before && meets words.set after
  | wordEnd words => meets words.set before && !meets words.set after
  | noWordBefore words => !meets words.set before
  | noWordAfter words => !meets words.set after

/-- The words that a condition speaks of. -/
def words? : Anchor → Option WordKind
  | wordBoundary words | notWordBoundary words | wordStart words | wordEnd words
  | noWordBefore words | noWordAfter words => some words
  | _ => none

end Anchor

end Trellis
