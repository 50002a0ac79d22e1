import Trellis.Text.Blank
import Trellis.Unicode.Folding
import Trellis.Unicode.Property
import Trellis.Unicode.Spans
/-!
Sets of characters as expressions over runs and tables of code points. `mem` is the view: each
constructor is what its name says of the members. `spans` is the normal form.
-/

namespace Trellis

open Unicode (Spans)

/-- A set of characters. -/
inductive CharSet
  | range (first last : Nat)
  | table (ranges : Unicode.Ranges)
  | blank
  | union (first second : CharSet)
  | inter (first second : CharSet)
  | diff (first second : CharSet)
  | symmDiff (first second : CharSet)
  | compl (set : CharSet)
  /-- The characters that differ from a member at most in case. -/
  | anyCase (set : CharSet)
  /-- The characters that differ from a member at most in the case of an ASCII letter. -/
  | anyAsciiCase (set : CharSet)
deriving DecidableEq

namespace CharSet

/-- The ASCII letter that differs from `n` in case, or `n` itself. -/
def asciiMate (n : Nat) : Nat :=
  if 0x41 ≤ n ∧ n ≤ 0x5A then n + 0x20
  else if 0x61 ≤ n ∧ n ≤ 0x7A then n - 0x20
  else n

def mem (n : Nat) : CharSet → Bool
  | range first last => first ≤ n && n ≤ last
  | table ranges => ranges.contains n
  | blank => Text.isBlank (Char.ofNat n)
  | union first second => first.mem n || second.mem n
  | inter first second => first.mem n && second.mem n
  | diff first second => first.mem n && !second.mem n
  | symmDiff first second => first.mem n != second.mem n
  | compl set => !set.mem n
  | anyCase set => memAny set n (Unicode.Folding.mates n)
  | anyAsciiCase set => memAny set n [asciiMate n]
where
  /-- Whether `n` or one of its mates is a member. -/
  memAny (set : CharSet) (n : Nat) (mates : List Nat) : Bool :=
    set.mem n || mates.any fun m => set.mem m

/-- Whether a character is a member. -/
def contains (set : CharSet) (c : Char) : Bool := set.mem c.toNat

def none : CharSet := .table #[]

def one (c : Char) : CharSet := .range c.toNat c.toNat

def any : CharSet := .range 0 0x10FFFF

/-- The members of one of the sets. -/
def unions : List CharSet → CharSet
  | [] => none
  | [set] => set
  | set :: rest => .union set (unions rest)

/-- Digits of all scripts. -/
def digit : CharSet := .table Unicode.Category.decimalNumber

/-- Characters of words: letters, marks, digits, connecting punctuation and the two joiners. -/
def word : CharSet :=
  unions [.table Unicode.Property.alphabetic, .table Unicode.Category.nonspacingMark,
    .table Unicode.Category.spacingMark, .table Unicode.Category.enclosingMark,
    .table Unicode.Category.decimalNumber, .table Unicode.Category.connectorPunctuation,
    .range 0x200C 0x200D]

def asciiDigit : CharSet := .range 0x30 0x39

def asciiBlank : CharSet := .union (.range 0x09 0x0D) (.range 0x20 0x20)

def asciiWord : CharSet :=
  unions [.range 0x30 0x39, .range 0x41 0x5A, .range 0x5F 0x5F, .range 0x61 0x7A]

/-- The ASCII letters with their mates, in order. -/
def asciiMatePairs : List (Nat × Nat) :=
  ((Unicode.Run.codePoints ⟨0x41, 0x5A, 1⟩ ++ Unicode.Run.codePoints ⟨0x61, 0x7A, 1⟩)).map fun n =>
    (n, asciiMate n)

/-- The members in normal form. -/
def spans : CharSet → Spans
  | range first last => [⟨first, last⟩]
  | table ranges => Spans.ofRanges ranges
  | blank => Spans.ofRanges Unicode.Property.whiteSpace
  | union first second => first.spans.union second.spans
  | inter first second => first.spans.inter second.spans
  | diff first second => first.spans.diff second.spans
  | symmDiff first second => first.spans.symmDiff second.spans
  | compl set => set.spans.compl
  | anyCase set =>
    let spans := set.spans
    spans.union (Spans.valuesIn Unicode.Folding.matePairs spans)
  | anyAsciiCase set =>
    let spans := set.spans
    spans.union (Spans.valuesIn asciiMatePairs spans)

end CharSet

end Trellis
