import Trellis.Unicode.Ranges
/-!
Sets of code points in normal form: spans in order, with gaps between them. Two sets are equal exactly
when their spans are.
-/

namespace Trellis.Unicode

/-- The code points from `first` to `last`. -/
structure Span where
  first : Nat
  last : Nat
deriving DecidableEq, Repr

/-- Spans in order, none of which touches the next. -/
abbrev Spans := List Span

namespace Spans

/-- The largest code point. -/
def largest : Nat := 0x10FFFF

/-- Join a span with those after it that it overlaps or touches; they come in the order of their starts. -/
def joinFrom (s : Span) : List Span → Spans
  | [] => [s]
  | next :: rest =>
    if next.first ≤ s.last + 1 then joinFrom ⟨s.first, max s.last next.last⟩ rest
    else s :: joinFrom next rest

/-- The normal form of any spans. -/
def ofList (spans : List Span) : Spans :=
  match spans.mergeSort fun a b => a.first ≤ b.first with
  | [] => []
  | s :: rest => joinFrom s rest

/-- The spans of a run. -/
def ofRun (r : Run) : List Span :=
  if r.step = 1 then [⟨r.first, r.last⟩] else r.codePoints.map fun c => ⟨c, c⟩

def ofRanges (ranges : Ranges) : Spans := ofList (ranges.toList.flatMap ofRun)

/-- The gaps from a code point on. -/
def gapsFrom (next : Nat) : Spans → Spans
  | [] => if next ≤ largest then [⟨next, largest⟩] else []
  | s :: rest =>
    if next < s.first then ⟨next, s.first - 1⟩ :: gapsFrom (s.last + 1) rest
    else gapsFrom (s.last + 1) rest

def compl (spans : Spans) : Spans := gapsFrom 0 spans

def union (first second : Spans) : Spans := ofList (first ++ second)

def inter (first second : Spans) : Spans := compl (union first.compl second.compl)

def diff (first second : Spans) : Spans := inter first second.compl

def symmDiff (first second : Spans) : Spans := union (diff first second) (diff second first)

/-- The code points of characters: all but the halves of surrogate pairs. -/
def scalars (spans : Spans) : Spans := diff spans [⟨0xD800, 0xDFFF⟩]

/-- The values, in a map given as pairs in order, of the keys that belong to a set. -/
def valuesIn : List (Nat × Nat) → Spans → List Span
  | [], _ => []
  | _, [] => []
  | (key, value) :: more, s :: rest =>
    if key < s.first then valuesIn more (s :: rest)
    else if key ≤ s.last then ⟨value, value⟩ :: valuesIn more (s :: rest)
    else valuesIn ((key, value) :: more) rest
termination_by pairs spans => pairs.length + spans.length

end Spans

end Trellis.Unicode
