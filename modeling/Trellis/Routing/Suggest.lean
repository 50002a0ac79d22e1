/-!
Suggestions for a path that was not found: the candidates at a small edit distance.
-/

namespace Trellis.Suggest

/-- Extend a row of edit distances by one character `c` of the first text. Given the distances in the
row before, from the entry above and to the left of the current one, and the entry to the left. -/
def extendRow (c : Char) : List Char → List Nat → Nat → List Nat
  | b :: bs, diagonal :: above :: more, left =>
    let here := min (min (left + 1) (above + 1)) (diagonal + if b = c then 0 else 1)
    here :: extendRow c bs (above :: more) here
  | _, _, _ => []

/-- The distances from the first text to each beginning of the second. -/
def lastRow (second : List Char) : List Char → List Nat → List Nat
  | [], row => row
  | c :: rest, row =>
    let first := row.headD 0 + 1
    lastRow second rest (first :: extendRow c second row first)

/-- The least number of insertions, deletions and replacements of a character that turn one text into
the other. -/
def distance (first second : List Char) : Nat :=
  (lastRow second first (List.range (second.length + 1))).getLastD 0

/-- The largest distance for a suggestion: a third of the longer text in bytes, but at least two. -/
def limit (path candidate : String) : Nat := max (max path.utf8ByteSize candidate.utf8ByteSize / 3) 2

/-- Closer candidates first, and in alphabetical order at one distance. -/
def closer (a b : Nat × String) : Bool := a.1 < b.1 || (a.1 == b.1 && a.2 ≤ b.2)

/-- Drop a text that repeats the one before it. -/
def dropRepeats : List (Nat × String) → List (Nat × String)
  | a :: b :: rest => if a.2 = b.2 then dropRepeats (a :: rest) else a :: dropRepeats (b :: rest)
  | short => short

/-- At most three candidates other than the path itself, the closest first. -/
def suggest (path : String) (candidates : List String) : List String :=
  let scored := (candidates.filter fun candidate => candidate ≠ path).map fun candidate =>
    (distance path.toList candidate.toList, candidate)
  let near := scored.filter fun entry => entry.1 ≤ limit path entry.2
  ((dropRepeats (near.mergeSort closer)).take 3).map (·.2)

end Trellis.Suggest
