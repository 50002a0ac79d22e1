/-!
Sets of code points as sorted runs, and maps that shift runs of code points by a fixed distance. The
tables of this folder are written as text: `a-b` is the run from `a` to `b`, `a-b/2` takes every second
code point of it, and `run+d` shifts a run up by `d`, all in hexadecimal.
-/

namespace Trellis.Unicode

/-- The code points `first`, `first + step`, … up to `last`. -/
structure Run where
  first : Nat
  last : Nat
  step : Nat
deriving Repr, DecidableEq

def Run.covers (r : Run) (c : Nat) : Bool :=
  r.first ≤ c && c ≤ r.last && (c - r.first) % r.step == 0

def Run.codePoints (r : Run) : List Nat :=
  (List.range ((r.last - r.first) / r.step + 1)).map fun i => r.first + i * r.step

/-- A set of code points. -/
abbrev Ranges := Array Run

/-- The value of a hexadecimal digit; other characters count as zero. -/
def digitValue (c : Char) : Nat :=
  if '0' ≤ c ∧ c ≤ '9' then c.toNat - '0'.toNat
  else if 'a' ≤ c ∧ c ≤ 'f' then c.toNat - 'a'.toNat + 10
  else 0

def readHex (text : String) : Nat :=
  text.toList.foldl (fun n c => 16 * n + digitValue c) 0

def Run.read (text : String) : Run :=
  match text.splitOn "-" with
  | [one] => ⟨readHex one, readHex one, 1⟩
  | first :: rest :: _ =>
    match rest.splitOn "/" with
    | last :: step :: _ => ⟨readHex first, readHex last, readHex step⟩
    | _ => ⟨readHex first, readHex rest, 1⟩
  | [] => ⟨0, 0, 1⟩

namespace Ranges

def read (lines : List String) : Ranges :=
  (lines.flatMap fun line => (line.splitOn " ").map Run.read).toArray

def contains (ranges : Ranges) (c : Nat) : Bool := ranges.any (·.covers c)

end Ranges

/-- A run of code points and the distance to the code points it corresponds to. -/
structure Shift where
  run : Run
  distance : Nat
deriving Repr, DecidableEq

namespace Shift

def covers (s : Shift) (c : Nat) : Bool := s.run.covers c

def read (text : String) : Shift :=
  match text.splitOn "+" with
  | run :: distance :: _ => ⟨Run.read run, readHex distance⟩
  | _ => ⟨Run.read text, 0⟩

def readAll (lines : List String) : Array Shift :=
  (lines.flatMap fun line => (line.splitOn " ").map read).toArray

end Shift

/-- Lists of code points, each joined by full stops. -/
def readOrbits (lines : List String) : List (List Nat) :=
  lines.flatMap fun line => (line.splitOn " ").map fun orbit => (orbit.splitOn ".").map readHex

/-- Code points with the several code points they stand for. -/
def readForms (lines : List String) : List (Nat × List Nat) :=
  lines.flatMap fun line => (line.splitOn " ").map fun form =>
    match form.splitOn "=" with
    | source :: target :: _ => (readHex source, (target.splitOn ".").map readHex)
    | _ => (0, [])

end Trellis.Unicode
