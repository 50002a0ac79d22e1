import Trellis.Unicode.Spans
/-!
The UTF-8 forms of spans of code points. A form is a sequence of byte spans and stands for all sequences
of bytes that take one byte of each; the forms of a span are in the order of the code points.
-/

namespace Trellis.Regex

open Unicode (Span Spans)

/-- The bytes from `first` to `last`. -/
structure ByteSpan where
  first : Nat
  last : Nat
deriving DecidableEq, Repr

abbrev ByteForm := List ByteSpan

namespace ByteForm

/-- The number of bytes of a code point. -/
def width (n : Nat) : Nat :=
  if n < 0x80 then 1 else if n < 0x800 then 2 else if n < 0x10000 then 3 else 4

/-- The bytes of a code point. -/
def encode (n : Nat) : List Nat :=
  if n < 0x80 then [n]
  else if n < 0x800 then [0xC0 + n / 64, 0x80 + n % 64]
  else if n < 0x10000 then [0xE0 + n / 4096, 0x80 + n / 64 % 64, 0x80 + n % 64]
  else [0xF0 + n / 262144, 0x80 + n / 4096 % 64, 0x80 + n / 64 % 64, 0x80 + n % 64]

/-- The last code point up to which a span has one width, if it goes further. -/
def widthCut? (first last : Nat) : Option Nat :=
  [0x7F, 0x7FF, 0xFFFF].find? fun n => first ≤ n && n < last

/-- Where a span of one width has to be cut so that the last bytes, `block` code points for each value of
the others, take all values or the others are fixed. -/
def blockCut? (block first last : Nat) : Option Nat :=
  if first / block = last / block then none
  else if first % block ≠ 0 then some ((first / block + 1) * block - 1)
  else if last % block ≠ block - 1 then some (last / block * block - 1)
  else none

/-- The end of the first part of a span that is no single form. -/
def cut? (first last : Nat) : Option Nat :=
  (widthCut? first last).orElse fun _ =>
    if last < 0x80 then none
    else (blockCut? 64 first last).orElse fun _ =>
      (blockCut? 4096 first last).orElse fun _ => blockCut? 262144 first last

/-- The form of a span that needs no cut. -/
def whole (first last : Nat) : ByteForm :=
  (List.zip (encode first) (encode last)).map fun pair => ⟨pair.1, pair.2⟩

/-- The forms of the code points from `first` to `last`. -/
def between (first last : Nat) : List ByteForm :=
  match cut? first last with
  | none => [whole first last]
  | some n =>
    if _ : first ≤ n ∧ n < last then between first n ++ between (n + 1) last else [whole first last]
termination_by last - first

/-- The forms of a set of code points. -/
def ofSpans (spans : Spans) : List ByteForm :=
  spans.flatMap fun s => between s.first s.last

end ByteForm

end Trellis.Regex
