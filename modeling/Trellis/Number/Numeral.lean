import Trellis.Json.Value
import Trellis.Text.Blank
/-!
Numbers spelled in text: an optional sign and digits, with an optional fraction and an optional exponent.
At least one digit stands before the exponent, on either side of the point.
-/

namespace Trellis.Numeral

/-- The sign at the start, if there is one, and what follows it. -/
def sign : List Char → Bool × List Char
  | '-' :: rest => (true, rest)
  | '+' :: rest => (false, rest)
  | cs => (false, cs)

def digitsValue (cs : List Char) : Nat :=
  cs.foldl (fun n c => 10 * n + (c.toNat - '0'.toNat)) 0

/-- The integer that a sign and digits spell. -/
def integer? (cs : List Char) : Option Int :=
  let (negative, digits) := sign cs
  if digits ≠ [] ∧ digits.all Char.isDigit then
    some (if negative then -(digitsValue digits : Int) else digitsValue digits)
  else none

/-- The integer, if it fits a signed word. -/
def signedWord? (cs : List Char) : Option Int :=
  (integer? cs).filter fun n => -9223372036854775808 ≤ n ∧ n ≤ 9223372036854775807

/-- The exponent: nothing, or `e` and an integer. -/
def exponent? : List Char → Option Int
  | [] => some 0
  | c :: rest => if c = 'e' ∨ c = 'E' then integer? rest else none

/-- The double nearest to a decimal numeral. -/
def decimal? (cs : List Char) : Option Extended := do
  let (negative, cs) := sign cs
  let whole := cs.takeWhile Char.isDigit
  let rest := cs.dropWhile Char.isDigit
  let (fraction, rest) := match rest with
    | '.' :: rest => (rest.takeWhile Char.isDigit, rest.dropWhile Char.isDigit)
    | _ => ([], rest)
  if whole = [] ∧ fraction = [] then none
  else
    let exponent ← exponent? rest
    return Double.ofDecimal negative (digitsValue (whole ++ fraction)) (exponent - fraction.length)

/-- The number that a text spells: a whole number if it fits a signed word, else a finite double. -/
def read? (text : String) : Option Number :=
  match signedWord? text.toList with
  | some n => (Whole.ofInt? n).map .whole
  | none => ((decimal? text.toList).bind Extended.finite?).map .double

end Trellis.Numeral
