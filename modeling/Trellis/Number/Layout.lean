import Trellis.Number.Shortest
/-!
Written forms of a double. A `Layout` says which decimal exponents are written positionally, whether
a whole number keeps a decimal point, and whether a positive exponent carries a plus sign; the digits
are always the shortest ones.
-/

namespace Trellis

structure Layout where
  /-- The decimal exponents (of the first digit) that are written without `e`; `none` for all. -/
  positional : Option (Int × Int)
  /-- Whether a whole number is written with `.0`. -/
  keepPoint : Bool
  /-- Whether a positive exponent is written with `+`. -/
  plus : Bool
deriving DecidableEq, Repr

namespace Layout

/-- Doubles in JSON text. -/
def json : Layout := ⟨some (-5, 15), true, true⟩

/-- Doubles in messages: never an exponent, and no point for whole numbers. -/
def message : Layout := ⟨none, false, false⟩

/-- Doubles as values of an encoded form. -/
def form : Layout := ⟨some (-5, 15), true, false⟩

def zeros (n : Nat) : List Char := List.replicate n '0'

def digitChars (n : Nat) : List Char := Nat.toDigits 10 n

/-- Positional notation of `digits * 10 ^ exponent`. -/
def positionalChars (keepPoint : Bool) (d : Decimal) : List Char :=
  let cs := digitChars d.digits
  match d.exponent with
  | .ofNat k =>
    let whole := if d.digits = 0 then cs else cs ++ zeros k
    if keepPoint then whole ++ ['.', '0'] else whole
  | .negSucc k =>
    let places := k + 1
    if places < cs.length then
      cs.take (cs.length - places) ++ '.' :: cs.drop (cs.length - places)
    else '0' :: '.' :: zeros (places - cs.length) ++ cs

/-- Scientific notation: one digit, the other digits after a point, and the exponent. -/
def scientificChars (plus : Bool) (d : Decimal) : List Char :=
  let cs := digitChars d.digits
  let x := d.exponent + (cs.length - 1 : Nat)
  let tail := if cs.length ≤ 1 then [] else '.' :: cs.drop 1
  let sign := if x < 0 then ['-'] else if plus then ['+'] else []
  cs.take 1 ++ tail ++ 'e' :: sign ++ digitChars x.natAbs

def magnitudeChars (layout : Layout) (d : Decimal) : List Char :=
  match layout.positional with
  | none => positionalChars layout.keepPoint d
  | some (lowest, highest) =>
    let x := d.exponent + ((digitChars d.digits).length - 1 : Nat)
    if lowest ≤ x ∧ x ≤ highest then positionalChars layout.keepPoint d
    else scientificChars layout.plus d

/-- The written form of a double. A negative zero keeps its sign. -/
def write (layout : Layout) (a : Double) : String :=
  let cs := layout.magnitudeChars a.shortest
  String.ofList (if a.negative then '-' :: cs else cs)

end Layout

namespace Extended

/-- A bound as messages show it. -/
def message : Extended → String
  | .finite d => Layout.message.write d
  | .infinite negative => if negative then "-inf" else "inf"
  | .nan => "NaN"

end Extended

end Trellis
