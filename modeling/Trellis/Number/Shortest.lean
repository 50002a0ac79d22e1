import Trellis.Number.Double
/-!
The shortest decimal digits of a double. A decimal *reads back* as a double when it lies in the
interval of numbers that round to it, whose ends belong to it exactly when the double's last
significant bit is even. On the coarsest power-of-ten grid that has a point in the interval, the
point nearest to the double is chosen, an exact tie going to the even digit.
-/

namespace Trellis

/-- The decimal `digits * 10 ^ exponent`. -/
structure Decimal where
  digits : Nat
  exponent : Int
deriving DecidableEq, Repr

namespace Double

/-- The numbers that round to a double, with its value, all in units of `2 ^ -1076`. -/
structure Interval where
  lower : Nat
  value : Nat
  upper : Nat
  closed : Bool
deriving DecidableEq, Repr

/-- The rounding interval of a nonzero number of units. Below a power of two the gap to the next
double is half as wide, except among the smallest doubles. -/
def interval (units : Nat) : Interval :=
  let p := units.log2 - 52
  let half := 2 * powerOfTwo p
  let m := units / powerOfTwo p
  { lower := 4 * units - (if m = powerOfTwo 52 ∧ 0 < p then half / 2 else half)
    value := 4 * units
    upper := 4 * units + half
    closed := m % 2 == 0 }

/-- Whether `n` grid points of width `num / den` lie in the interval. -/
def Interval.holds (i : Interval) (n num den : Nat) : Bool :=
  let x := n * num
  if i.closed then i.lower * den ≤ x && x ≤ i.upper * den
  else i.lower * den < x && x < i.upper * den

/-- The width of the grid of multiples of `10 ^ k`, as a fraction of units of `2 ^ -1076`. -/
def gridWidth : Int → Nat × Nat
  | .ofNat k => (Nat.pow 10 k * (4 * scale), 1)
  | .negSucc k => (4 * scale, Nat.pow 10 (k + 1))

/-- The point of the grid of multiples of `10 ^ k` that reads back and is nearest. -/
def Interval.onGrid? (i : Interval) (k : Int) : Option Nat :=
  let width := gridWidth k
  let t := i.value * width.2 / width.1
  match i.holds t width.1 width.2, i.holds (t + 1) width.1 width.2 with
  | false, false => none
  | true, false => some t
  | false, true => some (t + 1)
  | true, true =>
    let gapBelow := i.value * width.2 - t * width.1
    let gapAbove := (t + 1) * width.1 - i.value * width.2
    if gapBelow < gapAbove then some t
    else if gapAbove < gapBelow then some (t + 1)
    else some (t + t % 2)

/-- The finest hit among the grids `10 ^ k`, `10 ^ (k - 1)`, … down to `steps` of them. -/
def Interval.search (i : Interval) : Nat → Int → Decimal
  | 0, k => ⟨i.value, k⟩
  | steps + 1, k => match i.onGrid? k with
    | some n => ⟨n, k⟩
    | none => i.search steps (k - 1)

/-- Whether `10 ^ k` is at most the given number of units. -/
def reaches (units : Nat) : Int → Bool
  | .ofNat k => Nat.pow 10 k * scale ≤ units
  | .negSucc k => scale ≤ units * Nat.pow 10 (k + 1)

/-- The exponent of the first decimal digit of a nonzero number of units. -/
def decimalExponent (units : Nat) : Int :=
  let guess := ((units.log2 : Int) - 1074) * 30103 / 100000
  if reaches units (guess + 1) then guess + 1
  else if reaches units guess then guess
  else guess - 1

/-- Drop the zeros at the end of the digits. -/
def trimZeros (d : Decimal) : Decimal :=
  if h : d.digits ≠ 0 ∧ d.digits % 10 = 0 then trimZeros ⟨d.digits / 10, d.exponent + 1⟩ else d
termination_by d.digits
decreasing_by
  exact Nat.div_lt_self (Nat.pos_of_ne_zero h.1) (by decide)

/-- The shortest decimal that reads back as the double's magnitude, the nearest of those. -/
def shortest (a : Double) : Decimal :=
  if a.units = 0 then ⟨0, 0⟩
  else trimZeros ((interval a.units).search 20 (decimalExponent a.units))

end Double

end Trellis
