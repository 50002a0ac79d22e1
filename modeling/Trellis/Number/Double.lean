/-!
Binary64 numbers in exact arithmetic. Every finite double is a whole number of *units* of `2^-1074`,
the smallest positive double, so a double is a sign and a number of units. A number of units is
representable when its binary expansion ends in enough zeros to leave at most 53 significant bits.
All operations compute an exact ratio and round it once, to the nearest, ties to even.
-/

namespace Trellis

namespace Double

def powerOfTwo (n : Nat) : Nat := Nat.pow 2 n

theorem powerOfTwo_pos (n : Nat) : 0 < powerOfTwo n := Nat.two_pow_pos n

/-- How many units make one. -/
def scale : Nat := powerOfTwo 1074

/-- The first power of two that is too large for a double, in units. -/
def limit : Nat := powerOfTwo 2098

end Double

/-- A finite double: the value is `units / 2^1074`, negated if `negative`. Zero has both signs. -/
structure Double where
  negative : Bool
  units : Nat
  bounded : units < Double.limit
  precise : units % Double.powerOfTwo (units.log2 - 52) = 0
deriving DecidableEq

/-- A double or one of the values that are not numbers of units. -/
inductive Extended
  | finite (value : Double)
  | infinite (negative : Bool)
  | nan
deriving DecidableEq

namespace Double

/-- The nearest whole number to `num / den`; a tie goes to the even one. -/
def roundDiv (num den : Nat) : Nat :=
  let q := num / den
  let r := num % den
  if 2 * r < den then q
  else if den < 2 * r then q + 1
  else q + q % 2

/-- The number of units nearest to `num / den` among those with 53 significant bits. -/
def roundUnits (num den : Nat) : Nat :=
  let p := (num / den).log2 - 52
  roundDiv num (den * powerOfTwo p) * powerOfTwo p

/-- The double nearest to `num / den` units. Too large a magnitude rounds to an infinity. -/
def ofUnits (negative : Bool) (num den : Nat) : Extended :=
  let units := roundUnits num den
  if h : units < limit ∧ units % powerOfTwo (units.log2 - 52) = 0 then
    .finite ⟨negative, units, h.1, h.2⟩
  else .infinite negative

/-- The double nearest to the fraction `num / den`. -/
def ofRatio (negative : Bool) (num den : Nat) : Extended := ofUnits negative (num * scale) den

def zero (negative : Bool) : Double :=
  ⟨negative, 0, powerOfTwo_pos 2098, Nat.zero_mod _⟩

instance : Inhabited Double := ⟨zero false⟩

/-- The double nearest to an integer. -/
def ofInt (n : Int) : Extended := ofRatio (n < 0) n.natAbs 1

def neg (a : Double) : Double := ⟨!a.negative, a.units, a.bounded, a.precise⟩

def isZero (a : Double) : Bool := a.units == 0

def mul (a b : Double) : Extended :=
  ofUnits (a.negative != b.negative) (a.units * b.units) scale

/-- Division by a double other than zero. -/
def div (a b : Double) : Extended :=
  ofUnits (a.negative != b.negative) (a.units * scale) b.units

/-- The value as a signed number of units; both zeros give 0. -/
def signedUnits (a : Double) : Int := if a.negative then -(a.units : Int) else a.units

/-- Numerical order: the two zeros are equal. -/
def less (a b : Double) : Bool := a.signedUnits < b.signedUnits

/-- The integer that the double is, if it has no fractional part. -/
def toInt? (a : Double) : Option Int :=
  if a.units % scale = 0 then
    some (if a.negative then -((a.units / scale : Nat) : Int) else (a.units / scale : Nat))
  else none

/-- The double nearest to `10 ^ k`. -/
def powerOfTen (k : Nat) : Extended := ofRatio false (Nat.pow 10 k) 1

/-- The double nearest to `digits * 10 ^ exponent`. Exponents far outside the range of doubles are
decided by the number of digits alone. -/
def ofDecimal (negative : Bool) (digits : Nat) (exponent : Int) : Extended :=
  if digits = 0 then .finite (zero negative)
  else
    let magnitude := (digits.log2 : Int) * 30103 / 100000 + exponent
    if 400 < magnitude then .infinite negative
    else if magnitude < -400 then .finite (zero negative)
    else match exponent with
      | .ofNat k => ofRatio negative (digits * Nat.pow 10 k) 1
      | .negSucc k => ofRatio negative digits (Nat.pow 10 (k + 1))

end Double

namespace Extended

def finite? : Extended → Option Double
  | .finite d => some d
  | _ => none

/-- Numerical order between a double and a bound; nothing compares with `nan`. -/
def above (a : Double) : Extended → Bool
  | .finite b => a.less b
  | .infinite negative => !negative
  | .nan => false

def below (a : Double) : Extended → Bool
  | .finite b => b.less a
  | .infinite negative => negative
  | .nan => false

end Extended

end Trellis
