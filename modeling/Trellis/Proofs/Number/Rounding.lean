import Trellis.Json.Value
/-!
Rounding to a double keeps the order with doubles: a double that is not above the exact value is not above the
rounded one, and one that is not below it is not below the rounded one.  So a whole number that meets a bound
still meets it as a double, and a double with an integral value is what that integer rounds to.
-/

namespace Trellis

namespace Double

theorem powerOfTwo_add (m n : Nat) :
    powerOfTwo (m + n) = powerOfTwo m * powerOfTwo n := Nat.pow_add 2 m n

theorem powerOfTwo_le {m n : Nat} (hle : m ≤ n) : powerOfTwo m ≤ powerOfTwo n :=
  Nat.pow_le_pow_right Nat.zero_lt_two hle

theorem powerOfTwo_lt {m n : Nat} (hlt : m < n) : powerOfTwo m < powerOfTwo n :=
  Nat.pow_lt_pow_right Nat.one_lt_two hlt

theorem powerOfTwo_dvd {m n : Nat} (hle : m ≤ n) : powerOfTwo m ∣ powerOfTwo n :=
  Nat.pow_dvd_pow 2 hle

theorem powerOfTwo_log2_le {n : Nat} (hn : n ≠ 0) : powerOfTwo n.log2 ≤ n :=
  Nat.log2_self_le hn

theorem lt_powerOfTwo_log2 (n : Nat) : n < powerOfTwo (n.log2 + 1) :=
  Nat.lt_log2_self

theorem log2_le_log2 {m n : Nat} (hle : m ≤ n) : m.log2 ≤ n.log2 := by
  by_cases hm : m = 0
  · simp [hm]
  · have hn : n ≠ 0 := by omega
    exact (Nat.le_log2 hn).mpr (Nat.le_trans (Nat.log2_self_le hm) hle)

/-- A number of units with at most 53 significant bits. -/
def Precise (units : Nat) : Prop := units % powerOfTwo (units.log2 - 52) = 0

theorem precise_powerOfTwo (n : Nat) : Precise (powerOfTwo n) := by
  have hlog : (powerOfTwo n).log2 = n := Nat.log2_two_pow
  rw [Precise, hlog]
  exact Nat.mod_eq_zero_of_dvd (powerOfTwo_dvd (Nat.sub_le n 52))

/-- A precise number is a multiple of every step between the numbers of a
smaller magnitude. -/
theorem Precise.dvd {units smaller : Nat} (hprecise : Precise units)
    (hle : smaller.log2 ≤ units.log2) :
    powerOfTwo (smaller.log2 - 52) ∣ units :=
  Nat.dvd_trans (powerOfTwo_dvd (Nat.sub_le_sub_right hle 52))
    (Nat.dvd_of_mod_eq_zero hprecise)

theorem div_le_roundDiv (num den : Nat) : num / den ≤ roundDiv num den := by
  unfold roundDiv
  dsimp only
  split
  · exact Nat.le_refl _
  · split
    · exact Nat.le_succ _
    · exact Nat.le_add_right _ _

theorem roundDiv_le {num den bound : Nat} (hden : 0 < den)
    (hle : num ≤ bound * den) : roundDiv num den ≤ bound := by
  have hquotient : num / den ≤ bound :=
    Nat.div_le_of_le_mul (Nat.mul_comm bound den ▸ hle)
  have hsplit := Nat.div_add_mod num den
  unfold roundDiv
  dsimp only
  split
  · exact hquotient
  · -- the remainder is not zero, so the quotient lies below the bound
    have hlt : num / den < bound := by
      apply Nat.lt_of_le_of_ne hquotient
      intro heq
      rw [heq, Nat.mul_comm] at hsplit
      omega
    split
    · exact hlt
    · have hparity := Nat.mod_lt (num / den) Nat.zero_lt_two
      omega

/-- A multiple of the step that is not above the exact value is not above the
rounded one. -/
theorem mul_le_roundUnits {num den count : Nat}
    (hle : count * powerOfTwo ((num / den).log2 - 52) ≤ num / den) :
    count * powerOfTwo ((num / den).log2 - 52) ≤ roundUnits num den := by
  have hcount : count ≤ num / den / powerOfTwo ((num / den).log2 - 52) :=
    (Nat.le_div_iff_mul_le (powerOfTwo_pos _)).mpr hle
  rw [Nat.div_div_eq_div_mul] at hcount
  exact Nat.mul_le_mul_right _ (Nat.le_trans hcount (div_le_roundDiv _ _))

theorem le_roundUnits {units num den : Nat} (hprecise : Precise units)
    (hden : 0 < den) (hle : units * den ≤ num) : units ≤ roundUnits num den := by
  have hfloor : units ≤ num / den := (Nat.le_div_iff_mul_le hden).mpr hle
  rcases Nat.lt_or_ge units.log2 (num / den).log2 with hlt | hge
  · -- of a smaller magnitude: the leading power of two lies between
    have hpositive : num / den ≠ 0 := by
      intro hzero
      rw [hzero] at hlt
      exact absurd hlt (Nat.not_lt_zero _)
    have hpower : powerOfTwo ((num / den).log2 - ((num / den).log2 - 52)) *
        powerOfTwo ((num / den).log2 - 52) = powerOfTwo (num / den).log2 := by
      rw [← powerOfTwo_add, Nat.sub_add_cancel (Nat.sub_le _ _)]
    have hround := @mul_le_roundUnits num den _
      (hpower.symm ▸ powerOfTwo_log2_le hpositive)
    rw [hpower] at hround
    calc
      units ≤ powerOfTwo (units.log2 + 1) :=
        Nat.le_of_lt (lt_powerOfTwo_log2 units)
      _ ≤ powerOfTwo (num / den).log2 := powerOfTwo_le hlt
      _ ≤ roundUnits num den := hround
  · obtain ⟨count, hcount⟩ := hprecise.dvd hge
    rw [Nat.mul_comm] at hcount
    rw [hcount]
    exact mul_le_roundUnits (hcount ▸ hfloor)

theorem roundUnits_le {units num den : Nat} (hprecise : Precise units)
    (hden : 0 < den) (hle : num ≤ units * den) : roundUnits num den ≤ units := by
  have hfloor : num / den ≤ units :=
    Nat.div_le_of_le_mul (Nat.mul_comm units den ▸ hle)
  obtain ⟨count, hcount⟩ := hprecise.dvd (log2_le_log2 hfloor)
  rw [Nat.mul_comm] at hcount
  have hrounded : roundDiv num (den * powerOfTwo ((num / den).log2 - 52)) ≤
      count := by
    apply roundDiv_le (Nat.mul_pos hden (powerOfTwo_pos _))
    rw [Nat.mul_left_comm, ← hcount, Nat.mul_comm]
    exact hle
  rw [hcount]
  exact Nat.mul_le_mul_right _ hrounded

/-- Rounding gives a precise number.  It lies below the next power of two, or
is that power. -/
theorem roundUnits_precise {num den : Nat} (hden : 0 < den) :
    Precise (roundUnits num den) := by
  have habove : num ≤ powerOfTwo ((num / den).log2 + 1) * den :=
    Nat.le_of_lt ((Nat.div_lt_iff_lt_mul hden).mp (lt_powerOfTwo_log2 _))
  have hupper := roundUnits_le (precise_powerOfTwo _) hden habove
  rcases Nat.lt_or_ge (roundUnits num den)
      (powerOfTwo ((num / den).log2 + 1)) with hlt | hge
  · have hlog : (roundUnits num den).log2 ≤ (num / den).log2 := by
      by_cases hzero : roundUnits num den = 0
      · simp [hzero]
      · exact Nat.le_of_lt_succ ((Nat.log2_lt hzero).mpr hlt)
    have hstep : powerOfTwo ((num / den).log2 - 52) ∣ roundUnits num den :=
      Nat.dvd_mul_left _ _
    exact Nat.mod_eq_zero_of_dvd (Nat.dvd_trans
      (powerOfTwo_dvd (Nat.sub_le_sub_right hlog 52)) hstep)
  · rw [Nat.le_antisymm hupper hge]
    exact precise_powerOfTwo _

theorem scale_eq : scale = powerOfTwo 1074 := rfl

theorem ofUnits_eq_finite (negative : Bool) {num den exponent : Nat}
    (hden : 0 < den) (hsmall : num ≤ powerOfTwo exponent * den)
    (hexponent : exponent < 2098) :
    ∃ d : Double, ofUnits negative num den = .finite d ∧
      d.negative = negative ∧ d.units = roundUnits num den := by
  have hlimit : roundUnits num den < limit :=
    Nat.lt_of_le_of_lt (roundUnits_le (precise_powerOfTwo _) hden hsmall)
      (powerOfTwo_lt hexponent)
  have hprecise : roundUnits num den %
      powerOfTwo ((roundUnits num den).log2 - 52) = 0 := roundUnits_precise hden
  refine ⟨⟨negative, roundUnits num den, hlimit, hprecise⟩, ?_, rfl, rfl⟩
  unfold ofUnits
  dsimp only
  rw [dif_pos ⟨hlimit, hprecise⟩]

end Double

namespace Number

/-- The exact value, in units. -/
def units : Number → Int
  | .whole n => n.val * Double.scale
  | .double d => d.signedUnits

theorem natAbs_le_powerOfTwo (n : Whole) :
    n.val.natAbs ≤ Double.powerOfTwo 64 := by
  have hlower := n.lower
  have hupper := n.upper
  have hpower : Double.powerOfTwo 64 = 18446744073709551616 := rfl
  omega

/-- The double that stands for a whole number has its sign, and its magnitude
rounded. -/
theorem toDouble_whole (n : Whole) :
    (whole n).toDouble.negative = decide (n.val < 0) ∧
      (whole n).toDouble.units =
        Double.roundUnits (n.val.natAbs * Double.scale) 1 := by
  have hsmall : n.val.natAbs * Double.scale ≤
      Double.powerOfTwo (64 + 1074) * 1 := by
    rw [Nat.mul_one, Double.powerOfTwo_add, Double.scale_eq]
    exact Nat.mul_le_mul_right _ (natAbs_le_powerOfTwo n)
  obtain ⟨d, hfinite, hnegative, hunits⟩ :=
    Double.ofUnits_eq_finite (decide (n.val < 0)) Nat.one_pos hsmall (by decide)
  have hdouble : (whole n).toDouble = d := by
    rw [toDouble, Double.ofInt, Double.ofRatio, hfinite]
    rfl
  rw [hdouble]
  exact ⟨hnegative, hunits⟩

theorem signedUnits_toDouble_whole (n : Whole) :
    (whole n).toDouble.signedUnits =
      if n.val < 0 then
        -(Double.roundUnits (n.val.natAbs * Double.scale) 1 : Int)
      else Double.roundUnits (n.val.natAbs * Double.scale) 1 := by
  obtain ⟨hnegative, hunits⟩ := toDouble_whole n
  simp only [Double.signedUnits, hnegative, hunits, decide_eq_true_eq]

/-- A whole number is its magnitude in units, with its sign. -/
theorem units_whole (n : Whole) :
    (whole n).units =
      if n.val < 0 then -((n.val.natAbs * Double.scale : Nat) : Int)
      else (n.val.natAbs * Double.scale : Nat) := by
  change n.val * (Double.scale : Int) = _
  rw [Int.natCast_mul]
  by_cases hnegative : n.val < 0
  · rw [if_pos hnegative, Int.ofNat_natAbs_of_nonpos (Int.le_of_lt hnegative),
      Int.neg_mul, Int.neg_neg]
  · rw [if_neg hnegative, Int.natAbs_of_nonneg (Int.not_lt.mp hnegative)]

end Number

namespace Double

/-- Rounding a magnitude with a sign keeps it on its side of every double. -/
theorem round_mono (d : Double) (negative : Prop) [Decidable negative]
    (exact : Nat) :
    (d.signedUnits ≤ (if negative then -(exact : Int) else exact) →
      d.signedUnits ≤
        if negative then -(roundUnits exact 1 : Int) else roundUnits exact 1) ∧
    ((if negative then -(exact : Int) else exact) ≤ d.signedUnits →
      (if negative then -(roundUnits exact 1 : Int) else roundUnits exact 1) ≤
        d.signedUnits) := by
  have hlower : d.units ≤ exact → d.units ≤ roundUnits exact 1 := by
    intro hle
    exact le_roundUnits d.precise Nat.one_pos (by omega)
  have hupper : exact ≤ d.units → roundUnits exact 1 ≤ d.units := by
    intro hle
    exact roundUnits_le d.precise Nat.one_pos (by omega)
  unfold signedUnits
  cases d.negative with
  | true => by_cases hnegative : negative <;> simp [hnegative] <;> omega
  | false => by_cases hnegative : negative <;> simp [hnegative] <;> omega

end Double

namespace Number

/-- A double that is not above a number is not above the double of the
number. -/
theorem le_toDouble {n : Number} {d : Double}
    (hle : d.signedUnits ≤ n.units) : d.signedUnits ≤ n.toDouble.signedUnits := by
  cases n with
  | double other => exact hle
  | whole n =>
      rw [units_whole] at hle
      rw [signedUnits_toDouble_whole]
      exact (d.round_mono _ _).1 hle

/-- A double that is not below a number is not below the double of the
number. -/
theorem toDouble_le {n : Number} {d : Double}
    (hle : n.units ≤ d.signedUnits) : n.toDouble.signedUnits ≤ d.signedUnits := by
  cases n with
  | double other => exact hle
  | whole n =>
      rw [units_whole] at hle
      rw [signedUnits_toDouble_whole]
      exact (d.round_mono _ _).2 hle

/-- A double that is an integer is the double of that integer, apart from the
sign of zero. -/
theorem signedUnits_toDouble_of_toInt? {d : Double} {n : Whole}
    (hint : d.toInt? = some n.val) :
    (whole n).toDouble.signedUnits = d.signedUnits := by
  have hunits : (whole n).units = d.signedUnits := by
    unfold Double.toInt? at hint
    split at hint
    · next hwhole =>
        have hdiv : d.units / Double.scale * Double.scale = d.units :=
          Nat.div_mul_cancel (Nat.dvd_of_mod_eq_zero hwhole)
        change n.val * (Double.scale : Int) = _
        rw [← Option.some.inj hint]
        unfold Double.signedUnits
        split
        · rw [Int.neg_mul, ← Int.natCast_mul, hdiv]
        · rw [← Int.natCast_mul, hdiv]
    · contradiction
  exact Int.le_antisymm (toDouble_le (Int.le_of_eq hunits))
    (le_toDouble (Int.le_of_eq hunits.symm))

end Number

end Trellis
