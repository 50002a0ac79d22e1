import Mathlib.Algebra.Group.Int.Defs
import Mathlib.Algebra.Group.Nat.Defs
import Trellis.Proofs.Number.Rounding
/-!
The double of an integer is an integer: rounding in units of the smallest double and rounding in ones come to the
same.  So the doubles of integers are described by the integers with 53 significant bits; between `2^63` and `2^64`
these are the multiples of 2048.
-/

namespace Trellis

namespace Double

theorem roundDiv_mul_right (num den : Nat) {factor : Nat} (hfactor : 0 < factor) :
    roundDiv (num * factor) (den * factor) = roundDiv num den := by
  have hless : ∀ a b : Nat, a * factor < b * factor ↔ a < b := fun a b =>
    Nat.mul_lt_mul_right hfactor
  simp only [roundDiv, Nat.mul_div_mul_right _ _ hfactor, Nat.mul_mod_mul_right,
    ← Nat.mul_assoc, hless]

theorem roundDiv_mul_self (num : Nat) {den : Nat} (hden : 0 < den) :
    roundDiv (num * den) den = num := by
  simp [roundDiv, Nat.mul_div_cancel _ hden, hden]

theorem log2_mul_powerOfTwo {n : Nat} (hn : n ≠ 0) (exponent : Nat) :
    (n * powerOfTwo exponent).log2 = n.log2 + exponent := by
  have hlower := powerOfTwo_log2_le hn
  have hupper := lt_powerOfTwo_log2 n
  have hpos := powerOfTwo_pos exponent
  have hne : n * powerOfTwo exponent ≠ 0 := Nat.mul_ne_zero hn (Nat.ne_of_gt hpos)
  rw [Nat.log2_eq_iff hne]
  constructor
  · change powerOfTwo (n.log2 + exponent) ≤ _
    rw [powerOfTwo_add]
    exact Nat.mul_le_mul_right _ hlower
  · change _ < powerOfTwo (n.log2 + exponent + 1)
    rw [Nat.add_right_comm, powerOfTwo_add]
    exact Nat.mul_lt_mul_of_pos_right hupper hpos

/-- Rounding a whole number of ones, in units, is rounding it as it is. -/
theorem roundUnits_scale (n : Nat) : roundUnits (n * scale) 1 = roundUnits n 1 * scale := by
  by_cases hn : n = 0
  · subst hn
    simp [roundUnits, roundDiv]
  rw [scale_eq]
  simp only [roundUnits, Nat.div_one, Nat.one_mul, log2_mul_powerOfTwo hn]
  rcases Nat.lt_or_ge n.log2 52 with hsmall | hlarge
  · -- the step is smaller than one, so nothing is lost
    have hones : n.log2 - 52 = 0 := Nat.sub_eq_zero_of_le (Nat.le_of_lt hsmall)
    have hexponent : 1074 = (52 - n.log2) + (n.log2 + 1074 - 52) := by omega
    have hsplit := (congrArg powerOfTwo hexponent).trans (powerOfTwo_add _ _)
    have hone : roundDiv n (powerOfTwo 0) = n := by
      simpa [powerOfTwo] using roundDiv_mul_self n Nat.one_pos
    rw [hones, hone, hsplit, ← Nat.mul_assoc, roundDiv_mul_self _ (powerOfTwo_pos _)]
    simp [powerOfTwo, Nat.mul_assoc]
  · have hstep : n.log2 + 1074 - 52 = (n.log2 - 52) + 1074 := by omega
    rw [hstep, powerOfTwo_add, roundDiv_mul_right _ _ (powerOfTwo_pos 1074), Nat.mul_assoc]

theorem roundUnits_of_precise {n : Nat} (hprecise : Precise n) : roundUnits n 1 = n :=
  Nat.le_antisymm (roundUnits_le hprecise Nat.one_pos (by omega))
    (le_roundUnits hprecise Nat.one_pos (by omega))

theorem precise_of_le {n : Nat} (hle : n ≤ powerOfTwo 53) : Precise n := by
  rcases Nat.eq_or_lt_of_le hle with rfl | hlt
  · exact precise_powerOfTwo 53
  · by_cases hn : n = 0
    · subst hn
      exact Nat.zero_mod _
    · have hlog : n.log2 < 53 := (Nat.log2_lt hn).mpr hlt
      have hstep : n.log2 - 52 = 0 := by omega
      rw [Precise, hstep]
      exact Nat.mod_one n

/-- From `2^63` up to `2^64` an integer is rounded to a multiple of 2048. -/
theorem roundUnits_of_large {n : Nat} (hlower : 2 ^ 63 ≤ n) (hupper : n < 2 ^ 64) :
    roundUnits n 1 = roundDiv n 2048 * 2048 := by
  have hn : n ≠ 0 := by omega
  have hlog : n.log2 = 63 := (Nat.log2_eq_iff hn).mpr ⟨hlower, hupper⟩
  simp only [roundUnits, Nat.div_one, Nat.one_mul, hlog]
  rfl

theorem le_roundUnits_of_le {n : Nat} (hlower : 2 ^ 64 ≤ n) : 2 ^ 64 ≤ roundUnits n 1 :=
  le_roundUnits (precise_powerOfTwo 64) Nat.one_pos (Nat.mul_one n ▸ hlower)

theorem roundDiv_mul_close (num : Nat) {den : Nat} (hden : 0 < den) :
    2 * num ≤ 2 * (roundDiv num den * den) + den ∧
      2 * (roundDiv num den * den) ≤ 2 * num + den := by
  have hsplit := Nat.div_add_mod num den
  have hrest := Nat.mod_lt num hden
  rw [Nat.mul_comm] at hsplit
  unfold roundDiv
  dsimp only
  split
  · omega
  · split
    · rw [Nat.add_mul, Nat.one_mul]
      omega
    · rcases Nat.mod_two_eq_zero_or_one (num / den) with heven | hodd
      · rw [heven, Nat.add_zero]
        omega
      · rw [hodd, Nat.add_mul, Nat.one_mul]
        omega

/-- The integer with 53 significant bits that is nearest to an integer; of two
equally near ones, the one whose last bit is zero. -/
def nearest (n : Int) : Int :=
  if n < 0 then -(roundUnits n.natAbs 1 : Int) else roundUnits n.natAbs 1

/-- From `2^63` up to `2^64` the nearest such integer is a multiple of 2048. -/
theorem nearest_of_large {n : Int} (hlower : 2 ^ 63 ≤ n) (hupper : n < 2 ^ 64) :
    2048 ∣ nearest n ∧ (nearest n - n).natAbs ≤ 1024 := by
  have hlarge := roundUnits_of_large (n := n.natAbs) (by omega) (by omega)
  have hclose := roundDiv_mul_close n.natAbs (show 0 < 2048 by decide)
  have hnonneg : ¬ n < 0 := by omega
  rw [nearest, if_neg hnonneg, hlarge]
  exact ⟨⟨roundDiv n.natAbs 2048, by omega⟩, by omega⟩

theorem nearest_of_natAbs_le {n : Int} (hle : n.natAbs ≤ 2 ^ 53) : nearest n = n := by
  rw [nearest, roundUnits_of_precise (precise_of_le hle)]
  split <;> omega

/-- Beyond `2^64` nothing is rounded to below it. -/
theorem le_nearest_of_le {n : Int} (hlower : 2 ^ 64 ≤ n) : 2 ^ 64 ≤ nearest n := by
  have hround := le_roundUnits_of_le (n := n.natAbs) (by omega)
  have hnonneg : ¬ n < 0 := by omega
  rw [nearest, if_neg hnonneg]
  omega

/-- Below `-2^63` an integer is rounded to `-2^63` or further down; it is rounded to
`-2^63` if it is at most 1024 below. -/
theorem nearest_of_lt {n : Int} (hupper : n < -2 ^ 63) :
    nearest n ≤ -2 ^ 63 ∧ (nearest n = -2 ^ 63 ↔ -2 ^ 63 - 1024 ≤ n) := by
  have hnegative : n < 0 := by omega
  rw [nearest, if_pos hnegative]
  rcases Nat.lt_or_ge n.natAbs (2 ^ 64) with hlt | hge
  · have hlarge := roundUnits_of_large (n := n.natAbs) (by omega) hlt
    -- the multiple is `2^52` times 2048, also halfway to the next one, since `2^52` is even
    have hquotient : roundDiv n.natAbs 2048 = 2 ^ 52 ↔ n.natAbs ≤ 2 ^ 63 + 1024 := by
      unfold roundDiv
      dsimp only
      split
      · omega
      · split <;> omega
    have hleast : 2 ^ 52 ≤ roundDiv n.natAbs 2048 := by
      have hdiv := div_le_roundDiv n.natAbs 2048
      omega
    rw [hlarge]
    omega
  · have hround := le_roundUnits_of_le hge
    omega

/-- The double of an integer is the nearest one that there is, as an integer. -/
theorem signedUnits_of_ofRatio {n : Int} {negative : Bool} {digits : Nat} {d : Double}
    (hvalue : n = if negative then -(digits : Int) else digits)
    (hround : ofRatio negative digits 1 = .finite d) :
    d.signedUnits = nearest n * scale := by
  rw [ofRatio, ofUnits] at hround
  split at hround
  · obtain rfl := Extended.finite.inj hround
    have hdigits : n.natAbs = digits := by
      cases negative <;> simp [hvalue]
    simp only [signedUnits, roundUnits_scale, nearest, hdigits]
    cases negative with
    | false =>
        have hnonneg : ¬ n < 0 := by simp [hvalue]
        rw [if_neg Bool.false_ne_true, if_neg hnonneg, Int.natCast_mul]
    | true =>
        rw [if_pos rfl]
        by_cases hnegative : n < 0
        · rw [if_pos hnegative, Int.neg_mul, Int.natCast_mul]
        · -- zero has both signs
          have hnone : digits = 0 := by simp only [hvalue, if_true] at hnegative; omega
          have hzero : roundUnits 0 1 = 0 := by decide
          rw [if_neg hnegative, hnone, hzero, Nat.zero_mul, Int.natCast_zero, Int.neg_zero,
            Int.zero_mul]
  · contradiction

/-- An integer of moderate size has a double. -/
theorem exists_ofRatio_eq_finite (negative : Bool) {digits : Nat} (hsmall : digits ≤ 2 ^ 65) :
    ∃ d, ofRatio negative digits 1 = .finite d ∧ d.negative = negative := by
  have hunits : digits * scale ≤ powerOfTwo (65 + 1074) * 1 := by
    rw [Nat.mul_one, powerOfTwo_add, scale_eq]
    exact Nat.mul_le_mul_right _ hsmall
  obtain ⟨d, hfinite, hnegative, -⟩ :=
    ofUnits_eq_finite negative Nat.one_pos hunits (by decide)
  exact ⟨d, hfinite, hnegative⟩

theorem toInt?_eq_some_iff {d : Double} {m : Int} :
    d.toInt? = some m ↔ d.signedUnits = m * scale := by
  have hpos : 0 < scale := powerOfTwo_pos 1074
  have hsplit := Nat.div_add_mod d.units scale
  unfold toInt? signedUnits
  split
  · next hwhole =>
      have hdiv : ((d.units / scale : Nat) : Int) * scale = d.units := by
        rw [← Int.natCast_mul, Nat.div_mul_cancel (Nat.dvd_of_mod_eq_zero hwhole)]
      have hcancel : ∀ a : Int, a * scale = m * scale ↔ a = m := fun a =>
        Int.mul_eq_mul_right_iff (by omega)
      rw [Option.some.injEq, ← hcancel]
      cases d.negative with
      | false => simp only [Bool.false_eq_true, if_false, hdiv]
      | true => simp only [if_true, Int.neg_mul, hdiv]
  · next hpart =>
      refine iff_of_false (by simp) ?_
      intro hunits
      apply hpart
      have hdvd : (scale : Int) ∣ d.units := by
        cases hsign : d.negative with
        | false =>
            simp only [hsign, Bool.false_eq_true, if_false] at hunits
            exact ⟨m, by rw [Int.mul_comm, ← hunits]⟩
        | true =>
            simp only [hsign, if_true] at hunits
            exact Int.dvd_neg.mp (⟨m, by rw [Int.mul_comm, ← hunits]⟩)
      exact Nat.mod_eq_zero_of_dvd (Int.natCast_dvd_natCast.mp hdvd)

end Double

namespace Number

theorem signedUnits_toDouble (w : Whole) :
    (whole w).toDouble.signedUnits = Double.nearest w.val * Double.scale := by
  rw [signedUnits_toDouble_whole, Double.roundUnits_scale, Double.nearest,
    Int.natCast_mul]
  split
  · exact (Int.neg_mul _ _).symm
  · rfl

end Number

end Trellis
