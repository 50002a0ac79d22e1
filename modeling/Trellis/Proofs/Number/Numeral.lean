import Mathlib.Data.List.TakeWhile
import Trellis.Number.Numeral
import Trellis.Proofs.Number.Nearest
/-!
Integers spelled in decimal digits.  A text that spells an integer is read as that integer if it fits a signed word,
and otherwise as the double of the integer, which is another number where doubles are coarser than ones.
-/

namespace Trellis

theorem Extended.finite?_eq_some_iff {e : Extended} {d : Double} :
    e.finite? = some d ↔ e = .finite d := by
  cases e <;> simp [finite?]

namespace Numeral

/-- A text spells an integer: digits in base ten, behind a sign or none. -/
inductive Spells : List Char → Int → Prop
  | plain {digits : List Char} (hne : digits ≠ []) (hdigits : ∀ c ∈ digits, c.isDigit) :
    Spells digits (Nat.ofDigitChars 10 digits 0)
  | plus {digits : List Char} (hne : digits ≠ []) (hdigits : ∀ c ∈ digits, c.isDigit) :
    Spells ('+' :: digits) (Nat.ofDigitChars 10 digits 0)
  | minus {digits : List Char} (hne : digits ≠ []) (hdigits : ∀ c ∈ digits, c.isDigit) :
    Spells ('-' :: digits) (-(Nat.ofDigitChars 10 digits 0 : Int))

/-- The decimal digits of an integer spell it. -/
theorem spells_toString (n : Int) : Spells (toString n).toList n := by
  have hdigits : ∀ m : Nat, ∀ c ∈ m.repr.toList, c.isDigit := by
    intro m c hc
    rw [Nat.toList_repr] at hc
    exact Nat.isDigit_of_mem_toDigits (by decide) (by decide) hc
  have hvalue : ∀ m : Nat, Nat.ofDigitChars 10 m.repr.toList 0 = m := by
    intro m
    rw [Nat.toList_repr]
    exact Nat.ofDigitChars_toDigits (by decide) (by decide)
  have hne : ∀ m : Nat, m.repr.toList ≠ [] := by
    intro m
    rw [Nat.toList_repr]
    exact Nat.toDigits_ne_nil
  cases n with
  | ofNat m =>
      have hspells := Spells.plain (hne m) (hdigits m)
      rw [hvalue] at hspells
      exact hspells
  | negSucc m =>
      have hspells := Spells.minus (hne (m + 1)) (hdigits (m + 1))
      rw [hvalue] at hspells
      have htext : (toString (Int.negSucc m)).toList = '-' :: (m + 1).repr.toList := by
        change ("-" ++ (m + 1).repr).toList = _
        simp
      rw [htext]
      exact hspells

theorem sign_of_isDigit {digits : List Char} (hdigits : ∀ c ∈ digits, c.isDigit) :
    sign digits = (false, digits) := by
  cases digits with
  | nil => rfl
  | cons c rest =>
      have hdigit := hdigits c List.mem_cons_self
      have hminus : c ≠ '-' := by rintro rfl; contradiction
      have hplus : c ≠ '+' := by rintro rfl; contradiction
      simp [sign, hminus, hplus]

/-- What is read of a text that spells an integer: the sign, and the value of
the digits. -/
theorem Spells.parts {cs : List Char} {n : Int} (hspells : Spells cs n) :
    ∃ negative digits, sign cs = (negative, digits) ∧ digits ≠ [] ∧
      (∀ c ∈ digits, c.isDigit) ∧
      n = if negative then -(digitsValue digits : Int) else digitsValue digits := by
  cases hspells with
  | plain hne hdigits => exact ⟨false, _, sign_of_isDigit hdigits, hne, hdigits, rfl⟩
  | plus hne hdigits => exact ⟨false, _, rfl, hne, hdigits, rfl⟩
  | minus hne hdigits => exact ⟨true, _, rfl, hne, hdigits, rfl⟩

theorem Spells.integer? {cs : List Char} {n : Int} (hspells : Spells cs n) :
    integer? cs = some n := by
  obtain ⟨negative, digits, hsign, hne, hdigits, rfl⟩ := hspells.parts
  rw [Numeral.integer?, hsign]
  exact if_pos ⟨hne, List.all_eq_true.mpr hdigits⟩

theorem Spells.decimal? {cs : List Char} {n : Int} (hspells : Spells cs n) :
    ∃ negative digits, n = (if negative then -(digits : Int) else digits) ∧
      decimal? cs = some (Double.ofDecimal negative digits 0) := by
  obtain ⟨negative, digits, hsign, hne, hdigits, rfl⟩ := hspells.parts
  have htake : digits.takeWhile Char.isDigit = digits :=
    List.takeWhile_eq_self_iff.mpr hdigits
  have hdrop : digits.dropWhile Char.isDigit = [] := List.dropWhile_eq_nil_iff.mpr hdigits
  refine ⟨negative, digitsValue digits, rfl, ?_⟩
  simp [Numeral.decimal?, hsign, htake, hdrop, hne, exponent?]

theorem isBlank_of_isDigit {c : Char} (hc : c.isDigit) : Text.isBlank c = false := by
  simp only [Char.isDigit, Bool.and_eq_true, decide_eq_true_eq] at hc
  have hlower : 48 ≤ c.toNat := hc.1
  have hupper : c.toNat ≤ 57 := hc.2
  simp only [Text.isBlank, Bool.or_eq_false_iff, Bool.and_eq_false_iff, beq_eq_false_iff_ne,
    decide_eq_false_iff_not]
  omega

theorem Spells.isBlank {cs : List Char} {n : Int} (hspells : Spells cs n) :
    ∀ c ∈ cs, Text.isBlank c = false := by
  cases hspells with
  | plain _ hdigits => exact fun c hc => isBlank_of_isDigit (hdigits c hc)
  | plus _ hdigits =>
      exact List.forall_mem_cons.mpr ⟨rfl, fun c hc => isBlank_of_isDigit (hdigits c hc)⟩
  | minus _ hdigits =>
      exact List.forall_mem_cons.mpr ⟨rfl, fun c hc => isBlank_of_isDigit (hdigits c hc)⟩

/-- There is nothing to trim from such a text. -/
theorem Spells.trim {text : String} {n : Int} (hspells : Spells text.toList n) :
    Text.trim text = text := by
  have hkeep : ∀ cs : List Char, (∀ c ∈ cs, Text.isBlank c = false) →
      cs.dropWhile Text.isBlank = cs := by
    intro cs hcs
    cases cs with
    | nil => rfl
    | cons c rest => simp [hcs c List.mem_cons_self]
  have hnone := hspells.isBlank
  rw [Text.trim, Text.trimChars, hkeep _ hnone,
    hkeep _ fun c hc => hnone c (List.mem_reverse.mp hc), List.reverse_reverse,
    String.ofList_toList]

/-- An integer that fits a signed word is read as it is. -/
theorem Spells.read?_word {text : String} {n : Int} (hspells : Spells text.toList n) {w : Whole}
    (hw : w.val = n) (hupper : n < 2 ^ 63) : read? text = some (.whole w) := by
  have hlower := w.lower
  have hword : signedWord? text.toList = some n := by
    rw [signedWord?, hspells.integer?]
    exact Option.filter_some_pos (decide_eq_true (by omega))
  have hwhole : Whole.ofInt? n = some w := by
    subst hw
    exact dif_pos ⟨w.lower, w.upper⟩
  rw [read?, hword]
  change (Whole.ofInt? n).map Number.whole = _
  rw [hwhole]
  rfl

/-- The double nearest to digits, unless they are too many to be looked at. -/
theorem ofDecimal_digits {digits : Nat} (hdigits : digits ≠ 0) (negative : Bool) :
    Double.ofDecimal negative digits 0 =
      if 400 < (digits.log2 : Int) * 30103 / 100000 then .infinite negative
      else Double.ofRatio negative digits 1 := by
  have hlarge : ¬ (digits.log2 : Int) * 30103 / 100000 < -400 := by omega
  unfold Double.ofDecimal
  rw [if_neg hdigits]
  simp only [Int.add_zero, if_neg hlarge]
  split
  · rfl
  · change Double.ofRatio negative (digits * 1) 1 = _
    rw [Nat.mul_one]

section Beyond

variable {text : String} {n : Int} (hspells : Spells text.toList n)
  (hbeyond : n < -2 ^ 63 ∨ 2 ^ 63 ≤ n)
include hspells hbeyond

/-- An integer beyond the signed words is read by rounding it once, if it is not
too large. -/
theorem Spells.read?_eq : ∃ negative digits,
    n = (if negative then -(digits : Int) else digits) ∧ digits ≠ 0 ∧
      read? text = ((Double.ofDecimal negative digits 0).finite?).map .double := by
  obtain ⟨negative, digits, hvalue, hdecimal⟩ := hspells.decimal?
  have hword : signedWord? text.toList = none := by
    rw [signedWord?, hspells.integer?]
    exact Option.filter_some_neg (decide_eq_false (by omega))
  refine ⟨negative, digits, hvalue, ?_, ?_⟩
  · rintro rfl
    cases negative <;> simp at hvalue <;> omega
  · rw [read?, hword, hdecimal]
    rfl

/-- If a number is read, it is the double of the integer. -/
theorem Spells.nearest_of_read? {number : Number} (hread : read? text = some number) :
    ∃ d, number = .double d ∧ d.signedUnits = Double.nearest n * Double.scale := by
  obtain ⟨negative, digits, hvalue, hdigits, heq⟩ := hspells.read?_eq hbeyond
  rw [heq, ofDecimal_digits hdigits] at hread
  obtain ⟨d, hfinite, rfl⟩ := Option.map_eq_some_iff.mp hread
  refine ⟨d, rfl, ?_⟩
  have hround := Extended.finite?_eq_some_iff.mp hfinite
  split at hround
  · contradiction
  · exact Double.signedUnits_of_ofRatio hvalue hround

/-- A number is read if the integer is of moderate size. -/
theorem Spells.exists_read? (hsmall : n.natAbs ≤ 2 ^ 65) :
    ∃ d, read? text = some (.double d) ∧
      Double.ofRatio (n < 0) n.natAbs 1 = .finite d := by
  obtain ⟨negative, digits, hvalue, hdigits, heq⟩ := hspells.read?_eq hbeyond
  have hsign : decide (n < 0) = negative := by
    cases negative with
    | false => exact decide_eq_false (by simp [hvalue])
    | true =>
        have hbelow : n = -(digits : Int) := hvalue
        exact decide_eq_true (by omega)
  have habs : n.natAbs = digits := by
    cases negative <;> simp [hvalue]
  have hlog : digits.log2 < 66 := (Nat.log2_lt hdigits).mpr (by omega)
  have hmagnitude : ¬ 400 < (digits.log2 : Int) * 30103 / 100000 := by omega
  obtain ⟨d, hround, -⟩ := Double.exists_ofRatio_eq_finite negative (habs ▸ hsmall)
  refine ⟨d, ?_, ?_⟩
  · rw [heq, ofDecimal_digits hdigits, if_neg hmagnitude, hround]
    rfl
  · rw [hsign, habs, hround]

end Beyond

end Numeral

end Trellis
