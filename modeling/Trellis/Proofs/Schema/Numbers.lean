import Mathlib.Algebra.Order.Field.Rat
import Mathlib.Algebra.Order.Ring.Cast
import Trellis.Proofs.Number.Numeral
import Trellis.Proofs.Schema.Complete
/-!
Numbers under number schemas.  A bound is compared with the double of a number, so an integer beyond `2^53` may pass a
bound that it violates; and a text is read as the double of the integer that it spells if that is no signed word.
The theorems say what is accepted then, and what is made of it.
-/

namespace Trellis

/-- The exact value of a double. -/
def Double.value (d : Double) : ℚ := d.signedUnits / Double.scale

namespace Double

theorem value_le_iff {d : Double} {n : Int} : d.value ≤ n ↔ d.signedUnits ≤ n * scale := by
  have hpos : (0 : ℚ) < scale := Nat.cast_pos.mpr (powerOfTwo_pos 1074)
  rw [value, div_le_iff₀ hpos]
  exact_mod_cast Iff.rfl

theorem le_value_iff {d : Double} {n : Int} : (n : ℚ) ≤ d.value ↔ n * scale ≤ d.signedUnits := by
  have hpos : (0 : ℚ) < scale := Nat.cast_pos.mpr (powerOfTwo_pos 1074)
  rw [value, le_div_iff₀ hpos]
  exact_mod_cast Iff.rfl

theorem value_eq_iff {d : Double} {n : Int} : d.value = n ↔ d.signedUnits = n * scale := by
  rw [le_antisymm_iff, value_le_iff, le_value_iff, ← le_antisymm_iff]

end Double

namespace Number

theorem value_toDouble (w : Whole) : (whole w).toDouble.value = Double.nearest w.val :=
  Double.value_eq_iff.mpr (signedUnits_toDouble w)

/-- A number is not below a bound, as doubles, if it is not below it exactly or the
bound is its double. -/
theorem above_toDouble_eq_false_iff (w : Whole) (a : Double) :
    (Extended.finite a).above (whole w).toDouble = false ↔
      a.value ≤ w.val ∨ a.value = Double.nearest w.val := by
  rw [Double.value_le_iff, Double.value_eq_iff, ← signedUnits_toDouble, Extended.above,
    Double.less, decide_eq_false_iff_not, Int.not_lt]
  constructor
  · intro hle
    rcases Int.le_total a.signedUnits (w.val * Double.scale) with hbelow | habove
    · exact .inl hbelow
    · exact .inr (Int.le_antisymm hle (toDouble_le (n := .whole w) habove))
  · rintro (hle | heq)
    · exact le_toDouble (n := .whole w) hle
    · exact Int.le_of_eq heq

theorem below_toDouble_eq_false_iff (w : Whole) (b : Double) :
    (Extended.finite b).below (whole w).toDouble = false ↔
      w.val ≤ b.value ∨ b.value = Double.nearest w.val := by
  rw [Double.le_value_iff, Double.value_eq_iff, ← signedUnits_toDouble, Extended.below,
    Double.less, decide_eq_false_iff_not, Int.not_lt]
  constructor
  · intro hle
    rcases Int.le_total (w.val * Double.scale) b.signedUnits with hbelow | habove
    · exact .inl hbelow
    · exact .inr (Int.le_antisymm (le_toDouble (n := .whole w) habove) hle)
  · rintro (hle | heq)
    · exact toDouble_le (n := .whole w) hle
    · exact Int.le_of_eq heq.symm

end Number

namespace Checker

/-- What a number that is accepted stands for. -/
def outputOf? (rules : NumberRules) (n : Number) : Option Json :=
  if rules.integer then (wholeOf? n).map fun whole => .number (.whole whole)
  else some (.number n)

theorem visitNumber_eq_iff {rules : NumberRules} {value out : Json} {w : Walk} :
    visitNumber rules value w = (some out, w) ↔ ∃ n, numberOf? value = some n ∧
      outputOf? rules n = some out ∧ numberViolations rules n.toDouble = [] := by
  have hreject : ∀ type, ¬ reject type value w = (some out, w) := by
    intro type hvisit
    exact reject_ne type value w (congrArg Prod.snd hvisit)
  have hconclude : ∀ (given : Json) violations,
      conclude given violations value w = (some out, w) ↔ given = out ∧ violations = [] := by
    intro given violations
    constructor
    · intro hvisit
      obtain ⟨hnone, hout⟩ := conclude_eq hvisit
      exact ⟨hout, hnone⟩
    · rintro ⟨rfl, rfl⟩
      rfl
  unfold visitNumber outputOf?
  cases hnumber : numberOf? value with
  | none => simp [hreject]
  | some n =>
      cases hinteger : rules.integer with
      | false => simp [hconclude]
      | true =>
          cases hwhole : wholeOf? n with
          | none => simp [hwhole, hreject]
          | some whole => simp [hwhole, hconclude]

theorem numberOf?_of_spells {text : String} {n : Int}
    (hspells : Numeral.Spells text.toList n) :
    numberOf? (.string text) = Numeral.read? text := by
  rw [numberOf?, hspells.trim]

/-- Two values are checked alike: both are rejected, or both accepted for the same. -/
def Alike (c : Checker) (a b : Json) : Prop := ∀ out, c.check a = .ok out ↔ c.check b = .ok out

section Numeric

variable {p : Presence} {rules : NumberRules} {c : Checker}
  (hcompile : Schema.compile (.numeric p rules) = .ok c)
include hcompile

theorem check_numeric_iff {value out : Json} (hnull : value.isNull = false) :
    c.check value = .ok out ↔ ∃ n, numberOf? value = some n ∧
      outputOf? rules n = some out ∧ numberViolations rules n.toDouble = [] := by
  obtain ⟨-, bare, hbare, hsame⟩ := Schema.compileAt_eq_ok hcompile
  obtain rfl := Except.ok.inj hbare
  rw [check_eq_ok_iff, hsame, visit_eq_visitKind hnull]
  exact visitNumber_eq_iff

theorem alike_of_numberOf?_eq {a b : Json} (ha : a.isNull = false) (hb : b.isNull = false)
    (hsame : numberOf? a = numberOf? b) : c.Alike a b := by
  intro out
  rw [check_numeric_iff hcompile ha, check_numeric_iff hcompile hb, hsame]

/-- Numbers with one double are checked alike if they stand for the same. -/
theorem alike_of_outputOf?_eq {a b : Json} (ha : a.isNull = false) (hb : b.isNull = false)
    {m n : Number} (hm : numberOf? a = some m) (hn : numberOf? b = some n)
    (houtput : outputOf? rules m = outputOf? rules n)
    (hunits : m.toDouble.signedUnits = n.toDouble.signedUnits) : c.Alike a b := by
  intro out
  rw [check_numeric_iff hcompile ha, check_numeric_iff hcompile hb, hm, hn]
  simp only [Option.some.injEq, exists_eq_left', houtput,
    Schema.numberViolations_congr rules hunits]

/-- A whole number is accepted as it is, if its double is within the bounds. -/
theorem check_whole_iff {w : Whole} {out : Json} :
    c.check (.number (.whole w)) = .ok out ↔ out = .number (.whole w) ∧
      numberViolations rules (Number.whole w).toDouble = [] := by
  rw [check_numeric_iff hcompile rfl]
  have houtput : outputOf? rules (.whole w) = some (.number (.whole w)) := by
    unfold outputOf?
    split <;> rfl
  simp only [numberOf?, Option.some.injEq, exists_eq_left', houtput]
  exact and_congr_left' eq_comm

/-- With finite bounds: if each bound is met exactly, or is the double nearest to
the number. -/
theorem check_whole_iff_of_finite
    (hminimum : ∀ bound, rules.minimum = some bound → ∃ a, bound = .finite a)
    (hmaximum : ∀ bound, rules.maximum = some bound → ∃ b, bound = .finite b)
    {w : Whole} {out : Json} :
    c.check (.number (.whole w)) = .ok out ↔ out = .number (.whole w) ∧
      (∀ a, rules.minimum = some (.finite a) →
        a.value ≤ w.val ∨ a.value = Double.nearest w.val) ∧
      ∀ b, rules.maximum = some (.finite b) →
        w.val ≤ b.value ∨ b.value = Double.nearest w.val := by
  simp only [check_whole_iff hcompile, numberViolations, List.append_eq_nil_iff,
    require_eq_nil_iff, ← Number.above_toDouble_eq_false_iff,
    ← Number.below_toDouble_eq_false_iff]
  refine and_congr_right' (and_congr ⟨fun h a ha => h _ ha, fun h bound hbound => ?_⟩
    ⟨fun h b hb => h _ hb, fun h bound hbound => ?_⟩)
  · obtain ⟨a, rfl⟩ := hminimum bound hbound
    exact h a hbound
  · obtain ⟨b, rfl⟩ := hmaximum bound hbound
    exact h b hbound

section Spelled

variable {text : String} {n : Int} (hspells : Numeral.Spells text.toList n)
include hspells

/-- A text that spells an integer in a signed word is checked like the integer. -/
theorem alike_of_spells_word {w : Whole} (hw : w.val = n) (hupper : n < 2 ^ 63) :
    c.Alike (.string text) (.number (.whole w)) := by
  apply alike_of_numberOf?_eq hcompile rfl rfl
  rw [numberOf?_of_spells hspells, hspells.read?_word hw hupper]
  rfl

/-- Beyond the signed words it is checked like the double of the integer. -/
theorem alike_of_spells_double {w : Whole} (hw : w.val = n) (hlower : 2 ^ 63 ≤ n) :
    c.Alike (.string text) (.number (.double (Number.whole w).toDouble)) := by
  subst hw
  have hupper := w.upper
  obtain ⟨d, hread, hround⟩ := hspells.exists_read? (.inr hlower) (by omega)
  have hdouble : (Number.whole w).toDouble = d := by
    rw [Number.toDouble, Double.ofInt, hround]
    rfl
  apply alike_of_numberOf?_eq hcompile rfl rfl
  rw [numberOf?_of_spells hspells, hread, hdouble]
  rfl

/-- If the schema asks for integers, it is checked like the integer nearest to it
that a double may be. -/
theorem alike_of_spells (hbeyond : n < -2 ^ 63 ∨ 2 ^ 63 ≤ n) (hsmall : n.natAbs ≤ 2 ^ 65)
    (hinteger : rules.integer) {v : Whole} (hv : v.val = Double.nearest n) :
    c.Alike (.string text) (.number (.whole v)) := by
  obtain ⟨d, hread, -⟩ := hspells.exists_read? hbeyond hsmall
  obtain ⟨e, hsame, hunits⟩ := hspells.nearest_of_read? hbeyond hread
  obtain rfl := Number.double.inj hsame
  have hint : d.toInt? = some v.val := by rw [Double.toInt?_eq_some_iff, hv, hunits]
  have hwhole : wholeOf? (.double d) = some v := by
    rw [wholeOf?, hint]
    exact dif_pos ⟨v.lower, v.upper⟩
  have hnumber : numberOf? (.string text) = some (.double d) :=
    (numberOf?_of_spells hspells).trans hread
  apply alike_of_outputOf?_eq hcompile rfl rfl hnumber rfl
  · simp only [outputOf?, hinteger, if_true, hwhole]
    rfl
  · exact (Number.signedUnits_toDouble_of_toInt? hint).symm

/-- It is rejected if that integer has no 64 bits. -/
theorem check_spelled_ne_ok (hbeyond : n < -2 ^ 63 ∨ 2 ^ 63 ≤ n) (hinteger : rules.integer)
    (hnearest : Double.nearest n < -2 ^ 63 ∨ 2 ^ 64 ≤ Double.nearest n) (out : Json) :
    c.check (.string text) ≠ .ok out := by
  intro hcheck
  obtain ⟨number, hnumber, houtput, -⟩ := (check_numeric_iff hcompile rfl).mp hcheck
  rw [numberOf?_of_spells hspells] at hnumber
  obtain ⟨d, rfl, hunits⟩ := hspells.nearest_of_read? hbeyond hnumber
  have hint : d.toInt? = some (Double.nearest n) := Double.toInt?_eq_some_iff.mpr hunits
  have hwhole : wholeOf? (.double d) = none := by
    rw [wholeOf?, hint]
    exact dif_neg (by omega)
  simp [outputOf?, hinteger, hwhole] at houtput

/-- An integer that does not fit 64 bits is accepted only if it is rounded to the
least one that does. -/
theorem check_spelled_beyond_iff (hbeyond : n < -2 ^ 63 ∨ 2 ^ 64 ≤ n) (hinteger : rules.integer)
    (out : Json) :
    c.check (.string text) = .ok out ↔ -2 ^ 63 - 1024 ≤ n ∧ n < 0 ∧
      c.check (.number (.whole ⟨-2 ^ 63, by decide, by decide⟩)) = .ok out := by
  have hword : n < -2 ^ 63 ∨ 2 ^ 63 ≤ n := by omega
  by_cases hclose : -2 ^ 63 - 1024 ≤ n ∧ n < 0
  · have hnearest := (Double.nearest_of_lt (n := n) (by omega)).2.mpr hclose.1
    have halike := alike_of_spells hcompile hspells hword (by omega) hinteger
      (v := ⟨-2 ^ 63, by decide, by decide⟩) hnearest.symm
    rw [halike out, ← and_assoc, and_iff_right hclose]
  · refine iff_of_false ?_ fun hout => hclose ⟨hout.1, hout.2.1⟩
    apply check_spelled_ne_ok hcompile hspells hword hinteger
    rcases hbeyond with hlow | hhigh
    · obtain ⟨hle, hiff⟩ := Double.nearest_of_lt hlow
      omega
    · exact .inr (Double.le_nearest_of_le hhigh)

end Spelled

end Numeric

end Checker

namespace Schema

variable {p : Presence} {rules : NumberRules} {c : Checker}

/-- Bounds are exact on integers that are doubles, so on all up to `2^53`.  Any other
integer passes also a bound that it violates, if the bound is the double nearest
to it; except for that, an integer is accepted exactly within its bounds. -/
theorem integer_bounds (hcompile : compile (.numeric p rules) = .ok c)
    (hminimum : ∀ bound, rules.minimum = some bound → ∃ a, bound = .finite a)
    (hmaximum : ∀ bound, rules.maximum = some bound → ∃ b, bound = .finite b) (w : Whole) :
    let n : ℚ := w.val
    let nearest : ℚ := Double.nearest w.val
    ((∃ out, c.check (.number (.whole w)) = .ok out) ↔
      (∀ a, rules.minimum = some (.finite a) → a.value ≤ n ∨ a.value = nearest) ∧
      ∀ b, rules.maximum = some (.finite b) → n ≤ b.value ∨ b.value = nearest) ∧
    (nearest = n → ((∃ out, c.check (.number (.whole w)) = .ok out) ↔
      (∀ a, rules.minimum = some (.finite a) → a.value ≤ n) ∧
      ∀ b, rules.maximum = some (.finite b) → n ≤ b.value)) ∧
    (w.val.natAbs ≤ 2 ^ 53 → nearest = n) := by
  intro n nearest
  have haccepted : (∃ out, c.check (.number (.whole w)) = .ok out) ↔
      (∀ a, rules.minimum = some (.finite a) → a.value ≤ n ∨ a.value = nearest) ∧
      ∀ b, rules.maximum = some (.finite b) → n ≤ b.value ∨ b.value = nearest := by
    simp only [Checker.check_whole_iff_of_finite hcompile hminimum hmaximum, exists_eq_left,
      n, nearest]
  refine ⟨haccepted, fun hexact => ?_, fun hsmall => ?_⟩
  · have hlower : ∀ x : ℚ, x ≤ n ∨ x = n ↔ x ≤ n := fun x => or_iff_left_of_imp le_of_eq
    have hupper : ∀ x : ℚ, n ≤ x ∨ x = n ↔ n ≤ x := fun x => or_iff_left_of_imp ge_of_eq
    rw [haccepted, hexact]
    simp only [hlower, hupper]
  · exact congrArg Int.cast (Double.nearest_of_natAbs_le hsmall)

/-- The largest integer that passes a maximum may lie above it. -/
theorem integer_bounds_above :
    let most : Double := (Number.whole ⟨9007199254740996, by decide, by decide⟩).toDouble
    let n : Whole := ⟨9007199254740997, by decide, by decide⟩
    ∃ c, (integer.maximum (.finite most)).compile = .ok c ∧ most.value = 9007199254740996 ∧
      ∃ out, c.check (.number (.whole n)) = .ok out := by
  intro most n
  obtain ⟨c, hcompile⟩ : ∃ c, (integer.maximum (.finite most)).compile = .ok c := ⟨_, rfl⟩
  have hvalue : most.value = (9007199254740996 : Int) :=
    Number.value_toDouble _
  have hnearest : Double.nearest n.val = 9007199254740996 := by decide
  refine ⟨c, hcompile, hvalue, ?_⟩
  refine ((integer_bounds hcompile (by simp) (by simp) n).1).mpr ⟨by simp, ?_⟩
  intro b hb
  obtain rfl : most = b := Extended.finite.inj (Option.some.inj hb)
  exact .inr (by rw [hvalue, hnearest])

/-- A minimum of `2^53 + 4` is passed by `2^53 + 3`. -/
theorem bound_passed :
    let least : Double := (Number.whole ⟨9007199254740996, by decide, by decide⟩).toDouble
    let n : Whole := ⟨9007199254740995, by decide, by decide⟩
    ∃ c, (integer.minimum (.finite least)).compile = .ok c ∧
      c.check (.number (.whole n)) = .ok (.number (.whole n)) ∧ ¬ least.value ≤ n.val := by
  intro least n
  obtain ⟨c, hcompile⟩ : ∃ c, (integer.minimum (.finite least)).compile = .ok c := ⟨_, rfl⟩
  have hvalue : least.value = (9007199254740996 : Int) :=
    Number.value_toDouble _
  have hnearest : Double.nearest n.val = 9007199254740996 := by decide
  refine ⟨c, hcompile, ?_, ?_⟩
  · refine (Checker.check_whole_iff_of_finite hcompile (by simp) (by simp)).mpr
      ⟨rfl, ?_, by simp⟩
    intro a ha
    obtain rfl : least = a := Extended.finite.inj (Option.some.inj ha)
    exact .inr (by rw [hvalue, hnearest])
  · rw [hvalue, Int.cast_le]
    decide

section Spelled

variable (hcompile : compile (.numeric p rules) = .ok c) {text : String} {n : Int}
  (hspells : Numeral.Spells text.toList n)
include hcompile hspells

/-- What is made of a text that spells an integer.  An integer that fits a signed
word is checked like the number; so is the text that holds the decimal digits of
one.  From `2^63` up to `2^64` the text is checked like the nearest multiple of
2048 if the schema asks for integers, and otherwise like the double, which is
given as it is.  Of the integers that do not fit 64 bits a schema that asks for
integers rejects all but those that are less than 1025 below `-2^63`, which are
checked like `-2^63`. -/
theorem spelled_integers :
    Numeral.Spells (toString n).toList n ∧
    (∀ w : Whole, w.val = n → n < 2 ^ 63 →
      c.Alike (.string text) (.number (.whole w)) ∧
      ∀ out, c.check (.string text) = .ok out → out = .number (.whole w)) ∧
    (∀ w : Whole, w.val = n → 2 ^ 63 ≤ n →
      2048 ∣ Double.nearest n ∧ (Double.nearest n - n).natAbs ≤ 1024 ∧
      (rules.integer →
        (∀ v : Whole, v.val = Double.nearest n →
          c.Alike (.string text) (.number (.whole v))) ∧
        (Double.nearest n = 2 ^ 64 → ∀ out, c.check (.string text) ≠ .ok out)) ∧
      (rules.integer = false →
        c.Alike (.string text) (.number (.double (Number.whole w).toDouble)))) ∧
    (n < -2 ^ 63 ∨ 2 ^ 64 ≤ n → rules.integer →
      ∀ out, c.check (.string text) = .ok out ↔ -2 ^ 63 - 1024 ≤ n ∧ n < 0 ∧
        c.check (.number (.whole ⟨-2 ^ 63, by decide, by decide⟩)) = .ok out) := by
  refine ⟨Numeral.spells_toString n, fun w hw hupper => ?_, fun w hw hlower => ?_,
    Checker.check_spelled_beyond_iff hcompile hspells⟩
  · have halike := Checker.alike_of_spells_word hcompile hspells hw hupper
    refine ⟨halike, fun out hout => ?_⟩
    exact ((Checker.check_whole_iff hcompile).mp ((halike out).mp hout)).1
  · have hupper := w.upper
    obtain ⟨hdvd, hclose⟩ := Double.nearest_of_large hlower (by omega)
    refine ⟨hdvd, hclose, fun hinteger => ⟨fun v hv => ?_, fun hlimit => ?_⟩, fun _ => ?_⟩
    · exact Checker.alike_of_spells hcompile hspells (.inr hlower) (by omega) hinteger hv
    · exact Checker.check_spelled_ne_ok hcompile hspells (.inr hlower) hinteger (by omega)
    · exact Checker.alike_of_spells_double hcompile hspells hw hlower

end Spelled

/-- The largest integer of 64 bits is accepted as a number and rejected as a text. -/
theorem spelled_integers_largest :
    let n : Whole := ⟨18446744073709551615, by decide, by decide⟩
    ∃ c, integer.compile = .ok c ∧ c.check (.number (.whole n)) = .ok (.number (.whole n)) ∧
      ∀ out, c.check (.string "18446744073709551615") ≠ .ok out := by
  intro n
  obtain ⟨c, hcompile⟩ : ∃ c, integer.compile = .ok c := ⟨_, rfl⟩
  have hspells : Numeral.Spells "18446744073709551615".toList n.val :=
    Numeral.spells_toString 18446744073709551615
  have hnearest : Double.nearest n.val = 2 ^ 64 := by decide
  obtain ⟨-, -, hlarge, -⟩ := spelled_integers hcompile hspells
  obtain ⟨-, -, hinteger, -⟩ := hlarge n rfl (by decide)
  refine ⟨c, hcompile, ?_, (hinteger rfl).2 hnearest⟩
  exact (Checker.check_whole_iff hcompile).mpr ⟨rfl, rfl⟩

/-- A text of 19 digits is checked like the double next to the integer that it
spells, on either side of the range of 64 bits. -/
theorem spelled_altered :
    ∃ c, integer.compile = .ok c ∧
      c.check (.string "9223372036854775809") =
        .ok (.number (.whole ⟨9223372036854775808, by decide, by decide⟩)) ∧
      c.check (.number (.whole ⟨9223372036854775809, by decide, by decide⟩)) =
        .ok (.number (.whole ⟨9223372036854775809, by decide, by decide⟩)) ∧
      c.check (.string "-9223372036854775809") =
        .ok (.number (.whole ⟨-9223372036854775808, by decide, by decide⟩)) := by
  obtain ⟨c, hcompile⟩ : ∃ c, integer.compile = .ok c := ⟨_, rfl⟩
  have habove : Numeral.Spells "9223372036854775809".toList 9223372036854775809 :=
    Numeral.spells_toString 9223372036854775809
  have hbelow : Numeral.Spells "-9223372036854775809".toList (-9223372036854775809) :=
    Numeral.spells_toString (Int.negSucc 9223372036854775808)
  have hwhole : ∀ w : Whole, c.check (.number (.whole w)) = .ok (.number (.whole w)) :=
    fun w => (Checker.check_whole_iff hcompile).mpr ⟨rfl, rfl⟩
  refine ⟨c, hcompile, ?_, hwhole _, ?_⟩
  · exact (Checker.alike_of_spells hcompile habove (.inr (by decide)) (by decide) rfl
      (by decide) _).mpr (hwhole _)
  · exact (Checker.alike_of_spells hcompile hbelow (.inl (by decide)) (by decide) rfl
      (by decide) _).mpr (hwhole _)

end Schema

end Trellis
