import Mathlib.Data.Nat.Bitwise
import Trellis.Regex.Basic
/-!
What an expression matches, said without running it: `Regex.Matches` relates the places of a text where a match may
begin and end.  A run follows this relation (`follows_run`).  The one step that is not read off the definitions is an
unbounded repetition, which the run cuts off: steps that go nowhere can be left out, and of the others there are no
more than the text has characters.
-/

namespace Trellis

namespace Regex

/-- A number of steps along a relation, one after the other. -/
def Steps (R : Nat → Nat → Prop) : Nat → Nat → Nat → Prop
  | 0, i, j => i = j
  | n + 1, i, j => ∃ k, R i k ∧ Steps R n k j

/-- The character before a place, given the one before the text. -/
def before? (first : Option Char) (text : List Char) : Nat → Option Char
  | 0 => first
  | i + 1 => text[i]?

/-- The expression matches the text between two places.  Anchors see the characters of the
whole text.  A repetition whose upper bound is below the lower one is taken as often as the
lower one says. -/
def Matches (text : List Char) : Regex → Nat → Nat → Prop
  | empty, i, j => i = j
  | one set, i, j => j = i + 1 ∧ ∃ c, text[i]? = some c ∧ set.contains c
  | anchor a, i, j => i = j ∧ i ≤ text.length ∧ a.holds (before? none text i) text[i]?
  | seq first second, i, j => ∃ k, Matches text first i k ∧ Matches text second k j
  | alt first second, i, j => Matches text first i j ∨ Matches text second i j
  | times inner least most, i, j =>
    ∃ n, least ≤ n ∧ (∀ m, most = some m → n ≤ max least m) ∧ Steps (Matches text inner) n i j

/-- There is a match from the start of the text to its end. -/
def MatchesAll (r : Regex) (text : String) : Prop :=
  r.Matches text.toList 0 text.toList.length

namespace Steps

variable {R : Nat → Nat → Prop}

theorem add_iff {m n i j : Nat} :
    Steps R (m + n) i j ↔ ∃ k, Steps R m i k ∧ Steps R n k j := by
  induction m generalizing i with
  | zero => simp [Steps]
  | succ m ih =>
      rw [Nat.succ_add]
      constructor
      · rintro ⟨k, hstep, hrest⟩
        obtain ⟨l, hfirst, hsecond⟩ := ih.mp hrest
        exact ⟨l, ⟨k, hstep, hfirst⟩, hsecond⟩
      · rintro ⟨l, ⟨k, hstep, hfirst⟩, hsecond⟩
        exact ⟨k, hstep, ih.mpr ⟨l, hfirst, hsecond⟩⟩

/-- Steps that go forward and not beyond a place do so together. -/
theorem bounds {limit : Nat} (hstep : ∀ i j, R i j → i ≤ j ∧ j ≤ max i limit) {n i j : Nat}
    (hsteps : Steps R n i j) : i ≤ j ∧ j ≤ max i limit := by
  induction n generalizing i with
  | zero =>
      obtain rfl : i = j := hsteps
      omega
  | succ n ih =>
      obtain ⟨k, hfirst, hrest⟩ := hsteps
      have hik := hstep i k hfirst
      have hkj := ih hrest
      omega

/-- Steps that only go forward can be cut down to as many as they advance. -/
theorem exists_le (hforward : ∀ i j, R i j → i ≤ j) {n i j : Nat} (hsteps : Steps R n i j) :
    ∃ m, m ≤ j - i ∧ i ≤ j ∧ Steps R m i j := by
  induction n generalizing i with
  | zero =>
      obtain rfl : i = j := hsteps
      exact ⟨0, Nat.zero_le _, Nat.le_refl _, rfl⟩
  | succ n ih =>
      obtain ⟨k, hfirst, hrest⟩ := hsteps
      obtain ⟨m, hm, hkj, hshort⟩ := ih hrest
      -- a step that stays where it is is left out
      rcases Nat.eq_or_lt_of_le (hforward i k hfirst) with rfl | hik
      · exact ⟨m, hm, hkj, hshort⟩
      · exact ⟨m + 1, by omega, by omega, k, hfirst, hshort⟩

end Steps

/-- A step on sets of places goes along a relation. -/
def Follows (step : Places → Places) (R : Nat → Nat → Prop) : Prop :=
  ∀ starts j, (step starts).testBit j ↔ ∃ i, starts.testBit i ∧ R i j

end Regex

namespace Located

open Regex (Steps Follows)

variable (step : Places → Places)

theorem power_succ (n : Nat) (starts : Places) :
    power step (n + 1) starts = power step n (step starts) := by
  have hfixed : ∀ n, step starts = starts → power step n starts = starts := by
    intro n hsame
    cases n with
    | zero => rfl
    | succ n => simp [power, hsame]
  rw [power]
  split
  · next hsame => rw [hsame, hfixed n hsame]
  · rfl

theorem within_succ (n : Nat) (starts : Places) :
    within step (n + 1) starts = within step n (starts ||| step starts) := by
  have hfixed : ∀ n, starts ||| step starts = starts → within step n starts = starts := by
    intro n hsame
    cases n with
    | zero => rfl
    | succ n => simp [within, hsame]
  rw [within]
  split
  · next hsame => rw [hsame, hfixed n hsame]
  · rfl

variable {step} {R : Nat → Nat → Prop}

theorem follows_power (h : Follows step R) (n : Nat) : Follows (power step n) (Steps R n) := by
  induction n with
  | zero =>
      intro starts j
      simp [power, Steps]
  | succ n ih =>
      intro starts j
      rw [power_succ, ih]
      simp only [h starts, Steps]
      constructor
      · rintro ⟨k, ⟨i, hi, hfirst⟩, hrest⟩
        exact ⟨i, hi, k, hfirst, hrest⟩
      · rintro ⟨i, hi, k, hfirst, hrest⟩
        exact ⟨k, ⟨i, hi, hfirst⟩, hrest⟩

theorem follows_within (h : Follows step R) (n : Nat) :
    Follows (within step n) fun i j => ∃ m, m ≤ n ∧ Steps R m i j := by
  induction n with
  | zero =>
      intro starts j
      simp [within, Steps]
  | succ n ih =>
      intro starts j
      rw [within_succ, ih]
      simp only [Nat.testBit_or, Bool.or_eq_true, h starts]
      constructor
      · rintro ⟨k, hk | ⟨i, hi, hfirst⟩, m, hm, hrest⟩
        · exact ⟨k, hk, m, by omega, hrest⟩
        · exact ⟨i, hi, m + 1, by omega, k, hfirst, hrest⟩
      · rintro ⟨i, hi, m, hm, hsteps⟩
        cases m with
        | zero => exact ⟨i, .inl hi, 0, Nat.zero_le _, hsteps⟩
        | succ m =>
            obtain ⟨k, hfirst, hrest⟩ := hsteps
            exact ⟨k, .inr ⟨i, hi, hfirst⟩, m, by omega, hrest⟩

end Located

namespace Regex

theorem testBit_ofFlags (flags : List Bool) (i : Nat) :
    (Places.ofFlags flags).testBit i = flags[i]?.getD false := by
  induction flags generalizing i with
  | nil => simp [Places.ofFlags]
  | cons flag rest ih =>
      have hbit : Places.ofFlags (flag :: rest) = Nat.bit flag (Places.ofFlags rest) := by
        rw [Places.ofFlags, Nat.bit_val]
      rw [hbit]
      cases i with
      | zero => simp
      | succ i => rw [Nat.testBit_bit_succ, ih, List.getElem?_cons_succ]

theorem testBit_nextMembers (set : CharSet) (text : List Char) (i : Nat) :
    (nextMembers set text).testBit i ↔ ∃ c, text[i]? = some c ∧ set.contains c := by
  rw [nextMembers, testBit_ofFlags, List.getElem?_map]
  cases text[i]? <;> simp

theorem anchorFlags_getElem? (a : Anchor) (first : Option Char) (text : List Char) (i : Nat) :
    (anchorFlags a first text)[i]?.getD false ↔
      i ≤ text.length ∧ a.holds (before? first text i) text[i]? := by
  induction text generalizing first i with
  | nil => cases i <;> simp [anchorFlags, before?]
  | cons c rest ih =>
      cases i with
      | zero => simp [anchorFlags, before?]
      | succ i =>
          rw [anchorFlags, List.getElem?_cons_succ, ih]
          cases i <;> simp [before?]

section

variable (text : List Char)

/-- Matches go forward, and not beyond the end of the text. -/
theorem Matches.bounds {r : Regex} {i j : Nat} (h : Matches text r i j) :
    i ≤ j ∧ j ≤ max i text.length := by
  induction r generalizing i j with
  | empty =>
      obtain rfl : i = j := h
      omega
  | one set =>
      obtain ⟨rfl, c, hc, -⟩ := h
      have hlt := (List.getElem?_eq_some_iff.mp hc).1
      omega
  | anchor a =>
      obtain ⟨rfl, -, -⟩ := h
      omega
  | seq first second ihFirst ihSecond =>
      obtain ⟨k, hfirst, hsecond⟩ := h
      have hik := ihFirst hfirst
      have hkj := ihSecond hsecond
      omega
  | alt first second ihFirst ihSecond =>
      rcases h with hfirst | hsecond
      · exact ihFirst hfirst
      · exact ihSecond hsecond
  | times inner least most ih =>
      obtain ⟨n, -, -, hsteps⟩ := h
      exact hsteps.bounds fun i j => ih

/-- How often a run repeats an expression after the least number of times. -/
def further (least : Nat) : Option Nat → Nat
  | none => text.length + 1
  | some most => most - least

/-- A repetition takes the lower number of matches, and then no more than the run goes
on for. -/
theorem matches_times_iff (inner : Regex) (least : Nat) (most : Option Nat) (i j : Nat) :
    Matches text (.times inner least most) i j ↔
      ∃ k, Steps (Matches text inner) least i k ∧
        ∃ m, m ≤ further text least most ∧ Steps (Matches text inner) m k j := by
  constructor
  · rintro ⟨n, hleast, hmost, hsteps⟩
    obtain ⟨m, rfl⟩ := Nat.exists_eq_add_of_le hleast
    obtain ⟨k, hfirst, hrest⟩ := Steps.add_iff.mp hsteps
    refine ⟨k, hfirst, ?_⟩
    cases most with
    | some most =>
        have hm := hmost most rfl
        exact ⟨m, by rw [further]; omega, hrest⟩
    | none =>
        obtain ⟨short, hshort, hkj, hrest⟩ := hrest.exists_le fun i j h => h.bounds.1
        have hbound := hrest.bounds fun i j h => h.bounds
        exact ⟨short, by rw [further]; omega, hrest⟩
  · rintro ⟨k, hfirst, m, hm, hrest⟩
    refine ⟨least + m, Nat.le_add_right _ _, ?_, Steps.add_iff.mpr ⟨k, hfirst, hrest⟩⟩
    rintro most rfl
    rw [further] at hm
    omega

theorem run_seq (first second : Regex) (starts : Places) :
    run text (.seq first second) starts = run text second (run text first starts) := rfl

theorem run_alt (first second : Regex) (starts : Places) :
    run text (.alt first second) starts = run text first starts ||| run text second starts := rfl

theorem run_times (inner : Regex) (least : Nat) (most : Option Nat) (starts : Places) :
    run text (.times inner least most) starts =
      Located.within (run text inner) (further text least most)
        (Located.power (run text inner) least starts) := by
  cases most <;> rfl

/-- The run gives the ends of the matches that begin at the given places. -/
theorem follows_run (r : Regex) : Follows (run text r) (Matches text r) := by
  induction r with
  | empty =>
      intro starts j
      simp [run, locate, Located.run, Matches]
  | one set =>
      intro starts j
      simp only [run, locate, Located.run, Matches, Nat.testBit_shiftLeft, Nat.testBit_and,
        Bool.and_eq_true, decide_eq_true_eq, testBit_nextMembers]
      constructor
      · rintro ⟨hj, hstart, hnext⟩
        exact ⟨j - 1, hstart, by omega, hnext⟩
      · rintro ⟨i, hstart, rfl, hnext⟩
        exact ⟨by omega, hstart, hnext⟩
  | anchor a =>
      intro starts j
      simp only [run, locate, Located.run, Matches, Nat.testBit_and, Bool.and_eq_true,
        testBit_ofFlags, anchorFlags_getElem?]
      constructor
      · rintro ⟨hstart, hholds⟩
        exact ⟨j, hstart, rfl, hholds⟩
      · rintro ⟨i, hstart, rfl, hholds⟩
        exact ⟨hstart, hholds⟩
  | seq first second ihFirst ihSecond =>
      intro starts j
      rw [run_seq, ihSecond]
      simp only [ihFirst starts, Matches]
      constructor
      · rintro ⟨k, ⟨i, hstart, hfirst⟩, hsecond⟩
        exact ⟨i, hstart, k, hfirst, hsecond⟩
      · rintro ⟨i, hstart, k, hfirst, hsecond⟩
        exact ⟨k, ⟨i, hstart, hfirst⟩, hsecond⟩
  | alt first second ihFirst ihSecond =>
      intro starts j
      rw [run_alt, Nat.testBit_or, Bool.or_eq_true, ihFirst, ihSecond]
      simp only [Matches, and_or_left, exists_or]
  | times inner least most ih =>
      intro starts j
      rw [run_times, Located.follows_within ih]
      simp only [Located.follows_power ih least starts, matches_times_iff]
      constructor
      · rintro ⟨k, ⟨i, hstart, hfirst⟩, hrest⟩
        exact ⟨i, hstart, k, hfirst, hrest⟩
      · rintro ⟨i, hstart, k, hfirst, hrest⟩
        exact ⟨k, ⟨i, hstart, hfirst⟩, hrest⟩

end

/-- The run decides whether an expression matches a text as a whole. -/
theorem matchesAll_iff (r : Regex) (text : String) : r.matchesAll text ↔ r.MatchesAll text := by
  rw [matchesAll, follows_run, MatchesAll]
  simp [Nat.testBit_one_eq_true_iff_self_eq_zero]

instance (r : Regex) (text : String) : Decidable (r.MatchesAll text) :=
  decidable_of_iff _ (matchesAll_iff r text)

/-- It decides whether there is a match somewhere. -/
theorem occursIn_iff (r : Regex) (text : String) :
    r.occursIn text ↔
      ∃ i j, i ≤ text.toList.length ∧ r.Matches text.toList i j := by
  have hall : ∀ i, (Places.all text.toList).testBit i ↔ i ≤ text.toList.length := by
    intro i
    rw [Places.all, Nat.one_shiftLeft, Nat.testBit_two_pow_sub_one, decide_eq_true_eq]
    omega
  rw [occursIn, bne_iff_ne]
  constructor
  · intro hsome
    obtain ⟨j, hj, -⟩ := Nat.exists_most_significant_bit hsome
    obtain ⟨i, hi, hmatch⟩ := (follows_run _ _ _ _).mp hj
    exact ⟨i, j, (hall i).mp hi, hmatch⟩
  · rintro ⟨i, j, hi, hmatch⟩ hnone
    have hj := (follows_run _ _ _ _).mpr ⟨i, (hall i).mpr hi, hmatch⟩
    simp [hnone] at hj

end Regex

end Trellis
