import Mathlib.Computability.Language
import Trellis.Proofs.Regex.Anchored
/-!
The words of an expression.  An expression without anchors matches a piece of a text for what the piece is, whatever
stands around it, so what it matches is a language; and an expression of such parts between the two ends of a text
occurs in exactly the texts that the product of their languages holds.
-/

namespace Trellis.Regex

/-- No anchor stands in the expression. -/
def anchorFree : Regex → Bool
  | empty | one _ => true
  | anchor _ => false
  | seq first second | alt first second => first.anchorFree && second.anchorFree
  | times inner _ _ => inner.anchorFree

/-- The texts that an expression without anchors matches. -/
def words : Regex → Language Char
  | empty => 1
  | one set => {w | ∃ c, set.contains c ∧ w = [c]}
  | anchor _ => 0
  | seq first second => first.words * second.words
  | alt first second => first.words + second.words
  | times inner least most =>
    {w | ∃ n, least ≤ n ∧ (∀ m, most = some m → n ≤ max least m) ∧ w ∈ inner.words ^ n}

/-- From each place of a text a relation leads over the words of a language. -/
def Takes (text : List Char) (R : Nat → Nat → Prop) (L : Language Char) : Prop :=
  ∀ before rest j, text = before ++ rest →
    (R before.length j ↔
      ∃ w after, rest = w ++ after ∧ j = (before ++ w).length ∧ w ∈ L)

section

variable {text : List Char} {R S : Nat → Nat → Prop} {L M : Language Char}

theorem takes_eq : Takes text (fun i j => i = j) 1 := by
  intro before rest j _
  constructor
  · rintro rfl
    exact ⟨[], rest, rfl, by simp, rfl⟩
  · rintro ⟨w, after, -, rfl, rfl⟩
    simp

theorem Takes.mul (hR : Takes text R L) (hS : Takes text S M) :
    Takes text (fun i j => ∃ k, R i k ∧ S k j) (L * M) := by
  intro before rest j htext
  constructor
  · rintro ⟨k, hfirst, hsecond⟩
    obtain ⟨w, after, rfl, rfl, hw⟩ := (hR before rest k htext).mp hfirst
    obtain ⟨v, last, rfl, rfl, hv⟩ :=
      (hS (before ++ w) after j (by rw [htext, List.append_assoc])).mp hsecond
    exact ⟨w ++ v, last, by rw [List.append_assoc], by rw [List.append_assoc],
      Language.append_mem_mul hw hv⟩
  · rintro ⟨_, last, rfl, rfl, hproduct⟩
    obtain ⟨w, hw, v, hv, rfl⟩ := Language.mem_mul.mp hproduct
    refine ⟨(before ++ w).length, ?_, ?_⟩
    · exact (hR before _ _ htext).mpr ⟨w, v ++ last, by rw [List.append_assoc], rfl, hw⟩
    · refine (hS (before ++ w) (v ++ last) _ ?_).mpr ⟨v, last, rfl, ?_, hv⟩
      · rw [htext, List.append_assoc, List.append_assoc]
      · rw [List.append_assoc]

theorem Takes.add (hR : Takes text R L) (hS : Takes text S M) :
    Takes text (fun i j => R i j ∨ S i j) (L + M) := by
  intro before rest j htext
  simp only [hR before rest j htext, hS before rest j htext, Language.mem_add, and_or_left,
    exists_or]

theorem Takes.steps (hR : Takes text R L) (n : Nat) : Takes text (Steps R n) (L ^ n) := by
  induction n with
  | zero => exact takes_eq
  | succ n ih =>
      rw [pow_succ']
      exact hR.mul ih

end

/-- Matches of an expression without anchors lead over its words. -/
theorem takes_words (text : List Char) {r : Regex} (hfree : r.anchorFree) :
    Takes text (Matches text r) r.words := by
  induction r with
  | empty => exact takes_eq
  | one set =>
      rintro before rest j rfl
      have hnext : (before ++ rest)[before.length]? = rest.head? := by
        rw [List.getElem?_append_right (Nat.le_refl _), Nat.sub_self, List.head?_eq_getElem?]
      simp only [Matches, hnext, List.head?_eq_some_iff]
      constructor
      · rintro ⟨rfl, c, ⟨after, rfl⟩, hc⟩
        exact ⟨[c], after, rfl, by simp, c, hc, rfl⟩
      · rintro ⟨_, after, rfl, rfl, c, hc, rfl⟩
        exact ⟨by simp, c, ⟨after, rfl⟩, hc⟩
  | anchor a => contradiction
  | seq first second ihFirst ihSecond =>
      obtain ⟨hfirst, hsecond⟩ := Bool.and_eq_true_iff.mp hfree
      exact (ihFirst hfirst).mul (ihSecond hsecond)
  | alt first second ihFirst ihSecond =>
      obtain ⟨hfirst, hsecond⟩ := Bool.and_eq_true_iff.mp hfree
      exact (ihFirst hfirst).add (ihSecond hsecond)
  | times inner least most ih =>
      intro before rest j htext
      simp only [Matches, (ih hfree).steps _ before rest j htext]
      constructor
      · rintro ⟨n, hleast, hmost, w, after, hrest, hj, hw⟩
        exact ⟨w, after, hrest, hj, n, hleast, hmost, hw⟩
      · rintro ⟨w, after, hrest, hj, n, hleast, hmost, hw⟩
        exact ⟨n, hleast, hmost, w, after, hrest, hj, hw⟩

/-- Parts in a row before the end of the text match all of the rest. -/
theorem matches_seqs_append_textEnd {parts : List Regex} (hfree : ∀ r ∈ parts, r.anchorFree)
    (before rest : List Char) (j : Nat) :
    Matches (before ++ rest) (seqs (parts ++ [anchor .textEnd])) before.length j ↔
      j = (before ++ rest).length ∧ rest ∈ (parts.map words).prod := by
  induction parts generalizing before rest with
  | nil =>
      rw [List.nil_append, seqs, matches_textEnd (by simp), List.map_nil, List.prod_nil,
        Language.mem_one]
      constructor
      · rintro ⟨rfl, hlast⟩
        exact ⟨hlast, by simpa using hlast⟩
      · rintro ⟨rfl, rfl⟩
        simp
  | cons r parts ih =>
      have hparts := fun s hs => hfree s (List.mem_cons_of_mem r hs)
      have hfirst := takes_words (before ++ rest) (hfree r List.mem_cons_self) before rest
      rw [List.cons_append, matches_seqs_cons, List.map_cons, List.prod_cons, Language.mem_mul]
      constructor
      · rintro ⟨k, hhere, hlater⟩
        obtain ⟨w, after, rfl, rfl, hw⟩ := (hfirst k rfl).mp hhere
        rw [← List.append_assoc] at hlater ⊢
        obtain ⟨hj, hafter⟩ := (ih hparts (before ++ w) after).mp hlater
        exact ⟨hj, w, hw, after, hafter, rfl⟩
      · rintro ⟨hj, w, hw, after, hafter, rfl⟩
        refine ⟨_, (hfirst _ rfl).mpr ⟨w, after, rfl, rfl, hw⟩, ?_⟩
        rw [← List.append_assoc] at hj ⊢
        exact (ih hparts (before ++ w) after).mpr ⟨hj, hafter⟩

/-- Parts in a row between the ends of a text occur in their words, and nowhere else. -/
theorem occursIn_between {parts : List Regex} (hfree : parts.all anchorFree) (text : String) :
    (seqs (anchor .textStart :: (parts ++ [anchor .textEnd]))).occursIn text ↔
      text.toList ∈ (parts.map words).prod := by
  have hwhole := matches_seqs_append_textEnd (List.all_eq_true.mp hfree) [] text.toList
  rw [occursIn_iff]
  simp only [matches_seqs_cons]
  constructor
  · rintro ⟨i, j, hi, k, hstart, hrest⟩
    obtain ⟨rfl, rfl⟩ := (matches_textStart hi).mp hstart
    exact ((hwhole j).mp hrest).2
  · intro hmem
    exact ⟨0, _, Nat.zero_le _, 0, (matches_textStart (Nat.zero_le _)).mpr ⟨rfl, rfl⟩,
      (hwhole _).mpr ⟨rfl, hmem⟩⟩

/-! The words of expressions that are put together. -/

theorem contains_one {c d : Char} : (CharSet.one c).contains d ↔ d = c := by
  rw [CharSet.contains, CharSet.one, CharSet.mem, Bool.and_eq_true, decide_eq_true_eq,
    decide_eq_true_eq, ← Char.toNat_inj]
  omega

theorem mem_words_char {c : Char} {w : List Char} : w ∈ (char c).words ↔ w = [c] := by
  constructor
  · rintro ⟨d, hd, rfl⟩
    rw [contains_one.mp hd]
  · rintro rfl
    exact ⟨c, contains_one.mpr rfl, rfl⟩

theorem words_seqs (parts : List Regex) : (seqs parts).words = (parts.map words).prod := by
  induction parts with
  | nil => rfl
  | cons r rest ih =>
      cases rest with
      | nil => simp [seqs]
      | cons s rest => exact congrArg (r.words * ·) ih

/-- A text is the one word of its characters. -/
theorem mem_words_chars {text : String} {w : List Char} :
    w ∈ (chars text).words ↔ w = text.toList := by
  rw [chars, words_seqs]
  induction text.toList generalizing w with
  | nil => rfl
  | cons c rest ih =>
      simp only [List.map_cons, List.prod_cons, Language.mem_mul, mem_words_char, ih]
      simp [eq_comm]

theorem mem_words_optional {r : Regex} {w : List Char} :
    w ∈ (optional r).words ↔ w = [] ∨ w ∈ r.words := by
  constructor
  · rintro ⟨n, -, hmost, hw⟩
    rcases Nat.le_one_iff_eq_zero_or_eq_one.mp (hmost 1 rfl) with rfl | rfl
    · exact Or.inl hw
    · rw [pow_one] at hw
      exact Or.inr hw
  · rintro (rfl | hw)
    · exact ⟨0, Nat.le_refl 0, by simp, rfl⟩
    · exact ⟨1, Nat.zero_le 1, by simp, by rwa [pow_one]⟩

theorem words_exactly (n : Nat) (r : Regex) : (exactly n r).words = r.words ^ n := by
  ext w
  constructor
  · rintro ⟨k, hleast, hmost, hw⟩
    have hk := hmost n rfl
    rw [max_self] at hk
    rwa [Nat.le_antisymm hk hleast] at hw
  · intro hw
    exact ⟨n, Nat.le_refl n, by simp, hw⟩

/-- Repetitions of one character at a time are told by their length. -/
theorem mem_words_one_pow {set : CharSet} {n : Nat} {w : List Char} :
    w ∈ (one set).words ^ n ↔ w.length = n ∧ ∀ c ∈ w, set.contains c := by
  induction n generalizing w with
  | zero =>
      rw [pow_zero, Language.mem_one, List.length_eq_zero_iff]
      simp +contextual
  | succ n ih =>
      rw [pow_succ', Language.mem_mul]
      constructor
      · rintro ⟨_, ⟨c, hc, rfl⟩, v, hv, rfl⟩
        obtain ⟨rfl, hall⟩ := ih.mp hv
        exact ⟨rfl, List.forall_mem_cons.mpr ⟨hc, hall⟩⟩
      · rintro ⟨hlength, hall⟩
        obtain ⟨c, v, rfl⟩ := List.exists_cons_of_length_eq_add_one hlength
        refine ⟨[c], ⟨c, hall c List.mem_cons_self, rfl⟩, v, ih.mpr ⟨?_, ?_⟩, rfl⟩
        · simpa using hlength
        · exact fun d hd => hall d (List.mem_cons_of_mem c hd)

theorem mem_words_times_one {set : CharSet} {least : Nat} {most : Option Nat} {w : List Char} :
    w ∈ (times (one set) least most).words ↔
      least ≤ w.length ∧ (∀ m, most = some m → w.length ≤ max least m) ∧
        ∀ c ∈ w, set.contains c := by
  simp only [words]
  constructor
  · rintro ⟨n, hleast, hmost, hw⟩
    obtain ⟨rfl, hall⟩ := mem_words_one_pow.mp hw
    exact ⟨hleast, hmost, hall⟩
  · rintro ⟨hleast, hmost, hall⟩
    exact ⟨w.length, hleast, hmost, mem_words_one_pow.mpr ⟨rfl, hall⟩⟩

theorem mem_words_star {r : Regex} {w : List Char} :
    w ∈ (star r).words ↔ ∃ pieces : List (List Char), w = pieces.flatten ∧
      ∀ piece ∈ pieces, piece ∈ r.words := by
  simp only [star, words, Language.mem_pow]
  constructor
  · rintro ⟨n, -, -, pieces, rfl, -, hall⟩
    exact ⟨pieces, rfl, hall⟩
  · rintro ⟨pieces, rfl, hall⟩
    exact ⟨pieces.length, Nat.zero_le _, by simp, pieces, rfl, rfl, hall⟩

end Trellis.Regex
