import Trellis.Proofs.Regex.Matches
import Trellis.Proofs.Regex.Nested
/-!
What the expression that is made of a text matches.  The text becomes a group, with an anchor before it unless it begins
with a circumflex, and one behind it unless it ends with a dollar sign, whatever these signs mean there.  So the
expression matches where that of the text does, and at the ends of the subject where the anchors stand.
-/

namespace Trellis.Regex

namespace Reader

/-- The state outside all groups, before any flag was set. -/
def State.plain (pieces : List Piece) : State :=
  ⟨⟨[], pieces, startFlags, none⟩, [], startFlags, [], 0⟩

theorem State.Regular.plain (text : List Char) (pieces : List Piece) :
    (State.plain pieces).Regular text := by
  refine ⟨rfl, rfl, fun flags hflags hspaced => ?_⟩
  obtain rfl : flags = startFlags := by simpa [State.plain] using hflags
  simp [startFlags] at hspaced

/-- What a text reads as. -/
def piece? (cs : List Char) : Option Piece := do
  let s ← steps? cs.length (State.plain []) cs
  match s.outer with
  | [] => some s.group.alternation
  | _ :: _ => none

/-- Not too deep, and small enough when it is built. -/
def Piece.Admissible (piece : Piece) : Prop := piece.depth ≤ greatestDepth ∧ piece.plan.fits

theorem piece?_eq_some_iff {cs : List Char} {piece : Piece} :
    piece? cs = some piece ↔
      ∃ s, steps? cs.length (State.plain []) cs = some s ∧ s.outer = [] ∧
        s.group.alternation = piece := by
  unfold piece?
  simp only [Option.bind_eq_bind, Option.bind_eq_some_iff]
  refine exists_congr fun s => and_congr_right' ?_
  cases s.outer <;> simp

end Reader

open Reader

theorem parse?_eq_some_iff {text : String} {r : Regex} :
    parse? text = some r ↔
      ∃ piece, piece? text.toList = some piece ∧ piece.Admissible ∧ piece.regex = r := by
  unfold parse? read?
  simp only [Option.bind_eq_bind, Option.bind_eq_some_iff, Option.ite_none_right_eq_some,
    piece?_eq_some_iff, Prod.exists, Option.some.injEq]
  constructor
  · rintro ⟨regex, plan, ⟨s, hsteps, hread⟩, hfits, rfl⟩
    split at hread
    · simp at hread
    · next houter =>
        simp only [Option.ite_none_right_eq_some, Option.some.injEq, Prod.mk.injEq] at hread
        obtain ⟨hdepth, rfl, rfl⟩ := hread
        exact ⟨s.group.alternation, ⟨s, hsteps, houter, rfl⟩, ⟨hdepth, hfits⟩, rfl⟩
  · rintro ⟨piece, ⟨s, hsteps, houter, rfl⟩, ⟨hdepth, hfits⟩, rfl⟩
    refine ⟨_, _, ⟨s, hsteps, ?_⟩, hfits, rfl⟩
    simp only [houter]
    exact if_pos hdepth

/-- The parts of the expression that is made of a text. -/
def anchoredPieces (text : List Char) (piece : Piece) : List Piece :=
  (if text.head? = some '^' then [] else [Piece.ofAnchor .textStart]) ++
    { piece with depth := piece.depth + 1 } ::
      (if text.getLast? = some '$' then [] else [Piece.ofAnchor .textEnd])

theorem toList_anchoredText (text : String) :
    (anchoredText text).toList =
      (if text.toList.head? = some '^' then [] else ['^']) ++
        '(' :: '?' :: ':' :: (text.toList ++ closing (text.toList.getLast? ≠ some '$')) := by
  have hfinish : ')' :: (if text.toList.getLast? = some '$' then "" else "$").toList =
      closing (text.toList.getLast? ≠ some '$') := by
    by_cases hlast : text.toList.getLast? = some '$' <;> simp [closing, hlast]
  unfold anchoredText
  rw [← hfinish]
  split
  · next rest hhead => simp [hhead]
  · next hmissing =>
      have hhead : text.toList.head? ≠ some '^' := by
        intro hhead
        obtain ⟨rest, hrest⟩ := List.head?_eq_some_iff.mp hhead
        exact hmissing rest hrest
      simp [hhead]

namespace Reader

theorem steps?_circumflex (n : Nat) (cs : List Char) :
    steps? (n + 1) (State.plain []) ('^' :: cs) =
      steps? n (State.plain [Piece.ofAnchor .textStart]) cs := rfl

theorem steps?_open (n : Nat) (pieces : List Piece) (cs : List Char) :
    steps? (n + 1) (State.plain pieces) ('(' :: '?' :: ':' :: cs) =
      steps? n ((State.plain []).inside (State.plain pieces).group) cs := rfl

/-- The group that is closed becomes a part. -/
theorem step?_close (pieces : List Piece) {s : State} (houter : s.outer = [])
    (hafter : s.group.after = startFlags) (hnumber : s.group.number = none)
    (rest : List Char) :
    let inner := s.group.alternation
    step? (s.inside (State.plain pieces).group) ')' rest =
      some (⟨⟨[], { inner with depth := inner.depth + 1 } :: pieces, startFlags, none⟩, [],
        startFlags, s.names, s.remembered⟩, rest) := by
  obtain ⟨⟨alternatives, parts, after, number⟩, outer, flags, names, remembered⟩ := s
  obtain rfl : outer = [] := houter
  obtain rfl : after = startFlags := hafter
  obtain rfl : number = none := hnumber
  rfl

theorem steps?_closing (n : Nat) (pieces : List Piece) {s : State} (houter : s.outer = [])
    (hafter : s.group.after = startFlags) (hnumber : s.group.number = none) (anchored : Bool) :
    ∃ t, steps? (n + 2) (s.inside (State.plain pieces).group) (closing anchored) = some t ∧
      t.outer = [] ∧ t.group.alternatives = [] ∧
      t.group.pieces = (if anchored then [Piece.ofAnchor .textEnd] else []) ++
        { s.group.alternation with depth := s.group.alternation.depth + 1 } :: pieces := by
  have hskip := skip_closing (s.inside (State.plain pieces).group).flags anchored
  cases anchored with
  | false =>
      rw [steps?_cons (c := ')') hskip, step?_close pieces houter hafter hnumber, Option.bind_some]
      exact ⟨_, steps?_nil rfl, rfl, rfl, rfl⟩
  | true =>
      rw [steps?_cons (c := ')') hskip, step?_close pieces houter hafter hnumber, Option.bind_some,
        steps?_cons (c := '$') rfl]
      exact ⟨_, steps?_nil rfl, rfl, rfl, rfl⟩

/-- The group that a text becomes, read from its parenthesis to the end. -/
theorem steps?_group (pieces : List Piece) {text : List Char} {piece : Piece}
    (hread : piece? text = some piece) (anchored : Bool) :
    let whole := '(' :: '?' :: ':' :: (text ++ closing anchored)
    ∃ t, steps? whole.length (State.plain pieces) whole = some t ∧
      (t.outer = [] ∧ t.group.alternatives = [] ∧
        t.group.pieces = (if anchored then [Piece.ofAnchor .textEnd] else []) ++
          { piece with depth := piece.depth + 1 } :: pieces ∨
      t.outer ≠ [] ∧ OpenComment text) := by
  intro whole
  obtain ⟨s, hsteps, houter, rfl⟩ := piece?_eq_some_iff.mp hread
  have hlength : whole.length = text.length + ((closing anchored).length + 2) + 1 := by
    simp [whole]
    omega
  rw [hlength, steps?_open]
  obtain ⟨hregular, ⟨k, hk, hend⟩ | ⟨hswallowed, hopen⟩⟩ :=
    steps?_inside (State.plain pieces).group ((closing anchored).length + 2)
      (State.Regular.plain text []) (.inside (List.suffix_refl text)) hsteps
  · obtain ⟨k, rfl⟩ := Nat.exists_eq_add_of_le' (Nat.le_of_add_left_le hk)
    have hbottom : bottomOf s.group s.outer = s.group := by rw [houter]; rfl
    obtain ⟨t, hclosed, hresult⟩ := steps?_closing k pieces houter
      (hbottom ▸ hregular.after) (hbottom ▸ hregular.number) anchored
    exact ⟨t, hend.trans hclosed, .inl hresult⟩
  · refine ⟨_, hswallowed, .inr ⟨?_, hopen⟩⟩
    simp [State.inside]

end Reader

/-- The anchored text reads as the text in a group with the anchors around it, unless a
comment takes the end of the group. -/
theorem piece?_anchoredText {text : String} {piece : Piece}
    (hread : piece? text.toList = some piece) :
    piece? (anchoredText text).toList = some (sequence (anchoredPieces text.toList piece)) ∨
      piece? (anchoredText text).toList = none ∧ OpenComment text.toList := by
  let start : List Piece :=
    if text.toList.head? = some '^' then [] else [Piece.ofAnchor .textStart]
  obtain ⟨t, hsteps, hend⟩ :=
    steps?_group start hread (decide (text.toList.getLast? ≠ some '$'))
  have hwhole : steps? (anchoredText text).toList.length (State.plain [])
      (anchoredText text).toList = some t := by
    rw [toList_anchoredText]
    by_cases hhead : text.toList.head? = some '^'
    · simpa [start, hhead] using hsteps
    · simpa [start, hhead, steps?_circumflex] using hsteps
  rcases hend with ⟨houter, halternatives, hpieces⟩ | ⟨houter, hopen⟩
  · refine .inl (piece?_eq_some_iff.mpr ⟨t, hwhole, houter, ?_⟩)
    have hreverse : t.group.pieces.reverse = anchoredPieces text.toList piece := by
      rw [hpieces, anchoredPieces]
      by_cases hhead : text.toList.head? = some '^' <;>
        by_cases hlast : text.toList.getLast? = some '$' <;> simp [start, hhead, hlast]
    rw [Group.alternation, halternatives, ← hreverse]
  · refine .inr ⟨Option.eq_none_iff_forall_ne_some.mpr fun other hother => ?_, hopen⟩
    obtain ⟨u, hsteps, hclosed, -⟩ := piece?_eq_some_iff.mp hother
    obtain rfl : t = u := Option.some.inj (hwhole.symm.trans hsteps)
    exact houter hclosed

/-- The expression that is made of a text, from the one that it spells. -/
def anchoredRegex (text : List Char) (r : Regex) : Regex :=
  seqs ((if text.head? = some '^' then [] else [anchor .textStart]) ++
    r :: (if text.getLast? = some '$' then [] else [anchor .textEnd]))

theorem sequence_regex (pieces : List Piece) :
    (sequence pieces).regex = seqs (pieces.map (·.regex)) := by
  unfold Reader.sequence
  split <;> rfl

theorem regex_anchoredPieces (text : List Char) (piece : Piece) :
    (sequence (anchoredPieces text piece)).regex = anchoredRegex text piece.regex := by
  rw [sequence_regex, anchoredPieces, anchoredRegex]
  by_cases hhead : text.head? = some '^' <;>
    by_cases hlast : text.getLast? = some '$' <;> simp [hhead, hlast, Piece.ofAnchor]

/-- What a text spells decides what the anchored text spells, if it spells anything. -/
theorem parse?_anchoredText {text : String} {piece : Piece} {r : Regex}
    (hread : piece? text.toList = some piece) (hparse : parse? (anchoredText text) = some r) :
    (sequence (anchoredPieces text.toList piece)).Admissible ∧
      r = anchoredRegex text.toList piece.regex := by
  obtain ⟨whole, hwhole, hadmissible, rfl⟩ := parse?_eq_some_iff.mp hparse
  rcases piece?_anchoredText hread with hsome | ⟨hnone, -⟩
  · obtain rfl := Option.some.inj (hsome.symm.trans hwhole)
    exact ⟨hadmissible, regex_anchoredPieces _ _⟩
  · simp [hnone] at hwhole

/-- It spells something if all comments end and it is not too large. -/
theorem exists_parse?_anchoredText {text : String} {piece : Piece}
    (hread : piece? text.toList = some piece) (hclosed : ¬ OpenComment text.toList)
    (hadmissible : (sequence (anchoredPieces text.toList piece)).Admissible) :
    ∃ r, parse? (anchoredText text) = some r := by
  rcases piece?_anchoredText hread with hsome | ⟨-, hopen⟩
  · exact ⟨_, parse?_eq_some_iff.mpr ⟨_, hsome, hadmissible, rfl⟩⟩
  · exact absurd hopen hclosed

section Matches

variable {text : List Char} {i j : Nat}

theorem matches_seqs_cons {r : Regex} {rest : List Regex} :
    Matches text (seqs (r :: rest)) i j ↔
      ∃ k, Matches text r i k ∧ Matches text (seqs rest) k j := by
  cases rest with
  | nil => simp [seqs, Matches]
  | cons s rest => rfl

theorem matches_textStart (hi : i ≤ text.length) :
    Matches text (anchor .textStart) i j ↔ i = j ∧ i = 0 := by
  have hbefore : before? none text i = none ↔ i = 0 := by
    cases i with
    | zero => simp [before?]
    | succ i => simp [before?]; omega
  simp [Matches, Anchor.holds, hbefore, hi]

theorem matches_textEnd (hi : i ≤ text.length) :
    Matches text (anchor .textEnd) i j ↔ i = j ∧ i = text.length := by
  have hafter : text[i]? = none ↔ i = text.length := by
    rw [List.getElem?_eq_none_iff]
    omega
  simp [Matches, Anchor.holds, hafter, hi]

/-- An anchor behind an expression asks for the end of the subject, if it was added. -/
theorem matches_seqs_textEnd {r : Regex} {ends : Prop} [Decidable ends] (hi : i ≤ text.length) :
    Matches text (seqs (r :: if ends then [] else [anchor .textEnd])) i j ↔
      Matches text r i j ∧ (¬ ends → j = text.length) := by
  split
  · next hends => simp [seqs, hends]
  · next hends =>
      rw [matches_seqs_cons, seqs, imp_iff_right hends]
      constructor
      · rintro ⟨k, hmatch, hend⟩
        have hk := hmatch.bounds
        obtain ⟨rfl, hlast⟩ := (matches_textEnd (by omega)).mp hend
        exact ⟨hmatch, hlast⟩
      · rintro ⟨hmatch, hlast⟩
        exact ⟨j, hmatch, (matches_textEnd (Nat.le_of_eq hlast)).mpr ⟨rfl, hlast⟩⟩

/-- The anchors ask for the ends of the subject, each where it was added. -/
theorem matches_anchoredRegex {pattern : List Char} {r : Regex} (hi : i ≤ text.length) :
    Matches text (anchoredRegex pattern r) i j ↔
      Matches text r i j ∧ (pattern.head? ≠ some '^' → i = 0) ∧
        (pattern.getLast? ≠ some '$' → j = text.length) := by
  unfold anchoredRegex
  split
  · next hhead =>
      rw [List.nil_append, matches_seqs_textEnd hi]
      simp [hhead]
  · next hhead =>
      rw [List.cons_append, List.nil_append, matches_seqs_cons, imp_iff_right hhead]
      constructor
      · rintro ⟨k, hstart, hrest⟩
        obtain ⟨rfl, hzero⟩ := (matches_textStart hi).mp hstart
        obtain ⟨hmatch, hend⟩ := (matches_seqs_textEnd hi).mp hrest
        exact ⟨hmatch, hzero, hend⟩
      · rintro ⟨hmatch, hzero, hend⟩
        exact ⟨i, (matches_textStart hi).mpr ⟨rfl, hzero⟩,
          (matches_seqs_textEnd hi).mpr ⟨hmatch, hend⟩⟩

end Matches

/-- Every match begins at the start of the subject, as the first part says. -/
def startsText : Regex → Bool
  | anchor a => a = .textStart
  | seq first _ => first.startsText
  | alt first second => first.startsText && second.startsText
  | times inner least _ => least ≠ 0 && inner.startsText
  | _ => false

/-- Every match ends at the end of the subject, as the last part says. -/
def endsText : Regex → Bool
  | anchor a => a = .textEnd
  | seq _ second => second.endsText
  | alt first second => first.endsText && second.endsText
  | times inner least _ => least ≠ 0 && inner.endsText
  | _ => false

theorem start_of_startsText {text : List Char} {r : Regex} (hstarts : r.startsText) {i j : Nat}
    (hi : i ≤ text.length) (hmatch : Matches text r i j) : i = 0 := by
  induction r generalizing i j with
  | empty => simp [startsText] at hstarts
  | one set => simp [startsText] at hstarts
  | anchor a =>
      obtain rfl : a = .textStart := by simpa [startsText] using hstarts
      exact ((matches_textStart hi).mp hmatch).2
  | seq first second ihFirst _ =>
      obtain ⟨k, hfirst, -⟩ := hmatch
      exact ihFirst hstarts hi hfirst
  | alt first second ihFirst ihSecond =>
      rw [startsText, Bool.and_eq_true] at hstarts
      rcases hmatch with hfirst | hsecond
      · exact ihFirst hstarts.1 hi hfirst
      · exact ihSecond hstarts.2 hi hsecond
  | times inner least most ih =>
      rw [startsText, Bool.and_eq_true, decide_eq_true_eq] at hstarts
      obtain ⟨n, hleast, -, hsteps⟩ := hmatch
      obtain ⟨n, rfl⟩ := Nat.exists_eq_add_of_le' (by omega : 1 ≤ n)
      obtain ⟨k, hfirst, -⟩ := hsteps
      exact ih hstarts.2 hi hfirst

theorem end_of_endsText {text : List Char} {r : Regex} (hends : r.endsText) {i j : Nat}
    (hi : i ≤ text.length) (hmatch : Matches text r i j) : j = text.length := by
  induction r generalizing i j with
  | empty => simp [endsText] at hends
  | one set => simp [endsText] at hends
  | anchor a =>
      obtain rfl : a = .textEnd := by simpa [endsText] using hends
      obtain ⟨rfl, hend⟩ := (matches_textEnd hi).mp hmatch
      exact hend
  | seq first second _ ihSecond =>
      obtain ⟨k, hfirst, hsecond⟩ := hmatch
      have hk := hfirst.bounds
      exact ihSecond hends (by omega) hsecond
  | alt first second ihFirst ihSecond =>
      rw [endsText, Bool.and_eq_true] at hends
      rcases hmatch with hfirst | hsecond
      · exact ihFirst hends.1 hi hfirst
      · exact ihSecond hends.2 hi hsecond
  | times inner least most ih =>
      rw [endsText, Bool.and_eq_true, decide_eq_true_eq] at hends
      obtain ⟨n, hleast, -, hsteps⟩ := hmatch
      obtain ⟨n, rfl⟩ := Nat.exists_eq_add_of_le' (by omega : 1 ≤ n)
      obtain ⟨k, hbefore, l, hlast, rfl⟩ := Steps.add_iff.mp hsteps
      have hk := hbefore.bounds fun i j h => h.bounds
      exact ih hends.2 (by omega) hlast

/-- Where the signs of the pattern anchor all of it, a match that the added anchors allow is
one of the whole subject. -/
theorem exists_matches_iff_whole {pattern text : List Char} {r : Regex}
    (hstarts : pattern.head? = some '^' → r.startsText)
    (hends : pattern.getLast? = some '$' → r.endsText) :
    (∃ i j, i ≤ text.length ∧ Matches text r i j ∧ (pattern.head? ≠ some '^' → i = 0) ∧
      (pattern.getLast? ≠ some '$' → j = text.length)) ↔ Matches text r 0 text.length := by
  constructor
  · rintro ⟨i, j, hi, hmatch, hfirst, hlast⟩
    have hstart : i = 0 := by
      by_cases hhead : pattern.head? = some '^'
      · exact start_of_startsText (hstarts hhead) hi hmatch
      · exact hfirst hhead
    have hend : j = text.length := by
      by_cases hdollar : pattern.getLast? = some '$'
      · exact end_of_endsText (hends hdollar) hi hmatch
      · exact hlast hdollar
    rwa [hstart, hend] at hmatch
  · intro hmatch
    exact ⟨0, _, Nat.zero_le _, hmatch, fun _ => rfl, fun _ => rfl⟩

end Trellis.Regex
