import Mathlib.Data.List.Forall2
import Trellis.Proofs.Routing.Pattern
/-!
The grammar of patterns.  A text is a pattern if it starts with a slash and its parts keep three rules, which are
stated here without the reader; and a text that is no pattern is refused with the rule that its leftmost bad part
breaks.
-/

namespace Trellis

namespace Text

/-- The pieces between separators are those of the library. -/
theorem splitChars_eq_splitOn (separator : Char) (cs : List Char) :
    splitChars separator cs = cs.splitOn separator := by
  induction cs with
  | nil => rfl
  | cons c rest ih =>
      rw [splitChars, List.splitOn_cons_eq_if_modifyHead, ih]
      by_cases hc : c = separator
      · simp [hc]
      · cases hrest : rest.splitOn separator with
        | nil => exact absurd hrest (List.splitOn_ne_nil separator rest)
        | cons piece pieces => simp [hc]

end Text

namespace Path

/-- The segments of a path are the pieces between its slashes that are not
empty. -/
theorem split_eq_filter (path : String) :
    split path = ((path.toList.splitOn '/').map String.ofList).filter (· ≠ "") := by
  rw [split, Text.splitChars_eq_splitOn, List.filter_map]
  congr 1
  apply List.filter_congr
  intro piece _
  simp

end Path

/-- A segment as a part of a pattern writes it: a star, a colon and a name, or
any other text. -/
inductive Segment.Written : String → Segment → Prop
  | wildcard : Written "*" .wildcard
  | param {name : String} : name ≠ "" → Written (":" ++ name) (.param name)
  | literal {part : String} :
      part ≠ "*" → (∀ name, part ≠ ":" ++ name) → Written part (.literal part)

namespace Pattern

/-- The rules for the parts of a pattern. -/
structure WellFormed (parts : List String) : Prop where
  wildcard_last : "*" ∉ parts.dropLast
  named : ":" ∉ parts
  named_apart : ∀ name, parts.count (":" ++ name) ≤ 1

/-- A part breaks a rule, given the parts before and after it: a star that is not
the last part, a colon without a name, a parameter that was there before. -/
inductive Breaks (raw : String) (before : List String) (part : String)
    (after : List String) : PatternError → Prop
  | wildcard : part = "*" → after ≠ [] →
      Breaks raw before part after (.wildcardNotLast raw)
  | unnamed : part = ":" → Breaks raw before part after (.emptyName raw)
  | repeated {name : String} : part = ":" ++ name → name ≠ "" → part ∈ before →
      Breaks raw before part after (.duplicateName raw name)

/-- An error is that of the leftmost part that breaks a rule. -/
inductive FirstFault (raw : String) : List String → List String → PatternError → Prop
  | here {before rest : List String} {part : String} {e : PatternError} :
      Breaks raw before part rest e → FirstFault raw before (part :: rest) e
  | later {before rest : List String} {part : String} {e : PatternError} :
      (∀ other, ¬ Breaks raw before part rest other) →
        FirstFault raw (before ++ [part]) rest e → FirstFault raw before (part :: rest) e

/-! The rules, part by part. -/

section Parts

variable {raw part : String} {before seen rest : List String} {e : PatternError}

theorem colon_append_ne_star (name : String) : ":" ++ name ≠ "*" := by
  intro heq
  have hlist := congrArg String.toList heq
  simp at hlist

theorem colon_append_inj {name other : String} : ":" ++ name = ":" ++ other ↔ name = other := by
  rw [← String.toList_inj, ← String.toList_inj]
  simp

theorem wellFormed_nil : WellFormed [] := ⟨by simp, by simp, by simp⟩

theorem wellFormed_cons_iff :
    WellFormed (part :: rest) ↔ (part = "*" → rest = []) ∧ part ≠ ":" ∧
      (∀ name, part = ":" ++ name → part ∉ rest) ∧ WellFormed rest := by
  constructor
  · rintro ⟨hlast, hnamed, hapart⟩
    refine ⟨?_, ?_, ?_, ?_, ?_, ?_⟩
    · rintro rfl
      by_contra hrest
      rw [List.dropLast_cons_of_ne_nil hrest] at hlast
      exact hlast List.mem_cons_self
    · exact fun heq => hnamed (heq ▸ List.mem_cons_self)
    · rintro name rfl hmem
      have hcount := hapart name
      rw [List.count_cons_self] at hcount
      have hpos := List.count_pos_iff.mpr hmem
      omega
    · cases rest with
      | nil => simp
      | cons next others =>
          rw [List.dropLast_cons_of_ne_nil (List.cons_ne_nil next others)] at hlast
          exact fun hmem => hlast (List.mem_cons_of_mem part hmem)
    · exact fun hmem => hnamed (List.mem_cons_of_mem part hmem)
    · exact fun name => Nat.le_trans List.count_le_count_cons (hapart name)
  · rintro ⟨hstar, hcolon, hfresh, hlast, hnamed, hapart⟩
    refine ⟨?_, ?_, ?_⟩
    · cases rest with
      | nil => simp
      | cons next others =>
          rw [List.dropLast_cons_of_ne_nil (List.cons_ne_nil next others), List.mem_cons]
          rintro (heq | hmem)
          · exact absurd (hstar heq.symm) (List.cons_ne_nil next others)
          · exact hlast hmem
    · rw [List.mem_cons]
      rintro (heq | hmem)
      · exact hcolon heq.symm
      · exact hnamed hmem
    · intro name
      rw [List.count_cons]
      by_cases heq : part = ":" ++ name
      · have hzero := List.count_eq_zero.mpr (hfresh name heq)
        rw [← heq, hzero]
        simp
      · simpa [heq] using hapart name

theorem firstFault_cons_iff :
    FirstFault raw before (part :: rest) e ↔ Breaks raw before part rest e ∨
      (∀ other, ¬ Breaks raw before part rest other) ∧
        FirstFault raw (before ++ [part]) rest e := by
  constructor
  · rintro (hbreaks | ⟨hkeeps, hlater⟩)
    · exact Or.inl hbreaks
    · exact Or.inr ⟨hkeeps, hlater⟩
  · rintro (hbreaks | ⟨hkeeps, hlater⟩)
    · exact .here hbreaks
    · exact .later hkeeps hlater

theorem breaks_star_iff :
    Breaks raw before "*" rest e ↔ rest ≠ [] ∧ e = .wildcardNotLast raw := by
  constructor
  · rintro (⟨-, hrest⟩ | hcolon | ⟨hname, -, -⟩)
    · exact ⟨hrest, rfl⟩
    · exact absurd hcolon (by decide)
    · exact absurd hname.symm (colon_append_ne_star _)
  · rintro ⟨hrest, rfl⟩
    exact .wildcard rfl hrest

theorem breaks_colon_iff {name : String} :
    Breaks raw before (":" ++ name) rest e ↔ name = "" ∧ e = .emptyName raw ∨
      name ≠ "" ∧ ":" ++ name ∈ before ∧ e = .duplicateName raw name := by
  constructor
  · rintro (⟨hstar, -⟩ | hcolon | ⟨hname, hne, hmem⟩)
    · exact absurd hstar (colon_append_ne_star name)
    · exact Or.inl ⟨colon_append_inj.mp (hcolon.trans (by simp)), rfl⟩
    · obtain rfl := colon_append_inj.mp hname
      exact Or.inr ⟨hne, hmem, rfl⟩
  · rintro (⟨rfl, rfl⟩ | ⟨hne, hmem, rfl⟩)
    · exact .unnamed (by simp)
    · exact .repeated rfl hne hmem

theorem not_breaks_literal (hstar : part ≠ "*") (hcolon : ∀ name, part ≠ ":" ++ name) :
    ¬ Breaks raw before part rest e := by
  rintro (⟨heq, -⟩ | heq | ⟨heq, -, -⟩)
  · exact hstar heq
  · exact hcolon "" (heq.trans (by simp))
  · exact hcolon _ heq

/-! What the reader does with a part of each kind. -/

theorem segmentsOf_star :
    segmentsOf raw seen ("*" :: rest) =
      if rest = [] then .ok [.wildcard] else .error (.wildcardNotLast raw) := rfl

theorem segmentsOf_colon (name : String) :
    segmentsOf raw seen ((":" ++ name) :: rest) =
      if name = "" then .error (.emptyName raw)
      else if name ∈ seen then .error (.duplicateName raw name)
      else (segmentsOf raw (name :: seen) rest).map (.param name :: ·) := by
  have hchars : (":" ++ name).toList = ':' :: name.toList := by simp
  rw [segmentsOf, if_neg (colon_append_ne_star name)]
  split
  · next chars heq =>
      obtain ⟨-, rfl⟩ := List.cons.inj (hchars.symm.trans heq)
      simp
  · next hno => exact absurd hchars (hno name.toList)

theorem segmentsOf_literal (hstar : part ≠ "*") (hcolon : ∀ name, part ≠ ":" ++ name) :
    segmentsOf raw seen (part :: rest) = (segmentsOf raw seen rest).map (.literal part :: ·) := by
  rw [segmentsOf, if_neg hstar]
  split
  · next chars heq =>
      refine absurd ?_ (hcolon (String.ofList chars))
      rw [← String.toList_inj, heq]
      simp
  · rfl

end Parts

/-- The reader ends with the error of the first fault.  The names that it has seen
are those of the parameters before. -/
theorem segmentsOf_eq_error_iff {raw : String} {before seen parts : List String}
    {e : PatternError}
    (hseen : ∀ name, name ∈ seen ↔ name ≠ "" ∧ ":" ++ name ∈ before) :
    segmentsOf raw seen parts = .error e ↔ FirstFault raw before parts e := by
  induction parts generalizing before seen with
  | nil => exact iff_of_false (by simp [segmentsOf]) (by rintro ⟨⟩)
  | cons part rest ih =>
      rw [firstFault_cons_iff]
      by_cases hstar : part = "*"
      · subst hstar
        have hend : ∀ other, ¬ FirstFault raw (before ++ ["*"]) [] other := by rintro _ ⟨⟩
        rw [segmentsOf_star, breaks_star_iff]
        by_cases hrest : rest = []
        · simp [hrest, hend]
        · simp [hrest, breaks_star_iff, eq_comm]
      · by_cases hcolon : ∃ name, part = ":" ++ name
        · obtain ⟨name, rfl⟩ := hcolon
          simp only [segmentsOf_colon, breaks_colon_iff]
          by_cases hname : name = ""
          · simp [hname, eq_comm]
          · have hmem : name ∈ seen ↔ ":" ++ name ∈ before := by simp [hseen, hname]
            by_cases htaken : name ∈ seen
            · simp [hname, htaken, hmem.mp htaken, eq_comm]
            · have hnext : ∀ other, other ∈ name :: seen ↔
                  other ≠ "" ∧ ":" ++ other ∈ before ++ [":" ++ name] := by
                intro other
                rw [List.mem_cons, hseen, List.mem_append, List.mem_singleton,
                  colon_append_inj]
                constructor
                · rintro (rfl | ⟨hne, hbefore⟩)
                  · exact ⟨hname, Or.inr rfl⟩
                  · exact ⟨hne, Or.inl hbefore⟩
                · rintro ⟨hne, hbefore | rfl⟩
                  · exact Or.inr ⟨hne, hbefore⟩
                  · exact Or.inl rfl
              simp [hname, htaken, mt hmem.mpr htaken, Except.map_eq_error_iff, ih hnext]
        · have hliteral := not_exists.mp hcolon
          have hnext : ∀ other, other ∈ seen ↔
              other ≠ "" ∧ ":" ++ other ∈ before ++ [part] := by
            intro other
            rw [hseen, List.mem_append, List.mem_singleton]
            simp [Ne.symm (hliteral other)]
          rw [segmentsOf_literal hstar hliteral, Except.map_eq_error_iff, ih hnext]
          simp [not_breaks_literal hstar hliteral]

theorem eq_colon_append_of_toList {part : String} {name : List Char}
    (hpart : part.toList = ':' :: name) : part = ":" ++ String.ofList name := by
  rw [← String.toList_inj, hpart]
  simp

/-- The parts are read if they keep the rules and name no parameter that was seen
before, as the segments that they write. -/
theorem reads_iff {seen parts : List String} {segments : List Segment} :
    Reads seen parts segments ↔ WellFormed parts ∧ (∀ name ∈ seen, ":" ++ name ∉ parts) ∧
      List.Forall₂ Segment.Written parts segments := by
  constructor
  · intro hreads
    induction hreads with
    | nil => exact ⟨wellFormed_nil, by simp, .nil⟩
    | wildcard =>
        have hstar : WellFormed ["*"] := wellFormed_cons_iff.mpr
          ⟨fun _ => rfl, by decide, fun _ _ => List.not_mem_nil, wellFormed_nil⟩
        refine ⟨hstar, fun name _ hmem => ?_, .cons .wildcard .nil⟩
        exact colon_append_ne_star name (List.mem_singleton.mp hmem)
    | @param seen rest segments part name hpart hname hseen _ ih =>
        obtain ⟨hrest, hfresh, hwritten⟩ := ih
        obtain rfl := eq_colon_append_of_toList hpart
        have hown : ":" ++ String.ofList name ∉ rest := hfresh _ List.mem_cons_self
        have hne : String.ofList name ≠ "" := by simpa using hname
        refine ⟨wellFormed_cons_iff.mpr ⟨?_, ?_, fun _ _ => hown, hrest⟩, ?_,
          .cons (.param hne) hwritten⟩
        · exact fun hstar => absurd hstar (colon_append_ne_star _)
        · exact fun hcolon => hne (colon_append_inj.mp (hcolon.trans (by simp)))
        · intro other hother hmem
          rcases List.mem_cons.mp hmem with heq | hrest
          · exact hseen (colon_append_inj.mp heq ▸ hother)
          · exact hfresh other (List.mem_cons_of_mem _ hother) hrest
    | @literal seen rest segments part hstar hpart _ ih =>
        obtain ⟨hrest, hfresh, hwritten⟩ := ih
        have hcolon : ∀ name, part ≠ ":" ++ name := by
          rintro name rfl
          exact hpart name.toList (by simp)
        refine ⟨wellFormed_cons_iff.mpr ⟨fun heq => absurd heq hstar, ?_,
          fun name heq => absurd heq (hcolon name), hrest⟩, ?_,
          .cons (.literal hstar hcolon) hwritten⟩
        · exact fun heq => hcolon "" (heq.trans (by simp))
        · intro name hname hmem
          rcases List.mem_cons.mp hmem with heq | hrest
          · exact hcolon name heq.symm
          · exact hfresh name hname hrest
  · rintro ⟨hformed, hfresh, hwritten⟩
    induction hwritten generalizing seen with
    | nil => exact .nil
    | @cons part segment rest segments hpart _ ih =>
        obtain ⟨hlast, hnamed, hapart, hrest⟩ := wellFormed_cons_iff.mp hformed
        have hbelow : ∀ name ∈ seen, ":" ++ name ∉ rest := fun name hname hmem =>
          hfresh name hname (List.mem_cons_of_mem part hmem)
        cases hpart with
        | wildcard =>
            obtain rfl := hlast rfl
            obtain rfl : segments = [] := by simpa using ‹List.Forall₂ _ [] segments›
            exact .wildcard
        | @param name hname =>
            have hreads : Reads (name :: seen) rest segments := by
              refine ih hrest fun other hother => ?_
              rcases List.mem_cons.mp hother with rfl | hold
              · exact hapart other rfl
              · exact hbelow other hold
            have hseen : name ∉ seen := fun hmem => hfresh name hmem List.mem_cons_self
            have hchars : (":" ++ name).toList = ':' :: name.toList := by simp
            rw [← @String.ofList_toList name] at hname hseen hreads ⊢
            exact .param (by simp) (by simpa using hname) hseen hreads
        | literal hstar hcolon =>
            refine .literal hstar ?_ (ih hrest hbelow)
            exact fun name hname => hcolon _ (eq_colon_append_of_toList hname)

/-- Every part but a colon alone writes a segment. -/
theorem exists_written {parts : List String} (hnamed : ":" ∉ parts) :
    ∃ segments, List.Forall₂ Segment.Written parts segments := by
  induction parts with
  | nil => exact ⟨[], .nil⟩
  | cons part rest ih =>
      obtain ⟨segments, hrest⟩ := ih fun hmem => hnamed (List.mem_cons_of_mem part hmem)
      by_cases hstar : part = "*"
      · rw [hstar]
        exact ⟨.wildcard :: segments, .cons .wildcard hrest⟩
      · by_cases hcolon : ∃ name, part = ":" ++ name
        · obtain ⟨name, rfl⟩ := hcolon
          refine ⟨.param name :: segments, .cons (.param ?_) hrest⟩
          rintro rfl
          exact hnamed (List.mem_cons.mpr (Or.inl (by simp)))
        · exact ⟨.literal part :: segments,
            .cons (.literal hstar (not_exists.mp hcolon)) hrest⟩

theorem absolute_iff {raw : String} :
    (∃ rest, raw.toList = '/' :: rest) ↔ ∃ rest, raw = "/" ++ rest := by
  constructor
  · rintro ⟨rest, hraw⟩
    refine ⟨String.ofList rest, ?_⟩
    rw [← String.toList_inj, hraw]
    simp
  · rintro ⟨rest, rfl⟩
    exact ⟨rest.toList, by simp⟩

/-- A text that does not start with a slash is refused for that, and any other one
for its first fault. -/
theorem parse_eq_error_iff {raw : String} {e : PatternError} :
    parse raw = .error e ↔
      (¬ ∃ rest, raw = "/" ++ rest) ∧ e = .notAbsolute raw ∨
        (∃ rest, raw = "/" ++ rest) ∧ FirstFault raw [] (Path.split raw) e := by
  rw [← absolute_iff]
  unfold parse
  split
  · next rest hraw =>
      have hnone : ∀ name, name ∈ ([] : List String) ↔ name ≠ "" ∧ ":" ++ name ∈ [] := by simp
      rw [Except.map_eq_error_iff, segmentsOf_eq_error_iff hnone, hraw]
      simp
  · next hrelative =>
      have hnot : ¬ ∃ rest, raw.toList = '/' :: rest := fun ⟨rest, hraw⟩ => hrelative rest hraw
      rw [Except.error.injEq, eq_comm]
      simp [hnot]

/-- The grammar of patterns.  A text is a pattern exactly if it starts with a slash
and its parts, the pieces between slashes that are not empty, keep the rules: only
the last one is a star, none is a colon alone, and no two are equal parameters.
The pattern then keeps the text, and its segments are those that the parts write.
The error is that a text does not start with a slash, or else that of the leftmost
part that breaks a rule. -/
theorem parse_grammar (raw : String) :
    let parts := ((raw.toList.splitOn '/').map String.ofList).filter (· ≠ "")
    let absolute := ∃ rest, raw = "/" ++ rest
    ((∃ p, parse raw = .ok p) ↔ absolute ∧ WellFormed parts) ∧
    (∀ p, parse raw = .ok p ↔ absolute ∧ WellFormed parts ∧ p.raw = raw ∧
      List.Forall₂ Segment.Written parts p.segments) ∧
    ∀ e, parse raw = .error e ↔
      ¬ absolute ∧ e = .notAbsolute raw ∨ absolute ∧ FirstFault raw [] parts e := by
  intro parts absolute
  have hparts : Path.split raw = parts := Path.split_eq_filter raw
  have hread : ∀ p, parse raw = .ok p ↔ absolute ∧ WellFormed parts ∧ p.raw = raw ∧
      List.Forall₂ Segment.Written parts p.segments := by
    intro p
    rw [parse_eq_ok_iff, reads_iff, absolute_iff, hparts]
    simp [absolute, and_left_comm]
  refine ⟨⟨?_, ?_⟩, hread, fun e => ?_⟩
  · rintro ⟨p, hparse⟩
    obtain ⟨habsolute, hformed, -⟩ := (hread p).mp hparse
    exact ⟨habsolute, hformed⟩
  · rintro ⟨habsolute, hformed⟩
    obtain ⟨segments, hwritten⟩ := exists_written hformed.named
    exact ⟨⟨raw, segments⟩, (hread _).mpr ⟨habsolute, hformed, rfl, hwritten⟩⟩
  · rw [parse_eq_error_iff, hparts]

example : parse "/files/*/" = .ok ⟨"/files/*/", [.literal "files", .wildcard]⟩ := rfl

example : parse "/files/*/:" = .error (.wildcardNotLast "/files/*/:") := rfl

end Pattern

end Trellis
