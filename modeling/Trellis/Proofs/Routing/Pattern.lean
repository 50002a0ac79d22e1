import Trellis.Proofs.Routing.Path
/-!
Patterns as they are read.  Reading is a relation of the parts of a path and the segments that they stand for, so
it does not matter how the path places its slashes.
-/

namespace Trellis

namespace Pattern

/-- The segments that the parts of a pattern stand for, after parameters with
the names `seen`. -/
inductive Reads : List String → List String → List Segment → Prop
  | nil {seen : List String} : Reads seen [] []
  | wildcard {seen : List String} : Reads seen ["*"] [.wildcard]
  | param {seen rest : List String} {segments : List Segment} {part : String}
      {name : List Char} :
      part.toList = ':' :: name → name ≠ [] → String.ofList name ∉ seen →
        Reads (String.ofList name :: seen) rest segments →
          Reads seen (part :: rest) (.param (String.ofList name) :: segments)
  | literal {seen rest : List String} {segments : List Segment} {part : String} :
      part ≠ "*" → (∀ name, part.toList ≠ ':' :: name) → Reads seen rest segments →
        Reads seen (part :: rest) (.literal part :: segments)

theorem reads_of_segmentsOf {raw : String} {seen parts : List String}
    {segments : List Segment} (hread : segmentsOf raw seen parts = .ok segments) :
    Reads seen parts segments := by
  induction parts generalizing seen segments with
  | nil =>
      obtain rfl := Except.ok.inj hread
      exact .nil
  | cons part rest ih =>
      unfold segmentsOf at hread
      split at hread
      · next hstar =>
          split at hread
          · next hlast =>
              obtain rfl := Except.ok.inj hread
              rw [hstar, hlast]
              exact .wildcard
          · contradiction
      · next hstar =>
          split at hread
          · next name hpart =>
              dsimp only at hread
              split at hread
              · contradiction
              · next hname =>
                  split at hread
                  · contradiction
                  · next hseen =>
                      obtain ⟨others, hothers, rfl⟩ := Except.map_eq_ok_iff.mp hread
                      exact .param hpart hname hseen (ih hothers)
          · next hpart =>
              obtain ⟨others, hothers, rfl⟩ := Except.map_eq_ok_iff.mp hread
              exact .literal hstar hpart (ih hothers)

theorem Reads.segmentsOf {seen parts : List String} {segments : List Segment}
    (hreads : Reads seen parts segments) (raw : String) :
    Pattern.segmentsOf raw seen parts = .ok segments := by
  induction hreads with
  | nil => rfl
  | wildcard => rfl
  | @param seen rest segments part name hpart hname hseen _ ih =>
      have hstar : part ≠ "*" := by
        rintro rfl
        exact absurd hpart (by simp)
      rw [Pattern.segmentsOf, if_neg hstar]
      split
      · next chars hchars =>
          obtain ⟨-, rfl⟩ := List.cons.inj (hpart.symm.trans hchars)
          dsimp only
          rw [if_neg hname, if_neg hseen, ih]
          rfl
      · next hno => exact absurd hpart (hno name)
  | @literal seen rest segments part hstar hpart _ ih =>
      rw [Pattern.segmentsOf, if_neg hstar]
      split
      · next chars hchars => exact absurd hchars (hpart chars)
      · rw [ih]
        rfl

/-- A pattern starts with a slash, and its parts are read. -/
theorem parse_eq_ok_iff {raw : String} {p : Pattern} :
    parse raw = .ok p ↔ (∃ rest, raw.toList = '/' :: rest) ∧ p.raw = raw ∧
      Reads [] (Path.split raw) p.segments := by
  unfold parse
  constructor
  · intro hparse
    split at hparse
    · next rest hraw =>
        obtain ⟨segments, hread, rfl⟩ := Except.map_eq_ok_iff.mp hparse
        exact ⟨⟨rest, hraw⟩, rfl, reads_of_segmentsOf hread⟩
    · contradiction
  · rintro ⟨⟨rest, hraw⟩, rfl, hreads⟩
    rw [hraw, hreads.segmentsOf p.raw]
    rfl

/-- A pattern that is read has the segments that are read from its path with
single slashes. -/
theorem parse_join_of_parse {raw : String} {p : Pattern} (hparse : parse raw = .ok p) :
    parse (Path.join (Path.split raw)) =
      .ok ⟨Path.join (Path.split raw), p.segments⟩ := by
  obtain ⟨-, -, hreads⟩ := parse_eq_ok_iff.mp hparse
  apply parse_eq_ok_iff.mpr
  refine ⟨Path.exists_toList_join _, rfl, ?_⟩
  rw [Path.split_join_split]
  exact hreads

end Pattern

end Trellis
