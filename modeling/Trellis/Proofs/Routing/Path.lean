import Trellis.Proofs.Except
import Trellis.Routing.Pattern
/-!
Segments of paths: splitting gives segments, and gives back the segments that were joined.  The literals of
a pattern that was read are segments.
-/

namespace Trellis

namespace Text

theorem splitChars_ne_nil (separator : Char) (cs : List Char) :
    splitChars separator cs ≠ [] := by
  induction cs with
  | nil => simp [splitChars]
  | cons c rest ih =>
      unfold splitChars
      split
      · simp
      · split <;> simp

/-- No piece holds the separator. -/
theorem not_mem_of_mem_splitChars {separator : Char} {cs piece : List Char}
    (hpiece : piece ∈ splitChars separator cs) : separator ∉ piece := by
  induction cs generalizing piece with
  | nil =>
      obtain rfl : piece = [] := by simpa [splitChars] using hpiece
      simp
  | cons c rest ih =>
      unfold splitChars at hpiece
      split at hpiece
      · rcases List.mem_cons.mp hpiece with rfl | hrest
        · simp
        · exact ih hrest
      · next hc =>
          split at hpiece
          · next hnil => exact absurd hnil (splitChars_ne_nil separator rest)
          · next first others hsplit =>
              rcases List.mem_cons.mp hpiece with rfl | hother
              · have hfirst := ih (hsplit ▸ List.mem_cons_self)
                simp [hfirst, Ne.symm hc]
              · exact ih (hsplit ▸ List.mem_cons_of_mem first hother)

/-- What stands before the first separator joins the first piece. -/
theorem splitChars_append_of_not_mem {separator : Char}
    {text cs first : List Char} {others : List (List Char)}
    (htext : separator ∉ text)
    (hsplit : splitChars separator cs = first :: others) :
    splitChars separator (text ++ cs) = (text ++ first) :: others := by
  induction text with
  | nil => simpa using hsplit
  | cons c rest ih =>
      have hc : c ≠ separator := fun h => htext (by simp [h])
      have hrest : separator ∉ rest := fun h => htext (by simp [h])
      rw [List.cons_append, splitChars, if_neg hc, ih hrest]
      rfl

end Text

namespace Path

/-- A segment of a path: a text without slashes that is not empty. -/
def IsSegment (s : String) : Prop := s ≠ "" ∧ '/' ∉ s.toList

theorem isSegment_of_mem_split {path s : String} (hmem : s ∈ split path) :
    IsSegment s := by
  simp only [split, List.mem_map, List.mem_filter] at hmem
  obtain ⟨piece, ⟨hpiece, hne⟩, rfl⟩ := hmem
  constructor
  · simpa using hne
  · simpa using Text.not_mem_of_mem_splitChars hpiece

/-- The text of joined segments comes apart at its slashes, after an empty
piece at the start. -/
theorem splitChars_flatMap {segments : List String}
    (hsegments : ∀ s ∈ segments, IsSegment s) :
    Text.splitChars '/' (segments.flatMap fun s => '/' :: s.toList) =
      [] :: segments.map String.toList := by
  induction segments with
  | nil => rfl
  | cons s rest ih =>
      have hrest := ih fun other h => hsegments other (List.mem_cons_of_mem s h)
      have hs := Text.splitChars_append_of_not_mem
        (hsegments s List.mem_cons_self).2 hrest
      rw [List.flatMap_cons, List.cons_append, Text.splitChars, if_pos rfl, hs]
      simp

/-- Splitting gives joined segments back. -/
theorem split_join {segments : List String}
    (hsegments : ∀ s ∈ segments, IsSegment s) :
    split (join segments) = segments := by
  cases segments with
  | nil => rfl
  | cons s rest =>
      have hfilter : ((s :: rest).map String.toList).filter
          (fun piece => piece ≠ []) = (s :: rest).map String.toList := by
        rw [List.filter_eq_self]
        intro piece hpiece
        obtain ⟨text, htext, rfl⟩ := List.mem_map.mp hpiece
        have hne := (hsegments text htext).1
        simpa using hne
      rw [join, if_neg (List.cons_ne_nil s rest), split, String.toList_ofList,
        splitChars_flatMap hsegments]
      simp only [List.filter_cons, ne_eq, not_true_eq_false, decide_false,
        Bool.false_eq_true, ↓reduceIte]
      have hmap := congrArg (List.map String.ofList) hfilter
      simpa [List.map_map, Function.comp_def] using hmap

theorem split_join_split (path : String) : split (join (split path)) = split path :=
  split_join fun _ hs => isSegment_of_mem_split hs

/-- A joined path starts with a slash. -/
theorem exists_toList_join (segments : List String) :
    ∃ rest, (join segments).toList = '/' :: rest := by
  cases segments with
  | nil => exact ⟨[], rfl⟩
  | cons s rest => exact ⟨s.toList ++ rest.flatMap fun s => '/' :: s.toList, by simp [join]⟩

theorem join_injective {first second : List String}
    (hfirst : ∀ s ∈ first, IsSegment s) (hsecond : ∀ s ∈ second, IsSegment s)
    (heq : join first = join second) : first = second := by
  rw [← split_join hfirst, heq, split_join hsecond]

theorem covers_iff {top path : List String} : covers top path ↔ top <+: path :=
  List.isPrefixOf_iff_prefix

end Path

namespace Pattern

theorem mem_of_literal_mem_segmentsOf {raw text : String} {parts seen : List String}
    {segments : List Segment} (hread : segmentsOf raw seen parts = .ok segments)
    (hmem : .literal text ∈ segments) : text ∈ parts := by
  induction parts generalizing seen segments with
  | nil =>
      obtain rfl : [] = segments := by simpa [segmentsOf] using hread
      simp at hmem
  | cons part rest ih =>
      unfold segmentsOf at hread
      split at hread
      · split at hread
        · obtain rfl := Except.ok.inj hread
          simp at hmem
        · contradiction
      · split at hread
        · split at hread
          · contradiction
          · dsimp only at hread
            split at hread
            · contradiction
            · obtain ⟨others, hothers, rfl⟩ := Except.map_eq_ok_iff.mp hread
              have hother : .literal text ∈ others := by simpa using hmem
              exact List.mem_cons_of_mem part (ih hothers hother)
        · obtain ⟨others, hothers, rfl⟩ := Except.map_eq_ok_iff.mp hread
          rcases List.mem_cons.mp hmem with heq | hother
          · rw [Segment.literal.inj heq]
            exact List.mem_cons_self
          · exact List.mem_cons_of_mem part (ih hothers hother)

/-- A pattern keeps the text that it was read from. -/
theorem raw_of_parse {raw : String} {p : Pattern} (hparse : parse raw = .ok p) :
    p.raw = raw := by
  unfold parse at hparse
  split at hparse
  · obtain ⟨segments, -, rfl⟩ := Except.map_eq_ok_iff.mp hparse
    rfl
  · contradiction

/-- The literals of a pattern that was read are segments. -/
theorem isSegment_of_parse {raw text : String} {p : Pattern}
    (hparse : parse raw = .ok p) (hmem : .literal text ∈ p.segments) :
    Path.IsSegment text := by
  unfold parse at hparse
  split at hparse
  · obtain ⟨segments, hread, rfl⟩ := Except.map_eq_ok_iff.mp hparse
    exact Path.isSegment_of_mem_split
      (mem_of_literal_mem_segmentsOf hread hmem)
  · contradiction

end Pattern

end Trellis
