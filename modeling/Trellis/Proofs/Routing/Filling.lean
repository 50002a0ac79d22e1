import Trellis.Proofs.Routing.Captures
import Trellis.Proofs.Routing.Pattern
import Trellis.Proofs.Text.Percent
/-!
Patterns filled with texts.  A pattern becomes a path when a text is put in place of each capture, encoded so that it
stays in its segment.  The pattern matches this path, and captures of it the texts that were put in.
-/

namespace Trellis

/-- Texts for what a pattern captures: one for the parameter of each name, and one or more
for the wildcard.  None of them is empty. -/
structure Filling where
  value : String → String
  rest : List String
  value_ne (name : String) : value name ≠ ""
  rest_ne : rest ≠ []
  ne_of_mem_rest (text : String) : text ∈ rest → text ≠ ""

namespace Segment

/-- A segment of a pattern as segments of a path: a literal as it is, and encoded the text
for a parameter and the texts for the wildcard. -/
def written (f : Filling) : Segment → List String
  | .literal text => [text]
  | .param name => [Percent.encodeText (f.value name)]
  | .wildcard => f.rest.map Percent.encodeText

/-- What the segment captures of a path that was written: its text, or its texts joined by
slashes. -/
def captured? (f : Filling) : Segment → Option String
  | .literal _ => none
  | .param name => some (f.value name)
  | .wildcard => some ("/".intercalate f.rest)

/-- What is written for a segment is a literal or an encoded text. -/
theorem mem_written {f : Filling} {segment : Segment} {piece : String}
    (hmem : piece ∈ segment.written f) :
    segment = .literal piece ∨ ∃ text, text ≠ "" ∧ piece = Percent.encodeText text := by
  cases segment with
  | literal text => exact Or.inl (congrArg literal (List.mem_singleton.mp hmem).symm)
  | param name => exact Or.inr ⟨f.value name, f.value_ne name, List.mem_singleton.mp hmem⟩
  | wildcard =>
      obtain ⟨text, htext, rfl⟩ := List.mem_map.mp hmem
      exact Or.inr ⟨text, f.ne_of_mem_rest text htext, rfl⟩

end Segment

theorem Percent.isSegment_encodeText {text : String} (htext : text ≠ "") :
    Path.IsSegment (encodeText text) :=
  ⟨encodeText_ne htext, (separator_not_mem_encodeText text).1⟩

namespace Pattern

variable (p : Pattern) (f : Filling)

/-- The segments of the path that a pattern is filled to. -/
def written : List String := p.segments.flatMap (Segment.written f)

/-- The path that a pattern is filled to. -/
def write : String := Path.join (p.written f)

/-- The texts that were put in, one for each capture of the pattern. -/
def captured : List String := p.segments.filterMap (Segment.captured? f)

/-- The captures by name. -/
def filled : Params := ⟨p.paramNames.zip (p.captured f)⟩

theorem length_captured : (p.captured f).length = p.paramNames.length := by
  rw [captured, paramNames]
  induction p.segments with
  | nil => rfl
  | cons segment rest ih =>
      cases segment with
      | literal text => exact ih
      | param name => simpa [List.filterMap_cons, Segment.captured?, Segment.name?] using ih
      | wildcard => simpa [List.filterMap_cons, Segment.captured?, Segment.name?] using ih

theorem names_filled : (p.filled f).entries.map (·.1) = p.paramNames :=
  List.map_fst_zip (Nat.le_of_eq (p.length_captured f).symm)

theorem values_filled : (p.filled f).entries.map (·.2) = p.captured f :=
  List.map_snd_zip (Nat.le_of_eq (p.length_captured f))

variable {p f} {raw : String}

/-- A pattern that is read matches what it is filled to, and captures the texts that were put
in.  Its parts are read one by one, and the wildcard is the last of them. -/
theorem Reads.matches_written {seen parts : List String} {segments : List Segment}
    (hreads : Reads seen parts segments) (f : Filling) :
    let path := segments.flatMap (Segment.written f)
    Shape.Matches (segments.map Segment.edge) path ∧
      (Shape.captures (segments.map Segment.edge) path).map Capture.value =
        segments.filterMap (Segment.captured? f) := by
  induction hreads with
  | nil => exact ⟨.nil, rfl⟩
  | wildcard =>
      obtain ⟨first, others, hrest⟩ := List.exists_cons_of_ne_nil f.rest_ne
      have hdecoded : Percent.decodeText ("/".intercalate (f.rest.map Percent.encodeText)) =
          "/".intercalate f.rest := Percent.decodeText_intercalate f.rest
      simp only [List.flatMap_singleton, Segment.written, List.map_cons, List.map_nil,
        Segment.edge, Shape.captures, Capture.value, Capture.piece, hdecoded,
        List.filterMap_cons, List.filterMap_nil, Segment.captured?, and_true]
      rw [hrest]
      exact .wildcard _ _
  | param _ _ _ _ ih =>
      obtain ⟨hmatches, hcaptures⟩ := ih
      refine ⟨.param _ hmatches, ?_⟩
      simp only [List.flatMap_cons, Segment.written, List.cons_append, List.nil_append,
        List.map_cons, Segment.edge, Shape.captures, Capture.value, Capture.piece,
        Percent.decodeText_encodeText, List.filterMap_cons, Segment.captured?]
      exact congrArg _ hcaptures
  | literal _ _ _ ih =>
      obtain ⟨hmatches, hcaptures⟩ := ih
      exact ⟨.literal _ hmatches, hcaptures⟩

theorem shape_matches_written (hparse : parse raw = .ok p) (f : Filling) :
    p.shape.Matches (p.written f) ∧
      (p.shape.captures (p.written f)).map Capture.value = p.captured f := by
  obtain ⟨-, -, hreads⟩ := parse_eq_ok_iff.mp hparse
  exact hreads.matches_written f

/-- What a pattern is filled to are segments. -/
theorem isSegment_of_mem_written (hparse : parse raw = .ok p) {piece : String}
    (hmem : piece ∈ p.written f) : Path.IsSegment piece := by
  obtain ⟨segment, hsegment, hpiece⟩ := List.mem_flatMap.mp hmem
  rcases Segment.mem_written hpiece with rfl | ⟨text, htext, rfl⟩
  · exact isSegment_of_parse hparse hsegment
  · exact Percent.isSegment_encodeText htext

theorem split_write (hparse : parse raw = .ok p) (f : Filling) :
    Path.split (p.write f) = p.written f :=
  Path.split_join fun _ hmem => isSegment_of_mem_written hparse hmem

/-- No text that is put in ends the path of a target. -/
theorem mark_not_mem_written (hliterals : ∀ text, .literal text ∈ p.segments → '?' ∉ text.toList)
    {piece : String} (hmem : piece ∈ p.written f) : '?' ∉ piece.toList := by
  obtain ⟨segment, hsegment, hpiece⟩ := List.mem_flatMap.mp hmem
  rcases Segment.mem_written hpiece with rfl | ⟨text, -, rfl⟩
  · exact hliterals piece hsegment
  · exact (Percent.separator_not_mem_encodeText text).2

end Pattern

namespace Registry

variable {α : Type}

/-- A new router takes any pattern. -/
theorem exists_insert_empty (m : Method) (p : Pattern) (value : α) :
    ∃ router, Router.empty.insert m p value = .ok router := by
  apply empty_valid.exists_insert
  rintro ⟨old, hmem, -⟩
  exact List.not_mem_nil hmem

/-- A router with one route finds it for each path that its pattern matches. -/
theorem resolveSegments_of_insert_empty {m asked : Method} {p : Pattern} {value : α}
    {router : Router α} (hinsert : Router.empty.insert m p value = .ok router)
    {segments : List String} (hmatches : p.shape.Matches segments)
    (hserves : m = asked ∨ m = .any) :
    router.resolveSegments asked segments = .found ⟨value, p,
      ⟨p.paramNames.zip ((p.shape.captures segments).map Capture.value)⟩⟩ := by
  let call : Registration α := ⟨m, p, value⟩
  have hvalid : (Registry.mk router [call]).Valid := empty_valid.accept hinsert
  rw [Router.resolveSegments]
  cases hsearch : router.root.search asked segments with
  | miss allowed =>
      have hnone := (hvalid.search_miss hsearch).1 call
      exact absurd hserves (hnone ⟨List.mem_singleton_self call, hmatches⟩)
  | hit leaf captures =>
      obtain ⟨c, hmatching, -, rfl, -⟩ := hvalid.search_hit hsearch
      obtain rfl := List.mem_singleton.mp hmatching.1
      rw [(hvalid.captures_of_hit hsearch).2]
      rfl

/-- A router with one route finds it for each path that its pattern is filled to, and has the
texts that were put in for its captures. -/
theorem resolve_write {raw : String} {p : Pattern} (hparse : Pattern.parse raw = .ok p)
    (f : Filling) {m asked : Method} {value : α} {router : Router α}
    (hinsert : Router.empty.insert m p value = .ok router) (hserves : m = asked ∨ m = .any) :
    router.resolve asked (p.write f) = .found ⟨value, p, p.filled f⟩ := by
  obtain ⟨hmatches, hcaptures⟩ := Pattern.shape_matches_written hparse f
  rw [Router.resolve, Pattern.split_write hparse,
    resolveSegments_of_insert_empty hinsert hmatches hserves, hcaptures]
  rfl

end Registry

end Trellis
