import Mathlib.Data.List.Forall2
import Trellis.Proofs.Routing.Resolve
/-!
The parameters of a found route.  They have the names of its own pattern, and their values come from the pieces
that turn the pattern back into the path; which branches a search has tried before leaves no trace in them.
-/

namespace Trellis

namespace Percent

/-- A piece of a path decodes to a value: to the text that its decoded bytes
spell, or to itself if they are not UTF-8. -/
inductive Decodes (piece : String) : String → Prop
  | text {value : String} :
      Utf8.decode? (decode (Utf8.encode piece)) = some value → Decodes piece value
  | raw : Utf8.decode? (decode (Utf8.encode piece)) = none → Decodes piece piece

theorem decodes_decodeText (piece : String) : Decodes piece (decodeText piece) := by
  unfold decodeText
  cases hdecode : Utf8.decode? (decode (Utf8.encode piece)) with
  | some value => exact .text hdecode
  | none => exact .raw hdecode

end Percent

namespace Segment

/-- The segments of a pattern, with pieces in place of its parameters and its
wildcard, are those of a path.  A parameter is replaced by one segment, and a
wildcard by one or more, up to the end, joined by slashes. -/
inductive Spells : List Segment → List String → List String → Prop
  | nil : Spells [] [] []
  | literal {pattern : List Segment} {pieces path : List String} (text : String) :
      Spells pattern pieces path →
        Spells (.literal text :: pattern) pieces (text :: path)
  | param {pattern : List Segment} {pieces path : List String}
      (name segment : String) :
      Spells pattern pieces path →
        Spells (.param name :: pattern) (segment :: pieces) (segment :: path)
  | wildcard (segment : String) (rest : List String) :
      Spells [.wildcard] ["/".intercalate (segment :: rest)] (segment :: rest)

/-- There is one piece for each name of the pattern. -/
theorem Spells.length_eq {pattern : List Segment} {pieces path : List String}
    (hspells : Spells pattern pieces path) :
    pieces.length = (pattern.filterMap name?).length := by
  induction hspells with
  | nil => rfl
  | literal text _ ih => exact ih
  | param name segment _ ih => simpa [name?] using ih
  | wildcard segment rest => rfl

/-- What the shape of a pattern captures of a path that it matches spells the
path. -/
theorem spells_captures {pattern : List Segment} {path : List String}
    (hmatches : Shape.Matches (pattern.map edge) path) :
    Spells pattern ((Shape.captures (pattern.map edge) path).map Capture.piece)
      path := by
  induction pattern generalizing path with
  | nil =>
      cases hmatches
      exact .nil
  | cons segment rest ih =>
      cases segment with
      | literal text =>
          cases hmatches with
          | literal _ htail => exact .literal text (ih htail)
      | param name =>
          cases hmatches with
          | param taken htail => exact .param name taken (ih htail)
      | wildcard =>
          rw [List.map_cons] at hmatches
          generalize hshape : rest.map edge = shape at hmatches ⊢
          cases hmatches with
          | wildcard first others =>
              obtain rfl := List.map_eq_nil_iff.mp hshape
              exact .wildcard first others

end Segment

namespace Registry

variable {α : Type}

/-- The captures of a hit are those that its own pattern takes of the path. -/
theorem Valid.captures_of_hit {g : Registry α} (hvalid : g.Valid) {m : Method}
    {segments : List String} {leaf : Leaf α} {captures : List Capture}
    (hhit : g.router.root.search m segments = .hit leaf captures) :
    leaf.pattern.shape.Matches segments ∧
      captures = leaf.pattern.shape.captures segments := by
  obtain ⟨path, node, hmatches, hat, hleaf, hcaptures, -⟩ :=
    Node.search_eq_hit hhit
  obtain ⟨c, -, rfl, rfl, -⟩ := hvalid.exists_of_leafFor hat hleaf
  exact ⟨hmatches, hcaptures⟩

/-- The parameters of a found route have the names of its pattern, in order.
Their values are decoded from pieces, one for each name, that put into the
pattern give back the segments of the path. -/
theorem params_of_found {calls : List (Registration α)} {m : Method}
    {path : String} {route : Match α}
    (hfound : (run calls).router.resolve m path = .found route) :
    route.params.entries.map (·.1) = route.pattern.paramNames ∧
      ∃ pieces : List String,
        pieces.length = route.pattern.paramNames.length ∧
        Segment.Spells route.pattern.segments pieces (Path.split path) ∧
        List.Forall₂ Percent.Decodes pieces
          (route.params.entries.map (·.2)) := by
  unfold Router.resolve Router.resolveSegments at hfound
  cases hsearch : (run calls).router.root.search m (Path.split path) with
  | miss allowed =>
      rw [hsearch] at hfound
      cases allowed <;> contradiction
  | hit leaf captures =>
      rw [hsearch] at hfound
      obtain rfl := Resolution.found.inj hfound
      obtain ⟨hmatches, hcaptures⟩ := (run_valid calls).captures_of_hit hsearch
      let pieces := captures.map Capture.piece
      have hspells : Segment.Spells leaf.pattern.segments pieces
          (Path.split path) := by
        rw [show pieces = _ from congrArg (List.map Capture.piece) hcaptures]
        exact Segment.spells_captures hmatches
      have hlength : pieces.length = leaf.pattern.paramNames.length :=
        hspells.length_eq
      have hvalues : captures.map Capture.value =
          pieces.map Percent.decodeText := by
        simp [pieces, Function.comp_def, Capture.value]
      refine ⟨?_, pieces, hlength, hspells, ?_⟩
      · apply List.map_fst_zip
        exact Nat.le_of_eq (by simp [hvalues, hlength])
      · dsimp only
        rw [List.map_snd_zip (Nat.le_of_eq (by simp [hvalues, hlength])), hvalues,
          List.forall₂_map_right_iff, List.forall₂_same]
        exact fun piece _ => Percent.decodes_decodeText piece

/-- Two routes share the edge of a parameter that each names its own way.  The
first branch that the search enters is abandoned, and the route that is found
binds its own names alone. -/
theorem params_of_found_shared :
    let calls : List (Registration Nat) :=
      [⟨.get, ⟨"/:a/:b/x", [.param "a", .param "b", .literal "x"]⟩, 1⟩,
        ⟨.get, ⟨"/:dir/*", [.param "dir", .wildcard]⟩, 2⟩]
    let route : Match Nat :=
      ⟨2, ⟨"/:dir/*", [.param "dir", .wildcard]⟩,
        ⟨[("dir", Percent.decodeText "u%20v"), ("*", Percent.decodeText "p/q")]⟩⟩
    (run calls).router.resolve .get "/u%20v/p/q" = .found route ∧
      route.params.entries.map (·.1) = route.pattern.paramNames ∧
      ∃ pieces : List String,
        pieces.length = route.pattern.paramNames.length ∧
        Segment.Spells route.pattern.segments pieces
          (Path.split "/u%20v/p/q") ∧
        List.Forall₂ Percent.Decodes pieces
          (route.params.entries.map (·.2)) := by
  intro calls route
  have hfound : (run calls).router.resolve .get "/u%20v/p/q" =
      .found route := rfl
  exact ⟨hfound, params_of_found hfound⟩

end Registry

end Trellis
