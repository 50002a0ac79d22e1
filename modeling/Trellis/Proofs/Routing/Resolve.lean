import Trellis.Proofs.Routing.Registry
import Trellis.Proofs.Routing.Search
/-!
What a router answers, said without its tree: among the accepted routes whose pattern matches the path, the
first in precedence that serves the method, or the methods of all of them.
-/

namespace Trellis

theorem Method.mem_sorted_iff {m : Method} {methods : List Method} :
    m ∈ Method.sorted methods ↔ m ∈ methods := by
  have hall : m ∈ Method.all := by cases m <;> decide
  simp [Method.sorted, hall]

theorem Method.sorted_pairwise (methods : List Method) :
    (Method.sorted methods).Pairwise
      fun first second => first.index < second.index := by
  apply List.Pairwise.filter
  decide

namespace Registration

variable {α : Type}

/-- Whether a route is for requests with this method. -/
def Serves (c : Registration α) (m : Method) : Prop :=
  c.method = m ∨ c.method = .any

/-- Which of two routes that match a path comes first: the one whose kinds of
segments come first position by position, and on one shape the one for the
method itself. -/
def Precedes (m : Method) (first second : Registration α) : Prop :=
  first.pattern.shape.ranks < second.pattern.shape.ranks ∨
    first.pattern.shape = second.pattern.shape ∧
      first.method = m ∧ second.method ≠ m

end Registration

namespace Registry

variable {α : Type}

/-- The accepted routes whose pattern matches the segments of a path. -/
def Matching (g : Registry α) (segments : List String)
    (c : Registration α) : Prop :=
  c ∈ g.accepted ∧ c.pattern.shape.Matches segments

theorem Valid.mem_iff {g : Registry α} (hvalid : g.Valid)
    {c : Registration α} :
    c ∈ g.accepted ↔
      g.router.root.leafAt? c.method c.pattern.shape = some c.leaf := by
  rw [hvalid]
  constructor
  · intro hmem
    exact ⟨c, hmem, rfl, rfl, rfl⟩
  · rintro ⟨other, hmem, hmethod, _, hleaf⟩
    exact Registration.eq_of_method_eq_of_leaf_eq hmethod hleaf ▸ hmem

/-- The node at the shape of an accepted route. -/
theorem Valid.exists_at? {g : Registry α} (hvalid : g.Valid)
    {c : Registration α} (hmem : c ∈ g.accepted) :
    ∃ node, g.router.root.at? c.pattern.shape = some node ∧
      node.leaf? c.method = some c.leaf :=
  Node.leafAt?_eq_some_iff.mp (hvalid.mem_iff.mp hmem)

/-- The route that a node gives for a method is accepted, and it is for any
method only if there is none for the method itself. -/
theorem Valid.exists_of_leafFor {g : Registry α} (hvalid : g.Valid)
    {m : Method} {path : Shape} {node : Node α} {leaf : Leaf α}
    (hat : g.router.root.at? path = some node)
    (hleaf : node.leafFor m = some leaf) :
    ∃ c ∈ g.accepted, c.pattern.shape = path ∧ c.leaf = leaf ∧
      (c.method = m ∨ c.method = .any ∧ node.leaf? m = none) := by
  rcases Node.leafFor_eq_some_iff.mp hleaf with hown | ⟨hnone, hany⟩
  · obtain ⟨c, hmem, hmethod, hshape, heq⟩ :=
      (hvalid m path leaf).mp (Node.leafAt?_eq_some_iff.mpr ⟨node, hat, hown⟩)
    exact ⟨c, hmem, hshape, heq, Or.inl hmethod⟩
  · obtain ⟨c, hmem, hmethod, hshape, heq⟩ :=
      (hvalid .any path leaf).mp (Node.leafAt?_eq_some_iff.mpr ⟨node, hat, hany⟩)
    exact ⟨c, hmem, hshape, heq, Or.inr ⟨hmethod, hnone⟩⟩

theorem leafFor_isSome_of_serves {m : Method} {node : Node α}
    {c : Registration α} (hleaf : node.leaf? c.method = some c.leaf)
    (hserves : c.Serves m) : (node.leafFor m).isSome := by
  rcases hserves with hmethod | hmethod
  · rw [hmethod] at hleaf
    simp [Node.leafFor, hleaf]
  · rw [hmethod] at hleaf
    cases hown : node.leaf? m <;> simp [Node.leafFor, hown, hleaf]

/-- A hit is the first of the accepted routes that match and serve the
method. -/
theorem Valid.search_hit {g : Registry α} (hvalid : g.Valid) {m : Method}
    {segments : List String} {leaf : Leaf α} {captures : List Capture}
    (hhit : g.router.root.search m segments = .hit leaf captures) :
    ∃ c, g.Matching segments c ∧ c.Serves m ∧ c.leaf = leaf ∧
      ∀ other, g.Matching segments other → other.Serves m →
        other = c ∨ c.Precedes m other := by
  obtain ⟨path, node, hmatches, hat, hleaf, _, hfirst⟩ :=
    Node.search_eq_hit hhit
  obtain ⟨c, hmem, rfl, heq, hmethod⟩ := hvalid.exists_of_leafFor hat hleaf
  refine ⟨c, ⟨hmem, hmatches⟩, hmethod.imp_right And.left, heq, ?_⟩
  rintro other ⟨hother, hotherMatches⟩ hserves
  obtain ⟨rival, hrival, hrivalLeaf⟩ := hvalid.exists_at? hother
  rcases hfirst other.pattern.shape rival hotherMatches hrival
      (leafFor_isSome_of_serves hrivalLeaf hserves) with hshape | hlt
  · by_cases hsame : other.method = c.method
    · exact Or.inl (hvalid.eq_of_mem hother hmem hsame hshape)
    · right
      right
      refine ⟨hshape.symm, ?_⟩
      rw [hshape, hat] at hrival
      obtain rfl := Option.some.inj hrival
      rcases hmethod with hown | ⟨hany, hnone⟩
      · exact ⟨hown, fun h => hsame (h.trans hown.symm)⟩
      · rcases hserves with hotherOwn | hotherAny
        · rw [hotherOwn, hnone] at hrivalLeaf
          contradiction
        · exact absurd (hotherAny.trans hany.symm) hsame
  · exact Or.inr (Or.inl hlt)

/-- After a miss no accepted route that matches serves the method, and the
methods met are those of all that match. -/
theorem Valid.search_miss {g : Registry α} (hvalid : g.Valid) {m : Method}
    {segments : List String} {allowed : List Method}
    (hmiss : g.router.root.search m segments = .miss allowed) :
    (∀ c, g.Matching segments c → ¬ c.Serves m) ∧
      ∀ other, other ∈ allowed ↔
        ∃ c, g.Matching segments c ∧ c.method = other := by
  obtain ⟨hnone, hmethods⟩ := Node.search_eq_miss hmiss
  constructor
  · rintro c ⟨hmem, hmatches⟩ hserves
    obtain ⟨node, hat, hleaf⟩ := hvalid.exists_at? hmem
    have hsome := leafFor_isSome_of_serves hleaf hserves
    simp [hnone _ node hmatches hat] at hsome
  · intro other
    rw [hmethods]
    constructor
    · rintro ⟨path, node, hmatches, hat, hother⟩
      obtain ⟨leaf, hleaf⟩ :=
        Option.isSome_iff_exists.mp (Node.mem_methods_iff.mp hother)
      obtain ⟨c, hmem, hmethod, rfl, _⟩ := (hvalid other path leaf).mp
        (Node.leafAt?_eq_some_iff.mpr ⟨node, hat, hleaf⟩)
      exact ⟨c, ⟨hmem, hmatches⟩, hmethod⟩
    · rintro ⟨c, ⟨hmem, hmatches⟩, rfl⟩
      obtain ⟨node, hat, hleaf⟩ := hvalid.exists_at? hmem
      exact ⟨c.pattern.shape, node, hmatches, hat,
        Node.mem_methods_iff.mpr (by simp [hleaf])⟩

/-- The right answer for a method and the segments of a path, by the accepted
routes alone. -/
inductive Answers (g : Registry α) (m : Method) (segments : List String) :
    Resolution α → Prop
  | found (c : Registration α) (params : Params) :
      g.Matching segments c → c.Serves m →
      (∀ other, g.Matching segments other → other.Serves m →
        other = c ∨ c.Precedes m other) →
      Answers g m segments (.found ⟨c.value, c.pattern, params⟩)
  | notFound :
      (∀ c, ¬ g.Matching segments c) → Answers g m segments .notFound
  | methodNotAllowed (allowed : List Method) :
      (∃ c, g.Matching segments c) →
      (∀ c, g.Matching segments c → ¬ c.Serves m) →
      allowed.Pairwise (fun first second => first.index < second.index) →
      (∀ other, other ∈ allowed ↔
        ∃ c, g.Matching segments c ∧ c.method = other) →
      Answers g m segments (.methodNotAllowed allowed)

theorem Valid.resolveSegments_answers {g : Registry α} (hvalid : g.Valid)
    (m : Method) (segments : List String) :
    g.Answers m segments (g.router.resolveSegments m segments) := by
  unfold Router.resolveSegments
  cases hsearch : g.router.root.search m segments with
  | hit leaf captures =>
      obtain ⟨c, hmatching, hserves, rfl, hfirst⟩ := hvalid.search_hit hsearch
      exact .found c _ hmatching hserves hfirst
  | miss allowed =>
      obtain ⟨hnone, hmethods⟩ := hvalid.search_miss hsearch
      cases allowed with
      | nil =>
          apply Answers.notFound
          intro c hmatching
          have hmet := (hmethods c.method).mpr ⟨c, hmatching, rfl⟩
          simp at hmet
      | cons met rest =>
          obtain ⟨c, hmatching, _⟩ := (hmethods met).mp (by simp)
          exact .methodNotAllowed _ ⟨c, hmatching⟩ hnone
            (Method.sorted_pairwise _)
            fun other => Method.mem_sorted_iff.trans (hmethods other)

/-- What a router answers after any calls of `insert`, for every method and
every path: the first route in precedence among those that match and serve
the method; nothing if none matches; else the methods of those that match. -/
theorem resolve_run (calls : List (Registration α)) (m : Method)
    (path : String) :
    let g := run calls
    let segments := Path.split path
    ((∃ route, g.router.resolve m path = .found route) ↔
      ∃ c, g.Matching segments c ∧ c.Serves m) ∧
    (∀ route, g.router.resolve m path = .found route →
      ∃ c, g.Matching segments c ∧ c.Serves m ∧
        route.pattern = c.pattern ∧ route.value = c.value ∧
        ∀ other, g.Matching segments other → other.Serves m →
          other = c ∨ c.Precedes m other) ∧
    (g.router.resolve m path = .notFound ↔
      ∀ c, ¬ g.Matching segments c) ∧
    ((∃ allowed, g.router.resolve m path = .methodNotAllowed allowed) ↔
      (∃ c, g.Matching segments c) ∧
        ∀ c, g.Matching segments c → ¬ c.Serves m) ∧
    (∀ allowed, g.router.resolve m path = .methodNotAllowed allowed →
      allowed.Pairwise (fun first second => first.index < second.index) ∧
      ∀ other, other ∈ allowed ↔
        ∃ c, g.Matching segments c ∧ c.method = other) := by
  intro g segments
  have hanswers : g.Answers m segments (g.router.resolve m path) :=
    (run_valid calls).resolveSegments_answers m segments
  generalize g.router.resolve m path = answer at hanswers ⊢
  cases hanswers with
  | found c params hmatching hserves hfirst =>
      refine ⟨⟨fun _ => ⟨c, hmatching, hserves⟩, fun _ => ⟨_, rfl⟩⟩, ?_,
        ⟨by simp, fun hnone => absurd hmatching (hnone c)⟩,
        ⟨by simp, fun hnone => absurd hserves (hnone.2 c hmatching)⟩, by simp⟩
      rintro route ⟨⟩
      exact ⟨c, hmatching, hserves, rfl, rfl, hfirst⟩
  | notFound hnone =>
      refine ⟨⟨by simp, ?_⟩, by simp, ⟨fun _ => hnone, fun _ => rfl⟩,
        ⟨by simp, ?_⟩, by simp⟩
      · rintro ⟨c, hmatching, _⟩
        exact absurd hmatching (hnone c)
      · rintro ⟨⟨c, hmatching⟩, _⟩
        exact absurd hmatching (hnone c)
  | methodNotAllowed allowed hsome hnone hsorted hmethods =>
      refine ⟨⟨by simp, ?_⟩, by simp, ⟨by simp, ?_⟩,
        ⟨fun _ => ⟨hsome, hnone⟩, fun _ => ⟨allowed, rfl⟩⟩, ?_⟩
      · rintro ⟨c, hmatching, hserves⟩
        exact absurd hserves (hnone c hmatching)
      · intro hempty
        obtain ⟨c, hmatching⟩ := hsome
        exact absurd hmatching (hempty c)
      · rintro _ ⟨⟩
        exact ⟨hsorted, hmethods⟩

end Registry

end Trellis
