import Trellis.Proofs.Routing.Tree
/-!
Backtracking as a scan.  The nodes that match a path, in the order in which a search comes to them, are its
stops; they are exactly the nodes at matching shapes, in increasing order of precedence, and a search ends
at the first of them that has a route for the method.
-/

namespace Trellis

namespace Shape

/-- A shape matches the segments of a path: a literal is the segment, a
parameter takes one segment, and a wildcard takes one or more, up to the end. -/
inductive Matches : Shape → List String → Prop
  | nil : Matches [] []
  | literal {path : Shape} {rest : List String} (text : String) :
      Matches path rest → Matches (.literal text :: path) (text :: rest)
  | param {path : Shape} {rest : List String} (segment : String) :
      Matches path rest → Matches (.param :: path) (segment :: rest)
  | wildcard (segment : String) (rest : List String) :
      Matches [.wildcard] (segment :: rest)

/-- What the parameters and the wildcard of a shape take of a path. -/
def captures : Shape → List String → List Capture
  | .literal _ :: path, _ :: rest => captures path rest
  | .param :: path, segment :: rest => .segment segment :: captures path rest
  | .wildcard :: _, segments => [.remaining segments]
  | _, _ => []

end Shape

/-- A literal comes before a parameter and a parameter before a wildcard. -/
def Edge.rank : Edge → Nat
  | .literal _ => 0
  | .param => 1
  | .wildcard => 2

/-- The kinds of the segments.  Shapes are compared by them position by
position. -/
def Shape.ranks (path : Shape) : List Nat := path.map Edge.rank

namespace Search

variable {α : Type}

/-- The outcome with captures in front. -/
def captureAll (taken : List Capture) : Search α → Search α
  | .hit leaf captures => .hit leaf (taken ++ captures)
  | .miss allowed => .miss allowed

@[simp] theorem captureAll_nil (s : Search α) : s.captureAll [] = s := by
  cases s <;> rfl

@[simp] theorem capture_captureAll (c : Capture) (taken : List Capture)
    (s : Search α) : (s.captureAll taken).capture c = s.captureAll (c :: taken) := by
  cases s <;> rfl

theorem capture_eq_captureAll (c : Capture) (s : Search α) :
    s.capture c = s.captureAll [c] := by
  cases s <;> rfl

theorem capture_orElse (c : Capture) (first second : Search α) :
    (first.orElse second).capture c =
      (first.capture c).orElse (second.capture c) := by
  cases first <;> cases second <;> rfl

theorem orElse_assoc (first second third : Search α) :
    (first.orElse second).orElse third =
      first.orElse (second.orElse third) := by
  cases first <;> cases second <;> cases third <;> simp [orElse]

@[simp] theorem miss_nil_orElse (s : Search α) : (miss []).orElse s = s := by
  cases s <;> rfl

@[simp] theorem orElse_miss_nil (s : Search α) : s.orElse (miss []) = s := by
  cases s <;> simp [orElse]

/-- The first hit of a list of outcomes, or the methods of all of them. -/
def first : List (Search α) → Search α
  | [] => .miss []
  | s :: rest => s.orElse (first rest)

theorem first_append (before after : List (Search α)) :
    first (before ++ after) = (first before).orElse (first after) := by
  induction before with
  | nil => simp [first]
  | cons s rest ih => rw [List.cons_append, first, first, ih, orElse_assoc]

theorem capture_first (c : Capture) (outcomes : List (Search α)) :
    (first outcomes).capture c = first (outcomes.map (capture c)) := by
  induction outcomes with
  | nil => rfl
  | cons s rest ih => rw [first, capture_orElse, ih, List.map_cons, first]

theorem first_eq_hit {outcomes : List (Search α)} {leaf : Leaf α}
    {captures : List Capture} (hhit : first outcomes = .hit leaf captures) :
    ∃ before after, outcomes = before ++ .hit leaf captures :: after ∧
      ∀ s ∈ before, ∃ allowed, s = .miss allowed := by
  induction outcomes with
  | nil => simp [first] at hhit
  | cons s rest ih =>
      cases s with
      | hit found taken =>
          simp only [first, orElse] at hhit
          exact ⟨[], rest, by rw [hhit]; rfl, by simp⟩
      | miss allowed =>
          have hrest : first rest = .hit leaf captures := by
            cases hfirst : first rest with
            | hit found taken => simpa [first, orElse, hfirst] using hhit
            | miss more => simp [first, orElse, hfirst] at hhit
          obtain ⟨before, after, hsplit, hbefore⟩ := ih hrest
          refine ⟨.miss allowed :: before, after, by rw [hsplit]; rfl, ?_⟩
          intro s hs
          rcases List.mem_cons.mp hs with rfl | hs
          · exact ⟨allowed, rfl⟩
          · exact hbefore s hs

theorem first_eq_miss {outcomes : List (Search α)} {allowed : List Method}
    (hmiss : first outcomes = .miss allowed) :
    (∀ s ∈ outcomes, ∃ met, s = .miss met) ∧
      ∀ m, m ∈ allowed ↔ ∃ met, .miss met ∈ outcomes ∧ m ∈ met := by
  induction outcomes generalizing allowed with
  | nil =>
      obtain rfl : [] = allowed := by simpa [first] using hmiss
      simp
  | cons s rest ih =>
      cases s with
      | hit found taken => simp [first, orElse] at hmiss
      | miss met =>
          cases hfirst : first rest with
          | hit found taken => simp [first, orElse, hfirst] at hmiss
          | miss more =>
              simp only [first, orElse, hfirst, Search.miss.injEq] at hmiss
              subst hmiss
              obtain ⟨hmisses, hmethods⟩ := ih hfirst
              refine ⟨?_, ?_⟩
              · intro s hs
                rcases List.mem_cons.mp hs with rfl | hs
                · exact ⟨met, rfl⟩
                · exact hmisses s hs
              · intro m
                simp only [List.mem_append, List.mem_cons, Search.miss.injEq,
                  hmethods m]
                constructor
                · rintro (hm | ⟨other, hother, hm⟩)
                  · exact ⟨met, Or.inl rfl, hm⟩
                  · exact ⟨other, Or.inr hother, hm⟩
                · rintro ⟨other, rfl | hother, hm⟩
                  · exact Or.inl hm
                  · exact Or.inr ⟨other, hother, hm⟩

end Search

namespace Node

variable {α : Type}

/-- The stops below an edge, given those of its child. -/
def stopsBelow (edge : Edge) (inner : Node α → List (Shape × Node α))
    (n : Node α) : List (Shape × Node α) :=
  match n.child? edge with
  | some child => (inner child).map fun stop => (edge :: stop.1, stop.2)
  | none => []

/-- The nodes that match the segments of a path, with their shapes, in the
order of a search. -/
def stops : List String → Node α → List (Shape × Node α)
  | [], n => [([], n)]
  | segment :: rest, n =>
      n.stopsBelow (.literal segment) (stops rest) ++
        (n.stopsBelow .param (stops rest) ++
          n.stopsBelow .wildcard fun child => [([], child)])

theorem mem_stopsBelow {edge : Edge} {inner : Node α → List (Shape × Node α)}
    {n node : Node α} {path : Shape} :
    (path, node) ∈ n.stopsBelow edge inner ↔
      ∃ child rest, n.child? edge = some child ∧ path = edge :: rest ∧
        (rest, node) ∈ inner child := by
  unfold stopsBelow
  cases n.child? edge with
  | none => simp
  | some child =>
      simp only [List.mem_map, Prod.mk.injEq, Option.some.injEq]
      constructor
      · rintro ⟨⟨rest, inside⟩, hmem, rfl, rfl⟩
        exact ⟨child, rest, rfl, rfl, hmem⟩
      · rintro ⟨_, rest, rfl, rfl, hmem⟩
        exact ⟨(rest, node), hmem, rfl, rfl⟩

/-- The stops are exactly the nodes at shapes that match. -/
theorem mem_stops {segments : List String} {n node : Node α} {path : Shape} :
    (path, node) ∈ n.stops segments ↔
      path.Matches segments ∧ n.at? path = some node := by
  induction segments generalizing n path with
  | nil =>
      constructor
      · intro hmem
        obtain ⟨rfl, rfl⟩ : path = [] ∧ node = n := by
          simpa [stops] using hmem
        exact ⟨.nil, rfl⟩
      · rintro ⟨hmatches, hat⟩
        cases hmatches
        obtain rfl := Option.some.inj hat
        simp [stops]
  | cons segment rest ih =>
      simp only [stops, List.mem_append, mem_stopsBelow]
      constructor
      · rintro (⟨child, tail, hchild, rfl, hmem⟩ |
          ⟨child, tail, hchild, rfl, hmem⟩ | ⟨child, tail, hchild, rfl, hmem⟩)
        · obtain ⟨hmatches, hat⟩ := ih.mp hmem
          exact ⟨.literal segment hmatches, by simpa [at?, hchild] using hat⟩
        · obtain ⟨hmatches, hat⟩ := ih.mp hmem
          exact ⟨.param segment hmatches, by simpa [at?, hchild] using hat⟩
        · obtain ⟨rfl, rfl⟩ : tail = [] ∧ node = child := by simpa using hmem
          exact ⟨.wildcard segment rest, by simp [at?, hchild]⟩
      · rintro ⟨hmatches, hat⟩
        cases hmatches with
        | literal _ htail =>
            obtain ⟨child, hchild, hat⟩ := Option.bind_eq_some_iff.mp hat
            exact Or.inl ⟨child, _, hchild, rfl, ih.mpr ⟨htail, hat⟩⟩
        | param _ htail =>
            obtain ⟨child, hchild, hat⟩ := Option.bind_eq_some_iff.mp hat
            exact Or.inr (Or.inl ⟨child, _, hchild, rfl, ih.mpr ⟨htail, hat⟩⟩)
        | wildcard _ _ =>
            obtain ⟨child, hchild, hat⟩ := Option.bind_eq_some_iff.mp hat
            obtain rfl := Option.some.inj hat
            exact Or.inr (Or.inr ⟨_, [], hchild, rfl, by simp⟩)

theorem stopsBelow_pairwise {edge : Edge} {inner : Node α → List (Shape × Node α)}
    (hinner : ∀ child, (inner child).Pairwise
      fun first second => first.1.ranks < second.1.ranks) (n : Node α) :
    (n.stopsBelow edge inner).Pairwise
      fun first second => first.1.ranks < second.1.ranks := by
  unfold stopsBelow
  cases n.child? edge with
  | none => exact List.Pairwise.nil
  | some child =>
      rw [List.pairwise_map]
      apply (hinner child).imp
      intro first second hlt
      exact List.cons_lt_cons_iff.mpr (Or.inr ⟨rfl, hlt⟩)

theorem ranks_lt_of_mem_stopsBelow {first second : Edge}
    (hlt : first.rank < second.rank)
    {left right : Node α → List (Shape × Node α)} {n : Node α} :
    ∀ one ∈ n.stopsBelow first left, ∀ two ∈ n.stopsBelow second right,
      one.1.ranks < two.1.ranks := by
  rintro ⟨path, node⟩ hone ⟨other, far⟩ htwo
  obtain ⟨_, rest, _, rfl, _⟩ := mem_stopsBelow.mp hone
  obtain ⟨_, tail, _, rfl, _⟩ := mem_stopsBelow.mp htwo
  exact List.cons_lt_cons_iff.mpr (Or.inl hlt)

/-- A search comes to its stops in increasing order of precedence. -/
theorem stops_pairwise (segments : List String) (n : Node α) :
    (n.stops segments).Pairwise
      fun first second => first.1.ranks < second.1.ranks := by
  induction segments generalizing n with
  | nil => simp [stops]
  | cons segment rest ih =>
      rw [stops, List.pairwise_append, List.pairwise_append]
      refine ⟨stopsBelow_pairwise ih n, ⟨stopsBelow_pairwise ih n,
        stopsBelow_pairwise (fun child => List.pairwise_singleton _ _) n,
        ranks_lt_of_mem_stopsBelow (by simp [Edge.rank])⟩, ?_⟩
      intro one hone two htwo
      rcases List.mem_append.mp htwo with htwo | htwo
      · exact ranks_lt_of_mem_stopsBelow (by simp [Edge.rank]) one hone two htwo
      · exact ranks_lt_of_mem_stopsBelow (by simp [Edge.rank]) one hone two htwo

/-- What a search finds at a stop. -/
def found (m : Method) (segments : List String) (stop : Shape × Node α) :
    Search α :=
  (stop.2.here m).captureAll (stop.1.captures segments)

theorem first_stopsBelow (edge : Edge) (inner : Node α → List (Shape × Node α))
    (outcome : Shape × Node α → Search α) (result : Node α → Search α)
    (hinner : ∀ child, result child = Search.first
      ((inner child).map fun stop => outcome (edge :: stop.1, stop.2)))
    (n : Node α) :
    (match n.child? edge with
      | some child => result child
      | none => .miss []) =
      Search.first ((n.stopsBelow edge inner).map outcome) := by
  unfold stopsBelow
  cases n.child? edge with
  | none => rfl
  | some child =>
      rw [List.map_map]
      exact hinner child

/-- A search is the scan of its stops. -/
theorem search_eq_first (m : Method) (segments : List String) (n : Node α) :
    n.search m segments =
      Search.first ((n.stops segments).map (found m segments)) := by
  induction segments generalizing n with
  | nil => simp [search, stops, found, Shape.captures, Search.first]
  | cons segment rest ih =>
      have hliteral := first_stopsBelow (.literal segment) (stops rest)
        (found m (segment :: rest)) (search m rest) (fun child => ih child) n
      have hparam := first_stopsBelow .param (stops rest)
        (found m (segment :: rest))
        (fun child => (search m rest child).capture (.segment segment))
        (fun child => by
          rw [ih child, Search.capture_first, List.map_map]
          congr 1
          apply List.map_congr_left
          intro stop _
          exact Search.capture_captureAll _ _ _) n
      have hwildcard := first_stopsBelow .wildcard (fun child => [([], child)])
        (found m (segment :: rest))
        (fun child => (child.here m).capture (.remaining (segment :: rest)))
        (fun child => by
          simp [Search.first, found, Shape.captures,
            Search.capture_eq_captureAll]) n
      rw [stops, List.map_append, List.map_append, Search.first_append,
        Search.first_append, ← hliteral, ← hparam, ← hwildcard]
      rfl

theorem found_eq_hit_iff {m : Method} {segments : List String}
    {stop : Shape × Node α} {leaf : Leaf α} {captures : List Capture} :
    found m segments stop = .hit leaf captures ↔
      stop.2.leafFor m = some leaf ∧ captures = stop.1.captures segments := by
  unfold found here
  cases stop.2.leafFor m <;> simp [Search.captureAll, eq_comm]

theorem found_eq_miss_iff {m : Method} {segments : List String}
    {stop : Shape × Node α} {allowed : List Method} :
    found m segments stop = .miss allowed ↔
      stop.2.leafFor m = none ∧ allowed = stop.2.methods := by
  unfold found here
  cases stop.2.leafFor m <;> simp [Search.captureAll, eq_comm]

/-- A hit is the route for the method at a matching shape, and no matching
shape with a route for the method comes before it. -/
theorem search_eq_hit {m : Method} {segments : List String} {n : Node α}
    {leaf : Leaf α} {captures : List Capture}
    (hhit : n.search m segments = .hit leaf captures) :
    ∃ (path : Shape) (node : Node α), path.Matches segments ∧ n.at? path = some node ∧
      node.leafFor m = some leaf ∧ captures = path.captures segments ∧
      ∀ (other : Shape) (rival : Node α), other.Matches segments →
        n.at? other = some rival → (rival.leafFor m).isSome →
        other = path ∨ path.ranks < other.ranks := by
  rw [search_eq_first] at hhit
  obtain ⟨before, after, hsplit, hbefore⟩ := Search.first_eq_hit hhit
  obtain ⟨front, back, hstops, hfront, hback⟩ := List.map_eq_append_iff.mp hsplit
  obtain ⟨⟨path, node⟩, tail, rfl, hfound, htail⟩ := List.map_eq_cons_iff.mp hback
  obtain ⟨hleaf, hcaptures⟩ := found_eq_hit_iff.mp hfound
  have hmem : (path, node) ∈ n.stops segments := by simp [hstops]
  obtain ⟨hmatches, hat⟩ := mem_stops.mp hmem
  refine ⟨path, node, hmatches, hat, hleaf, hcaptures, ?_⟩
  intro other rival hother hrival hserves
  have hordered := stops_pairwise segments n
  rw [hstops, List.pairwise_append, List.pairwise_cons] at hordered
  have hplace : (other, rival) ∈ n.stops segments :=
    mem_stops.mpr ⟨hother, hrival⟩
  rw [hstops] at hplace
  rcases List.mem_append.mp hplace with hearlier | hlater
  · obtain ⟨allowed, hmiss⟩ := hbefore (found m segments (other, rival)) (by
      rw [← hfront]
      exact List.mem_map_of_mem hearlier)
    have hnone := (found_eq_miss_iff.mp hmiss).1
    simp [hnone] at hserves
  · rcases List.mem_cons.mp hlater with hsame | hafter
    · exact Or.inl (congrArg Prod.fst hsame)
    · exact Or.inr (hordered.2.1.1 (other, rival) hafter)

/-- After a miss no matching shape has a route for the method, and the methods
of all matching shapes are known. -/
theorem search_eq_miss {m : Method} {segments : List String} {n : Node α}
    {allowed : List Method} (hmiss : n.search m segments = .miss allowed) :
    (∀ (path : Shape) (node : Node α), path.Matches segments →
        n.at? path = some node → node.leafFor m = none) ∧
      ∀ other, other ∈ allowed ↔ ∃ (path : Shape) (node : Node α),
        path.Matches segments ∧ n.at? path = some node ∧
          other ∈ node.methods := by
  rw [search_eq_first] at hmiss
  obtain ⟨hmisses, hmethods⟩ := Search.first_eq_miss hmiss
  have hnone : ∀ (path : Shape) (node : Node α), path.Matches segments →
      n.at? path = some node → node.leafFor m = none := by
    intro path node hmatches hat
    obtain ⟨met, hmet⟩ := hmisses (found m segments (path, node))
      (List.mem_map_of_mem (mem_stops.mpr ⟨hmatches, hat⟩))
    exact (found_eq_miss_iff.mp hmet).1
  refine ⟨hnone, fun other => (hmethods other).trans ?_⟩
  constructor
  · rintro ⟨met, hmet, hother⟩
    obtain ⟨⟨path, node⟩, hstop, hfound⟩ := List.mem_map.mp hmet
    obtain ⟨hmatches, hat⟩ := mem_stops.mp hstop
    exact ⟨path, node, hmatches, hat, (found_eq_miss_iff.mp hfound).2 ▸ hother⟩
  · rintro ⟨path, node, hmatches, hat, hother⟩
    exact ⟨node.methods, List.mem_map.mpr ⟨(path, node),
      mem_stops.mpr ⟨hmatches, hat⟩,
      found_eq_miss_iff.mpr ⟨hnone path node hmatches hat, rfl⟩⟩, hother⟩

end Node

end Trellis
