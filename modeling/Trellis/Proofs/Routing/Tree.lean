import Trellis.Routing.Router
/-!
The tree of a router read as a map from shapes and methods to routes.  `leafAt?_insert?` is the law of
insertion: the place of the pattern gets the route and every other place keeps its own.
-/

namespace Trellis

/-- A step down the tree: a segment of a pattern without the name of its
parameter. -/
inductive Edge
  | literal (text : String)
  | param
  | wildcard
deriving DecidableEq, Repr

def Segment.edge : Segment → Edge
  | .literal text => .literal text
  | .param _ => .param
  | .wildcard => .wildcard

/-- A way down the tree. -/
abbrev Shape := List Edge

/-- The place of a pattern in the tree.  Patterns that differ only in
parameter names have one shape. -/
def Pattern.shape (p : Pattern) : Shape := p.segments.map Segment.edge

namespace Node

variable {α : Type}

/-- The child below an edge. -/
def child? (n : Node α) : Edge → Option (Node α)
  | .literal text => n.literal? text
  | .param => n.param
  | .wildcard => n.wildcard

/-- Put a child below an edge, in place of the one that was there. -/
def setChild (n child : Node α) : Edge → Node α
  | .literal text =>
      .mk (setLiteral text child n.literals) n.param n.wildcard n.leaves
  | .param => .mk n.literals (some child) n.wildcard n.leaves
  | .wildcard => .mk n.literals n.param (some child) n.leaves

theorem insert?_cons (m : Method) (leaf : Leaf α) (segment : Segment)
    (rest : List Segment) (n : Node α) :
    insert? m leaf (segment :: rest) n =
      (insert? m leaf rest ((n.child? segment.edge).getD empty)).map
        fun child => n.setChild child segment.edge := by
  cases segment <;> rfl

theorem find?_setLiteral (text other : String) (child : Node α)
    (literals : List (String × Node α)) :
    ((setLiteral text child literals).find? fun entry => entry.1 = other).map
        (·.2) =
      if other = text then some child
      else (literals.find? fun entry => entry.1 = other).map (·.2) := by
  induction literals with
  | nil =>
      by_cases hother : other = text
      · simp [setLiteral, hother]
      · simp [setLiteral, hother, Ne.symm hother]
  | cons entry rest ih =>
      obtain ⟨key, old⟩ := entry
      by_cases hkey : key = text
      · subst hkey
        by_cases hother : other = key
        · simp [setLiteral, hother]
        · simp [setLiteral, hother, Ne.symm hother]
      · simp only [setLiteral, hkey, ↓reduceIte, List.find?_cons]
        by_cases hfound : key = other
        · subst hfound
          simp [hkey]
        · simpa [hfound] using ih

theorem child?_setChild (n child : Node α) (edge other : Edge) :
    (n.setChild child edge).child? other =
      if other = edge then some child else n.child? other := by
  cases edge with
  | literal text =>
      cases other with
      | literal wanted =>
          simp only [setChild, child?, literal?, literals, Edge.literal.injEq]
          exact find?_setLiteral text wanted child n.literals
      | param => rfl
      | wildcard => rfl
  | param => cases other <;> rfl
  | wildcard => cases other <;> rfl

@[simp] theorem leaf?_setChild (n child : Node α) (edge : Edge) (m : Method) :
    (n.setChild child edge).leaf? m = n.leaf? m := by
  cases edge <;> rfl

/-- The node at the end of a path. -/
def at? : Shape → Node α → Option (Node α)
  | [], n => some n
  | edge :: rest, n => (n.child? edge).bind (at? rest)

/-- The route at the end of a path for exactly this method. -/
def leafAt? (m : Method) (path : Shape) (n : Node α) : Option (Leaf α) :=
  (n.at? path).bind fun node => node.leaf? m

theorem leafAt?_eq_some_iff {m : Method} {path : Shape} {n : Node α}
    {leaf : Leaf α} :
    n.leafAt? m path = some leaf ↔
      ∃ node, n.at? path = some node ∧ node.leaf? m = some leaf :=
  Option.bind_eq_some_iff

theorem leafFor_eq_some_iff {m : Method} {n : Node α} {leaf : Leaf α} :
    n.leafFor m = some leaf ↔
      n.leaf? m = some leaf ∨ n.leaf? m = none ∧ n.leaf? .any = some leaf := by
  unfold leafFor
  cases n.leaf? m <;> simp

theorem mem_methods_iff {m : Method} {n : Node α} :
    m ∈ n.methods ↔ (n.leaf? m).isSome := by
  simp [methods, leaf?]

@[simp] theorem leafAt?_nil (m : Method) (n : Node α) :
    n.leafAt? m [] = n.leaf? m := rfl

theorem leafAt?_cons (m : Method) (edge : Edge) (path : Shape)
    (n : Node α) :
    n.leafAt? m (edge :: path) = (n.child? edge).bind (leafAt? m path) := by
  cases h : n.child? edge <;> simp [leafAt?, at?, h]

@[simp] theorem leafAt?_empty (m : Method) (path : Shape) :
    leafAt? m path (empty : Node α) = none := by
  cases path with
  | nil => rfl
  | cons edge path => cases edge <;> rfl

theorem leafAt?_getD_child? (m : Method) (edge : Edge) (path : Shape)
    (n : Node α) :
    leafAt? m path ((n.child? edge).getD empty) = n.leafAt? m (edge :: path) := by
  rw [leafAt?_cons]
  cases n.child? edge <;> simp

/-- An insertion fails exactly at a place that is taken for the method. -/
theorem insert?_eq_none_iff (m : Method) (leaf : Leaf α)
    (segments : List Segment) (n : Node α) :
    insert? m leaf segments n = none ↔
      (n.leafAt? m (segments.map Segment.edge)).isSome := by
  induction segments generalizing n with
  | nil =>
      cases n with
      | mk literals param wildcard leaves =>
          simp only [insert?, List.map_nil, leafAt?_nil, leaf?, Node.leaves,
            Option.isSome_map, List.find?_isSome, List.any_eq_true]
          split <;> simp_all
  | cons segment rest ih =>
      rw [insert?_cons, Option.map_eq_none_iff, ih, leafAt?_getD_child?]
      rfl

theorem leaf?_insert?_nil {m : Method} {leaf : Leaf α} {n grown : Node α}
    (hinsert : insert? m leaf [] n = some grown) (other : Method) :
    grown.leaf? other = if other = m then some leaf else n.leaf? other := by
  have hfree : n.leaf? m = none := by
    cases hold : n.leaf? m with
    | none => rfl
    | some old =>
        have hnone := (insert?_eq_none_iff m leaf [] n).mpr (by simp [hold])
        simp [hinsert] at hnone
  cases n with
  | mk literals param wildcard leaves =>
      simp only [insert?] at hinsert
      split at hinsert
      · contradiction
      · obtain rfl := Option.some.inj hinsert
        by_cases hother : other = m
        · subst hother
          simp only [leaf?, Node.leaves, Option.map_eq_none_iff] at hfree ⊢
          simp [List.find?_append, hfree]
        · simp [leaf?, Node.leaves, List.find?_append, hother, Ne.symm hother]

theorem child?_insert?_nil {m : Method} {leaf : Leaf α} {n grown : Node α}
    (hinsert : insert? m leaf [] n = some grown) (edge : Edge) :
    grown.child? edge = n.child? edge := by
  cases n with
  | mk literals param wildcard leaves =>
      simp only [insert?] at hinsert
      split at hinsert
      · contradiction
      · obtain rfl := Option.some.inj hinsert
        cases edge <;> rfl

/-- What the tree holds after an insertion. -/
theorem leafAt?_insert? {m : Method} {leaf : Leaf α}
    {segments : List Segment} {n grown : Node α}
    (hinsert : insert? m leaf segments n = some grown)
    (other : Method) (path : Shape) :
    grown.leafAt? other path =
      if path = segments.map Segment.edge ∧ other = m then some leaf
      else n.leafAt? other path := by
  induction segments generalizing n grown path with
  | nil =>
      cases path with
      | nil => simpa using leaf?_insert?_nil hinsert other
      | cons edge path => simp [leafAt?_cons, child?_insert?_nil hinsert]
  | cons segment rest ih =>
      rw [insert?_cons, Option.map_eq_some_iff] at hinsert
      obtain ⟨child, hchild, rfl⟩ := hinsert
      cases path with
      | nil => simp
      | cons edge path =>
          rw [leafAt?_cons, child?_setChild]
          by_cases hedge : edge = segment.edge
          · subst hedge
            simp only [↓reduceIte, Option.bind_some, ih hchild,
              leafAt?_getD_child?, List.map_cons, List.cons.injEq, true_and]
          · simp [hedge, leafAt?_cons]

end Node

end Trellis
