import Trellis.Proofs.Routing.Registry
/-!
Registration in place.  The nodes along a pattern are made first, and only then it is seen whether the method is
taken at the last of them.  A call that is rejected so late leaves the tree as it was all the same: where a method
is taken, all nodes on the way were there before.
-/

namespace Trellis

namespace Node

variable {α : Type}

/-- Make the nodes along a way where there are none. -/
def pave : Shape → Node α → Node α
  | [], n => n
  | edge :: rest, n => n.setChild (pave rest ((n.child? edge).getD empty)) edge

/-- Put a route at the end of a way, all of whose nodes are there. -/
def plant (m : Method) (leaf : Leaf α) : Shape → Node α → Node α
  | [], .mk literals param wildcard leaves =>
    .mk literals param wildcard (leaves ++ [(m, leaf)])
  | edge :: rest, n => match n.child? edge with
    | some child => n.setChild (plant m leaf rest child) edge
    | none => n

theorem setLiteral_self {text : String} {child : Node α}
    {literals : List (String × Node α)}
    (hchild : (literals.find? fun entry => entry.1 = text).map (·.2) = some child) :
    setLiteral text child literals = literals := by
  induction literals with
  | nil => contradiction
  | cons entry rest ih =>
      obtain ⟨key, old⟩ := entry
      by_cases hkey : key = text
      · have hold : old = child := by simpa [hkey] using hchild
        rw [setLiteral, if_pos hkey, hold]
      · have hrest : (rest.find? fun entry => entry.1 = text).map (·.2) = some child := by
          simpa [hkey] using hchild
        rw [setLiteral, if_neg hkey, ih hrest]

theorem setLiteral_setLiteral (text : String) (first second : Node α)
    (literals : List (String × Node α)) :
    setLiteral text second (setLiteral text first literals) =
      setLiteral text second literals := by
  induction literals with
  | nil => simp [setLiteral]
  | cons entry rest ih =>
      obtain ⟨key, old⟩ := entry
      by_cases hkey : key = text
      · simp [setLiteral, hkey]
      · simp [setLiteral, hkey, ih]

/-- To put a child where it is changes nothing. -/
theorem setChild_of_child? {n child : Node α} {edge : Edge}
    (hchild : n.child? edge = some child) : n.setChild child edge = n := by
  cases n with
  | mk literals param wildcard leaves =>
      cases edge with
      | literal text =>
          have hself : setLiteral text child literals = literals := setLiteral_self hchild
          change Node.mk (setLiteral text child literals) param wildcard leaves = _
          rw [hself]
      | param =>
          obtain rfl : param = some child := hchild
          rfl
      | wildcard =>
          obtain rfl : wildcard = some child := hchild
          rfl

theorem setChild_setChild (n first second : Node α) (edge : Edge) :
    (n.setChild first edge).setChild second edge = n.setChild second edge := by
  cases edge with
  | literal text =>
      change Node.mk (setLiteral text second (setLiteral text first n.literals)) _ _ _ = _
      rw [setLiteral_setLiteral]
      rfl
  | param => rfl
  | wildcard => rfl

theorem leafAt?_pave (m : Method) (path way : Shape) (n : Node α) :
    (n.pave way).leafAt? m path = n.leafAt? m path := by
  induction way generalizing n path with
  | nil => rfl
  | cons edge rest ih =>
      cases path with
      | nil => exact leaf?_setChild n _ edge m
      | cons other path =>
          rw [pave, leafAt?_cons, child?_setChild]
          by_cases hother : other = edge
          · rw [if_pos hother, Option.bind_some, ih, hother, leafAt?_getD_child?]
          · rw [if_neg hother, leafAt?_cons]

/-- A way to a route has all its nodes. -/
theorem pave_of_leafAt? {m : Method} {way : Shape} {n : Node α}
    (htaken : (n.leafAt? m way).isSome) : n.pave way = n := by
  induction way generalizing n with
  | nil => rfl
  | cons edge rest ih =>
      rw [leafAt?_cons] at htaken
      cases hchild : n.child? edge with
      | none => simp [hchild] at htaken
      | some child =>
          rw [hchild, Option.bind_some] at htaken
          rw [pave, hchild, Option.getD_some, ih htaken]
          exact setChild_of_child? hchild

/-- Where the method is free, to make the way and then put the route at its end
is to insert the route. -/
theorem insert?_eq_plant_pave {m : Method} (leaf : Leaf α) {segments : List Segment}
    {n : Node α} (hfree : n.leafAt? m (segments.map Segment.edge) = none) :
    insert? m leaf segments n =
      some ((n.pave (segments.map Segment.edge)).plant m leaf
        (segments.map Segment.edge)) := by
  induction segments generalizing n with
  | nil =>
      cases n with
      | mk literals param wildcard leaves =>
          have hnone : (leaves.any fun other => other.1 = m) = false := by
            simpa [leaf?, Node.leaves, List.any_eq_false] using hfree
          rw [insert?, hnone]
          rfl
  | cons segment rest ih =>
      rw [List.map_cons] at hfree ⊢
      have hbelow := hfree
      rw [← leafAt?_getD_child?] at hbelow
      rw [insert?_cons, ih hbelow, Option.map_some, pave, plant, child?_setChild,
        if_pos rfl]
      dsimp only
      -- The child that was made on the way down is replaced by the grown one.
      rw [setChild_setChild]

end Node

namespace Router

variable {α : Type}

/-- Register a value in place: the nodes along the pattern are made before it is
seen whether the method is taken, and they stay if it is. -/
def enter (r : Router α) (m : Method) (pattern : Pattern) (value : α) :
    Router α × Option DuplicateRoute :=
  let paved := r.root.pave pattern.shape
  if (paved.leafAt? m pattern.shape).isSome then
    (⟨paved, r.size⟩, some ⟨m, pattern.raw⟩)
  else (⟨paved.plant m ⟨pattern, value⟩ pattern.shape, r.size + 1⟩, none)

/-- Registration in place gives the router that `insert` gives, and leaves the
router as it was if it is rejected. -/
theorem enter_eq (r : Router α) (m : Method) (pattern : Pattern) (value : α) :
    r.enter m pattern value =
      match r.insert m pattern value with
      | .ok grown => (grown, none)
      | .error e => (r, some e) := by
  rw [enter, Node.leafAt?_pave]
  by_cases htaken : (r.root.leafAt? m pattern.shape).isSome
  · rw [insert_eq_error_iff.mpr ⟨htaken, rfl⟩, Node.pave_of_leafAt? htaken]
    exact if_pos htaken
  · have hfree : r.root.leafAt? m pattern.shape = none := by simpa using htaken
    rw [insert, Node.insert?_eq_plant_pave ⟨pattern, value⟩ hfree]
    exact if_neg htaken

end Router

end Trellis
