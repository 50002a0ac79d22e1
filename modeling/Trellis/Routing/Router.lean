import Trellis.Http.Method
import Trellis.Routing.Params
import Trellis.Routing.Pattern
import Trellis.Text.Percent
/-!
A route table as a tree of segments. A node has a child for each literal segment, at most one child for
a parameter and at most one for a wildcard, and the routes whose pattern ends at it, one per method.
Looking up a path tries the children in that order at every depth and comes back from a branch that does
not lead to a route for the method. The methods met at nodes that match the whole path are collected, so
that a miss can say which methods the path has.
-/

namespace Trellis

/-- A registered pattern with its value. -/
structure Leaf (α : Type) where
  pattern : Pattern
  value : α

/-- A node of the tree. -/
inductive Node (α : Type)
  | mk (literals : List (String × Node α)) (param wildcard : Option (Node α))
    (leaves : List (Method × Leaf α))

namespace Node

variable {α : Type}

def empty : Node α := .mk [] none none []

def literals : Node α → List (String × Node α)
  | .mk literals _ _ _ => literals

def param : Node α → Option (Node α)
  | .mk _ param _ _ => param

def wildcard : Node α → Option (Node α)
  | .mk _ _ wildcard _ => wildcard

def leaves : Node α → List (Method × Leaf α)
  | .mk _ _ _ leaves => leaves

/-- The child for a literal segment. -/
def literal? (n : Node α) (text : String) : Option (Node α) :=
  (n.literals.find? fun child => child.1 = text).map (·.2)

/-- The route registered at this node for exactly this method. -/
def leaf? (n : Node α) (m : Method) : Option (Leaf α) :=
  (n.leaves.find? fun leaf => leaf.1 = m).map (·.2)

/-- The route at this node that serves a method: the method's own, else the one for any method. -/
def leafFor (n : Node α) (m : Method) : Option (Leaf α) := (n.leaf? m).orElse fun _ => n.leaf? .any

def methods (n : Node α) : List Method := n.leaves.map (·.1)

/-- Put a child at a literal segment, in place of the one that was there. -/
def setLiteral (text : String) (child : Node α) : List (String × Node α) → List (String × Node α)
  | [] => [(text, child)]
  | (key, other) :: rest =>
    if key = text then (key, child) :: rest else (key, other) :: setLiteral text child rest

/-- Add a route below a node. There is none to add if the method is taken at the pattern's place. -/
def insert? (m : Method) (leaf : Leaf α) : List Segment → Node α → Option (Node α)
  | [], .mk literals param wildcard leaves =>
    if leaves.any fun other => other.1 = m then none
    else some (.mk literals param wildcard (leaves ++ [(m, leaf)]))
  | .literal text :: rest, n =>
    (insert? m leaf rest ((n.literal? text).getD empty)).map fun child =>
      .mk (setLiteral text child n.literals) n.param n.wildcard n.leaves
  | .param _ :: rest, n =>
    (insert? m leaf rest (n.param.getD empty)).map fun child =>
      .mk n.literals (some child) n.wildcard n.leaves
  | .wildcard :: rest, n =>
    (insert? m leaf rest (n.wildcard.getD empty)).map fun child =>
      .mk n.literals n.param (some child) n.leaves

end Node

/-- What a parameter or a wildcard takes of a path. -/
inductive Capture
  | segment (text : String)
  | remaining (segments : List String)
deriving DecidableEq, Repr

namespace Capture

/-- The captured piece of the path. -/
def piece : Capture → String
  | .segment text => text
  | .remaining segments => "/".intercalate segments

/-- The captured value: the piece, percent-decoded. -/
def value (c : Capture) : String := Percent.decodeText c.piece

end Capture

/-- The outcome of a search: a route and its captures, or the methods met at matching nodes. -/
inductive Search (α : Type)
  | hit (leaf : Leaf α) (captures : List Capture)
  | miss (allowed : List Method)

namespace Search

variable {α : Type}

/-- The first outcome if it is a hit, else the second with the methods of both. -/
def orElse : Search α → Search α → Search α
  | .hit leaf captures, _ => .hit leaf captures
  | .miss _, .hit leaf captures => .hit leaf captures
  | .miss first, .miss second => .miss (first ++ second)

/-- The outcome with one more capture in front. -/
def capture (c : Capture) : Search α → Search α
  | .hit leaf captures => .hit leaf (c :: captures)
  | .miss allowed => .miss allowed

end Search

namespace Node

variable {α : Type}

/-- The routes that end at this node, for a method. -/
def here (n : Node α) (m : Method) : Search α :=
  match n.leafFor m with
  | some leaf => .hit leaf []
  | none => .miss n.methods

/-- Look for a route below a node. -/
def search (m : Method) : List String → Node α → Search α
  | [], n => n.here m
  | segment :: rest, n =>
    let exact := match n.literal? segment with
      | some child => search m rest child
      | none => .miss []
    let single := match n.param with
      | some child => (search m rest child).capture (.segment segment)
      | none => .miss []
    let many := match n.wildcard with
      | some child => (child.here m).capture (.remaining (segment :: rest))
      | none => .miss []
    exact.orElse (single.orElse many)

mutual

/-- The routes at and below a node. -/
def collect : Node α → List (Method × Leaf α)
  | .mk literals param wildcard leaves =>
    leaves ++ collectAll literals ++ collectOption param ++ collectOption wildcard

def collectAll : List (String × Node α) → List (Method × Leaf α)
  | [] => []
  | (_, child) :: rest => collect child ++ collectAll rest

def collectOption : Option (Node α) → List (Method × Leaf α)
  | none => []
  | some child => collect child

end

mutual

/-- The routes at and below a node that are reached by literals alone. -/
def collectStatic : Node α → List (Method × Leaf α)
  | .mk literals _ _ leaves =>
    leaves.filter (fun leaf => leaf.2.pattern.isStatic) ++ collectStaticAll literals

def collectStaticAll : List (String × Node α) → List (Method × Leaf α)
  | [] => []
  | (_, child) :: rest => collectStatic child ++ collectStaticAll rest

end

end Node

/-- A method that is taken at a pattern's place. -/
structure DuplicateRoute where
  method : Method
  pattern : String
deriving DecidableEq, Repr

/-- A route found for a path. -/
structure Match (α : Type) where
  value : α
  pattern : Pattern
  params : Params

/-- The answer to a path and a method. -/
inductive Resolution (α : Type)
  | found (route : Match α)
  | methodNotAllowed (allowed : List Method)
  | notFound

/-- A route table with the number of its routes. -/
structure Router (α : Type) where
  root : Node α
  size : Nat

namespace Router

variable {α : Type}

def empty : Router α := ⟨Node.empty, 0⟩

instance : Inhabited (Router α) := ⟨empty⟩

/-- Register a value. Patterns that differ only in parameter names have one place, so a method can be
registered for one of them only. -/
def insert (r : Router α) (m : Method) (pattern : Pattern) (value : α) :
    Except DuplicateRoute (Router α) :=
  match r.root.insert? m ⟨pattern, value⟩ pattern.segments with
  | some root => .ok ⟨root, r.size + 1⟩
  | none => .error ⟨m, pattern.raw⟩

/-- The route for a path given by its segments. -/
def resolveSegments (r : Router α) (m : Method) (segments : List String) : Resolution α :=
  match r.root.search m segments with
  | .hit leaf captures =>
    .found ⟨leaf.value, leaf.pattern, ⟨leaf.pattern.paramNames.zip (captures.map Capture.value)⟩⟩
  | .miss [] => .notFound
  | .miss allowed => .methodNotAllowed (Method.sorted allowed)

/-- The route for a path. -/
def resolve (r : Router α) (m : Method) (path : String) : Resolution α :=
  r.resolveSegments m (Path.split path)

/-- Listing order: by pattern text, then by method. -/
def precedes (a b : Method × Leaf α) : Bool :=
  a.2.pattern.raw < b.2.pattern.raw ||
    (a.2.pattern.raw == b.2.pattern.raw && a.1.index ≤ b.1.index)

/-- All routes, by pattern text and then by method. -/
def routes (r : Router α) : List (Method × Pattern) :=
  (r.root.collect.mergeSort precedes).map fun route => (route.1, route.2.pattern)

/-- The routes without parameter and wildcard. -/
def staticRoutes (r : Router α) : List (Method × Leaf α) := r.root.collectStatic

def isEmpty (r : Router α) : Bool := r.size == 0

end Router

end Trellis
