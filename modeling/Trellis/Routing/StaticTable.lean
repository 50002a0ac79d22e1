import Trellis.Routing.Router
/-!
A flat table of the static routes of a router, by canonical path and method.
-/

namespace Trellis

structure StaticTable (α : Type) where
  paths : KeyMap (List (Method × Leaf α))

namespace StaticTable

variable {α : Type}

def empty : StaticTable α := ⟨[]⟩

/-- Put a route among those of one path, in place of the one that was there for its method. -/
def put (route : Method × Leaf α) : List (Method × Leaf α) → List (Method × Leaf α)
  | [] => [route]
  | other :: rest => if other.1 = route.1 then route :: rest else other :: put route rest

/-- Enter a route under its canonical path. -/
def add (paths : KeyMap (List (Method × Leaf α))) (route : Method × Leaf α) :
    KeyMap (List (Method × Leaf α)) :=
  let path := route.2.pattern.canonical
  paths.insert path (put route ((paths.get? path).getD []))

/-- The static routes of a router. -/
def build (r : Router α) : StaticTable α := ⟨r.staticRoutes.foldl add []⟩

/-- The route at a normalized path: the method's own, else the one for any method. -/
def lookup (t : StaticTable α) (m : Method) (path : String) : Option (Leaf α) :=
  (t.paths.get? path).bind fun routes =>
    let forMethod (m : Method) := (routes.find? fun route => route.1 = m).map (·.2)
    (forMethod m).orElse fun _ => forMethod .any

/-- The number of distinct paths. -/
def size (t : StaticTable α) : Nat := t.paths.length

def isEmpty (t : StaticTable α) : Bool := t.paths.isEmpty

end StaticTable

end Trellis
