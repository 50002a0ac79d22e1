import Trellis.Text.Quoted
/-!
Route groups: a base path, and middleware for the routes below it.
-/

namespace Trellis

/-- A group of routes with middleware of type `μ`. -/
structure RouteGroup (μ : Type) where
  base : String
  middleware : List μ

namespace RouteGroup

variable {μ : Type}

/-- The group of all routes. -/
def top : RouteGroup μ := ⟨"", []⟩

/-- A path that starts with a slash and does not end in one. -/
def cleanBase (path : String) : String :=
  let cs := match path.toList with
    | '/' :: rest => '/' :: rest
    | cs => '/' :: cs
  String.ofList (cs.reverse.dropWhile (· = '/')).reverse

def withBase (g : RouteGroup μ) (path : String) : RouteGroup μ := { g with base := cleanBase path }

/-- Add middleware after the middleware that is there. -/
def use (g : RouteGroup μ) (middleware : μ) : RouteGroup μ :=
  { g with middleware := g.middleware ++ [middleware] }

/-- The path of a route of the group. The base is put in front, with one slash between. -/
def applyBase (g : RouteGroup μ) (path : String) : String :=
  if g.base = "" then path
  else
    let rest := path.toList.dropWhile (· = '/')
    if rest = [] then g.base else g.base ++ "/" ++ String.ofList rest

/-- The group inside another one: bases are joined, and the middleware of the outer group comes
first. -/
def within (inner outer : RouteGroup μ) : RouteGroup μ :=
  ⟨outer.base ++ inner.base, outer.middleware ++ inner.middleware⟩

/-- The group as diagnostics show it. -/
def debug (g : RouteGroup μ) : String :=
  "RouteGroup \x7b prefix: " ++ Text.quoted g.base ++ ", middleware: " ++
    toString g.middleware.length ++ " \x7d"

end RouteGroup

end Trellis
