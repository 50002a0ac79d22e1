import Trellis.Config.Basic
import Trellis.Routing.Group
import Trellis.Routing.StaticTable
import Trellis.Schema.Compile
import Trellis.Serving.Action
/-!
Applications: routes with the code that serves them, the code around all routes, shared values and plugins.
-/

namespace Trellis

/-- The schemas of a route, for the three inputs of a request. -/
structure RouteSchemas where
  params : Option Schema
  query : Option Schema
  body : Option Schema

/-- The checkers of a route. -/
structure RouteCheckers where
  params : Option Checker
  query : Option Checker
  body : Option Checker

namespace RouteSchemas

def none : RouteSchemas := ⟨.none, .none, .none⟩

/-- Make a checker, if there is a schema. -/
def compileOne : Option Schema → Except SchemaError (Option Checker)
  | .none => .ok .none
  | some s => s.compile.map some

/-- Make the checkers, in the order params, query, body. -/
def compile (s : RouteSchemas) : Except SchemaError RouteCheckers := do
  let params ← compileOne s.params
  let query ← compileOne s.query
  let body ← compileOne s.body
  return ⟨params, query, body⟩

end RouteSchemas

/-- What may be given with a route. -/
structure RouteOptions (σ : Type) where
  schemas : RouteSchemas
  before : List (BeforeHook σ)
  after : List (AfterHook σ)
  middleware : List (Middleware σ)

def RouteOptions.none {σ : Type} : RouteOptions σ := ⟨RouteSchemas.none, [], [], []⟩

/-- A registered route. Its middleware holds that of its groups first. -/
structure Route (σ : Type) where
  method : Method
  pattern : String
  handler : Handler σ
  schemas : RouteSchemas
  before : List (BeforeHook σ)
  after : List (AfterHook σ)
  middleware : List (Middleware σ)

structure Hooks (σ : Type) where
  before : List (BeforeHook σ)
  after : List (AfterHook σ)
  error : List (ErrorHook σ)
  notFound : Option (NotFoundHook σ)

def Hooks.none {σ : Type} : Hooks σ := ⟨[], [], [], .none⟩

/-- An application. The generation counts its routes; the static table is in use while it was built for
the generation at hand. -/
structure App (σ : Type) where
  config : AppConfig
  router : Router (Route σ)
  staticTable : StaticTable (Route σ)
  /-- The routes in the order of their registration. -/
  entries : List (Route σ)
  generation : Nat
  compiledGeneration : Option Nat
  middleware : List (Middleware σ)
  /-- Middleware for the paths below a path. -/
  scopes : List (List String × Middleware σ)
  hooks : Hooks σ
  state : Store
  decorators : Store
  plugins : List String

namespace App

variable {σ : Type}

/-- An application without anything registered. -/
def new (config : AppConfig) : App σ :=
  { config
    router := Router.empty
    staticTable := StaticTable.empty
    entries := []
    generation := 0
    compiledGeneration := none
    middleware := []
    scopes := []
    hooks := Hooks.none
    state := Store.empty
    decorators := Store.empty
    plugins := [] }

/-- Whether the static table holds for all routes. -/
def isCompiled (app : App σ) : Bool := app.compiledGeneration = some app.generation

/-- All routes, by pattern text and then by method. -/
def routes (app : App σ) : List (Method × Pattern) := app.router.routes

def hasPlugin (app : App σ) (name : String) : Bool := app.plugins.contains name

/-- The application as diagnostics show it. -/
def debug (app : App σ) : String :=
  "App \x7b config: " ++ app.config.debug ++ ", routes: " ++ toString app.router.size ++
    ", compiled: " ++ AppConfig.boolText app.isCompiled ++ ", middleware: " ++
    toString app.middleware.length ++ ", plugins: " ++
    Text.bracketed (app.plugins.map Text.quoted) ++ " \x7d"

end App

end Trellis
