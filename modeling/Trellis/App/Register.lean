import Trellis.App.Basic
import Trellis.Logging.Event
/-!
Building an application. Each step gives the application after it, the events it emits, and the error that
it ends with, if any. A step that ends with an error leaves the routes as they were.
-/

namespace Trellis

/-- The result of a registration. -/
structure Registered (σ : Type) where
  app : App σ
  events : List Event
  error : Option Error

namespace Registered

variable {σ : Type}

/-- A step without events that succeeds. -/
def silent (app : App σ) : Registered σ := ⟨app, [], none⟩

/-- Go on from a result, whatever it was. -/
def andThen (r : Registered σ) (next : App σ → Registered σ) : Registered σ :=
  let more := next r.app
  ⟨more.app, r.events ++ more.events, more.error⟩

end Registered

namespace App

variable {σ : Type}

/-- The fields of an event about a route. -/
def routeFields (method : Method) (path : String) : List (String × String) :=
  [("method", method.name), ("pattern", path)]

/-- Register a route with middleware of the groups around it. -/
def insertRoute (app : App σ) (method : Method) (path : String) (handler : Handler σ)
    (options : RouteOptions σ) (outer : List (Middleware σ)) : Registered σ :=
  match Pattern.parse path with
  | .error e => ⟨app, [], some (.pattern e)⟩
  | .ok pattern =>
    let route : Route σ :=
      { method, pattern := pattern.raw, handler, schemas := options.schemas
        before := options.before, after := options.after
        middleware := outer ++ options.middleware }
    match app.router.insert method pattern route with
    | .error e =>
      ⟨app, [⟨.warn, "Duplicate route rejected", routeFields method path⟩],
        some (.duplicateRoute e)⟩
    | .ok router =>
      let late : List Event :=
        if app.compiledGeneration.isSome && app.config.warnsLateRoutes then
          [⟨.warn,
            "Route registered after compile(); served by trie lookup until the next compile()",
            routeFields method path⟩]
        else []
      ⟨{ app with
          router
          entries := app.entries ++ [route]
          generation := app.generation + 1 },
        late ++ [⟨.debug, "Registered route", routeFields method path⟩], none⟩

/-- Register a route. -/
def route (app : App σ) (method : Method) (path : String) (handler : Handler σ)
    (options : RouteOptions σ) : Registered σ :=
  app.insertRoute method path handler options []

/-- Add middleware around all routes. -/
def use (app : App σ) (m : Middleware σ) : App σ := { app with middleware := app.middleware ++ [m] }

/-- Add middleware around the routes for paths at and below a path. -/
def useAt (app : App σ) (path : String) (m : Middleware σ) : App σ :=
  { app with scopes := app.scopes ++ [(Path.split path, m)] }

def onBefore (app : App σ) (hook : BeforeHook σ) : App σ :=
  { app with hooks := { app.hooks with before := app.hooks.before ++ [hook] } }

def onAfter (app : App σ) (hook : AfterHook σ) : App σ :=
  { app with hooks := { app.hooks with after := app.hooks.after ++ [hook] } }

def onError (app : App σ) (hook : ErrorHook σ) : App σ :=
  { app with hooks := { app.hooks with error := app.hooks.error ++ [hook] } }

/-- Set the hook for requests without a route; only one is kept. -/
def onNotFound (app : App σ) (hook : NotFoundHook σ) : App σ :=
  { app with hooks := { app.hooks with notFound := some hook } }

/-- Store a value for all requests. -/
def setState (app : App σ) (key : String) (value : Stored) : App σ :=
  { app with state := app.state.insert key value }

/-- Store a value that requests can read and not change. -/
def decorate (app : App σ) (key : String) (value : Stored) : Registered σ :=
  ⟨{ app with decorators := app.decorators.insert key value },
    [⟨.debug, "Registered decorator", [("key", key)]⟩], none⟩

/-- The first fault among the schemas of routes. -/
def schemaFault? : List (Route σ) → Option SchemaError
  | [] => none
  | route :: rest => match route.schemas.compile with
    | .ok _ => schemaFault? rest
    | .error e => some e

/-- Check all schemas and build the static table, unless that was done for these routes already. -/
def compile (app : App σ) : Registered σ :=
  if app.isCompiled then
    ⟨app, [⟨.debug, "Routes unchanged since last compile, skipping", []⟩], none⟩
  else match schemaFault? app.entries with
    | some e => ⟨app, [], some (.schema e)⟩
    | none =>
      let table := StaticTable.build app.router
      ⟨{ app with staticTable := table, compiledGeneration := some app.generation },
        [⟨.info, "Compiled routes",
          [("routes", toString app.router.size), ("static_paths", toString table.size)]⟩],
        none⟩

end App

/-- What the body of a group does: it adds middleware and routes, and groups inside it, and sees the error
that a step ends with, if any. -/
inductive GroupBody (σ : Type)
  | finish (error : Option Error)
  | use (m : Middleware σ) (next : GroupBody σ)
  | route (method : Method) (path : String) (handler : Handler σ) (options : RouteOptions σ)
    (next : Option Error → GroupBody σ)
  | group (path : String) (body : GroupBody σ) (next : Option Error → GroupBody σ)

namespace GroupBody

variable {σ : Type}

/-- Run the body of a group. Middleware counts for the routes and groups that follow it. -/
def run : GroupBody σ → RouteGroup (Middleware σ) → App σ → Registered σ
  | .finish error, _, app => ⟨app, [], error⟩
  | .use m next, g, app => next.run (g.use m) app
  | .route method path handler options next, g, app =>
    let step := app.insertRoute method (g.applyBase path) handler options g.middleware
    step.andThen ((next step.error).run g)
  | .group path body next, g, app =>
    let step := body.run ((RouteGroup.top.withBase path).within g) app
    step.andThen ((next step.error).run g)

end GroupBody

namespace App

variable {σ : Type}

/-- Register a group of routes below a path. -/
def group (app : App σ) (path : String) (body : GroupBody σ) : Registered σ :=
  body.run (RouteGroup.top.withBase path) app

end App

end Trellis
