import Trellis.App.Basic
import Trellis.Routing.Suggest
import Trellis.Serving.Run
/-!
Serving a request. It is matched to a route, its inputs are validated, and the code of the application runs
in order: before hooks; the middleware chain around the route's before hooks and the handler; after hooks.
Errors go to the error hooks, and requests without a route to the not-found hook.
-/

namespace Trellis

/-- How serving ends: with a response, or with a panic that nothing caught. -/
inductive Answer
  | response (response : Response)
  | escaped (panic : String)
deriving DecidableEq, Repr

/-- What comes of validation: the inputs pass, one is rejected, or validation is not possible. In each
case the exchange holds what has been decoded and checked until then. -/
inductive Validation
  | passed (x : Exchange)
  | rejected (errors : ValidationErrors) (x : Exchange)
  | failed (error : Error) (x : Exchange)

namespace Validation

/-- Go on if the inputs pass so far. -/
def andThen (v : Validation) (next : Exchange → Validation) : Validation :=
  match v with
  | .passed x => next x
  | other => other

/-- Check one input, if there is a checker for it. -/
def check (checker : Option Checker) (label : String) (input : Option Json)
    (set : Exchange → Json → Exchange) (x : Exchange) : Validation :=
  match checker with
  | none => .passed x
  | some c => match c.checkInput input label with
    | .ok value => .passed (set x value)
    | .error errors => .rejected errors x

def checkParams (checker : Option Checker) (x : Exchange) : Validation :=
  check checker "params" (some x.params.toJson) (fun x v => { x with validParams := some v }) x

def checkQuery (checker : Option Checker) (x : Exchange) : Validation :=
  check checker "query" (some (.object x.query)) (fun x v => { x with validQuery := some v }) x

/-- The error for a body without a value. -/
def binaryBody (x : Exchange) : Error :=
  .fault .unsupportedMediaType
    ("cannot validate a " ++ (x.header? MediaType.name).getD "" ++ " body")

/-- Decode the body and check it, if there is a checker for it. -/
def checkBody (checker : Option Checker) (x : Exchange) : Validation :=
  match checker with
  | none => .passed x
  | some c =>
    let x := { x with decoded := some x.parsedBody }
    match x.body with
    | .error e => .failed e x
    | .ok (.binary _) => .failed (binaryBody x) x
    | .ok body => check (some c) "body" body.toJson? (fun x v => { x with validBody := some v }) x

/-- Check params, query and body, in this order, up to the first that does not pass. -/
def run (schemas : RouteSchemas) (x : Exchange) : Validation :=
  match schemas.compile with
  | .error e => .failed (.schema e) x
  | .ok checkers =>
    ((checkParams checkers.params x).andThen (checkQuery checkers.query)).andThen
      (checkBody checkers.body)

end Validation

/-! Responses of the framework itself. -/

def validationResponse (errors : ValidationErrors) : Response :=
  Response.json 400
    (Json.ofFields [("details", errors.toJson), ("error", .string "Validation Error")])

/-- The response to an error that no hook answers. It tells nothing about errors of the server. -/
def defaultErrorResponse (e : Error) : Response :=
  match e with
  | .validation errors => validationResponse errors
  | e =>
    if e.isServerError then
      Response.json e.status.code (Json.ofFields [("error", .string "Internal Server Error")])
    else
      Response.json e.status.code
        (Json.ofFields
          [("error", .string e.status.reason), ("message", .string e.clientMessage)])

/-- The response when an error hook fails. -/
def bareFailure : Response := Response.bare 500

def methodNotAllowedResponse (path : String) (allowed : List Method) : Response :=
  let names := allowed.map Method.name
  (Response.json 405
    (Json.ofFields
      [("allowed", Json.strings names), ("error", .string "Method Not Allowed"),
       ("path", .string path)])).withHeader "allow" (", ".intercalate names)

def notFoundResponse (path : String) (suggestions : List String) : Response :=
  let fields := [("error", .string "Not Found"), ("path", .string path)]
  Response.json 404
    (Json.ofFields
      (if suggestions = [] then fields
       else fields ++ [("suggestions", Json.strings suggestions)]))

namespace App

variable {σ : Type}

/-- The route for a method and a path given by its segments. While the static table holds for all routes
it is asked first. -/
def resolve (app : App σ) (m : Method) (segments : List String) : Resolution (Route σ) :=
  let static := if app.isCompiled then app.staticTable.lookup m (Path.join segments) else none
  match static with
  | some leaf => .found ⟨leaf.value, leaf.pattern, Params.empty⟩
  | none => app.router.resolveSegments m segments

/-- The middleware around a route: global, scoped by the path, and the route's. The route's own list is
taken as it is if nothing comes before it. -/
def chainFor (app : App σ) (route : Route σ) (segments : List String) : List (Middleware σ) :=
  let outer := app.middleware ++
    (app.scopes.filter fun scope => Path.covers scope.1 segments).map (·.2)
  if outer.isEmpty then route.middleware else outer ++ route.middleware

/-- The route's before hooks and its handler. -/
def endpoint (route : Route σ) (x : Exchange) (r : Run σ) : Outcome Response × Run σ :=
  match Run.before x .routeBefore 0 route.before r with
  | (.done none, r) => Run.handle x route.handler r
  | (.done (some response), r) => (.done response, r)
  | (.failed e, r) => (.failed e, r)
  | (.panicked text, r) => (.panicked text, r)

/-- The part of the pipeline that makes a response: the before hooks, else the middleware chain. -/
def produce (app : App σ) (route : Route σ) (segments : List String) (x : Exchange) (r : Run σ) :
    Outcome Response × Run σ :=
  match Run.before x .globalBefore 0 app.hooks.before r with
  | (.done (some response), r) => (.done response, r)
  | (.done none, r) => Run.chain x (endpoint route x) 0 (app.chainFor route segments) r
  | (.failed e, r) => (.failed e, r)
  | (.panicked text, r) => (.panicked text, r)

/-- The part of the pipeline after a response was made: the fields set for it are added, and the after
hooks see it, the global ones first. -/
def finish (app : App σ) (route : Route σ) (x : Exchange) (response : Response) (r : Run σ) :
    Outcome Response × Run σ :=
  let merged := { response with headers := response.headers.fill r.desk.headers }
  match Run.afterHooks x .globalAfter 0 app.hooks.after merged r with
  | (.done response, r) => Run.afterHooks x .routeAfter 0 route.after response r
  | ended => ended

def rejectedEvent (count : Nat) : Event :=
  ⟨.debug, "Request failed validation", [("details", toString count)]⟩

/-- All stages for a matched request; the exchange is as validation leaves it. -/
def pipeline (app : App σ) (route : Route σ) (segments : List String) (x : Exchange) (r : Run σ) :
    Outcome Response × Exchange × Run σ :=
  match Validation.run route.schemas x with
  | .failed e x => (.failed e, x, r)
  | .rejected errors x =>
    (.done (validationResponse errors), x, r.log (rejectedEvent errors.length))
  | .passed x => match app.produce route segments x r with
    | (.done response, r) =>
      let ended := app.finish route x response r
      (ended.1, x, ended.2)
    | (ended, r) => (ended, x, r)

def errorEvent (e : Error) : Event :=
  if e.isServerError then ⟨.error, "Request failed", [("error", e.message)]⟩
  else ⟨.debug, "Request rejected",
    [("error", e.message), ("status", toString e.status.code)]⟩

def hookFailedEvent (e : Error) : Event := ⟨.error, "Error hook failed", [("error", e.message)]⟩

def hookPanickedEvent (text : String) : Event :=
  ⟨.error, "Error hook panicked", [("panic", text)]⟩

/-- Ask the error hooks in order until one answers. A panic in the call of a hook is not caught. -/
def askErrorHooks (x : Exchange) (e : Error) :
    Nat → List (ErrorHook σ) → Run σ → Answer × Run σ
  | _, [], r => (.response (defaultErrorResponse e), r)
  | i, hook :: rest, r => match Run.call x (.errorHook i) (hook e) r with
    | (.error text, r) => (.escaped text, r)
    | (.ok action, r) => match Run.perform x action r with
      | (.done (some response), r) => (.response response, r)
      | (.done none, r) => askErrorHooks x e (i + 1) rest r
      | (.failed e, r) => (.response bareFailure, r.log (hookFailedEvent e))
      | (.panicked text, r) => (.response bareFailure, r.log (hookPanickedEvent text))

/-- Make a response of an error. -/
def handleError (app : App σ) (x : Exchange) (e : Error) (r : Run σ) : Answer × Run σ :=
  askErrorHooks x e 0 app.hooks.error (r.log (errorEvent e))

/-- Answer with what code gives, or with what becomes of its error. -/
def conclude (app : App σ) (x : Exchange) : Outcome Response × Run σ → Answer × Run σ
  | (.done response, r) => (.response response, r)
  | (.failed e, r) => app.handleError x e r
  | (.panicked text, r) => app.handleError x (.fault .panic text) r

/-- The paths of static routes near a path. -/
def suggestions (app : App σ) (path : String) : List String :=
  if app.config.mode.isDevelopment then
    Suggest.suggest path
      ((app.routes.filter fun route => route.2.isStatic).map fun route => route.2.canonical)
  else []

/-- The response to a request without a route if there is no hook for it. -/
def defaultNotFound (app : App σ) (path : String) (allowed : List Method) : Response :=
  if app.config.strictMethods && allowed ≠ [] then methodNotAllowedResponse path allowed
  else notFoundResponse path (app.suggestions path)

/-- Answer a request without a route. A panic in the call of the hook is not caught. -/
def notFound (app : App σ) (x : Exchange) (allowed : List Method) (r : Run σ) : Answer × Run σ :=
  let r := r.log ⟨.debug, "No route matched", [("path", x.path)]⟩
  match app.hooks.notFound with
  | none => (.response (app.defaultNotFound x.path allowed), r)
  | some hook => match Run.call x .notFoundHook hook r with
    | (.error text, r) => (.escaped text, r)
    | (.ok action, r) => app.conclude x (Run.perform x action r)

/-- The segments of a path below the base path, if it lies there. -/
def relative? (app : App σ) (segments : List String) : Option (List String) :=
  let base := Path.split app.config.basePath
  if Path.covers base segments then some (segments.drop base.length) else none

/-- The exchange of a request that is matched to a route, or to none. -/
def exchange (app : App σ) (request : Request) (path : String) (route : Option String)
    (params : Params) : Exchange :=
  { method := request.method
    path
    route
    params
    query := (request.query?.map parseQuery).getD []
    headers := request.headers
    rawBody := request.body
    decoded := none
    validParams := none
    validQuery := none
    validBody := none
    decorators := app.decorators }

/-- Serve a request whose path has the given segments; `relative` are those below the base path. -/
def serve (app : App σ) (request : Request) (segments : List String)
    (relative : Option (List String)) (r : Run σ) : Answer × Run σ :=
  let path := Path.join (relative.getD segments)
  let resolution := match Method.ofRequest? request.method, relative with
    | some m, some relative => app.resolve m relative
    | _, _ => .notFound
  match resolution with
  | .found route =>
    let x := app.exchange request path (some route.pattern.raw) route.params
    let (outcome, x, r) := app.pipeline route.value (relative.getD []) x r
    app.conclude x (outcome, r)
  | .methodNotAllowed allowed => app.notFound (app.exchange request path none Params.empty) allowed r
  | .notFound => app.notFound (app.exchange request path none Params.empty) [] r

/-- Serve a request, given the state that the code of the application keeps for itself. -/
def handle (app : App σ) (request : Request) (own : σ) : Answer × Run σ :=
  let segments := Path.split request.path
  app.serve request segments (app.relative? segments) (Run.start app.state own)

/-- The application after a request was served. -/
def afterRun (app : App σ) (r : Run σ) : App σ := { app with state := r.state }

end App

end Trellis
