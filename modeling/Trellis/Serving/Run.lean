import Trellis.Logging.Event
import Trellis.Serving.Action
/-!
Running the code of an application for one request. A `Run` holds what has come of the request so far; it
notes each piece of code that is entered and each event.
-/

namespace Trellis

/-- A piece of code in the service of a request, by its kind and its place among its kind. -/
inductive Place
  | globalBefore (i : Nat)
  | middleware (i : Nat)
  | routeBefore (i : Nat)
  | handler
  | globalAfter (i : Nat)
  | routeAfter (i : Nat)
  | errorHook (i : Nat)
  | notFoundHook
deriving DecidableEq, Repr

structure Run (σ : Type) where
  desk : Desk
  state : Store
  own : σ
  /-- The code entered so far, in order. -/
  visits : List Place
  events : List Event

namespace Run

variable {σ α : Type}

def start (state : Store) (own : σ) : Run σ := ⟨Desk.empty, state, own, [], []⟩

def log (r : Run σ) (event : Event) : Run σ := { r with events := r.events ++ [event] }

def visit (r : Run σ) (place : Place) : Run σ := { r with visits := r.visits ++ [place] }

/-- The moment that code sees now. -/
def moment (r : Run σ) (x : Exchange) : Moment σ := ⟨x, r.desk, r.state, r.own⟩

/-- The run after effects of code, which leaves its own state. -/
def after (r : Run σ) (effects : List Effect) (own : σ) : Run σ :=
  { r with
    desk := effects.foldl Desk.apply r.desk
    state := effects.foldl Effect.onState r.state
    own }

/-- Run an action. -/
def perform (x : Exchange) (action : Action σ α) (r : Run σ) : Outcome α × Run σ :=
  let turn := action (r.moment x)
  (turn.outcome, r.after turn.effects turn.own)

/-- Call code at a place: the action that the call gives, or the text of its panic. -/
def call (x : Exchange) (place : Place) (code : Code σ α) (r : Run σ) :
    Except String (Action σ α) × Run σ :=
  let r := r.visit place
  let launch := code (r.moment x)
  (launch.action, r.after launch.effects launch.own)

/-- Call code at a place and run its action. A panic of either is the outcome. -/
def enter (x : Exchange) (place : Place) (code : Code σ α) (r : Run σ) : Outcome α × Run σ :=
  match call x place code r with
  | (.ok action, r) => perform x action r
  | (.error text, r) => (.panicked text, r)

/-- Run before hooks in order until one does not go on. -/
def before (x : Exchange) (place : Nat → Place) :
    Nat → List (BeforeHook σ) → Run σ → Outcome (Option Response) × Run σ
  | _, [], r => (.done none, r)
  | i, hook :: rest, r => match enter x (place i) hook r with
    | (.done none, r) => before x place (i + 1) rest r
    | ended => ended

/-- Hand a response through after hooks in order. -/
def afterHooks (x : Exchange) (place : Nat → Place) :
    Nat → List (AfterHook σ) → Response → Run σ → Outcome Response × Run σ
  | _, [], response, r => (.done response, r)
  | i, hook :: rest, response, r => match enter x (place i) (hook response) r with
    | (.done response, r) => afterHooks x place (i + 1) rest response r
    | ended => ended

def middlewareEvent (name : String) (i : Nat) : Event :=
  ⟨.trace, "Executing middleware", [("middleware", name), ("index", toString i)]⟩

def endpointEvent : Event := ⟨.trace, "Middleware chain complete, calling endpoint", []⟩

/-- Run a chain of middleware around an endpoint. A panic passes through. -/
def chain (x : Exchange) (endpoint : Run σ → Outcome Response × Run σ) :
    Nat → List (Middleware σ) → Run σ → Outcome Response × Run σ
  | _, [], r => endpoint (r.log endpointEvent)
  | i, m :: rest, r =>
    match enter x (.middleware i) (m.enter rest.length) (r.log (middlewareEvent m.name i)) with
    | (.done (.answer response), r) => (.done response, r)
    | (.done (.proceed resume), r) => match chain x endpoint (i + 1) rest r with
      | (.done response, r) => perform x (resume (.ok response)) r
      | (.failed e, r) => perform x (resume (.error e)) r
      | (.panicked text, r) => (.panicked text, r)
    | (.failed e, r) => (.failed e, r)
    | (.panicked text, r) => (.panicked text, r)

/-- Run a handler and make a response of its reply. -/
def handle (x : Exchange) (handler : Handler σ) (r : Run σ) : Outcome Response × Run σ :=
  match enter x .handler handler r with
  | (.done reply, r) => match reply.respond r.desk.status with
    | .ok response => (.done response, r)
    | .error e => (.failed e, r)
  | (.failed e, r) => (.failed e, r)
  | (.panicked text, r) => (.panicked text, r)

end Run

end Trellis
