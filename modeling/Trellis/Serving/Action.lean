import Trellis.Serving.Exchange
/-!
The code that an application brings along. An `Action` looks at the moment in which it runs and says what it
does to it and how it ends. `σ` is the type of the state that the code of the application keeps for itself.
-/

namespace Trellis

/-- What is kept for one request while it is served. -/
structure Desk where
  store : Store
  /-- The status for responses made of plain values. -/
  status : Option Nat
  /-- Fields to be added to the response. -/
  headers : Headers

namespace Desk

def empty : Desk := ⟨Store.empty, none, Headers.empty⟩

end Desk

/-- What an action may do besides ending. -/
inductive Effect
  | setHeader (name value : String)
  | setStatus (status : Nat)
  | put (key : String) (value : Stored)
  /-- Store a value for the whole application. -/
  | setState (key : String) (value : Stored)

/-- What an action may look at. -/
structure Moment (σ : Type) where
  exchange : Exchange
  desk : Desk
  /-- The values stored for the whole application. -/
  state : Store
  own : σ

namespace Desk

def apply (d : Desk) : Effect → Desk
  | .setHeader name value => { d with headers := d.headers.insertText name value }
  | .setStatus status => { d with status := some status }
  | .put key value => { d with store := d.store.insert key value }
  | .setState .. => d

end Desk

/-- The application's store after an effect. -/
def Effect.onState (state : Store) : Effect → Store
  | .setState key value => state.insert key value
  | _ => state

/-- The moment after an effect. -/
def Moment.apply {σ : Type} (m : Moment σ) (effect : Effect) : Moment σ :=
  { m with desk := m.desk.apply effect, state := effect.onState m.state }

/-- How code ends: with a value, with an error, or by a panic with a text. -/
inductive Outcome (α : Type)
  | done (value : α)
  | failed (error : Error)
  | panicked (text : String)

/-- What an action has done. -/
structure Turn (σ α : Type) where
  effects : List Effect
  own : σ
  outcome : Outcome α

abbrev Action (σ α : Type) := Moment σ → Turn σ α

/-- What the call of code has done that gives an action, or panics before that. -/
structure Launch (σ α : Type) where
  effects : List Effect
  own : σ
  action : Except String (Action σ α)

/-- A piece of code of the application: it is called in a moment, and the action that the call gives runs
after that. -/
abbrev Code (σ α : Type) := Moment σ → Launch σ α

/-- Runs before the handler; a response answers in its place. -/
abbrev BeforeHook (σ : Type) := Code σ (Option Response)

/-- Gets the response and gives the one to send. -/
abbrev AfterHook (σ : Type) := Response → Code σ Response

/-- May make a response of an error. -/
abbrev ErrorHook (σ : Type) := Error → Code σ (Option Response)

/-- Answers requests that match no route. -/
abbrev NotFoundHook (σ : Type) := Code σ Response

/-- What middleware does when it is entered: answer, or go on to what it wraps and see the result. -/
inductive Entry (σ : Type)
  | answer (response : Response)
  | proceed (resume : Except Error Response → Action σ Response)

/-- Code around the rest of a chain. It is told how much middleware is left in the chain. -/
structure Middleware (σ : Type) where
  name : String
  enter : Nat → Code σ (Entry σ)

/-- What a handler may return. -/
inductive Reply
  | response (response : Response)
  | text (text : String)
  | json (value : Json)
  | nothing
  /-- Another reply under a status of its own. -/
  | withStatus (status : Nat) (reply : Reply)
  | error (error : Error)

namespace Reply

/-- The response that a reply stands for. Plain values take the status that was set. -/
def respond (status : Option Nat) : Reply → Except Error Response
  | .response r => .ok r
  | .text s => .ok ((Response.bare (status.getD 200)).withText s)
  | .json value => .ok (Response.json (status.getD 200) value)
  | .nothing => .ok (Response.bare (status.getD 204))
  | .withStatus code reply => (reply.respond status).map (·.withStatus code)
  | .error e => .error e

end Reply

abbrev Handler (σ : Type) := Code σ Reply

end Trellis
