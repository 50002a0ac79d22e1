import Mathlib.Data.List.Induction
import Trellis.Proofs.Http.Headers
import Trellis.Proofs.Serving.Course
/-!
The effects of the code that is run for a request, in order.  They are computed beside the run, from what each piece
of code does in the moment in which it is entered, and the desk after the run is the desk after these effects.
-/

namespace Trellis

/-- The field that an effect sets, if its name and its value are valid. -/
def Effect.field? : Effect → Option (String × Bytes)
  | .setHeader name value => Headers.pair? name value
  | _ => none

/-- The value that effects set last for a header name. -/
def Effect.lastValue? (effects : List Effect) (name : String) : Option Bytes :=
  ((effects.filterMap Effect.field?).reverse.find? fun field => field.1 = name).map (·.2)

theorem Effect.lastValue?_append_singleton (effects : List Effect) (effect : Effect)
    (name : String) : lastValue? (effects ++ [effect]) name =
      match effect.field? with
      | some (key, value) => if key = name then some value else lastValue? effects name
      | none => lastValue? effects name := by
  cases hfield : effect.field? with
  | none => simp [lastValue?, List.filterMap_append, hfield]
  | some field =>
      obtain ⟨key, value⟩ := field
      by_cases hkey : key = name
      · simp [lastValue?, List.filterMap_append, hfield, hkey]
      · simp [lastValue?, List.filterMap_append, hfield, hkey]

theorem Desk.get?_apply (d : Desk) (effect : Effect) (name : String) :
    (d.apply effect).headers.get? name =
      match effect.field? with
      | some (key, value) => if key = name then some value else d.headers.get? name
      | none => d.headers.get? name := by
  cases effect with
  | setHeader key text => exact Headers.get?_insertText d.headers key text name
  | setStatus status => rfl
  | put key value => rfl
  | setState key value => rfl

/-- After effects a name has the value that they have set last, or else the one
that it had before. -/
theorem Desk.get?_foldl (effects : List Effect) (d : Desk) (name : String) :
    (effects.foldl Desk.apply d).headers.get? name =
      (Effect.lastValue? effects name).or (d.headers.get? name) := by
  induction effects using List.reverseRecOn with
  | nil => rfl
  | append_singleton earlier effect ih =>
      rw [List.foldl_append, List.foldl_cons, List.foldl_nil, Desk.get?_apply,
        Effect.lastValue?_append_singleton]
      cases effect.field? with
      | none => exact ih
      | some field =>
          obtain ⟨key, value⟩ := field
          by_cases hkey : key = name
          · simp [hkey]
          · simp [hkey, ih]

variable {σ α : Type}

/-- The effects of code that is entered in a moment: first those of its call. -/
def Code.effects (code : Code σ α) (m : Moment σ) : List Effect :=
  let launch := code m
  launch.effects ++ match launch.action with
    | .error _ => []
    | .ok action => (action (m.after launch.effects launch.own)).effects

namespace Run

/-- A run does to the desk what these effects do. -/
def Writes (run : Run σ → α × Run σ) (effects : Run σ → List Effect) : Prop :=
  ∀ r, (run r).2.desk = (effects r).foldl Desk.apply r.desk

theorem enter_writes (x : Exchange) (place : Place) (code : Code σ α) :
    Writes (enter x place code) fun r => Code.effects code (r.moment x) := by
  intro r
  unfold enter call Code.effects
  simp only [List.foldl_append]
  cases haction : (code ((r.visit place).moment x)).action with
  | ok action =>
      have hsame : (code (r.moment x)).action = .ok action := haction
      rw [hsame]
      rfl
  | error text =>
      have hsame : (code (r.moment x)).action = .error text := haction
      rw [hsame]
      rfl

/-- The effects of before hooks, up to the first that does not go on. -/
def beforeEffects (x : Exchange) (place : Nat → Place) :
    Nat → List (BeforeHook σ) → Run σ → List Effect
  | _, [], _ => []
  | i, hook :: rest, r =>
    Code.effects hook (r.moment x) ++ match enter x (place i) hook r with
      | (.done none, r) => beforeEffects x place (i + 1) rest r
      | _ => []

theorem before_writes (x : Exchange) (place : Nat → Place) (i : Nat)
    (codes : List (BeforeHook σ)) :
    Writes (before x place i codes) (beforeEffects x place i codes) := by
  intro r
  induction codes generalizing i r with
  | nil => rfl
  | cons hook rest ih =>
      have hentered := enter_writes x (place i) hook r
      rw [before, beforeEffects, List.foldl_append, ← hentered]
      obtain ⟨outcome, after⟩ := enter x (place i) hook r
      rcases outcome with (_ | response) | e | text
      · exact ih (i + 1) after
      all_goals rfl

def behindEffects (x : Exchange) (place : Nat → Place) (codes : List (BeforeHook σ))
    (next : Run σ → List Effect) (r : Run σ) : List Effect :=
  beforeEffects x place 0 codes r ++ match before x place 0 codes r with
    | (.done none, r) => next r
    | _ => []

theorem Writes.behind {next : Run σ → Outcome Response × Run σ}
    {effects : Run σ → List Effect} (hnext : Writes next effects) (x : Exchange)
    (place : Nat → Place) (codes : List (BeforeHook σ)) :
    Writes (Run.behind x place codes next) (behindEffects x place codes effects) := by
  intro r
  have hbefore := before_writes x place 0 codes r
  rw [Run.behind, behindEffects, List.foldl_append, ← hbefore]
  obtain ⟨outcome, after⟩ := before x place 0 codes r
  rcases outcome with (_ | response) | e | text
  · exact hnext after
  all_goals rfl

/-- The effects of a chain of middleware around an endpoint: on the way in, of the
endpoint, and on the way back. -/
def chainEffects (x : Exchange) (endpoint : Run σ → Outcome Response × Run σ)
    (effects : Run σ → List Effect) : Nat → List (Middleware σ) → Run σ → List Effect
  | _, [], r => effects (r.log endpointEvent)
  | i, m :: rest, r =>
    let r := r.log (middlewareEvent m.name i)
    Code.effects (m.enter rest.length) (r.moment x) ++
      match enter x (.middleware i) (m.enter rest.length) r with
      | (.done (.proceed resume), r) =>
        chainEffects x endpoint effects (i + 1) rest r ++
          match chain x endpoint (i + 1) rest r with
          | (.done response, r) => (resume (.ok response) (r.moment x)).effects
          | (.failed e, r) => (resume (.error e) (r.moment x)).effects
          | (.panicked _, _) => []
      | _ => []

theorem chain_writes {x : Exchange} {endpoint : Run σ → Outcome Response × Run σ}
    {effects : Run σ → List Effect} (hendpoint : Writes endpoint effects) (i : Nat)
    (codes : List (Middleware σ)) :
    Writes (chain x endpoint i codes) (chainEffects x endpoint effects i codes) := by
  intro r
  induction codes generalizing i r with
  | nil => exact hendpoint (r.log endpointEvent)
  | cons m rest ih =>
      have hentered := enter_writes x (.middleware i) (m.enter rest.length)
        (r.log (middlewareEvent m.name i))
      have hdesk : (r.log (middlewareEvent m.name i)).desk = r.desk := rfl
      rw [chain, chainEffects, List.foldl_append, ← hdesk, ← hentered]
      obtain ⟨outcome, after⟩ :=
        enter x (.middleware i) (m.enter rest.length) (r.log (middlewareEvent m.name i))
      rcases outcome with (response | resume) | e | text
      · rfl
      · have hinner := ih (i + 1) after
        dsimp only
        rw [List.foldl_append, ← hinner]
        obtain ⟨ended, last⟩ := chain x endpoint (i + 1) rest after
        cases ended <;> rfl
      all_goals rfl

theorem handle_writes (x : Exchange) (code : Handler σ) :
    Writes (handle x code) fun r => Code.effects code (r.moment x) := by
  intro r
  have hentered := enter_writes x .handler code r
  rw [handle, ← hentered]
  obtain ⟨outcome, after⟩ := enter x .handler code r
  cases outcome with
  | done reply =>
      dsimp only
      split <;> rfl
  | failed e => rfl
  | panicked text => rfl

end Run

end Trellis
