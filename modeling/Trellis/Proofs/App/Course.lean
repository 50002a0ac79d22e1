import Trellis.Proofs.App.Answer
import Trellis.Proofs.App.Ledger
import Trellis.Proofs.Serving.Course
/-!
The course of a request that is matched to a route and passes validation: which code of the application is
entered, in which order, and what each piece sees.
-/

namespace Trellis

namespace Response

/-- A response with the fields that were set for it; its own ones count. -/
def merged (response : Response) (desk : Desk) : Response :=
  { response with headers := response.headers.fill desk.headers }

end Response

namespace App

variable {σ : Type} (app : App σ) (route : Route σ)

/-- The middleware around a route is one list, with or without the list before the
route's. -/
theorem chainFor_append (segments : List String) :
    app.chainFor route segments =
      app.middleware ++
        (app.scopes.filter fun scope => Path.covers scope.1 segments).map (·.2) ++
        route.middleware := by
  unfold chainFor
  dsimp only
  split
  · next hempty => rw [List.isEmpty_iff.mp hempty, List.nil_append]
  · rfl

/-- The stages before the handler. -/
def approach (segments : List String) : List (Stage (Moment σ)) :=
  Stage.hooks .globalBefore 0 app.hooks.before ++
    Stage.chain 0 (app.chainFor route segments) ++
    Stage.hooks .routeBefore 0 route.before

/-- The stages that a response passes through. -/
def wayBack : List (Stage (Response × Moment σ)) :=
  Stage.afterHooks .globalAfter 0 app.hooks.after ++
    Stage.afterHooks .routeAfter 0 route.after

/-- The error hooks as stages for an error. -/
def errorStages (e : Error) : List (Stage (Moment σ)) :=
  Stage.hooks .errorHook 0 (app.hooks.error.map fun hook => hook e)

/-- The after hooks that are entered once code has ended: none without a
response. -/
def returning (x : Exchange) : Outcome Response × Run σ → List (Place × Moment σ)
  | (.done response, r) =>
    (Stage.entered (app.wayBack route)
      (response.merged r.desk, r.moment x)).map fun entry => (entry.1, entry.2.2)
  | _ => []

/-- How the pipeline ends once code has made a response, or has failed. -/
def finished (x : Exchange) : Outcome Response × Run σ → Outcome Response × Run σ
  | (.done response, r) => app.finish route x response r
  | ended => ended

/-- The error hooks that are entered once the pipeline has ended: none without
an error. -/
def raising (x : Exchange) (ended : Outcome Response × Run σ) : List (Place × Moment σ) :=
  match ended.1.error? with
  | some e => Stage.entered (app.errorStages e) (ended.2.moment x)
  | none => []

/-- Serving a request whose inputs have passed. -/
def respond (segments : List String) (x : Exchange) (r : Run σ) : Answer × Run σ :=
  app.conclude x (app.finished route x (app.produce route segments x r))

/-- The code that is entered for inputs that have passed, each piece with the
moment that it sees. -/
def course (segments : List String) (x : Exchange) (r : Run σ) : List (Place × Moment σ) :=
  let made := app.produce route segments x r
  Stage.entered (app.approach route segments ++ [Stage.handler]) (r.moment x) ++
    app.returning route x made ++ app.raising x (app.finished route x made)

end App

namespace App

variable {σ : Type}

theorem endpoint_eq (route : Route σ) (x : Exchange) :
    endpoint route x =
      Run.behind x .routeBefore route.before (Run.handle x route.handler) := by
  funext r
  unfold endpoint Run.behind
  obtain ⟨outcome, after⟩ := Run.before x .routeBefore 0 route.before r
  rcases outcome with (_ | response) | e | text
  all_goals rfl

theorem produce_eq (app : App σ) (route : Route σ) (segments : List String)
    (x : Exchange) :
    app.produce route segments x =
      Run.behind x .globalBefore app.hooks.before
        (Run.chain x (endpoint route x) 0 (app.chainFor route segments)) := by
  funext r
  unfold produce Run.behind
  obtain ⟨outcome, after⟩ := Run.before x .globalBefore 0 app.hooks.before r
  rcases outcome with (_ | response) | e | text
  all_goals rfl

theorem endpoint_enters (route : Route σ) (x : Exchange) :
    Run.Enters x (endpoint route x)
      (Stage.hooks .routeBefore 0 route.before ++ [Stage.handler]) := by
  rw [endpoint_eq]
  exact (Run.handle_enters x route.handler).behind .routeBefore route.before

/-- Before a response is made, the stages before the handler are entered, and
past all of them the handler. -/
theorem produce_enters (app : App σ) (route : Route σ) (segments : List String)
    (x : Exchange) :
    Run.Enters x (app.produce route segments x)
      (app.approach route segments ++ [Stage.handler]) := by
  rw [approach, List.append_assoc, List.append_assoc, produce_eq]
  exact (Run.chain_enters (endpoint_enters route x) 0
    (app.chainFor route segments)).behind .globalBefore app.hooks.before

theorem finished_done (app : App σ) (route : Route σ) (x : Exchange)
    (response : Response) (r : Run σ) :
    app.finished route x (.done response, r) =
      match Run.afterHooks x .globalAfter 0 app.hooks.after
        (response.merged r.desk) r with
      | (.done response, r) =>
        Run.afterHooks x .routeAfter 0 route.after response r
      | ended => ended := rfl

/-- An error does not come to the after hooks. -/
theorem finished_of_error {app : App σ} {route : Route σ} {x : Exchange}
    {made : Outcome Response × Run σ} {e : Error} (herror : made.1.error? = some e) :
    app.finished route x made = made := by
  obtain ⟨outcome, r⟩ := made
  cases outcome with
  | done response => contradiction
  | failed e => rfl
  | panicked text => rfl

/-- A response passes through the global after hooks and then through those of
the route. -/
theorem visits_finished (app : App σ) (route : Route σ) (x : Exchange)
    (made : Outcome Response × Run σ) :
    (app.finished route x made).2.visits =
      made.2.visits ++ (app.returning route x made).map (·.1) := by
  obtain ⟨outcome, r⟩ := made
  cases outcome with
  | failed e => simp [finished, returning]
  | panicked text => simp [finished, returning]
  | done response =>
      obtain ⟨ended, after, hglobal, hvisits, hgone⟩ := Run.afterHooks_eq x
        .globalAfter 0 app.hooks.after (response.merged r.desk) r
      rw [returning, List.map_map]
      change _ = r.visits ++ (Stage.entered (app.wayBack route) _).map (·.1)
      rw [finished_done, hglobal, wayBack, Stage.entered_append]
      rcases hgone with ⟨last, rfl, hpassed⟩ | ⟨hstopped, hpassed⟩
      · obtain ⟨ended, final, hroute, hplaces, -⟩ :=
          Run.afterHooks_eq x .routeAfter 0 route.after last after
        dsimp only
        rw [hpassed, hroute, List.map_append, ← List.append_assoc, ← hvisits]
        exact hplaces
      · rw [hpassed, List.append_nil]
        cases ended with
        | done last => exact absurd rfl (hstopped last)
        | failed e => exact hvisits
        | panicked text => exact hvisits

/-- An error hook that gives no response leaves the error to the hooks after it,
and any other one is the last. -/
theorem askErrorHooks_cons (x : Exchange) (e : Error) (i : Nat)
    (code : ErrorHook σ) (rest : List (ErrorHook σ)) (r : Run σ) :
    ∃ outcome after, Code.turn (code e) (r.moment x) = (outcome, after.moment x) ∧
      after.visits = r.visits ++ [.errorHook i] ∧
      (outcome = .done none ∧ askErrorHooks x e i (code :: rest) r =
          askErrorHooks x e (i + 1) rest after ∨
        outcome ≠ .done none ∧
          (askErrorHooks x e i (code :: rest) r).2.visits = after.visits) := by
  obtain ⟨outcome, after, henter, hturn, hvisits⟩ :=
    Run.enter_eq x (.errorHook i) (code e) r
  refine ⟨outcome, after, hturn, hvisits, ?_⟩
  rw [askErrorHooks]
  rw [Run.enter] at henter
  cases hcall : Run.call x (.errorHook i) (code e) r with
  | mk launched called =>
      rw [hcall] at henter
      cases launched with
      | error text =>
          obtain ⟨rfl, rfl⟩ := Prod.mk.inj henter
          exact Or.inr ⟨by simp, rfl⟩
      | ok action =>
          dsimp only at henter ⊢
          rw [henter]
          cases outcome with
          | failed fault => exact Or.inr ⟨by simp, rfl⟩
          | panicked text => exact Or.inr ⟨by simp, rfl⟩
          | done given =>
              cases given with
              | some response => exact Or.inr ⟨by simp, rfl⟩
              | none => exact Or.inl ⟨rfl, rfl⟩

theorem errorHook_of_mem {app : App σ} {e : Error} {m : Moment σ} {place : Place}
    (hmem : place ∈ (Stage.entered (app.errorStages e) m).map (·.1)) :
    ∃ i, place = .errorHook i := by
  have hplace := (Stage.entered_prefix _ _).subset hmem
  rw [errorStages, Stage.places_numbered fun _ _ => rfl] at hplace
  obtain ⟨i, -, hi⟩ := List.mem_map.mp hplace
  exact ⟨i, hi.symm⟩

/-- Error hooks are entered as stages. -/
theorem askErrorHooks_enters (x : Exchange) (e : Error) (i : Nat)
    (codes : List (ErrorHook σ)) :
    Run.Enters x (askErrorHooks x e i codes)
      (Stage.hooks .errorHook i (codes.map fun hook => hook e)) := by
  intro r
  induction codes generalizing i r with
  | nil => simp [askErrorHooks, Stage.numbered, Stage.entered]
  | cons code rest ih =>
      obtain ⟨outcome, after, hturn, hvisits, hgone⟩ :=
        askErrorHooks_cons x e i code rest r
      simp only [List.map_cons, Stage.numbered, Stage.entered, Stage.hook, hturn]
      rcases hgone with ⟨rfl, hrest⟩ | ⟨hstopped, hlast⟩
      · rw [hrest, ih (i + 1) after, hvisits, List.append_assoc]
        rfl
      · rw [hlast, hvisits]
        cases outcome with
        | failed fault => rfl
        | panicked text => rfl
        | done given =>
            cases given with
            | some response => rfl
            | none => exact absurd rfl hstopped

/-- An error that all error hooks pass on gets the response of the framework. -/
theorem askErrorHooks_of_passed {x : Exchange} {e : Error} {i : Nat}
    {codes : List (ErrorHook σ)} {r : Run σ}
    (hpassed : (Stage.passed (Stage.hooks .errorHook i
      (codes.map fun hook => hook e)) (r.moment x)).isSome) :
    (askErrorHooks x e i codes r).1 = .response (defaultErrorResponse e) := by
  induction codes generalizing i r with
  | nil => rfl
  | cons code rest ih =>
      obtain ⟨outcome, after, hturn, -, hgone⟩ :=
        askErrorHooks_cons x e i code rest r
      simp only [List.map_cons, Stage.numbered, Stage.passed, Stage.hook, hturn]
        at hpassed
      rcases hgone with ⟨rfl, hrest⟩ | ⟨hstopped, -⟩
      · rw [hrest]
        exact ih hpassed
      · cases outcome with
        | failed fault => contradiction
        | panicked text => contradiction
        | done given =>
            cases given with
            | some response => contradiction
            | none => exact absurd rfl hstopped

/-- What ends with an error goes through the error hooks. -/
theorem visits_conclude (app : App σ) (x : Exchange)
    (ended : Outcome Response × Run σ) :
    (app.conclude x ended).2.visits =
      ended.2.visits ++ (app.raising x ended).map (·.1) := by
  obtain ⟨outcome, r⟩ := ended
  cases herror : outcome.error? with
  | none =>
      cases outcome with
      | done response => simp [conclude, raising, Outcome.error?]
      | failed e => contradiction
      | panicked text => contradiction
  | some e =>
      have hhooks := askErrorHooks_enters x e 0 app.hooks.error
        (r.log (errorEvent e))
      rw [conclude_of_error herror, raising, herror]
      exact hhooks

theorem pipeline_of_passed {app : App σ} {route : Route σ}
    {segments : List String} {x passed : Exchange}
    (hpassed : Validation.run route.schemas x = .passed passed) (r : Run σ) :
    app.pipeline route segments x r =
      let ended := app.finished route passed (app.produce route segments passed r)
      (ended.1, passed, ended.2) := by
  rw [pipeline, hpassed]
  dsimp only
  cases app.produce route segments passed r with
  | mk outcome after => cases outcome <;> rfl

theorem handle_of_passed {app : App σ} {request : Request} {route : Route σ}
    {segments : List String} {x passed : Exchange}
    (hmatched : app.matched request = .route route segments x)
    (hpassed : Validation.run route.schemas x = .passed passed) (own : σ) :
    app.handle request own =
      app.respond route segments passed (Run.start app.state own) := by
  rw [handle_eq, hmatched]
  dsimp only
  rw [pipeline_of_passed hpassed]
  rfl

/-- The code that is entered for a request that is matched and passes
validation is its course. -/
theorem visits_of_passed {app : App σ} {request : Request} {route : Route σ}
    {segments : List String} {x passed : Exchange}
    (hmatched : app.matched request = .route route segments x)
    (hpassed : Validation.run route.schemas x = .passed passed) (own : σ) :
    (app.handle request own).2.visits =
      (app.course route segments passed (Run.start app.state own)).map (·.1) := by
  rw [handle_of_passed hmatched hpassed, respond, visits_conclude, visits_finished,
    produce_enters]
  simp [course, Run.start]

end App

end Trellis
