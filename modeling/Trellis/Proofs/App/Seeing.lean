import Trellis.Proofs.App.Course
import Trellis.Proofs.Serving.Seeing
/-!
What the code of an application sees of a request that has passed validation.
-/

namespace Trellis

namespace App

variable {σ : Type}

/-- The application whose code sees `x`, whatever it is given. -/
def seeing (x : Exchange) (app : App σ) : App σ :=
  { app with
    middleware := app.middleware.map (Middleware.seeing x)
    scopes := app.scopes.map fun scope => (scope.1, Middleware.seeing x scope.2)
    hooks :=
      { before := app.hooks.before.map (Code.seeing x)
        after := app.hooks.after.map fun hook given => Code.seeing x (hook given)
        error := app.hooks.error.map fun hook e => Code.seeing x (hook e)
        notFound := app.hooks.notFound.map (Code.seeing x) } }

end App

/-- The route whose code sees `x`, whatever it is given. -/
def Route.seeing {σ : Type} (x : Exchange) (route : Route σ) : Route σ :=
  { route with
    handler := Code.seeing x route.handler
    before := route.before.map (Code.seeing x)
    after := route.after.map fun hook given => Code.seeing x (hook given)
    middleware := route.middleware.map (Middleware.seeing x) }

namespace App

variable {σ : Type}

theorem chainFor_seeing (x : Exchange) (app : App σ) (route : Route σ)
    (segments : List String) :
    (app.seeing x).chainFor (route.seeing x) segments =
      (app.chainFor route segments).map (Middleware.seeing x) := by
  simp [chainFor_append, seeing, Route.seeing, List.filter_map, Function.comp_def]

theorem endpoint_seeing (x : Exchange) (route : Route σ) :
    endpoint (route.seeing x) x = endpoint route x := by
  funext r
  rw [endpoint, endpoint, Route.seeing, Run.before_seeing]
  simp only [Run.handle_seeing]

theorem produce_seeing (x : Exchange) (app : App σ) (route : Route σ)
    (segments : List String) (r : Run σ) :
    (app.seeing x).produce (route.seeing x) segments x r =
      app.produce route segments x r := by
  rw [produce, produce, seeing, Run.before_seeing, ← seeing, chainFor_seeing]
  simp only [endpoint_seeing, Run.chain_seeing]

theorem finish_seeing (x : Exchange) (app : App σ) (route : Route σ)
    (response : Response) (r : Run σ) :
    (app.seeing x).finish (route.seeing x) x response r =
      app.finish route x response r := by
  rw [finish, finish, seeing, Route.seeing]
  simp only [Run.afterHooks_seeing]

theorem askErrorHooks_seeing (x : Exchange) (e : Error) (i : Nat)
    (codes : List (ErrorHook σ)) (r : Run σ) :
    askErrorHooks x e i (codes.map fun code e => Code.seeing x (code e)) r =
      askErrorHooks x e i codes r := by
  induction codes generalizing i r with
  | nil => rfl
  | cons code rest ih =>
      rw [List.map_cons, askErrorHooks, askErrorHooks, Run.call_seeing]
      cases Run.call x (.errorHook i) (code e) r with
      | mk action after =>
          cases action with
          | error text => rfl
          | ok action =>
              simp only [Except.map, Run.perform_seeing, ih]

theorem conclude_seeing (x : Exchange) (app : App σ)
    (ended : Outcome Response × Run σ) :
    (app.seeing x).conclude x ended = app.conclude x ended := by
  have herror := fun e r => askErrorHooks_seeing x e 0 app.hooks.error r
  obtain ⟨outcome, r⟩ := ended
  cases outcome with
  | done response => rfl
  | failed e => exact herror e _
  | panicked text => exact herror _ _

/-- Behind the gate no code sees anything of a request but the exchange that
validation has left. -/
theorem respond_seeing (x : Exchange) (app : App σ) (route : Route σ)
    (segments : List String) (r : Run σ) :
    (app.seeing x).respond (route.seeing x) segments x r =
      app.respond route segments x r := by
  rw [respond, respond, produce_seeing, conclude_seeing]
  cases app.produce route segments x r with
  | mk outcome after =>
      cases outcome with
      | done response =>
          rw [finished, finished, finish_seeing]
      | failed e => rfl
      | panicked text => rfl

theorem approach_keeps (app : App σ) (route : Route σ) (segments : List String)
    (x : Exchange) : ∀ stage ∈ app.approach route segments ++ [Stage.handler],
      stage.Keeps fun m => m.exchange = x := by
  intro stage hstage
  simp only [approach, List.mem_append, List.mem_singleton] at hstage
  rcases hstage with ((hglobal | hchain) | hroute) | rfl
  · exact Stage.keeps_numbered (Stage.hook_keeps x) _ _ _ stage hglobal
  · exact Stage.keeps_chain (Stage.middleware_keeps x) _ _ stage hchain
  · exact Stage.keeps_numbered (Stage.hook_keeps x) _ _ _ stage hroute
  · exact Stage.handler_keeps _

theorem wayBack_keeps (app : App σ) (route : Route σ) (x : Exchange) :
    ∀ stage ∈ app.wayBack route, stage.Keeps fun s => s.2.exchange = x := by
  intro stage hstage
  rcases List.mem_append.mp hstage with hglobal | hroute
  · exact Stage.keeps_numbered (Stage.afterHook_keeps x) _ _ _ stage hglobal
  · exact Stage.keeps_numbered (Stage.afterHook_keeps x) _ _ _ stage hroute

/-- All code behind the gate is entered with that exchange. -/
theorem exchange_of_mem_course {app : App σ} {route : Route σ}
    {segments : List String} {x : Exchange} {r : Run σ} {entry : Place × Moment σ}
    (hentry : entry ∈ app.course route segments x r) : entry.2.exchange = x := by
  simp only [course, List.mem_append] at hentry
  rcases hentry with (hentered | hreturned) | hraised
  · exact Stage.of_mem_entered (app.approach_keeps route segments x) rfl hentered
  · unfold returning at hreturned
    split at hreturned
    · obtain ⟨passed, hpassed, rfl⟩ := List.mem_map.mp hreturned
      exact Stage.of_mem_entered (app.wayBack_keeps route x) rfl hpassed
    · exact absurd hreturned List.not_mem_nil
  · unfold raising at hraised
    split at hraised
    · exact Stage.of_mem_entered
        (Stage.keeps_numbered (Stage.hook_keeps x) _ _ _) rfl hraised
    · exact absurd hraised List.not_mem_nil

end App

end Trellis
