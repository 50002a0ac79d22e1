import Trellis.Proofs.App.Order
import Trellis.Proofs.Serving.Effects
/-!
The header fields that the code of an application sets for a response.  They are added in one place, when a response
has been made and before the after hooks see it, so they are lost if serving comes to an error.
-/

namespace Trellis

namespace App

variable {σ : Type}

def endpointEffects (route : Route σ) (x : Exchange) : Run σ → List Effect :=
  Run.behindEffects x .routeBefore route.before
    fun r => Code.effects route.handler (r.moment x)

/-- The effects of the code that makes a response: of before hooks, middleware
and the handler, as far as they are entered, in order. -/
def produceEffects (app : App σ) (route : Route σ) (segments : List String)
    (x : Exchange) : Run σ → List Effect :=
  Run.behindEffects x .globalBefore app.hooks.before
    (Run.chainEffects x (endpoint route x) (endpointEffects route x) 0
      (app.chainFor route segments))

theorem produce_writes (app : App σ) (route : Route σ) (segments : List String)
    (x : Exchange) :
    Run.Writes (app.produce route segments x) (app.produceEffects route segments x) := by
  have hendpoint : Run.Writes (endpoint route x) (endpointEffects route x) := by
    rw [endpoint_eq]
    exact (Run.handle_writes x route.handler).behind x .routeBefore route.before
  rw [produce_eq]
  exact (Run.chain_writes hendpoint 0 _).behind x .globalBefore app.hooks.before

/-- What a response is sent with: for each name its own values, or else the value
that was set last. -/
theorem values_merged {app : App σ} {route : Route σ} {segments : List String}
    {x : Exchange} {own : σ} {response : Response} {made : Run σ}
    (hmade : app.produce route segments x (Run.start app.state own) =
      (.done response, made)) (name : String) :
    (response.merged made.desk).headers.values name =
      if response.headers.contains name then response.headers.values name
      else (Effect.lastValue?
        (app.produceEffects route segments x (Run.start app.state own)) name).toList := by
  have hdesk := app.produce_writes route segments x (Run.start app.state own)
  rw [hmade] at hdesk
  have hset : made.desk.headers.get? name = Effect.lastValue?
      (app.produceEffects route segments x (Run.start app.state own)) name := by
    rw [show made.desk = _ from hdesk, Desk.get?_foldl]
    exact Option.or_none
  rw [Response.merged, Headers.values_fill, hset]

/-- The header fields of a response.  If code makes a response and the after hooks
give back the one that they get, this response is sent, and it has the values
that it had, and for every other name the value that was set last by code that
was entered until then.  If code fails instead, the answer is that of the error
hooks, and if they leave the error it is the response of the framework, as it
is. -/
theorem fields_of_passed {app : App σ} {request : Request} {route : Route σ}
    {segments : List String} {x passed : Exchange}
    (hmatched : app.matched request = .route route segments x)
    (hpassed : Validation.run route.schemas x = .passed passed) (own : σ) :
    let start := Run.start app.state own
    let made := app.produce route segments passed start
    let set := app.produceEffects route segments passed start
    let served := app.handle request own
    (∀ response r final, made = (.done response, r) →
      Stage.passed (app.wayBack route) (response.merged r.desk, r.moment passed) =
          some (response.merged r.desk, final) →
        served.1 = .response (response.merged r.desk) ∧
        ∀ name, (response.merged r.desk).headers.values name =
          if response.headers.contains name then response.headers.values name
          else (Effect.lastValue? set name).toList) ∧
    ∀ e, made.1.error? = some e →
      served = app.handleError passed e made.2 ∧
      ((Stage.passed (app.errorStages e) (made.2.moment passed)).isSome →
        served.1 = .response (defaultErrorResponse e)) := by
  intro start made set served
  have hserved : served = app.conclude passed (app.finished route passed made) :=
    handle_of_passed hmatched hpassed own
  constructor
  · intro response r final hmade hthrough
    have hdone := answer_of_passed hthrough
    rw [← hmade] at hdone
    refine ⟨?_, fun name => values_merged hmade name⟩
    rw [hserved, conclude_of_done hdone]
  · intro e herror
    have hraised : served = app.handleError passed e made.2 := by
      rw [hserved, finished_of_error herror]
      exact conclude_of_error herror made.2
    refine ⟨hraised, fun hleft => ?_⟩
    rw [hraised]
    exact askErrorHooks_of_passed hleft

/-- A before hook and the handler set one field; the last value is sent, and the
content type of the reply stays. -/
theorem fields_of_passed_trace :
    let trace : BeforeHook Unit := fun m =>
      ⟨[], m.own, .ok fun m => ⟨[.setHeader "X-Trace" "1"], m.own, .done none⟩⟩
    let reply : Handler Unit := fun m =>
      ⟨[], m.own, .ok fun m =>
        ⟨[.setHeader "x-trace" "2", .setHeader "content-type" "text/css"], m.own,
          .done (.text "items")⟩⟩
    let keep : AfterHook Unit := fun response m =>
      ⟨[], m.own, .ok fun m => ⟨[], m.own, .done response⟩⟩
    let app := ((((new .standard).onBefore trace).onAfter keep).route .get "/items"
      reply RouteOptions.none).app
    let request := Request.new "GET" "/items"
    ∃ answer, (app.handle request ()).1 = .response answer ∧
      answer.headers.values "x-trace" = [Utf8.encode "2"] ∧
      answer.headers.values "content-type" = [MediaType.plainText] := by
  intro trace reply keep app request
  have hmethod : Method.ofRequest? "GET" = some .get := by decide +kernel
  have hsplit : Path.split (Request.new "GET" "/items").path = ["items"] := rfl
  obtain ⟨found, hfound, hvalue⟩ : ∃ found, app.resolve .get ["items"] = .found found ∧
      found.value = ⟨.get, "/items", reply, RouteSchemas.none, [], [], []⟩ :=
    ⟨_, rfl, rfl⟩
  have hmatched : app.matched request = .route found.value ["items"] _ :=
    matched_of_resolve hmethod hsplit hfound
  rw [hvalue] at hmatched
  have hset : ∀ x, app.produceEffects ⟨.get, "/items", reply, RouteSchemas.none, [], [], []⟩
      ["items"] x (Run.start app.state ()) = [.setHeader "X-Trace" "1",
        .setHeader "x-trace" "2", .setHeader "content-type" "text/css"] := fun x => rfl
  have hmade : ∀ x, ∃ r, app.produce ⟨.get, "/items", reply, RouteSchemas.none, [], [], []⟩
      ["items"] x (Run.start app.state ()) =
        (.done ((Response.bare 200).withText "items"), r) := fun x => ⟨_, rfl⟩
  obtain ⟨r, hresponse⟩ := hmade _
  obtain ⟨hpassed, -⟩ := fields_of_passed hmatched rfl ()
  obtain ⟨hsent, hvalues⟩ := hpassed _ r _ hresponse rfl
  rw [hset] at hvalues
  refine ⟨_, hsent, ?_, ?_⟩
  · rw [hvalues]
    decide +kernel
  · rw [hvalues]
    decide +kernel

/-- A field that was set before the handler fails is not sent. -/
theorem fields_lost_on_error :
    let trace : BeforeHook Unit := fun m =>
      ⟨[], m.own, .ok fun m => ⟨[.setHeader "x-trace" "1"], m.own, .done none⟩⟩
    let reply : Handler Unit := fun m =>
      ⟨[], m.own, .ok fun m => ⟨[], m.own, .done (.error (.fault .conflict "c"))⟩⟩
    let app :=
      (((new .standard).onBefore trace).route .get "/items" reply RouteOptions.none).app
    let request := Request.new "GET" "/items"
    ∃ route segments x answer,
      app.matched request = .route route segments x ∧
      Validation.run route.schemas x = .passed x ∧
      app.wayBack route = [] ∧
      Effect.lastValue? (app.produceEffects route segments x
        (Run.start app.state ())) "x-trace" = some (Utf8.encode "1") ∧
      (app.handle request ()).1 = .response answer ∧
      answer.headers.values "x-trace" = [] := by
  intro trace reply app request
  have hmethod : Method.ofRequest? "GET" = some .get := by decide +kernel
  have hsplit : Path.split (Request.new "GET" "/items").path = ["items"] := rfl
  obtain ⟨found, hfound, hvalue⟩ : ∃ found, app.resolve .get ["items"] = .found found ∧
      found.value = ⟨.get, "/items", reply, RouteSchemas.none, [], [], []⟩ :=
    ⟨_, rfl, rfl⟩
  have hmatched : app.matched request = .route found.value ["items"] _ :=
    matched_of_resolve hmethod hsplit hfound
  rw [hvalue] at hmatched
  have hset : ∀ x, app.produceEffects ⟨.get, "/items", reply, RouteSchemas.none, [], [], []⟩
      ["items"] x (Run.start app.state ()) = [.setHeader "x-trace" "1"] := fun x => rfl
  refine ⟨_, _, _, defaultErrorResponse (.fault .conflict "c"), hmatched, rfl, rfl, ?_, ?_, ?_⟩
  · rw [hset]
    decide +kernel
  · rw [handle_of_passed hmatched rfl]
    rfl
  · decide +kernel

end App

end Trellis
