import Trellis.Proofs.App.Course
import Trellis.Proofs.App.Matched
import Trellis.Proofs.Serving.Ending
/-!
The order in which the code of an application is entered for a request that is matched and passes validation.
-/

namespace Trellis

namespace App

variable {σ : Type}

theorem handler_not_mem_approach (app : App σ) (route : Route σ)
    (segments : List String) (m : Moment σ) :
    Place.handler ∉
      (Stage.entered (app.approach route segments) m).map (·.1) := by
  intro hmem
  have hplace := (Stage.entered_prefix _ m).subset hmem
  rw [approach, List.map_append, List.map_append,
    Stage.places_numbered fun _ _ => rfl, Stage.places_numbered fun _ _ => rfl,
    Stage.places_chain] at hplace
  simp at hplace

theorem handler_not_mem_returning (app : App σ) (route : Route σ) (x : Exchange)
    (made : Outcome Response × Run σ) :
    Place.handler ∉ (app.returning route x made).map (·.1) := by
  obtain ⟨outcome, r⟩ := made
  cases outcome with
  | failed e => exact List.not_mem_nil
  | panicked text => exact List.not_mem_nil
  | done response =>
      rw [returning, List.map_map]
      intro hmem
      have hplace := (Stage.entered_prefix _ _).subset hmem
      rw [wayBack, List.map_append, Stage.places_numbered fun _ _ => rfl,
        Stage.places_numbered fun _ _ => rfl] at hplace
      simp at hplace

/-- After the pipeline only error hooks are entered. -/
theorem mem_raising {app : App σ} {x : Exchange}
    {ended : Outcome Response × Run σ} {place : Place}
    (hmem : place ∈ (app.raising x ended).map (·.1)) :
    ∃ i, place = .errorHook i := by
  unfold raising at hmem
  split at hmem
  · exact errorHook_of_mem hmem
  · exact absurd hmem List.not_mem_nil

/-- The handler is entered once if all stages before it go on, and never
otherwise. -/
theorem count_handler_course (app : App σ) (route : Route σ)
    (segments : List String) (x : Exchange) (r : Run σ) :
    ((app.course route segments x r).map (·.1)).count .handler =
      if (Stage.passed (app.approach route segments) (r.moment x)).isSome
        then 1 else 0 := by
  have happroach := List.count_eq_zero.mpr
    (app.handler_not_mem_approach route segments (r.moment x))
  have hreturning := fun made => List.count_eq_zero.mpr
    (app.handler_not_mem_returning route x made)
  have hraising : ∀ ended, ((app.raising x ended).map (·.1)).count
      Place.handler = 0 := by
    intro ended
    rw [List.count_eq_zero]
    intro hmem
    obtain ⟨i, hi⟩ := mem_raising hmem
    contradiction
  rw [course, List.map_append, List.map_append, List.count_append,
    List.count_append, hreturning, hraising, Stage.entered_append,
    List.map_append, List.count_append, happroach]
  cases Stage.passed (app.approach route segments) (r.moment x) with
  | none => rfl
  | some after => rfl

/-- A response that all after hooks have passed on is the answer. -/
theorem answer_of_passed {app : App σ} {route : Route σ} {x : Exchange}
    {response last : Response} {r : Run σ} {final : Moment σ}
    (hpassed : Stage.passed (app.wayBack route)
      (response.merged r.desk, r.moment x) = some (last, final)) :
    (app.finished route x (.done response, r)).1 = .done last := by
  obtain ⟨outcome, after, hglobal, -, hgone⟩ := Run.afterHooks_eq x
    .globalAfter 0 app.hooks.after (response.merged r.desk) r
  rw [wayBack, Stage.passed_append] at hpassed
  rw [finished_done, hglobal]
  rcases hgone with ⟨next, rfl, hnext⟩ | ⟨-, hnone⟩
  · rw [hnext] at hpassed
    obtain ⟨ended, done, hroute, -, hgone⟩ :=
      Run.afterHooks_eq x .routeAfter 0 route.after next after
    dsimp only
    rw [hroute]
    rcases hgone with ⟨given, rfl, hgiven⟩ | ⟨-, hnone⟩
    · have hsame := Option.some.inj (hgiven.symm.trans hpassed)
      exact congrArg Outcome.done (congrArg Prod.fst hsame)
    · rw [Option.bind_some, hnone] at hpassed
      contradiction
  · rw [hnone] at hpassed
    contradiction

/-- The middleware around a route, by what the setup registers. -/
theorem chainFor_of_grown {app : App σ} {ledger : Ledger σ} {config : AppConfig}
    (hgrown : (new config).Grown app ledger) (route : Route σ)
    (segments : List String) :
    app.chainFor route segments =
      ledger.middleware ++
        (ledger.scopes.filter fun scope => scope.1 <+: segments).map (·.2) ++
        route.middleware := by
  have hscopes : app.scopes.filter (fun scope => Path.covers scope.1 segments) =
      ledger.scopes.filter fun scope => scope.1 <+: segments := by
    rw [show app.scopes = ledger.scopes from hgrown.scopes]
    apply List.filter_congr
    intro scope _
    rw [Bool.eq_iff_iff, decide_eq_true_iff]
    exact Path.covers_iff
  rw [chainFor_append, hscopes]
  rw [show app.middleware = ledger.middleware from hgrown.middleware]

theorem chainFor_eq {app : App σ} {ledger : Ledger σ} {config : AppConfig}
    (hgrown : (new config).Grown app ledger) {declared : DeclaredRoute σ}
    {route : Route σ} (hgives : declared.Gives route) (segments : List String) :
    app.chainFor route segments =
      ledger.middleware ++
        (ledger.scopes.filter fun scope => scope.1 <+: segments).map (·.2) ++
        declared.middleware := by
  rw [chainFor_of_grown hgrown, hgives.middleware]

/-- What makes a response runs the code of the application in its order, and the
handler past all stages before it. -/
theorem produce_guarded (app : App σ) (route : Route σ) (segments : List String)
    (x : Exchange) (r : Run σ) :
    Guarded app.hooks.before
      (Wrapped
        (Guarded route.before fun m ended last =>
          Stage.passed (app.approach route segments) (r.moment x) = some m ∧
            Handled route.handler m ended last)
        (app.chainFor route segments))
      (r.moment x) (app.produce route segments x r).1
      ((app.produce route segments x r).2.moment x) := by
  have hinner : Run.Realizes x (endpoint route x)
      (Guarded route.before (Handled route.handler)) := by
    rw [endpoint_eq]
    exact (Run.handle_realizes x route.handler).behind .routeBefore route.before
  have hmade := (hinner.chain 0 (app.chainFor route segments)).behind .globalBefore
    app.hooks.before r
  rw [← produce_eq] at hmade
  -- Each layer runs past the stages around it, so the handler past all of them.
  refine hmade.mono .globalBefore fun hooked hhooked _ _ hchain => ?_
  refine hchain.mono 0 fun wrapped hwrapped _ _ hguarded => ?_
  refine hguarded.mono .routeBefore fun m hm _ _ hhandled => ⟨?_, hhandled⟩
  rw [approach, Stage.passed_append, Stage.passed_append, hhooked, Option.bind_some,
    hwrapped, Option.bind_some, hm]

/-- A response passes through the after hooks of the application and then those of
the route. -/
theorem finished_returned (app : App σ) (route : Route σ) (x : Exchange)
    (response : Response) (r : Run σ) :
    let ended := app.finished route x (.done response, r)
    Returned (app.hooks.after ++ route.after) (response.merged r.desk) (r.moment x)
      ended.1 (ended.2.moment x) := by
  intro ended
  have hended : ended = app.finished route x (.done response, r) := rfl
  have hglobal := Run.afterHooks_returned x .globalAfter 0 app.hooks.after
    (response.merged r.desk) r
  rw [finished_done] at hended
  generalize Run.afterHooks x .globalAfter 0 app.hooks.after
    (response.merged r.desk) r = given at hglobal hended
  obtain ⟨next | e | text, after⟩ := given
  · rw [hended]
    exact hglobal.append
      (Run.afterHooks_returned x .routeAfter 0 route.after next after)
  all_goals
    rw [hended]
    exact hglobal.append_of_stopped (by simp) route.after

/-- The order of user code for a matched request that passes validation.  The
stages on the way to the handler are the global before hooks, the middleware
chain, and the before hooks of the route; in the chain, the global middleware
comes first, then the one for paths above the request's, then that of the groups
around the route from the outside in, then the route's own, and each kind is in
the order of its registration.  Each stage is entered if all before it go on,
and so is the handler, once.

What comes of the code is told by its own turns: of the before hooks, of the chain
around what is inside it, and of the handler in the moment past all stages.  A
response of it, with the fields that were set for it, is handed through the global
after hooks and then those of the route, and what they give is the answer; an error
goes to the error hooks. -/
theorem order_of_passed {config : AppConfig} {setup : Setup σ}
    {request : Request} {route : Route σ} {segments : List String}
    {x passed : Exchange}
    (hmatched : (setup.run (new config)).app.matched request =
      .route route segments x)
    (hpassed : Validation.run route.schemas x = .passed passed) (own : σ) :
    let app := (setup.run (new config)).app
    let ledger := setup.ledger (new config)
    let start := Run.start app.state own
    let made := app.produce route segments passed start
    let ended := app.finished route passed made
    let served := app.handle request own
    ∃ declared ∈ ledger.routes, declared.Gives route ∧
      let chain := ledger.middleware ++
        (ledger.scopes.filter fun scope => scope.1 <+: segments).map (·.2) ++
        declared.middleware
      Path.split request.path = Path.split config.basePath ++ segments ∧
      app.approach route segments =
        Stage.hooks .globalBefore 0 ledger.before ++ Stage.chain 0 chain ++
          Stage.hooks .routeBefore 0 declared.options.before ∧
      app.wayBack route =
        Stage.afterHooks .globalAfter 0 ledger.after ++
          Stage.afterHooks .routeAfter 0 declared.options.after ∧
      served.2.visits =
        (Stage.entered (app.approach route segments ++ [Stage.handler])
            (start.moment passed) ++
          app.returning route passed made ++
          app.raising passed ended).map (·.1) ∧
      served.2.visits.count .handler =
        (if (Stage.passed (app.approach route segments)
            (start.moment passed)).isSome then 1 else 0) ∧
      Guarded ledger.before
        (Wrapped
          (Guarded declared.options.before fun m outcome last =>
            Stage.passed (app.approach route segments) (start.moment passed) =
                some m ∧
              Handled declared.handler m outcome last)
          chain)
        (start.moment passed) made.1 (made.2.moment passed) ∧
      (∀ response, made.1 = .done response →
        Returned (ledger.after ++ declared.options.after)
          (response.merged made.2.desk) (made.2.moment passed)
          ended.1 (ended.2.moment passed)) ∧
      (∀ e, made.1.error? = some e → ended = made) ∧
      (∀ response, ended.1 = .done response → served = (.response response, ended.2)) ∧
      ∀ e, ended.1.error? = some e → served = app.handleError passed e ended.2 := by
  intro app ledger start made ended served
  have hgrown : (new config).Grown app ledger := setup.run_grown (new config)
  obtain ⟨declared, hdeclared, hgives⟩ := exists_declared_of_matched hmatched
  obtain ⟨m, found, -, -, -, hpath⟩ := exists_found_of_matched hmatched
  have hvisits : served.2.visits =
      (app.course route segments passed start).map (·.1) :=
    visits_of_passed hmatched hpassed own
  have hcount := app.count_handler_course route segments passed start
  rw [← hvisits] at hcount
  have hchain := chainFor_eq hgrown hgives segments
  have hhooks : app.hooks.before = ledger.before := hgrown.before
  have hmade := app.produce_guarded route segments passed start
  have hserved : served = app.conclude passed ended :=
    handle_of_passed hmatched hpassed own
  refine ⟨declared, hdeclared, hgives, ?_, ?_, ?_, hvisits, hcount, ?_, ?_,
    fun e herror => finished_of_error herror, ?_, ?_⟩
  · rw [hpath, hgrown.config]
    rfl
  · rw [approach, hchain, hgives.before, hhooks]
  · rw [wayBack, hgives.after, hgrown.after]
    rfl
  · rw [hhooks, hchain, hgives.before, hgives.handler] at hmade
    exact hmade
  · intro response hdone
    have hreturned := app.finished_returned route passed response made.2
    rw [hgives.after, hgrown.after] at hreturned
    rw [← hdone] at hreturned
    exact hreturned
  · intro response hdone
    rw [hserved, conclude_of_done hdone]
  · intro e herror
    rw [hserved]
    exact conclude_of_error herror ended.2

/-- Middleware of every kind around a route in a group within a group.  Each piece of
code notes that it runs and goes on: the handler runs once, after all the code before
it, and its reply is the answer. -/
theorem order_of_passed_nested_groups :
    let pass (name : String) : BeforeHook (List String) := fun m =>
      ⟨[], m.own, .ok fun m => ⟨[], m.own ++ [name], .done none⟩⟩
    let through (name : String) : Middleware (List String) := ⟨name, fun _ m =>
      ⟨[], m.own, .ok fun m => ⟨[], m.own ++ [name], .done (.proceed fun ended m =>
        ⟨[], m.own, match ended with
          | .ok response => .done response
          | .error e => .failed e⟩)⟩⟩⟩
    let keep (name : String) : AfterHook (List String) := fun response m =>
      ⟨[], m.own, .ok fun m => ⟨[], m.own ++ [name], .done response⟩⟩
    let reply : Handler (List String) := fun m =>
      ⟨[], m.own, .ok fun m => ⟨[], m.own ++ ["handler"], .done (.text "items")⟩⟩
    let inner : GroupBody (List String) := .use (through "inner")
      (.route .get "/items" reply
        ⟨RouteSchemas.none, [pass "route before"], [keep "route after"],
          [through "own"]⟩
        fun _ => .finish none)
    let setup : Setup (List String) := .onAfter (keep "after")
      (.useAt "/api" (through "scoped")
        (.group "/api"
          (.use (through "outer") (.group "/v1" inner fun _ => .finish none))
          fun _ => .use (through "global") (.onBefore (pass "before") (.finish none))))
    let app := (setup.run (new .standard)).app
    let request := Request.new "GET" "/api/v1/items"
    ∃ route segments x,
      app.matched request = .route route segments x ∧
      Validation.run route.schemas x = .passed x ∧
      (app.chainFor route segments).map (·.name) =
        ["global", "scoped", "outer", "inner", "own"] ∧
      (app.handle request []).2.visits =
        [.globalBefore 0, .middleware 0, .middleware 1, .middleware 2,
          .middleware 3, .middleware 4, .routeBefore 0, .handler,
          .globalAfter 0, .routeAfter 0] ∧
      (app.handle request []).2.own =
        ["before", "global", "scoped", "outer", "inner", "own", "route before",
          "handler", "after", "route after"] ∧
      (app.handle request []).1 = .response ((Response.bare 200).withText "items") := by
  intro pass through keep reply inner setup app request
  let route : Route (List String) :=
    ⟨.get, "/api/v1/items", reply, RouteSchemas.none, [pass "route before"],
      [keep "route after"], [through "outer", through "inner", through "own"]⟩
  let segments := ["api", "v1", "items"]
  -- Text is reduced in closed terms only, so these facts come first.
  have hpattern : ((((RouteGroup.top.withBase "/v1").within
      ((RouteGroup.top.withBase "/api").use (through "outer"))).use
        (through "inner")).applyBase "/items") = "/api/v1/items" := rfl
  have hsplit : Path.split (Request.new "GET" "/api/v1/items").path =
      ["api", "v1", "items"] := rfl
  have hmethod : Method.ofRequest? "GET" = some .get := by decide +kernel
  obtain ⟨hconfig, hmiddleware, hscopes, hhooks, found, hfound, hvalue⟩ :
      app.config = .standard ∧ app.middleware = [through "global"] ∧
        app.scopes = [(["api"], through "scoped")] ∧
        app.hooks = ⟨[pass "before"], [keep "after"], [], none⟩ ∧
        ∃ found, app.resolve .get segments = .found found ∧
          found.value = route := by
    simp only [app, setup, Setup.run, group, GroupBody.run, inner,
      Registered.andThen]
    rw [hpattern]
    exact ⟨rfl, rfl, rfl, rfl, _, rfl, rfl⟩
  obtain ⟨x, hmatched⟩ : ∃ x, app.matched request = .route route segments x := by
    rw [← hvalue]
    exact ⟨_, matched_of_resolve hmethod (by rw [hconfig]; exact hsplit) hfound⟩
  obtain ⟨-, -, -, -, -, -, hvisits, -, -, -, -, hanswer, -⟩ :=
    order_of_passed hmatched rfl []
  have hcourse : (app.handle request []).2.visits =
      (app.course route segments x (Run.start app.state [])).map (·.1) := hvisits
  let ended := app.finished route x
    (app.produce route segments x (Run.start app.state []))
  have hserved : ∀ response, ended.1 = .done response →
      app.handle request [] = (.response response, ended.2) := hanswer
  refine ⟨_, _, _, hmatched, rfl, ?_⟩
  suffices hruns : (app.chainFor route segments).map (·.name) =
        ["global", "scoped", "outer", "inner", "own"] ∧
      (app.course route segments x (Run.start app.state [])).map (·.1) =
        [.globalBefore 0, .middleware 0, .middleware 1, .middleware 2,
          .middleware 3, .middleware 4, .routeBefore 0, .handler,
          .globalAfter 0, .routeAfter 0] ∧
      ended.2.own =
        ["before", "global", "scoped", "outer", "inner", "own", "route before",
          "handler", "after", "route after"] ∧
      ended.1 = .done ((Response.bare 200).withText "items") by
    obtain ⟨hnames, hplaces, hown, hdone⟩ := hruns
    rw [hcourse, hserved _ hdone]
    exact ⟨hnames, hplaces, hown, rfl⟩
  -- Only the middleware, the scopes and the hooks of the application count here.
  clear hvisits hcourse hanswer hserved hmatched
  clear_value app
  obtain ⟨_, _, _, _, _, _, _, _, _, _, _, _⟩ := app
  dsimp only at hmiddleware hscopes hhooks
  subst hmiddleware hscopes hhooks
  exact ⟨rfl, rfl, rfl, rfl⟩

end App

end Trellis
