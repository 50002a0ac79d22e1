import Trellis.Proofs.App.Order
import Trellis.Proofs.Http.Target
/-!
Base paths.  An application below a base path serves what lies there as it would serve the rest of the path
without a base path, and nothing else.  How a path places its slashes makes no difference.
-/

namespace Trellis

namespace App

variable {σ : Type}

/-- The application without a base path. -/
def unbased (app : App σ) : App σ :=
  { app with config := { app.config with basePath := "" } }

/-- Without a base path the whole path counts. -/
theorem relative?_unbased (app : App σ) (segments : List String) :
    app.unbased.relative? segments = some segments :=
  relative?_eq_some_iff.mpr rfl

/-! All else is as it is with the base path. -/

theorem resolve_unbased (app : App σ) : app.unbased.resolve = app.resolve := rfl

theorem exchange_unbased (app : App σ) : app.unbased.exchange = app.exchange := rfl

theorem pipeline_unbased (app : App σ) : app.unbased.pipeline = app.pipeline := rfl

theorem conclude_unbased (app : App σ) : app.unbased.conclude = app.conclude := rfl

theorem notFound_unbased (app : App σ) : app.unbased.notFound = app.notFound := rfl

theorem state_unbased (app : App σ) : app.unbased.state = app.state := rfl

/-- An exchange holds nothing of the target but the query. -/
theorem exchange_of_sameButPath (app : App σ) {request other : Request}
    (hsame : request.SameButPath other) (path : String) (route : Option String)
    (params : Params) :
    app.exchange other path route params = app.exchange request path route params := by
  rw [exchange, exchange, hsame.method, hsame.query, hsame.headers, hsame.body]

/-- What a request is matched to is known from the segments of its path below
the base path, or from all of them if it does not lie there. -/
theorem matched_congr {app : App σ} {request other : Request}
    (hsame : request.SameButPath other)
    (hsegments : Path.split other.path = Path.split request.path) :
    app.matched other = app.matched request := by
  have hresolution : app.resolution other = app.resolution request := by
    rw [resolution, resolution, hsame.method, hsegments]
  have hpath : app.segmentsOf other = app.segmentsOf request := by
    rw [segmentsOf, segmentsOf, hsegments]
  unfold matched
  rw [hresolution, hpath, hsegments]
  simp only [app.exchange_of_sameButPath hsame]

/-- Below its base path an application matches a request as it would without
the base path. -/
theorem matched_unbased {app : App σ} {request below : Request}
    (hsame : request.SameButPath below)
    (hpath : Path.split request.path =
      Path.split app.config.basePath ++ Path.split below.path) :
    app.unbased.matched below = app.matched request := by
  have hrelative := relative?_eq_some_iff.mpr hpath
  have hall := app.relative?_unbased (Path.split below.path)
  have hresolution : app.unbased.resolution below = app.resolution request := by
    rw [resolution, resolution, hsame.method, hall, hrelative, resolve_unbased]
  have hsegments : app.unbased.segmentsOf below = app.segmentsOf request := by
    rw [segmentsOf, segmentsOf, hall, hrelative, Option.getD_some, Option.getD_some]
  unfold matched
  rw [hresolution, hsegments, hall, hrelative]
  simp only [app.unbased.exchange_of_sameButPath hsame, exchange_unbased]

/-- A request outside of the base path is matched to nothing. -/
theorem matched_of_outside {app : App σ} {request : Request}
    (houtside : ¬ Path.split app.config.basePath <+: Path.split request.path) :
    app.matched request = .nothing [] (app.exchange request
      (Path.normalize request.path) none Params.empty) := by
  have hnone := relative?_eq_none_iff.mpr houtside
  have hresolution : app.resolution request = .notFound := by
    rw [resolution, hnone]
    cases Method.ofRequest? request.method <;> rfl
  unfold matched
  rw [hresolution, segmentsOf, hnone, Option.getD_none]
  rfl

/-- How a request is served depends on what it is matched to. -/
theorem handle_congr {app : App σ} {request other : Request}
    (hmatched : app.matched other = app.matched request) (own : σ) :
    app.handle other own = app.handle request own := by
  rw [handle_eq, handle_eq, hmatched]

theorem handle_unbased {app : App σ} {request below : Request}
    (hmatched : app.unbased.matched below = app.matched request) (own : σ) :
    app.unbased.handle below own = app.handle request own := by
  rw [handle_eq, handle_eq, hmatched, pipeline_unbased, conclude_unbased,
    notFound_unbased, state_unbased]

/-- For a request that is matched to nothing the not-found hook is entered, and
after it error hooks at most. -/
theorem visits_of_unmatched {app : App σ} {request : Request}
    {allowed : List Method} {x : Exchange}
    (hmatched : app.matched request = .nothing allowed x) (own : σ) :
    ∀ place ∈ (app.handle request own).2.visits,
      place = .notFoundHook ∨ ∃ i, place = .errorHook i := by
  intro place hplace
  rw [handle_eq, hmatched] at hplace
  dsimp only at hplace
  cases hhook : app.hooks.notFound with
  | none =>
      unfold notFound at hplace
      rw [hhook] at hplace
      exact absurd hplace List.not_mem_nil
  | some hook =>
      rw [notFound_eq hhook] at hplace
      cases hcall : Run.call x .notFoundHook hook (app.unmatchedRun x own) with
      | mk launched r =>
          have hvisits : r.visits = [.notFoundHook] :=
            (congrArg (fun called => called.2.visits) hcall).symm
          rw [hcall] at hplace
          cases launched with
          | error text =>
              dsimp only at hplace
              rw [hvisits] at hplace
              exact Or.inl (List.mem_singleton.mp hplace)
          | ok action =>
              dsimp only at hplace
              rw [visits_conclude] at hplace
              rcases List.mem_append.mp hplace with hhooked | hraised
              · left
                change place ∈ r.visits at hhooked
                rw [hvisits] at hhooked
                exact List.mem_singleton.mp hhooked
              · exact Or.inr (mem_raising hraised)

/-- Without a not-found hook the answer outside of the base path is a 404. -/
theorem handle_of_outside {app : App σ} {request : Request}
    (houtside : ¬ Path.split app.config.basePath <+: Path.split request.path)
    (hhook : app.hooks.notFound = none) (own : σ) :
    (app.handle request own).1 =
      let path := Path.normalize request.path
      .response (notFoundResponse path (app.suggestions path)) := by
  rw [handle_eq, matched_of_outside houtside]
  dsimp only
  rw [notFound, hhook]
  simp [defaultNotFound, exchange]

/-- Base paths and slashes are transparent.  A request whose path lies below the
base path is matched and served as the application without a base path serves
the rest of the path.  For a request outside of the base path no code runs but
the not-found hook and error hooks, and without a not-found hook the answer is a
404.  Requests whose paths have the same segments are served alike. -/
theorem base_path_transparent (app : App σ) (request : Request) (own : σ) :
    let base := Path.split app.config.basePath
    let segments := Path.split request.path
    let served := app.handle request own
    (∀ rest, segments = base ++ rest →
      (∃ below, request.SameButPath below ∧ Path.split below.path = rest) ∧
      ∀ below, request.SameButPath below → Path.split below.path = rest →
        app.unbased.matched below = app.matched request ∧
        app.unbased.handle below own = served) ∧
    (¬ base <+: segments →
      (∀ place ∈ served.2.visits,
        place = .notFoundHook ∨ ∃ i, place = .errorHook i) ∧
      (app.hooks.notFound = none →
        ∃ response, served.1 = .response response ∧ response.status = 404)) ∧
    ∀ other, request.SameButPath other → Path.split other.path = segments →
      app.handle other own = served := by
  intro base segments served
  refine ⟨?_, ?_, ?_⟩
  · intro rest hrest
    constructor
    · apply Request.exists_sameButPath
      intro s hs
      rw [show Path.split request.path = base ++ rest from hrest]
      exact List.mem_append_right base hs
    · rintro below hsame rfl
      have hmatched := matched_unbased hsame hrest
      exact ⟨hmatched, handle_unbased hmatched own⟩
  · intro houtside
    refine ⟨visits_of_unmatched (matched_of_outside houtside) own, fun hhook => ?_⟩
    exact ⟨_, handle_of_outside houtside hhook own, rfl⟩
  · intro other hsame hsegments
    exact handle_congr (matched_congr hsame hsegments) own

/-- A route with a parameter below `/api`, under middleware for its path. -/
theorem base_path_transparent_items :
    let gate : Middleware Unit := ⟨"gate", fun _ m =>
      ⟨[], m.own, .ok fun m => ⟨[], m.own, .done (.answer (Response.bare 403))⟩⟩⟩
    let reply : Handler Unit := fun m =>
      ⟨[], m.own, .ok fun m => ⟨[], m.own, .done .nothing⟩⟩
    let app : App Unit :=
      (((new { AppConfig.standard with basePath := "/api" }).useAt "/items" gate).route
        .get "/items/:id" reply RouteOptions.none).app
    let request := Request.new "GET" "//api/items/7/?page=2"
    let below := Request.new "GET" "/items//7?page=2"
    let respelled := Request.new "GET" "/api//items/7?page=2"
    let outside := Request.new "GET" "/apix/items/7"
    (∃ route x, app.matched request = .route route ["items", "7"] x) ∧
      app.unbased.matched below = app.matched request ∧
      app.unbased.handle below () = app.handle request () ∧
      app.handle respelled () = app.handle request () ∧
      ∃ response, (app.handle outside ()).1 = .response response ∧
        response.status = 404 := by
  intro gate reply app request below respelled outside
  have hmethod : Method.ofRequest? "GET" = some .get := by decide +kernel
  have hparse : Pattern.parse "/items/:id" =
      .ok ⟨"/items/:id", [.literal "items", .param "id"]⟩ := rfl
  have hsplit : Path.split (Request.new "GET" "//api/items/7/?page=2").path =
      Path.split "/api" ++ ["items", "7"] := rfl
  have hquery : (Request.new "GET" "//api/items/7/?page=2").query? =
      some "page=2" := rfl
  have hbelow : (Request.new "GET" "//api/items/7/?page=2").SameButPath
      (Request.new "GET" "/items//7?page=2") := ⟨rfl, by rw [hquery]; rfl, rfl, rfl⟩
  have hrespelled : (Request.new "GET" "//api/items/7/?page=2").SameButPath
      (Request.new "GET" "/api//items/7?page=2") := ⟨rfl, by rw [hquery]; rfl, rfl, rfl⟩
  have houtside : ¬ Path.split "/api" <+:
      Path.split (Request.new "GET" "/apix/items/7").path := by
    rw [show Path.split "/api" = ["api"] from rfl,
      show Path.split (Request.new "GET" "/apix/items/7").path =
        ["apix", "items", "7"] from rfl]
    decide
  have hsegments : Path.split (Request.new "GET" "/items//7?page=2").path =
      ["items", "7"] := rfl
  have hslashes : Path.split (Request.new "GET" "/api//items/7?page=2").path =
      Path.split (Request.new "GET" "//api/items/7/?page=2").path := by
    rw [hsplit]
    rfl
  obtain ⟨hbase, hhook, found, hfound⟩ : app.config.basePath = "/api" ∧
      app.hooks.notFound = none ∧
      ∃ found, app.resolve .get ["items", "7"] = .found found := by
    simp only [app, App.route, insertRoute, hparse]
    exact ⟨rfl, rfl, _, rfl⟩
  clear_value app
  rw [← hbase] at hsplit houtside
  obtain ⟨hmounted, -, hspelled⟩ := base_path_transparent app request ()
  obtain ⟨hmatched, hhandle⟩ := (hmounted ["items", "7"] hsplit).2 below hbelow hsegments
  obtain ⟨-, hdefault⟩ := (base_path_transparent app outside ()).2.1 houtside
  exact ⟨⟨_, _, matched_of_resolve hmethod hsplit hfound⟩, hmatched, hhandle,
    hspelled respelled hrespelled hslashes, hdefault hhook⟩

end App

end Trellis
