import Trellis.Proofs.App.BasePath
import Trellis.Proofs.Http.Headers
/-!
Requests that no route is found for.  The registered routes decide, without the tree and the static table, whether
the answer is that the path is unknown or that its routes have other methods; and the methods that this answer
names are those with which a route is found.
-/

namespace Trellis

theorem Method.ofRequest?_name (m : Method) :
    Method.ofRequest? m.name = if m = .any then none else some m := by
  cases m <;> decide +kernel

theorem Method.visible_name (m : Method) : m.name.toList.all Headers.isVisible := by
  cases m <;> decide

/-- The names of methods in a row are a text of visible characters. -/
theorem Method.visible_names (methods : List Method) :
    (", ".intercalate (methods.map Method.name)).toList.all Headers.isVisible := by
  have hcomma : ", ".toList.all Headers.isVisible := by decide
  rw [String.toList_intercalate, List.map_map]
  induction methods with
  | nil => rfl
  | cons m rest ih =>
      cases rest with
      | nil => simpa using m.visible_name
      | cons next others =>
          simp only [List.map_cons, Function.comp_apply] at ih ⊢
          rw [List.intercalate_cons_cons, List.all_append, List.all_append, m.visible_name,
            hcomma, ih]
          rfl

namespace Route

variable {σ : Type}

/-- The pattern of a route matches the segments of a path. -/
def Matches (route : Route σ) (segments : List String) : Prop :=
  ∃ pattern, Pattern.parse route.pattern = .ok pattern ∧ pattern.shape.Matches segments

/-- Whether a route is for requests with this method. -/
def Serves (route : Route σ) (m : Method) : Prop := route.method = m ∨ route.method = .any

end Route

namespace App

variable {σ : Type}

/-- The right answer for a method and the segments of a path, by the registered
routes alone. -/
inductive Answers (app : App σ) (m : Method) (segments : List String) :
    Resolution (Route σ) → Prop
  | found (found : Match (Route σ)) :
      (∃ route ∈ app.entries, route.Matches segments ∧ route.Serves m) →
      Answers app m segments (.found found)
  | notFound :
      (∀ route ∈ app.entries, ¬ route.Matches segments) → Answers app m segments .notFound
  | methodNotAllowed (allowed : List Method) :
      (∃ route ∈ app.entries, route.Matches segments) →
      (∀ route ∈ app.entries, route.Matches segments → ¬ route.Serves m) →
      allowed.Pairwise (fun first second => first.index < second.index) →
      (∀ other, other ∈ allowed ↔
        ∃ route ∈ app.entries, route.Matches segments ∧ route.method = other) →
      Answers app m segments (.methodNotAllowed allowed)

/-- The registered routes that match are those that the router has accepted. -/
theorem exists_matching_iff {app : App σ} {accepted : List (Registration (Route σ))}
    (hentries : accepted.map (·.value) = app.entries)
    (hread : ∀ c ∈ accepted, c.value.method = c.method ∧
      Pattern.parse c.value.pattern = .ok c.pattern)
    (segments : List String) (P : Method → Prop) :
    (∃ c, (Registry.mk app.router accepted).Matching segments c ∧ P c.method) ↔
      ∃ route ∈ app.entries, route.Matches segments ∧ P route.method := by
  constructor
  · rintro ⟨c, ⟨hmem, hmatches⟩, hmethod⟩
    obtain ⟨hsame, hparse⟩ := hread c hmem
    refine ⟨c.value, ?_, ⟨c.pattern, hparse, hmatches⟩, hsame ▸ hmethod⟩
    rw [← hentries]
    exact List.mem_map_of_mem hmem
  · rintro ⟨route, hmem, ⟨pattern, hparse, hmatches⟩, hmethod⟩
    rw [← hentries] at hmem
    obtain ⟨c, hc, rfl⟩ := List.mem_map.mp hmem
    obtain ⟨hsame, hown⟩ := hread c hc
    obtain rfl := Except.ok.inj (hown.symm.trans hparse)
    exact ⟨c, ⟨hc, hmatches⟩, hsame ▸ hmethod⟩

/-- What is found for a path is right by the registered routes. -/
theorem resolve_answers {app : App σ} (hconsistent : app.routing.Consistent)
    (hplaced : app.routing.Placed) (m : Method) {segments : List String}
    (hsegments : ∀ s ∈ segments, Path.IsSegment s) :
    app.Answers m segments (app.resolve m segments) := by
  obtain ⟨accepted, hvalid, hentries, hread⟩ := hplaced
  have hmatching := exists_matching_iff hentries hread segments
  have hanswers := hvalid.resolveSegments_answers m segments
  rw [resolve_eq hconsistent m hsegments]
  change Registry.Answers _ m segments (app.router.resolveSegments m segments) at hanswers
  generalize app.router.resolveSegments m segments = answer at hanswers ⊢
  cases hanswers with
  | found c params hc hserves _ =>
      exact .found _ ((hmatching fun own => own = m ∨ own = .any).mp ⟨c, hc, hserves⟩)
  | notFound hnone =>
      refine .notFound fun route hmem hmatches => ?_
      obtain ⟨c, hc, -⟩ := (hmatching fun _ => True).mpr ⟨route, hmem, hmatches, trivial⟩
      exact hnone c hc
  | methodNotAllowed allowed hsome hnone hsorted hmethods =>
      obtain ⟨c, hc⟩ := hsome
      refine .methodNotAllowed allowed ?_ ?_ hsorted ?_
      · obtain ⟨route, hmem, hmatches, -⟩ := (hmatching fun _ => True).mp ⟨c, hc, trivial⟩
        exact ⟨route, hmem, hmatches⟩
      · intro route hmem hmatches hserves
        obtain ⟨other, hother, hotherServes⟩ :=
          (hmatching fun own => own = m ∨ own = .any).mpr ⟨route, hmem, hmatches, hserves⟩
        exact hnone other hother hotherServes
      · intro other
        rw [hmethods]
        exact hmatching fun own => own = other

/-- The path of a request lies below the base path and matches registered routes,
but none that serves the method of the request. -/
structure WrongMethod (app : App σ) (request : Request) (m : Method)
    (rest : List String) : Prop where
  method : Method.ofRequest? request.method = some m
  path : Path.split request.path = Path.split app.config.basePath ++ rest
  known : ∃ route ∈ app.entries, route.Matches rest
  unserved : ∀ route ∈ app.entries, route.Matches rest → ¬ route.Serves m

section Request

variable {app : App σ} {request : Request} {m : Method} {rest : List String}

theorem resolution_of_below (hmethod : Method.ofRequest? request.method = some m)
    (hpath : Path.split request.path = Path.split app.config.basePath ++ rest) :
    app.resolution request = app.resolve m rest := by
  rw [resolution, hmethod, relative?_eq_some_iff.mpr hpath]

/-- A request is matched to a route if one that serves its method matches its
path. -/
theorem exists_route_iff (hconsistent : app.routing.Consistent)
    (hplaced : app.routing.Placed)
    (hmethod : Method.ofRequest? request.method = some m)
    (hpath : Path.split request.path = Path.split app.config.basePath ++ rest) :
    (∃ route segments x, app.matched request = .route route segments x) ↔
      ∃ route ∈ app.entries, route.Matches rest ∧ route.Serves m := by
  have hanswers := resolve_answers hconsistent hplaced m (isSegment_of_below hpath)
  have hresolution := resolution_of_below hmethod hpath
  rw [matched, hresolution]
  generalize app.resolve m rest = answer at hanswers
  cases hanswers with
  | found found hserved => exact iff_of_true ⟨_, _, _, rfl⟩ hserved
  | notFound hnone =>
      refine iff_of_false (by simp) ?_
      rintro ⟨route, hmem, hmatches, -⟩
      exact hnone route hmem hmatches
  | methodNotAllowed allowed _ hnone _ _ =>
      refine iff_of_false (by simp) ?_
      rintro ⟨route, hmem, hmatches, hserves⟩
      exact hnone route hmem hmatches hserves

/-- A request of no known method is matched to nothing. -/
theorem not_exists_route_of_unknown (hmethod : Method.ofRequest? request.method = none) :
    ¬ ∃ route segments x, app.matched request = .route route segments x := by
  have hresolution : app.resolution request = .notFound := by
    rw [resolution, hmethod]
  rw [matched, hresolution]
  simp

/-- Where no route is for every method, the methods of the routes that match a
path are those with which the path is matched to a route. -/
theorem exists_route_with_iff (hconsistent : app.routing.Consistent)
    (hplaced : app.routing.Placed)
    (hpath : Path.split request.path = Path.split app.config.basePath ++ rest)
    (hany : ∀ route ∈ app.entries, route.Matches rest → route.method ≠ .any)
    (other : Method) :
    (∃ route segments x,
      app.matched { request with method := other.name } = .route route segments x) ↔
      ∃ route ∈ app.entries, route.Matches rest ∧ route.method = other := by
  have hmethod := Method.ofRequest?_name other
  by_cases hother : other = .any
  · rw [if_pos hother] at hmethod
    refine iff_of_false (not_exists_route_of_unknown hmethod) ?_
    rintro ⟨route, hmem, hmatches, rfl⟩
    exact hany route hmem hmatches hother
  · rw [if_neg hother] at hmethod
    have hasked : Path.split { request with method := other.name }.path =
        Path.split app.config.basePath ++ rest := hpath
    refine (exists_route_iff hconsistent hplaced hmethod hasked).trans ?_
    constructor
    · rintro ⟨route, hmem, hmatches, hown | hall⟩
      · exact ⟨route, hmem, hmatches, hown⟩
      · exact absurd hall (hany route hmem hmatches)
    · rintro ⟨route, hmem, hmatches, hown⟩
      exact ⟨route, hmem, hmatches, Or.inl hown⟩

/-- A request whose path has routes for other methods only is matched to nothing,
and the methods are those with which the path is matched to a route. -/
theorem WrongMethod.matched_eq (hwrong : app.WrongMethod request m rest)
    (hconsistent : app.routing.Consistent) (hplaced : app.routing.Placed) :
    ∃ allowed, app.matched request = .nothing allowed
        (app.exchange request (Path.join rest) none Params.empty) ∧
      allowed ≠ [] ∧
      allowed.Pairwise (fun first second => first.index < second.index) ∧
      ∀ other : Method, other ∈ allowed ↔ ∃ route segments x,
        app.matched { request with method := other.name } = .route route segments x := by
  obtain ⟨hmethod, hpath, ⟨known, hknown, hmatches⟩, hunserved⟩ := hwrong
  have hanswers := resolve_answers hconsistent hplaced m (isSegment_of_below hpath)
  have hresolution := resolution_of_below hmethod hpath
  generalize app.resolve m rest = answer at hanswers hresolution
  cases hanswers with
  | found found hserved =>
      obtain ⟨route, hmem, hroute, hserves⟩ := hserved
      exact absurd hserves (hunserved route hmem hroute)
  | notFound hnone => exact absurd hmatches (hnone known hknown)
  | methodNotAllowed allowed _ _ hsorted hmethods =>
      have hany : ∀ route ∈ app.entries, route.Matches rest → route.method ≠ .any :=
        fun route hmem hroute hall => hunserved route hmem hroute (Or.inr hall)
      have hmem : known.method ∈ allowed :=
        (hmethods known.method).mpr ⟨known, hknown, hmatches, rfl⟩
      refine ⟨allowed, ?_, List.ne_nil_of_mem hmem, hsorted, fun other => ?_⟩
      · rw [matched, hresolution, segmentsOf, relative?_eq_some_iff.mpr hpath]
        rfl
      · rw [hmethods, exists_route_with_iff hconsistent hplaced hpath hany]

/-- A request that is matched to nothing has the wrong method, or no methods are
known for it. -/
theorem wrongMethod_of_matched (hconsistent : app.routing.Consistent)
    (hplaced : app.routing.Placed) {allowed : List Method} {x : Exchange}
    (hmatched : app.matched request = .nothing allowed x) (hallowed : allowed ≠ []) :
    ∃ m rest, app.WrongMethod request m rest := by
  have hresolution : app.resolution request = .methodNotAllowed allowed := by
    unfold matched at hmatched
    cases hresolution : app.resolution request with
    | found found =>
        rw [hresolution] at hmatched
        contradiction
    | notFound =>
        rw [hresolution] at hmatched
        exact absurd (Matched.nothing.inj hmatched).1.symm hallowed
    | methodNotAllowed methods =>
        rw [hresolution] at hmatched
        rw [(Matched.nothing.inj hmatched).1]
  unfold resolution at hresolution
  split at hresolution
  · next m rest hmethod hrelative =>
      have hpath := relative?_eq_some_iff.mp hrelative
      have hanswers := resolve_answers hconsistent hplaced m (isSegment_of_below hpath)
      rw [hresolution] at hanswers
      cases hanswers with
      | methodNotAllowed _ hknown hunserved _ _ =>
          exact ⟨m, rest, hmethod, hpath, hknown, hunserved⟩
  · contradiction

/-- Without a not-found hook a request that is matched to nothing is answered with
its methods, if methods are strict and there are any, or as not found. -/
theorem handle_of_unmatched (hhook : app.hooks.notFound = none) {allowed : List Method}
    {x : Exchange} (hmatched : app.matched request = .nothing allowed x) (own : σ) :
    (app.handle request own).1 = .response (app.defaultNotFound x.path allowed) := by
  rw [handle_eq, hmatched]
  dsimp only
  rw [notFound, hhook]

end Request

theorem status_defaultNotFound (app : App σ) (path : String) (allowed : List Method) :
    (app.defaultNotFound path allowed).status =
      if app.config.strictMethods ∧ allowed ≠ [] then 405 else 404 := by
  rw [defaultNotFound]
  by_cases hnamed : app.config.strictMethods ∧ allowed ≠ []
  · rw [if_pos (by simpa using hnamed), if_pos hnamed]
    rfl
  · rw [if_neg (by simpa using hnamed), if_neg hnamed]
    rfl

/-- The answer names the methods in its header field and in its body. -/
theorem methodNotAllowedResponse_names (path : String) (allowed : List Method) :
    let response := methodNotAllowedResponse path allowed
    response.header? "allow" = some (", ".intercalate (allowed.map Method.name)) ∧
      ∃ value : Json, response.body = Utf8.encode value.compact ∧
        value.field? "allowed" = some (Json.strings (allowed.map Method.name)) := by
  have hname : Headers.name? "allow" = some "allow" := by decide +kernel
  refine ⟨Headers.text?_insertText _ hname (Method.visible_names allowed), Json.ofFields
    [("allowed", Json.strings (allowed.map Method.name)),
      ("error", .string "Method Not Allowed"), ("path", .string path)], ?_, ?_⟩
  · simp only [methodNotAllowedResponse, Response.withHeader, Response.json, Response.withJson]
  · simp [Json.ofFields, Json.field?, KeyMap.ofList, KeyMap.get?_insert]

/-- The answer to a request that no route is found for is truthful.  No
middleware, before hook, after hook or handler is entered.  Without a not-found
hook it is a 405 just if methods are strict and the path matches registered
routes, none of which serves the method, and otherwise a 404; and the 405 names,
in its header field and in its body, the methods with which the same target is
matched to a route, in their order and each once. -/
theorem unmatched_truthful (config : AppConfig) (setup : Setup σ) (request : Request)
    (own : σ) :
    let app := (setup.run (new config)).app
    let served := app.handle request own
    let unmatched := ∃ allowed x, app.matched request = .nothing allowed x
    let mistaken := ∃ m rest, app.WrongMethod request m rest
    (unmatched → ∀ place ∈ served.2.visits,
      place = .notFoundHook ∨ ∃ i, place = .errorHook i) ∧
    (app.hooks.notFound = none →
      ((unmatched ∧ ∃ response, served.1 = .response response ∧ response.status = 405) ↔
        app.config.strictMethods ∧ mistaken) ∧
      (unmatched → ¬ (app.config.strictMethods ∧ mistaken) →
        ∃ response, served.1 = .response response ∧ response.status = 404) ∧
      (app.config.strictMethods → mistaken →
        ∃ response, ∃ value : Json, ∃ allowed : List Method,
          served.1 = .response response ∧
          response.header? "allow" = some (", ".intercalate (allowed.map Method.name)) ∧
          response.body = Utf8.encode value.compact ∧
          value.field? "allowed" = some (Json.strings (allowed.map Method.name)) ∧
          allowed.Pairwise (fun first second => first.index < second.index) ∧
          ∀ other : Method, other ∈ allowed ↔ ∃ route segments x,
            app.matched { request with method := other.name } =
              .route route segments x)) := by
  intro app served unmatched mistaken
  have hconsistent := consistent_kept.setup setup (new config) (new_consistent config)
  have hplaced := placed_kept.setup setup (new config) (new_placed config)
  refine ⟨?_, fun hhook => ⟨⟨?_, ?_⟩, ?_, ?_⟩⟩
  · rintro ⟨allowed, x, hmatched⟩
    exact visits_of_unmatched hmatched own
  · rintro ⟨⟨allowed, x, hmatched⟩, response, hserved, hstatus⟩
    have hanswer := handle_of_unmatched hhook hmatched own
    obtain rfl := Answer.response.inj (hserved.symm.trans hanswer)
    rw [status_defaultNotFound] at hstatus
    split at hstatus
    · next hnamed =>
        exact ⟨hnamed.1, wrongMethod_of_matched hconsistent hplaced hmatched hnamed.2⟩
    · contradiction
  · rintro ⟨hstrict, m, rest, hwrong⟩
    obtain ⟨allowed, hmatched, hallowed, -, -⟩ := hwrong.matched_eq hconsistent hplaced
    refine ⟨⟨allowed, _, hmatched⟩, _, handle_of_unmatched hhook hmatched own, ?_⟩
    rw [status_defaultNotFound, if_pos ⟨hstrict, hallowed⟩]
  · rintro ⟨allowed, x, hmatched⟩ hother
    refine ⟨_, handle_of_unmatched hhook hmatched own, ?_⟩
    rw [status_defaultNotFound, if_neg]
    rintro ⟨hstrict, hallowed⟩
    exact hother ⟨hstrict, wrongMethod_of_matched hconsistent hplaced hmatched hallowed⟩
  · rintro hstrict ⟨m, rest, hwrong⟩
    obtain ⟨allowed, hmatched, hallowed, hsorted, hmethods⟩ :=
      hwrong.matched_eq hconsistent hplaced
    have hanswer := handle_of_unmatched hhook hmatched own
    rw [defaultNotFound, if_pos (by simpa using ⟨hstrict, hallowed⟩)] at hanswer
    obtain ⟨hheader, value, hbody, hfield⟩ := methodNotAllowedResponse_names
      (app.exchange request (Path.join rest) none Params.empty).path allowed
    exact ⟨_, value, allowed, hanswer, hheader, hbody, hfield, hsorted, hmethods⟩

/-- A path with routes for two other methods, one of which takes all that is left
of the path. -/
theorem unmatched_truthful_items :
    let reply : Handler Unit := fun m =>
      ⟨[], m.own, .ok fun m => ⟨[], m.own, .done .nothing⟩⟩
    let setup : Setup Unit :=
      .route .delete "/items/*" reply RouteOptions.none fun _ =>
        .route .post "/items/:id" reply RouteOptions.none fun _ => .finish none
    let app := (setup.run (new { AppConfig.standard with strictMethods := true })).app
    let request := Request.new "GET" "/items/7?page=2"
    ∃ response, ∃ allowed : List Method, (app.handle request ()).1 = .response response ∧
      response.header? "allow" = some (", ".intercalate (allowed.map Method.name)) ∧
      .post ∈ allowed ∧ .delete ∈ allowed ∧ .get ∉ allowed := by
  intro reply setup app request
  have hmethod : Method.ofRequest? "GET" = some .get := by decide +kernel
  have hpath : Path.split (Request.new "GET" "/items/7?page=2").path =
      Path.split "" ++ ["items", "7"] := rfl
  have hall : Pattern.parse "/items/*" =
      .ok ⟨"/items/*", [.literal "items", .wildcard]⟩ := rfl
  have hone : Pattern.parse "/items/:id" =
      .ok ⟨"/items/:id", [.literal "items", .param "id"]⟩ := rfl
  have hconsistent : app.routing.Consistent :=
    consistent_kept.setup setup _ (new_consistent _)
  have hplaced : app.routing.Placed := placed_kept.setup setup _ (new_placed _)
  obtain ⟨hbase, hstrict, hhook, hentries⟩ : app.config.basePath = "" ∧
      app.config.strictMethods = true ∧ app.hooks.notFound = none ∧
      app.entries =
        [routeOf .delete ⟨"/items/*", [.literal "items", .wildcard]⟩ reply RouteOptions.none [],
          routeOf .post ⟨"/items/:id", [.literal "items", .param "id"]⟩ reply
            RouteOptions.none []] := by
    simp only [app, setup, Setup.run, App.route, insertRoute, hall, hone]
    exact ⟨rfl, rfl, rfl, rfl⟩
  have hdelete : (routeOf .delete ⟨"/items/*", [.literal "items", .wildcard]⟩ reply
      RouteOptions.none []).Matches ["items", "7"] :=
    ⟨_, hall, .literal "items" (.wildcard "7" [])⟩
  have hpost : (routeOf .post ⟨"/items/:id", [.literal "items", .param "id"]⟩ reply
      RouteOptions.none []).Matches ["items", "7"] :=
    ⟨_, hone, .literal "items" (.param "7" .nil)⟩
  rw [← hbase] at hpath
  have hwrong : app.WrongMethod request .get ["items", "7"] := by
    refine ⟨hmethod, hpath, ?_, ?_⟩
    · rw [hentries]
      exact ⟨_, List.mem_cons_self, hdelete⟩
    · rw [hentries]
      simp [routeOf, Route.Serves]
  obtain ⟨-, htruthful⟩ :=
    unmatched_truthful { AppConfig.standard with strictMethods := true } setup request ()
  obtain ⟨response, -, allowed, hserved, hheader, -, -, -, hmethods⟩ :=
    (htruthful hhook).2.2 hstrict ⟨.get, ["items", "7"], hwrong⟩
  have hnamed : ∀ other, other ∈ allowed ↔
      ∃ route ∈ app.entries, route.Matches ["items", "7"] ∧ route.method = other := by
    intro other
    refine (hmethods other).trans (exists_route_with_iff hconsistent hplaced hpath ?_ other)
    exact fun route hmem hmatches hany => hwrong.unserved route hmem hmatches (Or.inr hany)
  rw [hentries] at hnamed
  refine ⟨response, allowed, hserved, hheader, ?_, ?_, ?_⟩
  · exact (hnamed .post).mpr ⟨_, List.mem_cons_of_mem _ List.mem_cons_self, hpost, rfl⟩
  · exact (hnamed .delete).mpr ⟨_, List.mem_cons_self, hdelete, rfl⟩
  · rw [hnamed]
    simp [routeOf]

end App

end Trellis
