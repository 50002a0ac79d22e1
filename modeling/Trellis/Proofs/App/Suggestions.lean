import Trellis.Proofs.App.Unmatched
import Trellis.Proofs.Routing.Listing
import Trellis.Proofs.Routing.Suggest
/-!
Suggestions in the answer to a path that is not known.  While developing they are the nearest canonical paths of
the registered static routes, and at each of them a static route is found.
-/

namespace Trellis

/-- A route is registered without parameter and wildcard, at this canonical path. -/
def Route.IsStaticAt {σ : Type} (route : Route σ) (path : String) : Prop :=
  ∃ pattern, Pattern.parse route.pattern = .ok pattern ∧ pattern.isStatic ∧
    pattern.canonical = path

theorem Route.isStaticAt_iff {σ : Type} {route : Route σ} {pattern : Pattern}
    (hparse : Pattern.parse route.pattern = .ok pattern) {path : String} :
    route.IsStaticAt path ↔ pattern.isStatic ∧ pattern.canonical = path := by
  simp [IsStaticAt, hparse]

namespace App

variable {σ : Type}

theorem new_gathered (config : AppConfig) :
    (new config : App σ).routing.Recorded Registry.Gathered :=
  new_recorded Registry.empty_gathered config

theorem gathered_kept : Routing.Kept (σ := σ) (Routing.Recorded Registry.Gathered) :=
  recorded_kept fun _ _ _ hgathered hinsert => hgathered.accept hinsert

/-- The paths among which suggestions are looked for. -/
def candidates (app : App σ) : List String :=
  (app.routes.filter fun route => route.2.isStatic).map fun route => route.2.canonical

theorem suggestions_eq (app : App σ) (path : String) :
    app.suggestions path =
      if app.config.mode.isDevelopment then Suggest.suggest path app.candidates else [] := rfl

section Gathered

variable {app : App σ} (hgathered : app.routing.Recorded Registry.Gathered)

include hgathered

theorem mem_candidates_iff (path : String) :
    path ∈ app.candidates ↔ ∃ route ∈ app.entries, route.IsStaticAt path := by
  obtain ⟨accepted, hrecord, (hentries : accepted.map (·.value) = app.entries), hread⟩ :=
    hgathered
  have hparsed : (Registry.mk app.router accepted).Parsed :=
    fun c hc => ⟨_, (hread c hc).2⟩
  have hlisted : ∀ route, route ∈ app.routes ↔ route ∈ accepted.map Registration.key :=
    fun route => (hrecord.listing hparsed (List.Perm.refl _)).1.mem_iff
  rw [candidates, List.mem_map]
  constructor
  · rintro ⟨route, hroute, rfl⟩
    obtain ⟨hmem, hstatic⟩ := List.mem_filter.mp hroute
    obtain ⟨c, hc, rfl⟩ := List.mem_map.mp ((hlisted route).mp hmem)
    refine ⟨c.value, hentries ▸ List.mem_map_of_mem hc, ?_⟩
    exact (Route.isStaticAt_iff (hread c hc).2).mpr ⟨hstatic, rfl⟩
  · rintro ⟨route, hroute, hat⟩
    rw [← hentries] at hroute
    obtain ⟨c, hc, rfl⟩ := List.mem_map.mp hroute
    obtain ⟨hstatic, rfl⟩ := (Route.isStaticAt_iff (hread c hc).2).mp hat
    exact ⟨c.key, List.mem_filter.mpr ⟨(hlisted _).mpr (List.mem_map_of_mem hc), hstatic⟩, rfl⟩

/-- At the canonical path of a static route such a route is found, with a method that
a request can have. -/
theorem exists_found_of_isStaticAt {path : String}
    (hroute : ∃ route ∈ app.entries, route.IsStaticAt path) :
    ∃ m found, m ≠ .any ∧ app.router.resolve m path = .found found ∧
      found.value ∈ app.entries ∧ found.value.IsStaticAt path ∧
      Pattern.parse found.value.pattern = .ok found.pattern := by
  obtain ⟨accepted, hrecord, (hentries : accepted.map (·.value) = app.entries), hread⟩ :=
    hgathered
  obtain ⟨route, hmem, hat⟩ := hroute
  rw [← hentries] at hmem
  obtain ⟨c, hc, rfl⟩ := List.mem_map.mp hmem
  obtain ⟨hstatic, rfl⟩ := (Route.isStaticAt_iff (hread c hc).2).mp hat
  have hparsed : (Registry.mk app.router accepted).Parsed :=
    fun other hother => ⟨_, (hread other hother).2⟩
  obtain ⟨m, hm, hserves⟩ : ∃ m, m ≠ .any ∧ c.Serves m := by
    by_cases hany : c.method = .any
    · exact ⟨.get, by decide, Or.inr hany⟩
    · exact ⟨c.method, hany, Or.inl rfl⟩
  obtain ⟨other, hother, hotherStatic, hcanonical, hfound⟩ :=
    hrecord.valid.resolve_canonical hparsed hc hstatic hserves
  have hown := (hread other hother).2
  refine ⟨m, _, hm, hfound, ?_, ⟨other.pattern, hown, hotherStatic, hcanonical⟩, hown⟩
  exact hentries ▸ List.mem_map_of_mem hother

end Gathered

/-- The body of the answer names the path, and the suggestions if there are any. -/
theorem notFoundResponse_fields (path : String) (names : List String) :
    ∃ value : Json, (notFoundResponse path names).body = Utf8.encode value.compact ∧
      value.field? "path" = some (.string path) ∧
      value.field? "suggestions" =
        if names = [] then none else some (Json.strings names) := by
  refine ⟨_, rfl, ?_, ?_⟩
  · split <;> simp [Json.ofFields, Json.field?, KeyMap.ofList, KeyMap.get?_insert]
  · split <;> simp [Json.ofFields, Json.field?, KeyMap.ofList, KeyMap.get?_insert]

/-- Suggestions are the nearest servable routes.  The distance of two texts is the
least number of edits of one character.  Suggested for a path are the first three, by
distance and text, of the candidates near it, whatever their order and repetitions.
A request without a route that is answered by default as not found gets no
suggestions in production; while developing it gets those for the reported path among
the canonical paths of the registered static routes; and each is another path, at
which a registered static route of this canonical form is found with some method. -/
theorem suggestions_nearest (config : AppConfig) (setup : Setup σ) :
    (∀ first second : List Char,
      Suggest.LeastEdits (Suggest.distance first second) first second) ∧
    (∀ (path : String) (candidates : List String),
      (∃ ranked, Suggest.Ranks path candidates ranked ∧
        Suggest.suggest path candidates = ranked.take 3) ∧
      ∀ others : List String, (∀ s, s ∈ others ↔ s ∈ candidates) →
        Suggest.suggest path others = Suggest.suggest path candidates) ∧
    let app := (setup.run (new config)).app
    ∀ (request : Request) (own : σ) (allowed : List Method) (x : Exchange),
      app.hooks.notFound = none → app.matched request = .nothing allowed x →
      ¬ (app.config.strictMethods ∧ allowed ≠ []) →
      ∃ response, ∃ value : Json, ∃ names : List String,
        (app.handle request own).1 = .response response ∧ response.status = 404 ∧
        response.body = Utf8.encode value.compact ∧
        value.field? "path" = some (.string x.path) ∧
        value.field? "suggestions" =
          (if names = [] then none else some (Json.strings names)) ∧
        (app.config.mode = .production → names = []) ∧
        (app.config.mode = .development → ∃ candidates,
          (∀ s, s ∈ candidates ↔ ∃ route ∈ app.entries, route.IsStaticAt s) ∧
          names = Suggest.suggest x.path candidates) ∧
        ∀ s ∈ names, s ≠ x.path ∧ ∃ m found, m ≠ .any ∧
          app.router.resolve m s = .found found ∧ found.value ∈ app.entries ∧
          found.value.IsStaticAt s ∧
          Pattern.parse found.value.pattern = .ok found.pattern := by
  refine ⟨Suggest.leastEdits_distance, fun path candidates =>
    ⟨Suggest.exists_ranks path candidates, fun others => Suggest.suggest_congr path⟩, ?_⟩
  intro app request own allowed x hhook hmatched hunnamed
  have hgathered : app.routing.Recorded Registry.Gathered :=
    gathered_kept.setup setup (new config) (new_gathered config)
  have hanswer : app.defaultNotFound x.path allowed =
      notFoundResponse x.path (app.suggestions x.path) := by
    rw [defaultNotFound, if_neg (by simpa using hunnamed)]
  obtain ⟨value, hbody, hpath, hnames⟩ :=
    notFoundResponse_fields x.path (app.suggestions x.path)
  refine ⟨_, value, app.suggestions x.path, handle_of_unmatched hhook hmatched own, ?_,
    hanswer ▸ hbody, hpath, hnames, ?_, ?_, ?_⟩
  · rw [status_defaultNotFound, if_neg hunnamed]
  · intro hmode
    rw [suggestions_eq, hmode]
    rfl
  · intro hmode
    refine ⟨app.candidates, mem_candidates_iff hgathered, ?_⟩
    rw [suggestions_eq, hmode]
    rfl
  · intro s hs
    rw [suggestions_eq] at hs
    split at hs
    · obtain ⟨hcandidate, hne⟩ := Suggest.mem_of_mem_suggest hs
      exact ⟨hne, exists_found_of_isStaticAt hgathered
        ((mem_candidates_iff hgathered s).mp hcandidate)⟩
    · exact absurd hs List.not_mem_nil

/-- A path of which a character is missing, with two routes that write the path in two
ways. -/
theorem suggestions_nearest_users :
    let reply : Handler Unit := fun m =>
      ⟨[], m.own, .ok fun m => ⟨[], m.own, .done .nothing⟩⟩
    let setup : Setup Unit :=
      .route .get "/users/" reply RouteOptions.none fun _ =>
        .route .post "/users//" reply RouteOptions.none fun _ => .finish none
    let app := (setup.run (new AppConfig.standard)).app
    ∃ response, ∃ value : Json,
      (app.handle (Request.new "GET" "/user") ()).1 = .response response ∧
      response.status = 404 ∧ response.body = Utf8.encode value.compact ∧
      value.field? "suggestions" = some (Json.strings ["/users"]) ∧
      ∃ m found, app.router.resolve m "/users" = .found found ∧
        found.value ∈ app.entries := by
  intro reply setup app
  have hget : Pattern.parse "/users/" = .ok ⟨"/users/", [.literal "users"]⟩ := rfl
  have hpost : Pattern.parse "/users//" = .ok ⟨"/users//", [.literal "users"]⟩ := rfl
  have hmethod : Method.ofRequest? "GET" = some .get := by decide +kernel
  obtain ⟨hbase, hmode, hhook, hresolve, hentries⟩ : app.config.basePath = "" ∧
      app.config.mode = .development ∧ app.hooks.notFound = none ∧
      app.resolve .get ["user"] = .notFound ∧
      app.entries =
        [routeOf .get ⟨"/users/", [.literal "users"]⟩ reply RouteOptions.none [],
          routeOf .post ⟨"/users//", [.literal "users"]⟩ reply RouteOptions.none []] := by
    simp only [app, setup, Setup.run, App.route, insertRoute, hget, hpost]
    exact ⟨rfl, rfl, rfl, rfl, rfl⟩
  have hpath : Path.split (Request.new "GET" "/user").path =
      Path.split app.config.basePath ++ ["user"] := by
    rw [hbase]
    rfl
  have hmatched : app.matched (Request.new "GET" "/user") = .nothing []
      (app.exchange (Request.new "GET" "/user") (Path.join ["user"]) none Params.empty) := by
    rw [matched, resolution_of_below hmethod hpath, hresolve, segmentsOf,
      relative?_eq_some_iff.mpr hpath]
    rfl
  obtain ⟨-, hsuggest, hanswer⟩ := suggestions_nearest AppConfig.standard setup
  obtain ⟨response, value, names, hserved, hstatus, hbody, -, hfield, -, hnearest, hfound⟩ :=
    hanswer _ () [] _ hhook hmatched (by simp)
  obtain ⟨candidates, hcandidates, hnames⟩ := hnearest hmode
  have hsame : ∀ s, s ∈ candidates ↔ s ∈ ["/users"] := by
    intro s
    have hone : Pattern.canonical ⟨"/users/", [.literal "users"]⟩ = "/users" := rfl
    have htwo : Pattern.canonical ⟨"/users//", [.literal "users"]⟩ = "/users" := rfl
    rw [hcandidates, hentries, List.exists_mem_cons_iff, List.exists_mem_cons_iff,
      Route.isStaticAt_iff hget, Route.isStaticAt_iff hpost, List.mem_singleton]
    simp [Pattern.isStatic, Segment.isLiteral, hone, htwo, eq_comm]
  have hexact : names = ["/users"] := by
    rw [hnames, (hsuggest _ ["/users"]).2 candidates hsame]
    have hnear : Suggest.near "/user" ["/users"] = [(1, "/users")] := by decide +kernel
    change Suggest.suggest "/user" ["/users"] = ["/users"]
    rw [Suggest.suggest_eq, hnear, List.mergeSort_singleton]
    simp [Suggest.dropRepeats]
  subst hexact
  obtain ⟨-, m, found, -, hresolved, hmem, -⟩ := hfound "/users" List.mem_cons_self
  exact ⟨response, value, hserved, hstatus, hbody, hfield, m, found, hresolved, hmem⟩

end App

end Trellis
