import Trellis.Proofs.App.BasePath
import Trellis.Proofs.Routing.Boundary
/-!
What base paths and middleware for paths cover: a path and all that lies below it, and no path whose text
only begins in the same way.
-/

namespace Trellis

/-- The middleware for paths, where a given path is at or below theirs. -/
def Ledger.scopedOver {σ : Type} (ledger : Ledger σ) (path : String) :
    List (Middleware σ) :=
  ledger.filterMap fun
    | .useAt top m => if Path.AtOrBelow path top then some m else none
    | _ => none

theorem Ledger.map_filter_scopes {σ : Type} (ledger : Ledger σ) (path : String) :
    (ledger.scopes.filter fun scope => scope.1 <+: Path.split path).map (·.2) =
      ledger.scopedOver path := by
  induction ledger with
  | nil => rfl
  | cons entry rest ih =>
      unfold scopes scopedOver at ih ⊢
      cases entry with
      | useAt top m =>
          have hcovers : Path.split top <+: Path.split path ↔ Path.AtOrBelow path top :=
            Path.covers_iff.symm.trans Path.covers_split_iff
          by_cases hbelow : Path.AtOrBelow path top
          · simp [hcovers, hbelow, ih]
          · simp [hcovers, hbelow, ih]
      | use | onBefore | onAfter | route => simpa using ih

namespace App

variable {σ : Type}

theorem isSome_relative?_iff {app : App σ} {path : String} :
    (app.relative? (Path.split path)).isSome ↔
      Path.AtOrBelow path app.config.basePath := by
  rw [← Path.covers_split_iff, Path.covers_iff, Option.isSome_iff_ne_none, ne_eq,
    relative?_eq_none_iff, not_not]

/-- The segments below the base path are those of the path that user code
sees. -/
theorem split_path_of_matched {app : App σ} {request : Request} {route : Route σ}
    {segments : List String} {x : Exchange}
    (hmatched : app.matched request = .route route segments x) :
    Path.split x.path = segments := by
  obtain ⟨m, found, -, -, rfl, hpath⟩ := exists_found_of_matched hmatched
  exact Path.split_join (isSegment_of_below hpath)

end App

namespace Path

/-- Covering by segments is a test of the texts at a slash.  The segments are
compared one by one.  A path covers another one exactly if it is the root, they
have the same normal form, or that of the other begins with it and a slash; so of
two normal forms of which one begins with the other, the shorter covers the longer
exactly if a slash comes next.  The base path covers requests in this way, and
those that it does not cover have no route.  Around a route stands the middleware
for all requests, then that for the paths that the part of the request's path below
the base path is at or below, and then the route's own. -/
theorem covers_at_boundaries :
    (∀ top path : List String, covers top path =
      (decide (top.length ≤ path.length) &&
        (path.zip top).all fun pair => pair.1 == pair.2)) ∧
    (∀ top path : String, covers (split top) (split path) ↔
      normalize top = "/" ∨ normalize path = normalize top ∨
        (normalize top ++ "/").toList <+: (normalize path).toList) ∧
    (∀ top path c rest, normalize top ≠ "/" →
      (normalize path).toList = (normalize top).toList ++ c :: rest →
        (covers (split top) (split path) ↔ c = '/')) ∧
    ∀ (σ : Type) (config : AppConfig) (setup : Setup σ) (request : Request),
      let app := (setup.run (App.new config)).app
      let ledger := setup.ledger (App.new config)
      ((app.relative? (split request.path)).isSome ↔
        AtOrBelow request.path config.basePath) ∧
      (¬ AtOrBelow request.path config.basePath →
        ∃ x, app.matched request = .nothing [] x) ∧
      ∀ route segments x, app.matched request = .route route segments x →
        split request.path = split config.basePath ++ split x.path ∧
        app.chainFor route segments =
          ledger.middleware ++ ledger.scopedOver x.path ++ route.middleware := by
  refine ⟨covers_eq_all_zip, fun top path => covers_split_iff, ?_, ?_⟩
  · intro top path c rest hroot htext
    rw [covers_split_iff]
    exact atOrBelow_iff_slash hroot htext
  · intro σ config setup request app ledger
    have hgrown : (App.new config).Grown app ledger := setup.run_grown (App.new config)
    have hconfig : app.config = config := hgrown.config
    have hbase : (app.relative? (split request.path)).isSome ↔
        AtOrBelow request.path config.basePath := by
      rw [App.isSome_relative?_iff, hconfig]
    refine ⟨hbase, ?_, ?_⟩
    · intro houtside
      rw [← hbase, App.isSome_relative?_iff, ← covers_split_iff, covers_iff] at houtside
      exact ⟨_, App.matched_of_outside houtside⟩
    · intro route segments x hmatched
      obtain ⟨m, found, -, -, -, hpath⟩ := App.exists_found_of_matched hmatched
      rw [App.chainFor_of_grown hgrown, hpath, hconfig,
        ← App.split_path_of_matched hmatched, Ledger.map_filter_scopes]
      exact ⟨rfl, rfl⟩

/-- Middleware at `/api` in an application below `/v1`: it is around the route
below `/api`, and not around the one at `/apix`. -/
theorem covers_at_boundaries_api :
    let gate : Middleware Unit := ⟨"gate", fun _ m =>
      ⟨[], m.own, .ok fun m => ⟨[], m.own, .done (.answer (Response.bare 403))⟩⟩⟩
    let reply : Handler Unit := fun m =>
      ⟨[], m.own, .ok fun m => ⟨[], m.own, .done .nothing⟩⟩
    let config := { AppConfig.standard with basePath := "/v1/" }
    let setup : Setup Unit := .useAt "//api" gate
      (.route .get "/api/users" reply RouteOptions.none fun _ =>
        .route .get "/apix" reply RouteOptions.none fun _ => .finish none)
    let app := (setup.run (App.new config)).app
    covers (split "//api") (split "/apix/") = false ∧
      (∃ route segments x,
        app.matched (Request.new "GET" "/v1//api/users") = .route route segments x ∧
        app.chainFor route segments = [gate]) ∧
      (∃ route segments x,
        app.matched (Request.new "GET" "/v1/apix") = .route route segments x ∧
        app.chainFor route segments = []) ∧
      ∃ x, app.matched (Request.new "GET" "/v1x/api/users") = .nothing [] x := by
  intro gate reply config setup app
  have hmethod : Method.ofRequest? "GET" = some .get := by decide +kernel
  have husers : Pattern.parse "/api/users" =
      .ok ⟨"/api/users", [.literal "api", .literal "users"]⟩ := rfl
  have hapix : Pattern.parse "/apix" = .ok ⟨"/apix", [.literal "apix"]⟩ := rfl
  have hpath : split (Request.new "GET" "/v1//api/users").path =
      split "/v1/" ++ ["api", "users"] := rfl
  have hsibling : split (Request.new "GET" "/v1/apix").path =
      split "/v1/" ++ ["apix"] := rfl
  obtain ⟨-, -, hslash, hserving⟩ := covers_at_boundaries
  have hlonger : ¬ covers (split "//api") (split "/apix/") := by
    rw [hslash "//api" "/apix/" 'x' [] (by decide) rfl]
    decide
  obtain ⟨first, second, hledger⟩ : ∃ first second, setup.ledger (App.new config) =
      [.useAt "//api" gate, .route first, .route second] := by
    simp only [setup, Setup.ledger, App.route, App.insertRoute, husers, hapix]
    exact ⟨_, _, rfl⟩
  obtain ⟨hbase, ⟨users, hfound, hnone⟩, apix, hother, hempty⟩ :
      app.config.basePath = "/v1/" ∧
        (∃ found, app.resolve .get ["api", "users"] = .found found ∧
          found.value.middleware = []) ∧
        ∃ found, app.resolve .get ["apix"] = .found found ∧
          found.value.middleware = [] := by
    simp only [app, setup, Setup.run, App.route, App.insertRoute, husers, hapix]
    exact ⟨rfl, ⟨_, rfl, rfl⟩, _, rfl, rfl⟩
  rw [← hbase] at hpath hsibling
  have hmatched := App.matched_of_resolve hmethod hpath hfound
  have hmatchedOther := App.matched_of_resolve hmethod hsibling hother
  refine ⟨Bool.eq_false_iff.mpr hlonger, ⟨_, _, _, hmatched, ?_⟩,
    ⟨_, _, _, hmatchedOther, ?_⟩, ?_⟩
  · have hchain := ((hserving Unit config setup _).2.2 _ _ _ hmatched).2
    have hbelow : AtOrBelow (join ["api", "users"]) "//api" := by decide
    rw [hnone, hledger] at hchain
    simpa [Ledger.middleware, Ledger.scopedOver, App.exchange, hbelow] using hchain
  · have hchain := ((hserving Unit config setup _).2.2 _ _ _ hmatchedOther).2
    have hbeside : ¬ AtOrBelow (join ["apix"]) "//api" := by decide
    rw [hempty, hledger] at hchain
    simpa [Ledger.middleware, Ledger.scopedOver, App.exchange, hbeside] using hchain
  · exact (hserving Unit config setup _).2.1 (by decide)

end Path

end Trellis
