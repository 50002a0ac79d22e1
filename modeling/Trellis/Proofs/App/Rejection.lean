import Trellis.Proofs.App.Matched
import Trellis.Proofs.Routing.InPlace
/-!
When a registration is rejected, and what is left of it.  It is rejected exactly if its pattern is not read, or if
its method has an accepted route on a pattern of the same shape, and then nothing is left of it.
-/

namespace Trellis

/-- A declared route is for a method, at a pattern of a shape. -/
def DeclaredRoute.Occupies {σ : Type} (declared : DeclaredRoute σ) (m : Method)
    (path : Shape) : Prop :=
  declared.method = m ∧
    ∃ p, Pattern.parse declared.pattern = .ok p ∧ p.shape = path

namespace App

variable {σ : Type}

section InPlace

variable (app : App σ) (method : Method) (path : String) (handler : Handler σ)
  (options : RouteOptions σ) (outer : List (Middleware σ))

/-- Register a route as it is done in place.  A router that rejects the route is
kept with what was done to it until then. -/
def enterRoute : App σ × Option Error :=
  match Pattern.parse path with
  | .error e => (app, some (.pattern e))
  | .ok pattern =>
    let route := routeOf method pattern handler options outer
    match app.router.enter method pattern route with
    | (router, some e) => ({ app with router }, some (.duplicateRoute e))
    | (router, none) => (app.withRoute router route, none)

/-- Registration in place gives the application and the error of a registration. -/
theorem enterRoute_eq :
    app.enterRoute method path handler options outer =
      let step := app.insertRoute method path handler options outer
      (step.app, step.error) := by
  cases hparse : Pattern.parse path with
  | error fault =>
      obtain ⟨herror, happ⟩ :=
        app.insertRoute_of_parse_error method handler options outer hparse
      simp only [enterRoute, hparse, herror, happ]
  | ok pattern =>
      simp only [enterRoute, hparse, Router.enter_eq]
      cases hinsert : app.router.insert method pattern
          (routeOf method pattern handler options outer) with
      | error e =>
          obtain ⟨herror, happ⟩ :=
            app.insertRoute_of_insert_error method handler options outer hparse hinsert
          simp only [herror, happ]
      | ok router =>
          obtain ⟨herror, happ⟩ :=
            app.insertRoute_of_insert method handler options outer hparse hinsert
          simp only [herror, happ]

end InPlace

/-- After a setup a method and a shape are taken if a route was declared for
them. -/
theorem taken_iff_occupies (config : AppConfig) (setup : Setup σ) :
    let app := (setup.run (new config)).app
    ∃ accepted, (Registry.mk app.router accepted).Valid ∧
      ∀ m path, (Registry.mk app.router accepted).Taken m path ↔
        ∃ declared ∈ (setup.ledger (new config)).routes, declared.Occupies m path := by
  intro app
  obtain ⟨accepted, hvalid, hentries, hread⟩ :=
    placed_kept.setup setup (new config) (new_placed config)
  obtain ⟨added, hadded, hgives⟩ := (setup.run_grown (new config)).routes
  have hvalues : accepted.map (·.value) = added := hentries.trans hadded
  refine ⟨accepted, hvalid, fun m path => ⟨?_, ?_⟩⟩
  · rintro ⟨old, hold, rfl, rfl⟩
    have hmem : old.value ∈ added := hvalues ▸ List.mem_map_of_mem hold
    obtain ⟨d, hd, hgiven⟩ := exists_related_of_mem hgives hmem
    obtain ⟨hmethod, hparse⟩ := hread old hold
    refine ⟨d, hd, hgiven.method.symm.trans hmethod, old.pattern, ?_, rfl⟩
    rw [← hgiven.pattern, hparse]
  · rintro ⟨d, hd, rfl, p, hp, rfl⟩
    have hgiving : List.Forall₂ (flip DeclaredRoute.Gives) added _ := hgives.flip
    obtain ⟨route, hroute, hgiven⟩ := exists_related_of_mem hgiving hd
    rw [← hvalues] at hroute
    obtain ⟨old, hold, rfl⟩ := List.mem_map.mp hroute
    obtain ⟨hmethod, hparse⟩ := hread old hold
    have hpattern : old.pattern = p := by
      rw [hgiven.pattern, hp] at hparse
      exact (Except.ok.inj hparse).symm
    exact ⟨old, hold, hmethod.symm.trans hgiven.method, by rw [hpattern]⟩

/-- Duplicates are rejected exactly, and a rejected registration leaves nothing.
A call on a router is rejected if the router has accepted one for the same
method and shape, and accepted otherwise; so is the registration of a pattern
that is read, after any setup of a new application, by the routes that were
declared in the setup.  What is rejected leaves the router and the application
as they were, also if the nodes along the pattern are made before it is seen
that it is rejected. -/
theorem registration_exact {α σ : Type} :
    (∀ (calls : List (Registration α)) (c : Registration α),
      let g := Registry.run calls
      (g.Taken c.method c.pattern.shape →
        g.router.insert c.method c.pattern c.value = .error ⟨c.method, c.pattern.raw⟩ ∧
        g.router.enter c.method c.pattern c.value =
          (g.router, some ⟨c.method, c.pattern.raw⟩) ∧
        ∀ later, Registry.run (calls ++ c :: later) = Registry.run (calls ++ later)) ∧
      (¬ g.Taken c.method c.pattern.shape →
        ∃ grown, g.router.insert c.method c.pattern c.value = .ok grown ∧
          g.router.enter c.method c.pattern c.value = (grown, none) ∧
          g.attempt c = ⟨grown, g.accepted ++ [c]⟩)) ∧
    ∀ (config : AppConfig) (setup : Setup σ) (method : Method) (path : String)
      (handler : Handler σ) (options : RouteOptions σ) (outer : List (Middleware σ)),
      let app := (setup.run (new config)).app
      let step := app.insertRoute method path handler options outer
      (∀ fault, Pattern.parse path = .error fault →
        step.error = some (.pattern fault) ∧ step.app = app) ∧
      (∀ pattern, Pattern.parse path = .ok pattern →
        let taken := ∃ declared ∈ (setup.ledger (new config)).routes,
          declared.Occupies method pattern.shape
        (taken → step.error = some (.duplicateRoute ⟨method, path⟩) ∧ step.app = app) ∧
        (¬ taken → step.error = none ∧ ∃ router, step.app =
          app.withRoute router (routeOf method pattern handler options outer))) ∧
      app.enterRoute method path handler options outer = (step.app, step.error) := by
  refine ⟨?_, ?_⟩
  · intro calls c g
    have hvalid : g.Valid := Registry.run_valid calls
    constructor
    · intro htaken
      have hinsert := hvalid.insert_of_taken htaken c.value
      have hattempt : g.attempt c = g := by rw [Registry.attempt, hinsert]
      refine ⟨hinsert, by rw [Router.enter_eq, hinsert], fun later => ?_⟩
      rw [Registry.run_append, Registry.run_append, List.foldl_cons, hattempt]
    · intro hfree
      obtain ⟨grown, hinsert⟩ := hvalid.exists_insert hfree c.value
      exact ⟨grown, hinsert, by rw [Router.enter_eq, hinsert],
        by rw [Registry.attempt, hinsert]⟩
  · intro config setup method path handler options outer app step
    obtain ⟨accepted, hvalid, htaken⟩ := taken_iff_occupies config setup
    refine ⟨?_, ?_, app.enterRoute_eq method path handler options outer⟩
    · intro fault hparse
      exact app.insertRoute_of_parse_error method handler options outer hparse
    · intro pattern hparse taken
      have hraw := Pattern.raw_of_parse hparse
      constructor
      · intro hdeclared
        have hinsert := hvalid.insert_of_taken ((htaken _ _).mpr hdeclared)
          (routeOf method pattern handler options outer)
        rw [hraw] at hinsert
        exact app.insertRoute_of_insert_error method handler options outer hparse hinsert
      · intro hfree
        obtain ⟨router, hinsert⟩ := hvalid.exists_insert
          (fun htake => hfree ((htaken _ _).mp htake))
          (routeOf method pattern handler options outer)
        obtain ⟨herror, happ⟩ :=
          app.insertRoute_of_insert method handler options outer hparse hinsert
        exact ⟨herror, router, happ⟩

/-- A route with a parameter, once more under another name, for another method, and
without a slash. -/
theorem registration_exact_users :
    let reply : Handler Unit := fun m =>
      ⟨[], m.own, .ok fun m => ⟨[], m.own, .done .nothing⟩⟩
    let setup : Setup Unit :=
      .route .get "/users/:id" reply RouteOptions.none fun _ => .finish none
    let app := (setup.run (new AppConfig.standard)).app
    let again := app.insertRoute .get "/users/:name" reply RouteOptions.none []
    let other := app.insertRoute .post "/users/:name" reply RouteOptions.none []
    let bare := app.insertRoute .get "users" reply RouteOptions.none []
    let first : Registration Nat :=
      ⟨.get, ⟨"/users/:id", [.literal "users", .param "id"]⟩, 1⟩
    let second : Registration Nat :=
      ⟨.get, ⟨"/users/:name", [.literal "users", .param "name"]⟩, 2⟩
    (again.error = some (.duplicateRoute ⟨.get, "/users/:name"⟩) ∧ again.app = app) ∧
      app.enterRoute .get "/users/:name" reply RouteOptions.none [] = (app, again.error) ∧
      other.error = none ∧
      (bare.error = some (.pattern (.notAbsolute "users")) ∧ bare.app = app) ∧
      Registry.run [first, second] = Registry.run [first] := by
  intro reply setup app again other bare first second
  have hid : Pattern.parse "/users/:id" =
      .ok ⟨"/users/:id", [.literal "users", .param "id"]⟩ := rfl
  have hname : Pattern.parse "/users/:name" =
      .ok ⟨"/users/:name", [.literal "users", .param "name"]⟩ := rfl
  have hbare : Pattern.parse "users" = .error (.notAbsolute "users") := rfl
  have hroutes : (setup.ledger (new AppConfig.standard)).routes =
      [⟨[], .get, "/users/:id", reply, RouteOptions.none⟩] := by
    simp only [setup, Setup.ledger, App.route, insertRoute, hid]
    rfl
  have htaken : ∃ declared ∈ (setup.ledger (new AppConfig.standard)).routes,
      declared.Occupies .get [.literal "users", .param] := by
    rw [hroutes]
    exact ⟨_, List.mem_singleton_self _, rfl, _, hid, rfl⟩
  have hfree : ¬ ∃ declared ∈ (setup.ledger (new AppConfig.standard)).routes,
      declared.Occupies .post [.literal "users", .param] := by
    rw [hroutes]
    rintro ⟨declared, hdeclared, hmethod, -⟩
    rw [List.mem_singleton.mp hdeclared] at hmethod
    contradiction
  have hsecond : (Registry.run [first]).Taken .get [.literal "users", .param] :=
    ⟨first, List.mem_singleton_self first, rfl, rfl⟩
  obtain ⟨hrouters, happs⟩ := registration_exact (α := Nat) (σ := Unit)
  have hregister := happs AppConfig.standard setup
  obtain ⟨-, hread, hplace⟩ := hregister .get "/users/:name" reply RouteOptions.none []
  have hagain := (hread _ hname).1 htaken
  obtain ⟨-, hpost, -⟩ := hregister .post "/users/:name" reply RouteOptions.none []
  obtain ⟨hunread, -, -⟩ := hregister .get "users" reply RouteOptions.none []
  refine ⟨hagain, ?_, ((hpost _ hname).2 hfree).1, hunread _ hbare, ?_⟩
  · exact hplace.trans (by rw [hagain.2])
  · exact ((hrouters [first] second).1 hsecond).2.2 []

end App

end Trellis
