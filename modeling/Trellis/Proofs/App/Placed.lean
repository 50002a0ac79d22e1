import Trellis.Proofs.App.Setup
import Trellis.Proofs.Routing.Path
import Trellis.Proofs.Routing.Registry
/-!
What a registration does to the router.  At any time the router holds the registered routes, each for its method
and at the pattern that is read from its text.
-/

namespace Trellis

namespace App

variable {σ : Type}

/-- The route that a registration enters. -/
def routeOf (method : Method) (pattern : Pattern) (handler : Handler σ)
    (options : RouteOptions σ) (outer : List (Middleware σ)) : Route σ :=
  { method, pattern := pattern.raw, handler, schemas := options.schemas
    before := options.before, after := options.after
    middleware := outer ++ options.middleware }

/-- The application with one more route. -/
def withRoute (app : App σ) (router : Router (Route σ)) (route : Route σ) : App σ :=
  { app with
    router
    entries := app.entries ++ [route]
    generation := app.generation + 1 }

section Insert

variable (app : App σ) (method : Method) {path : String} (handler : Handler σ)
  (options : RouteOptions σ) (outer : List (Middleware σ))

theorem insertRoute_of_parse_error {fault : PatternError}
    (hparse : Pattern.parse path = .error fault) :
    let step := app.insertRoute method path handler options outer
    step.error = some (.pattern fault) ∧ step.app = app := by
  rw [insertRoute, hparse]
  exact ⟨rfl, rfl⟩

theorem insertRoute_of_insert_error {pattern : Pattern} {e : DuplicateRoute}
    (hparse : Pattern.parse path = .ok pattern)
    (hinsert : app.router.insert method pattern
      (routeOf method pattern handler options outer) = .error e) :
    let step := app.insertRoute method path handler options outer
    step.error = some (.duplicateRoute e) ∧ step.app = app := by
  rw [routeOf] at hinsert
  simp only [insertRoute, hparse, hinsert, and_self]

theorem insertRoute_of_insert {pattern : Pattern} {router : Router (Route σ)}
    (hparse : Pattern.parse path = .ok pattern)
    (hinsert : app.router.insert method pattern
      (routeOf method pattern handler options outer) = .ok router) :
    let step := app.insertRoute method path handler options outer
    step.error = none ∧
      step.app = app.withRoute router (routeOf method pattern handler options outer) := by
  rw [routeOf] at hinsert
  simp only [insertRoute, hparse, hinsert, withRoute, routeOf, and_self]

end Insert

end App

/-- There is a record of the calls that the router has accepted, one for each
registered route, for its method and at the pattern that is read from its text; and
the router and this record have a property. -/
def Routing.Recorded {σ : Type} (motive : Registry (Route σ) → Prop) (routing : Routing σ) :
    Prop :=
  ∃ accepted : List (Registration (Route σ)),
    motive ⟨routing.router, accepted⟩ ∧
    accepted.map (·.value) = routing.entries ∧
    ∀ c ∈ accepted, c.value.method = c.method ∧
      Pattern.parse c.value.pattern = .ok c.pattern

/-- The router holds the registered routes, each for its method and at the pattern
that is read from its text. -/
def Routing.Placed {σ : Type} (routing : Routing σ) : Prop :=
  ∃ accepted : List (Registration (Route σ)),
    (Registry.mk routing.router accepted).Valid ∧
    accepted.map (·.value) = routing.entries ∧
    ∀ c ∈ accepted, c.value.method = c.method ∧
      Pattern.parse c.value.pattern = .ok c.pattern

namespace App

variable {σ : Type}

section Recorded

variable {motive : Registry (Route σ) → Prop}

theorem new_recorded (hempty : motive Registry.empty) (config : AppConfig) :
    (new config : App σ).routing.Recorded motive :=
  ⟨[], hempty, rfl, fun _ hmem => absurd hmem List.not_mem_nil⟩

variable (haccept : ∀ (g : Registry (Route σ)) (c : Registration (Route σ))
  (grown : Router (Route σ)), motive g →
    g.router.insert c.method c.pattern c.value = .ok grown →
      motive ⟨grown, g.accepted ++ [c]⟩)

include haccept

theorem insertRoute_recorded (app : App σ) (method : Method) (path : String)
    (handler : Handler σ) (options : RouteOptions σ) (outer : List (Middleware σ))
    (hrecorded : app.routing.Recorded motive) :
    (app.insertRoute method path handler options outer).app.routing.Recorded motive := by
  cases hparse : Pattern.parse path with
  | error fault =>
      rw [(app.insertRoute_of_parse_error method handler options outer hparse).2]
      exact hrecorded
  | ok pattern =>
      cases hinsert : app.router.insert method pattern
          (routeOf method pattern handler options outer) with
      | error e =>
          rw [(app.insertRoute_of_insert_error method handler options outer hparse
            hinsert).2]
          exact hrecorded
      | ok router =>
          rw [(app.insertRoute_of_insert method handler options outer hparse hinsert).2]
          obtain ⟨accepted, hmotive, hentries, hread⟩ := hrecorded
          let call := Registration.mk method pattern
            (routeOf method pattern handler options outer)
          refine ⟨accepted ++ [call], haccept _ call router hmotive hinsert, ?_, ?_⟩
          · rw [List.map_append, hentries]
            rfl
          · intro c hmem
            rcases List.mem_append.mp hmem with hold | hnew
            · exact hread c hold
            · rw [List.mem_singleton.mp hnew]
              refine ⟨rfl, ?_⟩
              change Pattern.parse pattern.raw = .ok pattern
              rw [Pattern.raw_of_parse hparse, hparse]

/-- What a router has with its record is kept, if each accepted call keeps it. -/
theorem recorded_kept : Routing.Kept (Routing.Recorded motive) where
  insert := insertRoute_recorded haccept
  compile := by
    intro app hrecorded
    rcases app.compile_cases with ⟨-, happ, -⟩ | ⟨happ, -⟩ | ⟨happ, -⟩
    · rw [happ]
      exact hrecorded
    · rw [happ]
      exact hrecorded
    · rw [happ]
      exact hrecorded

end Recorded

theorem new_placed (config : AppConfig) : (new config : App σ).routing.Placed :=
  new_recorded Registry.empty_valid config

theorem placed_kept : Routing.Kept (Routing.Placed (σ := σ)) :=
  recorded_kept fun _ _ _ hvalid hinsert => hvalid.accept hinsert

end App

end Trellis
